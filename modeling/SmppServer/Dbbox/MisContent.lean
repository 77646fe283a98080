import Mathlib.Data.List.TakeWhile
import SmppServer.Dbbox.Dnd
import SmppServer.Gwlib.Charset
import SmppServer.Machinery.Layout
import SmppServer.Smsc.Filing

/-!
# Dbbox/MisContent — the content of the MIS table

The database process decodes the content of every `insert_mis` message from the GSM alphabet.  The SMSC
process encodes a message only when it is written to an SMSC with an alternative character set, and only
from then on; the ESME process records what it rejects as it came.

* `misContent_iff` — the row has the submitted text **exactly** if the message had been encoded before
  its first record, or its text has none of the twelve characters that decoding changes.
-/

namespace SmppServer.SmppDbbox

open Machinery SmppEsme SmppSmsc

/-! ## The row

The content of a message without a header is decoded, whether or not it was ever encoded. -/

/-- `handle_request` on an `insert_mis` message, with `dlr_mysql_mis_add`: the content of the row, which
is inserted as a C string. -/
def misContent (text : TextLib) (esmClass : ℤ) (msgContent : Option Octstr) : Octstr :=
  let content :=
    if esmClass.toNat.testBit 6 then msgContent.map fun m => (text.binaryMsgToAscii m).2 else msgContent
  cstr (octstrGetCstr (content.map charsetGsmToLatin1))

/-- A text without a header is decoded, and has no `NUL` then. -/
theorem misContent_of_text {esmClass : ℤ} (hudh : hasUdhIndicator esmClass = false) (text : TextLib)
    (s : Octstr) : misContent text esmClass (some s) = charsetGsmToLatin1 s := by
  have hnul : ∀ c ∈ charsetGsmToLatin1 s, decide (c ≠ 0) = true := fun c hc =>
    decide_eq_true fun h => zero_notMem_charsetGsmToLatin1 s (h ▸ hc)
  rw [hasUdhIndicator] at hudh
  simp only [misContent, hudh, Bool.false_eq_true, if_false, Option.map_some, octstrGetCstr,
    Option.getD_some, cstr]
  exact List.takeWhile_eq_self_iff.2 hnul

/-! ## A `submit_sm` on the wire

Packing and unpacking are parameters of the SMSC process, and the theorem asks of them that a `submit_sm` comes
out as it went in.  Here is one that does: the fields in their order, numbers in network order, texts up to a
`NUL`, and the octets of the message at the end. -/

/-- The mandatory fields of a `submit_sm`, up to the length of its message. -/
def submitSmFields : List Field :=
  [.fixed 4, .fixed 4, .fixed 4, .terminated, .fixed 1, .fixed 1, .terminated, .fixed 1, .fixed 1,
    .terminated, .fixed 1, .fixed 1, .fixed 1, .terminated, .terminated, .fixed 1, .fixed 1, .fixed 1,
    .fixed 1, .fixed 1]

/-- A number in so many octets, the highest first. -/
def wireNumber (width : ℕ) (n : ℤ) : Octstr :=
  (List.range width).map fun i => (n / 256 ^ (width - 1 - i) % 256).toNat.toUInt8

def wireText (s : Option Octstr) : Octstr := cstr (s.getD [])

/-- The values of the fields; those the server does not use are empty or zero. -/
def submitSmValues (pdu : SmppSmsc.SubmitSm) : List Octstr :=
  [wireNumber 4 4, wireNumber 4 0, wireNumber 4 pdu.sequenceNumber, wireText pdu.serviceType,
    wireNumber 1 pdu.sourceAddrTon, wireNumber 1 pdu.sourceAddrNpi, wireText pdu.sourceAddr,
    wireNumber 1 pdu.destAddrTon, wireNumber 1 pdu.destAddrNpi, wireText pdu.destinationAddr,
    wireNumber 1 pdu.esmClass, [0], wireNumber 1 pdu.priorityFlag, [], [],
    wireNumber 1 pdu.registeredDelivery, [0], wireNumber 1 pdu.dataCoding, [0],
    wireNumber 1 (pdu.shortMessage.getD []).length]

/-- The octet of a field of width one. -/
def fieldOctet (values : List Octstr) (k : ℕ) : ℕ := ((values.getD k []).headD 0).toNat

def fieldText (values : List Octstr) (k : ℕ) : Option Octstr :=
  if values.getD k [] = [] then none else some (values.getD k [])

/-- What the fields and the octets behind them say. -/
def submitSmOf (values : List Octstr) (rest : Octstr) : SmppSmsc.SubmitSm where
  sequenceNumber := (values.getD 2 []).foldl (fun n c => n * 256 + c.toNat) 0
  serviceType := fieldText values 3
  sourceAddrTon := fieldOctet values 4
  sourceAddrNpi := fieldOctet values 5
  sourceAddr := fieldText values 6
  destAddrTon := fieldOctet values 7
  destAddrNpi := fieldOctet values 8
  destinationAddr := fieldText values 9
  esmClass := fieldOctet values 10
  priorityFlag := fieldOctet values 12
  registeredDelivery := fieldOctet values 15
  dataCoding := fieldOctet values 17
  smLength := fieldOctet values 19
  moreMessagesToSend := -1
  shortMessage := some (rest.take (fieldOctet values 19))

/-- Packing and unpacking of a `submit_sm`; no other PDU is sent. -/
def submitSmGwlib : Gwlib where
  doesPrefixMatch := sampleGwlib.doesPrefixMatch
  gwRegexMatchPre := sampleGwlib.gwRegexMatchPre
  smppPduPack pdu :=
    if pdu.isSubmitSm then
      some (writeFields 0 submitSmFields (submitSmValues pdu.submitSm) ++
        pdu.submitSm.shortMessage.getD [])
    else none
  smppPduUnpack packed :=
    (readFields 0 submitSmFields packed).bind fun (values, rest) =>
      if values.getD 0 [] = wireNumber 4 4 then some ⟨true, submitSmOf values rest⟩ else none
  charsetLatin1ToGsm := charsetLatin1ToGsm
  charsetLatin1ToGsmNew := charsetLatin1ToGsmNew
  octstrIsnum := sampleGwlib.octstrIsnum

theorem length_wireNumber (width : ℕ) (n : ℤ) : (wireNumber width n).length = width := by
  simp [wireNumber]

theorem zero_notMem_wireText (s : Option Octstr) : 0 ∉ wireText s := by
  intro h
  simpa using List.mem_takeWhile_imp h

/-- An octet is read as it was written. -/
theorem wireNumber_one {n : ℤ} (hlow : 0 ≤ n) (hhigh : n < 256) :
    (((wireNumber 1 n).headD 0).toNat : ℤ) = n := by
  have hoctet : n.toNat < 256 := by omega
  simp [wireNumber, Int.emod_eq_of_lt hlow hhigh, UInt8.toNat_ofNat', Nat.mod_eq_of_lt hoctet, hlow]

theorem fieldOctet_lt (values : List Octstr) (k : ℕ) : fieldOctet values k < 256 := UInt8.toNat_lt _

/-- Each value is one that its field can have. -/
theorem submitSmValues_admits (pdu : SmppSmsc.SubmitSm) :
    List.Forall₂ (Field.Admits 0) submitSmFields (submitSmValues pdu) := by
  simp [submitSmFields, submitSmValues, Field.Admits, length_wireNumber, zero_notMem_wireText]

/-- **A `submit_sm` comes out** as it was put in, as far as octets hold it. -/
theorem submitSmGwlib_codec : PduCodec submitSmGwlib where
  esmClass h := by
    obtain ⟨⟨values, rest⟩, -, h⟩ := Option.bind_eq_some_iff.mp h
    obtain ⟨-, h⟩ := Option.ite_none_right_eq_some.mp h
    obtain rfl := Option.some.inj h
    have hlt := fieldOctet_lt values 10
    simp only [submitSmOf]
    omega
  length h htext := by
    obtain ⟨⟨values, rest⟩, -, h⟩ := Option.bind_eq_some_iff.mp h
    obtain ⟨-, h⟩ := Option.ite_none_right_eq_some.mp h
    obtain rfl := Option.some.inj h
    obtain rfl := Option.some.inj htext
    exact (List.length_take_le _ _).trans_lt (fieldOctet_lt values 19)
  unpack_pack := by
    intro packed pdu text h hlow hhigh htext hlength
    obtain ⟨hsubmit, h⟩ := Option.ite_none_right_eq_some.mp h
    obtain rfl := Option.some.inj h
    have hread := readFields_writeFields (submitSmValues_admits pdu.submitSm)
      (pdu.submitSm.shortMessage.getD [])
    refine ⟨⟨true, submitSmOf (submitSmValues pdu.submitSm) (pdu.submitSm.shortMessage.getD [])⟩, ?_,
      hsubmit.symm, wireNumber_one hlow hhigh, ?_⟩
    · simp only [submitSmGwlib, hread, Option.bind_some]
      exact if_pos rfl
    · have hoctet : (fieldOctet (submitSmValues pdu.submitSm) 19 : ℤ) = (text.length : ℤ) := by
        have hone := wireNumber_one (n := (text.length : ℤ)) (by omega) (by omega)
        rw [← hone, fieldOctet, submitSmValues, htext]
        rfl
      have hlen : fieldOctet (submitSmValues pdu.submitSm) 19 = text.length := by exact_mod_cast hoctet
      rw [submitSmOf, hlen, htext, Option.getD_some, List.take_length]

/-! ## First records

A message has a first record in either process, and where it was made decides whether the text had been encoded
by then.  `FirstRecord` collects the ways to it; from each of them the content is known, and what decoding makes
of it is a fact about the tables of `Gwlib/Charset`. -/

/-- The library with the conversions of `gwlib/charset.c`. -/
def withCharset (lib : Gwlib) : Gwlib :=
  { lib with charsetLatin1ToGsm := charsetLatin1ToGsm, charsetLatin1ToGsmNew := charsetLatin1ToGsmNew }

/-- The submit has a `submit_sm` with `data_coding` 0 and without a header, and the text is its
message. -/
def SubmitsText (lib : Gwlib) (submit : Submit) (s : Octstr) : Prop :=
  ∃ pdu, submit.pdu.bind lib.smppPduUnpack = some pdu ∧ pdu.isSubmitSm = true ∧
    pdu.submitSm.dataCoding = 0 ∧ hasUdhIndicator pdu.submitSm.esmClass = false ∧
    pdu.submitSm.shortMessage = some s

/-- **The first record of a message** with this text, by `esm_class` and content, and whether the
message had been written to an SMSC with an alternative character set before.  The ESME process makes
it of a submit that it rejects; the SMSC process makes it in its response handler, in its router, in the
drain, or of a submit that comes during the shutdown. -/
inductive FirstRecord (lib : Gwlib) : Octstr → Bool → ℤ → Option Octstr → Prop
  | esme {env : SubmitLib} {cfg : ServerCfg} {now : Moment} {srv : SubmitServer} {e : Esme}
      {session : ℕ} {mode : ℤ} {pdu : SmppEsme.SubmitSm} {out : SubmitOutcome} {record : InsertMisMsg}
      {s : Octstr} (h : handleSubmitSm env cfg now srv e session mode pdu = some out)
      (hrecord : out.insertMis = some record) (hcoding : pdu.dataCoding = 0)
      (hudh : hasUdhIndicator pdu.esmClass = false) (hs : pdu.shortMessage = some s) :
      FirstRecord lib s false record.esmClass record.msgContent
  | smsc {cfg : ClientCfg} {t : Traffic} {es : List TrafficEvent} {f : Filing} {n : ℕ}
      {submit : Submit} {x : FiledRecord} {s : Octstr} (hdnd : cfg.dndcheckFlag = false) (ht : t.Start)
      (hr : exec (filingStep (withCharset lib) cfg) { traffic := t } es = some f)
      (hsubmit : (n, submit) ∈ f.submits) (hs : SubmitsText lib submit s) (hx : f.first n = some x) :
      FirstRecord lib s x.encoded x.record.esmClass x.record.msgContent

section Records

variable {lib : Gwlib} {s : Octstr} {encoded : Bool} {esmClass : ℤ} {content : Option Octstr}

/-- The ESME process records a submit as it came. -/
theorem handleSubmitSm_insertMis {env : SubmitLib} {cfg : ServerCfg} {now : Moment}
    {srv : SubmitServer} {e : Esme} {session : ℕ} {mode : ℤ} {pdu : SmppEsme.SubmitSm}
    {out : SubmitOutcome} {record : InsertMisMsg}
    (h : handleSubmitSm env cfg now srv e session mode pdu = some out)
    (hrecord : out.insertMis = some record) :
    record.esmClass = pdu.esmClass ∧ record.msgContent = pdu.shortMessage := by
  have hanswer : ∀ {srv : SubmitServer} {ip messageId : Octstr} {c : Checked},
      (answerSubmit env cfg now srv session mode ip messageId pdu c).insertMis = some record →
      record.esmClass = pdu.esmClass ∧ record.msgContent = pdu.shortMessage := by
    intro srv ip messageId c hc
    obtain ⟨-, hc⟩ := Option.ite_none_left_eq_some.mp hc
    rw [← Option.some.inj hc]
    exact ⟨rfl, rfl⟩
  rw [handleSubmitSm] at h
  obtain ⟨-, h⟩ := Option.ite_none_left_eq_some.mp h
  obtain ⟨tx, -, rfl⟩ := Option.map_eq_some_iff.mp h
  exact hanswer hrecord

/-- **A first record shows the text**, encoded if the message was. -/
theorem FirstRecord.content_eq (h : FirstRecord lib s encoded esmClass content) (hlib : PduCodec lib)
    (hfits : encoded = true → (charsetLatin1ToGsm s).length < 256) :
    hasUdhIndicator esmClass = false ∧
      content = some (if encoded then charsetLatin1ToGsm s else s) := by
  cases h with
  | esme h hrecord _ hudh hs =>
    obtain ⟨hesm, hcontent⟩ := handleSubmitSm_insertMis h hrecord
    exact ⟨hesm ▸ hudh, hcontent.trans hs⟩
  | @smsc cfg t es f n submit x s hdnd ht hr hsubmit hs hx =>
    have hlib' : PduCodec (withCharset lib) := ⟨hlib.esmClass, hlib.length, hlib.unpack_pack⟩
    obtain ⟨pdu, hpdu, hsubmitSm, -, hudh, hmessage⟩ := hs
    have htext : Carries (withCharset lib) s submit.pdu := ⟨pdu, hpdu, hsubmitSm, hudh, hmessage⟩
    have hlength : (sentText (withCharset lib) x.encoded s).length < 256 := by
      cases hx' : x.encoded with
      | true => exact hfits hx'
      | false => exact htext.length hlib'
    exact (Filing.first_shows hlib' hdnd ht hr hx hsubmit htext hlength).2

/-- **The content of the first record** of a message is its text exactly if the message had been encoded,
or its text has none of the characters that decoding changes. -/
theorem misContent_iff (text : TextLib) (hlib : PduCodec lib)
    (h : FirstRecord lib s encoded esmClass content) (hs : ∀ c ∈ s, Representable c)
    (hfits : encoded = true → (charsetLatin1ToGsm s).length < 256) :
    misContent text esmClass content = s ↔ encoded = true ∨ ∀ c ∈ s, c ∉ displaced := by
  obtain ⟨hudh, rfl⟩ := h.content_eq hlib hfits
  rw [misContent_of_text hudh]
  cases encoded with
  | true => simp [charsetGsmToLatin1_charsetLatin1ToGsm hs]
  | false => simp [charsetGsmToLatin1_eq_self_iff hs]

end Records

/-- A text with three characters whose octets are codes of others. -/
def sampleText : Octstr := octstrImm "Pay $5 [now]"

/-- A submit of this text, which may go to the first position. -/
def sampleTextSubmit : Submit :=
  { sampleSubmit with
    pdu := submitSmGwlib.smppPduPack
      ⟨true, { sequenceNumber := 7, sourceAddr := some (octstrImm "ACME"),
               destinationAddr := some (octstrImm "919800000000"), shortMessage := some sampleText }⟩ }

/-- The process with one connection, whose SMSC has this alternative character set. -/
def sampleCharsetTraffic (altCharset : Option Octstr) : Traffic where
  system :=
    { process :=
        { smscList := [{ sampleConn with data := { sampleSmpp with altCharset := altCharset } }]
          queues := {}
          smppClientStatus := .running } }

theorem sampleCharsetTraffic_start (altCharset : Option Octstr) :
    (sampleCharsetTraffic altCharset).Start where
  system :=
    { fresh conn hconn := by
        obtain rfl := List.mem_singleton.mp hconn
        exact ⟨rfl, rfl⟩
      queues := rfl
      inHand := rfl
      received := rfl }
  journal := rfl

/-- The connection is bound; the submit is routed to it, written, and answered. -/
def sampleTextRun : List TrafficEvent :=
  [.system (.io 0 (.enter true 1000)), .system (.io 0 (.connWait true 1000)),
   .system (.io 0 (.readPdu (.bindTransmitterResp 0) 1001)),
   .system (.handleRequest sampleTextSubmit), .system (.rout 0 0),
   .system (.io 0 (.send true 1001)), .system (.io 0 (.send true 1001)),
   .system (.io 0 (.readPdu (.submitSmResp 2 0 none) 1002))]

/-- The process behind the run. -/
def sampleFiling (altCharset : Option Octstr) : Option Filing :=
  exec (filingStep (withCharset submitSmGwlib) { dndcheckFlag := false })
    { traffic := sampleCharsetTraffic altCharset } sampleTextRun

theorem submitsText_sampleTextSubmit : SubmitsText submitSmGwlib sampleTextSubmit sampleText :=
  ⟨(sampleTextSubmit.pdu.bind submitSmGwlib.smppPduUnpack).get (by decide +kernel),
    (Option.some_get _).symm, by decide +kernel, by decide +kernel, by decide +kernel,
    by decide +kernel⟩

/-- An SMSC with an alternative character set wrote the message: the row has its text. -/
theorem misContent_sampleTextRun :
    misContent sampleTextLib 0 (some (charsetLatin1ToGsm sampleText)) = sampleText :=
  (misContent_iff sampleTextLib submitSmGwlib_codec
    (.smsc rfl (sampleCharsetTraffic_start (some (octstrImm "latin1")))
      (f := (sampleFiling (some (octstrImm "latin1"))).get (by decide +kernel)) (n := 1)
      (x := ⟨1, true, misRecord (octstrImm "acme") (octstrImm "a1") (octstrImm "2009-08-13 10:00:00")
        (some (octstrImm "smsc-a")) none
        ⟨true, { sequenceNumber := 2, sourceAddr := some (octstrImm "ACME"),
                 destinationAddr := some (octstrImm "919800000000"), smLength := 14,
                 moreMessagesToSend := -1,
                 shortMessage := some (charsetLatin1ToGsm sampleText) }⟩ 0 none⟩)
      (Option.some_get _).symm (by decide +kernel) submitsText_sampleTextSubmit (by decide +kernel))
    (by decide +kernel) fun _ => by decide +kernel).mpr (.inl rfl)

/-- An SMSC without one wrote the message: the row has something else. -/
theorem not_misContent :
    ¬ ∀ (text : TextLib) (lib : Gwlib), PduCodec lib → ∀ (s : Octstr) (encoded : Bool) (esmClass : ℤ)
      (content : Option Octstr), FirstRecord lib s encoded esmClass content →
      (∀ c ∈ s, Representable c) → misContent text esmClass content = s := by
  intro h
  have hrow := h sampleTextLib submitSmGwlib submitSmGwlib_codec sampleText false 0 (some sampleText)
    (.smsc rfl (sampleCharsetTraffic_start none)
      (f := (sampleFiling none).get (by decide +kernel)) (n := 1)
      (x := ⟨1, false, misRecord (octstrImm "acme") (octstrImm "a1") (octstrImm "2009-08-13 10:00:00")
        (some (octstrImm "smsc-a")) none
        ⟨true, { sequenceNumber := 2, sourceAddr := some (octstrImm "ACME"),
                 destinationAddr := some (octstrImm "919800000000"), smLength := 12,
                 moreMessagesToSend := -1, shortMessage := some sampleText }⟩ 0 none⟩)
      (Option.some_get _).symm (by decide +kernel) submitsText_sampleTextSubmit (by decide +kernel))
    (by decide +kernel)
  exact absurd hrow (by decide +kernel)

end SmppServer.SmppDbbox
