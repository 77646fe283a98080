import SmppServer.Dbbox.MisContent

/-!
# Smsc/Resend — what is written when a message is sent again

`send_messages` works on the PDU that the message carries: for an SMSC with an alternative character set
it encodes the text, for one with a masking prefix it replaces the source, and the message carries the
result from then on.  A message that failed is sent again with it, so its text is encoded once more, or
goes encoded to an SMSC that has no alternative character set, and its source stays masked.

* `encodedText_iterate_iff` — encoding a text that was encoded before gives the codes of the first time
  exactly if they are all their own codes.
* `history_of_exec` — every message of a run has a history: the SMSCs it was written to since its submit.
* `resent_iff` — when an SMSC is written the same text and the same source as at a first attempt.
-/

namespace SmppServer.SmppSmsc

open Machinery SmppDbbox

/-! ## The text

Encoding works on what stands behind the header of the message, character by character.  So repeating it is
repeating a map on characters, and a text comes back only if its characters do. -/

/-- The octets of the header of a message, of which the first counts the others. -/
def headerLength (udh : Bool) (s : Octstr) : ℕ :=
  if udh then s.head?.elim 0 fun udhLength => udhLength.toNat + 1 else 0

/-- A message behind its header. -/
def bodyOf (udh : Bool) (s : Octstr) : Octstr := s.drop (headerLength udh s)

/-- What an SMSC with an alternative character set is written. -/
def encodedText (udh : Bool) (s : Octstr) : Octstr :=
  if udh then charsetLatin1ToGsmNew s else charsetLatin1ToGsm s

/-- What a message becomes in a PDU that is packed and unpacked: its length has one octet there. -/
def unpackedText (s : Octstr) : Octstr := s.take (s.length % 256)

/-- The text that a message carries when such an SMSC was written to. -/
def storedText (udh : Bool) (s : Octstr) : Octstr := unpackedText (encodedText udh s)

section Text

variable {udh : Bool} {s t : Octstr} {j k : ℕ}

theorem encodedText_eq (udh : Bool) (s : Octstr) :
    encodedText udh s = s.take (headerLength udh s) ++ charsetLatin1ToGsm (bodyOf udh s) := by
  cases udh with
  | false => simp [encodedText, headerLength, bodyOf]
  | true =>
    cases s with
    | nil => rfl
    | cons udhLength s => simp [encodedText, headerLength, bodyOf, charsetLatin1ToGsmNew]

theorem headerLength_of_isPrefix (h : t <+: s) (hne : t ≠ []) :
    headerLength udh t = headerLength udh s := by
  obtain ⟨c, t, rfl⟩ := List.exists_cons_of_ne_nil hne
  obtain ⟨rest, rfl⟩ := h
  rfl

/-- A text that is cut off has less behind its header. -/
theorem bodyOf_isPrefix (h : t <+: s) : bodyOf udh t <+: bodyOf udh s := by
  by_cases hne : t = []
  · subst hne
    rw [bodyOf, List.drop_nil]
    exact List.nil_prefix
  · rw [bodyOf, bodyOf, headerLength_of_isPrefix h hne]
    exact h.drop _

theorem headerLength_encodedText (udh : Bool) (s : Octstr) :
    headerLength udh (encodedText udh s) = headerLength udh s := by
  cases udh with
  | false => rfl
  | true =>
    cases s with
    | nil => rfl
    | cons udhLength s => rfl

/-- **Only what stands behind the header** is encoded. -/
theorem bodyOf_encodedText (udh : Bool) (s : Octstr) :
    bodyOf udh (encodedText udh s) = charsetLatin1ToGsm (bodyOf udh s) := by
  rw [bodyOf, headerLength_encodedText, encodedText_eq]
  by_cases hle : headerLength udh s ≤ s.length
  · exact List.drop_left' (List.length_take_of_le hle)
  · have hnil : bodyOf udh s = [] := List.drop_eq_nil_of_le (by omega)
    rw [hnil, charsetLatin1ToGsm, List.flatMap_nil, List.append_nil]
    exact List.drop_eq_nil_of_le (List.length_take_le _ _)

theorem encodedText_eq_self_iff : encodedText udh s = s ↔ ∀ c ∈ bodyOf udh s, Settled c := by
  rw [encodedText_eq, ← charsetLatin1ToGsm_eq_self_iff]
  conv_lhs => rhs; rw [← List.take_append_drop (headerLength udh s) s]
  exact List.append_cancel_left_eq _ _ _ |>.to_iff

theorem unpackedText_of_length_lt (h : s.length < 256) : unpackedText s = s := by
  rw [unpackedText, Nat.mod_eq_of_lt h, List.take_length]

theorem length_unpackedText_lt (s : Octstr) : (unpackedText s).length < 256 :=
  (List.length_take_le _ _).trans_lt (Nat.mod_lt _ (by decide))

/-- A text whose characters are all their own codes stays as it is. -/
theorem storedText_of_settled (hs : ∀ c ∈ bodyOf udh s, Settled c) (hlength : s.length < 256) :
    storedText udh s = s := by
  rw [storedText, encodedText_eq_self_iff.mpr hs, unpackedText_of_length_lt hlength]

/-- What is carried behind the header after several attempts, was encoded as often. -/
theorem bodyOf_iterate_subset (udh : Bool) (s : Octstr) (k : ℕ) :
    bodyOf udh ((storedText udh)^[k] s) ⊆ charsetLatin1ToGsm^[k] (bodyOf udh s) := by
  induction k with
  | zero => exact List.Subset.refl _
  | succ k ih =>
    rw [Function.iterate_succ_apply', Function.iterate_succ_apply']
    have hcut : bodyOf udh (storedText udh ((storedText udh)^[k] s)) <+:
        charsetLatin1ToGsm (bodyOf udh ((storedText udh)^[k] s)) := by
      rw [← bodyOf_encodedText]
      exact bodyOf_isPrefix (List.take_prefix _ _)
    exact List.Subset.trans hcut.subset (charsetLatin1ToGsm_subset ih)

/-- **A text that comes back** after several attempts has characters that are all their own codes: it
comes back again and again, and after four attempts it has no others. -/
theorem iterate_storedText_eq_self_iff (hlength : s.length < 256) (hj : 1 ≤ j) :
    (storedText udh)^[j] s = s ↔ ∀ c ∈ bodyOf udh s, Settled c := by
  constructor
  · intro h
    have hback : (storedText udh)^[j * 4] s = s := by
      rw [Function.iterate_mul]
      exact Function.iterate_fixed h 4
    intro c hc
    refine settled_of_mem_iterate (k := j * 4) (by omega) c (s := bodyOf udh s) ?_
    rw [← hback] at hc
    exact bodyOf_iterate_subset udh s _ hc
  · intro hs
    exact Function.iterate_fixed (storedText_of_settled hs hlength) j

/-- **Encoding what was encoded before** gives the codes of the first time exactly if these are all their
own codes, and were not cut off. -/
theorem encodedText_iterate_iff (hj : 1 ≤ j) :
    encodedText udh ((storedText udh)^[j] s) = encodedText udh s ↔
      (encodedText udh s).length < 256 ∧ ∀ c ∈ bodyOf udh s, ∀ g ∈ latin1Char c, Settled g := by
  obtain ⟨i, rfl⟩ := Nat.exists_eq_add_of_le' hj
  have hcodes : (∀ c ∈ bodyOf udh s, ∀ g ∈ latin1Char c, Settled g) ↔
      ∀ g ∈ bodyOf udh (encodedText udh s), Settled g := by
    rw [bodyOf_encodedText]
    simp only [mem_charsetLatin1ToGsm]
    exact ⟨fun h g ⟨c, hc, hg⟩ => h c hc g hg, fun h c hc g hg => h g ⟨c, hc, hg⟩⟩
  rw [hcodes, Function.iterate_succ_apply]
  constructor
  · intro h
    -- the text of the first attempt comes back after the others
    have hback : (storedText udh)^[i + 1] (storedText udh s) = storedText udh s := by
      rw [Function.iterate_succ_apply', storedText, h, ← storedText]
    have hlength : (storedText udh s).length < 256 := length_unpackedText_lt _
    have hs := (iterate_storedText_eq_self_iff hlength (Nat.succ_pos i)).mp hback
    rw [Function.iterate_fixed (storedText_of_settled hs hlength), encodedText_eq_self_iff.mpr hs] at h
    rw [← h]
    exact ⟨hlength, hs⟩
  · rintro ⟨hlength, hs⟩
    have hfirst : storedText udh s = encodedText udh s := unpackedText_of_length_lt hlength
    rw [hfirst, Function.iterate_fixed (storedText_of_settled hs hlength)]
    exact encodedText_eq_self_iff.mpr hs

end Text

/-! ## Histories

The history of a message is kept beside the run, and every move of the message goes on with it. -/

/-- **The history of a message** that was submitted: the SMSCs it was written to, in their order.  What
happens to it in between leaves its PDU alone, and the source it was submitted with. -/
inductive History (lib : Gwlib) (cfg : ClientCfg) (submit : Submit) : List SmscConn → Msg → Prop
  | submitted : History lib cfg submit [] (submitMsg cfg submit)
  | returned {conns : List SmscConn} {msg msg' : Msg} (h : History lib cfg submit conns msg)
      (hinfo : msg'.smInfo = msg.smInfo)
      (hsource : msg'.routingInfo.sourceAddr = msg.routingInfo.sourceAddr) :
      History lib cfg submit conns msg'
  | attempted {conns : List SmscConn} {conn : SmscConn} {msg msg' : Msg} {pdu : SmppPdu}
      (h : History lib cfg submit conns msg) (hattempt : attempt lib cfg conn msg = some (msg', pdu)) :
      History lib cfg submit (conns ++ [conn]) msg'

section Runs

variable {lib : Gwlib} {cfg : ClientCfg} {t t' : Traffic} {e : TrafficEvent} {es : List TrafficEvent}

/-- The message has a history since one of these submits, with an SMSC for every time it was written. -/
def Traced (lib : Gwlib) (cfg : ClientCfg) (submits : Set Submit) (journal : List (Action Key))
    (p : Place × Msg) : Prop :=
  ∃ submit ∈ submits, ∃ conns, History lib cfg submit conns p.2 ∧
    conns.length = writes p.2.serial journal

/-- A move goes on with the history. -/
theorem Traced.move {alt : Bool} {submits : Set Submit} {journal as : List (Action Key)}
    {p p' : Place × Msg} (h : Traced lib cfg submits journal p) (hserial : p'.2.serial = p.2.serial)
    (hmove : Passage lib cfg alt p p' as) : Traced lib cfg submits (journal ++ as) p' := by
  obtain ⟨submit, hsubmit, conns, hhistory, hlength⟩ := h
  cases hmove with
  | carry hmove hplace hinfo hsource _ =>
    refine ⟨submit, hsubmit, conns, hhistory.returned hinfo hsource, ?_⟩
    rw [hserial, hlength]
    cases hmove with
    | route _ | handBack _ | take _ _ _ | expire _ _ => rw [List.append_nil]
    | answer _ => rw [writes_answered]
    | transmit _ _ => exact absurd rfl (hplace _)
  | transmit _ _ _ hattempt =>
    obtain ⟨conn, pdu, hattempt⟩ := hattempt
    refine ⟨submit, hsubmit, conns ++ [conn], hhistory.attempted hattempt, ?_⟩
    rw [hserial, writes_concat_written, if_pos rfl, List.length_append, hlength]
    rfl

theorem keeps_traced (alt : Bool) {submits : Set Submit}
    (he : ∀ submit, e = .system (.handleRequest submit) → submit ∈ submits) :
    Keeps Msg.serial (Arrives cfg e) (Passage lib cfg alt) (Traced lib cfg submits) fun _ => True where
  frame h ha := by
    rw [Traced, writes_of_ne ha]
    exact h
  entry := by
    rintro journal p ⟨-, submit, hsubmit, hinfo, -, hsource⟩ hnew
    exact ⟨submit, he submit hsubmit, [], .returned .submitted hinfo hsource,
      (writes_eq_zero hnew).symm⟩
  move h hserial hmove := h.move hserial hmove
  answered _ := trivial
  moved _ _ _ := trivial

/-- **Every message of a run has a history**: since the submit it was made of, with an SMSC for every
time it was written. -/
theorem history_of_exec (hs : t.Start) (hr : exec (trafficStep lib cfg) t es = some t')
    {p : Place × Msg} (hp : p ∈ t'.system.copies) :
    ∃ submit, .system (.handleRequest submit) ∈ es ∧ ∃ conns,
      History lib cfg submit conns p.2 ∧ conns.length = writes p.2.serial t'.journal := by
  have hstep : ∀ {t e t'}, t.custody.Sound Msg.serial
        (Traced lib cfg {submit | .system (.handleRequest submit) ∈ es}) (fun _ => True) → e ∈ es →
      trafficStep lib cfg t e = some t' → t'.custody.Sound Msg.serial
        (Traced lib cfg {submit | .system (.handleRequest submit) ∈ es}) fun _ => True := by
    intro t e t' h he hstep
    exact h.shift (keeps_traced _ fun _ heq => show _ ∈ es from heq ▸ he) (trafficStep_passes hstep)
  exact (exec_invariant hstep (hs.sound trivial) (along_of_mem (fun _ he _ => he) t) hr).good p hp

end Runs

/-! ## What is written

An attempt is a function of what is carried and of the SMSC: it says what is written and what is carried on. -/

/-- The text of a `submit_sm`; no text is written like an empty one. -/
def SubmitSm.text (pdu : SubmitSm) : Octstr := pdu.shortMessage.getD []

/-- The source of a `submit_sm`; no source is written like an empty one. -/
def SubmitSm.source (pdu : SubmitSm) : Octstr := pdu.sourceAddr.getD []

/-- The octets of a `source_addr` in a PDU. -/
def sourceAddrOctets : ℕ := 20

/-- **What is relied on**: the conversions are those of `gwlib/charset.c`; in a PDU that is unpacked
`esm_class` and the length of the message are one octet each, and the source has its octets, without a
`NUL`; and when a `submit_sm` that was packed is unpacked again, text and source are cut to that. -/
structure SubmitCodec (lib : Gwlib) : Prop where
  toGsm : lib.charsetLatin1ToGsm = charsetLatin1ToGsm
  toGsmNew : lib.charsetLatin1ToGsmNew = charsetLatin1ToGsmNew
  esmClass : ∀ {packed pdu}, lib.smppPduUnpack packed = some pdu →
    0 ≤ pdu.submitSm.esmClass ∧ pdu.submitSm.esmClass < 256
  text : ∀ {packed pdu}, lib.smppPduUnpack packed = some pdu → pdu.submitSm.text.length < 256
  source : ∀ {packed pdu}, lib.smppPduUnpack packed = some pdu →
    0 ∉ pdu.submitSm.source ∧ pdu.submitSm.source.length ≤ sourceAddrOctets
  unpack_pack : ∀ {packed pdu pdu'}, lib.smppPduPack pdu = some packed →
    lib.smppPduUnpack packed = some pdu' → pdu.isSubmitSm = true → 0 ≤ pdu.submitSm.esmClass →
    pdu.submitSm.esmClass < 256 → 0 ∉ pdu.submitSm.source →
    pdu'.isSubmitSm = true ∧ pdu'.submitSm.esmClass = pdu.submitSm.esmClass ∧
      pdu'.submitSm.text = unpackedText pdu.submitSm.text ∧
      pdu'.submitSm.source = pdu.submitSm.source.take sourceAddrOctets

/-- The source that an SMSC is written instead of this one, if it masks it. -/
def mask (lib : Gwlib) (conn : SmscConn) (source : Octstr) : Option Octstr :=
  maskedSource lib conn.data.maskingPrefix source none

/-- The text that an SMSC is written for this one. -/
def textFor (conn : SmscConn) (udh : Bool) (s : Octstr) : Octstr :=
  if conn.data.altCharset.isSome then encodedText udh s else s

section Written

variable {lib : Gwlib} {cfg : ClientCfg} {conn : SmscConn} {source : Octstr} {msg msg' : Msg}
  {pdu : SmppPdu}

theorem adaptSubmitSm_source (lib : Gwlib) (cfg : ClientCfg) (conn : SmscConn) (source : Octstr)
    (pdu : SubmitSm) :
    (adaptSubmitSm lib cfg conn source pdu).source = (mask lib conn source).getD pdu.source := by
  simp only [adaptSubmitSm, SubmitSm.source, mask, maskedSource]
  cases conn.data.maskingPrefix with
  | none => rfl
  | some masking =>
    dsimp only
    split <;> rfl

theorem adaptSubmitSm_text (hlib : SubmitCodec lib) (cfg : ClientCfg) (conn : SmscConn)
    (source : Octstr) (pdu : SubmitSm) :
    (adaptSubmitSm lib cfg conn source pdu).text =
      textFor conn (hasUdhIndicator pdu.esmClass) pdu.text := by
  simp only [adaptSubmitSm, SubmitSm.text, textFor, encodedText, hlib.toGsm, hlib.toGsmNew]
  cases pdu.shortMessage with
  | none => split_ifs <;> rfl
  | some text => split_ifs <;> rfl

/-- The header indicator stays as it is, in one octet. -/
theorem adaptSubmitSm_esmClass (lib : Gwlib) (cfg : ClientCfg) (conn : SmscConn) (source : Octstr)
    {pdu : SubmitSm} (hesm : 0 ≤ pdu.esmClass ∧ pdu.esmClass < 256) :
    hasUdhIndicator (adaptSubmitSm lib cfg conn source pdu).esmClass = hasUdhIndicator pdu.esmClass ∧
      0 ≤ (adaptSubmitSm lib cfg conn source pdu).esmClass ∧
      (adaptSubmitSm lib cfg conn source pdu).esmClass < 256 := by
  simp only [adaptSubmitSm]
  split
  · rename_i hudh
    rw [hudh.1]
    decide
  · exact ⟨rfl, hesm⟩

/-- **An attempt** with DND checking off: the `submit_sm` that was carried is adapted, written and
carried. -/
theorem attempt_submitSm (hdnd : cfg.dndcheckFlag = false) {written : SmppPdu}
    (h : attempt lib cfg conn msg = some (msg', written)) :
    ∃ pdu, msg.smInfo.pdu.bind lib.smppPduUnpack = some pdu ∧
      msg'.routingInfo = msg.routingInfo ∧
      (pdu.isSubmitSm = true →
        written =
            { pdu with submitSm := adaptSubmitSm lib cfg conn msg.routingInfo.sourceAddr pdu.submitSm } ∧
          msg'.smInfo.pdu = lib.smppPduPack written) := by
  have hsame : withDndPdu lib cfg conn msg = (conn, msg) := by simp [withDndPdu, hdnd]
  obtain ⟨pdu, hpdu, hwritten, -, hmsg'⟩ := attempt_eq_some.mp h
  rw [hsame] at hpdu hwritten hmsg'
  refine ⟨pdu, hpdu, ?_, fun hsubmit => ?_⟩
  · obtain ⟨-, -, -, packed, hmsg⟩ := adaptPdu_same lib cfg conn msg pdu
    rw [← hmsg', hmsg]
    rfl
  · simp only [adaptPdu, if_pos hsubmit] at hmsg' hwritten
    rw [← hmsg', ← hwritten]
    exact ⟨rfl, rfl⟩

/-- What the message carries, once it is unpacked: a `submit_sm` with this text and this source. -/
def Msg.Bears (lib : Gwlib) (msg : Msg) (udh : Bool) (text source : Octstr) : Prop :=
  ∀ pdu ∈ msg.smInfo.pdu.bind lib.smppPduUnpack, pdu.isSubmitSm = true ∧
    hasUdhIndicator pdu.submitSm.esmClass = udh ∧ pdu.submitSm.text = text ∧
    pdu.submitSm.source = source

variable {udh : Bool} {text : Octstr}

/-- **What is written** of what the message carries. -/
theorem Msg.Bears.written (hlib : SubmitCodec lib) (hdnd : cfg.dndcheckFlag = false)
    {written : SmppPdu} (h : msg.Bears lib udh text source)
    (hattempt : attempt lib cfg conn msg = some (msg', written)) :
    written.submitSm.text = textFor conn udh text ∧
      written.submitSm.source = (mask lib conn msg.routingInfo.sourceAddr).getD source := by
  obtain ⟨pdu, hpdu, -, hwritten⟩ := attempt_submitSm hdnd hattempt
  obtain ⟨hsubmit, rfl, rfl, rfl⟩ := h pdu hpdu
  obtain ⟨rfl, -⟩ := hwritten hsubmit
  exact ⟨adaptSubmitSm_text hlib _ _ _ _, adaptSubmitSm_source _ _ _ _ _⟩

/-- A masked source has no `NUL`. -/
theorem zero_notMem_mask (hmasking : 0 ∉ conn.data.maskingPrefix.getD []) (hsource : 0 ∉ source)
    {masked : Octstr} (h : masked ∈ mask lib conn source) : 0 ∉ masked := by
  simp only [mask, maskedSource] at h
  split at h
  · rename_i masking heq
    obtain ⟨-, h⟩ := Option.ite_none_right_eq_some.mp h
    rw [heq] at hmasking
    rw [← Option.some.inj h, List.mem_append, not_or]
    exact ⟨hmasking, fun hmem => hsource (List.mem_of_mem_take hmem)⟩
  · exact absurd h (by simp)

/-- **What is carried on**: the text as an SMSC with an alternative character set leaves it, and the
source as one that masks it does. -/
theorem Msg.Bears.attempt (hlib : SubmitCodec lib) (hdnd : cfg.dndcheckFlag = false)
    {written : SmppPdu} (hmasking : 0 ∉ conn.data.maskingPrefix.getD [])
    (hsource : 0 ∉ msg.routingInfo.sourceAddr) (h : msg.Bears lib udh text source)
    (hattempt : attempt lib cfg conn msg = some (msg', written)) :
    msg'.Bears lib udh (if conn.data.altCharset.isSome then storedText udh text else text)
      (((mask lib conn msg.routingInfo.sourceAddr).map (·.take sourceAddrOctets)).getD source) := by
  obtain ⟨htext, hwrittenSource⟩ := h.written hlib hdnd hattempt
  obtain ⟨pdu, hpdu, -, hwritten⟩ := attempt_submitSm hdnd hattempt
  obtain ⟨hsubmit, rfl, rfl, rfl⟩ := h pdu hpdu
  obtain ⟨hpacked, hcarried⟩ := hwritten hsubmit
  obtain ⟨packed, -, hunpack⟩ := Option.bind_eq_some_iff.mp hpdu
  obtain ⟨hudh, hlow, hhigh⟩ := adaptSubmitSm_esmClass lib cfg conn msg.routingInfo.sourceAddr
    (hlib.esmClass hunpack)
  obtain ⟨hnul, hoctets⟩ := hlib.source hunpack
  have hnul' : 0 ∉ written.submitSm.source := by
    rw [hwrittenSource]
    cases hmask : mask lib conn msg.routingInfo.sourceAddr with
    | none => exact hnul
    | some masked => exact zero_notMem_mask hmasking hsource hmask
  intro pdu' hpdu'
  obtain ⟨packed', hpacked', hunpack'⟩ := Option.bind_eq_some_iff.mp hpdu'
  rw [hcarried] at hpacked'
  obtain ⟨hsubmit', hesm', htext', hsource'⟩ := hlib.unpack_pack hpacked' hunpack'
    (hpacked ▸ hsubmit) (hpacked ▸ hlow) (hpacked ▸ hhigh) hnul'
  refine ⟨hsubmit', by rw [hesm', hpacked]; exact hudh, ?_, ?_⟩
  · rw [htext', htext, textFor]
    split
    · rfl
    · exact unpackedText_of_length_lt (hlib.text hunpack)
  · rw [hsource', hwrittenSource]
    cases mask lib conn msg.routingInfo.sourceAddr with
    | none => exact List.take_of_length_le hoctets
    | some masked => rfl

end Written

/-! ## The same again

What the attempts before have left of the text is a number of encodings, and of the source the last mask; the
rest of the history does not matter. -/

/-- How often the text was encoded. -/
def encodings (conns : List SmscConn) : ℕ := conns.countP fun conn => conn.data.altCharset.isSome

/-- The source that the last SMSC which masked it left, if one did. -/
def lastMask (lib : Gwlib) (conns : List SmscConn) (source : Octstr) : Option Octstr :=
  ((conns.filterMap fun conn => mask lib conn source).getLast?).map (·.take sourceAddrOctets)

/-- **The text is kept**: it was not encoded before; or each character behind its header is its own code,
if this SMSC has no alternative character set; or if it has one, each code is, and they fit the length
octet. -/
def TextKept (conns : List SmscConn) (conn : SmscConn) (udh : Bool) (text : Octstr) : Prop :=
  (∀ c ∈ conns, c.data.altCharset = none) ∨
    if conn.data.altCharset.isSome then
      (encodedText udh text).length < 256 ∧ ∀ c ∈ bodyOf udh text, ∀ g ∈ latin1Char c, Settled g
    else ∀ c ∈ bodyOf udh text, Settled c

/-- **The source is kept**: this SMSC masks it, or none did before, or the mask is the source that the
`submit_sm` has. -/
def SourceKept (lib : Gwlib) (conns : List SmscConn) (conn : SmscConn) (source original : Octstr) :
    Prop :=
  mask lib conn source ≠ none ∨ ∀ masked ∈ lastMask lib conns source, masked = original

section Resend

variable {lib : Gwlib} {cfg : ClientCfg} {submit : Submit} {conns : List SmscConn} {conn : SmscConn}
  {msg : Msg} {udh : Bool} {text original source : Octstr}

theorem lastMask_concat (lib : Gwlib) (conns : List SmscConn) (conn : SmscConn) (source : Octstr) :
    lastMask lib (conns ++ [conn]) source =
      ((mask lib conn source).map (·.take sourceAddrOctets)).or (lastMask lib conns source) := by
  rw [lastMask, List.filterMap_append, List.filterMap_cons, List.filterMap_nil]
  cases hmask : mask lib conn source with
  | none => simp [lastMask]
  | some masked => simp

theorem encodings_concat (conns : List SmscConn) (conn : SmscConn) :
    encodings (conns ++ [conn]) =
      encodings conns + if conn.data.altCharset.isSome then 1 else 0 := by
  rw [encodings, List.countP_append, List.countP_singleton, encodings]

/-- **What a message with a history carries.** -/
theorem History.bears (hlib : SubmitCodec lib) (hdnd : cfg.dndcheckFlag = false)
    (hsource : 0 ∉ submit.sourceAddr) (h : History lib cfg submit conns msg)
    (hmasking : ∀ conn ∈ conns, 0 ∉ conn.data.maskingPrefix.getD [])
    (hsubmit : (submitMsg cfg submit).Bears lib udh text original) :
    msg.routingInfo.sourceAddr = submit.sourceAddr ∧
      msg.Bears lib udh ((storedText udh)^[encodings conns] text)
        ((lastMask lib conns submit.sourceAddr).getD original) := by
  induction h with
  | submitted => exact ⟨rfl, hsubmit⟩
  | returned _ hinfo hsame ih =>
    obtain ⟨hrouting, hbears⟩ := ih hmasking
    refine ⟨hsame.trans hrouting, ?_⟩
    rw [Msg.Bears, hinfo]
    exact hbears
  | @attempted conns conn msg msg' written _ hattempt ih =>
    obtain ⟨hconns, hconn⟩ := List.forall_mem_append.mp hmasking
    obtain ⟨hrouting, hbears⟩ := ih hconns
    obtain ⟨-, -, hsame, -⟩ := attempt_submitSm hdnd hattempt
    have hnext := hbears.attempt hlib hdnd (hconn conn (List.mem_singleton_self conn))
      (hrouting ▸ hsource) hattempt
    rw [hrouting] at hnext
    refine ⟨(congrArg (·.sourceAddr) hsame).trans hrouting, ?_⟩
    rw [lastMask_concat, Option.getD_or, encodings_concat]
    cases halt : conn.data.altCharset.isSome with
    | true =>
      rw [halt, if_pos rfl, ← Function.iterate_succ_apply' (storedText udh)] at hnext
      exact hnext
    | false =>
      rw [halt, if_neg Bool.false_ne_true] at hnext
      exact hnext

/-- The text of an attempt is that of a first attempt. -/
theorem textFor_iterate_iff (hlength : text.length < 256) :
    textFor conn udh ((storedText udh)^[encodings conns] text) = textFor conn udh text ↔
      TextKept conns conn udh text := by
  have hzero : encodings conns = 0 ↔ ∀ c ∈ conns, c.data.altCharset = none := by
    simp [encodings]
  rw [TextKept, ← hzero]
  obtain hnone | hsome := Nat.eq_zero_or_pos (encodings conns)
  · rw [hnone]
    exact ⟨fun _ => .inl rfl, fun _ => rfl⟩
  · rw [or_iff_right (by omega), textFor, textFor]
    split
    · exact encodedText_iterate_iff hsome
    · exact iterate_storedText_eq_self_iff hlength hsome

end Resend

/-- **The same text again.**  With DND checking off, for a `submit_sm` and any history of its message: an
SMSC is written the text and the source of a first attempt exactly if both are kept. -/
theorem resent_iff (lib : Gwlib) (cfg : ClientCfg) (hlib : SubmitCodec lib)
    (hdnd : cfg.dndcheckFlag = false) {submit : Submit} {original : SmppPdu}
    (hpdu : submit.pdu.bind lib.smppPduUnpack = some original) (htype : original.isSubmitSm = true)
    (hsource : 0 ∉ submit.sourceAddr) {conns : List SmscConn}
    (hmasking : ∀ conn ∈ conns, 0 ∉ conn.data.maskingPrefix.getD []) {msg : Msg}
    (h : History lib cfg submit conns msg) {conn : SmscConn} {msg' first : Msg}
    {written firstWritten : SmppPdu} (hagain : attempt lib cfg conn msg = some (msg', written))
    (hfirst : attempt lib cfg conn (submitMsg cfg submit) = some (first, firstWritten)) :
    (written.submitSm.text = firstWritten.submitSm.text ∧
        written.submitSm.source = firstWritten.submitSm.source) ↔
      TextKept conns conn (hasUdhIndicator original.submitSm.esmClass) original.submitSm.text ∧
        SourceKept lib conns conn submit.sourceAddr original.submitSm.source := by
  have hbears : (submitMsg cfg submit).Bears lib (hasUdhIndicator original.submitSm.esmClass)
      original.submitSm.text original.submitSm.source := by
    intro pdu hmem
    simp only [submitMsg, hdnd, Bool.false_eq_true, if_false] at hmem
    obtain rfl := Option.some.inj (hpdu.symm.trans hmem)
    exact ⟨htype, rfl, rfl, rfl⟩
  obtain ⟨packed, -, hunpack⟩ := Option.bind_eq_some_iff.mp hpdu
  obtain ⟨hrouting, hcarried⟩ := h.bears hlib hdnd hsource hmasking hbears
  obtain ⟨htext, hmasked⟩ := hcarried.written hlib hdnd hagain
  obtain ⟨htextFirst, hmaskedFirst⟩ := hbears.written hlib hdnd hfirst
  rw [htext, htextFirst, textFor_iterate_iff (hlib.text hunpack), hmasked, hmaskedFirst, hrouting,
    SourceKept]
  refine and_congr Iff.rfl ?_
  rw [show (submitMsg cfg submit).routingInfo.sourceAddr = submit.sourceAddr from rfl]
  cases mask lib conn submit.sourceAddr with
  | some masked => simp
  | none =>
    cases lastMask lib conns submit.sourceAddr with
    | none => simp
    | some masked => simp

/-! ## Samples -/

/-- The library that packs a `submit_sm`, with sources that are cut and checked. -/
def sampleCodec : Gwlib :=
  { submitSmGwlib with
    smppPduPack := fun pdu => submitSmGwlib.smppPduPack
      { pdu with submitSm := { pdu.submitSm with
          sourceAddr := pdu.submitSm.sourceAddr.map (·.take sourceAddrOctets) } }
    smppPduUnpack := fun packed => (submitSmGwlib.smppPduUnpack packed).filter fun pdu =>
      decide (0 ∉ pdu.submitSm.source ∧ pdu.submitSm.source.length ≤ sourceAddrOctets) }

theorem getD_fieldText (values : List Octstr) (k : ℕ) :
    (fieldText values k).getD [] = values.getD k [] := by
  rw [fieldText]
  split
  · rename_i h
    rw [h]
    rfl
  · rfl

/-- The length of a message is written in one octet. -/
theorem fieldOctet_length (pdu : SubmitSm) :
    fieldOctet (submitSmValues pdu) 19 = pdu.text.length % 256 := by
  have hmod : ((pdu.text.length : ℤ) % 256).toNat % 256 = pdu.text.length % 256 := by omega
  simpa [fieldOctet, submitSmValues, wireNumber, UInt8.toNat_ofNat', SubmitSm.text] using hmod

theorem sampleCodec_submitCodec : SubmitCodec sampleCodec where
  toGsm := rfl
  toGsmNew := rfl
  esmClass h := submitSmGwlib_codec.esmClass (Option.mem_filter_iff.mp h).1
  text h := by
    obtain ⟨h, -⟩ := Option.mem_filter_iff.mp h
    rw [SubmitSm.text]
    cases htext : (_ : SmppPdu).submitSm.shortMessage with
    | none => exact (by decide : 0 < 256)
    | some text => exact submitSmGwlib_codec.length h htext
  source h := of_decide_eq_true (Option.mem_filter_iff.mp h).2
  unpack_pack := by
    intro packed pdu pdu' hpack hunpack hsubmit hlow hhigh hnul
    obtain ⟨-, hpack⟩ := Option.ite_none_right_eq_some.mp hpack
    obtain rfl := Option.some.inj hpack
    obtain ⟨hunpack, -⟩ := Option.mem_filter_iff.mp hunpack
    have hread := readFields_writeFields (submitSmValues_admits { pdu.submitSm with
      sourceAddr := pdu.submitSm.sourceAddr.map (·.take sourceAddrOctets) })
      (pdu.submitSm.shortMessage.getD [])
    simp only [submitSmGwlib, hread, Option.bind_some] at hunpack
    obtain ⟨-, hunpack⟩ := Option.ite_none_right_eq_some.mp hunpack
    obtain rfl := Option.some.inj hunpack
    refine ⟨rfl, wireNumber_one hlow hhigh, ?_, ?_⟩
    · have hlength := fieldOctet_length { pdu.submitSm with
        sourceAddr := pdu.submitSm.sourceAddr.map (·.take sourceAddrOctets) }
      simp only [submitSmOf, SubmitSm.text, Option.getD_some] at hlength ⊢
      rw [hlength]
      rfl
    · have hcut : (pdu.submitSm.sourceAddr.map (·.take sourceAddrOctets)).getD [] =
          pdu.submitSm.source.take sourceAddrOctets := by
        rw [SubmitSm.source]
        cases pdu.submitSm.sourceAddr <;> rfl
      have hchars : ∀ c ∈ pdu.submitSm.source.take sourceAddrOctets, decide (c ≠ 0) = true :=
        fun c hc => decide_eq_true fun h => hnul (h ▸ List.mem_of_mem_take hc)
      simp only [submitSmOf, SubmitSm.source, getD_fieldText]
      change cstr ((pdu.submitSm.sourceAddr.map (·.take sourceAddrOctets)).getD []) = _
      rw [hcut, cstr]
      exact List.takeWhile_eq_self_iff.2 hchars

/-- DND checking is off. -/
def sampleNoDnd : ClientCfg := { dndcheckFlag := false }

/-- A connection whose SMSC has this alternative character set and this masking prefix. -/
def sampleSmsc (altCharset maskingPrefix : Option Octstr) : SmscConn :=
  { sampleConn with
    data := { sampleSmpp with altCharset := altCharset, maskingPrefix := maskingPrefix } }

/-- An SMSC with an alternative character set. -/
def sampleAlt : SmscConn := sampleSmsc (some (octstrImm "latin1")) none

/-- An SMSC with a masking prefix. -/
def sampleMasking : SmscConn := sampleSmsc none (some (octstrImm "MASK"))

/-- A submit of this text. -/
def sampleSubmitOf (text : Octstr) : Submit :=
  { sampleSubmit with
    pdu := sampleCodec.smppPduPack
      ⟨true, { sequenceNumber := 7, sourceAddr := some (octstrImm "ACME"),
               destinationAddr := some (octstrImm "919800000000"), shortMessage := some text }⟩ }

/-- The message behind a first attempt at this SMSC, which answers that its queue is full. -/
def sampleFailed (conn : SmscConn) (text : Octstr) : Option Msg :=
  (attempt sampleCodec sampleNoDnd conn (submitMsg sampleNoDnd (sampleSubmitOf text))).map fun r =>
    handedBack 1002 conn { r.1 with msgState := .sentResp }

theorem history_of_sampleFailed {conn : SmscConn} {text : Octstr} {msg : Msg}
    (h : sampleFailed conn text = some msg) :
    History sampleCodec sampleNoDnd (sampleSubmitOf text) [conn] msg := by
  obtain ⟨⟨msg₁, written⟩, hattempt, rfl⟩ := Option.map_eq_some_iff.mp h
  exact (History.submitted.attempted hattempt).returned rfl rfl

/-- What the second SMSC is written behind the attempt at the first, and what it is written at first. -/
def sampleAgain (conn again : SmscConn) (text : Octstr) : Option (SmppPdu × SmppPdu) :=
  (sampleFailed conn text).bind fun msg =>
    (attempt sampleCodec sampleNoDnd again msg).bind fun r =>
      (attempt sampleCodec sampleNoDnd again (submitMsg sampleNoDnd (sampleSubmitOf text))).map
        fun first => (r.2, first.2)

theorem attempts_of_sampleAgain {conn again : SmscConn} {text : Octstr} {written firstWritten : SmppPdu}
    (h : sampleAgain conn again text = some (written, firstWritten)) :
    ∃ msg msg' first, History sampleCodec sampleNoDnd (sampleSubmitOf text) [conn] msg ∧
      attempt sampleCodec sampleNoDnd again msg = some (msg', written) ∧
      attempt sampleCodec sampleNoDnd again (submitMsg sampleNoDnd (sampleSubmitOf text)) =
        some (first, firstWritten) := by
  obtain ⟨msg, hmsg, h⟩ := Option.bind_eq_some_iff.mp h
  obtain ⟨⟨msg', written⟩, hagain, h⟩ := Option.bind_eq_some_iff.mp h
  obtain ⟨⟨first, firstWritten⟩, hfirst, heq⟩ := Option.map_eq_some_iff.mp h
  obtain ⟨rfl, rfl⟩ := Prod.mk.inj heq
  exact ⟨msg, msg', first, history_of_sampleFailed hmsg, hagain, hfirst⟩

/-- A text without special characters is encoded, and then sent to an SMSC that masks its source. -/
theorem resent_samplePlain :
    ∃ written firstWritten,
      sampleAgain sampleAlt sampleMasking (octstrImm "Pay 5") = some (written, firstWritten) ∧
        written.submitSm.text = firstWritten.submitSm.text ∧
        written.submitSm.source = firstWritten.submitSm.source := by
  obtain ⟨⟨written, firstWritten⟩, hwritten⟩ : ∃ r, sampleAgain sampleAlt sampleMasking
      (octstrImm "Pay 5") = some r := Option.isSome_iff_exists.mp (by decide +kernel)
  obtain ⟨msg, msg', first, hhistory, hagain, hfirst⟩ := attempts_of_sampleAgain hwritten
  obtain ⟨original, hpdu⟩ : ∃ pdu, (sampleSubmitOf (octstrImm "Pay 5")).pdu.bind
      sampleCodec.smppPduUnpack = some pdu := Option.isSome_iff_exists.mp (by decide +kernel)
  have hread : ((sampleSubmitOf (octstrImm "Pay 5")).pdu.bind sampleCodec.smppPduUnpack).map (fun pdu =>
      (pdu.isSubmitSm, hasUdhIndicator pdu.submitSm.esmClass, pdu.submitSm.text)) =
      some (true, false, octstrImm "Pay 5") := by decide +kernel
  rw [hpdu, Option.map_some, Option.some.injEq, Prod.mk.injEq, Prod.mk.injEq] at hread
  obtain ⟨htype, hudh, htext⟩ := hread
  have hsettled : (octstrImm "Pay 5").all (fun c => decide (Settled c)) = true := by decide +kernel
  refine ⟨written, firstWritten, hwritten, (resent_iff sampleCodec sampleNoDnd sampleCodec_submitCodec
    rfl hpdu htype (by decide) (by decide) hhistory hagain hfirst).mpr ⟨.inr ?_, .inl (by decide +kernel)⟩⟩
  rw [hudh, htext]
  exact fun c hc => of_decide_eq_true (List.all_eq_true.mp hsettled c hc)

/-- The text is encoded twice. -/
theorem not_resent :
    ¬ ∀ (lib : Gwlib) (cfg : ClientCfg), SubmitCodec lib → cfg.dndcheckFlag = false →
      ∀ (submit : Submit) (original : SmppPdu), submit.pdu.bind lib.smppPduUnpack = some original →
      original.isSubmitSm = true → 0 ∉ submit.sourceAddr → ∀ conns : List SmscConn,
      (∀ conn ∈ conns, 0 ∉ conn.data.maskingPrefix.getD []) → ∀ msg : Msg,
      History lib cfg submit conns msg → ∀ (conn : SmscConn) (msg' first : Msg)
      (written firstWritten : SmppPdu), attempt lib cfg conn msg = some (msg', written) →
      attempt lib cfg conn (submitMsg cfg submit) = some (first, firstWritten) →
      written.submitSm.text = firstWritten.submitSm.text ∧
        written.submitSm.source = firstWritten.submitSm.source := by
  intro h
  obtain ⟨⟨written, firstWritten⟩, hwritten⟩ : ∃ r, sampleAgain sampleAlt sampleAlt sampleText = some r :=
    Option.isSome_iff_exists.mp (by decide +kernel)
  obtain ⟨msg, msg', first, hhistory, hagain, hfirst⟩ := attempts_of_sampleAgain hwritten
  have hsame := h sampleCodec sampleNoDnd sampleCodec_submitCodec rfl (sampleSubmitOf sampleText)
    (((sampleSubmitOf sampleText).pdu.bind sampleCodec.smppPduUnpack).get (by decide +kernel))
    (Option.some_get _).symm (by decide +kernel) (by decide) [sampleAlt] (by decide) msg hhistory
    sampleAlt msg' first written firstWritten hagain hfirst
  have hdiffer : (sampleAgain sampleAlt sampleAlt sampleText).any
      (fun r => decide (r.1.submitSm.text ≠ r.2.submitSm.text)) = true := by decide +kernel
  rw [hwritten] at hdiffer
  exact of_decide_eq_true hdiffer hsame.1

end SmppServer.SmppSmsc
