import SmppServer.Smsc.Records

/-!
# Smsc/Filing — what the first record of a message shows

The process once more, with what it was given and what it filed: the submits by their numbers, the
messages that were written to an SMSC with an alternative character set, and the records, each with the
number of its message and whether the message was among those.  Such an SMSC gets the text of a message
in the GSM alphabet, and the message carries the encoded text from then on.

Before its first record a message is written at most once: what comes back without a response is given
up by the router.  So it carries the text as it was submitted, or encoded once.

* `Filing.map_record` — the records filed are those handed to the database process.
* `Filing.first_shows` — in **every** reachable state, the first record of a message shows its text,
  encoded exactly if the message had been written to an SMSC with an alternative character set.
-/

namespace SmppServer.SmppSmsc

open Machinery
open scoped List

/-! ## The process with its files -/

/-- A record, the number of its message, and whether the message had been encoded. -/
structure FiledRecord where
  number : ℕ
  encoded : Bool
  record : InsertMis
  deriving DecidableEq, Repr

/-- The process, the submits by number, the messages that were encoded, and the records. -/
structure Filing where
  traffic : Traffic
  submits : List (ℕ × Submit) := []
  encoded : List ℕ := []
  filed : List FiledRecord := []
  deriving DecidableEq

/-- The messages that were written. -/
def writtenNumbers (as : List (Action Key)) : List ℕ :=
  as.filterMap fun
    | .written n _ => some n
    | .answered _ => none

/-- The submit that comes, under the number of its message. -/
def Traffic.submitted (t : Traffic) : TrafficEvent → List (ℕ × Submit)
  | .system (.handleRequest submit) => [(t.system.received.length + 1, submit)]
  | _ => []

/-- The first record of a message. -/
def Filing.first (f : Filing) (n : ℕ) : Option FiledRecord := f.filed.find? (·.number = n)

section Filing

variable (lib : Gwlib) (cfg : ClientCfg)

/-- What a step files. -/
def Filing.files (f : Filing) (e : TrafficEvent) : List FiledRecord :=
  (f.traffic.records lib cfg e).map fun r => ⟨r.1, decide (r.1 ∈ f.encoded), r.2⟩

/-- **One step of the process with its files.** -/
def filingStep (f : Filing) (e : TrafficEvent) : Option Filing :=
  (trafficStep lib cfg f.traffic e).map fun t =>
    { traffic := t
      submits := f.submits ++ f.traffic.submitted e
      encoded := f.encoded ++
        if f.traffic.hasAlt e then writtenNumbers (t.journal.drop f.traffic.journal.length) else []
      filed := f.filed ++ f.files lib cfg e }

/-- The packed PDU is a `submit_sm` without a header, and the text is its message. -/
def Carries (text : Octstr) (packed : Option Octstr) : Prop :=
  ∃ pdu, packed.bind lib.smppPduUnpack = some pdu ∧ pdu.isSubmitSm = true ∧
    hasUdhIndicator pdu.submitSm.esmClass = false ∧ pdu.submitSm.shortMessage = some text

/-- **What is relied on in packing and unpacking**: `esm_class` and the length of the message are one
octet each, and PDUs within that come out as they were put in. -/
structure PduCodec : Prop where
  esmClass : ∀ {packed pdu}, lib.smppPduUnpack packed = some pdu →
    0 ≤ pdu.submitSm.esmClass ∧ pdu.submitSm.esmClass < 256
  length : ∀ {packed pdu text}, lib.smppPduUnpack packed = some pdu →
    pdu.submitSm.shortMessage = some text → text.length < 256
  unpack_pack : ∀ {packed pdu text}, lib.smppPduPack pdu = some packed →
    0 ≤ pdu.submitSm.esmClass → pdu.submitSm.esmClass < 256 →
    pdu.submitSm.shortMessage = some text → text.length < 256 →
    ∃ pdu', lib.smppPduUnpack packed = some pdu' ∧ pdu'.isSubmitSm = pdu.isSubmitSm ∧
      pdu'.submitSm.esmClass = pdu.submitSm.esmClass ∧ pdu'.submitSm.shortMessage = some text

/-- The text as it is after a transmission. -/
def sentText (encoded : Bool) (text : Octstr) : Octstr :=
  if encoded then lib.charsetLatin1ToGsm text else text

/-- What the record of a message shows that was submitted with this text. -/
def FiledRecord.Shows (x : FiledRecord) (text : Octstr) : Prop :=
  hasUdhIndicator x.record.esmClass = false ∧ x.record.msgContent = some (sentText lib x.encoded text)

/-- **A message that has no record yet** may be written only if it never was, and carries its text. -/
def Filing.Kept (f : Filing) (p : Place × Msg) : Prop :=
  ∀ submit text, (p.2.serial, submit) ∈ f.submits → Carries lib text submit.pdu →
    f.first p.2.serial = none →
      (p.1 = .ready → p.2.msgState ≠ .sentNoresp) ∧
      (p.2.msgState ≠ .sentNoresp → p.2.serial ∉ f.encoded) ∧
      ((sentText lib (p.2.serial ∈ f.encoded) text).length < 256 →
        Carries lib (sentText lib (p.2.serial ∈ f.encoded) text) p.2.smInfo.pdu)

/-- What the steps keep. -/
structure Filing.Inv (f : Filing) : Prop where
  sound : f.traffic.custody.Sound Msg.serial (fun _ _ => True) fun _ => True
  submits : ∀ x ∈ f.submits, x.1 ≤ f.traffic.system.received.length
  encoded : ∀ n ∈ f.encoded, ∃ key, .written n key ∈ f.traffic.journal
  filed : ∀ x ∈ f.filed, x.number ≤ f.traffic.system.received.length
  kept : ∀ p ∈ f.traffic.system.copies, f.Kept lib p
  shows : ∀ n x, f.first n = some x → ∀ submit text, (n, submit) ∈ f.submits →
    Carries lib text submit.pdu → (sentText lib x.encoded text).length < 256 → x.Shows lib text

end Filing

section Spec

variable {lib : Gwlib} {cfg : ClientCfg} {f f' : Filing} {t t' : Traffic} {e : TrafficEvent}
  {as : List (Action Key)} {keys : List Key} {p p' : Place × Msg} {n : ℕ} {text : Octstr}

/-! ## Files and numbers

The files grow with the run, and so do the numbers given out; a first record therefore stays the first. -/

theorem filingStep_eq_some (h : filingStep lib cfg f e = some f') :
    trafficStep lib cfg f.traffic e = some f'.traffic ∧
      f'.submits = f.submits ++ f.traffic.submitted e ∧
      f'.encoded = f.encoded ++ (if f.traffic.hasAlt e then
        writtenNumbers (f'.traffic.journal.drop f.traffic.journal.length) else []) ∧
      f'.filed = f.filed ++ f.files lib cfg e := by
  obtain ⟨t, ht, rfl⟩ := Option.map_eq_some_iff.mp h
  exact ⟨ht, rfl, rfl, rfl⟩

/-- **The files** are what is handed to the database process. -/
theorem Filing.map_record (h : filingStep lib cfg f e = some f')
    (hfiled : f.filed.map (·.record) = f.traffic.system.process.queues.insertMis) :
    f'.filed.map (·.record) = f'.traffic.system.process.queues.insertMis := by
  obtain ⟨ht, -, -, hfiles⟩ := filingStep_eq_some h
  rw [hfiles, List.map_append, hfiled, trafficStep_insertMis ht, Filing.files, List.map_map]
  rfl

theorem mem_writtenNumbers : n ∈ writtenNumbers as ↔ ∃ key, .written n key ∈ as := by
  rw [writtenNumbers, List.mem_filterMap]
  constructor
  · rintro ⟨a, ha, heq⟩
    cases a with
    | written n' key =>
      obtain rfl := Option.some.inj heq
      exact ⟨key, ha⟩
    | answered key => exact absurd heq nofun
  · rintro ⟨key, hkey⟩
    exact ⟨.written n key, hkey, rfl⟩

/-- Nothing is lost from the files. -/
theorem Filing.first_eq_none_of_append {new : List FiledRecord} (h : f'.filed = f.filed ++ new)
    (hnone : f'.first n = none) : f.first n = none ∧ ∀ x ∈ new, x.number ≠ n := by
  rw [Filing.first, h, List.find?_append, Option.or_eq_none_iff] at hnone
  refine ⟨hnone.1, fun x hx => ?_⟩
  simpa using List.find?_eq_none.mp hnone.2 x hx

/-- A first record is an old one, or the step's. -/
theorem Filing.first_eq_some_of_append {new : List FiledRecord} {x : FiledRecord}
    (h : f'.filed = f.filed ++ new) (hx : f'.first n = some x) :
    f.first n = some x ∨ f.first n = none ∧ x ∈ new ∧ x.number = n := by
  rw [Filing.first, h, List.find?_append] at hx
  cases hfirst : f.filed.find? (·.number = n) with
  | some y =>
    rw [hfirst, Option.some_or] at hx
    exact .inl (hfirst.trans hx)
  | none =>
    rw [hfirst, Option.none_or] at hx
    exact .inr ⟨hfirst, List.mem_of_find?_eq_some hx, by simpa using List.find?_some hx⟩

/-- A submit that comes gets the next number. -/
theorem handleRequest_received {s s' : System} {submit : Submit}
    (h : handleRequest lib cfg s submit = some s') :
    s'.received = s.received ++ [submit.accountMsgId] := by
  cases handleRequest_outcome h with
  | recorded | taken | destroyed => rfl

/-- A number that is given out is a number of the process then. -/
theorem submitted_le (h : trafficStep lib cfg t e = some t') {x : ℕ × Submit}
    (hx : x ∈ t.submitted e) :
    x.1 = t.system.received.length + 1 ∧ t'.system.received.length = t.system.received.length + 1 := by
  unfold Traffic.submitted at hx
  split at hx
  · obtain rfl := List.mem_singleton.mp hx
    obtain ⟨s', hs, rfl⟩ := Option.map_eq_some_iff.mp h
    exact ⟨rfl, by rw [handleRequest_received hs, List.length_append]; rfl⟩
  · exact absurd hx List.not_mem_nil

/-- The moves need nothing of a message to keep its number its own. -/
theorem keeps_true (cfg : ClientCfg) : Keeps Msg.serial Entered (Handling cfg)
    (fun (_ : List (Action Key)) _ => True) fun _ => True :=
  ⟨fun _ _ => trivial, fun _ _ => trivial, fun _ _ _ => trivial, fun _ => trivial,
    fun _ _ _ => trivial⟩

/-- A step adds to the journal, and no number is taken back. -/
theorem Passes.grows {alt : Bool} {c c' : Custody Place Msg Key} (h : Passes lib cfg alt e c c') :
    (∃ new, c'.journal = c.journal ++ new) ∧ c.issued ≤ c'.issued := by
  cases h with
  | shrink _ hjournal hissued => exact ⟨⟨_, hjournal⟩, hissued⟩
  | enter _ _ _ hjournal hissued =>
    exact ⟨⟨[], by rw [hjournal, List.append_nil]⟩, hissued ▸ Nat.le_succ _⟩
  | move _ _ _ _ _ hjournal hissued =>
    exact ⟨⟨_, by rw [hjournal, List.append_assoc]⟩, hissued.ge⟩

/-- What a step encodes, from what it adds to the journal. -/
theorem Filing.mem_encoded (h : filingStep lib cfg f e = some f') {new : List (Action Key)}
    (hjournal : f'.traffic.journal = f.traffic.journal ++ new) :
    n ∈ f'.encoded ↔
      n ∈ f.encoded ∨ f.traffic.hasAlt e = true ∧ ∃ key, .written n key ∈ new := by
  rw [(filingStep_eq_some h).2.2.1, hjournal, List.drop_left, List.mem_append]
  cases f.traffic.hasAlt e with
  | true => simp [mem_writtenNumbers]
  | false => simp

/-! ## Messages without a record

What comes back without an answer is given up by the router.  So a message that has no record was written at
most once, and what it carries is its text or what that transmission made of it. -/

/-- Nothing that concerns a message happened. -/
theorem Filing.Kept.frame (h : f.Kept lib p)
    (hsubmits : ∀ submit, (p.2.serial, submit) ∈ f'.submits → (p.2.serial, submit) ∈ f.submits)
    (hfirst : f'.first p.2.serial = none → f.first p.2.serial = none)
    (hencoded : p.2.serial ∈ f'.encoded ↔ p.2.serial ∈ f.encoded) : f'.Kept lib p := by
  intro submit text hsubmit htext hnone
  simp only [hencoded]
  exact h submit text (hsubmits submit hsubmit) htext (hfirst hnone)

/-- A move that is no transmission writes nothing. -/
theorem Handling.not_written (hmove : Handling cfg p p' as) (hplace : ∀ key, p'.1 ≠ .sent key)
    (n : ℕ) (key : Key) : .written n key ∉ as := by
  cases hmove with
  | route _ | handBack _ | take _ _ _ | expire _ _ => exact List.not_mem_nil
  | transmit _ _ => exact absurd rfl (hplace _)
  | answer _ => simp

/-- **A message moves on** with what it carries, unless it is answered. -/
theorem Filing.Kept.carry (h : f.Kept lib p) (hmove : Handling cfg p p' as)
    (hplace : ∀ key, p'.1 ≠ .sent key) (hinfo : p'.2.smInfo = p.2.smInfo)
    (hstate : p'.2.msgState = .sentNoresp → p.2.msgState = .sentNoresp)
    (hserial : p'.2.serial = p.2.serial)
    (hsubmits : ∀ submit, (p.2.serial, submit) ∈ f'.submits → (p.2.serial, submit) ∈ f.submits)
    (hfirst : f'.first p.2.serial = none →
      f.first p.2.serial = none ∧ ∀ key, p.1 = .sent key → .answered key ∉ as)
    (hencoded : p.2.serial ∈ f'.encoded ↔ p.2.serial ∈ f.encoded) : f'.Kept lib p' := by
  intro submit text hsubmit htext hnone
  rw [hserial] at hsubmit hnone ⊢
  rw [hinfo]
  simp only [hencoded]
  obtain ⟨hfirst, hanswer⟩ := hfirst hnone
  obtain ⟨hready, hfresh, hcarries⟩ := h submit text (hsubmits submit hsubmit) htext hfirst
  refine ⟨?_, ?_, hcarries⟩
  · -- it may be written: it comes out of a queue, or past the check of the router
    intro hplace' hsent
    cases hmove with
    | route _ => exact hready rfl (hstate hsent)
    | take hcheck _ _ => exact hcheck (hstate hsent)
    | handBack _ | expire _ _ | answer _ => exact absurd hplace' nofun
    | transmit _ _ => exact absurd hplace' nofun
  · intro hnot
    cases hmove with
    | route _ | handBack _ => exact hfresh (hready rfl)
    | take hcheck _ _ => exact hfresh hcheck
    | expire hsame _ => exact hfresh (hsame ▸ hnot)
    | answer _ => exact absurd (List.mem_singleton_self _) (hanswer _ rfl)
    | transmit _ _ => exact absurd rfl (hplace _)

/-- A PDU that is written again carries what the transmission made of the text. -/
theorem Carries.recoded {alt : Bool} {packed packed' : Option Octstr} (hlib : PduCodec lib)
    (h : Carries lib text packed) (hrecoded : Recoded lib alt packed packed')
    (hlength : (sentText lib alt text).length < 256) : Carries lib (sentText lib alt text) packed' := by
  obtain ⟨pdu, hpdu, hsubmit, hudh, htext⟩ := h
  obtain ⟨pdu', rfl, hpacked, hsubmit', hesm, hmessage⟩ := hrecoded pdu hpdu hsubmit hudh
  obtain ⟨packed', hpacked⟩ := Option.isSome_iff_exists.mp hpacked
  have hmessage' : pdu'.submitSm.shortMessage = some (sentText lib alt text) := by
    rw [hmessage, htext]
    cases alt <;> rfl
  obtain ⟨packed, -, hunpack⟩ := Option.bind_eq_some_iff.mp hpdu
  obtain ⟨hlow, hhigh⟩ := hlib.esmClass hunpack
  obtain ⟨pdu'', hunpack', hsubmit'', hesm'', htext''⟩ :=
    hlib.unpack_pack hpacked (by rwa [hesm]) (by rwa [hesm]) hmessage' hlength
  refine ⟨pdu'', by rw [hpacked]; exact hunpack', hsubmit''.trans hsubmit', ?_, htext''⟩
  rw [hesm'', hesm]
  exact hudh

theorem Carries.length (hlib : PduCodec lib) {packed : Option Octstr} (h : Carries lib text packed) :
    text.length < 256 := by
  obtain ⟨pdu, hpdu, -, -, htext⟩ := h
  obtain ⟨packed, -, hunpack⟩ := Option.bind_eq_some_iff.mp hpdu
  exact hlib.length hunpack htext

/-- **A message is transmitted** for the first time. -/
theorem Filing.Kept.transmit {m m' : Msg} {key : Key} {alt : Bool} (hlib : PduCodec lib)
    (h : f.Kept lib (.ready, m)) (hstate : m'.msgState = .sentNoresp)
    (hrecoded : Recoded lib alt m.smInfo.pdu m'.smInfo.pdu) (hserial : m'.serial = m.serial)
    (hsubmits : ∀ submit, (m.serial, submit) ∈ f'.submits → (m.serial, submit) ∈ f.submits)
    (hfirst : f'.first m.serial = none → f.first m.serial = none)
    (hencoded : m.serial ∈ f'.encoded ↔ m.serial ∈ f.encoded ∨ alt = true) :
    f'.Kept lib (.sent key, m') := by
  intro submit text hsubmit htext hnone
  dsimp only at hsubmit hnone ⊢
  rw [hserial] at hsubmit hnone ⊢
  obtain ⟨hready, hfresh, hcarries⟩ := h submit text (hsubmits submit hsubmit) htext (hfirst hnone)
  have hnot : m.serial ∉ f.encoded := hfresh (hready rfl)
  have hnow : decide (m.serial ∈ f'.encoded) = alt := by
    cases alt <;> simp [hencoded, hnot]
  refine ⟨nofun, fun hne => absurd hstate hne, fun hlength => ?_⟩
  simp only [hnot, decide_false] at hcarries
  rw [hnow] at hlength ⊢
  exact (hcarries (htext.length hlib)).recoded hlib hrecoded hlength

/-- Under a number that is not given out yet, nothing was submitted or encoded. -/
theorem Filing.Inv.fresh (hi : f.Inv lib) (hn : f.traffic.system.received.length < n) :
    (∀ submit, (n, submit) ∉ f.submits) ∧ n ∉ f.encoded := by
  refine ⟨fun submit hmem => ?_, fun hmem => ?_⟩
  · have hle : n ≤ f.traffic.system.received.length := hi.submits _ hmem
    omega
  · obtain ⟨key, hkey⟩ := hi.encoded n hmem
    have hle : n ≤ f.traffic.system.received.length := hi.sound.named _ key hkey
    omega

/-- What is submitted under the number that is given out now. -/
theorem Filing.Inv.submit_eq (hi : f.Inv lib) {submit submit' : Submit}
    (h : filingStep lib cfg f (.system (.handleRequest submit)) = some f')
    (hmem : (f.traffic.system.received.length + 1, submit') ∈ f'.submits) : submit' = submit := by
  rw [(filingStep_eq_some h).2.1] at hmem
  obtain hbefore | hnow := List.mem_append.mp hmem
  · exact absurd hbefore ((hi.fresh (Nat.lt_succ_self _)).1 submit')
  · exact (Prod.mk.inj (List.mem_singleton.mp hnow)).2

/-- What is submitted under a number that was given out before, was submitted before. -/
theorem Filing.mem_submits_of_le (h : filingStep lib cfg f e = some f')
    (hn : n ≤ f.traffic.system.received.length) {submit : Submit} (hmem : (n, submit) ∈ f'.submits) :
    (n, submit) ∈ f.submits := by
  obtain ⟨ht, hsubmits, -, -⟩ := filingStep_eq_some h
  rw [hsubmits] at hmem
  refine (List.mem_append.mp hmem).resolve_right fun hnew => ?_
  have hnext : n = f.traffic.system.received.length + 1 := (submitted_le ht hnew).1
  omega

/-- A step that writes nothing under a number encodes nothing under it. -/
theorem Filing.mem_encoded_of_not_written (h : filingStep lib cfg f e = some f')
    {new : List (Action Key)} (hjournal : f'.traffic.journal = f.traffic.journal ++ new)
    (hnone : ∀ key, .written n key ∉ new) : n ∈ f'.encoded ↔ n ∈ f.encoded := by
  rw [Filing.mem_encoded h hjournal, or_iff_left]
  rintro ⟨-, key, hkey⟩
  exact hnone key hkey

/-- **A message comes in** with the text of its submit. -/
theorem Filing.Inv.kept_enter (hdnd : cfg.dndcheckFlag = false) (hi : f.Inv lib) {submit : Submit}
    {q : Place × Msg} (h : filingStep lib cfg f (.system (.handleRequest submit)) = some f')
    (hjournal : f'.traffic.journal = f.traffic.journal)
    (hnumber : q.2.serial = f.traffic.system.received.length + 1)
    (hinfo : q.2.smInfo = (submitMsg cfg submit).smInfo) (hstate : q.2.msgState = .notRouted) :
    f'.Kept lib q := by
  intro submit' text hsubmit htext hnone
  rw [hnumber] at hsubmit
  have hnot : q.2.serial ∉ f'.encoded := by
    rw [Filing.mem_encoded_of_not_written h (hjournal.trans (List.append_nil _).symm) (by simp), hnumber]
    exact (hi.fresh (Nat.lt_succ_self _)).2
  have hpdu : q.2.smInfo.pdu = submit.pdu := by
    rw [hinfo]
    simp [submitMsg, hdnd]
  refine ⟨fun _ => by simp [hstate], fun _ => hnot, fun _ => ?_⟩
  rw [hpdu, ← hi.submit_eq h hsubmit]
  simpa [sentText, hnot] using htext

/-- **A message is moved.**  An answer makes a record. -/
theorem Filing.Inv.kept_move (hlib : PduCodec lib) (hdnd : cfg.dndcheckFlag = false) (hi : f.Inv lib)
    (h : filingStep lib cfg f e = some f') (hp : p ∈ f.traffic.system.copies)
    (hmove : Passage lib cfg (f.traffic.hasAlt e) p p' as) (hnumber : p'.2.serial = p.2.serial)
    (hjournal : f'.traffic.journal = f.traffic.journal ++ (as ++ keys.map .answered)) :
    f'.Kept lib p' := by
  obtain ⟨ht, -, -, hfiled⟩ := filingStep_eq_some h
  have hold : ∀ submit, (p.2.serial, submit) ∈ f'.submits → (p.2.serial, submit) ∈ f.submits :=
    fun _ => Filing.mem_submits_of_le h (hi.sound.known p hp)
  cases hmove with
  | carry hmove hplace hinfo _ hstate =>
    refine (hi.kept p hp).carry hmove hplace hinfo hstate hnumber hold (fun hnone => ?_) ?_
    · obtain ⟨hnone, hnew⟩ := Filing.first_eq_none_of_append hfiled hnone
      refine ⟨hnone, fun key hsent hanswer => ?_⟩
      obtain ⟨place, m⟩ := p
      obtain rfl : place = .sent key := hsent
      have hrecord := Traffic.mem_records_of_answered ht hp hjournal (List.mem_append_left _ hanswer)
      obtain ⟨r, hr, hr'⟩ := List.mem_map.mp hrecord
      exact hnew _ (List.mem_map.mpr ⟨r, hr, rfl⟩) hr'
    · refine Filing.mem_encoded_of_not_written h hjournal fun key hkey => ?_
      obtain hkey | hkey := List.mem_append.mp hkey
      · exact hmove.not_written hplace _ key hkey
      · simp at hkey
  | @transmit m m' key hmove hstate hpdu _ =>
    refine (hi.kept (.ready, m) hp).transmit hlib hstate (hpdu hdnd) hnumber hold
      (fun hnone => (Filing.first_eq_none_of_append hfiled hnone).1) ?_
    rw [Filing.mem_encoded h hjournal]
    simp

/-- A message stays, and nothing is written under its number. -/
theorem Filing.Inv.kept_stay (hi : f.Inv lib) (h : filingStep lib cfg f e = some f')
    (hp : p ∈ f.traffic.system.copies) {new : List (Action Key)}
    (hjournal : f'.traffic.journal = f.traffic.journal ++ new)
    (hnone : ∀ key, .written p.2.serial key ∉ new) : f'.Kept lib p :=
  (hi.kept p hp).frame (fun _ => Filing.mem_submits_of_le h (hi.sound.known p hp))
    (fun hnone => (Filing.first_eq_none_of_append (filingStep_eq_some h).2.2.2 hnone).1)
    (Filing.mem_encoded_of_not_written h hjournal hnone)

/-- A step keeps every message without a record as it should be. -/
theorem Filing.Inv.kept_step (hlib : PduCodec lib) (hdnd : cfg.dndcheckFlag = false) (hi : f.Inv lib)
    (h : filingStep lib cfg f e = some f') (q : Place × Msg) (hq : q ∈ f'.traffic.system.copies) :
    f'.Kept lib q := by
  cases trafficStep_passes (filingStep_eq_some h).1 with
  | shrink hcopies hjournal _ => exact hi.kept_stay h (hcopies.subset hq) hjournal (by simp)
  | @enter p hcopies hentry hnumber hjournal hissued =>
    obtain rfl | hp := List.mem_cons.mp (hcopies.subset hq)
    · obtain ⟨-, submit, rfl, hinfo, hstate, -⟩ := hentry
      exact hi.kept_enter hdnd h hjournal hnumber hinfo hstate
    · exact hi.kept_stay h hp (hjournal.trans (List.append_nil _).symm) (by simp)
  | @move p p' rest as keys hfrom hto hmove hnumber hown hjournal hissued =>
    have hjournal' : f'.traffic.journal = f.traffic.journal ++ (as ++ keys.map .answered) := by
      rw [← List.append_assoc]
      exact hjournal
    obtain rfl | hrest := List.mem_cons.mp (hto.subset hq)
    · exact hi.kept_move hlib hdnd h (hfrom.mem_iff.mpr List.mem_cons_self) hmove hnumber hjournal'
    · refine hi.kept_stay h (hfrom.mem_iff.mpr (List.mem_cons_of_mem p hrest)) hjournal'
        fun key hkey => ?_
      obtain hkey | hkey := List.mem_append.mp hkey
      · -- what is written has the number of the message moved, and no other message has it
        have hnodup := (hfrom.map fun p => p.2.serial).nodup_iff.mp hi.sound.nodup
        rw [List.map_cons, List.nodup_cons] at hnodup
        exact hnodup.1 (List.mem_map.mpr ⟨q, hrest, hown _ key hkey⟩)
      · simp at hkey

/-! ## First records

The record of an answer is made of what the message carries then, and that of a message given up of what it
carries while it waits. -/

/-- What is filed is about a message of the process. -/
theorem Filing.Inv.files_le (hi : f.Inv lib) (h : filingStep lib cfg f e = some f') {x : FiledRecord}
    (hx : x ∈ f.files lib cfg e) : x.number ≤ f'.traffic.system.received.length := by
  obtain ⟨ht, -, -, -⟩ := filingStep_eq_some h
  obtain ⟨⟨n, record⟩, hr, rfl⟩ := List.mem_map.mp hx
  obtain ⟨p, hp, -, rfl, -⟩ | ⟨submit, rfl, rfl, -⟩ := Traffic.mem_records hr
  · exact (hi.sound.known p hp).trans (trafficStep_passes ht).grows.2
  · have hnew : (f.traffic.system.received.length + 1, submit) ∈
        f.traffic.submitted (.system (.handleRequest submit)) := List.mem_singleton_self _
    exact (submitted_le ht hnew).2.ge

/-- A record shows what it was made of. -/
theorem InsertMis.Shows.carries {record : InsertMis} {pdu : SmppPdu} {packed : Option Octstr}
    (h : record.Shows pdu) (hpdu : packed.bind lib.smppPduUnpack = some pdu)
    (htext : Carries lib text packed) :
    hasUdhIndicator record.esmClass = false ∧ record.msgContent = some text := by
  obtain ⟨hesm, hcontent⟩ := h
  obtain ⟨pdu', hpdu', -, hudh, hmessage⟩ := htext
  obtain rfl := Option.some.inj (hpdu.symm.trans hpdu')
  exact ⟨by rw [hesm, hudh], by rw [hcontent, hmessage]⟩

/-- What is filed for a message that had no record. -/
theorem Filing.Inv.shows_step (hi : f.Inv lib) (h : filingStep lib cfg f e = some f')
    {x : FiledRecord} (hnone : f.first x.number = none) (hx : x ∈ f.files lib cfg e) {submit : Submit}
    (hsubmit : (x.number, submit) ∈ f'.submits) (htext : Carries lib text submit.pdu)
    (hlength : (sentText lib x.encoded text).length < 256) : x.Shows lib text := by
  obtain ⟨⟨n, record⟩, hr, rfl⟩ := List.mem_map.mp hx
  dsimp only at hnone hsubmit
  obtain ⟨p, hp, hplace, rfl, pdu, hpdu, hrecord⟩ | ⟨submit₀, rfl, rfl, pdu, hpdu, hrecord⟩ :=
    Traffic.mem_records hr
  · have hbefore := Filing.mem_submits_of_le h (hi.sound.known p hp) hsubmit
    obtain ⟨-, -, hcarries⟩ := hi.kept p hp submit text hbefore htext hnone
    exact hrecord.carries hpdu (hcarries hlength)
  · -- the number is new: nothing was submitted or written under it
    have hnot := (hi.fresh (Nat.lt_succ_self _)).2
    rw [hi.submit_eq h hsubmit] at htext
    simpa [FiledRecord.Shows, sentText, hnot] using hrecord.carries hpdu htext

/-- **Every step keeps the invariant.** -/
theorem Filing.Inv.step (hlib : PduCodec lib) (hdnd : cfg.dndcheckFlag = false) (hi : f.Inv lib)
    (h : filingStep lib cfg f e = some f') : f'.Inv lib := by
  obtain ⟨ht, hsubmits, -, hfiled⟩ := filingStep_eq_some h
  obtain ⟨⟨new, hnew⟩, hgrows⟩ := (trafficStep_passes ht).grows
  refine ⟨hi.sound.shift (keeps_true cfg) (trafficStep_shifts ht), ?_, ?_, ?_,
    hi.kept_step hlib hdnd h, ?_⟩
  · intro x hx
    rw [hsubmits] at hx
    obtain hx | hx := List.mem_append.mp hx
    · exact (hi.submits x hx).trans hgrows
    · obtain ⟨hnext, hlength⟩ := submitted_le ht hx
      omega
  · intro n hn
    rw [show f'.traffic.journal = f.traffic.journal ++ new from hnew]
    obtain hn | ⟨-, key, hkey⟩ := (Filing.mem_encoded h hnew).mp hn
    · obtain ⟨key, hkey⟩ := hi.encoded n hn
      exact ⟨key, List.mem_append_left _ hkey⟩
    · exact ⟨key, List.mem_append_right _ hkey⟩
  · intro x hx
    rw [hfiled] at hx
    obtain hx | hx := List.mem_append.mp hx
    · exact (hi.filed x hx).trans hgrows
    · exact hi.files_le h hx
  · intro n x hx submit text hsubmit htext hlength
    obtain hbefore | ⟨hnone, hmem, rfl⟩ := Filing.first_eq_some_of_append hfiled hx
    · have hle : n ≤ f.traffic.system.received.length := by
        have hnumber : x.number = n := by simpa using List.find?_some hbefore
        exact hnumber ▸ hi.filed x (List.mem_of_find?_eq_some hbefore)
      exact hi.shows n x hbefore submit text (Filing.mem_submits_of_le h hle hsubmit) htext hlength
    · exact hi.shows_step h hnone hmem hsubmit htext hlength

/-- When the process starts there is nothing to keep. -/
theorem Filing.Inv.init (hs : t.Start) : Filing.Inv lib { traffic := t } where
  sound := hs.sound trivial
  submits x hx := absurd hx List.not_mem_nil
  encoded n hn := absurd hn List.not_mem_nil
  filed x hx := absurd hx List.not_mem_nil
  kept p hp := by rw [hs.copies] at hp; exact absurd hp List.not_mem_nil
  shows n x hx := nomatch hx

/-- The records filed in a run are those handed to the database process. -/
theorem Filing.map_record_of_exec (hs : t.Start) {es : List TrafficEvent}
    (hr : exec (filingStep lib cfg) { traffic := t } es = some f) :
    f.filed.map (·.record) = f.traffic.system.process.queues.insertMis :=
  exec_invariant_of_step
    (P := fun f => f.filed.map (·.record) = f.traffic.system.process.queues.insertMis)
    (fun hfiled hstep => Filing.map_record hstep hfiled) (by rw [hs.system.queues]; rfl) hr

/-- **First records**: in every reachable state the records filed are those handed to the database process, and
the first record of a message that was submitted with a text shows this text, encoded if the message had been
written to an SMSC with an alternative character set, if the length of the encoded text fits an octet. -/
theorem Filing.first_shows (hlib : PduCodec lib) (hdnd : cfg.dndcheckFlag = false) (hs : t.Start)
    {es : List TrafficEvent} (hr : exec (filingStep lib cfg) { traffic := t } es = some f)
    {x : FiledRecord} (hx : f.first n = some x) {submit : Submit} (hsubmit : (n, submit) ∈ f.submits)
    (htext : Carries lib text submit.pdu) (hlength : (sentText lib x.encoded text).length < 256) :
    f.filed.map (·.record) = f.traffic.system.process.queues.insertMis ∧ x.Shows lib text := by
  have hi : f.Inv lib := exec_invariant_of_step (P := Filing.Inv lib)
    (fun hi hstep => hi.step hlib hdnd hstep) (.init hs) hr
  exact ⟨Filing.map_record_of_exec hs hr, hi.shows n x hx submit text hsubmit htext hlength⟩

end Spec

end SmppServer.SmppSmsc
