import SmppServer.Gwlib.Scanf
import SmppServer.Smsc.DeliverSm

/-!
# Esme/UpdateInfo — the status of a receipt, read a second time

The SMSC process reads the status of a message off the text of its receipt with `get_smscid`; before the
ESME process hands the receipt on, `update_info` reads it again, with a format for `sscanf`.  The
conversion for the state takes everything up to the `e` of `err`, the blank before it included, and the
text is then compared with the names of the states.

* `updateInfo_receipt` — on a well-formed receipt `update_info` computes the status `10`, or overruns the
  buffer of the id.
* `updateInfo_status_ne` — so the two readers agree on **no** receipt.
-/

namespace SmppServer.SmppEsme

open SmppSmsc

/-! ## The code

The format of `sscanf` as a list of directives, for the scanner of `Gwlib/Scanf`; each conversion writes to a
buffer of its size. -/

/-- The format of `update_info` behind the id, with the sizes of its buffers. -/
def updateInfoFields : List Directive :=
  literal (octstrImm " sub:") ++ .string 4 ::
    (literal (octstrImm " dlvrd:") ++ .string 4 ::
      (literal (octstrImm " submit date:") ++ .set 12 gwIsdigit 12 ::
        (literal (octstrImm " done date:") ++ .set 12 gwIsdigit 12 ::
          (literal (octstrImm " stat:") ++ .set 10 (· ≠ 101) 20 ::
            (literal (octstrImm " err:") ++ [.string 4])))))

/-- The format of `update_info`. -/
def updateInfoFormat : List Directive :=
  literal (octstrImm "id:") ++ .set 64 (· ≠ 115) 64 :: updateInfoFields

/-- The status for the state that was read. -/
def updateInfoStatus (stat : Octstr) : ℤ :=
  if stat = octstrImm "DELIVRD" then 1
  else if stat = octstrImm "EXPIRED" then 2
  else if stat = octstrImm "DELETED" then 3
  else if stat = octstrImm "UNDELIV" then 4
  else if stat = octstrImm "ACCEPTD" then 5
  else if stat = octstrImm "UNKNOWN" then 6
  else if stat = octstrImm "REJECTD" then 7
  else 10

/-- The text that `update_info` reads. -/
def receiptText (pdu : DeliverSm) : Option Octstr :=
  if (pdu.shortMessage.getD []).length = 0 then pdu.messagePayload else pdu.shortMessage

/-- **`update_info`**: the status, and the receipt with the account's id in it.  There is no result if a
buffer is overrun, or a variable is read that was not set. -/
def updateInfo (pdu : DeliverSm) (accountMsgId : Octstr) : Option (ℤ × DeliverSm) :=
  match sscanf ((receiptText pdu).getD []) updateInfoFormat with
  | some [_, sub, dlvrd, submitDate, doneDate, stat, err] => some
      (updateInfoStatus stat,
        { pdu with
          receiptedMessageId := some accountMsgId
          shortMessage := some (octstrImm "id:" ++ cstr accountMsgId ++ octstrImm " sub:" ++ sub ++
            octstrImm " dlvrd:" ++ dlvrd ++
            octstrImm " submit date:" ++ (if submitDate = [] then doneDate else submitDate) ++
            octstrImm " done date:" ++ doneDate ++ octstrImm " stat:" ++ stat ++
            octstrImm " err:" ++ err ++ octstrImm "  text:") })
  | _ => none

/-! ## Receipts

On a receipt in the standard form the scan can be followed directive by directive.  The conversion for the state
stops at the `e` of the next label, one blank too late. -/

/-- The states of a message. -/
inductive MessageState
  | delivrd
  | expired
  | deleted
  | undeliv
  | acceptd
  | unknown
  | rejectd
  deriving DecidableEq, Repr

/-- Their names in a receipt. -/
def MessageState.name : MessageState → Octstr
  | .delivrd => octstrImm "DELIVRD"
  | .expired => octstrImm "EXPIRED"
  | .deleted => octstrImm "DELETED"
  | .undeliv => octstrImm "UNDELIV"
  | .acceptd => octstrImm "ACCEPTD"
  | .unknown => octstrImm "UNKNOWN"
  | .rejectd => octstrImm "REJECTD"

/-- A number of a fixed width. -/
def Digits (width : ℕ) (s : Octstr) : Prop := s.length = width ∧ ∀ c ∈ s, gwIsdigit c = true

instance (width : ℕ) (s : Octstr) : Decidable (Digits width s) :=
  have : Decidable (∀ c ∈ s, gwIsdigit c = true) := List.decidableBAll _ _
  inferInstanceAs (Decidable (_ ∧ _))

/-- A receipt in the standard form; the id has no blank and no `s`. -/
structure StandardReceipt where
  id : Octstr
  idPlain : ∀ c ∈ id, c ≠ 32 ∧ c ≠ 115
  sub : Octstr
  subDigits : Digits 3 sub
  dlvrd : Octstr
  dlvrdDigits : Digits 3 dlvrd
  submitDate : Octstr
  submitDateDigits : Digits 10 submitDate
  doneDate : Octstr
  doneDateDigits : Digits 10 doneDate
  stat : MessageState
  err : Octstr
  errDigits : Digits 3 err
  text : Octstr

/-- The receipt behind its id. -/
def StandardReceipt.fields (r : StandardReceipt) (text : Octstr) : Octstr :=
  octstrImm " sub:" ++ (r.sub ++ (octstrImm " dlvrd:" ++ (r.dlvrd ++ (octstrImm " submit date:" ++
    (r.submitDate ++ (octstrImm " done date:" ++ (r.doneDate ++ (octstrImm " stat:" ++
      (r.stat.name ++ (octstrImm " err:" ++ (r.err ++ (octstrImm " text:" ++ text))))))))))))

/-- The receipt as a text. -/
def StandardReceipt.octets (r : StandardReceipt) : Octstr :=
  octstrImm "id:" ++ (r.id ++ r.fields r.text)

section Scanning

variable {r : StandardReceipt} {w s : Octstr} {n : ℕ}

theorem gwIsdigit_iff {c : UInt8} : gwIsdigit c = true ↔ 48 ≤ c ∧ c ≤ 57 := by
  simp [gwIsdigit]

/-- A digit is no blank and no terminator. -/
theorem not_isSpace_of_gwIsdigit {c : UInt8} (h : gwIsdigit c = true) : isSpace c = false ∧ c ≠ 0 := by
  obtain ⟨hlo, hhi⟩ := gwIsdigit_iff.mp h
  rw [UInt8.le_iff_toNat_le] at hlo hhi
  simp only [isSpace, Bool.or_eq_false_iff, Bool.and_eq_false_iff, beq_eq_false_iff_ne, ne_eq,
    decide_eq_false_iff_not, UInt8.le_iff_toNat_le, ← UInt8.toNat_inj, UInt8.toNat_ofNat] at *
  omega

theorem Digits.zero_notMem (h : Digits n w) : 0 ∉ w := fun hc =>
  (not_isSpace_of_gwIsdigit (h.2 0 hc)).2 rfl

theorem Digits.ne_nil (h : Digits (n + 1) w) : w ≠ [] := by
  rintro rfl
  exact absurd h.1 (by simp)

/-- A number behind its label, read as a word. -/
theorem scan_label_string {l m : Octstr} {f : List Directive} {size : ℕ} (hl : blanksSingle l = true)
    (hw : Digits (n + 1) w) (hsize : n + 1 < size) :
    scan (literal l ++ .string size :: f) (l ++ (w ++ (32 :: m ++ s))) =
      (scan f (32 :: m ++ s)).map (w :: ·) := by
  rw [scan_literal hl, List.cons_append]
  exact scan_string hw.ne_nil (fun c hc => (not_isSpace_of_gwIsdigit (hw.2 c hc)).1) (by decide)
    (hw.1 ▸ hsize)

/-- A number behind its label, read digit by digit. -/
theorem scan_label_digits {l m : Octstr} {f : List Directive} {size width : ℕ}
    (hl : blanksSingle l = true) (hw : Digits (n + 1) w) (hwidth : n + 1 ≤ width)
    (hsize : n + 1 < size) :
    scan (literal l ++ .set width gwIsdigit size :: f) (l ++ (w ++ (32 :: m ++ s))) =
      (scan f (32 :: m ++ s)).map (w :: ·) := by
  rw [scan_literal hl, List.cons_append]
  exact scan_set hw.ne_nil hw.2 (by decide) (hw.1 ▸ hwidth) (hw.1 ▸ hsize)

theorem MessageState.name_spec (state : MessageState) :
    state.name.length = 7 ∧ 0 ∉ state.name ∧ 101 ∉ state.name := by
  cases state <;> decide

/-- **The state is read with the blank behind it.** -/
theorem scan_stat {m : Octstr} {f : List Directive} (state : MessageState) :
    scan (literal (octstrImm " stat:") ++ .set 10 (· ≠ 101) 20 :: f)
        (octstrImm " stat:" ++ (state.name ++ (32 :: 101 :: m))) =
      (scan f (101 :: m)).map ((state.name ++ [32]) :: ·) := by
  obtain ⟨hlen, -, hname⟩ := state.name_spec
  have hlength : (state.name ++ [32]).length = 8 := by rw [List.length_append, hlen]; rfl
  have hsplit : state.name ++ (32 :: 101 :: m) = (state.name ++ [32]) ++ 101 :: m := by simp
  rw [scan_literal (by decide), hsplit]
  refine scan_set (by simp) (fun c hc => ?_) (by decide) (by omega) (by omega)
  obtain hc | hc := List.mem_append.mp hc
  · simpa using ne_of_mem_of_not_mem hc hname
  · rw [List.mem_singleton.mp hc]
    decide

/-- What is stored when the receipt is read from behind its id and the blank. -/
theorem scan_fields (r : StandardReceipt) (text : Octstr) :
    scan updateInfoFields ((r.fields text).drop 1) = some
      [r.sub, r.dlvrd, r.submitDate, r.doneDate, r.stat.name ++ [32], r.err] := by
  -- blanks of the format before `sub:` and `err:` match nothing: they have been read already
  have hsub : ∀ f s, scan (literal (octstrImm " sub:") ++ f) (octstrImm "sub:" ++ s) =
      scan (literal (octstrImm "sub:") ++ f) (octstrImm "sub:" ++ s) := fun f s =>
    scan_space_of_not_isSpace (by decide)
  have herr : ∀ f s, scan (literal (octstrImm " err:") ++ f) (octstrImm "err:" ++ s) =
      scan (literal (octstrImm "err:") ++ f) (octstrImm "err:" ++ s) := fun f s =>
    scan_space_of_not_isSpace (by decide)
  have hend : scan (literal (octstrImm " err:") ++ [.string 4])
      (octstrImm "err:" ++ (r.err ++ (32 :: octstrImm "text:" ++ text))) = some [r.err] := by
    rw [herr, scan_label_string (by decide) r.errDigits (by decide)]
    rfl
  -- from the last field to the first: each conversion stops at the blank before the next label
  have hstat := (scan_stat r.stat).trans (congrArg (Option.map ((r.stat.name ++ [32]) :: ·)) hend)
  have hdone := (scan_label_digits (l := octstrImm " done date:") (by decide) r.doneDateDigits
    (by decide : 10 ≤ 12) (by decide : 10 < 12)).trans (congrArg (Option.map (r.doneDate :: ·)) hstat)
  have hsubmit := (scan_label_digits (l := octstrImm " submit date:") (by decide) r.submitDateDigits
    (by decide : 10 ≤ 12) (by decide : 10 < 12)).trans (congrArg (Option.map (r.submitDate :: ·)) hdone)
  have hdlvrd := (scan_label_string (l := octstrImm " dlvrd:") (by decide) r.dlvrdDigits
    (by decide : 3 < 4)).trans (congrArg (Option.map (r.dlvrd :: ·)) hsubmit)
  have hlabel := (scan_label_string (l := octstrImm "sub:") (by decide) r.subDigits
    (by decide : 3 < 4)).trans (congrArg (Option.map (r.sub :: ·)) hdlvrd)
  exact (hsub _ _).trans hlabel

theorem cstr_fields (r : StandardReceipt) (text : Octstr) : cstr (r.fields text) = r.fields (cstr text) := by
  unfold StandardReceipt.fields
  rw [cstr_append (by decide), cstr_append r.subDigits.zero_notMem, cstr_append (by decide),
    cstr_append r.dlvrdDigits.zero_notMem, cstr_append (by decide), cstr_append r.submitDateDigits.zero_notMem,
    cstr_append (by decide), cstr_append r.doneDateDigits.zero_notMem, cstr_append (by decide),
    cstr_append r.stat.name_spec.2.1, cstr_append (by decide),
    cstr_append r.errDigits.zero_notMem, cstr_append (by decide)]

/-- The status for a state with a blank behind it. -/
theorem updateInfoStatus_name (state : MessageState) : updateInfoStatus (state.name ++ [32]) = 10 := by
  cases state <;> decide

/-- A text that ends before the first `s`: at most one conversion is made. -/
theorem scan_id_of_forall_ne (hs : ∀ c ∈ s, c ≠ 115) :
    scan (.set 64 (· ≠ 115) 64 :: updateInfoFields) s = none ∨
      ∃ l, scan (.set 64 (· ≠ 115) 64 :: updateInfoFields) s = some l ∧ l.length ≤ 1 := by
  have haccept : ∀ c ∈ s.take 64, decide (c ≠ 115) = true := fun c hc =>
    decide_eq_true (hs c (List.mem_of_mem_take hc))
  by_cases hlen : 64 ≤ s.length
  · exact .inl (scan_set_overrun haccept le_rfl hlen (by decide))
  · have htake : s.take 64 = s := List.take_of_length_le (by omega)
    have hword : (s.take 64).takeWhile (fun c => decide (c ≠ 115)) = s := by
      rw [List.takeWhile_eq_self_iff.mpr haccept, htake]
    refine .inr ?_
    simp only [scan, hword]
    split
    · exact ⟨[], rfl, by simp⟩
    · rw [if_pos (by omega), List.drop_length]
      exact ⟨[s], rfl, by simp⟩

/-- The id is read with the blank behind it, if both fit into the buffer. -/
theorem scan_id {id m : Octstr} (hid : ∀ c ∈ id, c ≠ 115) (hlen : id.length < 63) :
    scan (.set 64 (· ≠ 115) 64 :: updateInfoFields) (id ++ (32 :: 115 :: m)) =
      (scan updateInfoFields (115 :: m)).map ((id ++ [32]) :: ·) := by
  have hlength : (id ++ [32]).length = id.length + 1 := List.length_append
  have hset : ∀ x ∈ id ++ [32], decide (x ≠ 115) = true := by
    intro x hx
    obtain hx | hx := List.mem_append.mp hx
    · exact decide_eq_true (hid x hx)
    · rw [List.mem_singleton.mp hx]
      decide
  rw [List.append_cons]
  exact scan_set (by simp) hset (by decide) (by omega) (by omega)

/-- What is stored from a receipt without terminator in its id, if the id fits into its buffer. -/
theorem sscanf_octets (hnul : 0 ∉ r.id) (hlen : r.id.length < 63) :
    sscanf r.octets updateInfoFormat = some
      [r.id ++ [32], r.sub, r.dlvrd, r.submitDate, r.doneDate, r.stat.name ++ [32], r.err] := by
  rw [sscanf, StandardReceipt.octets, cstr_append (by decide), cstr_append hnul, cstr_fields,
    updateInfoFormat, scan_literal (by decide)]
  exact (scan_id (fun c hc => (r.idPlain c hc).2) hlen).trans
    (congrArg (Option.map ((r.id ++ [32]) :: ·)) (scan_fields r (cstr r.text)))

/-- An id that does not fit with the blank behind it. -/
theorem scan_id_overrun {id m : Octstr} (hid : ∀ c ∈ id, c ≠ 115) (hlen : 63 ≤ id.length) :
    scan (.set 64 (· ≠ 115) 64 :: updateInfoFields) (id ++ (32 :: m)) = none := by
  refine scan_set_overrun (fun c hc => decide_eq_true ?_) le_rfl ?_ (by decide)
  · rw [List.take_append] at hc
    obtain hc | hc := List.mem_append.mp hc
    · exact hid c (List.mem_of_mem_take hc)
    · have hone : c ∈ (32 :: m).take 1 := List.take_subset_take_left _ (by omega) hc
      rw [List.mem_singleton.mp hone]
      decide
  · rw [List.length_append, List.length_cons]
    omega

/-- Otherwise the buffer of the id is overrun, or fields are missing. -/
theorem sscanf_octets_of_bad_id (h : 0 ∈ r.id ∨ 63 ≤ r.id.length) :
    sscanf r.octets updateInfoFormat = none ∨
      ∃ l, sscanf r.octets updateInfoFormat = some l ∧ l.length ≤ 1 := by
  rw [sscanf, StandardReceipt.octets, cstr_append (by decide), updateInfoFormat,
    scan_literal (by decide)]
  by_cases hnul : 0 ∈ r.id
  · refine scan_id_of_forall_ne fun c hc => ?_
    rw [cstr_append_of_mem hnul] at hc
    exact (r.idPlain c (List.takeWhile_subset _ hc)).2
  · have hlen := h.resolve_left hnul
    rw [cstr_append hnul, cstr_fields]
    exact .inl (scan_id_overrun (fun c hc => (r.idPlain c hc).2) hlen)

end Scanning

/-! ## The two readers

`get_smscid` compares the state without the blank and knows it; `update_info` has the blank in it and knows
none. -/

/-- **`update_info` on a well-formed receipt**: the status `10`, whatever the state, or no result. -/
theorem updateInfo_receipt (r : StandardReceipt) {pdu : DeliverSm} (hpdu : receiptText pdu = some r.octets)
    (accountMsgId : Octstr) :
    updateInfo pdu accountMsgId = none ∨ ∃ pdu', updateInfo pdu accountMsgId = some (10, pdu') := by
  unfold updateInfo
  rw [hpdu, Option.getD_some]
  by_cases hid : 0 ∈ r.id ∨ 63 ≤ r.id.length
  · left
    obtain hscan | ⟨l, hscan, hlen⟩ := sscanf_octets_of_bad_id hid
    · rw [hscan]
    · rw [hscan]
      match l, hlen with
      | [], _ => rfl
      | [_], _ => rfl
  · rw [not_or, not_le] at hid
    right
    rw [sscanf_octets hid.1 hid.2]
    simp only [updateInfoStatus_name]
    exact ⟨_, rfl⟩

/-- `get_smscid` knows every state. -/
theorem getSmscid_name {receipts : ReceiptLib} {sm : Option Octstr} {state : MessageState}
    (h : receipts.timesOctstrGetManyChars sm 6 = state.name) : (getSmscid receipts sm).2 ≠ 10 := by
  simp only [getSmscid, h]
  cases state <;> decide

/-- **The two readers agree on no receipt.** -/
theorem updateInfo_status_ne (r : StandardReceipt) (receipts : ReceiptLib)
    (hlib : receipts.timesOctstrGetManyChars (some r.octets) 6 = r.stat.name) (pdu : DeliverSm)
    (hpdu : receiptText pdu = some r.octets) (accountMsgId : Octstr) :
    (updateInfo pdu accountMsgId).map Prod.fst ≠ some (getSmscid receipts (some r.octets)).2 := by
  have hten := getSmscid_name hlib
  obtain hnone | ⟨pdu', hsome⟩ := updateInfo_receipt r hpdu accountMsgId
  · rw [hnone]
    exact fun h => Option.some_ne_none _ h.symm
  · rw [hsome, Option.map_some]
    exact fun h => hten (Option.some.inj h).symm

/-- A receipt of a delivered message. -/
def sampleReceipt : StandardReceipt where
  id := octstrImm "1a2b3c"
  idPlain := by simp [octstrImm]
  sub := octstrImm "001"
  subDigits := by decide
  dlvrd := octstrImm "001"
  dlvrdDigits := by decide
  submitDate := octstrImm "2311141013"
  submitDateDigits := by decide
  doneDate := octstrImm "2311141014"
  doneDateDigits := by decide
  stat := .delivrd
  err := octstrImm "000"
  errDigits := by decide
  text := octstrImm "hello"

/-- The `deliver_sm` that brings it. -/
def sampleDeliverSm : DeliverSm where
  smLength := sampleReceipt.octets.length
  shortMessage := some sampleReceipt.octets
  sourceAddr := some (octstrImm "919876543210")
  destinationAddr := some (octstrImm "ACME")

/-- The words of a text: what stands between blanks and colons, by number. -/
def textWord (s : Octstr) (number : ℕ) : Octstr :=
  ((s.splitOnP fun c => c = 32 ∨ c = 58).filter (· ≠ [])).getD number []

/-- The fields of a receipt are found by their place among its words. -/
def wordReceiptLib : ReceiptLib where
  timesOctstrGetManyAlphanumeric sm _ := textWord (sm.getD []) 1
  timesOctstrGetManyChars sm _ := textWord (sm.getD []) 13
  smppPduPack _ := some []

theorem updateInfo_status_ne_sampleReceipt :
    updateInfo sampleDeliverSm (octstrImm "017000000001") ≠ none ∧
      (updateInfo sampleDeliverSm (octstrImm "017000000001")).map Prod.fst ≠
        some (getSmscid wordReceiptLib (some sampleReceipt.octets)).2 :=
  ⟨by decide +kernel,
    updateInfo_status_ne sampleReceipt wordReceiptLib (by decide +kernel) sampleDeliverSm
      (by decide +kernel) (octstrImm "017000000001")⟩

/-- The status of a delivered message is `1` in the SMSC process, and `10` in the ESME process. -/
theorem not_updateInfo_status_eq :
    ¬ ∀ (r : StandardReceipt) (receipts : ReceiptLib),
      receipts.timesOctstrGetManyChars (some r.octets) 6 = r.stat.name →
      ∀ (pdu : DeliverSm), receiptText pdu = some r.octets → ∀ accountMsgId : Octstr,
        (updateInfo pdu accountMsgId).map Prod.fst = some (getSmscid receipts (some r.octets)).2 := by
  intro h
  have hsample := h sampleReceipt wordReceiptLib (by decide +kernel) sampleDeliverSm (by decide +kernel) []
  exact absurd hsample (by decide +kernel)

end SmppServer.SmppEsme
