import SmppServer.Esme.UpdateInfo

/-!
# Esme/Rewriting — the receipt that `update_info` writes

`update_info` replaces the id of a receipt by that of the account.  It scans the fields and prints them
anew, with two blanks behind the state and behind the error, and with no text; and the scan does not
get through every receipt.  A receipt is laid out here with any number of blanks in front of each
label: one is the form that SMSCs send.

* `layout_injective` — the fields can be read off any layout.
* `rewritten_iff` — the receipt written is never in the form of the one read; with blanks repeated it is,
  for receipts without text that the scan gets through.
-/

namespace SmppServer.SmppEsme

open SmppSmsc

/-! ## Receipts and their layouts

A layout gives the number of further blanks in front of each label.  The receipts that SMSCs send have none. -/

/-- A word: no blanks in it. -/
def Token (s : Octstr) : Prop := ∀ c ∈ s, isSpace c = false

instance (s : Octstr) : Decidable (Token s) := List.decidableBAll _ _

/-- A receipt, with dates of ten or twelve digits. -/
structure Receipt where
  id : Octstr
  idToken : Token id
  sub : Octstr
  subDigits : Digits 3 sub
  dlvrd : Octstr
  dlvrdDigits : Digits 3 dlvrd
  submitDate : Octstr
  submitDateDigits : Digits 10 submitDate ∨ Digits 12 submitDate
  doneDate : Octstr
  doneDateDigits : Digits 10 doneDate ∨ Digits 12 doneDate
  stat : MessageState
  err : Octstr
  errDigits : Digits 3 err
  text : Octstr
  textShort : text.length ≤ 20

/-- A label with further blanks in front of it. -/
def spaced (blanks : ℕ) (label : Octstr) : Octstr := List.replicate blanks 32 ++ label

/-- The receipt behind its id, with these numbers of further blanks in front of its labels. -/
def Receipt.fields (r : Receipt) (blanks : ℕ → ℕ) (text : Octstr) : Octstr :=
  spaced (blanks 0) (octstrImm " sub:") ++ (r.sub ++
    (spaced (blanks 1) (octstrImm " dlvrd:") ++ (r.dlvrd ++
      (spaced (blanks 2) (octstrImm " submit date:") ++ (r.submitDate ++
        (spaced (blanks 3) (octstrImm " done date:") ++ (r.doneDate ++
          (spaced (blanks 4) (octstrImm " stat:") ++ (r.stat.name ++
            (spaced (blanks 5) (octstrImm " err:") ++ (r.err ++
              (spaced (blanks 6) (octstrImm " text:") ++ text))))))))))))

/-- The receipt with another id. -/
def Receipt.layout (r : Receipt) (blanks : ℕ → ℕ) (id : Octstr) : Octstr :=
  octstrImm "id:" ++ (id ++ r.fields blanks r.text)

/-- The receipt as a text. -/
def Receipt.octets (r : Receipt) : Octstr := r.layout 0 r.id

/-- `update_info` writes the receipt with the account's id in it, and these blanks. -/
def Rewritten (r : Receipt) (pdu : DeliverSm) (accountMsgId : Octstr) (blanks : ℕ → ℕ) : Prop :=
  Token accountMsgId ∧ ∃ status pdu', updateInfo pdu accountMsgId = some (status, pdu') ∧
    pdu'.shortMessage = some (r.layout blanks accountMsgId)

/-! ## Reading the fields off a layout

A word ends at the first blank, and the blanks behind it are counted up to the label.  So the fields can be read
off a layout in one way, and two layouts of one text are the same. -/

section Layout

variable {w w' l s t : Octstr} {m n : ℕ}

theorem Digits.token (h : Digits n w) : Token w := fun c hc =>
  (not_isSpace_of_gwIsdigit (h.2 c hc)).1

theorem MessageState.token_name (state : MessageState) : Token state.name := by
  cases state <;> decide

/-- Blanks in front of a text that begins with none are counted. -/
theorem replicate_append_inj {c d : UInt8} (hc : c ≠ 32) (hd : d ≠ 32)
    (h : List.replicate m 32 ++ c :: s = List.replicate n 32 ++ d :: t) : m = n ∧ c :: s = d :: t := by
  induction m generalizing n with
  | zero =>
    cases n with
    | zero => exact ⟨rfl, h⟩
    | succ n => exact absurd (List.cons.inj h).1 hc
  | succ m ih =>
    cases n with
    | zero => exact absurd (List.cons.inj h).1.symm hd
    | succ n =>
      obtain ⟨rfl, hst⟩ := ih (List.cons.inj h).2
      exact ⟨rfl, hst⟩

/-- **A word, the blanks behind it and the label are read in one way only.** -/
theorem field_inj (hl : ∃ c l', l = 32 :: c :: l' ∧ c ≠ 32) (hw : Token w) (hw' : Token w')
    (h : w ++ (spaced m l ++ s) = w' ++ (spaced n l ++ t)) : w = w' ∧ m = n ∧ s = t := by
  obtain ⟨c, l', rfl, hc⟩ := hl
  have hblank : ∀ k (x : Octstr), spaced k (32 :: c :: l') ++ x =
      32 :: (List.replicate k 32 ++ c :: (l' ++ x)) := by
    intro k x
    have hcomm : List.replicate k (32 : UInt8) ++ 32 :: (c :: (l' ++ x)) =
        32 :: (List.replicate k 32 ++ c :: (l' ++ x)) := by
      rw [List.append_cons, ← List.replicate_succ', List.replicate_succ, List.cons_append]
    simpa [spaced] using hcomm
  rw [hblank, hblank] at h
  have hword := congrArg (List.takeWhile fun c => !isSpace c) h
  rw [takeWhile_append_cons (fun x hx => by simp [hw x hx]) (by decide),
    takeWhile_append_cons (fun x hx => by simp [hw' x hx]) (by decide)] at hword
  subst hword
  obtain ⟨hmn, hst⟩ := replicate_append_inj hc hc (List.cons.inj (List.append_cancel_left h)).2
  exact ⟨rfl, hmn, List.append_cancel_left (List.cons.inj hst).2⟩

theorem Receipt.dates_token (r : Receipt) : Token r.submitDate ∧ Token r.doneDate :=
  ⟨r.submitDateDigits.elim Digits.token Digits.token, r.doneDateDigits.elim Digits.token Digits.token⟩

/-- **The form is unambiguous**: the fields, the text and the blanks can be read off the layout. -/
theorem layout_injective {r r' : Receipt} {blanks blanks' : ℕ → ℕ} {id id' : Octstr} (hid : Token id)
    (hid' : Token id') (h : r.layout blanks id = r'.layout blanks' id') :
    (id = id' ∧ r.sub = r'.sub ∧ r.dlvrd = r'.dlvrd ∧ r.submitDate = r'.submitDate ∧
      r.doneDate = r'.doneDate ∧ r.stat.name = r'.stat.name ∧ r.err = r'.err ∧ r.text = r'.text) ∧
    ∀ k < 7, blanks k = blanks' k := by
  unfold Receipt.layout Receipt.fields at h
  obtain ⟨hid, h0, h⟩ := field_inj ⟨_, _, rfl, by decide⟩ hid hid' (List.append_cancel_left h)
  obtain ⟨hsub, h1, h⟩ := field_inj ⟨_, _, rfl, by decide⟩ r.subDigits.token r'.subDigits.token h
  obtain ⟨hdlvrd, h2, h⟩ :=
    field_inj ⟨_, _, rfl, by decide⟩ r.dlvrdDigits.token r'.dlvrdDigits.token h
  obtain ⟨hsubmit, h3, h⟩ :=
    field_inj ⟨_, _, rfl, by decide⟩ r.dates_token.1 r'.dates_token.1 h
  obtain ⟨hdone, h4, h⟩ := field_inj ⟨_, _, rfl, by decide⟩ r.dates_token.2 r'.dates_token.2 h
  obtain ⟨hstat, h5, h⟩ := field_inj ⟨_, _, rfl, by decide⟩ r.stat.token_name r'.stat.token_name h
  obtain ⟨herr, h6, htext⟩ := field_inj ⟨_, _, rfl, by decide⟩ r.errDigits.token r'.errDigits.token h
  refine ⟨⟨hid, hsub, hdlvrd, hsubmit, hdone, hstat, herr, htext⟩, fun k hk => ?_⟩
  interval_cases k <;> assumption

end Layout

/-! ## Which receipts the scan gets through

The scan gets through the id if it has no `s` and no terminator and fits its buffer, and through the dates if
they fit theirs.  At any other id, and at any longer date, it stops or overruns. -/

section Scanning

variable {r : Receipt} {w s u v : Octstr} {f : List Directive}

/-- A date of twelve digits overruns its buffer. -/
theorem scan_label_date_overrun {l m : Octstr} (hl : blanksSingle l = true) (hw : Digits 12 w) :
    scan (literal l ++ .set 12 gwIsdigit 12 :: f) (l ++ (w ++ m)) = none := by
  rw [scan_literal hl]
  have htake : (w ++ m).take 12 = w := by rw [← hw.1, List.take_left]
  exact scan_set_overrun (by rw [htake]; exact hw.2) le_rfl (by simp [hw.1]) (by decide)

/-- The fields behind the blank are scanned in vain if a date is too long. -/
theorem scan_fields_overrun (h : Digits 12 r.submitDate ∨ Digits 12 r.doneDate) (text : Octstr) :
    scan updateInfoFields ((r.fields 0 text).drop 1) = none := by
  have hsub : ∀ f s, scan (literal (octstrImm " sub:") ++ f) (octstrImm "sub:" ++ s) =
      scan (literal (octstrImm "sub:") ++ f) (octstrImm "sub:" ++ s) := fun f s =>
    scan_space_of_not_isSpace (by decide)
  -- the scan fails at one of the dates
  have hdates : ∀ f m, scan (literal (octstrImm " submit date:") ++ .set 12 gwIsdigit 12 ::
      (literal (octstrImm " done date:") ++ .set 12 gwIsdigit 12 :: f))
      (octstrImm " submit date:" ++ (r.submitDate ++ (octstrImm " done date:" ++ (r.doneDate ++
        m)))) = none := by
    intro f m
    obtain hsubmit | hsubmit := r.submitDateDigits
    · have hdone : Digits 12 r.doneDate := h.resolve_left fun hlong =>
        absurd (hsubmit.1.symm.trans hlong.1) (by decide)
      have hover := scan_label_date_overrun (f := f) (m := m) (l := octstrImm " done date:")
        (by decide) hdone
      exact (scan_label_digits (by decide) hsubmit (by decide) (by decide)).trans
        (congrArg (Option.map (r.submitDate :: ·)) hover)
    · exact scan_label_date_overrun (by decide) hsubmit
  have hdlvrd := (scan_label_string (l := octstrImm " dlvrd:") (by decide) r.dlvrdDigits
    (by decide : 3 < 4)).trans (congrArg (Option.map (r.dlvrd :: ·)) (hdates
      (literal (octstrImm " stat:") ++ .set 10 (· ≠ 101) 20 ::
        (literal (octstrImm " err:") ++ [.string 4]))
      (octstrImm " stat:" ++ (r.stat.name ++ (octstrImm " err:" ++ (r.err ++
        (octstrImm " text:" ++ text)))))))
  have hlabel := (scan_label_string (l := octstrImm "sub:") (by decide) r.subDigits
    (by decide : 3 < 4)).trans (congrArg (Option.map (r.sub :: ·)) hdlvrd)
  exact (hsub _ _).trans hlabel

/-- What follows the id: nothing, if a terminator cut the receipt, or the fields. -/
def Receipt.Follows (r : Receipt) (v : Octstr) : Prop := v = [] ∨ ∃ text, v = r.fields 0 text

theorem Receipt.Follows.head (hv : r.Follows v) : ∀ c ∈ v.head?, c = 32 := by
  obtain rfl | ⟨text, rfl⟩ := hv
  · simp
  · rintro c ⟨⟩
    rfl

/-- The label of the next field does not follow the id. -/
theorem scan_dlvrd (hv : r.Follows v) : scan (updateInfoFields.drop 6) v = some [] := by
  obtain rfl | ⟨text, rfl⟩ := hv
  · rfl
  · rfl

/-- The word behind a label `sub:` in the id: the rest of the id or, without such, the first label of
the fields and its number, which do not fit. -/
theorem scan_sub (hw : Token w) (hv : r.Follows v) :
    scan (updateInfoFields.drop 5) (w ++ v) = none ∨
      ∃ l, scan (updateInfoFields.drop 5) (w ++ v) = some l ∧ l.length ≤ 1 := by
  have hdrop : updateInfoFields.drop 5 = .string 4 :: updateInfoFields.drop 6 := rfl
  rw [hdrop]
  by_cases hne : w = []
  · subst hne
    obtain rfl | ⟨text, rfl⟩ := hv
    · exact .inr ⟨[], rfl, by decide⟩
    · left
      obtain ⟨rest, hrest⟩ : ∃ rest, r.fields 0 text =
          32 :: ((octstrImm "sub:" ++ r.sub) ++ (32 :: rest)) :=
        ⟨_, (congrArg (32 :: ·) (List.append_assoc (octstrImm "sub:") r.sub _)).symm⟩
      have htoken : ∀ x ∈ octstrImm "sub:" ++ r.sub, isSpace x = false := by
        intro x hx
        obtain hx | hx := List.mem_append.mp hx
        · exact (by decide : Token (octstrImm "sub:")) x hx
        · exact r.subDigits.token x hx
      rw [List.nil_append, hrest, scan_string_of_isSpace (by decide),
        scan_string_eq (by simp [octstrImm]) htoken (by simp [isSpace])]
      exact if_neg (by simp [octstrImm])
  · rw [scan_string_eq hne hw fun c hc => by rw [hv.head c hc]; rfl, scan_dlvrd hv]
    split
    · exact .inr ⟨[w], rfl, by simp⟩
    · exact .inl rfl

/-- A word that is not at a blank is taken for the first label at best. -/
theorem scan_fields_of_token (hu : Token u) (hne : u ≠ []) (hv : r.Follows v) :
    scan updateInfoFields (u ++ v) = none ∨
      ∃ l, scan updateInfoFields (u ++ v) = some l ∧ l.length ≤ 1 := by
  obtain ⟨c, u, rfl⟩ := List.exists_cons_of_ne_nil hne
  have hspace : scan updateInfoFields (c :: u ++ v) =
      scan (literal (octstrImm "sub:") ++ (updateInfoFields.drop 5)) (c :: u ++ v) :=
    scan_space_of_not_isSpace (hu c List.mem_cons_self)
  rw [hspace]
  obtain hend | ⟨t, ht, hscan⟩ := scan_literal_cases (w := octstrImm "sub:")
    (f := updateInfoFields.drop 5) (s := c :: u ++ v)
    (show Token (octstrImm "sub:") by decide)
  · exact .inr ⟨[], hend, by decide⟩
  rw [hscan]
  -- the label lies in the word, as a blank follows the word
  obtain ⟨w, hw, rfl⟩ : ∃ w, c :: u = octstrImm "sub:" ++ w ∧ t = w ++ v := by
    obtain ⟨a, hlabel, hva⟩ | ⟨w, hw, ht⟩ := List.append_eq_append_iff.mp ht
    · cases a with
      | nil => exact ⟨[], by simpa using hlabel.symm, by simpa using hva.symm⟩
      | cons x a =>
        have hx : x = 32 := hv.head x (by rw [hva]; rfl)
        have hmem : x ∈ octstrImm "sub:" := by rw [hlabel]; simp
        rw [hx] at hmem
        exact absurd hmem (by decide)
    · exact ⟨w, hw, ht⟩
  exact scan_sub (fun x hx => hu x (by rw [hw]; exact List.mem_append_right _ hx)) hv

/-- **An id that stops the scan**: it has an `s` or a terminator in it, or does not fit. -/
theorem scan_id_of_bad (hw : Token w) (hv : r.Follows v)
    (hbad : 115 ∈ w ∨ v = [] ∨ 63 ≤ w.length) :
    scan (.set 64 (· ≠ 115) 64 :: updateInfoFields) (w ++ v) = none ∨
      ∃ l, scan (.set 64 (· ≠ 115) 64 :: updateInfoFields) (w ++ v) = some l ∧ l.length ≤ 2 := by
  by_cases hs : 115 ∈ w
  · obtain ⟨a, b, rfl, ha⟩ := List.eq_append_cons_of_mem hs
    have haccept : ∀ x ∈ a, decide (x ≠ 115) = true := fun x hx =>
      decide_eq_true (ne_of_mem_of_not_mem hx ha)
    rw [List.append_assoc, List.cons_append]
    by_cases hlen : 64 ≤ a.length
    · refine .inl (scan_set_overrun (fun x hx => ?_) le_rfl (by simp; omega) (by decide))
      rw [List.take_append_of_le_length hlen] at hx
      exact haccept x (List.mem_of_mem_take hx)
    by_cases hnil : a = []
    · subst hnil
      exact .inr ⟨[], by simp [scan], by decide⟩
    · rw [scan_set hnil haccept (by decide) (by omega) (by omega)]
      have hrest : Token (115 :: b) := fun x hx => hw x (List.mem_append_right _ hx)
      obtain hnone | ⟨l, hl, hle⟩ := scan_fields_of_token hrest (List.cons_ne_nil _ _) hv
      · exact .inl (by rw [← List.cons_append, hnone]; rfl)
      · exact .inr ⟨a :: l, by rw [← List.cons_append, hl]; rfl, by simpa using hle⟩
  · have hplain : ∀ c ∈ w, c ≠ 115 := fun c hc => ne_of_mem_of_not_mem hc hs
    obtain rfl | ⟨text, rfl⟩ := hv
    · rw [List.append_nil]
      obtain hnone | ⟨l, hl, hle⟩ := scan_id_of_forall_ne hplain
      · exact .inl hnone
      · exact .inr ⟨l, hl, by omega⟩
    · obtain ⟨rest, hrest⟩ : ∃ rest, r.fields 0 text = 32 :: rest := ⟨_, rfl⟩
      rw [hrest] at hbad ⊢
      have hlen : 63 ≤ w.length := (hbad.resolve_left hs).resolve_left (List.cons_ne_nil _ _)
      exact .inl (scan_id_overrun hplain hlen)

theorem Receipt.zero_notMem_fields (r : Receipt) : 0 ∉ r.fields 0 [] := by
  have hlabel : ∀ l ∈ [octstrImm " sub:", octstrImm " dlvrd:", octstrImm " submit date:",
      octstrImm " done date:", octstrImm " stat:", octstrImm " err:", octstrImm " text:"],
      (0 : UInt8) ∉ l := by decide
  have hdates : 0 ∉ r.submitDate ∧ 0 ∉ r.doneDate :=
    ⟨r.submitDateDigits.elim Digits.zero_notMem Digits.zero_notMem,
      r.doneDateDigits.elim Digits.zero_notMem Digits.zero_notMem⟩
  simp only [List.forall_mem_cons, List.not_mem_nil, false_implies, implies_true, and_true] at hlabel
  simp [Receipt.fields, spaced, hlabel, hdates, r.subDigits.zero_notMem, r.dlvrdDigits.zero_notMem,
    r.stat.name_spec.2.1, r.errDigits.zero_notMem]

theorem Receipt.cstr_fields (r : Receipt) (text : Octstr) :
    cstr (r.fields 0 text) = r.fields 0 (cstr text) := by
  have happ : ∀ s, r.fields 0 s = r.fields 0 [] ++ s := fun s => by simp [Receipt.fields]
  rw [happ, happ (cstr text), cstr_append r.zero_notMem_fields]

/-- The scan gets through the id. -/
structure Receipt.IdFits (r : Receipt) : Prop where
  stopLetter : 115 ∉ r.id
  terminator : 0 ∉ r.id
  length : r.id.length ≤ 62

instance (r : Receipt) : Decidable r.IdFits :=
  decidable_of_iff (115 ∉ r.id ∧ 0 ∉ r.id ∧ r.id.length ≤ 62)
    ⟨fun h => ⟨h.1, h.2.1, h.2.2⟩, fun h => ⟨h.stopLetter, h.terminator, h.length⟩⟩

/-- The scan gets through the dates. -/
def Receipt.DatesFit (r : Receipt) : Prop := Digits 10 r.submitDate ∧ Digits 10 r.doneDate

theorem Receipt.long_date (h : ¬ r.DatesFit) : Digits 12 r.submitDate ∨ Digits 12 r.doneDate := by
  by_contra hlong
  rw [not_or] at hlong
  exact h ⟨r.submitDateDigits.resolve_right hlong.1, r.doneDateDigits.resolve_right hlong.2⟩

/-- A receipt that the scan gets through is a standard one. -/
def Receipt.standard (r : Receipt) (hid : r.IdFits) (hdates : r.DatesFit) : StandardReceipt :=
  { r with
    idPlain := fun c hc => ⟨fun h => by simpa [h, isSpace] using r.idToken c hc,
      ne_of_mem_of_not_mem hc hid.stopLetter⟩
    submitDateDigits := hdates.1
    doneDateDigits := hdates.2 }

theorem sscanf_of_idFits (hid : r.IdFits) : sscanf r.octets updateInfoFormat =
    (scan updateInfoFields ((r.fields 0 (cstr r.text)).drop 1)).map ((r.id ++ [32]) :: ·) := by
  rw [sscanf, Receipt.octets, Receipt.layout, cstr_append (by decide), cstr_append hid.terminator,
    r.cstr_fields, updateInfoFormat, scan_literal (by decide)]
  exact scan_id (fun c hc => ne_of_mem_of_not_mem hc hid.stopLetter) (Nat.lt_succ_of_le hid.length)

theorem sscanf_of_not_idFits (hid : ¬ r.IdFits) : sscanf r.octets updateInfoFormat = none ∨
    ∃ l, sscanf r.octets updateInfoFormat = some l ∧ l.length ≤ 2 := by
  rw [sscanf, Receipt.octets, Receipt.layout, cstr_append (by decide), updateInfoFormat,
    scan_literal (by decide)]
  by_cases hnul : 0 ∈ r.id
  · rw [cstr_append_of_mem hnul, ← List.append_nil (cstr r.id)]
    exact scan_id_of_bad (r := r) (fun c hc => r.idToken c (List.takeWhile_subset _ hc)) (.inl rfl)
      (.inr (.inl rfl))
  · rw [cstr_append hnul, r.cstr_fields]
    refine scan_id_of_bad r.idToken (.inr ⟨_, rfl⟩) ?_
    by_contra hbad
    simp only [not_or, not_le] at hbad
    exact hid ⟨hbad.1, hnul, by omega⟩

/-- The blanks that `update_info` writes: one more behind the state, and one more behind the error. -/
def writtenBlanks (k : ℕ) : ℕ := if k = 5 ∨ k = 6 then 1 else 0

/-- **What is written**: the receipt with the account's id, without its text. -/
theorem updateInfo_of_fits (hid : r.IdFits) (hdates : r.DatesFit) {pdu : DeliverSm}
    (hpdu : receiptText pdu = some r.octets) (accountMsgId : Octstr) :
    updateInfo pdu accountMsgId = some (10, { pdu with
      receiptedMessageId := some accountMsgId
      shortMessage := some
        (Receipt.layout { r with text := [], textShort := by simp } writtenBlanks
          (cstr accountMsgId)) }) := by
  have hscan := scan_fields (r.standard hid hdates) (cstr r.text)
  have hfields : (r.standard hid hdates).fields (cstr r.text) = r.fields 0 (cstr r.text) := rfl
  have hne : r.submitDate ≠ [] := hdates.1.ne_nil
  have hend : octstrImm "  text:" = 32 :: octstrImm " text:" := rfl
  rw [hfields] at hscan
  rw [updateInfo, hpdu, Option.getD_some, sscanf_of_idFits hid, hscan]
  simp [Receipt.standard, updateInfoStatus_name, hne, hend, Receipt.layout, Receipt.fields, spaced,
    writtenBlanks]

/-- Any other receipt has no defined result. -/
theorem updateInfo_of_not_fits (h : ¬ (r.IdFits ∧ r.DatesFit)) {pdu : DeliverSm}
    (hpdu : receiptText pdu = some r.octets) (accountMsgId : Octstr) :
    updateInfo pdu accountMsgId = none := by
  rw [updateInfo, hpdu, Option.getD_some]
  by_cases hid : r.IdFits
  · have hlong := r.long_date fun hdates => h ⟨hid, hdates⟩
    rw [sscanf_of_idFits hid, scan_fields_overrun hlong]
    rfl
  · obtain hnone | ⟨l, hl, hle⟩ := sscanf_of_not_idFits hid
    · rw [hnone]
    · rw [hl]
      rcases l with - | ⟨a, - | ⟨b, - | ⟨c, l⟩⟩⟩
      · rfl
      · rfl
      · rfl
      · simp at hle

/-- A receipt that was rewritten got through the scan, had no text, and has blanks repeated. -/
theorem Rewritten.fits {pdu : DeliverSm} (hpdu : receiptText pdu = some r.octets)
    {accountMsgId : Octstr} {blanks : ℕ → ℕ} (h : Rewritten r pdu accountMsgId blanks) :
    (r.IdFits ∧ r.DatesFit) ∧ r.text = [] ∧ 0 ∉ accountMsgId ∧ blanks 5 = 1 := by
  obtain ⟨htoken, status, pdu', hupdate, htext⟩ := h
  have hfits : r.IdFits ∧ r.DatesFit := by
    by_contra hbad
    rw [updateInfo_of_not_fits hbad hpdu] at hupdate
    exact Option.some_ne_none _ hupdate.symm
  rw [updateInfo_of_fits hfits.1 hfits.2 hpdu] at hupdate
  obtain ⟨-, rfl⟩ := Prod.mk.inj (Option.some.inj hupdate)
  have hcstr : Token (cstr accountMsgId) := fun c hc => htoken c (List.takeWhile_subset _ hc)
  obtain ⟨⟨hid, -, -, -, -, -, -, htext⟩, hblanks⟩ :=
    layout_injective hcstr htoken (Option.some.inj htext)
  exact ⟨hfits, htext.symm, cstr_eq_self_iff.mp hid, (hblanks 5 (by decide)).symm⟩

end Scanning

/-- **Which receipts are rewritten.**  For every receipt and every id of the account: the receipt that
`update_info` writes does not have the form of the one it read; taking blanks repeated for one, it has
that form with the account's id and all other fields kept if and only if the id of the receipt has no
`s` and no terminator and at most 62 octets, both dates have ten digits, the receipt has no text, and
the account's id is a word. -/
theorem rewritten_iff (r : Receipt) {pdu : DeliverSm} (hpdu : receiptText pdu = some r.octets)
    (accountMsgId : Octstr) :
    ¬ Rewritten r pdu accountMsgId 0 ∧
      ((∃ blanks, Rewritten r pdu accountMsgId blanks) ↔
        (r.IdFits ∧ r.DatesFit) ∧ r.text = [] ∧ Token accountMsgId ∧ 0 ∉ accountMsgId) := by
  refine ⟨fun h => absurd (h.fits hpdu).2.2.2 (by decide), ?_, ?_⟩
  · rintro ⟨blanks, h⟩
    obtain ⟨hfits, htext, hnul, -⟩ := h.fits hpdu
    exact ⟨hfits, htext, h.1, hnul⟩
  · rintro ⟨⟨hid, hdates⟩, htext, htoken, hnul⟩
    refine ⟨writtenBlanks, htoken, 10, _, updateInfo_of_fits hid hdates hpdu accountMsgId, ?_⟩
    simp only [Receipt.layout, cstr_eq_self_iff.mpr hnul, htext]
    rfl

/-- The receipt of a delivered message, with its text. -/
def sampleTextReceipt : Receipt :=
  { sampleReceipt with
    idToken := by decide
    submitDateDigits := .inl sampleReceipt.submitDateDigits
    doneDateDigits := .inl sampleReceipt.doneDateDigits
    textShort := by decide }

/-- The text is lost. -/
theorem rewritten_sampleTextReceipt :
    ¬ ∃ blanks, Rewritten sampleTextReceipt sampleDeliverSm (octstrImm "017000000001") blanks := by
  rw [(rewritten_iff sampleTextReceipt (show receiptText sampleDeliverSm = _ from rfl)
    (octstrImm "017000000001")).2]
  exact fun h => absurd h.2.1 (by decide)

/-- So not every receipt keeps its fields, not even with blanks repeated. -/
theorem not_rewritten :
    ¬ ∀ (r : Receipt) (pdu : DeliverSm), receiptText pdu = some r.octets →
      ∀ accountMsgId, Token accountMsgId → 0 ∉ accountMsgId →
        ∃ blanks, Rewritten r pdu accountMsgId blanks := by
  intro h
  obtain ⟨blanks, hrewritten⟩ :=
    h sampleTextReceipt sampleDeliverSm rfl (octstrImm "017000000001") (by decide) (by decide)
  exact absurd (hrewritten.fits rfl).2.1 (by decide)

end SmppServer.SmppEsme
