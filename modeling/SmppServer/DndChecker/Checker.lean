import SmppServer.Dbbox.SqlText

/-!
# DndChecker/Checker — copying a row to `process_table`

`checker` writes one `INSERT` for each row of `smpp_esme_table` that has not been checked.  It appends the
name and the value of every column that is not `NULL`, each with a comma, cuts the last comma off, and puts
a value between quotes as it came; in the content it writes a backslash before every quote.

* `checkerQuery_faithful_iff` — the statement has the row's columns with the row's values **exactly** if no
  value but the content has a quote, and no value has a backslash other than before `%` and `_`.
-/

namespace SmppServer.DndChecker

open Machinery SmppDbbox

/-! ## The code

The loop appends to two texts, one of names and one of values, and cuts the last comma off each.  A column that
is `NULL` is left out of both. -/

/-- `replaceWord`: the leftmost occurrences of a word that do not overlap are replaced.  A first pass
counts them for the size of the buffer; this is the pass that writes. -/
def replaceWord (oldW newW : Octstr) : Octstr → Octstr
  | [] => []
  | c :: s =>
    if oldW.isPrefixOf (c :: s) then newW ++ replaceWord oldW newW (s.drop (oldW.length - 1))
    else c :: replaceWord oldW newW s
termination_by s => s.length
decreasing_by
  · rw [List.length_drop, List.length_cons]
    omega
  · exact Nat.lt_succ_self _

/-- The columns that are selected. -/
def columnname : List Octstr :=
  ["ESMEAccName", "ESMEAccMsgId", "SMSCId", "SMSCMsgId", "SourceAddr", "DestinationAddr", "RecvTime",
    "SubmittedStat", "SubmitTime", "DeliveredStat", "DeliverTime", "RetryValue", "UDH", "Content",
    "Client_IP", "data_coding", "esm_class", "more_messages_to_send"].map octstrImm

/-- `MYSQL_ROW`: the values of a row, `none` for `NULL`. -/
structure Row where
  values : List (Option CText)
  length_values : values.length = columnname.length

/-- The columns of a row with their values. -/
def Row.fields (row : Row) : List (Octstr × Option CText) := columnname.zip row.values

/-- The value of a column as it is written. -/
def written (name : Octstr) (value : Octstr) : Octstr :=
  if name = octstrImm "Content" then replaceWord (octstrImm "'") (octstrImm "\\'") value else value

/-- One round of the loop over the columns: the texts of the names and of the values. -/
def appendColumn (texts : Octstr × Octstr) (field : Octstr × Option CText) : Octstr × Octstr :=
  match field.2 with
  | none => texts
  | some value =>
    (texts.1 ++ (field.1 ++ octstrImm ","),
      texts.2 ++ (octstrImm "'" ++ (written field.1 value.1 ++ octstrImm "',")))

/-- The document to look the number up with; `sprintf` writes it to a buffer of 500 octets. -/
def phoneDocument (row : Row) : Octstr :=
  octstrImm "\x7b\"phoneNum\" : \"" ++
    (octstrGetCstr ((row.values.getD 5 none).map Subtype.val) ++ octstrImm "\"\x7d")

/-- **The `INSERT` of `checker`** for a row, with the answer whether the number is listed; `none` if the
document overruns its buffer. -/
def checkerQuery (row : Row) (listed : Bool) : Option Octstr :=
  let texts := row.fields.foldl appendColumn (octstrImm "INSERT INTO process_table (", [])
  if (phoneDocument row).length < 500 then
    let texts :=
      if listed then (texts.1 ++ octstrImm "dnd,", texts.2 ++ octstrImm "'1',") else texts
    let query := texts.1.dropLast ++ octstrImm ") values ("
    let val := texts.2.dropLast ++ octstrImm ") "
    some (query ++ val)
  else none

/-! ## What the statement should say

The statement should be read back, by a server, as an `INSERT` of the columns that are not `NULL` with their
values.  `Survives` says of a single value when it is. -/

/-- The columns that are not `NULL` with their values, and the mark of a listed number. -/
def Row.entries (row : Row) (listed : Bool) : List (Octstr × CText) :=
  (row.fields.filterMap fun field => field.2.map (Prod.mk field.1)) ++
    if listed then [(octstrImm "dnd", ⟨octstrImm "1", by decide⟩)] else []

/-- **The statement copies the row**: it is one `INSERT` of these columns with these values. -/
def Faithful (row : Row) (listed : Bool) : Prop :=
  ((checkerQuery row listed).bind
      (parseInsertNames (octstrImm "INSERT INTO process_table (") (octstrImm " values ("))) =
    some ((row.entries listed).map Prod.fst, (row.entries listed).map fun e => .string e.2.1)

/-- A backslash stands only before `%` and `_`. -/
def NoEscape : Octstr → Prop
  | [] => True
  | c :: s => (c = 92 → s.head? = some 37 ∨ s.head? = some 95) ∧ NoEscape s

instance NoEscape.decidable : ∀ s, Decidable (NoEscape s)
  | [] => .isTrue trivial
  | c :: s =>
    have := NoEscape.decidable s
    inferInstanceAs (Decidable ((c = 92 → s.head? = some 37 ∨ s.head? = some 95) ∧ NoEscape s))

/-- A value survives being written between quotes. -/
def Survives (name value : Octstr) : Prop :=
  if name = octstrImm "Content" then NoEscape value else Plain value

instance (name value : Octstr) : Decidable (Survives name value) :=
  inferInstanceAs (Decidable (if name = octstrImm "Content" then NoEscape value else Plain value))

/-! ## The values

A value stands between quotes as it is, and only the content has its quotes escaped.  A backslash is escaped
nowhere, so it is read as the start of an escape by the server. -/

theorem replaceWord_quote (c : UInt8) (s : Octstr) :
    replaceWord (octstrImm "'") (octstrImm "\\'") (c :: s) =
      (if c = 39 then [92, 39] else [c]) ++ replaceWord (octstrImm "'") (octstrImm "\\'") s := by
  have hprefix : (octstrImm "'").isPrefixOf (c :: s) = decide (c = 39) := by
    by_cases h : c = 39
    · subst h
      rfl
    · have hne : (39 == c) = false := beq_false_of_ne (Ne.symm h)
      change (39 == c && _) = decide (c = 39)
      rw [hne, Bool.false_and, decide_eq_false h]
  rw [replaceWord, hprefix]
  by_cases h : c = 39
  · simp [h, octstrImm]
  · simp [h]

/-- The content is pasted with a backslash before each quote. -/
theorem pasted_replaceWord : ∀ s : Octstr, Pasted s (replaceWord (octstrImm "'") (octstrImm "\\'") s)
  | [] => by
    rw [replaceWord]
    exact .nil
  | c :: s => by
    rw [replaceWord_quote]
    by_cases h : c = 39
    · subst h
      exact .quote (pasted_replaceWord s)
    · rw [if_neg h]
      exact .raw c (pasted_replaceWord s)

theorem noEscape_of_readBack {s t : Octstr} (h : ReadBack s t) : NoEscape s := by
  induction h with
  | nil => trivial
  | raw h39 h92 h ih => exact ⟨fun hc => absurd hc h92, ih⟩
  | pattern hc h ih =>
    refine ⟨fun _ => hc.imp (congrArg some) (congrArg some), ?_, ih⟩
    rintro rfl
    exact absurd hc (by decide)
  | quote h ih => exact ⟨fun hc => absurd hc (by decide), ih⟩

theorem readBack_replaceWord : ∀ {s : Octstr}, NoEscape s →
    ReadBack s (replaceWord (octstrImm "'") (octstrImm "\\'") s)
  | [], _ => by
    rw [replaceWord]
    exact .nil
  | [c], ⟨h92, _⟩ => by
    rw [replaceWord_quote, replaceWord, List.append_nil]
    by_cases h : c = 39
    · subst h
      exact .quote .nil
    · rw [if_neg h]
      exact .raw h (fun hc => by simpa using h92 hc) .nil
  | c :: d :: s, ⟨h92, hs⟩ => by
    rw [replaceWord_quote]
    by_cases h : c = 39
    · subst h
      exact .quote (readBack_replaceWord hs)
    rw [if_neg h]
    by_cases hc : c = 92
    · subst hc
      have hd : d = 37 ∨ d = 95 := by simpa using h92 rfl
      have hne : d ≠ 39 := by
        rintro rfl
        exact absurd hd (by decide)
      rw [replaceWord_quote, if_neg hne]
      exact .pattern hd (readBack_replaceWord hs.2)
    · exact .raw h hc (readBack_replaceWord hs)

/-- A value of a column between quotes. -/
def entryText (e : Octstr × CText) : ValueText :=
  if e.1 = octstrImm "Content" then .pasted 0 (pasted_replaceWord e.2.1)
  else .pasted 0 (pasted_self e.2.1)

theorem entryText_text (e : Octstr × CText) :
    (entryText e).text = octstrImm "'" ++ (written e.1 e.2.1 ++ octstrImm "'") := by
  rw [entryText, written]
  split_ifs <;> rfl

theorem entryText_value (e : Octstr × CText) : (entryText e).value = .string e.2.1 := by
  rw [entryText]
  split_ifs <;> rfl

theorem entryText_safe_iff (e : Octstr × CText) : (entryText e).safe ↔ Survives e.1 e.2.1 := by
  rw [entryText, Survives]
  split_ifs
  · exact ⟨noEscape_of_readBack, readBack_replaceWord⟩
  · exact readBack_self_iff

/-! ## The lists

The accumulators of the loop are the entries with a comma behind each; without the last one they are a list.
When nothing was appended it is the parenthesis that is cut off. -/

/-- The loop appends the names and the values that are not `NULL`, each with a comma. -/
theorem foldl_appendColumn (fields : List (Octstr × Option CText)) (texts : Octstr × Octstr) :
    fields.foldl appendColumn texts =
      (texts.1 ++ ((fields.filterMap fun f => f.2.map (Prod.mk f.1)).flatMap fun e => e.1 ++ [44]),
        texts.2 ++ ((fields.filterMap fun f => f.2.map (Prod.mk f.1)).flatMap
          fun e => (entryText e).text ++ [44])) := by
  induction fields generalizing texts with
  | nil => simp
  | cons field fields ih =>
    obtain ⟨name, value⟩ := field
    cases value with
    | none => exact ih texts
    | some value =>
      rw [List.foldl_cons, ih, appendColumn]
      simp [entryText_text, octstrImm]

/-- Without its last comma, the text is a list with commas between its parts. -/
theorem dropLast_flatMap_comma : ∀ {texts : List Octstr}, texts ≠ [] →
    (texts.flatMap fun x => x ++ [44]).dropLast = commaList texts
  | [], h => absurd rfl h
  | [x], _ => by simp [commaList]
  | x :: y :: texts, _ => by
    have htail : ((y :: texts).flatMap fun x => x ++ [44]).dropLast = commaList (y :: texts) :=
      dropLast_flatMap_comma (by simp)
    have hne : ((y :: texts).flatMap fun x => x ++ [44]) ≠ [] := by simp
    rw [List.flatMap_cons, List.dropLast_append_of_ne_nil hne, htail, commaList, List.append_assoc]
    rfl

/-- The names are words. -/
theorem word_of_mem_entries {row : Row} {listed : Bool} :
    ∀ w ∈ (row.entries listed).map Prod.fst, w ≠ [] ∧ ∀ c ∈ w, isWord c = true := by
  have hwords : ∀ w ∈ columnname ++ [octstrImm "dnd"], w ≠ [] ∧ w.all isWord = true := by decide
  intro w hw
  obtain ⟨e, he, rfl⟩ := List.mem_map.mp hw
  have hmem : e.1 ∈ columnname ++ [octstrImm "dnd"] := by
    obtain he | he := List.mem_append.mp he
    · obtain ⟨field, hfield, hsome⟩ := List.mem_filterMap.mp he
      obtain ⟨v, -, rfl⟩ := Option.map_eq_some_iff.mp hsome
      exact List.mem_append_left _ (List.of_mem_zip hfield).1
    · cases listed with
      | false => simp at he
      | true =>
        rw [if_pos rfl, List.mem_singleton] at he
        subst he
        exact List.mem_append_right _ (List.mem_singleton_self _)
  obtain ⟨hne, hall⟩ := hwords _ hmem
  exact ⟨hne, fun c hc => List.all_eq_true.mp hall c hc⟩

section Query

variable {row : Row} {listed : Bool}

/-- The names and the values that were appended, each with a comma. -/
def appended (row : Row) (listed : Bool) : Octstr × Octstr :=
  (octstrImm "INSERT INTO process_table (" ++ ((row.entries listed).map Prod.fst).flatMap (· ++ [44]),
    (((row.entries listed).map entryText).map (·.text)).flatMap (· ++ [44]))

/-- The statement, from the names and the values that were appended. -/
theorem checkerQuery_appended (hdoc : (phoneDocument row).length < 500) :
    checkerQuery row listed = some ((appended row listed).1.dropLast ++ octstrImm ") values (" ++
      ((appended row listed).2.dropLast ++ octstrImm ") ")) := by
  have htexts : (if listed then
      ((row.fields.foldl appendColumn (octstrImm "INSERT INTO process_table (", [])).1 ++ octstrImm "dnd,",
        (row.fields.foldl appendColumn (octstrImm "INSERT INTO process_table (", [])).2 ++
          octstrImm "'1',")
      else row.fields.foldl appendColumn (octstrImm "INSERT INTO process_table (", [])) =
      appended row listed := by
    rw [foldl_appendColumn, appended, Row.entries]
    cases listed with
    | false => simp [List.flatMap_map]
    | true => simp [List.flatMap_map, entryText_text, written, octstrImm]
  rw [checkerQuery, if_pos hdoc, ← htexts]

/-- The statement, where something is copied. -/
theorem checkerQuery_eq (hdoc : (phoneDocument row).length < 500) (hne : row.entries listed ≠ []) :
    checkerQuery row listed = some (octstrImm "INSERT INTO process_table (" ++
      (commaList ((row.entries listed).map Prod.fst) ++ 41 :: (octstrImm " values (" ++
        (commaList (((row.entries listed).map entryText).map (·.text)) ++ 41 :: List.replicate 1 32)))) := by
  have hnames : ((row.entries listed).map Prod.fst).flatMap (· ++ [44]) ≠ [] := by
    obtain ⟨e, es, he⟩ := List.exists_cons_of_ne_nil hne
    simp [he]
  rw [checkerQuery_appended hdoc, appended, List.dropLast_append_of_ne_nil hnames,
    dropLast_flatMap_comma (by simpa using hne), dropLast_flatMap_comma (by simpa using hne)]
  simp [octstrImm]

/-- Without a column to copy the opening parenthesis is cut off. -/
theorem not_faithful_of_nil (h : row.entries listed = []) : ¬ Faithful row listed := by
  intro hfaithful
  rw [Faithful] at hfaithful
  by_cases hdoc : (phoneDocument row).length < 500
  · rw [checkerQuery_appended hdoc, appended, h, Option.bind_some] at hfaithful
    exact absurd hfaithful (by decide)
  · rw [checkerQuery, if_neg hdoc] at hfaithful
    exact absurd hfaithful (by simp)

/-- The statement copies the row if it has something to copy, and every value survives. -/
theorem faithful_iff_of_doc (hdoc : (phoneDocument row).length < 500) (hne : row.entries listed ≠ []) :
    Faithful row listed ↔ ∀ e ∈ row.entries listed, Survives e.1 e.2.1 := by
  have hvalues : ((row.entries listed).map fun e => SqlValue.string e.2.1) =
      ((row.entries listed).map entryText).map (·.value) := by
    rw [List.map_map]
    exact List.map_congr_left fun e _ => (entryText_value e).symm
  have hsafe : (∀ p ∈ (row.entries listed).map entryText, p.safe) ↔
      ∀ e ∈ row.entries listed, Survives e.1 e.2.1 :=
    List.forall_mem_map.trans (forall₂_congr fun e _ => entryText_safe_iff e)
  rw [Faithful, checkerQuery_eq hdoc hne, Option.bind_some, hvalues,
    parseInsertNames_iff (by simpa using hne) (by simp) word_of_mem_entries, hsafe]

/-- **Rows are copied faithfully** exactly if something is copied, the document with the number fits its
buffer, no value but the content has a quote, and every backslash stands before `%` or `_`. -/
theorem checkerQuery_faithful_iff (row : Row) (listed : Bool) : Faithful row listed ↔
    row.entries listed ≠ [] ∧ (phoneDocument row).length < 500 ∧
      ∀ e ∈ row.entries listed, Survives e.1 e.2.1 := by
  by_cases hne : row.entries listed = []
  · exact ⟨fun h => absurd h (not_faithful_of_nil hne), fun h => absurd hne h.1⟩
  by_cases hdoc : (phoneDocument row).length < 500
  · rw [faithful_iff_of_doc hdoc hne]
    exact ⟨fun h => ⟨hne, hdoc, h⟩, fun h => h.2.2⟩
  · refine ⟨fun h => ?_, fun h => absurd h.2.1 hdoc⟩
    rw [Faithful, checkerQuery, if_neg hdoc] at h
    exact absurd h (by simp)

end Query

/-- A row with an id, two addresses and a content. -/
def sampleRow (source content : CText) : Row where
  values :=
    [some ⟨octstrImm "acme", by decide⟩, some ⟨octstrImm "017000000001", by decide⟩, none, none,
      some source, some ⟨octstrImm "919876543210", by decide⟩] ++ List.replicate 7 none ++
      some content :: List.replicate 4 none
  length_values := rfl

example : Faithful (sampleRow ⟨octstrImm "ACME", by decide⟩ ⟨octstrImm "it's 5%", by decide⟩) true :=
  (faithful_iff_of_doc (by decide) (by decide)).mpr (by decide)

/-- A content that ends in a backslash takes the closing quote with it. -/
theorem not_checkerQuery_faithful : ¬ ∀ row listed, Faithful row listed := by
  intro h
  have hcopied := h (sampleRow ⟨octstrImm "ACME", by decide⟩ ⟨octstrImm "a\\", by decide⟩) false
  exact absurd ((faithful_iff_of_doc (by decide) (by decide)).mp hcopied) (by decide)

end SmppServer.DndChecker
