import SmppServer.Dbbox.EsmeFile
import SmppServer.Esme.Config

/-!
# Esme/RowGroup — a row of dbbox's database as an account of the ESME server

The texts of a row are written without quoting; what the account gets of them is what `parse_value` makes of
them, provided that each stays on its line.

* `rowParts_lines` — the lines of a row are lines of their own and give the variables these values.
* `createOnetrans_rowGroup` — the account that the group of a row becomes.
-/

namespace SmppServer.SmppEsme

open Machinery

/-- The text stays on its line, and does not make an `include` of it. -/
def OneLine (v : Octstr) : Prop :=
  10 ∉ v ∧ v.getLast? ≠ some 92 ∧ ¬ octstrImm "include" <:+: v

instance (v : Octstr) : Decidable (OneLine v) := inferInstanceAs (Decidable (_ ∧ _ ∧ _))

/-- What stands in front of a value: the name, blanks, the equals sign and a blank. -/
def HeadOf (head name : Octstr) : Prop :=
  (∃ k ≤ 2, head = name ++ List.replicate k 32 ++ [61, 32]) ∧ Trimmed isSpace name ∧ name ≠ [] ∧
    name.head? ≠ some 35 ∧ 61 ∉ name ∧ 10 ∉ head ∧ ¬ octstrImm "include" <:+: head

instance (head name : Octstr) : Decidable (HeadOf head name) :=
  inferInstanceAs (Decidable (_ ∧ _ ∧ _ ∧ _ ∧ _ ∧ _ ∧ _))

section Lines

variable {head name v : Octstr} {n : ℤ}

/-- **A text behind its name**: it is a line of its own and gives the variable what `parse_value` makes of
the text. -/
theorem HeadOf.line (h : HeadOf head name) (hv : OneLine v) :
    PlainLine (head ++ v) ∧ Assigns (head ++ v) name (parseValue v) := by
  obtain ⟨⟨k, -, rfl⟩, htrim, hne, hcomment, hequals, hnewline, hinclude⟩ := h
  have hsplit : name ++ List.replicate k 32 ++ [61, 32] ++ v = name ++ List.replicate k 32 ++ 61 :: ([32] ++ v) := by
    simp
  have hsplit' : name ++ List.replicate k 32 ++ [61, 32] ++ v =
      name ++ List.replicate k 32 ++ [61] ++ 32 :: v := by
    simp
  refine ⟨⟨?_, ?_⟩, ?_⟩
  · rw [List.mem_append]
    exact not_or.mpr ⟨hnewline, hv.1⟩
  · rw [List.getLast?_append]
    cases hlast : v.getLast? with
    | none => simp
    | some c =>
      rw [Option.some_or]
      exact fun heq => hv.2.1 (hlast.trans heq)
  · have hnamed : Named (name ++ List.replicate k 32 ++ [61, 32] ++ v) name ([32] ++ v) :=
      ⟨⟨List.replicate k 32, hsplit, fun c hc => (List.eq_of_mem_replicate hc) ▸ by decide⟩,
        htrim, hne, hcomment, hequals⟩
    have hvalue : parseValue ([32] ++ v) = parseValue v := by
      rw [← parseValue_octstrStripBlanks, octstrStripBlanks, strip_append_of_all (List.forall_mem_singleton.mpr rfl),
        ← octstrStripBlanks, parseValue_octstrStripBlanks]
    rw [← hvalue]
    refine hnamed.assigns ?_
    rw [hsplit', infix_append_cons_iff (by decide)]
    refine not_or.mpr ⟨fun hin => hinclude (hin.trans ?_), hv.2.2⟩
    exact ⟨[], [32], by simp⟩

/-- A printed number has digits, and a minus perhaps. -/
theorem mem_formatLd {c : UInt8} (h : c ∈ formatLd n) : c = 45 ∨ gwIsdigit c = true := by
  rw [formatLd] at h
  split at h
  · exact (List.mem_cons.mp h).imp_right gwIsdigit_of_mem_decimal
  · exact .inr (gwIsdigit_of_mem_decimal h)

theorem isSpace_of_gwIsdigit {c : UInt8} (h : gwIsdigit c = true) : isSpace c = false := by
  simp only [gwIsdigit, isSpace, Bool.and_eq_true, decide_eq_true_eq, Bool.or_eq_false_iff,
    beq_eq_false_iff_ne, ne_eq, Bool.and_eq_false_iff, decide_eq_false_iff_not, UInt8.le_iff_toNat_le,
    ← UInt8.toNat_inj, UInt8.toNat_ofNat] at h ⊢
  omega

/-- A printed number is a text of its own. -/
theorem oneLine_formatLd (n : ℤ) : OneLine (formatLd n) := by
  refine ⟨fun h => ?_, fun h => ?_, fun h => ?_⟩
  · exact absurd (mem_formatLd h) (by decide)
  · exact absurd (mem_formatLd (List.mem_of_getLast? h)) (by decide)
  · exact absurd (mem_formatLd (h.subset (by decide : (105 : UInt8) ∈ octstrImm "include"))) (by decide)

theorem parseValue_formatLd (n : ℤ) : parseValue (formatLd n) = formatLd n := by
  have hspace : ∀ c ∈ formatLd n, isSpace c = false := fun c hc => by
    obtain rfl | hdigit := mem_formatLd hc
    · decide
    · exact isSpace_of_gwIsdigit hdigit
  refine parseValue_eq_self_iff.mpr ⟨⟨fun c hc => ?_, fun c hc => ?_⟩, fun h => ?_⟩
  · exact hspace c (List.mem_of_head? hc)
  · exact hspace c (List.mem_of_getLast? hc)
  · exact absurd (mem_formatLd (List.mem_of_head? h.1)) (by decide)

end Lines

/-! ## A row

A row is written as the lines of one group, and each of them is read back as a variable with its value. -/

/-- A number of a row. -/
def numberOf (column : Option Octstr) : ℤ := atoi (cstr (column.getD []))

/-- The lines of a row: what stands in front of the value, the variable, and the text. -/
def rowParts (row : EsmeClientInfo) : List (Octstr × Octstr × Octstr) :=
  [ (octstrImm "group  = ", octstrImm "group", octstrImm "smpp-client"),
    (octstrImm "mode  = ", octstrImm "mode", percentS row.mode),
    (octstrImm "account-name  = ", octstrImm "account-name", percentS row.esmeAcc),
    (octstrImm "password  = ", octstrImm "password", percentS row.esmePass),
    (octstrImm "validfrom  = ", octstrImm "validfrom", percentS row.esmeValidFrom),
    (octstrImm "validto  = ", octstrImm "validto", percentS row.emsValidTo),
    (octstrImm "log-file  = ", octstrImm "log-file", percentS row.esmeLogFile),
    (octstrImm "log-level  = ", octstrImm "log-level", formatLd (numberOf row.esmeLogLevel)),
    (octstrImm "max-submits-unconnect  = ", octstrImm "max-submits-unconnect",
      formatLd (numberOf row.maxSubmitsUncon)),
    (octstrImm "max-submits  = ", octstrImm "max-submits", formatLd (numberOf row.maxSubmits)),
    (octstrImm "max-tx-sessions  = ", octstrImm "max-tx-sessions", formatLd (numberOf row.maxTxSessions)),
    (octstrImm "max-rx-sessions  = ", octstrImm "max-rx-sessions", formatLd (numberOf row.maxRxSessions)),
    (octstrImm "max-rx-sessions  = ", octstrImm "max-rx-sessions", formatLd (numberOf row.maxRxSessions)) ] ++
  (if row.allowSource.isSome then
    [(octstrImm "account-allow-prefix  = ", octstrImm "account-allow-prefix", percentS row.allowSource)]
  else []) ++
  [ (octstrImm "max-tps = ", octstrImm "max-tps", formatLd (numberOf row.maxTps)),
    (octstrImm "dnd-check = ", octstrImm "dnd-check", formatLd (numberOf row.dndCheck)),
    (octstrImm "dedicated-smsc  = ", octstrImm "dedicated-smsc", percentS row.dedicateSmsc) ]

/-- What the lines of a row give its variables. -/
def rowBlock (row : EsmeClientInfo) : Block := (rowParts row).map fun part => (part.2.1, parseValue part.2.2)

/-- The texts of a row. -/
def rowTexts (row : EsmeClientInfo) : List Octstr :=
  [ percentS row.mode, percentS row.esmeAcc, percentS row.esmePass, percentS row.esmeValidFrom,
    percentS row.emsValidTo, percentS row.esmeLogFile, percentS row.allowSource, percentS row.dedicateSmsc ]

/-- The numbers of a row. -/
def rowNumbers (row : EsmeClientInfo) : List (Option Octstr) :=
  [ row.esmeLogLevel, row.maxSubmitsUncon, row.maxSubmits, row.maxTxSessions, row.maxRxSessions, row.maxTps,
    row.dndCheck ]

section Row

variable {row : EsmeClientInfo} {column : Option Octstr} {lines : List Octstr} {filename name value : Octstr}

theorem percentAtoi_eq_some (h : column.isSome = true) : percentAtoi column = some (formatLd (numberOf column)) := by
  obtain ⟨s, rfl⟩ := Option.isSome_iff_exists.mp h
  rfl

/-- A row is written if none of its numbers is `NULL`. -/
theorem rowLines_eq_some (h : ∀ column ∈ rowNumbers row, column.isSome = true) :
    rowLines row = some ((rowParts row).map fun part => part.1 ++ part.2.2) := by
  simp only [rowNumbers, List.forall_mem_cons] at h
  obtain ⟨h₁, h₂, h₃, h₄, h₅, h₆, h₇, -⟩ := h
  rw [rowLines, percentAtoi_eq_some h₁, percentAtoi_eq_some h₂, percentAtoi_eq_some h₃, percentAtoi_eq_some h₄,
    percentAtoi_eq_some h₅, percentAtoi_eq_some h₆, percentAtoi_eq_some h₇, rowParts]
  cases row.allowSource <;> rfl

/-- Only such a row is written. -/
theorem eq_of_rowLines_eq_some (h : rowLines row = some lines) :
    lines = (rowParts row).map fun part => part.1 ++ part.2.2 := by
  have hnull : ∀ {column : Option Octstr} {text : Octstr}, percentAtoi column = some text → column.isSome = true :=
    fun h => by
      obtain ⟨s, rfl, -⟩ := Option.map_eq_some_iff.mp h
      rfl
  have hsome : ∀ column ∈ rowNumbers row, column.isSome = true := by
    have hlines := h
    rw [rowLines] at hlines
    obtain ⟨_, h₁, hlines⟩ := Option.bind_eq_some_iff.mp hlines
    obtain ⟨_, h₂, hlines⟩ := Option.bind_eq_some_iff.mp hlines
    obtain ⟨_, h₃, hlines⟩ := Option.bind_eq_some_iff.mp hlines
    obtain ⟨_, h₄, hlines⟩ := Option.bind_eq_some_iff.mp hlines
    obtain ⟨_, h₅, hlines⟩ := Option.bind_eq_some_iff.mp hlines
    obtain ⟨_, h₆, hlines⟩ := Option.bind_eq_some_iff.mp hlines
    obtain ⟨_, h₇, -⟩ := Option.bind_eq_some_iff.mp hlines
    simp only [rowNumbers, List.forall_mem_cons]
    exact ⟨hnull h₁, hnull h₂, hnull h₃, hnull h₄, hnull h₅, hnull h₆, hnull h₇, by simp⟩
  exact Option.some.inj (h.symm.trans (rowLines_eq_some hsome))

theorem headOf_rowParts : ∀ part ∈ rowParts row, HeadOf part.1 part.2.1 := by
  have hsource : HeadOf (octstrImm "account-allow-prefix  = ") (octstrImm "account-allow-prefix") := by decide
  simp only [rowParts, List.forall_mem_append, List.forall_mem_cons]
  refine ⟨⟨?_, ?_⟩, ?_⟩
  · exact ⟨by decide, by decide, by decide, by decide, by decide, by decide, by decide, by decide, by decide,
      by decide, by decide, by decide, by decide, by simp⟩
  · split <;> simp [hsource]
  · exact ⟨by decide, by decide, by decide, by simp⟩

/-- The variables of a row are variables of the group. -/
theorem isAllowedInGroup_rowParts :
    ∀ part ∈ rowParts row, isAllowedInGroup (octstrImm "smpp-client") part.2.1 = true := by
  have hsource : isAllowedInGroup (octstrImm "smpp-client") (octstrImm "account-allow-prefix") = true := by decide
  simp only [rowParts, List.forall_mem_append, List.forall_mem_cons]
  refine ⟨⟨?_, ?_⟩, ?_⟩
  · and_intros <;> decide
  · split <;> simp [hsource]
  · and_intros <;> decide

/-- The other texts of the lines are numbers, and the name of the group. -/
theorem oneLine_rowParts (h : ∀ text ∈ rowTexts row, OneLine text) : ∀ part ∈ rowParts row, OneLine part.2.2 := by
  simp only [rowTexts, List.forall_mem_cons] at h
  obtain ⟨hmode, hacc, hpass, hfrom, hto, hlog, hsource, hsmsc, -⟩ := h
  have hgroup : OneLine (octstrImm "smpp-client") := by decide
  simp only [rowParts, List.forall_mem_append, List.forall_mem_cons]
  refine ⟨⟨⟨hgroup, hmode, hacc, hpass, hfrom, hto, hlog, oneLine_formatLd _, oneLine_formatLd _,
    oneLine_formatLd _, oneLine_formatLd _, oneLine_formatLd _, oneLine_formatLd _, by simp⟩, ?_⟩,
    oneLine_formatLd _, oneLine_formatLd _, hsmsc, by simp⟩
  split <;> simp [hsource]

/-- The lines of a row are lines, and give the variables of its group their values. -/
theorem rowParts_lines (h : ∀ text ∈ rowTexts row, OneLine text) :
    (∀ line ∈ (rowParts row).map fun part => part.1 ++ part.2.2, PlainLine line) ∧
      BlockLines ((rowParts row).map fun part => part.1 ++ part.2.2) (rowBlock row) := by
  have hparts : ∀ part ∈ rowParts row, PlainLine (part.1 ++ part.2.2) ∧
      Assigns (part.1 ++ part.2.2) part.2.1 (parseValue part.2.2) := fun part hpart =>
    (headOf_rowParts part hpart).line (oneLine_rowParts h part hpart)
  constructor
  · intro line hline
    obtain ⟨part, hpart, rfl⟩ := List.mem_map.mp hline
    exact (hparts part hpart).1
  · rw [BlockLines, rowBlock, List.forall₂_map_left_iff, List.forall₂_map_right_iff, List.forall₂_same]
    exact fun part hpart => (hparts part hpart).2

/-- The lines of a row and its block. -/
def rowEntry (row : EsmeClientInfo) : List Octstr × Block :=
  ((rowParts row).map fun part => part.1 ++ part.2.2, rowBlock row)

@[simp] theorem rowEntry_snd (row : EsmeClientInfo) : (rowEntry row).2 = rowBlock row := rfl

theorem rowBlock_ne_nil (row : EsmeClientInfo) : rowBlock row ≠ [] := List.cons_ne_nil _ _

/-- The account of a row. -/
def rowAccount (logOpen : Octstr → ℤ → ℤ) (row : EsmeClientInfo) : Option SmscClient :=
  (allowedModeOf (parseValue (percentS row.mode)) false).map fun allowedMode =>
    { accountName := parseValue (percentS row.esmeAcc)
      password := parseValue (percentS row.esmePass)
      validfrom := parseValue (percentS row.esmeValidFrom)
      validto := parseValue (percentS row.emsValidTo)
      allowedMode
      logFile := some (parseValue (percentS row.esmeLogFile))
      logLevel := numberOf row.esmeLogLevel
      logIdx := logOpen (parseValue (percentS row.esmeLogFile)) (numberOf row.esmeLogLevel)
      allowedPrefix := row.allowSource.map fun s => parseValue (cstr s)
      dedicatedSmsc := some (parseValue (percentS row.dedicateSmsc))
      enquireLinkInterval := smppEnquireLinkInterval
      maxSubmitsUnconnect := numberOf row.maxSubmitsUncon
      maxSubmits := numberOf row.maxSubmits
      maxTps := numberOf row.maxTps
      maxTxSessions := numberOf row.maxTxSessions
      maxRxSessions := numberOf row.maxRxSessions
      dndsCheck := numberOf row.dndCheck }

/-- The group of a row, as it stands in the configuration. -/
def rowGroup (filename : Octstr) (row : EsmeClientInfo) : CfgGroup :=
  { groupOf filename (rowBlock row) with name := some (octstrImm "smpp-client") }

/-- The last value that the lines of a row give a variable. -/
def rowValue (row : EsmeClientInfo) (name : Octstr) : Option Octstr :=
  ((rowBlock row).reverse.find? (·.1 = name)).map (·.2)

theorem cfgGet_rowGroup (h : isAllowedInGroup (octstrImm "smpp-client") name = true) :
    cfgGet (rowGroup filename row) name = .ok (rowValue row name) := by
  have hlookup : (rowGroup filename row).vars.lookup name = rowValue row name := by
    rw [rowGroup, groupOf, lookup_setAll]
    simp [rowValue]
  rw [← hlookup, cfgGet]
  exact if_pos h

theorem cfgGetInteger_rowGroup (h : isAllowedInGroup (octstrImm "smpp-client") name = true) :
    cfgGetInteger (rowGroup filename row) name = .ok ((rowValue row name).bind octstrParseLong) := by
  rw [cfgGetInteger, cfgGet_rowGroup h]
  rfl

/-- **The variables of a row's group.** -/
theorem rowValue_eq (row : EsmeClientInfo) :
    rowValue row (octstrImm "group") = some (octstrImm "smpp-client") ∧
    rowValue row (octstrImm "mode") = some (parseValue (percentS row.mode)) ∧
    rowValue row (octstrImm "account-name") = some (parseValue (percentS row.esmeAcc)) ∧
    rowValue row (octstrImm "password") = some (parseValue (percentS row.esmePass)) ∧
    rowValue row (octstrImm "validfrom") = some (parseValue (percentS row.esmeValidFrom)) ∧
    rowValue row (octstrImm "validto") = some (parseValue (percentS row.emsValidTo)) ∧
    rowValue row (octstrImm "log-file") = some (parseValue (percentS row.esmeLogFile)) ∧
    rowValue row (octstrImm "log-level") = some (parseValue (formatLd (numberOf row.esmeLogLevel))) ∧
    rowValue row (octstrImm "max-submits-unconnect") =
      some (parseValue (formatLd (numberOf row.maxSubmitsUncon))) ∧
    rowValue row (octstrImm "max-submits") = some (parseValue (formatLd (numberOf row.maxSubmits))) ∧
    rowValue row (octstrImm "max-tx-sessions") = some (parseValue (formatLd (numberOf row.maxTxSessions))) ∧
    rowValue row (octstrImm "max-rx-sessions") = some (parseValue (formatLd (numberOf row.maxRxSessions))) ∧
    rowValue row (octstrImm "account-allow-prefix") = row.allowSource.map (fun s => parseValue (cstr s)) ∧
    rowValue row (octstrImm "max-tps") = some (parseValue (formatLd (numberOf row.maxTps))) ∧
    rowValue row (octstrImm "dnd-check") = some (parseValue (formatLd (numberOf row.dndCheck))) ∧
    rowValue row (octstrImm "dedicated-smsc") = some (parseValue (percentS row.dedicateSmsc)) ∧
    ∀ name ∈ ["account-deny-prefix", "preferred-smsc", "enquire-link-interval", "rx-allowed", "rx-log-file",
      "valid_time_from", "valid_time_to"], rowValue row (octstrImm name) = none := by
  cases h : row.allowSource <;> rw [Option.map]
  all_goals
    simp only [List.forall_mem_cons]
    and_intros
    all_goals first | (rw [rowValue, rowBlock, rowParts, h]; rfl) | simp

/-- A number of a row is an `int`. -/
theorem numberOf_bounds (column : Option Octstr) : -2 ^ 31 ≤ numberOf column ∧ numberOf column < 2 ^ 31 := by
  have hle := Int.le_bmod (x := strtoll 10 (cstr (column.getD []))) (m := 2 ^ 32) (by norm_num)
  have hlt := Int.bmod_lt (x := strtoll 10 (cstr (column.getD []))) (m := 2 ^ 32) (by norm_num)
  rw [numberOf, atoi]
  constructor
  · exact hle
  · omega

/-- A number of a row is read back. -/
theorem octstrParseLong_numberOf (column : Option Octstr) :
    octstrParseLong (parseValue (formatLd (numberOf column))) = some (numberOf column) := by
  have hbounds := numberOf_bounds column
  rw [parseValue_formatLd, octstrParseLong_formatLd (by omega)]

/-- **The account that the group of a row becomes**, if its mode is one. -/
theorem createOnetrans_rowGroup (logOpen : Octstr → ℤ → ℤ) (filename : Octstr) (row : EsmeClientInfo) :
    createOnetrans logOpen (rowGroup filename row) = .ok (rowAccount logOpen row) := by
  obtain ⟨-, hmode, hacc, hpass, hfrom, hto, hlog, hlevel, huncon, hsub, htx, hrx, hprefix, htps, hdnd, hsmsc,
    habsent⟩ := rowValue_eq row
  have hdnd' : toInt (numberOf row.dndCheck) = numberOf row.dndCheck :=
    toInt_eq_self_iff.mpr (numberOf_bounds row.dndCheck)
  simp only [List.forall_mem_cons] at habsent
  obtain ⟨hdeny, hpreferred, henquire, hrxallowed, -, hvfrom, hvto, -⟩ := habsent
  have hbool : cfgGetBool (rowGroup filename row) (octstrImm "rx-allowed") = .ok false := by
    rw [cfgGetBool, cfgGet_rowGroup (by decide), hrxallowed]
    rfl
  have hname : (rowGroup filename row).name = some (octstrImm "smpp-client") := rfl
  rw [createOnetrans, if_neg (not_not_intro hname)]
  simp (disch := decide) only [cfgGet_rowGroup, cfgGetInteger_rowGroup, hbool, hmode, hacc, hpass, hfrom, hto,
    hlog, hlevel, huncon, hsub, htx, hrx, hprefix, htps, hdnd, hsmsc, hdeny, hpreferred, henquire, hvfrom, hvto,
    Option.bind_some, Option.bind_none, octstrParseLong_numberOf]
  have hrun : ∀ {α β : Type} (x : α) (f : α → Except CfgPanic β), (Except.ok x >>= f) = f x := fun _ _ => rfl
  simp only [hrun, Option.getD_some, hdnd']
  rfl

end Row

end SmppServer.SmppEsme
