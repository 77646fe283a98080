import SmppServer.Gwlib.CfgRead

/-!
# Gwlib/CfgBlocks — reading a file that was written group by group

A file of groups, each a block of lines `name = value` with an empty line between two of them, is read as
these groups, one after the other.

* `Named.assigns` — a line gives the variable it begins with the value that stands behind the equals sign.
* `cfgRead_blocks` — what a file of such blocks is read as.
-/

namespace SmppServer

open Machinery

variable {fs : Octstr → Option Node} {s : ReadState} {filename file name value v w : Octstr} {cfg : Cfg}
  {lines : List Octstr} {locs : List CfgLoc} {c : UInt8}

/-! ## Lines

A line is read as it was written if nothing in it continues it, comments it out or makes an include of it. -/

/-- The line stays a line of its own when it is written. -/
def PlainLine (line : Octstr) : Prop := 10 ∉ line ∧ line.getLast? ≠ some 92

instance (line : Octstr) : Decidable (PlainLine line) := inferInstanceAs (Decidable (_ ∧ _))

/-- A line that begins with a name and has, behind an equals sign, any text. -/
structure Named (line name value : Octstr) : Prop where
  eq : ∃ blanks, line = name ++ blanks ++ 61 :: value ∧ ∀ c ∈ blanks, isSpace c = true
  trimmed : Trimmed isSpace name
  ne_nil : name ≠ []
  comment : name.head? ≠ some 35
  equals : 61 ∉ name

/-- **What a line gives a variable** is what stands behind the equals sign. -/
theorem Named.assigns {line : Octstr} (h : Named line name value)
    (hinclude : ¬ octstrImm "include" <:+: line) : Assigns line name (parseValue value) := by
  obtain ⟨blanks, rfl, hblanks⟩ := h.eq
  obtain ⟨c, s, rfl⟩ := List.exists_cons_of_ne_nil h.ne_nil
  have hc : ¬ isSpace c = true := by simp [h.trimmed.1 c rfl]
  have hequals : 61 ∉ c :: s ++ blanks := fun hmem => (List.mem_append.mp hmem).elim h.equals fun hb =>
    absurd (hblanks 61 hb) (by decide)
  have hstrip : octstrStripBlanks (c :: s ++ blanks ++ 61 :: value) =
      c :: s ++ blanks ++ 61 :: value.rdropWhile isSpace := by
    rw [octstrStripBlanks, strip, List.cons_append, List.cons_append, List.dropWhile_cons_of_neg hc,
      ← List.cons_append, ← List.cons_append, rdropWhile_append_cons (by decide)]
  have hidx : (c :: s ++ blanks ++ 61 :: value.rdropWhile isSpace).idxOf 61 = (c :: s ++ blanks).length := by
    rw [List.idxOf_append_of_notMem hequals, List.idxOf_cons_self, Nat.add_zero]
  have hinfix : octstrStripBlanks (c :: s ++ blanks ++ 61 :: value) <:+: c :: s ++ blanks ++ 61 :: value := by
    rw [octstrStripBlanks, strip]
    exact (List.rdropWhile_prefix isSpace _).isInfix.trans (List.dropWhile_suffix isSpace).isInfix
  refine ⟨⟨⟨?_, ?_⟩, fun hin => hinclude (hin.trans hinfix)⟩, ?_, ?_⟩
  · rw [hstrip]
    exact h.comment
  · rw [hstrip]
    exact List.mem_append_right _ List.mem_cons_self
  · rw [hstrip, hidx, List.take_left, octstrStripBlanks, strip_append_of_all_right hblanks,
      strip_eq_self h.trimmed]
  · rw [lineValue, hstrip, hidx, List.drop_append, List.drop_eq_nil_of_le (by omega), List.nil_append,
      Nat.add_sub_cancel_left, List.drop_one, List.tail_cons, ← parseValue_octstrStripBlanks,
      octstrStripBlanks, strip_rdropWhile, ← octstrStripBlanks, parseValue_octstrStripBlanks]

/-! ## Files

The lines of a block are variables of one group, and the empty line behind them adds it.  So by induction on the
blocks the configuration is the one that `addGroups` makes, and a failure in the middle is the failure of the
whole. -/

/-- Lines that are not continued are read as they are. -/
theorem joinLines_of_plain (h : ∀ line ∈ lines, line.getLast? ≠ some 92) (file : Octstr) (n : ℕ) :
    (joinLines file n none lines).1.map (·.line) = lines ∧
      (joinLines file n none lines).2 = n + lines.length := by
  induction lines generalizing n with
  | nil => exact ⟨rfl, rfl⟩
  | cons line lines ih =>
    obtain ⟨hline, hlines⟩ := List.forall_mem_cons.mp h
    obtain ⟨hmap, hlast⟩ := ih hlines (n + 1)
    simp only [joinLines, if_neg hline, Option.isNone_none, if_true]
    refine ⟨?_, ?_⟩
    · rw [List.map_cons, hmap]
      simp
    · rw [hlast, List.length_cons]
      omega

/-- A file written line by line, and the newline `expand_file` puts behind it. -/
theorem expandFile_of_plain (hfile : fs file = some (.file (lines.flatMap fun line => line ++ [10])))
    (hlines : ∀ line ∈ lines, PlainLine line) (hne : lines ≠ []) :
    ∃ locs, expandFile fs file true = some locs ∧ locs.map (·.line) = lines ++ [[10]] := by
  have hread : octstrReadFile fs file = some (lines.flatMap fun line => line ++ [10]) := by
    rw [octstrReadFile, hfile]
  have hsplit : splitLines (lines.flatMap fun line => line ++ [10]) = lines :=
    linesOf_flatMap fun line hline => (hlines line hline).1
  obtain ⟨hmap, hlast⟩ := joinLines_of_plain (fun line hline => (hlines line hline).2) file 0
  have hpos : 0 < (joinLines file 0 none lines).2 := by
    rw [hlast, Nat.zero_add]
    exact List.length_pos_of_ne_nil hne
  refine ⟨(joinLines file 0 none lines).1 ++ [⟨file, (joinLines file 0 none lines).2, [10]⟩], ?_, ?_⟩
  · rw [expandFile, hread, Option.map_some, hsplit]
    simp only [if_pos hpos, if_true]
  · rw [List.map_append, hmap]
    rfl

/-- The variables of a group, in the order in which they are written. -/
abbrev Block := List (Octstr × Octstr)

/-- The lines give these variables these values. -/
def BlockLines (lines : List Octstr) (block : Block) : Prop :=
  List.Forall₂ (fun line var => Assigns line var.1 var.2) lines block

/-- A group with more variables. -/
def setAll (grp : CfgGroup) (block : Block) : CfgGroup :=
  block.foldl (fun grp var => cfgSet grp var.1 var.2) grp

/-- The group that a block is read as. -/
def groupOf (filename : Octstr) (block : Block) : CfgGroup := setAll { configfile := some filename } block

@[simp] theorem setAll_configfile (grp : CfgGroup) (block : Block) :
    (setAll grp block).configfile = grp.configfile := by
  induction block generalizing grp with
  | nil => rfl
  | cons var block ih => exact (ih _).trans rfl

@[simp] theorem setAll_name (grp : CfgGroup) (block : Block) : (setAll grp block).name = grp.name := by
  induction block generalizing grp with
  | nil => rfl
  | cons var block ih => exact (ih _).trans rfl

/-- The last value that a variable is given is the one it has. -/
theorem lookup_setAll (grp : CfgGroup) (block : Block) (name : Octstr) :
    (setAll grp block).vars.lookup name =
      ((block.reverse.find? (·.1 = name)).map (·.2)).or (grp.vars.lookup name) := by
  induction block using List.reverseRecOn with
  | nil => rfl
  | append_singleton block var ih =>
    have hset : setAll grp (block ++ [var]) = cfgSet (setAll grp block) var.1 var.2 := by
      rw [setAll, List.foldl_append, setAll]
      rfl
    rw [hset, cfgSet, List.reverse_append, List.reverse_singleton, List.singleton_append]
    by_cases hname : var.1 = name
    · rw [List.find?_cons_of_pos (by simpa using hname), ← hname, AList.lookup_insert]
      rfl
    · rw [List.find?_cons_of_neg (by simpa using hname), AList.lookup_insert_ne (Ne.symm hname), ih]

/-- The variables of a group are those that its lines name. -/
theorem mem_setAll {grp : CfgGroup} {block : Block} {name : Octstr} (h : name ∈ (setAll grp block).vars) :
    name ∈ block.map (·.1) ∨ name ∈ grp.vars := by
  rw [← AList.lookup_isSome, lookup_setAll] at h
  cases hfind : block.reverse.find? (·.1 = name) with
  | none =>
    rw [hfind, Option.map_none, Option.none_or] at h
    exact .inr (AList.lookup_isSome.mp h)
  | some var =>
    have hmem := List.mem_reverse.mp (List.mem_of_find?_eq_some hfind)
    have hname : var.1 = name := by simpa using List.find?_some hfind
    exact .inl (List.mem_map.mpr ⟨var, hmem, hname⟩)

theorem addGroup_filename {grp : CfgGroup} {cfg' : Cfg} (h : addGroup cfg grp = .ok cfg') :
    cfg'.filename = cfg.filename := by
  obtain ⟨groupname, -, ⟨-, rfl⟩ | ⟨-, rfl⟩⟩ := addGroup_eq_ok h <;> rfl

/-- Reading the lines of a group that has begun. -/
theorem readLoop_block (s : ReadState) {block : Block} {rest : List CfgLoc} {grp : CfgGroup}
    (hlocs : BlockLines (locs.map (·.line)) block) (hgrp : s.grp = some grp)
    (hfile : grp.configfile = some s.cfg.filename) (n : ℕ) :
    readLoop fs (locs.length + n) { s with lines := locs ++ rest } =
      readLoop fs n { s with lines := rest, grp := some (setAll grp block) } := by
  induction locs generalizing s block grp with
  | nil =>
    obtain rfl := List.forall₂_nil_left_iff.mp hlocs
    rw [List.length_nil, Nat.zero_add, List.nil_append, setAll, List.foldl_nil, ← hgrp]
  | cons loc locs ih =>
    obtain ⟨var, block', hassigns, hrest, rfl⟩ := List.forall₂_cons_left_iff.mp hlocs
    have hsame : { grp with configfile := some s.cfg.filename } = grp := by rw [← hfile]
    rw [List.length_cons, Nat.add_right_comm, readLoop, List.cons_append]
    simp only [readLine_of_assigns hassigns, hgrp, Option.getD_some, hsame]
    have htail := ih { s with grp := some (cfgSet grp var.1 var.2) } hrest rfl hfile
    exact htail

/-- Reading the lines of a new group. -/
theorem readLoop_block_of_none (fs : Octstr → Option Node) (s : ReadState) {block : Block}
    (rest : List CfgLoc) (hlocs : BlockLines (locs.map (·.line)) block) (hne : block ≠ []) (hgrp : s.grp = none) (n : ℕ) :
    readLoop fs (locs.length + n) { s with lines := locs ++ rest } =
      readLoop fs n { s with lines := rest, grp := some (groupOf s.cfg.filename block) } := by
  cases locs with
  | nil => exact absurd (List.forall₂_nil_left_iff.mp hlocs) hne
  | cons loc locs =>
    obtain ⟨var, block', hassigns, hrest, rfl⟩ := List.forall₂_cons_left_iff.mp hlocs
    rw [List.length_cons, Nat.add_right_comm, readLoop, List.cons_append]
    simp only [readLine_of_assigns hassigns, hgrp, Option.getD_none]
    exact readLoop_block { s with grp := some _ } hrest rfl rfl n

/-- An empty line ends a group. -/
theorem readLine_of_blank {loc : CfgLoc} {grp : CfgGroup} {cfg' : Cfg} (hblank : octstrStripBlanks loc.line = [])
    (hgrp : s.grp = some grp) (hadd : addGroup s.cfg grp = .ok cfg') :
    readLine fs s loc = .next { s with grp := none, cfg := cfg' } := by
  simp only [readLine, hblank, if_true, hgrp, hadd]

/-- The groups of a configuration, added one after the other. -/
def addGroups (cfg : Cfg) (grps : List CfgGroup) : Except CfgError Cfg := grps.foldlM addGroup cfg

theorem addGroups_cons_eq_ok {grp : CfgGroup} {grps : List CfgGroup} {cfg' : Cfg} :
    addGroups cfg (grp :: grps) = .ok cfg' ↔ ∃ c, addGroup cfg grp = .ok c ∧ addGroups c grps = .ok cfg' := by
  rw [addGroups, List.foldlM_cons]
  cases hadd : addGroup cfg grp with
  | error e =>
    constructor
    · exact fun h => by cases h
    · rintro ⟨c, h, -⟩
      cases h
  | ok c =>
    constructor
    · exact fun h => ⟨c, rfl, h⟩
    · rintro ⟨c', hc, h⟩
      cases hc
      exact h

/-- One turn of the loop. -/
theorem readLoop_next {loc : CfgLoc} {s' : ReadState} (hline : readLine fs { s with lines := locs } loc = .next s')
    (n : ℕ) : readLoop fs (n + 1) { s with lines := loc :: locs } = readLoop fs n s' := by
  simp only [readLoop, hline]

/-- Behind a group that is being read: blocks with an empty line in front of each, and the last newline. -/
theorem readLoop_blocks (s : ReadState) {blocks : List (List Octstr × Block)} {grp : CfgGroup} {cfg' : Cfg}
    (hblocks : ∀ x ∈ blocks, BlockLines x.1 x.2 ∧ x.2 ≠ [])
    (hlocs : locs.map (·.line) = blocks.flatMap (fun x => [] :: x.1) ++ [[10]]) (hgrp : s.grp = some grp)
    (hadd : addGroups s.cfg (grp :: blocks.map fun x => groupOf s.cfg.filename x.2) = .ok cfg') :
    readLoop fs (locs.length + 1) { s with lines := locs } = some (.read cfg') := by
  obtain ⟨c, hc, hrest⟩ := addGroups_cons_eq_ok.mp hadd
  induction blocks generalizing s grp c locs with
  | nil =>
    obtain ⟨loc, rfl, hloc⟩ := List.map_eq_singleton_iff.mp hlocs
    obtain rfl : c = cfg' := Except.ok.inj hrest
    have hblank : octstrStripBlanks loc.line = [] := by rw [hloc]; decide
    have hline : readLine fs { s with lines := [] } loc = .next { s with lines := [], grp := none, cfg := c } :=
      readLine_of_blank hblank hgrp hc
    rw [List.length_singleton, readLoop_next hline]
    rfl
  | cons x blocks ih =>
    obtain ⟨⟨hlines, hne⟩, hblocks⟩ := List.forall_mem_cons.mp hblocks
    rw [List.flatMap_cons, List.cons_append, List.cons_append] at hlocs
    obtain ⟨loc, locs', rfl, hloc, hlocs'⟩ := List.map_eq_cons_iff.mp hlocs
    rw [List.append_assoc] at hlocs'
    obtain ⟨locs₁, locs₂, rfl, h₁, h₂⟩ := List.map_eq_append_iff.mp hlocs'
    have hblank : octstrStripBlanks loc.line = [] := by rw [hloc]; decide
    have hline : readLine fs { s with lines := locs₁ ++ locs₂ } loc =
        .next { s with lines := locs₁ ++ locs₂, grp := none, cfg := c } := readLine_of_blank hblank hgrp hc
    have hblock := readLoop_block_of_none fs { s with grp := none, cfg := c } locs₂ (h₁ ▸ hlines) hne rfl
      (locs₂.length + 1)
    rw [List.length_cons, readLoop_next hline, List.length_append, Nat.add_assoc]
    refine hblock.trans ?_
    rw [← addGroup_filename hc] at hrest
    obtain ⟨c', hc', hrest'⟩ := addGroups_cons_eq_ok.mp hrest
    exact ih { s with grp := some (groupOf c.filename x.2), cfg := c } hblocks h₂ rfl hrest c' hc' hrest'

/-- **A file of blocks is read as these groups**, one after the other. -/
theorem cfgRead_blocks {first : List Octstr × Block} {blocks : List (List Octstr × Block)} {cfg' : Cfg}
    (hfile : fs filename = some (.file
      ((first.1 ++ blocks.flatMap fun x => [] :: x.1).flatMap fun line => line ++ [10])))
    (hplain : ∀ x ∈ first :: blocks, ∀ line ∈ x.1, PlainLine line)
    (hblocks : ∀ x ∈ first :: blocks, BlockLines x.1 x.2 ∧ x.2 ≠ [])
    (hadd : addGroups ⟨filename, ∅, ∅⟩ ((first :: blocks).map fun x => groupOf filename x.2) = .ok cfg') :
    ∃ fuel, cfgRead fs fuel filename = some (.read cfg') := by
  obtain ⟨⟨hlines, hne⟩, hblocks⟩ := List.forall_mem_cons.mp hblocks
  have hall : ∀ line ∈ first.1 ++ blocks.flatMap (fun x => [] :: x.1), PlainLine line := by
    intro line hline
    obtain hline | hline := List.mem_append.mp hline
    · exact hplain first List.mem_cons_self line hline
    · obtain ⟨x, hx, hline⟩ := List.mem_flatMap.mp hline
      obtain rfl | hline := List.mem_cons.mp hline
      · decide
      · exact hplain x (List.mem_cons_of_mem _ hx) line hline
  have hfirst : first.1 ≠ [] := fun h => hne (List.forall₂_nil_left_iff.mp (h ▸ hlines))
  obtain ⟨locs, hexpand, hlocs⟩ := expandFile_of_plain hfile hall (by simp [hfirst])
  rw [List.append_assoc] at hlocs
  obtain ⟨locs₁, locs₂, rfl, h₁, h₂⟩ := List.map_eq_append_iff.mp hlocs
  have hblock := readLoop_block_of_none fs ⟨[], [filename], none, ⟨filename, ∅, ∅⟩⟩ locs₂ (h₁ ▸ hlines) hne rfl
    (locs₂.length + 1)
  refine ⟨locs₁.length + (locs₂.length + 1), ?_⟩
  simp only [cfgRead, hexpand]
  refine hblock.trans ?_
  exact readLoop_blocks ⟨[], [filename], some _, ⟨filename, ∅, ∅⟩⟩ hblocks h₂ rfl hadd

end SmppServer
