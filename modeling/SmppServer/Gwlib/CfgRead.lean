import Mathlib.Data.List.Infix
import SmppServer.Gwlib.Cfg

/-!
# Gwlib/CfgRead — reading a configuration file

`cfg_read` works on a list of lines: a file is expanded into its lines, where a backslash at the end of a
line continues it, and an `include` puts the lines of the included file, or of the files of a directory, in
front of those still to be read.  Every file read is kept on a stack that an `include` is checked against.

* `cfgRead_wellFormed` — whatever is read without error is well formed.
-/

namespace SmppServer

open Machinery

/-- What a path leads to; of a directory, the names `readdir` finds in it. -/
inductive Node
  | file (contents : Octstr)
  | directory (items : List Octstr)

/-- `CfgLoc`. -/
structure CfgLoc where
  filename : Octstr
  lineNo : ℕ
  line : Octstr
  deriving DecidableEq, Repr

/-- The lines of a file with the continued ones put together, and how many there are; `loc` is the line
that is being continued.  A line that ends in two backslashes ends in one and is not continued. -/
def joinLines (file : Octstr) : ℕ → Option CfgLoc → List Octstr → List CfgLoc × ℕ
  | lineno, loc, [] => (loc.toList, lineno)
  | lineno, loc, line :: lines =>
    let lineno := if loc.isNone then lineno + 1 else lineno
    let loc : CfgLoc := loc.getD ⟨file, lineno, []⟩
    -- the line is complete: the next one starts anew
    let complete (loc : CfgLoc) : List CfgLoc × ℕ :=
      let (locs, last) := joinLines file lineno none lines
      (loc :: locs, last)
    if line.getLast? = some 92 then
      let line := line.dropLast
      let loc := { loc with line := loc.line ++ line }
      if line.getLast? = some 92 then complete loc else joinLines file lineno (some loc) lines
    else complete { loc with line := loc.line ++ line }

/-- `octstr_split(os, "\n")`. -/
def splitLines (os : Octstr) : List Octstr := linesOf 10 os

section Code

variable (fs : Octstr → Option Node)

/-- `octstr_read_file`. -/
def octstrReadFile (file : Octstr) : Option Octstr :=
  match fs file with
  | some (.file contents) => some contents
  | _ => none

/-- `expand_file`: forward, or with the last line first; a line with a newline ends a file that has lines. -/
def expandFile (file : Octstr) (forward : Bool) : Option (List CfgLoc) :=
  (octstrReadFile fs file).map fun os =>
    let (locs, lineno) := joinLines file 0 none (splitLines os)
    let locs := if 0 < lineno then locs ++ [⟨file, lineno, [10]⟩] else locs
    if forward then locs else locs.reverse

/-- The files to be included for a path.  One that leads nowhere is taken for a file; `lstat` leaves its result as it was,
which nothing has initialised. -/
def includedFiles (filename : Octstr) : List Octstr :=
  match fs filename with
  | some (.directory items) =>
    let fileitems := items.map fun item => filename ++ octstrImm "/" ++ item
    (fileitems.filter fun fileitem => match fs fileitem with
      | some (.directory _) => false
      | _ => true).reverse
  | _ => [filename]

/-- The state of the loop in `cfg_read`: the lines to be read, the stack of files, the group being read,
and the configuration. -/
structure ReadState where
  lines : List CfgLoc
  stack : List Octstr
  grp : Option CfgGroup
  cfg : Cfg

/-- Including one file: its lines are put in front, the last one first. -/
def includeFile (s : ReadState) (file : Octstr) : Except CfgPanic ReadState :=
  match expandFile fs file false with
  | some expand =>
    .ok { s with stack := file :: s.stack, lines := expand.foldl (fun lines loc => loc :: lines) s.lines }
  | none => .error (.includedFile file)

/-- What happens to the loop. -/
inductive ReadStep
  | next (s : ReadState)
  | stop (errorLineno : ℕ) (error : CfgError) (s : ReadState)
  | panic (p : CfgPanic)

/-- One line. -/
def readLine (s : ReadState) (loc : CfgLoc) : ReadStep :=
  let line := octstrStripBlanks loc.line
  if line = [] then
    match s.grp with
    | none => .next s
    | some grp =>
      match addGroup s.cfg grp with
      | .ok cfg => .next { s with grp := none, cfg := cfg }
      | .error error => .stop loc.lineNo error { s with grp := none }
  else if line.head? = some 35 then .next s
  else if 61 ∉ line then .stop loc.lineNo (.equalsMissing loc.lineNo loc.filename) s
  else
    let equals := line.idxOf 61
    let value := parseValue (line.drop (equals + 1))
    if octstrImm "include" <:+: line then
      if value ∈ s.stack then .panic (.recursiveInclude value loc.lineNo loc.filename)
      else
        match (includedFiles fs value).foldlM (includeFile fs) s with
        | .ok s => .next s
        | .error p => .panic p
    else
      let name := octstrStripBlanks (line.take equals)
      let grp := { s.grp.getD {} with configfile := some s.cfg.filename }
      .next { s with grp := some (cfgSet grp name value) }

/-- What `cfg_read` does: it returns `0`, it returns `-1`, or it panics. -/
inductive CfgOutcome
  | read (cfg : Cfg)
  | failed (errorLineno : ℕ) (errors : List CfgError)
  | panicked (p : CfgPanic)

/-- Behind the loop: the last group is added. -/
def readEnd (stopped : Option (ℕ × CfgError)) (s : ReadState) : CfgOutcome :=
  let ends (cfg : Cfg) : CfgOutcome := match stopped with
    | some (errorLineno, error) => .failed errorLineno [error]
    | none => .read cfg
  match s.grp with
  | none => ends s.cfg
  | some grp =>
    match addGroup s.cfg grp with
    | .ok cfg => ends cfg
    | .error error => .failed 1 ((stopped.map (·.2)).toList ++ [error])

/-- The loop, for so many lines at most. -/
def readLoop : ℕ → ReadState → Option CfgOutcome
  | 0, _ => none
  | fuel + 1, s =>
    match s.lines with
    | [] => some (readEnd none s)
    | loc :: lines =>
      match readLine fs { s with lines := lines } loc with
      | .next s => readLoop fuel s
      | .stop errorLineno error s => some (readEnd (some (errorLineno, error)) s)
      | .panic p => some (.panicked p)

/-- **`cfg_read`** of a new configuration. -/
def cfgRead (fuel : ℕ) (filename : Octstr) : Option CfgOutcome :=
  match expandFile fs filename true with
  | none => some (.panicked (.mainFile filename))
  | some lines => readLoop fs fuel ⟨lines, [filename], none, ⟨filename, ∅, ∅⟩⟩

end Code

/-! ## What one line does

A line ends the group, is skipped, includes a file or sets a variable, or it stops the reading.
`readLine_eq_next` says once what it can do to the loop; everything else follows from it. -/

/-- What stands behind the first equals sign. -/
def lineValue (line : Octstr) : Octstr :=
  parseValue ((octstrStripBlanks line).drop ((octstrStripBlanks line).idxOf 61 + 1))

/-- The line has an equals sign and is no comment. -/
def IsSetting (line : Octstr) : Prop :=
  (octstrStripBlanks line).head? ≠ some 35 ∧ 61 ∈ octstrStripBlanks line

/-- The line includes a file. -/
def IsInclude (line : Octstr) : Prop :=
  IsSetting line ∧ octstrImm "include" <:+: octstrStripBlanks line

/-- The line gives a value to a variable. -/
def Assigns (line name value : Octstr) : Prop :=
  (IsSetting line ∧ ¬ octstrImm "include" <:+: octstrStripBlanks line) ∧
    octstrStripBlanks ((octstrStripBlanks line).take ((octstrStripBlanks line).idxOf 61)) = name ∧
    lineValue line = value

instance (line : Octstr) : Decidable (IsSetting line) := inferInstanceAs (Decidable (_ ∧ _))
instance (line : Octstr) : Decidable (IsInclude line) := inferInstanceAs (Decidable (_ ∧ _))
instance (line name value : Octstr) : Decidable (Assigns line name value) :=
  inferInstanceAs (Decidable (_ ∧ _))

section OneLine

variable {fs : Octstr → Option Node} {s s' : ReadState} {loc : CfgLoc} {file filename name value : Octstr}

theorem IsSetting.ne_nil {line : Octstr} (h : IsSetting line) : octstrStripBlanks line ≠ [] :=
  List.ne_nil_of_mem h.2

theorem readLine_of_isInclude (h : IsInclude loc.line) :
    readLine fs s loc =
      if lineValue loc.line ∈ s.stack then
        .panic (.recursiveInclude (lineValue loc.line) loc.lineNo loc.filename)
      else
        match (includedFiles fs (lineValue loc.line)).foldlM (includeFile fs) s with
        | .ok s => .next s
        | .error p => .panic p := by
  obtain ⟨hset, hinclude⟩ := h
  simp only [readLine, if_neg hset.ne_nil, if_neg hset.1, if_neg (not_not_intro hset.2), if_pos hinclude]
  rfl

theorem readLine_of_assigns (h : Assigns loc.line name value) :
    readLine fs s loc = .next { s with
      grp := some (cfgSet { s.grp.getD {} with configfile := some s.cfg.filename } name value) } := by
  obtain ⟨⟨hset, hinclude⟩, rfl, rfl⟩ := h
  simp only [readLine, if_neg hset.ne_nil, if_neg hset.1, if_neg (not_not_intro hset.2), if_neg hinclude]
  rfl

/-- Everything that a line can do to the loop if it goes on. -/
theorem readLine_eq_next (h : readLine fs s loc = .next s') :
    s' = s ∨
    (∃ grp cfg, s.grp = some grp ∧ addGroup s.cfg grp = .ok cfg ∧ s' = { s with grp := none, cfg := cfg }) ∨
    (IsInclude loc.line ∧ lineValue loc.line ∉ s.stack ∧
      (includedFiles fs (lineValue loc.line)).foldlM (includeFile fs) s = .ok s') ∨
    ∃ name value, Assigns loc.line name value ∧ s' = { s with
      grp := some (cfgSet { s.grp.getD {} with configfile := some s.cfg.filename } name value) } := by
  by_cases hset : IsSetting loc.line
  · by_cases hinclude : octstrImm "include" <:+: octstrStripBlanks loc.line
    · rw [readLine_of_isInclude ⟨hset, hinclude⟩] at h
      split at h
      · cases h
      · next hstack =>
        split at h
        · next t ht =>
          cases h
          exact .inr (.inr (.inl ⟨⟨hset, hinclude⟩, hstack, ht⟩))
        · cases h
    · rw [readLine_of_assigns ⟨⟨hset, hinclude⟩, rfl, rfl⟩] at h
      cases h
      exact .inr (.inr (.inr ⟨_, _, ⟨⟨hset, hinclude⟩, rfl, rfl⟩, rfl⟩))
  · simp only [readLine] at h
    split at h
    · split at h
      · cases h
        exact .inl rfl
      · next grp hgrp =>
        split at h
        · next cfg hcfg =>
          cases h
          exact .inr (.inl ⟨grp, cfg, hgrp, hcfg, rfl⟩)
        · cases h
    · split at h
      · cases h
        exact .inl rfl
      · next hcomment =>
        split at h
        · cases h
        · next hequals => exact absurd ⟨hcomment, not_not.mp hequals⟩ hset

/-- Including a file only adds lines, and the file to the stack. -/
theorem includeFile_eq_ok (h : includeFile fs s file = .ok s') :
    ∃ expand, expandFile fs file false = some expand ∧
      s' = { s with stack := file :: s.stack, lines := expand.reverse ++ s.lines } := by
  rw [includeFile] at h
  split at h
  · next expand hexpand =>
    refine ⟨expand, hexpand, ?_⟩
    rw [← Except.ok.inj h, List.foldl_flip_cons_eq_append']
  · cases h

theorem includeFiles_cons_eq_ok {files : List Octstr}
    (h : (file :: files).foldlM (includeFile fs) s = .ok s') :
    ∃ t, includeFile fs s file = .ok t ∧ files.foldlM (includeFile fs) t = .ok s' := by
  rw [List.foldlM_cons] at h
  cases hfile : includeFile fs s file with
  | error p => rw [hfile] at h; cases h
  | ok t =>
    rw [hfile] at h
    exact ⟨t, rfl, h⟩

/-- The end of a reading without error. -/
theorem readEnd_eq_read {cfg : Cfg} {stopped : Option (ℕ × CfgError)} (h : readEnd stopped s = .read cfg) :
    stopped = none ∧ (s.grp = none ∧ cfg = s.cfg ∨ ∃ grp, s.grp = some grp ∧ addGroup s.cfg grp = .ok cfg) := by
  simp only [readEnd] at h
  cases stopped with
  | some => split at h <;> [skip; split at h] <;> cases h
  | none =>
    refine ⟨rfl, ?_⟩
    split at h
    · next hgrp =>
      cases h
      exact .inl ⟨hgrp, rfl⟩
    · next grp hgrp =>
      split at h
      · next hadd =>
        cases h
        exact .inr ⟨grp, hgrp, hadd⟩
      · cases h

end OneLine

/-! ## What is read is well formed

Throughout a reading the groups that were added are well formed, each variable with a line of a file behind it,
and the group in the making has such variables too. -/

section WellFormed

variable {fs : Octstr → Option Node} {s s' : ReadState} {loc : CfgLoc} {file filename : Octstr} {cfg : Cfg}
  {fuel : ℕ} {locs : List CfgLoc} {forward : Bool}

/-- A line of a file. -/
def LineOf (fs : Octstr → Option Node) (loc : CfgLoc) : Prop :=
  ∃ file locs, expandFile fs file true = some locs ∧ loc ∈ locs

/-- Every variable of the group was given its value by a line of a file. -/
def Sourced (fs : Octstr → Option Node) (grp : CfgGroup) : Prop :=
  ∀ name value, grp.vars.lookup name = some value → ∃ loc, LineOf fs loc ∧ Assigns loc.line name value

theorem expandFile_false (h : expandFile fs file false = some locs) :
    expandFile fs file true = some locs.reverse := by
  obtain ⟨os, hos, rfl⟩ := Option.map_eq_some_iff.mp h
  rw [expandFile, hos, Option.map_some]
  simp

theorem sourced_cfgSet {grp : CfgGroup} {name value : Octstr} (hgrp : Sourced fs grp) (hloc : LineOf fs loc)
    (h : Assigns loc.line name value) : Sourced fs (cfgSet grp name value) := by
  intro name' value' hlookup
  by_cases hname : name' = name
  · subst hname
    rw [cfgSet, AList.lookup_insert, Option.some.injEq] at hlookup
    exact ⟨loc, hloc, hlookup ▸ h⟩
  · rw [cfgSet, AList.lookup_insert_ne hname] at hlookup
    exact hgrp name' value' hlookup

/-- The group is well formed, and every variable was given its value by a line of a file. -/
def GroupOk (fs : Octstr → Option Node) (groupname : Octstr) (grp : CfgGroup) : Prop :=
  grp.WellFormed groupname ∧ Sourced fs grp

/-- What holds throughout a reading. -/
structure ReadState.Ok (fs : Octstr → Option Node) (s : ReadState) : Prop where
  lines : ∀ loc ∈ s.lines, LineOf fs loc
  grp : ∀ grp ∈ s.grp, Sourced fs grp
  cfg : s.cfg.All (GroupOk fs)

theorem ReadState.Ok.includeFiles {files : List Octstr} (h : s.Ok fs)
    (hfiles : files.foldlM (includeFile fs) s = .ok s') : s'.Ok fs := by
  induction files generalizing s with
  | nil =>
    obtain rfl : s = s' := Except.ok.inj hfiles
    exact h
  | cons file files ih =>
    obtain ⟨t, hfile, hrest⟩ := includeFiles_cons_eq_ok hfiles
    obtain ⟨expand, hexpand, rfl⟩ := includeFile_eq_ok hfile
    have hlines : ∀ loc ∈ expand.reverse ++ s.lines, LineOf fs loc := fun loc hloc =>
      (List.mem_append.mp hloc).elim (fun hloc => ⟨file, _, expandFile_false hexpand, hloc⟩) (h.lines loc)
    have ht : ({ s with stack := file :: s.stack, lines := expand.reverse ++ s.lines } : ReadState).Ok fs :=
      ⟨hlines, h.grp, h.cfg⟩
    exact ih ht hrest

theorem ReadState.Ok.addGroup {grp : CfgGroup} (h : s.Ok fs) (hgrp : s.grp = some grp)
    (hadd : SmppServer.addGroup s.cfg grp = .ok cfg) : cfg.All (GroupOk fs) :=
  addGroup_all h.cfg (fun _ hwf => ⟨hwf, h.grp grp hgrp⟩) hadd

/-- **One line.** -/
theorem ReadState.Ok.readLine (h : s.Ok fs) (hloc : LineOf fs loc)
    (hline : SmppServer.readLine fs s loc = .next s') : s'.Ok fs := by
  obtain rfl | ⟨grp, cfg, hgrp, hadd, rfl⟩ | ⟨-, -, hfiles⟩ | ⟨name, value, hassigns, rfl⟩ :=
    readLine_eq_next hline
  · exact h
  · exact ⟨h.lines, by simp, h.addGroup hgrp hadd⟩
  · exact h.includeFiles hfiles
  · refine ⟨h.lines, fun grp hgrp => ?_, h.cfg⟩
    obtain rfl := Option.mem_some_iff.mp hgrp
    refine sourced_cfgSet (fun name value hlookup => ?_) hloc hassigns
    cases hs : s.grp with
    | none =>
      rw [hs] at hlookup
      cases hlookup
    | some grp =>
      rw [hs] at hlookup
      exact h.grp grp hs name value hlookup

theorem ReadState.Ok.readLoop (h : s.Ok fs) (hread : SmppServer.readLoop fs fuel s = some (.read cfg)) :
    cfg.All (GroupOk fs) := by
  induction fuel generalizing s with
  | zero => cases hread
  | succ fuel ih =>
    rw [SmppServer.readLoop] at hread
    split at hread
    · obtain ⟨-, ⟨-, rfl⟩ | ⟨grp, hgrp, hadd⟩⟩ := readEnd_eq_read (Option.some.inj hread)
      · exact h.cfg
      · exact h.addGroup hgrp hadd
    · next loc lines hlines =>
      have hmem : ∀ loc' ∈ loc :: lines, LineOf fs loc' := hlines ▸ h.lines
      obtain ⟨hloc, hrest⟩ := List.forall_mem_cons.mp hmem
      have ht : ({ s with lines := lines } : ReadState).Ok fs := ⟨hrest, h.grp, h.cfg⟩
      split at hread
      · next hline => exact ih (ht.readLine hloc hline) hread
      · exact absurd (readEnd_eq_read (Option.some.inj hread)).1 (by simp)
      · cases hread

theorem all_of_cfgRead (h : cfgRead fs fuel filename = some (.read cfg)) : cfg.All (GroupOk fs) := by
  rw [cfgRead] at h
  split at h
  · cases h
  · next lines hlines =>
    exact ReadState.Ok.readLoop ⟨fun loc hloc => ⟨filename, lines, hlines, hloc⟩, by simp,
      all_empty _ filename⟩ h

/-- The groups of a name: what `cfg_get_single_group` and `cfg_get_multi_group` find. -/
def groupsOf (cfg : Cfg) (groupname : Octstr) : List CfgGroup :=
  (cfg.singleGroups.lookup groupname).toList ++ (cfg.multiGroups.lookup groupname).getD []

theorem groupOk_of_mem {groupname : Octstr} {grp : CfgGroup} (h : cfg.All (GroupOk fs))
    (hgrp : grp ∈ groupsOf cfg groupname) : GroupOk fs groupname grp := by
  obtain hgrp | hgrp := List.mem_append.mp hgrp
  · exact (h.single (Option.mem_toList.mp hgrp)).2
  · cases hlist : cfg.multiGroups.lookup groupname with
    | none => simp [hlist] at hgrp
    | some list => exact (h.multi hlist).2.2 grp (by simpa [hlist] using hgrp)

/-- **Whatever is read is well formed.**  Every group of a configuration that is read without error has the
name under which it stands, and only variables that groups of this name may have; and what `cfg_get` finds in
it stands in a line of a file. -/
theorem cfgRead_wellFormed (h : cfgRead fs fuel filename = some (.read cfg)) {groupname : Octstr} {grp : CfgGroup}
    (hgrp : grp ∈ groupsOf cfg groupname) :
    grp.name = some groupname ∧ (∀ var ∈ grp.vars, isAllowedInGroup groupname var = true) ∧
      ∀ name value, cfgGet grp name = .ok (some value) → ∃ loc, LineOf fs loc ∧ Assigns loc.line name value := by
  obtain ⟨hwf, hsourced⟩ := groupOk_of_mem (all_of_cfgRead h) hgrp
  refine ⟨hwf.name, hwf.allowed, fun name value hget => hsourced name value ?_⟩
  simp only [cfgGet, hwf.name] at hget
  split at hget
  · exact Except.ok.inj hget
  · cases hget

/-- A configuration with a client, in a file of its own. -/
def sampleFiles (file : Octstr) : Option Node :=
  if file = octstrImm "main.conf" then
    some (.file (octstrImm "group = core\nadmin-port = 34000\n\ninclude = clients.conf\n"))
  else if file = octstrImm "clients.conf" then
    some (.file (octstrImm "group = smpp-client\nmode = \"tx\"\naccount-name = \\\n  acme\n"))
  else none

theorem cfgRead_wellFormed_sampleFiles :
    ∃ cfg grp, cfgRead sampleFiles 20 (octstrImm "main.conf") = some (.read cfg) ∧
      grp ∈ groupsOf cfg (octstrImm "smpp-client") ∧ grp.name = some (octstrImm "smpp-client") ∧
      (∀ var ∈ grp.vars, isAllowedInGroup (octstrImm "smpp-client") var = true) ∧
      ∀ name value, cfgGet grp name = .ok (some value) →
        ∃ loc, LineOf sampleFiles loc ∧ Assigns loc.line name value :=
  ⟨_, _, rfl, List.mem_singleton_self _,
    cfgRead_wellFormed (rfl : cfgRead sampleFiles 20 (octstrImm "main.conf") = _) (List.mem_singleton_self _)⟩

end WellFormed

end SmppServer
