import Mathlib.Data.Set.Card
import SmppServer.Gwlib.CfgRead

/-!
# Gwlib/CfgInclude — whether reading a configuration comes to an end

An `include` is checked against the files that were read before.  The name of an included *file* is put on
the stack, so that it can be included once only, and with finitely many files there are finitely many
names to include: the reading ends.  The name of an included *directory* is not put there, only the names
of the files in it; a file that includes the directory that it is in is read again and again.

* `cfgRead_terminates` — with files only, every reading ends.
* `cfgRead_diverges` — a directory whose first file includes it again, before any group ends, is read for ever once
  it is included.
-/

namespace SmppServer

open Machinery

variable {fs : Octstr → Option Node} {s s' : ReadState} {loc : CfgLoc} {file filename d : Octstr}
  {fuel : ℕ} {locs : List CfgLoc}

/-! ## Reading ends

Every `include` that is let through adds a name to the stack that was not there before, and every other line is one
line less.
-/

/-- The lines of a file are the same whatever it is called, wherever it is counted from. -/
theorem joinLines_line (file file' : Octstr) (lines : List Octstr) :
    ∀ (n n' : ℕ) {loc loc' : Option CfgLoc}, loc.map (·.line) = loc'.map (·.line) →
      (joinLines file n loc lines).1.map (·.line) = (joinLines file' n' loc' lines).1.map (·.line) := by
  induction lines with
  | nil =>
    intro n n' loc loc' h
    cases loc <;> cases loc' <;> simp_all [joinLines]
  | cons line lines ih =>
    intro n n' loc loc' h
    have hline : (loc.getD ⟨file, if loc.isNone then n + 1 else n, []⟩).line =
        (loc'.getD ⟨file', if loc'.isNone then n' + 1 else n', []⟩).line := by
      cases loc <;> cases loc' <;> simp_all
    simp only [joinLines]
    split
    · split
      · exact congrArg₂ (· :: ·) (congrArg (· ++ line.dropLast) hline) (ih _ _ rfl)
      · exact ih _ _ (congrArg some (congrArg (· ++ line.dropLast) hline))
    · exact congrArg₂ (· :: ·) (congrArg (· ++ line) hline) (ih _ _ rfl)

/-- The lines of a text. -/
def textLines (os : Octstr) : List Octstr := (joinLines [] 0 none (splitLines os)).1.map (·.line)

theorem line_mem_of_mem_expandFile (h : expandFile fs file true = some locs) (hloc : loc ∈ locs) :
    ∃ os, octstrReadFile fs file = some os ∧ loc.line ∈ [10] :: textLines os := by
  obtain ⟨os, hos, rfl⟩ := Option.map_eq_some_iff.mp h
  have htext : loc ∈ (joinLines file 0 none (splitLines os)).1 → loc.line ∈ textLines os := fun hmem => by
    rw [textLines, ← joinLines_line file [] (splitLines os) 0 0 rfl]
    exact List.mem_map_of_mem hmem
  refine ⟨os, hos, ?_⟩
  simp only [if_true] at hloc
  split at hloc
  · obtain hloc | hloc := List.mem_append.mp hloc
    · exact List.mem_cons_of_mem _ (htext hloc)
    · rw [List.mem_singleton.mp hloc]
      exact List.mem_cons_self
  · exact List.mem_cons_of_mem _ (htext hloc)

/-- The names that lines of files could include. -/
def includable (fs : Octstr → Option Node) : Set Octstr :=
  {name | ∃ loc, LineOf fs loc ∧ lineValue loc.line = name}

/-- With finitely many files there are finitely many names to include. -/
theorem finite_includable (h : (Set.range fs).Finite) : (includable fs).Finite := by
  have htexts : (⋃ node ∈ Set.range fs, {name | ∃ os, node = some (.file os) ∧
      name ∈ ([10] :: textLines os).map lineValue}).Finite := by
    refine h.biUnion fun node _ => ?_
    cases node with
    | none => simp
    | some node =>
      cases node with
      | directory items => simp
      | file os =>
        refine Set.Finite.subset (List.finite_toSet (([10] :: textLines os).map lineValue)) ?_
        rintro name ⟨os', hos', hname⟩
        cases hos'
        exact hname
  refine htexts.subset ?_
  rintro name ⟨loc, ⟨file, locs, hlocs, hloc⟩, rfl⟩
  obtain ⟨os, hos, hline⟩ := line_mem_of_mem_expandFile hlocs hloc
  have hfile : fs file = some (.file os) := by
    rw [octstrReadFile] at hos
    split at hos
    · next contents hcontents => rw [hcontents, Option.some.inj hos]
    · cases hos
  exact Set.mem_biUnion ⟨file, rfl⟩ ⟨os, hfile, List.mem_map_of_mem hline⟩

/-- What could still be included. -/
def ReadState.pending (fs : Octstr → Option Node) (s : ReadState) : Set Octstr :=
  includable fs \ {name | name ∈ s.stack}

theorem includedFiles_of_file (hdir : ∀ items, fs file ≠ some (.directory items)) :
    includedFiles fs file = [file] := by
  rw [includedFiles]
  split
  · next items hitems => exact absurd hitems (hdir items)
  · rfl

/-- An included file is not included again. -/
theorem pending_includeFile (hfin : (includable fs).Finite) (hfile : file ∈ includable fs)
    (hstack : file ∉ s.stack) (h : includeFile fs s file = .ok s') :
    (s'.pending fs).ncard < (s.pending fs).ncard := by
  obtain ⟨expand, -, rfl⟩ := includeFile_eq_ok h
  refine Set.ncard_lt_ncard ⟨fun name hname => ?_, fun hsub => ?_⟩ (hfin.subset Set.sdiff_subset)
  · exact ⟨hname.1, fun hmem => hname.2 (List.mem_cons_of_mem _ hmem)⟩
  · exact (hsub ⟨hfile, hstack⟩).2 List.mem_cons_self

/-- The induction is on what could still be included, and on the lines to be read. -/
theorem readLoop_terminates (hdir : ∀ file items, fs file ≠ some (.directory items))
    (hfin : (includable fs).Finite) (k n : ℕ) :
    ∀ s : ReadState, s.Ok fs → (s.pending fs).ncard = k → s.lines.length = n →
      ∃ fuel outcome, readLoop fs fuel s = some outcome := by
  induction k using Nat.strongRecOn generalizing n with
  | ind k ihk =>
    induction n with
    | zero =>
      intro s _ _ hlines
      refine ⟨1, readEnd none s, ?_⟩
      rw [readLoop, List.length_eq_zero_iff.mp hlines]
    | succ n ihn =>
      intro s hok hk hlines
      obtain ⟨loc, lines, hcons⟩ := List.exists_cons_of_length_eq_add_one hlines
      have hmem : ∀ loc' ∈ loc :: lines, LineOf fs loc' := hcons ▸ hok.lines
      obtain ⟨hloc, hrest⟩ := List.forall_mem_cons.mp hmem
      have ht : ({ s with lines := lines } : ReadState).Ok fs := ⟨hrest, hok.grp, hok.cfg⟩
      have hlen : lines.length = n := by simpa [hcons] using hlines
      cases hline : readLine fs { s with lines := lines } loc with
      | stop errorLineno error t =>
        exact ⟨1, readEnd (some (errorLineno, error)) t, by rw [readLoop, hcons]; simp only [hline]⟩
      | panic p => exact ⟨1, .panicked p, by rw [readLoop, hcons]; simp only [hline]⟩
      | next s' =>
        have hok' := ht.readLine hloc hline
        suffices h : ∃ fuel outcome, readLoop fs fuel s' = some outcome by
          obtain ⟨fuel, outcome, hread⟩ := h
          exact ⟨fuel + 1, outcome, by rw [readLoop, hcons]; simpa only [hline] using hread⟩
        obtain rfl | ⟨grp, cfg, -, -, rfl⟩ | ⟨-, hstack, hfiles⟩ | ⟨name, value, -, rfl⟩ :=
          readLine_eq_next hline
        · exact ihn _ hok' hk hlen
        · exact ihn _ hok' hk hlen
        · rw [includedFiles_of_file (hdir _)] at hfiles
          obtain ⟨t, hfile, hend⟩ := includeFiles_cons_eq_ok hfiles
          obtain rfl : t = s' := Except.ok.inj hend
          have hlt := pending_includeFile hfin ⟨loc, hloc, rfl⟩ hstack hfile
          exact ihk _ (hlt.trans_eq hk) _ t hok' rfl rfl
        · exact ihn _ hok' hk hlen

/-- **With files only, every reading ends**: in a file system of finitely many files without directories,
`cfg_read` returns or panics, whatever the files include. -/
theorem cfgRead_terminates (hfin : (Set.range fs).Finite)
    (hdir : ∀ file items, fs file ≠ some (.directory items)) (filename : Octstr) :
    ∃ fuel outcome, cfgRead fs fuel filename = some outcome := by
  simp only [cfgRead]
  cases hlines : expandFile fs filename true with
  | none => exact ⟨0, _, rfl⟩
  | some lines =>
    exact readLoop_terminates hdir (finite_includable hfin) _ _ _
      ⟨fun loc hloc => ⟨filename, lines, hlines, hloc⟩, by simp, all_empty _ filename⟩ rfl rfl

/-- Two files that include each other. -/
def sampleCycle (file : Octstr) : Option Node :=
  if file = octstrImm "a" then some (.file (octstrImm "include = b\n"))
  else if file = octstrImm "b" then some (.file (octstrImm "include = a\n"))
  else none

theorem cfgRead_terminates_sampleCycle :
    ∃ fuel outcome, cfgRead sampleCycle fuel (octstrImm "a") = some outcome := by
  refine cfgRead_terminates ?_ (fun file items => ?_) (octstrImm "a")
  · refine Set.Finite.subset (Set.toFinite {some (.file (octstrImm "include = b\n")),
      some (.file (octstrImm "include = a\n")), none}) ?_
    rintro _ ⟨file, rfl⟩
    rw [sampleCycle]
    split
    · simp
    · split <;> simp
  · rw [sampleCycle]
    split
    · simp
    · split <;> simp

/-! ## A directory that includes itself

The lines in front of the `include` are read in every turn.  Comments and settings go through whatever was read
before; a blank line ends the group, which can fail. -/

/-- The line includes the path. -/
def Includes (d : Octstr) (loc : CfgLoc) : Prop := IsInclude loc.line ∧ lineValue loc.line = d

instance : Decidable (Includes d loc) := inferInstanceAs (Decidable (_ ∧ _))

/-- The line is a comment, or gives a value to a variable. -/
def IsPlain (line : Octstr) : Prop :=
  octstrStripBlanks line ≠ [] ∧ ((octstrStripBlanks line).head? = some 35 ∨
    61 ∈ octstrStripBlanks line ∧ ¬ octstrImm "include" <:+: octstrStripBlanks line)

instance (line : Octstr) : Decidable (IsPlain line) := inferInstanceAs (Decidable (_ ∧ _))

/-- The lines come to one that includes the path. -/
def ComesTo (d : Octstr) (locs : List CfgLoc) : Prop :=
  ∃ before loc after, locs = before ++ loc :: after ∧ (∀ b ∈ before, IsPlain b.line) ∧ Includes d loc

/-- A directory of readable files, the first of which comes to a line that includes the directory. -/
structure IncludesItself (fs : Octstr → Option Node) (d : Octstr) : Prop where
  directory : ∃ items, fs d = some (.directory items)
  readable : ∀ file ∈ includedFiles fs d, ∃ locs, expandFile fs file true = some locs
  first : ∃ file locs, (includedFiles fs d).getLast? = some file ∧ expandFile fs file true = some locs ∧ ComesTo d locs

/-- The loop gets from one state to another. -/
inductive Reaches (fs : Octstr → Option Node) : ReadState → ReadState → Prop
  | refl (s : ReadState) : Reaches fs s s
  | line {s t u : ReadState} {loc : CfgLoc} {lines : List CfgLoc} (hlines : s.lines = loc :: lines)
      (hline : readLine fs { s with lines := lines } loc = .next t) (h : Reaches fs t u) : Reaches fs s u

variable (fs) in
/-- Comments and settings are read without error, whatever was read before. -/
theorem readLine_of_isPlain (h : IsPlain loc.line) (s : ReadState) :
    ∃ grp, readLine fs s loc = .next { s with grp := grp } := by
  obtain ⟨hne, hplain⟩ := h
  by_cases hcomment : (octstrStripBlanks loc.line).head? = some 35
  · exact ⟨s.grp, by simp only [readLine, if_neg hne, if_pos hcomment]⟩
  · obtain ⟨hequals, hinclude⟩ := hplain.resolve_left hcomment
    exact ⟨_, readLine_of_assigns ⟨⟨⟨hcomment, hequals⟩, hinclude⟩, rfl, rfl⟩⟩

/-- No file of a directory has the name of the directory. -/
theorem notMem_includedFiles (h : ∃ items, fs d = some (.directory items)) : d ∉ includedFiles fs d := by
  obtain ⟨items, hitems⟩ := h
  intro hmem
  simp only [includedFiles, hitems, List.mem_reverse, List.mem_filter, List.mem_map] at hmem
  obtain ⟨⟨item, -, hitem⟩, -⟩ := hmem
  have hlen := congrArg List.length hitem
  have hslash : (octstrImm "/").length = 1 := rfl
  rw [List.length_append, List.length_append, hslash] at hlen
  omega

theorem includeFile_of_expandFile (s : ReadState) (h : expandFile fs file true = some locs) :
    includeFile fs s file = .ok { s with stack := file :: s.stack, lines := locs ++ s.lines } := by
  obtain ⟨os, hos, hlocs⟩ := Option.map_eq_some_iff.mp h
  have hback : expandFile fs file false = some locs.reverse := by
    rw [expandFile, hos, Option.map_some, ← hlocs]
    rfl
  simp only [includeFile, hback, List.foldl_flip_cons_eq_append', List.reverse_reverse]

/-- Files that can be read are included, and put on the stack. -/
theorem includeFiles_of_readable {files : List Octstr} (s : ReadState)
    (h : ∀ file ∈ files, ∃ locs, expandFile fs file true = some locs) :
    ∃ s', files.foldlM (includeFile fs) s = .ok s' ∧ ∀ name ∈ s'.stack, name ∈ files ∨ name ∈ s.stack := by
  induction files generalizing s with
  | nil => exact ⟨s, rfl, fun name hname => .inr hname⟩
  | cons file files ih =>
    obtain ⟨⟨locs, hlocs⟩, hfiles⟩ := List.forall_mem_cons.mp h
    obtain ⟨s', hs', hstack⟩ := ih { s with stack := file :: s.stack, lines := locs ++ s.lines } hfiles
    refine ⟨s', ?_, fun name hname => ?_⟩
    · rw [List.foldlM_cons, includeFile_of_expandFile s hlocs]
      exact hs'
    · obtain hname | hname := hstack name hname
      · exact .inl (List.mem_cons_of_mem _ hname)
      · obtain rfl | hname := List.mem_cons.mp hname
        · exact .inl List.mem_cons_self
        · exact .inr hname

/-- The names on the stack are names of files. -/
def StackOk (fs : Octstr → Option Node) (s : ReadState) : Prop :=
  ∀ name ∈ s.stack, ∃ os, octstrReadFile fs name = some os

/-- A directory is not on it. -/
theorem StackOk.notMem (h : StackOk fs s) (hd : ∃ items, fs d = some (.directory items)) : d ∉ s.stack := by
  intro hmem
  obtain ⟨os, hos⟩ := h d hmem
  obtain ⟨items, hitems⟩ := hd
  simp [octstrReadFile, hitems] at hos

theorem StackOk.includeFiles {files : List Octstr} (h : StackOk fs s)
    (hfiles : files.foldlM (includeFile fs) s = .ok s') : StackOk fs s' := by
  induction files generalizing s with
  | nil => exact Except.ok.inj hfiles ▸ h
  | cons file files ih =>
    obtain ⟨t, ht, hrest⟩ := includeFiles_cons_eq_ok hfiles
    obtain ⟨expand, hexpand, rfl⟩ := includeFile_eq_ok ht
    obtain ⟨os, hos, -⟩ := Option.map_eq_some_iff.mp hexpand
    have ht' : StackOk fs { s with stack := file :: s.stack, lines := expand.reverse ++ s.lines } :=
      List.forall_mem_cons.mpr ⟨⟨os, hos⟩, h⟩
    exact ih ht' hrest

theorem StackOk.readLine (h : StackOk fs s) (hline : readLine fs s loc = .next s') : StackOk fs s' := by
  obtain rfl | ⟨grp, cfg, -, -, rfl⟩ | ⟨-, -, hfiles⟩ | ⟨name, value, -, rfl⟩ := readLine_eq_next hline
  · exact h
  · exact h
  · exact h.includeFiles hfiles
  · exact h

theorem StackOk.reaches (h : StackOk fs s) (hreach : Reaches fs s s') : StackOk fs s' := by
  induction hreach with
  | refl s => exact h
  | @line s t u loc lines hlines hline hreach ih =>
    have ht : StackOk fs { s with lines := lines } := h
    exact ih (ht.readLine hline)

/-- **One turn**: the line that includes the directory is replaced by the lines of its files, which come to one that
includes the directory. -/
theorem readLine_includesItself (s : ReadState) (h : IncludesItself fs d) (hloc : Includes d loc) (hd : d ∉ s.stack) :
    ∃ s', readLine fs s loc = .next s' ∧ ComesTo d s'.lines ∧ d ∉ s'.stack := by
  obtain ⟨hinclude, rfl⟩ := hloc
  obtain ⟨file, _, hlast, hlocs, before, loc', after, rfl, hbefore, hloc'⟩ := h.first
  obtain ⟨files, hfiles⟩ := List.getLast?_eq_some_iff.mp hlast
  have hreadable := h.readable
  have hfresh := notMem_includedFiles h.directory
  rw [hfiles] at hreadable hfresh
  obtain ⟨t, ht, hstack⟩ := includeFiles_of_readable s fun file hfile =>
    hreadable file (List.mem_append_left _ hfile)
  have hall : (includedFiles fs (lineValue loc.line)).foldlM (includeFile fs) s =
      .ok { t with stack := file :: t.stack, lines := (before ++ loc' :: after) ++ t.lines } := by
    rw [hfiles, List.foldlM_append, ht]
    exact congrArg (· >>= pure) (includeFile_of_expandFile t hlocs)
  have hcomes : ComesTo (lineValue loc.line) ((before ++ loc' :: after) ++ t.lines) :=
    ⟨before, loc', after ++ t.lines, List.append_assoc _ _ _, hbefore, hloc'⟩
  refine ⟨{ t with stack := file :: t.stack, lines := (before ++ loc' :: after) ++ t.lines }, ?_, hcomes, fun hmem => ?_⟩
  · rw [readLine_of_isInclude hinclude, if_neg hd, hall]
  · obtain heq | hmem := List.mem_cons.mp hmem
    · exact hfresh (List.mem_append_right _ (List.mem_singleton.mpr heq))
    · exact (hstack _ hmem).elim (fun hmem => hfresh (List.mem_append_left _ hmem)) hd

/-- From lines that come to the directory the loop does not find its end. -/
theorem readLoop_diverges (h : IncludesItself fs d) (hlines : ComesTo d s.lines) (hd : d ∉ s.stack) (fuel : ℕ) :
    readLoop fs fuel s = none := by
  -- each line, plain or not, leads to such lines again
  induction fuel generalizing s with
  | zero => rfl
  | succ fuel ih =>
    obtain ⟨before, loc, after, heq, hbefore, hloc⟩ := hlines
    cases before with
    | nil =>
      obtain ⟨s', hline, hcomes, hd'⟩ := readLine_includesItself { s with lines := after } h hloc hd
      rw [readLoop, heq]
      simp only [List.nil_append, hline]
      exact ih hcomes hd'
    | cons b before =>
      obtain ⟨hb, hrest⟩ := List.forall_mem_cons.mp hbefore
      obtain ⟨grp, hline⟩ := readLine_of_isPlain fs hb { s with lines := before ++ loc :: after }
      rw [readLoop, heq]
      simp only [List.cons_append, hline]
      exact ih ⟨before, loc, after, rfl, hrest, hloc⟩ hd

/-- What comes before makes no difference. -/
theorem readLoop_of_reaches (h : Reaches fs s s') (hdiverges : ∀ fuel, readLoop fs fuel s' = none) (fuel : ℕ) :
    readLoop fs fuel s = none := by
  induction h generalizing fuel with
  | refl s => exact hdiverges fuel
  | line hlines hline h ih =>
    cases fuel with
    | zero => rfl
    | succ fuel =>
      rw [readLoop, hlines]
      simp only [hline]
      exact ih hdiverges fuel

/-- **A directory that includes itself is read for ever**: its name is never put on the stack, so once `cfg_read` has
got to a line that includes it, it neither returns nor panics. -/
theorem cfgRead_diverges (h : IncludesItself fs d) (hmain : expandFile fs filename true = some locs)
    (hreach : Reaches fs ⟨locs, [filename], none, ⟨filename, ∅, ∅⟩⟩ s) (hlines : ComesTo d s.lines) (fuel : ℕ) :
    cfgRead fs fuel filename = none := by
  obtain ⟨os, hos, -⟩ := Option.map_eq_some_iff.mp hmain
  have hstart : StackOk fs ⟨locs, [filename], none, ⟨filename, ∅, ∅⟩⟩ := List.forall_mem_singleton.mpr ⟨os, hos⟩
  rw [cfgRead, hmain]
  exact readLoop_of_reaches hreach
    (readLoop_diverges h hlines ((hstart.reaches hreach).notMem h.directory)) fuel

/-- A directory with a file that includes the directory behind a comment; the main file has a group in front of
that. -/
def sampleDirectory (file : Octstr) : Option Node :=
  if file = octstrImm "conf.d" then some (.directory [octstrImm "x"])
  else if file = octstrImm "main" then some (.file (octstrImm "group = dlr-db\n\ninclude = conf.d\n"))
  else if file = octstrImm "conf.d/x" then some (.file (octstrImm "# x\ninclude = conf.d\n"))
  else none

theorem cfgRead_diverges_sampleDirectory :
    IncludesItself sampleDirectory (octstrImm "conf.d") ∧
      cfgRead sampleDirectory 1000 (octstrImm "main") = none := by
  have hdirectory : IncludesItself sampleDirectory (octstrImm "conf.d") := by
    refine ⟨⟨_, rfl⟩, List.forall_mem_singleton.mpr ⟨_, rfl⟩, octstrImm "conf.d/x", _, rfl, rfl, ?_⟩
    exact ⟨[⟨octstrImm "conf.d/x", 1, octstrImm "# x"⟩], ⟨octstrImm "conf.d/x", 2, octstrImm "include = conf.d"⟩,
      _, rfl, by decide +kernel, by decide +kernel⟩
  have hmain : expandFile sampleDirectory (octstrImm "main") true = some
      [⟨octstrImm "main", 1, octstrImm "group = dlr-db"⟩, ⟨octstrImm "main", 2, []⟩,
        ⟨octstrImm "main", 3, octstrImm "include = conf.d"⟩, ⟨octstrImm "main", 3, [10]⟩] := rfl
  refine ⟨hdirectory, cfgRead_diverges hdirectory hmain (.line rfl rfl (.line rfl rfl (.refl _))) ?_ 1000⟩
  exact ⟨[], ⟨octstrImm "main", 3, octstrImm "include = conf.d"⟩, _, rfl, by simp, by decide +kernel⟩

end SmppServer
