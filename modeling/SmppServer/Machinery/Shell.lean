import Mathlib.Data.List.Basic

/-!
# Machinery/Shell — the words of a shell command

A POSIX shell splits a command into words at blanks.  Single quotes keep all octets behind them, double
quotes all but `$`, a backquote and the backslash; a backslash keeps the octet behind it, in double
quotes only one that would mean something.  An octet that makes more of the text than plain words — an
operator, an expansion, a pattern, a comment — ends the reading here.

A reader never puts out more than it reads, and it puts out less for every quote and every backslash
that is not kept.  So a text pasted between double quotes is a word only if it is **inert**: any other
text leaves the reader with too few octets for the rest of the command.

* `words_quoted_iff` — a quoted text is a word exactly if it is inert.
-/

namespace Machinery.Shell

/-! ## Reading a command

The reader is an automaton over octets.  It refuses what would make more of the text than words, so what it
returns is what any shell reads. -/

/-- What the octets read last mean for the next one. -/
inductive Mode
  | unquoted
  | unquotedEscape
  | single
  | double
  | doubleEscape
  deriving DecidableEq, Repr

/-- A reader: its mode, the word it is in, and the words before. -/
structure Reader where
  mode : Mode := .unquoted
  word : Option (List UInt8) := none
  done : List (List UInt8) := []
  deriving DecidableEq, Repr

/-- Octets that are no text outside quotes: newline `$ & ( ) * ; < > ? [`, backquote and `|`. -/
def special : List UInt8 := [10, 36, 38, 40, 41, 42, 59, 60, 62, 63, 91, 96, 124]

/-- Octets in front of which a backslash is not kept in double quotes: newline `" $ \` and backquote. -/
def escapable : List UInt8 := [10, 34, 36, 92, 96]

/-- Octets put out: the reader is in a word now. -/
def Reader.put (r : Reader) (out : List UInt8) : Reader :=
  { r with word := some (r.word.getD [] ++ out) }

/-- The next octet; `none` if it makes the text more than words. -/
def step (r : Reader) (c : UInt8) : Option Reader :=
  match r.mode with
  | .unquoted =>
    if c = 32 ∨ c = 9 then some { r with word := none, done := r.done ++ r.word.toList }
    else if c = 39 then some { r.put [] with mode := .single }
    else if c = 34 then some { r.put [] with mode := .double }
    else if c = 92 then some { r with mode := .unquotedEscape }
    else if c ∈ special ∨ r.word = none ∧ (c = 35 ∨ c = 126) then none
    else some (r.put [c])
  | .unquotedEscape =>
    if c = 10 then some { r with mode := .unquoted } else some { r.put [c] with mode := .unquoted }
  | .single => if c = 39 then some { r with mode := .unquoted } else some (r.put [c])
  | .double =>
    if c = 34 then some { r with mode := .unquoted }
    else if c = 36 ∨ c = 96 then none
    else if c = 92 then some { r with mode := .doubleEscape }
    else some (r.put [c])
  | .doubleEscape =>
    if c = 10 then some { r with mode := .double }
    else if c ∈ escapable then some { r.put [c] with mode := .double }
    else some { r.put [92, c] with mode := .double }

/-- The octets of a text, one after the other. -/
def run (r : Reader) (s : List UInt8) : Option Reader := s.foldlM step r

/-- **The words of a command**; `none` if it is more than words, or a quote is not closed. -/
def words (s : List UInt8) : Option (List (List UInt8)) :=
  (run {} s).bind fun r => if r.mode = .unquoted then some (r.done ++ r.word.toList) else none

/-- **The text means itself** in double quotes, in front of the octet `next`. -/
def Inert (next : UInt8) : List UInt8 → Prop
  | [] => True
  | c :: s => (c ≠ 34 ∧ c ≠ 36 ∧ c ≠ 96) ∧ (c = 92 → s.headD next ∉ escapable) ∧ Inert next s

instance Inert.decidable (next : UInt8) : ∀ s, Decidable (Inert next s)
  | [] => .isTrue trivial
  | c :: s =>
    have := Inert.decidable next s
    inferInstanceAs (Decidable ((c ≠ 34 ∧ c ≠ 36 ∧ c ≠ 96) ∧ (c = 92 → s.headD next ∉ escapable) ∧
      Inert next s))

section Run

variable {r r' : Reader} {c next : UInt8} {s t u w : List UInt8} {done : List (List UInt8)}

@[simp] theorem run_nil : run r [] = some r := rfl

@[simp] theorem run_cons : run r (c :: s) = (step r c).bind fun r => run r s := rfl

theorem run_append : run r (s ++ t) = (run r s).bind fun r => run r t := List.foldlM_append

theorem inert_append : Inert next (s ++ t) ↔ Inert (t.headD next) s ∧ Inert next t := by
  induction s with
  | nil => simp [Inert]
  | cons c s ih =>
    have hhead : (s ++ t).headD next = s.headD (t.headD next) := by cases s <;> rfl
    rw [List.cons_append, Inert, Inert, hhead, ih]
    tauto

/-- A text without octets that mean anything in double quotes is inert. -/
theorem inert_of_forall_ne (h : ∀ c ∈ s, c ≠ 34 ∧ c ≠ 36 ∧ c ≠ 96 ∧ c ≠ 92) : Inert next s := by
  induction s with
  | nil => trivial
  | cons c s ih =>
    obtain ⟨⟨h34, h36, h96, h92⟩, hs⟩ := List.forall_mem_cons.mp h
    exact ⟨⟨h34, h36, h96⟩, fun he => absurd he h92, ih hs⟩

/-! ## What a reader puts out

The size of what was put out, with what the mode still owes, never grows by more than the octets read. -/

/-- The octets put out so far. -/
def Reader.size (r : Reader) : ℕ := r.done.flatten.length + (r.word.getD []).length

/-- What a mode owes: one octet for an open quote or a backslash that is not put out, and one for a
backslash that may be. -/
@[simp] def Mode.debt : Mode → ℕ
  | .unquoted => 0
  | .unquotedEscape | .single | .double => 1
  | .doubleEscape => 2

@[simp] theorem size_put (r : Reader) (out : List UInt8) : (r.put out).size = r.size + out.length := by
  simp [Reader.size, Reader.put, Nat.add_assoc]

@[simp] theorem size_mode (r : Reader) (mode : Mode) : { r with mode := mode }.size = r.size := rfl

@[simp] theorem put_mode (r : Reader) (out : List UInt8) : (r.put out).mode = r.mode := rfl

/-- The end of a word puts out nothing. -/
@[simp] theorem size_next (r : Reader) (mode : Mode) :
    Reader.size ⟨mode, none, r.done ++ r.word.toList⟩ = r.size := by
  cases h : r.word <;> simp [Reader.size, h]

/-- **No step puts out more than it reads**, counting what is owed. -/
theorem step_size (h : step r c = some r') :
    r'.size + r'.mode.debt ≤ r.size + r.mode.debt + 1 := by
  unfold step at h
  cases hmode : r.mode
  all_goals
    simp only [hmode] at h
    split_ifs at h
    all_goals
      cases h
      simp [hmode]
    all_goals omega

theorem run_size (h : run r s = some r') :
    r'.size + r'.mode.debt ≤ r.size + r.mode.debt + s.length := by
  induction s generalizing r with
  | nil =>
    cases h
    simp
  | cons c s ih =>
    rw [run_cons, Option.bind_eq_some_iff] at h
    obtain ⟨r₁, hstep, hrun⟩ := h
    have h₁ := step_size hstep
    have h₂ := ih hrun
    rw [List.length_cons]
    omega

/-- A quote that ends a command is put out at the cost of a backslash at best. -/
theorem step_quote_size (h : step r 34 = some r') (hmode : r'.mode = .unquoted) :
    r'.size ≤ r.size + r.mode.debt := by
  unfold step at h
  cases hr : r.mode with
  | unquoted | single | doubleEscape =>
    simp only [hr] at h
    cases h
    exact absurd hmode (by simp [hr])
  | double =>
    simp only [hr] at h
    cases h
    simp
  | unquotedEscape =>
    simp only [hr] at h
    cases h
    simp

/-- So a reader that is outside quotes cannot read a text and a quote behind it without loss. -/
theorem run_unquoted_size (hr : r.mode = .unquoted) (h : run r (u ++ [34]) = some r')
    (hmode : r'.mode = .unquoted) : r'.size ≤ r.size + u.length := by
  rw [run_append, Option.bind_eq_some_iff] at h
  obtain ⟨r₁, hrun, hstep⟩ := h
  simp only [run_cons, run_nil, Option.bind_fun_some] at hstep
  have h₁ := run_size hrun
  have h₂ := step_quote_size hstep hmode
  have hdebt : r.mode.debt = 0 := by rw [hr]; rfl
  omega

/-! ## A text in double quotes

If the text is not inert the reader has lost an octet by its end, and the rest of the command cannot make up for
it. -/

/-- A reader in double quotes. -/
def inQuotes (done : List (List UInt8)) (w : List UInt8) : Reader := ⟨.double, some w, done⟩

theorem step_inQuotes (hc : c ≠ 34 ∧ c ≠ 36 ∧ c ≠ 96) (hesc : c ≠ 92) :
    step (inQuotes done w) c = some (inQuotes done (w ++ [c])) := by
  simp [step, inQuotes, hc, hesc, Reader.put]

/-- An octet in front of which a backslash is kept means itself. -/
theorem plain_of_notMem_escapable (hc : c ∉ escapable) : (c ≠ 34 ∧ c ≠ 36 ∧ c ≠ 96) ∧ c ≠ 92 := by
  simp only [escapable, List.mem_cons, List.not_mem_nil, or_false, not_or] at hc
  exact ⟨⟨hc.2.1, hc.2.2.1, hc.2.2.2.2⟩, hc.2.2.2.1⟩

/-- A backslash that is kept, and the octet behind it. -/
theorem run_backslash (hc : c ∉ escapable) :
    run (inQuotes done w) (92 :: c :: s) = run (inQuotes done (w ++ [92, c])) s := by
  have hnewline : c ≠ 10 := fun h => hc (by rw [h]; decide)
  simp [step, inQuotes, hc, hnewline, Reader.put]

/-- A backslash that is not kept. -/
theorem run_backslash_escapable (hc : c ∈ escapable) : ∃ out, out.length ≤ 1 ∧
    run (inQuotes done w) (92 :: c :: s) = run (inQuotes done (w ++ out)) s := by
  by_cases hnewline : c = 10
  · exact ⟨[], by decide, by simp [step, inQuotes, hnewline]⟩
  · exact ⟨[c], Nat.le_refl 1, by simp [step, inQuotes, hc, hnewline, Reader.put]⟩

/-- **An inert text is put out as it is.** -/
theorem run_inQuotes_of_inert : ∀ {u w}, Inert 34 u →
    run (inQuotes done w) (u ++ [34]) = some ⟨.unquoted, some (w ++ u), done⟩
  | [], w, _ => by simp [step, inQuotes]
  | c :: u, w, h => by
    obtain ⟨hc, hnext, hu⟩ := h
    by_cases hesc : c = 92
    · subst hesc
      cases u with
      | nil => exact absurd (by decide : (34 : UInt8) ∈ escapable) (hnext rfl)
      | cons d u =>
        have hd : d ∉ escapable := hnext rfl
        rw [List.cons_append, List.cons_append, run_backslash hd,
          run_inQuotes_of_inert (u := u) (w := w ++ [92, d]) hu.2.2]
        simp
    · rw [List.cons_append, run_cons, step_inQuotes hc hesc, Option.bind_some,
        run_inQuotes_of_inert (u := u) hu]
      simp

@[simp] theorem size_inQuotes :
    (inQuotes done w).size = done.flatten.length + w.length := rfl

/-- **No text puts out more than itself**, and one that puts out as much is inert. -/
theorem inert_of_run : ∀ {u w}, run (inQuotes done w) (u ++ [34]) = some r' → r'.mode = .unquoted →
    r'.size ≤ (inQuotes done w).size + u.length ∧
      (r'.size = (inQuotes done w).size + u.length → Inert 34 u)
  | [], w, h, _ => by
    have hclose : run (inQuotes done w) [34] = some ⟨.unquoted, some w, done⟩ := rfl
    rw [List.nil_append, hclose, Option.some.injEq] at h
    subst h
    exact ⟨Nat.le_refl _, fun _ => trivial⟩
  | c :: u, w, h, hmode => by
    rw [List.cons_append] at h
    rw [List.length_cons]
    by_cases hquote : c = 34
    · -- the quote is closed: nothing was put out for it, and the last quote is read outside quotes
      have hclose : run (inQuotes done w) (c :: (u ++ [34])) =
          run ⟨.unquoted, some w, done⟩ (u ++ [34]) := by rw [hquote]; rfl
      rw [hclose] at h
      have hsize := run_unquoted_size rfl h hmode
      have hstart : Reader.size ⟨.unquoted, some w, done⟩ = (inQuotes done w).size := rfl
      omega
    by_cases hexpand : c = 36 ∨ c = 96
    · have hnone : step (inQuotes done w) c = none := by simp [step, inQuotes, hquote, hexpand]
      simp [hnone] at h
    have hplain : c ≠ 34 ∧ c ≠ 36 ∧ c ≠ 96 := ⟨hquote, not_or.mp hexpand⟩
    by_cases hesc : c = 92
    · subst hesc
      cases u with
      | nil =>
        have hopen : run (inQuotes done w) [92, 34] = some (inQuotes done (w ++ [34])) := rfl
        rw [List.nil_append, hopen, Option.some.injEq] at h
        simp [← h, inQuotes] at hmode
      | cons d u =>
        rw [List.cons_append] at h
        rw [List.length_cons]
        by_cases hd : d ∈ escapable
        · obtain ⟨out, hout, hrun⟩ := run_backslash_escapable hd
          rw [hrun] at h
          have hle := (inert_of_run h hmode).1
          simp only [size_inQuotes, List.length_append] at hle ⊢
          omega
        · rw [run_backslash hd] at h
          obtain ⟨hle, hinert⟩ := inert_of_run h hmode
          simp only [size_inQuotes, List.length_append, List.length_cons, List.length_nil] at hle hinert ⊢
          obtain ⟨hplain, hne⟩ := plain_of_notMem_escapable hd
          exact ⟨by omega, fun he => ⟨by decide, fun _ => hd, hplain, fun h => absurd h hne,
            hinert (by omega)⟩⟩
    · rw [run_cons, step_inQuotes hplain hesc, Option.bind_some] at h
      obtain ⟨hle, hinert⟩ := inert_of_run h hmode
      simp only [size_inQuotes, List.length_append, List.length_cons, List.length_nil] at hle hinert ⊢
      exact ⟨by omega, fun he => ⟨hplain, fun h => absurd h hesc, hinert (by omega)⟩⟩

/-- **A quoted text is a word exactly if it is inert**, whatever command it is quoted in; and it is no
longer word. -/
theorem words_quoted_iff {v : List UInt8} (hopen : run {} s = some (inQuotes done []))
    (hlen : u.length ≤ v.length) :
    words (s ++ (u ++ [34])) = some (done ++ [v]) ↔ Inert 34 u ∧ u = v := by
  rw [words, run_append, hopen, Option.bind_some]
  constructor
  · intro h
    obtain ⟨r', hrun, hwords⟩ := Option.bind_eq_some_iff.mp h
    split_ifs at hwords with hmode
    have hsize : r'.size = (done ++ [v]).flatten.length := by
      rw [← Option.some.inj hwords]
      cases hword : r'.word <;> simp [Reader.size, hword]
    obtain ⟨hle, hinert⟩ := inert_of_run hrun hmode
    simp only [List.flatten_concat, List.length_append, size_inQuotes, List.length_nil] at hsize hle hinert
    have hu : Inert 34 u := hinert (by omega)
    rw [run_inQuotes_of_inert hu, Option.some.injEq] at hrun
    exact ⟨hu, by simpa [← hrun] using hwords⟩
  · rintro ⟨hu, rfl⟩
    rw [run_inQuotes_of_inert hu]
    simp

end Run

end Machinery.Shell
