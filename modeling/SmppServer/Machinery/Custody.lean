import Mathlib.Data.List.Induction
import Mathlib.Data.List.Nodup
import Mathlib.Data.List.Perm.Subperm
import Mathlib.Order.Nat

/-!
# Machinery/Custody — tokens that change places, and the journal of what was done with them

Numbered tokens enter a system, lie in places, are moved one at a time and get lost; a journal keeps
what was *written* for a token under a key, and which keys were *answered*.  A `Shift` is one step of
such a system as far as the tokens are concerned.

* `Custody.Sound.shift` — the invariant rule: what holds of every token when it enters, and is kept
  by its own moves and by what is journaled for others, holds of every token throughout.  The rule is
  sound because no two tokens carry one number.
* `Orderly.answered_mem` — if nothing is written for a token while one of its keys is unanswered, then
  between two writes for a token stands the answer to the first.
-/

namespace Machinery

open scoped List

/-! ## The journal

The journal is a list of actions, of which those for one token matter to that token alone.  All counts are read
off it, and the lemmas say what one more action does to them. -/

/-- What is journaled: a write for a token under a key, or the answer to a key. -/
inductive Action (κ : Type*)
  | written (number : ℕ) (key : κ)
  | answered (key : κ)
  deriving DecidableEq, Repr

section Journal

variable {κ : Type*}

/-- The number of writes for a token. -/
def writes (number : ℕ) (journal : List (Action κ)) : ℕ :=
  journal.countP fun
    | .written n _ => n = number
    | .answered _ => false

variable {number : ℕ} {key key' : κ} {journal : List (Action κ)}

theorem writes_concat_written (number n : ℕ) (key : κ) (journal : List (Action κ)) :
    writes number (journal ++ [.written n key]) =
      writes number journal + if n = number then 1 else 0 := by
  simp [writes, List.countP_append, List.countP_cons]

@[simp] theorem writes_answered :
    writes number (journal ++ [.answered key]) = writes number journal := by
  simp [writes, List.countP_append]

/-- What is journaled for another token is no write for this one. -/
theorem writes_of_ne {a : Action κ} (h : ∀ key, a ≠ .written number key) :
    writes number (journal ++ [a]) = writes number journal := by
  cases a with
  | written n key =>
    have hne : n ≠ number := fun heq => h key (by rw [heq])
    rw [writes_concat_written, if_neg hne, Nat.add_zero]
  | answered key => exact writes_answered

/-- Nothing was written for a token the journal does not name. -/
theorem writes_eq_zero (h : ∀ key, Action.written number key ∉ journal) : writes number journal = 0 := by
  rw [writes, List.countP_eq_zero]
  intro a ha
  cases a with
  | written n key =>
    have hne : n ≠ number := fun heq => h key (by rwa [← heq])
    simpa using hne
  | answered key => simp

variable [DecidableEq κ]

/-- The unanswered keys of a token behind one more action. -/
def reopen (number : ℕ) (keys : List κ) : Action κ → List κ
  | .written n key => if n = number then key :: keys else keys
  | .answered key => keys.filter (· ≠ key)

/-- The keys under which something was written for the token and which were not answered since. -/
def unanswered (number : ℕ) (journal : List (Action κ)) : List κ :=
  journal.foldl (reopen number) []

theorem unanswered_concat (number : ℕ) (journal : List (Action κ)) (a : Action κ) :
    unanswered number (journal ++ [a]) = reopen number (unanswered number journal) a := by
  simp [unanswered]

@[simp] theorem unanswered_written_self :
    unanswered number (journal ++ [.written number key]) = key :: unanswered number journal := by
  simp [unanswered_concat, reopen]

@[simp] theorem unanswered_answered :
    unanswered number (journal ++ [.answered key]) = (unanswered number journal).filter (· ≠ key) := by
  rw [unanswered_concat, reopen]

/-- What is journaled for another token opens no key of this one. -/
theorem unanswered_sublist {a : Action κ} (h : ∀ key, a ≠ .written number key) :
    unanswered number (journal ++ [a]) <+ unanswered number journal := by
  rw [unanswered_concat]
  cases a with
  | written n key =>
    have hne : n ≠ number := fun heq => h key (by rw [heq])
    rw [reopen, if_neg hne]
  | answered key => exact List.filter_sublist

theorem unanswered_eq_nil (h : ∀ key, Action.written number key ∉ journal) :
    unanswered number journal = [] := by
  induction journal using List.reverseRecOn with
  | nil => rfl
  | append_singleton l a ih =>
    have hsub : unanswered number (l ++ [a]) <+ unanswered number l :=
      unanswered_sublist fun key heq => h key (by simp [heq])
    rw [ih fun key hmem => h key (by simp [hmem])] at hsub
    exact List.sublist_nil.mp hsub

/-- A key stays open until it is answered. -/
theorem mem_unanswered_of_not_answered {l₁ l₂ : List (Action κ)} (h : Action.answered key ∉ l₂) :
    key ∈ unanswered number (l₁ ++ .written number key :: l₂) := by
  induction l₂ using List.reverseRecOn with
  | nil => simp
  | append_singleton l a ih =>
    have hmem := ih fun hl => h (by simp [hl])
    rw [← List.cons_append, ← List.append_assoc, unanswered_concat]
    cases a with
    | written n key' =>
      rw [reopen]
      split
      · exact List.mem_cons_of_mem _ hmem
      · exact hmem
    | answered key' =>
      have hne : key ≠ key' := fun heq => h (by simp [heq])
      rw [reopen, List.mem_filter]
      exact ⟨hmem, by simpa using hne⟩

/-- Nothing is written for a token while one of its keys is unanswered. -/
inductive Orderly : List (Action κ) → Prop
  | nil : Orderly []
  | answered {journal : List (Action κ)} (h : Orderly journal) (key : κ) :
      Orderly (journal ++ [.answered key])
  | written {journal : List (Action κ)} (h : Orderly journal) {number : ℕ} (key : κ)
      (hfree : unanswered number journal = []) : Orderly (journal ++ [.written number key])

/-- In an orderly journal nothing is open where something is written. -/
theorem Orderly.unanswered_eq_nil (h : Orderly journal) {l l' : List (Action κ)}
    (hj : journal = l ++ .written number key :: l') : unanswered number l = [] := by
  induction h generalizing l' with
  | nil => simp at hj
  | answered h key' ih =>
    obtain rfl | ⟨l'', a, rfl⟩ := List.eq_nil_or_concat' l'
    · exact absurd (List.append_inj' hj rfl).2 (by simp)
    · rw [← List.cons_append, ← List.append_assoc] at hj
      exact ih (List.append_inj_left' hj rfl)
  | written h key' hfree ih =>
    obtain rfl | ⟨l'', a, rfl⟩ := List.eq_nil_or_concat' l'
    · obtain ⟨rfl, heq⟩ := List.append_inj' hj rfl
      obtain ⟨rfl, -⟩ := Action.written.inj (List.singleton_inj.mp heq)
      exact hfree
    · rw [← List.cons_append, ← List.append_assoc] at hj
      exact ih (List.append_inj_left' hj rfl)

/-- **Between two writes for a token stands the answer to the first.** -/
theorem Orderly.answered_mem (h : Orderly journal) {l₁ l₂ l₃ : List (Action κ)}
    (hj : journal = l₁ ++ .written number key :: l₂ ++ .written number key' :: l₃) :
    Action.answered key ∈ l₂ := by
  by_contra hnot
  have hopen : key ∈ unanswered number (l₁ ++ .written number key :: l₂) :=
    mem_unanswered_of_not_answered hnot
  rw [h.unanswered_eq_nil hj] at hopen
  exact List.not_mem_nil hopen

end Journal

/-! ## Tokens in their places

A rule about single tokens is turned into one about the system: the token that enters or moves is dealt with by
the rule, and every other is framed by the actions that do not concern it. -/

/-- The tokens with the places they lie in, the journal, and how many numbers were given out. -/
structure Custody (P M κ : Type*) where
  copies : List (P × M)
  journal : List (Action κ)
  issued : ℕ

section Shift

variable {P M κ : Type*}

/-- One step, as far as the tokens are concerned: some are lost, a token enters under the next number,
or one token is moved with what the move journals.  Keys may be answered besides. -/
inductive Shift (number : M → ℕ) (Entry : P × M → Prop)
    (Move : P × M → P × M → List (Action κ) → Prop) : Custody P M κ → Custody P M κ → Prop
  | shrink {c c' : Custody P M κ} {keys : List κ} (hcopies : c'.copies <+~ c.copies)
      (hjournal : c'.journal = c.journal ++ keys.map .answered) (hissued : c.issued ≤ c'.issued) :
      Shift number Entry Move c c'
  | enter {c c' : Custody P M κ} {p : P × M} (hcopies : c'.copies <+~ p :: c.copies)
      (hentry : Entry p) (hnumber : number p.2 = c.issued + 1) (hjournal : c'.journal = c.journal)
      (hissued : c'.issued = c.issued + 1) : Shift number Entry Move c c'
  | move {c c' : Custody P M κ} {p p' : P × M} {rest : List (P × M)} {as : List (Action κ)}
      {keys : List κ} (hfrom : c.copies ~ p :: rest) (hto : c'.copies <+~ p' :: rest) (hmove : Move p p' as)
      (hnumber : number p'.2 = number p.2) (hown : ∀ n key, .written n key ∈ as → n = number p.2)
      (hjournal : c'.journal = c.journal ++ as ++ keys.map .answered)
      (hissued : c'.issued = c.issued) : Shift number Entry Move c c'

section Parts

variable {number : M → ℕ} {Entry : P × M → Prop} {Move : P × M → P × M → List (Action κ) → Prop}
  {c c' : Custody P M κ}

/-- A step that journals nothing and only loses tokens. -/
theorem Shift.lose (hcopies : c'.copies <+~ c.copies) (hjournal : c'.journal = c.journal)
    (hissued : c.issued ≤ c'.issued) : Shift number Entry Move c c' := by
  have hnone : c'.journal = c.journal ++ ([] : List κ).map .answered := by
    rw [hjournal, List.map_nil, List.append_nil]
  exact .shrink hcopies hnone hissued

/-- A move besides which no key is answered. -/
theorem Shift.moveOnly {p p' : P × M} {rest : List (P × M)} {as : List (Action κ)}
    (hfrom : c.copies ~ p :: rest) (hto : c'.copies <+~ p' :: rest) (hmove : Move p p' as)
    (hnumber : number p'.2 = number p.2) (hown : ∀ n key, .written n key ∈ as → n = number p.2)
    (hjournal : c'.journal = c.journal ++ as) (hissued : c'.issued = c.issued) :
    Shift number Entry Move c c' := by
  have hnone : c'.journal = c.journal ++ as ++ ([] : List κ).map .answered := by
    rw [hjournal, List.map_nil, List.append_nil]
  exact .move hfrom hto hmove hnumber hown hnone hissued

/-- A step that is known in more detail is a step. -/
theorem Shift.mono {Entry' : P × M → Prop} {Move' : P × M → P × M → List (Action κ) → Prop}
    (hEntry : ∀ p, Entry p → Entry' p) (hMove : ∀ p p' as, Move p p' as → Move' p p' as)
    (h : Shift number Entry Move c c') : Shift number Entry' Move' c c' := by
  cases h with
  | shrink hcopies hjournal hissued => exact .shrink hcopies hjournal hissued
  | enter hcopies hentry hnumber hjournal hissued =>
    exact .enter hcopies (hEntry _ hentry) hnumber hjournal hissued
  | move hfrom hto hmove hnumber hown hjournal hissued =>
    exact .move hfrom hto (hMove _ _ _ hmove) hnumber hown hjournal hissued

/-- A step of a part of the system, while the rest of it stays as it is. -/
theorem Shift.of_part {part part' : Custody P M κ} {copies copies' others : List (P × M)} (h : Shift number Entry Move part part')
    (hcopies : copies ~ part.copies ++ others) (hcopies' : copies' ~ part'.copies ++ others) :
    Shift number Entry Move { part with copies := copies } { part' with copies := copies' } := by
  cases h with
  | shrink hsub hjournal hissued =>
    refine .shrink ?_ hjournal hissued
    exact (hcopies'.subperm.trans (hsub.append (List.Subperm.refl others))).trans hcopies.symm.subperm
  | enter hsub hentry hnumber hjournal hissued =>
    refine .enter ?_ hentry hnumber hjournal hissued
    refine (hcopies'.subperm.trans (hsub.append (List.Subperm.refl others))).trans ?_
    exact (hcopies.symm.cons _).subperm
  | move hfrom hto hmove hnumber hown hjournal hissued =>
    refine .move (hcopies.trans (hfrom.append_right others)) ?_ hmove hnumber hown hjournal hissued
    exact hcopies'.subperm.trans (hto.append (List.Subperm.refl others))

end Parts

/-- **The invariant**: numbers are used once, and every token is as it should be. -/
structure Custody.Sound (number : M → ℕ) (Good : List (Action κ) → P × M → Prop)
    (J : List (Action κ) → Prop) (c : Custody P M κ) : Prop where
  nodup : (c.copies.map fun p => number p.2).Nodup
  known : ∀ p ∈ c.copies, number p.2 ≤ c.issued
  named : ∀ n key, .written n key ∈ c.journal → n ≤ c.issued
  good : ∀ p ∈ c.copies, Good c.journal p
  journal : J c.journal

/-- What the rules about single tokens have to say for the invariant rule. -/
structure Keeps (number : M → ℕ) (Entry : P × M → Prop)
    (Move : P × M → P × M → List (Action κ) → Prop) (Good : List (Action κ) → P × M → Prop)
    (J : List (Action κ) → Prop) : Prop where
  frame : ∀ {journal p a}, Good journal p → (∀ key, a ≠ .written (number p.2) key) →
    Good (journal ++ [a]) p
  entry : ∀ {journal p}, Entry p → (∀ key, .written (number p.2) key ∉ journal) → Good journal p
  move : ∀ {journal p p' as}, Good journal p → number p'.2 = number p.2 → Move p p' as →
    Good (journal ++ as) p'
  answered : ∀ {journal key}, J journal → J (journal ++ [.answered key])
  moved : ∀ {journal p p' as}, J journal → Good journal p → Move p p' as → J (journal ++ as)

variable {number : M → ℕ} {Entry : P × M → Prop}
  {Move : P × M → P × M → List (Action κ) → Prop} {Good : List (Action κ) → P × M → Prop}
  {J : List (Action κ) → Prop} {c c' : Custody P M κ}

/-- What is journaled for others, action by action. -/
theorem Keeps.frame_append (hk : Keeps number Entry Move Good J) {p : P × M}
    {as : List (Action κ)} (has : ∀ n key, .written n key ∈ as → n ≠ number p.2)
    {journal : List (Action κ)} (h : Good journal p) : Good (journal ++ as) p := by
  induction as generalizing journal with
  | nil => rwa [List.append_nil]
  | cons a as ih =>
    have ha : ∀ key, a ≠ .written (number p.2) key := by
      rintro key rfl
      exact has _ key List.mem_cons_self rfl
    have hrest := ih (fun n key hmem => has n key (List.mem_cons_of_mem a hmem)) (hk.frame h ha)
    rwa [List.append_assoc, List.singleton_append] at hrest

theorem Keeps.answered_append (hk : Keeps number Entry Move Good J) (keys : List κ)
    {journal : List (Action κ)} (h : J journal) : J (journal ++ keys.map .answered) := by
  induction keys generalizing journal with
  | nil => rwa [List.map_nil, List.append_nil]
  | cons key keys ih =>
    have hone : J (journal ++ [.answered key]) := hk.answered h
    have hrest := ih hone
    rwa [List.append_assoc, List.singleton_append] at hrest

theorem nodup_of_subperm {copies copies' : List (P × M)} (h : copies' <+~ copies)
    (hnodup : (copies.map fun p => number p.2).Nodup) :
    (copies'.map fun p => number p.2).Nodup := by
  obtain ⟨l, hperm, hsub⟩ := h
  have hl : (l.map fun p => number p.2).Nodup := hnodup.sublist (hsub.map _)
  exact (hperm.map _).nodup_iff.mp hl

/-- Losing tokens. -/
theorem Custody.Sound.shrink (hk : Keeps number Entry Move Good J) (h : c.Sound number Good J)
    {keys : List κ} (hcopies : c'.copies <+~ c.copies)
    (hjournal : c'.journal = c.journal ++ keys.map .answered) (hissued : c.issued ≤ c'.issued) :
    c'.Sound number Good J where
  nodup := nodup_of_subperm hcopies h.nodup
  known p hp := (h.known p (hcopies.subset hp)).trans hissued
  named n key hmem := by
    rw [hjournal, List.mem_append] at hmem
    obtain hold | hnew := hmem
    · exact (h.named n key hold).trans hissued
    · simp at hnew
  good p hp := by
    rw [hjournal]
    exact hk.frame_append (fun n key hmem => by simp at hmem) (h.good p (hcopies.subset hp))
  journal := by
    rw [hjournal]
    exact hk.answered_append keys h.journal

/-- A token enters. -/
theorem Custody.Sound.enter (hk : Keeps number Entry Move Good J) (h : c.Sound number Good J)
    {p : P × M} (hcopies : c'.copies <+~ p :: c.copies) (hentry : Entry p)
    (hnumber : number p.2 = c.issued + 1) (hjournal : c'.journal = c.journal)
    (hissued : c'.issued = c.issued + 1) : c'.Sound number Good J where
  nodup := by
    refine nodup_of_subperm hcopies ?_
    rw [List.map_cons, List.nodup_cons]
    refine ⟨fun hmem => ?_, h.nodup⟩
    obtain ⟨p', hp', heq⟩ := List.mem_map.mp hmem
    have hle := h.known p' hp'
    omega
  known p' hp' := by
    rw [hissued]
    obtain rfl | hold := List.mem_cons.mp (hcopies.subset hp')
    · exact le_of_eq hnumber
    · exact (h.known p' hold).trans (Nat.le_succ _)
  named n key hmem := by
    rw [hjournal] at hmem
    rw [hissued]
    exact (h.named n key hmem).trans (Nat.le_succ _)
  good p' hp' := by
    rw [hjournal]
    obtain rfl | hold := List.mem_cons.mp (hcopies.subset hp')
    · refine hk.entry hentry fun key hmem => ?_
      have hle := h.named _ key hmem
      omega
    · exact h.good p' hold
  journal := hjournal ▸ h.journal

/-- A token is moved. -/
theorem Custody.Sound.move (hk : Keeps number Entry Move Good J) (h : c.Sound number Good J)
    {p p' : P × M} {rest : List (P × M)} {as : List (Action κ)} (hfrom : c.copies ~ p :: rest)
    (hto : c'.copies <+~ p' :: rest) (hmove : Move p p' as) (hnumber : number p'.2 = number p.2)
    (hown : ∀ n key, .written n key ∈ as → n = number p.2)
    (hjournal : c'.journal = c.journal ++ as) (hissued : c'.issued = c.issued) :
    c'.Sound number Good J := by
  have hp : p ∈ c.copies := hfrom.mem_iff.mpr List.mem_cons_self
  have hnodup : ((p :: rest).map fun p => number p.2).Nodup := (hfrom.map _).nodup_iff.mp h.nodup
  have hrest : ∀ r ∈ rest, r ∈ c.copies := fun r hr => hfrom.mem_iff.mpr (List.mem_cons_of_mem p hr)
  refine ⟨?_, fun r hr => ?_, fun n key hmem => ?_, fun r hr => ?_, ?_⟩
  · refine nodup_of_subperm hto ?_
    rw [List.map_cons, hnumber]
    exact hnodup
  · rw [hissued]
    obtain rfl | hold := List.mem_cons.mp (hto.subset hr)
    · exact hnumber ▸ h.known p hp
    · exact h.known r (hrest r hold)
  · rw [hissued]
    rw [hjournal, List.mem_append] at hmem
    obtain hold | hnew := hmem
    · exact h.named n key hold
    · exact hown n key hnew ▸ h.known p hp
  · rw [hjournal]
    obtain rfl | hold := List.mem_cons.mp (hto.subset hr)
    · exact hk.move (h.good p hp) hnumber hmove
    · refine hk.frame_append (fun n key hmem heq => ?_) (h.good r (hrest r hold))
      rw [List.map_cons, List.nodup_cons] at hnodup
      exact hnodup.1 (List.mem_map.mpr ⟨r, hold, heq.symm.trans (hown n key hmem)⟩)
  · rw [hjournal]
    exact hk.moved h.journal (h.good p hp) hmove

/-- **The invariant rule**: a shift keeps every token as it should be. -/
theorem Custody.Sound.shift (hk : Keeps number Entry Move Good J) (h : c.Sound number Good J)
    (hs : Shift number Entry Move c c') : c'.Sound number Good J := by
  cases hs with
  | shrink hcopies hjournal hissued => exact h.shrink hk hcopies hjournal hissued
  | enter hcopies hentry hnumber hjournal hissued =>
    exact h.enter hk hcopies hentry hnumber hjournal hissued
  | @move p p' rest as keys hfrom hto hmove hnumber hown hjournal hissued =>
    -- the token is moved first, the other keys are answered then
    have hmoved : Custody.Sound number Good J { c' with journal := c.journal ++ as } :=
      h.move hk hfrom hto hmove hnumber hown rfl hissued
    exact hmoved.shrink hk (List.Subperm.refl _) hjournal (le_refl _)

end Shift

end Machinery
