import Mathlib.Data.List.DropRight

/-!
# Machinery/Lines — a text as its lines, and the margins of a line

A text is cut at every separator; what stands behind the last separator is a line only if it is not
empty, so that a text written line by line, each with a separator behind it, is read back as these
lines.  The **margin** of a line is what a predicate holds of at both its ends.

* `linesOf_flatMap` — reading back what was written line by line.
* `strip_eq_self_iff`, `strip_append_of_all` — when a line has no margin, and how one is cut off.
-/

namespace Machinery

variable {α : Type*}

section Lines

variable [DecidableEq α] {sep : α} {l s : List α} {ls : List (List α)}

/-- The lines of a text. -/
def linesOf (sep : α) (s : List α) : List (List α) :=
  if (s.splitOn sep).getLast? = some [] then (s.splitOn sep).dropLast else s.splitOn sep

@[simp] theorem linesOf_nil : linesOf sep ([] : List α) = [] := by simp [linesOf]

/-- The first line of a text, and the rest. -/
theorem linesOf_append_cons (h : sep ∉ l) : linesOf sep (l ++ sep :: s) = l :: linesOf sep s := by
  have hsplit : (l ++ sep :: s).splitOn sep = l :: s.splitOn sep :=
    List.splitOn_append_cons_self_of_not_mem h s
  have hne : s.splitOn sep ≠ [] := List.splitOn_ne_nil sep s
  rw [linesOf, linesOf, hsplit, List.getLast?_cons, List.dropLast_cons_of_ne_nil hne,
    List.getLast?_eq_getLast_of_ne_nil hne, Option.getD_some]
  split <;> rfl

/-- **Reading back what was written line by line.** -/
theorem linesOf_flatMap_append (h : ∀ l ∈ ls, sep ∉ l) :
    linesOf sep (ls.flatMap (fun l => l ++ [sep]) ++ s) = ls ++ linesOf sep s := by
  induction ls with
  | nil => rfl
  | cons l ls ih =>
    obtain ⟨hl, hls⟩ := List.forall_mem_cons.mp h
    rw [List.flatMap_cons, List.append_assoc, List.append_assoc, List.singleton_append,
      linesOf_append_cons hl, ih hls, List.cons_append]

theorem linesOf_flatMap (h : ∀ l ∈ ls, sep ∉ l) :
    linesOf sep (ls.flatMap fun l => l ++ [sep]) = ls := by
  have hread := linesOf_flatMap_append (s := []) h
  rwa [List.append_nil, linesOf_nil, List.append_nil] at hread

end Lines

section Words

variable {p a b : List α} {x : α}

/-- A word without the letter is on one side of it. -/
theorem infix_append_cons_iff (hp : x ∉ p) :
    p <:+: a ++ x :: b ↔ p <:+: a ∨ p <:+: b := by
  rw [List.infix_append_iff, List.infix_cons_iff]
  -- what of the word stands on the letter or behind it is nothing
  have hnil : ∀ l, l ⊆ p → l <+: x :: b → l = [] := fun l hl hpre => by
    cases l with
    | nil => rfl
    | cons y l =>
      obtain ⟨rfl, -⟩ := List.cons_prefix_cons.mp hpre
      exact absurd (hl List.mem_cons_self) hp
  constructor
  · rintro (h | (h | h) | ⟨l₁, l₂, rfl, h₁, h₂⟩)
    · exact .inl h
    · rw [hnil p (List.Subset.refl p) h]
      exact .inl List.nil_infix
    · exact .inr h
    · rw [hnil l₂ (List.subset_append_right l₁ l₂) h₂, List.append_nil]
      exact .inl h₁.isInfix
  · rintro (h | h)
    · exact .inl h
    · exact .inr (.inl (.inr h))

end Words

section Strip

variable (p : α → Bool) {l w : List α}

/-- A line without its margins. -/
def strip (l : List α) : List α := (l.dropWhile p).rdropWhile p

variable {p}

@[simp] theorem strip_nil : strip p [] = [] := rfl

theorem strip_append_of_all (hw : ∀ x ∈ w, p x = true) : strip p (w ++ l) = strip p l := by
  rw [strip, List.dropWhile_append_of_pos hw, strip]

theorem rdropWhile_append_of_all (hw : ∀ x ∈ w, p x = true) :
    (l ++ w).rdropWhile p = l.rdropWhile p := by
  rw [List.rdropWhile, List.reverse_append,
    List.dropWhile_append_of_pos fun x hx => hw x (List.mem_reverse.mp hx), List.rdropWhile]

theorem strip_append_of_all_right (hw : ∀ x ∈ w, p x = true) : strip p (l ++ w) = strip p l := by
  rw [strip, List.dropWhile_append]
  split
  · next hall =>
    -- nothing is left of `l`: it is all margin, as `w` is
    have hl : l.dropWhile p = [] := List.isEmpty_iff.mp hall
    rw [strip, hl, List.dropWhile_eq_nil_iff.mpr hw]
  · rw [rdropWhile_append_of_all hw, strip]

/-- Only the right margin is left out behind something else. -/
theorem rdropWhile_append_cons {x : α} (hx : p x = false) :
    (l ++ x :: w).rdropWhile p = l ++ x :: w.rdropWhile p := by
  have hback : (w.reverse ++ x :: l.reverse).dropWhile p = w.reverse.dropWhile p ++ x :: l.reverse := by
    rw [List.dropWhile_append]
    split
    · next hall => rw [List.isEmpty_iff.mp hall, List.dropWhile_cons_of_neg (by simp [hx]), List.nil_append]
    · rfl
  rw [List.rdropWhile, List.reverse_append, List.reverse_cons, List.append_assoc, List.singleton_append,
    hback, List.reverse_append, List.reverse_cons, List.reverse_reverse, List.append_assoc,
    List.singleton_append, List.rdropWhile]

theorem strip_rdropWhile (p : α → Bool) (l : List α) : strip p (l.rdropWhile p) = strip p l := by
  have hsplit : l.rdropWhile p ++ l.rtakeWhile p = l := List.rdropWhile_append_rtakeWhile
  calc strip p (l.rdropWhile p)
      = strip p (l.rdropWhile p ++ l.rtakeWhile p) :=
        (strip_append_of_all_right fun x hx => List.mem_rtakeWhile_imp hx).symm
    _ = strip p l := by rw [hsplit]

/-- The line begins and ends with something else. -/
def Trimmed (p : α → Bool) (l : List α) : Prop :=
  (∀ x ∈ l.head?, p x = false) ∧ ∀ x ∈ l.getLast?, p x = false

instance : Decidable (Trimmed p l) := inferInstanceAs (Decidable (_ ∧ _))

theorem strip_eq_self (h : Trimmed p l) : strip p l = l := by
  cases l with
  | nil => rfl
  | cons x l =>
    have hx : ¬ p x = true := by simp [h.1 x rfl]
    rw [strip, List.dropWhile_cons_of_neg hx, List.rdropWhile_eq_self_iff]
    intro hne
    simp [h.2 _ (List.getLast?_eq_some_getLast hne)]

/-- What is left of a line has no margin. -/
theorem trimmed_strip (p : α → Bool) (l : List α) : Trimmed p (strip p l) := by
  constructor
  · intro x hx
    have hdrop : (l.dropWhile p).head? = some x := by
      obtain ⟨t, ht⟩ := List.rdropWhile_prefix p (l.dropWhile p)
      rw [← ht, List.head?_append, ← strip, Option.mem_def.mp hx, Option.some_or]
    have hnot := List.head?_dropWhile_not p l
    rwa [hdrop] at hnot
  · intro x hx
    obtain ⟨hne, rfl⟩ := List.mem_getLast?_eq_getLast hx
    exact Bool.eq_false_iff.mpr (List.rdropWhile_last_not p _ hne)

theorem strip_eq_self_iff : strip p l = l ↔ Trimmed p l :=
  ⟨fun h => h ▸ trimmed_strip p l, strip_eq_self⟩

theorem strip_strip (p : α → Bool) (l : List α) : strip p (strip p l) = strip p l :=
  strip_eq_self (trimmed_strip p l)

end Strip

end Machinery
