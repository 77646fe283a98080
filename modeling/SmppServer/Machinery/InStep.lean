import Mathlib.Data.List.InsertIdx

/-!
# Machinery/InStep — two lists that change in step

The elements of a list are accompanied by those of another, one by one, and a measure of each agrees with
a measure of its companion.  Changing both lists at the same place keeps them in step.
-/

namespace Machinery

variable {α β γ : Type*} {g : α → γ} {k : β → γ} {l : List α} {m : List β} {i : ℕ}

/-- The lists agree, element by element. -/
def InStep (g : α → γ) (k : β → γ) (l : List α) (m : List β) : Prop := l.map g = m.map k

theorem inStep_nil : InStep g k [] [] := rfl

theorem InStep.concat {a : α} {b : β} (h : InStep g k l m) (hab : g a = k b) :
    InStep g k (l ++ [a]) (m ++ [b]) := by
  rw [InStep, List.map_append, List.map_append, h, List.map_singleton, List.map_singleton, hab]

theorem InStep.eraseIdx (h : InStep g k l m) (i : ℕ) : InStep g k (l.eraseIdx i) (m.eraseIdx i) := by
  rw [InStep, ← List.eraseIdx_map, ← List.eraseIdx_map, h]

/-- One element of each is changed. -/
theorem InStep.modify {u : α → α} {v : β → β} (h : InStep g k l m)
    (hstep : ∀ a, l[i]? = some a → ∀ b, g a = k b → g (u a) = k (v b)) :
    InStep g k (l.modify i u) (m.modify i v) := by
  induction l generalizing m i with
  | nil =>
    obtain rfl := List.map_eq_nil_iff.mp h.symm
    simp [InStep]
  | cons a l ih =>
    cases m with
    | nil => exact absurd h (by simp [InStep])
    | cons b m =>
      obtain ⟨hab, hrest⟩ := List.cons_eq_cons.mp h
      cases i with
      | zero => exact List.cons_eq_cons.mpr ⟨hstep a rfl b hab, hrest⟩
      | succ i => exact List.cons_eq_cons.mpr ⟨hab, ih hrest fun a ha => hstep a ha⟩

/-- Every element of each is changed. -/
theorem InStep.zipWith {u : α → α} {v : α → β → β} (h : InStep g k l m)
    (hstep : ∀ a b, g a = k b → g (u a) = k (v a b)) : InStep g k (l.map u) (List.zipWith v l m) := by
  induction l generalizing m with
  | nil =>
    obtain rfl := List.map_eq_nil_iff.mp h.symm
    exact inStep_nil
  | cons a l ih =>
    cases m with
    | nil => exact absurd h (by simp [InStep])
    | cons b m =>
      obtain ⟨hab, hrest⟩ := List.cons_eq_cons.mp h
      exact List.cons_eq_cons.mpr ⟨hstep a b hab, ih hrest⟩

end Machinery
