import Mathlib.Data.List.Basic

/-!
# Machinery/Buffer — filling a buffer of fixed size

A buffer is a list of the size it was declared with; a write outside of it is undefined, here `none`.
It is filled from its start, with an index that counts the items written.

* `Filling.pushAll_overwritten` — items written one behind the other replace the start of the memory, and
  overrun the buffer exactly when they are more than it has room for.
* `foldlM_pushSome` — a loop that writes what it finds writes the list of its finds.
* `foldlM_eq_none` — a loop with a round that always fails does not complete.
-/

namespace Machinery

variable {α β : Type*}

/-- An assignment to an element. -/
def assign (buf : List α) (i : ℕ) (a : α) : Option (List α) :=
  if i < buf.length then some (buf.set i a) else none

/-- A buffer with the index of the next item. -/
structure Filling (α : Type*) where
  buf : List α
  index : ℕ

/-- `buf[index++] = a`. -/
def Filling.push (f : Filling α) (a : α) : Option (Filling α) :=
  (assign f.buf f.index a).map fun buf => ⟨buf, f.index + 1⟩

/-- Write the outcome of a search, if there is one. -/
def Filling.pushSome (f : Filling α) : Option α → Option (Filling α)
  | none => some f
  | some a => f.push a

/-- Write items one behind the other. -/
def Filling.pushAll (f : Filling α) (as : List α) : Option (Filling α) := as.foldlM Filling.push f

/-- Memory whose start has been overwritten with items. -/
def Filling.overwritten (memory as : List α) : Filling α := ⟨as ++ memory.drop as.length, as.length⟩

@[simp] theorem Filling.overwritten_index (memory as : List α) :
    (Filling.overwritten memory as).index = as.length := rfl

@[simp] theorem Filling.overwritten_buf (memory as : List α) :
    (Filling.overwritten memory as).buf = as ++ memory.drop as.length := rfl

theorem Filling.length_overwritten_buf {memory as : List α} (h : as.length ≤ memory.length) :
    (Filling.overwritten memory as).buf.length = memory.length := by
  rw [overwritten_buf, List.length_append, List.length_drop]
  exact Nat.add_sub_cancel' h

/-- There is room for one more item, or there is not. -/
theorem Filling.push_overwritten {memory as : List α} (h : as.length ≤ memory.length) (a : α) :
    (Filling.overwritten memory as).push a =
      if as.length < memory.length then some (.overwritten memory (as ++ [a])) else none := by
  rw [push, assign, length_overwritten_buf h, overwritten_index]
  split
  · rename_i hroom
    rw [Option.map_some, overwritten_buf, List.set_append_right _ _ (Nat.le_refl _), Nat.sub_self,
      List.drop_eq_getElem_cons hroom, List.set_cons_zero]
    simp [overwritten]
  · rfl

@[simp] theorem Filling.pushAll_nil (f : Filling α) : f.pushAll [] = some f := rfl

theorem Filling.pushAll_cons (f : Filling α) (a : α) (as : List α) :
    f.pushAll (a :: as) = (f.push a).bind (·.pushAll as) := rfl

theorem Filling.pushAll_append (f : Filling α) (as as' : List α) :
    f.pushAll (as ++ as') = (f.pushAll as).bind (·.pushAll as') := by
  rw [pushAll, List.foldlM_append]
  rfl

/-- **Items are written one behind the other** as long as the buffer has room for all of them. -/
theorem Filling.pushAll_overwritten {memory as : List α} (h : as.length ≤ memory.length) (as' : List α) :
    (Filling.overwritten memory as).pushAll as' =
      if as.length + as'.length ≤ memory.length then some (.overwritten memory (as ++ as')) else none := by
  induction as' generalizing as with
  | nil => rw [pushAll_nil, List.length_nil, Nat.add_zero, if_pos h, List.append_nil]
  | cons a as' ih =>
    rw [pushAll_cons, push_overwritten h, List.length_cons]
    by_cases hroom : as.length < memory.length
    · have hroom' : (as ++ [a]).length ≤ memory.length := by
        rw [List.length_append]
        exact hroom
      rw [if_pos hroom, Option.bind_some, ih hroom', List.append_assoc, List.length_append,
        List.length_singleton, List.singleton_append, Nat.add_assoc, Nat.add_comm 1]
    · rw [if_neg hroom, if_neg (by omega), Option.bind_none]

/-- The empty filling is the memory as it is. -/
theorem Filling.overwritten_nil (memory : List α) : Filling.overwritten memory [] = ⟨memory, 0⟩ := rfl

/-- **A loop that writes what it finds** writes the list of its finds. -/
theorem foldlM_pushSome {step : Filling α → β → Option (Filling α)} {find : β → Option α}
    {bs : List β} (hstep : ∀ b ∈ bs, ∀ f, step f b = f.pushSome (find b)) (f : Filling α) :
    bs.foldlM step f = f.pushAll (bs.filterMap find) := by
  induction bs generalizing f with
  | nil => rfl
  | cons b bs ih =>
    have ih := ih fun b' hb' => hstep b' (List.mem_cons_of_mem b hb')
    rw [List.foldlM_cons, hstep b List.mem_cons_self]
    cases hfind : find b with
    | none =>
      rw [List.filterMap_cons_none hfind]
      exact ih f
    | some a =>
      rw [List.filterMap_cons_some hfind, Filling.pushAll_cons]
      exact congrArg (f.push a).bind (funext ih)

/-- A loop with a round that always fails does not complete. -/
theorem foldlM_eq_none {σ : Type*} {step : σ → β → Option σ} {bs : List β} {b : β} (hb : b ∈ bs)
    (hstep : ∀ s, step s b = none) (s : σ) : bs.foldlM step s = none := by
  induction bs generalizing s with
  | nil => exact absurd hb List.not_mem_nil
  | cons b' bs ih =>
    rw [List.foldlM_cons]
    obtain rfl | hb := List.mem_cons.mp hb
    · rw [hstep]
      rfl
    · cases step s b' with
      | none => rfl
      | some s' => exact ih hb s'

end Machinery
