import Mathlib.Data.List.Forall2

/-!
# Machinery/Layout — records of fields one behind the other

The fields of a record either have a fixed width or end at a terminator, which they do not contain.
Written one behind the other they need no more than that to be told apart.

* `readFields_writeFields` — reading gives back what was written, and what stands behind it.
-/

namespace Machinery

/-- A field: of a fixed width, or up to a terminator. -/
inductive Field
  | fixed (width : ℕ)
  | terminated
  deriving DecidableEq, Repr

section Layout

variable {α : Type*} [DecidableEq α] (z : α)

/-- A value that the field can have. -/
def Field.Admits : Field → List α → Prop
  | .fixed width, v => v.length = width
  | .terminated, v => z ∉ v

def Field.write : Field → List α → List α
  | .fixed _, v => v
  | .terminated, v => v ++ [z]

/-- The value of a field, and what stands behind it. -/
def Field.read : Field → List α → Option (List α × List α)
  | .fixed width, s => if width ≤ s.length then some (s.take width, s.drop width) else none
  | .terminated, s => if z ∈ s then some (s.takeWhile (· ≠ z), (s.dropWhile (· ≠ z)).tail) else none

def writeFields (fields : List Field) (values : List (List α)) : List α :=
  (List.zipWith (Field.write z) fields values).flatten

/-- The values of fields one behind the other, and what stands behind them. -/
def readFields : List Field → List α → Option (List (List α) × List α)
  | [], s => some ([], s)
  | field :: fields, s =>
    (field.read z s).bind fun (v, s) => (readFields fields s).map fun (values, s) => (v :: values, s)

variable {z} {v : List α}

theorem Field.read_write {field : Field} (h : field.Admits z v) (s : List α) :
    field.read z (field.write z v ++ s) = some (v, s) := by
  cases field with
  | fixed width =>
    obtain rfl : v.length = width := h
    simp [Field.read, Field.write]
  | terminated =>
    have hv : ∀ a ∈ v, decide (a ≠ z) = true := fun a ha => decide_eq_true fun haz => h (haz ▸ ha)
    have hmem : z ∈ v ++ [z] ++ s := by simp
    rw [Field.read, Field.write, if_pos hmem, List.append_assoc, List.takeWhile_append_of_pos hv,
      List.dropWhile_append_of_pos hv]
    simp

/-- **Reading what was written.** -/
theorem readFields_writeFields {fields : List Field} {values : List (List α)}
    (h : List.Forall₂ (Field.Admits z) fields values) (s : List α) :
    readFields z fields (writeFields z fields values ++ s) = some (values, s) := by
  induction h with
  | nil => rfl
  | cons hv _ ih =>
    rw [writeFields, List.zipWith_cons_cons, List.flatten_cons, List.append_assoc, readFields,
      Field.read_write hv, Option.bind_some]
    rw [writeFields] at ih
    simp only [ih, Option.map_some]

end Layout

end Machinery
