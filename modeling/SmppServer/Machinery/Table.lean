import Mathlib.Data.List.Perm.Basic

/-!
# Machinery/Table — queries on a table of rows

A table is a list of rows.  A `SELECT … WHERE p` answers with exactly the rows that satisfy `p`, in
an order the database chooses, or fails; `Selects` says this of a query function.  The order is never
promised, so a program that uses the first row of an answer may get any row that matches:
`exists_selects_head`.  An `UPDATE … SET f WHERE p` is `updateWhere`.
-/

namespace Machinery

variable {ρ : Type*} {table : List ρ} {select : (ρ → Bool) → Option (List ρ)} {p : ρ → Bool}
  {r : ρ} {rows : List ρ}

/-- A query function answers, where it does not fail, with the matching rows in some order. -/
def Selects (select : (ρ → Bool) → Option (List ρ)) (table : List ρ) : Prop :=
  ∀ p rows, select p = some rows → rows.Perm (table.filter p)

/-- The first row of an answer is a row of the table and matches. -/
theorem Selects.head_mem (h : Selects select table) (hs : select p = some (r :: rows)) :
    r ∈ table ∧ p r = true :=
  List.mem_filter.mp ((h p _ hs).subset List.mem_cons_self)

/-- The database that answers every query in the order of the table. -/
theorem selects_filter (table : List ρ) : Selects (fun p => some (table.filter p)) table := by
  intro p rows h
  rw [← Option.some.inj h]

/-- Any matching row may be the first of an answer. -/
theorem exists_selects_head [DecidableEq ρ] (hr : r ∈ table) (hp : p r = true) :
    ∃ select rows, Selects select table ∧ select p = some (r :: rows) := by
  -- the database that moves `r` to the front of its answers
  refine ⟨fun q => some (if q r then r :: (table.filter q).erase r else table.filter q),
    (table.filter p).erase r, fun q rows h => ?_, by simp [hp]⟩
  rw [← Option.some.inj h]
  split
  · next hq => exact (List.perm_cons_erase (List.mem_filter.mpr ⟨hr, hq⟩)).symm
  · exact List.Perm.refl _

/-- `UPDATE … SET f WHERE p`. -/
def updateWhere (p : ρ → Bool) (f : ρ → ρ) (table : List ρ) : List ρ :=
  table.map fun r => if p r then f r else r

/-- A property of rows that the assignment keeps holds of the updated table. -/
theorem forall_mem_updateWhere {P : ρ → Prop} {f : ρ → ρ} (hf : ∀ r, P r → P (f r))
    (h : ∀ r ∈ table, P r) : ∀ r ∈ updateWhere p f table, P r := by
  intro r hr
  obtain ⟨r₀, hr₀, rfl⟩ := List.mem_map.mp hr
  split
  · exact hf r₀ (h r₀ hr₀)
  · exact h r₀ hr₀

end Machinery
