import Mathlib.Data.List.Nodup

/-!
# Machinery/Arena — an ordered list of live objects, each with its own address

Programs that keep a list of heap objects hand out *pointers* into it: an object is allocated and
appended, later modified through its pointer, and finally unlinked and freed.  An `Arena` is such a
list together with the allocator: the cells in list order, each with the address it was allocated
at, and the next fresh address.  Two fields say that a cell is reached by one address only and that
a fresh address has never been given out; hence a pointer names at most one object
(`Arena.val_unique`), and one that was freed never comes back to life.

Every operation has one lemma describing the membership of its result.
-/

namespace Machinery

/-- Live cells in list order, with the allocator's next address. -/
structure Arena (α : Type*) where
  cells : List (ℕ × α)
  next : ℕ
  nodup : (cells.map Prod.fst).Nodup
  lt_next : ∀ c ∈ cells, c.1 < next

namespace Arena

variable {α : Type*} (A : Arena α) {a b : ℕ} {v w : α} {f : α → α} {p : α → Bool}

/-- The arena with no cell. -/
def empty : Arena α := ⟨[], 0, List.nodup_nil, by simp⟩

/-- The live objects, in list order. -/
def vals : List α := A.cells.map Prod.snd

/-- The object at an address. -/
def get? (a : ℕ) : Option α := (A.cells.find? fun c => c.1 == a).map Prod.snd

/-- The first cell, in list order, whose object satisfies `p`. -/
def find? (p : α → Bool) : Option (ℕ × α) := A.cells.find? fun c => p c.2

/-- Allocate an object and append it. -/
def alloc (v : α) : Arena α where
  cells := A.cells ++ [(A.next, v)]
  next := A.next + 1
  nodup := by
    rw [List.map_append, List.nodup_append]
    refine ⟨A.nodup, by simp, ?_⟩
    intro x hx y hy hxy
    obtain ⟨c, hc, rfl⟩ := List.mem_map.mp hx
    have := A.lt_next c hc
    simp at hy
    omega
  lt_next := by
    intro c hc
    rcases List.mem_append.mp hc with hc | hc
    · exact Nat.lt_succ_of_lt (A.lt_next c hc)
    · rw [List.mem_singleton.mp hc]
      exact Nat.lt_succ_self _

/-- Change the object at an address in place. -/
def modify (a : ℕ) (f : α → α) : Arena α where
  cells := A.cells.map fun c => (c.1, if c.1 = a then f c.2 else c.2)
  next := A.next
  nodup := by
    rw [List.map_map]
    exact A.nodup
  lt_next := by
    intro c hc
    obtain ⟨d, hd, rfl⟩ := List.mem_map.mp hc
    exact A.lt_next d hd

/-- Unlink and free the object at an address. -/
def free (a : ℕ) : Arena α where
  cells := A.cells.filter fun c => c.1 ≠ a
  next := A.next
  nodup := A.nodup.sublist (List.filter_sublist.map _)
  lt_next := fun c hc => A.lt_next c (List.mem_of_mem_filter hc)

variable {A}

/-- A pointer names at most one object. -/
theorem val_unique (h : (a, v) ∈ A.cells) (h' : (a, w) ∈ A.cells) : v = w := by
  have := List.inj_on_of_nodup_map A.nodup h h' rfl
  exact (Prod.mk.inj this).2

theorem get?_eq_some : A.get? a = some v ↔ (a, v) ∈ A.cells := by
  unfold get?
  constructor
  · intro h
    obtain ⟨c, hc, rfl⟩ := Option.map_eq_some_iff.mp h
    have ha : c.1 = a := by simpa using List.find?_some hc
    exact ha ▸ List.mem_of_find?_eq_some hc
  · intro h
    cases hf : A.cells.find? fun c => c.1 == a with
    | none => exact absurd (List.find?_eq_none.mp hf (a, v) h) (by simp)
    | some c =>
      have ha : c.1 = a := by simpa using List.find?_some hf
      have hc : (a, c.2) ∈ A.cells := ha ▸ List.mem_of_find?_eq_some hf
      exact congrArg some (val_unique hc h)

theorem mem_of_find?_eq_some (h : A.find? p = some (a, v)) : (a, v) ∈ A.cells :=
  List.mem_of_find?_eq_some h

theorem pred_of_find?_eq_some (h : A.find? p = some (a, v)) : p v = true := by
  simpa using List.find?_some (p := fun c : ℕ × α => p c.2) h

theorem find?_eq_none (h : A.find? p = none) (hv : (a, v) ∈ A.cells) : p v = false := by
  have := List.find?_eq_none.mp h (a, v) hv
  simpa using this

/-- When at most one live object satisfies `p`, the search finds that one. -/
theorem find?_eq_of_unique (hv : (a, v) ∈ A.cells) (hp : p v = true)
    (huniq : ∀ b w, (b, w) ∈ A.cells → p w = true → b = a) : A.find? p = some (a, v) := by
  cases hf : A.find? p with
  | none => rw [find?_eq_none hf hv] at hp; exact absurd hp (by simp)
  | some c =>
    have hb := huniq c.1 c.2 (mem_of_find?_eq_some hf) (pred_of_find?_eq_some hf)
    have hc : (a, c.2) ∈ A.cells := hb ▸ mem_of_find?_eq_some hf
    rw [← hb, val_unique hv hc]

/-! ## Membership after each operation

A pair of an address and a value is in the arena that an operation leaves exactly if it was there before, or is
what the operation put there. -/

@[simp] theorem not_mem_empty : (a, v) ∉ (empty : Arena α).cells := List.not_mem_nil

theorem mem_alloc : (b, w) ∈ (A.alloc v).cells ↔ (b, w) ∈ A.cells ∨ b = A.next ∧ w = v := by
  simp [alloc]

theorem mem_modify :
    (b, w) ∈ (A.modify a f).cells ↔
      b ≠ a ∧ (b, w) ∈ A.cells ∨ b = a ∧ ∃ v, (a, v) ∈ A.cells ∧ w = f v := by
  simp only [modify, List.mem_map, Prod.exists, Prod.mk.injEq]
  constructor
  · rintro ⟨c, v, hc, rfl, rfl⟩
    by_cases h : c = a
    · exact .inr ⟨h, v, h ▸ hc, if_pos h⟩
    · exact .inl ⟨h, by rwa [if_neg h]⟩
  · rintro (⟨hb, hw⟩ | ⟨rfl, v, hv, rfl⟩)
    · exact ⟨b, w, hw, rfl, if_neg hb⟩
    · exact ⟨b, v, hv, rfl, if_pos rfl⟩

theorem mem_free : (b, w) ∈ (A.free a).cells ↔ (b, w) ∈ A.cells ∧ b ≠ a := by
  simp [free]

/-- Changing a live object keeps the addresses and every other object. -/
theorem modify_cells_eq (h : (a, v) ∈ A.cells) :
    (A.modify a f).cells = A.cells.map fun c => if c.1 = a then (a, f v) else c := by
  refine List.map_congr_left fun c hc => ?_
  by_cases ha : c.1 = a
  · have hv : c.2 = v := val_unique (a := a) (ha ▸ hc) h
    rw [if_pos ha, if_pos ha, hv, ha]
  · rw [if_neg ha, if_neg ha]

end Arena

end Machinery
