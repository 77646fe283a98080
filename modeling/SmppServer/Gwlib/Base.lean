import Mathlib.Data.List.Basic
import Mathlib.Data.List.TakeWhile
import Mathlib.Data.Int.Notation

/-!
# Gwlib/Base — octet strings, and the ways a process stops

The vocabulary every process of the server shares: octet strings, the boolean outcome of an
`octstr_compare(…) == 0` (equality of contents), and the faults that end the process instead of
returning to the caller.
-/

namespace SmppServer

/-- The contents of an `Octstr`; a pointer that may be `NULL` is an `Option Octstr`. -/
abbrev Octstr := List UInt8

/-- Octets that compare equal are equal. -/
instance : LawfulBEq Octstr := inferInstance

/-- `octstr_imm`: the octets of a text. -/
def octstrImm (s : String) : Octstr := s.toList.map fun c => c.toNat.toUInt8

/-- `octstr_get_cstr`. -/
def octstrGetCstr (s : Option Octstr) : Octstr := s.getD (octstrImm "(null)")

/-- What a C string holds of the octets: those before the first `NUL`. -/
def cstr (s : Octstr) : Octstr := s.takeWhile (· ≠ 0)

section Cstr

variable {w s : Octstr}

theorem length_cstr_le (s : Octstr) : (cstr s).length ≤ s.length :=
  (List.takeWhile_sublist _).length_le

theorem cstr_eq_self_iff : cstr w = w ↔ 0 ∉ w := by
  rw [cstr, List.takeWhile_eq_self_iff]
  exact ⟨fun h hmem => by simpa using h 0 hmem, fun h c hc => by simpa using ne_of_mem_of_not_mem hc h⟩

theorem cstr_append (hw : 0 ∉ w) : cstr (w ++ s) = w ++ cstr s :=
  List.takeWhile_append_of_pos fun c hc => by simpa using ne_of_mem_of_not_mem hc hw

/-- A terminator in a text cuts off what follows it. -/
theorem cstr_append_of_mem (hw : 0 ∈ w) : cstr (w ++ s) = cstr w := by
  have hshort : ¬ (cstr w).length = w.length := by
    intro hlen
    have hall := List.takeWhile_eq_self_iff.mp ((List.takeWhile_sublist _).eq_of_length hlen)
    exact absurd (hall 0 hw) (by decide)
  exact List.takeWhile_append.trans (if_neg hshort)

end Cstr

/-- The ways in which a call does not return: a failing `gw_assert` panics the process, a `NULL` or
dangling pointer is read, a position outside a list is fetched, the result of a function that returned
none is used. -/
inductive Fault
  | gwAssert (cond : String)
  | nullDeref
  | dangling
  | outOfList
  | indeterminate
  deriving DecidableEq, Repr

/-- `gwlist_get`: the position is asserted to be inside the list. -/
def gwlistGet {α : Type*} (list : List α) (pos : ℤ) : Except Fault α :=
  if pos < 0 then .error .outOfList
  else match list[pos.toNat]? with
    | some item => .ok item
    | none => .error .outOfList

theorem gwlistGet_eq_ok {α : Type*} {list : List α} {pos : ℤ} {item : α} :
    gwlistGet list pos = .ok item ↔ 0 ≤ pos ∧ list[pos.toNat]? = some item := by
  unfold gwlistGet
  split
  · rename_i h
    simp [Int.not_le.mpr h]
  · rename_i h
    rw [Int.not_lt] at h
    cases hget : list[pos.toNat]? <;> simp [h]

theorem gwlistGet_eq_error {α : Type*} {list : List α} {pos : ℤ} {f : Fault} (h : gwlistGet list pos = .error f) :
    f = .outOfList := by
  unfold gwlistGet at h
  split at h
  · exact (Except.error.inj h).symm
  · split at h
    · exact absurd h (by simp)
    · exact (Except.error.inj h).symm

end SmppServer
