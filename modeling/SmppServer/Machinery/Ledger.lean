import Mathlib.Data.List.AList

/-!
# Machinery/Ledger — where items are, as a list up to order

A system that hands items from one holder to another conserves them when the list of the places that
hold something stays the same up to order.  The places of a list of holders are the `flatMap` of what
each of them holds; changing one holder changes the places by what that holder gained or lost.

* `flatMap_set_perm` — one holder gained a list of items.
* `count_flatMap_set` — how often an item is held when one holder changes.
* `flatMap_zipIdx_set_split` — the holders are numbered, and one of them changes.
* `entries_perm_of_lookup` — what a finite map holds under a key, and the rest.
-/

namespace Machinery

open scoped List

variable {α β : Type*} {f : α → List β} {l : List α} {i : ℕ} {a a' : α}

/-- Splitting off one holder. -/
theorem flatMap_set_split (h : l[i]? = some a) (a' : α) :
    ∃ rest, l.flatMap f ~ f a ++ rest ∧ (l.set i a').flatMap f ~ f a' ++ rest := by
  induction l generalizing i with
  | nil => simp at h
  | cons b l ih =>
    cases i with
    | zero =>
      obtain rfl : b = a := by simpa using h
      exact ⟨l.flatMap f, by rw [List.flatMap_cons], by rw [List.set_cons_zero, List.flatMap_cons]⟩
    | succ i =>
      obtain ⟨rest, hl, hset⟩ := ih (i := i) (by simpa using h)
      have hmove : ∀ {c : α} {m : List β}, m ~ f c ++ rest → f b ++ m ~ f c ++ (f b ++ rest) := by
        intro c m hm
        calc f b ++ m ~ f b ++ (f c ++ rest) := hm.append_left _
          _ ~ f c ++ (f b ++ rest) := by
            rw [← List.append_assoc, ← List.append_assoc]
            exact List.perm_append_comm.append_right _
      refine ⟨f b ++ rest, ?_, ?_⟩
      · rw [List.flatMap_cons]
        exact hmove hl
      · rw [List.set_cons_succ, List.flatMap_cons]
        exact hmove hset

/-- A holder that gained the items `xs`. -/
theorem flatMap_set_perm {xs : List β} (h : l[i]? = some a) (ha : f a' ~ xs ++ f a) :
    (l.set i a').flatMap f ~ xs ++ l.flatMap f := by
  obtain ⟨rest, hl, hset⟩ := flatMap_set_split (f := f) h a'
  calc (l.set i a').flatMap f ~ f a' ++ rest := hset
    _ ~ xs ++ (f a ++ rest) := by
      rw [← List.append_assoc]
      exact ha.append_right rest
    _ ~ xs ++ l.flatMap f := hl.symm.append_left xs

/-- How often an item is held when one holder changes. -/
theorem count_flatMap_set [BEq β] [LawfulBEq β] (h : l[i]? = some a) (a' : α) (x : β) :
    ((l.set i a').flatMap f).count x + (f a).count x = (l.flatMap f).count x + (f a').count x := by
  obtain ⟨rest, hl, hset⟩ := flatMap_set_split (f := f) h a'
  rw [hl.count_eq, hset.count_eq, List.count_append, List.count_append]
  omega

/-- Replacing one holder of a numbered list. -/
theorem zipIdx_set (l : List α) (i : ℕ) (a' : α) : (l.set i a').zipIdx = l.zipIdx.set i (a', i) := by
  refine List.ext_getElem? fun j => ?_
  by_cases hij : i = j
  · subst hij
    by_cases hi : i < l.length
    · simp [hi]
    · simp [hi]
  · simp [hij]

/-- Splitting off one holder of a numbered list. -/
theorem flatMap_zipIdx_set_split {f : α × ℕ → List β} (h : l[i]? = some a) (a' : α) :
    ∃ rest, l.zipIdx.flatMap f ~ f (a, i) ++ rest ∧
      (l.set i a').zipIdx.flatMap f ~ f (a', i) ++ rest := by
  have hi : l.zipIdx[i]? = some (a, i) := by simp [h]
  rw [zipIdx_set]
  exact flatMap_set_split hi (a', i)

section FiniteMap

variable {κ : Type*} [DecidableEq κ] {β : κ → Type*} {s : AList β} {k : κ} {v : β k}

theorem mem_of_lookup_eq_some (h : s.lookup k = some v) : k ∈ s :=
  AList.lookup_isSome.mp (by rw [h]; rfl)

/-- What a finite map holds is the value under a key and what is left when the key is removed. -/
theorem entries_perm_of_lookup (h : s.lookup k = some v) :
    s.entries ~ ⟨k, v⟩ :: (s.erase k).entries := by
  have hkey : k ∈ s.entries.keys := AList.mem_keys.mp (mem_of_lookup_eq_some h)
  obtain ⟨w, l₁, l₂, -, hl, herase⟩ := List.exists_of_kerase hkey
  have hw : w = v := by
    have hmem : (⟨k, w⟩ : Sigma β) ∈ s.entries := hl ▸ List.mem_append_right _ List.mem_cons_self
    exact Option.some.inj ((AList.mem_lookup_iff.mpr hmem).symm.trans h)
  calc s.entries = l₁ ++ ⟨k, v⟩ :: l₂ := hw ▸ hl
    _ ~ ⟨k, v⟩ :: (l₁ ++ l₂) := List.perm_middle
    _ = ⟨k, v⟩ :: (s.erase k).entries := by rw [← herase]; rfl

/-- What is put into a finite map may take the place of another value. -/
theorem entries_insert_subperm (s : AList β) (k : κ) (v : β k) :
    (s.insert k v).entries <+~ ⟨k, v⟩ :: s.entries := by
  rw [AList.entries_insert]
  exact ((List.kerase_sublist k s.entries).cons_cons _).subperm

end FiniteMap

end Machinery
