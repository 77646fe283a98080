import Mathlib.Data.List.Basic
import Mathlib.Order.Bounds.Basic

/-!
# Machinery/Occurrences — the leftmost occurrences of a word that do not overlap

A text is read from the left; where the word stands it is passed over, and the next occurrence is looked
for behind it.  The places found this way are determined by the text: each is the first one from the end
of the one before.

* `leftmost_places`, `Leftmost.unique` — the places a reader finds are these, and there are no others.
* `scan_induction` — texts by what stands at their start: nothing, a letter to pass, or the word.
* `Leftmost.length_splice` — how long the text is with the word replaced.
-/

namespace Machinery

section Occurrences

variable {α : Type*} {w new s pre : List α} {n p : ℕ} {ps qs : List ℕ}

/-! ## The places

`Leftmost` says what the places are without saying how they are found: each occurrence is the first from where
the last one ended. -/

/-- The word stands at that place of the text. -/
def OccursAt (w s : List α) (p : ℕ) : Prop := w <+: s.drop p

/-- **The leftmost occurrences from `n` on that do not overlap.** -/
inductive Leftmost (w s : List α) : ℕ → List ℕ → Prop
  | done {n : ℕ} (h : ∀ p, n ≤ p → ¬ OccursAt w s p) : Leftmost w s n []
  | next {n p : ℕ} {ps : List ℕ} (hp : IsLeast {p | n ≤ p ∧ OccursAt w s p} p)
      (h : Leftmost w s (p + w.length) ps) : Leftmost w s n (p :: ps)

/-- The text from `n` on, with the word replaced at these places. -/
def splice (w new s : List α) : ℕ → List ℕ → List α
  | n, [] => s.drop n
  | n, p :: ps => (s.drop n).take (p - n) ++ (new ++ splice w new s (p + w.length) ps)

theorem OccursAt.add_length_le (h : OccursAt w s p) (hw : w ≠ []) : p + w.length ≤ s.length := by
  have hlen := h.length_le
  have hpos := List.length_pos_iff.mpr hw
  rw [List.length_drop] at hlen
  omega

/-- There is one list of leftmost occurrences. -/
theorem Leftmost.unique (h : Leftmost w s n ps) (h' : Leftmost w s n qs) : ps = qs := by
  induction h generalizing qs with
  | done hnone =>
    cases h' with
    | done => rfl
    | next hp => exact absurd hp.1.2 (hnone _ hp.1.1)
  | next hp _ ih =>
    cases h' with
    | done hnone => exact absurd hp.1.2 (hnone _ hp.1.1)
    | next hq h' =>
      obtain rfl := hp.unique hq
      rw [ih h']

/-- A place where the word does not stand is passed. -/
theorem Leftmost.of_succ (hn : ¬ OccursAt w s n) (h : Leftmost w s (n + 1) ps) : Leftmost w s n ps := by
  have hpassed : ∀ p, n ≤ p → OccursAt w s p → n + 1 ≤ p := by
    intro p hp hoccurs
    refine Nat.lt_of_le_of_ne hp ?_
    rintro rfl
    exact hn hoccurs
  cases h with
  | done hnone => exact .done fun p hp hoccurs => hnone p (hpassed p hp hoccurs) hoccurs
  | next hp h =>
    exact .next ⟨⟨Nat.le_of_succ_le hp.1.1, hp.1.2⟩, fun q hq => hp.2 ⟨hpassed q hq.1 hq.2, hq.2⟩⟩ h

/-- A letter in front of the places is kept. -/
theorem Leftmost.splice_succ {c : α} (h : Leftmost w s (n + 1) ps) (hc : s[n]? = some c) :
    splice w new s n ps = c :: splice w new s (n + 1) ps := by
  obtain ⟨hn, rfl⟩ := List.getElem?_eq_some_iff.mp hc
  cases h with
  | done => exact List.drop_eq_getElem_cons hn
  | next hp =>
    obtain ⟨k, rfl⟩ := Nat.exists_eq_add_of_le hp.1.1
    rw [splice, splice, List.drop_eq_getElem_cons hn, show n + 1 + k - n = k + 1 by omega,
      Nat.add_sub_cancel_left, List.take_succ_cons, List.cons_append]

/-- **The length of the replaced text**: for every place the word's length less and the other's more. -/
theorem Leftmost.length_splice (h : Leftmost w s n ps) (hw : w ≠ []) (hn : n ≤ s.length) (new : List α) :
    (splice w new s n ps).length + n + ps.length * w.length = s.length + ps.length * new.length := by
  induction h with
  | done =>
    rw [splice, List.length_drop, List.length_nil]
    omega
  | next hp _ ih =>
    have hend := hp.1.2.add_length_le hw
    have ih := ih hend
    have hle := hp.1.1
    simp only [splice, List.length_append, List.length_take, List.length_drop, List.length_cons,
      Nat.succ_mul]
    omega

/-! ## Reading from the left

A reader has three cases, and they are those of the induction; that it finds the leftmost places is one step in
each of them. -/

/-- What stands at the start of a text: nothing, a letter at which the word does not begin, or the
word. -/
theorem scan_induction (hw : w ≠ []) {motive : List α → Prop} (nil : motive [])
    (skip : ∀ c t, ¬ w <+: c :: t → motive t → motive (c :: t))
    (found : ∀ t, motive t → motive (w ++ t)) (s : List α) : motive s := by
  induction hn : s.length using Nat.strongRecOn generalizing s with
  | ind n ih =>
    by_cases hprefix : w <+: s
    · obtain ⟨t, rfl⟩ := hprefix
      have hpos := List.length_pos_iff.mpr hw
      rw [List.length_append] at hn
      exact found t (ih t.length (by omega) t rfl)
    · cases s with
      | nil => exact nil
      | cons c t =>
        rw [List.length_cons] at hn
        exact skip c t hprefix (ih t.length (by omega) t rfl)

/-- The places that are found when a text is read from the left; `n` is the place of its start. -/
def places [BEq α] (w : List α) : ℕ → List α → List ℕ
  | _, [] => []
  | n, c :: s =>
    if w.isPrefixOf (c :: s) then n :: places w (n + w.length) (s.drop (w.length - 1))
    else places w (n + 1) s
termination_by _ s => s.length
decreasing_by
  · rw [List.length_drop, List.length_cons]
    omega
  · exact Nat.lt_succ_self _

section Places

variable [BEq α] [LawfulBEq α]

theorem places_skip {c : α} {t : List α} (h : ¬ w <+: c :: t) :
    places w n (c :: t) = places w (n + 1) t := by
  rw [places, if_neg (mt List.isPrefixOf_iff_prefix.mp h)]

theorem places_found (hw : w ≠ []) (t : List α) :
    places w n (w ++ t) = n :: places w (n + w.length) t := by
  obtain ⟨d, u, rfl⟩ := List.exists_cons_of_ne_nil hw
  have hprefix : (d :: u).isPrefixOf (d :: (u ++ t)) = true :=
    List.isPrefixOf_iff_prefix.mpr (List.prefix_append (d :: u) t)
  have hdrop : (u ++ t).drop ((d :: u).length - 1) = t := by simp
  rw [List.cons_append, places, if_pos hprefix, hdrop]

/-- **A reader finds the leftmost occurrences.** -/
theorem leftmost_places (hw : w ≠ []) (pre s : List α) :
    Leftmost w (pre ++ s) pre.length (places w pre.length s) := by
  induction s using scan_induction hw generalizing pre with
  | nil =>
    rw [places]
    refine .done fun p hp hoccurs => ?_
    have hend := hoccurs.add_length_le hw
    have hpos := List.length_pos_iff.mpr hw
    rw [List.append_nil] at hend
    omega
  | skip c t hskip ih =>
    have ih := ih (pre ++ [c])
    rw [List.append_assoc, List.singleton_append, List.length_append, List.length_singleton] at ih
    rw [places_skip hskip]
    refine ih.of_succ ?_
    rwa [OccursAt, List.drop_left]
  | found t ih =>
    have ih := ih (pre ++ w)
    rw [List.append_assoc, List.length_append] at ih
    rw [places_found hw]
    refine .next ⟨⟨Nat.le_refl _, ?_⟩, fun p hp => hp.1⟩ ih
    rw [OccursAt, List.drop_left]
    exact List.prefix_append w t

end Places

end Occurrences

end Machinery
