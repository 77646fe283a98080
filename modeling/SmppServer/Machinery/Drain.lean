import Mathlib.Data.List.Perm.Basic

/-!
# Machinery/Drain — emptying a queue that others take from

A loop goes through a queue item by item, for as many rounds as the queue was long when the loop began,
while others take items from its front.  What a round has extracted is in its **hand** until it is dealt with.

* `Drain.Kept` — every item is in one place, and the loop comes to the items in their order.
* `Drain.queue_eq_nil` — when the rounds are over, the queue is empty.
* `Drain.Kept.dealt_eq` — without the others, every item is dealt with, in order.
-/

namespace Machinery

variable {α : Type*}

/-- A queue that a loop empties, what the loop has dealt with, and what others took. -/
structure Drain (α : Type*) where
  queue : List α
  rounds : ℕ := 0
  hand : Option α := none
  dealt : List α := []
  taken : List α := []

namespace Drain

variable {d : Drain α} {items : List α} {a : α}

/-- The loop begins. -/
def start (d : Drain α) : Drain α := { d with rounds := d.queue.length }

/-- A round extracts the first item, if there is one. -/
def extract (d : Drain α) : Drain α :=
  { d with queue := d.queue.tail, hand := d.queue.head?, rounds := d.rounds - 1 }

/-- What is in hand is dealt with. -/
def release (d : Drain α) : Drain α := { d with hand := none, dealt := d.dealt ++ d.hand.toList }

/-- Another takes the first item. -/
def take (d : Drain α) : Drain α := { d with queue := d.queue.tail, taken := d.taken ++ d.queue.head?.toList }

/-- An item is appended. -/
def put (d : Drain α) (a : α) : Drain α := { d with queue := d.queue ++ [a] }

/-- What the loop has come to, or may come to. -/
def ahead (d : Drain α) : List α := d.dealt ++ d.hand.toList ++ d.queue

/-- Every item is in one place; what was not taken is in order. -/
structure Kept (d : Drain α) (items : List α) : Prop where
  perm : (d.taken ++ d.ahead).Perm items
  order : d.ahead.Sublist items

theorem kept_new (queue : List α) : Kept { queue } queue := ⟨.refl _, .refl _⟩

@[simp] theorem ahead_start : d.start.ahead = d.ahead := rfl

@[simp] theorem ahead_release : d.release.ahead = d.ahead := by
  simp [ahead, release]

theorem head?_append_tail (l : List α) : l.head?.toList ++ l.tail = l := by
  cases l <;> rfl

theorem ahead_extract (h : d.hand = none) : d.extract.ahead = d.ahead := by
  rw [ahead, ahead, extract, h, Option.toList_none, List.append_nil, List.append_assoc, head?_append_tail]

theorem ahead_put : (d.put a).ahead = d.ahead ++ [a] := (List.append_assoc _ _ _).symm

theorem Kept.start (h : d.Kept items) : d.start.Kept items := ⟨h.perm, h.order⟩

theorem Kept.release (h : d.Kept items) : d.release.Kept items := by
  refine ⟨?_, ?_⟩
  · rw [ahead_release]
    exact h.perm
  · rw [ahead_release]
    exact h.order

theorem Kept.extract (h : d.Kept items) (hand : d.hand = none) : d.extract.Kept items := by
  refine ⟨?_, ?_⟩
  · rw [ahead_extract hand]
    exact h.perm
  · rw [ahead_extract hand]
    exact h.order

theorem Kept.put (h : d.Kept items) (a : α) : (d.put a).Kept (items ++ [a]) := by
  refine ⟨?_, ?_⟩
  · rw [ahead_put, ← List.append_assoc]
    exact h.perm.append_right [a]
  · rw [ahead_put]
    exact h.order.append_right [a]

/-- What is taken leaves the others in order. -/
theorem Kept.take (h : d.Kept items) : d.take.Kept items := by
  have hqueue : d.ahead = d.dealt ++ d.hand.toList ++ (d.queue.head?.toList ++ d.queue.tail) := by
    rw [head?_append_tail, ahead]
  refine ⟨?_, ?_⟩
  · refine .trans ?_ h.perm
    rw [hqueue]
    simp only [Drain.take, ahead, List.append_assoc]
    refine .append_left _ ?_
    simp only [← List.append_assoc]
    refine .append_right _ ?_
    simp only [List.append_assoc]
    exact List.perm_append_comm.trans (by simp)
  · refine .trans ?_ h.order
    rw [hqueue]
    exact (List.sublist_append_right _ _).append_left _

/-! ## The rounds

As long as nothing is appended, the rounds to come are at least as many as the items in the queue: a round takes
one of each, and another who takes an item leaves the rounds alone. -/

theorem length_extract (h : d.queue.length ≤ d.rounds) : d.extract.queue.length ≤ d.extract.rounds := by
  simp only [extract, List.length_tail]
  omega

theorem length_take (h : d.queue.length ≤ d.rounds) : d.take.queue.length ≤ d.take.rounds := by
  simp only [Drain.take, List.length_tail]
  omega

theorem queue_eq_nil (h : d.queue.length ≤ d.rounds) (hrounds : d.rounds = 0) : d.queue = [] :=
  List.length_eq_zero_iff.mp (by omega)

theorem queue_take_eq_nil (h : d.queue = []) : d.take.queue = [] := by
  rw [Drain.take, h, List.tail_nil]

/-- Nothing is left: every item was dealt with or taken. -/
theorem Kept.perm_of_empty (h : d.Kept items) (hqueue : d.queue = []) (hand : d.hand = none) :
    (d.taken ++ d.dealt).Perm items := by
  have := h.perm
  rwa [ahead, hqueue, hand, Option.toList_none, List.append_nil, List.append_nil] at this

/-- If nobody took anything, every item was dealt with, in order. -/
theorem Kept.dealt_eq (h : d.Kept items) (hqueue : d.queue = []) (hand : d.hand = none) (htaken : d.taken = []) :
    d.dealt = items := by
  have horder := h.order
  rw [ahead, hqueue, hand, Option.toList_none, List.append_nil, List.append_nil] at horder
  have hperm := h.perm_of_empty hqueue hand
  rw [htaken, List.nil_append] at hperm
  exact horder.eq_of_length hperm.length_eq

end Drain

end Machinery
