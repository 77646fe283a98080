import Mathlib.Data.List.Infix
import Mathlib.Order.Monotone.Basic

/-!
# Machinery/Segments — a stream that arrives in segments

A stream is sent in segments, and is read while they arrive.  Every reading takes what is there and has
not been read, as far as it has room; how the stream was cut shows only in how far the readings get.

* `Delivery.got_prefix` — what has been read is the beginning of the stream.
* `Delivery.length_got_atOnce` — how far the readings of a stream get that arrives at once.
-/

namespace Machinery

variable {α : Type*}

/-- A stream in segments, and how many of them have arrived when it is read for the `n`-th time. -/
structure Delivery (α : Type*) where
  segments : List (List α)
  arrived : ℕ → ℕ
  monotone : Monotone arrived

namespace Delivery

variable (d : Delivery α) (room : ℕ)

/-- The whole of it. -/
def stream : List α := d.segments.flatten

/-- What has arrived when it is read for the `n`-th time. -/
def present (n : ℕ) : List α := (d.segments.take (d.arrived n)).flatten

/-- What the first readings have got, each with room for so much. -/
def got : ℕ → List α
  | 0 => []
  | n + 1 => (d.present n).take ((got n).length + room)

/-- A stream that arrives at once. -/
def atOnce (l : List α) : Delivery α := ⟨[l], fun _ => 1, monotone_const⟩

@[simp] theorem stream_atOnce (l : List α) : (atOnce l).stream = l := List.append_nil l

@[simp] theorem present_atOnce (l : List α) (n : ℕ) : (atOnce l).present n = l := List.append_nil l

theorem present_prefix (n : ℕ) : d.present n <+: d.stream := (List.take_prefix _ _).flatten

theorem length_present_mono {m n : ℕ} (h : m ≤ n) : (d.present m).length ≤ (d.present n).length :=
  (List.take_prefix_take_left (d.monotone h)).flatten.length_le

theorem length_got_succ (n : ℕ) :
    (d.got room (n + 1)).length = min ((d.got room n).length + room) (d.present n).length := by
  rw [got, List.length_take]

/-- **What has been read is the beginning of the stream.** -/
theorem got_prefix (n : ℕ) : d.got room n <+: d.stream := by
  cases n with
  | zero => exact List.nil_prefix
  | succ n => exact (List.take_prefix _ _).trans (d.present_prefix n)

theorem length_got_le_succ (n : ℕ) : (d.got room n).length ≤ (d.got room (n + 1)).length := by
  rw [length_got_succ]
  cases n with
  | zero => exact Nat.zero_le _
  | succ n =>
    have hpresent := d.length_present_mono (Nat.le_add_right n 1)
    rw [length_got_succ]
    omega

/-- How far the readings get if everything is there. -/
theorem length_got_atOnce (l : List α) (n : ℕ) : ((atOnce l).got room n).length = min (n * room) l.length := by
  induction n with
  | zero => simp [got]
  | succ n ih =>
    rw [length_got_succ, ih, present_atOnce, Nat.add_mul]
    omega

variable {d room}

/-- A piece of what has been read is a piece of the stream. -/
theorem take_drop_got {i k n : ℕ} (h : i + k ≤ (d.got room n).length) :
    ((d.got room n).drop i).take k = (d.stream.drop i).take k := by
  obtain ⟨rest, hrest⟩ := d.got_prefix room n
  rw [← hrest, List.drop_append_of_le_length (by omega), List.take_append_of_le_length]
  rw [List.length_drop]
  omega

end Delivery

end Machinery
