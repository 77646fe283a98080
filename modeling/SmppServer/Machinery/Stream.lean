import Mathlib.Data.List.Infix
import Mathlib.Data.List.TakeDrop

/-!
# Machinery/Stream — buffers that are read from a position, and frames in a stream

A **window** is a buffer with a position behind which its content lies: something is appended to the buffer,
the position is moved on, and what lies in front of it is deleted at times.

A stream of **frames**: each begins with a head of fixed length that says how long the frame is, so that a
reader that cuts a head, and then as much as it says, cuts the stream into these frames.

* `Window.content_append`, `Window.content_advance`, `Window.content_compact` — a window is its content.
* `Framing.eq_cons_of_head`, `Framing.eq_drop_of_body` — what is cut off the front of a stream of frames.
-/

namespace Machinery

variable {α : Type*}

/-! ## Windows

Deleting what lies in front of the position changes the buffer and the position, and not the content. -/

/-- A buffer with a position in it. -/
@[ext] structure Window (α : Type*) where
  buf : List α
  pos : ℕ
  le : pos ≤ buf.length

namespace Window

variable (w : Window α) (l : List α) (n : ℕ)

/-- A buffer with nothing in it. -/
def empty : Window α := ⟨[], 0, Nat.le_refl 0⟩

/-- What lies behind the position. -/
def content : List α := w.buf.drop w.pos

/-- More is put into the buffer. -/
def append : Window α := ⟨w.buf ++ l, w.pos, w.le.trans (by simp)⟩

/-- The position is moved on, to the end of the buffer at most. -/
def advance : Window α := ⟨w.buf, min (w.pos + n) w.buf.length, min_le_right _ _⟩

/-- What lies in front of the position is deleted. -/
def compact : Window α := ⟨w.content, 0, Nat.zero_le _⟩

@[simp] theorem content_append : (w.append l).content = w.content ++ l :=
  List.drop_append_of_le_length w.le

@[simp] theorem content_advance : (w.advance n).content = w.content.drop n := by
  have hadvance : (w.advance n).content = w.buf.drop (min (w.pos + n) w.buf.length) := rfl
  rw [hadvance, content, List.drop_drop]
  obtain h | h := Nat.le_total (w.pos + n) w.buf.length
  · rw [min_eq_left h]
  · rw [min_eq_right h, List.drop_length, List.drop_eq_nil_of_le h]

@[simp] theorem content_compact : w.compact.content = w.content := rfl

@[simp] theorem content_empty : (empty : Window α).content = [] := rfl

end Window

/-! ## Frames

The head of a frame lies within it, so a stream that begins with enough octets for a head begins with the head
of its first frame. -/

/-- How long a frame is, by its head. -/
structure Framing (α : Type*) where
  head : ℕ
  size : List α → Option ℕ

namespace Framing

variable {f : Framing α} {m w b s : List α} {ms : List (List α)}

/-- A frame: its head says how long it is. -/
structure IsFrame (f : Framing α) (m : List α) : Prop where
  head : f.head < m.length
  size : f.size (m.take f.head) = some m.length

/-- So many octets as a head has, at the front of a stream of frames, are the head of its first frame. -/
theorem eq_cons_of_head (hms : ∀ m ∈ ms, f.IsFrame m) (hpos : 0 < f.head) (hw : w.length = f.head)
    (h : ms.flatten = w ++ s) : ∃ m ms', ms = m :: ms' ∧ m.take f.head = w := by
  cases ms with
  | nil =>
    have hnil : w = [] := (List.append_eq_nil_iff.mp h.symm).1
    exact absurd hw (by simp [hnil, hpos.ne])
  | cons m ms =>
    have hm := hms m List.mem_cons_self
    have htake := congrArg (List.take f.head) h
    rw [List.flatten_cons, List.take_append_of_le_length hm.head.le, List.take_append_of_le_length hw.ge,
      List.take_of_length_le hw.le] at htake
    exact ⟨m, ms, rfl, htake⟩

/-- What stands behind the head, as long as the head says, is the rest of the frame. -/
theorem eq_drop_of_body (hb : b.length = m.length - f.head) (h : (m :: ms).flatten = m.take f.head ++ (b ++ s)) :
    b = m.drop f.head ∧ ms.flatten = s := by
  rw [List.flatten_cons] at h
  nth_rewrite 1 [← List.take_append_drop f.head m] at h
  rw [List.append_assoc] at h
  obtain ⟨hbody, hrest⟩ := List.append_inj (List.append_cancel_left h) (by rw [List.length_drop, hb])
  exact ⟨hbody.symm, hrest⟩

end Framing

end Machinery
