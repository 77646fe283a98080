import Mathlib.Data.List.Count
import Mathlib.Order.Lattice

/-!
# Machinery/RateWindow — counting in windows

A limiter counts what it lets through in a **window**: the window has a time at which it was opened and
a count, and opening a new one starts the count anew.  Nothing closes a window by itself, so it may let
things through long after it was opened; what it let through *at one time* is bounded only as far as the
windows that share that time are.

* `Apart.accept` — windows that share no time: at most `limit` at any time, if a window that lets one
  more through has let another one through at another time.
* `Doubled.accept` — windows opened one after the other: at most twice their capacity at any time.
-/

namespace Machinery

/-- The window of a limiter, and the times of everything that was let through, the latest first. -/
structure RateWindow (τ : Type*) where
  opened : τ
  count : ℕ
  log : List τ

namespace RateWindow

variable {τ : Type*}

/-- A new window. -/
def restart (w : RateWindow τ) (t : τ) : RateWindow τ := { w with opened := t, count := 0 }

/-- One more is let through. -/
def accept (w : RateWindow τ) (x : τ) : RateWindow τ := { w with count := w.count + 1, log := x :: w.log }

/-- What the window has let through. -/
def current (w : RateWindow τ) : List τ := w.log.take w.count

/-- What the windows before it let through. -/
def earlier (w : RateWindow τ) : List τ := w.log.drop w.count

section Basic

variable (w : RateWindow τ) (t x : τ)

@[simp] theorem opened_restart : (w.restart t).opened = t := rfl

@[simp] theorem log_restart : (w.restart t).log = w.log := rfl

@[simp] theorem current_restart : (w.restart t).current = [] := rfl

@[simp] theorem earlier_restart : (w.restart t).earlier = w.log := rfl

@[simp] theorem opened_accept : (w.accept x).opened = w.opened := rfl

@[simp] theorem log_accept : (w.accept x).log = x :: w.log := rfl

@[simp] theorem current_accept : (w.accept x).current = x :: w.current := rfl

@[simp] theorem earlier_accept : (w.accept x).earlier = w.earlier := rfl

theorem length_current_le : w.current.length ≤ w.count := List.length_take_le w.count w.log

variable [DecidableEq τ]

/-- What was let through at a time was so by the window or before it. -/
theorem count_log : w.log.count x = w.current.count x + w.earlier.count x := by
  rw [← List.count_append, current, earlier, List.take_append_drop]

theorem count_current_le : w.current.count x ≤ w.count :=
  (List.count_le_length).trans w.length_current_le

/-- A window that has let something through at another time has let fewer through at this one. -/
theorem count_current_lt {w : RateWindow τ} {x : τ} (h : ∃ y ∈ w.current, y ≠ x) :
    w.current.count x < w.count := by
  obtain ⟨y, hy, hne⟩ := h
  refine lt_of_lt_of_le (lt_of_le_of_ne List.count_le_length fun heq => ?_) w.length_current_le
  exact hne (List.count_eq_length.mp heq y hy).symm

end Basic

section Order

variable [LinearOrder τ] {w : RateWindow τ} {limit capacity : ℕ} {t x : τ}

/-- **Windows that share no time**, and at most `limit` at any. -/
structure Apart (limit : ℕ) (w : RateWindow τ) : Prop where
  current : ∀ y ∈ w.current, w.opened ≤ y
  earlier : ∀ y ∈ w.earlier, y < w.opened
  count_le : ∀ x, w.log.count x ≤ limit

theorem Apart.restart (h : Apart limit w) (ht : ∀ y ∈ w.log, y < t) : Apart limit (w.restart t) where
  current _ hy := absurd hy (by simp)
  earlier y hy := ht y (by simpa using hy)
  count_le := h.count_le

/-- **One more is let through**, below the limit, or by a window that has one of another time. -/
theorem Apart.accept (h : Apart limit w) (hx : w.opened ≤ x) (hcount : w.count ≤ limit)
    (hspread : w.count = limit → ∃ y ∈ w.current, y ≠ x) : Apart limit (w.accept x) where
  current y hy := by
    obtain rfl | hy := List.mem_cons.mp (current_accept w x ▸ hy)
    · exact hx
    · exact h.current y hy
  earlier := h.earlier
  count_le y := by
    have hold := h.count_le y
    by_cases hyx : y = x
    · subst hyx
      have hnone : w.earlier.count y = 0 :=
        List.count_eq_zero.mpr fun hmem => absurd (h.earlier y hmem) (not_lt.mpr hx)
      have hcur : w.current.count y < limit := by
        rcases hcount.lt_or_eq with hlt | heq
        · exact lt_of_le_of_lt (w.count_current_le y) hlt
        · exact heq ▸ count_current_lt (hspread heq)
      rw [log_accept, List.count_cons_self, w.count_log, hnone]
      omega
    · rw [log_accept, List.count_cons_of_ne (Ne.symm hyx)]
      exact hold

/-- **Windows opened one after the other**: the time at which one is opened is shared with one before it
at most. -/
structure Doubled (capacity : ℕ) (w : RateWindow τ) : Prop where
  count_le : w.count ≤ capacity
  current : ∀ y ∈ w.current, w.opened ≤ y
  earlier : ∀ y ∈ w.earlier, y ≤ w.opened
  count_opened : w.earlier.count w.opened ≤ capacity
  count_log_le : ∀ x, w.log.count x ≤ capacity + capacity

theorem Doubled.restart (h : Doubled capacity w) (hearlier : ∀ y ∈ w.earlier, y < t)
    (ht : ∀ y ∈ w.log, y ≤ t) : Doubled capacity (w.restart t) where
  count_le := Nat.zero_le _
  current _ hy := absurd hy (by simp)
  earlier y hy := ht y (by simpa using hy)
  count_opened := by
    have hnone : w.earlier.count t = 0 :=
      List.count_eq_zero.mpr fun hmem => lt_irrefl t (hearlier t hmem)
    rw [earlier_restart, opened_restart, w.count_log, hnone]
    exact (w.count_current_le t).trans h.count_le
  count_log_le := h.count_log_le

/-- **One more is let through** below the capacity of the window. -/
theorem Doubled.accept (h : Doubled capacity w) (hx : w.opened ≤ x) (hcount : w.count < capacity) :
    Doubled capacity (w.accept x) where
  count_le := hcount
  current y hy := by
    obtain rfl | hy := List.mem_cons.mp (current_accept w x ▸ hy)
    · exact hx
    · exact h.current y hy
  earlier := h.earlier
  count_opened := h.count_opened
  count_log_le y := by
    by_cases hyx : y = x
    · subst hyx
      have hearlier : w.earlier.count y ≤ capacity := by
        rcases hx.lt_or_eq with hlt | heq
        · have hnone : w.earlier.count y = 0 :=
            List.count_eq_zero.mpr fun hmem => absurd (h.earlier y hmem) (not_le.mpr hlt)
          omega
        · exact heq ▸ h.count_opened
      have hcur := w.count_current_le y
      rw [log_accept, List.count_cons_self, w.count_log]
      omega
    · rw [log_accept, List.count_cons_of_ne (Ne.symm hyx)]
      exact h.count_log_le y

end Order

end RateWindow

end Machinery
