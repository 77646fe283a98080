import Mathlib.Data.Prod.Lex
import Mathlib.Order.Interval.Set.Defs

/-!
# Machinery/Calendar — dates of the Gregorian calendar

A date is a year, a month and a day that the month has; dates are ordered by the three in turn.

* `Date.mem_toEndOfNextMonth` — the days from a date to the end of the next month are the rest of its month
  and all of the next.
-/

namespace Machinery

/-- Every fourth year, and of the full centuries every fourth. -/
def IsLeap (year : ℕ) : Prop := year % 400 = 0 ∨ (year % 100 ≠ 0 ∧ year % 4 = 0)

instance (year : ℕ) : Decidable (IsLeap year) :=
  inferInstanceAs (Decidable (year % 400 = 0 ∨ (year % 100 ≠ 0 ∧ year % 4 = 0)))

/-- How many days a month has. -/
def daysIn (year month : ℕ) : ℕ :=
  if month = 2 then if IsLeap year then 29 else 28
  else if month = 4 ∨ month = 6 ∨ month = 9 ∨ month = 11 then 30
  else 31

theorem daysIn_mem (year month : ℕ) : 28 ≤ daysIn year month ∧ daysIn year month ≤ 31 := by
  unfold daysIn
  split_ifs <;> omega

/-- A date of the calendar. -/
@[ext] structure Date where
  year : ℕ
  month : ℕ
  day : ℕ
  month_mem : 1 ≤ month ∧ month ≤ 12
  day_mem : 1 ≤ day ∧ day ≤ daysIn year month

namespace Date

variable {d e : Date}

theorem day_le (d : Date) : d.day ≤ 31 := d.day_mem.2.trans (daysIn_mem d.year d.month).2

/-- What dates are compared by. -/
def key (d : Date) : ℕ ×ₗ ℕ ×ₗ ℕ := toLex (d.year, toLex (d.month, d.day))

theorem key_injective : Function.Injective key := by
  intro d e h
  have hkey : (d.year, d.month, d.day) = (e.year, e.month, e.day) := h
  rw [Prod.mk.injEq, Prod.mk.injEq] at hkey
  exact Date.ext hkey.1 hkey.2.1 hkey.2.2

instance : LinearOrder Date := LinearOrder.lift' key key_injective

theorem le_iff : d ≤ e ↔ d.year < e.year ∨
    d.year = e.year ∧ (d.month < e.month ∨ d.month = e.month ∧ d.day ≤ e.day) :=
  Prod.Lex.toLex_le_toLex.trans
    (or_congr_right (and_congr_right fun _ => Prod.Lex.toLex_le_toLex))

/-! ## The next month

A loop over days counts from the day it starts at to the last of the month, and begins again with the first of
the next. -/

/-- The month behind that of a date. -/
def nextMonth (d : Date) : ℕ := if d.month = 12 then 1 else d.month + 1

/-- The year of that month. -/
def nextMonthYear (d : Date) : ℕ := if d.month = 12 then d.year + 1 else d.year

theorem nextMonth_mem (d : Date) : 1 ≤ d.nextMonth ∧ d.nextMonth ≤ 12 := by
  have hmonth := d.month_mem
  unfold nextMonth
  split <;> omega

/-- The last day of the next month. -/
def endOfNextMonth (d : Date) : Date where
  year := d.nextMonthYear
  month := d.nextMonth
  day := daysIn d.nextMonthYear d.nextMonth
  month_mem := d.nextMonth_mem
  day_mem := ⟨le_trans (by decide) (daysIn_mem _ _).1, le_rfl⟩

/-- The days from a date to the end of the next month. -/
def toEndOfNextMonth (d : Date) : Set Date := Set.Icc d d.endOfNextMonth

/-- **Those days** are the rest of the date's month, and the whole next one. -/
theorem mem_toEndOfNextMonth : e ∈ d.toEndOfNextMonth ↔
    (e.year = d.year ∧ e.month = d.month ∧ d.day ≤ e.day) ∨
      (e.year = d.nextMonthYear ∧ e.month = d.nextMonth) := by
  have hd := d.month_mem
  have he := e.month_mem
  have hday (hy : e.year = d.nextMonthYear) (hm : e.month = d.nextMonth) :
      e.day ≤ daysIn d.nextMonthYear d.nextMonth := hy ▸ hm ▸ e.day_mem.2
  rw [toEndOfNextMonth, Set.mem_Icc, le_iff, le_iff]
  simp only [endOfNextMonth]
  by_cases hlast : d.month = 12
  · simp only [nextMonth, nextMonthYear, if_pos hlast] at hday ⊢
    omega
  · simp only [nextMonth, nextMonthYear, if_neg hlast] at hday ⊢
    omega

end Date

end Machinery
