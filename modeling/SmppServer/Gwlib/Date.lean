import SmppServer.Machinery.Calendar
import SmppServer.Gwlib.Number

/-!
# Gwlib/Date — dates as text

`to_seconds` of `gwlib/date.c`, and the `strptime` and `strftime` of the C library for the formats they
are used with.
The conversion of a broken-down time to seconds, `gw_mktime`, depends on the server's time zone and is
a parameter.  It reads `tm_isdst` as well, which `to_seconds` does not set: there it finds whatever the
stack held before the call.

* `strptime_eq_map` — what was there before passes through `strptime` unchanged.
-/

namespace SmppServer

/-- A `struct tm`, as far as `strptime` sets it, and `tm_isdst`. -/
structure Tm where
  tmSec : ℕ
  tmMin : ℕ
  tmHour : ℕ
  tmMday : ℕ
  /-- months since January -/
  tmMon : ℕ
  /-- years since 1900 -/
  tmYear : ℤ
  /-- whether daylight saving time is in effect; negative if that is not known -/
  tmIsdst : ℤ
  deriving DecidableEq, Repr

/-- A number goes on while there are digits, at most `left`, and ten times the value is within the
range. -/
def moreDigits (hi : ℕ) : (left val : ℕ) → Octstr → ℕ × Octstr
  | left + 1, val, c :: s =>
    if val * 10 ≤ hi ∧ gwIsdigit c then moreDigits hi left (val * 10 + (c.toNat - 48)) s
    else (val, c :: s)
  | _, val, s => (val, s)

/-- The numeric conversions of `strptime`: blanks, at least one digit, at most `width` digits, a value in
range. -/
def getNumber (lo hi width : ℕ) (s : Octstr) : Option (ℕ × Octstr) :=
  match s.dropWhile (· = 32) with
  | [] => none
  | c :: s =>
    if gwIsdigit c then
      let (val, s) := moreDigits hi (width - 1) (c.toNat - 48) s
      if lo ≤ val ∧ val ≤ hi then some (val, s) else none
    else none

/-- A character of the format that stands for itself. -/
def matchChar (c : UInt8) : Octstr → Option Octstr
  | [] => none
  | d :: s => if d = c then some s else none

/-- `strptime` with the format `%d/%m/%Y %H:%M:%S`, over a structure whose `tm_isdst` it leaves as it is;
what follows the date is not looked at. -/
def strptime (tmIsdst : ℤ) (date : Octstr) : Option Tm := do
  let (mday, s) ← getNumber 1 31 2 date
  let s ← matchChar 47 s
  let (mon, s) ← getNumber 1 12 2 s
  let s ← matchChar 47 s
  let (year, s) ← getNumber 0 9999 4 s
  let (hour, s) ← getNumber 0 23 2 (s.dropWhile isSpace)
  let s ← matchChar 58 s
  let (min, s) ← getNumber 0 59 2 s
  let s ← matchChar 58 s
  let (sec, _) ← getNumber 0 61 2 s
  some { tmSec := sec, tmMin := min, tmHour := hour, tmMday := mday, tmMon := mon - 1,
         tmYear := year - 1900, tmIsdst := tmIsdst }

/-- `to_seconds`: `0` for a text that is not a date.  The structure is not initialised: `tmIsdst` is what it
holds before the call. -/
def toSeconds (gwMktime : Tm → ℤ) (tmIsdst : ℤ) (date : Octstr) : ℤ :=
  match strptime tmIsdst date with
  | none => 0
  | some storage => gwMktime storage

/-- **`strptime` passes `tm_isdst` through**, and nothing else depends on it. -/
theorem strptime_eq_map (tmIsdst : ℤ) (date : Octstr) :
    strptime tmIsdst date = (strptime (-1) date).map fun tm => { tm with tmIsdst := tmIsdst } := by
  simp [strptime, Option.map_bind]

example : strptime (-1) (octstrImm "1/02/2009 10:00:05") = some ⟨5, 0, 10, 1, 1, 109, -1⟩ := by decide

example : strptime (-1) (octstrImm "2009-02-01 10:00:05") = none := by decide

/-! ## Writing a date

The dates in the names of tables, files and statements are written by `strftime`; two digits for a month or a
day are read back as the same number. -/

open Machinery

/-- A date of the clock; `struct tm` counts the years in an `int`. -/
@[ext] structure RunDate extends Date where
  year_lt : year < 2 ^ 31
  deriving DecidableEq

/-- A number below 100 with two digits. -/
def twoDigits (n : ℕ) : Octstr := [(48 + n / 10).toUInt8, (48 + n % 10).toUInt8]

/-- `strftime`, for the conversions `%m`, `%d` and `%Y`. -/
def strftime (now : RunDate) : Octstr → Octstr
  | 37 :: 109 :: format => twoDigits now.month ++ strftime now format
  | 37 :: 100 :: format => twoDigits now.day ++ strftime now format
  | 37 :: 89 :: format => decimal now.year ++ strftime now format
  | c :: format => c :: strftime now format
  | [] => []

theorem atoi_twoDigits : ∀ n < 32, atoi (twoDigits n) = n := by decide

theorem twoDigits_inj {n m : ℕ} (hn : n < 32) (hm : m < 32) : twoDigits n = twoDigits m ↔ n = m := by
  refine ⟨fun h => ?_, congrArg twoDigits⟩
  have hvalue := congrArg atoi h
  rwa [atoi_twoDigits n hn, atoi_twoDigits m hm, Nat.cast_inj] at hvalue

end SmppServer
