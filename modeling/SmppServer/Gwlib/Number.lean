import Mathlib.Data.Nat.Digits.Lemmas
import SmppServer.Gwlib.Base

/-!
# Gwlib/Number — numbers as text

The C library's conversions between octet strings and numbers, as far as the processes use them, and
the conversion of a number to a `char`.

* `strtoll_of_writes` — reading a number back, whatever the case of its digits and the zeros before
  them.
* `decimal_injective` — different numbers are printed differently.
-/

namespace SmppServer

/-- `isspace` in the C locale. -/
def isSpace (c : UInt8) : Bool := c == 32 || (9 ≤ c && c ≤ 13)

/-- `gw_isdigit`. -/
def gwIsdigit (c : UInt8) : Bool := 48 ≤ c && c ≤ 57

/-- The value of a digit in a base up to 36. -/
def digitValue (base : ℕ) (c : UInt8) : Option ℕ :=
  let value :=
    if gwIsdigit c then c.toNat - 48
    else if 97 ≤ c ∧ c ≤ 122 then c.toNat - 87
    else if 65 ≤ c ∧ c ≤ 90 then c.toNat - 55
    else base
  if value < base then some value else none

/-- The number that the leading digits stand for; `0` if there is none. -/
def leadingNumber (base : ℕ) (acc : ℕ) : Octstr → ℕ
  | [] => acc
  | c :: s =>
    match digitValue base c with
    | some d => leadingNumber base (acc * base + d) s
    | none => acc

/-- `strtoll` with a 64-bit `long long`: blanks, a sign, a `0x` in base 16, then digits; values out of
range are clamped. -/
def strtoll (base : ℕ) (s : Octstr) : ℤ :=
  let s := s.dropWhile isSpace
  let (negative, s) := match s with
    | 45 :: s => (true, s)
    | 43 :: s => (false, s)
    | s => (false, s)
  let s := match s with
    | 48 :: x :: d :: t =>
      if base = 16 ∧ (x = 120 ∨ x = 88) ∧ (digitValue 16 d).isSome then d :: t else s
    | s => s
  let n : ℤ := leadingNumber base 0 s
  if negative then max (-2 ^ 63) (-n) else min (2 ^ 63 - 1) n

/-- `atoi`: the value as a 32-bit `int`. -/
def atoi (s : Octstr) : ℤ := (strtoll 10 s).bmod (2 ^ 32)

/-- The decimal digits of a number. -/
def decimal (n : ℕ) : Octstr := (Nat.toDigits 10 n).map fun c => c.toNat.toUInt8

/-- `octstr_format("%lu", …)` of a `long long`. -/
def formatLu (v : ℤ) : Octstr := decimal (v % 2 ^ 64).toNat

/-- `octstr_format("%ld", …)`. -/
def formatLd (v : ℤ) : Octstr := if v < 0 then 45 :: decimal v.natAbs else decimal v.natAbs

/-- Conversion to `char`, which is signed. -/
def toChar (v : ℤ) : ℤ := v.bmod 256

/-- Conversion to `int`, and the value of a sum or product of `int`s. -/
def toInt (v : ℤ) : ℤ := v.bmod (2 ^ 32)

@[simp] theorem toChar_natCast {i : ℕ} (h : i < 128) : toChar i = i := by
  rw [toChar, Int.bmod_def]
  omega

section ToInt

variable {v : ℤ}

theorem toInt_eq_self_iff : toInt v = v ↔ -2 ^ 31 ≤ v ∧ v < 2 ^ 31 := by
  rw [toInt, Int.bmod_def]
  omega

theorem toInt_lt (v : ℤ) : toInt v < 2 ^ 31 := by
  rw [toInt, Int.bmod_def]
  omega

theorem toInt_natCast_le (n : ℕ) : toInt n ≤ n := by
  rw [toInt, Int.bmod_def]
  omega

theorem toInt_modEq (v : ℤ) : toInt v ≡ v [ZMOD 2 ^ 32] := by
  rw [Int.ModEq, toInt, Int.bmod_def]
  omega

theorem toInt_eq_toInt_iff {v' : ℤ} : toInt v = toInt v' ↔ v ≡ v' [ZMOD 2 ^ 32] := by
  rw [Int.ModEq, toInt, toInt, Int.bmod_def, Int.bmod_def]
  omega

end ToInt

/-! ## Reading a number

`Writes` relates a text to the number it is in a base; reading is a function on the texts for which it holds. -/

/-- The text is the number in the base: at least one digit, in either case, behind any number of
zeros. -/
def Writes (base n : ℕ) (s : Octstr) : Prop :=
  s ≠ [] ∧ ∃ ds : List ℕ, s.map (digitValue base) = ds.map some ∧ Nat.ofDigits base ds.reverse = n

section Reading

variable {base n d acc : ℕ} {c : UInt8} {s : Octstr}

/-- A digit is no blank, no sign and not the `x` of a prefix; a decimal digit is one. -/
theorem digitValue_eq_some (hbase : base ≤ 16) (h : digitValue base c = some d) :
    isSpace c = false ∧ c ≠ 45 ∧ c ≠ 43 ∧ c ≠ 120 ∧ c ≠ 88 ∧ (base ≤ 10 → gwIsdigit c = true) := by
  simp only [digitValue, gwIsdigit, isSpace, Bool.and_eq_true, decide_eq_true_eq,
    Option.ite_none_right_eq_some, UInt8.le_iff_toNat_le, ← UInt8.toNat_inj, ne_eq,
    Bool.or_eq_false_iff, beq_eq_false_iff_ne, Bool.and_eq_false_iff, decide_eq_false_iff_not,
    UInt8.toNat_ofNat] at h ⊢
  obtain ⟨h, -⟩ := h
  norm_num at h ⊢
  split at h
  · omega
  · split at h
    · omega
    · split at h <;> omega

theorem leadingNumber_of_map :
    ∀ {s : Octstr} {ds : List ℕ} {acc : ℕ}, s.map (digitValue base) = ds.map some →
      leadingNumber base acc s = acc * base ^ ds.length + Nat.ofDigits base ds.reverse
  | [], [], acc, _ => by simp [leadingNumber]
  | c :: s, d :: ds, acc, h => by
    rw [List.map_cons, List.map_cons, List.cons.injEq] at h
    simp only [leadingNumber, h.1]
    rw [leadingNumber_of_map h.2, List.reverse_cons, Nat.ofDigits_append,
      Nat.ofDigits_singleton, List.length_reverse, List.length_cons]
    ring

/-- Without blank, sign or `0x` in front, the leading digits are read. -/
theorem strtoll_cons {t : Octstr} (hspace : isSpace c = false) (hminus : c ≠ 45) (hplus : c ≠ 43)
    (hinit : base = 16 → ∀ x e u, t = x :: e :: u → x ≠ 120 ∧ x ≠ 88) :
    strtoll base (c :: t) = min (2 ^ 63 - 1) (leadingNumber base 0 (c :: t) : ℤ) := by
  have hsign : (match c :: t with
      | 45 :: s => (true, s)
      | 43 :: s => (false, s)
      | s => (false, s)) = (false, c :: t) := by
    split
    · rename_i heq
      exact absurd (List.cons.inj heq).1 hminus
    · rename_i heq
      exact absurd (List.cons.inj heq).1 hplus
    · rfl
  have hbody : (match c :: t with
      | 48 :: x :: d :: u =>
        if base = 16 ∧ (x = 120 ∨ x = 88) ∧ (digitValue 16 d).isSome then d :: u else c :: t
      | s => s) = c :: t := by
    split
    · rename_i x e u heq
      refine if_neg fun h => ?_
      obtain ⟨hx, hX⟩ := hinit h.1 x e u (List.cons.inj heq).2
      exact h.2.1.elim hx hX
    · rfl
  simp only [strtoll, List.dropWhile_cons, hspace, Bool.false_eq_true, if_false, hsign, hbody]

/-- **Reading a number**, clamped to the largest `long long`. -/
theorem strtoll_of_writes (hbase : base ≤ 16) (h : Writes base n s) :
    strtoll base s = min (2 ^ 63 - 1) (n : ℤ) := by
  obtain ⟨hne, ds, hds, rfl⟩ := h
  have hdigit : ∀ c ∈ s, ∃ d, digitValue base c = some d := by
    intro c hc
    have hmem : digitValue base c ∈ ds.map some := hds ▸ List.mem_map_of_mem hc
    obtain ⟨d, -, hd⟩ := List.mem_map.mp hmem
    exact ⟨d, hd.symm⟩
  cases s with
  | nil => exact absurd rfl hne
  | cons c t =>
    obtain ⟨d, hd⟩ := hdigit c List.mem_cons_self
    obtain ⟨hspace, hminus, hplus, -, -, -⟩ := digitValue_eq_some hbase hd
    have hinit : ∀ x e u, t = x :: e :: u → x ≠ 120 ∧ x ≠ 88 := by
      rintro x e u rfl
      obtain ⟨d', hd'⟩ := hdigit x (List.mem_cons_of_mem _ List.mem_cons_self)
      exact ⟨(digitValue_eq_some hbase hd').2.2.2.1, (digitValue_eq_some hbase hd').2.2.2.2.1⟩
    have hnumber : leadingNumber base 0 (c :: t) = 0 * base ^ ds.length + Nat.ofDigits base ds.reverse :=
      leadingNumber_of_map hds
    rw [strtoll_cons hspace hminus hplus fun _ => hinit, hnumber, zero_mul, zero_add]

/-- A number in decimal has only digits. -/
theorem all_gwIsdigit_of_writes (h : Writes 10 n s) : s.all gwIsdigit = true := by
  obtain ⟨-, ds, hds, -⟩ := h
  refine List.all_eq_true.mpr fun c hc => ?_
  have hmem : digitValue 10 c ∈ ds.map some := hds ▸ List.mem_map_of_mem hc
  obtain ⟨d, -, hd⟩ := List.mem_map.mp hmem
  exact (digitValue_eq_some (by norm_num) hd.symm).2.2.2.2.2 le_rfl

end Reading

/-! ## Printing a number

A number is printed in decimal without zeros in front, so a text stands for one number and different numbers
have different texts.  This is what makes numbers good keys of dictionaries and good parts of ids. -/

section Printing

variable {base n m d : ℕ} {c : UInt8} {s : Octstr}

/-- A text stands for one number. -/
theorem Writes.unique (h : Writes base n s) (h' : Writes base m s) : n = m := by
  obtain ⟨-, ds, hds, rfl⟩ := h
  obtain ⟨-, ds', hds', rfl⟩ := h'
  rw [hds] at hds'
  rw [List.map_injective_iff.mpr (Option.some_injective ℕ) hds']

/-- One more digit. -/
theorem Writes.concat (h : Writes base n s) (hd : digitValue base c = some d) :
    Writes base (n * base + d) (s ++ [c]) := by
  obtain ⟨-, ds, hds, rfl⟩ := h
  refine ⟨by simp, ds ++ [d], by simp [hds, hd], ?_⟩
  rw [List.reverse_append, List.reverse_singleton, List.singleton_append, Nat.ofDigits_cons]
  ring

theorem writes_singleton (hd : digitValue base c = some d) : Writes base d [c] :=
  ⟨by simp, [d], by simp [hd], by simp⟩

theorem digitValue_digitChar (h : n < 10) : digitValue 10 (Nat.digitChar n).toNat.toUInt8 = some n := by
  interval_cases n <;> decide

/-- The digits of a number stand for it. -/
theorem writes_decimal (n : ℕ) : Writes 10 n (decimal n) := by
  induction n using Nat.strongRecOn with
  | ind n ih =>
    by_cases h : n < 10
    · rw [decimal, Nat.toDigits_of_lt_base h]
      exact writes_singleton (digitValue_digitChar h)
    · have hlt : n / 10 < n := Nat.div_lt_self (by omega) (by norm_num)
      have hstep := (ih (n / 10) hlt).concat (digitValue_digitChar (Nat.mod_lt n (by norm_num)))
      rw [decimal, Nat.toDigits_of_base_le (by norm_num) (by omega), List.map_append, List.map_singleton]
      rwa [Nat.div_add_mod'] at hstep

/-- **Different numbers are printed differently.** -/
theorem decimal_injective : Function.Injective decimal := by
  intro n m h
  have hm := writes_decimal m
  rw [← h] at hm
  exact (writes_decimal n).unique hm

theorem gwIsdigit_of_mem_decimal (h : c ∈ decimal n) : gwIsdigit c = true :=
  List.all_eq_true.mp (all_gwIsdigit_of_writes (writes_decimal n)) c h

/-- A number that is an `int` is read back. -/
theorem atoi_decimal (h : n < 2 ^ 31) : atoi (decimal n) = n := by
  rw [atoi, strtoll_of_writes (by norm_num) (writes_decimal n), min_eq_right (by omega), Int.bmod_def]
  omega

theorem length_decimal_le_iff {k : ℕ} (hk : 0 < k) : (decimal n).length ≤ k ↔ n < 10 ^ k := by
  rw [decimal, List.length_map, Nat.length_toDigits_le_iff (by norm_num) hk]

@[simp] theorem formatLd_natCast (n : ℕ) : formatLd n = decimal n := by
  rw [formatLd, if_neg (by omega), Int.natAbs_natCast]

end Printing

end SmppServer
