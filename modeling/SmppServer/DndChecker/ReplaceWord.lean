import Mathlib.Tactic.LinearCombination
import SmppServer.Machinery.Buffer
import SmppServer.Machinery.Occurrences
import SmppServer.DndChecker.Checker

/-!
# DndChecker/ReplaceWord — the two passes of `replaceWord`

`replaceWord` goes over the string twice: the first pass counts the occurrences of the word with an index
that jumps behind each of them, the second moves a pointer over the string and fills a block of the size
that was counted.  The index, the count and the size are `int`s, which are added and multiplied modulo
`2 ^ 32`; the passes and the block agree as long as string and result are shorter than that allows.

* `countPass_eq`, `writePass_eq` — either pass finds the leftmost occurrences that do not overlap.
* `replaceWordRun_iff` — the strings for which the block is filled exactly.
-/

namespace SmppServer.DndChecker

open Machinery SmppDbbox

/-! ## The code

The indices and sizes are `int`s and wrap around, the characters are read and written by index, and both passes
may run outside of what they work on.  Each pass has a bound on its rounds, and `none` stands for a run that
leaves the string or the block, or does not end. -/

/-- A character of a string, up to its terminator. -/
def charAt (s : Octstr) (i : ℤ) : Option UInt8 := if 0 ≤ i then (s ++ [0])[i.toNat]? else none

/-- `strstr`: where the first occurrence of the word begins. -/
def strstr (oldW : Octstr) : Octstr → Option ℕ
  | [] => if oldW = [] then some 0 else none
  | c :: s => if oldW.isPrefixOf (c :: s) then some 0 else (strstr oldW s).map (· + 1)

/-- The first pass: its index, the count, and the places that were counted. -/
structure Counting where
  i : ℤ
  cnt : ℤ
  counted : List ℕ
  deriving DecidableEq, Repr

/-- The first pass, for a number of rounds; `none` if it reads outside of the string or is not over by
then. -/
def countPass (s oldW : Octstr) (oldWlen : ℤ) : ℕ → Counting → Option Counting
  | 0, _ => none
  | rounds + 1, counting =>
    match charAt s counting.i with
    | none => none
    | some c =>
      if c = 0 then some counting
      else if strstr oldW (s.drop counting.i.toNat) = some 0 then
        countPass s oldW oldWlen rounds
          { i := toInt (toInt (counting.i + toInt (oldWlen - 1)) + 1)
            cnt := toInt (counting.cnt + 1)
            counted := counting.counted ++ [counting.i.toNat] }
      else countPass s oldW oldWlen rounds { counting with i := toInt (counting.i + 1) }

/-- `malloc`; an `int` below zero becomes a size that no block has.  `heap` is what a block holds. -/
def malloc (heap : ℕ → UInt8) (size : ℤ) : Option (List UInt8) :=
  if size < 0 then none else some ((List.range size.toNat).map heap)

/-- `strcpy(&result[i], newW)` and `i += newWlen`.  The terminator is written too, and is then
overwritten. -/
def strcpyAt (result : Filling UInt8) (newW : Octstr) : Option (Filling UInt8) :=
  (result.pushAll newW).bind fun result =>
    (assign result.buf result.index 0).map fun buf => ⟨buf, result.index⟩

/-- The second pass: the rest of the string, the block with the index of its next character, and the
places where the word was replaced.  An index inside of the block is an `int`. -/
structure Writing where
  s : Octstr
  result : Filling UInt8
  place : ℕ
  replaced : List ℕ

/-- The second pass, for a number of rounds; `none` if it writes outside of the block or is not over by
then. -/
def writePass (oldW newW : Octstr) : ℕ → Writing → Option Writing
  | 0, _ => none
  | rounds + 1, writing =>
    match writing.s with
    | [] => some writing
    | c :: s =>
      if strstr oldW (c :: s) = some 0 then
        (strcpyAt writing.result newW).bind fun result =>
          writePass oldW newW rounds
            { s := (c :: s).drop oldW.length
              result := result
              place := writing.place + oldW.length
              replaced := writing.replaced ++ [writing.place] }
      else
        (writing.result.push c).bind fun result =>
          writePass oldW newW rounds
            { writing with s := s, result := result, place := writing.place + 1 }

/-- The second pass over the whole string, and the terminator behind what it wrote. -/
def fillBlock (oldW newW s : Octstr) (block : List UInt8) : Option (List ℕ × Filling UInt8) :=
  (writePass oldW newW (s.length + 1) { s := s, result := ⟨block, 0⟩, place := 0, replaced := [] }).bind
    fun writing => (writing.result.push 0).map fun result => (writing.replaced, result)

/-- What a call did: the places of the two passes, the size of the block, the characters written to it
with the terminator, and the string it holds. -/
structure Replaced where
  counted : List ℕ
  replaced : List ℕ
  allocated : ℕ
  written : ℕ
  result : Octstr
  deriving DecidableEq, Repr

/-- The size that the first pass leads to. -/
def resultSize (counting : Counting) (oldWlen newWlen : ℤ) : ℤ :=
  toInt (toInt (counting.i + toInt (counting.cnt * toInt (newWlen - oldWlen))) + 1)

/-- **`replaceWord`**; `none` if the call does not return, or reads or writes where it must not. -/
def replaceWordRun (heap : ℕ → UInt8) (s oldW newW : Octstr) : Option Replaced := do
  let newWlen := toInt newW.length
  let oldWlen := toInt oldW.length
  let counting ← countPass s oldW oldWlen (s.length + 1) { i := 0, cnt := 0, counted := [] }
  let block ← malloc heap (resultSize counting oldWlen newWlen)
  let (replaced, result) ← fillBlock oldW newW s block
  some
    { counted := counting.counted
      replaced := replaced
      allocated := block.length
      written := result.index
      result := cstr result.buf }

/-! ## What it is for

The text with the leftmost occurrences replaced is `Checker.replaceWord`; the two passes agree on the places,
and the block is as long as the text they make. -/

/-- **Both passes replace the leftmost occurrences**, and the block has the size of the result. -/
structure ReplacesLeftmost (s oldW newW : Octstr) (run : Replaced) : Prop where
  same : run.counted = run.replaced
  leftmost : Leftmost oldW s 0 run.replaced
  result : run.result = splice oldW newW s 0 run.replaced
  written : run.written = run.allocated

section Passes

variable {s oldW newW pre : Octstr}

theorem strstr_eq_zero_iff : strstr oldW s = some 0 ↔ oldW <+: s := by
  cases s with
  | nil => simp [strstr]
  | cons c s =>
    rw [strstr]
    split
    · simpa using List.isPrefixOf_iff_prefix.mp ‹_›
    · simpa using mt List.isPrefixOf_iff_prefix.mpr ‹_›

theorem strstr_found (oldW s : Octstr) : strstr oldW (oldW ++ s) = some 0 :=
  strstr_eq_zero_iff.mpr (List.prefix_append oldW s)

/-! ## The text

What the second pass writes, cut at the places of the first, is that text. -/

theorem replaceWord_skip {c : UInt8} (h : ¬ oldW <+: c :: s) :
    replaceWord oldW newW (c :: s) = c :: replaceWord oldW newW s := by
  rw [replaceWord, if_neg (mt List.isPrefixOf_iff_prefix.mp h)]

theorem replaceWord_found (hold : oldW ≠ []) (s : Octstr) :
    replaceWord oldW newW (oldW ++ s) = newW ++ replaceWord oldW newW s := by
  obtain ⟨d, u, rfl⟩ := List.exists_cons_of_ne_nil hold
  have hprefix : (d :: u).isPrefixOf (d :: (u ++ s)) = true :=
    List.isPrefixOf_iff_prefix.mpr (List.prefix_append (d :: u) s)
  have hdrop : (u ++ s).drop ((d :: u).length - 1) = s := by simp
  rw [List.cons_append, replaceWord, if_pos hprefix, hdrop]

/-- The text that is written has the word replaced at the leftmost occurrences. -/
theorem splice_places (hold : oldW ≠ []) (pre s : Octstr) :
    splice oldW newW (pre ++ s) pre.length (places oldW pre.length s) = replaceWord oldW newW s := by
  induction s using scan_induction hold generalizing pre with
  | nil => simp [places, replaceWord, splice]
  | skip c t hskip ih =>
    have ih := ih (pre ++ [c])
    have hplaces := leftmost_places hold (pre ++ [c]) t
    rw [List.append_assoc, List.singleton_append, List.length_append, List.length_singleton]
      at ih hplaces
    rw [places_skip hskip, replaceWord_skip hskip, hplaces.splice_succ (c := c) (by simp), ih]
  | found t ih =>
    have ih := ih (pre ++ oldW)
    rw [List.append_assoc, List.length_append] at ih
    rw [places_found hold, replaceWord_found hold, splice, ih, Nat.sub_self, List.take_zero,
      List.nil_append]

/-! ## The first pass

The pass is followed from left to right: at a character it finds the word or it does not, and the index moves on
by the length of the word or by one.  The index is an `int`, so a string that is longer than an `int` can say is
left behind its end. -/

theorem charAt_append (c : UInt8) : charAt (pre ++ c :: s) pre.length = some c := by
  simp [charAt]

theorem charAt_length (s : Octstr) : charAt s s.length = some 0 := by
  simp [charAt]

/-- The index jumps behind the word. -/
theorem toInt_jump {n m : ℕ} (hm : 0 < m) (h : n + m < 2 ^ 31) :
    toInt (toInt ((n : ℤ) + toInt (toInt m - 1)) + 1) = (n + m : ℕ) := by
  have hword : toInt (m : ℤ) = m := toInt_eq_self_iff.mpr ⟨by omega, by omega⟩
  have hback : toInt ((m : ℤ) - 1) = m - 1 := toInt_eq_self_iff.mpr ⟨by omega, by omega⟩
  have hsum : toInt ((n : ℤ) + (m - 1)) = n + m - 1 := by
    rw [toInt_eq_self_iff.mpr ⟨by omega, by omega⟩]
    omega
  rw [hword, hback, hsum, sub_add_cancel, toInt_eq_self_iff.mpr ⟨by omega, by omega⟩]
  omega

/-- One is added to an `int`. -/
theorem toInt_succ {n : ℕ} (h : n + 1 < 2 ^ 31) : toInt ((n : ℤ) + 1) = (n + 1 : ℕ) := by
  rw [toInt_eq_self_iff.mpr ⟨by omega, by omega⟩]
  omega

/-- A letter at which the word does not begin is passed. -/
theorem countPass_skip {c : UInt8} (hc : c ≠ 0) (hskip : ¬ oldW <+: c :: s)
    (hlen : pre.length + 1 < 2 ^ 31) (oldWlen cnt : ℤ) (rounds : ℕ) (ps : List ℕ) :
    countPass (pre ++ c :: s) oldW oldWlen (rounds + 1) ⟨pre.length, cnt, ps⟩ =
      countPass (pre ++ c :: s) oldW oldWlen rounds ⟨(pre ++ [c]).length, cnt, ps⟩ := by
  rw [countPass, charAt_append]
  simp only [if_neg hc, Int.toNat_natCast, List.drop_left, if_neg (mt strstr_eq_zero_iff.mp hskip)]
  rw [toInt_succ hlen, List.length_append, List.length_singleton]

/-- Where the word stands, it is counted. -/
theorem countPass_found (hold : oldW ≠ []) (hword : 0 ∉ oldW)
    (hlen : pre.length + oldW.length < 2 ^ 31) {ps : List ℕ} (hps : ps.length ≤ pre.length) (rounds : ℕ) :
    countPass (pre ++ (oldW ++ s)) oldW (toInt oldW.length) (rounds + 1) ⟨pre.length, ps.length, ps⟩ =
      countPass (pre ++ (oldW ++ s)) oldW (toInt oldW.length) rounds
        ⟨(pre ++ oldW).length, (ps ++ [pre.length]).length, ps ++ [pre.length]⟩ := by
  have hpos := List.length_pos_iff.mpr hold
  obtain ⟨c, hc, hchar⟩ : ∃ c, c ≠ 0 ∧ charAt (pre ++ (oldW ++ s)) pre.length = some c := by
    obtain ⟨d, u, rfl⟩ := List.exists_cons_of_ne_nil hold
    exact ⟨d, fun hd => hword (hd ▸ List.mem_cons_self), charAt_append d⟩
  rw [countPass, hchar]
  simp only [if_neg hc, Int.toNat_natCast, List.drop_left, strstr_found, if_true]
  rw [toInt_jump hpos hlen, toInt_succ (by omega), List.length_append, List.length_append,
    List.length_singleton]

/-- **The first pass counts the leftmost occurrences** of a string that an `int` can index. -/
theorem countPass_eq (hold : oldW ≠ []) (pre s : Octstr) (hnul : 0 ∉ s)
    (hlen : (pre ++ s).length < 2 ^ 31) {rounds : ℕ} (hrounds : s.length < rounds) {ps : List ℕ}
    (hps : ps.length ≤ pre.length) :
    countPass (pre ++ s) oldW (toInt oldW.length) rounds
        { i := pre.length, cnt := ps.length, counted := ps } =
      some
        { i := (pre ++ s).length, cnt := (ps ++ places oldW pre.length s).length
          counted := ps ++ places oldW pre.length s } := by
  obtain ⟨rounds, rfl⟩ := Nat.exists_eq_succ_of_ne_zero (Nat.ne_zero_of_lt hrounds)
  induction s using scan_induction hold generalizing pre rounds ps with
  | nil =>
    rw [List.append_nil, countPass, charAt_length]
    simp [places]
  | skip c t hskip ih =>
    obtain ⟨hc, ht⟩ : c ≠ 0 ∧ 0 ∉ t := by simpa [eq_comm] using hnul
    have hshift : pre ++ c :: t = pre ++ [c] ++ t := by simp
    have hend : (pre ++ [c]).length = pre.length + 1 := by simp
    simp only [List.length_append, List.length_cons] at hlen hrounds
    obtain ⟨rounds, rfl⟩ := Nat.exists_eq_succ_of_ne_zero (show rounds ≠ 0 by omega)
    rw [countPass_skip hc hskip (by omega), places_skip hskip, hshift]
    have hps₁ : ps.length ≤ (pre ++ [c]).length := by omega
    have ih := ih (pre ++ [c]) ht (by simp; omega) hps₁ rounds (by omega)
    rwa [hend] at ih ⊢
  | found t ih =>
    obtain ⟨hword, ht⟩ : 0 ∉ oldW ∧ 0 ∉ t := by simpa using hnul
    have hpos := List.length_pos_iff.mpr hold
    have hend : (pre ++ oldW).length = pre.length + oldW.length := List.length_append
    simp only [List.length_append] at hlen hrounds
    obtain ⟨rounds, rfl⟩ := Nat.exists_eq_succ_of_ne_zero (show rounds ≠ 0 by omega)
    have hps₁ : (ps ++ [pre.length]).length ≤ (pre ++ oldW).length := by
      rw [List.length_append, List.length_singleton]
      omega
    have ih := ih (pre ++ oldW) ht (by simp; omega) hps₁ rounds (by omega)
    rw [List.append_assoc, List.append_assoc, List.singleton_append, hend] at ih
    rw [countPass_found hold hword (by omega) hps, places_found hold, hend]
    exact ih

/-- A string that an `int` cannot index is read outside, or the pass does not end. -/
theorem countPass_eq_none (hnul : 0 ∉ s) (hlen : 2 ^ 31 ≤ s.length) (oldWlen : ℤ) (rounds : ℕ)
    {counting : Counting} (hi : counting.i < 2 ^ 31) :
    countPass s oldW oldWlen rounds counting = none := by
  induction rounds generalizing counting with
  | zero => rfl
  | succ rounds ih =>
    rw [countPass]
    cases hchar : charAt s counting.i with
    | none => rfl
    | some c =>
      have hc : c ≠ 0 := by
        rintro rfl
        rw [charAt] at hchar
        split at hchar
        · rw [List.getElem?_append_left (by omega)] at hchar
          exact hnul (List.mem_of_getElem? hchar)
        · exact absurd hchar (by simp)
      dsimp only
      rw [if_neg hc]
      split
      · exact ih (toInt_lt _)
      · exact ih (toInt_lt _)

/-! ## The second pass

The same places are found again, by a pointer.  What is written at each of them has room in the block or has
not, which depends on how much was written before. -/

/-- The word and its terminator have room, or they have not. -/
theorem strcpyAt_overwritten {memory as : List UInt8} (h : as.length ≤ memory.length) (newW : Octstr) :
    ∃ memory', memory'.length = memory.length ∧
      strcpyAt (.overwritten memory as) newW =
        if as.length + newW.length < memory.length then some (.overwritten memory' (as ++ newW))
        else none := by
  refine ⟨memory.set (as.length + newW.length) 0, List.length_set, ?_⟩
  rw [strcpyAt, Filling.pushAll_overwritten h]
  by_cases hroom : as.length + newW.length ≤ memory.length
  · have hlen : (as ++ newW).length ≤ memory.length := by rwa [List.length_append]
    rw [if_pos hroom, Option.bind_some, assign, Filling.length_overwritten_buf hlen,
      Filling.overwritten_index, List.length_append]
    split
    · rw [Option.map_some, Filling.overwritten_buf, ← List.length_append,
        List.set_append_right _ _ (Nat.le_refl _), Nat.sub_self, Filling.overwritten,
        List.drop_set, if_neg (Nat.lt_irrefl _), Nat.sub_self]
    · rfl
  · rw [if_neg hroom, Option.bind_none, if_neg (by omega)]

theorem writePass_skip {c : UInt8} (hskip : ¬ oldW <+: c :: s) (rounds : ℕ) (result : Filling UInt8)
    (place : ℕ) (ps : List ℕ) :
    writePass oldW newW (rounds + 1) ⟨c :: s, result, place, ps⟩ =
      (result.push c).bind fun result => writePass oldW newW rounds ⟨s, result, place + 1, ps⟩ := by
  rw [writePass]
  simp only [if_neg (mt strstr_eq_zero_iff.mp hskip)]

theorem writePass_found (hold : oldW ≠ []) (rounds : ℕ) (result : Filling UInt8) (place : ℕ)
    (ps : List ℕ) :
    writePass oldW newW (rounds + 1) ⟨oldW ++ s, result, place, ps⟩ =
      (strcpyAt result newW).bind fun result =>
        writePass oldW newW rounds ⟨s, result, place + oldW.length, ps ++ [place]⟩ := by
  obtain ⟨c, u, hcons⟩ := List.exists_cons_of_ne_nil (List.append_ne_nil_of_left_ne_nil hold s)
  rw [hcons, writePass]
  simp only [← hcons, strstr_found, if_true, List.drop_left]

/-- **The second pass replaces the leftmost occurrences**; with the terminator it writes one character more
than the text it makes, or overruns the block. -/
theorem writePass_eq (hold : oldW ≠ []) (newW s : Octstr) {rounds : ℕ} (hrounds : s.length < rounds)
    {memory as : List UInt8} (has : as.length ≤ memory.length) (place : ℕ) (ps : List ℕ) :
    ∃ memory', memory'.length = memory.length ∧
      ((writePass oldW newW rounds ⟨s, .overwritten memory as, place, ps⟩).bind fun writing =>
          (writing.result.push 0).map fun result => (writing.replaced, result)) =
        if as.length + (replaceWord oldW newW s).length < memory.length then
          some (ps ++ places oldW place s,
            .overwritten memory' (as ++ (replaceWord oldW newW s ++ [0])))
        else none := by
  obtain ⟨rounds, rfl⟩ := Nat.exists_eq_succ_of_ne_zero (Nat.ne_zero_of_lt hrounds)
  induction s using scan_induction hold generalizing rounds memory as place ps with
  | nil =>
    refine ⟨memory, rfl, ?_⟩
    rw [writePass, Option.bind_some, Filling.push_overwritten has, replaceWord, places]
    split <;> simp_all
  | skip c t hskip ih =>
    obtain ⟨rounds, rfl⟩ :=
      Nat.exists_eq_succ_of_ne_zero (Nat.ne_zero_of_lt (Nat.lt_of_succ_lt_succ hrounds))
    rw [writePass_skip hskip, Filling.push_overwritten has, replaceWord_skip hskip, places_skip hskip,
      List.length_cons]
    by_cases hroom : as.length < memory.length
    · have has₁ : (as ++ [c]).length ≤ memory.length := by simpa using hroom
      obtain ⟨memory', hlen, ih⟩ := ih has₁ (place + 1) ps rounds (Nat.lt_of_succ_lt_succ hrounds)
      refine ⟨memory', hlen, ?_⟩
      rw [if_pos hroom, Option.bind_some, ih]
      simp [Nat.add_assoc, Nat.add_comm 1]
    · refine ⟨memory, rfl, ?_⟩
      rw [if_neg hroom, if_neg (by omega)]
      rfl
  | found t ih =>
    have hpos := List.length_pos_iff.mpr hold
    obtain ⟨memory₁, hlen₁, hcopy⟩ := strcpyAt_overwritten has newW
    rw [List.length_append] at hrounds
    obtain ⟨rounds, rfl⟩ := Nat.exists_eq_succ_of_ne_zero (show rounds ≠ 0 by omega)
    rw [writePass_found hold, hcopy, replaceWord_found hold, places_found hold, List.length_append]
    by_cases hroom : as.length + newW.length < memory.length
    · have has₁ : (as ++ newW).length ≤ memory₁.length := by
        rw [List.length_append]
        omega
      obtain ⟨memory', hlen, ih⟩ := ih has₁ (place + oldW.length) (ps ++ [place]) rounds (by omega)
      refine ⟨memory', hlen.trans hlen₁, ?_⟩
      rw [if_pos hroom, Option.bind_some, ih]
      simp [hlen₁, Nat.add_assoc]
    · refine ⟨memory, rfl, ?_⟩
      rw [if_neg hroom, if_neg (by omega)]
      rfl

/-! ## The call

The count fixes the size of the block, modulo `2 ^ 32`; the block is filled exactly if this is the length of the
text and its terminator. -/

/-- There is no terminator in the text that is written. -/
theorem not_mem_replaceWord (hold : oldW ≠ []) (hnew : 0 ∉ newW) (s : Octstr) (hs : 0 ∉ s) :
    0 ∉ replaceWord oldW newW s := by
  induction s using scan_induction hold with
  | nil => simp [replaceWord]
  | skip c t hskip ih =>
    rw [List.mem_cons, not_or] at hs
    rw [replaceWord_skip hskip, List.mem_cons, not_or]
    exact ⟨hs.1, ih hs.2⟩
  | found t ih =>
    rw [List.mem_append, not_or] at hs
    rw [replaceWord_found hold, List.mem_append, not_or]
    exact ⟨hnew, ih hs.2⟩

/-- How long the text is that is written. -/
theorem length_replaceWord (hold : oldW ≠ []) (newW s : Octstr) :
    (replaceWord oldW newW s).length + (places oldW 0 s).length * oldW.length =
      s.length + (places oldW 0 s).length * newW.length := by
  have hplaces := leftmost_places hold [] s
  have hlength := hplaces.length_splice hold (Nat.zero_le _) newW
  rwa [splice_places hold [] s] at hlength

/-- **The size of the block** is that of the text with its terminator, as an `int`. -/
theorem resultSize_eq (hold : oldW ≠ []) (s : Octstr) (ps : List ℕ) :
    resultSize { i := s.length, cnt := (places oldW 0 s).length, counted := ps } (toInt oldW.length)
        (toInt newW.length) =
      toInt (((replaceWord oldW newW s).length + 1 : ℕ) : ℤ) := by
  have hdiff : toInt (toInt newW.length - toInt oldW.length) ≡ newW.length - oldW.length
      [ZMOD 2 ^ 32] := (toInt_modEq _).trans ((toInt_modEq _).sub (toInt_modEq _))
  have hproduct := (toInt_modEq _).trans (hdiff.mul_left (places oldW 0 s).length)
  have hsum := (toInt_modEq _).trans (hproduct.add_left s.length)
  have hlength : ((replaceWord oldW newW s).length : ℤ) + (places oldW 0 s).length * oldW.length =
      s.length + (places oldW 0 s).length * newW.length := by
    exact_mod_cast length_replaceWord hold newW s
  have hvalue : (s.length : ℤ) + (places oldW 0 s).length * (newW.length - oldW.length) + 1 =
      (((replaceWord oldW newW s).length + 1 : ℕ) : ℤ) := by
    push_cast
    linear_combination -hlength
  exact toInt_eq_toInt_iff.mpr (hvalue ▸ hsum.add_right 1)

/-- What a call does with a string that an `int` can index. -/
theorem replaceWordRun_eq (heap : ℕ → UInt8) (hold : oldW ≠ []) (hnew : 0 ∉ newW) (hs : 0 ∉ s)
    (hlen : s.length < 2 ^ 31) :
    replaceWordRun heap s oldW newW =
      if (replaceWord oldW newW s).length + 1 < 2 ^ 31 then
        some
          { counted := places oldW 0 s
            replaced := places oldW 0 s
            allocated := (replaceWord oldW newW s).length + 1
            written := (replaceWord oldW newW s).length + 1
            result := replaceWord oldW newW s }
      else none := by
  have hcount : countPass s oldW (toInt oldW.length) (s.length + 1) { i := 0, cnt := 0, counted := [] } =
      some { i := s.length, cnt := (places oldW 0 s).length, counted := places oldW 0 s } := by
    have hempty : ([] : List ℕ).length ≤ ([] : Octstr).length := Nat.le_refl 0
    simpa using countPass_eq hold [] s hs (by simpa using hlen) (Nat.lt_succ_self _) hempty
  rw [replaceWordRun, Option.bind_eq_bind, hcount, Option.bind_some, resultSize_eq hold]
  have hlt := toInt_lt ((replaceWord oldW newW s).length + 1 : ℕ)
  generalize hsize : toInt ((replaceWord oldW newW s).length + 1 : ℕ) = size at hlt ⊢
  by_cases hneg : size < 0
  · -- the size is too large for an `int`, and became negative
    have hlong : ¬ (replaceWord oldW newW s).length + 1 < 2 ^ 31 := fun h => by
      rw [toInt_eq_self_iff.mpr ⟨by omega, by omega⟩] at hsize
      omega
    rw [malloc, if_pos hneg, if_neg hlong, Option.bind_eq_bind, Option.bind_none]
  rw [malloc, if_neg hneg, Option.bind_eq_bind, Option.bind_some]
  obtain ⟨n, rfl⟩ := Int.eq_ofNat_of_zero_le (not_lt.mp hneg)
  have hempty : ([] : List UInt8).length ≤ ((List.range n).map heap).length := Nat.zero_le _
  obtain ⟨memory, -, hwrite⟩ := writePass_eq hold newW s (Nat.lt_succ_self _) hempty 0 []
  rw [List.length_nil, Nat.zero_add, List.length_map, List.length_range] at hwrite
  rw [Int.toNat_natCast, fillBlock, ← Filling.overwritten_nil, hwrite]
  by_cases hlong : (replaceWord oldW newW s).length + 1 < 2 ^ 31
  · rw [toInt_eq_self_iff.mpr ⟨by omega, by omega⟩, Nat.cast_inj] at hsize
    subst hsize
    rw [if_pos (Nat.lt_succ_self _), if_pos hlong]
    have hcstr (behind : Octstr) : cstr (replaceWord oldW newW s ++ 0 :: behind) =
        replaceWord oldW newW s := by
      rw [cstr_append (not_mem_replaceWord hold hnew s hs)]
      simp [cstr]
    simp [hcstr]
  · rw [if_neg (by omega), if_neg hlong]
    rfl

/-- **Strings are replaced as they should be** exactly if the string and the text that is made of it, with
its terminator, have fewer than `2 ^ 31` characters. -/
theorem replaceWordRun_iff (heap : ℕ → UInt8) (s oldW newW : CText) (hold : oldW.1 ≠ []) :
    (∃ run, replaceWordRun heap s.1 oldW.1 newW.1 = some run ∧
        ReplacesLeftmost s.1 oldW.1 newW.1 run) ↔
      s.1.length < 2 ^ 31 ∧
        ∀ ps, Leftmost oldW.1 s.1 0 ps → (splice oldW.1 newW.1 s.1 0 ps).length + 1 < 2 ^ 31 := by
  have hplaces : Leftmost oldW.1 s.1 0 (places oldW.1 0 s.1) := leftmost_places hold [] s.1
  have hsplice : splice oldW.1 newW.1 s.1 0 (places oldW.1 0 s.1) = replaceWord oldW.1 newW.1 s.1 :=
    splice_places hold [] s.1
  by_cases hlen : s.1.length < 2 ^ 31
  · rw [replaceWordRun_eq heap hold newW.2 s.2 hlen]
    constructor
    · rintro ⟨run, hrun, -⟩
      refine ⟨hlen, fun ps hps => ?_⟩
      rw [hps.unique hplaces, hsplice]
      by_contra hlong
      rw [if_neg hlong] at hrun
      exact absurd hrun (by simp)
    · rintro ⟨-, hfits⟩
      have hfits := hfits _ hplaces
      rw [hsplice] at hfits
      rw [if_pos hfits]
      exact ⟨_, rfl, rfl, hplaces, hsplice.symm, rfl⟩
  · refine ⟨?_, fun h => absurd h.1 hlen⟩
    rintro ⟨run, hrun, -⟩
    rw [replaceWordRun, countPass_eq_none s.2 (not_lt.mp hlen) _ _ (by norm_num)] at hrun
    exact absurd hrun (by simp)

end Passes

example : (replaceWordRun (fun _ => 0) (octstrImm "aaaba") (octstrImm "aa") (octstrImm "xyz")).map
    (fun run => (run.counted, run.result)) = some ([0], octstrImm "xyzaba") := by decide

/-- The word overlaps itself: it is found at the first place, and not at the second. -/
theorem replaceWordRun_iff_overlapping :
    (∃ run, replaceWordRun (fun _ => 0) (octstrImm "aaaba") (octstrImm "aa") (octstrImm "xyz") = some run ∧
        ReplacesLeftmost (octstrImm "aaaba") (octstrImm "aa") (octstrImm "xyz") run) ↔
      (octstrImm "aaaba").length < 2 ^ 31 ∧
        ∀ ps, Leftmost (octstrImm "aa") (octstrImm "aaaba") 0 ps →
          (splice (octstrImm "aa") (octstrImm "xyz") (octstrImm "aaaba") 0 ps).length + 1 < 2 ^ 31 :=
  replaceWordRun_iff (fun _ => 0) ⟨octstrImm "aaaba", by decide⟩ ⟨octstrImm "aa", by decide⟩
    ⟨octstrImm "xyz", by decide⟩ (by decide)

/-- A letter is found at each of its places. -/
theorem length_places_replicate (c : UInt8) (m n : ℕ) :
    (places [c] n (List.replicate m c)).length = m := by
  induction m generalizing n with
  | zero => simp [places]
  | succ m ih =>
    have hfound : List.replicate (m + 1) c = [c] ++ List.replicate m c := rfl
    rw [hfound, places_found (by simp), List.length_cons, ih]

theorem not_mem_replicate {c : UInt8} (hc : c ≠ 0) (m : ℕ) : 0 ∉ List.replicate m c :=
  fun h => hc (List.eq_of_mem_replicate h).symm

/-- A text of `m` letters, each of which is to become `m` others, with `m * m` too large for an `int`. -/
theorem replaceWordRun_replicate (heap : ℕ → UInt8) {m : ℕ} (hm : m < 2 ^ 31) (hsquare : 2 ^ 31 ≤ m * m) :
    replaceWordRun heap (List.replicate m 97) [97] (List.replicate m 98) = none := by
  have hlength := length_replaceWord (show [97] ≠ [] by simp) (List.replicate m 98) (List.replicate m 97)
  rw [length_places_replicate, List.length_replicate, List.length_replicate, List.length_singleton]
    at hlength
  rw [replaceWordRun_eq heap (by simp) (not_mem_replicate (by decide) m)
    (not_mem_replicate (by decide) m) (by rwa [List.length_replicate]), if_neg (by omega)]

/-- **A text of 65536 letters**, each of which is to become as many others, leads to a block of one
character. -/
theorem not_replacesLeftmost : ¬ ∃ run,
    replaceWordRun (fun _ => 0) (List.replicate 65536 97) [97] (List.replicate 65536 98) = some run ∧
      ReplacesLeftmost (List.replicate 65536 97) [97] (List.replicate 65536 98) run := by
  rintro ⟨run, hrun, -⟩
  rw [replaceWordRun_replicate _ (by norm_num) (by norm_num)] at hrun
  exact absurd hrun (by simp)

end SmppServer.DndChecker
