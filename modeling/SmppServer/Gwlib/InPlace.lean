import SmppServer.Gwlib.Charset

/-!
# Gwlib/InPlace — the conversions to the GSM alphabet as loops over one string

`charset_latin1_to_gsm` and `charset_latin1_to_gsm_new` write the codes over the characters they convert.
A code behind an escape takes one octet more: the escape is inserted at the position of the loop, and the
position and the length move on together.  The second begins behind the user data header, whose length is
the first octet, read as an `unsigned short`; an empty string reads as `-1`, which makes 65535.

* `latin1ToGsmFrom_eq` — what lies before the position is converted or left alone, what lies behind it is
  still to be converted.
* `charsetLatin1ToGsmNew_eq` — the header is kept, and the rest is what the plain conversion makes of it.
-/

namespace SmppServer.InPlace

/-! ## Octets of a string

The three operations of `octstr.c` that the loops use. -/

/-- `octstr_get_char`. -/
def octstrGetChar (ostr : Octstr) (pos : ℕ) : ℤ :=
  match ostr[pos]? with
  | some c => c.toNat
  | none => -1

/-- `octstr_set_char`; nothing is done behind the end. -/
def octstrSetChar (ostr : Octstr) (pos : ℕ) (ch : ℤ) : Octstr := ostr.set pos (ch % 256).toNat.toUInt8

/-- `octstr_insert_data`. -/
def octstrInsertData (ostr : Octstr) (pos : ℕ) (data : Octstr) : Octstr :=
  ostr.take pos ++ (data ++ ostr.drop pos)

/-! ## The loops

One loop, started at the first character or behind the header.  It asserts that its entries are in the table; a
failing assertion is `none`. -/

/-- The loop of both conversions.  The table has no entry at 256, which the assertions would admit. -/
def latin1ToGsmFrom (ostr : Octstr) (pos len : ℕ) : Except Fault Octstr :=
  if pos < len then
    let c := octstrGetChar ostr pos
    if c < 0 then .error (.gwAssert "c >= 0")
    else if 256 < c then .error (.gwAssert "c <= 256")
    else
      match latin1ToGsm[c.toNat]? with
      | none => .error .outOfList
      | some new =>
        if new < 0 then
          -- escaped GSM code
          let ostr := octstrInsertData ostr pos [27]
          latin1ToGsmFrom (if -new ≠ c then octstrSetChar ostr (pos + 1) (-new) else ostr) (pos + 2)
            (len + 1)
        else
          latin1ToGsmFrom (if new ≠ c then octstrSetChar ostr pos new else ostr) (pos + 1) len
  else .ok ostr
termination_by len - pos

/-- **`charset_latin1_to_gsm`.** -/
def charsetLatin1ToGsm (ostr : Octstr) : Except Fault Octstr := latin1ToGsmFrom ostr 0 ostr.length

/-- The length of the header as the conversion reads it. -/
def ushUdhLength (ostr : Octstr) : ℕ := (octstrGetChar ostr 0 % 65536).toNat

/-- **`charset_latin1_to_gsm_new`.** -/
def charsetLatin1ToGsmNew (ostr : Octstr) : Except Fault Octstr :=
  latin1ToGsmFrom ostr (ushUdhLength ostr + 1) ostr.length

/-! ## What the loops do

The string is always what was converted, followed by what is still to be, with the position between them.
Inserting an escape and going on by two keeps this, and the length that the loop compares with is the length of
the string as it is by then. -/

section Octets

variable (pre rest : Octstr) (c d : UInt8)

theorem octstrGetChar_append : octstrGetChar (pre ++ c :: rest) pre.length = c.toNat := by
  simp [octstrGetChar]

theorem octstrInsertData_append (data : Octstr) :
    octstrInsertData (pre ++ rest) pre.length data = pre ++ (data ++ rest) := by
  rw [octstrInsertData, List.take_left, List.drop_left]

/-- A code is written over a character. -/
theorem octstrSetChar_append {ch : ℤ} (h0 : 0 ≤ ch) :
    octstrSetChar (pre ++ c :: rest) pre.length ch = pre ++ ch.toNat.toUInt8 :: rest := by
  have hch : (ch % 256).toNat.toUInt8 = ch.toNat.toUInt8 := by
    have hmod : (ch % 256).toNat = ch.toNat % 256 := by omega
    rw [hmod]
    exact UInt8.ofNat_mod_size
  rw [octstrSetChar, hch, List.set_append_right _ _ le_rfl, Nat.sub_self]
  rfl

/-- A code that is the character itself need not be written. -/
theorem setChar_or_same (ch : ℤ) (h0 : 0 ≤ ch) :
    (if ch ≠ (c.toNat : ℤ) then octstrSetChar (pre ++ c :: rest) pre.length ch else pre ++ c :: rest) =
      pre ++ ch.toNat.toUInt8 :: rest := by
  split_ifs with hne
  · exact octstrSetChar_append pre rest c h0
  · obtain rfl : ch = c.toNat := not_not.mp hne
    rw [Int.toNat_natCast]
    exact congrArg (pre ++ · :: rest) (UInt8.ofNat_toNat).symm

end Octets

/-- Behind the end there is nothing to do. -/
theorem latin1ToGsmFrom_of_le {ostr : Octstr} {pos len : ℕ} (h : len ≤ pos) :
    latin1ToGsmFrom ostr pos len = .ok ostr := by
  rw [latin1ToGsmFrom, if_neg (Nat.not_lt.mpr h)]

/-- Every octet has an entry. -/
theorem length_latin1ToGsm : latin1ToGsm.length = 256 := by decide +kernel

/-- **One round**: the character at the position gives way to its codes. -/
theorem latin1ToGsmFrom_cons (pre rest : Octstr) (c : UInt8) :
    latin1ToGsmFrom (pre ++ c :: rest) pre.length (pre ++ c :: rest).length =
      latin1ToGsmFrom ((pre ++ latin1Char c) ++ rest) (pre ++ latin1Char c).length
        ((pre ++ latin1Char c) ++ rest).length := by
  have hlt : c.toNat < 256 := c.toNat_lt
  obtain ⟨new, hnew⟩ : ∃ new, latin1ToGsm[c.toNat]? = some new :=
    ⟨_, List.getElem?_eq_getElem (length_latin1ToGsm ▸ hlt)⟩
  have hchar : latin1Char c =
      if new < 0 then [27, (-new).toNat.toUInt8] else [new.toNat.toUInt8] := by
    rw [latin1Char, List.getD_eq_getElem?_getD, hnew]
    rfl
  rw [latin1ToGsmFrom, if_pos (by simp)]
  simp only [octstrGetChar_append, Int.toNat_natCast, hnew]
  rw [if_neg (by omega), if_neg (by omega)]
  by_cases hneg : new < 0
  · rw [if_pos hneg] at hchar
    have hset := setChar_or_same (pre ++ [27]) rest c (-new) (by omega)
    rw [if_pos hneg, octstrInsertData_append, hchar]
    simp only [List.append_assoc, List.singleton_append, List.length_append, List.length_cons,
      List.length_nil] at hset ⊢
    rw [hset]
    simp [Nat.add_comm, Nat.add_left_comm]
  · rw [if_neg hneg] at hchar
    rw [if_neg hneg, setChar_or_same pre rest c new (by omega), hchar]
    simp

/-- **The invariant of the loops.**  With the position behind `pre`, the loop ends without a failing
assertion, and converts what lies behind. -/
theorem latin1ToGsmFrom_eq (pre rest : Octstr) :
    latin1ToGsmFrom (pre ++ rest) pre.length (pre ++ rest).length =
      .ok (pre ++ SmppServer.charsetLatin1ToGsm rest) := by
  induction rest generalizing pre with
  | nil => exact latin1ToGsmFrom_of_le (by simp)
  | cons c rest ih =>
    rw [latin1ToGsmFrom_cons, ih, charsetLatin1ToGsm_cons, List.append_assoc]

/-- The plain conversion ends, and is the conversion of each character. -/
theorem charsetLatin1ToGsm_eq (s : Octstr) :
    charsetLatin1ToGsm s = .ok (SmppServer.charsetLatin1ToGsm s) :=
  latin1ToGsmFrom_eq [] s

theorem ushUdhLength_cons (u : UInt8) (s : Octstr) : ushUdhLength (u :: s) = u.toNat := by
  have hlt : u.toNat < 256 := u.toNat_lt
  change ((u.toNat : ℤ) % 65536).toNat = u.toNat
  omega

/-- Where the conversion begins behind the end, it changes nothing. -/
theorem charsetLatin1ToGsmNew_of_le {s : Octstr} (h : s.length ≤ ushUdhLength s + 1) :
    charsetLatin1ToGsmNew s = .ok s :=
  latin1ToGsmFrom_of_le h

/-- The conversion behind a header. -/
theorem charsetLatin1ToGsmNew_split {s : Octstr} (h : ushUdhLength s + 1 ≤ s.length) :
    charsetLatin1ToGsmNew s = .ok (s.take (ushUdhLength s + 1) ++
      SmppServer.charsetLatin1ToGsm (s.drop (ushUdhLength s + 1))) := by
  have hloop := latin1ToGsmFrom_eq (s.take (ushUdhLength s + 1)) (s.drop (ushUdhLength s + 1))
  rwa [List.take_append_drop, List.length_take, Nat.min_eq_left h] at hloop

/-- The conversions of this module do what the functions of `Gwlib/Charset` say. -/
theorem charsetLatin1ToGsmNew_ok (s : Octstr) :
    charsetLatin1ToGsmNew s = .ok (SmppServer.charsetLatin1ToGsmNew s) := by
  cases s with
  | nil => exact charsetLatin1ToGsmNew_of_le (by decide)
  | cons u s =>
    rw [SmppServer.charsetLatin1ToGsmNew]
    by_cases hlen : u.toNat ≤ s.length
    · rw [charsetLatin1ToGsmNew_split (by rw [ushUdhLength_cons]; simpa using hlen),
        ushUdhLength_cons]
      rfl
    · rw [charsetLatin1ToGsmNew_of_le (by rw [ushUdhLength_cons, List.length_cons]; omega),
        List.take_of_length_le (by omega), List.drop_of_length_le (by omega)]
      simp [SmppServer.charsetLatin1ToGsm]

/-- **Behind the header the conversions are one.**  For every string neither conversion reaches a failing
assertion; the one that knows of the header keeps it, and makes of the rest what the plain one makes of
it; and a string that is all header, or empty, is not changed. -/
theorem charsetLatin1ToGsmNew_eq (s : Octstr) :
    (∃ out, charsetLatin1ToGsm s = .ok out) ∧
      ∃ out, charsetLatin1ToGsmNew s = .ok out ∧
        (∀ u ∈ s.head?, ∃ rest, charsetLatin1ToGsm (s.drop (u.toNat + 1)) = .ok rest ∧
          out = s.take (u.toNat + 1) ++ rest) ∧
        ((∀ u ∈ s.head?, s.length ≤ u.toNat + 1) → out = s) := by
  refine ⟨⟨_, charsetLatin1ToGsm_eq s⟩, ?_⟩
  by_cases hlen : s.length ≤ ushUdhLength s + 1
  · refine ⟨s, charsetLatin1ToGsmNew_of_le hlen, fun u hu => ?_, fun _ => rfl⟩
    obtain ⟨t, rfl⟩ := List.head?_eq_some_iff.mp hu
    rw [ushUdhLength_cons] at hlen
    refine ⟨_, charsetLatin1ToGsm_eq _, ?_⟩
    rw [List.drop_of_length_le hlen, List.take_of_length_le hlen]
    exact (List.append_nil _).symm
  · refine ⟨_, charsetLatin1ToGsmNew_split (by omega), fun u hu => ?_, fun hshort => ?_⟩
    · obtain ⟨t, rfl⟩ := List.head?_eq_some_iff.mp hu
      rw [ushUdhLength_cons]
      exact ⟨_, charsetLatin1ToGsm_eq _, rfl⟩
    · cases s with
      | nil => exact absurd (Nat.zero_le _) hlen
      | cons u t =>
        rw [ushUdhLength_cons] at hlen
        exact absurd (hshort u rfl) hlen

example : charsetLatin1ToGsmNew [1, 36, 36] = .ok [1, 36, 2] := by
  rw [charsetLatin1ToGsmNew_ok]
  decide

end SmppServer.InPlace
