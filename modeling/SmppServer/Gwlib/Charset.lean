import SmppServer.Gwlib.Base
import Mathlib.Data.List.Induction
import Mathlib.Logic.Function.Iterate

/-!
# Gwlib/Charset — Latin-1 and the GSM default alphabet

Two tables, one for each direction, and an extension table for the characters that the GSM alphabet
writes with an escape before them.  A character that one of the tables for GSM gives is *representable*;
the table for Latin-1 also has approximations, and a `?` for the rest.

* `charsetGsmToLatin1_charsetLatin1ToGsm` — what is encoded is decoded to the same text, if all its
  characters are representable.
* `charsetGsmToLatin1_eq_self_iff` — a text that was **not** encoded is decoded to itself exactly if it
  has none of twelve characters.
* `charsetLatin1ToGsm_eq_self_iff` — a text is encoded as itself exactly if each of its characters is; the
  characters of a text that was encoded four times are.
-/

namespace SmppServer

/-! ## The tables

As they stand in `charset.c`.  A negative entry of the table for GSM is a code behind an escape. -/

/-- `gsm_to_latin1`. -/
def gsmToLatin1 : List UInt8 :=
  [64, 0xa3, 36, 0xa5, 0xe8, 0xe9, 0xf9, 0xec,
    0xf2, 0xc7, 10, 0xd8, 0xf8, 13, 0xc5, 0xe5,
    63, 95, 63, 63, 63, 63, 63, 63,
    63, 63, 63, 32, 0xc6, 0xe6, 0xdf, 0xc9,
    32, 33, 34, 35, 0xa4, 37, 38, 39,
    40, 41, 42, 43, 44, 45, 46, 47,
    48, 49, 50, 51, 52, 53, 54, 55,
    56, 57, 58, 59, 60, 61, 62, 63,
    0xa1, 65, 66, 67, 68, 69, 70, 71,
    72, 73, 74, 75, 76, 77, 78, 79,
    80, 81, 82, 83, 84, 85, 86, 87,
    88, 89, 90, 0xc4, 0xd6, 0xd1, 0xdc, 0xa7,
    0xbf, 97, 98, 99, 100, 101, 102, 103,
    104, 105, 106, 107, 108, 109, 110, 111,
    112, 113, 114, 115, 116, 117, 118, 119,
    120, 121, 122, 0xe4, 0xf6, 0xf1, 0xfc, 0xe0]

/-- `gsm_escapes`: the character behind an escape, and what it stands for. -/
def gsmEscapes : List (UInt8 × UInt8) :=
  [(10, 12), (20, 94), (40, 123), (41, 125), (47, 92), (60, 91), (61, 126), (62, 93), (64, 124),
    (101, 128)]

/-- `latin1_to_gsm`: a negative code stands behind an escape. -/
def latin1ToGsm : List ℤ :=
  [63, 63, 63, 63, 63, 63, 63, 63,
    63, 32, 10, 63, -10, 13, 63, 63,
    16, 63, 18, 19, 20, 21, 22, 23,
    24, 25, 26, 63, 63, 63, 63, 63,
    32, 33, 34, 35, 2, 37, 38, 39,
    40, 41, 42, 43, 44, 45, 46, 47,
    48, 49, 50, 51, 52, 53, 54, 55,
    56, 57, 58, 59, 60, 61, 62, 63,
    0, 65, 66, 67, 68, 69, 70, 71,
    72, 73, 74, 75, 76, 77, 78, 79,
    80, 81, 82, 83, 84, 85, 86, 87,
    88, 89, 90, -60, -47, -62, -20, 17,
    63, 97, 98, 99, 100, 101, 102, 103,
    104, 105, 106, 107, 108, 109, 110, 111,
    112, 113, 114, 115, 116, 117, 118, 119,
    120, 121, 122, -40, -64, -41, -61, 63,
    -101, 63, 63, 63, 63, 63, 63, 63,
    63, 63, 63, 63, 63, 63, 63, 63,
    63, 63, 63, 63, 63, 63, 63, 63,
    63, 63, 63, 63, 63, 63, 63, 63,
    32, 64, 99, 1, 36, 3, 64, 95,
    34, 67, 97, 60, 33, 45, 82, 45,
    111, 63, 50, 51, 39, 117, 63, 46,
    44, 105, 111, 62, 63, 63, 63, 96,
    65, 65, 65, 65, 91, 14, 28, 9,
    69, 31, 69, 69, 73, 73, 73, 73,
    63, 93, 79, 79, 79, 79, 92, 120,
    11, 85, 85, 85, 94, 89, 63, 30,
    127, 97, 97, 97, 123, 15, 29, 99,
    4, 5, 101, 101, 7, 105, 105, 105,
    63, 125, 8, 111, 111, 111, 124, 63,
    12, 6, 117, 117, 126, 121, 63, 121]

/-! ## The conversions

Conversions of whole texts, character by character.  That the functions of `charset.c`, which work on one string
in place, compute them is in `Gwlib/InPlace`. -/

/-- A character that stands for itself in the GSM alphabet; beyond the table nothing is changed. -/
def gsmChar (c : UInt8) : UInt8 := gsmToLatin1.getD c.toNat c

/-- A character behind an escape. -/
def gsmEscaped (c : UInt8) : UInt8 := (gsmEscapes.lookup c).getD (gsmChar c)

/-- **`charset_gsm_to_latin1`.**  An escape at the end is a character of the table. -/
def charsetGsmToLatin1 : Octstr → Octstr
  | [] => []
  | [c] => [gsmChar c]
  | c :: d :: s =>
    if c = 27 then gsmEscaped d :: charsetGsmToLatin1 s else gsmChar c :: charsetGsmToLatin1 (d :: s)

/-- The codes for one character. -/
def latin1Char (c : UInt8) : Octstr :=
  let code := latin1ToGsm.getD c.toNat 63
  if code < 0 then [27, (-code).toNat.toUInt8] else [code.toNat.toUInt8]

/-- **`charset_latin1_to_gsm`.** -/
def charsetLatin1ToGsm (s : Octstr) : Octstr := s.flatMap latin1Char

/-- `charset_latin1_to_gsm_new`: the header, which the first octet counts, is left as it is. -/
def charsetLatin1ToGsmNew : Octstr → Octstr
  | [] => []
  | udhLength :: s =>
    udhLength :: (s.take udhLength.toNat ++ charsetLatin1ToGsm (s.drop udhLength.toNat))

/-! ## Texts that can be represented

The two tables are inverse to each other on the characters that have a code of their own.  Twelve of these have
an octet that is the code of another character: only they tell whether a text was encoded. -/

/-- A character with a code in the default alphabet or in the extension table. -/
def Representable (c : UInt8) : Prop := c ∈ gsmToLatin1 ∨ c ∈ gsmEscapes.map Prod.snd

instance (c : UInt8) : Decidable (Representable c) := inferInstanceAs (Decidable (_ ∨ _))

/-- The characters whose own octet is the code of another: form feed, `$ @ [ \ ] ^ _ { | } ~`. -/
def displaced : List UInt8 := [12, 36, 64, 91, 92, 93, 94, 95, 123, 124, 125, 126]

/-- **The tables agree** on a representable character: its code is decoded to it. -/
theorem latin1Char_cases {c : UInt8} (h : Representable c) :
    (∃ g, latin1Char c = [g] ∧ g ≠ 27 ∧ gsmChar g = c) ∨
      ∃ g, latin1Char c = [27, g] ∧ gsmEscaped g = c := by
  have htable : ∀ c ∈ gsmToLatin1 ++ gsmEscapes.map Prod.snd,
      (latin1Char c).length = 1 ∧ (latin1Char c).getD 0 0 ≠ 27 ∧ gsmChar ((latin1Char c).getD 0 0) = c ∨
        (latin1Char c).length = 2 ∧ (latin1Char c).getD 0 0 = 27 ∧
          gsmEscaped ((latin1Char c).getD 1 0) = c := by
    decide +kernel
  obtain ⟨hlen, hne, hg⟩ | ⟨hlen, hesc, hg⟩ := htable c (List.mem_append.mpr h)
  · obtain ⟨g, hone⟩ := List.length_eq_one_iff.mp hlen
    rw [hone] at hne hg ⊢
    exact .inl ⟨g, rfl, hne, hg⟩
  · obtain ⟨e, g, htwo⟩ := List.length_eq_two.mp hlen
    rw [htwo] at hesc hg ⊢
    obtain rfl : e = 27 := hesc
    exact .inr ⟨g, rfl, hg⟩

theorem charsetGsmToLatin1_cons {c : UInt8} (h : c ≠ 27) (s : Octstr) :
    charsetGsmToLatin1 (c :: s) = gsmChar c :: charsetGsmToLatin1 s := by
  cases s with
  | nil => rfl
  | cons d s => rw [charsetGsmToLatin1, if_neg h]

theorem charsetGsmToLatin1_escape (c : UInt8) (s : Octstr) :
    charsetGsmToLatin1 (27 :: c :: s) = gsmEscaped c :: charsetGsmToLatin1 s := by
  rw [charsetGsmToLatin1, if_pos rfl]

/-- **Decoding what was encoded** gives the text back. -/
theorem charsetGsmToLatin1_charsetLatin1ToGsm :
    ∀ {s : Octstr}, (∀ c ∈ s, Representable c) → charsetGsmToLatin1 (charsetLatin1ToGsm s) = s
  | [], _ => rfl
  | c :: s, h => by
    have hrest := charsetGsmToLatin1_charsetLatin1ToGsm fun d hd => h d (List.mem_cons_of_mem c hd)
    have hcons : charsetLatin1ToGsm (c :: s) = latin1Char c ++ charsetLatin1ToGsm s := List.flatMap_cons
    obtain ⟨g, hcode, hne, hg⟩ | ⟨g, hcode, hg⟩ := latin1Char_cases (h c List.mem_cons_self)
    · rw [hcons, hcode, List.singleton_append, charsetGsmToLatin1_cons hne, hg, hrest]
    · rw [hcons, hcode, List.cons_append, List.singleton_append, charsetGsmToLatin1_escape, hg, hrest]

/-- What the twelve characters are: their own octet is decoded to something else. -/
theorem gsmChar_eq_self_iff {c : UInt8} (h : Representable c) : gsmChar c = c ↔ c ∉ displaced := by
  have htable : ∀ c ∈ gsmToLatin1 ++ gsmEscapes.map Prod.snd, (gsmChar c = c ↔ c ∉ displaced) := by
    decide +kernel
  exact htable c (List.mem_append.mpr h)

/-- The escape has no code. -/
theorem ne_escape_of_representable {c : UInt8} (h : Representable c) : c ≠ 27 := by
  rintro rfl
  exact absurd h (by decide +kernel)

/-- **Decoding what was not encoded** gives the text back exactly if it has none of the twelve
characters. -/
theorem charsetGsmToLatin1_eq_self_iff :
    ∀ {s : Octstr}, (∀ c ∈ s, Representable c) → (charsetGsmToLatin1 s = s ↔ ∀ c ∈ s, c ∉ displaced)
  | [], _ => ⟨fun _ c hc => absurd hc List.not_mem_nil, fun _ => rfl⟩
  | c :: s, h => by
    have hc := h c List.mem_cons_self
    have hrest := charsetGsmToLatin1_eq_self_iff fun d hd => h d (List.mem_cons_of_mem c hd)
    rw [charsetGsmToLatin1_cons (ne_escape_of_representable hc), List.cons.injEq, hrest,
      gsmChar_eq_self_iff hc, List.forall_mem_cons]

theorem forall_octet {P : UInt8 → Prop} (h : ∀ k : Fin 256, P (UInt8.ofNat k)) (c : UInt8) : P c := by
  have hc := h ⟨c.toNat, c.toNat_lt⟩
  rwa [UInt8.ofNat_toNat] at hc

/-- Decoding gives no `NUL`. -/
theorem zero_notMem_charsetGsmToLatin1 (s : Octstr) : 0 ∉ charsetGsmToLatin1 s := by
  have hchar : ∀ c : UInt8, gsmChar c ≠ 0 := forall_octet (by decide +kernel)
  have hescaped : ∀ c : UInt8, gsmEscaped c ≠ 0 := forall_octet (by decide +kernel)
  fun_induction charsetGsmToLatin1 s with
  | case1 => exact List.not_mem_nil
  | case2 c => simpa using (hchar c).symm
  | case3 d s ih => simpa using ⟨(hescaped d).symm, ih⟩
  | case4 c d s hne ih => simpa using ⟨(hchar c).symm, ih⟩

/-! ## Encoding again

A message is encoded every time it is written to an SMSC with an alternative character set.  A code may be a
character with a code of its own, so encoding goes on changing it, though not after the fourth time. -/

/-- A character that is its own code. -/
def Settled (c : UInt8) : Prop := latin1Char c = [c]

instance (c : UInt8) : Decidable (Settled c) := inferInstanceAs (Decidable (_ = _))

theorem mem_charsetLatin1ToGsm {s : Octstr} {d : UInt8} :
    d ∈ charsetLatin1ToGsm s ↔ ∃ c ∈ s, d ∈ latin1Char c := List.mem_flatMap

theorem charsetLatin1ToGsm_cons (c : UInt8) (s : Octstr) :
    charsetLatin1ToGsm (c :: s) = latin1Char c ++ charsetLatin1ToGsm s := List.flatMap_cons

theorem length_latin1Char_pos (c : UInt8) : 0 < (latin1Char c).length := by
  rw [latin1Char]
  split
  · exact Nat.succ_pos _
  · exact Nat.succ_pos _

theorem length_le_charsetLatin1ToGsm (s : Octstr) : s.length ≤ (charsetLatin1ToGsm s).length := by
  induction s with
  | nil => exact le_rfl
  | cons c s ih =>
    have hpos := length_latin1Char_pos c
    rw [charsetLatin1ToGsm_cons, List.length_append, List.length_cons]
    omega

/-- **A text is encoded as itself** if each of its characters is: a code behind an escape makes it
longer. -/
theorem charsetLatin1ToGsm_eq_self_iff {s : Octstr} :
    charsetLatin1ToGsm s = s ↔ ∀ c ∈ s, Settled c := by
  induction s with
  | nil => simp [charsetLatin1ToGsm]
  | cons c s ih =>
    rw [charsetLatin1ToGsm_cons, List.forall_mem_cons, ← ih]
    constructor
    · intro h
      have hlength := congrArg List.length h
      rw [List.length_append, List.length_cons] at hlength
      have hpos := length_latin1Char_pos c
      have hle := length_le_charsetLatin1ToGsm s
      have hone : (latin1Char c).length = 1 := by omega
      obtain ⟨g, hg⟩ := List.length_eq_one_iff.mp hone
      rw [hg, List.singleton_append, List.cons.injEq] at h
      exact ⟨hg.trans (by rw [h.1]), h.2⟩
    · rintro ⟨hc, hs⟩
      rw [hc, hs, List.singleton_append]

/-- A code of a text that is encoded several times comes from one character. -/
theorem exists_mem_of_mem_iterate {k : ℕ} {s : Octstr} {d : UInt8}
    (h : d ∈ charsetLatin1ToGsm^[k] s) : ∃ c ∈ s, d ∈ charsetLatin1ToGsm^[k] [c] := by
  induction k generalizing d with
  | zero => exact ⟨d, h, List.mem_singleton_self d⟩
  | succ k ih =>
    rw [Function.iterate_succ_apply'] at h
    obtain ⟨e, he, hd⟩ := mem_charsetLatin1ToGsm.mp h
    obtain ⟨c, hc, hmem⟩ := ih he
    refine ⟨c, hc, ?_⟩
    rw [Function.iterate_succ_apply']
    exact mem_charsetLatin1ToGsm.mpr ⟨e, hmem, hd⟩

/-- **Four times are enough**: whatever was encoded four times stays as it is.  It takes all four from
the character 246 on, by 124, the escape with 64, and 63 with 0. -/
theorem settled_of_mem_iterate {k : ℕ} (hk : 4 ≤ k) {s : Octstr} :
    ∀ d ∈ charsetLatin1ToGsm^[k] s, Settled d := by
  have htable : ∀ c : UInt8, ((charsetLatin1ToGsm^[4] [c]).all fun d => latin1Char d == [d]) = true :=
    forall_octet (by decide +kernel)
  have hfour : ∀ d ∈ charsetLatin1ToGsm^[4] s, Settled d := by
    intro d hd
    obtain ⟨c, -, hmem⟩ := exists_mem_of_mem_iterate hd
    exact beq_iff_eq.mp (List.all_eq_true.mp (htable c) d hmem)
  obtain ⟨j, rfl⟩ := Nat.exists_eq_add_of_le' hk
  rw [Function.iterate_add_apply, Function.iterate_fixed (charsetLatin1ToGsm_eq_self_iff.mpr hfour)]
  exact hfour

/-- Encoding fewer characters gives fewer codes. -/
theorem charsetLatin1ToGsm_subset {s t : Octstr} (h : s ⊆ t) :
    charsetLatin1ToGsm s ⊆ charsetLatin1ToGsm t := fun d hd => by
  obtain ⟨c, hc, hmem⟩ := mem_charsetLatin1ToGsm.mp hd
  exact mem_charsetLatin1ToGsm.mpr ⟨c, h hc, hmem⟩

end SmppServer
