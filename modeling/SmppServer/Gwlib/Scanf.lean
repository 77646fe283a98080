import Mathlib.Data.List.TakeWhile
import SmppServer.Gwlib.Number

/-!
# Gwlib/Scanf — reading a text by a format

`sscanf` of the C library, for formats of literal text, `%s` and `%n[…]`.  Each conversion stores into a
buffer of a given size; a text that does not fit, with its terminator, overruns the buffer, and the call
has no defined result then.

* `scan_literal`, `scan_string`, `scan_set` — how each directive goes on where the last one stopped.
-/

namespace SmppServer

/-- A directive of a format; conversions come with the size of their buffer. -/
inductive Directive
  | space
  | char (c : UInt8)
  | string (size : ℕ)
  | set (width : ℕ) (accept : UInt8 → Bool) (size : ℕ)

/-- The literal text of a format: blanks match any run of blanks. -/
def literal (s : Octstr) : List Directive := s.map fun c => if isSpace c then .space else .char c

/-- The texts stored by the conversions, up to the first directive that fails; `none` if a buffer is
overrun. -/
def scan : List Directive → Octstr → Option (List Octstr)
  | [], _ => some []
  | .space :: f, s => scan f (s.dropWhile isSpace)
  | .char c :: f, s =>
    match s with
    | [] => some []
    | d :: s => if d = c then scan f s else some []
  | .string size :: f, s =>
    let s := s.dropWhile isSpace
    let word := s.takeWhile fun c => !isSpace c
    if word = [] then some []
    else if word.length < size then (scan f (s.drop word.length)).map (word :: ·)
    else none
  | .set width accept size :: f, s =>
    let word := (s.take width).takeWhile accept
    if word = [] then some []
    else if word.length < size then (scan f (s.drop word.length)).map (word :: ·)
    else none

/-- `sscanf`. -/
def sscanf (s : Octstr) (format : List Directive) : Option (List Octstr) := scan format (cstr s)

section Scan

variable {f : List Directive} {w s : Octstr} {c : UInt8} {width size : ℕ} {accept : UInt8 → Bool}

theorem scan_space_of_not_isSpace (h : isSpace c = false) :
    scan (.space :: f) (c :: s) = scan f (c :: s) := by
  rw [scan, List.dropWhile_cons_of_neg (by simp [h])]

theorem scan_char_of_ne {d : UInt8} (h : d ≠ c) : scan (.char c :: f) (d :: s) = some [] := by
  rw [scan, if_neg h]

/-- Literal text without blanks: the text has it, or the scan ends. -/
theorem scan_literal_cases (hw : ∀ c ∈ w, isSpace c = false) :
    scan (literal w ++ f) s = some [] ∨ ∃ t, s = w ++ t ∧ scan (literal w ++ f) s = scan f t := by
  induction w generalizing s with
  | nil => exact .inr ⟨s, rfl, rfl⟩
  | cons c w ih =>
    obtain ⟨hc, hrest⟩ := List.forall_mem_cons.mp hw
    have hscan : literal (c :: w) ++ f = .char c :: (literal w ++ f) := by simp [literal, hc]
    rw [hscan]
    cases s with
    | nil => exact .inl rfl
    | cons d s =>
      by_cases hd : d = c
      · subst hd
        rw [scan, if_pos rfl]
        exact (ih hrest).imp_right fun ⟨t, hs, ht⟩ => ⟨t, by rw [hs, List.cons_append], ht⟩
      · exact .inl (scan_char_of_ne hd)

/-- No blank of the text is at its end, or before another blank. -/
def blanksSingle : Octstr → Bool
  | [] => true
  | [c] => !isSpace c
  | c :: d :: s => (!isSpace c || !isSpace d) && blanksSingle (d :: s)

/-- **Literal text matches itself.** -/
theorem scan_literal : ∀ {w : Octstr}, blanksSingle w = true → scan (literal w ++ f) (w ++ s) = scan f s
  | [], _ => rfl
  | [c], h => by
    have hc : isSpace c = false := by simpa [blanksSingle] using h
    simp [literal, hc, scan]
  | c :: d :: w, h => by
    rw [blanksSingle, Bool.and_eq_true] at h
    have hrest := scan_literal (w := d :: w) h.2
    cases hc : isSpace c with
    | false =>
      simp only [literal, List.map_cons, hc, Bool.false_eq_true, if_false, List.cons_append, scan,
        if_true] at hrest ⊢
      exact hrest
    | true =>
      have hd : isSpace d = false := by simpa [hc] using h.1
      simp only [literal, List.map_cons, hc, hd, Bool.false_eq_true, if_false, if_true,
        List.cons_append, scan, List.dropWhile_cons] at hrest ⊢
      exact hrest

theorem takeWhile_append_cons {α : Type*} {p : α → Bool} {w s : List α} {c : α} (hw : ∀ x ∈ w, p x = true)
    (hc : p c = false) : (w ++ c :: s).takeWhile p = w := by
  rw [List.takeWhile_append_of_pos hw, List.takeWhile_cons_of_neg (by simp [hc]), List.append_nil]

/-- Blanks in front of a word are skipped. -/
theorem scan_string_of_isSpace (hc : isSpace c = true) :
    scan (.string size :: f) (c :: s) = scan (.string size :: f) s := by
  simp only [scan, List.dropWhile_cons, hc, if_true]

/-- A word is read up to the next blank or to the end; it has to fit. -/
theorem scan_string_eq (hne : w ≠ []) (hw : ∀ x ∈ w, isSpace x = false)
    (hs : ∀ c ∈ s.head?, isSpace c = true) :
    scan (.string size :: f) (w ++ s) =
      if w.length < size then (scan f s).map (w :: ·) else none := by
  have hdrop : (w ++ s).dropWhile isSpace = w ++ s := by
    cases w with
    | nil => exact absurd rfl hne
    | cons x w => exact List.dropWhile_cons_of_neg (by simp [hw x List.mem_cons_self])
  have htake : (w ++ s).takeWhile (fun c => !isSpace c) = w := by
    cases s with
    | nil => simpa using hw
    | cons c s => exact takeWhile_append_cons (fun x hx => by simp [hw x hx]) (by simp [hs c rfl])
  simp only [scan, hdrop, htake, if_neg hne, List.drop_left]

/-- **A word is read up to the next blank.** -/
theorem scan_string (hne : w ≠ []) (hw : ∀ x ∈ w, isSpace x = false) (hc : isSpace c = true)
    (hsize : w.length < size) :
    scan (.string size :: f) (w ++ c :: s) = (scan f (c :: s)).map (w :: ·) := by
  rw [scan_string_eq hne hw (by simpa using hc), if_pos hsize]

/-- **A run of accepted octets is read up to the first one that is not.** -/
theorem scan_set (hne : w ≠ []) (hw : ∀ x ∈ w, accept x = true) (hc : accept c = false)
    (hwidth : w.length ≤ width) (hsize : w.length < size) :
    scan (.set width accept size :: f) (w ++ c :: s) = (scan f (c :: s)).map (w :: ·) := by
  have htake : ((w ++ c :: s).take width).takeWhile accept = w := by
    rw [List.take_append]
    cases hk : width - w.length with
    | zero =>
      rw [List.take_of_length_le hwidth, List.take_zero, List.append_nil]
      exact List.takeWhile_eq_self_iff.mpr hw
    | succ k =>
      rw [List.take_of_length_le hwidth, List.take_succ_cons]
      exact takeWhile_append_cons hw hc
  simp only [scan, htake, if_neg hne, if_pos hsize, List.drop_left]

/-- A run that is too long for the buffer. -/
theorem scan_set_overrun (hw : ∀ x ∈ s.take width, accept x = true) (hsize : size ≤ width)
    (hlen : size ≤ s.length) (hpos : 0 < size) : scan (.set width accept size :: f) s = none := by
  have htake : (s.take width).takeWhile accept = s.take width := List.takeWhile_eq_self_iff.mpr hw
  have hlength : (s.take width).length = min width s.length := List.length_take
  have hne : s.take width ≠ [] := List.ne_nil_of_length_pos (by omega)
  simp only [scan, htake, if_neg hne]
  rw [if_neg (by omega)]

end Scan

end SmppServer
