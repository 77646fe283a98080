import Mathlib.Data.List.Basic

/-!
# Machinery/Sql — MySQL string literals, and texts pasted into the values of an `INSERT`

A string literal begins with a quote and ends with the next one like it; inside, a quote is written
twice, and a backslash makes an escape of the octet behind it — except before `%` and `_`, where both
stand for themselves.  Literals with nothing but blanks between them are one literal.

A text pasted between two quotes is read back as itself only if no octet of it is read as part of such a
form.  Octets that are read without being put out put the reader **behind** what it has to put out, and
it never catches up: from there on it has to put out octets that it can only read in pairs.

* `lexString_escape` — an escaped text is read back.
* `lexString_of_readBack`, `readBack_of_lexString` — of the texts that are pasted as they are, or with a
  backslash before each quote, those that are read back.
* `parseInsert_iff`, `parseInsertNames_iff` — so a statement with texts pasted into it has them as its
  values **exactly** if all of them are.
-/

namespace Machinery

/-! ## Reading a literal

The reader has two places: inside quotes, and behind a closing one, where another literal may continue the
first.  The converse needs the notion of a reader that is behind: from the first octet that is read and not put
out, `StaysBehind` holds to the end. -/

/-- White space. -/
def isBlank (c : UInt8) : Bool := c == 32 || (9 ≤ c && c ≤ 13)

/-- What a backslash makes of the octet behind it. -/
def unescape (c : UInt8) : List UInt8 :=
  if c = 48 then [0]
  else if c = 98 then [8]
  else if c = 110 then [10]
  else if c = 114 then [13]
  else if c = 116 then [9]
  else if c = 90 then [26]
  else if c = 37 ∨ c = 95 then [92, c]
  else [c]

/-- Put octets before a result. -/
def emit (out : List UInt8) : Option (List UInt8 × List UInt8) → Option (List UInt8 × List UInt8) :=
  Option.map fun p => (out ++ p.1, p.2)

/-- The octets of a string literal and the text behind it; the reader is inside the quotes `q`, or
(`none`) behind a closing quote, where another literal may follow. -/
def lexString : Option UInt8 → List UInt8 → Option (List UInt8 × List UInt8)
  | none, [] => some ([], [])
  | none, c :: s =>
    if isBlank c then lexString none s
    else if c = 39 ∨ c = 34 then lexString (some c) s
    else some ([], c :: s)
  | some _, [] => none
  | some q, [c] => if c = q then some ([], []) else none
  | some q, c :: d :: s =>
    if c = q then
      if d = q then emit [q] (lexString (some q) s) else lexString none (d :: s)
    else if c = 92 then emit (unescape d) (lexString (some q) s)
    else emit [c] (lexString (some q) (d :: s))

/-- What `mysql_real_escape_string` writes for an octet. -/
def escapeOctet (c : UInt8) : List UInt8 :=
  if c = 0 then [92, 48]
  else if c = 10 then [92, 110]
  else if c = 13 then [92, 114]
  else if c = 26 then [92, 90]
  else if c = 92 ∨ c = 39 ∨ c = 34 then [92, c]
  else [c]

/-- `mysql_real_escape_string`. -/
def mysqlRealEscapeString (s : List UInt8) : List UInt8 := s.flatMap escapeOctet

/-- **The text means itself** between single quotes: no quote in it, and backslashes only before `%` and
`_`. -/
def Plain : List UInt8 → Prop
  | [] => True
  | c :: s => c ≠ 39 ∧ (c = 92 → s.head? = some 37 ∨ s.head? = some 95) ∧ Plain s

instance Plain.decidable : ∀ s, Decidable (Plain s)
  | [] => .isTrue trivial
  | c :: s =>
    have := Plain.decidable s
    inferInstanceAs (Decidable (c ≠ 39 ∧ (c = 92 → s.head? = some 37 ∨ s.head? = some 95) ∧ Plain s))

/-- How a text is pasted: each octet as it is, or a quote with a backslash before it. -/
inductive Pasted : List UInt8 → List UInt8 → Prop
  | nil : Pasted [] []
  | raw (c : UInt8) {s t : List UInt8} (h : Pasted s t) : Pasted (c :: s) (c :: t)
  | quote {s t : List UInt8} (h : Pasted s t) : Pasted (39 :: s) (92 :: 39 :: t)

/-- **A text is read back** from what is pasted: octets that are neither quotes nor backslashes,
backslashes before `%` and `_`, and quotes with a backslash before them. -/
inductive ReadBack : List UInt8 → List UInt8 → Prop
  | nil : ReadBack [] []
  | raw {c : UInt8} {s t : List UInt8} (h39 : c ≠ 39) (h92 : c ≠ 92) (h : ReadBack s t) :
    ReadBack (c :: s) (c :: t)
  | pattern {c : UInt8} {s t : List UInt8} (hc : c = 37 ∨ c = 95) (h : ReadBack s t) :
    ReadBack (92 :: c :: s) (92 :: c :: t)
  | quote {s t : List UInt8} (h : ReadBack s t) : ReadBack (39 :: s) (92 :: 39 :: t)

/-- The octets that can get a reader behind, or are read in pairs for those that do: quotes, the
backslash, white space, and the letters of its escapes. -/
def lags (c : UInt8) : Bool :=
  c == 39 || c == 34 || c == 92 || isBlank c || c == 116 || c == 110 || c == 114

section Lex

variable {c q : UInt8} {s rest r w : List UInt8} {mode : Option UInt8}

theorem emit_eq_some {out o : List UInt8} {p : Option (List UInt8 × List UInt8)} :
    emit out p = some (o, r) ↔ ∃ o', p = some (o', r) ∧ out ++ o' = o := by
  cases p with
  | none => simp [emit]
  | some p => simp [emit, Prod.ext_iff, and_comm, eq_comm]

theorem emit_singleton_eq_some {x y : UInt8} {o : List UInt8} {p : Option (List UInt8 × List UInt8)} :
    emit [x] p = some (y :: o, r) ↔ x = y ∧ p = some (o, r) := by
  simp [emit_eq_some, and_comm]

theorem of_lags_eq_false (h : lags c = false) : c ≠ 39 ∧ c ≠ 34 ∧ c ≠ 92 ∧ isBlank c = false := by
  simp only [lags, Bool.or_eq_false_iff, beq_eq_false_iff_ne, ne_eq] at h
  obtain ⟨⟨⟨⟨⟨⟨h39, h34⟩, h92⟩, hblank⟩, -⟩, -⟩, -⟩ := h
  exact ⟨h39, h34, h92, hblank⟩

theorem lags_of_isBlank (h : isBlank c = true) : lags c = true := by
  simp [lags, h]

theorem lags_of_quote (h : c = 39 ∨ c = 34) : lags c = true := by
  obtain rfl | rfl := h
  · decide
  · decide

/-- An escape that puts out an octet of the kind is one of such octets itself. -/
theorem unescape_cases (c : UInt8) : (c = 37 ∨ c = 95) ∧ unescape c = [92, c] ∨
    ∃ u, unescape c = [u] ∧ (lags u = true → lags c = true) ∧ (u = 92 → c = 92) := by
  unfold unescape
  split_ifs with h0 hb hn hr ht hz hpct
  · exact .inr ⟨0, rfl, fun h => absurd h (by decide), fun h => absurd h (by decide)⟩
  · exact .inr ⟨8, rfl, fun h => absurd h (by decide), fun h => absurd h (by decide)⟩
  · exact .inr ⟨10, rfl, fun _ => by rw [hn]; decide, fun h => absurd h (by decide)⟩
  · exact .inr ⟨13, rfl, fun _ => by rw [hr]; decide, fun h => absurd h (by decide)⟩
  · exact .inr ⟨9, rfl, fun _ => by rw [ht]; decide, fun h => absurd h (by decide)⟩
  · exact .inr ⟨26, rfl, fun h => absurd h (by decide), fun h => absurd h (by decide)⟩
  · exact .inl ⟨hpct, rfl⟩
  · exact .inr ⟨c, rfl, id, id⟩

/-- The closing quote. -/
theorem lexString_close (hc : lags c = false) :
    lexString (some 39) (39 :: c :: rest) = some ([], c :: rest) := by
  obtain ⟨h39, h34, -, hblank⟩ := of_lags_eq_false hc
  simp [lexString, h39, h34, hblank]

/-- An octet that stops a reader is put out by one that is inside quotes. -/
theorem mem_of_lexString (hc : lags c = false) (hq : q = 39 ∨ q = 34) {o : List UInt8}
    (h : lexString (some q) (c :: rest) = some (o, r)) : c ∈ o := by
  obtain ⟨h39, h34, h92, -⟩ := of_lags_eq_false hc
  have hcq : c ≠ q := by
    obtain rfl | rfl := hq
    · exact h39
    · exact h34
  cases rest with
  | nil => simp [lexString, hcq] at h
  | cons d rest =>
    rw [lexString, if_neg hcq, if_neg h92, emit_eq_some] at h
    obtain ⟨o', -, rfl⟩ := h
    exact List.mem_cons_self

/-- Nothing left behind stops a reader inside quotes. -/
theorem emit_lexString_ne {out : List UInt8} (hc : lags c = false) (hq : q = 39 ∨ q = 34)
    (hall : ∀ x ∈ w, lags x = true) : emit out (lexString (some q) (c :: rest)) ≠ some (w, r) := by
  rw [Ne, emit_eq_some]
  rintro ⟨o, ho, rfl⟩
  have hlag := hall c (List.mem_append_right _ (mem_of_lexString hc hq ho))
  simp [hc] at hlag

/-- A reader at the closing quote that is behind. -/
theorem lexString_behind_nil (hc : lags c = false) (hmode : ∀ q ∈ mode, q = 39 ∨ q = 34) (hw : w ≠ [])
    (hall : ∀ x ∈ w, lags x = true) : lexString mode (39 :: c :: rest) ≠ some (w, r) := by
  cases mode with
  | none =>
    intro h
    simp only [lexString, show isBlank 39 = false by decide, Bool.false_eq_true, if_false, true_or,
      if_true] at h
    have hlag := hall c (mem_of_lexString hc (.inl rfl) h)
    simp [hc] at hlag
  | some q =>
    obtain rfl | rfl := hmode q rfl
    · rw [lexString_close hc]
      rintro h
      exact hw (Prod.mk.inj (Option.some.inj h)).1.symm
    · rw [lexString, if_neg (by decide), if_neg (by decide)]
      exact emit_lexString_ne hc (.inr rfl) hall

/-- What is put out by a reader that is behind, is the first of the octets it still has to put out. -/
theorem cons_eq_append {x : UInt8} {o : List UInt8} (hw : w ≠ []) (h : x :: o = w ++ s) :
    ∃ w', w = x :: w' ∧ o = w' ++ s := by
  cases w with
  | nil => exact absurd rfl hw
  | cons y w' =>
    rw [List.cons_append, List.cons.injEq] at h
    exact ⟨w', by rw [h.1], h.2⟩

/-- A reader that is behind and puts out one octet: the others of `w` are still to come. -/
theorem emit_singleton_ne {x : UInt8} {p : Option (List UInt8 × List UInt8)} (hw : w ≠ [])
    (h : ∀ w', w = x :: w' → p ≠ some (w' ++ s, r)) : emit [x] p ≠ some (w ++ s, r) := by
  rw [Ne, emit_eq_some]
  rintro ⟨o, ho, heq⟩
  obtain ⟨w', hcons, rfl⟩ := cons_eq_append hw heq
  exact h w' hcons ho

theorem lags_singleton {x : UInt8} (hx : lags x = true) : ∀ y ∈ [x], lags y = true :=
  List.forall_mem_singleton.mpr hx

theorem lags_append {x : UInt8} (hall : ∀ y ∈ w, lags y = true) (hx : lags x = true) :
    ∀ y ∈ w ++ [x], lags y = true := by
  intro y hy
  obtain hy | hy := List.mem_append.mp hy
  · exact hall y hy
  · rw [List.mem_singleton.mp hy]
    exact hx

theorem lags_tail {x : UInt8} (hall : ∀ y ∈ x :: w, lags y = true) : ∀ y ∈ w, lags y = true :=
  fun y hy => hall y (List.mem_cons_of_mem x hy)

/-- An escaped `%` or `_` is put out with its backslash, which a reader that is behind has not to put
out there: the `%` or `_` would have to be the backslash itself, or among the octets left behind. -/
theorem emit_backslash_ne {y : UInt8} {p : Option (List UInt8 × List UInt8)} (hy : y = 37 ∨ y = 95)
    (hw : w ≠ []) (hall : ∀ x ∈ w, lags x = true) :
    emit [92, y] p ≠ some (w ++ 92 :: y :: s, r) := by
  rw [Ne, emit_eq_some]
  rintro ⟨o, ho, heq⟩
  obtain ⟨w', rfl, htail⟩ := cons_eq_append hw heq
  have hmem : y ∈ w' ++ [92] := by
    cases w' with
    | nil =>
      obtain ⟨rfl, -⟩ := List.cons.inj htail
      exact List.mem_cons_self
    | cons z w' =>
      obtain ⟨rfl, -⟩ := List.cons.inj htail
      exact List.mem_cons_self
  have hlag := lags_append (lags_tail hall) (by decide) y hmem
  obtain rfl | rfl := hy
  · exact absurd hlag (by decide)
  · exact absurd hlag (by decide)

/-- **A reader that is behind never catches up** on a text: the octets `w` it has still to put out are
replaced by those it reads for them. -/
def StaysBehind (c : UInt8) (rest r s t : List UInt8) : Prop :=
  ∀ (mode : Option UInt8) (w : List UInt8), (∀ q ∈ mode, q = 39 ∨ q = 34) → w ≠ [] →
    (∀ x ∈ w, lags x = true) → lexString mode (t ++ 39 :: c :: rest) ≠ some (w ++ s, r)

section Behind

variable {t : List UInt8} {x y : UInt8}

/-- Outside quotes an octet is passed, or opens them. -/
theorem StaysBehind.raw_none (h : StaysBehind c rest r s t) (hall : ∀ x ∈ w, lags x = true) :
    lexString none (x :: t ++ 39 :: c :: rest) ≠ some (w ++ x :: s, r) := by
  rw [List.cons_append, lexString, List.append_cons w x]
  split
  · rename_i hx
    exact h none _ (by simp) (by simp) (lags_append hall (lags_of_isBlank hx))
  · split
    · rename_i hx
      refine h (some x) _ ?_ (by simp) (lags_append hall (lags_of_quote hx))
      rintro q hq
      obtain rfl := Option.some.inj hq
      exact hx
    · simp

/-- Outside quotes a backslash stops the reader. -/
theorem lexString_none_quote_ne (hw : w ≠ []) :
    lexString none (92 :: 39 :: t ++ 39 :: c :: rest) ≠ some (w ++ 39 :: s, r) := by
  have hstop : ∀ u, lexString none (92 :: u) = some ([], 92 :: u) := fun u => by simp [lexString, isBlank]
  rw [List.cons_append, hstop]
  simp [hw]

/-- Inside quotes an escaped one is put out. -/
theorem StaysBehind.quote_some (h : StaysBehind c rest r s t) (hq : q = 39 ∨ q = 34) (hw : w ≠ [])
    (hall : ∀ x ∈ w, lags x = true) :
    lexString (some q) (92 :: 39 :: t ++ 39 :: c :: rest) ≠ some (w ++ 39 :: s, r) := by
  have hne : (92 : UInt8) ≠ q := by
    obtain rfl | rfl := hq
    · decide
    · decide
  rw [List.cons_append, List.cons_append, lexString, if_neg hne, if_pos rfl]
  refine emit_singleton_ne hw ?_
  rintro w' rfl
  rw [List.append_cons w' 39]
  exact h (some q) _ (by simpa using hq) (by simp) (lags_append (lags_tail hall) (by decide))

/-- The last octet before the closing quote. -/
theorem lexString_behind_singleton (hc : lags c = false) (hq : q = 39 ∨ q = 34) (hw : w ≠ [])
    (hall : ∀ x ∈ w, lags x = true) :
    lexString (some q) ([x] ++ 39 :: c :: rest) ≠ some (w ++ [x], r) := by
  have hmode : ∀ p ∈ some q, p = 39 ∨ p = 34 := by simpa using hq
  rw [List.singleton_append, lexString]
  split
  · rename_i hx
    have hlag : lags x = true := hx ▸ lags_of_quote hq
    split
    · exact emit_lexString_ne hc hq (lags_append hall hlag)
    · exact lexString_behind_nil hc (by simp) (by simp) (lags_append hall hlag)
  · split
    · rename_i hx
      exact emit_lexString_ne hc hq (lags_append hall (hx ▸ by decide))
    · refine emit_singleton_ne hw ?_
      rintro w' rfl
      exact lexString_behind_nil hc hmode (by simp)
        (lags_append (lags_tail hall) (hall x List.mem_cons_self))

/-- Two octets as they are: a quote ends the string or stands for one with the next, a backslash takes
the next, any other is put out. -/
theorem StaysBehind.raw_raw (h : StaysBehind c rest r s t) (hy : StaysBehind c rest r (y :: s) (y :: t))
    (hq : q = 39 ∨ q = 34) (hw : w ≠ []) (hall : ∀ x ∈ w, lags x = true) :
    lexString (some q) (x :: y :: t ++ 39 :: c :: rest) ≠ some (w ++ x :: y :: s, r) := by
  have hmode : ∀ p ∈ some q, p = 39 ∨ p = 34 := by simpa using hq
  rw [List.cons_append, List.cons_append, lexString]
  split
  · rename_i hx
    have hlag : lags x = true := hx ▸ lags_of_quote hq
    split
    · rename_i heq
      refine emit_singleton_ne hw ?_
      rintro w' rfl
      rw [List.append_cons w' x, List.append_cons (w' ++ [x]) y]
      exact h _ _ hmode (by simp)
        (lags_append (lags_append (lags_tail hall) hlag) (heq ▸ lags_of_quote hq))
    · rw [List.append_cons w x]
      exact hy none _ (by simp) (by simp) (lags_append hall hlag)
  · split
    · rename_i hx
      subst hx
      obtain ⟨hpct, hun⟩ | ⟨u, hun, hlag, -⟩ := unescape_cases y
      · rw [hun]
        exact emit_backslash_ne hpct hw hall
      · rw [hun]
        refine emit_singleton_ne hw ?_
        rintro w' rfl
        rw [List.append_cons w' 92, List.append_cons (w' ++ [92]) y]
        exact h _ _ hmode (by simp)
          (lags_append (lags_append (lags_tail hall) (by decide)) (hlag (hall u List.mem_cons_self)))
    · refine emit_singleton_ne hw ?_
      rintro w' rfl
      rw [List.append_cons w' x]
      exact hy _ _ hmode (by simp) (lags_append (lags_tail hall) (hall x List.mem_cons_self))

/-- An octet before an escaped quote: a backslash takes that of the quote, which stands for itself
then. -/
theorem StaysBehind.raw_quote (h : StaysBehind c rest r (39 :: s) (92 :: 39 :: t))
    (hraw : StaysBehind c rest r (39 :: s) (39 :: t)) (hq : q = 39 ∨ q = 34) (hw : w ≠ [])
    (hall : ∀ x ∈ w, lags x = true) :
    lexString (some q) (x :: 92 :: 39 :: t ++ 39 :: c :: rest) ≠ some (w ++ x :: 39 :: s, r) := by
  have hmode : ∀ p ∈ some q, p = 39 ∨ p = 34 := by simpa using hq
  rw [List.cons_append, List.cons_append, lexString]
  split
  · rename_i hx
    have hlag : lags x = true := hx ▸ lags_of_quote hq
    have hne : (92 : UInt8) ≠ q := by
      obtain rfl | rfl := hq
      · decide
      · decide
    rw [if_neg hne, List.append_cons w x]
    exact h none _ (by simp) (by simp) (lags_append hall hlag)
  · split
    · rename_i hx
      subst hx
      refine emit_singleton_ne hw ?_
      rintro w' rfl
      rw [List.append_cons w' 92]
      exact hraw _ _ hmode (by simp) (lags_append (lags_tail hall) (by decide))
    · refine emit_singleton_ne hw ?_
      rintro w' rfl
      rw [List.append_cons w' x]
      exact h _ _ hmode (by simp) (lags_append (lags_tail hall) (hall x List.mem_cons_self))

end Behind

/-- A reader stays behind on every pasted text. -/
theorem lexString_behind (hc : lags c = false) : ∀ {s t : List UInt8}, Pasted s t →
    StaysBehind c rest r s t
  | _, _, .nil, mode, w, hmode, hw, hall => by
    rw [List.append_nil]
    exact lexString_behind_nil hc hmode hw hall
  | _, _, .raw _ h, none, _, _, _, hall => (lexString_behind hc h).raw_none hall
  | _, _, .quote _, none, _, _, hw, _ => lexString_none_quote_ne hw
  | _, _, .quote h, some q, _, hmode, hw, hall => (lexString_behind hc h).quote_some (hmode q rfl) hw hall
  | _, _, .raw _ .nil, some q, _, hmode, hw, hall => lexString_behind_singleton hc (hmode q rfl) hw hall
  | _, _, .raw _ (.raw y h), some q, _, hmode, hw, hall =>
    (lexString_behind hc h).raw_raw (lexString_behind hc (.raw y h)) (hmode q rfl) hw hall
  | _, _, .raw _ (.quote h), some q, _, hmode, hw, hall =>
    (lexString_behind hc (.quote h)).raw_quote (lexString_behind hc (.raw 39 h)) (hmode q rfl) hw hall

/-- A quote by itself is not read back. -/
theorem not_readBack_quote {s t : List UInt8} : ¬ ReadBack (39 :: s) (39 :: t) := by
  intro h
  cases h with
  | raw h39 _ _ => exact h39 rfl

/-- A text that comes out as it is is read back. -/
def ComesBack (c : UInt8) (rest r s t : List UInt8) : Prop :=
  lexString (some 39) (t ++ 39 :: c :: rest) = some (s, r) → ReadBack s t

section Back

variable {t : List UInt8} {x y : UInt8}

/-- A last octet that is a quote or a backslash does not come out. -/
theorem comesBack_singleton (hc : lags c = false) : ComesBack c rest r [x] [x] := by
  intro hlex
  rw [List.singleton_append, lexString] at hlex
  split at hlex
  · rw [if_pos rfl, emit_singleton_eq_some] at hlex
    exact absurd (mem_of_lexString hc (.inl rfl) hlex.2) List.not_mem_nil
  · rename_i h39
    split at hlex
    · rename_i h92
      -- an escaped quote is put out as a quote
      obtain ⟨hquote, -⟩ := emit_singleton_eq_some.mp hlex
      exact absurd (hquote.trans h92) (by decide)
    · rename_i h92
      exact .raw h39 h92 .nil

/-- Behind a quote, or a backslash that takes the next octet, the reader stays behind. -/
theorem ComesBack.raw_raw (h : ComesBack c rest r s t) (hy : ComesBack c rest r (y :: s) (y :: t))
    (hbehind : StaysBehind c rest r s t) (hybehind : StaysBehind c rest r (y :: s) (y :: t)) :
    ComesBack c rest r (x :: y :: s) (x :: y :: t) := by
  intro hlex
  rw [List.cons_append, List.cons_append, lexString] at hlex
  split at hlex
  · rename_i hx
    subst hx
    split at hlex
    · rename_i heq
      subst heq
      obtain ⟨-, ho⟩ := emit_singleton_eq_some.mp hlex
      exact absurd ho (hbehind _ [39] (by simp) (by simp) (lags_singleton rfl))
    · exact absurd hlex (hybehind none [39] (by simp) (by simp) (lags_singleton rfl))
  · rename_i h39
    split at hlex
    · rename_i h92
      subst h92
      obtain ⟨hpct, hun⟩ | ⟨u, hun, -, hback⟩ := unescape_cases y
      · rw [hun, emit_eq_some] at hlex
        obtain ⟨o, ho, heq⟩ := hlex
        simp only [List.cons_append, List.nil_append, List.cons.injEq, true_and] at heq
        exact .pattern hpct (h (heq ▸ ho))
      · rw [hun] at hlex
        obtain ⟨hu, ho⟩ := emit_singleton_eq_some.mp hlex
        rw [hback hu] at ho
        exact absurd ho (hbehind _ [92] (by simp) (by simp) (lags_singleton rfl))
    · rename_i h92
      obtain ⟨-, ho⟩ := emit_singleton_eq_some.mp hlex
      exact .raw h39 h92 (hy ho)

/-- Before an escaped quote. -/
theorem ComesBack.raw_quote (h : ComesBack c rest r (39 :: s) (92 :: 39 :: t))
    (hraw : ComesBack c rest r (39 :: s) (39 :: t))
    (hbehind : StaysBehind c rest r (39 :: s) (92 :: 39 :: t)) :
    ComesBack c rest r (x :: 39 :: s) (x :: 92 :: 39 :: t) := by
  intro hlex
  rw [List.cons_append, List.cons_append, lexString] at hlex
  split at hlex
  · rename_i hx
    subst hx
    exact absurd hlex (hbehind none [39] (by simp) (by simp) (lags_singleton rfl))
  · rename_i h39
    split at hlex
    · rename_i h92
      subst h92
      obtain ⟨-, ho⟩ := emit_singleton_eq_some.mp hlex
      exact absurd (hraw ho) not_readBack_quote
    · rename_i h92
      obtain ⟨-, ho⟩ := emit_singleton_eq_some.mp hlex
      exact .raw h39 h92 (h ho)

end Back

/-- **Only what is read back comes out as it is.** -/
theorem readBack_of_lexString (hc : lags c = false) : ∀ {s t : List UInt8}, Pasted s t →
    ComesBack c rest r s t
  | _, _, .nil => fun _ => .nil
  | _, _, .quote h => by
    intro hlex
    rw [List.cons_append, List.cons_append, lexString, if_neg (by decide), if_pos rfl,
      show unescape 39 = [39] by decide, emit_singleton_eq_some] at hlex
    exact .quote (readBack_of_lexString hc h hlex.2)
  | _, _, .raw _ .nil => comesBack_singleton hc
  | _, _, .raw _ (.raw y h) =>
    (readBack_of_lexString hc h).raw_raw (readBack_of_lexString hc (.raw y h)) (lexString_behind hc h)
      (lexString_behind hc (.raw y h))
  | _, _, .raw _ (.quote h) =>
    (readBack_of_lexString hc (.quote h)).raw_quote (readBack_of_lexString hc (.raw 39 h))
      (lexString_behind hc (.quote h))

/-- **What is read back comes out as it is.** -/
theorem lexString_of_readBack (hc : lags c = false) (h : ReadBack s w) :
    lexString (some 39) (w ++ 39 :: c :: rest) = some (s, c :: rest) := by
  induction h with
  | nil => exact lexString_close hc
  | @raw x s t h39 h92 h ih =>
    obtain ⟨d, u, hdu⟩ := List.exists_cons_of_ne_nil (show t ++ 39 :: c :: rest ≠ [] by simp)
    rw [hdu] at ih
    rw [List.cons_append, hdu, lexString, if_neg h39, if_neg h92, ih]
    rfl
  | @pattern y s t hy h ih =>
    have hun : unescape y = [92, y] := by
      obtain rfl | rfl := hy
      · decide
      · decide
    rw [List.cons_append, List.cons_append, lexString, if_neg (by decide), if_pos rfl, hun, ih]
    rfl
  | quote h ih =>
    rw [List.cons_append, List.cons_append, lexString, if_neg (by decide), if_pos rfl, ih]
    rfl

/-- A text is pasted as it is. -/
theorem pasted_self : ∀ s, Pasted s s
  | [] => .nil
  | x :: s => .raw x (pasted_self s)

theorem plain_of_readBack (h : ReadBack s w) (heq : w = s) : Plain s := by
  induction h with
  | nil => trivial
  | raw h39 h92 h ih => exact ⟨h39, fun hc => absurd hc h92, ih (List.cons.inj heq).2⟩
  | pattern hc h ih =>
    have htail := ih (List.cons.inj (List.cons.inj heq).2).2
    refine ⟨by decide, fun _ => hc.imp (congrArg some) (congrArg some), ?_, ?_, htail⟩
    · rintro rfl
      exact absurd hc (by decide)
    · rintro rfl
      exact absurd hc (by decide)
  | quote h ih => exact absurd (List.cons.inj heq).1 (by decide)

theorem readBack_of_plain : ∀ {s : List UInt8}, Plain s → ReadBack s s
  | [], _ => .nil
  | [x], ⟨h39, h92, _⟩ => .raw h39 (fun h => by simpa using h92 h) .nil
  | x :: y :: s, ⟨h39, h92, h⟩ => by
    by_cases hx : x = 92
    · subst hx
      exact .pattern (by simpa using h92 rfl) (readBack_of_plain h.2.2)
    · exact .raw h39 hx (readBack_of_plain h)

/-- **A plain text is one that is read back as it is.** -/
theorem readBack_self_iff : ReadBack s s ↔ Plain s := ⟨fun h => plain_of_readBack h rfl, readBack_of_plain⟩

/-- One escaped octet. -/
theorem lexString_escapeOctet (x d : UInt8) (t : List UInt8) :
    lexString (some 39) (escapeOctet x ++ d :: t) = emit [x] (lexString (some 39) (d :: t)) := by
  have hpair : ∀ y, unescape y = [x] → lexString (some 39) ([92, y] ++ d :: t) =
      emit [x] (lexString (some 39) (d :: t)) := by
    intro y hy
    rw [List.cons_append, List.singleton_append, lexString, if_neg (by decide), if_pos rfl, hy]
  unfold escapeOctet
  split_ifs with h0 h10 h13 h26 hquote
  · exact hpair 48 (by rw [h0]; decide)
  · exact hpair 110 (by rw [h10]; decide)
  · exact hpair 114 (by rw [h13]; decide)
  · exact hpair 90 (by rw [h26]; decide)
  · obtain rfl | rfl | rfl := hquote
    · exact hpair 92 (by decide)
    · exact hpair 39 (by decide)
    · exact hpair 34 (by decide)
  · rw [not_or] at hquote
    rw [List.singleton_append, lexString, if_neg fun h => hquote.2 (.inl h), if_neg hquote.1]

/-- **An escaped text is read back.** -/
theorem lexString_escape (hc : lags c = false) : ∀ s : List UInt8,
    lexString (some 39) (mysqlRealEscapeString s ++ 39 :: c :: rest) = some (s, c :: rest)
  | [] => lexString_close hc
  | x :: s => by
    obtain ⟨d, t, hdt⟩ := List.exists_cons_of_ne_nil
      (show mysqlRealEscapeString s ++ 39 :: c :: rest ≠ [] by simp)
    have htail := lexString_escape hc s
    rw [hdt] at htail
    rw [mysqlRealEscapeString, List.flatMap_cons, List.append_assoc, ← mysqlRealEscapeString, hdt,
      lexString_escapeOctet, htail]
    rfl

end Lex

/-! ## The values of an `INSERT`

A statement is read value by value, and a value that is safe leaves the reader at the comma or the parenthesis
behind it. -/

/-- A value: a string, or the time of the server. -/
inductive SqlValue
  | string (s : List UInt8)
  | now
  deriving DecidableEq, Repr

/-- A value at the start of a text, and what follows it. -/
def parseValue (s : List UInt8) : Option (SqlValue × List UInt8) :=
  match s.dropWhile isBlank with
  | 39 :: s => (lexString (some 39) s).map fun p => (.string p.1, p.2)
  | 34 :: s => (lexString (some 34) s).map fun p => (.string p.1, p.2)
  | 110 :: 111 :: 119 :: 40 :: 41 :: s => some (.now, s)
  | _ => none

/-- As many values as there are columns, with commas between them, up to the closing parenthesis. -/
def parseValues : ℕ → List UInt8 → Option (List SqlValue × List UInt8)
  | 0, _ => none
  | columns + 1, s =>
    (parseValue s).bind fun p =>
      match p.2.dropWhile isBlank with
      | 44 :: s => if columns = 0 then none else (parseValues columns s).map fun q => (p.1 :: q.1, q.2)
      | 41 :: s => if columns = 0 then some ([p.1], s) else none
      | _ => none

/-- The values of one `INSERT` statement that begins with the given table and columns, and is followed
by nothing. -/
def parseInsert (head : List UInt8) (columns : ℕ) (text : List UInt8) : Option (List SqlValue) :=
  if head.isPrefixOf text then
    match (text.drop head.length).dropWhile isBlank with
    | 40 :: s => (parseValues columns s).bind fun p =>
        match p.2.dropWhile isBlank with
        | 59 :: s => if s.all isBlank then some p.1 else none
        | _ => none
    | _ => none
  else none

/-- What a format string pastes: a text between quotes, an escaped text between quotes, or the call of
`now`. -/
inductive SqlArg
  | quoted (s : List UInt8)
  | escaped (s : List UInt8)
  | now
  deriving DecidableEq, Repr

/-- The text of an argument. -/
def SqlArg.text : SqlArg → List UInt8
  | .quoted s => 39 :: s ++ [39]
  | .escaped s => 39 :: mysqlRealEscapeString s ++ [39]
  | .now => [110, 111, 119, 40, 41]

/-- The value that is meant. -/
def SqlArg.value : SqlArg → SqlValue
  | .quoted s => .string s
  | .escaped s => .string s
  | .now => .now

/-- The argument means itself. -/
def SqlArg.Safe : SqlArg → Prop
  | .quoted s => Plain s
  | .escaped _ => True
  | .now => True

/-- The arguments with commas between them, each behind a number of blanks. -/
def valueList : List (ℕ × SqlArg) → List UInt8
  | [] => []
  | [x] => List.replicate x.1 32 ++ x.2.text
  | x :: y :: args => List.replicate x.1 32 ++ (x.2.text ++ 44 :: valueList (y :: args))

/-- Texts with commas between them. -/
def commaList : List (List UInt8) → List UInt8
  | [] => []
  | [x] => x
  | x :: y :: texts => x ++ 44 :: commaList (y :: texts)

/-- **A text that is read as a value** exactly if it is safe, in front of an octet that ends it. -/
structure ValueText where
  text : List UInt8
  value : SqlValue
  safe : Prop
  parseValue_of_safe : safe → ∀ {c : UInt8} {rest : List UInt8}, lags c = false →
    parseValue (text ++ c :: rest) = some (value, c :: rest)
  safe_of_parseValue : ∀ {c : UInt8} {rest r : List UInt8}, lags c = false →
    parseValue (text ++ c :: rest) = some (value, r) → safe

section Values

variable {n : ℕ} {c : UInt8} {rest r head tail : List UInt8}

theorem dropWhile_replicate {s : List UInt8} :
    (List.replicate n 32 ++ s).dropWhile isBlank = s.dropWhile isBlank := by
  rw [List.dropWhile_append_of_pos]
  intro x hx
  rw [List.eq_of_mem_replicate hx]
  decide

/-- The value of a text between quotes is read by `lexString`. -/
theorem parseValue_quotes {s : List UInt8} :
    parseValue (List.replicate n 32 ++ (39 :: s ++ [39]) ++ c :: rest) =
      (lexString (some 39) (s ++ 39 :: c :: rest)).map fun p => (.string p.1, p.2) := by
  rw [parseValue, List.append_assoc, dropWhile_replicate]
  simp only [List.cons_append, List.append_assoc, List.nil_append]
  rw [List.dropWhile_cons_of_neg (by decide)]
  rfl

/-- A text pasted between quotes, behind a number of blanks. -/
def ValueText.pasted (n : ℕ) {s t : List UInt8} (h : Pasted s t) : ValueText where
  text := List.replicate n 32 ++ (39 :: t ++ [39])
  value := .string s
  safe := ReadBack s t
  parseValue_of_safe hsafe c rest hc := by
    rw [parseValue_quotes, lexString_of_readBack hc hsafe]
    rfl
  safe_of_parseValue {c rest r} hc hparse := by
    rw [parseValue_quotes] at hparse
    obtain ⟨⟨o, r'⟩, ho, heq⟩ := Option.map_eq_some_iff.mp hparse
    obtain ⟨hvalue, -⟩ := Prod.mk.inj heq
    obtain rfl : o = s := SqlValue.string.inj hvalue
    exact readBack_of_lexString hc h ho

/-- An escaped text between quotes. -/
def ValueText.escaped (n : ℕ) (s : List UInt8) : ValueText where
  text := List.replicate n 32 ++ (39 :: mysqlRealEscapeString s ++ [39])
  value := .string s
  safe := True
  parseValue_of_safe _ c rest hc := by
    rw [parseValue_quotes, lexString_escape hc]
    rfl
  safe_of_parseValue _ _ := trivial

/-- The time of the server. -/
def ValueText.now (n : ℕ) : ValueText where
  text := List.replicate n 32 ++ [110, 111, 119, 40, 41]
  value := .now
  safe := True
  parseValue_of_safe _ c rest hc := by
    rw [parseValue, List.append_assoc, dropWhile_replicate]
    rfl
  safe_of_parseValue _ _ := trivial

/-- A safe value before a comma. -/
theorem parseValues_comma {k : ℕ} {s : List UInt8} {p : ValueText} (h : p.safe) :
    parseValues (k + 2) (p.text ++ 44 :: s) =
      (parseValues (k + 1) s).map fun q => (p.value :: q.1, q.2) := by
  rw [parseValues, p.parseValue_of_safe h (by decide)]
  rfl

/-- The first value is that of the first text. -/
theorem parseValues_head {k : ℕ} {s : List UInt8} {vs : List SqlValue}
    (h : parseValues (k + 1) s = some (vs, r)) : ∃ v t, parseValue s = some (v, t) ∧ vs.head? = some v := by
  rw [parseValues] at h
  obtain ⟨⟨v, t⟩, hp, h⟩ := Option.bind_eq_some_iff.mp h
  refine ⟨v, t, hp, ?_⟩
  split at h
  · split at h
    · exact absurd h (by simp)
    · obtain ⟨q, -, heq⟩ := Option.map_eq_some_iff.mp h
      rw [← (Prod.mk.inj heq).1]
      rfl
  · split at h
    · rw [← (Prod.mk.inj (Option.some.inj h)).1]
      rfl
    · exact absurd h (by simp)
  · exact absurd h (by simp)

/-- The values of safe texts. -/
theorem parseValues_of_safe : ∀ {ps : List ValueText}, ps ≠ [] → (∀ p ∈ ps, p.safe) →
    parseValues ps.length (commaList (ps.map (·.text)) ++ 41 :: tail) = some (ps.map (·.value), tail)
  | [], h, _ => absurd rfl h
  | [p], _, hsafe => by
    rw [List.map_singleton, commaList, List.length_singleton, parseValues,
      p.parseValue_of_safe (hsafe p List.mem_cons_self) (by decide)]
    rfl
  | p :: q :: ps, _, hsafe => by
    have htail : parseValues (q :: ps).length (commaList ((q :: ps).map (·.text)) ++ 41 :: tail) = _ :=
      parseValues_of_safe (by simp) fun z hz => hsafe z (List.mem_cons_of_mem _ hz)
    rw [List.map_cons, List.map_cons, commaList, List.append_assoc, List.cons_append, List.length_cons,
      List.length_cons, parseValues_comma (hsafe p List.mem_cons_self), ← List.length_cons,
      ← List.map_cons, htail]
    rfl

/-- Texts that come out as meant are safe. -/
theorem safe_of_parseValues : ∀ {ps : List ValueText} {r : List UInt8},
    parseValues ps.length (commaList (ps.map (·.text)) ++ 41 :: tail) = some (ps.map (·.value), r) →
      ∀ p ∈ ps, p.safe
  | [], _, _ => by simp
  | [p], r, h => by
    obtain ⟨v, t, hv, hhead⟩ := parseValues_head h
    obtain rfl : p.value = v := Option.some.inj hhead
    intro z hz
    rw [List.mem_singleton.mp hz]
    exact p.safe_of_parseValue (by decide) hv
  | p :: q :: ps, r, h => by
    obtain ⟨v, t, hv, hhead⟩ := parseValues_head h
    obtain rfl : p.value = v := Option.some.inj hhead
    rw [List.map_cons, List.map_cons, commaList, List.append_assoc, List.cons_append] at hv
    have hp := p.safe_of_parseValue (by decide) hv
    rw [List.map_cons, List.map_cons, commaList, List.append_assoc, List.cons_append, List.length_cons,
      List.length_cons, parseValues_comma hp, ← List.length_cons (a := q), ← List.map_cons] at h
    obtain ⟨⟨vs, r'⟩, hq, heq⟩ := Option.map_eq_some_iff.mp h
    obtain ⟨hvalues, -⟩ := Prod.mk.inj heq
    obtain rfl : vs = (q :: ps).map (·.value) := (List.cons.inj hvalues).2
    have htail := safe_of_parseValues hq
    intro z hz
    obtain rfl | hz := List.mem_cons.mp hz
    · exact hp
    · exact htail z hz

/-- The text of an argument behind a number of blanks. -/
def SqlArg.valueText (n : ℕ) : SqlArg → ValueText
  | .quoted s => .pasted n (pasted_self s)
  | .escaped s => .escaped n s
  | .now => .now n

theorem SqlArg.safe_valueText (n : ℕ) (a : SqlArg) : (a.valueText n).safe ↔ a.Safe := by
  cases a with
  | quoted s => exact readBack_self_iff
  | escaped s => exact Iff.rfl
  | now => exact Iff.rfl

theorem valueList_eq : ∀ args : List (ℕ × SqlArg),
    valueList args = commaList ((args.map fun x => x.2.valueText x.1).map (·.text))
  | [] => rfl
  | [(n, a)] => by cases a <;> rfl
  | (n, a) :: y :: args => by
    have htext : List.replicate n 32 ++ a.text = (a.valueText n).text := by cases a <;> rfl
    rw [valueList, valueList_eq (y :: args), ← List.append_assoc, htext]
    rfl

theorem value_valueText (args : List (ℕ × SqlArg)) :
    (args.map fun x => x.2.valueText x.1).map (·.value) = args.map fun x => x.2.value := by
  rw [List.map_map]
  refine List.map_congr_left fun x _ => ?_
  obtain ⟨n, a⟩ := x
  cases a <;> rfl

/-- **The statement says what is meant exactly if its arguments are safe.** -/
theorem parseInsert_iff {n : ℕ} {args : List (ℕ × SqlArg)} (hargs : args ≠ []) :
    parseInsert head args.length
        (head ++ 40 :: (valueList args ++ 41 :: (List.replicate n 32 ++ [59]))) =
      some (args.map fun x => x.2.value) ↔ ∀ x ∈ args, x.2.Safe := by
  have hbody : parseInsert head args.length
      (head ++ 40 :: (valueList args ++ 41 :: (List.replicate n 32 ++ [59]))) =
      (parseValues args.length (valueList args ++ 41 :: (List.replicate n 32 ++ [59]))).bind fun p =>
        match p.2.dropWhile isBlank with
        | 59 :: s => if s.all isBlank then some p.1 else none
        | _ => none := by
    rw [parseInsert, if_pos (List.isPrefixOf_iff_prefix.mpr (List.prefix_append _ _)), List.drop_left]
    rfl
  have hlen : args.length = (args.map fun x => x.2.valueText x.1).length := (List.length_map _).symm
  have hsafe : (∀ p ∈ args.map fun x => x.2.valueText x.1, p.safe) ↔ ∀ x ∈ args, x.2.Safe :=
    List.forall_mem_map.trans (forall₂_congr fun x _ => x.2.safe_valueText x.1)
  rw [hbody, valueList_eq, hlen, ← value_valueText, ← hsafe]
  constructor
  · intro h
    obtain ⟨⟨vs, r⟩, hp, h⟩ := Option.bind_eq_some_iff.mp h
    split at h
    · split at h
      · obtain rfl : vs = _ := Option.some.inj h
        exact safe_of_parseValues hp
      · exact absurd h (by simp)
    · exact absurd h (by simp)
  · intro h
    rw [parseValues_of_safe (by simpa using hargs) h, Option.bind_some, dropWhile_replicate]
    rfl

end Values

/-! ## An `INSERT` with the names of its columns

Here the columns are read too.  They are words, and words come out as they are. -/

/-- An octet of a name. -/
def isWord (c : UInt8) : Bool :=
  (48 ≤ c && c ≤ 57) || (65 ≤ c && c ≤ 90) || (97 ≤ c && c ≤ 122) || c == 95

/-- Names with commas between them, up to the closing parenthesis; `cur` is what has been read of the
first. -/
def parseNames (cur : List UInt8) : List UInt8 → Option (List (List UInt8) × List UInt8)
  | [] => none
  | c :: s =>
    if isWord c then parseNames (cur ++ [c]) s
    else if cur = [] then none
    else if c = 44 then (parseNames [] s).map fun p => (cur :: p.1, p.2)
    else if c = 41 then some ([cur], s)
    else none

/-- The names and the values of one `INSERT` statement that begins with `head`, up to its names, has
`mid` between names and values, and is followed by nothing. -/
def parseInsertNames (head mid text : List UInt8) : Option (List (List UInt8) × List SqlValue) :=
  if head.isPrefixOf text then
    (parseNames [] (text.drop head.length)).bind fun p =>
      if mid.isPrefixOf p.2 then
        (parseValues p.1.length (p.2.drop mid.length)).bind fun q =>
          if q.2.all isBlank then some (p.1, q.1) else none
      else none
  else none

section Names

variable {head mid s w cur : List UInt8} {names : List (List UInt8)} {n : ℕ}

/-- The octets of a name are read. -/
theorem parseNames_append (h : ∀ c ∈ w, isWord c = true) :
    parseNames cur (w ++ s) = parseNames (cur ++ w) s := by
  induction w generalizing cur with
  | nil => rw [List.nil_append, List.append_nil]
  | cons c w ih =>
    obtain ⟨hc, hw⟩ := List.forall_mem_cons.mp h
    rw [List.cons_append, parseNames, if_pos hc, ih hw, ← List.append_cons]

/-- Names that are words are read back. -/
theorem parseNames_commaList : ∀ {names : List (List UInt8)}, names ≠ [] →
    (∀ w ∈ names, w ≠ [] ∧ ∀ c ∈ w, isWord c = true) →
      parseNames [] (commaList names ++ 41 :: s) = some (names, s)
  | [], h, _ => absurd rfl h
  | [w], _, h => by
    obtain ⟨hne, hword⟩ := h w List.mem_cons_self
    rw [commaList, parseNames_append hword, List.nil_append, parseNames, if_neg (by decide), if_neg hne]
    rfl
  | w :: y :: names, _, h => by
    obtain ⟨hne, hword⟩ := h w List.mem_cons_self
    have htail : parseNames [] (commaList (y :: names) ++ 41 :: s) = some (y :: names, s) :=
      parseNames_commaList (by simp) fun z hz => h z (List.mem_cons_of_mem _ hz)
    rw [commaList, List.append_assoc, parseNames_append hword, List.nil_append, List.cons_append,
      parseNames, if_neg (by decide), if_neg hne, if_pos rfl, htail]
    rfl

/-- **The statement has the names and says what is meant exactly if its values are safe.** -/
theorem parseInsertNames_iff {ps : List ValueText} (hne : names ≠ []) (hlen : names.length = ps.length)
    (hnames : ∀ w ∈ names, w ≠ [] ∧ ∀ c ∈ w, isWord c = true) :
    parseInsertNames head mid (head ++ (commaList names ++ 41 ::
        (mid ++ (commaList (ps.map (·.text)) ++ 41 :: List.replicate n 32)))) =
      some (names, ps.map (·.value)) ↔ ∀ p ∈ ps, p.safe := by
  have hps : ps ≠ [] := by
    rintro rfl
    exact hne (List.length_eq_zero_iff.mp hlen)
  have hblank : (List.replicate n (32 : UInt8)).all isBlank = true :=
    List.all_eq_true.mpr fun c hc => by rw [List.eq_of_mem_replicate hc]; decide
  rw [parseInsertNames, if_pos (List.isPrefixOf_iff_prefix.mpr (List.prefix_append _ _)), List.drop_left,
    parseNames_commaList hne hnames, Option.bind_some,
    if_pos (List.isPrefixOf_iff_prefix.mpr (List.prefix_append _ _)), List.drop_left, hlen]
  constructor
  · intro h
    obtain ⟨⟨vs, r⟩, hp, h⟩ := Option.bind_eq_some_iff.mp h
    split at h
    · obtain ⟨-, rfl⟩ := Prod.mk.inj (Option.some.inj h)
      exact safe_of_parseValues hp
    · exact absurd h (by simp)
  · intro h
    rw [parseValues_of_safe hps h, Option.bind_some, if_pos hblank]

end Names

end Machinery
