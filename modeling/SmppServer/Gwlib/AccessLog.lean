import SmppServer.Gwlib.Date

/-!
# Gwlib/AccessLog — the names of the access log

The access log has a date in its name, and a number behind it when it was continued in another file that
day.  `accesslog_file_size` goes on to the next number when the file has become too long,
`change_access_file_name` to the next day.  Both take the name apart as it comes: the extension begins at
the first dot, the number behind the last dash if no underscore follows it.

* `accesslogFileSize_iff` — the names whose number is increased as it should be.
* `changeAccessFileName_iff` — the names that are moved on to the next day.
-/

namespace SmppServer.AccessLog

open Machinery

/-! ## The code

Names are taken apart by `strtok`, by searches for a character and by a function that reverses a string and has
no source here.  Every copy goes to a buffer whose size is that of the argument, so each step may overrun one;
`none` is a call that does. -/

/-- `reversestring`, which is not among the sources: the string it returns for a string and the position of
its last character, and what the buffer of its argument holds then. -/
abbrev Reversestring := Octstr → ℤ → Octstr × Octstr

/-- **What the name says**: a string is returned reversed, be it in place or not. -/
structure Reversing (reversestring : Reversestring) : Prop where
  returned (s : Octstr) : (reversestring s (s.length - 1)).1 = s.reverse
  argument (s : Octstr) : (reversestring s (s.length - 1)).2 = s ∨
    (reversestring s (s.length - 1)).2 = s.reverse

/-- The file system: the sizes of the files, and whether a file can be opened for appending. -/
structure Files where
  stat : Octstr → Option ℕ
  fopen : Octstr → Bool

/-- The variables that last from call to call.  `writers` is set up by `alog_open`. -/
structure Statics where
  filename : Octstr
  gszFileName : Octstr := []
  counter : ℤ := 0
  iTemp : ℕ := 0
  iFlag1 : ℕ := 0
  writers : Bool := true
  deriving DecidableEq, Repr

/-- What a call returns, the name it passes to `fopen`, and the variables behind it. -/
structure Rotation (ρ : Type) where
  ret : ρ
  fopened : Option Octstr
  statics : Statics
  deriving DecidableEq, Repr

/-- `octstr_search_char` from the start. -/
def octstrSearchChar (s : Octstr) (c : UInt8) : Option ℕ :=
  if c ∈ s then some (s.takeWhile (· ≠ c)).length else none

/-- `strtok` with a new string: its first token, and what it holds then — it is ended behind the token. -/
def strtok (s : Octstr) (delim : UInt8) : Option (Octstr × Octstr) :=
  let skipped := s.takeWhile (· = delim)
  let token := (s.dropWhile (· = delim)).takeWhile (· ≠ delim)
  if token = [] then none else some (token, skipped ++ token)

/-- `strcpy` to a buffer of that size. -/
def strcpy (size : ℕ) (s : Octstr) : Option Octstr := if s.length < size then some s else none

/-- Conversion to `unsigned long`. -/
def toULong (v : ℤ) : ℤ := v % 2 ^ 64

section Code

variable (reversestring : Reversestring) (files : Files)

/-- The reversed string. -/
def reversed (s : Octstr) : Octstr := (reversestring s (s.length - 1)).1

/-- `szStr` without the number and the date; `none` if the token is missing, or the terminator would be
written in front of the buffer. -/
def originalName (logName : Octstr) : Option Octstr :=
  (strtok (reversed reversestring logName) 45).bind fun (chTemp, _) =>
    let iTemp := if 95 ∈ chTemp then 0 else chTemp.length + 1
    if iTemp + 11 ≤ logName.length then some (logName.take (logName.length - (iTemp + 11))) else none

/-- What `change_access_file_name` returns; `-1` is a pointer to nowhere. -/
inductive NewName
  | null
  | minusOne
  | octstr (newName : Octstr)
  deriving DecidableEq, Repr

/-- **`change_access_file_name`.** -/
def changeAccessFileName (now : RunDate) (accesslogName : Option Octstr) (statics : Statics) :
    Option (Rotation NewName) :=
  if statics.writers = false then some ⟨.null, none, statics⟩
  else
    match accesslogName with
    | none => some ⟨.null, none, statics⟩
    | some accesslogName =>
      let index := (octstrSearchChar accesslogName 46).getD accesslogName.length
      let remainingName := accesslogName.drop index
      (originalName reversestring (accesslogName.take index)).map fun original =>
        let newName := original ++ strftime now (octstrImm "_%Y_%m_%d") ++ remainingName
        if files.fopen newName then
          ⟨.octstr newName, some newName,
            { statics with counter := 0, gszFileName := newName, filename := newName }⟩
        else ⟨.minusOne, some newName, { statics with counter := 0 }⟩

/-- The string without what stands behind its last dash; `none` if there is none, as the loop that looks for
it then reads on behind the string. -/
def cutCounter (reversedName : Octstr) : Option Octstr :=
  (octstrSearchChar reversedName 45).map fun iCnt =>
    let szTemp := reversed reversestring reversedName
    szTemp.take (szTemp.length - iCnt - 1)

/-- The number, read from what `strtok` left of the reversed string. -/
def readCounter (szTemp : Octstr) : ℤ := toULong (atoi (reversed reversestring szTemp))

/-- What both branches do with the last token: with an underscore it belongs to the name, else it is the
number. -/
def takeCounter (counter : ℤ) (name reversedName : Octstr) (token : Octstr × Octstr) :
    Option (Octstr × ℤ) :=
  if 95 ∈ token.1 then some (name, counter)
  else (cutCounter reversestring reversedName).map fun logName =>
    (logName, readCounter reversestring token.2)

/-- `log_name` and the counter, for a name with a dot: `s-1_D-1.log` without `.log` and `-1`. -/
def dottedLogName (counter : ℤ) (oldName : Octstr) : Option (Octstr × ℤ) :=
  (strtok oldName 46).bind fun (chTemp, _) =>
    let (szTemp1, szTempStr) := reversestring chTemp (chTemp.length - 1)
    match strtok szTemp1 45 with
    | none => some (szTempStr, counter)
    | some token => takeCounter reversestring counter chTemp szTemp1 token

/-- `log_name` and the counter, for a name without a dot.  Without a token `log_name` is `NULL`, which
`octstr_copy` does not take. -/
def plainLogName (counter : ℤ) (oldName : Octstr) : Option (Octstr × ℤ) :=
  let szTemp := reversed reversestring oldName
  (strtok szTemp 45).bind (takeCounter reversestring counter oldName szTemp)

/-- The part of `accesslog_file_size` that opens the next file.  The counter is printed as an `int`. -/
def openNext (size : ℕ) (szFileName : Octstr) (statics : Statics) : Option (Rotation ℤ) :=
  let index := octstrSearchChar szFileName 46
  let remainingName := szFileName.drop (index.getD szFileName.length)
  let logName := if index.isSome then dottedLogName reversestring statics.counter szFileName
    else plainLogName reversestring statics.counter szFileName
  logName.bind fun (logName, counter) =>
    let counter := toULong (counter + 1)
    (strcpy size (octstrImm "-" ++ formatLd (toInt counter))).bind fun szTemp =>
      let newName := logName ++ szTemp ++ remainingName
      if files.fopen newName then
        if statics.writers then
          some ⟨0, some newName, { statics with counter, gszFileName := newName, iFlag1 := 1 }⟩
        else none
      else some ⟨-1, some newName, { statics with counter }⟩

/-- The name whose size is looked at: that of the argument in the first call only. -/
def currentName (statics : Statics) (accesslogFilename : Octstr) : Octstr :=
  if statics.iTemp = 0 then accesslogFilename else statics.gszFileName

/-- The first call takes over the name of its argument. -/
def firstCall (statics : Statics) (szFileName : Octstr) : Statics :=
  if statics.iTemp = 0 then { statics with gszFileName := szFileName, iTemp := 1 } else statics

/-- **`accesslog_file_size`.**  All buffers have the size of the argument with its terminator; the others
hold no more than parts of the name.  The size of the file is kept in an `int`. -/
def accesslogFileSize (iLogSize : ℤ) (accesslogFilename : Option Octstr) (statics : Statics) :
    Option (Rotation ℤ) :=
  match accesslogFilename with
  | none => some ⟨1, none, statics⟩
  | some accesslogFilename =>
    let iBytesToBeAloctd := accesslogFilename.length
    (strcpy (iBytesToBeAloctd + 1) (currentName statics accesslogFilename)).bind fun szFileName =>
      let statics := firstCall statics szFileName
      match files.stat szFileName with
      | none => some ⟨1, none, statics⟩
      | some size =>
        if iLogSize * 1024 * 1024 ≤ toInt size then
          openNext reversestring files (iBytesToBeAloctd + 1) szFileName statics
        else
          some ⟨0, none,
            if statics.iFlag1 = 0 then { statics with gszFileName := szFileName, iFlag1 := 1 }
            else statics⟩

end Code

/-! ## The names

What the functions take apart was put together like this: a base, a date, a number unless it is the first file
of the day, and an extension if there is one.  `Alike` are the names of one log. -/

/-- A date with a year of four digits. -/
@[ext] structure LogDate extends RunDate where
  year_digits : 1000 ≤ year ∧ year ≤ 9999
  deriving DecidableEq

/-- `_yyyy_mm_dd`. -/
def LogDate.text (d : LogDate) : Octstr := strftime d.toRunDate (octstrImm "_%Y_%m_%d")

/-- **The name of an access log**: `B_D`, `B_D.E`, `B_D-k` or `B_D-k.E`. -/
@[ext] structure LogPath where
  base : Octstr
  date : LogDate
  counter : Option ℕ
  extension : Option Octstr
  base_text : 0 ∉ base
  counter_pos : ∀ k ∈ counter, 0 < k
  extension_text : ∀ e ∈ extension, 0 ∉ e ∧ 46 ∉ e ∧ 47 ∉ e

namespace LogPath

/-- The number of the file, `0` for the first one. -/
def number (p : LogPath) : ℕ := p.counter.getD 0

def counterText (p : LogPath) : Octstr := p.counter.elim [] fun k => 45 :: decimal k

def extensionText (p : LogPath) : Octstr := p.extension.elim [] fun e => 46 :: e

/-- The name without its extension. -/
def stem (p : LogPath) : Octstr := p.base ++ (p.date.text ++ p.counterText)

def text (p : LogPath) : Octstr := p.stem ++ p.extensionText

/-- The next file of the day. -/
def next (p : LogPath) : LogPath :=
  { p with
    counter := some (p.number + 1)
    counter_pos := fun _ h => Option.some.inj h ▸ Nat.succ_pos _ }

theorem counter_pos_none : ∀ k ∈ (none : Option ℕ), 0 < k := by simp

/-- The first file of a day. -/
def onDay (p : LogPath) (now : LogDate) : LogPath :=
  { p with
    date := now
    counter := none
    counter_pos := counter_pos_none }

/-- Names of one log: they differ in the date and the number only. -/
def Alike (p q : LogPath) : Prop := p.base = q.base ∧ p.extension = q.extension

end LogPath

/-! ## Searching and tokens

What `strtok` and the searches do to a text that is known to have the character, or not to have it. -/

section Strings

variable {a b s : Octstr} {c : UInt8}

theorem takeWhile_ne_append (ha : c ∉ a) (hb : ∀ d ∈ b.head?, d = c) :
    (a ++ b).takeWhile (· ≠ c) = a ∧ (a ++ b).dropWhile (· ≠ c) = b := by
  have hall : ∀ d ∈ a, decide (d ≠ c) = true := fun d hd => by simpa using ne_of_mem_of_not_mem hd ha
  rw [List.takeWhile_append_of_pos hall, List.dropWhile_append_of_pos hall]
  cases b with
  | nil => simp
  | cons d b =>
    obtain rfl : d = c := hb d rfl
    simp

theorem drop_octstrSearchChar (s : Octstr) (c : UInt8) :
    s.drop ((octstrSearchChar s c).getD s.length) = s.dropWhile (· ≠ c) := by
  rw [octstrSearchChar]
  split
  · have happend := List.takeWhile_append_dropWhile (p := (· ≠ c)) (l := s)
    calc s.drop (s.takeWhile (· ≠ c)).length
        = (s.takeWhile (· ≠ c) ++ s.dropWhile (· ≠ c)).drop (s.takeWhile (· ≠ c)).length := by
          rw [happend]
      _ = s.dropWhile (· ≠ c) := List.drop_left
  · rename_i hc
    rw [Option.getD_none, List.drop_length, List.dropWhile_eq_nil_iff.mpr]
    exact fun d hd => by simpa using ne_of_mem_of_not_mem hd hc

theorem take_octstrSearchChar (s : Octstr) (c : UInt8) :
    s.take ((octstrSearchChar s c).getD s.length) = s.takeWhile (· ≠ c) := by
  have happend := List.takeWhile_append_dropWhile (p := (· ≠ c)) (l := s)
  rw [← drop_octstrSearchChar s c] at happend
  exact List.append_cancel_right ((List.take_append_drop _ s).trans happend.symm)

theorem head?_dropWhile_ne (s : Octstr) (c : UInt8) : ∀ d ∈ (s.dropWhile (· ≠ c)).head?, d = c := by
  intro d hd
  have hhead := List.head?_dropWhile_not (fun d : UInt8 => decide (d ≠ c)) s
  rw [Option.mem_def.mp hd] at hhead
  simpa using hhead

/-- A token at the start of the string. -/
theorem strtok_append (hne : a ≠ []) (ha : c ∉ a) (hb : ∀ d ∈ b.head?, d = c) :
    strtok (a ++ b) c = some (a, a) := by
  obtain ⟨d, u, rfl⟩ := List.exists_cons_of_ne_nil hne
  have hd : d ≠ c := by
    rintro rfl
    exact ha List.mem_cons_self
  have hskipped : (d :: u ++ b).takeWhile (· = c) = [] ∧ (d :: u ++ b).dropWhile (· = c) = d :: u ++ b := by
    simp [hd]
  rw [strtok, hskipped.1, hskipped.2, (takeWhile_ne_append ha hb).1]
  simp

/-- A token does not contain its delimiter. -/
theorem not_mem_of_strtok {token rest : Octstr} (h : strtok s c = some (token, rest)) : c ∉ token := by
  rw [strtok] at h
  split at h
  · exact absurd h (by simp)
  · obtain ⟨rfl, -⟩ := Prod.mk.inj (Option.some.inj h)
    intro hmem
    simpa using List.mem_takeWhile_imp hmem

end Strings

theorem reversed_eq {reversestring : Reversestring} (hrev : Reversing reversestring) (s : Octstr) :
    reversed reversestring s = s.reverse := hrev.returned s

/-! ## The parts of a name

Digits, underscores, dashes and dots keep the parts of a name apart, as long as the base has no dot.  A dot in
the base moves the start of the extension into it, and nothing behind can mend that. -/

section Parts

variable {c : UInt8} {n : ℕ} {p : LogPath}

theorem all_gwIsdigit_twoDigits : ∀ n < 32, (twoDigits n).all gwIsdigit = true := by decide

theorem not_mem_decimal (hc : gwIsdigit c = false) : c ∉ decimal n :=
  fun h => absurd (gwIsdigit_of_mem_decimal h) (by simp [hc])

theorem decimal_ne_nil (n : ℕ) : decimal n ≠ [] := (writes_decimal n).1

theorem LogDate.text_eq (d : LogDate) : d.text =
    95 :: (decimal d.year ++ 95 :: (twoDigits d.month ++ 95 :: twoDigits d.day)) := by
  simp [text, strftime, octstrImm]

theorem LogDate.length_year (d : LogDate) : (decimal d.year).length = 4 := by
  have hyear := d.year_digits
  have hle := (length_decimal_le_iff (n := d.year) (k := 4) (by norm_num)).mpr (by omega)
  have hgt := (not_congr (length_decimal_le_iff (n := d.year) (k := 3) (by norm_num))).mpr (by omega)
  omega

theorem LogDate.length_text (d : LogDate) : d.text.length = 11 := by
  rw [text_eq]
  simp [twoDigits, d.length_year]

/-- A date consists of digits and underscores. -/
theorem LogDate.not_mem_text (hc : gwIsdigit c = false) (h95 : c ≠ 95) (d : LogDate) : c ∉ d.text := by
  have hmonth := d.month_mem
  have hday := d.day_le
  have htwo {m : ℕ} (hm : m < 32) : c ∉ twoDigits m := fun h =>
    absurd (List.all_eq_true.mp (all_gwIsdigit_twoDigits m hm) c h) (by simp [hc])
  have hdate : c ∉ twoDigits d.month ∧ c ∉ twoDigits d.day := ⟨htwo (by omega), htwo (by omega)⟩
  rw [text_eq]
  simp [h95, not_mem_decimal hc, hdate]

theorem LogDate.text_injective : Function.Injective LogDate.text := by
  intro d d' h
  have hmonth := d.month_mem
  have hmonth' := d'.month_mem
  have hday := d.day_le
  have hday' := d'.day_le
  rw [text_eq, text_eq] at h
  obtain ⟨hyear, h⟩ := List.append_inj (List.cons.inj h).2 (d.length_year.trans d'.length_year.symm)
  obtain ⟨hm, hd⟩ := List.append_inj (List.cons.inj h).2 rfl
  exact LogDate.ext (decimal_injective hyear) ((twoDigits_inj (by omega) (by omega)).mp hm)
    ((twoDigits_inj (by omega) (by omega)).mp (List.cons.inj hd).2)

namespace LogPath

theorem counterText_none (h : p.counter = none) : p.counterText = [] := by rw [counterText, h]; rfl

theorem counterText_some {k : ℕ} (h : p.counter = some k) : p.counterText = 45 :: decimal k := by
  rw [counterText, h]
  rfl

/-- Behind the date stand digits and a dash. -/
theorem not_mem_counterText (hc : gwIsdigit c = false) (h45 : c ≠ 45) (p : LogPath) :
    c ∉ p.counterText := by
  cases h : p.counter with
  | none => simp [counterText_none h]
  | some k => simp [counterText_some h, h45, not_mem_decimal hc]

theorem head?_extensionText (p : LogPath) : ∀ d ∈ p.extensionText.head?, d = 46 := by
  rw [extensionText]
  cases p.extension <;> simp

theorem not_mem_stem (h : 46 ∉ p.base) : 46 ∉ p.stem := by
  rw [stem, List.mem_append, List.mem_append, not_or, not_or]
  exact ⟨h, p.date.not_mem_text (by decide) (by decide), p.not_mem_counterText (by decide) (by decide)⟩

theorem Alike.onDay_eq {q : LogPath} (h : p.Alike q) (now : LogDate) : p.onDay now = q.onDay now :=
  LogPath.ext h.1 rfl rfl h.2

/-- Of one log and one day, the names tell the numbers. -/
theorem Alike.number_eq {q : LogPath} (h : p.Alike q) (hdate : p.date = q.date) (htext : p.text = q.text) :
    p.number = q.number := by
  have hcounter : p.counterText = q.counterText := by
    rw [text, text, stem, stem, extensionText, extensionText, h.1, h.2, hdate] at htext
    exact List.append_cancel_left (List.append_cancel_left (List.append_cancel_right htext))
  rw [number, number]
  cases hp : p.counter <;> cases hq : q.counter
  · rfl
  · rw [counterText_none hp, counterText_some hq] at hcounter
    exact absurd hcounter (by simp)
  · rw [counterText_some hp, counterText_none hq] at hcounter
    exact absurd hcounter (by simp)
  · rw [counterText_some hp, counterText_some hq] at hcounter
    exact decimal_injective (List.cons.inj hcounter).2

/-- What stands from the first dot on, in a name whose base has none. -/
theorem split_text (h : 46 ∉ p.base) :
    p.text.takeWhile (· ≠ 46) = p.stem ∧ p.text.dropWhile (· ≠ 46) = p.extensionText :=
  takeWhile_ne_append (not_mem_stem h) p.head?_extensionText

/-- What stands from the first dot on, in a name whose base has one. -/
theorem dropWhile_text (h : 46 ∈ p.base) : p.text.dropWhile (· ≠ 46) =
    p.base.dropWhile (· ≠ 46) ++ (p.date.text ++ (p.counterText ++ p.extensionText)) := by
  have hne : p.base.dropWhile (· ≠ 46) ≠ [] := fun hnil => by
    simpa using List.dropWhile_eq_nil_iff.mp hnil 46 h
  rw [text, stem, List.append_assoc, List.append_assoc, List.dropWhile_append, if_neg]
  simpa [List.isEmpty_iff] using hne

/-! ## The number behind the last dash

The last token of the reversed name is the number or reaches into the date, and an underscore in it tells which.
So the counter that is read is the one in the name, or the one that was kept. -/

section Tokens

variable {reversestring : Reversestring} {k : ℕ}

/-- Without a number, the last token reaches into the date. -/
theorem strtok_reverse_none (h : p.counter = none) :
    ∃ token, strtok p.stem.reverse 45 = some (token, token) ∧ 95 ∈ token := by
  have hunder : 95 ∈ p.date.text.reverse := by simp [LogDate.text_eq]
  have hdash : 45 ∉ p.date.text.reverse ++ p.base.reverse.takeWhile (· ≠ 45) := by
    rw [List.mem_append, not_or, List.mem_reverse]
    refine ⟨p.date.not_mem_text (by decide) (by decide), fun hmem => ?_⟩
    simpa using List.mem_takeWhile_imp hmem
  have hstem : p.stem.reverse = (p.date.text.reverse ++ p.base.reverse.takeWhile (· ≠ 45)) ++
      p.base.reverse.dropWhile (· ≠ 45) := by
    rw [List.append_assoc, List.takeWhile_append_dropWhile, stem, counterText_none h, List.append_nil,
      List.reverse_append]
  rw [hstem, strtok_append (List.append_ne_nil_of_left_ne_nil (List.ne_nil_of_mem hunder) _) hdash
    (head?_dropWhile_ne _ _)]
  exact ⟨_, rfl, List.mem_append_left _ hunder⟩

theorem reverse_stem_some (h : p.counter = some k) :
    p.stem.reverse = (decimal k).reverse ++ 45 :: (p.base ++ p.date.text).reverse := by
  simp [stem, counterText_some h]

theorem not_mem_reverse_decimal (hc : gwIsdigit c = false) {k : ℕ} : c ∉ (decimal k).reverse := by
  rw [List.mem_reverse]
  exact not_mem_decimal hc

/-- With a number, the last token is the number. -/
theorem strtok_reverse_some (h : p.counter = some k) :
    strtok p.stem.reverse 45 = some ((decimal k).reverse, (decimal k).reverse) := by
  rw [reverse_stem_some h]
  exact strtok_append (by simp [decimal_ne_nil]) (not_mem_reverse_decimal (by decide)) (by simp)

/-- The number is cut off. -/
theorem cutCounter_stem (hrev : Reversing reversestring) (h : p.counter = some k) :
    cutCounter reversestring p.stem.reverse = some (p.base ++ p.date.text) := by
  have hstem : p.stem = (p.base ++ p.date.text) ++ 45 :: decimal k := by
    simp [stem, counterText_some h]
  have hsearch : octstrSearchChar p.stem.reverse 45 = some (decimal k).length := by
    have hdash : 45 ∉ (decimal k).reverse := not_mem_reverse_decimal (by decide)
    have hsplit := takeWhile_ne_append (b := 45 :: (p.base ++ p.date.text).reverse) hdash (by simp)
    rw [octstrSearchChar, reverse_stem_some h, if_pos (by simp), hsplit.1, List.length_reverse]
  have hlength : p.stem.length - (decimal k).length - 1 = (p.base ++ p.date.text).length := by
    rw [hstem, List.length_append, List.length_cons]
    omega
  rw [cutCounter, hsearch, Option.map_some]
  simp only [reversed_eq hrev, List.reverse_reverse]
  rw [hlength, hstem, List.take_left]

/-- The counter that is increased: the number in the name, else the one that is kept. -/
def startCounter (p : LogPath) (counter : ℤ) : ℤ :=
  p.counter.elim counter fun k => toULong (atoi (decimal k))

/-- **The last token is taken for what it is.** -/
theorem takeCounter_stem (hrev : Reversing reversestring) (p : LogPath) (counter : ℤ) :
    (strtok p.stem.reverse 45).bind (takeCounter reversestring counter p.stem p.stem.reverse) =
      some (p.base ++ p.date.text, p.startCounter counter) := by
  cases h : p.counter with
  | none =>
    obtain ⟨token, htoken, hunder⟩ := strtok_reverse_none h
    rw [htoken, Option.bind_some, takeCounter, if_pos hunder]
    simp [startCounter, h, stem, counterText_none h]
  | some k =>
    rw [strtok_reverse_some h, Option.bind_some, takeCounter, if_neg (not_mem_reverse_decimal (by decide)),
      cutCounter_stem hrev h]
    simp [startCounter, h, readCounter, reversed_eq hrev]

theorem strtok_stem_ne_none (p : LogPath) : strtok p.stem.reverse 45 ≠ none := by
  cases h : p.counter with
  | none =>
    obtain ⟨token, htoken, -⟩ := strtok_reverse_none h
    simp [htoken]
  | some k => simp [strtok_reverse_some h]

theorem plainLogName_stem (hrev : Reversing reversestring) (p : LogPath) (counter : ℤ) :
    plainLogName reversestring counter p.stem =
      some (p.base ++ p.date.text, p.startCounter counter) := by
  rw [plainLogName]
  simp only [reversed_eq hrev]
  exact takeCounter_stem hrev p counter

theorem dottedLogName_stem (hrev : Reversing reversestring) (hdot : 46 ∉ p.base) (counter : ℤ)
    (e : Octstr) :
    dottedLogName reversestring counter (p.stem ++ 46 :: e) =
      some (p.base ++ p.date.text, p.startCounter counter) := by
  have hne : p.stem ≠ [] := by simp [stem, LogDate.text_eq]
  have htake := takeCounter_stem hrev p counter
  rw [dottedLogName, strtok_append hne (not_mem_stem hdot) (by simp), Option.bind_some]
  dsimp only
  rw [hrev.returned]
  cases htoken : strtok p.stem.reverse 45 with
  | none => exact absurd htoken (strtok_stem_ne_none p)
  | some token => rwa [htoken, Option.bind_some] at htake

/-- **The number and the date are cut off.** -/
theorem originalName_stem (hrev : Reversing reversestring) (p : LogPath) :
    originalName reversestring p.stem = some p.base := by
  have hcut {n : ℕ} (hn : n = (p.date.text ++ p.counterText).length) :
      (if n ≤ p.stem.length then some (p.stem.take (p.stem.length - n)) else none) = some p.base := by
    rw [stem, List.length_append, ← hn, if_pos (Nat.le_add_left _ _), Nat.add_sub_cancel, List.take_left]
  have hdate := p.date.length_text
  rw [originalName, reversed_eq hrev]
  cases h : p.counter with
  | none =>
    obtain ⟨token, htoken, hunder⟩ := strtok_reverse_none h
    rw [htoken, Option.bind_some]
    simp only [if_pos hunder]
    exact hcut (by simp [counterText_none h, hdate])
  | some k =>
    rw [strtok_reverse_some h, Option.bind_some]
    simp only [if_neg (not_mem_reverse_decimal (c := 95) (by decide))]
    exact hcut (by simp [counterText_some h, hdate]; omega)

end Tokens

end LogPath

end Parts

/-! ## The next day

A name without a dot in its base loses its number and date and gets the new ones.  With a dot there, what stands
from it on is kept whatever happens, so the old date stays. -/

section Days

variable {reversestring : Reversestring} {files : Files} {now : LogDate} {p : LogPath} {statics : Statics}
  {name newName : Octstr} {r : Rotation NewName}

theorem exists_take_of_originalName {logName original : Octstr}
    (h : originalName reversestring logName = some original) : ∃ n, original = logName.take n := by
  obtain ⟨⟨chTemp, rest⟩, -, h⟩ := Option.bind_eq_some_iff.mp h
  obtain ⟨-, h⟩ := Option.ite_none_right_eq_some.mp h
  exact ⟨_, (Option.some.inj h).symm⟩

/-- A name keeps what stands from its first dot on. -/
theorem dropWhile_of_changeAccessFileName (hwriters : statics.writers = true)
    (h : changeAccessFileName reversestring files now.toRunDate (some name) statics = some r)
    (hopen : r.fopened = some newName) :
    newName.dropWhile (· ≠ 46) = name.dropWhile (· ≠ 46) := by
  rw [changeAccessFileName, if_neg (by simp [hwriters])] at h
  dsimp only at h
  rw [take_octstrSearchChar, drop_octstrSearchChar] at h
  obtain ⟨original, horiginal, rfl⟩ := Option.map_eq_some_iff.mp h
  have hnew : newName = original ++ now.text ++ name.dropWhile (· ≠ 46) := by
    split at hopen <;> exact (Option.some.inj hopen).symm
  have hdot : 46 ∉ original ++ now.text := by
    obtain ⟨n, rfl⟩ := exists_take_of_originalName horiginal
    rw [List.mem_append, not_or]
    refine ⟨fun hmem => ?_, now.not_mem_text (by decide) (by decide)⟩
    simpa using List.mem_takeWhile_imp (List.mem_of_mem_take hmem)
  rw [hnew]
  exact (takeWhile_ne_append hdot (head?_dropWhile_ne _ _)).2

/-- **A name without a dot in its base** is moved on to the new day. -/
theorem changeAccessFileName_text (hrev : Reversing reversestring) (hwriters : statics.writers = true)
    (hdot : 46 ∉ p.base) :
    changeAccessFileName reversestring files now.toRunDate (some p.text) statics =
      some
        (if files.fopen (p.onDay now).text then
          ⟨.octstr (p.onDay now).text, some (p.onDay now).text,
            { statics with counter := 0, gszFileName := (p.onDay now).text
                           filename := (p.onDay now).text }⟩
        else ⟨.minusOne, some (p.onDay now).text, { statics with counter := 0 }⟩) := by
  have htext : p.base ++ now.text ++ p.extensionText = (p.onDay now).text := by
    rw [LogPath.text, LogPath.stem, LogPath.counterText_none rfl, List.append_nil]
    rfl
  rw [changeAccessFileName, if_neg (by simp [hwriters])]
  dsimp only
  rw [take_octstrSearchChar, drop_octstrSearchChar, (LogPath.split_text hdot).1,
    (LogPath.split_text hdot).2, LogPath.originalName_stem hrev, Option.map_some, ← htext]
  rfl

/-- **The names that are moved on to the next day** are those with no dot in their base. -/
theorem changeAccessFileName_iff (hrev : Reversing reversestring) (hwriters : statics.writers = true)
    (hnow : now ≠ p.date) :
    (∃ r, changeAccessFileName reversestring files now.toRunDate (some p.text) statics = some r ∧
        r.fopened = some (p.onDay now).text) ↔ 46 ∉ p.base := by
  constructor
  · rintro ⟨r, hr, hopen⟩ hdot
    have hkept := dropWhile_of_changeAccessFileName hwriters hr hopen
    rw [LogPath.dropWhile_text hdot, LogPath.dropWhile_text (p := p.onDay now) hdot,
      LogPath.counterText_none (p := p.onDay now) rfl] at hkept
    have hdates := List.append_inj_left (List.append_cancel_left hkept)
      (now.length_text.trans p.date.length_text.symm)
    exact hnow (LogDate.text_injective hdates)
  · intro hdot
    rw [changeAccessFileName_text hrev hwriters hdot]
    refine ⟨_, rfl, ?_⟩
    split <;> rfl

end Days

/-! ## The next number

The next file of the day is opened if the counter is the one of this log, if an `int` can hold it, and if the
buffers have room.  Each of these is needed: the name that is opened otherwise differs from the right one behind
the first dot of its base, or in its number. -/

section Numbers

variable {v counter : ℤ} {m : ℕ} {p : LogPath}

theorem formatLd_eq_decimal_iff : formatLd v = decimal m ↔ v = m := by
  constructor
  · intro h
    rw [formatLd] at h
    split at h
    · have hdash : 45 ∈ decimal m := h ▸ List.mem_cons_self
      exact absurd (gwIsdigit_of_mem_decimal hdash) (by decide)
    · have hvalue := decimal_injective h
      omega
  · rintro rfl
    exact formatLd_natCast m

theorem not_mem_formatLd (v : ℤ) : 46 ∉ formatLd v := by
  have hdigits : 46 ∉ decimal v.natAbs := not_mem_decimal (by decide)
  rw [formatLd]
  split <;> simp [hdigits]

/-- The number that is printed is the next one if the counter was not used for another name, and the number
is an `int`. -/
theorem formatLd_startCounter_iff :
    formatLd (toInt (toULong (p.startCounter counter + 1))) = decimal (p.number + 1) ↔
      (p.counter = none → counter % 2 ^ 32 = 0) ∧ p.number + 1 < 2 ^ 31 := by
  rw [formatLd_eq_decimal_iff, LogPath.startCounter, LogPath.number]
  cases h : p.counter with
  | none =>
    rw [toULong, toInt, Int.bmod_def]
    simp only [Option.elim_none, Option.getD_none, true_implies]
    omega
  | some k =>
    simp only [Option.elim_some, Option.getD_some, reduceCtorEq, false_implies, true_and]
    constructor
    · intro hprinted
      have hlt := toInt_lt (toULong (toULong (atoi (decimal k)) + 1))
      omega
    · intro hlt
      rw [atoi_decimal (by omega), toULong, toULong, toInt, Int.bmod_def]
      omega

end Numbers

section Sizes

variable {reversestring : Reversestring} {files : Files} {p : LogPath} {statics : Statics}
  {size : ℕ} {counter counter' : ℤ} {name logName newName : Octstr} {r : Rotation ℤ}

theorem not_mem_of_takeCounter (hrev : Reversing reversestring) {reversedName : Octstr}
    {token : Octstr × Octstr} (hname : 46 ∉ name) (hreversed : 46 ∉ reversedName)
    (h : takeCounter reversestring counter name reversedName token = some (logName, counter')) :
    46 ∉ logName := by
  rw [takeCounter] at h
  split at h
  · obtain ⟨rfl, -⟩ := Prod.mk.inj (Option.some.inj h)
    exact hname
  · obtain ⟨cut, hcut, h⟩ := Option.map_eq_some_iff.mp h
    obtain ⟨iCnt, -, rfl⟩ := Option.map_eq_some_iff.mp hcut
    obtain ⟨rfl, -⟩ := Prod.mk.inj h
    rw [reversed_eq hrev]
    exact fun hmem => hreversed (List.mem_reverse.mp (List.mem_of_mem_take hmem))

theorem not_mem_of_dottedLogName (hrev : Reversing reversestring)
    (h : dottedLogName reversestring counter name = some (logName, counter')) : 46 ∉ logName := by
  obtain ⟨⟨chTemp, rest⟩, htoken, h⟩ := Option.bind_eq_some_iff.mp h
  have hdot := not_mem_of_strtok htoken
  dsimp only at h
  rw [hrev.returned] at h
  split at h
  · obtain ⟨hlog, -⟩ := Prod.mk.inj (Option.some.inj h)
    rw [← hlog]
    rcases hrev.argument chTemp with heq | heq
    · rwa [heq]
    · rwa [heq, List.mem_reverse]
  · exact not_mem_of_takeCounter hrev hdot (by rwa [List.mem_reverse]) h

theorem not_mem_of_plainLogName (hrev : Reversing reversestring) (hname : 46 ∉ name)
    (h : plainLogName reversestring counter name = some (logName, counter')) : 46 ∉ logName := by
  obtain ⟨token, -, h⟩ := Option.bind_eq_some_iff.mp h
  rw [reversed_eq hrev] at h
  exact not_mem_of_takeCounter hrev hname (by rwa [List.mem_reverse]) h

/-- A name keeps what stands from its first dot on. -/
theorem dropWhile_of_openNext (hrev : Reversing reversestring)
    (h : openNext reversestring files size name statics = some r) (hopen : r.fopened = some newName) :
    newName.dropWhile (· ≠ 46) = name.dropWhile (· ≠ 46) := by
  rw [openNext] at h
  dsimp only at h
  rw [drop_octstrSearchChar] at h
  obtain ⟨⟨logName, counter⟩, hlog, h⟩ := Option.bind_eq_some_iff.mp h
  obtain ⟨szTemp, hsprintf, h⟩ := Option.bind_eq_some_iff.mp h
  have hnew : newName = logName ++ szTemp ++ name.dropWhile (· ≠ 46) := by
    split at h
    · split at h
      · obtain rfl := Option.some.inj h
        exact (Option.some.inj hopen).symm
      · exact absurd h (by simp)
    · obtain rfl := Option.some.inj h
      exact (Option.some.inj hopen).symm
  have hlogdot : 46 ∉ logName := by
    split at hlog
    · exact not_mem_of_dottedLogName hrev hlog
    · rename_i hnone
      refine not_mem_of_plainLogName hrev (fun hmem => hnone ?_) hlog
      rw [octstrSearchChar, if_pos hmem]
      rfl
  have hdot : 46 ∉ logName ++ szTemp := by
    rw [strcpy] at hsprintf
    split at hsprintf
    · obtain rfl := Option.some.inj hsprintf
      rw [List.mem_append, List.mem_append, not_or, not_or]
      exact ⟨hlogdot, by decide, not_mem_formatLd _⟩
    · exact absurd hsprintf (by simp)
  rw [hnew]
  exact (takeWhile_ne_append hdot (head?_dropWhile_ne _ _)).2

/-- A name without a dot in its base is taken apart before its number. -/
theorem logName_text (hrev : Reversing reversestring) (hdot : 46 ∉ p.base) (counter : ℤ) :
    (if (octstrSearchChar p.text 46).isSome then dottedLogName reversestring counter p.text
      else plainLogName reversestring counter p.text) =
      some (p.base ++ p.date.text, p.startCounter counter) := by
  have hstem := LogPath.not_mem_stem hdot
  rw [octstrSearchChar]
  cases h : p.extension with
  | none =>
    have htext : p.text = p.stem := by simp [LogPath.text, LogPath.extensionText, h]
    rw [htext, if_neg (by simp [hstem])]
    exact LogPath.plainLogName_stem hrev p counter
  | some e =>
    have htext : p.text = p.stem ++ 46 :: e := by simp [LogPath.text, LogPath.extensionText, h]
    rw [htext, if_pos (by simp)]
    exact LogPath.dottedLogName_stem hrev hdot counter e

/-- What is opened next, for a name without a dot in its base. -/
theorem openNext_text (hrev : Reversing reversestring) (hwriters : statics.writers = true)
    (hdot : 46 ∉ p.base) {counter : ℤ} (hcounter : toULong (p.startCounter statics.counter + 1) = counter) :
    openNext reversestring files size p.text statics =
      (strcpy size (octstrImm "-" ++ formatLd (toInt counter))).map fun szTemp =>
        if files.fopen (p.base ++ p.date.text ++ szTemp ++ p.extensionText) then
          ⟨0, some (p.base ++ p.date.text ++ szTemp ++ p.extensionText),
            { statics with counter := counter
                           gszFileName := p.base ++ p.date.text ++ szTemp ++ p.extensionText
                           iFlag1 := 1 }⟩
        else ⟨-1, some (p.base ++ p.date.text ++ szTemp ++ p.extensionText),
          { statics with counter := counter }⟩ := by
  rw [openNext]
  dsimp only
  rw [drop_octstrSearchChar, (LogPath.split_text hdot).2, logName_text hrev hdot, Option.bind_some]
  dsimp only
  rw [hcounter]
  cases strcpy size (octstrImm "-" ++ formatLd (toInt counter)) with
  | none => rfl
  | some szTemp =>
    rw [Option.bind_some, Option.map_some, hwriters]
    split <;> rfl

/-- **When the next file is opened** as it should be, for an argument, a limit in megabytes and a size. -/
structure NextOpened (p : LogPath) (statics : Statics) (accesslogFilename : Octstr) (iLogSize : ℤ)
    (st_size : ℕ) : Prop where
  /-- the extension begins at the first dot -/
  base : 46 ∉ p.base
  /-- the buffers are made for the argument -/
  room : p.text.length ≤ accesslogFilename.length
  /-- the size is kept in an `int` -/
  seen : iLogSize * 1024 * 1024 ≤ toInt st_size
  /-- no file of another name was counted -/
  counter : p.counter = none → statics.counter % 2 ^ 32 = 0
  /-- the number is printed as an `int` -/
  number : p.number + 1 < 2 ^ 31

theorem text_next : p.next.text =
    p.base ++ p.date.text ++ (octstrImm "-" ++ decimal (p.number + 1)) ++ p.extensionText := by
  rw [LogPath.text, LogPath.stem, LogPath.counterText_some (p := p.next) rfl]
  simp [LogPath.next, LogPath.extensionText, octstrImm]

/-- The parts of a number's text and of a name are told apart. -/
theorem counter_of_text_next {szTemp : Octstr}
    (h : p.base ++ p.date.text ++ szTemp ++ p.extensionText = p.next.text) :
    szTemp = octstrImm "-" ++ decimal (p.number + 1) := by
  rw [text_next] at h
  exact List.append_cancel_left (List.append_cancel_right h)

/-- The names of a day are longer than their numbers. -/
theorem length_lt_length_text (hnumber : p.number + 1 < 2 ^ 31) :
    (octstrImm "-" ++ decimal (p.number + 1)).length < p.text.length + 1 := by
  have hlength := (length_decimal_le_iff (n := p.number + 1) (k := 10) (by norm_num)).mpr (by omega)
  have hdate := p.date.length_text
  rw [LogPath.text, LogPath.stem]
  simp only [List.length_append]
  have hdash : (octstrImm "-").length = 1 := by decide
  omega

@[simp] theorem firstCall_counter (statics : Statics) (szFileName : Octstr) :
    (firstCall statics szFileName).counter = statics.counter := by
  rw [firstCall]
  split <;> rfl

@[simp] theorem firstCall_writers (statics : Statics) (szFileName : Octstr) :
    (firstCall statics szFileName).writers = statics.writers := by
  rw [firstCall]
  split <;> rfl

theorem firstCall_iTemp (statics : Statics) (szFileName : Octstr) :
    (firstCall statics szFileName).iTemp ≠ 0 := by
  rw [firstCall]
  split
  · exact Nat.one_ne_zero
  · assumption

/-- Behind the first call the name is kept. -/
theorem currentName_of_iTemp {accesslogFilename : Octstr} (h : statics.iTemp ≠ 0) :
    currentName statics accesslogFilename = statics.gszFileName := if_neg h

theorem currentName_firstCall (statics : Statics) (accesslogFilename : Octstr) :
    currentName (firstCall statics (currentName statics accesslogFilename)) accesslogFilename =
      currentName statics accesslogFilename := by
  rw [firstCall]
  split
  · rfl
  · rfl

/-- What a call does with a file that is not there. -/
theorem accesslogFileSize_missing {accesslogFilename : Octstr}
    (hname : currentName statics accesslogFilename = p.text)
    (hroom : p.text.length < accesslogFilename.length + 1) (hstat : files.stat p.text = none)
    (iLogSize : ℤ) :
    accesslogFileSize reversestring files iLogSize (some accesslogFilename) statics =
      some ⟨1, none, firstCall statics p.text⟩ := by
  rw [accesslogFileSize]
  dsimp only
  rw [hname, strcpy, if_pos hroom, Option.bind_some]
  rw [hstat]

/-- What a call does with a file that is there. -/
theorem accesslogFileSize_eq {accesslogFilename : Octstr}
    (hname : currentName statics accesslogFilename = p.text) {st_size : ℕ}
    (hstat : files.stat p.text = some st_size) (iLogSize : ℤ) :
    accesslogFileSize reversestring files iLogSize (some accesslogFilename) statics =
      if p.text.length < accesslogFilename.length + 1 then
        if iLogSize * 1024 * 1024 ≤ toInt st_size then
          openNext reversestring files (accesslogFilename.length + 1) p.text (firstCall statics p.text)
        else
          some ⟨0, none,
            if (firstCall statics p.text).iFlag1 = 0 then
              { firstCall statics p.text with gszFileName := p.text, iFlag1 := 1 }
            else firstCall statics p.text⟩
      else none := by
  rw [accesslogFileSize]
  dsimp only
  rw [hname, strcpy]
  split
  · rw [Option.bind_some]
    rw [hstat]
  · rfl

/-- The names of two numbers differ behind the first dot of their base. -/
theorem dropWhile_text_next (h : 46 ∈ p.base) :
    p.next.text.dropWhile (· ≠ 46) ≠ p.text.dropWhile (· ≠ 46) := by
  rw [LogPath.dropWhile_text h, LogPath.dropWhile_text (p := p.next) h]
  intro heq
  have hcounter : p.next.counterText = p.counterText :=
    List.append_cancel_right (List.append_cancel_left (List.append_cancel_left heq))
  rw [LogPath.counterText_some (p := p.next) rfl] at hcounter
  cases hp : p.counter with
  | none =>
    rw [LogPath.counterText_none hp] at hcounter
    exact absurd hcounter (by simp)
  | some k =>
    rw [LogPath.counterText_some hp, LogPath.number, hp] at hcounter
    exact absurd (decimal_injective (List.cons.inj hcounter).2) (Nat.succ_ne_self k)

/-- The next number is opened where it is written right. -/
theorem openNext_next (hrev : Reversing reversestring) (hwriters : statics.writers = true)
    (hsize : p.text.length < size) (hdot : 46 ∉ p.base)
    (hprinted : (p.counter = none → statics.counter % 2 ^ 32 = 0) ∧ p.number + 1 < 2 ^ 31) :
    openNext reversestring files size p.text statics =
      some
        (if files.fopen p.next.text then
          ⟨0, some p.next.text,
            { statics with counter := toULong (p.startCounter statics.counter + 1)
                           gszFileName := p.next.text
                           iFlag1 := 1 }⟩
        else ⟨-1, some p.next.text,
          { statics with counter := toULong (p.startCounter statics.counter + 1) }⟩) := by
  have hlength := length_lt_length_text hprinted.2
  rw [openNext_text hrev hwriters hdot rfl, formatLd_startCounter_iff.mpr hprinted, strcpy,
    if_pos (by omega), Option.map_some, ← text_next]

/-- The next number is opened, or it is not written right. -/
theorem openNext_iff (hrev : Reversing reversestring) (hwriters : statics.writers = true)
    (hsize : p.text.length < size) :
    (∃ r, openNext reversestring files size p.text statics = some r ∧ r.fopened = some p.next.text) ↔
      46 ∉ p.base ∧ (p.counter = none → statics.counter % 2 ^ 32 = 0) ∧ p.number + 1 < 2 ^ 31 := by
  constructor
  · rintro ⟨r, hr, hopen⟩
    have hdot : 46 ∉ p.base := fun h =>
      dropWhile_text_next h (dropWhile_of_openNext hrev hr hopen)
    rw [openNext_text hrev hwriters hdot rfl] at hr
    obtain ⟨szTemp, hsprintf, rfl⟩ := Option.map_eq_some_iff.mp hr
    have htext : p.base ++ p.date.text ++ szTemp ++ p.extensionText = p.next.text := by
      split at hopen <;> exact Option.some.inj hopen
    rw [counter_of_text_next htext, strcpy] at hsprintf
    obtain ⟨-, hsprintf⟩ := Option.ite_none_right_eq_some.mp hsprintf
    exact ⟨hdot, formatLd_startCounter_iff.mp (List.append_cancel_left (Option.some.inj hsprintf))⟩
  · rintro ⟨hdot, hprinted⟩
    rw [openNext_next hrev hwriters hsize hdot hprinted]
    refine ⟨_, rfl, ?_⟩
    split <;> rfl

/-- **The files whose numbers are increased** by `accesslog_file_size`. -/
theorem accesslogFileSize_iff (hrev : Reversing reversestring) (hwriters : statics.writers = true)
    {accesslogFilename : Octstr} (hname : currentName statics accesslogFilename = p.text) {st_size : ℕ}
    (hstat : files.stat p.text = some st_size) (iLogSize : ℤ) :
    (∃ r, accesslogFileSize reversestring files iLogSize (some accesslogFilename) statics = some r ∧
        r.fopened = some p.next.text) ↔
      NextOpened p statics accesslogFilename iLogSize st_size := by
  rw [accesslogFileSize_eq hname hstat]
  by_cases hroom : p.text.length < accesslogFilename.length + 1
  · rw [if_pos hroom]
    by_cases hseen : iLogSize * 1024 * 1024 ≤ toInt st_size
    · rw [if_pos hseen, openNext_iff hrev (by simpa using hwriters) hroom, firstCall_counter]
      exact ⟨fun h => ⟨h.1, Nat.le_of_lt_succ hroom, hseen, h.2.1, h.2.2⟩,
        fun h => ⟨h.base, h.counter, h.number⟩⟩
    · rw [if_neg hseen]
      refine ⟨?_, fun h => absurd h.seen hseen⟩
      rintro ⟨r, hr, hopen⟩
      obtain rfl := Option.some.inj hr
      exact absurd hopen (by simp)
  · rw [if_neg hroom]
    refine ⟨fun ⟨r, hr, _⟩ => absurd hr (by simp), fun h => absurd (Nat.lt_succ_of_le h.room) hroom⟩

end Sizes

end SmppServer.AccessLog
