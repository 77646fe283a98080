import SmppServer.Machinery.Exec
import SmppServer.Gwlib.AccessLog

/-!
# Gwlib/ManageLog — the access log from day to day

`manage_log_thread` looks at the clock in every round: on another day it calls `change_access_file_name`
with the name of the log, else `accesslog_file_size`.  What the log should be is a path and the paths that
were opened since the day began; each round leaves it, goes on to the next number or begins a new day.

* `follows_run` — the thread follows the log as it should be, in rounds whose steps go right.
* `rotation_names` — the names that are opened, of a single call and over all rounds.
-/

namespace SmppServer.AccessLog

open Machinery

/-! ## The code

One round reads the clock, compares the day with the one it knows and calls one of the two functions of
`Gwlib/AccessLog`. -/

/-- What a round finds: the clock, which is the same at all its readings, and the files. -/
structure Round where
  now : LogDate
  files : Files

/-- The variables of the thread; `opened` notes the files that were opened since the day began. -/
structure Manager where
  dateString : Octstr
  accessFileName : Octstr
  statics : Statics
  opened : List Octstr
  deriving DecidableEq, Repr

/-- `get_log_format_datetime`. -/
def getLogFormatDatetime (now : LogDate) : Octstr := strftime now.toRunDate (octstrImm "%Y_%m_%d")

/-- A round of `manage_log_thread`, as far as the access log goes; `none` if it does not come to its end.
The pointer to nowhere is duplicated. -/
def manageLogRound (reversestring : Reversestring) (iLogSize : ℤ) (m : Manager) (round : Round) :
    Option Manager :=
  let compareString := getLogFormatDatetime round.now
  if m.dateString ≠ compareString then
    (changeAccessFileName reversestring round.files round.now.toRunDate (some m.accessFileName)
        m.statics).bind fun r =>
      match r.ret with
      | .null => some { m with dateString := compareString, statics := r.statics }
      | .minusOne => none
      | .octstr newName =>
        some
          { dateString := compareString
            accessFileName := newName
            statics := r.statics
            opened := [newName] }
  else
    (accesslogFileSize reversestring round.files iLogSize (some m.accessFileName) m.statics).map fun (r : Rotation ℤ) =>
      { m with
        statics := r.statics
        opened := if r.ret = 0 then m.opened ++ r.fopened.toList else m.opened }

/-! ## What the log should be

A log of a day is the file that is written and the ones written before.  A round leaves it, continues it in the
next file or begins another day; this mentions no buffer and no pointer. -/

/-- The day, the file that is written, the one the day began with, and all that were opened that day. -/
structure DayLog where
  day : LogDate
  path : LogPath
  first : LogPath
  opened : List LogPath

namespace DayLog

/-- A log that begins with a file. -/
def start (day : LogDate) (p : LogPath) : DayLog := ⟨day, p, p, [p]⟩

/-- The file has reached the limit. -/
def Due (iLogSize : ℤ) (files : Files) (p : LogPath) : Prop :=
  ∃ st_size ∈ files.stat p.text, iLogSize * 1024 * 1024 ≤ st_size

instance (iLogSize : ℤ) (files : Files) (p : LogPath) : Decidable (Due iLogSize files p) :=
  inferInstanceAs (Decidable (∃ st_size ∈ files.stat p.text, iLogSize * 1024 * 1024 ≤ st_size))

theorem due_iff {iLogSize : ℤ} {files : Files} {p : LogPath} {st_size : ℕ}
    (hstat : files.stat p.text = some st_size) :
    Due iLogSize files p ↔ iLogSize * 1024 * 1024 ≤ st_size := by
  simp [Due, hstat]

/-- Another day begins with a file of its own; a file that has reached the limit is followed by the next one,
if that can be opened. -/
def step (iLogSize : ℤ) (log : DayLog) (round : Round) : DayLog :=
  if round.now ≠ log.day then
    ⟨round.now, log.path.onDay round.now, log.path.onDay round.now, [log.path.onDay round.now]⟩
  else if Due iLogSize round.files log.path ∧ round.files.fopen log.path.next.text = true then
    { log with path := log.path.next, opened := log.opened ++ [log.path.next] }
  else log

/-- The rounds one after the other. -/
def run (iLogSize : ℤ) (log : DayLog) (rounds : List Round) : DayLog := rounds.foldl (step iLogSize) log

/-- **A round that goes right**: a new day's file can be opened.  On the same day the buffers, which are made
for the name the day began with, have room for the name, and if the file has reached the limit its size is
seen, the next number is an `int`, and a first file is not left with a number that could not be opened. -/
structure GoesRight (iLogSize : ℤ) (log : DayLog) (round : Round) : Prop where
  reopened : round.now ≠ log.day → round.files.fopen (log.path.onDay round.now).text = true
  room : round.now = log.day → log.path.text.length ≤ log.first.text.length
  due : round.now = log.day → ∀ st_size ∈ round.files.stat log.path.text,
    iLogSize * 1024 * 1024 ≤ st_size →
      iLogSize * 1024 * 1024 ≤ toInt st_size ∧ log.path.number + 1 < 2 ^ 31 ∧
        (round.files.fopen log.path.next.text = true ∨ log.path.counter ≠ none)

/-- All rounds go right. -/
def AllGoRight (iLogSize : ℤ) (log : DayLog) (rounds : List Round) : Prop :=
  Along (fun log round => some (step iLogSize log round)) (GoesRight iLogSize) log rounds

/-! ## What is kept

The files of a day have rising numbers, so no file is opened twice. -/

/-- The files of a day have one base, one date and one extension, and each has a larger number than those
before. -/
structure Tidy (log : DayLog) : Prop where
  alike : ∀ q ∈ log.opened, q.Alike log.path
  date : ∀ q ∈ log.opened, q.date = log.path.date
  le_number : ∀ q ∈ log.opened, q.number ≤ log.path.number
  numbers : log.opened.Pairwise fun q q' => q.number < q'.number

variable {iLogSize : ℤ} {log : DayLog} {round : Round}

theorem tidy_singleton (day : LogDate) (p first : LogPath) : Tidy ⟨day, p, first, [p]⟩ where
  alike := List.forall_mem_singleton.mpr ⟨rfl, rfl⟩
  date := List.forall_mem_singleton.mpr rfl
  le_number := List.forall_mem_singleton.mpr (Nat.le_refl _)
  numbers := List.pairwise_singleton _ _

theorem Tidy.next (h : Tidy log) :
    Tidy { log with path := log.path.next, opened := log.opened ++ [log.path.next] } where
  alike := List.forall_mem_append.mpr ⟨h.alike, List.forall_mem_singleton.mpr ⟨rfl, rfl⟩⟩
  date := List.forall_mem_append.mpr ⟨h.date, List.forall_mem_singleton.mpr rfl⟩
  le_number := List.forall_mem_append.mpr
    ⟨fun q hq => (h.le_number q hq).trans (Nat.le_succ _), List.forall_mem_singleton.mpr (Nat.le_refl _)⟩
  numbers := List.pairwise_append.mpr ⟨h.numbers, List.pairwise_singleton _ _, fun q hq =>
    List.forall_mem_singleton.mpr (Nat.lt_succ_of_le (h.le_number q hq))⟩

theorem Tidy.step (h : Tidy log) (round : Round) : Tidy (log.step iLogSize round) := by
  rw [DayLog.step]
  split
  · exact tidy_singleton _ _ _
  · split
    · exact h.next
    · exact h

theorem Tidy.run (h : Tidy log) (rounds : List Round) : Tidy (log.run iLogSize rounds) := by
  induction rounds generalizing log with
  | nil => exact h
  | cons round rounds ih => exact ih (h.step round)

/-- **A day's names differ.** -/
theorem Tidy.nodup (h : Tidy log) : (log.opened.map LogPath.text).Nodup := by
  refine List.pairwise_map.mpr (h.numbers.imp_of_mem fun {q q'} hq hq' hlt htext => ?_)
  have halike := h.alike q hq
  have halike' := h.alike q' hq'
  have hnumber := LogPath.Alike.number_eq ⟨halike.1.trans halike'.1.symm, halike.2.trans halike'.2.symm⟩
    ((h.date q hq).trans (h.date q' hq').symm) htext
  exact Nat.ne_of_lt hlt hnumber

/-- The base and the extension are kept. -/
theorem alike_step (iLogSize : ℤ) (log : DayLog) (round : Round) :
    (log.step iLogSize round).path.Alike log.path := by
  rw [DayLog.step]
  split
  · exact ⟨rfl, rfl⟩
  · split <;> exact ⟨rfl, rfl⟩

theorem alike_run (log : DayLog) (rounds : List Round) :
    (log.run iLogSize rounds).path.Alike log.path := by
  induction rounds generalizing log with
  | nil => exact ⟨rfl, rfl⟩
  | cons round rounds ih =>
    have hrest := ih (log.step iLogSize round)
    have hstep := alike_step iLogSize log round
    exact ⟨hrest.1.trans hstep.1, hrest.2.trans hstep.2⟩

end DayLog

/-! ## The thread follows

The variables of the thread say what the log is, and every round that goes right keeps them so.  From a single
call the theorem goes to all rounds by the run lemma. -/

section Following

variable {reversestring : Reversestring} {iLogSize : ℤ} {log : DayLog} {m : Manager} {round : Round}

/-- **The thread follows the log**: its variables say what the log is. -/
structure Follows (log : DayLog) (m : Manager) : Prop where
  day : m.dateString = getLogFormatDatetime log.day
  argument : m.accessFileName = log.first.text
  first : log.first.Alike log.path
  name : currentName m.statics m.accessFileName = log.path.text
  counter : log.path.counter = none → m.statics.counter % 2 ^ 32 = 0
  writers : m.statics.writers = true
  opened : m.opened = log.opened.map LogPath.text

theorem getLogFormatDatetime_inj {d d' : LogDate} :
    getLogFormatDatetime d = getLogFormatDatetime d' ↔ d = d' := by
  refine ⟨fun h => LogDate.text_injective ?_, congrArg getLogFormatDatetime⟩
  exact congrArg (95 :: ·) h

/-- A new day is followed. -/
theorem Follows.newDay (hrev : Reversing reversestring) (h : Follows log m) (hbase : 46 ∉ log.path.base)
    (hday : round.now ≠ log.day) (hgoes : log.GoesRight iLogSize round) :
    ∃ m', manageLogRound reversestring iLogSize m round = some m' ∧
      Follows (log.step iLogSize round) m' := by
  have hdate : m.dateString ≠ getLogFormatDatetime round.now := by
    rw [h.day]
    exact fun heq => hday (getLogFormatDatetime_inj.mp heq).symm
  have hfirst : 46 ∉ log.first.base := h.first.1 ▸ hbase
  rw [manageLogRound, DayLog.step, if_pos hday, if_pos hdate, h.argument,
    changeAccessFileName_text hrev h.writers hfirst, h.first.onDay_eq, if_pos (hgoes.reopened hday),
    Option.bind_some]
  refine ⟨_, rfl, ?_⟩
  exact
    { day := rfl
      argument := rfl
      first := ⟨rfl, rfl⟩
      name := by
        rw [currentName]
        split <;> rfl
      counter := fun _ => rfl
      writers := h.writers
      opened := rfl }

/-- A round in which nothing is opened leaves the log. -/
theorem Follows.unchanged (h : Follows log m) {statics : Statics}
    (hname : currentName statics m.accessFileName = log.path.text)
    (hcounter : log.path.counter = none → statics.counter % 2 ^ 32 = 0)
    (hwriters : statics.writers = true) : Follows log { m with statics := statics } where
  day := h.day
  argument := h.argument
  first := h.first
  name := hname
  counter := hcounter
  writers := hwriters
  opened := h.opened

/-- The name after the first call in a round is still that of the log. -/
theorem Follows.name_firstCall (h : Follows log m) :
    currentName (firstCall m.statics log.path.text) m.accessFileName = log.path.text := by
  rw [← h.name]
  exact currentName_firstCall _ _

/-- A round whose file has reached the limit. -/
theorem Follows.due (hrev : Reversing reversestring) (h : Follows log m) (hbase : 46 ∉ log.path.base)
    (hroom : log.path.text.length < m.accessFileName.length + 1) (hnumber : log.path.number + 1 < 2 ^ 31)
    (hopens : round.files.fopen log.path.next.text = true ∨ log.path.counter ≠ none) :
    ∃ r, openNext reversestring round.files (m.accessFileName.length + 1) log.path.text
        (firstCall m.statics log.path.text) = some r ∧
      Follows
        (if round.files.fopen log.path.next.text = true then
          { log with path := log.path.next, opened := log.opened ++ [log.path.next] } else log)
        { m with
          statics := r.statics
          opened := if r.ret = 0 then m.opened ++ r.fopened.toList else m.opened } := by
  have hiTemp := firstCall_iTemp m.statics log.path.text
  have hwriters : (firstCall m.statics log.path.text).writers = true := by simpa using h.writers
  refine ⟨_, openNext_next hrev hwriters hroom hbase ⟨by simpa using h.counter, hnumber⟩, ?_⟩
  split
  · exact
      { day := h.day
        argument := h.argument
        first := h.first
        name := currentName_of_iTemp hiTemp
        counter := fun hnone => absurd hnone (by simp [LogPath.next])
        writers := hwriters
        opened := by simp [h.opened] }
  · rename_i hclosed
    have hcounter := hopens.resolve_left hclosed
    have hname := (currentName_of_iTemp hiTemp).symm.trans h.name_firstCall
    exact h.unchanged ((currentName_of_iTemp hiTemp).trans hname) (fun hnone => absurd hnone hcounter)
      hwriters

/-- A round of the same day is followed. -/
theorem Follows.sameDay (hrev : Reversing reversestring) (h : Follows log m) (hbase : 46 ∉ log.path.base)
    (hday : round.now = log.day) (hgoes : log.GoesRight iLogSize round) :
    ∃ m', manageLogRound reversestring iLogSize m round = some m' ∧
      Follows (log.step iLogSize round) m' := by
  have hdate : ¬ m.dateString ≠ getLogFormatDatetime round.now := by
    rw [h.day, hday, not_not]
  have hroom : log.path.text.length < m.accessFileName.length + 1 := by
    rw [h.argument]
    exact Nat.lt_succ_of_le (hgoes.room hday)
  have hunchanged : Follows log { m with statics := firstCall m.statics log.path.text } :=
    h.unchanged h.name_firstCall (by simpa using h.counter) (by simpa using h.writers)
  rw [manageLogRound, DayLog.step, if_neg (not_not.mpr hday), if_neg hdate]
  cases hstat : round.files.stat log.path.text with
  | none =>
    have hdue : ¬ DayLog.Due iLogSize round.files log.path := by simp [DayLog.Due, hstat]
    rw [accesslogFileSize_missing h.name hroom hstat, if_neg fun h => hdue h.1]
    exact ⟨_, rfl, hunchanged⟩
  | some st_size =>
    have hright := hgoes.due hday st_size hstat
    rw [accesslogFileSize_eq h.name hstat, if_pos hroom]
    by_cases hseen : iLogSize * 1024 * 1024 ≤ toInt st_size
    · have hlimit : iLogSize * 1024 * 1024 ≤ st_size := hseen.trans (toInt_natCast_le st_size)
      have hdue : DayLog.Due iLogSize round.files log.path := (DayLog.due_iff hstat).mpr hlimit
      obtain ⟨-, hnumber, hopens⟩ := hright hlimit
      obtain ⟨r, hr, hfollows⟩ := h.due hrev hbase hroom hnumber hopens
      rw [if_pos hseen, hr]
      simp only [hdue, true_and]
      exact ⟨_, rfl, hfollows⟩
    · have hdue : ¬ DayLog.Due iLogSize round.files log.path :=
        (DayLog.due_iff hstat).not.mpr fun hlimit => hseen (hright hlimit).1
      have hnext : ¬ (DayLog.Due iLogSize round.files log.path ∧
          round.files.fopen log.path.next.text = true) := fun hnext => hdue hnext.1
      have hnoted : Follows log { m with
          statics := { firstCall m.statics log.path.text with gszFileName := log.path.text, iFlag1 := 1 } } :=
        h.unchanged (currentName_of_iTemp (firstCall_iTemp m.statics log.path.text))
          (by simpa using h.counter) (by simpa using h.writers)
      rw [if_neg hseen, if_neg hnext, Option.map_some]
      refine ⟨_, rfl, ?_⟩
      dsimp only
      rw [if_pos rfl, Option.toList_none, List.append_nil]
      split
      · exact hnoted
      · exact hunchanged

/-- **The thread follows the log** through rounds that go right. -/
theorem follows_run (hrev : Reversing reversestring) (h : Follows log m) (hbase : 46 ∉ log.path.base)
    {rounds : List Round} (hgoes : log.AllGoRight iLogSize rounds) :
    ∃ m', exec (manageLogRound reversestring iLogSize) m rounds = some m' ∧
      Follows (log.run iLogSize rounds) m' := by
  induction rounds generalizing log m with
  | nil => exact ⟨m, rfl, h⟩
  | cons round rounds ih =>
    have hround : log.GoesRight iLogSize round := hgoes.head
    have hstep : ∃ m₁, manageLogRound reversestring iLogSize m round = some m₁ ∧
        Follows (log.step iLogSize round) m₁ := by
      by_cases hday : round.now = log.day
      · exact h.sameDay hrev hbase hday hround
      · exact h.newDay hrev hbase hday hround
    obtain ⟨m₁, hm₁, hfollows⟩ := hstep
    have hbase₁ : 46 ∉ (log.step iLogSize round).path.base :=
      (DayLog.alike_step iLogSize log round).1 ▸ hbase
    obtain ⟨m', hrest, hfollows'⟩ := ih hfollows hbase₁ (hgoes.tail rfl)
    exact ⟨m', exec_cons_eq_some.mpr ⟨m₁, hm₁, hrest⟩, hfollows'⟩

end Following

/-- The thread when it begins with a file. -/
def Manager.start (day : LogDate) (p : LogPath) : Manager :=
  ⟨getLogFormatDatetime day, p.text, { filename := p.text }, [p.text]⟩

theorem follows_start (day : LogDate) (p : LogPath) : Follows (.start day p) (.start day p) where
  day := rfl
  argument := rfl
  first := ⟨rfl, rfl⟩
  name := rfl
  counter _ := rfl
  writers := rfl
  opened := rfl

/-- **The names of the access log.**  A file that has reached the limit is followed by the next number exactly
if `NextOpened` holds, and a new day begins with a file of the same log exactly if the base has no dot.
Through rounds that go right the thread writes the files that it should; it keeps the base and the
extension and opens no file twice in a day. -/
theorem rotation_names {reversestring : Reversestring} (hrev : Reversing reversestring) :
    (∀ (files : Files) (statics : Statics) (p : LogPath) (accesslogFilename : Octstr) (st_size : ℕ)
      (iLogSize : ℤ), statics.writers = true → currentName statics accesslogFilename = p.text →
      files.stat p.text = some st_size → iLogSize * 1024 * 1024 ≤ st_size →
      ((∃ r, accesslogFileSize reversestring files iLogSize (some accesslogFilename) statics = some r ∧
          r.fopened = some p.next.text) ↔ NextOpened p statics accesslogFilename iLogSize st_size)) ∧
    (∀ (files : Files) (statics : Statics) (p : LogPath) (now : LogDate), statics.writers = true →
      now ≠ p.date →
      ((∃ r, changeAccessFileName reversestring files now.toRunDate (some p.text) statics = some r ∧
          r.fopened = some (p.onDay now).text) ↔ 46 ∉ p.base)) ∧
    ∀ (iLogSize : ℤ) (day : LogDate) (p : LogPath) (rounds : List Round), 46 ∉ p.base →
      (DayLog.start day p).AllGoRight iLogSize rounds →
      ∃ m', exec (manageLogRound reversestring iLogSize) (.start day p) rounds = some m' ∧
        Follows ((DayLog.start day p).run iLogSize rounds) m' ∧
        ((DayLog.start day p).run iLogSize rounds).path.Alike p ∧ m'.opened.Nodup := by
  refine ⟨fun files statics p name st_size iLogSize hwriters hname hstat _ =>
      accesslogFileSize_iff hrev hwriters hname hstat iLogSize,
    fun files statics p now hwriters hnow => changeAccessFileName_iff hrev hwriters hnow,
    fun iLogSize day p rounds hbase hgoes => ?_⟩
  obtain ⟨m', hrun, hfollows⟩ := follows_run hrev (follows_start day p) hbase hgoes
  refine ⟨m', hrun, hfollows, DayLog.alike_run _ rounds, hfollows.opened ▸ ?_⟩
  exact ((DayLog.tidy_singleton day p p).run rounds).nodup

/-- The 31st of March and the 1st of April 2012. -/
def sampleDate : LogDate := ⟨⟨⟨2012, 3, 31, by decide, by decide⟩, by decide⟩, by decide⟩

def sampleNextDate : LogDate := ⟨⟨⟨2012, 4, 1, by decide, by decide⟩, by decide⟩, by decide⟩

/-- A log with that base and the extension `log`. -/
def sampleLogPath (base : Octstr) (h : 0 ∉ base) : LogPath where
  base := base
  date := sampleDate
  counter := none
  extension := some (octstrImm "log")
  base_text := h
  counter_pos := LogPath.counter_pos_none
  extension_text := by decide

/-- All files have ten megabytes, and all can be opened. -/
def sampleFiles : Files := ⟨fun _ => some 10485760, fun _ => true⟩

/-- A file is continued in a second one, and the next day begins with a third. -/
theorem rotation_names_sampleFiles :
    let p := sampleLogPath (octstrImm "/var/log/smpp-access") (by decide)
    (∃ r, accesslogFileSize (fun s _ => (s.reverse, s.reverse)) sampleFiles 10 (some p.text)
        { filename := p.text } = some r ∧ r.fopened = some p.next.text) ∧
      (∃ r, changeAccessFileName (fun s _ => (s.reverse, s.reverse)) sampleFiles sampleNextDate.toRunDate
        (some p.text) { filename := p.text } = some r ∧ r.fopened = some (p.onDay sampleNextDate).text) ∧
      ∃ m', exec (manageLogRound (fun s _ => (s.reverse, s.reverse)) 10) (.start sampleDate p)
          [⟨sampleDate, sampleFiles⟩, ⟨sampleNextDate, sampleFiles⟩] = some m' ∧
        Follows ((DayLog.start sampleDate p).run 10
          [⟨sampleDate, sampleFiles⟩, ⟨sampleNextDate, sampleFiles⟩]) m' ∧
        ((DayLog.start sampleDate p).run 10
          [⟨sampleDate, sampleFiles⟩, ⟨sampleNextDate, sampleFiles⟩]).path.Alike p ∧ m'.opened.Nodup := by
  intro p
  have hrev : Reversing fun s _ => (s.reverse, s.reverse) := ⟨fun _ => rfl, fun _ => .inr rfl⟩
  obtain ⟨hsize, hday, hrounds⟩ := rotation_names hrev
  have hbase : 46 ∉ p.base := by decide
  refine ⟨(hsize _ _ p _ 10485760 10 rfl rfl rfl (by decide)).mpr ?_, ?_, ?_⟩
  · exact ⟨hbase, Nat.le_refl _, by decide, fun _ => rfl, by decide⟩
  · exact (hday _ _ p _ rfl (by decide)).mpr hbase
  · refine hrounds 10 sampleDate p _ hbase ⟨⟨?_, ?_, ?_⟩, ⟨?_, ?_, ?_⟩, trivial⟩
    · exact fun h => absurd rfl h
    · exact fun _ => Nat.le_refl _
    · intro _ st_size hstat _
      obtain rfl := Option.some.inj hstat
      exact ⟨by decide, by decide, .inl rfl⟩
    · exact fun _ => rfl
    · intro h
      exact absurd h (by decide)
    · intro h
      exact absurd h (by decide)

/-- **A dot in a directory**: the log `./access` is continued outside of its directory. -/
theorem not_rotation_names :
    let p := sampleLogPath (octstrImm "./access") (by decide)
    ∃ r, accesslogFileSize (fun s _ => (s.reverse, s.reverse)) sampleFiles 10 (some p.text)
        { filename := p.text } = some r ∧
      r.fopened = some (octstrImm "/access_2012_03_31-1./access_2012_03_31.log") ∧
      r.fopened ≠ some p.next.text :=
  ⟨_, rfl, by decide, by decide⟩

end SmppServer.AccessLog
