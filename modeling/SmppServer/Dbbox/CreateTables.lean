import SmppServer.Gwlib.Date

/-!
# Dbbox/CreateTables — a table for every day

`mis_create_table` and `status_create_table` create the tables for the days to come, from the day they are
run to the end of the next month.  Month numbers and days are read back from what `strftime` writes; the
month's length is taken from a table, in which February is corrected in leap years.

* `createTables_iff` — the run dates for which each of these days gets its table.
-/

namespace SmppServer.SmppDbbox

open Machinery

/-! ## The code

Both tools are the same loops with other texts: `Tool` holds what differs.  The answers of the database are a
function of the statements made so far, so that a run is determined by its date and its database. -/

/-- The answer of the database to a statement. -/
inductive QueryResult
  | done
  | tableExists
  | failed
  deriving DecidableEq, Repr

/-- The statements of a run. -/
inductive Statement
  | createTable (name : Octstr)
  | createIndex (name : Octstr)
  deriving DecidableEq, Repr

/-- Why a run ends early: a statement failed, or a name or a statement overran its buffer. -/
inductive Stop
  | failed (issued : List Statement)
  | overrun
  deriving DecidableEq, Repr

/-- What the two tools have each for itself: the columns of the table, those of the index, and how the month
of the first loop is written. -/
structure Tool where
  table : List Octstr
  indexFields : List Octstr
  monthText : RunDate → Octstr

/-- The text of a statement. -/
def Tool.query (tool : Tool) : Statement → Octstr
  | .createTable name =>
    octstrImm "CREATE TABLE " ++ name ++ octstrImm " ( " ++ tool.table.flatten ++ octstrImm " ); "
  | .createIndex name =>
    octstrImm "CREATE INDEX " ++ name ++ octstrImm "_ind" ++ octstrImm " ON " ++ name ++ octstrImm "(" ++
      (tool.indexFields.intersperse (octstrImm ",")).flatten ++ octstrImm ");"

/-- The database: what it answers to a statement may depend on those before. -/
abbrev Database := List Statement → Statement → QueryResult

/-- One round of the loops.  The name is put together in a buffer of 20 octets and the statement in one of
500; an existing table is as good as a new one. -/
def createDay (tool : Tool) (mysqlQuery : Database) (monthName : Octstr) (issued : List Statement) (i : ℕ) :
    Except Stop (List Statement) :=
  let tableName := monthName ++ (if i ≤ 9 then octstrImm "_0" else octstrImm "_") ++ decimal i
  let create := Statement.createTable tableName
  let index := Statement.createIndex tableName
  if tableName.length < 20 ∧ (tool.query create).length < 500 then
    match mysqlQuery issued create with
    | .failed => .error (.failed (issued ++ [create]))
    | .tableExists => .ok (issued ++ [create])
    | .done => if (tool.query index).length < 500 then .ok (issued ++ [create, index]) else .error .overrun
  else .error .overrun

/-- `for (i = day; i <= k; i++)`. -/
def createDays (tool : Tool) (mysqlQuery : Database) (monthName : Octstr) (day k : ℕ)
    (issued : List Statement) : Except Stop (List Statement) :=
  (List.range' day (k + 1 - day)).foldlM (createDay tool mysqlQuery monthName) issued

/-- `month`: how many days the months have. -/
def monthTable : List ℕ := [31, 28, 31, 30, 31, 30, 31, 31, 30, 31, 30, 30]

/-- The length of a month, with the correction for leap years. -/
def monthLength (now : RunDate) (number : ℤ) (k : ℕ) : ℕ :=
  if number = 2 then
    let number3 := atoi (strftime now (octstrImm "%Y"))
    if number3 % 400 = 0 ∨ (number3 % 100 ≠ 0 ∧ number3 % 4 = 0) then 29 else k
  else k

/-- The loops of both tools: the rest of this month, and the next one. -/
def createTables (tool : Tool) (mysqlQuery : Database) (now : RunDate) (argTableName : Octstr) :
    Except Stop (List Statement) := do
  let number := (atoi (strftime now (octstrImm "%m"))).toNat
  let day := (atoi (strftime now (octstrImm "%d"))).toNat
  let k := monthLength now number (monthTable.getD (number - 1) 0)
  let issued ← createDays tool mysqlQuery (argTableName ++ tool.monthText now) day k []
  -- behind December comes January; the leap year is still that of the run date
  let number := if number = 12 then 0 else number
  let k := monthTable.getD number 0
  let number := number + 1
  let k := monthLength now number k
  createDays tool mysqlQuery
    (argTableName ++ (if number ≤ 9 then octstrImm "_0" else octstrImm "_") ++ decimal number) 1 k issued

/-- `mis_create_table`. -/
def misTool : Tool where
  table := ["SNo int primary key auto_increment,", "ESMEAccName varchar(40) ,", "ESMEAccMsgId varchar(40) ,",
    "SMSCId varchar(40) ,", "SMSCMsgId varchar(68),", "SourceAddr varchar(40),",
    "DestinationAddr varchar(40),", "RecvTime datetime,", "SubmittedStat int ,", "SubmitTime datetime,",
    "DeliveredStat int ,", "DeliverTime datetime,", "RetryValue int,", "UDH varchar(40),",
    "Content text"].map octstrImm
  indexFields := ["SMSCMsgId", "ESMEAccMsgId", "DestinationAddr", "ESMEAccName"].map octstrImm
  monthText now := octstrImm "_" ++ strftime now (octstrImm "%m")

/-- `status_create_table`. -/
def statusTool : Tool where
  table := ["SNo int primary key auto_increment,", "SMSCId varchar(40) ,", "SMSCMsgId varchar(68),",
    "DestinationAddr varchar(20),", "DeliveredStat int ,", "DeliverTime datetime"].map octstrImm
  indexFields := ["SMSCMsgId", "DestinationAddr"].map octstrImm
  monthText now := strftime now (octstrImm "_%m")

def misCreateTable : Database → RunDate → Octstr → Except Stop (List Statement) := createTables misTool

def statusCreateTable : Database → RunDate → Octstr → Except Stop (List Statement) :=
  createTables statusTool

/-! ## What it is for -/

/-- The names of the tables that are created. -/
def tableNames (issued : List Statement) : List Octstr :=
  issued.filterMap fun
    | .createTable name => some name
    | .createIndex _ => none

/-- `name_MM_DD`. -/
def tableName (argTableName : Octstr) (month day : ℕ) : Octstr :=
  argTableName ++ 95 :: twoDigits month ++ 95 :: twoDigits day

/-- **A table for every day** from the run date to the end of the next month, each created once. -/
def CreatesEachDay (create : RunDate → Octstr → Except Stop (List Statement)) (now : RunDate)
    (argTableName : Octstr) : Prop :=
  ∃ issued, create now argTableName = .ok issued ∧ (tableNames issued).Nodup ∧
    ∀ name, name ∈ tableNames issued ↔
      ∃ d ∈ now.toEndOfNextMonth, name = tableName argTableName d.month d.day

/-! ## The texts

The name of a table ends with the month and the day in two digits each. -/

theorem dayText_eq : ∀ n < 32,
    (if n ≤ 9 then octstrImm "_0" else octstrImm "_") ++ decimal n = 95 :: twoDigits n := by decide

/-- Names of tables tell the days apart. -/
theorem tableName_inj {argTableName : Octstr} {m m' d d' : ℕ} (hm : m < 32) (hm' : m' < 32) (hd : d < 32)
    (hd' : d' < 32) : tableName argTableName m d = tableName argTableName m' d' ↔ m = m' ∧ d = d' := by
  rw [tableName, tableName, List.append_assoc, List.append_assoc, List.append_cancel_left_eq]
  constructor
  · intro h
    obtain ⟨hmonth, hday⟩ := List.append_inj h rfl
    exact ⟨(twoDigits_inj hm hm').mp (List.cons.inj hmonth).2,
      (twoDigits_inj hd hd').mp (List.cons.inj hday).2⟩
  · rintro ⟨rfl, rfl⟩
    rfl

/-! ## The loops

A round either makes its table or stops the run, and which of them depends on the length of the name alone.  So
the loops are what `tableNames` lists, up to the first name that does not fit. -/

section Loops

variable {tool : Tool} {mysqlQuery : Database} {i : ℕ}

/-- The statements about a table whose name fits its buffer fit theirs. -/
def Tool.Fits (tool : Tool) : Prop := ∀ name : Octstr, name.length < 20 →
  (tool.query (.createTable name)).length < 500 ∧ (tool.query (.createIndex name)).length < 500

theorem Tool.fits_of_length (htable : (tool.table.map List.length).sum ≤ 400)
    (hindex : ((tool.indexFields.intersperse (octstrImm ",")).map List.length).sum ≤ 400) :
    tool.Fits := by
  intro name hname
  rw [← List.length_flatten] at htable hindex
  simp only [query, List.length_append]
  have hwords : (octstrImm "CREATE TABLE ").length = 13 ∧ (octstrImm " ( ").length = 3 ∧
      (octstrImm " ); ").length = 4 ∧ (octstrImm "CREATE INDEX ").length = 13 ∧
      (octstrImm "_ind").length = 4 ∧ (octstrImm " ON ").length = 4 ∧ (octstrImm "(").length = 1 ∧
      (octstrImm ");").length = 2 := by decide
  omega

theorem misTool_fits : misTool.Fits := Tool.fits_of_length (by decide) (by decide)

theorem statusTool_fits : statusTool.Fits := Tool.fits_of_length (by decide) (by decide)

theorem tableNames_append (issued issued' : List Statement) :
    tableNames (issued ++ issued') = tableNames issued ++ tableNames issued' :=
  List.filterMap_append

/-- One round creates the table of its day, if the name fits its buffer. -/
theorem createDay_eq (htool : tool.Fits) (hmysql : ∀ issued st, mysqlQuery issued st ≠ .failed)
    (monthName : Octstr) (hi : i < 32) (issued : List Statement) :
    if monthName.length + 3 < 20 then
      ∃ issued', createDay tool mysqlQuery monthName issued i = .ok issued' ∧
        tableNames issued' = tableNames issued ++ [monthName ++ 95 :: twoDigits i]
    else createDay tool mysqlQuery monthName issued i = .error .overrun := by
  have hname : monthName ++ (if i ≤ 9 then octstrImm "_0" else octstrImm "_") ++ decimal i =
      monthName ++ 95 :: twoDigits i := by rw [List.append_assoc, dayText_eq i hi]
  have hlength : (monthName ++ 95 :: twoDigits i).length = monthName.length + 3 := by
    simp [twoDigits]
  rw [createDay, hname, hlength]
  split
  · rename_i hshort
    obtain ⟨hcreate, hindex⟩ := htool (monthName ++ 95 :: twoDigits i) (by rwa [hlength])
    rw [if_pos ⟨hshort, hcreate⟩]
    cases hquery : mysqlQuery issued (.createTable (monthName ++ 95 :: twoDigits i)) with
    | failed => exact absurd hquery (hmysql _ _)
    | tableExists => exact ⟨_, rfl, tableNames_append _ _⟩
    | done => exact ⟨_, if_pos hindex, tableNames_append _ _⟩
  · rename_i hlong
    rw [if_neg fun h => hlong h.1]

/-- The loop creates the tables of its days, or overruns the buffer at the first. -/
theorem createDays_eq (htool : tool.Fits) (hmysql : ∀ issued st, mysqlQuery issued st ≠ .failed)
    (monthName : Octstr) (day : ℕ) {k : ℕ} (hk : k < 32) (issued : List Statement) :
    if monthName.length + 3 < 20 then
      ∃ issued', createDays tool mysqlQuery monthName day k issued = .ok issued' ∧
        tableNames issued' = tableNames issued ++
          (List.range' day (k + 1 - day)).map fun i => monthName ++ 95 :: twoDigits i
    else day ≤ k → createDays tool mysqlQuery monthName day k issued = .error .overrun := by
  rw [createDays]
  split
  · rename_i hshort
    have hdays : ∀ i ∈ List.range' day (k + 1 - day), i < 32 := by
      intro i hi
      have hrange := List.mem_range'_1.mp hi
      omega
    generalize List.range' day (k + 1 - day) = days at hdays
    induction days generalizing issued with
    | nil => exact ⟨issued, rfl, by simp⟩
    | cons i days ih =>
      have hday := createDay_eq htool hmysql monthName (hdays i List.mem_cons_self) issued
      rw [if_pos hshort] at hday
      obtain ⟨issued₁, hround, hnames₁⟩ := hday
      obtain ⟨issued₂, hrest, hnames₂⟩ := ih issued₁ fun j hj => hdays j (List.mem_cons_of_mem i hj)
      refine ⟨issued₂, ?_, ?_⟩
      · rw [List.foldlM_cons, hround]
        exact hrest
      · rw [hnames₂, hnames₁, List.append_assoc, List.singleton_append, List.map_cons]
  · rename_i hlong
    intro hday
    have hfirst := createDay_eq htool hmysql monthName (show day < 32 by omega) issued
    rw [if_neg hlong] at hfirst
    rw [show k + 1 - day = (k - day) + 1 by omega, List.range'_succ, List.foldlM_cons, hfirst]
    rfl

end Loops

/-! ## The lengths of the months

The date is read back from its own text, and `atoi` of two digits is the number again.  What is left is
arithmetic of the calendar: `daysTaken` is right for every month but December, to which the table gives 30 days. -/

section Months

variable {now : RunDate}

theorem atoi_strftime_year (now : RunDate) : atoi (strftime now (octstrImm "%Y")) = now.year := by
  have htext : strftime now (octstrImm "%Y") = decimal now.year := List.append_nil _
  rw [htext, atoi_decimal now.year_lt]

theorem atoi_strftime_month (now : RunDate) : (atoi (strftime now (octstrImm "%m"))).toNat = now.month := by
  have hmonth := now.month_mem
  have htext : strftime now (octstrImm "%m") = twoDigits now.month := List.append_nil _
  rw [htext, atoi_twoDigits _ (by omega), Int.toNat_natCast]

theorem atoi_strftime_day (now : RunDate) : (atoi (strftime now (octstrImm "%d"))).toNat = now.day := by
  have hday := now.day_le
  have htext : strftime now (octstrImm "%d") = twoDigits now.day := List.append_nil _
  rw [htext, atoi_twoDigits _ (by omega), Int.toNat_natCast]

/-- How many days the loops take a month to have. -/
def daysTaken (year month : ℕ) : ℕ := if month = 12 then 30 else daysIn year month

theorem daysTaken_lt (year month : ℕ) : daysTaken year month < 32 := by
  have hdays := daysIn_mem year month
  rw [daysTaken]
  split <;> omega

/-- **The length of a month** is right, but for December. -/
theorem monthLength_eq (now : RunDate) {number : ℕ} (h1 : 1 ≤ number) (h12 : number ≤ 12) :
    monthLength now number (monthTable.getD (number - 1) 0) = daysTaken now.year number := by
  have hleap : ((now.year : ℤ) % 400 = 0 ∨ ((now.year : ℤ) % 100 ≠ 0 ∧ (now.year : ℤ) % 4 = 0)) ↔
      IsLeap now.year := by
    rw [IsLeap]
    omega
  rw [monthLength, atoi_strftime_year]
  by_cases h2 : number = 2
  · subst h2
    simp only [hleap]
    rfl
  · rw [if_neg (by exact_mod_cast h2)]
    interval_cases number <;> first | rfl | exact absurd rfl h2

/-- The text of the month in the second loop. -/
theorem nextMonthText_eq {number : ℕ} (h : number < 32) (argTableName : Octstr) :
    argTableName ++ (if number ≤ 9 then octstrImm "_0" else octstrImm "_") ++ decimal number =
      argTableName ++ 95 :: twoDigits number := by
  rw [List.append_assoc, dayText_eq number h]

/-- **The two loops**, with the months and days of the run date. -/
theorem createTables_eq {tool : Tool} (mysqlQuery : Database) (argTableName : Octstr)
    (htext : tool.monthText now = 95 :: twoDigits now.month) :
    createTables tool mysqlQuery now argTableName =
      (createDays tool mysqlQuery (argTableName ++ 95 :: twoDigits now.month) now.day
        (daysTaken now.year now.month) []).bind
      (createDays tool mysqlQuery (argTableName ++ 95 :: twoDigits now.nextMonth) 1
        (daysTaken now.year now.nextMonth)) := by
  obtain ⟨h1, h12⟩ := now.month_mem
  obtain ⟨hn1, hn12⟩ := now.nextMonth_mem
  have hnext : (if now.month = 12 then 0 else now.month) + 1 = now.nextMonth := by
    rw [Date.nextMonth]
    split <;> rfl
  have hthis := monthLength_eq now h1 h12
  have hthat := monthLength_eq now hn1 hn12
  rw [← hnext, Nat.add_sub_cancel] at hthat
  rw [createTables]
  simp only [atoi_strftime_month, atoi_strftime_day]
  rw [hthis, hthat, htext, nextMonthText_eq (by omega), hnext]
  rfl

end Months

/-! ## The run

With the loops and the months known, a run is a list of names.  From January to October these are the names of
the days asked for; in the last two months the 31st of December is missing; and a name of more than 13 octets
overruns its buffer. -/

section Run

variable {tool : Tool} {mysqlQuery : Database} {now : RunDate} {argTableName : Octstr}

/-- The names a run comes to, where they fit their buffer. -/
def namesTaken (now : RunDate) (argTableName : Octstr) : List Octstr :=
  (List.range' now.day (daysTaken now.year now.month + 1 - now.day)).map
      (tableName argTableName now.month) ++
    (List.range' 1 (daysTaken now.year now.nextMonth)).map (tableName argTableName now.nextMonth)

theorem length_monthName (month : ℕ) :
    (argTableName ++ 95 :: twoDigits month).length = argTableName.length + 3 := by
  simp [twoDigits]

theorem createTables_short (htool : tool.Fits) (hmysql : ∀ issued st, mysqlQuery issued st ≠ .failed)
    (htext : tool.monthText now = 95 :: twoDigits now.month) (hshort : argTableName.length ≤ 13) :
    ∃ issued, createTables tool mysqlQuery now argTableName = .ok issued ∧
      tableNames issued = namesTaken now argTableName := by
  have hthis := createDays_eq htool hmysql (argTableName ++ 95 :: twoDigits now.month) now.day
    (daysTaken_lt now.year now.month) []
  rw [length_monthName, if_pos (by omega)] at hthis
  obtain ⟨issued₁, hthis, hnames₁⟩ := hthis
  have hthat := createDays_eq htool hmysql (argTableName ++ 95 :: twoDigits now.nextMonth) 1
    (daysTaken_lt now.year now.nextMonth) issued₁
  rw [length_monthName, if_pos (by omega)] at hthat
  obtain ⟨issued₂, hthat, hnames₂⟩ := hthat
  refine ⟨issued₂, ?_, ?_⟩
  · rw [createTables_eq mysqlQuery argTableName htext, hthis]
    exact hthat
  · rw [hnames₂, hnames₁]
    rfl

/-- A name that is too long overruns its buffer in one of the loops. -/
theorem createTables_long (htool : tool.Fits) (hmysql : ∀ issued st, mysqlQuery issued st ≠ .failed)
    (htext : tool.monthText now = 95 :: twoDigits now.month) (hlong : ¬ argTableName.length ≤ 13) :
    createTables tool mysqlQuery now argTableName = .error .overrun := by
  have hloop (month day k : ℕ) (hk : k < 32) (hday : day ≤ k) (issued : List Statement) :
      createDays tool mysqlQuery (argTableName ++ 95 :: twoDigits month) day k issued =
        .error .overrun := by
    have hdays := createDays_eq htool hmysql (argTableName ++ 95 :: twoDigits month) day hk issued
    rw [length_monthName, if_neg (by omega)] at hdays
    exact hdays hday
  have hthat : 1 ≤ daysTaken now.year now.nextMonth := by
    have hdays := daysIn_mem now.year now.nextMonth
    rw [daysTaken]
    split <;> omega
  rw [createTables_eq mysqlQuery argTableName htext]
  by_cases hday : now.day ≤ daysTaken now.year now.month
  · rw [hloop _ _ _ (daysTaken_lt _ _) hday]
    rfl
  · -- the 31st of December: the first loop makes no round
    have hnone : createDays tool mysqlQuery (argTableName ++ 95 :: twoDigits now.month) now.day
        (daysTaken now.year now.month) [] = .ok [] := by
      rw [createDays, show daysTaken now.year now.month + 1 - now.day = 0 by omega]
      rfl
    rw [hnone]
    exact hloop _ _ _ (daysTaken_lt _ _) hthat []

theorem mem_namesTaken {name : Octstr} : name ∈ namesTaken now argTableName ↔
    (∃ i, now.day ≤ i ∧ i ≤ daysTaken now.year now.month ∧ name = tableName argTableName now.month i) ∨
      ∃ i, 1 ≤ i ∧ i ≤ daysTaken now.year now.nextMonth ∧
        name = tableName argTableName now.nextMonth i := by
  simp only [namesTaken, List.mem_append, List.mem_map, List.mem_range'_1]
  refine or_congr (exists_congr fun i => ?_) (exists_congr fun i => ?_)
  · rw [eq_comm (a := name), ← and_assoc]
    exact and_congr_left fun _ => by omega
  · rw [eq_comm (a := name), ← and_assoc]
    exact and_congr_left fun _ => by omega

/-- No name comes twice. -/
theorem nodup_namesTaken (now : RunDate) (argTableName : Octstr) :
    (namesTaken now argTableName).Nodup := by
  have hmonth := now.month_mem
  have hnext := now.nextMonth_mem
  have hne : now.month ≠ now.nextMonth := by
    rw [Date.nextMonth]
    split <;> omega
  have hdays (month day k : ℕ) (hm : month < 32) (hk : k < 32) :
      ((List.range' day (k + 1 - day)).map (tableName argTableName month)).Nodup := by
    refine List.Nodup.map_on (fun i hi j hj hij => ?_) List.nodup_range'
    rw [List.mem_range'_1] at hi hj
    exact ((tableName_inj hm hm (by omega) (by omega)).mp hij).2
  refine List.Nodup.append (hdays _ _ _ (by omega) (daysTaken_lt _ _))
    (hdays _ 1 _ (by omega) (daysTaken_lt _ _)) ?_
  intro name hthis hthat
  obtain ⟨i, hi, rfl⟩ := List.mem_map.mp hthis
  obtain ⟨j, hj, hij⟩ := List.mem_map.mp hthat
  have hk := daysTaken_lt now.year now.month
  have hk' := daysTaken_lt now.year now.nextMonth
  rw [List.mem_range'_1] at hi hj
  exact hne ((tableName_inj (by omega) (by omega) (by omega) (by omega)).mp hij).1.symm

/-- The last day of the year never gets its table. -/
theorem not_mem_namesTaken (now : RunDate) (argTableName : Octstr) :
    tableName argTableName 12 31 ∉ namesTaken now argTableName := by
  intro hmem
  have hmonth := now.month_mem
  have hnext := now.nextMonth_mem
  have hshort (month i : ℕ) (hm : month < 32) (hi : i ≤ daysTaken now.year month)
      (hname : tableName argTableName 12 31 = tableName argTableName month i) : False := by
    have hk := daysTaken_lt now.year month
    obtain ⟨rfl, rfl⟩ := (tableName_inj (by omega) hm (by omega) (by omega)).mp hname
    rw [daysTaken, if_pos rfl] at hi
    omega
  obtain ⟨i, -, hi, hname⟩ | ⟨i, -, hi, hname⟩ := mem_namesTaken.mp hmem
  · exact hshort _ i (by omega) hi hname
  · exact hshort _ i (by omega) hi hname

/-- The last day of the year is wanted then. -/
theorem mem_toEndOfNextMonth_lastDay (h : now.month = 11 ∨ now.month = 12) :
    ∃ d ∈ now.toEndOfNextMonth, d.month = 12 ∧ d.day = 31 := by
  let lastDay : Date := ⟨now.year, 12, 31, by decide, ⟨by decide, le_rfl⟩⟩
  refine ⟨lastDay, Date.mem_toEndOfNextMonth.mpr ?_, rfl, rfl⟩
  rcases h with h | h
  · refine .inr ⟨?_, ?_⟩
    · rw [Date.nextMonthYear, if_neg (by omega)]
    · rw [Date.nextMonth, if_neg (by omega), h]
  · exact .inl ⟨rfl, h.symm, now.day_le⟩

/-- From January to October the names are those of the days. -/
theorem mem_namesTaken_iff (h11 : now.month ≠ 11) (h12 : now.month ≠ 12) {name : Octstr} :
    name ∈ namesTaken now argTableName ↔
      ∃ d ∈ now.toEndOfNextMonth, name = tableName argTableName d.month d.day := by
  have hmonth := now.month_mem
  have hnext : now.nextMonth = now.month + 1 := if_neg h12
  have hyear : now.nextMonthYear = now.year := if_neg h12
  have hlength {month : ℕ} (hm : month ≠ 12) : daysTaken now.year month = daysIn now.year month :=
    if_neg hm
  rw [mem_namesTaken, hlength h12, hlength (by omega)]
  constructor
  · rintro (⟨i, hday, hi, rfl⟩ | ⟨i, hday, hi, rfl⟩)
    · exact ⟨⟨now.year, now.month, i, hmonth, now.day_mem.1.trans hday, hi⟩,
        Date.mem_toEndOfNextMonth.mpr (.inl ⟨rfl, rfl, hday⟩), rfl⟩
    · exact ⟨⟨now.year, now.nextMonth, i, now.nextMonth_mem, hday, hi⟩,
        Date.mem_toEndOfNextMonth.mpr (.inr ⟨hyear.symm, rfl⟩), rfl⟩
  · rintro ⟨d, hd, rfl⟩
    have hday := d.day_mem
    obtain ⟨hy, hm, hle⟩ | ⟨hy, hm⟩ := Date.mem_toEndOfNextMonth.mp hd
    · rw [hy, hm] at hday
      exact .inl ⟨d.day, hle, hday.2, by rw [hm]⟩
    · rw [hy, hm, hyear] at hday
      exact .inr ⟨d.day, hday.1, hday.2, by rw [hm]⟩

/-- The days that a tool creates tables for. -/
theorem createsEachDay_iff (htool : tool.Fits) (hmysql : ∀ issued st, mysqlQuery issued st ≠ .failed)
    (htext : tool.monthText now = 95 :: twoDigits now.month) (argTableName : Octstr) :
    CreatesEachDay (createTables tool mysqlQuery) now argTableName ↔
      now.month ≠ 11 ∧ now.month ≠ 12 ∧ argTableName.length ≤ 13 := by
  by_cases hshort : argTableName.length ≤ 13
  · obtain ⟨issued, hrun, hnames⟩ := createTables_short htool hmysql htext hshort
    constructor
    · rintro ⟨issued', hrun', -, hall⟩
      obtain rfl := Except.ok.inj (hrun.symm.trans hrun')
      by_contra hmonth
      have hmonth : now.month = 11 ∨ now.month = 12 := by omega
      obtain ⟨d, hd, hdm, hdd⟩ := mem_toEndOfNextMonth_lastDay hmonth
      have hmem := (hall _).mpr ⟨d, hd, rfl⟩
      rw [hnames, hdm, hdd] at hmem
      exact not_mem_namesTaken now argTableName hmem
    · rintro ⟨h11, h12, -⟩
      refine ⟨issued, hrun, hnames ▸ nodup_namesTaken now argTableName, fun name => ?_⟩
      rw [hnames, mem_namesTaken_iff h11 h12]
  · refine ⟨?_, fun h => absurd h.2.2 hshort⟩
    rintro ⟨issued, hrun, -⟩
    rw [createTables_long htool hmysql htext hshort] at hrun
    exact absurd hrun (by simp)

end Run

theorem misTool_monthText (now : RunDate) : misTool.monthText now = 95 :: twoDigits now.month :=
  congrArg (95 :: ·) (List.append_nil _)

theorem statusTool_monthText (now : RunDate) : statusTool.monthText now = 95 :: twoDigits now.month :=
  congrArg (95 :: ·) (List.append_nil _)

/-- **A table for every day** is created, by either tool, exactly if it is run from January to October and
the name has at most 13 octets. -/
theorem createTables_iff {mysqlQuery : Database} (hmysql : ∀ issued st, mysqlQuery issued st ≠ .failed)
    (now : RunDate) (argTableName : Octstr) :
    (CreatesEachDay (misCreateTable mysqlQuery) now argTableName ↔
        now.month ≠ 11 ∧ now.month ≠ 12 ∧ argTableName.length ≤ 13) ∧
      (CreatesEachDay (statusCreateTable mysqlQuery) now argTableName ↔
        now.month ≠ 11 ∧ now.month ≠ 12 ∧ argTableName.length ≤ 13) :=
  ⟨createsEachDay_iff misTool_fits hmysql (misTool_monthText now) argTableName,
    createsEachDay_iff statusTool_fits hmysql (statusTool_monthText now) argTableName⟩

/-- A run on the 28th of February of a leap year. -/
def sampleLeapDay : RunDate := ⟨⟨2024, 2, 28, by decide, by decide⟩, by decide⟩

/-- A database in which one of the tables is there. -/
def sampleDatabase : Database := fun _ st =>
  if st = .createTable (octstrImm "mis_02_28") then .tableExists else .done

theorem createTables_sampleLeapDay :
    (∀ issued st, sampleDatabase issued st ≠ .failed) ∧
      (CreatesEachDay (misCreateTable sampleDatabase) sampleLeapDay (octstrImm "mis") ↔
        sampleLeapDay.month ≠ 11 ∧ sampleLeapDay.month ≠ 12 ∧ (octstrImm "mis").length ≤ 13) ∧
      (CreatesEachDay (statusCreateTable sampleDatabase) sampleLeapDay (octstrImm "mis") ↔
        sampleLeapDay.month ≠ 11 ∧ sampleLeapDay.month ≠ 12 ∧ (octstrImm "mis").length ≤ 13) := by
  have hmysql : ∀ issued st, sampleDatabase issued st ≠ .failed := by
    intro issued st
    rw [sampleDatabase]
    split <;> simp
  exact ⟨hmysql, createTables_iff hmysql sampleLeapDay (octstrImm "mis")⟩

/-- A run on the 1st of December. -/
def sampleDecember : RunDate := ⟨⟨2023, 12, 1, by decide, by decide⟩, by decide⟩

/-- **The 31st of December has no table** after a run in December. -/
theorem not_createsEachDay : ¬ CreatesEachDay (misCreateTable fun _ _ => .done) sampleDecember
    (octstrImm "mis") := by
  intro h
  have hmonth := (createsEachDay_iff misTool_fits (by simp) (misTool_monthText _) _).mp h
  exact hmonth.2.1 rfl

end SmppServer.SmppDbbox
