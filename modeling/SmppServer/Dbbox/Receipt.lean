import SmppServer.Gwlib.Base
import SmppServer.Machinery.Table
import SmppServer.Machinery.Sql

/-!
# Dbbox/Receipt — finding the owner of a delivery receipt

When an SMSC reports the fate of a message, the SMSC process sends an `insert_status` message with
the SMSC's id, the SMSC's message id and the destination.  The database process looks the message up
in the MIS table and forwards what it found, account name and account message id, to the ESME
process.  The look-up asks for the message id alone: ids are unique per SMSC only, so a row of
another SMSC with the same id answers as well.  The id stands between the quotes of the statement as
the SMSC sent it, so it may also end the literal and ask for something else.

* `lexString_lookupText` — an id that stays inside its quotes is the literal that is compared.
* `receiptReachesOwner_iff` — the forwarded result is always that of the message reported on exactly
  when all rows that may be fetched are, or nothing is looked up and forwarded.
-/

namespace SmppServer.SmppDbbox

open Machinery

/-- The columns of the MIS table that the look-up reads, and the SMSC's id. -/
structure MisRow where
  accountName : Octstr
  accountMsgId : Octstr
  smscId : Octstr
  smscMsgId : Octstr
  deriving DecidableEq, Repr

/-- An `insert_status` message. -/
structure InsertStatus where
  smscId : Option Octstr
  smscMsgId : Option Octstr
  destAddr : Option Octstr
  deliverStatus : ℤ
  pdu : Option Octstr
  deriving DecidableEq, Repr

/-- A `values_got` message; `none` is a field that was not set. -/
structure ValuesGot where
  result : ℤ
  smscMsgId : Option Octstr := none
  destAddr : Option Octstr := none
  accountName : Option Octstr := none
  accountMsgId : Option Octstr := none
  pdu : Option Octstr := none
  deriving DecidableEq, Repr

/-- The client connection of the ESME process. -/
structure EsmeProcessClient where
  connId : Option Octstr
  sendList : List ValuesGot
  deriving DecidableEq, Repr

/-- The database process: whether a storage with a look-up function is registered, the status table,
and the ESME process's connection. -/
structure Dbbox where
  handles : Bool
  statusTable : List InsertStatus
  esmeProcessClient : Option EsmeProcessClient
  deriving DecidableEq, Repr

/-! ## The look-up

The statement is `SELECT … WHERE column='id';`.  Everything before the id is fixed by the configuration; what
the database server makes of the rest depends on where the literal ends. -/

/-- The statement from behind the quote that the id is pasted after. -/
def lookupText (smscMsgId : Octstr) : Octstr := cstr smscMsgId ++ [39, 59]

/-- What a database server brings to a look-up: the equality of the column's collation, and its answer to a
statement that goes on behind the literal.  The rows of such an answer need not be rows of the table. -/
structure MysqlServer where
  collate : Octstr → Octstr → Bool
  other : Octstr → Option (List MisRow)

/-- **The answer to the statement**, of a server that answers queries of its table with `select`: if the text is
a literal and the semicolon, rows with an equal message id. -/
def MysqlServer.query (mysql : MysqlServer) (select : (MisRow → Bool) → Option (List MisRow))
    (text : Octstr) : Option (List MisRow) :=
  match lexString (some 39) text with
  | some (literal, [59]) => select fun row => mysql.collate row.smscMsgId literal
  | _ => mysql.other text

/-- The row that `dlr_mysql_get` fetches: the first of those found. -/
def rowFetched (mysqlSelect : Octstr → Option (List MisRow)) (smscMsgId : Octstr) : Option MisRow :=
  (mysqlSelect (lookupText smscMsgId)).bind List.head?

/-- `dlr_mysql_get`.  The destination is copied to the answer but not used to find the row; the columns
of the row are C strings. -/
def dlrMysqlGet (mysqlSelect : Octstr → Option (List MisRow)) (destAddr smscMsgId : Octstr) :
    Option ValuesGot :=
  (rowFetched mysqlSelect smscMsgId).map fun row =>
    { result := 1
      smscMsgId := some smscMsgId
      destAddr := some destAddr
      accountName := some (cstr row.accountName)
      accountMsgId := some (cstr row.accountMsgId) }

/-- `dlr_find`: an answer without a row, or without a storage, has result `0`. -/
def dlrFind (handles : Bool) (mysqlSelect : Octstr → Option (List MisRow))
    (destAddr smscMsgId : Octstr) : ValuesGot :=
  let notFound : ValuesGot :=
    { result := 0, smscMsgId := some smscMsgId, destAddr := some destAddr }
  if handles then (dlrMysqlGet mysqlSelect destAddr smscMsgId).getD notFound else notFound

/-- `dlr_status_add`. -/
def dlrStatusAdd (box : Dbbox) (msg : InsertStatus) : Dbbox :=
  if box.handles then { box with statusTable := box.statusTable ++ [msg] } else box

/-- `handle_request` on an `insert_status` message. -/
def handleInsertStatus (mysqlSelect : Octstr → Option (List MisRow)) (box : Dbbox)
    (msg : InsertStatus) : Dbbox :=
  let box := dlrStatusAdd box msg
  match msg.smscMsgId, msg.destAddr with
  | some smscMsgId, some destAddr =>
    let resultMsg := dlrFind box.handles mysqlSelect destAddr smscMsgId
    match box.esmeProcessClient with
    | none => box
    | some client =>
      let resultMsg :=
        if client.connId.isSome then { resultMsg with pdu := msg.pdu } else resultMsg
      { box with
        esmeProcessClient := some { client with sendList := client.sendList ++ [resultMsg] } }
  | _, _ => box

/-- What the ESME process is sent in this call. -/
def forwarded (mysqlSelect : Octstr → Option (List MisRow)) (box : Dbbox)
    (msg : InsertStatus) : List ValuesGot :=
  let sendList (box : Dbbox) := (box.esmeProcessClient.map (·.sendList)).getD []
  (sendList (handleInsertStatus mysqlSelect box msg)).drop (sendList box).length

/-! ## The property

The owner is among the rows that may be fetched, or the answer is empty; what goes wrong goes wrong in the
choice among them.  So the property, for every order in which the database may answer, is one about the set of
those rows. -/

/-- **A forwarded result belongs to the message reported on**: whatever order the database answers in, a
result of `1` carries account name and account message id of the row fetched, and that row has the
SMSC's id and message id. -/
def ReceiptReachesOwner (mysql : MysqlServer) (table : List MisRow) (box : Dbbox) (msg : InsertStatus) :
    Prop :=
  ∀ select, Selects select table →
    ∀ res ∈ forwarded (mysql.query select) box msg, res.result = 1 →
      ∃ row ∈ table, msg.smscMsgId.bind (rowFetched (mysql.query select)) = some row ∧
        msg.smscId = some row.smscId ∧ msg.smscMsgId = some row.smscMsgId ∧
        res.accountName = some row.accountName ∧ res.accountMsgId = some row.accountMsgId

/-- The row may be fetched for the message id: an id that stays inside its quotes is compared with the column, as
is one that is read as another literal; for any other text it is the first row that the server answers with. -/
def MysqlServer.MayFetch (mysql : MysqlServer) (table : List MisRow) (smscMsgId : Octstr) (row : MisRow) : Prop :=
  if Plain (cstr smscMsgId) then row ∈ table ∧ mysql.collate row.smscMsgId (cstr smscMsgId) = true
  else
    match lexString (some 39) (lookupText smscMsgId) with
    | some (literal, [59]) => row ∈ table ∧ mysql.collate row.smscMsgId literal = true
    | _ => (mysql.other (lookupText smscMsgId)).bind List.head? = some row

/-- The row is that of the message reported on, and its columns are texts without `NUL`. -/
structure MisRow.Owns (table : List MisRow) (row : MisRow) (smscId : Option Octstr) (smscMsgId : Octstr) :
    Prop where
  mem : row ∈ table
  smsc : smscId = some row.smscId
  msgId : row.smscMsgId = smscMsgId
  accountName : 0 ∉ row.accountName
  accountMsgId : 0 ∉ row.accountMsgId

section Forwarded

variable {mysql : MysqlServer} {mysqlSelect : Octstr → Option (List MisRow)}
  {select : (MisRow → Bool) → Option (List MisRow)} {table : List MisRow} {box : Dbbox}
  {msg : InsertStatus} {client : EsmeProcessClient} {m d : Octstr} {row : MisRow}

/-- **An id that stays inside its quotes** is the literal that the column is compared with. -/
theorem lexString_lookupText (hplain : Plain (cstr m)) :
    lexString (some 39) (lookupText m) = some (cstr m, [59]) :=
  lexString_of_readBack (by decide) (readBack_of_plain hplain)

/-- Which rows may be fetched, by what the server reads. -/
theorem MysqlServer.mayFetch_iff : mysql.MayFetch table m row ↔
    match lexString (some 39) (lookupText m) with
    | some (literal, [59]) => row ∈ table ∧ mysql.collate row.smscMsgId literal = true
    | _ => (mysql.other (lookupText m)).bind List.head? = some row := by
  rw [MysqlServer.MayFetch]
  split
  · rename_i hplain
    simp only [lexString_lookupText hplain]
  · exact Iff.rfl

@[simp] theorem dlrStatusAdd_handles (box : Dbbox) (msg : InsertStatus) :
    (dlrStatusAdd box msg).handles = box.handles := by
  unfold dlrStatusAdd
  split <;> rfl

@[simp] theorem dlrStatusAdd_esmeProcessClient (box : Dbbox) (msg : InsertStatus) :
    (dlrStatusAdd box msg).esmeProcessClient = box.esmeProcessClient := by
  unfold dlrStatusAdd
  split <;> rfl

/-- With a client and both fields set, the look-up's answer is forwarded, with the PDU if the client
has registered. -/
theorem forwarded_of_some (hm : msg.smscMsgId = some m) (hd : msg.destAddr = some d)
    (hc : box.esmeProcessClient = some client) :
    forwarded mysqlSelect box msg =
      [{ dlrFind box.handles mysqlSelect d m with
          pdu := if client.connId.isSome then msg.pdu
            else (dlrFind box.handles mysqlSelect d m).pdu }] := by
  simp only [forwarded, handleInsertStatus, hm, hd, dlrStatusAdd_esmeProcessClient, hc,
    dlrStatusAdd_handles, Option.map_some, Option.getD_some, List.drop_left]
  split <;> rfl

/-- Otherwise nothing is forwarded. -/
theorem forwarded_of_none
    (h : msg.smscMsgId = none ∨ msg.destAddr = none ∨ box.esmeProcessClient = none) :
    forwarded mysqlSelect box msg = [] := by
  have hsame : (handleInsertStatus mysqlSelect box msg).esmeProcessClient =
      box.esmeProcessClient := by
    unfold handleInsertStatus
    rcases h with h | h | h
    · simp [h]
    · cases hm : msg.smscMsgId <;> simp [h]
    · cases hm : msg.smscMsgId <;> cases hd : msg.destAddr <;> simp [h]
  simp [forwarded, hsame]

/-- A result of `1` carries the names of the row fetched. -/
theorem dlrFind_result_one {handles : Bool} (h : (dlrFind handles mysqlSelect d m).result = 1) :
    handles = true ∧ ∃ row, rowFetched mysqlSelect m = some row ∧
      (dlrFind handles mysqlSelect d m).accountName = some (cstr row.accountName) ∧
      (dlrFind handles mysqlSelect d m).accountMsgId = some (cstr row.accountMsgId) := by
  cases handles with
  | false => exact absurd h (by simp [dlrFind])
  | true =>
    cases hrow : rowFetched mysqlSelect m with
    | none => exact absurd h (by simp [dlrFind, dlrMysqlGet, hrow])
    | some row => exact ⟨rfl, row, rfl, by simp [dlrFind, dlrMysqlGet, hrow]⟩

/-- The row fetched is one that may be fetched. -/
theorem mayFetch_of_rowFetched (hs : Selects select table)
    (h : rowFetched (mysql.query select) m = some row) : mysql.MayFetch table m row := by
  rw [MysqlServer.mayFetch_iff]
  rw [rowFetched, MysqlServer.query] at h
  split at h
  · obtain ⟨rows, hrows, hhead⟩ := Option.bind_eq_some_iff.mp h
    obtain ⟨rest, rfl⟩ := List.head?_eq_some_iff.mp hhead
    exact hs.head_mem hrows
  · exact h

/-- A database may answer with any row that may be fetched. -/
theorem exists_rowFetched (hfetch : mysql.MayFetch table m row) :
    ∃ select, Selects select table ∧ rowFetched (mysql.query select) m = some row := by
  rw [MysqlServer.mayFetch_iff] at hfetch
  simp only [rowFetched, MysqlServer.query]
  split at hfetch
  · rename_i literal _
    obtain ⟨hrow, hequal⟩ := hfetch
    obtain ⟨select, rows, hselect, hanswer⟩ :=
      exists_selects_head (p := fun row => mysql.collate row.smscMsgId literal) hrow hequal
    exact ⟨select, hselect, by rw [hanswer]; rfl⟩
  · exact ⟨_, selects_filter table, hfetch⟩

/-- What is not forwarded cannot go wrong. -/
theorem receiptReachesOwner_of_none
    (h : msg.smscMsgId = none ∨ msg.destAddr = none ∨ box.esmeProcessClient = none) :
    ReceiptReachesOwner mysql table box msg := by
  intro select _ res hres
  rw [forwarded_of_none h] at hres
  exact absurd hres List.not_mem_nil

/-- A row that may be fetched is one of the message, since some database answers with it. -/
theorem ReceiptReachesOwner.owns (h : ReceiptReachesOwner mysql table box msg)
    (hm : msg.smscMsgId = some m) (hd : msg.destAddr = some d)
    (hc : box.esmeProcessClient = some client) (hhandles : box.handles = true)
    (hrow : mysql.MayFetch table m row) : row.Owns table msg.smscId m := by
  obtain ⟨select, hselect, hfetch⟩ := exists_rowFetched hrow
  have hget : dlrFind box.handles (mysql.query select) d m =
      { result := 1
        smscMsgId := some m
        destAddr := some d
        accountName := some (cstr row.accountName)
        accountMsgId := some (cstr row.accountMsgId) } := by
    simp [dlrFind, hhandles, dlrMysqlGet, hfetch]
  obtain ⟨row', hmem, hfetch', hsmsc, hmsgid, hname, hid⟩ := h select hselect _
    (by rw [forwarded_of_some hm hd hc]; exact List.mem_singleton_self _) (by rw [hget])
  rw [hm, Option.bind_some, hfetch] at hfetch'
  obtain rfl := Option.some.inj hfetch'
  rw [hget] at hname hid
  exact ⟨hmem, hsmsc, (Option.some.inj (hm.symm.trans hmsgid)).symm,
    cstr_eq_self_iff.mp (Option.some.inj hname), cstr_eq_self_iff.mp (Option.some.inj hid)⟩

/-- If all rows that may be fetched are those of the message, so is the one fetched. -/
theorem receiptReachesOwner_of_forall (hm : msg.smscMsgId = some m) (hd : msg.destAddr = some d)
    (hc : box.esmeProcessClient = some client)
    (h : box.handles = true → ∀ row, mysql.MayFetch table m row → row.Owns table msg.smscId m) :
    ReceiptReachesOwner mysql table box msg := by
  intro select hselect res hres hone
  rw [forwarded_of_some hm hd hc, List.mem_singleton] at hres
  subst hres
  obtain ⟨hhandles, row, hfetch, hname, hmsgid⟩ := dlrFind_result_one hone
  obtain ⟨hmem, hsmsc, hid, hzero, hzero'⟩ := h hhandles row (mayFetch_of_rowFetched hselect hfetch)
  refine ⟨row, hmem, by rw [hm, Option.bind_some, hfetch], hsmsc, by rw [hm, hid], ?_, ?_⟩
  · exact hname.trans (congrArg some (cstr_eq_self_iff.mpr hzero))
  · exact hmsgid.trans (congrArg some (cstr_eq_self_iff.mpr hzero'))

end Forwarded

/-- **When receipts reach their owner.**  The forwarded result is that of the message reported on, in
whatever order the database answers, exactly when every row that may be fetched for the message id is
one of that SMSC with that id — or nothing is looked up and forwarded: there is no storage, no ESME
connection, or the message id or the destination is missing.  For an id that stays inside its quotes
the rows are those of the table whose message id is equal to it under the collation. -/
theorem receiptReachesOwner_iff (mysql : MysqlServer) (table : List MisRow) (box : Dbbox)
    (msg : InsertStatus) :
    ReceiptReachesOwner mysql table box msg ↔
      box.handles = false ∨ box.esmeProcessClient = none ∨ msg.smscMsgId = none ∨
        msg.destAddr = none ∨
        ∀ m ∈ msg.smscMsgId, ∀ row, mysql.MayFetch table m row → row.Owns table msg.smscId m := by
  cases hc : box.esmeProcessClient with
  | none => exact ⟨fun _ => .inr (.inl rfl), fun _ => receiptReachesOwner_of_none (.inr (.inr hc))⟩
  | some client =>
  cases hm : msg.smscMsgId with
  | none => exact ⟨fun _ => .inr (.inr (.inl rfl)), fun _ => receiptReachesOwner_of_none (.inl hm)⟩
  | some m =>
  cases hd : msg.destAddr with
  | none =>
    exact ⟨fun _ => .inr (.inr (.inr (.inl rfl))), fun _ => receiptReachesOwner_of_none (.inr (.inl hd))⟩
  | some d =>
  constructor
  · intro howner
    cases hhandles : box.handles with
    | false => exact .inl rfl
    | true =>
      refine .inr (.inr (.inr (.inr fun m' hm' row hrow => ?_)))
      obtain rfl := Option.some.inj hm'
      exact howner.owns hm hd hc hhandles hrow
  · intro hor
    refine receiptReachesOwner_of_forall hm hd hc fun hhandles row hrow => ?_
    have howns : ∀ row, mysql.MayFetch table m row → row.Owns table msg.smscId m := by
      simpa [hhandles] using hor
    exact howns row hrow

/-- Two SMSCs gave the message id `42` to messages of two accounts. -/
def sampleMisTable : List MisRow :=
  [{ accountName := octstrImm "globex", accountMsgId := octstrImm "g1",
     smscId := octstrImm "smsc-b", smscMsgId := octstrImm "42" },
   { accountName := octstrImm "acme", accountMsgId := octstrImm "a1",
     smscId := octstrImm "smsc-a", smscMsgId := octstrImm "42" }]

/-- A receipt of `smsc-a` for its message `42`. -/
def sampleStatus : InsertStatus where
  smscId := some (octstrImm "smsc-a")
  smscMsgId := some (octstrImm "42")
  destAddr := some (octstrImm "919800000000")
  deliverStatus := 1
  pdu := none

/-- A server whose column compares octets, and that rejects every other statement. -/
def sampleMysql : MysqlServer where
  collate a b := a = b
  other _ := none

/-- The receipt for the message of `acme` is forwarded to `globex`. -/
theorem receiptReachesOwner_sampleMisTable :
    ¬ ∀ (mysql : MysqlServer) (table : List MisRow) (box : Dbbox) (msg : InsertStatus),
      ReceiptReachesOwner mysql table box msg := by
  intro hall
  obtain ⟨row, -, hfetch, hsmsc, -⟩ := hall sampleMysql sampleMisTable
    ⟨true, [], some ⟨some (octstrImm "smpp-esme"), []⟩⟩ sampleStatus _
    (selects_filter sampleMisTable)
    { result := 1, smscMsgId := some (octstrImm "42"), destAddr := some (octstrImm "919800000000"),
      accountName := some (octstrImm "globex"), accountMsgId := some (octstrImm "g1") }
    (by decide) rfl
  have hrow : sampleStatus.smscMsgId.bind
      (rowFetched (sampleMysql.query fun p => some (sampleMisTable.filter p))) =
        some (sampleMisTable.get ⟨0, by decide⟩) := by decide
  rw [hrow, Option.some.injEq] at hfetch
  rw [← hfetch] at hsmsc
  exact absurd hsmsc (by decide)

end SmppServer.SmppDbbox
