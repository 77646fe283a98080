import SmppServer.Esme.RoutPdu
import SmppServer.Esme.VerifyPdu
import SmppServer.Dbbox.Receipt
import SmppServer.Machinery.Exec

/-!
# Dbbox/Dnd — from a submit to the SMSC process by way of the DND checker

With DND checking on, a message travels as a row: `handle_submit_sm` writes it to `smpp_esme_table`,
`checker` copies it to `process_table` with a mark if the number is listed, and `msg_process` sends it
to the SMSC process or generates a receipt.  The three programs run beside each other; each works off
the answer to its last query.

Rows are written for rejected submits too, and `checker` does not look at `SubmittedStat`.

* `DndPath.onlyAccepted_of_unrejected` — in every run in which `checker` never finds the row of a
  rejected submit, only accepted messages are delivered or answered with a receipt.
-/

namespace SmppServer.SmppDbbox

open Machinery SmppEsme

/-! ## The tables

The columns that are copied from table to table are one structure, so that what `checker` and `msg_process`
carry over is visible in the types: only `dnd_flag`, `dnd` and `read_flag` are their own. -/

/-- The columns that both tables have. -/
structure Columns where
  esmeAccName : Octstr
  esmeAccMsgId : Octstr
  sourceAddr : Octstr
  destinationAddr : Octstr
  recvTime : Octstr
  submittedStat : ℤ
  retryValue : ℤ
  udh : Octstr
  content : Octstr
  dataCoding : ℤ
  esmClass : ℤ
  moreMessagesToSend : ℤ
  deriving DecidableEq, Repr

/-- A row of `smpp_esme_table`. -/
structure EsmeRow extends Columns where
  dndFlag : ℤ
  deriving DecidableEq, Repr

/-- A row of `process_table`; the last two columns are `0` unless they are set. -/
structure ProcessRow extends Columns where
  dnd : ℤ := 0
  readFlag : ℤ := 0
  deriving DecidableEq, Repr

/-! ## The programs

What each of the programs makes of a row.  The ESME process writes the row whatever the status of the response
is; the status travels in `SubmittedStat`, and nobody looks at it. -/

/-- The `deliver_sm` of a DND receipt. -/
structure DndDeliverSm where
  esmClass : ℤ := 4
  sourceAddr : Octstr
  destinationAddr : Octstr
  shortMessage : Octstr
  deriving DecidableEq, Repr

/-- The conversions of contents that the database process relies on; the two that split a message give
the header and the rest. -/
structure TextLib where
  octstrHexToBinary : Octstr → Octstr
  binaryMsgToAscii : Octstr → Octstr × Octstr
  binaryMsgToAsciiHindi : Octstr → Octstr × Octstr
  smppPduPack : DndDeliverSm → Option Octstr

section Programs

variable (text : TextLib)

/-- `handle_request` on a `smpp_esme` message, with `dlr_smpp_esme_add`: the row inserted.  The content
is escaped and inserted as a C string. -/
def dlrSmppEsmeAdd (msg : SmppEsmeMsg) : EsmeRow :=
  let msgContent := octstrGetCstr msg.msgContent
  let (udh, content) :=
    if msg.esmClass.toNat.testBit 6 then
      if msg.dataCoding ≠ 0 then text.binaryMsgToAsciiHindi msgContent
      else text.binaryMsgToAscii msgContent
    else ([], msgContent)
  { esmeAccName := octstrGetCstr msg.accountName
    esmeAccMsgId := msg.accountMsgId
    sourceAddr := octstrGetCstr msg.sourceAddr
    destinationAddr := octstrGetCstr msg.destAddr
    recvTime := msg.reqTime
    submittedStat := msg.submitStatus
    retryValue := msg.retryValue
    udh := udh
    content := cstr content
    dataCoding := msg.dataCoding
    esmClass := msg.esmClass
    moreMessagesToSend := msg.moreMessagesToSend
    dndFlag := msg.dndFlag }

/-- The row that `checker` inserts into `process_table`. -/
def checkerInsert (listed : Bool) (row : EsmeRow) : ProcessRow :=
  { row.toColumns with dnd := if listed then 1 else 0 }

/-- A `submit` message that `msg_process` sends to the SMSC process. -/
structure DndSubmit where
  reqTime : Octstr
  accountName : Octstr
  accountMsgId : Octstr
  destinationAddr : Octstr
  sourceAddr : Octstr
  dataCoding : ℤ
  esmClass : ℤ
  moreMessagesToSend : ℤ
  content : Octstr
  udh : Octstr
  deriving DecidableEq, Repr

/-- The six octets put before the content: the header's pairs of digits, read as decimal numbers.  A
pair that is missing is read past the end of an array, and is zero here. -/
def udhOctets (udh : Octstr) : Octstr :=
  (List.range 6).map fun i => ((atoi ((udh.drop (2 * i)).take 2)) % 256).toNat.toUInt8

/-- The message for a row whose number is not listed. -/
def dndSubmit (now : Octstr) (row : ProcessRow) : DndSubmit where
  reqTime := now
  accountName := row.esmeAccName
  accountMsgId := row.esmeAccMsgId
  destinationAddr := row.destinationAddr
  sourceAddr := row.sourceAddr
  dataCoding := row.dataCoding
  esmClass := row.esmClass
  moreMessagesToSend := row.moreMessagesToSend
  content :=
    let content := if row.dataCoding ≠ 0 then text.octstrHexToBinary row.content else row.content
    if row.udh ≠ [] then udhOctets row.udh ++ content else content
  udh := row.udh

/-- `dnd_deliver_sm_generate`: the receipt for a row whose number is listed, with the dates as text.
Contents of 50 octets or more fill `text` without a zero at its end, and the code reads on behind it; here the
text ends with the array. -/
def dndDeliverSmGenerate (submitDate doneDate : Octstr) (row : ProcessRow) : InsertStatus where
  smscId := some (octstrImm "MAX")
  smscMsgId := some row.esmeAccMsgId
  destAddr := some row.destinationAddr
  deliverStatus := 101
  pdu := text.smppPduPack
    { sourceAddr := row.destinationAddr
      destinationAddr := row.sourceAddr
      shortMessage := octstrImm "id:" ++ row.esmeAccMsgId ++ octstrImm " sub:001 dlvrd:000 submit date:" ++
        submitDate ++ octstrImm " done date:" ++ doneDate ++
        octstrImm " stat:NDNC_Fail err:003 text:" ++ row.content.take 50 }

end Programs

/-! ## Runs

The three programs share two tables and nothing else.  Between a query and the statements that follow it the
tables may change, so the rows of an answer are kept in the state, one list for `checker` and one for each loop
of `msg_process`. -/

/-- The ESME process, the two tables, and the programs between them: the responses given, the rows on
their way to the database process, the rows that `checker` has still to copy, the rows that each loop
of `msg_process` has still to process, and what these loops produced. -/
structure DndPath where
  server : SubmitServer := {}
  accounts : List Esme := []
  answers : List SubmitSmResp := []
  dbbox : List SmppEsmeMsg := []
  smppEsmeTable : List EsmeRow := []
  checker : List EsmeRow := []
  processTable : List ProcessRow := []
  esmeProcessClient : Bool := false
  msgProcess : List (List ProcessRow) := []
  submits : List DndSubmit := []
  receipts : List InsertStatus := []
  deriving DecidableEq

/-- What happens: a submit is handled; anything else in the ESME process; the database process takes a
row, and stores it or fails; it gains or loses the ESME process; `checker` queries, and copies a row; a
loop of `msg_process` is started, queries, and processes a row. -/
inductive DndEvent
  | handleSubmitSm (account session : ℕ) (mode : ℤ) (pdu : SubmitSm) (now : Moment)
  | esmeProcess (server : SubmitServer) (accounts : List Esme)
  | handleRequest (stored : Bool)
  | esmeProcessClient (registered : Bool)
  | checkerSelect (rows : List EsmeRow)
  | checkerRow (listed inserted updated : Bool)
  | msgProcessStart
  | msgProcessSelect (k : ℕ) (rows : List ProcessRow)
  | msgProcessRow (k : ℕ) (now submitDate doneDate : Octstr) (updated : Bool)
  deriving DecidableEq

section Steps

variable (lib : SubmitLib) (text : TextLib) (cfg : ServerCfg)

/-- One row of `checker`: it is copied, and marked if that succeeded. -/
def checkerStep (s : DndPath) (row : EsmeRow) (listed inserted updated : Bool) : DndPath :=
  if inserted then
    { s with
      processTable := s.processTable ++ [checkerInsert listed row]
      smppEsmeTable :=
        if updated then
          updateWhere (fun r => r.esmeAccMsgId = row.esmeAccMsgId) (fun r => { r with dndFlag := 1 })
            s.smppEsmeTable
        else s.smppEsmeTable }
  else s

/-- One row of `msg_process`. -/
def msgProcessStep (s : DndPath) (row : ProcessRow) (now submitDate doneDate : Octstr)
    (updated : Bool) : DndPath :=
  let s := if row.dnd = 0 then { s with submits := s.submits ++ [dndSubmit text now row] }
    else { s with receipts := s.receipts ++ [dndDeliverSmGenerate text submitDate doneDate row] }
  if updated then
    { s with
      processTable :=
        updateWhere (fun r => r.esmeAccMsgId = row.esmeAccMsgId) (fun r => { r with readFlag := 1 })
          s.processTable }
  else s

/-- **One step of the path.**  Each SQL statement is one step or part of one. -/
def dndStep (s : DndPath) : DndEvent → Option DndPath
  | .handleSubmitSm account session mode pdu now =>
    match s.accounts[account]? with
    | none => none
    | some e => (handleSubmitSm lib cfg now s.server e session mode pdu).map fun out =>
        { s with
          server := out.server
          accounts := s.accounts.set account out.esme
          answers := s.answers ++ [out.resp]
          dbbox := s.dbbox ++ [out.smppEsme] }
  | .esmeProcess server accounts => some { s with server := server, accounts := accounts }
  | .handleRequest stored =>
    match s.dbbox with
    | [] => none
    | msg :: rest => some
        { s with
          dbbox := rest
          smppEsmeTable :=
            if stored then s.smppEsmeTable ++ [dlrSmppEsmeAdd text msg] else s.smppEsmeTable }
  | .esmeProcessClient registered => some { s with esmeProcessClient := registered }
  | .checkerSelect rows =>
    if s.checker = [] ∧ rows.Perm (s.smppEsmeTable.filter fun r => r.dndFlag = 0) then
      some { s with checker := rows }
    else none
  | .checkerRow listed inserted updated =>
    match s.checker with
    | [] => none
    | row :: rest => some (checkerStep { s with checker := rest } row listed inserted updated)
  | .msgProcessStart => some { s with msgProcess := s.msgProcess ++ [[]] }
  | .msgProcessSelect k rows =>
    if s.esmeProcessClient ∧ s.msgProcess[k]? = some [] ∧
        rows.Perm (s.processTable.filter fun r => r.readFlag = 0) then
      some { s with msgProcess := s.msgProcess.set k rows }
    else none
  | .msgProcessRow k now submitDate doneDate updated =>
    match s.msgProcess[k]? with
    | some (row :: rest) => some
        (msgProcessStep text { s with msgProcess := s.msgProcess.set k rest } row now submitDate doneDate
          updated)
    | _ => none

end Steps

/-- The id was given to a submit that was answered with the status. -/
def DndPath.Answered (s : DndPath) (id : Octstr) (status : ℤ) : Prop :=
  ∃ resp ∈ s.answers, resp.messageId = id ∧ resp.commandStatus = status

/-- The id was given to a submit that was accepted. -/
def DndPath.Accepted (s : DndPath) (id : Octstr) : Prop := s.Answered id 0

/-- **Only accepted messages** are sent to the SMSC process or answered with a receipt. -/
structure DndPath.OnlyAccepted (s : DndPath) : Prop where
  submits : ∀ m ∈ s.submits, s.Accepted m.accountMsgId
  receipts : ∀ m ∈ s.receipts, ∀ id ∈ m.smscMsgId, s.Accepted id

/-- **No rejected submit is selected**: when `checker` queries, no row of a rejected submit waits for
it. -/
def Unrejected (s : DndPath) : DndEvent → Prop
  | .checkerSelect _ => ∀ row ∈ s.smppEsmeTable, row.dndFlag = 0 → row.submittedStat = 0
  | _ => True

instance (s : DndPath) : ∀ e, Decidable (Unrejected s e)
  | .checkerSelect _ =>
    inferInstanceAs (Decidable (∀ row ∈ s.smppEsmeTable, row.dndFlag = 0 → row.submittedStat = 0))
  | .handleSubmitSm _ _ _ _ _ | .esmeProcess _ _ | .handleRequest _ | .esmeProcessClient _
  | .checkerRow _ _ _ | .msgProcessStart | .msgProcessSelect _ _ | .msgProcessRow _ _ _ _ _ =>
    .isTrue trivial

/-! ## The invariant

Everything in the tables carries the id of a response.  Up to the query of `checker` the status may be any;
behind it the id is that of an accepted submit, since the only way past the query is through a row that
`Unrejected` lets be selected. -/

/-- Every row carries the id and the status of a response; behind the query of `checker`, of one that
accepted the message. -/
structure DndPath.Inv (s : DndPath) : Prop where
  dbbox : ∀ m ∈ s.dbbox, s.Answered m.accountMsgId m.submitStatus
  smppEsmeTable : ∀ r ∈ s.smppEsmeTable, s.Answered r.esmeAccMsgId r.submittedStat
  checker : ∀ r ∈ s.checker, s.Accepted r.esmeAccMsgId
  processTable : ∀ r ∈ s.processTable, s.Accepted r.esmeAccMsgId
  msgProcess : ∀ rows ∈ s.msgProcess, ∀ r ∈ rows, s.Accepted r.esmeAccMsgId
  submits : ∀ m ∈ s.submits, s.Accepted m.accountMsgId
  receipts : ∀ m ∈ s.receipts, ∀ id ∈ m.smscMsgId, s.Accepted id

section Inv

variable {lib : SubmitLib} {text : TextLib} {cfg : ServerCfg} {s s' : DndPath} {e : DndEvent}

theorem DndPath.inv_start (server : SubmitServer) (accounts : List Esme) :
    DndPath.Inv { server := server, accounts := accounts } := by
  constructor <;> simp

/-- A submit is answered, and its row goes to the database process. -/
theorem DndPath.Inv.submit (hi : s.Inv) {out : SubmitOutcome} {accounts : List Esme}
    (hid : out.smppEsme.accountMsgId = out.resp.messageId)
    (hstatus : out.smppEsme.submitStatus = out.resp.commandStatus) :
    DndPath.Inv
      { s with
        server := out.server
        accounts := accounts
        answers := s.answers ++ [out.resp]
        dbbox := s.dbbox ++ [out.smppEsme] } := by
  have hmono : ∀ {id status}, s.Answered id status →
      ∃ resp ∈ s.answers ++ [out.resp], resp.messageId = id ∧ resp.commandStatus = status := by
    rintro id status ⟨resp, hresp, hrest⟩
    exact ⟨resp, List.mem_append_left _ hresp, hrest⟩
  constructor
  case dbbox =>
    intro m hm
    obtain hm | hm := List.mem_append.mp hm
    · exact hmono (hi.dbbox m hm)
    · obtain rfl := List.mem_singleton.mp hm
      exact ⟨out.resp, List.mem_append_right _ (List.mem_singleton_self _), hid.symm, hstatus.symm⟩
  case smppEsmeTable => exact fun r hr => hmono (hi.smppEsmeTable r hr)
  case checker => exact fun r hr => hmono (hi.checker r hr)
  case processTable => exact fun r hr => hmono (hi.processTable r hr)
  case msgProcess => exact fun rows hrows r hr => hmono (hi.msgProcess rows hrows r hr)
  case submits => exact fun m hm => hmono (hi.submits m hm)
  case receipts => exact fun m hm id hid => hmono (hi.receipts m hm id hid)

/-- `checker` copies the row of an accepted submit. -/
theorem DndPath.Inv.checkerStep {row : EsmeRow} {listed inserted updated : Bool} (hi : s.Inv)
    (hrow : s.Accepted row.esmeAccMsgId) :
    (checkerStep s row listed inserted updated).Inv := by
  rw [SmppDbbox.checkerStep]
  split
  · refine { hi with smppEsmeTable := ?_, processTable := ?_ }
    · dsimp only
      split
      · exact forall_mem_updateWhere (fun r hr => hr) hi.smppEsmeTable
      · exact hi.smppEsmeTable
    · intro r hr
      obtain hr | hr := List.mem_append.mp hr
      · exact hi.processTable r hr
      · obtain rfl := List.mem_singleton.mp hr
        exact hrow
  · exact hi

/-- `msg_process` processes the row of an accepted submit. -/
theorem DndPath.Inv.msgProcessStep {row : ProcessRow} {now submitDate doneDate : Octstr}
    {updated : Bool} (hi : s.Inv) (hrow : s.Accepted row.esmeAccMsgId) :
    (msgProcessStep text s row now submitDate doneDate updated).Inv := by
  have hsent : DndPath.Inv (if row.dnd = 0 then
      { s with submits := s.submits ++ [dndSubmit text now row] }
      else { s with receipts := s.receipts ++ [dndDeliverSmGenerate text submitDate doneDate row] }) := by
    split
    · refine { hi with submits := fun m hm => ?_ }
      obtain hm | hm := List.mem_append.mp hm
      · exact hi.submits m hm
      · obtain rfl := List.mem_singleton.mp hm
        exact hrow
    · refine { hi with receipts := fun m hm id hid => ?_ }
      obtain hm | hm := List.mem_append.mp hm
      · exact hi.receipts m hm id hid
      · obtain rfl := List.mem_singleton.mp hm
        obtain rfl : row.esmeAccMsgId = id := Option.some.inj hid
        exact hrow
  rw [SmppDbbox.msgProcessStep]
  split
  · exact { hsent with processTable := forall_mem_updateWhere (fun r hr => hr) hsent.processTable }
  · exact hsent

/-- The rows left to a loop of `msg_process`. -/
theorem DndPath.Inv.setLoop {k : ℕ} {rows : List ProcessRow} (hi : s.Inv)
    (hrows : ∀ r ∈ rows, s.Accepted r.esmeAccMsgId) :
    DndPath.Inv { s with msgProcess := s.msgProcess.set k rows } := by
  refine { hi with msgProcess := fun rows' hrows' => ?_ }
  obtain hrows' | rfl := List.mem_or_eq_of_mem_set hrows'
  · exact hi.msgProcess rows' hrows'
  · exact hrows

/-- The database process stores a row. -/
theorem DndPath.Inv.handleRequest {stored : Bool} (hi : s.Inv)
    (h : dndStep lib text cfg s (.handleRequest stored) = some s') : s'.Inv := by
  rw [dndStep] at h
  split at h
  · exact absurd h (by simp)
  · rename_i msg rest hdbbox
    have hmsgs := hi.dbbox
    rw [hdbbox, List.forall_mem_cons] at hmsgs
    rw [← Option.some.inj h]
    refine { hi with dbbox := hmsgs.2, smppEsmeTable := fun r hr => ?_ }
    cases stored with
    | false => exact hi.smppEsmeTable r hr
    | true =>
      obtain hr | hr := List.mem_append.mp hr
      · exact hi.smppEsmeTable r hr
      · obtain rfl := List.mem_singleton.mp hr
        exact hmsgs.1

/-- `checker` selects rows, of which none is of a rejected submit. -/
theorem DndPath.Inv.checkerSelect {rows : List EsmeRow} (hi : s.Inv)
    (hg : Unrejected s (.checkerSelect rows))
    (h : dndStep lib text cfg s (.checkerSelect rows) = some s') : s'.Inv := by
  rw [dndStep] at h
  split at h
  · rename_i hrows
    rw [← Option.some.inj h]
    refine { hi with checker := fun r hr => ?_ }
    obtain ⟨hmem, hflag⟩ := List.mem_filter.mp (hrows.2.subset hr)
    have hstat : r.submittedStat = 0 := hg r hmem (by simpa using hflag)
    have hans := hi.smppEsmeTable r hmem
    rwa [hstat] at hans
  · exact absurd h (by simp)

/-- **Every step keeps the invariant** if no rejected submit is selected. -/
theorem DndPath.Inv.step (hi : s.Inv) (hg : Unrejected s e) (h : dndStep lib text cfg s e = some s') :
    s'.Inv := by
  cases e with
  | handleSubmitSm account session mode pdu now =>
    rw [dndStep] at h
    split at h
    · exact absurd h (by simp)
    · obtain ⟨out, hout, rfl⟩ := Option.map_eq_some_iff.mp h
      obtain ⟨hid, hstatus, -⟩ := handleSubmitSm_eq_some hout
      exact hi.submit hid hstatus
  | esmeProcess server accounts =>
    rw [← Option.some.inj h]
    exact { hi with }
  | handleRequest stored => exact hi.handleRequest h
  | esmeProcessClient registered =>
    rw [← Option.some.inj h]
    exact { hi with }
  | checkerSelect rows => exact hi.checkerSelect hg h
  | checkerRow listed inserted updated =>
    rw [dndStep] at h
    split at h
    · exact absurd h (by simp)
    · rename_i row rest hchecker
      have hrows := hi.checker
      rw [hchecker, List.forall_mem_cons] at hrows
      have hrest : DndPath.Inv { s with checker := rest } := { hi with checker := hrows.2 }
      exact Option.some.inj h ▸ hrest.checkerStep hrows.1
  | msgProcessStart =>
    rw [← Option.some.inj h]
    refine { hi with msgProcess := fun rows hrows => ?_ }
    obtain hrows | hrows := List.mem_append.mp hrows
    · exact hi.msgProcess rows hrows
    · obtain rfl := List.mem_singleton.mp hrows
      simp
  | msgProcessSelect k rows =>
    rw [dndStep] at h
    split at h
    · rename_i hsel
      rw [← Option.some.inj h]
      exact hi.setLoop fun r hr => hi.processTable r (List.mem_filter.mp (hsel.2.2.subset hr)).1
    · exact absurd h (by simp)
  | msgProcessRow k now submitDate doneDate updated =>
    rw [dndStep] at h
    split at h
    · rename_i row rest hloop
      have hrows := hi.msgProcess _ (List.mem_of_getElem? hloop)
      rw [List.forall_mem_cons] at hrows
      exact Option.some.inj h ▸ (hi.setLoop hrows.2).msgProcessStep hrows.1
    · exact absurd h (by simp)

end Inv

/-- **Rejected messages are not delivered.**  Whatever the settings, the accounts, the addresses and
routes, for all submits, and all runs of `checker` and of the loops of `msg_process` in which no
rejected submit is selected: each message sent to the SMSC process and each DND receipt has the id of
an accepted submit. -/
theorem DndPath.onlyAccepted_of_unrejected (lib : SubmitLib) (text : TextLib) (cfg : ServerCfg)
    (server : SubmitServer) (accounts : List Esme) {evs : List DndEvent} {s : DndPath}
    (hsel : Along (dndStep lib text cfg) Unrejected { server := server, accounts := accounts } evs)
    (hrun : exec (dndStep lib text cfg) { server := server, accounts := accounts } evs = some s) :
    s.OnlyAccepted := by
  have hi := exec_invariant (fun hi hg h => hi.step hg h) (DndPath.inv_start server accounts) hsel hrun
  exact ⟨hi.submits, hi.receipts⟩

/-! ## Samples -/

/-- The numbers that start with `98` are of the type `gsm`, for which there is an SMSC; for all others there is
none. -/
def sampleRoutPdu (destAddr username : Option Octstr) : Option (Octstr × Octstr) :=
  (routPdu (fun series addr => if series.isPrefixOf addr then 1 else 0)
    ⟨some (octstrImm "98"), none, none, octstrImm "cdma"⟩
    (some [⟨octstrImm "acme", octstrImm "secret", [], [], 3, none, none, 0, -1, -1, none, none, none, none,
      30, -1, -1, 100, -1, -1, -1, 24, 0⟩])
    [⟨octstrImm "north", 1, octstrImm "gsm", 3⟩] destAddr username).bind (·.lists)

/-- The checks and the routing of the ESME process, with every sender known. -/
def sampleSubmitLib : SubmitLib where
  verifyPduPara := verifyPduPara ⟨21, 21, fun _ _ => true, fun _ _ => false⟩
  routPdu := sampleRoutPdu
  smppPduPack _ := some (octstrImm "submit_sm")
  octstrBinaryToHex s := s

/-- Contents without a header. -/
def sampleTextLib : TextLib where
  octstrHexToBinary s := s
  binaryMsgToAscii s := ([], s)
  binaryMsgToAsciiHindi s := ([], s)
  smppPduPack _ := some (octstrImm "deliver_sm")

/-- An account that may submit between midnight and midnight, with one transmitter. -/
def sampleEsme : Esme where
  systemId := some (octstrImm "acme")
  password := some (octstrImm "secret")
  systemType := none
  interfaceVersion := 0x34
  addrTon := 0
  addrNpi := 0
  addressRange := none
  enquireLinkInterval := 30
  allowedPrefix := none
  deniedPrefix := none
  maxSubmitsUnconnect := -1
  maxSubmits := -1
  maxTps := 100
  validTimeFrom := -1
  validTimeTo := 24
  dndCheck := 0
  msgCount := 0
  esmTime := 0
  logFile := none
  rxLogFile := none
  logLevel := 0
  logIdx := -1
  rxLogIdx := none
  txEsme :=
    [{ conn := 0, clientIp := octstrImm "10.0.0.1", clientPort := 40000, listenPort := 2775
       startTime := 0, seqNumberCounter := 1, status := .binded, mode := 1, threadId := 1
       sessionId := 1 }]
  rxEsme := []

/-- A submit to the number. -/
def sampleSubmitSm (number : String) : SubmitSm where
  sequenceNumber := 1
  sourceAddr := some (octstrImm "ACME")
  destinationAddr := some (octstrImm number)
  shortMessage := some (octstrImm "hello")

/-- A submit to the number goes all the way. -/
def samplePath (number : String) (row : EsmeRow) : List DndEvent :=
  [.esmeProcessClient true, .msgProcessStart,
   .handleSubmitSm 0 0 1 (sampleSubmitSm number) ⟨7, 10, octstrImm "2009-08-13 10:00:00"⟩,
   .handleRequest true, .checkerSelect [row], .checkerRow false true true,
   .msgProcessSelect 0 [checkerInsert false row],
   .msgProcessRow 0 (octstrImm "2009-08-13 10:00:10") [] [] true]

/-- The row of that submit. -/
def sampleRow (number : String) (status : ℤ) : EsmeRow where
  esmeAccName := octstrImm "acme"
  esmeAccMsgId := octstrImm "071"
  sourceAddr := octstrImm "ACME"
  destinationAddr := octstrImm number
  recvTime := octstrImm "2009-08-13 10:00:00"
  submittedStat := status
  retryValue := 0
  udh := []
  content := octstrImm "hello"
  dataCoding := 0
  esmClass := 0
  moreMessagesToSend := -1
  dndFlag := 0

theorem DndPath.onlyAccepted_samplePath :
    ((exec (dndStep sampleSubmitLib sampleTextLib { dndcheckFlag := 1 }) { accounts := [sampleEsme] }
      (samplePath "9800000000" (sampleRow "9800000000" 0))).get (by decide +kernel)).OnlyAccepted :=
  DndPath.onlyAccepted_of_unrejected sampleSubmitLib sampleTextLib { dndcheckFlag := 1 } {} [sampleEsme]
    (by decide +kernel) (Option.some_get _).symm

/-- There is no route to the number and the submit is rejected, but the message goes all the way. -/
theorem DndPath.onlyAccepted_sampleRejected :
    ¬ ∀ (lib : SubmitLib) (text : TextLib) (cfg : ServerCfg), cfg.dndcheckFlag = 1 →
      ∀ (server : SubmitServer) (accounts : List Esme) (evs : List DndEvent) (s : DndPath),
        exec (dndStep lib text cfg) { server := server, accounts := accounts } evs = some s →
          s.OnlyAccepted := by
  intro hall
  have h := hall sampleSubmitLib sampleTextLib { dndcheckFlag := 1 } rfl {} [sampleEsme]
    (samplePath "0000000000" (sampleRow "0000000000" 0x45)) _ (Option.some_get (by decide +kernel)).symm
  obtain ⟨resp, hresp, -, hzero⟩ := h.submits
    (dndSubmit sampleTextLib (octstrImm "2009-08-13 10:00:10")
      (checkerInsert false (sampleRow "0000000000" 0x45))) (by decide +kernel)
  exact absurd hzero (by revert resp; decide +kernel)

end SmppServer.SmppDbbox
