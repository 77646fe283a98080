import SmppServer.Machinery.Exec
import SmppServer.Machinery.Fifo
import SmppServer.Smsc.DeliverSm
import SmppServer.Smsc.Status
import SmppServer.Smsc.Window

/-!
# Smsc/ReceiptLink — a receipt and the record it is looked up by

The response to a submit is read by the transmitting thread, which sends the record of the message to the
database process; the report is read by the receiving thread, which sends an `insert_status`, and the
database process looks the id up when it handles it.  The two threads put their messages on one queue, but
nothing makes the one wait for the other: between `read_pdu` and `handle_pdu` a thread holds its PDU and no
lock.

* `ReceiptLink.mappingFirst_of_inOrder` — in every run in which a report is handled only when the
  responses for its id that the SMSC sent before have been handled, the look-up finds the record.
-/

namespace SmppServer.SmppSmsc

open Machinery SmppDbbox

/-! ## Runs

Reading a PDU and handling it are two steps of a thread.  What it has read and not handled is its own; what it
makes of it goes on the queue to the database process. -/

/-- What an SMSC sends: a report, or any other PDU. -/
inductive SmscPdu
  | deliverSm (report : DeliverSm)
  | plain (pdu : Pdu)
  deriving DecidableEq

/-- The PDU as the threads distinguish it. -/
def SmscPdu.seen : SmscPdu → Pdu
  | .deliverSm _ => .other
  | .plain pdu => pdu

/-- The id, as it is recorded, of the message that a PDU reports as accepted. -/
def SmscPdu.accepts (smppMsgIdType : ℤ) : SmscPdu → Option Octstr
  | .plain (.submitSmResp _ commandStatus messageId) =>
    if commandStatus = smppEsmeRok then
      (submitSmRespMsgId smppMsgIdType messageId).map (·.getD (octstrImm ""))
    else none
  | _ => none

/-- A PDU on its way, with its position in what the SMSC has sent. -/
structure Incoming where
  pdu : SmscPdu
  position : ℕ
  deriving DecidableEq

/-- A message on its way to the database process; a report has the position of its `deliver_sm`. -/
inductive DbboxMsg
  | insertMis (record : InsertMis)
  | insertStatus (status : InsertStatus) (position : ℕ)
  deriving DecidableEq

/-- A report that the database process has handled, with the MIS table it found and the answer of
`dlr_find`, if it was called. -/
structure Lookup where
  status : InsertStatus
  position : ℕ
  misTable : List MisRow
  result : Option ValuesGot
  deriving DecidableEq

/-- A connection with two threads, what the SMSC has sent, in this order, on both of its links, what is
unread on each, what each thread has read and not handled yet, the positions of PDUs that were lost with a
link or answered no submit, and the database process. -/
structure ReceiptLink where
  link : Link
  sent : List SmscPdu := []
  tx : List Incoming := []
  rx : List Incoming := []
  txRead : Option Incoming := none
  rxRead : Option Incoming := none
  missed : List ℕ := []
  dbbox : List DbboxMsg := []
  handles : Bool := true
  misTable : List MisRow := []
  lookups : List Lookup := []
  deriving DecidableEq

/-- What happens: the SMSC sends on one of the links; a thread reads a PDU; it does a step, in which it
handles the PDU it has read; another thread queues a message for the connection, shuts it down, or sends a
message to the database process; and the database process handles the next message, with the rows its
`INSERT` adds to the table or those its `SELECT` answers with. -/
inductive ReceiptEvent
  | smscSends (transmitter : Bool) (pdu : SmscPdu)
  | reads (transmitter : Bool)
  | io (ev : IoEvent)
  | receive (ev : IoEvent)
  | smscconnSend (msg : Msg)
  | shutdownCb
  | insertMis (record : InsertMis)
  | insertStatus (status : InsertStatus)
  | handleRequest (added : List MisRow) (answer : Option (List MisRow))
  deriving DecidableEq

/-- The places where a thread calls `read_pdu`. -/
def Pc.reads : Pc → Bool
  | .reading | .unbinding => true
  | _ => false

/-- What becomes of the PDUs of a thread at a step: the one it handles, what stays on its link, and what is
lost because the link is opened anew. -/
structure Handled where
  got : Option Incoming := none
  rest : List Incoming := []
  lost : List Incoming := []
  deriving DecidableEq

/-- A thread that has read a PDU handles it; one that has not does something else. -/
def handledOf (read : Option Incoming) (socket : List Incoming) (ev : IoEvent) : Option Handled :=
  match ev.pdu?, read with
  | some pdu, some inc =>
    if inc.pdu.seen = pdu then some { got := some inc, rest := socket } else none
  | none, none =>
    match ev with
    | .enter _ _ => some { lost := socket }
    | _ => some { rest := socket }
  | _, _ => none

/-- The PDU answers no submit in `sent_msgs`. -/
def SmscPdu.unmatched (conn : SmscConn) : SmscPdu → Bool
  | .plain (.submitSmResp sequenceNumber _ _) => sequenceNumber ∉ conn.data.sentMsgs
  | _ => false

/-- The row that `dlr_mis_add` inserts. -/
def InsertMis.row (record : InsertMis) : MisRow where
  accountName := record.accountName
  accountMsgId := record.accountMsgId
  smscId := record.smscId
  smscMsgId := record.smscMsgId

section Steps

variable (lib : Gwlib) (cfg : ClientCfg) (receipts : ReceiptLib) (deliverSmSource : ℤ)

/-- The `insert_status` message for a PDU that is handled. -/
def statusFor (conn : SmscConn) : Option Incoming → List DbboxMsg
  | some ⟨.deliverSm pdu, position⟩ =>
    [.insertStatus (handleDeliverSm lib receipts deliverSmSource conn pdu) position]
  | _ => []

/-- Behind a step of one of the threads: the records and reports it made are sent. -/
def ReceiptLink.next (s : ReceiptLink) (link : Link) (r : Handled) : ReceiptLink :=
  { s with
    link := link
    missed := s.missed ++ r.lost.map Incoming.position ++
      (r.got.toList.filter fun inc => inc.pdu.unmatched s.link.conn).map Incoming.position
    dbbox := s.dbbox ++
      (link.queues.insertMis.drop s.link.queues.insertMis.length).map .insertMis ++
      statusFor lib receipts deliverSmSource s.link.conn r.got }

/-- `read_pdu` of a thread that has handled what it read before. -/
def ReceiptLink.readPdu (s : ReceiptLink) (transmitter : Bool) : Option ReceiptLink :=
  if transmitter then
    match s.txRead, s.tx with
    | none, inc :: rest =>
      if s.link.conn.thread.pc.reads then some { s with txRead := some inc, tx := rest } else none
    | _, _ => none
  else
    match s.rxRead, s.rx with
    | none, inc :: rest =>
      if s.link.receiver.any (·.pc.reads) then some { s with rxRead := some inc, rx := rest } else none
    | _, _ => none

/-- `handle_request` of the database process on a message of the SMSC process. -/
def ReceiptLink.handleRequest (s : ReceiptLink) (added : List MisRow) (answer : Option (List MisRow)) :
    DbboxMsg → ReceiptLink
  | .insertMis _ => { s with misTable := if s.handles then s.misTable ++ added else s.misTable }
  | .insertStatus status position =>
    let result :=
      match status.smscMsgId, status.destAddr with
      | some smscMsgId, some destAddr =>
        some (dlrFind s.handles (fun _ => answer) destAddr smscMsgId)
      | _, _ => none
    { s with lookups := s.lookups ++ [⟨status, position, s.misTable, result⟩] }

/-- **One step.** -/
def receiptStep (s : ReceiptLink) : ReceiptEvent → Option ReceiptLink
  | .smscSends transmitter pdu =>
    let inc : Incoming := ⟨pdu, s.sent.length⟩
    some { s with
      sent := s.sent ++ [pdu]
      tx := if transmitter then s.tx ++ [inc] else s.tx
      rx := if transmitter then s.rx else s.rx ++ [inc] }
  | .reads transmitter => s.readPdu transmitter
  | .io ev => (linkStep lib cfg s.link (.io ev)).bind fun link =>
      (handledOf s.txRead s.tx ev).map fun r =>
        { s.next lib receipts deliverSmSource link r with txRead := none, tx := r.rest }
  | .receive ev => (linkStep lib cfg s.link (.receive ev)).bind fun link =>
      (handledOf s.rxRead s.rx ev).map fun r =>
        { s.next lib receipts deliverSmSource link r with rxRead := none, rx := r.rest }
  | .smscconnSend msg => (linkStep lib cfg s.link (.smscconnSend msg)).map fun link =>
      { s with link := link }
  | .shutdownCb => (linkStep lib cfg s.link .shutdownCb).map fun link => { s with link := link }
  | .insertMis record => some { s with dbbox := s.dbbox ++ [.insertMis record] }
  | .insertStatus status => some { s with dbbox := s.dbbox ++ [.insertStatus status 0] }
  | .handleRequest added answer =>
    match s.dbbox with
    | [] => none
    | msg :: rest => some ({ s with dbbox := rest }.handleRequest added answer msg)

/-- What the SMSC sent and the threads have not handled: unread on a link, or read. -/
def ReceiptLink.unhandled (s : ReceiptLink) : List Incoming :=
  (s.txRead.toList ++ s.tx) ++ (s.rxRead.toList ++ s.rx)

/-- The SMSC sent a response that accepts the message with this id before the position. -/
def ReceiptLink.AcceptedBefore (s : ReceiptLink) (position : ℕ) (id : Octstr) : Prop :=
  ∃ j, j < position ∧ ∃ pdu ∈ s.sent[j]?, pdu.accepts s.link.conn.data.smppMsgIdType = some id

/-- **The record is there first**: when the database process handled the report of a message that the
SMSC had accepted before, the record was in the MIS table, and the look-up found it. -/
def ReceiptLink.MappingFirst (s : ReceiptLink) : Prop :=
  ∀ lk ∈ s.lookups, ∀ id ∈ lk.status.smscMsgId, s.AcceptedBefore lk.position id →
    (∃ row ∈ lk.misTable, row.smscMsgId = id) ∧ ∀ res ∈ lk.result, res.result = 1

/-- The id that a PDU names, if it is a report. -/
def SmscPdu.names (smppMsgIdType : ℤ) : SmscPdu → Option Octstr
  | .deliverSm report => some (report.named receipts smppMsgIdType)
  | .plain _ => none

/-- A report is handled when the responses for its id that were sent before it have been handled, and
answered submits of the connection. -/
def ReceiptLink.Settled (s : ReceiptLink) (handled : Option Handled) : Prop :=
  ∀ inc ∈ handled.bind Handled.got, ∀ id ∈ inc.pdu.names receipts s.link.conn.data.smppMsgIdType,
    ∀ j < inc.position, ∀ resp ∈ s.sent[j]?,
      resp.accepts s.link.conn.data.smppMsgIdType = some id →
        j ∉ s.unhandled.map Incoming.position ∧ j ∉ s.missed

/-- The statements of the database process do what they are written for: the `INSERT` of a record adds its
row, and the `SELECT` for a report answers with the rows that have its id. -/
def Statements (misTable added : List MisRow) (answer : Option (List MisRow)) : DbboxMsg → Prop
  | .insertMis record => added = [record.row]
  | .insertStatus status _ => ∃ rows ∈ answer, ∀ row ∈ misTable,
      some row.smscMsgId = status.smscMsgId → row ∈ rows

/-- **Reports are handled in order**, and the statements of the database process do what they should. -/
def InOrder (s : ReceiptLink) : ReceiptEvent → Prop
  | .io ev => s.Settled receipts (handledOf s.txRead s.tx ev)
  | .receive ev => s.Settled receipts (handledOf s.rxRead s.rx ev)
  | .handleRequest added answer =>
    s.handles = true ∧ ∀ msg ∈ s.dbbox.head?, Statements s.misTable added answer msg
  | _ => True

instance (s : ReceiptLink) (handled : Option Handled) : Decidable (s.Settled receipts handled) :=
  inferInstanceAs (Decidable (∀ _ ∈ _, ∀ _ ∈ _, ∀ _ < _, ∀ _ ∈ _, _ → _))

instance (misTable added : List MisRow) (answer : Option (List MisRow)) :
    ∀ msg, Decidable (Statements misTable added answer msg)
  | .insertMis record => inferInstanceAs (Decidable (added = [record.row]))
  | .insertStatus status _ => decidable_of_iff
      (answer.any fun rows => decide (∀ row ∈ misTable, some row.smscMsgId = status.smscMsgId → row ∈ rows))
      (by simp [Statements, Option.any_eq_true])

instance (s : ReceiptLink) : ∀ e, Decidable (InOrder receipts s e)
  | .io ev => inferInstanceAs (Decidable (s.Settled receipts (handledOf s.txRead s.tx ev)))
  | .receive ev => inferInstanceAs (Decidable (s.Settled receipts (handledOf s.rxRead s.rx ev)))
  | .handleRequest added answer => inferInstanceAs (Decidable (s.handles = true ∧
      ∀ msg ∈ s.dbbox.head?, Statements s.misTable added answer msg))
  | .smscSends _ _ | .reads _ | .smscconnSend _ | .shutdownCb | .insertMis _ | .insertStatus _ =>
    .isTrue trivial

end Steps

/-! ## What the threads record

Only a response to a submit of `sent_msgs` makes a record, whichever of the threads handles it; a report makes
an `insert_status`. -/

section Records

variable {lib : Gwlib} {cfg : ClientCfg} {now : ℤ} {q q' : Queues} {conn conn' : SmscConn} {l l' : Link}
  {ev : IoEvent} {pdu : Pdu}

/-- The response that accepts a message of the connection is recorded under its id. -/
theorem handleSubmitSmResp_records {key : ℤ} {messageId id : Option Octstr}
    (h : handleSubmitSmResp lib cfg now q conn key smppEsmeRok messageId = some (q', conn'))
    (hkey : key ∈ conn.data.sentMsgs)
    (hid : submitSmRespMsgId conn.data.smppMsgIdType messageId = some id) :
    ∃ record, q'.insertMis = q.insertMis ++ [record] ∧ record.smscMsgId = id.getD (octstrImm "") := by
  obtain ⟨smppMsg, hmsg⟩ := Option.isSome_iff_exists.mp (AList.lookup_isSome.mpr hkey)
  rw [handleSubmitSmResp, hmsg] at h
  simp only [SmscConn.removeSent, hid] at h
  split at h
  · rename_i smscMsgId submitSmPdu hsome _
    obtain rfl := Option.some.inj hsome
    rw [if_neg (by simp), Option.some.injEq, Prod.mk.injEq] at h
    rw [← h.1]
    exact ⟨_, rfl, rfl⟩
  · exact absurd h (by simp)

/-- **What a step of either thread records**: the ids are normalised as before, and a response that
accepts a message of the connection leaves a record with its id. -/
structure Link.Records (l l' : Link) (ev : IoEvent) : Prop where
  idType : l'.conn.data.smppMsgIdType = l.conn.data.smppMsgIdType
  recorded : ∀ key messageId id, ev.pdu? = some (.submitSmResp key smppEsmeRok messageId) →
    key ∈ l.conn.data.sentMsgs →
    submitSmRespMsgId l.conn.data.smppMsgIdType messageId = some id →
    ∃ record ∈ l'.queues.insertMis.drop l.queues.insertMis.length,
      record.smscMsgId = id.getD (octstrImm "")

/-- The record is new. -/
theorem mem_drop_of_records {key : ℤ} {messageId id : Option Octstr}
    (h : handlePdu lib cfg now q conn (.submitSmResp key smppEsmeRok messageId) = some (q', conn'))
    (hkey : key ∈ conn.data.sentMsgs)
    (hid : submitSmRespMsgId conn.data.smppMsgIdType messageId = some id) :
    ∃ record ∈ q'.insertMis.drop q.insertMis.length, record.smscMsgId = id.getD (octstrImm "") := by
  rw [handlePdu] at h
  obtain ⟨record, hmis, hrecord⟩ := handleSubmitSmResp_records h hkey hid
  refine ⟨record, ?_, hrecord⟩
  rw [hmis, List.drop_left]
  exact List.mem_singleton_self record

theorem linkStep_io_records (h : linkStep lib cfg l (.io ev) = some l') : l.Records l' ev := by
  obtain ⟨⟨q', conn'⟩, hio, rfl⟩ := Option.map_eq_some_iff.mp h
  constructor
  case idType =>
    have hcontrol := congrArg Control.smppMsgIdType (ioThread_control hio)
    rw [Control.after_smppMsgIdType] at hcontrol
    exact hcontrol
  case recorded =>
    intro key messageId id hpdu hkey hid
    obtain ⟨now, conn₁, hhandle⟩ := ioThread_handlePdu hpdu hio
    exact mem_drop_of_records hhandle hkey hid

theorem linkStep_receive_records (h : linkStep lib cfg l (.receive ev) = some l') :
    l.Records l' ev := by
  obtain ⟨rx, q', conn', -, hrx, rfl⟩ := linkStep_receive h
  constructor
  case idType =>
    have hcontrol := congrArg Control.smppMsgIdType (rxThread_control hrx)
    rw [Control.after_smppMsgIdType] at hcontrol
    exact hcontrol
  case recorded =>
    intro key messageId id hpdu hkey hid
    obtain ⟨now, conn₁, hhandle⟩ := rxThread_handlePdu hpdu hrx
    exact mem_drop_of_records hhandle hkey hid

end Records

/-! ## The invariant

A response that accepts a message is unread, or read, or recorded.  A report is handled in order when the first
two do not apply to its id, so that its record is in front of it on the queue or in the table. -/

/-- The ids that a message adds to the MIS table. -/
def DbboxMsg.adds : DbboxMsg → List Octstr
  | .insertMis record => [record.smscMsgId]
  | .insertStatus _ _ => []

/-- A message needs the id if it is a report of a message that was accepted before. -/
def DbboxMsg.needs (accepted : ℕ → Octstr → Prop) : DbboxMsg → Octstr → Prop
  | .insertMis _, _ => False
  | .insertStatus status position, id => status.smscMsgId = some id ∧ accepted position id

namespace ReceiptLink

/-- The ids in the MIS table. -/
def known (s : ReceiptLink) : List Octstr := s.misTable.map MisRow.smscMsgId

/-- What the SMSC sent is as the links and the threads have it; a response that accepts a message is not
handled or missed, or its id is recorded or on the way to the database process; the reports on the way
will find what they need; and those that were handled did. -/
structure Inv (s : ReceiptLink) : Prop where
  placed : ∀ inc ∈ s.unhandled, s.sent[inc.position]? = some inc.pdu
  recorded : ∀ j pdu id, s.sent[j]? = some pdu →
    pdu.accepts s.link.conn.data.smppMsgIdType = some id →
      j ∈ s.unhandled.map Incoming.position ∨ j ∈ s.missed ∨ id ∈ s.known ∨ id ∈ s.dbbox.flatMap DbboxMsg.adds
  covered : Covered DbboxMsg.adds (DbboxMsg.needs s.AcceptedBefore) s.known s.dbbox
  stamped : ∀ status n, .insertStatus status n ∈ s.dbbox → n ≤ s.sent.length
  handled : ∀ lk ∈ s.lookups, lk.position ≤ s.sent.length
  mapping : s.MappingFirst

theorem inv_start (link : Link) (handles : Bool) (misTable : List MisRow) :
    Inv { link := link, handles := handles, misTable := misTable } := by
  constructor <;> simp [Covered, MappingFirst, unhandled]

section Inv

variable {lib : Gwlib} {cfg : ClientCfg} {receipts : ReceiptLib} {deliverSmSource : ℤ}
  {s s' : ReceiptLink} {e : ReceiptEvent} {n : ℕ} {id : Octstr}

/-- What was accepted before a position does not change. -/
theorem acceptedBefore_congr (pdus : List SmscPdu) (hsent : s'.sent = s.sent ++ pdus)
    (htype : s'.link.conn.data.smppMsgIdType = s.link.conn.data.smppMsgIdType)
    (hn : n ≤ s.sent.length) : s'.AcceptedBefore n id ↔ s.AcceptedBefore n id := by
  have hget : ∀ j < n, s'.sent[j]? = s.sent[j]? := by
    intro j hj
    rw [hsent, List.getElem?_append_left (by omega)]
  unfold AcceptedBefore
  rw [htype]
  constructor
  · rintro ⟨j, hj, pdu, hpdu, hacc⟩
    exact ⟨j, hj, pdu, hget j hj ▸ hpdu, hacc⟩
  · rintro ⟨j, hj, pdu, hpdu, hacc⟩
    exact ⟨j, hj, pdu, (hget j hj).symm ▸ hpdu, hacc⟩

/-- The reports that were handled stay as they are. -/
theorem Inv.mapping_congr (hi : s.Inv) (pdus : List SmscPdu) (hsent : s'.sent = s.sent ++ pdus)
    (htype : s'.link.conn.data.smppMsgIdType = s.link.conn.data.smppMsgIdType)
    (hlookups : s'.lookups = s.lookups) : s'.MappingFirst := by
  intro lk hlk id hid hacc
  rw [hlookups] at hlk
  exact hi.mapping lk hlk id hid ((acceptedBefore_congr pdus hsent htype (hi.handled lk hlk)).mp hacc)

/-- The reports on the way stay covered. -/
theorem covered_congr (pdus : List SmscPdu) {q : List DbboxMsg} {ids : List Octstr}
    (h : Covered DbboxMsg.adds (DbboxMsg.needs s.AcceptedBefore) ids q)
    (hstamped : ∀ status n, .insertStatus status n ∈ q → n ≤ s.sent.length)
    (hsent : s'.sent = s.sent ++ pdus)
    (htype : s'.link.conn.data.smppMsgIdType = s.link.conn.data.smppMsgIdType) :
    Covered DbboxMsg.adds (DbboxMsg.needs s'.AcceptedBefore) ids q := by
  refine h.mono (fun k hk => hk) fun m hm k hneeds => ?_
  cases m with
  | insertMis record => exact hneeds
  | insertStatus status n =>
    exact ⟨hneeds.1, (acceptedBefore_congr pdus hsent htype (hstamped status n hm)).mp hneeds.2⟩

/-- The SMSC sends a PDU. -/
theorem Inv.smscSends {transmitter : Bool} {pdu : SmscPdu} (hi : s.Inv)
    (h : receiptStep lib cfg receipts deliverSmSource s (.smscSends transmitter pdu) = some s') :
    s'.Inv := by
  rw [receiptStep, Option.some.injEq] at h
  have hlink : s'.link = s.link := by rw [← h]
  have hsent : s'.sent = s.sent ++ [pdu] := by rw [← h]
  have hdbbox : s'.dbbox = s.dbbox := by rw [← h]
  have hknown : s'.known = s.known := by rw [← h]; rfl
  have hlookups : s'.lookups = s.lookups := by rw [← h]
  have hmissed : s'.missed = s.missed := by rw [← h]
  have hunhandled : ∀ inc, inc ∈ s'.unhandled ↔ inc ∈ s.unhandled ∨ inc = ⟨pdu, s.sent.length⟩ := by
    intro inc
    rw [← h]
    cases transmitter <;> simp [unhandled, or_assoc, or_comm, or_left_comm]
  have hlen : s'.sent.length = s.sent.length + 1 := by rw [hsent, List.length_append, List.length_singleton]
  constructor
  case placed =>
    intro inc hinc
    obtain hold | rfl := (hunhandled inc).mp hinc
    · have hplace := hi.placed inc hold
      rw [hsent, List.getElem?_append_left (List.getElem?_eq_some_iff.mp hplace).1]
      exact hplace
    · rw [hsent]
      simp
  case recorded =>
    intro j pdu' id hj hacc
    rw [hsent] at hj
    rw [hlink] at hacc
    rw [hmissed, hknown, hdbbox]
    by_cases hlt : j < s.sent.length
    · rw [List.getElem?_append_left hlt] at hj
      refine (hi.recorded j pdu' id hj hacc).imp_left fun hmem => ?_
      obtain ⟨inc, hinc, rfl⟩ := List.mem_map.mp hmem
      exact List.mem_map_of_mem ((hunhandled inc).mpr (.inl hinc))
    · have hpos : j = s.sent.length := by
        have := (List.getElem?_eq_some_iff.mp hj).1
        rw [List.length_append, List.length_singleton] at this
        omega
      subst hpos
      exact .inl (List.mem_map.mpr ⟨_, (hunhandled _).mpr (.inr rfl), rfl⟩)
  case covered =>
    rw [hdbbox, hknown]
    exact covered_congr [pdu] hi.covered hi.stamped hsent (by rw [hlink])
  case stamped =>
    intro status n hmem
    have := hi.stamped status n (hdbbox ▸ hmem)
    omega
  case handled =>
    intro lk hlk
    have := hi.handled lk (hlookups ▸ hlk)
    omega
  case mapping => exact hi.mapping_congr [pdu] hsent (by rw [hlink]) hlookups

/-- What becomes of the PDUs that are not handled: what stays was there, and what is gone was handled or
lost. -/
structure Takes (unhandled unhandled' : List Incoming) (r : Handled) (ev : IoEvent) : Prop where
  stays : ∀ inc ∈ unhandled', inc ∈ unhandled
  gone : ∀ inc ∈ unhandled, inc ∈ unhandled' ∨ r.got = some inc ∨ inc ∈ r.lost
  got : ∀ inc, r.got = some inc → inc ∈ unhandled ∧ ev.pdu? = some inc.pdu.seen

theorem handledOf_takes {read : Option Incoming} {socket : List Incoming} {ev : IoEvent} {r : Handled}
    (h : handledOf read socket ev = some r) : Takes (read.toList ++ socket) r.rest r ev := by
  unfold handledOf at h
  split at h
  · rename_i pdu inc hpdu
    split at h
    · rename_i hseen
      rw [← Option.some.inj h]
      refine ⟨fun inc' hmem => List.mem_cons_of_mem _ hmem, fun inc' hmem => ?_, fun inc' hgot => ?_⟩
      · obtain rfl | hmem := List.mem_cons.mp hmem
        · exact .inr (.inl rfl)
        · exact .inl hmem
      · obtain rfl := Option.some.inj hgot
        exact ⟨List.mem_cons_self, hseen ▸ hpdu⟩
    · exact absurd h (by simp)
  · split at h <;> rw [← Option.some.inj h]
    · exact ⟨fun inc hmem => absurd hmem List.not_mem_nil, fun inc hmem => .inr (.inr hmem),
        fun inc hgot => absurd hgot (by simp)⟩
    · exact ⟨fun inc hmem => hmem, fun inc hmem => .inl hmem, fun inc hgot => absurd hgot (by simp)⟩
  · exact absurd h (by simp)

theorem Takes.append_right {own own' other : List Incoming} {ev : IoEvent} {r : Handled}
    (h : Takes own own' r ev) : Takes (own ++ other) (own' ++ other) r ev := by
  refine ⟨fun inc hmem => ?_, fun inc hmem => ?_, fun inc hgot => ?_⟩
  · exact (List.mem_append.mp hmem).elim (fun hmem => List.mem_append_left _ (h.stays inc hmem))
      (List.mem_append_right _)
  · obtain hmem | hmem := List.mem_append.mp hmem
    · exact (h.gone inc hmem).imp_left (List.mem_append_left _)
    · exact .inl (List.mem_append_right _ hmem)
  · exact ⟨List.mem_append_left _ (h.got inc hgot).1, (h.got inc hgot).2⟩

theorem Takes.append_left {own own' other : List Incoming} {ev : IoEvent} {r : Handled}
    (h : Takes own own' r ev) : Takes (other ++ own) (other ++ own') r ev := by
  refine ⟨fun inc hmem => ?_, fun inc hmem => ?_, fun inc hgot => ?_⟩
  · exact (List.mem_append.mp hmem).elim (List.mem_append_left _)
      fun hmem => List.mem_append_right _ (h.stays inc hmem)
  · obtain hmem | hmem := List.mem_append.mp hmem
    · exact .inl (List.mem_append_left _ hmem)
    · exact (h.gone inc hmem).imp_left (List.mem_append_right _)
  · exact ⟨List.mem_append_right _ (h.got inc hgot).1, (h.got inc hgot).2⟩

variable {link : Link} {ev : IoEvent} {r : Handled} {tx rx : List Incoming}

/-- A response that a thread handles is recorded, or it is missed. -/
theorem recorded_or_missed (hlink : s.link.Records link ev) {inc : Incoming} (hgot : r.got = some inc)
    (hpdu : ev.pdu? = some inc.pdu.seen)
    (hacc : inc.pdu.accepts s.link.conn.data.smppMsgIdType = some id) :
    inc.position ∈ (s.next lib receipts deliverSmSource link r).missed ∨
      id ∈ (s.next lib receipts deliverSmSource link r).dbbox.flatMap DbboxMsg.adds := by
  obtain ⟨pdu, position⟩ := inc
  match pdu, hpdu, hacc, hgot with
  | .plain (.submitSmResp key status messageId), hpdu, hacc, hgot =>
    rw [SmscPdu.accepts] at hacc
    split_ifs at hacc with hok
    rw [hok] at hpdu
    obtain ⟨id', hid', rfl⟩ := Option.map_eq_some_iff.mp hacc
    by_cases hkey : key ∈ s.link.conn.data.sentMsgs
    · obtain ⟨record, hrecord, hname⟩ := hlink.recorded key messageId id' hpdu hkey hid'
      refine .inr (List.mem_flatMap.mpr ⟨.insertMis record, ?_, ?_⟩)
      · exact List.mem_append_left _ (List.mem_append_right _ (List.mem_map_of_mem hrecord))
      · rw [DbboxMsg.adds, hname]
        exact List.mem_singleton_self _
    · refine .inl (List.mem_append_right _ (List.mem_map.mpr ⟨_, List.mem_filter.mpr ⟨?_, ?_⟩, rfl⟩))
      · rw [hgot]
        exact List.mem_singleton_self _
      · exact decide_eq_true hkey

/-- A report that a thread handles will find its record. -/
theorem Inv.covered_status (hi : s.Inv) (hsettled : s.Settled receipts (some r)) (records : List InsertMis) :
    Covered DbboxMsg.adds (DbboxMsg.needs s.AcceptedBefore) s.known
      (s.dbbox ++ records.map .insertMis ++ statusFor lib receipts deliverSmSource s.link.conn r.got) := by
  have hrecords : Covered DbboxMsg.adds (DbboxMsg.needs s.AcceptedBefore) s.known
      (s.dbbox ++ records.map .insertMis) := by
    refine hi.covered.append fun m hm id hneeds => ?_
    obtain ⟨record, -, rfl⟩ := List.mem_map.mp hm
    exact hneeds
  match hgot : r.got with
  | none | some ⟨.plain _, _⟩ => exact (List.append_nil _).symm ▸ hrecords
  | some ⟨.deliverSm report, position⟩ =>
    refine hrecords.concat fun id hneeds => ?_
    obtain ⟨hname, j, hj, resp, hresp, hacc⟩ := hneeds
    obtain ⟨hunhandled, hmissed⟩ := hsettled _ hgot id hname j hj resp hresp hacc
    obtain hmem | hmem | hmem | hmem := hi.recorded j resp id hresp hacc
    · exact absurd hmem hunhandled
    · exact absurd hmem hmissed
    · exact .inl hmem
    · rw [List.flatMap_append]
      exact .inr (List.mem_append_left _ hmem)

/-- The report that a thread handles has the position of a PDU that was sent. -/
theorem Inv.stamped_status (hi : s.Inv) {unhandled' : List Incoming}
    (htakes : Takes s.unhandled unhandled' r ev)
    {records : List InsertMis} {status : InsertStatus}
    (hmem : .insertStatus status n ∈ s.dbbox ++ records.map .insertMis ++
      statusFor lib receipts deliverSmSource s.link.conn r.got) : n ≤ s.sent.length := by
  obtain hmem | hmem := List.mem_append.mp hmem
  · obtain hmem | hmem := List.mem_append.mp hmem
    · exact hi.stamped status n hmem
    · obtain ⟨record, -, hrecord⟩ := List.mem_map.mp hmem
      exact absurd hrecord (by simp)
  · match hgot : r.got, hmem with
    | some ⟨.deliverSm report, position⟩, hmem =>
      obtain ⟨-, rfl⟩ := DbboxMsg.insertStatus.inj (List.mem_singleton.mp hmem)
      have hplaced := hi.placed _ (htakes.got _ hgot).1
      exact Nat.le_of_lt (List.getElem?_eq_some_iff.mp hplaced).1
    | none, hmem | some ⟨.plain _, _⟩, hmem => exact absurd hmem List.not_mem_nil

/-- **A step of one of the threads**, which handles its reports in order. -/
theorem Inv.thread (txRead rxRead : Option Incoming) (hi : s.Inv) (hlink : s.link.Records link ev)
    (htakes : Takes s.unhandled ((txRead.toList ++ tx) ++ (rxRead.toList ++ rx)) r ev)
    (hsettled : s.Settled receipts (some r)) :
    Inv { s.next lib receipts deliverSmSource link r with
      txRead := txRead
      rxRead := rxRead
      tx := tx
      rx := rx } := by
  constructor
  case placed => exact fun inc hinc => hi.placed inc (htakes.stays inc hinc)
  case recorded =>
    intro j pdu id hj hacc
    replace hacc : pdu.accepts s.link.conn.data.smppMsgIdType = some id := hlink.idType ▸ hacc
    obtain hmem | hmem | hmem | hmem := hi.recorded j pdu id hj hacc
    · obtain ⟨inc, hinc, rfl⟩ := List.mem_map.mp hmem
      obtain rfl : inc.pdu = pdu := Option.some.inj ((hi.placed inc hinc).symm.trans hj)
      obtain hstays | hgot | hlost := htakes.gone inc hinc
      · exact .inl (List.mem_map_of_mem hstays)
      · have hnext : inc.position ∈ (s.next lib receipts deliverSmSource link r).missed ∨ _ :=
          recorded_or_missed hlink hgot (htakes.got inc hgot).2 hacc
        exact .inr (hnext.imp_right .inr)
      · exact .inr (.inl (List.mem_append_left _ (List.mem_append_right _ (List.mem_map_of_mem hlost))))
    · exact .inr (.inl (List.mem_append_left _ (List.mem_append_left _ hmem)))
    · exact .inr (.inr (.inl hmem))
    · refine .inr (.inr (.inr ?_))
      obtain ⟨m, hm, hadds⟩ := List.mem_flatMap.mp hmem
      exact List.mem_flatMap.mpr ⟨m, List.mem_append_left _ (List.mem_append_left _ hm), hadds⟩
  case covered =>
    exact covered_congr [] (hi.covered_status hsettled _)
      (fun status n hmem => hi.stamped_status htakes hmem) (List.append_nil _).symm hlink.idType
  case stamped => exact fun status n hmem => hi.stamped_status htakes hmem
  case handled => exact hi.handled
  case mapping => exact hi.mapping_congr [] (List.append_nil _).symm hlink.idType rfl

/-- A thread that reads a PDU holds it unhandled. -/
theorem Inv.readPdu {transmitter : Bool} (hi : s.Inv) (h : s.readPdu transmitter = some s') : s'.Inv := by
  have hsame : s'.unhandled = s.unhandled ∧ ∃ tx rx txRead rxRead,
      s' = { s with tx := tx, rx := rx, txRead := txRead, rxRead := rxRead } := by
    unfold ReceiptLink.readPdu at h
    split at h
    all_goals
      split at h
      · rename_i hnone hsocket
        obtain ⟨-, hs⟩ := Option.ite_none_right_eq_some.mp h
        rw [← Option.some.inj hs]
        exact ⟨by simp [unhandled, hnone, hsocket], _, _, _, _, rfl⟩
      · exact absurd h (by simp)
  obtain ⟨hunhandled, tx, rx, txRead, rxRead, rfl⟩ := hsame
  exact { hi with
    placed := fun inc hinc => hi.placed inc (hunhandled ▸ hinc)
    recorded := fun j pdu id hj hacc => hunhandled ▸ hi.recorded j pdu id hj hacc }

/-- Another thread changes the connection. -/
theorem Inv.relink (hi : s.Inv)
    (htype : link.conn.data.smppMsgIdType = s.link.conn.data.smppMsgIdType) :
    Inv { s with link := link } := by
  refine { hi with recorded := ?_, covered := ?_, mapping := ?_ }
  · exact fun j pdu id hj hacc => hi.recorded j pdu id hj (htype ▸ hacc)
  · exact covered_congr [] hi.covered hi.stamped (List.append_nil _).symm htype
  · exact hi.mapping_congr [] (List.append_nil _).symm htype rfl

/-- A message of another thread, which needs nothing. -/
theorem Inv.send (hi : s.Inv) {msg : DbboxMsg} (hneeds : ∀ id, ¬ msg.needs s.AcceptedBefore id)
    (hstamped : ∀ status n, msg = .insertStatus status n → n = 0) :
    Inv { s with dbbox := s.dbbox ++ [msg] } := by
  refine { hi with recorded := ?_, covered := ?_, stamped := ?_ }
  · intro j pdu id hj hacc
    refine (hi.recorded j pdu id hj hacc).imp_right (Or.imp_right (Or.imp_right fun hmem => ?_))
    rw [List.flatMap_append]
    exact List.mem_append_left _ hmem
  · exact hi.covered.concat fun id hid => absurd hid (hneeds id)
  · intro status n hmem
    obtain hmem | hmem := List.mem_append.mp hmem
    · exact hi.stamped status n hmem
    · exact hstamped status n (List.mem_singleton.mp hmem).symm ▸ Nat.zero_le _

/-- The database process stores a record. -/
theorem Inv.store (hi : s.Inv) {record : InsertMis} {rest : List DbboxMsg}
    (hdbbox : s.dbbox = .insertMis record :: rest) :
    Inv { s with dbbox := rest, misTable := s.misTable ++ [record.row] } := by
  have hknown : known { s with dbbox := rest, misTable := s.misTable ++ [record.row] } =
      s.known ++ [record.smscMsgId] := List.map_append
  have hcovered := hi.covered
  rw [hdbbox] at hcovered
  refine { hi with recorded := ?_, covered := ?_, stamped := ?_ }
  · intro j pdu id hj hacc
    rw [hknown]
    refine (hi.recorded j pdu id hj hacc).imp_right (Or.imp_right fun hmem => ?_)
    rw [hdbbox, List.flatMap_cons] at hmem
    obtain hmem | hmem := hmem
    · exact .inl (List.mem_append_left _ hmem)
    · exact (List.mem_append.mp hmem).imp_left (List.mem_append_right _)
  · rw [hknown]
    refine hcovered.2.mono (fun id hid => ?_) fun m _ id hneeds => hneeds
    exact (List.mem_append.mp hid).elim (List.mem_append_right _) (List.mem_append_left _)
  · intro status n hmem
    exact hi.stamped status n (hdbbox ▸ List.mem_cons_of_mem _ hmem)

/-- A look-up that is answered with a row finds one. -/
theorem dlrFind_result {rows : List MisRow} {row : MisRow} {destAddr : Octstr} (hrow : row ∈ rows) :
    (dlrFind true (fun _ => some rows) destAddr id).result = 1 := by
  cases rows with
  | nil => exact absurd hrow List.not_mem_nil
  | cons first rows => rfl

/-- The database process handles a report. -/
theorem Inv.lookup (hi : s.Inv) {status : InsertStatus} {position : ℕ} {rest : List DbboxMsg}
    {added : List MisRow} {answer : Option (List MisRow)} (hhandles : s.handles = true)
    (hdbbox : s.dbbox = .insertStatus status position :: rest)
    (hanswer : Statements s.misTable added answer (.insertStatus status position)) :
    Inv ({ s with dbbox := rest }.handleRequest added answer (.insertStatus status position)) := by
  have hcovered := hi.covered
  rw [hdbbox] at hcovered
  obtain ⟨rows, rfl, hrows⟩ := hanswer
  refine { hi with recorded := ?_, covered := ?_, stamped := ?_, handled := ?_, mapping := ?_ }
  · intro j pdu id hj hacc
    have hrec := hi.recorded j pdu id hj hacc
    rw [hdbbox, List.flatMap_cons] at hrec
    exact hrec
  · exact hcovered.2
  · exact fun status n hmem => hi.stamped status n (hdbbox ▸ List.mem_cons_of_mem _ hmem)
  · intro lk hlk
    obtain hlk | hlk := List.mem_append.mp hlk
    · exact hi.handled lk hlk
    · obtain rfl := List.mem_singleton.mp hlk
      exact hi.stamped status position (hdbbox ▸ List.mem_cons_self)
  · intro lk hlk id hid hacc
    obtain hlk | hlk := List.mem_append.mp hlk
    · exact hi.mapping lk hlk id hid hacc
    · obtain rfl := List.mem_singleton.mp hlk
      have hmem : id ∈ s.known := hcovered.1 id ⟨hid, hacc⟩
      obtain ⟨row, hrow, hname⟩ := List.mem_map.mp hmem
      refine ⟨⟨row, hrow, hname⟩, fun res hres => ?_⟩
      have hin : row ∈ rows := hrows row hrow (hname ▸ Eq.symm hid)
      dsimp only at hres
      split at hres
      · rw [← Option.some.inj hres, hhandles]
        exact dlrFind_result hin
      · exact absurd hres (by simp)

/-- **Every step keeps the invariant** if reports are handled in order. -/
theorem Inv.step (hi : s.Inv) (horder : InOrder receipts s e)
    (h : receiptStep lib cfg receipts deliverSmSource s e = some s') : s'.Inv := by
  cases e with
  | smscSends transmitter pdu => exact hi.smscSends h
  | reads transmitter => exact hi.readPdu h
  | io ev =>
    obtain ⟨link, hlink, hmap⟩ := Option.bind_eq_some_iff.mp h
    obtain ⟨r, hread, rfl⟩ := Option.map_eq_some_iff.mp hmap
    exact Inv.thread none s.rxRead hi (linkStep_io_records hlink) (handledOf_takes hread).append_right
      (hread ▸ horder)
  | receive ev =>
    obtain ⟨link, hlink, hmap⟩ := Option.bind_eq_some_iff.mp h
    obtain ⟨r, hread, rfl⟩ := Option.map_eq_some_iff.mp hmap
    exact Inv.thread s.txRead none hi (linkStep_receive_records hlink) (handledOf_takes hread).append_left
      (hread ▸ horder)
  | smscconnSend msg =>
    obtain ⟨link, hlink, rfl⟩ := Option.map_eq_some_iff.mp h
    obtain ⟨conn, hconn, rfl⟩ := Option.map_eq_some_iff.mp hlink
    obtain ⟨-, -, rfl⟩ := smscconnSend_eq_some.mp hconn
    exact hi.relink rfl
  | shutdownCb =>
    rw [receiptStep, linkStep, Option.map_some, Option.some.injEq] at h
    exact h ▸ hi.relink rfl
  | insertMis record =>
    rw [← Option.some.inj h]
    exact hi.send (fun id hneeds => hneeds) fun status n heq => absurd heq (by simp)
  | insertStatus status =>
    rw [← Option.some.inj h]
    refine hi.send (fun id hneeds => ?_) fun status n heq => (DbboxMsg.insertStatus.inj heq).2.symm
    obtain ⟨-, j, hj, -⟩ := hneeds
    exact absurd hj (Nat.not_lt_zero j)
  | handleRequest added answer =>
    obtain ⟨hhandles, hstatements⟩ := horder
    rw [receiptStep] at h
    split at h
    · exact absurd h (by simp)
    · rename_i msg rest hdbbox
      have hstatement := hstatements msg (by rw [hdbbox]; rfl)
      rw [← Option.some.inj h]
      cases msg with
      | insertMis record =>
        obtain rfl : added = [record.row] := hstatement
        rw [ReceiptLink.handleRequest, if_pos hhandles]
        exact hi.store hdbbox
      | insertStatus status position => exact hi.lookup hhandles hdbbox hstatement

/-- **The record is there before the receipt.**  For every interleaving of the two threads of a
connection, in every run in which the reports are handled in order and the statements of the database
process do what they should: when the report of a message is handled that the SMSC had accepted before it sent the
report, the record of the message is in the MIS table, and `dlr_find` finds it. -/
theorem mappingFirst_of_inOrder (lib : Gwlib) (cfg : ClientCfg) (receipts : ReceiptLib)
    (deliverSmSource : ℤ) (link : Link) (handles : Bool) (misTable : List MisRow)
    {evs : List ReceiptEvent} {s : ReceiptLink}
    (horder : Along (receiptStep lib cfg receipts deliverSmSource) (InOrder receipts)
      { link := link, handles := handles, misTable := misTable } evs)
    (hrun : exec (receiptStep lib cfg receipts deliverSmSource)
      { link := link, handles := handles, misTable := misTable } evs = some s) : s.MappingFirst :=
  (exec_invariant (fun hi hg h => hi.step hg h) (inv_start link handles misTable) horder hrun).mapping

end Inv

end ReceiptLink

/-! ## Samples -/

/-- Reports start with `id:`, the id and a blank, and tell of a delivery. -/
def sampleReceiptLib : ReceiptLib where
  timesOctstrGetManyAlphanumeric sm _ := ((sm.getD []).drop 3).takeWhile (· ≠ 32)
  timesOctstrGetManyChars _ _ := octstrImm "DELIVRD"
  smppPduPack _ := some (octstrImm "deliver_sm")

/-- The report of the message `42`. -/
def sampleReport : DeliverSm where
  smLength := 21
  shortMessage := some (octstrImm "id:42 sub:001 dlvrd:001 submit date:0908131000 done date:0908131001 stat:DELIVRD")
  sourceAddr := some (octstrImm "919800000000")
  destinationAddr := some (octstrImm "ACME")

/-- The response of the SMSC, with the id `42`. -/
def sampleAcceptance : Pdu := .submitSmResp 3 0 (some (octstrImm "42"))

/-- Both links are bound, a message is sent, the SMSC accepts it with the id `42` and reports its
delivery; both threads have read what came, and handled nothing of it. -/
def sampleAccepted : List ReceiptEvent :=
  [.io (.enter true 1000), .receive (.enter true 1000), .io (.connWait true 1000),
    .receive (.connWait true 1000), .smscSends true (.plain (.bindTransmitterResp 0)),
    .smscSends false (.plain (.bindReceiverResp 0)), .reads true,
    .io (.readPdu (.bindTransmitterResp 0) 1001), .reads false,
    .receive (.readPdu (.bindReceiverResp 0) 1001), .smscconnSend sampleMsg, .io (.send true 1001),
    .io (.send true 1001), .smscSends true (.plain sampleAcceptance),
    .smscSends false (.deliverSm sampleReport), .reads true, .reads false]

/-- The response is handled first. -/
def sampleInOrder : List ReceiptEvent :=
  let row : MisRow := ⟨octstrImm "acme", octstrImm "a1", octstrImm "smsc-a", octstrImm "42"⟩
  sampleAccepted ++
    [.io (.readPdu sampleAcceptance 1002), .receive (.readPdu .other 1002),
      .handleRequest [row] none, .handleRequest [] (some [row])]

/-- The report is handled first. -/
def sampleOvertaken : List ReceiptEvent :=
  sampleAccepted ++
    [.receive (.readPdu .other 1002), .io (.readPdu sampleAcceptance 1002),
      .handleRequest [] (some []), .handleRequest [] none]

/-- The run of events on a new connection with two links. -/
def sampleReceiptRun (evs : List ReceiptEvent) : Option ReceiptLink :=
  exec (receiptStep sampleGwlib { dndcheckFlag := false } sampleReceiptLib 1)
    { link := { conn := sampleConn, receiver := some {} } } evs

/-- The connection behind the run in which the response is handled first. -/
def sampleReceiptLink : ReceiptLink := (sampleReceiptRun sampleInOrder).get (by decide)

theorem ReceiptLink.mappingFirst_sampleInOrder :
    (sampleReceiptLink.lookups.map fun lk => lk.result.map ValuesGot.result) = [some 1] ∧
      sampleReceiptLink.MappingFirst := by
  have hrun : sampleReceiptRun sampleInOrder = some sampleReceiptLink := (Option.some_get _).symm
  exact ⟨by decide, ReceiptLink.mappingFirst_of_inOrder sampleGwlib { dndcheckFlag := false }
    sampleReceiptLib 1 { conn := sampleConn, receiver := some {} } true [] (by decide +kernel) hrun⟩

/-- **A report that overtakes the response** is looked up before the record is there. -/
theorem ReceiptLink.mappingFirst_sampleOvertaken :
    ∃ s, sampleReceiptRun sampleOvertaken = some s ∧ ¬ s.MappingFirst := by
  refine ⟨(sampleReceiptRun sampleOvertaken).get (by decide), (Option.some_get _).symm, fun hfirst => ?_⟩
  -- the response is the third PDU that the SMSC sent, the report the fourth
  obtain ⟨⟨row, hrow, -⟩, -⟩ := hfirst
    (((sampleReceiptRun sampleOvertaken).get (by decide)).lookups.get ⟨0, by decide⟩) (List.get_mem _ _)
    (octstrImm "42") (by decide)
    ⟨2, by decide, .plain sampleAcceptance, by decide, by decide⟩
  exact absurd hrow (by decide +revert)

end SmppServer.SmppSmsc
