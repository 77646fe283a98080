import SmppServer.Esme.Registry
import SmppServer.Gwlib.Number

/-!
# Esme/Submit — handling a `submit_sm`

`handle_submit_sm` answers every `submit_sm` of a session that may transmit with a response that carries a
message id, whether the message is accepted or not, and sends a row for `smpp_esme_table` to the database
process in both cases.  An accepted message goes to the SMSC process at once, unless DND checking is on; a rejected one
gets a record in the MIS table.

The checks on the addresses and the routing are parameters, `SubmitLib`.

* `handleSubmitSm_eq_some` — the response and the row agree on the id and the status.
-/

namespace SmppServer.SmppEsme

/-! ## Messages

The fields that are read of a submit, and those that are written to the three messages made of it. -/

/-- The fields of a `submit_sm` PDU that are read. -/
structure SubmitSm where
  sequenceNumber : ℤ
  sourceAddr : Option Octstr
  sourceAddrTon : ℤ := 0
  sourceAddrNpi : ℤ := 0
  destinationAddr : Option Octstr
  destAddrTon : ℤ := 0
  destAddrNpi : ℤ := 0
  shortMessage : Option Octstr
  esmClass : ℤ := 0
  priorityFlag : ℤ := 0
  replaceIfPresentFlag : ℤ := 0
  dataCoding : ℤ := 0
  moreMessagesToSend : ℤ := -1
  userResponseCode : ℤ := -1
  deriving DecidableEq, Repr

/-- A `submit_sm_resp` PDU. -/
structure SubmitSmResp where
  sequenceNumber : ℤ
  commandStatus : ℤ
  messageId : Octstr
  deriving DecidableEq, Repr

/-- A `submit` message for the SMSC process. -/
structure SubmitMsg where
  reqTime : Octstr
  accountName : Option Octstr
  accountMsgId : Octstr
  destinationAddr : Option Octstr
  sourceAddr : Option Octstr
  pdu : Option Octstr
  preferredSmsc : Octstr
  allowedSmsc : Octstr
  ip : Octstr
  deriving DecidableEq, Repr

/-- A `smpp_esme` message for the database process. -/
structure SmppEsmeMsg where
  accountName : Option Octstr
  accountMsgId : Octstr
  reqTime : Octstr
  sourceAddr : Option Octstr
  destAddr : Option Octstr
  msgContent : Option Octstr
  submitStatus : ℤ
  esmClass : ℤ
  dataCoding : ℤ
  moreMessagesToSend : ℤ
  ip : Octstr
  dndFlag : ℤ
  retryValue : ℤ
  deriving DecidableEq, Repr

/-- An `insert_mis` message for the database process; the ids of the SMSC are empty. -/
structure InsertMisMsg where
  accountName : Option Octstr
  accountMsgId : Octstr
  reqTime : Octstr
  sourceAddr : Option Octstr
  destAddr : Option Octstr
  submitStatus : ℤ
  esmClass : ℤ
  messageLen : ℕ
  msgContent : Option Octstr
  retryValue : ℤ
  ip : Octstr
  deriving DecidableEq, Repr

/-! ## The process

What is shared by all sessions, what the clock shows, and the functions of other modules. -/

/-- Settings of the process. -/
structure ServerCfg where
  dndcheckFlag : ℤ
  smscQLimit : ℤ := -1
  deriving DecidableEq, Repr

/-- What `handle_submit_sm` reads and writes beside the account: the status of the program and of the
two connections to the SMSC process, the queue limit announced by it, the messages for it, and the
static counter of message ids. -/
structure SubmitServer where
  programRunning : Bool := true
  reverseConnected : Bool := true
  forwardConnected : Bool := true
  globalQLimit : ℤ := -1
  forwardSendList : List SubmitMsg := []
  counter : ℕ := 0
  deriving DecidableEq, Repr

/-- What is read off the clock: the time in seconds, the hour of the day, and the time as text. -/
structure Moment where
  timestamp : ℤ
  tmHour : ℤ
  currentDatetime : Octstr
  deriving DecidableEq, Repr

/-- What `verify_pdu_para` returns: the reason, the addresses, and the account, whose senders it may
have extended. -/
structure Verified where
  reason : ℤ
  destAddr : Option Octstr
  sourceAddr : Option Octstr
  esme : Esme
  deriving DecidableEq, Repr

/-- The functions that `handle_submit_sm` calls; `routPdu` gives the preferred and the allowed
positions, `none` if there is no route. -/
structure SubmitLib where
  verifyPduPara : Esme → SubmitSm → Verified
  routPdu : Option Octstr → Option Octstr → Option (Octstr × Octstr)
  smppPduPack : SubmitSm → Option Octstr
  octstrBinaryToHex : Octstr → Octstr

/-! ## The checks

The checks in their order, from the state of the process to the routing.  Each rejects with a status of its own;
the counters are moved at the places where the code moves them. -/

/-- Change the session at a position of the list of transmitters. -/
def Esme.modifyTx (e : Esme) (session : ℕ) (f : EsmeTx → EsmeTx) : Esme :=
  { e with txEsme := e.txEsme.modify session f }

/-- `max_submits_unct_account`. -/
def maxSubmitsUnctAccount (e : Esme) : ℕ := (e.txEsme.map (·.submitsUnconnect)).sum

/-- The throughput limit: above it the counting starts anew, after a pause. -/
def paceSubmits (now : Moment) (e : Esme) : Esme :=
  if e.maxTps < e.msgCount then { e with esmTime := now.timestamp, msgCount := 0 } else e

/-- The limit on the submits of a session, by its status.  `counter_value` is an `unsigned long`, and `max_submits`
is converted to one before the two are compared; `max_submits_unct_account` is a `long`. -/
def overQuota (e : Esme) (tx : EsmeTx) : Bool :=
  match tx.status with
  | .smscUnconnected =>
    e.maxSubmitsUnconnect ≠ -1 ∧ e.maxSubmitsUnconnect ≤ maxSubmitsUnctAccount e
  | .binded => e.maxSubmits ≠ -1 ∧ e.maxSubmits % 2 ^ 64 ≤ tx.msgReceived
  | _ => false

/-- A submit within the limit counts as one without connection, for either status. -/
def countQuota (tx : EsmeTx) : EsmeTx :=
  match tx.status with
  | .smscUnconnected | .binded => { tx with submitsUnconnect := tx.submitsUnconnect + 1 }
  | _ => tx

/-- The outcome of the checks: the status for the response, the account, and the message for the SMSC
process. -/
structure Checked where
  commandStatus : ℤ
  esme : Esme
  msg : Option SubmitMsg
  deriving DecidableEq, Repr

/-- A rejection. -/
def reject (session : ℕ) (status : ℤ) (e : Esme) : Checked :=
  ⟨status, e.modifyTx session fun tx => { tx with msgRejected := tx.msgRejected + 1 }, none⟩

section Handle

variable (lib : SubmitLib) (cfg : ServerCfg) (now : Moment)

/-- The checks of `handle_submit_sm` on a session that may transmit. -/
def checkSubmit (srv : SubmitServer) (e : Esme) (session : ℕ) (tx : EsmeTx) (messageId : Octstr)
    (pdu : SubmitSm) : Checked :=
  if srv.programRunning = false then reject session 0x407 e
  else if (srv.reverseConnected = false ∨ srv.forwardConnected = false) ∧ cfg.smscQLimit ≠ -1 ∧
      (srv.forwardSendList.length : ℤ) = cfg.smscQLimit then reject session 0x409 e
  else if srv.globalQLimit = 1 then reject session 0x40A e
  else if overQuota e tx then reject session 0x14 e
  else
    -- the addresses are verified before the time of day is looked at
    let verified := lib.verifyPduPara (e.modifyTx session countQuota) pdu
    let e := verified.esme
    if now.tmHour ≤ e.validTimeFrom ∨ e.validTimeTo ≤ now.tmHour then reject session 0x11 e
    else if verified.reason ≠ 0 then reject session verified.reason e
    else
      match lib.routPdu verified.destAddr e.systemId with
      | none => reject session 0x45 e
      | some (preferredSmsc, allowedSmsc) =>
        { commandStatus := 0
          esme :=
            { e.modifyTx session fun tx => { tx with msgSent := tx.msgSent + 1 } with
              msgCount := e.msgCount + 1 }
          msg := some
            { reqTime := now.currentDatetime
              accountName := e.systemId
              accountMsgId := messageId
              destinationAddr := verified.destAddr
              sourceAddr := verified.sourceAddr
              pdu := lib.smppPduPack pdu
              preferredSmsc := preferredSmsc
              allowedSmsc := allowedSmsc
              ip := tx.clientIp } }

/-- The value that `retry_value` gets. -/
def retryValue (pdu : SubmitSm) : ℤ := if pdu.userResponseCode ≠ -1 then pdu.userResponseCode else 0

/-- The row for `smpp_esme_table`, written irrespective of the status. -/
def smppEsmeMsg (e : Esme) (ip : Octstr) (resp : SubmitSmResp) (pdu : SubmitSm) : SmppEsmeMsg where
  accountName := e.systemId
  accountMsgId := resp.messageId
  reqTime := now.currentDatetime
  sourceAddr := pdu.sourceAddr
  destAddr := pdu.destinationAddr
  msgContent :=
    if pdu.dataCoding ≠ 0 then pdu.shortMessage.map lib.octstrBinaryToHex else pdu.shortMessage
  submitStatus := resp.commandStatus
  esmClass := pdu.esmClass
  dataCoding := pdu.dataCoding
  moreMessagesToSend := pdu.moreMessagesToSend
  ip := ip
  dndFlag := if cfg.dndcheckFlag = 0 then -1 else 0
  retryValue := retryValue pdu

/-- `mis_db_insert`. -/
def misDbInsert (e : Esme) (ip : Octstr) (resp : SubmitSmResp) (pdu : SubmitSm) : InsertMisMsg where
  accountName := e.systemId
  accountMsgId := resp.messageId
  reqTime := now.currentDatetime
  sourceAddr := pdu.sourceAddr
  destAddr := pdu.destinationAddr
  submitStatus := resp.commandStatus
  esmClass := pdu.esmClass
  messageLen := (pdu.shortMessage.getD []).length
  msgContent := pdu.shortMessage
  retryValue := retryValue pdu
  ip := ip

/-- What a call does: the response, the account and the process afterwards, the row, and the record of
a rejected message. -/
structure SubmitOutcome where
  resp : SubmitSmResp
  esme : Esme
  server : SubmitServer
  smppEsme : SmppEsmeMsg
  insertMis : Option InsertMisMsg
  deriving DecidableEq, Repr

/-- The end of `handle_submit_sm`, behind its label `ret`. -/
def answerSubmit (srv : SubmitServer) (session : ℕ) (mode : ℤ) (ip messageId : Octstr) (pdu : SubmitSm)
    (c : Checked) : SubmitOutcome :=
  let resp : SubmitSmResp := ⟨pdu.sequenceNumber, c.commandStatus, messageId⟩
  { resp := resp
    esme :=
      if mode = 1 then c.esme.modifyTx session fun tx => { tx with msgReceived := tx.msgReceived + 1 }
      else c.esme
    server := match c.msg with
      | some msg =>
        if cfg.dndcheckFlag = 0 then { srv with forwardSendList := srv.forwardSendList ++ [msg] } else srv
      | none => srv
    smppEsme := smppEsmeMsg lib cfg now c.esme ip resp pdu
    insertMis := if c.commandStatus = 0 then none else some (misDbInsert now c.esme ip resp pdu) }

/-- **`handle_submit_sm`** on the session at a position of the list of transmitters; `none` if there is no such
session, or if the process crashes. -/
def handleSubmitSm (srv : SubmitServer) (e : Esme) (session : ℕ) (mode : ℤ) (pdu : SubmitSm) :
    Option SubmitOutcome :=
  let e := paceSubmits now e
  -- a receiver session gets its status, 0x400; but behind the label `ret` its structure is read as an `ESME_TX`,
  -- whose `client_ip` lies where an `ESME_RX` has its `thread_id`, and `octstr_duplicate` follows that
  if mode = 2 then none
  else
    e.txEsme[session]?.map fun tx =>
      let srv := { srv with counter := srv.counter + 1 }
      let messageId := formatLd tx.msgReceived ++ formatLd now.timestamp ++ formatLd srv.counter
      answerSubmit lib cfg now srv session mode tx.clientIp messageId pdu
        (checkSubmit lib cfg now srv e session tx messageId pdu)

end Handle

/-- **Response and row agree**, on every path: the id, the status, and the flag for the DND checker. -/
theorem handleSubmitSm_eq_some {lib : SubmitLib} {cfg : ServerCfg} {now : Moment} {srv : SubmitServer}
    {e : Esme} {session : ℕ} {mode : ℤ} {pdu : SubmitSm} {out : SubmitOutcome}
    (h : handleSubmitSm lib cfg now srv e session mode pdu = some out) :
    out.smppEsme.accountMsgId = out.resp.messageId ∧
      out.smppEsme.submitStatus = out.resp.commandStatus ∧
      out.smppEsme.dndFlag = if cfg.dndcheckFlag = 0 then -1 else 0 := by
  rw [handleSubmitSm] at h
  obtain ⟨-, h⟩ := Option.ite_none_left_eq_some.mp h
  obtain ⟨tx, -, rfl⟩ := Option.map_eq_some_iff.mp h
  exact ⟨rfl, rfl, rfl⟩

end SmppServer.SmppEsme
