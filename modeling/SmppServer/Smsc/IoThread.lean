import SmppServer.Smsc.Conn
import SmppServer.Smsc.MsgId

/-!
# Smsc/IoThread — the transmitting thread of a connection

`io_thread` opens the connection, reads PDUs, sends what is queued, requeues what is not acknowledged
in time, and after a failure hands everything it holds back to the router before it tries again.  Its
loops are cut into steps between which other threads may run: one PDU, one message sent, one message
flushed.  An event carries what the outside answers — whether a write succeeded, which PDU was read,
what time it is, in which order the dictionary lists its keys.

A step is `none` when the event does not belong to the place the thread is at, or when the process
stops there (a PDU that cannot be unpacked).
-/

namespace SmppServer.SmppSmsc

/-! ## Constants of the protocol -/

def smppEsmeRok : ℤ := 0x00
def smppEsmeRsyserr : ℤ := 0x08
def smppEsmeRinvpaswd : ℤ := 0x0E
def smppEsmeRinvsysid : ℤ := 0x0F
def smppEsmeRmsgqful : ℤ := 0x14
def smppEsmeRthrottled : ℤ := 0x58
def smppEsmeRxTAppn : ℤ := 0x64

def gsmAddrTonNational : ℤ := 2
def gsmAddrNpiE164 : ℤ := 1
def esmClassDeliverUdhIndicator : ℤ := 0x40

def smppThrottlingSleepTime : ℤ := 15
def smppDefaultShutdownTimeout : ℤ := 30

/-- The PDUs `handle_pdu` distinguishes; `other` are those that are answered, or ignored, without
touching the messages of the connection. -/
inductive Pdu
  | submitSmResp (sequenceNumber commandStatus : ℤ) (messageId : Option Octstr)
  | genericNack (sequenceNumber commandStatus : ℤ)
  | bindTransmitterResp (commandStatus : ℤ)
  | bindTransceiverResp (commandStatus : ℤ)
  | bindReceiverResp (commandStatus : ℤ)
  | unbind
  | unbindResp
  | other
  deriving DecidableEq, Repr

/-! ## Fields of a connection -/

/-- `counter_increase(smpp->message_id_counter)`. -/
def SmscConn.drawSequenceNumber (conn : SmscConn) : SmscConn :=
  { conn with
    data := { conn.data with messageIdCounter := conn.data.messageIdCounter + 1 } }

def SmscConn.goto (conn : SmscConn) (pc : Pc) : SmscConn :=
  { conn with thread := { conn.thread with pc := pc } }

def SmscConn.setStatus (conn : SmscConn) (status : SmscconnStatus) : SmscConn :=
  { conn with status := status }

def SmscConn.setPending (conn : SmscConn) (pendingSubmits : ℤ) : SmscConn :=
  { conn with thread := { conn.thread with pendingSubmits := pendingSubmits } }

def SmscConn.setThrottling (conn : SmscConn) (throttlingErrTime : ℤ) : SmscConn :=
  { conn with data := { conn.data with throttlingErrTime := throttlingErrTime } }

/-- `dict_put` on `sent_msgs`: a value already there under the key is replaced. -/
def SmscConn.putSent (conn : SmscConn) (key : ℤ) (smppMsg : SmppMsg) : SmscConn :=
  { conn with data := { conn.data with sentMsgs := conn.data.sentMsgs.insert key smppMsg } }

/-- `dict_remove` on `sent_msgs`. -/
def SmscConn.removeSent (conn : SmscConn) (key : ℤ) : SmscConn :=
  { conn with data := { conn.data with sentMsgs := conn.data.sentMsgs.erase key } }

/-- `gwlist_extract_first` on `msgs_to_send`. -/
def SmscConn.extractFirst (conn : SmscConn) : SmscConn :=
  { conn with data := { conn.data with msgsToSend := conn.data.msgsToSend.tail } }

def Msg.setPdu (msg : Msg) (pdu : Option Octstr) : Msg :=
  { msg with smInfo := { msg.smInfo with pdu := pdu } }

/-- The message as `sent_msgs` keeps it. -/
def Msg.transmitted (msg : Msg) : Msg :=
  { msg with msgState := .sentNoresp, retries := msg.retries + 1 }

section Thread

variable (lib : Gwlib) (cfg : ClientCfg)

/-! ## The fate of a message

The reason decides: some may be tried again and go before the router, all others end the message. -/

/-- `smpp_status_to_smscconn_failure_reason`. -/
def smppStatusToSmscconnFailureReason (status : ℤ) : FailureReason :=
  if status = smppEsmeRmsgqful ∨ status = smppEsmeRthrottled ∨ status = smppEsmeRxTAppn ∨
      status = smppEsmeRsyserr then .failedTemporarily
  else .failedRejected

/-- A message as it is handed back to the router: with the time of its first failure, and the SMSC
that failed. -/
def handedBack (now : ℤ) (conn : SmscConn) (sms : Msg) : Msg :=
  { sms with
    msgRetryTime := if sms.msgRetryTime = 0 then now else sms.msgRetryTime
    failedSmscId := some conn.id }

/-- `smscconn_send_failed`: a message that may be tried again goes to the router, any other is
destroyed. -/
def smscconnSendFailed (now : ℤ) (q : Queues) (conn : SmscConn) (sms : Msg)
    (reason : FailureReason) : Queues × SmscConn :=
  match reason with
  | .failedTemporarily | .failedShutdown =>
    (produceOutgoingMsg cfg q (handedBack now conn sms), conn)
  | _ => (msgDestroy q sms, { conn with failed := conn.failed + 1 })

/-- `smscconn_sent`. -/
def smscconnSent (q : Queues) (conn : SmscConn) (sms : Msg) : Queues × SmscConn :=
  (msgDestroy q sms, { conn with sent := conn.sent + 1 })

/-- `handle_pdu` on a `submit_sm_resp`. -/
def handleSubmitSmResp (now : ℤ) (q : Queues) (conn : SmscConn)
    (sequenceNumber commandStatus : ℤ) (messageId : Option Octstr) : Option (Queues × SmscConn) :=
  match conn.data.sentMsgs.lookup sequenceNumber with
  | none => some (q, conn)
  | some smppMsg =>
    let conn := conn.removeSent sequenceNumber
    match submitSmRespMsgId conn.data.smppMsgIdType messageId,
        smppMsg.msg.smInfo.pdu.bind lib.smppPduUnpack with
    | some smscMsgId, some submitSmPdu =>
      let q := misDbInsert q smppMsg.msg (some conn.id) smscMsgId submitSmPdu commandStatus
      let msg := { smppMsg.msg with msgState := .sentResp }
      if commandStatus ≠ smppEsmeRok then
        let conn := conn.setThrottling (if commandStatus = smppEsmeRthrottled then now else 0)
        let (q, conn) := smscconnSendFailed cfg now q conn msg
          (smppStatusToSmscconnFailureReason commandStatus)
        some (q, conn.setPending (conn.thread.pendingSubmits - 1))
      else
        let (q, conn) := smscconnSent q conn msg
        some (q, conn.setPending (conn.thread.pendingSubmits - 1))
    | _, _ => none

/-- `handle_pdu` on a `generic_nack`: no record is made. -/
def handleGenericNack (now : ℤ) (q : Queues) (conn : SmscConn)
    (sequenceNumber commandStatus : ℤ) : Queues × SmscConn :=
  match conn.data.sentMsgs.lookup sequenceNumber with
  | none => (q, conn)
  | some smppMsg =>
    let conn := conn.removeSent sequenceNumber
    let conn := conn.setThrottling (if commandStatus = smppEsmeRthrottled then now else 0)
    let (q, conn) := smscconnSendFailed cfg now q conn smppMsg.msg
      (smppStatusToSmscconnFailureReason commandStatus)
    (q, conn.setPending (conn.thread.pendingSubmits - 1))

/-- `handle_pdu` on the response to a bind as transmitter or transceiver. -/
def handleBindResp (conn : SmscConn) (commandStatus : ℤ) : SmscConn :=
  if commandStatus ≠ smppEsmeRok then
    if commandStatus = smppEsmeRinvsysid ∨ commandStatus = smppEsmeRinvpaswd then
      { conn with data := { conn.data with quitting := true } }
    else conn
  else (conn.setPending 0).setStatus .active

/-- `handle_pdu` on the response to a bind as receiver. -/
def handleBindReceiverResp (conn : SmscConn) (commandStatus : ℤ) : SmscConn :=
  if commandStatus ≠ smppEsmeRok then
    if commandStatus = smppEsmeRinvsysid ∨ commandStatus = smppEsmeRinvpaswd then
      { conn with data := { conn.data with quitting := true } }
    else conn
  else if conn.status ≠ .active then conn.setStatus .activeRecv else conn

/-- `handle_pdu`. -/
def handlePdu (now : ℤ) (q : Queues) (conn : SmscConn) : Pdu → Option (Queues × SmscConn)
  | .submitSmResp seq status messageId => handleSubmitSmResp lib cfg now q conn seq status messageId
  | .genericNack seq status => some (handleGenericNack cfg now q conn seq status)
  | .bindTransmitterResp status => some (q, handleBindResp conn status)
  | .bindTransceiverResp status => some (q, handleBindResp conn status)
  | .bindReceiverResp status => some (q, handleBindReceiverResp conn status)
  | .unbind => some (q, conn.setStatus .disconnected)
  | .unbindResp => some (q, conn.setStatus .disconnected)
  | .other => some (q, conn)

/-! ## Sending

What is written is made of what the message carries, and the message carries the result from then on. -/

/-- The PDU that `send_messages` builds itself when DND checking is on. -/
def createSubmitSm (smpp : Smpp) (routingInfo : ForwardQueueData) : SubmitSm where
  sequenceNumber := smpp.messageIdCounter
  serviceType := smpp.serviceType
  sourceAddrTon := if smpp.sourceAddrTon ≠ -1 then smpp.sourceAddrTon else gsmAddrTonNational
  sourceAddrNpi := if smpp.sourceAddrNpi ≠ -1 then smpp.sourceAddrNpi else gsmAddrTonNational
  destAddrTon := if smpp.destAddrTon ≠ -1 then smpp.destAddrTon else gsmAddrTonNational
  destAddrNpi := if smpp.destAddrNpi ≠ -1 then smpp.destAddrNpi else gsmAddrNpiE164
  smLength := (routingInfo.content.getD []).length
  registeredDelivery := 1
  priorityFlag := smpp.priority
  dataCoding := routingInfo.dataCoding
  esmClass := routingInfo.esmClass
  moreMessagesToSend := routingInfo.moreMessagesToSend
  shortMessage := routingInfo.content
  sourceAddr := some routingInfo.sourceAddr
  destinationAddr := some routingInfo.destinationAddr

/-- `compare_change_string`: `0` if the list of the settings names the SMSC. -/
def compareChangeString (smscId : Octstr) : ℤ :=
  match cfg.compareSmscString with
  | none => 1
  | some ids => if smscId ∈ ids then 0 else 1

/-- The UDH bit of `esm_class`. -/
def hasUdhIndicator (esmClass : ℤ) : Bool := esmClass.toNat.testBit 6

/-- The source address with the masking prefix, for alphanumeric and short sources. -/
def maskedSource (maskingPrefix : Option Octstr) (source : Octstr) (sourceAddr : Option Octstr) :
    Option Octstr :=
  match maskingPrefix with
  | some masking =>
    if lib.octstrIsnum source = false ∨ source.length < 10 then some (masking ++ source.take 8)
    else sourceAddr
  | none => sourceAddr

/-- What `send_messages` changes in a `submit_sm` for this SMSC. -/
def adaptSubmitSm (conn : SmscConn) (source : Octstr) (pdu : SubmitSm) : SubmitSm :=
  let smpp := conn.data
  { pdu with
    shortMessage :=
      if smpp.altCharset.isSome then
        if hasUdhIndicator pdu.esmClass then pdu.shortMessage.map lib.charsetLatin1ToGsmNew
        else pdu.shortMessage.map lib.charsetLatin1ToGsm
      else pdu.shortMessage
    sequenceNumber := smpp.messageIdCounter
    sourceAddrTon := if smpp.sourceAddrTon ≠ -1 then smpp.sourceAddrTon else pdu.sourceAddrTon
    sourceAddrNpi := if smpp.sourceAddrNpi ≠ -1 then smpp.sourceAddrNpi else pdu.sourceAddrNpi
    destAddrTon := if smpp.destAddrTon ≠ -1 then smpp.destAddrTon else pdu.destAddrTon
    destAddrNpi := if smpp.destAddrNpi ≠ -1 then smpp.destAddrNpi else pdu.destAddrNpi
    esmClass :=
      if hasUdhIndicator pdu.esmClass ∧ compareChangeString cfg conn.id = 0 then
        esmClassDeliverUdhIndicator
      else pdu.esmClass
    sourceAddr := maskedSource lib smpp.maskingPrefix source pdu.sourceAddr }

/-- With DND checking on, the message gets a PDU of its own. -/
def withDndPdu (conn : SmscConn) (msg : Msg) : SmscConn × Msg :=
  if cfg.dndcheckFlag then
    (conn.drawSequenceNumber,
      msg.setPdu (lib.smppPduPack
        { isSubmitSm := true, submitSm := createSubmitSm conn.data msg.routingInfo }))
  else (conn, msg)

/-- The PDU as it is written, and the message that carries it from now on. -/
def adaptPdu (conn : SmscConn) (msg : Msg) (pdu : SmppPdu) : SmscConn × Msg × SmppPdu :=
  if pdu.isSubmitSm then
    let pdu :=
      { pdu with submitSm := adaptSubmitSm lib cfg conn msg.routingInfo.sourceAddr pdu.submitSm }
    (conn.drawSequenceNumber, msg.setPdu (lib.smppPduPack pdu), pdu)
  else (conn, msg, pdu)

/-- One message of `send_messages`, behind its removal from the queue; the flag tells whether the loop
goes on.  A message without a PDU is skipped, one whose PDU cannot be written ends the loop. -/
def sendMessage (written : Bool) (now : ℤ) (conn : SmscConn) (msg : Msg) :
    Option (SmscConn × Bool) :=
  let (conn, msg) := withDndPdu lib cfg conn msg
  match msg.smInfo.pdu with
  | none => some (conn, true)
  | some packed =>
    match lib.smppPduUnpack packed with
    | none => none
    | some pdu =>
      let (conn, msg, pdu) := adaptPdu lib cfg conn msg pdu
      if (lib.smppPduPack pdu).isSome ∧ written then
        let conn := conn.putSent pdu.submitSm.sequenceNumber ⟨now, msg.transmitted⟩
        some (conn.setPending (conn.thread.pendingSubmits + 1), true)
      else some (conn, false)

/-! ## The steps of the thread

Each place of the thread has a function of its own, named by it; `ioThread` is the table of these. -/

/-- What the outside answers at a step. -/
inductive IoEvent
  | enter (opened : Bool) (now : ℤ)
  | connWait (ok : Bool) (now : ℤ)
  | unbindWait (ok : Bool) (pdu : Option Pdu) (now : ℤ)
  | readPdu (pdu : Pdu) (now : ℤ)
  | readNothing
  | readError
  | checkTimes (keys : List ℤ) (now : ℤ)
  | cleanup (now : ℤ)
  | send (written : Bool) (now : ℤ)
  | disconnect
  | flush (keys : List ℤ) (now : ℤ)
  | retry
  deriving DecidableEq, Repr

/-- `while (!smpp->quitting)`, and the opening of the connection. -/
def ioEnter (opened : Bool) (now : ℤ) (q : Queues) (conn : SmscConn) : Queues × SmscConn :=
  if conn.data.quitting then (q, (conn.setStatus .dead).goto .ended)
  else
    let conn :=
      { conn with
        bindSent := 1
        mode := if conn.data.transceiver then 3 else 1
        data := { conn.data with throttlingErrTime := 0 }
        thread :=
          { pc := if opened then .waiting else .down false
            pendingSubmits := -1
            lastEnquireSent := now
            lastResponse := now
            lastCleanup := now } }
    (q, if opened then conn.drawSequenceNumber else conn)

/-- `send_enquire_link`. -/
def sendEnquireLink (now : ℤ) (conn : SmscConn) : SmscConn :=
  if now - conn.thread.lastEnquireSent < conn.data.enquireLinkInterval then conn
  else { conn with thread := { conn.thread with lastEnquireSent := now } }.drawSequenceNumber

/-- The top of the connection loop. -/
def ioConnWait (ok : Bool) (now : ℤ) (q : Queues) (conn : SmscConn) : Queues × SmscConn :=
  if ok = false then (q, conn.goto (.down true))
  else if conn.data.quitting then
    let conn := { conn with thread := { conn.thread with lastResponse := now } }
    (q, conn.drawSequenceNumber.goto .unbinding)
  else (q, (sendEnquireLink now conn).goto .reading)

/-- The loop that waits for the answer to an unbind. -/
def ioUnbindWait (ok : Bool) (pdu : Option Pdu) (now : ℤ) (q : Queues) (conn : SmscConn) :
    Option (Queues × SmscConn) :=
  if ok ∧ now - conn.thread.lastResponse < smppDefaultShutdownTimeout ∧
      conn.status ≠ .disconnected then
    match pdu with
    | some pdu => handlePdu lib cfg now q conn pdu
    | none => some (q, conn)
  else if pdu = none then some (q, conn.goto (.down true))
  else none

/-- Go on to `send_messages` unless the SMSC throttles. -/
def gotoSend (now : ℤ) (conn : SmscConn) (send skip : Pc) : SmscConn :=
  if smppThrottlingSleepTime < now - conn.data.throttlingErrTime then
    (conn.setThrottling 0).goto send
  else conn.goto skip

/-- A PDU read in the connection loop. -/
def ioReadPdu (pdu : Pdu) (now : ℤ) (q : Queues) (conn : SmscConn) : Option (Queues × SmscConn) :=
  match handlePdu lib cfg now q conn pdu with
  | none => none
  | some (q, conn) =>
    let conn := { conn with thread := { conn.thread with lastResponse := now } }
    if conn.status ≠ .active ∧ conn.status ≠ .activeRecv then some (q, conn.goto (.down true))
    else some (q, gotoSend now (sendEnquireLink now conn) .sendInner .reading)

/-- Behind the reading loop: the connection time-out, and the start of `do_queue_cleanup` over the
keys in the order the dictionary lists them. -/
def ioCheckTimes (keys : List ℤ) (now : ℤ) (q : Queues) (conn : SmscConn) :
    Option (Queues × SmscConn) :=
  if 0 < conn.data.connectionTimeout ∧
      conn.data.connectionTimeout < now - conn.thread.lastResponse then
    some (q, conn.goto (.down true))
  else if conn.data.waitAck < now - conn.thread.lastCleanup then
    if conn.thread.pendingSubmits ≤ 0 ∨ conn.data.waitAckAction = .neverExpire then
      let conn := { conn with thread := { conn.thread with lastCleanup := now } }
      some (q, gotoSend now conn .sendOuter .waiting)
    else if keys.Perm conn.data.sentMsgs.keys then some (q, conn.goto (.cleaning keys now))
    else none
  else some (q, gotoSend now conn .sendOuter .waiting)

/-- `do_queue_cleanup` is done. -/
def ioCleanupDone (now : ℤ) (conn : SmscConn) : SmscConn :=
  gotoSend now { conn with thread := { conn.thread with lastCleanup := now } } .sendOuter .waiting

/-- One key of `do_queue_cleanup`, which started at `start`. -/
def ioCleanup (keys : List ℤ) (start now : ℤ) (q : Queues) (conn : SmscConn) : Queues × SmscConn :=
  match keys with
  | [] => (q, ioCleanupDone now conn)
  | key :: keys =>
    match conn.data.sentMsgs.lookup key with
    | none => (q, conn.goto (.cleaning keys start))
    | some smppMsg =>
      if conn.data.waitAck < start - smppMsg.sentTime then
        match conn.data.waitAckAction with
        | .reconnect => (q, conn.goto (.down true))
        | .requeue =>
          let (q, conn) := smscconnSendFailed cfg now q (conn.removeSent key) smppMsg.msg
            .failedTemporarily
          (q, (conn.setPending (conn.thread.pendingSubmits - 1)).goto (.cleaning keys start))
        | _ => (q, ioCleanupDone now conn)
      else (q, conn.goto (.cleaning keys start))

/-- The connection is bound and the window of unanswered messages is not full. -/
def SmscConn.CanSend (conn : SmscConn) : Prop :=
  conn.thread.pendingSubmits ≠ -1 ∧ conn.thread.pendingSubmits < conn.data.maxPendingSubmits

instance (conn : SmscConn) : Decidable conn.CanSend := inferInstanceAs (Decidable (_ ∧ _))

/-- One round of the loop of `send_messages`, which returns to `back`. -/
def ioSend (back : Pc) (written : Bool) (now : ℤ) (q : Queues) (conn : SmscConn) :
    Option (Queues × SmscConn) :=
  if ¬ conn.CanSend then some (q, conn.goto back)
  else
    match conn.data.msgsToSend with
    | [] => some (q, conn.goto back)
    | msg :: _ =>
      match sendMessage lib cfg written now conn.extractFirst msg with
      | none => none
      | some (conn, again) => some (q, if again then conn else conn.goto back)

/-- Behind the connection loop. -/
def ioDisconnect (connected : Bool) (q : Queues) (conn : SmscConn) : Queues × SmscConn :=
  let conn :=
    if connected then { conn with received := 0, sent := 0, failed := 0 } else conn
  (q, (conn.setStatus .reconnecting).goto
    (.flushQueue conn.data.quitting))

/-- The reason a flush gives for the messages it hands back. -/
def flushReason (quitting : Bool) : FailureReason :=
  if quitting then .failedShutdown else .failedTemporarily

/-- One message of the flush of `msgs_to_send`; then the keys of `sent_msgs` are listed. -/
def ioFlushQueue (quitting : Bool) (keys : List ℤ) (now : ℤ) (q : Queues) (conn : SmscConn) :
    Option (Queues × SmscConn) :=
  match conn.data.msgsToSend with
  | [] =>
    if keys.Perm conn.data.sentMsgs.keys then some (q, conn.goto (.flushSent quitting keys)) else none
  | msg :: _ =>
    match msg.smInfo.pdu with
    | none => some (q, conn.extractFirst)
    | some _ => some (smscconnSendFailed cfg now q conn.extractFirst msg (flushReason quitting))

/-- One key of the flush of `sent_msgs`. -/
def ioFlushSent (quitting : Bool) (keys : List ℤ) (now : ℤ) (q : Queues) (conn : SmscConn) :
    Queues × SmscConn :=
  match keys with
  | [] => (q, conn.goto .after)
  | key :: keys =>
    match conn.data.sentMsgs.lookup key with
    | none => (q, conn.goto (.flushSent quitting keys))
    | some smppMsg =>
      let (q, conn) := smscconnSendFailed cfg now q (conn.removeSent key) smppMsg.msg
        (flushReason quitting)
      (q, conn.goto (.flushSent quitting keys))

/-- **One step of `io_thread`.** -/
def ioThread (s : Queues × SmscConn) (ev : IoEvent) : Option (Queues × SmscConn) :=
  let (q, conn) := s
  match conn.thread.pc, ev with
  | .top, .enter opened now => some (ioEnter opened now q conn)
  | .waiting, .connWait ok now => some (ioConnWait ok now q conn)
  | .unbinding, .unbindWait ok pdu now => ioUnbindWait lib cfg ok pdu now q conn
  | .reading, .readPdu pdu now => ioReadPdu lib cfg pdu now q conn
  | .reading, .readNothing => some (q, conn.goto .idle)
  | .reading, .readError => some (q, conn.goto (.down true))
  | .idle, .checkTimes keys now => ioCheckTimes keys now q conn
  | .cleaning keys start, .cleanup now => some (ioCleanup cfg keys start now q conn)
  | .sendInner, .send written now => ioSend lib cfg .reading written now q conn
  | .sendOuter, .send written now => ioSend lib cfg .waiting written now q conn
  | .down connected, .disconnect => some (ioDisconnect connected q conn)
  | .flushQueue quitting, .flush keys now => ioFlushQueue cfg quitting keys now q conn
  | .flushSent quitting keys, .flush _ now => some (ioFlushSent cfg quitting keys now q conn)
  | .after, .retry => some (q, conn.goto .top)
  | _, _ => none

end Thread

end SmppServer.SmppSmsc
