import SmppServer.Smsc.Msg
import Mathlib.Data.List.AList

/-!
# Smsc/Conn — an SMSC connection of the SMSC process

An `SmscConn` is what `smsc_list` holds: its configuration, its status, its queue of messages to send,
the messages sent and not yet answered, and the place its I/O thread has reached.  This module has
the data and the operations other threads use on a connection (`smscconn_usable`, `smscconn_send`,
`smscconn_info`), together with the queues all connections share.

* `smscconnSend_eq_some` — a send that succeeds appends one duplicate to `msgs_to_send`.
* `smscconnSend_of_usable` — a connection that was found usable accepts the message.
-/

namespace SmppServer.SmppSmsc

/-! ## The data -/

/-- `smscconn_status_t`. -/
inductive SmscconnStatus
  | connecting
  | active
  | activeRecv
  | reconnecting
  | disconnected
  | dead
  deriving DecidableEq, Repr

/-- `smscconn_killed_t`. -/
inductive SmscconnKilled
  | alive
  | killedWrongPassword
  | killedCannotConnect
  | killedShutdown
  deriving DecidableEq, Repr

/-- Why a message could not be sent, the `SMSCCONN_FAILED_…` values. -/
inductive FailureReason
  | failedShutdown
  | failedRejected
  | failedMalformed
  | failedTemporarily
  | failedDiscarded
  | failedQfull
  deriving DecidableEq, Repr

/-- What is done with messages that are not acknowledged in time, the `SMPP_WAITACK_…` values; any
other number is an unknown action. -/
inductive WaitAckAction
  | reconnect
  | requeue
  | neverExpire
  | unknown
  deriving DecidableEq, Repr

/-- `struct smpp_msg`: a message sent, and when. -/
structure SmppMsg where
  sentTime : ℤ
  msg : Msg
  deriving DecidableEq, Repr

/-- Where `io_thread` is.  Whether a flush takes place for a shutdown is fixed when it starts, and so
are the keys a loop over `sent_msgs` goes through. -/
inductive Pc
  | top
  | waiting
  | unbinding
  | reading
  | idle
  | cleaning (keys : List ℤ) (now : ℤ)
  | sendInner
  | sendOuter
  | down (connected : Bool)
  | flushQueue (quitting : Bool)
  | flushSent (quitting : Bool) (keys : List ℤ)
  | after
  | ended
  deriving DecidableEq, Repr

/-- The transmitting thread of a connection and its local variables. -/
structure IoThread where
  pc : Pc := .top
  pendingSubmits : ℤ := -1
  lastEnquireSent : ℤ := 0
  lastResponse : ℤ := 0
  lastCleanup : ℤ := 0
  deriving DecidableEq, Repr

/-- The part of the `SMPP` structure that its functions read or write; `sent_msgs` is a finite map
from sequence numbers. -/
structure Smpp where
  msgsToSend : List Msg := []
  sentMsgs : AList fun _ : ℤ => SmppMsg := ∅
  messageIdCounter : ℕ := 1
  quitting : Bool := false
  throttlingErrTime : ℤ := 0
  transceiver : Bool := false
  serviceType : Option Octstr := none
  maskingPrefix : Option Octstr := none
  altCharset : Option Octstr := none
  sourceAddrTon : ℤ := -1
  sourceAddrNpi : ℤ := -1
  destAddrTon : ℤ := -1
  destAddrNpi : ℤ := -1
  priority : ℤ := 0
  smppMsgIdType : ℤ := -1
  maxPendingSubmits : ℤ
  enquireLinkInterval : ℤ
  connectionTimeout : ℤ
  waitAck : ℤ
  waitAckAction : WaitAckAction
  deriving DecidableEq

/-- An SMSC connection. -/
structure SmscConn where
  id : Octstr
  smscType : Octstr
  status : SmscconnStatus := .connecting
  whyKilled : SmscconnKilled := .alive
  bindSent : ℤ := -1
  mode : ℤ := 0
  load : ℤ := 0
  received : ℕ := 0
  sent : ℕ := 0
  failed : ℕ := 0
  allowedPrefix : Option Octstr := none
  deniedPrefix : Option Octstr := none
  allowedPrefixRegex : Option Octstr := none
  deniedPrefixRegex : Option Octstr := none
  data : Smpp
  thread : IoThread := {}
  deriving DecidableEq

/-- The settings of the process that the modelled functions read. -/
structure ClientCfg where
  dndcheckFlag : Bool
  globalQMin : ℤ := -1
  globalQMax : ℤ := -1
  maxRetryLimit : ℤ := 1
  maxMsgDuration : ℤ := -1
  compareSmscString : Option (List Octstr) := none
  deriving DecidableEq, Repr

/-- What the threads of the process share: the messages waiting to be routed, the records handed to
the database process, the queue limits announced to the ESME process, and the ids of the messages
whose last copy was given to `msg_destroy`. -/
structure Queues where
  outgoingMsg : List Msg := []
  insertMis : List InsertMis := []
  globalQMsg : List ℤ := []
  destroyed : List Octstr := []
  deriving DecidableEq, Repr

/-! ## Operations

What other threads do to a connection: they look whether it may be used, and put a duplicate of a message at the
end of its queue.  Whether it is accepted depends on the connection alone. -/

/-- `produce_outgoing_msg`. -/
def produceOutgoingMsg (cfg : ClientCfg) (q : Queues) (sms : Msg) : Queues :=
  let q := { q with outgoingMsg := q.outgoingMsg ++ [sms] }
  if cfg.globalQMax ≠ -1 ∧ cfg.globalQMax ≤ q.outgoingMsg.length then
    { q with globalQMsg := q.globalQMsg ++ [1] }
  else q

@[simp] theorem produceOutgoingMsg_outgoingMsg (cfg : ClientCfg) (q : Queues) (sms : Msg) :
    (produceOutgoingMsg cfg q sms).outgoingMsg = q.outgoingMsg ++ [sms] := by
  simp only [produceOutgoingMsg]
  split <;> rfl

@[simp] theorem produceOutgoingMsg_insertMis (cfg : ClientCfg) (q : Queues) (sms : Msg) :
    (produceOutgoingMsg cfg q sms).insertMis = q.insertMis := by
  simp only [produceOutgoingMsg]
  split <;> rfl

@[simp] theorem produceOutgoingMsg_destroyed (cfg : ClientCfg) (q : Queues) (sms : Msg) :
    (produceOutgoingMsg cfg q sms).destroyed = q.destroyed := by
  simp only [produceOutgoingMsg]
  split <;> rfl

/-- `msg_destroy` of a message that has no other copy. -/
def msgDestroy (q : Queues) (sms : Msg) : Queues :=
  { q with destroyed := q.destroyed ++ [sms.accountMsgId] }

/-- `mis_db_insert` for a message. -/
def misDbInsert (q : Queues) (msg : Msg) (smscId smscMsgId : Option Octstr) (pdu : SmppPdu)
    (submitStatus : ℤ) : Queues :=
  { q with
    insertMis := q.insertMis ++
      [misRecord msg.smInfo.accountName msg.smInfo.accountMsgId msg.smInfo.reqTime smscId smscMsgId
        pdu submitStatus msg.smInfo.clientIp] }

/-- The part of `StatusInfo` that is read. -/
structure StatusInfo where
  status : SmscconnStatus
  mode : ℤ
  load : ℤ
  deriving DecidableEq, Repr

/-- `queued_cb`: the load of a living connection is the number of messages it received, as an
`int`. -/
def queuedCb (conn : SmscConn) : SmscConn :=
  if conn.status ≠ .dead then { conn with load := (BitVec.ofNat 32 conn.received).toInt } else conn

/-- `smscconn_info`. -/
def smscconnInfo (conn : SmscConn) : StatusInfo :=
  ⟨conn.status, conn.mode, (queuedCb conn).load⟩

/-- `smscconn_usable`: the connection lives and none of the prefix rules refuses the receiver. -/
def smscconnUsable (lib : Gwlib) (conn : SmscConn) (msg : ForwardQueueData) : Bool :=
  let receiver := msg.destinationAddr
  if conn.status = .dead ∨ conn.whyKilled ≠ .alive then false
  else
    let prefixRefuses :=
      match conn.allowedPrefix, conn.deniedPrefix with
      | none, none => false
      | some allowed, none => lib.doesPrefixMatch allowed receiver != 1
      | none, some denied => lib.doesPrefixMatch denied receiver == 1
      | some allowed, some denied =>
        (lib.doesPrefixMatch allowed receiver == 1 && lib.doesPrefixMatch denied receiver == 1) ||
        (lib.doesPrefixMatch allowed receiver != 1 && lib.doesPrefixMatch denied receiver == 1)
    let regexRefuses :=
      match conn.allowedPrefixRegex, conn.deniedPrefixRegex with
      | _, none => false
      | none, some denied => lib.gwRegexMatchPre denied receiver == 1
      | some allowed, some denied =>
        lib.gwRegexMatchPre allowed receiver == 0 && lib.gwRegexMatchPre denied receiver == 1
    !prefixRefuses && !regexRefuses

/-- `send_msg_cb`: a duplicate goes to the end of `msgs_to_send`. -/
def sendMsgCb (conn : SmscConn) (msg : Msg) : SmscConn :=
  { conn with
    data := { conn.data with msgsToSend := conn.data.msgsToSend ++ [msgDuplicate msg] }
    received := conn.received + 1 }

/-- `smscconn_send`: refused (`none`) by a connection that is dead or being killed. -/
def smscconnSend (conn : SmscConn) (msg : Msg) : Option SmscConn :=
  if conn.status = .dead ∨ conn.whyKilled ≠ .alive then none else some (sendMsgCb conn msg)

theorem smscconnSend_eq_some {conn conn' : SmscConn} {msg : Msg} :
    smscconnSend conn msg = some conn' ↔
      conn.status ≠ .dead ∧ conn.whyKilled = .alive ∧ conn' = sendMsgCb conn msg := by
  unfold smscconnSend
  split
  · rename_i h
    simp only [reduceCtorEq, false_iff, not_and]
    intro hs hk
    exact absurd h (by simp [hs, hk])
  · rename_i h
    rw [not_or, not_not] at h
    rw [Option.some.injEq, eq_comm]
    exact ⟨fun he => ⟨h.1, h.2, he⟩, fun he => he.2.2⟩

/-- A usable connection lives, so it accepts what is sent to it. -/
theorem smscconnSend_of_usable {lib : Gwlib} {conn : SmscConn} {fwd : ForwardQueueData}
    (h : smscconnUsable lib conn fwd = true) (msg : Msg) :
    smscconnSend conn msg = some (sendMsgCb conn msg) := by
  have halive : ¬ (conn.status = .dead ∨ conn.whyKilled ≠ .alive) := by
    intro hdead
    rw [smscconnUsable, if_pos hdead] at h
    exact Bool.false_ne_true h
  rw [smscconnSend, if_neg halive]

/-! ## Ids

Results that count messages do so by their ids, wherever a copy lies. -/

/-- The ids of the messages in `msgs_to_send` of a connection. -/
def SmscConn.queuedIds (conn : SmscConn) : List Octstr :=
  conn.data.msgsToSend.map (·.accountMsgId)

/-- The ids of the messages in `sent_msgs` of a connection. -/
def SmscConn.sentIds (conn : SmscConn) : List Octstr :=
  conn.data.sentMsgs.entries.map fun e => e.2.msg.accountMsgId

/-- The ids of the messages in `outgoing_msg`. -/
def Queues.outgoingIds (q : Queues) : List Octstr := q.outgoingMsg.map (·.accountMsgId)

/-- The ids of the records made. -/
def Queues.recordIds (q : Queues) : List Octstr := q.insertMis.map (·.accountMsgId)

@[simp] theorem outgoingIds_produceOutgoingMsg (cfg : ClientCfg) (q : Queues) (msg : Msg) :
    (produceOutgoingMsg cfg q msg).outgoingIds = q.outgoingIds ++ [msg.accountMsgId] := by
  simp [Queues.outgoingIds]

@[simp] theorem recordIds_produceOutgoingMsg (cfg : ClientCfg) (q : Queues) (msg : Msg) :
    (produceOutgoingMsg cfg q msg).recordIds = q.recordIds := by
  simp [Queues.recordIds]

/-! ## Samples -/

/-- A library in which a prefix matches a number it starts, and every PDU is a `submit_sm`. -/
def sampleGwlib : Gwlib where
  doesPrefixMatch prefixes number := if prefixes.isPrefixOf number then 1 else 0
  gwRegexMatchPre _ _ := 0
  smppPduPack _ := some (octstrImm "submit_sm")
  smppPduUnpack _ := some { isSubmitSm := true, submitSm := { sequenceNumber := 0 } }
  charsetLatin1ToGsm s := s
  charsetLatin1ToGsmNew s := s
  octstrIsnum s := s.all fun c => decide (48 ≤ c ∧ c ≤ 57)

/-- The SMPP part of a connection with room for ten unanswered messages. -/
def sampleSmpp : Smpp where
  maxPendingSubmits := 10
  enquireLinkInterval := 30
  connectionTimeout := 300
  waitAck := 60
  waitAckAction := .requeue

/-- A connection that was just created. -/
def sampleConn : SmscConn where
  id := octstrImm "smsc-a"
  smscType := octstrImm "gsm"
  data := sampleSmpp

/-- A message that may go to the first or the second connection. -/
def sampleMsg : Msg where
  smInfo :=
    { pdu := some (octstrImm "submit_sm"), accountName := octstrImm "acme"
      accountMsgId := octstrImm "a1", reqTime := octstrImm "2009-08-13 10:00:00"
      clientIp := none }
  routingInfo :=
    { destinationAddr := octstrImm "919800000000", sourceAddr := octstrImm "ACME"
      content := some (octstrImm "hello"), dataCoding := 0, esmClass := 0, moreMessagesToSend := 0
      preferredSmsc := [-1], allowedSmsc := [0, 1, -1] }

end SmppServer.SmppSmsc
