import SmppServer.Gwlib.Base

/-!
# Smsc/Msg — messages on their way to an SMSC

The SMSC process keeps one `Msg` for every submit it received from the ESME process: what was
submitted (`sm_info`), where it may go (`routing_info`), and how often and with what outcome it was
tried.  The two routing arrays hold positions in `smsc_list` up to a terminating `-1`; behind their
written part they are filled with `-1`.

The library code the process relies on for PDUs, prefixes and character sets is a parameter, `Gwlib`.
-/

namespace SmppServer.SmppSmsc

/-- `msg_state`: not routed, routed but not sent, sent without response, sent with response. -/
inductive MsgState
  | notRouted
  | notSent
  | sentNoresp
  | sentResp
  deriving DecidableEq, Repr

/-- `struct info`. -/
structure Info where
  pdu : Option Octstr
  accountName : Octstr
  accountMsgId : Octstr
  reqTime : Octstr
  clientIp : Option Octstr
  deriving DecidableEq, Repr

/-- `struct forward_queue_data`, as far as it is read. -/
structure ForwardQueueData where
  destinationAddr : Octstr
  sourceAddr : Octstr
  content : Option Octstr
  dataCoding : ℤ
  esmClass : ℤ
  moreMessagesToSend : ℤ
  preferredSmsc : List ℤ
  allowedSmsc : List ℤ
  deriving DecidableEq, Repr

/-- `Msg`.  The process tells messages apart by their addresses; here a message carries the number of
the submit it was made of, which no function reads. -/
structure Msg where
  smInfo : Info
  routingInfo : ForwardQueueData
  retries : ℤ := 0
  msgState : MsgState := .notRouted
  msgRetryTime : ℤ := 0
  failedSmscId : Option Octstr := none
  serial : ℕ := 0
  deriving DecidableEq, Repr

/-- The id the account gave the message: what its records are filed under. -/
abbrev Msg.accountMsgId (msg : Msg) : Octstr := msg.smInfo.accountMsgId

/-- `msg_duplicate`: every field is copied. -/
def msgDuplicate (msg : Msg) : Msg where
  smInfo :=
    { pdu := msg.smInfo.pdu
      accountName := msg.smInfo.accountName
      accountMsgId := msg.smInfo.accountMsgId
      reqTime := msg.smInfo.reqTime
      clientIp := msg.smInfo.clientIp }
  routingInfo := msg.routingInfo
  retries := msg.retries
  msgState := msg.msgState
  msgRetryTime := msg.msgRetryTime
  failedSmscId := msg.failedSmscId
  serial := msg.serial

@[simp] theorem msgDuplicate_eq (msg : Msg) : msgDuplicate msg = msg := rfl

/-- The entries of a routing array before its terminating `-1`. -/
def terminated (smsc : List ℤ) : List ℤ := smsc.takeWhile (· ≠ -1)

/-- A `submit_sm` PDU, as far as it is read or written. -/
structure SubmitSm where
  sequenceNumber : ℤ
  serviceType : Option Octstr := none
  sourceAddrTon : ℤ := 0
  sourceAddrNpi : ℤ := 0
  destAddrTon : ℤ := 0
  destAddrNpi : ℤ := 0
  sourceAddr : Option Octstr := none
  destinationAddr : Option Octstr := none
  esmClass : ℤ := 0
  dataCoding : ℤ := 0
  smLength : ℤ := 0
  registeredDelivery : ℤ := 0
  priorityFlag : ℤ := 0
  moreMessagesToSend : ℤ := 0
  shortMessage : Option Octstr := none
  userResponseCode : ℤ := -1
  deriving DecidableEq, Repr

/-- An unpacked PDU: its type name, and its body read as a `submit_sm`, which is how these functions
read the union whatever the type. -/
structure SmppPdu where
  isSubmitSm : Bool
  submitSm : SubmitSm
  deriving DecidableEq, Repr

/-- Library code: matching of numbers against prefixes and patterns, packing and unpacking of PDUs
(behind their length field), and conversion to the GSM alphabet. -/
structure Gwlib where
  doesPrefixMatch : Octstr → Octstr → ℤ
  gwRegexMatchPre : Octstr → Octstr → ℤ
  smppPduPack : SmppPdu → Option Octstr
  smppPduUnpack : Octstr → Option SmppPdu
  charsetLatin1ToGsm : Octstr → Octstr
  charsetLatin1ToGsmNew : Octstr → Octstr
  octstrIsnum : Octstr → Bool

/-- An `insert_mis` message: the record of a message's fate. -/
structure InsertMis where
  accountName : Octstr
  accountMsgId : Octstr
  smscId : Octstr
  smscMsgId : Octstr
  reqTime : Octstr
  sourceAddr : Option Octstr
  destAddr : Option Octstr
  submitStatus : ℤ
  esmClass : ℤ
  messageLen : ℕ
  msgContent : Option Octstr
  retryValue : ℤ
  ip : Option Octstr
  deriving DecidableEq, Repr

/-- The record that `mis_db_insert` makes. -/
def misRecord (accountName accountMsgId reqTime : Octstr) (smscId smscMsgId : Option Octstr)
    (pdu : SmppPdu) (submitStatus : ℤ) (ip : Option Octstr) : InsertMis where
  accountName := accountName
  accountMsgId := accountMsgId
  smscId := smscId.getD (octstrImm "")
  smscMsgId := smscMsgId.getD (octstrImm "")
  reqTime := reqTime
  sourceAddr := pdu.submitSm.sourceAddr
  destAddr := pdu.submitSm.destinationAddr
  submitStatus := submitStatus
  esmClass := pdu.submitSm.esmClass
  messageLen := (pdu.submitSm.shortMessage.getD []).length
  msgContent := pdu.submitSm.shortMessage
  retryValue := if pdu.submitSm.userResponseCode ≠ -1 then pdu.submitSm.userResponseCode else 0
  ip := ip

end SmppServer.SmppSmsc
