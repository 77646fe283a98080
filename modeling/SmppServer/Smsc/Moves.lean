import SmppServer.Smsc.IoThread

/-!
# Smsc/Moves — what one step of the transmitting thread does to the messages

Each step of `io_thread` moves at most one message.  `Moves` lists the possibilities, with the reason
for each; `ioThread_moves` proves the list complete, so that results about runs never unfold the
thread again.  `ioThread_flushing` does the same for the steps that end behind the flush.
-/

namespace SmppServer.SmppSmsc

/-- The reasons for which a message may be tried again. -/
def FailureReason.retries : FailureReason → Bool
  | .failedTemporarily | .failedShutdown => true
  | _ => false

/-- A status after which a message may be tried again. -/
def temporary (commandStatus : ℤ) : Bool :=
  (smppStatusToSmscconnFailureReason commandStatus).retries

/-- The PDU an event hands to `handle_pdu`. -/
def IoEvent.pdu? : IoEvent → Option Pdu
  | .readPdu pdu _ => some pdu
  | .unbindWait _ pdu _ => pdu
  | _ => none

/-- The time an event reads. -/
def IoEvent.now? : IoEvent → Option ℤ
  | .enter _ now | .connWait _ now | .unbindWait _ _ now | .readPdu _ now | .checkTimes _ now
  | .cleanup now | .send _ now | .flush _ now => some now
  | .readNothing | .readError | .disconnect | .retry => none

section Moves

variable (lib : Gwlib) (cfg : ClientCfg)

/-- The PDU that is written for a message, if it has one. -/
def transmission (conn : SmscConn) (msg : Msg) : Option SmppPdu :=
  let (conn, msg) := withDndPdu lib cfg conn msg
  (msg.smInfo.pdu.bind lib.smppPduUnpack).map fun pdu => (adaptPdu lib cfg conn msg pdu).2.2

/-- The message as `sent_msgs` keeps it when its PDU is written, and the PDU. -/
def attempt (conn : SmscConn) (msg : Msg) : Option (Msg × SmppPdu) :=
  let (conn, msg) := withDndPdu lib cfg conn msg
  (msg.smInfo.pdu.bind lib.smppPduUnpack).bind fun pdu =>
    let (_, msg, pdu) := adaptPdu lib cfg conn msg pdu
    if (lib.smppPduPack pdu).isSome then some (msg.transmitted, pdu) else none

/-- The message has a PDU and it is written. -/
def Transmitted (written : Bool) (conn : SmscConn) (msg : Msg) : Prop :=
  ∃ pdu ∈ transmission lib cfg conn msg, (lib.smppPduPack pdu).isSome ∧ written = true

instance (written : Bool) (conn : SmscConn) (msg : Msg) :
    Decidable (Transmitted lib cfg written conn msg) :=
  inferInstanceAs (Decidable (∃ _ ∈ _, _))

/-- **What a transmission makes of a PDU**: without a header in its message, a `submit_sm` is packed
again with the same `esm_class`, and with its message encoded if the SMSC has an alternative character
set. -/
def Recoded (alt : Bool) (packed packed' : Option Octstr) : Prop :=
  ∀ pdu ∈ packed.bind lib.smppPduUnpack, pdu.isSubmitSm = true →
    hasUdhIndicator pdu.submitSm.esmClass = false →
      ∃ pdu', packed' = lib.smppPduPack pdu' ∧ (lib.smppPduPack pdu').isSome = true ∧
        pdu'.isSubmitSm = true ∧ pdu'.submitSm.esmClass = pdu.submitSm.esmClass ∧
        pdu'.submitSm.shortMessage =
          if alt then pdu.submitSm.shortMessage.map lib.charsetLatin1ToGsm
          else pdu.submitSm.shortMessage

/-- **The moves of a step**, from the queues `q` and the connection `c`. -/
inductive Moves (ev : IoEvent) (q : Queues) (c : SmscConn) : Queues → SmscConn → Prop
  /-- Nothing moves. -/
  | keep {c' : SmscConn} (hmsgs : c'.data.msgsToSend = c.data.msgsToSend)
      (hsent : c'.data.sentMsgs = c.data.sentMsgs) : Moves ev q c q c'
  /-- `send_messages` drops the first message: it has no PDU, or the PDU is not written. -/
  | drop {c' : SmscConn} {msg : Msg} {written : Bool} {now : ℤ} (hev : ev = .send written now)
      (hroom : c.CanSend)
      (hmsgs : c.data.msgsToSend = msg :: c'.data.msgsToSend)
      (hsent : c'.data.sentMsgs = c.data.sentMsgs)
      (hnot : ¬ Transmitted lib cfg written c.extractFirst msg) : Moves ev q c q c'
  /-- `send_messages` writes the first message. -/
  | transmit {c' : SmscConn} {msg : Msg} {written : Bool} {now : ℤ} {pdu : SmppPdu}
      {smppMsg : SmppMsg} (hev : ev = .send written now) (hroom : c.CanSend)
      (hmsgs : c.data.msgsToSend = msg :: c'.data.msgsToSend)
      (hpdu : transmission lib cfg c.extractFirst msg = some pdu)
      (hwritten : Transmitted lib cfg written c.extractFirst msg)
      (hsent : c'.data.sentMsgs = c.data.sentMsgs.insert pdu.submitSm.sequenceNumber smppMsg)
      (htry : ∃ packed, smppMsg.msg = (msg.setPdu packed).transmitted) : Moves ev q c q c'
  /-- The flush drops a message without a PDU. -/
  | flushDrop {c' : SmscConn} {msg : Msg} {quitting : Bool}
      (hpc : c.thread.pc = .flushQueue quitting)
      (hmsgs : c.data.msgsToSend = msg :: c'.data.msgsToSend)
      (hsent : c'.data.sentMsgs = c.data.sentMsgs) (hpdu : msg.smInfo.pdu = none) :
      Moves ev q c q c'
  /-- The flush hands a queued message back to the router. -/
  | flushQueued {c' : SmscConn} {msg msg' : Msg}
      (hmsgs : c.data.msgsToSend = msg :: c'.data.msgsToSend)
      (hsent : c'.data.sentMsgs = c.data.sentMsgs) (hback : ∃ now ∈ ev.now?, msg' = handedBack now c msg) :
      Moves ev q c (produceOutgoingMsg cfg q msg') c'
  /-- A message without acknowledgement is handed back to the router: by the flush, by the clean-up,
  or for a `generic_nack` with a temporary status. -/
  | giveBack {c' : SmscConn} {key : ℤ} {smppMsg : SmppMsg} {msg' : Msg}
      (hmsgs : c'.data.msgsToSend = c.data.msgsToSend)
      (hkey : c.data.sentMsgs.lookup key = some smppMsg)
      (hsent : c'.data.sentMsgs = c.data.sentMsgs.erase key)
      (hback : ∃ now ∈ ev.now?, msg' = handedBack now c smppMsg.msg) :
      Moves ev q c (produceOutgoingMsg cfg q msg') c'
  /-- A `generic_nack` with any other status destroys the message. -/
  | nack {c' : SmscConn} {key status : ℤ} {smppMsg : SmppMsg}
      (hev : ev.pdu? = some (.genericNack key status)) (hstatus : temporary status = false)
      (hmsgs : c'.data.msgsToSend = c.data.msgsToSend)
      (hkey : c.data.sentMsgs.lookup key = some smppMsg)
      (hsent : c'.data.sentMsgs = c.data.sentMsgs.erase key) :
      Moves ev q c (msgDestroy q smppMsg.msg) c'
  /-- A response records the message and destroys it. -/
  | answer {q' : Queues} {c' : SmscConn} {key status : ℤ} {messageId : Option Octstr}
      {smppMsg : SmppMsg} {record : InsertMis}
      (hev : ev.pdu? = some (.submitSmResp key status messageId)) (hstatus : temporary status = false)
      (hmsgs : c'.data.msgsToSend = c.data.msgsToSend)
      (hkey : c.data.sentMsgs.lookup key = some smppMsg)
      (hsent : c'.data.sentMsgs = c.data.sentMsgs.erase key)
      (hrecord : record.accountMsgId = smppMsg.msg.accountMsgId)
      (hq : q' = { q with
        insertMis := q.insertMis ++ [record]
        destroyed := q.destroyed ++ [smppMsg.msg.accountMsgId] }) : Moves ev q c q' c'
  /-- A response with a temporary status records the message and hands it back to the router. -/
  | answerRetry {c' : SmscConn} {key status : ℤ} {messageId : Option Octstr} {smppMsg : SmppMsg}
      {record : InsertMis} {msg' : Msg}
      (hev : ev.pdu? = some (.submitSmResp key status messageId)) (hstatus : temporary status = true)
      (hmsgs : c'.data.msgsToSend = c.data.msgsToSend)
      (hkey : c.data.sentMsgs.lookup key = some smppMsg)
      (hsent : c'.data.sentMsgs = c.data.sentMsgs.erase key)
      (hrecord : record.accountMsgId = smppMsg.msg.accountMsgId)
      (hback : ∃ now ∈ ev.now?,
        msg' = handedBack now c { smppMsg.msg with msgState := .sentResp }) :
      Moves ev q c
        (produceOutgoingMsg cfg { q with insertMis := q.insertMis ++ [record] } msg') c'

end Moves

section Spec

variable {lib : Gwlib} {cfg : ClientCfg} {now : ℤ} {q q' : Queues} {conn conn' : SmscConn} {msg : Msg}
  {ev : IoEvent}

/-! ## Failed messages -/

/-- `smscconn_send_failed` for a reason that allows another try. -/
theorem smscconnSendFailed_of_retries {reason : FailureReason} (h : reason.retries = true) :
    smscconnSendFailed cfg now q conn msg reason =
      (produceOutgoingMsg cfg q (handedBack now conn msg), conn) := by
  cases reason with
  | failedTemporarily | failedShutdown => rfl
  | failedRejected | failedMalformed | failedDiscarded | failedQfull =>
    simp [FailureReason.retries] at h

/-- `smscconn_send_failed` for any other reason. -/
theorem smscconnSendFailed_of_not_retries {reason : FailureReason} (h : reason.retries = false) :
    smscconnSendFailed cfg now q conn msg reason =
      (msgDestroy q msg, { conn with failed := conn.failed + 1 }) := by
  cases reason with
  | failedTemporarily | failedShutdown => simp [FailureReason.retries] at h
  | failedRejected | failedMalformed | failedDiscarded | failedQfull => rfl

theorem flushReason_retries (quitting : Bool) : (flushReason quitting).retries = true := by
  cases quitting <;> rfl

/-! ## What each function can do

The cases of a function, each with what it found.  They are read off the definitions once, and only here. -/

/-- While it waits for the answer to an unbind, a thread handles a PDU or does nothing. -/
theorem ioUnbindWait_cases {ok : Bool} {pdu : Option Pdu}
    (h : ioUnbindWait lib cfg ok pdu now q conn = some (q', conn')) :
    (∃ read, pdu = some read ∧ handlePdu lib cfg now q conn read = some (q', conn')) ∨
      pdu = none ∧ q' = q ∧ (conn' = conn ∨ conn' = conn.goto (.down true)) := by
  unfold ioUnbindWait at h
  split at h
  · cases pdu with
    | some read => exact .inl ⟨read, rfl, h⟩
    | none =>
      obtain ⟨rfl, rfl⟩ := Prod.mk.inj (Option.some.inj h)
      exact .inr ⟨rfl, rfl, .inl rfl⟩
  · obtain ⟨hnone, h⟩ := Option.ite_none_right_eq_some.mp h
    obtain ⟨rfl, rfl⟩ := Prod.mk.inj (Option.some.inj h)
    exact .inr ⟨hnone, rfl, .inr rfl⟩

/-- In the connection loop it handles a PDU, and then gives up the connection or goes on. -/
theorem ioReadPdu_cases {pdu : Pdu} (h : ioReadPdu lib cfg pdu now q conn = some (q', conn')) :
    ∃ conn₁, handlePdu lib cfg now q conn pdu = some (q', conn₁) ∧
      (conn' = { conn₁ with thread := { conn₁.thread with lastResponse := now, pc := .down true } } ∨
        conn' = gotoSend now (sendEnquireLink now
          { conn₁ with thread := { conn₁.thread with lastResponse := now } }) .sendInner .reading) := by
  unfold ioReadPdu at h
  split at h
  · exact absurd h (by simp)
  · rename_i q₁ conn₁ hpdu
    dsimp only at h
    split at h
    · obtain ⟨rfl, rfl⟩ := Prod.mk.inj (Option.some.inj h)
      exact ⟨conn₁, hpdu, .inl rfl⟩
    · obtain ⟨rfl, rfl⟩ := Prod.mk.inj (Option.some.inj h)
      exact ⟨conn₁, hpdu, .inr rfl⟩

/-- A PDU that is read is handled, and the queues are as it leaves them. -/
theorem ioThread_handlePdu {pdu : Pdu} (hev : ev.pdu? = some pdu)
    (h : ioThread lib cfg (q, conn) ev = some (q', conn')) :
    ∃ now conn₁, handlePdu lib cfg now q conn pdu = some (q', conn₁) := by
  cases ev with
  | readPdu read now =>
    obtain rfl := Option.some.inj hev
    unfold ioThread at h
    cases hpc : conn.thread.pc <;> simp only [hpc, reduceCtorEq] at h
    obtain ⟨conn₁, hhandle, -⟩ := ioReadPdu_cases h
    exact ⟨now, conn₁, hhandle⟩
  | unbindWait ok read now =>
    obtain rfl : read = some pdu := hev
    unfold ioThread at h
    cases hpc : conn.thread.pc <;> simp only [hpc, reduceCtorEq] at h
    obtain ⟨read, hread, hhandle⟩ | ⟨hnone, -⟩ := ioUnbindWait_cases h
    · exact ⟨now, conn', Option.some.inj hread ▸ hhandle⟩
    · exact absurd hnone (by simp)
  | _ => simp [IoEvent.pdu?] at hev

/-- Behind the reading loop it gives up the connection, cleans up, or goes on. -/
theorem ioCheckTimes_cases {keys : List ℤ} (h : ioCheckTimes keys now q conn = some (q', conn')) :
    q' = q ∧ (conn' = conn.goto (.down true) ∨ conn' = conn.goto (.cleaning keys now) ∨
      conn' = ioCleanupDone now conn ∨ conn' = gotoSend now conn .sendOuter .waiting) := by
  unfold ioCheckTimes at h
  split_ifs at h
  all_goals obtain ⟨rfl, rfl⟩ := Prod.mk.inj (Option.some.inj h)
  · exact ⟨rfl, .inl rfl⟩
  · exact ⟨rfl, .inr (.inr (.inl rfl))⟩
  · exact ⟨rfl, .inr (.inl rfl)⟩
  · exact ⟨rfl, .inr (.inr (.inr rfl))⟩

/-- A key of the clean-up is passed over, hands back its message, or ends the clean-up. -/
theorem ioCleanup_cases {keys : List ℤ} {start : ℤ}
    (h : ioCleanup cfg keys start now q conn = (q', conn')) :
    q' = q ∧ (conn' = ioCleanupDone now conn ∨ conn' = conn.goto (.down true) ∨
        ∃ rest, conn' = conn.goto (.cleaning rest start)) ∨
      ∃ key smppMsg rest, conn.data.sentMsgs.lookup key = some smppMsg ∧
        q' = produceOutgoingMsg cfg q (handedBack now (conn.removeSent key) smppMsg.msg) ∧
        conn' = ((conn.removeSent key).setPending (conn.thread.pendingSubmits - 1)).goto
          (.cleaning rest start) := by
  unfold ioCleanup at h
  split at h
  · obtain ⟨rfl, rfl⟩ := Prod.mk.inj h
    exact .inl ⟨rfl, .inl rfl⟩
  · rename_i key rest
    split at h
    · obtain ⟨rfl, rfl⟩ := Prod.mk.inj h
      exact .inl ⟨rfl, .inr (.inr ⟨rest, rfl⟩)⟩
    · rename_i smppMsg hkey
      split at h
      · split at h
        · obtain ⟨rfl, rfl⟩ := Prod.mk.inj h
          exact .inl ⟨rfl, .inr (.inl rfl)⟩
        · have hretry : FailureReason.failedTemporarily.retries = true := rfl
          simp only [smscconnSendFailed_of_retries hretry] at h
          obtain ⟨rfl, rfl⟩ := Prod.mk.inj h
          exact .inr ⟨key, smppMsg, rest, hkey, rfl, rfl⟩
        · obtain ⟨rfl, rfl⟩ := Prod.mk.inj h
          exact .inl ⟨rfl, .inl rfl⟩
      · obtain ⟨rfl, rfl⟩ := Prod.mk.inj h
        exact .inl ⟨rfl, .inr (.inr ⟨rest, rfl⟩)⟩

/-- A round of `send_messages` has nothing to send, or takes the first message. -/
theorem ioSend_eq_some {back : Pc} {written : Bool}
    (h : ioSend lib cfg back written now q conn = some (q', conn')) :
    q' = q ∧ ((¬ conn.CanSend ∨ conn.data.msgsToSend = []) ∧ conn' = conn.goto back ∨
      ∃ msg rest conn₁ again, conn.CanSend ∧ conn.data.msgsToSend = msg :: rest ∧
        sendMessage lib cfg written now conn.extractFirst msg = some (conn₁, again) ∧
        conn' = if again then conn₁ else conn₁.goto back) := by
  unfold ioSend at h
  split at h
  · rename_i hroom
    obtain ⟨rfl, rfl⟩ := Prod.mk.inj (Option.some.inj h)
    exact ⟨rfl, .inl ⟨.inl hroom, rfl⟩⟩
  · rename_i hroom
    split at h
    · rename_i hempty
      obtain ⟨rfl, rfl⟩ := Prod.mk.inj (Option.some.inj h)
      exact ⟨rfl, .inl ⟨.inr hempty, rfl⟩⟩
    · rename_i msg rest hmsgs
      split at h
      · exact absurd h (by simp)
      · rename_i conn₁ again hsend
        obtain ⟨rfl, rfl⟩ := Prod.mk.inj (Option.some.inj h)
        exact ⟨rfl, .inr ⟨msg, rest, conn₁, again, not_not.mp hroom, hmsgs, hsend, rfl⟩⟩

/-- The flush lists the keys when the queue is empty; else it takes the first message, and hands it back
if that has a PDU. -/
theorem ioFlushQueue_cases {quitting : Bool} {keys : List ℤ}
    (h : ioFlushQueue cfg quitting keys now q conn = some (q', conn')) :
    conn.data.msgsToSend = [] ∧ keys.Perm conn.data.sentMsgs.keys ∧ q' = q ∧
        conn' = conn.goto (.flushSent quitting keys) ∨
      ∃ msg rest, conn.data.msgsToSend = msg :: rest ∧ conn' = conn.extractFirst ∧
        (msg.smInfo.pdu = none ∧ q' = q ∨
          q' = produceOutgoingMsg cfg q (handedBack now conn.extractFirst msg)) := by
  unfold ioFlushQueue at h
  split at h
  · rename_i hempty
    obtain ⟨hkeys, h⟩ := Option.ite_none_right_eq_some.mp h
    obtain ⟨rfl, rfl⟩ := Prod.mk.inj (Option.some.inj h)
    exact .inl ⟨hempty, hkeys, rfl, rfl⟩
  · rename_i msg rest hmsgs
    split at h
    · rename_i hpdu
      obtain ⟨rfl, rfl⟩ := Prod.mk.inj (Option.some.inj h)
      exact .inr ⟨msg, rest, hmsgs, rfl, .inl ⟨hpdu, rfl⟩⟩
    · rw [smscconnSendFailed_of_retries (flushReason_retries quitting)] at h
      obtain ⟨rfl, rfl⟩ := Prod.mk.inj (Option.some.inj h)
      exact .inr ⟨msg, rest, hmsgs, rfl, .inr rfl⟩

/-- Then it takes the keys, and hands back what is kept under them. -/
theorem ioFlushSent_cases {quitting : Bool} {keys : List ℤ}
    (h : ioFlushSent cfg quitting keys now q conn = (q', conn')) :
    q' = q ∧ conn' = conn.goto .after ∧ keys = [] ∨
      ∃ key rest, keys = key :: rest ∧
        (conn.data.sentMsgs.lookup key = none ∧ q' = q ∧ conn' = conn.goto (.flushSent quitting rest) ∨
          ∃ smppMsg, conn.data.sentMsgs.lookup key = some smppMsg ∧
            q' = produceOutgoingMsg cfg q (handedBack now (conn.removeSent key) smppMsg.msg) ∧
            conn' = (conn.removeSent key).goto (.flushSent quitting rest)) := by
  unfold ioFlushSent at h
  split at h
  · obtain ⟨rfl, rfl⟩ := Prod.mk.inj h
    exact .inl ⟨rfl, rfl, rfl⟩
  · rename_i key rest
    split at h
    · rename_i hkey
      obtain ⟨rfl, rfl⟩ := Prod.mk.inj h
      exact .inr ⟨key, rest, rfl, .inl ⟨hkey, rfl, rfl⟩⟩
    · rename_i smppMsg hkey
      simp only [smscconnSendFailed_of_retries (flushReason_retries quitting)] at h
      obtain ⟨rfl, rfl⟩ := Prod.mk.inj h
      exact .inr ⟨key, rest, rfl, .inr ⟨smppMsg, hkey, rfl, rfl⟩⟩

/-! ## One spec for each function -/

theorem sendEnquireLink_same (now : ℤ) (conn : SmscConn) :
    (sendEnquireLink now conn).data.msgsToSend = conn.data.msgsToSend ∧
      (sendEnquireLink now conn).data.sentMsgs = conn.data.sentMsgs := by
  unfold sendEnquireLink
  split <;> exact ⟨rfl, rfl⟩

theorem gotoSend_same (now : ℤ) (conn : SmscConn) (send skip : Pc) :
    (gotoSend now conn send skip).data.msgsToSend = conn.data.msgsToSend ∧
      (gotoSend now conn send skip).data.sentMsgs = conn.data.sentMsgs ∧
      ((gotoSend now conn send skip).thread.pc = send ∨
        (gotoSend now conn send skip).thread.pc = skip) := by
  unfold gotoSend
  split
  · exact ⟨rfl, rfl, .inl rfl⟩
  · exact ⟨rfl, rfl, .inr rfl⟩

/-- A step that ends in a connection with the same messages makes the same move. -/
theorem Moves.congr {c c₁ c₂ : SmscConn} (h : Moves lib cfg ev q c q' c₁)
    (hmsgs : c₂.data.msgsToSend = c₁.data.msgsToSend)
    (hsent : c₂.data.sentMsgs = c₁.data.sentMsgs) : Moves lib cfg ev q c q' c₂ := by
  cases h with
  | keep h₁ h₂ => exact .keep (hmsgs.trans h₁) (hsent.trans h₂)
  | drop hev hroom h₁ h₂ hnot => exact .drop hev hroom (hmsgs ▸ h₁) (hsent.trans h₂) hnot
  | transmit hev hroom h₁ hpdu hwritten h₂ htry =>
    exact .transmit hev hroom (hmsgs ▸ h₁) hpdu hwritten (hsent.trans h₂) htry
  | flushDrop hpc h₁ h₂ hpdu => exact .flushDrop hpc (hmsgs ▸ h₁) (hsent.trans h₂) hpdu
  | flushQueued h₁ h₂ hback => exact .flushQueued (hmsgs ▸ h₁) (hsent.trans h₂) hback
  | giveBack h₁ hkey h₂ hback => exact .giveBack (hmsgs.trans h₁) hkey (hsent.trans h₂) hback
  | nack hev hst h₁ hkey h₂ => exact .nack hev hst (hmsgs.trans h₁) hkey (hsent.trans h₂)
  | answer hev hst h₁ hkey h₂ hrec hq =>
    exact .answer hev hst (hmsgs.trans h₁) hkey (hsent.trans h₂) hrec hq
  | answerRetry hev hst h₁ hkey h₂ hrec hback =>
    exact .answerRetry hev hst (hmsgs.trans h₁) hkey (hsent.trans h₂) hrec hback

/-- A response to a message sent: it is recorded, and then destroyed or handed back. -/
theorem handleSubmitSmResp_moves {key status : ℤ} {messageId : Option Octstr}
    (hev : ev.pdu? = some (.submitSmResp key status messageId)) (hnow : now ∈ ev.now?)
    (h : handleSubmitSmResp lib cfg now q conn key status messageId = some (q', conn')) :
    Moves lib cfg ev q conn q' conn' ∧ conn'.thread.pc = conn.thread.pc := by
  unfold handleSubmitSmResp at h
  split at h
  · rw [Option.some.injEq, Prod.mk.injEq] at h
    obtain ⟨rfl, rfl⟩ := h
    exact ⟨.keep rfl rfl, rfl⟩
  · rename_i smppMsg hkey
    simp only at h
    split at h
    · split at h
      · cases hst : temporary status with
        | true =>
          rw [smscconnSendFailed_of_retries hst, Option.some.injEq, Prod.mk.injEq] at h
          obtain ⟨rfl, rfl⟩ := h
          exact ⟨.answerRetry hev hst rfl hkey rfl rfl ⟨now, hnow, rfl⟩, rfl⟩
        | false =>
          rw [smscconnSendFailed_of_not_retries hst, Option.some.injEq, Prod.mk.injEq] at h
          obtain ⟨rfl, rfl⟩ := h
          exact ⟨.answer hev hst rfl hkey rfl rfl rfl, rfl⟩
      · rename_i hok
        have hst : temporary status = false := by
          rw [not_not.mp hok]
          rfl
        rw [Option.some.injEq, Prod.mk.injEq] at h
        obtain ⟨rfl, rfl⟩ := h
        exact ⟨.answer hev hst rfl hkey rfl rfl rfl, rfl⟩
    · exact absurd h (by simp)

/-- A `generic_nack` for a message sent. -/
theorem handleGenericNack_moves {key status : ℤ}
    (hev : ev.pdu? = some (.genericNack key status)) (hnow : now ∈ ev.now?)
    (h : handleGenericNack cfg now q conn key status = (q', conn')) :
    Moves lib cfg ev q conn q' conn' ∧ conn'.thread.pc = conn.thread.pc := by
  unfold handleGenericNack at h
  split at h
  · rw [Prod.mk.injEq] at h
    obtain ⟨rfl, rfl⟩ := h
    exact ⟨.keep rfl rfl, rfl⟩
  · rename_i smppMsg hkey
    simp only at h
    cases hst : temporary status with
    | true =>
      rw [smscconnSendFailed_of_retries hst, Prod.mk.injEq] at h
      obtain ⟨rfl, rfl⟩ := h
      exact ⟨.giveBack rfl hkey rfl ⟨now, hnow, rfl⟩, rfl⟩
    | false =>
      rw [smscconnSendFailed_of_not_retries hst, Prod.mk.injEq] at h
      obtain ⟨rfl, rfl⟩ := h
      exact ⟨.nack hev hst rfl hkey rfl, rfl⟩

/-- The response to a bind touches no message. -/
theorem handleBindResp_same (conn : SmscConn) (status : ℤ) :
    (handleBindResp conn status).data.msgsToSend = conn.data.msgsToSend ∧
      (handleBindResp conn status).data.sentMsgs = conn.data.sentMsgs ∧
      (handleBindResp conn status).thread.pc = conn.thread.pc := by
  unfold handleBindResp
  split_ifs <;> exact ⟨rfl, rfl, rfl⟩

theorem handleBindReceiverResp_same (conn : SmscConn) (status : ℤ) :
    (handleBindReceiverResp conn status).data.msgsToSend = conn.data.msgsToSend ∧
      (handleBindReceiverResp conn status).data.sentMsgs = conn.data.sentMsgs ∧
      (handleBindReceiverResp conn status).thread.pc = conn.thread.pc := by
  unfold handleBindReceiverResp
  split_ifs <;> exact ⟨rfl, rfl, rfl⟩

/-- Whatever PDU is handled, the thread stays where it is. -/
theorem handlePdu_moves {pdu : Pdu} (hev : ev.pdu? = some pdu) (hnow : now ∈ ev.now?)
    (h : handlePdu lib cfg now q conn pdu = some (q', conn')) :
    Moves lib cfg ev q conn q' conn' ∧ conn'.thread.pc = conn.thread.pc := by
  cases pdu with
  | submitSmResp key status messageId => exact handleSubmitSmResp_moves hev hnow h
  | genericNack key status => exact handleGenericNack_moves hev hnow (Option.some.inj h)
  | bindTransmitterResp status | bindTransceiverResp status =>
    rw [handlePdu, Option.some.injEq, Prod.mk.injEq] at h
    obtain ⟨rfl, rfl⟩ := h
    obtain ⟨hmsgs, hsent, hpc⟩ := handleBindResp_same conn status
    exact ⟨.keep hmsgs hsent, hpc⟩
  | bindReceiverResp status =>
    rw [handlePdu, Option.some.injEq, Prod.mk.injEq] at h
    obtain ⟨rfl, rfl⟩ := h
    obtain ⟨hmsgs, hsent, hpc⟩ := handleBindReceiverResp_same conn status
    exact ⟨.keep hmsgs hsent, hpc⟩
  | unbind | unbindResp | other =>
    rw [handlePdu, Option.some.injEq, Prod.mk.injEq] at h
    obtain ⟨rfl, rfl⟩ := h
    exact ⟨.keep rfl rfl, rfl⟩

theorem withDndPdu_same (lib : Gwlib) (cfg : ClientCfg) (conn : SmscConn) (msg : Msg) :
    (withDndPdu lib cfg conn msg).1.data.msgsToSend = conn.data.msgsToSend ∧
      (withDndPdu lib cfg conn msg).1.data.sentMsgs = conn.data.sentMsgs ∧
      (withDndPdu lib cfg conn msg).1.thread = conn.thread ∧
      ∃ packed, (withDndPdu lib cfg conn msg).2 = msg.setPdu packed := by
  unfold withDndPdu
  split <;> exact ⟨rfl, rfl, rfl, _, rfl⟩

theorem adaptPdu_same (lib : Gwlib) (cfg : ClientCfg) (conn : SmscConn) (msg : Msg) (pdu : SmppPdu) :
    (adaptPdu lib cfg conn msg pdu).1.data.msgsToSend = conn.data.msgsToSend ∧
      (adaptPdu lib cfg conn msg pdu).1.data.sentMsgs = conn.data.sentMsgs ∧
      (adaptPdu lib cfg conn msg pdu).1.thread = conn.thread ∧
      ∃ packed, (adaptPdu lib cfg conn msg pdu).2.1 = msg.setPdu packed := by
  unfold adaptPdu
  split <;> exact ⟨rfl, rfl, rfl, _, rfl⟩

/-- What becomes of the PDU of a message. -/
theorem adaptPdu_recoded (lib : Gwlib) (cfg : ClientCfg) (conn : SmscConn) (msg : Msg) {pdu : SmppPdu}
    (hpdu : msg.smInfo.pdu.bind lib.smppPduUnpack = some pdu)
    (hpacked : (lib.smppPduPack (adaptPdu lib cfg conn msg pdu).2.2).isSome = true) :
    Recoded lib conn.data.altCharset.isSome msg.smInfo.pdu
      (adaptPdu lib cfg conn msg pdu).2.1.smInfo.pdu := by
  intro pdu' hpdu' hsubmit hudh
  obtain rfl := Option.some.inj (hpdu.symm.trans hpdu')
  simp only [adaptPdu, if_pos hsubmit] at hpacked ⊢
  refine ⟨_, rfl, hpacked, hsubmit, ?_, ?_⟩
  · simp [adaptSubmitSm, hudh]
  · simp [adaptSubmitSm, hudh]

/-- **An attempt**: the PDU of the message is unpacked, adapted, and packed again. -/
theorem attempt_eq_some {msg' : Msg} {pdu' : SmppPdu} :
    attempt lib cfg conn msg = some (msg', pdu') ↔
      ∃ pdu, (withDndPdu lib cfg conn msg).2.smInfo.pdu.bind lib.smppPduUnpack = some pdu ∧
        (adaptPdu lib cfg (withDndPdu lib cfg conn msg).1 (withDndPdu lib cfg conn msg).2 pdu).2.2 =
            pdu' ∧
        (lib.smppPduPack pdu').isSome = true ∧
        (adaptPdu lib cfg (withDndPdu lib cfg conn msg).1
            (withDndPdu lib cfg conn msg).2 pdu).2.1.transmitted = msg' := by
  unfold attempt
  dsimp only
  rw [Option.bind_eq_some_iff]
  refine exists_congr fun pdu => and_congr_right fun _ => ?_
  rw [Option.ite_none_right_eq_some, Option.some.injEq, Prod.mk.injEq]
  constructor
  · rintro ⟨hpacked, hmsg, rfl⟩
    exact ⟨rfl, hpacked, hmsg⟩
  · rintro ⟨rfl, hpacked, hmsg⟩
    exact ⟨hpacked, hmsg, rfl⟩

/-- What is written and what is kept at an attempt. -/
theorem transmission_of_attempt {msg' : Msg} {pdu' : SmppPdu}
    (h : attempt lib cfg conn msg = some (msg', pdu')) :
    transmission lib cfg conn msg = some pdu' ∧
      ∃ packed, msg' = (msg.setPdu packed).transmitted ∧
        (cfg.dndcheckFlag = false →
          Recoded lib conn.data.altCharset.isSome msg.smInfo.pdu packed) := by
  obtain ⟨pdu, hpdu, rfl, hpacked, rfl⟩ := attempt_eq_some.mp h
  obtain ⟨-, -, -, packed₁, hmsg₁⟩ := withDndPdu_same lib cfg conn msg
  obtain ⟨-, -, -, packed, hmsg⟩ := adaptPdu_same lib cfg (withDndPdu lib cfg conn msg).1
    (withDndPdu lib cfg conn msg).2 pdu
  refine ⟨by simp [transmission, hpdu], packed, by rw [hmsg, hmsg₁]; rfl, fun hdnd => ?_⟩
  have hsame : withDndPdu lib cfg conn msg = (conn, msg) := by simp [withDndPdu, hdnd]
  rw [hsame] at hpdu hpacked hmsg
  have hrecoded := adaptPdu_recoded lib cfg conn msg hpdu hpacked
  rwa [hmsg] at hrecoded

/-- A message is written if the write succeeds and its PDU can be packed. -/
theorem transmitted_iff {written : Bool} :
    Transmitted lib cfg written conn msg ↔ written = true ∧ ∃ r, attempt lib cfg conn msg = some r := by
  constructor
  · rintro ⟨pdu', hmem, hpacked, hwritten⟩
    obtain ⟨pdu, hpdu, rfl⟩ := Option.map_eq_some_iff.mp hmem
    exact ⟨hwritten, _, attempt_eq_some.mpr ⟨pdu, hpdu, rfl, hpacked, rfl⟩⟩
  · rintro ⟨hwritten, ⟨msg', pdu'⟩, hattempt⟩
    obtain ⟨pdu, -, -, hpacked, -⟩ := attempt_eq_some.mp hattempt
    exact ⟨pdu', (transmission_of_attempt hattempt).1, hpacked, hwritten⟩

/-- A message taken off the queue is lost, or put in `sent_msgs` under the number of its PDU. -/
theorem sendMessage_cases {written again : Bool}
    (h : sendMessage lib cfg written now conn msg = some (conn', again)) :
    conn'.data.msgsToSend = conn.data.msgsToSend ∧ conn'.thread.pc = conn.thread.pc ∧
      ((conn'.data.sentMsgs = conn.data.sentMsgs ∧ ¬ Transmitted lib cfg written conn msg) ∨
        ∃ pdu smppMsg, Transmitted lib cfg written conn msg ∧
          attempt lib cfg conn msg = some (smppMsg.msg, pdu) ∧
          conn'.data.sentMsgs = conn.data.sentMsgs.insert pdu.submitSm.sequenceNumber smppMsg) := by
  obtain ⟨hmsgs₁, hsent₁, hthread₁, -⟩ := withDndPdu_same lib cfg conn msg
  rw [transmitted_iff]
  unfold sendMessage at h
  simp only at h
  split at h
  · rename_i hpdu
    obtain ⟨rfl, rfl⟩ := Prod.mk.inj (Option.some.inj h)
    refine ⟨hmsgs₁, by rw [hthread₁], .inl ⟨hsent₁, ?_⟩⟩
    rintro ⟨-, ⟨msg', pdu'⟩, hattempt⟩
    obtain ⟨pdu, hunpack, -⟩ := attempt_eq_some.mp hattempt
    simp [hpdu] at hunpack
  · rename_i packed hpdu
    split at h
    · exact absurd h (by simp)
    · rename_i pdu hunpack
      obtain ⟨hmsgs₂, hsent₂, hthread₂, -⟩ := adaptPdu_same lib cfg
        (withDndPdu lib cfg conn msg).1 (withDndPdu lib cfg conn msg).2 pdu
      have hbind : (withDndPdu lib cfg conn msg).2.smInfo.pdu.bind lib.smppPduUnpack = some pdu := by
        rw [hpdu]
        exact hunpack
      split at h
      · rename_i hwritten
        obtain ⟨rfl, rfl⟩ := Prod.mk.inj (Option.some.inj h)
        have hattempt := attempt_eq_some.mpr ⟨pdu, hbind, rfl, hwritten.1, rfl⟩
        have hpc := congrArg IoThread.pc (hthread₂.trans hthread₁)
        exact ⟨hmsgs₂.trans hmsgs₁, hpc,
          .inr ⟨_, ⟨now, _⟩, ⟨hwritten.2, _, hattempt⟩, hattempt,
            congrArg (AList.insert _ _) (hsent₂.trans hsent₁)⟩⟩
      · rename_i hnot
        obtain ⟨rfl, rfl⟩ := Prod.mk.inj (Option.some.inj h)
        refine ⟨hmsgs₂.trans hmsgs₁, congrArg IoThread.pc (hthread₂.trans hthread₁),
          .inl ⟨hsent₂.trans hsent₁, ?_⟩⟩
        rintro ⟨hwritten, ⟨msg', pdu'⟩, hattempt⟩
        obtain ⟨pdu₁, hbind₁, rfl, hpacked, -⟩ := attempt_eq_some.mp hattempt
        obtain rfl := Option.some.inj (hbind.symm.trans hbind₁)
        exact hnot ⟨hpacked, hwritten⟩

/-! ## One lemma for each step

A place of the thread and the move its step makes.  A step that handles a PDU makes the move of the PDU. -/

theorem ioEnter_same (opened : Bool) (now : ℤ) (q : Queues) (conn : SmscConn) :
    (ioEnter opened now q conn).1 = q ∧
      (ioEnter opened now q conn).2.data.msgsToSend = conn.data.msgsToSend ∧
      (ioEnter opened now q conn).2.data.sentMsgs = conn.data.sentMsgs := by
  unfold ioEnter
  split
  · exact ⟨rfl, rfl, rfl⟩
  · cases opened <;> exact ⟨rfl, rfl, rfl⟩

theorem ioConnWait_same (ok : Bool) (now : ℤ) (q : Queues) (conn : SmscConn) :
    (ioConnWait ok now q conn).1 = q ∧
      (ioConnWait ok now q conn).2.data.msgsToSend = conn.data.msgsToSend ∧
      (ioConnWait ok now q conn).2.data.sentMsgs = conn.data.sentMsgs := by
  unfold ioConnWait
  split_ifs
  · exact ⟨rfl, rfl, rfl⟩
  · exact ⟨rfl, rfl, rfl⟩
  · exact ⟨rfl, sendEnquireLink_same now conn⟩

theorem ioUnbindWait_moves {ok : Bool} {pdu : Option Pdu}
    (h : ioUnbindWait lib cfg ok pdu now q conn = some (q', conn')) :
    Moves lib cfg (.unbindWait ok pdu now) q conn q' conn' := by
  obtain ⟨read, rfl, hhandle⟩ | ⟨rfl, rfl, rfl | rfl⟩ := ioUnbindWait_cases h
  · exact (handlePdu_moves rfl rfl hhandle).1
  · exact .keep rfl rfl
  · exact .keep rfl rfl

theorem ioReadPdu_moves {pdu : Pdu} (h : ioReadPdu lib cfg pdu now q conn = some (q', conn')) :
    Moves lib cfg (.readPdu pdu now) q conn q' conn' := by
  obtain ⟨conn₁, hhandle, hconn'⟩ := ioReadPdu_cases h
  have hmoves : Moves lib cfg (.readPdu pdu now) q conn q' conn₁ := (handlePdu_moves rfl rfl hhandle).1
  obtain rfl | rfl := hconn'
  · exact hmoves.congr rfl rfl
  · obtain ⟨hmsgs, hsent, -⟩ := gotoSend_same now (sendEnquireLink now
      { conn₁ with thread := { conn₁.thread with lastResponse := now } }) .sendInner .reading
    obtain ⟨hmsgs', hsent'⟩ := sendEnquireLink_same now
      { conn₁ with thread := { conn₁.thread with lastResponse := now } }
    exact hmoves.congr (hmsgs.trans hmsgs') (hsent.trans hsent')

theorem ioCleanupDone_same (now : ℤ) (conn : SmscConn) :
    (ioCleanupDone now conn).data.msgsToSend = conn.data.msgsToSend ∧
      (ioCleanupDone now conn).data.sentMsgs = conn.data.sentMsgs := by
  obtain ⟨hmsgs, hsent, -⟩ := gotoSend_same now
    { conn with thread := { conn.thread with lastCleanup := now } } .sendOuter .waiting
  exact ⟨hmsgs, hsent⟩

theorem ioCheckTimes_same {keys : List ℤ} (h : ioCheckTimes keys now q conn = some (q', conn')) :
    q' = q ∧ conn'.data.msgsToSend = conn.data.msgsToSend ∧
      conn'.data.sentMsgs = conn.data.sentMsgs := by
  obtain ⟨rfl, rfl | rfl | rfl | rfl⟩ := ioCheckTimes_cases h
  · exact ⟨rfl, rfl, rfl⟩
  · exact ⟨rfl, rfl, rfl⟩
  · exact ⟨rfl, ioCleanupDone_same now conn⟩
  · obtain ⟨hmsgs, hsent, -⟩ := gotoSend_same now conn .sendOuter .waiting
    exact ⟨rfl, hmsgs, hsent⟩

theorem ioCleanup_moves {keys : List ℤ} {start : ℤ} (hnow : now ∈ ev.now?)
    (h : ioCleanup cfg keys start now q conn = (q', conn')) : Moves lib cfg ev q conn q' conn' := by
  obtain ⟨rfl, rfl | rfl | ⟨rest, rfl⟩⟩ | ⟨key, smppMsg, rest, hkey, rfl, rfl⟩ := ioCleanup_cases h
  · exact .keep (ioCleanupDone_same now conn).1 (ioCleanupDone_same now conn).2
  · exact .keep rfl rfl
  · exact .keep rfl rfl
  · exact .giveBack rfl hkey rfl ⟨now, hnow, rfl⟩

/-- One round of `send_messages`: there is no room or no message, or the first message is dropped or
written. -/
theorem ioSend_cases {back : Pc} {written : Bool}
    (h : ioSend lib cfg back written now q conn = some (q', conn')) :
    q' = q ∧
      (((¬ conn.CanSend ∨ conn.data.msgsToSend = []) ∧
          conn'.data.msgsToSend = conn.data.msgsToSend ∧
          conn'.data.sentMsgs = conn.data.sentMsgs) ∨
        ∃ msg, conn.CanSend ∧ conn.data.msgsToSend = msg :: conn'.data.msgsToSend ∧
          ((conn'.data.sentMsgs = conn.data.sentMsgs ∧
              ¬ Transmitted lib cfg written conn.extractFirst msg) ∨
            ∃ pdu smppMsg, Transmitted lib cfg written conn.extractFirst msg ∧
              attempt lib cfg conn.extractFirst msg = some (smppMsg.msg, pdu) ∧
              conn'.data.sentMsgs =
                conn.data.sentMsgs.insert pdu.submitSm.sequenceNumber smppMsg)) := by
  obtain ⟨rfl, ⟨hquiet, rfl⟩ | ⟨msg, rest, conn₁, again, hroom, hmsgs, hsend, rfl⟩⟩ := ioSend_eq_some h
  · exact ⟨rfl, .inl ⟨hquiet, rfl, rfl⟩⟩
  · obtain ⟨hmsgs₁, -, hcases⟩ := sendMessage_cases hsend
    have hrest : conn.data.msgsToSend = msg :: conn₁.data.msgsToSend := by
      rw [hmsgs₁, hmsgs]
      simp [SmscConn.extractFirst, hmsgs]
    refine ⟨rfl, .inr ⟨msg, hroom, ?_, ?_⟩⟩
    · cases again <;> exact hrest
    · cases again <;> exact hcases

/-- Wherever the thread may send, the step is a round of `send_messages`. -/
theorem ioThread_send {written : Bool}
    (h : ioThread lib cfg (q, conn) (.send written now) = some (q', conn')) :
    ∃ back, ioSend lib cfg back written now q conn = some (q', conn') := by
  unfold ioThread at h
  cases hpc : conn.thread.pc <;> simp only [hpc, reduceCtorEq] at h
  · exact ⟨_, h⟩
  · exact ⟨_, h⟩

theorem ioSend_moves {back : Pc} {written : Bool}
    (h : ioSend lib cfg back written now q conn = some (q', conn')) :
    Moves lib cfg (.send written now) q conn q' conn' := by
  obtain ⟨rfl, ⟨-, hmsgs, hsent⟩ | ⟨msg, hroom, hmsgs, hcases⟩⟩ := ioSend_cases h
  · exact .keep hmsgs hsent
  · obtain ⟨hsent, hnot⟩ | ⟨pdu, smppMsg, hwritten, hattempt, hsent⟩ := hcases
    · exact .drop rfl hroom hmsgs hsent hnot
    · obtain ⟨hpdu, packed, htry, -⟩ := transmission_of_attempt hattempt
      exact .transmit rfl hroom hmsgs hpdu hwritten hsent ⟨packed, htry⟩

theorem ioFlushQueue_moves {quitting : Bool} {keys : List ℤ} (hnow : now ∈ ev.now?)
    (hpc : conn.thread.pc = .flushQueue quitting)
    (h : ioFlushQueue cfg quitting keys now q conn = some (q', conn')) :
    Moves lib cfg ev q conn q' conn' := by
  obtain ⟨-, -, rfl, rfl⟩ | ⟨msg, rest, hmsgs, rfl, hback⟩ := ioFlushQueue_cases h
  · exact .keep rfl rfl
  · have hrest : conn.data.msgsToSend = msg :: conn.extractFirst.data.msgsToSend := by
      simp [SmscConn.extractFirst, hmsgs]
    obtain ⟨hpdu, rfl⟩ | rfl := hback
    · exact .flushDrop hpc hrest rfl hpdu
    · exact .flushQueued hrest rfl ⟨now, hnow, rfl⟩

theorem ioFlushSent_moves {quitting : Bool} {keys : List ℤ} (hnow : now ∈ ev.now?)
    (h : ioFlushSent cfg quitting keys now q conn = (q', conn')) :
    Moves lib cfg ev q conn q' conn' := by
  obtain ⟨rfl, rfl, -⟩ | ⟨key, rest, -, ⟨-, rfl, rfl⟩ | ⟨smppMsg, hkey, rfl, rfl⟩⟩ :=
    ioFlushSent_cases h
  · exact .keep rfl rfl
  · exact .keep rfl rfl
  · exact .giveBack rfl hkey rfl ⟨now, hnow, rfl⟩

/-- **Every step of the thread makes one of the moves.** -/
theorem ioThread_moves (h : ioThread lib cfg (q, conn) ev = some (q', conn')) :
    Moves lib cfg ev q conn q' conn' := by
  unfold ioThread at h
  simp only at h
  split at h
  · rename_i opened now _
    obtain ⟨hq, hmsgs, hsent⟩ := ioEnter_same opened now q conn
    rw [Option.some.inj h] at hq hmsgs hsent
    exact hq ▸ .keep hmsgs hsent
  · rename_i ok now _
    obtain ⟨hq, hmsgs, hsent⟩ := ioConnWait_same ok now q conn
    rw [Option.some.inj h] at hq hmsgs hsent
    exact hq ▸ .keep hmsgs hsent
  · exact ioUnbindWait_moves h
  · exact ioReadPdu_moves h
  · rw [Option.some.injEq, Prod.mk.injEq] at h
    obtain ⟨rfl, rfl⟩ := h
    exact .keep rfl rfl
  · rw [Option.some.injEq, Prod.mk.injEq] at h
    obtain ⟨rfl, rfl⟩ := h
    exact .keep rfl rfl
  · obtain ⟨rfl, hmsgs, hsent⟩ := ioCheckTimes_same h
    exact .keep hmsgs hsent
  · exact ioCleanup_moves rfl (Option.some.inj h)
  · exact ioSend_moves h
  · exact ioSend_moves h
  · rw [Option.some.injEq, ioDisconnect, Prod.mk.injEq] at h
    obtain ⟨rfl, rfl⟩ := h
    rename_i connected _
    cases connected <;> exact .keep rfl rfl
  · rename_i hpc
    exact ioFlushQueue_moves rfl hpc h
  · exact ioFlushSent_moves rfl (Option.some.inj h)
  · rw [Option.some.injEq, Prod.mk.injEq] at h
    obtain ⟨rfl, rfl⟩ := h
    exact .keep rfl rfl
  · exact absurd h (by simp)

/-! ## Where the thread is once it has flushed

It comes to these places with an empty queue and with the keys of `sent_msgs` listed, or goes on from one of
them to the next. -/

/-- The places behind the flush of `msgs_to_send`. -/
def Pc.flushed : Pc → Bool
  | .flushSent _ _ | .after | .top | .ended => true
  | _ => false

/-- How the thread reaches a place behind the flush. -/
inductive Flushing (c c' : SmscConn) : Prop
  /-- `msgs_to_send` is empty, and the keys of `sent_msgs` are listed. -/
  | listed {quitting : Bool} {keys : List ℤ} (hempty : c'.data.msgsToSend = [])
      (hkeys : keys.Perm c'.data.sentMsgs.keys) (hpc : c'.thread.pc = .flushSent quitting keys)
  /-- One of the keys is removed. -/
  | removed {quitting : Bool} {key : ℤ} {keys : List ℤ}
      (hpc : c.thread.pc = .flushSent quitting (key :: keys))
      (hmsgs : c'.data.msgsToSend = c.data.msgsToSend)
      (hsent : c'.data.sentMsgs = c.data.sentMsgs.erase key)
      (hpc' : c'.thread.pc = .flushSent quitting keys)
  /-- No key is left. -/
  | done {quitting : Bool} (hpc : c.thread.pc = .flushSent quitting [])
      (hdata : c'.data = c.data) (hpc' : c'.thread.pc = .after)
  /-- The thread tries again. -/
  | again (hpc : c.thread.pc = .after) (hdata : c'.data = c.data) (hpc' : c'.thread.pc = .top)
  /-- The thread ends. -/
  | ended (hpc : c.thread.pc = .top) (hquit : c.data.quitting = true) (hdata : c'.data = c.data)
      (hpc' : c'.thread.pc = .ended) (hdead : c'.status = .dead)

theorem ioEnter_flushing (opened : Bool) (now : ℤ) (q : Queues) (htop : conn.thread.pc = .top)
    (hpc : (ioEnter opened now q conn).2.thread.pc.flushed = true) :
    Flushing conn (ioEnter opened now q conn).2 := by
  unfold ioEnter at hpc ⊢
  split at hpc
  · rename_i hquit
    rw [if_pos hquit]
    exact .ended htop hquit rfl rfl rfl
  · cases opened <;> exact absurd hpc Bool.false_ne_true

theorem ioConnWait_not_flushed (ok : Bool) (now : ℤ) (q : Queues) (conn : SmscConn) :
    (ioConnWait ok now q conn).2.thread.pc.flushed = false := by
  unfold ioConnWait
  split_ifs <;> rfl

theorem gotoSend_not_flushed {send skip : Pc} (hsend : send.flushed = false)
    (hskip : skip.flushed = false) : (gotoSend now conn send skip).thread.pc.flushed = false := by
  obtain ⟨-, -, hpc | hpc⟩ := gotoSend_same now conn send skip
  · rw [hpc, hsend]
  · rw [hpc, hskip]

theorem ioUnbindWait_not_flushed {ok : Bool} {pdu : Option Pdu} (hpc : conn.thread.pc = .unbinding)
    (h : ioUnbindWait lib cfg ok pdu now q conn = some (q', conn')) :
    conn'.thread.pc.flushed = false := by
  obtain ⟨read, rfl, hhandle⟩ | ⟨-, -, rfl | rfl⟩ := ioUnbindWait_cases h
  · have hev : (IoEvent.unbindWait ok (some read) now).pdu? = some read := rfl
    rw [(handlePdu_moves hev rfl hhandle).2, hpc]
    rfl
  · rw [hpc]
    rfl
  · rfl

theorem ioReadPdu_not_flushed {pdu : Pdu}
    (h : ioReadPdu lib cfg pdu now q conn = some (q', conn')) : conn'.thread.pc.flushed = false := by
  obtain ⟨conn₁, -, rfl | rfl⟩ := ioReadPdu_cases h
  · rfl
  · exact gotoSend_not_flushed rfl rfl

theorem ioCheckTimes_not_flushed {keys : List ℤ}
    (h : ioCheckTimes keys now q conn = some (q', conn')) : conn'.thread.pc.flushed = false := by
  obtain ⟨-, rfl | rfl | rfl | rfl⟩ := ioCheckTimes_cases h
  · rfl
  · rfl
  · exact gotoSend_not_flushed rfl rfl
  · exact gotoSend_not_flushed rfl rfl

theorem ioCleanup_not_flushed {keys : List ℤ} {start : ℤ}
    (h : ioCleanup cfg keys start now q conn = (q', conn')) : conn'.thread.pc.flushed = false := by
  obtain ⟨-, rfl | rfl | ⟨rest, rfl⟩⟩ | ⟨key, smppMsg, rest, -, -, rfl⟩ := ioCleanup_cases h
  · exact gotoSend_not_flushed rfl rfl
  · rfl
  · rfl
  · rfl

theorem ioSend_not_flushed {back : Pc} {written : Bool} (hback : back.flushed = false)
    (hpc : conn.thread.pc.flushed = false)
    (h : ioSend lib cfg back written now q conn = some (q', conn')) :
    conn'.thread.pc.flushed = false := by
  obtain ⟨-, ⟨-, rfl⟩ | ⟨msg, rest, conn₁, again, -, -, hsend, rfl⟩⟩ := ioSend_eq_some h
  · exact hback
  · cases again with
    | false => exact hback
    | true =>
      rw [if_pos rfl, (sendMessage_cases hsend).2.1]
      exact hpc

theorem ioFlushQueue_flushing {quitting : Bool} {keys : List ℤ}
    (hflush : conn.thread.pc = .flushQueue quitting)
    (h : ioFlushQueue cfg quitting keys now q conn = some (q', conn'))
    (hpc : conn'.thread.pc.flushed = true) : Flushing conn conn' := by
  obtain ⟨hempty, hkeys, -, rfl⟩ | ⟨msg, rest, -, rfl, -⟩ := ioFlushQueue_cases h
  · exact .listed hempty hkeys rfl
  · have hstay : conn.extractFirst.thread.pc = conn.thread.pc := rfl
    rw [hstay, hflush] at hpc
    exact absurd hpc Bool.false_ne_true

theorem ioFlushSent_flushing {quitting : Bool} {keys : List ℤ}
    (hpc : conn.thread.pc = .flushSent quitting keys)
    (h : ioFlushSent cfg quitting keys now q conn = (q', conn')) : Flushing conn conn' := by
  obtain ⟨-, rfl, rfl⟩ | ⟨key, rest, rfl, ⟨hkey, -, rfl⟩ | ⟨smppMsg, -, -, rfl⟩⟩ := ioFlushSent_cases h
  · exact .done hpc rfl rfl
  · have hnot : key ∉ conn.data.sentMsgs := AList.lookup_eq_none.mp hkey
    exact .removed hpc rfl (AList.ext (List.kerase_of_notMem_keys hnot).symm) rfl
  · exact .removed hpc rfl rfl rfl

/-- **A step that ends behind the flush** is one of five. -/
theorem ioThread_flushing (h : ioThread lib cfg (q, conn) ev = some (q', conn'))
    (hpc : conn'.thread.pc.flushed = true) : Flushing conn conn' := by
  have hnot : conn'.thread.pc.flushed = false → Flushing conn conn' := fun hfalse =>
    absurd (hpc.symm.trans hfalse) (by decide)
  unfold ioThread at h
  simp only at h
  split at h
  · rename_i opened now htop
    have hflush := ioEnter_flushing opened now q htop
    rw [Option.some.inj h] at hflush
    exact hflush hpc
  · rename_i ok now _
    have hwait := ioConnWait_not_flushed ok now q conn
    rw [Option.some.inj h] at hwait
    exact hnot hwait
  · rename_i hun
    exact hnot (ioUnbindWait_not_flushed hun h)
  · exact hnot (ioReadPdu_not_flushed h)
  · exact hnot (by rw [← (Prod.mk.inj (Option.some.inj h)).2]; rfl)
  · exact hnot (by rw [← (Prod.mk.inj (Option.some.inj h)).2]; rfl)
  · exact hnot (ioCheckTimes_not_flushed h)
  · exact hnot (ioCleanup_not_flushed (Option.some.inj h))
  · rename_i hsend
    exact hnot (ioSend_not_flushed rfl (by rw [hsend]; rfl) h)
  · rename_i hsend
    exact hnot (ioSend_not_flushed rfl (by rw [hsend]; rfl) h)
  · exact hnot (by rw [← (Prod.mk.inj (Option.some.inj h)).2]; rfl)
  · rename_i hflush
    exact ioFlushQueue_flushing hflush h hpc
  · rename_i hflush
    exact ioFlushSent_flushing hflush (Option.some.inj h)
  · rename_i hafter
    obtain ⟨-, rfl⟩ := Prod.mk.inj (Option.some.inj h)
    exact .again hafter rfl rfl
  · exact absurd h (by simp)

/-! ## What the flush has left

Nothing is put in `sent_msgs` behind the flush of the queue, so what is kept there is what the list of keys has
still to come to. -/

/-- The keys that the flush of `sent_msgs` has still to go through. -/
def Pc.keysLeft : Pc → List ℤ
  | .flushSent _ keys => keys
  | _ => []

/-- Behind the flush of `msgs_to_send`, what is in `sent_msgs` is still to be flushed. -/
def SmscConn.Emptied (c : SmscConn) : Prop :=
  c.thread.pc.flushed = true → ∀ key ∈ c.data.sentMsgs, key ∈ c.thread.pc.keysLeft

/-- A map all of whose keys are in the empty list is empty. -/
theorem sentMsgs_eq_empty {m : AList fun _ : ℤ => SmppMsg} (h : ∀ key ∈ m, key ∈ ([] : List ℤ)) :
    m = ∅ := by
  refine AList.ext (List.eq_nil_iff_forall_not_mem.mpr fun e he => ?_)
  exact List.not_mem_nil (h e.1 (AList.mem_keys.mpr (List.mem_map_of_mem he)))

theorem Flushing.emptied {c c' : SmscConn} (h : Flushing c c') (hc : c.Emptied) : c'.Emptied := by
  intro _ key hkey
  cases h with
  | listed _ hkeys hpc' =>
    rw [hpc']
    exact hkeys.mem_iff.mpr (AList.mem_keys.mp hkey)
  | removed hpc _ hsent hpc' =>
    rw [hsent, AList.mem_erase] at hkey
    have hleft := hc (by rw [hpc]; rfl) key hkey.2
    rw [hpc] at hleft
    rw [hpc']
    exact (List.mem_cons.mp hleft).resolve_left hkey.1
  | done hpc hdata hpc' | again hpc hdata hpc' | ended hpc _ hdata hpc' _ =>
    rw [hdata] at hkey
    have hleft := hc (by rw [hpc]; rfl) key hkey
    rw [hpc] at hleft
    exact absurd hleft List.not_mem_nil

/-- A step of the thread keeps it so. -/
theorem SmscConn.Emptied.io (hc : conn.Emptied)
    (h : ioThread lib cfg (q, conn) ev = some (q', conn')) : conn'.Emptied := by
  intro hpc
  exact (ioThread_flushing h hpc).emptied hc hpc

end Spec

end SmppServer.SmppSmsc
