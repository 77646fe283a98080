import SmppServer.Smsc.Receiver

/-!
# Smsc/Status — the control fields of a connection

Status, mode and the flags of a connection are written by both of its threads.  Which event writes
what is said once here, as a function on the **control fields** alone: `ioThread_control` and
`rxThread_control` state that the steps of the two threads compute it.  Whatever a run does to these
fields is then read off its events.
-/

namespace SmppServer.SmppSmsc

/-- The control fields of a connection, and the settings that its steps leave alone. -/
structure Control where
  id : Octstr
  status : SmscconnStatus
  whyKilled : SmscconnKilled
  bindSent : ℤ
  mode : ℤ
  quitting : Bool
  transceiver : Bool
  smppMsgIdType : ℤ
  deriving DecidableEq, Repr

/-- The control fields of a connection. -/
def SmscConn.control (conn : SmscConn) : Control where
  id := conn.id
  status := conn.status
  whyKilled := conn.whyKilled
  bindSent := conn.bindSent
  mode := conn.mode
  quitting := conn.data.quitting
  transceiver := conn.data.transceiver
  smppMsgIdType := conn.data.smppMsgIdType

namespace Control

/-- A bind is rejected; with two of the statuses the connection is given up. -/
def rejected (c : Control) (commandStatus : ℤ) : Control :=
  if commandStatus = smppEsmeRinvsysid ∨ commandStatus = smppEsmeRinvpaswd then
    { c with quitting := true }
  else c

/-- What a PDU writes. -/
def afterPdu (c : Control) : Pdu → Control
  | .bindTransmitterResp commandStatus | .bindTransceiverResp commandStatus =>
    if commandStatus ≠ smppEsmeRok then c.rejected commandStatus else { c with status := .active }
  | .bindReceiverResp commandStatus =>
    if commandStatus ≠ smppEsmeRok then c.rejected commandStatus
    else if c.status ≠ .active then { c with status := .activeRecv }
    else c
  | .unbind | .unbindResp => { c with status := .disconnected }
  | .submitSmResp _ _ _ | .genericNack _ _ | .other => c

/-- What an event writes, in the thread that opens the connection in this mode. -/
def after (openMode : ℤ) (c : Control) : IoEvent → Control
  | .enter _ _ =>
    if c.quitting then { c with status := .dead } else { c with bindSent := 1, mode := openMode }
  | .readPdu pdu _ | .unbindWait _ (some pdu) _ => c.afterPdu pdu
  | .disconnect => { c with status := .reconnecting }
  | _ => c

@[simp] theorem rejected_smppMsgIdType (c : Control) (commandStatus : ℤ) :
    (c.rejected commandStatus).smppMsgIdType = c.smppMsgIdType := by
  unfold rejected
  split <;> rfl

/-- The settings stay. -/
@[simp] theorem after_smppMsgIdType (openMode : ℤ) (c : Control) (ev : IoEvent) :
    (c.after openMode ev).smppMsgIdType = c.smppMsgIdType := by
  have hpdu : ∀ pdu, (c.afterPdu pdu).smppMsgIdType = c.smppMsgIdType := by
    intro pdu
    unfold afterPdu
    repeat' split
    all_goals first | rfl | exact rejected_smppMsgIdType _ _
  unfold after
  repeat' split
  all_goals first | rfl | exact hpdu _

/-- The mode of the transmitting thread. -/
def txMode (c : Control) : ℤ := if c.transceiver then 3 else 1

end Control

/-- The mode of the receiving thread. -/
def rxMode : ℤ := 2

/-! ## The steps

One lemma for each function, most of which write none of these fields. -/

section Steps

variable {lib : Gwlib} {cfg : ClientCfg} {now : ℤ} {q q' : Queues} {conn conn' : SmscConn} {msg : Msg}
  {ev : IoEvent}

@[simp] theorem control_goto (conn : SmscConn) (pc : Pc) : (conn.goto pc).control = conn.control := rfl

@[simp] theorem control_withThread (conn : SmscConn) (thread : IoThread) :
    (conn.withThread thread).control = conn.control := rfl

@[simp] theorem control_setPending (conn : SmscConn) (pendingSubmits : ℤ) :
    (conn.setPending pendingSubmits).control = conn.control := rfl

@[simp] theorem control_setThrottling (conn : SmscConn) (throttlingErrTime : ℤ) :
    (conn.setThrottling throttlingErrTime).control = conn.control := rfl

@[simp] theorem control_removeSent (conn : SmscConn) (key : ℤ) :
    (conn.removeSent key).control = conn.control := rfl

@[simp] theorem control_putSent (conn : SmscConn) (key : ℤ) (smppMsg : SmppMsg) :
    (conn.putSent key smppMsg).control = conn.control := rfl

@[simp] theorem control_extractFirst (conn : SmscConn) : conn.extractFirst.control = conn.control := rfl

@[simp] theorem control_smscconnSendFailed (now : ℤ) (q : Queues) (conn : SmscConn) (sms : Msg)
    (reason : FailureReason) : (smscconnSendFailed cfg now q conn sms reason).2.control = conn.control := by
  cases reason <;> rfl

@[simp] theorem control_sendEnquireLink (now : ℤ) (conn : SmscConn) :
    (sendEnquireLink now conn).control = conn.control := by
  unfold sendEnquireLink
  split <;> rfl

@[simp] theorem control_gotoSend (now : ℤ) (conn : SmscConn) (send skip : Pc) :
    (gotoSend now conn send skip).control = conn.control := by
  unfold gotoSend
  split <;> rfl

theorem control_handleSubmitSmResp {key status : ℤ} {messageId : Option Octstr}
    (h : handleSubmitSmResp lib cfg now q conn key status messageId = some (q', conn')) :
    conn'.control = conn.control := by
  unfold handleSubmitSmResp at h
  split at h
  · rw [Option.some.injEq, Prod.mk.injEq] at h
    rw [← h.2]
  · simp only at h
    split at h
    · split at h
      · rw [Option.some.injEq, Prod.mk.injEq] at h
        rw [← h.2, control_setPending, control_smscconnSendFailed, control_setThrottling,
          control_removeSent]
      · rw [Option.some.injEq, Prod.mk.injEq] at h
        rw [← h.2]
        rfl
    · exact absurd h (by simp)

theorem control_handleGenericNack (now : ℤ) (q : Queues) (conn : SmscConn) (key status : ℤ) :
    (handleGenericNack cfg now q conn key status).2.control = conn.control := by
  unfold handleGenericNack
  split
  · rfl
  · exact control_smscconnSendFailed _ _ _ _ _

/-- What `handle_pdu` does to the control fields. -/
theorem handlePdu_control {pdu : Pdu} (h : handlePdu lib cfg now q conn pdu = some (q', conn')) :
    conn'.control = conn.control.afterPdu pdu := by
  cases pdu with
  | submitSmResp key status messageId => exact control_handleSubmitSmResp h
  | genericNack key status =>
    rw [handlePdu, Option.some.injEq] at h
    rw [← congrArg (fun r => r.2.control) h]
    exact control_handleGenericNack now q conn key status
  | bindTransmitterResp status | bindTransceiverResp status =>
    rw [handlePdu, Option.some.injEq, Prod.mk.injEq] at h
    rw [← h.2, handleBindResp, Control.afterPdu, Control.rejected]
    split_ifs <;> rfl
  | bindReceiverResp status =>
    rw [handlePdu, Option.some.injEq, Prod.mk.injEq] at h
    have hstatus : conn.control.status = conn.status := rfl
    rw [← h.2, handleBindReceiverResp, Control.afterPdu, Control.rejected, hstatus]
    split_ifs <;> rfl
  | unbind | unbindResp | other =>
    rw [handlePdu, Option.some.injEq, Prod.mk.injEq] at h
    rw [← h.2]
    rfl

theorem ioEnter_control (opened : Bool) (now : ℤ) (q : Queues) (conn : SmscConn) :
    (ioEnter opened now q conn).2.control =
      conn.control.after conn.control.txMode (.enter opened now) := by
  unfold ioEnter Control.after
  split
  · rename_i hquit
    rw [if_pos (show conn.control.quitting = true from hquit)]
    rfl
  · rename_i hquit
    rw [if_neg (show ¬ conn.control.quitting = true from hquit)]
    cases opened <;> rfl

theorem ioConnWait_control (ok : Bool) (now : ℤ) (q : Queues) (conn : SmscConn) :
    (ioConnWait ok now q conn).2.control = conn.control := by
  unfold ioConnWait
  split_ifs
  · rfl
  · rfl
  · rw [control_goto, control_sendEnquireLink]

theorem ioUnbindWait_control {openMode : ℤ} {ok : Bool} {pdu : Option Pdu}
    (h : ioUnbindWait lib cfg ok pdu now q conn = some (q', conn')) :
    conn'.control = conn.control.after openMode (.unbindWait ok pdu now) := by
  obtain ⟨read, rfl, hhandle⟩ | ⟨rfl, -, rfl | rfl⟩ := ioUnbindWait_cases h
  · exact handlePdu_control hhandle
  · rfl
  · rfl

theorem ioReadPdu_control {pdu : Pdu} (h : ioReadPdu lib cfg pdu now q conn = some (q', conn')) :
    conn'.control = conn.control.afterPdu pdu := by
  obtain ⟨conn₁, hhandle, rfl | rfl⟩ := ioReadPdu_cases h
  · rw [← handlePdu_control hhandle]
    rfl
  · rw [← handlePdu_control hhandle, control_gotoSend, control_sendEnquireLink]
    rfl

theorem ioCheckTimes_control {keys : List ℤ} (h : ioCheckTimes keys now q conn = some (q', conn')) :
    conn'.control = conn.control := by
  obtain ⟨-, rfl | rfl | rfl | rfl⟩ := ioCheckTimes_cases h
  · rfl
  · rfl
  · exact control_gotoSend _ _ _ _
  · exact control_gotoSend _ _ _ _

theorem ioCleanup_control {keys : List ℤ} {start : ℤ}
    (h : ioCleanup cfg keys start now q conn = (q', conn')) : conn'.control = conn.control := by
  obtain ⟨-, rfl | rfl | ⟨rest, rfl⟩⟩ | ⟨key, smppMsg, rest, -, -, rfl⟩ := ioCleanup_cases h
  · exact control_gotoSend _ _ _ _
  · rfl
  · rfl
  · rfl

theorem sendMessage_control {written again : Bool}
    (h : sendMessage lib cfg written now conn msg = some (conn', again)) :
    conn'.control = conn.control := by
  have hdnd : (withDndPdu lib cfg conn msg).1.control = conn.control := by
    unfold withDndPdu
    split <;> rfl
  have hadapt : ∀ (c : SmscConn) (m : Msg) (p : SmppPdu),
      (adaptPdu lib cfg c m p).1.control = c.control := by
    intro c m p
    unfold adaptPdu
    split <;> rfl
  rw [← hdnd]
  unfold sendMessage at h
  simp only at h
  split at h
  · rw [Option.some.injEq, Prod.mk.injEq] at h
    rw [← h.1]
  · split at h
    · exact absurd h (by simp)
    · split at h
      · rw [Option.some.injEq, Prod.mk.injEq] at h
        rw [← h.1, control_setPending, control_putSent, hadapt]
      · rw [Option.some.injEq, Prod.mk.injEq] at h
        rw [← h.1, hadapt]

theorem ioSend_control {back : Pc} {written : Bool}
    (h : ioSend lib cfg back written now q conn = some (q', conn')) : conn'.control = conn.control := by
  obtain ⟨-, ⟨-, rfl⟩ | ⟨msg, rest, conn₁, again, -, -, hsend, rfl⟩⟩ := ioSend_eq_some h
  · exact control_goto conn back
  · rw [← control_extractFirst conn, ← sendMessage_control hsend]
    cases again <;> rfl

theorem ioFlushQueue_control {quitting : Bool} {keys : List ℤ}
    (h : ioFlushQueue cfg quitting keys now q conn = some (q', conn')) :
    conn'.control = conn.control := by
  obtain ⟨-, -, -, rfl⟩ | ⟨msg, rest, -, rfl, -⟩ := ioFlushQueue_cases h
  · exact control_goto conn _
  · exact control_extractFirst conn

theorem ioFlushSent_control {quitting : Bool} {keys : List ℤ}
    (h : ioFlushSent cfg quitting keys now q conn = (q', conn')) : conn'.control = conn.control := by
  obtain ⟨-, rfl, -⟩ | ⟨key, rest, -, ⟨-, -, rfl⟩ | ⟨smppMsg, -, -, rfl⟩⟩ := ioFlushSent_cases h
  all_goals rfl

theorem ioDisconnect_control (connected : Bool) (q : Queues) (conn : SmscConn) :
    (ioDisconnect connected q conn).2.control = { conn.control with status := .reconnecting } := by
  cases connected <;> rfl

/-- **What the transmitting thread writes.** -/
theorem ioThread_control (h : ioThread lib cfg (q, conn) ev = some (q', conn')) :
    conn'.control = conn.control.after conn.control.txMode ev := by
  have hsnd : ∀ {r : Queues × SmscConn}, some r = some (q', conn') → conn' = r.2 := by
    rintro r hr
    rw [Option.some.inj hr]
  unfold ioThread at h
  simp only at h
  split at h
  · exact hsnd h ▸ ioEnter_control _ _ q conn
  · exact hsnd h ▸ ioConnWait_control _ _ q conn
  · exact ioUnbindWait_control h
  · exact ioReadPdu_control h
  · exact hsnd h ▸ rfl
  · exact hsnd h ▸ rfl
  · exact ioCheckTimes_control h
  · exact ioCleanup_control (Option.some.inj h)
  · exact ioSend_control h
  · exact ioSend_control h
  · exact hsnd h ▸ ioDisconnect_control _ q conn
  · exact ioFlushQueue_control h
  · exact ioFlushSent_control (Option.some.inj h)
  · exact hsnd h ▸ rfl
  · exact absurd h (by simp)

theorem rxEnter_control (opened : Bool) (now : ℤ) (q : Queues) (conn : SmscConn) :
    (rxEnter opened now q conn).2.control = conn.control.after rxMode (.enter opened now) := by
  have henter := ioEnter_control opened now q conn
  unfold rxEnter
  unfold Control.after at henter ⊢
  split
  · rename_i hquit
    rw [if_pos (show conn.control.quitting = true from hquit)] at henter ⊢
    exact henter
  · rename_i hquit
    rw [if_neg (show ¬ conn.control.quitting = true from hquit)] at henter ⊢
    exact congrArg (fun c : Control => { c with mode := rxMode }) henter

theorem rxReadPdu_control {pdu : Pdu} (h : rxReadPdu lib cfg pdu now q conn = some (q', conn')) :
    conn'.control = conn.control.afterPdu pdu := by
  obtain ⟨conn₁, hhandle, rfl | rfl⟩ := rxReadPdu_cases h
  · rw [← handlePdu_control hhandle]
    rfl
  · rw [← handlePdu_control hhandle, control_goto, control_sendEnquireLink]
    rfl

/-- **What the receiving thread writes.** -/
theorem rxThread_control (h : rxThread lib cfg (q, conn) ev = some (q', conn')) :
    conn'.control = conn.control.after rxMode ev := by
  have hsnd : ∀ {r : Queues × SmscConn}, some r = some (q', conn') → conn' = r.2 := by
    rintro r hr
    rw [Option.some.inj hr]
  unfold rxThread at h
  simp only at h
  split at h
  · exact hsnd h ▸ rxEnter_control _ _ q conn
  · exact hsnd h ▸ ioConnWait_control _ _ q conn
  · exact ioUnbindWait_control h
  · exact rxReadPdu_control h
  · exact hsnd h ▸ rfl
  · exact hsnd h ▸ rfl
  · rw [hsnd h, rxCheckTimes]
    split <;> rfl
  · rw [hsnd h, rxDisconnect, control_goto]
    exact ioDisconnect_control _ q conn
  · exact hsnd h ▸ rfl
  · exact absurd h (by simp)

end Steps

end SmppServer.SmppSmsc
