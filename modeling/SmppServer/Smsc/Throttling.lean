import SmppServer.Smsc.Retransmit
import SmppServer.Machinery.Clock

/-!
# Smsc/Throttling — the pause after a throttled answer

An SMSC that throttles is left alone for fifteen seconds.  The pause is one time stamp of the
connection, set and reset by the handlers of the answers and looked at before `send_messages`; the
handlers run in either thread of the connection, and `send_messages` only in the transmitting one.

A run by the clock takes down, for one connection, the throttled answers, the openings and the submits
that are written.  Any other error resets the stamp, and so does the receiving thread when it opens its
port; a stamp that is set while the transmitting thread is in `send_messages` comes too late.

* `paused_of_calm` — in every run without these the pauses are kept, whether a new opening of
  the connection ends them or not.
-/

namespace SmppServer.SmppSmsc

open Machinery

/-! ## What is taken down

The log is about one connection and has the times of its steps; the property compares times in the log and
nothing else. -/

/-- A throttled answer, an opening of the connection, and a submit that is written. -/
inductive Pace
  | throttled (time : ℤ)
  | opened
  | written (time : ℤ)
  deriving DecidableEq, Repr

/-- The times of the throttled answers since the connection was opened, or of all if the pauses go
`across` openings. -/
def pauses (across : Bool) (log : List Pace) : List ℤ :=
  log.foldl
    (fun times a =>
      match a with
      | .throttled time => time :: times
      | .opened => if across then times else []
      | .written _ => times) []

/-- **The pause**: what is written is written more than fifteen seconds after each throttled answer. -/
def Paused (across : Bool) (earlier : List Pace) : Pace → Prop
  | .written now => ∀ time ∈ pauses across earlier, smppThrottlingSleepTime < now - time
  | _ => True

/-- The status of an answer to a pending submit, unless the submit was accepted. -/
def SmscConn.reported (conn : SmscConn) : Pdu → Option ℤ
  | .submitSmResp key status _ =>
    if key ∈ conn.data.sentMsgs ∧ status ≠ smppEsmeRok then some status else none
  | .genericNack key status => if key ∈ conn.data.sentMsgs then some status else none
  | _ => none

/-- The step of connection `i` that an event is. -/
def TrafficEvent.atConn (i : ℕ) : TrafficEvent → Option IoEvent
  | .system (.io j ev) | .receive j ev => if j = i then some ev else none
  | _ => none

/-- The status that an event reports on connection `i`. -/
def Traffic.reported (t : Traffic) (i : ℕ) (e : TrafficEvent) : Option ℤ :=
  match t.system.process.smscList[i]?, (e.atConn i).bind IoEvent.pdu? with
  | some conn, some pdu => conn.reported pdu
  | _, _ => none

/-- Connection `i` is not to be shut down. -/
def Traffic.goesOn (t : Traffic) (i : ℕ) : Bool :=
  t.system.process.smscList[i]?.any fun conn => !conn.data.quitting

/-- Connection `i` is opened: by its transmitting thread, or when it is restarted. -/
def Traffic.opens (t : Traffic) (i : ℕ) : TrafficEvent → Bool
  | .system (.io j (.enter _ _)) => j = i && t.goesOn i
  | .system (.smsc2RestartSmsc j _) => j = i
  | _ => false

/-- The receiving thread of connection `i` opens its port. -/
def Traffic.receiverOpens (t : Traffic) (i : ℕ) : TrafficEvent → Bool
  | .receive j (.enter _ _) => j = i && t.goesOn i
  | _ => false

/-- `send_messages`. -/
def Pc.sending : Pc → Bool
  | .sendInner | .sendOuter => true
  | _ => false

/-- The transmitting thread of connection `i` is in `send_messages`. -/
def Traffic.sending (t : Traffic) (i : ℕ) : Bool :=
  t.system.process.smscList[i]?.any fun conn => conn.thread.pc.sending

section Runs

variable (lib : Gwlib) (cfg : ClientCfg) (i : ℕ) (across : Bool)

/-- A submit is written on connection `i`. -/
def Traffic.writes (t : Traffic) : TrafficEvent → Bool
  | .system (.io j (.send written _)) =>
    j = i && t.system.process.smscList[i]?.any fun conn => !(writtenBy lib cfg i conn written).isEmpty
  | _ => false

/-- What a step takes down about connection `i`. -/
def paceNote (t : Traffic) (e : ℤ × TrafficEvent) (_ : Traffic) : Option Pace :=
  if t.opens i e.2 then some .opened
  else if t.reported i e.2 = some smppEsmeRthrottled then some (.throttled e.1)
  else if t.writes lib cfg i e.2 then some (.written e.1)
  else none

/-- One step of the process by the clock. -/
def pacedStep (p : Clocked Traffic Pace) (e : ℤ × TrafficEvent) : Option (Clocked Traffic Pace) :=
  clockedStep (trafficStep lib cfg) TrafficEvent.now? (paceNote lib cfg i) p e

/-- An event that resets the stamp of connection `i`, whatever it holds. -/
def Traffic.Resets (t : Traffic) (e : TrafficEvent) : Prop :=
  (∃ status ∈ t.reported i e, status ≠ smppEsmeRthrottled) ∨ t.receiverOpens i e = true ∨
    across = true ∧ t.opens i e = true

instance (t : Traffic) (e : TrafficEvent) : Decidable (t.Resets i across e) :=
  inferInstanceAs (Decidable (_ ∨ _ ∨ _))

/-- The receiving thread handles a throttled answer while the transmitting one is in
`send_messages`. -/
def Traffic.Overtaken (t : Traffic) : TrafficEvent → Prop
  | .receive j ev =>
    t.reported i (.receive j ev) = some smppEsmeRthrottled ∧ t.sending i = true
  | _ => False

instance (t : Traffic) : ∀ e, Decidable (t.Overtaken i e)
  | .receive _ _ => inferInstanceAs (Decidable (_ ∧ _))
  | .system _ => .isFalse id

/-- **A step that does not disturb the pauses**: it resets the stamp only when they are over, and no
throttled answer comes too late. -/
def Calm (p : Clocked Traffic Pace) (e : ℤ × TrafficEvent) : Prop :=
  (p.state.Resets i across e.2 →
    ∀ time ∈ pauses across p.log, smppThrottlingSleepTime < e.1 - time) ∧
    ¬ p.state.Overtaken i e.2

instance : DecidableRel (Calm i across) := fun _ _ => inferInstanceAs (Decidable (_ ∧ _))

end Runs

/-! ## The stamp

Every function of both threads leaves the stamp alone or sets it from the answer it handles; the way to
`send_messages` leads through the comparison. -/

section Stamp

variable {lib : Gwlib} {cfg : ClientCfg} {now : ℤ} {q q' : Queues} {conn conn' : SmscConn}
  {ev : IoEvent}

/-- The stamp behind an answer. -/
def stampBehind (now stamp : ℤ) : Option ℤ → ℤ
  | none => stamp
  | some status => if status = smppEsmeRthrottled then now else 0

@[simp] theorem smscconnSendFailed_data (cfg : ClientCfg) (now : ℤ) (q : Queues) (conn : SmscConn)
    (sms : Msg) (reason : FailureReason) :
    (smscconnSendFailed cfg now q conn sms reason).2.data = conn.data := by
  cases reason <;> rfl

theorem handleSubmitSmResp_stamp {key status : ℤ} {messageId : Option Octstr}
    (h : handleSubmitSmResp lib cfg now q conn key status messageId = some (q', conn')) :
    conn'.data.throttlingErrTime = stampBehind now conn.data.throttlingErrTime
      (conn.reported (.submitSmResp key status messageId)) := by
  rw [handleSubmitSmResp] at h
  split at h
  · rename_i hkey
    obtain ⟨rfl, rfl⟩ := Prod.mk.inj (Option.some.inj h)
    rw [SmscConn.reported, if_neg fun hmem => AList.lookup_eq_none.mp hkey hmem.1, stampBehind]
  · rename_i smppMsg hkey
    have hmem : key ∈ conn.data.sentMsgs := AList.lookup_isSome.mp (by rw [hkey]; rfl)
    simp only at h
    split at h
    · split at h
      · rename_i hstatus
        obtain ⟨-, rfl⟩ := Prod.mk.inj (Option.some.inj h)
        have hreported : conn.reported (.submitSmResp key status messageId) = some status :=
          if_pos ⟨hmem, hstatus⟩
        rw [hreported, stampBehind]
        exact congrArg Smpp.throttlingErrTime (smscconnSendFailed_data ..)
      · rename_i hstatus
        obtain ⟨-, rfl⟩ := Prod.mk.inj (Option.some.inj h)
        rw [SmscConn.reported, if_neg fun hmem => hstatus hmem.2, stampBehind]
        rfl
    · exact absurd h (by simp)

theorem handleGenericNack_stamp (now : ℤ) (q : Queues) (conn : SmscConn) (key status : ℤ) :
    (handleGenericNack cfg now q conn key status).2.data.throttlingErrTime =
      stampBehind now conn.data.throttlingErrTime (conn.reported (.genericNack key status)) := by
  rw [handleGenericNack]
  split
  · rename_i hkey
    rw [SmscConn.reported, if_neg fun hmem => AList.lookup_eq_none.mp hkey hmem, stampBehind]
  · rename_i smppMsg hkey
    have hmem : key ∈ conn.data.sentMsgs := AList.lookup_isSome.mp (by rw [hkey]; rfl)
    rw [SmscConn.reported, if_pos hmem, stampBehind]
    exact congrArg Smpp.throttlingErrTime (smscconnSendFailed_data ..)

/-- **What an answer does to the stamp.** -/
theorem handlePdu_stamp {pdu : Pdu} (h : handlePdu lib cfg now q conn pdu = some (q', conn')) :
    conn'.data.throttlingErrTime =
      stampBehind now conn.data.throttlingErrTime (conn.reported pdu) := by
  cases pdu with
  | submitSmResp key status messageId => exact handleSubmitSmResp_stamp h
  | genericNack key status =>
    obtain rfl := congrArg Prod.snd (Option.some.inj h)
    exact handleGenericNack_stamp now q conn key status
  | bindTransmitterResp status | bindTransceiverResp status =>
    rw [handlePdu, handleBindResp] at h
    split_ifs at h
    all_goals
      obtain ⟨-, rfl⟩ := Prod.mk.inj (Option.some.inj h)
      rfl
  | bindReceiverResp status =>
    rw [handlePdu, handleBindReceiverResp] at h
    split_ifs at h
    all_goals
      obtain ⟨-, rfl⟩ := Prod.mk.inj (Option.some.inj h)
      rfl
  | unbind | unbindResp | other =>
    obtain ⟨-, rfl⟩ := Prod.mk.inj (Option.some.inj h)
    rfl

/-- `send_messages` is entered only when the pause is over, and leaves the stamp else. -/
theorem gotoSend_stamp (send : Pc) {skip : Pc} (hskip : skip.sending = false) (now : ℤ) (conn : SmscConn) :
    smppThrottlingSleepTime < now - conn.data.throttlingErrTime ∨
      (gotoSend now conn send skip).data.throttlingErrTime = conn.data.throttlingErrTime ∧
        (gotoSend now conn send skip).thread.pc.sending = false := by
  unfold gotoSend
  split
  · rename_i hover
    exact .inl hover
  · exact .inr ⟨rfl, hskip⟩

@[simp] theorem sendEnquireLink_stamp (now : ℤ) (conn : SmscConn) :
    (sendEnquireLink now conn).data.throttlingErrTime = conn.data.throttlingErrTime := by
  unfold sendEnquireLink
  split <;> rfl

/-- Sending a message leaves the stamp. -/
theorem sendMessage_stamp {written again : Bool} {msg : Msg}
    (h : sendMessage lib cfg written now conn msg = some (conn', again)) :
    conn'.data.throttlingErrTime = conn.data.throttlingErrTime := by
  have hdnd : (withDndPdu lib cfg conn msg).1.data.throttlingErrTime =
      conn.data.throttlingErrTime := by
    unfold withDndPdu
    split <;> rfl
  have hadapt : ∀ (c : SmscConn) (m : Msg) (pdu : SmppPdu),
      (adaptPdu lib cfg c m pdu).1.data.throttlingErrTime = c.data.throttlingErrTime := by
    intro c m pdu
    unfold adaptPdu
    split <;> rfl
  rw [sendMessage] at h
  dsimp only at h
  split at h
  · rw [← (Prod.mk.inj (Option.some.inj h)).1]
    exact hdnd
  · split at h
    · exact absurd h (by simp)
    · split at h
      all_goals
        rw [← (Prod.mk.inj (Option.some.inj h)).1]
        exact (hadapt _ _ _).trans hdnd

/-- What a step of the transmitting thread at time `now` does for the pause: it goes to `send_messages`
only when the pause is over. -/
def KeepsPace (now : ℤ) (ev : IoEvent) (conn conn' : SmscConn) : Prop :=
  smppThrottlingSleepTime <
      now - stampBehind now conn.data.throttlingErrTime (ev.pdu?.bind conn.reported) ∨
    conn'.data.throttlingErrTime =
        stampBehind now conn.data.throttlingErrTime (ev.pdu?.bind conn.reported) ∧
      (conn'.thread.pc.sending = true → conn.thread.pc.sending = true ∧ ev.pdu? = none)

/-- A step without a PDU that leaves the stamp and does not go to `send_messages`. -/
theorem KeepsPace.keep (hpdu : ev.pdu? = none)
    (hstamp : conn'.data.throttlingErrTime = conn.data.throttlingErrTime)
    (hpc : conn'.thread.pc.sending = false) : KeepsPace now ev conn conn' := by
  refine .inr ⟨?_, fun hsend => absurd (hpc.symm.trans hsend) Bool.false_ne_true⟩
  rw [hstamp, hpdu]
  rfl

/-- A step without a PDU that ends at the check. -/
theorem KeepsPace.gotoSend {send skip : Pc} {c : SmscConn} (hpdu : ev.pdu? = none)
    (hstamp : c.data.throttlingErrTime = conn.data.throttlingErrTime) (hskip : skip.sending = false) :
    KeepsPace now ev conn (gotoSend now c send skip) := by
  obtain hover | ⟨hsame, hpc⟩ := gotoSend_stamp send hskip now c
  · refine .inl ?_
    rw [hpdu, ← hstamp]
    exact hover
  · exact .keep hpdu (hsame.trans hstamp) hpc

theorem ioConnWait_stamp (ok : Bool) (time : ℤ) (q : Queues) (conn : SmscConn) :
    (ioConnWait ok time q conn).2.data.throttlingErrTime = conn.data.throttlingErrTime ∧
      (ioConnWait ok time q conn).2.thread.pc.sending = false := by
  unfold ioConnWait
  split_ifs
  · exact ⟨rfl, rfl⟩
  · exact ⟨rfl, rfl⟩
  · exact ⟨sendEnquireLink_stamp time conn, rfl⟩

theorem ioUnbindWait_stamp {ok : Bool} {pdu : Option Pdu}
    (h : ioUnbindWait lib cfg ok pdu now q conn = some (q', conn')) :
    conn'.data.throttlingErrTime =
      stampBehind now conn.data.throttlingErrTime (pdu.bind conn.reported) := by
  obtain ⟨read, rfl, hhandle⟩ | ⟨rfl, -, rfl | rfl⟩ := ioUnbindWait_cases h
  · exact handlePdu_stamp hhandle
  · rfl
  · rfl

theorem ioUnbindWait_keepsPace {ok : Bool} {pdu : Option Pdu} (hpc : conn.thread.pc = .unbinding)
    (h : ioUnbindWait lib cfg ok pdu now q conn = some (q', conn')) :
    KeepsPace now (.unbindWait ok pdu now) conn conn' := by
  refine .inr ⟨ioUnbindWait_stamp h, fun hsend => ?_⟩
  obtain ⟨read, rfl, hhandle⟩ | ⟨-, -, rfl | rfl⟩ := ioUnbindWait_cases h
  · have hev : (IoEvent.unbindWait ok (some read) now).pdu? = some read := rfl
    rw [(handlePdu_moves hev rfl hhandle).2, hpc] at hsend
    exact absurd hsend Bool.false_ne_true
  · rw [hpc] at hsend
    exact absurd hsend Bool.false_ne_true
  · exact absurd hsend Bool.false_ne_true

theorem ioReadPdu_keepsPace {pdu : Pdu} (h : ioReadPdu lib cfg pdu now q conn = some (q', conn')) :
    KeepsPace now (.readPdu pdu now) conn conn' := by
  obtain ⟨conn₁, hhandle, hconn'⟩ := ioReadPdu_cases h
  have hstamp := handlePdu_stamp hhandle
  obtain rfl | rfl := hconn'
  · exact .inr ⟨hstamp, fun hsend => absurd hsend Bool.false_ne_true⟩
  · have hlink := sendEnquireLink_stamp now
      { conn₁ with thread := { conn₁.thread with lastResponse := now } }
    obtain hover | ⟨hsame, hpc⟩ := gotoSend_stamp .sendInner
      (show Pc.reading.sending = false from rfl) now
      (sendEnquireLink now { conn₁ with thread := { conn₁.thread with lastResponse := now } })
    · refine .inl ?_
      rw [hlink, hstamp] at hover
      exact hover
    · refine .inr ⟨hsame.trans (hlink.trans hstamp), fun hsend => ?_⟩
      exact absurd (hpc.symm.trans hsend) Bool.false_ne_true

theorem ioCheckTimes_keepsPace {keys : List ℤ}
    (h : ioCheckTimes keys now q conn = some (q', conn')) :
    KeepsPace now (.checkTimes keys now) conn conn' := by
  obtain ⟨-, rfl | rfl | rfl | rfl⟩ := ioCheckTimes_cases h
  · exact .keep rfl rfl rfl
  · exact .keep rfl rfl rfl
  · exact .gotoSend rfl rfl rfl
  · exact .gotoSend rfl rfl rfl

theorem ioCleanup_keepsPace {keys : List ℤ} {start : ℤ}
    (h : ioCleanup cfg keys start now q conn = (q', conn')) : KeepsPace now (.cleanup now) conn conn' := by
  obtain ⟨-, rfl | rfl | ⟨rest, rfl⟩⟩ | ⟨key, smppMsg, rest, -, -, rfl⟩ := ioCleanup_cases h
  · exact .gotoSend rfl rfl rfl
  · exact .keep rfl rfl rfl
  · exact .keep rfl rfl rfl
  · exact .keep rfl rfl rfl

theorem ioSend_stamp {back : Pc} {written : Bool}
    (h : ioSend lib cfg back written now q conn = some (q', conn')) :
    conn'.data.throttlingErrTime = conn.data.throttlingErrTime := by
  obtain ⟨-, ⟨-, rfl⟩ | ⟨msg, rest, conn₁, again, -, -, hsend, rfl⟩⟩ := ioSend_eq_some h
  · rfl
  · have hstamp := sendMessage_stamp hsend
    cases again with
    | true => exact hstamp
    | false => exact hstamp

theorem ioFlushQueue_keepsPace {quitting : Bool} {keys : List ℤ} {time : ℤ}
    (hpc : conn.thread.pc = .flushQueue quitting)
    (h : ioFlushQueue cfg quitting keys time q conn = some (q', conn')) :
    KeepsPace now (.flush keys time) conn conn' := by
  obtain ⟨-, -, -, rfl⟩ | ⟨msg, rest, -, rfl, -⟩ := ioFlushQueue_cases h
  · exact .keep rfl rfl rfl
  · exact .keep rfl rfl (by rw [SmscConn.extractFirst, hpc]; rfl)

theorem ioFlushSent_keepsPace {quitting : Bool} {keys keys' : List ℤ} {time : ℤ}
    (h : ioFlushSent cfg quitting keys time q conn = (q', conn')) :
    KeepsPace now (.flush keys' time) conn conn' := by
  obtain ⟨-, rfl, -⟩ | ⟨key, rest, -, ⟨-, -, rfl⟩ | ⟨smppMsg, -, -, rfl⟩⟩ := ioFlushSent_cases h
  all_goals exact .keep rfl rfl rfl

/-- **A step of the transmitting thread**, unless it opens the connection. -/
theorem ioThread_keepsPace (hnow : ∀ time ∈ ev.now?, time = now)
    (henter : ∀ opened time, ev = .enter opened time → conn.data.quitting = true)
    (h : ioThread lib cfg (q, conn) ev = some (q', conn')) : KeepsPace now ev conn conn' := by
  unfold ioThread at h
  simp only at h
  split at h
  · rename_i opened time hpc
    rw [ioEnter, if_pos (henter opened time rfl)] at h
    obtain ⟨-, rfl⟩ := Prod.mk.inj (Option.some.inj h)
    exact .keep rfl rfl rfl
  · rename_i ok time _
    obtain ⟨hstamp, hpc⟩ := ioConnWait_stamp ok time q conn
    rw [Option.some.inj h] at hstamp hpc
    exact .keep rfl hstamp hpc
  · rename_i ok pdu time hpc
    obtain rfl := hnow time rfl
    exact ioUnbindWait_keepsPace hpc h
  · rename_i pdu time hpc
    obtain rfl := hnow time rfl
    exact ioReadPdu_keepsPace h
  · rw [← (Prod.mk.inj (Option.some.inj h)).2]
    exact .keep rfl rfl rfl
  · rw [← (Prod.mk.inj (Option.some.inj h)).2]
    exact .keep rfl rfl rfl
  · rename_i keys time hpc
    obtain rfl := hnow time rfl
    exact ioCheckTimes_keepsPace h
  · rename_i keys start time hpc
    obtain rfl := hnow time rfl
    exact ioCleanup_keepsPace (Option.some.inj h)
  · rename_i hpc
    exact .inr ⟨ioSend_stamp h, fun _ => ⟨by rw [hpc]; rfl, rfl⟩⟩
  · rename_i hpc
    exact .inr ⟨ioSend_stamp h, fun _ => ⟨by rw [hpc]; rfl, rfl⟩⟩
  · rename_i connected hpc
    rw [← (Prod.mk.inj (Option.some.inj h)).2]
    cases connected <;> exact .keep rfl rfl rfl
  · rename_i hpc
    exact ioFlushQueue_keepsPace hpc h
  · exact ioFlushSent_keepsPace (Option.some.inj h)
  · rw [← (Prod.mk.inj (Option.some.inj h)).2]
    exact .keep rfl rfl rfl
  · exact absurd h (by simp)

theorem rxReadPdu_stamp {pdu : Pdu} (h : rxReadPdu lib cfg pdu now q conn = some (q', conn')) :
    conn'.data.throttlingErrTime =
      stampBehind now conn.data.throttlingErrTime (conn.reported pdu) := by
  obtain ⟨conn₁, hhandle, hconn'⟩ := rxReadPdu_cases h
  have hstamp := handlePdu_stamp hhandle
  obtain rfl | rfl := hconn'
  · exact hstamp
  · exact (sendEnquireLink_stamp now
      { conn₁ with thread := { conn₁.thread with lastResponse := now } }).trans hstamp

/-- **A step of the receiving thread**, unless it opens its port. -/
theorem rxThread_stamp (hnow : ∀ time ∈ ev.now?, time = now)
    (henter : ∀ opened time, ev = .enter opened time → conn.data.quitting = true)
    (h : rxThread lib cfg (q, conn) ev = some (q', conn')) :
    conn'.data.throttlingErrTime =
      stampBehind now conn.data.throttlingErrTime (ev.pdu?.bind conn.reported) := by
  unfold rxThread at h
  simp only at h
  split at h
  · rename_i opened time hpc
    rw [rxEnter, if_pos (henter opened time rfl), ioEnter, if_pos (henter opened time rfl)] at h
    rw [← (Prod.mk.inj (Option.some.inj h)).2]
    rfl
  · rename_i ok time hpc
    have hstamp := (ioConnWait_stamp ok time q conn).1
    rw [Option.some.inj h] at hstamp
    exact hstamp
  · rename_i ok pdu time hpc
    obtain rfl := hnow time rfl
    exact ioUnbindWait_stamp h
  · rename_i pdu time hpc
    obtain rfl := hnow time rfl
    exact rxReadPdu_stamp h
  · rw [← (Prod.mk.inj (Option.some.inj h)).2]
    rfl
  · rw [← (Prod.mk.inj (Option.some.inj h)).2]
    rfl
  · rw [Option.some.injEq, rxCheckTimes] at h
    split_ifs at h
    · rw [← (Prod.mk.inj h).2]
      rfl
    · rw [← (Prod.mk.inj h).2]
      rfl
  · rename_i connected hpc
    rw [← (Prod.mk.inj (Option.some.inj h)).2]
    cases connected <;> rfl
  · rw [← (Prod.mk.inj (Option.some.inj h)).2]
    rfl
  · exact absurd h (by simp)

end Stamp

/-! ## The process -/

section Process

variable {lib : Gwlib} {cfg : ClientCfg} {t t' : Traffic} {i : ℕ} {e : TrafficEvent} {now : ℤ}

/-- Connection `i` has the same stamp, and its transmitting thread is at the same place. -/
def Traffic.SamePace (i : ℕ) (t t' : Traffic) : Prop :=
  ∀ conn' ∈ t'.system.process.smscList[i]?, ∃ conn ∈ t.system.process.smscList[i]?,
    conn'.data.throttlingErrTime = conn.data.throttlingErrTime ∧
      conn'.thread.pc.sending = conn.thread.pc.sending

/-- A step that replaces one connection. -/
theorem samePace_set {j : ℕ} {conn₁ conn₂ : SmscConn}
    (hconn : t.system.process.smscList[j]? = some conn₁)
    (hset : t'.system.process.smscList = t.system.process.smscList.set j conn₂)
    (hsame : j = i → conn₂.data.throttlingErrTime = conn₁.data.throttlingErrTime ∧
      conn₂.thread.pc.sending = conn₁.thread.pc.sending) :
    t.SamePace i t' := by
  intro conn' hconn'
  rw [hset] at hconn'
  by_cases hj : j = i
  · subst hj
    rw [List.getElem?_set_self (List.getElem?_eq_some_iff.mp hconn).1] at hconn'
    obtain rfl := Option.some.inj hconn'
    exact ⟨conn₁, hconn, hsame rfl⟩
  · rw [List.getElem?_set_ne hj] at hconn'
    exact ⟨conn', hconn', rfl, rfl⟩

/-- A step that leaves the connections alone. -/
theorem samePace_of_eq (h : t'.system.process.smscList = t.system.process.smscList) :
    t.SamePace i t' := fun conn' hconn' => ⟨conn', h ▸ hconn', rfl, rfl⟩

/-- The router leaves the connections alone. -/
theorem msgRouter_smscList {s s' : System} {recheck : Bool}
    (h : msgRouter lib cfg s recheck now = some s') :
    s'.process.smscList = s.process.smscList := by
  cases msgRouter_outcome h with
  | quiet | emptied | lost | putBack | merged => rfl
  | givenUp hnext hstatus hgiveUp => exact (giveUp_same hgiveUp).2.2.1

/-- **A step that is none of connection `i`, and does not restart it.** -/
theorem trafficStep_samePace (h : trafficStep lib cfg t e = some t') (hat : e.atConn i = none)
    (hopens : t.opens i e = false) : t.SamePace i t' := by
  cases e with
  | receive j ev =>
    obtain ⟨conn, rx, q, conn', hconn, -, rfl⟩ := trafficStep_receive h
    have hj : j ≠ i := fun hj => by simp [TrafficEvent.atConn, hj] at hat
    exact samePace_set hconn rfl fun heq => absurd heq hj
  | system e =>
    cases e with
    | io j ev =>
      obtain ⟨conn, q, conn', hconn, -, rfl⟩ := trafficStep_io h
      have hj : j ≠ i := fun hj => by simp [TrafficEvent.atConn, hj] at hat
      exact samePace_set hconn rfl fun heq => absurd heq hj
    | handleRequest submit =>
      obtain ⟨s', hs, rfl⟩ := Option.map_eq_some_iff.mp h
      cases handleRequest_outcome hs with
      | recorded | taken | destroyed => exact samePace_of_eq rfl
    | rout k stack =>
      obtain ⟨s', hs, rfl⟩ := Option.map_eq_some_iff.mp h
      obtain ⟨message, r, p, -, hrout, rfl⟩ := routInHand_eq_some hs
      cases smsc2Rout_outcome hrout with
      | lost | queued | destroyed _ _ => exact samePace_of_eq rfl
      | handedOver hconn => exact samePace_set hconn rfl fun _ => ⟨rfl, rfl⟩
    | msgRouter recheck now =>
      obtain ⟨s', hs, rfl⟩ := Option.map_eq_some_iff.mp h
      exact samePace_of_eq (msgRouter_smscList hs)
    | shutdownCb j =>
      obtain ⟨s', hs, rfl⟩ := Option.map_eq_some_iff.mp h
      obtain ⟨conn, hconn, ⟨-, rfl⟩ | ⟨-, rfl⟩⟩ := systemStep_shutdownCb hs
      · exact samePace_of_eq rfl
      · exact samePace_set hconn rfl fun _ => ⟨rfl, rfl⟩
    | smppDestroy j =>
      obtain ⟨s', hs, rfl⟩ := Option.map_eq_some_iff.mp h
      obtain ⟨conn, hconn, -, rfl⟩ := systemStep_smppDestroy hs
      exact samePace_set hconn rfl fun _ => ⟨rfl, rfl⟩
    | smsc2RestartSmsc j conn' =>
      obtain ⟨s', hs, rfl⟩ := Option.map_eq_some_iff.mp h
      obtain ⟨conn, hconn, -, rfl⟩ := systemStep_smsc2RestartSmsc hs
      have hj : j ≠ i := fun hj => by simp [Traffic.opens, hj] at hopens
      exact samePace_set hconn rfl fun heq => absurd heq hj
    | setClientStatus status =>
      rw [trafficStep_setClientStatus h]
      exact samePace_of_eq rfl

theorem reported_of_atConn {ev : IoEvent} {conn : SmscConn} (hat : e.atConn i = some ev)
    (hconn : t.system.process.smscList[i]? = some conn) :
    t.reported i e = ev.pdu?.bind conn.reported := by
  rw [Traffic.reported, hconn, hat, Option.bind_some]
  cases ev.pdu? <;> rfl

/-- What a step of the process at time `now` does for the pauses of connection `i`. -/
def Traffic.KeepsPace (i : ℕ) (now : ℤ) (e : TrafficEvent) (t t' : Traffic) : Prop :=
  ∀ conn' ∈ t'.system.process.smscList[i]?, ∃ conn ∈ t.system.process.smscList[i]?,
    smppThrottlingSleepTime <
        now - stampBehind now conn.data.throttlingErrTime (t.reported i e) ∨
      conn'.data.throttlingErrTime =
          stampBehind now conn.data.throttlingErrTime (t.reported i e) ∧
        (conn'.thread.pc.sending = true → conn.thread.pc.sending = true ∧ t.reported i e = none)

/-- A step of the transmitting thread. -/
theorem trafficStep_keepsPace_io {ev : IoEvent} (hnow : ∀ time ∈ ev.now?, time = now)
    (hopens : t.opens i (.system (.io i ev)) = false)
    (h : trafficStep lib cfg t (.system (.io i ev)) = some t') :
    Traffic.KeepsPace i now (.system (.io i ev)) t t' := by
  obtain ⟨conn, q, conn', hconn, hio, rfl⟩ := trafficStep_io h
  have henter : ∀ opened time, ev = .enter opened time → conn.data.quitting = true := by
    rintro opened time rfl
    simpa [Traffic.opens, Traffic.goesOn, hconn] using hopens
  have hreported : t.reported i (.system (.io i ev)) = ev.pdu?.bind conn.reported :=
    reported_of_atConn (if_pos rfl) hconn
  intro conn₂ hconn₂
  simp only [System.setConn, System.setQueues] at hconn₂
  rw [List.getElem?_set_self (List.getElem?_eq_some_iff.mp hconn).1] at hconn₂
  obtain rfl := Option.some.inj hconn₂
  refine ⟨conn, hconn, ?_⟩
  rw [hreported]
  refine (ioThread_keepsPace hnow henter hio).imp_right (And.imp_right fun hsend hsending => ?_)
  obtain ⟨hbefore, hpdu⟩ := hsend hsending
  exact ⟨hbefore, by rw [hpdu]; rfl⟩

/-- A step of the receiving thread. -/
theorem trafficStep_keepsPace_receive {ev : IoEvent} (hnow : ∀ time ∈ ev.now?, time = now)
    (hopens : t.receiverOpens i (.receive i ev) = false) (hovertaken : ¬ t.Overtaken i (.receive i ev))
    (hstatus : ∀ status ∈ t.reported i (.receive i ev), status = smppEsmeRthrottled)
    (h : trafficStep lib cfg t (.receive i ev) = some t') :
    Traffic.KeepsPace i now (.receive i ev) t t' := by
  obtain ⟨conn, rx, q, conn', hconn, hrx, rfl⟩ := trafficStep_receive h
  have henter : ∀ opened time, ev = .enter opened time →
      (conn.withThread rx).data.quitting = true := by
    rintro opened time rfl
    change conn.data.quitting = true
    simpa [Traffic.receiverOpens, Traffic.goesOn, hconn] using hopens
  have hstamp := rxThread_stamp hnow henter hrx
  have hreported : t.reported i (.receive i ev) = ev.pdu?.bind conn.reported :=
    reported_of_atConn (if_pos rfl) hconn
  intro conn₂ hconn₂
  simp only [System.setConn, System.setQueues] at hconn₂
  rw [List.getElem?_set_self (List.getElem?_eq_some_iff.mp hconn).1] at hconn₂
  obtain rfl := Option.some.inj hconn₂
  refine ⟨conn, hconn, .inr ⟨?_, fun hsending => ?_⟩⟩
  · rw [hreported]
    exact hstamp
  · refine ⟨hsending, Option.eq_none_iff_forall_ne_some.mpr fun status hsome => hovertaken ?_⟩
    refine ⟨hsome.trans (congrArg some (hstatus status hsome)), ?_⟩
    rw [Traffic.sending, hconn, Option.any_some]
    exact hsending

/-- **A step that neither opens the connection nor disturbs its pauses.** -/
theorem trafficStep_keepsPace (hnow : ∀ time ∈ e.now?, time = now) (hopens : t.opens i e = false)
    (hreceiver : t.receiverOpens i e = false) (hovertaken : ¬ t.Overtaken i e)
    (hstatus : ∀ status ∈ t.reported i e, status = smppEsmeRthrottled)
    (h : trafficStep lib cfg t e = some t') : Traffic.KeepsPace i now e t t' := by
  cases hat : e.atConn i with
  | none =>
    have hreported : t.reported i e = none := by
      rw [Traffic.reported, hat]
      cases t.system.process.smscList[i]? <;> rfl
    intro conn' hconn'
    obtain ⟨conn, hconn, hstamp, hpc⟩ := trafficStep_samePace h hat hopens conn' hconn'
    rw [hreported]
    exact ⟨conn, hconn, .inr ⟨hstamp, fun hsending => ⟨hpc ▸ hsending, rfl⟩⟩⟩
  | some ev =>
    unfold TrafficEvent.atConn at hat
    split at hat
    · obtain ⟨rfl, -⟩ := Option.ite_none_right_eq_some.mp hat
      exact trafficStep_keepsPace_io hnow hopens h
    · obtain ⟨rfl, -⟩ := Option.ite_none_right_eq_some.mp hat
      exact trafficStep_keepsPace_receive hnow hreceiver hovertaken hstatus h
    · exact absurd hat (by simp)

end Process

/-! ## Whole runs

A pause that is not over is kept by the stamp, unless a step disturbs it; a submit is written from behind the
comparison, when the pauses are over. -/

section Whole

variable {lib : Gwlib} {cfg : ClientCfg} {i : ℕ} {across : Bool} {p p' : Clocked Traffic Pace}
  {e : ℤ × TrafficEvent} {log : List Pace} {time : ℤ}

/-- A throttled answer that counts behind one more entry was just taken down, or counted before and the
connection was not opened, unless pauses go across openings. -/
theorem mem_pauses_append {o : Option Pace} (h : time ∈ pauses across (log ++ o.toList)) :
    o = some (.throttled time) ∨ time ∈ pauses across log ∧ (o = some .opened → across = true) := by
  rw [pauses, List.foldl_append] at h
  cases o with
  | none => exact .inr ⟨h, fun hopened => absurd hopened (by simp)⟩
  | some a =>
    cases a with
    | throttled time' =>
      obtain rfl | hmem := List.mem_cons.mp h
      · exact .inl rfl
      · exact .inr ⟨hmem, fun hopened => absurd hopened (by simp)⟩
    | opened =>
      cases across with
      | true => exact .inr ⟨h, fun _ => rfl⟩
      | false => exact absurd h List.not_mem_nil
    | written _ => exact .inr ⟨h, fun hopened => absurd hopened (by simp)⟩

/-- **Between the steps**: a pause is over, or kept by the stamp. -/
structure Waits (i : ℕ) (across : Bool) (p : Clocked Traffic Pace) : Prop where
  past : ∀ time ∈ pauses across p.log, time ≤ p.clock
  kept : ∀ time ∈ pauses across p.log, smppThrottlingSleepTime < p.clock - time ∨
    ∀ conn ∈ p.state.system.process.smscList[i]?,
      time ≤ conn.data.throttlingErrTime ∧ conn.thread.pc.sending = false

/-- An event that opens the receiving port reports nothing. -/
theorem receiverOpens_of_reported {t : Traffic} {e : TrafficEvent} {status : ℤ}
    (h : t.reported i e = some status) : t.receiverOpens i e = false := by
  unfold Traffic.receiverOpens
  split
  · rename_i j opened now
    have hpdu : ((TrafficEvent.receive j (.enter opened now)).atConn i).bind IoEvent.pdu? = none := by
      rw [TrafficEvent.atConn]
      split <;> rfl
    rw [Traffic.reported, hpdu] at h
    cases hconn : t.system.process.smscList[i]? <;> simp [hconn] at h
  · rfl

/-- A throttled answer is taken down at the time of the step, if it does not open the connection. -/
theorem throttled_of_paceNote {t t' : Traffic}
    (h : paceNote lib cfg i t e t' = some (.throttled time)) :
    time = e.1 ∧ t.opens i e.2 = false ∧ t.reported i e.2 = some smppEsmeRthrottled := by
  unfold paceNote at h
  split_ifs at h with hopens hreported
  · simp at h
  · exact ⟨(Pace.throttled.inj (Option.some.inj h)).symm, Bool.eq_false_iff.mpr hopens, hreported⟩
  · simp at h

/-- **The pause of the answer of the step**: the stamp is set, outside of `send_messages`. -/
theorem kept_of_throttled {t t' : Traffic} (hnow : ∀ time ∈ e.2.now?, time = e.1)
    (hovertaken : ¬ t.Overtaken i e.2) (ht : trafficStep lib cfg t e.2 = some t')
    (h : paceNote lib cfg i t e t' = some (.throttled time)) :
    ∀ conn' ∈ t'.system.process.smscList[i]?,
      time ≤ conn'.data.throttlingErrTime ∧ conn'.thread.pc.sending = false := by
  obtain ⟨rfl, hopens, hreported⟩ := throttled_of_paceNote h
  have hstatus : ∀ status ∈ t.reported i e.2, status = smppEsmeRthrottled := fun status hsome =>
    Option.some.inj (hsome.symm.trans hreported)
  intro conn' hconn'
  obtain ⟨conn, -, hpaces⟩ := trafficStep_keepsPace hnow hopens (receiverOpens_of_reported hreported)
    hovertaken hstatus ht conn' hconn'
  rw [hreported, stampBehind, if_pos rfl] at hpaces
  obtain hlate | ⟨hstamp, hsending⟩ := hpaces
  · rw [smppThrottlingSleepTime] at hlate
    omega
  · refine ⟨hstamp.ge, Bool.eq_false_iff.mpr fun hsend => ?_⟩
    exact absurd (hsending hsend).2 (by simp)

/-- **The pause of an earlier answer** that is not over: the step does not reset the stamp. -/
theorem Waits.kept_of_not_resets {t' : Traffic} (hw : Waits i across p) (hclock : p.clock ≤ e.1)
    (hnow : ∀ time ∈ e.2.now?, time = e.1) (hovertaken : ¬ p.state.Overtaken i e.2)
    (hresets : ¬ p.state.Resets i across e.2)
    (ht : trafficStep lib cfg p.state e.2 = some t') (hold : time ∈ pauses across p.log)
    (hopened : paceNote lib cfg i p.state e t' = some .opened → across = true)
    (hpause : ¬ smppThrottlingSleepTime < e.1 - time) :
    ∀ conn' ∈ t'.system.process.smscList[i]?,
      time ≤ conn'.data.throttlingErrTime ∧ conn'.thread.pc.sending = false := by
  rw [Traffic.Resets, not_or, not_or] at hresets
  obtain ⟨hother, hreceiver, hopens⟩ := hresets
  have hopens : p.state.opens i e.2 = false := by
    refine Bool.eq_false_iff.mpr fun hopen => hopens ⟨hopened ?_, hopen⟩
    rw [paceNote, if_pos hopen]
  have hstatus : ∀ status ∈ p.state.reported i e.2, status = smppEsmeRthrottled := by
    intro status hsome
    by_contra hne
    exact hother ⟨status, hsome, hne⟩
  intro conn' hconn'
  obtain ⟨conn, hconn, hpaces⟩ := trafficStep_keepsPace hnow hopens (Bool.eq_false_iff.mpr hreceiver)
    hovertaken hstatus ht conn' hconn'
  obtain ⟨hbefore, hquiet⟩ := (hw.kept time hold).resolve_left (by omega) conn hconn
  have hlate : time ≤ stampBehind e.1 conn.data.throttlingErrTime (p.state.reported i e.2) := by
    cases hreported : p.state.reported i e.2 with
    | none => exact hbefore
    | some status =>
      rw [hstatus status hreported, stampBehind, if_pos rfl]
      exact (hw.past time hold).trans hclock
  obtain hlong | ⟨hstamp, hsending⟩ := hpaces
  · omega
  · refine ⟨hstamp ▸ hlate, Bool.eq_false_iff.mpr fun hsend => ?_⟩
    exact Bool.eq_false_iff.mp hquiet (hsending hsend).1

/-- **A guarded step keeps the pauses.** -/
theorem Waits.step (hw : Waits i across p) (hg : Calm i across p e)
    (h : pacedStep lib cfg i p e = some p') : Waits i across p' := by
  obtain ⟨hclock, hnow, t', ht, rfl⟩ := clockedStep_eq_some.mp h
  obtain ⟨hresets, hovertaken⟩ := hg
  have hnow : ∀ time ∈ e.2.now?, time = e.1 := hnow
  refine ⟨fun time htime => ?_, fun time htime => ?_⟩
  · obtain hnew | ⟨hold, -⟩ := mem_pauses_append htime
    · exact (throttled_of_paceNote hnew).1.le
    · exact (hw.past time hold).trans hclock
  · by_cases hover : smppThrottlingSleepTime < e.1 - time
    · exact .inl hover
    · obtain hnew | ⟨hold, hopened⟩ := mem_pauses_append htime
      · exact .inr (kept_of_throttled hnow hovertaken ht hnew)
      · exact .inr (hw.kept_of_not_resets hclock hnow hovertaken
          (fun hreset => hover (hresets hreset time hold)) ht hold hopened hover)

/-- A submit is written out of `send_messages`. -/
theorem sending_of_writes {t t' : Traffic} {e : TrafficEvent} (h : trafficStep lib cfg t e = some t')
    (hwrites : t.writes lib cfg i e = true) :
    ∃ conn ∈ t.system.process.smscList[i]?, conn.thread.pc.sending = true := by
  unfold Traffic.writes at hwrites
  split at hwrites
  · rename_i j written now
    rw [Bool.and_eq_true, decide_eq_true_iff] at hwrites
    obtain ⟨rfl, -⟩ := hwrites
    obtain ⟨conn, q, conn', hconn, hio, -⟩ := trafficStep_io h
    refine ⟨conn, hconn, ?_⟩
    unfold ioThread at hio
    cases hpc : conn.thread.pc <;> simp only [hpc, reduceCtorEq] at hio
    · rfl
    · rfl
  · exact absurd hwrites Bool.false_ne_true

/-- **What is written is written behind the pauses.** -/
theorem Waits.written (hw : Waits i across p) (h : pacedStep lib cfg i p e = some p') :
    ∀ a ∈ paceNote lib cfg i p.state e p'.state, Paused across p.log a := by
  obtain ⟨hclock, -, t', ht, rfl⟩ := clockedStep_eq_some.mp h
  intro a ha
  unfold paceNote at ha
  split_ifs at ha with hopens hreported hwrites
  · obtain rfl := Option.some.inj ha
    trivial
  · obtain rfl := Option.some.inj ha
    trivial
  · obtain rfl := Option.some.inj ha
    intro time htime
    obtain hover | hstamp := hw.kept time htime
    · omega
    · obtain ⟨conn, hconn, hsending⟩ := sending_of_writes ht hwrites
      exact absurd hsending (Bool.eq_false_iff.mp (hstamp conn hconn).2)
  · exact absurd ha (by simp)

end Whole

/-- **The throttling pause.**  In every run of the process by a clock that does not go back, in which no
step disturbs the pauses of connection `i`: a submit is written on the connection more than fifteen
seconds after each throttled answer to a pending one — of those since it was opened, or of all. -/
theorem paused_of_calm (lib : Gwlib) (cfg : ClientCfg) (i : ℕ) (across : Bool)
    {p p' : Clocked Traffic Pace} (hlog : p.log = []) {es : List (ℤ × TrafficEvent)}
    (hcalm : Along (pacedStep lib cfg i) (Calm i across) p es)
    (hrun : exec (pacedStep lib cfg i) p es = some p') : Justified (Paused across) p'.log := by
  have hnone : pauses across p.log = [] := by rw [hlog]; rfl
  have hstart : Waits i across p := by
    constructor
    · simp [hnone]
    · simp [hnone]
  exact justified_of_step (fun hw hg h => hw.step hg h) (fun hw _ h => hw.written h) hstart
    (hlog ▸ Justified.nil _) hcalm hrun

/-- The process with one connection, by the clock. -/
def samplePaced : Clocked Traffic Pace := ⟨sampleTraffic, 1000, []⟩

/-- Two submits are written and a third waits; the SMSC throttles the first, and answers the second with
this status. -/
def sampleThrottled (status : ℤ) : List (ℤ × TrafficEvent) :=
  [(1000, .io 0 (.enter true 1000)), (1000, .io 0 (.connWait true 1000)),
   (1001, .io 0 (.readPdu (.bindTransmitterResp 0) 1001)),
   (1001, .handleRequest sampleSubmit), (1001, .rout 0 0),
   (1001, .handleRequest sampleSubmit), (1001, .rout 0 0),
   (1001, .io 0 (.send true 1001)), (1001, .io 0 (.send true 1001)), (1001, .io 0 (.send true 1001)),
   (1002, .handleRequest sampleSubmit), (1002, .rout 0 0),
   (1002, .io 0 (.readPdu (.submitSmResp 2 0x58 none) 1002)),
   (1003, .io 0 (.readPdu (.submitSmResp 3 status none) 1003))].map fun e => (e.1, .system e.2)

/-- The second submit is accepted: the third is written when the pause is over. -/
def samplePause : List (ℤ × TrafficEvent) :=
  sampleThrottled 0 ++ [(1018, .system (.io 0 .readNothing)),
    (1018, .system (.io 0 (.checkTimes [] 1018))), (1018, .system (.io 0 (.send true 1018)))]

theorem paused_samplePause :
    ∃ p', exec (pacedStep sampleGwlib { dndcheckFlag := false } 0) samplePaced samplePause = some p' ∧
      p'.log = [.opened, .written 1001, .written 1001, .throttled 1002, .written 1018] ∧
      Justified (Paused true) p'.log := by
  have hruns : (exec (pacedStep sampleGwlib { dndcheckFlag := false } 0) samplePaced
      samplePause).map (·.log) =
        some [.opened, .written 1001, .written 1001, .throttled 1002, .written 1018] := by
    decide +kernel
  obtain ⟨p', hrun, hlog⟩ := Option.map_eq_some_iff.mp hruns
  exact ⟨p', hrun, hlog, paused_of_calm sampleGwlib { dndcheckFlag := false } 0 true rfl
    (by decide +kernel) hrun⟩

/-- The second submit is answered with another error: the third is written at once. -/
theorem not_paused :
    ¬ ∀ (lib : Gwlib) (cfg : ClientCfg) (i : ℕ) (p p' : Clocked Traffic Pace)
      (es : List (ℤ × TrafficEvent)), p.log = [] → exec (pacedStep lib cfg i) p es = some p' →
      Justified (Paused false) p'.log := by
  intro h
  have hruns : (exec (pacedStep sampleGwlib { dndcheckFlag := false } 0) samplePaced
      (sampleThrottled 0x08 ++ [(1003, .system (.io 0 (.send true 1003)))])).map (·.log) =
        some ([.opened, .written 1001, .written 1001, .throttled 1002] ++ [.written 1003]) := by
    decide +kernel
  obtain ⟨p', hrun, hlog⟩ := Option.map_eq_some_iff.mp hruns
  have hpaused := h _ _ _ _ _ _ rfl hrun _ _ _ hlog
  exact absurd (hpaused 1002 (by decide)) (by decide)

end SmppServer.SmppSmsc
