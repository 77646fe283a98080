import SmppServer.Smsc.Moves
import SmppServer.Machinery.Ledger

/-!
# Smsc/Census — counting the copies of a message

How often an id occurs among the queued messages of a connection, its unanswered ones, the messages
that wait for the router, the records and the destroyed messages — before and after a step of the
transmitting thread.

* `Moves.count_places` — a step that loses nothing keeps the number of places.
* `Moves.count_records` — a step that neither destroys without a record nor records without destroying
  makes as many records as it destroys messages, and no message becomes two.
-/

namespace SmppServer.SmppSmsc

open Machinery
open scoped List

section Counts

variable {lib : Gwlib} {cfg : ClientCfg} {ev : IoEvent} {q q' : Queues} {c c' : SmscConn} {key : ℤ}
  {smppMsg : SmppMsg} {msg : Msg}

theorem accountMsgId_of_transmitted {msg' : Msg}
    (h : ∃ packed, msg' = (msg.setPdu packed).transmitted) : msg'.accountMsgId = msg.accountMsgId := by
  obtain ⟨packed, rfl⟩ := h
  rfl

theorem accountMsgId_of_handedBack {msg' : Msg} (h : ∃ now ∈ ev.now?, msg' = handedBack now c msg) :
    msg'.accountMsgId = msg.accountMsgId := by
  obtain ⟨now, -, rfl⟩ := h
  rfl

theorem count_queuedIds_cons (h : c.data.msgsToSend = msg :: c'.data.msgsToSend) (x : Octstr) :
    c.queuedIds.count x = c'.queuedIds.count x + [msg.accountMsgId].count x := by
  simp [SmscConn.queuedIds, h, List.count_cons]

theorem queuedIds_congr (h : c'.data.msgsToSend = c.data.msgsToSend) : c'.queuedIds = c.queuedIds := by
  rw [SmscConn.queuedIds, SmscConn.queuedIds, h]

theorem sentIds_congr (h : c'.data.sentMsgs = c.data.sentMsgs) : c'.sentIds = c.sentIds := by
  rw [SmscConn.sentIds, SmscConn.sentIds, h]

theorem count_sentIds_erase (hkey : c.data.sentMsgs.lookup key = some smppMsg)
    (h : c'.data.sentMsgs = c.data.sentMsgs.erase key) (x : Octstr) :
    c.sentIds.count x = c'.sentIds.count x + [smppMsg.msg.accountMsgId].count x := by
  have hperm : c.sentIds ~ smppMsg.msg.accountMsgId :: c'.sentIds := by
    rw [SmscConn.sentIds, SmscConn.sentIds, h]
    exact (entries_perm_of_lookup hkey).map _
  rw [hperm.count_eq, List.count_cons, List.count_singleton]

theorem count_sentIds_insert (hkey : key ∉ c.data.sentMsgs)
    (h : c'.data.sentMsgs = c.data.sentMsgs.insert key smppMsg) (x : Octstr) :
    c'.sentIds.count x = c.sentIds.count x + [smppMsg.msg.accountMsgId].count x := by
  have hlist : c'.sentIds = smppMsg.msg.accountMsgId :: c.sentIds := by
    rw [SmscConn.sentIds, SmscConn.sentIds, h, AList.entries_insert_of_notMem hkey, List.map_cons]
  rw [hlist, List.count_cons, List.count_singleton]

/-- A message put under a number already in use takes the place of another. -/
theorem count_sentIds_insert_le (h : c'.data.sentMsgs = c.data.sentMsgs.insert key smppMsg)
    (x : Octstr) :
    c'.sentIds.count x ≤ c.sentIds.count x + [smppMsg.msg.accountMsgId].count x := by
  have hsub : (c.data.sentMsgs.entries.kerase key).Sublist c.data.sentMsgs.entries :=
    List.kerase_sublist _ _
  have hlist : c'.sentIds = smppMsg.msg.accountMsgId ::
      (c.data.sentMsgs.entries.kerase key).map fun e => e.2.msg.accountMsgId := by
    rw [SmscConn.sentIds, h, AList.entries_insert, List.map_cons]
  rw [hlist, List.count_cons, List.count_singleton]
  exact Nat.add_le_add_right ((hsub.map _).count_le x) _

section Kept

variable (lib : Gwlib) (cfg : ClientCfg) (c : SmscConn)

/-- What is taken off the queue is written, under a number that is not in use. -/
def SendKept : IoEvent → Prop
  | .send written _ => c.CanSend → ∀ msg ∈ c.data.msgsToSend.head?,
      Transmitted lib cfg written c.extractFirst msg ∧
        ∀ pdu ∈ transmission lib cfg c.extractFirst msg,
          pdu.submitSm.sequenceNumber ∉ c.data.sentMsgs
  | _ => True

instance : ∀ ev, Decidable (SendKept lib cfg c ev)
  | .send written _ => inferInstanceAs (Decidable (c.CanSend → ∀ msg ∈ c.data.msgsToSend.head?,
      Transmitted lib cfg written c.extractFirst msg ∧
        ∀ pdu ∈ transmission lib cfg c.extractFirst msg,
          pdu.submitSm.sequenceNumber ∉ c.data.sentMsgs))
  | .enter _ _ | .connWait _ _ | .unbindWait _ _ _ | .readPdu _ _ | .readNothing | .readError
  | .checkTimes _ _ | .cleanup _ | .disconnect | .flush _ _ | .retry => .isTrue trivial

/-- A message that is flushed has a PDU. -/
def FlushKept : Pc → Prop
  | .flushQueue _ => ∀ msg ∈ c.data.msgsToSend.head?, msg.smInfo.pdu ≠ none
  | _ => True

instance : ∀ pc, Decidable (FlushKept c pc)
  | .flushQueue _ => inferInstanceAs
      (Decidable (∀ msg ∈ c.data.msgsToSend.head?, msg.smInfo.pdu ≠ none))
  | .top | .waiting | .unbinding | .reading | .idle | .cleaning _ _ | .sendInner | .sendOuter
  | .down _ | .flushSent _ _ | .after | .ended => .isTrue trivial

/-- No response with a temporary status, and no `generic_nack` with another one, answers a message of
the connection. -/
def PduKept : Option Pdu → Prop
  | some (.submitSmResp key status _) => temporary status = true → key ∉ c.data.sentMsgs
  | some (.genericNack key status) => temporary status = false → key ∉ c.data.sentMsgs
  | _ => True

instance : ∀ pdu, Decidable (PduKept c pdu)
  | some (.submitSmResp key status _) =>
    inferInstanceAs (Decidable (temporary status = true → key ∉ c.data.sentMsgs))
  | some (.genericNack key status) =>
    inferInstanceAs (Decidable (temporary status = false → key ∉ c.data.sentMsgs))
  | none | some (.bindTransmitterResp _) | some (.bindTransceiverResp _)
  | some (.bindReceiverResp _) | some .unbind | some .unbindResp | some .other => .isTrue trivial

/-- **A step that loses nothing**: what is sent is written, what is flushed has a PDU, and no answer
makes the record and the message's fate disagree. -/
structure KeepsAll (ev : IoEvent) : Prop where
  send : SendKept lib cfg c ev
  flush : FlushKept c c.thread.pc
  pdu : PduKept c ev.pdu?

instance (ev : IoEvent) : Decidable (KeepsAll lib cfg c ev) :=
  decidable_of_iff (SendKept lib cfg c ev ∧ FlushKept c c.thread.pc ∧ PduKept c ev.pdu?)
    ⟨fun ⟨hsend, hflush, hpdu⟩ => ⟨hsend, hflush, hpdu⟩, fun h => ⟨h.send, h.flush, h.pdu⟩⟩

end Kept

/-- **A step that loses nothing keeps the number of places of every id.** -/
theorem Moves.count_places (h : Moves lib cfg ev q c q' c') (hk : KeepsAll lib cfg c ev)
    (x : Octstr) :
    c'.queuedIds.count x + c'.sentIds.count x + q'.outgoingIds.count x + q'.recordIds.count x =
      c.queuedIds.count x + c.sentIds.count x + q.outgoingIds.count x + q.recordIds.count x := by
  obtain ⟨hsendKept, hflushKept, hpduKept⟩ := hk
  cases h with
  | keep hmsgs hsent => rw [queuedIds_congr hmsgs, sentIds_congr hsent]
  | drop hev hroom hmsgs hsent hnot =>
    rw [hev] at hsendKept
    exact absurd (hsendKept hroom _ (by rw [hmsgs]; rfl)).1 hnot
  | transmit hev hroom hmsgs hpdu hwritten hsent htry =>
    rw [hev] at hsendKept
    have hid := accountMsgId_of_transmitted htry
    have hfresh := (hsendKept hroom _ (by rw [hmsgs]; rfl)).2 _ hpdu
    rw [count_sentIds_insert hfresh hsent, count_queuedIds_cons hmsgs, hid]
    omega
  | flushDrop hpc hmsgs hsent hpdu =>
    rw [hpc] at hflushKept
    exact absurd hpdu (hflushKept _ (by rw [hmsgs]; rfl))
  | flushQueued hmsgs hsent hback =>
    have hid := accountMsgId_of_handedBack hback
    rw [count_queuedIds_cons hmsgs, sentIds_congr hsent, outgoingIds_produceOutgoingMsg,
      recordIds_produceOutgoingMsg, List.count_append, hid]
    omega
  | giveBack hmsgs hkey hsent hback =>
    have hid := accountMsgId_of_handedBack hback
    rw [queuedIds_congr hmsgs, count_sentIds_erase hkey hsent, outgoingIds_produceOutgoingMsg,
      recordIds_produceOutgoingMsg, List.count_append, hid]
    omega
  | nack hev hst _ hkey _ =>
    rw [hev] at hpduKept
    exact absurd (mem_of_lookup_eq_some hkey) (hpduKept hst)
  | answer hev hst hmsgs hkey hsent hrecord hq =>
    subst hq
    rw [queuedIds_congr hmsgs, count_sentIds_erase hkey hsent]
    simp only [Queues.outgoingIds, Queues.recordIds, List.map_append, List.count_append, List.map_cons,
      List.map_nil, hrecord]
    omega
  | answerRetry hev hst _ hkey _ _ _ =>
    rw [hev] at hpduKept
    exact absurd (mem_of_lookup_eq_some hkey) (hpduKept hst)

/-- A step in which no answer makes record and fate disagree: a message may get lost, but never
doubled, and as many messages are destroyed as are recorded. -/
theorem Moves.count_records (h : Moves lib cfg ev q c q' c') (hk : PduKept c ev.pdu?) (x : Octstr) :
    c'.queuedIds.count x + c'.sentIds.count x + q'.outgoingIds.count x + q'.destroyed.count x ≤
        c.queuedIds.count x + c.sentIds.count x + q.outgoingIds.count x + q.destroyed.count x ∧
      q'.recordIds.count x + q.destroyed.count x = q.recordIds.count x + q'.destroyed.count x := by
  cases h with
  | keep hmsgs hsent =>
    rw [queuedIds_congr hmsgs, sentIds_congr hsent]
    exact ⟨le_rfl, rfl⟩
  | drop _ _ hmsgs hsent _ | flushDrop _ hmsgs hsent _ =>
    rw [count_queuedIds_cons hmsgs, sentIds_congr hsent]
    exact ⟨by omega, rfl⟩
  | transmit _ _ hmsgs _ _ hsent htry =>
    have hid := accountMsgId_of_transmitted htry
    have hle := count_sentIds_insert_le hsent x
    rw [count_queuedIds_cons hmsgs, ← hid]
    exact ⟨by omega, rfl⟩
  | flushQueued hmsgs hsent hback =>
    have hid := accountMsgId_of_handedBack hback
    rw [count_queuedIds_cons hmsgs, sentIds_congr hsent, outgoingIds_produceOutgoingMsg,
      recordIds_produceOutgoingMsg, produceOutgoingMsg_destroyed, List.count_append, hid]
    exact ⟨by omega, rfl⟩
  | giveBack hmsgs hkey hsent hback =>
    have hid := accountMsgId_of_handedBack hback
    rw [queuedIds_congr hmsgs, count_sentIds_erase hkey hsent, outgoingIds_produceOutgoingMsg,
      recordIds_produceOutgoingMsg, produceOutgoingMsg_destroyed, List.count_append, hid]
    exact ⟨by omega, rfl⟩
  | nack hev hst _ hkey _ =>
    rw [hev] at hk
    exact absurd (mem_of_lookup_eq_some hkey) (hk hst)
  | answer _ _ hmsgs hkey hsent hrecord hq =>
    subst hq
    rw [queuedIds_congr hmsgs, count_sentIds_erase hkey hsent]
    simp only [Queues.outgoingIds, Queues.recordIds, List.map_append, List.count_append, List.map_cons,
      List.map_nil, hrecord]
    omega
  | answerRetry hev hst _ hkey _ _ _ =>
    rw [hev] at hk
    exact absurd (mem_of_lookup_eq_some hkey) (hk hst)

end Counts

end SmppServer.SmppSmsc
