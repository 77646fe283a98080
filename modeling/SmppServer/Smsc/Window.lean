import SmppServer.Smsc.Receiver
import SmppServer.Smsc.Transmit

/-!
# Smsc/Window — the window of unanswered submits

`io_thread` counts its unanswered submits in a local variable, `pending_submits`, and keeps them in
`sent_msgs`.  The count and the map are changed at six places; here they are shown to stay in step,
over every reconnect, beside the receiving thread of the same connection and whatever other threads
append to the queue.

* `Link.windowed` — in the connection loop the count is `-1` before the bind has succeeded, and the
  number of entries of `sent_msgs` afterwards, within `max_pending_submits`.
-/

namespace SmppServer.SmppSmsc

open Machinery
open scoped List

/-! ## The runs -/

/-- A connection, the queues, its receiving thread if it has a receive port, and whether the bind on
the present connection of the transmitting thread has succeeded. -/
structure Link where
  queues : Queues := {}
  conn : SmscConn
  receiver : Option IoThread := none
  bound : Bool := false
  deriving DecidableEq

/-- A step of one of the threads of the connection, or another thread that appends to its queue or
shuts it down. -/
inductive LinkEvent
  | io (ev : IoEvent)
  | receive (ev : IoEvent)
  | smscconnSend (msg : Msg)
  | shutdownCb
  deriving DecidableEq

/-- The bind succeeds with this PDU. -/
def Pdu.binds : Pdu → Bool
  | .bindTransmitterResp status | .bindTransceiverResp status => status = smppEsmeRok
  | _ => false

/-- The number of the submit that this PDU answers. -/
def Pdu.answers : Pdu → Option ℤ
  | .submitSmResp key _ _ | .genericNack key _ => some key
  | _ => none

/-- Whether the bind has succeeded behind an event: a new connection is not bound. -/
def boundAfter (bound : Bool) : IoEvent → Bool
  | .enter _ _ => false
  | ev => bound || ev.pdu?.any Pdu.binds

section Steps

variable (lib : Gwlib) (cfg : ClientCfg)

/-- **One step of the threads of a connection.** -/
def linkStep (l : Link) : LinkEvent → Option Link
  | .io ev => (ioThread lib cfg (l.queues, l.conn) ev).map fun r =>
      { l with queues := r.1, conn := r.2, bound := boundAfter l.bound ev }
  | .receive ev =>
    match l.receiver with
    | none => none
    | some rx => (rxThread lib cfg (l.queues, l.conn.withThread rx) ev).map fun r =>
        { l with
          queues := r.1
          conn := r.2.withThread l.conn.thread
          receiver := some r.2.thread }
  | .smscconnSend msg => (smscconnSend l.conn msg).map fun conn => { l with conn := conn }
  | .shutdownCb =>
    some { l with
      conn := { l.conn with
        whyKilled := .killedShutdown
        data := { l.conn.data with quitting := true } } }

/-- The PDU that `send_messages` is about to send is a `submit_sm`. -/
def SendsSubmitSm (conn : SmscConn) : Prop :=
  ∀ msg ∈ conn.data.msgsToSend.head?,
    ∀ pdu ∈ (withDndPdu lib cfg conn.extractFirst msg).2.smInfo.pdu.bind lib.smppPduUnpack,
      pdu.isSubmitSm = true

instance (conn : SmscConn) : Decidable (SendsSubmitSm lib cfg conn) :=
  inferInstanceAs (Decidable (∀ _ ∈ _, _))

/-- **How the SMSC and the queues behave**: a connection gets at most one successful response to its
bind, submits are not answered on the receiving connection, and what is sent are submits. -/
def WellBehaved (l : Link) : LinkEvent → Prop
  | .io (.send _ _) => SendsSubmitSm lib cfg l.conn
  | .io ev => ev.pdu?.any Pdu.binds = true → l.bound = false
  | .receive ev => ∀ key ∈ ev.pdu?.bind Pdu.answers, key ∉ l.conn.data.sentMsgs
  | _ => True

instance (l : Link) : ∀ e, Decidable (WellBehaved lib cfg l e)
  | .io (.send _ _) => inferInstanceAs (Decidable (SendsSubmitSm lib cfg l.conn))
  | .io (.readPdu _ _) | .io (.unbindWait _ _ _) | .io (.enter _ _) | .io (.connWait _ _)
  | .io .readNothing | .io .readError | .io (.checkTimes _ _) | .io (.cleanup _) | .io .disconnect
  | .io (.flush _ _) | .io .retry => inferInstanceAs (Decidable (_ → _))
  | .receive _ => inferInstanceAs (Decidable (∀ _ ∈ _, _))
  | .smscconnSend _ | .shutdownCb => .isTrue trivial

end Steps

/-- A step of the receiving thread. -/
theorem linkStep_receive {lib : Gwlib} {cfg : ClientCfg} {l l' : Link} {ev : IoEvent}
    (h : linkStep lib cfg l (.receive ev) = some l') :
    ∃ rx q conn, l.receiver = some rx ∧
      rxThread lib cfg (l.queues, l.conn.withThread rx) ev = some (q, conn) ∧
      l' = { l with
        queues := q
        conn := conn.withThread l.conn.thread
        receiver := some conn.thread } := by
  rw [linkStep] at h
  split at h
  · exact absurd h (by simp)
  · rename_i rx hreceiver
    obtain ⟨⟨q, conn⟩, hrx, rfl⟩ := Option.map_eq_some_iff.mp h
    exact ⟨rx, q, conn, hreceiver, hrx, rfl⟩

/-! ## The window

The window is a relation between the local variable and the map; what a step may do to both is one of four
changes, each of which keeps it. -/

/-- The places of the connection loop. -/
def Pc.inLoop : Pc → Bool
  | .waiting | .unbinding | .reading | .idle | .cleaning _ _ | .sendInner | .sendOuter => true
  | _ => false

/-- **The count is in step with the map.** -/
def SmscConn.Window (conn : SmscConn) (bound : Bool) : Prop :=
  if bound = true then
    conn.thread.pendingSubmits = conn.data.sentMsgs.entries.length ∧
      0 ≤ conn.thread.pendingSubmits ∧ conn.thread.pendingSubmits ≤ conn.data.maxPendingSubmits
  else conn.thread.pendingSubmits = -1 ∧ conn.data.sentMsgs = ∅

/-- Numbers in use were drawn before. -/
def SmscConn.Drawn (conn : SmscConn) : Prop :=
  ∀ key ∈ conn.data.sentMsgs, key < conn.data.messageIdCounter

/-- A step changed neither the count nor the map; numbers may have been drawn. -/
structure SmscConn.SameCount (c c' : SmscConn) : Prop where
  pending : c'.thread.pendingSubmits = c.thread.pendingSubmits
  sent : c'.data.sentMsgs = c.data.sentMsgs
  room : c'.data.maxPendingSubmits = c.data.maxPendingSubmits
  counter : c.data.messageIdCounter ≤ c'.data.messageIdCounter

/-- **What a step in the connection loop may do to the count**: nothing, answer a submit, send one, or
start counting with the bind. -/
inductive SmscConn.Counts (c c' : SmscConn) : Prop
  | same (h : c.SameCount c')
  | answered {key : ℤ} (hkey : key ∈ c.data.sentMsgs)
      (hpending : c'.thread.pendingSubmits = c.thread.pendingSubmits - 1)
      (hsent : c'.data.sentMsgs = c.data.sentMsgs.erase key)
      (hroom : c'.data.maxPendingSubmits = c.data.maxPendingSubmits)
      (hcounter : c.data.messageIdCounter ≤ c'.data.messageIdCounter)
  | sent {key : ℤ} {smppMsg : SmppMsg} (hcan : c.CanSend)
      (hkey : (c.data.messageIdCounter : ℤ) ≤ key) (hkey' : key < c'.data.messageIdCounter)
      (hpending : c'.thread.pendingSubmits = c.thread.pendingSubmits + 1)
      (hsent : c'.data.sentMsgs = c.data.sentMsgs.insert key smppMsg)
      (hroom : c'.data.maxPendingSubmits = c.data.maxPendingSubmits)

section Counts

variable {lib : Gwlib} {cfg : ClientCfg} {now : ℤ} {q q' : Queues} {c c' c'' : SmscConn} {msg : Msg}
  {ev : IoEvent} {bound : Bool}

theorem SmscConn.SameCount.refl (c : SmscConn) : c.SameCount c := ⟨rfl, rfl, rfl, le_rfl⟩

theorem SmscConn.SameCount.trans (h : c.SameCount c') (h' : c'.SameCount c'') : c.SameCount c'' :=
  ⟨h'.pending.trans h.pending, h'.sent.trans h.sent, h'.room.trans h.room,
    Nat.le_trans h.counter h'.counter⟩

/-- Steps that do not touch the count may follow one that does. -/
theorem SmscConn.Counts.then (h : c.Counts c') (h' : c'.SameCount c'') : c.Counts c'' := by
  cases h with
  | same hsame => exact .same (hsame.trans h')
  | answered hkey hpending hsent hroom hcounter =>
    exact .answered hkey (h'.pending.trans hpending) (h'.sent.trans hsent) (h'.room.trans hroom)
      (Nat.le_trans hcounter h'.counter)
  | sent hcan hkey hkey' hpending hsent hroom =>
    have hle : (c'.data.messageIdCounter : ℤ) ≤ c''.data.messageIdCounter := by exact_mod_cast h'.counter
    exact .sent hcan hkey (Int.lt_of_lt_of_le hkey' hle) (h'.pending.trans hpending) (h'.sent.trans hsent)
      (h'.room.trans hroom)

theorem length_erase {m : AList fun _ : ℤ => SmppMsg} {key : ℤ} (h : key ∈ m) :
    m.entries.length = (m.erase key).entries.length + 1 := by
  obtain ⟨v, hv⟩ := Option.isSome_iff_exists.mp (AList.lookup_isSome.mpr h)
  exact (entries_perm_of_lookup hv).length_eq

theorem length_insert {m : AList fun _ : ℤ => SmppMsg} {key : ℤ} (h : key ∉ m) (v : SmppMsg) :
    (m.insert key v).entries.length = m.entries.length + 1 := by
  rw [AList.entries_insert_of_notMem h, List.length_cons]

/-- Numbers in use stay below the counter. -/
theorem SmscConn.Counts.drawn (h : c.Counts c') (hd : c.Drawn) : c'.Drawn := by
  have hmono : c.data.messageIdCounter ≤ c'.data.messageIdCounter → ∀ key ∈ c.data.sentMsgs,
      key < (c'.data.messageIdCounter : ℤ) := fun hle key hkey => by
    have hlt := hd key hkey
    omega
  intro key hkey
  cases h with
  | same hsame =>
    rw [hsame.sent] at hkey
    exact hmono hsame.counter key hkey
  | answered _ _ hsent _ hcounter =>
    rw [hsent] at hkey
    exact hmono hcounter key (AList.mem_erase.mp hkey).2
  | sent _ hle hlt _ hsent _ =>
    rw [hsent, AList.mem_insert] at hkey
    obtain rfl | hold := hkey
    · exact hlt
    · exact hmono (by omega) key hold

/-- **The window is kept by every change of the count.** -/
theorem SmscConn.Counts.window (h : c.Counts c') (hd : c.Drawn) (hw : c.Window bound) :
    c'.Window bound := by
  cases h with
  | same hsame => rwa [Window, hsame.pending, hsame.sent, hsame.room]
  | @answered key hkey hpending hsent hroom _ =>
    cases bound with
    | false =>
      rw [Window, if_neg (by simp)] at hw
      rw [hw.2] at hkey
      exact absurd hkey (AList.notMem_empty key)
    | true =>
      rw [Window, if_pos rfl] at hw ⊢
      have hlen := length_erase hkey
      rw [hpending, hsent, hroom]
      omega
  | @sent key smppMsg hcan hle _ hpending hsent hroom =>
    cases bound with
    | false =>
      rw [Window, if_neg (by simp)] at hw
      exact absurd hw.1 hcan.1
    | true =>
      rw [Window, if_pos rfl] at hw ⊢
      have hfresh : key ∉ c.data.sentMsgs := fun hmem => absurd (hd key hmem) (by omega)
      have hlt := hcan.2
      rw [hpending, hsent, hroom, length_insert hfresh]
      push_cast
      omega

/-! ## The functions of the thread

Which of the changes each function makes.  A response counts once because its key is removed from the map with
it. -/

theorem goto_same (c : SmscConn) (pc : Pc) : c.SameCount (c.goto pc) := ⟨rfl, rfl, rfl, le_rfl⟩

theorem drawSequenceNumber_same (c : SmscConn) : c.SameCount c.drawSequenceNumber :=
  ⟨rfl, rfl, rfl, Nat.le_succ _⟩

theorem sendEnquireLink_sameCount (now : ℤ) (c : SmscConn) : c.SameCount (sendEnquireLink now c) := by
  unfold sendEnquireLink
  split
  · exact .refl c
  · exact ⟨rfl, rfl, rfl, Nat.le_succ _⟩

theorem gotoSend_sameCount (now : ℤ) (c : SmscConn) (send skip : Pc) :
    c.SameCount (gotoSend now c send skip) := by
  unfold gotoSend
  split <;> exact ⟨rfl, rfl, rfl, le_rfl⟩

/-- A response to a submit. -/
theorem handleSubmitSmResp_counts {key status : ℤ} {messageId : Option Octstr}
    (h : handleSubmitSmResp lib cfg now q c key status messageId = some (q', c')) : c.Counts c' := by
  unfold handleSubmitSmResp at h
  split at h
  · rw [Option.some.injEq, Prod.mk.injEq] at h
    exact h.2 ▸ .same (.refl c)
  · rename_i hkey
    have hmem := mem_of_lookup_eq_some hkey
    simp only at h
    split at h
    · split at h
      · cases hst : temporary status with
        | true =>
          rw [smscconnSendFailed_of_retries hst, Option.some.injEq, Prod.mk.injEq] at h
          exact h.2 ▸ .answered hmem rfl rfl rfl le_rfl
        | false =>
          rw [smscconnSendFailed_of_not_retries hst, Option.some.injEq, Prod.mk.injEq] at h
          exact h.2 ▸ .answered hmem rfl rfl rfl le_rfl
      · rw [Option.some.injEq, Prod.mk.injEq] at h
        exact h.2 ▸ .answered hmem rfl rfl rfl le_rfl
    · exact absurd h (by simp)

/-- A `generic_nack`. -/
theorem handleGenericNack_counts {key status : ℤ}
    (h : handleGenericNack cfg now q c key status = (q', c')) : c.Counts c' := by
  unfold handleGenericNack at h
  split at h
  · rw [Prod.mk.injEq] at h
    exact h.2 ▸ .same (.refl c)
  · rename_i hkey
    have hmem := mem_of_lookup_eq_some hkey
    simp only at h
    cases hst : temporary status with
    | true =>
      rw [smscconnSendFailed_of_retries hst, Prod.mk.injEq] at h
      exact h.2 ▸ .answered hmem rfl rfl rfl le_rfl
    | false =>
      rw [smscconnSendFailed_of_not_retries hst, Prod.mk.injEq] at h
      exact h.2 ▸ .answered hmem rfl rfl rfl le_rfl

/-- A PDU that does not bind. -/
theorem handlePdu_counts {pdu : Pdu} (hbinds : pdu.binds = false)
    (h : handlePdu lib cfg now q c pdu = some (q', c')) : c.Counts c' := by
  cases pdu with
  | submitSmResp key status messageId => exact handleSubmitSmResp_counts h
  | genericNack key status => exact handleGenericNack_counts (Option.some.inj h)
  | bindTransmitterResp status | bindTransceiverResp status =>
    rw [handlePdu, Option.some.injEq, Prod.mk.injEq] at h
    have hne : status ≠ smppEsmeRok := by simpa [Pdu.binds] using hbinds
    rw [← h.2, handleBindResp, if_pos hne]
    split <;> exact .same ⟨rfl, rfl, rfl, le_rfl⟩
  | bindReceiverResp status =>
    rw [handlePdu, Option.some.injEq, Prod.mk.injEq] at h
    rw [← h.2, handleBindReceiverResp]
    split_ifs <;> exact .same ⟨rfl, rfl, rfl, le_rfl⟩
  | unbind | unbindResp | other =>
    rw [handlePdu, Option.some.injEq, Prod.mk.injEq] at h
    exact h.2 ▸ .same ⟨rfl, rfl, rfl, le_rfl⟩

/-- The bind has succeeded: counting starts, and the map is left as it is. -/
structure SmscConn.Opens (c c' : SmscConn) : Prop where
  pending : c'.thread.pendingSubmits = 0
  sent : c'.data.sentMsgs = c.data.sentMsgs
  room : c'.data.maxPendingSubmits = c.data.maxPendingSubmits
  counter : c.data.messageIdCounter ≤ c'.data.messageIdCounter

theorem SmscConn.Opens.then (h : c.Opens c') (h' : c'.SameCount c'') : c.Opens c'' :=
  ⟨h'.pending.trans h.pending, h'.sent.trans h.sent, h'.room.trans h.room,
    Nat.le_trans h.counter h'.counter⟩

theorem handlePdu_opens {pdu : Pdu} (hbinds : pdu.binds = true)
    (h : handlePdu lib cfg now q c pdu = some (q', c')) : c.Opens c' := by
  cases pdu with
  | bindTransmitterResp status | bindTransceiverResp status =>
    rw [handlePdu, Option.some.injEq, Prod.mk.injEq] at h
    have hok : ¬ status ≠ smppEsmeRok := by simpa [Pdu.binds] using hbinds
    rw [← h.2, handleBindResp, if_neg hok]
    exact ⟨rfl, rfl, rfl, le_rfl⟩
  | submitSmResp _ _ _ | genericNack _ _ | bindReceiverResp _ | unbind | unbindResp | other =>
    exact absurd hbinds Bool.false_ne_true

/-! ## Sending

A message is put under the number drawn for it, which is in use nowhere else: the map grows with the count. -/

theorem withDndPdu_sameCount (lib : Gwlib) (cfg : ClientCfg) (c : SmscConn) (msg : Msg) :
    c.SameCount (withDndPdu lib cfg c msg).1 := by
  unfold withDndPdu
  split
  · exact drawSequenceNumber_same c
  · exact .refl c

/-- A `submit_sm` is sent under the number that is drawn for it. -/
theorem adaptPdu_draws (lib : Gwlib) (cfg : ClientCfg) (c : SmscConn) (msg : Msg) {pdu : SmppPdu}
    (hsubmit : pdu.isSubmitSm = true) :
    c.SameCount (adaptPdu lib cfg c msg pdu).1 ∧
      (adaptPdu lib cfg c msg pdu).2.2.submitSm.sequenceNumber = c.data.messageIdCounter ∧
      (adaptPdu lib cfg c msg pdu).1.data.messageIdCounter = c.data.messageIdCounter + 1 := by
  rw [adaptPdu, if_pos hsubmit]
  exact ⟨drawSequenceNumber_same c, rfl, rfl⟩

/-- A message taken off the queue. -/
theorem sendMessage_counts {written again : Bool} (hcan : c.CanSend)
    (hsubmit : ∀ pdu ∈ (withDndPdu lib cfg c msg).2.smInfo.pdu.bind lib.smppPduUnpack,
      pdu.isSubmitSm = true)
    (h : sendMessage lib cfg written now c msg = some (c', again)) : c.Counts c' := by
  have hdnd := withDndPdu_sameCount lib cfg c msg
  unfold sendMessage at h
  simp only at h
  split at h
  · rw [Option.some.injEq, Prod.mk.injEq] at h
    exact h.1 ▸ .same hdnd
  · rename_i packed hpacked
    split at h
    · exact absurd h (by simp)
    · rename_i pdu hunpack
      have hsm : pdu.isSubmitSm = true := hsubmit pdu (by simp [hpacked, hunpack])
      obtain ⟨hsame, hnumber, hcounter⟩ := adaptPdu_draws lib cfg (withDndPdu lib cfg c msg).1
        (withDndPdu lib cfg c msg).2 hsm
      generalize adaptPdu lib cfg _ _ pdu = r at h hsame hnumber hcounter
      obtain ⟨c₂, msg₂, pdu₂⟩ := r
      have hboth := hdnd.trans hsame
      split at h
      · rw [Option.some.injEq, Prod.mk.injEq] at h
        have hsent : c'.data.sentMsgs =
            c.data.sentMsgs.insert pdu₂.submitSm.sequenceNumber ⟨now, msg₂.transmitted⟩ := by
          rw [← h.1, ← hboth.sent]
          rfl
        refine .sent hcan ?_ ?_ ?_ hsent ?_
        · rw [hnumber]
          exact_mod_cast hdnd.counter
        · have hdrawn : c'.data.messageIdCounter = (withDndPdu lib cfg c msg).1.data.messageIdCounter + 1 := by
            rw [← h.1]
            exact hcounter
          rw [hnumber, hdrawn]
          omega
        · rw [← h.1, ← hboth.pending]
          rfl
        · rw [← h.1]
          exact hboth.room
      · rw [Option.some.injEq, Prod.mk.injEq] at h
        exact h.1 ▸ .same hboth

/-- One round of `send_messages`. -/
theorem ioSend_counts {back : Pc} {written : Bool} (hsubmit : SendsSubmitSm lib cfg c)
    (h : ioSend lib cfg back written now q c = some (q', c')) : c.Counts c' := by
  obtain ⟨-, ⟨-, rfl⟩ | ⟨msg, rest, c₁, again, hcan, hmsgs, hsend, rfl⟩⟩ := ioSend_eq_some h
  · exact .same (goto_same c back)
  · have hhead : msg ∈ c.data.msgsToSend.head? := by rw [hmsgs]; rfl
    have hcounts : c.Counts c₁ := by
      cases sendMessage_counts (c := c.extractFirst) hcan (hsubmit msg hhead) hsend with
      | same hsame => exact .same ⟨hsame.pending, hsame.sent, hsame.room, hsame.counter⟩
      | answered hkey hpending hsent hroom hcounter =>
        exact .answered hkey hpending hsent hroom hcounter
      | sent hcan hkey hkey' hpending hsent hroom =>
        exact .sent hcan hkey hkey' hpending hsent hroom
    cases again with
    | true => exact hcounts
    | false => exact hcounts.then (goto_same c₁ back)

/-! ## The steps of the thread

A step in the loop makes one of the changes; outside the loop the count is of no use, and the map only shrinks. -/

/-- **What a step does to count and map**: it opens a connection, stays in the connection loop, binds,
or ends outside the loop with nothing added to the map. -/
inductive Paces (ev : IoEvent) (c c' : SmscConn) : Prop
  | enters {opened : Bool} {now : ℤ} (hev : ev = .enter opened now) (hpc : c.thread.pc = .top)
      (hpending : c'.thread.pc.inLoop = true → c'.thread.pendingSubmits = -1)
      (hsent : c'.data.sentMsgs = c.data.sentMsgs)
      (hroom : c'.data.maxPendingSubmits = c.data.maxPendingSubmits)
      (hcounter : c.data.messageIdCounter ≤ c'.data.messageIdCounter)
  | counts (hpc : c.thread.pc.inLoop = true) (hev : ∀ bound, boundAfter bound ev = bound)
      (h : c.Counts c')
  | opens (hpc : c.thread.pc.inLoop = true) (hev : ev.pdu?.any Pdu.binds = true)
      (hafter : ∀ bound, boundAfter bound ev = true) (h : c.Opens c')
  | leaves (hpc : c'.thread.pc.inLoop = false)
      (hsent : ∀ key ∈ c'.data.sentMsgs, key ∈ c.data.sentMsgs)
      (hroom : c'.data.maxPendingSubmits = c.data.maxPendingSubmits)
      (hcounter : c.data.messageIdCounter ≤ c'.data.messageIdCounter)

/-- An event without a PDU binds nothing. -/
theorem boundAfter_eq_self (hpdu : ev.pdu? = none) (henter : ∀ opened now, ev ≠ .enter opened now)
    (bound : Bool) : boundAfter bound ev = bound := by
  cases ev with
  | enter opened now => exact absurd rfl (henter opened now)
  | readPdu _ _ | unbindWait _ _ _ | connWait _ _ | readNothing | readError | checkTimes _ _
  | cleanup _ | send _ _ | disconnect | flush _ _ | retry => simp [boundAfter, hpdu]

/-- A PDU handled in the loop, and what follows it without touching the count. -/
theorem paces_of_handlePdu {pdu : Pdu} (hpc : c.thread.pc.inLoop = true) (hpdu : ev.pdu? = some pdu)
    (h : handlePdu lib cfg now q c pdu = some (q', c')) (hthen : c'.SameCount c'') :
    Paces ev c c'' := by
  have hafter : ∀ bound, boundAfter bound ev = (bound || pdu.binds) := by
    intro bound
    cases ev with
    | readPdu _ _ | unbindWait _ _ _ => simp only [boundAfter, hpdu, Option.any_some]
    | enter _ _ | connWait _ _ | readNothing | readError | checkTimes _ _ | cleanup _ | send _ _
    | disconnect | flush _ _ | retry => simp [IoEvent.pdu?] at hpdu
  cases hbinds : pdu.binds with
  | true =>
    refine .opens hpc (by rw [hpdu]; exact hbinds) (fun bound => ?_)
      ((handlePdu_opens hbinds h).then hthen)
    rw [hafter, hbinds, Bool.or_true]
  | false =>
    refine .counts hpc (fun bound => ?_) ((handlePdu_counts hbinds h).then hthen)
    rw [hafter, hbinds, Bool.or_false]

theorem ioEnter_paces (opened : Bool) (now : ℤ) (q : Queues) (hpc : c.thread.pc = .top) :
    Paces (.enter opened now) c (ioEnter opened now q c).2 := by
  unfold ioEnter
  split
  · exact .enters rfl hpc (fun hloop => absurd hloop Bool.false_ne_true) rfl rfl le_rfl
  · cases opened with
    | true => exact .enters rfl hpc (fun _ => rfl) rfl rfl (Nat.le_succ _)
    | false => exact .enters rfl hpc (fun _ => rfl) rfl rfl le_rfl

theorem ioConnWait_same_count (ok : Bool) (now : ℤ) (q : Queues) (c : SmscConn) :
    c.SameCount (ioConnWait ok now q c).2 := by
  unfold ioConnWait
  split_ifs
  · exact goto_same c _
  · exact ⟨rfl, rfl, rfl, Nat.le_succ _⟩
  · exact (sendEnquireLink_sameCount now c).trans (goto_same _ _)

theorem ioUnbindWait_paces {ok : Bool} {pdu : Option Pdu} (hpc : c.thread.pc.inLoop = true)
    (h : ioUnbindWait lib cfg ok pdu now q c = some (q', c')) :
    Paces (.unbindWait ok pdu now) c c' := by
  have hnone : ∀ bound, boundAfter bound (.unbindWait ok none now) = bound :=
    boundAfter_eq_self rfl nofun
  obtain ⟨read, rfl, hhandle⟩ | ⟨rfl, -, rfl | rfl⟩ := ioUnbindWait_cases h
  · exact paces_of_handlePdu hpc rfl hhandle (.refl c')
  · exact .counts hpc hnone (.same (.refl c'))
  · exact .counts hpc hnone (.same (goto_same c _))

theorem ioReadPdu_paces {pdu : Pdu} (hpc : c.thread.pc.inLoop = true)
    (h : ioReadPdu lib cfg pdu now q c = some (q', c')) : Paces (.readPdu pdu now) c c' := by
  obtain ⟨c₁, hhandle, hc'⟩ := ioReadPdu_cases h
  refine paces_of_handlePdu hpc rfl hhandle ?_
  have hresponse : c₁.SameCount { c₁ with thread := { c₁.thread with lastResponse := now } } :=
    ⟨rfl, rfl, rfl, le_rfl⟩
  obtain rfl | rfl := hc'
  · exact hresponse.trans (goto_same _ _)
  · exact hresponse.trans ((sendEnquireLink_sameCount now _).trans (gotoSend_sameCount now _ _ _))

theorem ioCleanupDone_sameCount (now : ℤ) (c : SmscConn) : c.SameCount (ioCleanupDone now c) := by
  have hclean : c.SameCount { c with thread := { c.thread with lastCleanup := now } } :=
    ⟨rfl, rfl, rfl, le_rfl⟩
  exact hclean.trans (gotoSend_sameCount now _ _ _)

theorem ioCheckTimes_sameCount {keys : List ℤ} (h : ioCheckTimes keys now q c = some (q', c')) :
    c.SameCount c' := by
  obtain ⟨-, rfl | rfl | rfl | rfl⟩ := ioCheckTimes_cases h
  · exact goto_same c _
  · exact goto_same c _
  · exact ioCleanupDone_sameCount now c
  · exact gotoSend_sameCount now c _ _

theorem ioCleanup_counts {keys : List ℤ} {start : ℤ}
    (h : ioCleanup cfg keys start now q c = (q', c')) : c.Counts c' := by
  obtain ⟨-, rfl | rfl | ⟨rest, rfl⟩⟩ | ⟨key, smppMsg, rest, hkey, -, rfl⟩ := ioCleanup_cases h
  · exact .same (ioCleanupDone_sameCount now c)
  · exact .same (goto_same c _)
  · exact .same (goto_same c _)
  · exact .answered (mem_of_lookup_eq_some hkey) rfl rfl rfl le_rfl

theorem ioFlushQueue_paces {quitting : Bool} {keys : List ℤ} (hpc : c.thread.pc = .flushQueue quitting)
    (h : ioFlushQueue cfg quitting keys now q c = some (q', c')) : Paces ev c c' := by
  obtain ⟨-, -, -, rfl⟩ | ⟨msg, rest, -, rfl, -⟩ := ioFlushQueue_cases h
  · exact .leaves rfl (fun _ hkey => hkey) rfl le_rfl
  · have hout : c.extractFirst.thread.pc.inLoop = false := by
      change c.thread.pc.inLoop = false
      rw [hpc]
      rfl
    exact .leaves hout (fun _ hkey => hkey) rfl le_rfl

theorem ioFlushSent_paces {quitting : Bool} {keys : List ℤ}
    (h : ioFlushSent cfg quitting keys now q c = (q', c')) : Paces ev c c' := by
  obtain ⟨-, rfl, -⟩ | ⟨key, rest, -, ⟨-, -, rfl⟩ | ⟨smppMsg, -, -, rfl⟩⟩ := ioFlushSent_cases h
  · exact .leaves rfl (fun _ hkey => hkey) rfl le_rfl
  · exact .leaves rfl (fun _ hkey => hkey) rfl le_rfl
  · exact .leaves rfl (fun _ hkey => (AList.mem_erase.mp hkey).2) rfl le_rfl

/-- **Every step of the thread keeps pace.** -/
theorem ioThread_paces (hsubmit : ∀ written now, ev = .send written now → SendsSubmitSm lib cfg c)
    (h : ioThread lib cfg (q, c) ev = some (q', c')) : Paces ev c c' := by
  -- in the loop, without a PDU and without a message sent
  have hsame : c.thread.pc.inLoop = true → (∀ bound, boundAfter bound ev = bound) → c.SameCount c' →
      Paces ev c c' := fun hpc hev hcount => .counts hpc hev (.same hcount)
  unfold ioThread at h
  simp only at h
  split at h
  · rename_i opened now hpc
    have hpaces := ioEnter_paces opened now q hpc
    rwa [Option.some.inj h] at hpaces
  · rename_i ok now hpc
    have hcount := ioConnWait_same_count ok now q c
    rw [Option.some.inj h] at hcount
    exact hsame (by rw [hpc]; rfl) (boundAfter_eq_self rfl nofun) hcount
  · rename_i hpc
    exact ioUnbindWait_paces (by rw [hpc]; rfl) h
  · rename_i hpc
    exact ioReadPdu_paces (by rw [hpc]; rfl) h
  · rename_i hpc
    rw [Option.some.injEq, Prod.mk.injEq] at h
    exact hsame (by rw [hpc]; rfl) (boundAfter_eq_self rfl nofun)
      (h.2 ▸ goto_same c _)
  · rename_i hpc
    rw [Option.some.injEq, Prod.mk.injEq] at h
    exact hsame (by rw [hpc]; rfl) (boundAfter_eq_self rfl nofun)
      (h.2 ▸ goto_same c _)
  · rename_i hpc
    exact hsame (by rw [hpc]; rfl) (boundAfter_eq_self rfl nofun)
      (ioCheckTimes_sameCount h)
  · rename_i hpc
    exact .counts (by rw [hpc]; rfl) (boundAfter_eq_self rfl nofun)
      (ioCleanup_counts (Option.some.inj h))
  · rename_i hpc
    exact .counts (by rw [hpc]; rfl) (boundAfter_eq_self rfl nofun)
      (ioSend_counts (hsubmit _ _ rfl) h)
  · rename_i hpc
    exact .counts (by rw [hpc]; rfl) (boundAfter_eq_self rfl nofun)
      (ioSend_counts (hsubmit _ _ rfl) h)
  · rename_i connected _
    rw [Option.some.injEq, ioDisconnect, Prod.mk.injEq] at h
    rw [← h.2]
    cases connected <;> exact .leaves rfl (fun _ hkey => hkey) rfl le_rfl
  · rename_i hpc
    exact ioFlushQueue_paces hpc h
  · exact ioFlushSent_paces (Option.some.inj h)
  · rw [Option.some.injEq, Prod.mk.injEq] at h
    exact h.2 ▸ .leaves rfl (fun _ hkey => hkey) rfl le_rfl
  · exact absurd h (by simp)

end Counts

/-! ## Whole runs -/

/-- The invariant: besides the window, numbers in use were drawn, and nothing is left in `sent_msgs`
when a connection is opened. -/
structure Link.Inv (l : Link) : Prop where
  room : 0 ≤ l.conn.data.maxPendingSubmits
  drawn : l.conn.Drawn
  emptied : l.conn.Emptied
  window : l.conn.thread.pc.inLoop = true → l.conn.Window l.bound

section Runs

variable {lib : Gwlib} {cfg : ClientCfg} {l l' : Link} {ev : IoEvent} {q : Queues} {conn : SmscConn}

theorem SmscConn.Drawn.mono {c c' : SmscConn} (h : c.Drawn)
    (hsent : ∀ key ∈ c'.data.sentMsgs, key ∈ c.data.sentMsgs)
    (hcounter : c.data.messageIdCounter ≤ c'.data.messageIdCounter) : c'.Drawn := by
  intro key hkey
  have hlt := h key (hsent key hkey)
  omega

/-- A step of the transmitting thread. -/
theorem Link.Inv.io (hi : l.Inv) (hg : WellBehaved lib cfg l (.io ev))
    (h : ioThread lib cfg (l.queues, l.conn) ev = some (q, conn)) :
    Link.Inv { l with queues := q, conn := conn, bound := boundAfter l.bound ev } := by
  have hsubmit : ∀ written now, ev = .send written now → SendsSubmitSm lib cfg l.conn := by
    rintro written now rfl
    exact hg
  have hemptied := hi.emptied.io h
  cases ioThread_paces hsubmit h with
  | @enters opened now hev hpc hpending hsent hroom hcounter =>
    refine ⟨hroom ▸ hi.room, hi.drawn.mono (fun key hkey => hsent ▸ hkey) hcounter, hemptied, ?_⟩
    intro hloop
    have hempty : l.conn.data.sentMsgs = ∅ := by
      refine sentMsgs_eq_empty fun key hkey => ?_
      have hleft := hi.emptied (by rw [hpc]; rfl) key hkey
      rwa [hpc] at hleft
    rw [hev]
    exact ⟨hpending hloop, hsent.trans hempty⟩
  | counts hpc hev hcounts =>
    refine ⟨?_, hcounts.drawn hi.drawn, hemptied, fun _ => ?_⟩
    · cases hcounts with
      | same hsame => exact hsame.room ▸ hi.room
      | answered _ _ _ hroom _ => exact hroom ▸ hi.room
      | sent _ _ _ _ _ hroom => exact hroom ▸ hi.room
    · rw [hev]
      exact hcounts.window hi.drawn (hi.window hpc)
  | opens hpc hbinds hafter hopens =>
    have hbound : l.bound = false := by
      cases ev with
      | readPdu _ _ | unbindWait _ _ _ => exact hg hbinds
      | enter _ _ | connWait _ _ | readNothing | readError | checkTimes _ _ | cleanup _ | send _ _
      | disconnect | flush _ _ | retry => simp [IoEvent.pdu?] at hbinds
    refine ⟨hopens.room ▸ hi.room, hi.drawn.mono (fun key hkey => hopens.sent ▸ hkey) hopens.counter,
      hemptied, fun _ => ?_⟩
    have hwindow := hi.window hpc
    rw [hbound, SmscConn.Window, if_neg (by simp)] at hwindow
    rw [hafter, SmscConn.Window, if_pos rfl]
    simp only [hopens.pending, hopens.sent, hwindow.2, hopens.room]
    exact ⟨rfl, Int.le_refl 0, hi.room⟩
  | leaves hpc hsent hroom hcounter =>
    refine ⟨hroom ▸ hi.room, hi.drawn.mono hsent hcounter, hemptied, fun hloop => ?_⟩
    exact absurd (hpc.symm.trans hloop) Bool.false_ne_true

/-! ## The receiving thread

It has local variables of its own, and leaves `sent_msgs` alone if no submit is answered on its connection. -/

/-- The map is left as it is; numbers may have been drawn. -/
structure SmscConn.SameMap (c c' : SmscConn) : Prop where
  sent : c'.data.sentMsgs = c.data.sentMsgs
  room : c'.data.maxPendingSubmits = c.data.maxPendingSubmits
  counter : c.data.messageIdCounter ≤ c'.data.messageIdCounter

theorem SmscConn.SameCount.sameMap {c c' : SmscConn} (h : c.SameCount c') : c.SameMap c' :=
  ⟨h.sent, h.room, h.counter⟩

theorem SmscConn.SameMap.trans {c c' c'' : SmscConn} (h : c.SameMap c') (h' : c'.SameMap c'') :
    c.SameMap c'' :=
  ⟨h'.sent.trans h.sent, h'.room.trans h.room, Nat.le_trans h.counter h'.counter⟩

/-- A PDU that answers nothing in the map. -/
theorem handlePdu_sameMap {pdu : Pdu} {now : ℤ} {q q' : Queues} {c c' : SmscConn}
    (hanswers : ∀ key ∈ pdu.answers, key ∉ c.data.sentMsgs)
    (h : handlePdu lib cfg now q c pdu = some (q', c')) : c.SameMap c' := by
  have hsame : c.SameMap c := ⟨rfl, rfl, le_rfl⟩
  cases pdu with
  | submitSmResp key status messageId =>
    have hnone : c.data.sentMsgs.lookup key = none := AList.lookup_eq_none.mpr (hanswers key rfl)
    simp only [handlePdu, handleSubmitSmResp, hnone, Option.some.injEq, Prod.mk.injEq] at h
    exact h.2 ▸ hsame
  | genericNack key status =>
    have hnone : c.data.sentMsgs.lookup key = none := AList.lookup_eq_none.mpr (hanswers key rfl)
    simp only [handlePdu, handleGenericNack, hnone, Option.some.injEq, Prod.mk.injEq] at h
    exact h.2 ▸ hsame
  | bindTransmitterResp status | bindTransceiverResp status =>
    rw [handlePdu, Option.some.injEq, Prod.mk.injEq] at h
    rw [← h.2, handleBindResp]
    split_ifs <;> exact ⟨rfl, rfl, le_rfl⟩
  | bindReceiverResp status =>
    rw [handlePdu, Option.some.injEq, Prod.mk.injEq] at h
    rw [← h.2, handleBindReceiverResp]
    split_ifs <;> exact ⟨rfl, rfl, le_rfl⟩
  | unbind | unbindResp | other =>
    rw [handlePdu, Option.some.injEq, Prod.mk.injEq] at h
    exact h.2 ▸ ⟨rfl, rfl, le_rfl⟩

theorem ioEnter_sameMap (opened : Bool) (now : ℤ) (q : Queues) (c : SmscConn) :
    c.SameMap (ioEnter opened now q c).2 := by
  unfold ioEnter
  split
  · exact ⟨rfl, rfl, le_rfl⟩
  · cases opened with
    | true => exact ⟨rfl, rfl, Nat.le_succ _⟩
    | false => exact ⟨rfl, rfl, le_rfl⟩

theorem rxEnter_sameMap (opened : Bool) (now : ℤ) (q : Queues) (c : SmscConn) :
    c.SameMap (rxEnter opened now q c).2 := by
  have hmap := ioEnter_sameMap opened now q c
  unfold rxEnter
  split
  · exact hmap
  · exact ⟨hmap.sent, hmap.room, hmap.counter⟩

theorem rxReadPdu_sameMap {pdu : Pdu} {now : ℤ} {q q' : Queues} {c c' : SmscConn}
    (hanswers : ∀ key ∈ pdu.answers, key ∉ c.data.sentMsgs)
    (h : rxReadPdu lib cfg pdu now q c = some (q', c')) : c.SameMap c' := by
  obtain ⟨c₁, hhandle, hc'⟩ := rxReadPdu_cases h
  have hmap := handlePdu_sameMap hanswers hhandle
  have hresponse : c₁.SameCount { c₁ with thread := { c₁.thread with lastResponse := now } } :=
    ⟨rfl, rfl, rfl, le_rfl⟩
  obtain rfl | rfl := hc'
  · exact hmap.trans (hresponse.trans (goto_same _ _)).sameMap
  · exact hmap.trans (hresponse.trans
      ((sendEnquireLink_sameCount now _).trans (goto_same _ _))).sameMap

theorem ioUnbindWait_sameMap {ok : Bool} {pdu : Option Pdu} {now : ℤ} {q q' : Queues}
    {c c' : SmscConn} (hanswers : ∀ key ∈ pdu.bind Pdu.answers, key ∉ c.data.sentMsgs)
    (h : ioUnbindWait lib cfg ok pdu now q c = some (q', c')) : c.SameMap c' := by
  obtain ⟨read, rfl, hhandle⟩ | ⟨-, -, rfl | rfl⟩ := ioUnbindWait_cases h
  · exact handlePdu_sameMap hanswers hhandle
  · exact ⟨rfl, rfl, le_rfl⟩
  · exact (goto_same c _).sameMap

theorem rxCheckTimes_sameMap (now : ℤ) (q : Queues) (c : SmscConn) :
    c.SameMap (rxCheckTimes now q c).2 := by
  unfold rxCheckTimes
  split_ifs <;> exact ⟨rfl, rfl, le_rfl⟩

theorem rxDisconnect_sameMap (connected : Bool) (q : Queues) (c : SmscConn) :
    c.SameMap (rxDisconnect connected q c).2 := by
  cases connected <;> exact ⟨rfl, rfl, le_rfl⟩

/-- **The receiving thread leaves the map alone** where it reads no answer to a submit. -/
theorem rxThread_sameMap {q q' : Queues} {c c' : SmscConn}
    (hanswers : ∀ key ∈ ev.pdu?.bind Pdu.answers, key ∉ c.data.sentMsgs)
    (h : rxThread lib cfg (q, c) ev = some (q', c')) : c.SameMap c' := by
  have hresult : ∀ {r : Queues × SmscConn}, c.SameMap r.2 → some r = some (q', c') → c.SameMap c' := by
    rintro r hmap heq
    rwa [Option.some.inj heq] at hmap
  unfold rxThread at h
  simp only at h
  split at h
  · exact hresult (rxEnter_sameMap _ _ q c) h
  · exact hresult (ioConnWait_same_count _ _ q c).sameMap h
  · exact ioUnbindWait_sameMap hanswers h
  · exact rxReadPdu_sameMap hanswers h
  · exact hresult (goto_same c _).sameMap h
  · exact hresult (goto_same c _).sameMap h
  · exact hresult (rxCheckTimes_sameMap _ q c) h
  · exact hresult (rxDisconnect_sameMap _ q c) h
  · exact hresult (goto_same c _).sameMap h
  · exact absurd h (by simp)

/-- A step of the receiving thread keeps the invariant: count and place of the transmitting thread are
its own. -/
theorem Link.Inv.receive {rx : IoThread} (hi : l.Inv) (hg : WellBehaved lib cfg l (.receive ev))
    (h : rxThread lib cfg (l.queues, l.conn.withThread rx) ev = some (q, conn)) :
    Link.Inv { l with
      queues := q, conn := conn.withThread l.conn.thread, receiver := some conn.thread } := by
  have hg' : ∀ key ∈ ev.pdu?.bind Pdu.answers, key ∉ (l.conn.withThread rx).data.sentMsgs := hg
  obtain ⟨hsent, hroom, hcounter⟩ := rxThread_sameMap hg' h
  change conn.data.sentMsgs = l.conn.data.sentMsgs at hsent
  change conn.data.maxPendingSubmits = l.conn.data.maxPendingSubmits at hroom
  refine ⟨?_, hi.drawn.mono (fun key hkey => hsent ▸ hkey) hcounter, ?_, fun hloop => ?_⟩
  · change 0 ≤ conn.data.maxPendingSubmits
    rw [hroom]
    exact hi.room
  · intro hflushed key hkey
    change key ∈ conn.data.sentMsgs at hkey
    rw [hsent] at hkey
    exact hi.emptied hflushed key hkey
  · have hwindow := hi.window hloop
    simp only [SmscConn.Window, SmscConn.withThread, hsent, hroom] at hwindow ⊢
    exact hwindow

/-- **Every step of a well-behaved run keeps the invariant.** -/
theorem Link.Inv.step {e : LinkEvent} (hi : l.Inv) (hg : WellBehaved lib cfg l e)
    (h : linkStep lib cfg l e = some l') : l'.Inv := by
  cases e with
  | io ev =>
    obtain ⟨⟨q, conn⟩, hio, rfl⟩ := Option.map_eq_some_iff.mp h
    exact hi.io hg hio
  | receive ev =>
    obtain ⟨rx, q, conn, -, hrx, rfl⟩ := linkStep_receive h
    exact hi.receive hg hrx
  | smscconnSend msg =>
    obtain ⟨conn, hsend, rfl⟩ := Option.map_eq_some_iff.mp h
    obtain ⟨-, -, rfl⟩ := smscconnSend_eq_some.mp hsend
    exact ⟨hi.room, hi.drawn, hi.emptied, hi.window⟩
  | shutdownCb =>
    rw [← Option.some.inj h]
    exact ⟨hi.room, hi.drawn, hi.emptied, hi.window⟩

/-- **The submit window.**  From a new connection on, in every run in which the SMSC answers a bind at
most once with success and no submit on the receiving connection, and only submits are queued: in the
connection loop the count is `-1` and the map empty before the bind, and afterwards the count is the
number of entries, between 0 and `max_pending_submits`. -/
theorem Link.windowed (lib : Gwlib) (cfg : ClientCfg) {conn : SmscConn} (hconn : conn.Fresh)
    (hmax : 0 ≤ conn.data.maxPendingSubmits) (receiver : Option IoThread) {es : List LinkEvent}
    (hg : Along (linkStep lib cfg) (WellBehaved lib cfg) { conn := conn, receiver := receiver } es)
    (hr : exec (linkStep lib cfg) { conn := conn, receiver := receiver } es = some l)
    (hloop : l.conn.thread.pc.inLoop = true) : l.conn.Window l.bound := by
  have hnone : ∀ {key}, key ∉ conn.data.sentMsgs := by
    intro key
    rw [hconn.sentMsgs]
    exact AList.notMem_empty key
  have hstart : Link.Inv { conn := conn, receiver := receiver } := by
    refine ⟨hmax, fun key hkey => absurd hkey hnone, fun _ key hkey => absurd hkey hnone, fun hpc => ?_⟩
    change conn.thread.pc.inLoop = true at hpc
    rw [hconn.pc] at hpc
    exact absurd hpc Bool.false_ne_true
  exact (exec_invariant (fun hi hgs hs => hi.step hgs hs) hstart hg hr).window hloop

end Runs

/-- Both connections are opened and bound, a message is sent and answered, and another is sent. -/
def sampleLinkRun : List LinkEvent :=
  [.io (.enter true 1000), .receive (.enter true 1000), .io (.connWait true 1000),
    .receive (.connWait true 1000), .io (.readPdu (.bindTransmitterResp 0) 1001),
    .receive (.readPdu (.bindReceiverResp 0) 1001), .smscconnSend sampleMsg, .smscconnSend sampleMsg,
    .io (.send true 1001), .io (.send true 1001), .io (.send true 1001),
    .io (.readPdu (.submitSmResp 3 0 none) 1002)]

/-- The connection behind that run. -/
def sampleLink : Link :=
  (exec (linkStep sampleGwlib { dndcheckFlag := false }) { conn := sampleConn, receiver := some {} }
    sampleLinkRun).get (by decide)

theorem Link.windowed_sampleLink :
    sampleLink.bound = true ∧ sampleLink.conn.thread.pendingSubmits = 1 ∧
      sampleLink.conn.Window sampleLink.bound :=
  ⟨by decide, by decide, Link.windowed sampleGwlib { dndcheckFlag := false } ⟨rfl, rfl, rfl⟩ (by decide)
    (some {}) (by decide) (Option.some_get _).symm (by decide)⟩

end SmppServer.SmppSmsc
