import SmppServer.Smsc.Router
import SmppServer.Smsc.Receiver
import SmppServer.Smsc.Census
import SmppServer.Machinery.Exec
import Mathlib.Data.List.Perm.Basic

/-!
# Smsc/System — records and fates of messages, step by step

The record of a message is written in the response handler, in the router and in the drain at its end;
whether the message is destroyed or tried again is decided elsewhere.

* `System.Balanced` — a step makes as many records as it destroys messages, and doubles none.
* `System.balanced_step` — every step of the process is balanced unless it is one of those that
  `System.InStep` excludes.
-/

namespace SmppServer.SmppSmsc

open Machinery

/-! ## The property

A message is recorded when it is destroyed, and while it waits it has no record.  Ids may repeat, which `InStep`
leaves out with the steps in which records and fates come apart. -/

/-- The messages that wait to be transmitted, for the first time or again. -/
def System.waiting (s : System) : List Octstr :=
  s.process.smscList.flatMap (·.queuedIds) ++ s.process.queues.outgoingIds ++
    s.inHand.map (·.accountMsgId)

/-- **Exactly one terminal record.** -/
structure System.Recorded (s : System) : Prop where
  destroyed : ∀ x ∈ s.process.queues.destroyed, s.process.queues.recordIds.count x = 1
  waiting : ∀ x ∈ s.waiting, x ∉ s.process.queues.recordIds

section Guard

variable (lib : Gwlib) (cfg : ClientCfg)

/-- **A step after which records and fates agree.**  No response with a temporary status and no
`generic_nack` with any other answers a message; a connection is destroyed with an empty queue; a
submit carries an id that was not used before, and is complete; and a message is not routed, during the
shutdown, to an inactive preferred SMSC. -/
def System.InStep (s : System) : SystemEvent → Prop
  | .io i ev => ∀ conn ∈ s.process.smscList[i]?, PduKept conn ev.pdu?
  | .smppDestroy i => ∀ conn ∈ s.process.smscList[i]?, conn.data.msgsToSend = []
  | .handleRequest submit => submit.accountMsgId ∉ s.received ∧
      (s.process.smppClientStatus = .running → submit.Complete cfg)
  | .rout k _ => ∀ message ∈ s.inHand[k]?, ∀ pos ∈ preferredStop lib s.process message,
      target lib s.process.smscList message.routingInfo pos ≠ .inactive
  | .shutdownCb _ | .smsc2RestartSmsc _ _ | .setClientStatus _ | .msgRouter _ _ => True

instance (s : System) : ∀ e, Decidable (s.InStep lib cfg e)
  | .io i ev => inferInstanceAs (Decidable (∀ conn ∈ s.process.smscList[i]?, PduKept conn ev.pdu?))
  | .smppDestroy i =>
    inferInstanceAs (Decidable (∀ conn ∈ s.process.smscList[i]?, conn.data.msgsToSend = []))
  | .handleRequest submit => inferInstanceAs (Decidable (submit.accountMsgId ∉ s.received ∧
      (s.process.smppClientStatus = .running → submit.Complete cfg)))
  | .rout k _ => inferInstanceAs (Decidable (∀ message ∈ s.inHand[k]?,
      ∀ pos ∈ preferredStop lib s.process message,
        target lib s.process.smscList message.routingInfo pos ≠ .inactive))
  | .shutdownCb _ | .smsc2RestartSmsc _ _ | .setClientStatus _ | .msgRouter _ _ => .isTrue trivial

end Guard

/-! ## Counting over the whole process

Messages are counted by id over all places.  A step of one connection changes the count of that connection and
of the queues. -/

/-- The messages a connection holds. -/
def SmscConn.heldIds (conn : SmscConn) : List Octstr := conn.queuedIds ++ conn.sentIds

/-- The messages the process holds. -/
def System.held (s : System) : List Octstr :=
  s.process.smscList.flatMap SmscConn.heldIds ++ s.process.queues.outgoingIds ++
    s.inHand.map (·.accountMsgId)

/-- **A balanced step**: no message becomes two, records are made as messages are destroyed, and new
ids are distinct. -/
structure System.Balanced (s s' : System) : Prop where
  held : ∀ x, s'.held.count x + s'.process.queues.destroyed.count x + s.received.count x ≤
    s.held.count x + s.process.queues.destroyed.count x + s'.received.count x
  records : ∀ x, s'.process.queues.recordIds.count x + s.process.queues.destroyed.count x =
    s.process.queues.recordIds.count x + s'.process.queues.destroyed.count x
  distinct : s.received.Nodup → s'.received.Nodup

/-- What balanced steps keep. -/
structure System.Inv (s : System) : Prop where
  held : ∀ x, s.held.count x + s.process.queues.destroyed.count x ≤ s.received.count x
  records : ∀ x, s.process.queues.recordIds.count x = s.process.queues.destroyed.count x
  distinct : s.received.Nodup

section Counts

variable {s s' s'' : System} {conn conn' : SmscConn} {i : ℕ} {q : Queues}

theorem System.Balanced.inv (h : s.Balanced s') (hi : s.Inv) : s'.Inv where
  held x := by
    have hheld := h.held x
    have hle := hi.held x
    omega
  records x := by
    have hrec := h.records x
    have heq := hi.records x
    omega
  distinct := h.distinct hi.distinct

/-- A message that waits is held. -/
theorem System.mem_held_of_mem_waiting {x : Octstr} (h : x ∈ s.waiting) : x ∈ s.held := by
  simp only [System.waiting, System.held, List.mem_append, List.mem_flatMap] at h ⊢
  obtain (⟨conn, hconn, hx⟩ | hx) | hx := h
  · exact .inl (.inl ⟨conn, hconn, List.mem_append_left _ hx⟩)
  · exact .inl (.inr hx)
  · exact .inr hx

/-- **The invariant gives the property.** -/
theorem System.Inv.recorded (hi : s.Inv) : s.Recorded where
  destroyed x hx := by
    have hone : s.received.count x ≤ 1 := List.nodup_iff_count_le_one.mp hi.distinct x
    have hpos : 0 < s.process.queues.destroyed.count x := List.count_pos_iff.mpr hx
    have hheld := hi.held x
    have hrec := hi.records x
    omega
  waiting x hx hmem := by
    have hone : s.received.count x ≤ 1 := List.nodup_iff_count_le_one.mp hi.distinct x
    have hpos : 0 < s.held.count x := List.count_pos_iff.mpr (System.mem_held_of_mem_waiting hx)
    have hposrec : 0 < s.process.queues.recordIds.count x := List.count_pos_iff.mpr hmem
    have hheld := hi.held x
    have hrec := hi.records x
    omega

theorem System.count_held (s : System) (x : Octstr) :
    s.held.count x = (s.process.smscList.flatMap SmscConn.heldIds).count x +
      s.process.queues.outgoingIds.count x + (s.inHand.map (·.accountMsgId)).count x := by
  rw [System.held, List.count_append, List.count_append]

theorem SmscConn.count_heldIds (conn : SmscConn) (x : Octstr) :
    conn.heldIds.count x = conn.queuedIds.count x + conn.sentIds.count x := List.count_append

/-- **A step of one connection and the queues.** -/
theorem System.balanced_setConn (hconn : s.process.smscList[i]? = some conn)
    (hheld : ∀ x, conn'.heldIds.count x + q.outgoingIds.count x + q.destroyed.count x ≤
      conn.heldIds.count x + s.process.queues.outgoingIds.count x +
        s.process.queues.destroyed.count x)
    (hrec : ∀ x, q.recordIds.count x + s.process.queues.destroyed.count x =
      s.process.queues.recordIds.count x + q.destroyed.count x) :
    s.Balanced ((s.setQueues q).setConn i conn') where
  held x := by
    have hset := count_flatMap_set (f := SmscConn.heldIds) hconn conn' x
    have hx := hheld x
    rw [System.count_held, System.count_held]
    simp only [System.setConn, System.setQueues] at hset ⊢
    omega
  records := hrec
  distinct := id

/-- A step of one connection that holds no more than before. -/
theorem System.balanced_setConn_of_le (hconn : s.process.smscList[i]? = some conn)
    (hheld : ∀ x, conn'.heldIds.count x ≤ conn.heldIds.count x) :
    s.Balanced (s.setConn i conn') := by
  refine System.balanced_setConn (q := s.process.queues) hconn (fun x => ?_) fun _ => rfl
  have hx := hheld x
  omega

/-- A step that only moves messages between the queues and hands. -/
theorem System.balanced_of_smscList_eq (hlist : s'.process.smscList = s.process.smscList)
    (hreceived : s'.received = s.received)
    (hheld : ∀ x, s'.process.queues.outgoingIds.count x + (s'.inHand.map (·.accountMsgId)).count x +
        s'.process.queues.destroyed.count x ≤
      s.process.queues.outgoingIds.count x + (s.inHand.map (·.accountMsgId)).count x +
        s.process.queues.destroyed.count x)
    (hrec : ∀ x, s'.process.queues.recordIds.count x + s.process.queues.destroyed.count x =
      s.process.queues.recordIds.count x + s'.process.queues.destroyed.count x) :
    s.Balanced s' where
  held x := by
    have hx := hheld x
    rw [System.count_held, System.count_held, hlist, hreceived]
    omega
  records := hrec
  distinct := hreceived ▸ id

end Counts

/-! ## Each step is balanced

The threads are taken through the moves they make, the router through its outcomes. -/

section Steps

variable {lib : Gwlib} {cfg : ClientCfg} {s s' : System} {conn : SmscConn} {i : ℕ} {msg : Msg}

/-- A step of a thread of a connection, whichever of its two threads it is. -/
theorem System.balanced_moves {ev : IoEvent} {q : Queues} {conn' : SmscConn} (rx thread : IoThread)
    (hconn : s.process.smscList[i]? = some conn) (hk : PduKept conn ev.pdu?)
    (h : Moves lib cfg ev s.process.queues (conn.withThread rx) q conn') :
    s.Balanced ((s.setQueues q).setConn i (conn'.withThread thread)) := by
  have hkept : PduKept (conn.withThread rx) ev.pdu? := hk
  have hcount := h.count_records hkept
  refine System.balanced_setConn hconn (fun x => ?_) fun x => (hcount x).2
  rw [SmscConn.count_heldIds, SmscConn.count_heldIds]
  exact (hcount x).1

/-- `shutdown_cb`. -/
theorem System.balanced_shutdownCb (h : systemStep lib cfg s (.shutdownCb i) = some s') :
    s.Balanced s' := by
  obtain ⟨conn, hconn, ⟨-, rfl⟩ | ⟨-, rfl⟩⟩ := systemStep_shutdownCb h
  · exact ⟨fun _ => le_rfl, fun _ => rfl, id⟩
  · exact System.balanced_setConn_of_le hconn fun _ => le_rfl

/-- `smpp_destroy` of a connection with an empty queue. -/
theorem System.balanced_smppDestroy (hg : s.InStep lib cfg (.smppDestroy i))
    (h : systemStep lib cfg s (.smppDestroy i) = some s') : s.Balanced s' := by
  obtain ⟨conn, hconn, -, rfl⟩ := systemStep_smppDestroy h
  have hempty : conn.queuedIds = [] := by
    rw [SmscConn.queuedIds, hg conn hconn, List.map_nil]
  rw [hempty, List.append_nil]
  exact System.balanced_setConn_of_le hconn fun _ => Nat.zero_le _

/-- `smsc2_restart_smsc`. -/
theorem System.balanced_smsc2RestartSmsc
    (h : systemStep lib cfg s (.smsc2RestartSmsc i conn) = some s') : s.Balanced s' := by
  obtain ⟨old, hold, ⟨-, -, hmsgs, hsent, -⟩, rfl⟩ := systemStep_smsc2RestartSmsc h
  have hnone : conn.heldIds = [] := by
    rw [SmscConn.heldIds, SmscConn.queuedIds, SmscConn.sentIds, hmsgs, hsent]
    rfl
  exact System.balanced_setConn_of_le hold fun x => by rw [hnone]; exact Nat.zero_le _

/-- `handle_request` on a complete submit, or during the shutdown. -/
theorem System.balanced_handleRequest {submit : Submit} (hg : s.InStep lib cfg (.handleRequest submit))
    (h : handleRequest lib cfg s submit = some s') : s.Balanced s' := by
  obtain ⟨hfresh, hcomplete⟩ := hg
  have hnodup : s.received.Nodup → (s.received ++ [submit.accountMsgId]).Nodup := fun hnodup =>
    List.nodup_append.mpr ⟨hnodup, List.nodup_singleton _, fun a ha b hb hab =>
      hfresh (List.mem_singleton.mp hb ▸ hab ▸ ha)⟩
  cases handleRequest_outcome h with
  | recorded hstatus hunpack =>
    refine ⟨fun x => ?_, fun x => ?_, hnodup⟩
    · rw [System.count_held, System.count_held]
      simp only [System.setQueues, Queues.outgoingIds, List.count_append]
      omega
    · simp only [System.setQueues, Queues.recordIds, misRecord, List.map_append, List.map_cons,
        List.map_nil, List.count_append]
      omega
  | destroyed hstatus hnot => exact absurd (hcomplete hstatus) hnot
  | taken =>
    refine ⟨fun x => ?_, fun x => rfl, hnodup⟩
    rw [System.count_held, System.count_held]
    simp only [List.map_append, List.map_cons, List.map_nil, List.count_append, submitMsg,
      Msg.accountMsgId]
    omega

/-- Taking a message out of hand. -/
theorem count_map_eraseIdx {k : ℕ} (hmsg : s.inHand[k]? = some msg) (x : Octstr) :
    (s.inHand.map (·.accountMsgId)).count x =
      ((s.inHand.eraseIdx k).map (·.accountMsgId)).count x + [msg.accountMsgId].count x := by
  obtain ⟨hk, rfl⟩ := List.getElem?_eq_some_iff.mp hmsg
  have hperm := (List.getElem_cons_eraseIdx_perm hk).map (·.accountMsgId)
  rw [← hperm.count_eq, List.map_cons, List.count_cons, List.count_singleton]

/-- A connection that got a message holds one more. -/
theorem count_heldIds_sendMsgCb (conn : SmscConn) (msg : Msg) (x : Octstr) :
    (sendMsgCb conn msg).heldIds.count x = conn.heldIds.count x + [msg.accountMsgId].count x := by
  simp only [SmscConn.count_heldIds, SmscConn.queuedIds, SmscConn.sentIds, sendMsgCb,
    msgDuplicate_eq, List.map_append, List.map_cons, List.map_nil, List.count_append]
  omega

/-- `smsc2_rout` with a message in hand. -/
theorem System.balanced_rout {k : ℕ} {stack : ℤ} (hg : s.InStep lib cfg (.rout k stack))
    (h : routInHand lib cfg s k stack = some s') : s.Balanced s' := by
  obtain ⟨message, r, p, hmsg, hrout, rfl⟩ := routInHand_eq_some h
  cases smsc2Rout_outcome hrout with
  | lost =>
    refine System.balanced_of_smscList_eq rfl rfl (fun x => ?_) fun _ => rfl
    rw [count_map_eraseIdx hmsg x]
    dsimp only
    omega
  | queued =>
    refine System.balanced_of_smscList_eq rfl rfl (fun x => ?_) fun x => ?_
    · rw [count_map_eraseIdx hmsg x]
      simp only [outgoingIds_produceOutgoingMsg, produceOutgoingMsg_destroyed, List.count_append]
      omega
    · simp only [recordIds_produceOutgoingMsg, produceOutgoingMsg_destroyed]
  | destroyed hstop hinactive => exact absurd hinactive (hg message hmsg _ hstop)
  | @handedOver i conn hconn =>
    refine ⟨fun x => ?_, fun _ => rfl, id⟩
    have hset := count_flatMap_set (f := SmscConn.heldIds) hconn
      (sendMsgCb conn { message with msgState := .notSent }) x
    rw [count_heldIds_sendMsgCb] at hset
    rw [System.count_held, System.count_held, count_map_eraseIdx hmsg x]
    dsimp only at hset ⊢
    change _ = _ + (_ + [message.accountMsgId].count x) at hset
    omega

/-- What the router may do with a message it took off `outgoing_msg`. -/
structure System.Disposes (s : System) (msg : Msg) (s' : System) : Prop where
  held : ∀ x, s'.held.count x + s'.process.queues.destroyed.count x ≤
    s.held.count x + s.process.queues.destroyed.count x + [msg.accountMsgId].count x
  records : ∀ x, s'.process.queues.recordIds.count x + s.process.queues.destroyed.count x =
    s.process.queues.recordIds.count x + s'.process.queues.destroyed.count x
  received : s'.received = s.received

/-- Dropping it. -/
theorem System.disposes_self (s : System) (msg : Msg) : s.Disposes msg s :=
  ⟨fun _ => Nat.le_add_right _ _, fun _ => rfl, rfl⟩

/-- Recording and destroying it. -/
theorem System.disposes_giveUp {status : ℤ} (h : giveUp lib s msg status = some s') :
    s.Disposes msg s' := by
  obtain ⟨pdu, -, rfl⟩ := Option.map_eq_some_iff.mp h
  refine ⟨fun x => ?_, fun x => ?_, rfl⟩
  · rw [System.count_held, System.count_held]
    simp only [System.setQueues, msgDestroy, misDbInsert, Queues.outgoingIds, List.count_append]
    omega
  · simp only [System.setQueues, msgDestroy, misDbInsert, Queues.recordIds, misRecord, List.map_append,
      List.map_cons, List.map_nil, List.count_append, Msg.accountMsgId]
    omega

/-- Taking it in hand, whatever its positions are then. -/
theorem System.disposes_inHand {routingInfo : ForwardQueueData}
    (hhand : s'.inHand = s.inHand ++ [{ msg with routingInfo := routingInfo }])
    (hprocess : s'.process = s.process) (hreceived : s'.received = s.received) : s.Disposes msg s' := by
  refine ⟨fun x => ?_, fun _ => by rw [hprocess], hreceived⟩
  rw [System.count_held, System.count_held, hhand, hprocess]
  simp only [List.map_append, List.map_cons, List.map_nil, List.count_append, Msg.accountMsgId]
  omega

/-- Putting it back. -/
theorem System.disposes_putBack (pc : RouterPc) (s : System) (msg : Msg) : s.Disposes msg
    { s.setQueues { s.process.queues with outgoingMsg := s.process.queues.outgoingMsg ++ [msg] } with
      router := pc } := by
  refine ⟨fun x => ?_, fun _ => rfl, rfl⟩
  rw [System.count_held, System.count_held]
  simp only [System.setQueues, Queues.outgoingIds, List.map_append, List.map_cons, List.map_nil,
    List.count_append]
  omega

/-- A message is taken off `outgoing_msg` and disposed of. -/
theorem System.balanced_of_disposes (pc : RouterPc) (hnext : s.nextMsg = some msg)
    (h : { s.extractOutgoing with router := pc }.Disposes msg s') : s.Balanced s' where
  held x := by
    obtain ⟨rest, hmsgs⟩ := System.outgoingMsg_of_nextMsg hnext
    have hx := h.held x
    rw [System.count_held { s.extractOutgoing with router := pc }] at hx
    rw [System.count_held s, h.received]
    simp only [System.extractOutgoing, System.setQueues, Queues.outgoingIds, hmsgs, List.tail_cons,
      List.map_cons, List.count_cons, List.count_nil] at hx ⊢
    omega
  records := h.records
  distinct := h.received ▸ id

/-- **A step of the router.** -/
theorem System.balanced_msgRouter {recheck : Bool} {now : ℤ}
    (h : msgRouter lib cfg s recheck now = some s') : s.Balanced s' := by
  cases msgRouter_outcome h with
  | quiet => exact ⟨fun _ => le_rfl, fun _ => rfl, id⟩
  | emptied =>
    refine System.balanced_of_smscList_eq rfl rfl (fun x => ?_) fun _ => rfl
    simp only [System.setQueues, Queues.outgoingIds, List.map_nil, List.count_nil]
    omega
  | lost pc hnext => exact System.balanced_of_disposes pc hnext (System.disposes_self _ _)
  | givenUp hnext hstatus hgiveUp =>
    exact System.balanced_of_disposes _ hnext (System.disposes_giveUp hgiveUp)
  | putBack pc hnext =>
    exact System.balanced_of_disposes pc hnext
      (System.disposes_putBack pc { s.extractOutgoing with router := pc } _)
  | merged left hnext =>
    exact System.balanced_of_disposes (.pass left) hnext (System.disposes_inHand rfl rfl rfl)

/-- **Every guarded step is balanced.** -/
theorem System.balanced_step {e : SystemEvent} (hg : s.InStep lib cfg e)
    (h : systemStep lib cfg s e = some s') : s.Balanced s' := by
  cases e with
  | io i ev =>
    obtain ⟨conn, q, conn', hconn, hio, rfl⟩ := systemStep_io h
    exact System.balanced_moves conn.thread conn'.thread hconn (hg conn hconn) (ioThread_moves hio)
  | shutdownCb i => exact System.balanced_shutdownCb h
  | smppDestroy i => exact System.balanced_smppDestroy hg h
  | smsc2RestartSmsc i conn => exact System.balanced_smsc2RestartSmsc h
  | setClientStatus status => exact Option.some.inj h ▸ ⟨fun _ => le_rfl, fun _ => rfl, id⟩
  | handleRequest submit => exact System.balanced_handleRequest hg h
  | rout k stack => exact System.balanced_rout hg h
  | msgRouter recheck now => exact System.balanced_msgRouter h

end Steps

/-! ## The start -/

/-- The process when it starts: connections as they were created, and nothing received. -/
structure System.Start (s : System) : Prop where
  fresh : ∀ conn ∈ s.process.smscList, conn.data.msgsToSend = [] ∧ conn.data.sentMsgs = ∅
  queues : s.process.queues = {}
  inHand : s.inHand = []
  received : s.received = []

theorem System.Start.inv {s : System} (h : s.Start) : s.Inv := by
  have hconns : s.process.smscList.flatMap SmscConn.heldIds = [] := by
    refine List.flatMap_eq_nil_iff.mpr fun conn hconn => ?_
    obtain ⟨hmsgs, hsent⟩ := h.fresh conn hconn
    rw [SmscConn.heldIds, SmscConn.queuedIds, SmscConn.sentIds, hmsgs, hsent]
    rfl
  have hheld : s.held = [] := by
    rw [System.held, hconns, h.queues, h.inHand]
    rfl
  refine ⟨fun x => ?_, fun x => ?_, ?_⟩
  · rw [hheld, h.queues, h.received]
    exact le_rfl
  · rw [h.queues]
    rfl
  · rw [h.received]
    exact List.nodup_nil

/-- A process with one connection. -/
def sampleSystem : System where
  process := { smscList := [sampleConn], queues := {}, smppClientStatus := .running }

theorem sampleSystem_start : sampleSystem.Start where
  fresh conn hconn := by
    obtain rfl : conn = sampleConn := List.mem_singleton.mp hconn
    exact ⟨rfl, rfl⟩
  queues := rfl
  inHand := rfl
  received := rfl

/-- A submit that may go to the first position. -/
def sampleSubmit : Submit where
  accountName := octstrImm "acme"
  accountMsgId := octstrImm "a1"
  reqTime := octstrImm "2009-08-13 10:00:00"
  pdu := some (octstrImm "submit_sm")
  preferredSmsc := [0]
  allowedSmsc := [0]
  destinationAddr := octstrImm "919800000000"
  sourceAddr := octstrImm "ACME"
  content := some (octstrImm "hello")
  dataCoding := 0
  esmClass := 0
  moreMessagesToSend := 0
  ip := none

/-- The connection is bound; a submit is routed to it, sent, and answered with the status. -/
def sampleRun (status : ℤ) : List SystemEvent :=
  [.io 0 (.enter true 1000), .io 0 (.connWait true 1000),
   .io 0 (.readPdu (.bindTransmitterResp 0) 1001), .handleRequest sampleSubmit, .rout 0 0,
   .io 0 (.send true 1001), .io 0 (.send true 1001), .io 0 (.readPdu (.submitSmResp 2 status none) 1002)]

end SmppServer.SmppSmsc
