import SmppServer.Smsc.Retransmit
import SmppServer.Machinery.Clock

/-!
# Smsc/Expiry — how long a message waits before it expires

The router gives a message up when it has waited longer than `max-msg-duration`.  It measures from the
time stamp of the message, which `smscconn_send_failed` sets when the message fails for the first time.
`smsc2_rout`, which puts a message before the router when its SMSCs are down, sets none: a message that
never failed has the time stamp zero and expires at once.

A run by the clock takes down when a message is put in `outgoing_msg` and when one expires.

* `timely_of_dated` — in every run in which `smsc2_rout` puts only messages that failed before, a message
  expires only if it was first put in `outgoing_msg` more than `max-msg-duration` seconds ago.
-/

namespace SmppServer.SmppSmsc

open Machinery

/-! ## What is taken down -/

/-- A message is put in `outgoing_msg`, or expires. -/
inductive Stay
  | put (serial : ℕ) (time : ℤ)
  | expired (serial : ℕ) (time : ℤ)
  deriving DecidableEq, Repr

/-- When the message was first put in `outgoing_msg`. -/
def firstPut (serial : ℕ) (log : List Stay) : Option ℤ :=
  log.findSome? fun
    | .put n time => if n = serial then some time else none
    | .expired _ _ => none

/-- **Not before its time**: a message that expires was first put in `outgoing_msg` longer ago. -/
def Timely (duration : ℤ) (earlier : List Stay) : Stay → Prop
  | .expired serial now => ∃ time ∈ firstPut serial earlier, duration < now - time
  | .put _ _ => True

section Runs

variable (lib : Gwlib) (cfg : ClientCfg)

/-- The router gives the message up because it has expired. -/
def Expires (now : ℤ) (msg : Msg) : Prop :=
  msg.smInfo.pdu ≠ none ∧ msg.msgState ≠ .sentNoresp ∧ msg.retries ≠ cfg.maxRetryLimit ∧
    cfg.maxMsgDuration ≠ -1 ∧ cfg.maxMsgDuration < now - msg.msgRetryTime

instance (now : ℤ) (msg : Msg) : Decidable (Expires cfg now msg) :=
  inferInstanceAs (Decidable (_ ∧ _))

/-- The message that expires at the next step of the router, if one does. -/
def expiring (s : System) (now : ℤ) : Option Msg :=
  match s.router, s.process.queues.outgoingMsg with
  | .pass (_ + 1), msg :: _ => if Expires cfg now msg then some msg else none
  | _, _ => none

/-- What a step takes down; the router puts back only what was there before. -/
def stayNote (t : Traffic) (e : ℤ × TrafficEvent) (t' : Traffic) : Option Stay :=
  match e.2 with
  | .system (.msgRouter _ now) => (expiring cfg t.system now).map fun msg => .expired msg.serial e.1
  | _ =>
    (t'.system.process.queues.outgoingMsg.drop t.system.process.queues.outgoingMsg.length).head?.map
      fun msg => .put msg.serial e.1

/-- One step of the process by the clock. -/
def stayStep (p : Clocked Traffic Stay) (e : ℤ × TrafficEvent) : Option (Clocked Traffic Stay) :=
  clockedStep (trafficStep lib cfg) TrafficEvent.now? (stayNote cfg) p e

/-- `smsc2_rout` puts the message in `outgoing_msg`: no preferred position stops it, no allowed one is
good, and the last of these is inactive. -/
def WaitsForSmsc (p : Process) (message : Msg) : Prop :=
  preferredStop lib p message = none ∧ p.smppClientStatus ≠ .shutdown ∧
    (∀ pos ∈ terminated message.routingInfo.allowedSmsc,
      target lib p.smscList message.routingInfo pos ≠ .good) ∧
    ∃ pos ∈ (terminated message.routingInfo.allowedSmsc).getLast?,
      target lib p.smscList message.routingInfo pos = .inactive

instance (p : Process) (message : Msg) : Decidable (WaitsForSmsc lib p message) :=
  inferInstanceAs (Decidable (_ ∧ _))

/-- **A step that puts no message without a time stamp before the router.** -/
def Dated (p : Clocked Traffic Stay) : ℤ × TrafficEvent → Prop
  | (_, .system (.rout k _)) => ∀ message ∈ p.state.system.inHand[k]?,
      WaitsForSmsc lib p.state.system.process message → message.msgRetryTime ≠ 0
  | _ => True

instance (p : Clocked Traffic Stay) : ∀ e, Decidable (Dated lib p e)
  | (_, .system (.rout k _)) => inferInstanceAs (Decidable (∀ message ∈ p.state.system.inHand[k]?,
      WaitsForSmsc lib p.state.system.process message → message.msgRetryTime ≠ 0))
  | (_, .receive _ _) | (_, .system (.io _ _)) | (_, .system (.shutdownCb _))
  | (_, .system (.smppDestroy _)) | (_, .system (.smsc2RestartSmsc _ _))
  | (_, .system (.setClientStatus _)) | (_, .system (.handleRequest _))
  | (_, .system (.msgRouter _ _)) => .isTrue trivial

end Runs

section Spec

variable {lib : Gwlib} {cfg : ClientCfg} {s s' : System} {msg : Msg} {now : ℤ} {recheck : Bool}

/-! ## Who puts a message in `outgoing_msg`

`smsc2_rout` does so in one branch only, behind all positions.  What it needs to come there is the condition
`WaitsForSmsc`. -/

/-- `smsc2_rout` behind the preferred positions. -/
theorem routAllowed_outgoing {stack r : ℤ} {p p' : Process}
    {again : Msg → Option (Except Fault (ℤ × Process))} (hstop : preferredStop lib p msg = none)
    (h : routAllowed lib cfg stack p msg again = some (.ok (r, p'))) :
    p'.queues.outgoingMsg = p.queues.outgoingMsg ∨
      WaitsForSmsc lib p msg ∧ p'.queues.outgoingMsg = p.queues.outgoingMsg ++ [msg] := by
  unfold routAllowed at h
  by_cases hin : ∀ pos ∈ allowedVisited stack msg.routingInfo.allowedSmsc,
      target lib p.smscList msg.routingInfo pos ≠ .outside
  · obtain ⟨⟨bestOk, boSent, badFound⟩, hok, hsome, hnone, hbad⟩ := allowedLoop_eq_ok (a := {}) hin
    simp only [hok] at h
    cases bestOk with
    | some i =>
      obtain hi | ⟨pos, -, hgood, rfl⟩ := hsome i rfl
      · simp at hi
      obtain ⟨conn, hget, -, husable⟩ := target_eq_good.mp hgood
      have hconn := (gwlistGet_eq_ok.mp hget).2
      simp only [hconn, smscconnSend_of_usable husable, Option.some.injEq, Except.ok.injEq,
        Prod.mk.injEq] at h
      exact .inl (h.2 ▸ rfl)
    | none =>
      cases badFound with
      | true =>
        simp only at h
        split at h
        · rename_i hstatus
          obtain ⟨-, rfl⟩ := Prod.mk.inj (Except.ok.inj (Option.some.inj h))
          -- the last visited position is inactive, so there are allowed positions
          have hne : terminated msg.routingInfo.allowedSmsc ≠ [] := by
            intro hnil
            obtain hv | ⟨rest, hv⟩ := allowedVisited_of_eq_nil stack hnil
            · simp [hv] at hbad
            · exact hin (-1) (hv ▸ List.mem_cons_self) target_neg_one
          rw [allowedVisited_of_ne_nil hne] at hnone hbad
          refine .inr ⟨⟨hstop, hstatus, (hnone rfl).2, _, List.getLast?_eq_some_getLast hne, ?_⟩,
            produceOutgoingMsg_outgoingMsg ..⟩
          simpa [List.getLast?_eq_some_getLast hne] using hbad
        · exact .inl (by rw [← (Prod.mk.inj (Except.ok.inj (Option.some.inj h))).2])
      | false =>
        simp only at h
        split at h
        all_goals exact .inl (by rw [← (Prod.mk.inj (Except.ok.inj (Option.some.inj h))).2])
  · obtain ⟨fault, hfault⟩ := allowedLoop_of_outside (a := {}) (by simpa using hin)
    simp [hfault] at h

/-- **When `smsc2_rout` puts a message in `outgoing_msg`.** -/
theorem smsc2Rout_outgoing {stack r : ℤ} {calls : ℕ} {p p' : Process}
    (h : smsc2Rout lib cfg stack calls p msg = some (.ok (r, p'))) :
    p'.queues.outgoingMsg = p.queues.outgoingMsg ∨
      WaitsForSmsc lib p msg ∧ p'.queues.outgoingMsg = p.queues.outgoingMsg ++ [msg] := by
  cases calls with
  | zero => simp [smsc2Rout] at h
  | succ calls =>
    rw [smsc2Rout] at h
    split at h
    · exact .inl (by rw [← (Prod.mk.inj (Except.ok.inj (Option.some.inj h))).2])
    · cases hstop : preferredStop lib p msg with
      | none =>
        rw [preferredLoop_of_no_stop hstop] at h
        exact routAllowed_outgoing hstop h
      | some pos =>
        obtain ⟨hover, rest, hloop⟩ := preferredLoop_of_stop hstop
        by_cases hgood : target lib p.smscList msg.routingInfo pos = .good
        · obtain ⟨conn, -, hsent⟩ := preferredLoop_cons_of_good rest hgood
          simp only [hloop, hsent] at h
          exact .inl (by rw [← (Prod.mk.inj (Except.ok.inj (Option.some.inj h))).2])
        · obtain ⟨fault, hfault⟩ | ⟨-, hdestroy⟩ := preferredLoop_cons_of_stop rest hover hgood
          · simp [hloop, hfault] at h
          · simp only [hloop, hdestroy] at h
            exact .inl (by rw [← (Prod.mk.inj (Except.ok.inj (Option.some.inj h))).2]; rfl)

end Spec

/-! ## The messages of the process

What holds of the messages depends on their number and their time stamp.  A step leaves both alone, except for
the message that fails, which gets the time of the step if it had none. -/

section Holds

variable {lib : Gwlib} {cfg : ClientCfg} {ev : IoEvent} {q q' : Queues} {c c' : SmscConn}
  {Ready Out : Msg → Prop}

/-- Every message of a connection is as it should be. -/
def SmscConn.Holds (Ready : Msg → Prop) (conn : SmscConn) : Prop :=
  (∀ m ∈ conn.data.msgsToSend, Ready m) ∧ ∀ e ∈ conn.data.sentMsgs.entries, Ready e.2.msg

/-- A property that depends on the number and the time stamp of a message only. -/
def Stamped (Ready : Msg → Prop) : Prop :=
  ∀ m m' : Msg, m'.serial = m.serial → m'.msgRetryTime = m.msgRetryTime → Ready m → Ready m'

/-- **A step of a thread**: its messages stay as they should be, and at most one is handed back to the
router, at the time of the step. -/
theorem Moves.holds (h : Moves lib cfg ev q c q' c') (hready : Stamped Ready) (hc : c.Holds Ready) :
    c'.Holds Ready ∧ (q'.outgoingMsg = q.outgoingMsg ∨ ∃ m conn, ∃ now ∈ ev.now?, Ready m ∧
      q'.outgoingMsg = q.outgoingMsg ++ [handedBack now conn m]) := by
  obtain ⟨hmsgs, hsent⟩ := hc
  have hpop : ∀ {c' : SmscConn} {msg : Msg}, c.data.msgsToSend = msg :: c'.data.msgsToSend →
      Ready msg ∧ ∀ m ∈ c'.data.msgsToSend, Ready m := fun heq => by
    rw [heq] at hmsgs
    exact List.forall_mem_cons.mp hmsgs
  have hkey : ∀ {key : ℤ} {smppMsg : SmppMsg}, c.data.sentMsgs.lookup key = some smppMsg →
      Ready smppMsg.msg := fun hlookup => hsent _ (AList.mem_lookup_iff.mp hlookup)
  have herase : ∀ {key : ℤ} {c' : SmscConn}, c'.data.sentMsgs = c.data.sentMsgs.erase key →
      ∀ e ∈ c'.data.sentMsgs.entries, Ready e.2.msg := fun heq e he => by
    rw [heq] at he
    exact hsent e ((List.kerase_sublist _ _).subset he)
  cases h with
  | keep hm hs => exact ⟨⟨hm ▸ hmsgs, hs ▸ hsent⟩, .inl rfl⟩
  | drop _ _ hm hs _ => exact ⟨⟨(hpop hm).2, hs ▸ hsent⟩, .inl rfl⟩
  | @transmit _ msg _ _ _ smppMsg _ _ hm _ _ hs htry =>
    obtain ⟨packed, htry⟩ := htry
    obtain ⟨hmsg, hrest⟩ := hpop hm
    refine ⟨⟨hrest, fun e he => ?_⟩, .inl rfl⟩
    rw [hs, AList.entries_insert] at he
    obtain rfl | hold := List.mem_cons.mp he
    · exact hready msg _ (by rw [htry]; rfl) (by rw [htry]; rfl) hmsg
    · exact hsent e ((List.kerase_sublist _ _).subset hold)
  | flushDrop _ hm hs _ => exact ⟨⟨(hpop hm).2, hs ▸ hsent⟩, .inl rfl⟩
  | flushQueued hm hs hback =>
    obtain ⟨now, hnow, rfl⟩ := hback
    obtain ⟨hmsg, hrest⟩ := hpop hm
    exact ⟨⟨hrest, hs ▸ hsent⟩, .inr ⟨_, c, now, hnow, hmsg, produceOutgoingMsg_outgoingMsg ..⟩⟩
  | giveBack hm hlookup hs hback =>
    obtain ⟨now, hnow, rfl⟩ := hback
    exact ⟨⟨hm ▸ hmsgs, herase hs⟩,
      .inr ⟨_, c, now, hnow, hkey hlookup, produceOutgoingMsg_outgoingMsg ..⟩⟩
  | nack _ _ hm _ hs => exact ⟨⟨hm ▸ hmsgs, herase hs⟩, .inl rfl⟩
  | answer _ _ hm _ hs _ hq => exact ⟨⟨hm ▸ hmsgs, herase hs⟩, .inl (by rw [hq])⟩
  | @answerRetry _ _ _ _ smppMsg _ _ _ _ hm hlookup hs _ hback =>
    obtain ⟨now, hnow, rfl⟩ := hback
    have hmsg : Ready { smppMsg.msg with msgState := .sentResp } :=
      hready smppMsg.msg _ rfl rfl (hkey hlookup)
    exact ⟨⟨hm ▸ hmsgs, herase hs⟩,
      .inr ⟨_, c, now, hnow, hmsg, produceOutgoingMsg_outgoingMsg ..⟩⟩

end Holds

/-- Every message of the process is as it should be: before the router, or elsewhere. -/
structure System.Holds (Ready Out : Msg → Prop) (s : System) : Prop where
  inHand : ∀ m ∈ s.inHand, Ready m
  outgoing : ∀ m ∈ s.process.queues.outgoingMsg, Out m
  conns : ∀ conn ∈ s.process.smscList, conn.Holds Ready

/-- The message that a step puts in `outgoing_msg`: one that is handed back at the time of the step, or
one in hand that waits for its SMSCs. -/
inductive Puts (lib : Gwlib) (t : Traffic) (Ready : Msg → Prop) : TrafficEvent → Msg → Prop
  | handedBack {e : TrafficEvent} {m : Msg} {conn : SmscConn} {now : ℤ} (hnow : now ∈ e.now?)
      (hrouter : ∀ recheck now, e ≠ .system (.msgRouter recheck now)) (hm : Ready m) :
      Puts lib t Ready e (handedBack now conn m)
  | waits {k : ℕ} {stack : ℤ} {m : Msg} (hm : t.system.inHand[k]? = some m)
      (hwaits : WaitsForSmsc lib t.system.process m) : Puts lib t Ready (.system (.rout k stack)) m

/-- What a step leaves: messages as they should be, apart from the one it puts in `outgoing_msg`. -/
structure Leaves (lib : Gwlib) (Ready : Msg → Prop) (t : Traffic) (e : TrafficEvent) (t' : Traffic) :
    Prop where
  inHand : ∀ m ∈ t'.system.inHand, Ready m
  conns : ∀ conn ∈ t'.system.process.smscList, conn.Holds Ready
  outgoing : (∀ m ∈ t'.system.process.queues.outgoingMsg, m ∈ t.system.process.queues.outgoingMsg) ∨
    ∃ m, Puts lib t Ready e m ∧
      t'.system.process.queues.outgoingMsg = t.system.process.queues.outgoingMsg ++ [m]

section Process

variable {lib : Gwlib} {cfg : ClientCfg} {Ready Out : Msg → Prop} {t t' : Traffic} {s s' : System}
  {msg : Msg} {i : ℕ}

theorem System.Holds.set (h : s.Holds Ready Out) {conn : SmscConn} (hconn : conn.Holds Ready) (i : ℕ) :
    ∀ c ∈ s.process.smscList.set i conn, c.Holds Ready := by
  intro c hc
  obtain hold | rfl := List.mem_or_eq_of_mem_set hc
  · exact h.conns c hold
  · exact hconn

/-- A step of a thread of a connection. -/
theorem Leaves.of_moves {e : TrafficEvent} {ev : IoEvent} {q : Queues} {c c' c'' : SmscConn}
    (hs : t.system.Holds Ready Out) (hready : Stamped Ready) (hev : e.now? = ev.now?)
    (hrouter : ∀ recheck now, e ≠ .system (.msgRouter recheck now)) (hc : c.Holds Ready)
    (hmoves : Moves lib cfg ev t.system.process.queues c q c')
    (ht' : t'.system = (t.system.setQueues q).setConn i c'') (hdata : c''.data = c'.data) :
    Leaves lib Ready t e t' := by
  obtain ⟨hholds, hout⟩ := hmoves.holds hready hc
  have hconn : c''.Holds Ready := by
    rw [SmscConn.Holds, hdata]
    exact hholds
  refine ⟨ht' ▸ hs.inHand, ht' ▸ hs.set hconn i, ?_⟩
  have hq : t'.system.process.queues = q := by rw [ht']; rfl
  rw [hq]
  obtain hsame | ⟨m, conn, now, hnow, hm, hput⟩ := hout
  · exact .inl fun m hm => hsame ▸ hm
  · exact .inr ⟨_, .handedBack (hev ▸ hnow) hrouter hm, hput⟩

/-- A step that takes no message anywhere. -/
theorem Leaves.of_eq {e : TrafficEvent} (hs : t.system.Holds Ready Out)
    (hhand : t'.system.inHand = t.system.inHand)
    (hconns : ∀ conn ∈ t'.system.process.smscList, conn.Holds Ready)
    (hout : t'.system.process.queues.outgoingMsg = t.system.process.queues.outgoingMsg) :
    Leaves lib Ready t e t' :=
  ⟨hhand ▸ hs.inHand, hconns, .inl fun _ hm => hout ▸ hm⟩

/-- A connection is replaced. -/
theorem Leaves.of_set {e : TrafficEvent} {c : SmscConn} (hs : t.system.Holds Ready Out)
    (hhand : t'.system.inHand = t.system.inHand)
    (hconns : t'.system.process.smscList = t.system.process.smscList.set i c)
    (hout : t'.system.process.queues.outgoingMsg = t.system.process.queues.outgoingMsg)
    (hc : c.Holds Ready) : Leaves lib Ready t e t' :=
  .of_eq hs hhand (hconns ▸ hs.set hc i) hout

/-- `handle_request`: a new message has no time stamp. -/
theorem leaves_handleRequest {submit : Submit} (hs : t.system.Holds Ready Out)
    (hnew : ∀ m : Msg, m.msgRetryTime = 0 → Ready m)
    (h : handleRequest lib cfg t.system submit = some s') :
    Leaves lib Ready t (.system (.handleRequest submit)) { t with system := s' } := by
  cases handleRequest_outcome h with
  | recorded | destroyed => exact .of_eq hs rfl hs.conns rfl
  | taken =>
    exact ⟨List.forall_mem_append.mpr ⟨hs.inHand, List.forall_mem_singleton.mpr (hnew _ rfl)⟩, hs.conns,
      .inl fun _ hm => hm⟩

/-- `smsc2_rout` with a message in hand. -/
theorem leaves_rout {k : ℕ} {stack : ℤ} (hs : t.system.Holds Ready Out) (hready : Stamped Ready)
    (h : routInHand lib cfg t.system k stack = some s') :
    Leaves lib Ready t (.system (.rout k stack)) { t with system := s' } := by
  obtain ⟨message, r, p, hmsg, hrout, rfl⟩ := routInHand_eq_some h
  have hmessage : Ready message := hs.inHand message (List.mem_of_getElem? hmsg)
  refine ⟨fun m hm => hs.inHand m (List.mem_of_mem_eraseIdx hm), ?_, ?_⟩
  · cases smsc2Rout_outcome hrout with
    | lost | queued | destroyed _ _ => exact hs.conns
    | @handedOver i conn hconn =>
      obtain ⟨hmsgs, hsent⟩ := hs.conns conn (List.mem_of_getElem? hconn)
      have hqueued : (sendMsgCb conn { message with msgState := .notSent }).Holds Ready := by
        refine ⟨?_, hsent⟩
        simp only [sendMsgCb, msgDuplicate_eq]
        exact List.forall_mem_append.mpr
          ⟨hmsgs, List.forall_mem_singleton.mpr (hready message _ rfl rfl hmessage)⟩
      exact hs.set hqueued i
  · obtain hsame | ⟨hwaits, hput⟩ := smsc2Rout_outgoing hrout
    · exact .inl fun m hm => hsame ▸ hm
    · exact .inr ⟨message, .waits hmsg hwaits, hput⟩

/-- **A step of the router** puts nothing in `outgoing_msg` that was not there. -/
theorem leaves_msgRouter {recheck : Bool} {now : ℤ} {e : TrafficEvent}
    (hs : t.system.Holds Ready Out) (hready : Stamped Ready) (hout : ∀ m, Out m → Ready m)
    (h : msgRouter lib cfg t.system recheck now = some s') :
    Leaves lib Ready t e { t with system := s' } := by
  have htail : ∀ m ∈ t.system.process.queues.outgoingMsg.tail,
      m ∈ t.system.process.queues.outgoingMsg := fun m hm => List.mem_of_mem_tail hm
  have hnextMem : ∀ {msg}, t.system.nextMsg = some msg → msg ∈ t.system.process.queues.outgoingMsg := by
    intro msg hnext
    obtain ⟨rest, hmsgs⟩ := System.outgoingMsg_of_nextMsg hnext
    exact hmsgs ▸ List.mem_cons_self
  cases msgRouter_outcome h with
  | quiet => exact .of_eq hs rfl hs.conns rfl
  | emptied => exact ⟨hs.inHand, hs.conns, .inl fun m hm => absurd hm List.not_mem_nil⟩
  | lost => exact ⟨hs.inHand, hs.conns, .inl htail⟩
  | givenUp hnext hstatus hgiveUp =>
    obtain ⟨hhand, -, hconns, hqueue⟩ := giveUp_same hgiveUp
    refine ⟨hhand ▸ hs.inHand, hconns ▸ hs.conns, .inl ?_⟩
    rw [hqueue]
    exact htail
  | putBack pc hnext =>
    refine ⟨hs.inHand, hs.conns, .inl fun m hm => ?_⟩
    obtain hold | hback := List.mem_append.mp hm
    · exact htail m hold
    · exact List.mem_singleton.mp hback ▸ hnextMem hnext
  | @merged msg left hnext =>
    refine ⟨List.forall_mem_append.mpr ⟨hs.inHand, List.forall_mem_singleton.mpr ?_⟩, hs.conns, .inl htail⟩
    exact hready msg _ rfl rfl (hout msg (hs.outgoing msg (hnextMem hnext)))

/-- **Every step** leaves the messages as they should be, apart from the one it puts in
`outgoing_msg`. -/
theorem trafficStep_leaves {e : TrafficEvent} (hs : t.system.Holds Ready Out) (hready : Stamped Ready)
    (hnew : ∀ m : Msg, m.msgRetryTime = 0 → Ready m) (hout : ∀ m, Out m → Ready m)
    (h : trafficStep lib cfg t e = some t') : Leaves lib Ready t e t' := by
  cases e with
  | receive i ev =>
    obtain ⟨conn, rx, q, conn', hconn, hrx, rfl⟩ := trafficStep_receive h
    have hholds : (conn.withThread rx).Holds Ready := hs.conns conn (List.mem_of_getElem? hconn)
    have hmoves := rxThread_moves hrx
    exact .of_moves hs hready rfl (by simp) hholds hmoves rfl rfl
  | system e =>
    cases e with
    | io i ev =>
      obtain ⟨conn, q, conn', hconn, hio, rfl⟩ := trafficStep_io h
      exact .of_moves hs hready rfl (by simp) (hs.conns conn (List.mem_of_getElem? hconn))
        (ioThread_moves hio) rfl rfl
    | handleRequest submit =>
      obtain ⟨s', hs', rfl⟩ := Option.map_eq_some_iff.mp h
      exact leaves_handleRequest hs hnew hs'
    | rout k stack =>
      obtain ⟨s', hs', rfl⟩ := Option.map_eq_some_iff.mp h
      exact leaves_rout hs hready hs'
    | msgRouter recheck now =>
      obtain ⟨s', hs', rfl⟩ := Option.map_eq_some_iff.mp h
      exact leaves_msgRouter hs hready hout hs'
    | shutdownCb i =>
      obtain ⟨s', hs', rfl⟩ := Option.map_eq_some_iff.mp h
      obtain ⟨conn, hconn, ⟨-, rfl⟩ | ⟨-, rfl⟩⟩ := systemStep_shutdownCb hs'
      · exact .of_eq hs rfl hs.conns rfl
      · exact .of_set hs rfl rfl rfl (hs.conns conn (List.mem_of_getElem? hconn))
    | smppDestroy i =>
      obtain ⟨s', hs', rfl⟩ := Option.map_eq_some_iff.mp h
      obtain ⟨conn, hconn, -, rfl⟩ := systemStep_smppDestroy hs'
      exact .of_set hs rfl rfl rfl ⟨by simp, by simp⟩
    | smsc2RestartSmsc i conn =>
      obtain ⟨s', hs', rfl⟩ := Option.map_eq_some_iff.mp h
      obtain ⟨old, hold, ⟨-, -, hmsgs, hsent, -⟩, rfl⟩ := systemStep_smsc2RestartSmsc hs'
      exact .of_set hs rfl rfl rfl ⟨by simp [hmsgs], by simp [hsent]⟩
    | setClientStatus status =>
      rw [trafficStep_setClientStatus h]
      exact .of_eq hs rfl hs.conns rfl

end Process

/-! ## Whole runs

A message that has a time stamp was put before the router when it got it, or earlier: so what has waited too
long by its stamp has waited too long. -/

section Whole

variable {lib : Gwlib} {cfg : ClientCfg} {p p' : Clocked Traffic Stay} {e : ℤ × TrafficEvent}
  {log : List Stay} {msg : Msg} {serial : ℕ} {time : ℤ}

/-- The message was put in `outgoing_msg`, and its time stamp is no earlier. -/
def PutBefore (log : List Stay) (msg : Msg) : Prop :=
  ∃ time ∈ firstPut msg.serial log, time ≤ msg.msgRetryTime

/-- A message with a time stamp was put in `outgoing_msg` before. -/
def StampedBefore (log : List Stay) (msg : Msg) : Prop := msg.msgRetryTime = 0 ∨ PutBefore log msg

/-- **Between the steps**: every message before the router was put there no later than its time stamp, and
so was every other that has one. -/
structure Kept (p : Clocked Traffic Stay) : Prop where
  holds : p.state.system.Holds (StampedBefore p.log) (PutBefore p.log)
  past : ∀ serial, ∀ time ∈ firstPut serial p.log, time ≤ p.clock

/-- What was taken down stays. -/
theorem firstPut_append_of_mem (h : time ∈ firstPut serial log) (new : List Stay) :
    time ∈ firstPut serial (log ++ new) := by
  rw [firstPut, List.findSome?_append]
  exact Option.or_eq_some_iff.mpr (.inl h)

/-- A time is that of an earlier entry or of the new one. -/
theorem mem_firstPut_append {o : Option Stay} (h : time ∈ firstPut serial (log ++ o.toList)) :
    time ∈ firstPut serial log ∨ o = some (.put serial time) := by
  rw [firstPut, List.findSome?_append] at h
  obtain hold | ⟨-, hnew⟩ := Option.or_eq_some_iff.mp h
  · exact .inl hold
  · obtain ⟨a, ha, hsome⟩ := List.exists_of_findSome?_eq_some hnew
    cases a with
    | put n time' =>
      obtain ⟨rfl, htime⟩ := Option.ite_none_right_eq_some.mp hsome
      obtain rfl := Option.some.inj htime
      exact .inr (Option.mem_toList.mp ha)
    | expired n time' => exact absurd hsome (by simp)

/-- A message that is put in `outgoing_msg` was put there, then or before. -/
theorem exists_firstPut_put (serial : ℕ) (time : ℤ) (log : List Stay) :
    ∃ first ∈ firstPut serial (log ++ [.put serial time]),
      first ∈ firstPut serial log ∨ first = time := by
  rw [firstPut, List.findSome?_append]
  cases hold : List.findSome? _ log with
  | some first => exact ⟨first, rfl, .inl hold⟩
  | none => exact ⟨time, by simp, .inr rfl⟩

theorem PutBefore.append (h : PutBefore log msg) (new : List Stay) : PutBefore (log ++ new) msg := by
  obtain ⟨time, hmem, hle⟩ := h
  exact ⟨time, firstPut_append_of_mem hmem new, hle⟩

theorem StampedBefore.append (h : StampedBefore log msg) (new : List Stay) :
    StampedBefore (log ++ new) msg :=
  h.imp_right fun hput => hput.append new

theorem stamped_stampedBefore (log : List Stay) : Stamped (StampedBefore log) := by
  intro m m' hserial htime h
  rw [StampedBefore, PutBefore, hserial, htime]
  exact h

/-- A step takes down what it puts in `outgoing_msg`. -/
theorem stayNote_of_puts {t t' : Traffic} {Ready : Msg → Prop} (h : Puts lib t Ready e.2 msg)
    (hput : t'.system.process.queues.outgoingMsg = t.system.process.queues.outgoingMsg ++ [msg]) :
    stayNote cfg t e t' = some (.put msg.serial e.1) := by
  unfold stayNote
  split
  · rename_i recheck now heq
    cases heq ▸ h with
    | handedBack _ hrouter _ => exact absurd rfl (hrouter recheck now)
  · rw [hput, List.drop_left]
    rfl

/-- It takes it down at its own time. -/
theorem time_of_stayNote {t t' : Traffic} (h : stayNote cfg t e t' = some (.put serial time)) :
    time = e.1 := by
  unfold stayNote at h
  split at h
  · obtain ⟨m, -, heq⟩ := Option.map_eq_some_iff.mp h
    exact absurd heq (by simp)
  · obtain ⟨m, -, heq⟩ := Option.map_eq_some_iff.mp h
    exact (Stay.put.inj heq).2.symm

/-- The message that a guarded step puts in `outgoing_msg` was put there no later than its time stamp. -/
theorem Kept.putBefore (hk : Kept p) (hg : Dated lib p e) (hclock : p.clock ≤ e.1)
    (hnow : ∀ now ∈ e.2.now?, now = e.1) (h : Puts lib p.state (StampedBefore p.log) e.2 msg) :
    PutBefore (p.log ++ [.put msg.serial e.1]) msg := by
  obtain ⟨now, ev⟩ := e
  cases h with
  | @handedBack _ m conn time hmem _ hm =>
    obtain rfl : time = now := hnow time hmem
    obtain ⟨first, hfirst, hwhen⟩ := exists_firstPut_put m.serial time p.log
    refine ⟨first, hfirst, ?_⟩
    -- the time of the first entry is past, and so is that of the step
    have hpast : first ≤ time := by
      obtain hold | rfl := hwhen
      · exact (hk.past _ first hold).trans hclock
      · exact le_rfl
    rw [handedBack]
    dsimp only
    split
    · exact hpast
    · rename_i hstamp
      obtain ⟨first', hfirst', hle⟩ := hm.resolve_left hstamp
      have hsame := firstPut_append_of_mem hfirst' [.put m.serial time]
      obtain rfl := Option.some.inj (hfirst.symm.trans hsame)
      exact hle
  | waits hm hwaits =>
    have hstamped := hk.holds.inHand msg (List.mem_of_getElem? hm)
    exact (hstamped.resolve_left (hg msg hm hwaits)).append _

/-- **A guarded step keeps the time stamps.** -/
theorem Kept.step (hk : Kept p) (hg : Dated lib p e) (h : stayStep lib cfg p e = some p') : Kept p' := by
  obtain ⟨hclock, hnow, t', ht, rfl⟩ := clockedStep_eq_some.mp h
  have hnow : ∀ now ∈ e.2.now?, now = e.1 := hnow
  obtain ⟨hhand, hconns, hout⟩ := trafficStep_leaves hk.holds (stamped_stampedBefore p.log)
    (fun m hm => .inl hm) (fun m hm => .inr hm) ht
  refine ⟨⟨fun m hm => (hhand m hm).append _, fun m hm => ?_, fun conn hconn => ?_⟩, ?_⟩
  · obtain hsame | ⟨m₁, hputs, hput⟩ := hout
    · exact (hk.holds.outgoing m (hsame m hm)).append _
    · rw [stayNote_of_puts hputs hput]
      rw [hput] at hm
      obtain hold | hnew := List.mem_append.mp hm
      · exact (hk.holds.outgoing m hold).append _
      · obtain rfl := List.mem_singleton.mp hnew
        exact hk.putBefore hg hclock hnow hputs
  · obtain ⟨hmsgs, hsent⟩ := hconns conn hconn
    exact ⟨fun m hm => (hmsgs m hm).append _, fun e he => (hsent e he).append _⟩
  · intro serial time htime
    obtain hold | hnew := mem_firstPut_append htime
    · exact (hk.past serial time hold).trans hclock
    · exact (time_of_stayNote hnew).le

/-- **What expires was put in `outgoing_msg` long ago.** -/
theorem Kept.timely (hk : Kept p) (h : stayStep lib cfg p e = some p') :
    ∀ a ∈ stayNote cfg p.state e p'.state, Timely cfg.maxMsgDuration p.log a := by
  obtain ⟨hclock, hnow, t', ht, rfl⟩ := clockedStep_eq_some.mp h
  intro a ha
  unfold stayNote at ha
  split at ha
  · rename_i recheck now heq
    obtain ⟨msg, hmsg, rfl⟩ := Option.map_eq_some_iff.mp ha
    obtain rfl : now = e.1 := hnow now (by rw [heq]; rfl)
    unfold expiring at hmsg
    split at hmsg
    · rename_i left first rest hrouter hmsgs
      obtain ⟨⟨-, -, -, -, hexpired⟩, hsome⟩ := Option.ite_none_right_eq_some.mp hmsg
      obtain rfl := Option.some.inj hsome
      obtain ⟨time, htime, hle⟩ := hk.holds.outgoing first (hmsgs ▸ List.mem_cons_self)
      refine ⟨time, htime, ?_⟩
      omega
    · exact absurd hmsg (by simp)
  · obtain ⟨msg, -, rfl⟩ := Option.map_eq_some_iff.mp ha
    trivial

end Whole

/-- **In-memory expiry.**  In every run of the process from its start, by a clock that does not go back, in
which `smsc2_rout` puts no message without a time stamp in `outgoing_msg`: a message expires only if it
was first put there more than `max-msg-duration` seconds ago. -/
theorem timely_of_dated (lib : Gwlib) (cfg : ClientCfg) {p p' : Clocked Traffic Stay}
    (hs : p.state.Start) (hlog : p.log = []) {es : List (ℤ × TrafficEvent)}
    (hdated : Along (stayStep lib cfg) (Dated lib) p es)
    (hrun : exec (stayStep lib cfg) p es = some p') : Justified (Timely cfg.maxMsgDuration) p'.log := by
  have hstart : Kept p := by
    refine ⟨⟨?_, ?_, fun conn hconn => ?_⟩, ?_⟩
    · simp [hs.system.inHand]
    · simp [hs.system.queues]
    · obtain ⟨hmsgs, hsent⟩ := hs.system.fresh conn hconn
      exact ⟨by simp [hmsgs], by simp [hsent]⟩
    · simp [hlog, firstPut]
  exact justified_of_step (fun hk hg h => hk.step hg h) (fun hk _ h => hk.timely h) hstart
    (hlog ▸ Justified.nil _) hdated hrun

/-- Messages may wait for a minute. -/
def sampleMinute : ClientCfg := { dndcheckFlag := false, maxRetryLimit := 5, maxMsgDuration := 60 }

/-- The process with one connection, by the clock. -/
def sampleStay : Clocked Traffic Stay := ⟨sampleTraffic, 1000, []⟩

/-- The SMSC answers a submit with a full queue, and is lost; the router looks at the message at this
time. -/
def sampleWait (now : ℤ) : List (ℤ × TrafficEvent) :=
  [(1000, .io 0 (.enter true 1000)), (1000, .io 0 (.connWait true 1000)),
   (1001, .io 0 (.readPdu (.bindTransmitterResp 0) 1001)), (1001, .handleRequest sampleSubmit),
   (1001, .rout 0 0), (1001, .io 0 (.send true 1001)), (1001, .io 0 (.send true 1001)),
   (1002, .io 0 (.readPdu (.submitSmResp 2 0x14 none) 1002)), (now, .msgRouter true now),
   (now, .msgRouter true now)].map fun e => (e.1, .system e.2)

theorem timely_sampleWait :
    ∃ p', exec (stayStep sampleGwlib sampleMinute) sampleStay (sampleWait 1063) = some p' ∧
      p'.log = [.put 1 1002, .expired 1 1063] ∧ Justified (Timely 60) p'.log := by
  have hruns : (exec (stayStep sampleGwlib sampleMinute) sampleStay (sampleWait 1063)).map (·.log) =
      some [.put 1 1002, .expired 1 1063] := by decide +kernel
  obtain ⟨p', hrun, hlog⟩ := Option.map_eq_some_iff.mp hruns
  exact ⟨p', hrun, hlog, timely_of_dated sampleGwlib sampleMinute (p := sampleStay)
    ⟨sampleSystem_start, rfl⟩ rfl (by decide +kernel) hrun⟩

/-- The SMSC is not connected yet: the message expires one second after it was put before the router. -/
theorem not_timely :
    ¬ ∀ (lib : Gwlib) (cfg : ClientCfg) (p p' : Clocked Traffic Stay) (es : List (ℤ × TrafficEvent)),
      0 ≤ cfg.maxMsgDuration → p.state.Start → p.log = [] → exec (stayStep lib cfg) p es = some p' →
      Justified (Timely cfg.maxMsgDuration) p'.log := by
  intro h
  have hruns : (exec (stayStep sampleGwlib sampleMinute) sampleStay
      ([(1000, .handleRequest sampleSubmit), (1000, .rout 0 0), (1001, .msgRouter true 1001),
        (1001, .msgRouter true 1001)].map fun e => (e.1, .system e.2))).map (·.log) =
      some ([.put 1 1000] ++ [.expired 1 1001]) := by decide +kernel
  obtain ⟨p', hrun, hlog⟩ := Option.map_eq_some_iff.mp hruns
  obtain ⟨time, htime, hlong⟩ := h _ _ _ _ _ (by decide) ⟨sampleSystem_start, rfl⟩ rfl hrun _ _ _ hlog
  obtain rfl : 1000 = time := Option.some.inj htime
  exact absurd hlong (by decide)

end SmppServer.SmppSmsc
