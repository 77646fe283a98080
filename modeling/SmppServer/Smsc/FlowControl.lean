import SmppServer.Smsc.Route
import SmppServer.Machinery.Exec

/-!
# Smsc/FlowControl — the queue limits announced to the ESME process

A thread that lengthens `outgoing_msg` compares the length with `global_q_max` and announces limit 1;
the router compares it with `global_q_min` at the end of a pass and announces limit 2.  Appending,
comparing and sending are separate steps, so the threads interleave between them, and
`send_msg_reverse_server` discards what it cannot send.  The ESME process keeps the last limit it was
told, over every reconnect, and refuses submits while it is 1.

* `notStuck_of_announcedInTime` — a queue that was announced full is announced empty again, in every run that
  announces and loses no limit at the wrong moment.
* `exec_produce` — uninterrupted, the steps of a call make up `produceOutgoingMsg`.
-/

namespace SmppServer.SmppSmsc

open Machinery

/-! ## The steps

A call of `produce_outgoing_msg` is two steps behind its `gwlist_produce`: the comparison, and what is sent
because of it.  The router is cut in the same way. -/

/-- Where a call of `produce_outgoing_msg` is, behind its `gwlist_produce`. -/
inductive ProducePc
  | test
  | send
  deriving DecidableEq, Repr

/-- What becomes of a message the router took off the queue: it leaves the queue for good (routed,
recorded or destroyed), is put back while no SMSC is active, or comes back through the call of
`produce_outgoing_msg` in `smsc2_rout`. -/
inductive Outcome
  | gone
  | back
  | produced
  deriving DecidableEq, Repr

/-- Where `msg_router` is; `drain` is behind its loop. -/
inductive FlowPc
  | idle
  | pass (left : ℕ)
  | routing (left : ℕ) (msg : Msg)
  | produce (left : ℕ) (pc : ProducePc)
  | announce
  | drain
  deriving DecidableEq, Repr

/-- A pass is in progress. -/
def FlowPc.inPass : FlowPc → Bool
  | .idle | .drain => false
  | _ => true

/-- The queue, the threads that work on it, the connection to the ESME process with the limits under
way on it, and the limit the ESME process holds. -/
structure FlowControl where
  smppClientStatus : ClientStatus := .running
  outgoingMsg : List Msg := []
  producers : List ProducePc := []
  router : FlowPc := .idle
  reverseConnected : Bool := false
  inFlight : List ℤ := []
  globalQLimit : ℤ := -1
  deriving DecidableEq, Repr

/-- What happens.  A connection that breaks still delivers the first `kept` limits under way on it. -/
inductive FlowEvent
  | produceOutgoingMsg (sms : Msg)
  | produceNext (k : ℕ)
  | msgRouter (outcome : Outcome)
  | setClientStatus (status : ClientStatus)
  | disconnect (kept : ℕ)
  | connect
  | handleGlobalQMsg
  | restart (kept : ℕ)
  deriving DecidableEq, Repr

/-- A message that is sent to the reverse client now is not discarded. -/
def FlowControl.Reaches (s : FlowControl) : Prop :=
  s.smppClientStatus = .running ∧ s.reverseConnected = true

instance (s : FlowControl) : Decidable s.Reaches := inferInstanceAs (Decidable (_ ∧ _))

/-- `send_msg_reverse_server` with a `global_q_msg`. -/
def sendMsgReverseServer (s : FlowControl) (qLimit : ℤ) : FlowControl :=
  if s.Reaches then { s with inFlight := s.inFlight ++ [qLimit] } else s

section Steps

variable (cfg : ClientCfg)

/-- The next step of a call of `produce_outgoing_msg`, and where the call is then. -/
def produceNext (s : FlowControl) : ProducePc → FlowControl × Option ProducePc
  | .test =>
    (s, if cfg.globalQMax ≠ -1 ∧ cfg.globalQMax ≤ s.outgoingMsg.length then some .send else none)
  | .send => (sendMsgReverseServer s 1, none)

/-- One step of `msg_router`. -/
def flowRouter (s : FlowControl) (outcome : Outcome) : FlowControl :=
  match s.router with
  | .idle =>
    if s.smppClientStatus = .running then
      if 0 < s.outgoingMsg.length then { s with router := .pass s.outgoingMsg.length } else s
    else { s with router := .drain }
  | .pass 0 =>
    if cfg.globalQMin ≠ -1 ∧ (s.outgoingMsg.length : ℤ) < cfg.globalQMin then
      { s with router := .announce }
    else { s with router := .idle }
  | .pass (left + 1) =>
    match s.outgoingMsg with
    | [] => { s with router := .pass left }
    | msg :: rest => { s with outgoingMsg := rest, router := .routing left msg }
  | .routing left msg =>
    match outcome with
    | .gone => { s with router := .pass left }
    | .back => { s with outgoingMsg := s.outgoingMsg ++ [msg], router := .pass left }
    | .produced =>
      { s with outgoingMsg := s.outgoingMsg ++ [msg], router := .produce left .test }
  | .produce left pc =>
    let (s, next) := produceNext cfg s pc
    { s with router := next.elim (.pass left) (.produce left) }
  | .announce => { sendMsgReverseServer s 2 with router := .idle }
  | .drain => { s with outgoingMsg := s.outgoingMsg.tail }

/-- **One step of the processes.**  A process that restarts has an empty queue, no calls under way, and
no reverse client yet. -/
def flowStep (s : FlowControl) : FlowEvent → Option FlowControl
  | .produceOutgoingMsg sms =>
    some { s with outgoingMsg := s.outgoingMsg ++ [sms], producers := s.producers ++ [.test] }
  | .produceNext k =>
    match s.producers[k]? with
    | none => none
    | some pc =>
      let (s, next) := produceNext cfg s pc
      some { s with producers := next.elim (s.producers.eraseIdx k) (s.producers.set k) }
  | .msgRouter outcome => some (flowRouter cfg s outcome)
  | .setClientStatus status => some { s with smppClientStatus := status }
  | .disconnect kept =>
    some { s with reverseConnected := false, inFlight := s.inFlight.take kept }
  | .connect => some { s with reverseConnected := true }
  | .handleGlobalQMsg =>
    match s.inFlight with
    | [] => none
    | qLimit :: rest => some { s with globalQLimit := qLimit, inFlight := rest }
  | .restart kept =>
    some { inFlight := s.inFlight.take kept, globalQLimit := s.globalQLimit }

end Steps

/-- **Uninterrupted, a call is `produceOutgoingMsg`**: from a state that agrees with the queues, its
steps lead to one that agrees with the queues behind the call. -/
theorem exec_produce {cfg : ClientCfg} {s : FlowControl} {q : Queues} (sms : Msg)
    (hqueue : s.outgoingMsg = q.outgoingMsg) (hflight : s.inFlight = q.globalQMsg)
    (hcalls : s.producers = []) (hr : s.Reaches) :
    ∃ es s', exec (flowStep cfg) s (.produceOutgoingMsg sms :: es) = some s' ∧
      s'.outgoingMsg = (produceOutgoingMsg cfg q sms).outgoingMsg ∧
      s'.inFlight = (produceOutgoingMsg cfg q sms).globalQMsg ∧ s'.producers = [] := by
  have hr' : FlowControl.Reaches
      { s with outgoingMsg := q.outgoingMsg ++ [sms], producers := [.send] } := hr
  by_cases hfull : ¬ cfg.globalQMax = -1 ∧ cfg.globalQMax ≤ q.outgoingMsg.length + 1
  · refine ⟨[.produceNext 0, .produceNext 0],
      { s with
        outgoingMsg := s.outgoingMsg ++ [sms]
        producers := []
        inFlight := s.inFlight ++ [1] }, ?_, ?_, ?_, rfl⟩
    · simp [exec, flowStep, hcalls, produceNext, hqueue, hfull, sendMsgReverseServer, hr']
    · simp [hqueue]
    · simp [produceOutgoingMsg, hflight, hfull]
  · refine ⟨[.produceNext 0],
      { s with outgoingMsg := s.outgoingMsg ++ [sms], producers := [] }, ?_, ?_, ?_, rfl⟩
    · simp [exec, flowStep, hcalls, produceNext, hqueue, hfull]
    · simp [hqueue]
    · simp [produceOutgoingMsg, hflight, hfull]

/-! ## What is announced last

What counts is the limit that will be held once everything under way has arrived.  It is stuck only if that
limit is 1 and nobody is going to look at the queue again. -/

/-- Nothing is queued, under way or in progress. -/
structure FlowControl.Quiescent (s : FlowControl) : Prop where
  outgoingMsg : s.outgoingMsg = []
  inFlight : s.inFlight = []
  producers : s.producers = []
  router : s.router.inPass = false

/-- Flow control does not stick: nothing to wait for, nothing refused. -/
def FlowControl.NotStuck (s : FlowControl) : Prop := s.Quiescent → s.globalQLimit ≠ 1

/-- The limit the ESME process holds once everything under way has arrived. -/
def announced (globalQLimit : ℤ) (inFlight : List ℤ) : ℤ := inFlight.getLast?.getD globalQLimit

@[simp] theorem announced_nil (globalQLimit : ℤ) : announced globalQLimit [] = globalQLimit := rfl

@[simp] theorem announced_concat (globalQLimit qLimit : ℤ) (inFlight : List ℤ) :
    announced globalQLimit (inFlight ++ [qLimit]) = qLimit := by
  simp [announced]

/-- Handling the first limit under way does not change which one is last. -/
theorem announced_cons (globalQLimit qLimit : ℤ) (inFlight : List ℤ) :
    announced qLimit inFlight = announced globalQLimit (qLimit :: inFlight) := by
  cases inFlight with
  | nil => rfl
  | cons a l => simp [announced, List.getLast?_cons]

/-- The router still has a comparison with `global_q_min` ahead of it: it is in a pass, or in its loop
with a message to go over. -/
def FlowControl.Relief (s : FlowControl) : Prop :=
  s.router ≠ .drain ∧ (s.outgoingMsg ≠ [] ∨ s.router.inPass = true)

instance (s : FlowControl) : Decidable s.Relief := inferInstanceAs (Decidable (_ ∧ _))

/-- The invariant: what is announced full will be looked at again. -/
def FlowControl.Relieved (s : FlowControl) : Prop :=
  announced s.globalQLimit s.inFlight = 1 → s.Relief

theorem FlowControl.Relieved.notStuck {s : FlowControl} (h : s.Relieved) : s.NotStuck := by
  rintro ⟨hqueue, hflight, -, hpass⟩ hlimit
  obtain ⟨-, hne | hin⟩ := h (by rw [hflight, announced_nil, hlimit])
  · exact hne hqueue
  · exact Bool.false_ne_true (hpass.symm.trans hin)

/-! ## The condition -/

/-- The router announces limit 2 while it is discarded, or leaves its loop: from then on a queue that
was announced full is not looked at again. -/
def FlowControl.Forgets (s : FlowControl) : Prop :=
  (s.router = .announce ∧ ¬ s.Reaches) ∨ (s.router = .idle ∧ s.smppClientStatus ≠ .running)

instance (s : FlowControl) : Decidable s.Forgets := inferInstanceAs (Decidable (_ ∨ _))

/-- **Nothing is announced or lost at the wrong moment.**  Limit 1 is sent only while the router has a
comparison ahead of it.  Where the last limit announced is 1, the router neither has its limit 2
discarded nor leaves its loop.  A connection that breaks leaves limit 1 behind only while the router
has a comparison ahead of it, and a restart does not leave it behind. -/
def AnnouncedInTime (s : FlowControl) : FlowEvent → Prop
  | .produceNext k => s.producers[k]? = some .send → s.Reaches → s.Relief
  | .msgRouter _ => s.Forgets → announced s.globalQLimit s.inFlight ≠ 1
  | .disconnect kept => announced s.globalQLimit (s.inFlight.take kept) = 1 → s.Relief
  | .restart kept => announced s.globalQLimit (s.inFlight.take kept) ≠ 1
  | _ => True

instance (s : FlowControl) : ∀ e, Decidable (AnnouncedInTime s e)
  | .produceNext k => inferInstanceAs (Decidable (s.producers[k]? = some .send → _))
  | .msgRouter _ => inferInstanceAs (Decidable (_ → _))
  | .disconnect _ => inferInstanceAs (Decidable (_ → _))
  | .restart _ => inferInstanceAs (Decidable (_ ≠ _))
  | .produceOutgoingMsg _ | .setClientStatus _ | .connect | .handleGlobalQMsg => .isTrue trivial

/-! ## The invariant is kept

A limit 1 is sent while the router has a comparison ahead of it; that comparison finds the queue below
`global_q_min` or leaves something in it, which brings the router to the next one. -/

section Invariant

variable {cfg : ClientCfg} {s s' : FlowControl}

@[simp] theorem sendMsgReverseServer_outgoingMsg (s : FlowControl) (qLimit : ℤ) :
    (sendMsgReverseServer s qLimit).outgoingMsg = s.outgoingMsg := by
  rw [sendMsgReverseServer]
  split <;> rfl

@[simp] theorem sendMsgReverseServer_router (s : FlowControl) (qLimit : ℤ) :
    (sendMsgReverseServer s qLimit).router = s.router := by
  rw [sendMsgReverseServer]
  split <;> rfl

theorem sendMsgReverseServer_of_reaches (h : s.Reaches) (qLimit : ℤ) :
    (sendMsgReverseServer s qLimit).inFlight = s.inFlight ++ [qLimit] := by
  rw [sendMsgReverseServer, if_pos h]

theorem sendMsgReverseServer_of_not_reaches (h : ¬ s.Reaches) (qLimit : ℤ) :
    sendMsgReverseServer s qLimit = s := by
  rw [sendMsgReverseServer, if_neg h]

/-- Limit 1 is sent while the router has a comparison ahead of it, or is discarded. -/
theorem FlowControl.Relieved.sendFull (h : s.Relieved) (hsend : s.Reaches → s.Relief) :
    (sendMsgReverseServer s 1).Relieved := by
  by_cases hr : s.Reaches
  · intro _
    have hrelief := hsend hr
    rwa [Relief, ← sendMsgReverseServer_outgoingMsg s 1, ← sendMsgReverseServer_router s 1] at hrelief
  · rwa [sendMsgReverseServer_of_not_reaches hr]

/-- The steps of a call of `produce_outgoing_msg`. -/
theorem FlowControl.Relieved.produceNext (cfg : ClientCfg) (h : s.Relieved) {pc : ProducePc}
    (hsend : pc = .send → s.Reaches → s.Relief) : (produceNext cfg s pc).1.Relieved := by
  cases pc with
  | test => exact h
  | send => exact h.sendFull (hsend rfl)

/-- A step that leaves the announced limit alone only has to keep the relief. -/
theorem FlowControl.Relieved.mono (h : s.Relieved)
    (hann : announced s'.globalQLimit s'.inFlight = announced s.globalQLimit s.inFlight)
    (hrelief : s.Relief → s'.Relief) : s'.Relieved := by
  intro hone
  rw [hann] at hone
  exact hrelief (h hone)

/-- In a pass the relief is the pass itself. -/
theorem FlowControl.relief_of_inPass (h : s.router.inPass = true) : s.Relief := by
  refine ⟨?_, .inr h⟩
  intro hdrain
  rw [hdrain] at h
  exact Bool.false_ne_true h

/-- Behind a pass that found nothing below `global_q_min` there is something in the queue. -/
theorem outgoingMsg_ne_nil_of_not_below (hmin : 1 ≤ cfg.globalQMin)
    (h : ¬ (cfg.globalQMin ≠ -1 ∧ (s.outgoingMsg.length : ℤ) < cfg.globalQMin)) :
    s.outgoingMsg ≠ [] := by
  intro hnil
  refine h ⟨by omega, ?_⟩
  rw [hnil, List.length_nil]
  omega

/-- The router's step from a place in or before a pass. -/
theorem FlowControl.Relieved.flowRouter (h : s.Relieved) (hmin : 1 ≤ cfg.globalQMin)
    (outcome : Outcome) (hg : s.Forgets → announced s.globalQLimit s.inFlight ≠ 1) :
    (flowRouter cfg s outcome).Relieved := by
  rw [SmppSmsc.flowRouter]
  split
  · rename_i hpc
    split
    · split
      · exact fun _ => relief_of_inPass rfl
      · exact h
    · rename_i hstatus
      intro hone
      exact absurd hone (hg (.inr ⟨hpc, hstatus⟩))
  · split
    · exact fun _ => relief_of_inPass rfl
    · rename_i hbelow
      intro _
      exact ⟨by simp, .inl (outgoingMsg_ne_nil_of_not_below hmin hbelow)⟩
  · split <;> exact fun _ => relief_of_inPass rfl
  · split <;> exact fun _ => relief_of_inPass rfl
  · rename_i left pc _
    intro _
    refine relief_of_inPass ?_
    rcases SmppSmsc.produceNext cfg s pc with ⟨s', _ | _⟩ <;> rfl
  · rename_i hpc
    by_cases hr : s.Reaches
    · intro hone
      simp only [sendMsgReverseServer_of_reaches hr, announced_concat] at hone
      exact absurd hone (by decide)
    · rw [sendMsgReverseServer_of_not_reaches hr]
      intro hone
      exact absurd hone (hg (.inl ⟨hpc, hr⟩))
  · rename_i hpc
    exact h.mono rfl fun hrelief => absurd hpc hrelief.1

/-- **One step in time keeps the relief.** -/
theorem FlowControl.Relieved.step {e : FlowEvent} (h : s.Relieved)
    (hmin : 1 ≤ cfg.globalQMin) (hg : AnnouncedInTime s e) (hs : flowStep cfg s e = some s') :
    s'.Relieved := by
  cases e with
  | produceOutgoingMsg sms =>
    rw [← Option.some.inj hs]
    exact h.mono rfl fun hrelief => ⟨hrelief.1, .inl (by simp)⟩
  | produceNext k =>
    simp only [flowStep] at hs
    split at hs
    · exact absurd hs (by simp)
    · rename_i pc hpc
      rw [← Option.some.inj hs]
      have hsend : pc = .send → s.Reaches → s.Relief := fun hsend => hg (by rw [hpc, hsend])
      exact (h.produceNext cfg hsend).mono rfl fun hrelief => hrelief
  | msgRouter outcome =>
    rw [← Option.some.inj hs]
    exact h.flowRouter hmin outcome hg
  | setClientStatus status =>
    rw [← Option.some.inj hs]
    exact h.mono rfl fun hrelief => hrelief
  | disconnect kept =>
    rw [← Option.some.inj hs]
    exact hg
  | connect =>
    rw [← Option.some.inj hs]
    exact h.mono rfl fun hrelief => hrelief
  | handleGlobalQMsg =>
    simp only [flowStep] at hs
    split at hs
    · exact absurd hs (by simp)
    · rename_i qLimit rest hflight
      rw [← Option.some.inj hs]
      refine h.mono ?_ fun hrelief => hrelief
      rw [hflight, announced_cons s.globalQLimit]
  | restart kept =>
    rw [← Option.some.inj hs]
    exact fun hone => absurd hone hg

/-- **Flow control does not stick** in a run that announces and loses no limit at the wrong moment,
from the start of both processes, where the router can find the queue below `global_q_min` at all. -/
theorem notStuck_of_announcedInTime (cfg : ClientCfg) (hmin : 1 ≤ cfg.globalQMin) (es : List FlowEvent)
    (hg : Along (flowStep cfg) AnnouncedInTime {} es) (hr : exec (flowStep cfg) {} es = some s) :
    s.NotStuck := by
  have hstart : FlowControl.Relieved {} := fun hone => absurd hone (by decide)
  exact (exec_invariant (fun hi hstep hs => hi.step hmin hstep hs) hstart hg hr).notStuck

end Invariant

/-- Settings with both limits. -/
def sampleLimits : ClientCfg := { dndcheckFlag := false, globalQMin := 1, globalQMax := 2 }

/-- Two messages are queued, the second call announces the full queue, and the router empties it. -/
def sampleRelief : List FlowEvent :=
  [.connect, .produceOutgoingMsg sampleMsg, .produceOutgoingMsg sampleMsg, .produceNext 1,
    .produceNext 1, .produceNext 0, .produceNext 0, .handleGlobalQMsg, .handleGlobalQMsg,
    .msgRouter .gone, .msgRouter .gone, .msgRouter .gone, .msgRouter .gone, .msgRouter .gone,
    .msgRouter .gone, .msgRouter .gone, .handleGlobalQMsg]

theorem notStuck_sampleRelief :
    FlowControl.NotStuck { reverseConnected := true, globalQLimit := 2 } :=
  notStuck_of_announcedInTime sampleLimits (by decide) sampleRelief (by decide) (by decide)

/-- The second call has found the queue full when the router empties it and says so; the call then
announces the full queue. -/
def sampleRace : List FlowEvent :=
  [.connect, .produceOutgoingMsg sampleMsg, .produceNext 0, .produceOutgoingMsg sampleMsg,
    .produceNext 0, .msgRouter .gone, .msgRouter .gone, .msgRouter .gone, .msgRouter .gone,
    .msgRouter .gone, .msgRouter .gone, .msgRouter .gone, .produceNext 0, .handleGlobalQMsg,
    .handleGlobalQMsg]

theorem stuck_sampleRace :
    sampleLimits.globalQMin ≠ -1 ∧ sampleLimits.globalQMax ≠ -1 ∧
      sampleLimits.globalQMin < sampleLimits.globalQMax ∧
      ∃ s, exec (flowStep sampleLimits) {} sampleRace = some s ∧ ¬ s.NotStuck := by
  refine ⟨by decide, by decide, by decide, { reverseConnected := true, globalQLimit := 1 }, by decide,
    fun h => ?_⟩
  exact h ⟨rfl, rfl, rfl, rfl⟩ rfl

end SmppServer.SmppSmsc
