import SmppServer.Smsc.Retransmit

/-!
# Smsc/Terminal — one terminal record for every message

A run of the whole process, receiving threads included, keeps the records and the fates of the messages
in step when each of its steps does.

* `recorded_of_inStep` — after every run of such steps a destroyed message has exactly one record, and a
  message that waits has none: see `System.InStep` for the steps that break this.
-/

namespace SmppServer.SmppSmsc

open Machinery

section Guard

variable (lib : Gwlib) (cfg : ClientCfg)

/-- **A step after which records and fates agree**, in the process or in a receiving thread: there too
no answer is recorded for a message that is tried again, or left unrecorded for one that is not. -/
def Traffic.InStep (t : Traffic) : TrafficEvent → Prop
  | .system e => t.system.InStep lib cfg e
  | .receive i ev => ∀ conn ∈ t.system.process.smscList[i]?, PduKept conn ev.pdu?

instance (t : Traffic) : ∀ e, Decidable (t.InStep lib cfg e)
  | .system e => inferInstanceAs (Decidable (t.system.InStep lib cfg e))
  | .receive i ev =>
    inferInstanceAs (Decidable (∀ conn ∈ t.system.process.smscList[i]?, PduKept conn ev.pdu?))

end Guard

section Runs

variable {lib : Gwlib} {cfg : ClientCfg} {t t' : Traffic}

/-- A step of the process with its traffic is one of the process. -/
theorem systemStep_of_trafficStep {e : SystemEvent} (h : trafficStep lib cfg t (.system e) = some t') :
    systemStep lib cfg t.system e = some t'.system := by
  cases e with
  | io i ev =>
    rw [trafficStep] at h
    split at h
    · exact absurd h (by simp)
    · obtain ⟨s, hs, rfl⟩ := Option.map_eq_some_iff.mp h
      exact hs
  | setClientStatus status => exact trafficStep_setClientStatus h ▸ rfl
  | shutdownCb _ | smppDestroy _ | smsc2RestartSmsc _ _ | handleRequest _ | rout _ _ | msgRouter _ _ =>
    obtain ⟨s, hs, rfl⟩ := Option.map_eq_some_iff.mp h
    exact hs

/-- **Every guarded step is balanced**: a receiving thread makes the moves of the transmitting one. -/
theorem Traffic.balanced_step {e : TrafficEvent} (hg : t.InStep lib cfg e)
    (h : trafficStep lib cfg t e = some t') : t.system.Balanced t'.system := by
  cases e with
  | system e => exact System.balanced_step hg (systemStep_of_trafficStep h)
  | receive i ev =>
    obtain ⟨conn, rx, q, conn', hconn, hrx, rfl⟩ := trafficStep_receive h
    exact System.balanced_moves rx conn.thread hconn (hg conn hconn) (rxThread_moves hrx)

end Runs

/-- **Exactly one terminal record.**  In every run of the process from its start, over any submits,
responses, nacks, timeouts, reconnects and passes of the router, whose steps keep records and fates in
step: every destroyed message has exactly one record, and no message that waits has one. -/
theorem recorded_of_inStep (lib : Gwlib) (cfg : ClientCfg) {t t' : Traffic} (hs : t.Start)
    {es : List TrafficEvent} (hstep : Along (trafficStep lib cfg) (Traffic.InStep lib cfg) t es)
    (hrun : exec (trafficStep lib cfg) t es = some t') : t'.system.Recorded := by
  have hinv : t'.system.Inv :=
    exec_invariant (fun hi hg h => (Traffic.balanced_step hg h).inv hi) hs.system.inv hstep hrun
  exact hinv.recorded

/-- The process with a transmitting and a receiving thread. -/
def sampleDual : Traffic := { sampleTraffic with receivers := [some {}] }

/-- A submit is routed to the connection, sent, and answered with the status; then the receiving
thread opens its connection. -/
def sampleAnswered (status : ℤ) : List TrafficEvent :=
  (sampleRun status).map .system ++
    [.receive 0 (.enter true 1003), .receive 0 (.connWait true 1003)]

theorem recorded_sampleAnswered :
    ((exec (trafficStep sampleGwlib { dndcheckFlag := false }) sampleDual (sampleAnswered 0)).get
      (by decide)).system.Recorded :=
  recorded_of_inStep sampleGwlib { dndcheckFlag := false } (t := sampleDual) ⟨sampleSystem_start, rfl⟩
    (by decide) (Option.some_get _).symm

/-- The SMSC answers that its queue is full: the message has a record, and waits for the router. -/
theorem recorded_sampleAnswered_queueFull :
    ¬ ∀ (lib : Gwlib) (cfg : ClientCfg) (t : Traffic), t.Start → ∀ (es : List TrafficEvent)
      (t' : Traffic), exec (trafficStep lib cfg) t es = some t' → t'.system.Recorded := by
  intro hall
  have h := hall sampleGwlib { dndcheckFlag := false } sampleDual ⟨sampleSystem_start, rfl⟩
    (sampleAnswered 0x14) _ (Option.some_get (by decide)).symm
  exact h.waiting (octstrImm "a1") (by decide) (by decide)

end SmppServer.SmppSmsc
