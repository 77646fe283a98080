import SmppServer.Esme.AccountLife

/-!
# Esme/Backlog — the messages that wait for the SMSC process

While the forward or the reverse client has no connection, `handle_submit_sm` rejects a submit that finds
`smsc-unconnect-q-limit` messages for the SMSC process.  It compares for equality, though, and the message
of a submit is appended after the check: the list goes past the limit if it is long when a connection is
lost, if two sessions check before one of them appends, or if `main` announces itself to the SMSC process,
and a submit that finds it longer is accepted.

* `findsRoom_iff` — the states in which every submit that is accepted finds fewer messages than the limit.
* `always_findsRoom_iff` — the runs in which every state is one.
* `along_submitFindsRoom` — in these runs the submits of the history find room.
-/

namespace SmppServer.SmppEsme

open Machinery

/-! ## The two clients and the sessions

The check of a submit and the append of its message are steps of their own, with the accepted messages of the
sessions in `pending` between them.  A change of a connection may come at any place. -/

/-- A message for the SMSC process: of a submit, or the one by which `main` registers. -/
inductive ForwardMsg
  | submit (msg : SubmitMsg)
  | admin (command : ℤ) (connId : Octstr)
  deriving DecidableEq, Repr

/-- What the sessions share with the clients of the SMSC process and with `main`.  `pending` holds what the
thread of a session has accepted, and not yet appended. -/
structure Forwarding where
  programRunning : Bool := true
  reverseConnected : Bool := false
  forwardConnected : Bool := false
  globalQLimit : ℤ := -1
  sendList : List ForwardMsg := []
  pending : ℕ → Option SubmitMsg := fun _ => none

/-- A change of what `handle_submit_sm` looks at beside the list. -/
inductive StatusChange
  | program (running : Bool)
  | reverse (connected : Bool)
  | forward (connected : Bool)
  | globalQLimit (value : ℤ)
  deriving DecidableEq, Repr

def Forwarding.set (f : Forwarding) : StatusChange → Forwarding
  | .program running => { f with programRunning := running }
  | .reverse connected => { f with reverseConnected := connected }
  | .forward connected => { f with forwardConnected := connected }
  | .globalQLimit value => { f with globalQLimit := value }

/-- A client is not connected. -/
def Forwarding.Away (f : Forwarding) : Prop := f.reverseConnected = false ∨ f.forwardConnected = false

instance (f : Forwarding) : Decidable f.Away := instDecidableOr

/-- What `handle_submit_sm` finds; of the messages it only looks at how many they are. -/
def Forwarding.Shows (f : Forwarding) (srv : SubmitServer) : Prop :=
  srv.programRunning = f.programRunning ∧ srv.reverseConnected = f.reverseConnected ∧
    srv.forwardConnected = f.forwardConnected ∧ srv.globalQLimit = f.globalQLimit ∧
      srv.forwardSendList.length = f.sendList.length

instance (f : Forwarding) (srv : SubmitServer) : Decidable (f.Shows srv) := instDecidableAnd

/-- The message that `handle_submit_sm` hands to the forward client. -/
def Checked.forwarded (cfg : ServerCfg) (c : Checked) : Option SubmitMsg :=
  if cfg.dndcheckFlag = 0 then c.msg else none

/-- The thread of a session checks a submit, or appends its message; `main` registers; the thread of the
client takes the first message; or something changes. -/
inductive ForwardEvent
  | check (thread : ℕ) (env : SubmitEnv) (now : Moment) (srv : SubmitServer) (e : Esme) (session : ℕ)
      (tx : EsmeTx) (messageId : Octstr) (pdu : SubmitSm)
  | append (thread : ℕ)
  | register
  | write
  | status (change : StatusChange)

/-- One step of the threads. -/
def forwardStep (cfg : ServerCfg) (f : Forwarding) : ForwardEvent → Option Forwarding
  | .check thread env now srv e session tx messageId pdu =>
    if f.pending thread = none ∧ f.Shows srv then
      some { f with
        pending := Function.update f.pending thread
          ((checkSubmit env.lib cfg now srv e session tx messageId pdu).forwarded cfg) }
    else none
  | .append thread =>
    (f.pending thread).map fun msg =>
      { f with
        sendList := f.sendList ++ [.submit msg]
        pending := Function.update f.pending thread none }
  | .register =>
    some { f with sendList := f.sendList ++ [.admin 1 (octstrImm "smpp-esme-forward")] }
  | .write =>
    match f.sendList with
    | [] => none
    | _ :: rest => some { f with sendList := rest }
  | .status change => some (f.set change)

/-- A check and its append are what a call does to the list. -/
theorem answerSubmit_forwardSendList (lib : SubmitLib) (cfg : ServerCfg) (now : Moment)
    (srv : SubmitServer) (session : ℕ) (mode : ℤ) (ip messageId : Octstr) (pdu : SubmitSm) (c : Checked) :
    (answerSubmit lib cfg now srv session mode ip messageId pdu c).server.forwardSendList =
      srv.forwardSendList ++ (c.forwarded cfg).toList := by
  unfold answerSubmit Checked.forwarded
  cases c.msg with
  | none => split <;> simp
  | some msg =>
    dsimp only
    split <;> simp

/-! ## The limit

`FindsRoom` speaks of every submit that could be checked in a state, so a run is good when all its states are;
what a run's own submits find follows from it. -/

/-- **Every submit that is accepted while a client is away finds fewer messages than the limit.** -/
def FindsRoom (cfg : ServerCfg) (f : Forwarding) : Prop :=
  f.Away → ∀ (env : SubmitEnv) (now : Moment) (srv : SubmitServer) (e : Esme) (session : ℕ) (tx : EsmeTx)
    (messageId : Octstr) (pdu : SubmitSm), f.Shows srv →
      (checkSubmit env.lib cfg now srv e session tx messageId pdu).commandStatus = 0 →
        (f.sendList.length : ℤ) < cfg.smscQLimit

/-- Submits are accepted while a client is away. -/
def Forwarding.Open (f : Forwarding) : Prop := f.Away ∧ f.programRunning = true ∧ f.globalQLimit ≠ 1

instance (f : Forwarding) : Decidable f.Open := instDecidableAnd

/-- At most as many messages as the limit wait then. -/
def WithinLimit (cfg : ServerCfg) (f : Forwarding) : Prop := f.Open → (f.sendList.length : ℤ) ≤ cfg.smscQLimit

/-- **A step keeps the limit**: a message is then appended to a list that is shorter, and no more messages
wait than the limit when it comes to that. -/
def KeepsLimit (cfg : ServerCfg) (f : Forwarding) : ForwardEvent → Prop
  | .append _ | .register => f.Open → (f.sendList.length : ℤ) < cfg.smscQLimit
  | .status change => (f.set change).Open → (f.sendList.length : ℤ) ≤ cfg.smscQLimit
  | .check .. | .write => True

instance (cfg : ServerCfg) (f : Forwarding) : DecidablePred (KeepsLimit cfg f)
  | .append _ | .register | .status _ => inferInstanceAs (Decidable (_ → _))
  | .check .. | .write => .isTrue trivial

/-! ## A submit that passes

Whether the limit is exceeded matters only if some submit is accepted then.  Here is one that nothing but the
state of the process can reject, which gives the direction from the property to the states. -/

/-- An account that may submit all day. -/
def sampleOpenEsme : Esme := newEsme sampleEnv samplePdu { sampleClient with validTimeTo := 24 }

/-- A session of it. -/
def sampleOpenTx : EsmeTx :=
  { newSession sampleEnv samplePdu (tempconnCreate 0 (octstrImm "10.0.0.1") 4000 2775 1) 1 1 .binded with }

/-- An empty message. -/
def sampleEmptyMsg : SubmitMsg := ⟨[], none, [], none, none, none, [], [], []⟩

/-- The check of a submit that nothing but the state of the process can reject. -/
def sampleCheck (cfg : ServerCfg) (srv : SubmitServer) : Checked :=
  checkSubmit sampleSubmitEnv.lib cfg (sampleMoment 1700000001) srv sampleOpenEsme 0 sampleOpenTx
    (octstrImm "1") (sampleSubmitPdu 2 "919876543210")

section Limit

variable {cfg : ServerCfg} {f f' : Forwarding} {srv : SubmitServer} {ev : ForwardEvent}

/-- A submit that is accepted has passed the checks on the process. -/
theorem serverStatus_of_accepted {env : SubmitEnv} {now : Moment} {e : Esme} {session : ℕ} {tx : EsmeTx}
    {messageId : Octstr} {pdu : SubmitSm}
    (h : (checkSubmit env.lib cfg now srv e session tx messageId pdu).commandStatus = 0) :
    serverStatus cfg srv = none := by
  obtain ⟨status, hearly, heq⟩ | ⟨hearly, -⟩ :=
    checkSubmit_cases env.lib cfg now srv e session tx messageId pdu
  · rw [heq] at h
    exact absurd h (ne_zero_of_earlyStatus hearly)
  · exact (earlyStatus_eq_none.mp hearly).1

theorem sampleCheck_accepted (h : serverStatus cfg srv = none) : (sampleCheck cfg srv).commandStatus = 0 := by
  obtain ⟨status, hearly, -⟩ | ⟨-, verified, rfl, ⟨hlate, -⟩ | ⟨-, msg, heq⟩⟩ :=
    checkSubmit_cases sampleSubmitEnv.lib cfg (sampleMoment 1700000001) srv sampleOpenEsme 0 sampleOpenTx
      (octstrImm "1") (sampleSubmitPdu 2 "919876543210")
  · have hquota : overQuota sampleOpenEsme sampleOpenTx = false := by decide
    rw [earlyStatus_eq_none.mpr ⟨h, hquota⟩] at hearly
    exact absurd hearly (by simp)
  · exact absurd (by decide +kernel) hlate
  · rw [sampleCheck, heq]

/-- The checks on the process, while a client is away. -/
theorem serverStatus_eq_none_iff (hlimit : 0 ≤ cfg.smscQLimit) (hshows : f.Shows srv) (haway : f.Away) :
    serverStatus cfg srv = none ↔ f.Open ∧ (f.sendList.length : ℤ) ≠ cfg.smscQLimit := by
  obtain ⟨hprogram, hreverse, hforward, hglobal, hlength⟩ := hshows
  have hset : cfg.smscQLimit ≠ -1 := by omega
  unfold serverStatus
  rw [hprogram, hreverse, hforward, hglobal, hlength, Forwarding.Open]
  unfold Forwarding.Away at *
  simp only [haway, hset, ne_eq, not_false_eq_true, true_and]
  split_ifs with hrun hfull hq <;> simp_all

/-- What `handle_submit_sm` finds exists. -/
theorem exists_shows (f : Forwarding) : ∃ srv, f.Shows srv :=
  ⟨⟨f.programRunning, f.reverseConnected, f.forwardConnected, f.globalQLimit,
    List.replicate f.sendList.length sampleEmptyMsg, 0⟩, rfl, rfl, rfl, rfl, List.length_replicate⟩

/-- **The states in which every accepted submit finds room** are those with no more messages than the
limit: the check for equality is right as long as the list is not past it. -/
theorem findsRoom_iff (hlimit : 0 ≤ cfg.smscQLimit) : FindsRoom cfg f ↔ WithinLimit cfg f := by
  constructor
  · intro hroom hopen
    by_contra hpast
    obtain ⟨srv, hshows⟩ := exists_shows f
    have hpassed : serverStatus cfg srv = none :=
      (serverStatus_eq_none_iff hlimit hshows hopen.1).mpr ⟨hopen, by omega⟩
    have hlt := hroom hopen.1 _ _ srv _ _ _ _ _ hshows (sampleCheck_accepted hpassed)
    omega
  · intro hwithin haway env now srv e session tx messageId pdu hshows haccepted
    obtain ⟨hopen, hne⟩ := (serverStatus_eq_none_iff hlimit hshows haway).mp
      (serverStatus_of_accepted haccepted)
    exact lt_of_le_of_ne (hwithin hopen) hne

/-! ## Steps and runs

As long as at most the limit waits, equality is as good as an inequality, and the check is right.  A step that
leads past the limit leads into a state that a submit finds open. -/

/-- What a step does to the list and to what stands beside it. -/
theorem forwardStep_cases (hs : forwardStep cfg f ev = some f') :
    (KeepsLimit cfg f ev ∧ (f'.Open ↔ f.Open) ∧ f'.sendList.length ≤ f.sendList.length) ∨
    ((KeepsLimit cfg f ev ↔ (f.Open → (f.sendList.length : ℤ) < cfg.smscQLimit)) ∧
      (f'.Open ↔ f.Open) ∧ f'.sendList.length = f.sendList.length + 1) ∨
    ((KeepsLimit cfg f ev ↔ (f'.Open → (f.sendList.length : ℤ) ≤ cfg.smscQLimit)) ∧
      f'.sendList.length = f.sendList.length) := by
  cases ev with
  | check thread env now srv e session tx messageId pdu =>
    rw [forwardStep, Option.ite_none_right_eq_some] at hs
    obtain ⟨-, hs⟩ := hs
    obtain rfl := Option.some.inj hs
    exact .inl ⟨trivial, Iff.rfl, le_refl _⟩
  | append thread =>
    obtain ⟨msg, -, rfl⟩ := Option.map_eq_some_iff.mp hs
    exact .inr (.inl ⟨Iff.rfl, Iff.rfl, List.length_append⟩)
  | register =>
    obtain rfl := Option.some.inj hs
    exact .inr (.inl ⟨Iff.rfl, Iff.rfl, List.length_append⟩)
  | write =>
    rw [forwardStep] at hs
    split at hs
    · exact absurd hs (by simp)
    · rename_i msg rest heq
      obtain rfl := Option.some.inj hs
      exact .inl ⟨trivial, Iff.rfl, by simp [heq]⟩
  | status change =>
    obtain rfl := Option.some.inj hs
    exact .inr (.inr ⟨Iff.rfl, by cases change <;> rfl⟩)

/-- A step that keeps the limit. -/
theorem WithinLimit.step (h : WithinLimit cfg f) (hg : KeepsLimit cfg f ev)
    (hs : forwardStep cfg f ev = some f') : WithinLimit cfg f' := by
  intro hopen
  obtain ⟨-, hiff, hle⟩ | ⟨hkeeps, hiff, heq⟩ | ⟨hkeeps, heq⟩ := forwardStep_cases hs
  · have hold := h (hiff.mp hopen)
    omega
  · have hlt := hkeeps.mp hg (hiff.mp hopen)
    omega
  · have hold := hkeeps.mp hg hopen
    omega

/-- A step that does not leads past it. -/
theorem not_withinLimit_of_step (hg : ¬ KeepsLimit cfg f ev) (hs : forwardStep cfg f ev = some f') :
    ¬ WithinLimit cfg f' := by
  obtain ⟨hkeeps, -⟩ | ⟨hkeeps, hiff, heq⟩ | ⟨hkeeps, heq⟩ := forwardStep_cases hs
  · exact absurd hkeeps hg
  · rw [hkeeps, Classical.not_imp] at hg
    obtain ⟨hopen, hfull⟩ := hg
    intro hwithin
    have hle := hwithin (hiff.mpr hopen)
    omega
  · rw [hkeeps, Classical.not_imp] at hg
    obtain ⟨hopen, hpast⟩ := hg
    intro hwithin
    have hle := hwithin hopen
    omega

end Limit

/-- **The backlog.**  For every limit and every history of connects, disconnects and submits — any number
of sessions, in any order of their checks and appends — every submit that is accepted while a client is
away finds fewer messages than the limit, in every state of the history, if and only if every step keeps
the limit. -/
theorem always_findsRoom_iff {cfg : ServerCfg} (hlimit : 0 ≤ cfg.smscQLimit) {es : List ForwardEvent}
    {f : Forwarding} (hr : exec (forwardStep cfg) {} es = some f) :
    Always (forwardStep cfg) (FindsRoom cfg) {} es ↔ Along (forwardStep cfg) (KeepsLimit cfg) {} es :=
  always_iff_along (fun h => (findsRoom_iff hlimit).mpr h) (fun h hg hs => h.step hg hs)
    (fun _ hg hs hroom => not_withinLimit_of_step hg hs ((findsRoom_iff hlimit).mp hroom))
    (fun _ => hlimit) hr

/-- A submit of the history that is accepted while a client is away finds fewer messages than the limit. -/
def SubmitFindsRoom (cfg : ServerCfg) (f : Forwarding) : ForwardEvent → Prop
  | .check _ env now srv e session tx messageId pdu =>
    f.Away → (checkSubmit env.lib cfg now srv e session tx messageId pdu).commandStatus = 0 →
      (f.sendList.length : ℤ) < cfg.smscQLimit
  | .append _ | .register | .write | .status _ => True

theorem FindsRoom.submit {cfg : ServerCfg} {f f' : Forwarding} {ev : ForwardEvent} (h : FindsRoom cfg f)
    (hs : forwardStep cfg f ev = some f') : SubmitFindsRoom cfg f ev := by
  cases ev with
  | check thread env now srv e session tx messageId pdu =>
    obtain ⟨⟨-, hshows⟩, -⟩ := Option.ite_none_right_eq_some.mp hs
    exact fun haway => h haway env now srv e session tx messageId pdu hshows
  | append _ | register | write | status _ => trivial

/-- **The submits of the history** find room, if its steps keep the limit. -/
theorem along_submitFindsRoom {cfg : ServerCfg} (hlimit : 0 ≤ cfg.smscQLimit) {es : List ForwardEvent}
    {f : Forwarding} (hr : exec (forwardStep cfg) {} es = some f)
    (hk : Along (forwardStep cfg) (KeepsLimit cfg) {} es) :
    Along (forwardStep cfg) (SubmitFindsRoom cfg) {} es := by
  have hinit : WithinLimit cfg {} := fun _ => hlimit
  have hwithin : Always (forwardStep cfg) (WithinLimit cfg) {} es :=
    (always_iff_along id WithinLimit.step (fun _ => not_withinLimit_of_step) hinit hr).mpr hk
  exact hwithin.along (fun h => ((findsRoom_iff hlimit).mpr h).submit) hr

/-- A session checks a submit that nothing but the state of the process can reject. -/
def sampleForwardCheck (thread : ℕ) (srv : SubmitServer) : ForwardEvent :=
  .check thread sampleSubmitEnv (sampleMoment 1700000001) srv sampleOpenEsme 0 sampleOpenTx
    (octstrImm "1") (sampleSubmitPdu 2 "919876543210")

/-- What the process shows while no client, or while each of them is connected, and so many messages
wait. -/
def sampleShown (connected : Bool) (waiting : ℕ) : SubmitServer where
  reverseConnected := connected
  forwardConnected := connected
  forwardSendList := List.replicate waiting sampleEmptyMsg

/-- The clients connect, `main` registers, and a submit comes in after its message has gone. -/
def sampleForwarding : List ForwardEvent :=
  [sampleForwardCheck 0 (sampleShown false 0), .append 0, .write, .status (.forward true), .register,
    .status (.reverse true), .write, sampleForwardCheck 1 (sampleShown true 0), .append 1,
    .status (.reverse false)]

theorem always_findsRoom_sampleForwarding :
    Always (forwardStep ⟨0, 1⟩) (FindsRoom ⟨0, 1⟩) {} sampleForwarding := by
  have hsome : (exec (forwardStep ⟨0, 1⟩) {} sampleForwarding).isSome := by decide +kernel
  obtain ⟨f, hf⟩ := Option.isSome_iff_exists.mp hsome
  exact (always_findsRoom_iff (by decide) hf).mpr (by decide +kernel)

/-- With a limit of one: two messages wait when the reverse client loses its connection, and a third
submit is accepted. -/
theorem not_always_findsRoom : ¬ ∀ (cfg : ServerCfg) (es : List ForwardEvent) (f : Forwarding),
    0 ≤ cfg.smscQLimit → exec (forwardStep cfg) {} es = some f →
      Always (forwardStep cfg) (FindsRoom cfg) {} es := by
  intro h
  have hpast : (exec (forwardStep ⟨0, 1⟩) {}
      [.status (.forward true), .status (.reverse true), sampleForwardCheck 0 (sampleShown true 0),
        .append 0, sampleForwardCheck 0 (sampleShown true 1), .append 0, .status (.reverse false)]).map
      (fun f => decide (f.Open ∧ 1 < f.sendList.length)) = some true := by decide +kernel
  obtain ⟨f, hf, hdecide⟩ := Option.map_eq_some_iff.mp hpast
  obtain ⟨hopen, hlt⟩ := of_decide_eq_true hdecide
  have hroom := (h ⟨0, 1⟩ _ f (by decide) hf).last hf
  have hle : (f.sendList.length : ℤ) ≤ 1 := (findsRoom_iff (by decide)).mp hroom hopen
  omega

end SmppServer.SmppEsme
