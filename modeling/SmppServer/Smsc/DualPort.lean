import SmppServer.Machinery.Exec
import SmppServer.Smsc.Status
import SmppServer.Smsc.SystemInfo
import SmppServer.Smsc.Window

/-!
# Smsc/DualPort — one status for two links

An SMSC with a transmit port and a receive port has two links but one `status` and one `mode`, and both
threads write them for their own link.  What the SMSC process announces, and whether it routes messages
to the SMSC, depends on which of the threads wrote last.

* `DualPort.routable_iff_undisturbed` — the announced mode is always that of the transmitting thread and
  the status is `SMSCCONN_ACTIVE` while the transmit link is up **exactly** in the runs in which the
  receiving thread stays out of the way: see `Undisturbed`.
-/

namespace SmppServer.SmppSmsc

open Machinery SmppEsme

/-! ## Runs

Whether the transmit link is up is recorded beside the code, from what its thread reads and does: the status
variable is what is to be compared with it. -/

/-- The two ports of an SMSC. -/
inductive Port
  | transmit
  | receive
  deriving DecidableEq, Repr

/-- A connection with two threads, whether its transmit link is bound and has not failed since, the port
that was opened last, and the messages that were sent about it. -/
structure DualPort where
  link : Link
  up : Bool := false
  opened : Option Port := none
  infos : List InfoSmsc := []
  deriving DecidableEq

/-- What happens: a step of the link, and the two threads that tell the ESME process about it. -/
inductive DualEvent
  | link (ev : LinkEvent)
  | sendSystemInfoInit
  | sendSystemInfo
  deriving DecidableEq

/-- The other side ends the session with this PDU. -/
def Pdu.unbinds : Pdu → Bool
  | .unbind | .unbindResp => true
  | _ => false

/-- Whether the transmit link is up behind an event of its thread, which is then at `pc`: the bind has
succeeded, and since then the session was not ended, and the thread did not leave the connection
loop. -/
def upAfter (up : Bool) (ev : IoEvent) (pc : Pc) : Bool :=
  pc.inLoop &&
    match ev with
    | .enter _ _ | .disconnect => false
    | .readPdu pdu _ | .unbindWait _ (some pdu) _ => pdu.binds || up && !pdu.unbinds
    | _ => up

/-- The port that was opened last. -/
def openedAfter (quitting : Bool) (opened : Option Port) (port : Port) : IoEvent → Option Port
  | .enter _ _ => if quitting then opened else some port
  | _ => opened

section Steps

variable (lib : Gwlib) (cfg : ClientCfg)

/-- **One step.**  `send_system_info_init` waits until a bind was sent. -/
def dualStep (s : DualPort) : DualEvent → Option DualPort
  | .link (.io ev) => (linkStep lib cfg s.link (.io ev)).map fun link =>
      { s with
        link := link
        up := upAfter s.up ev link.conn.thread.pc
        opened := openedAfter s.link.conn.data.quitting s.opened .transmit ev }
  | .link (.receive ev) => (linkStep lib cfg s.link (.receive ev)).map fun link =>
      { s with
        link := link
        opened := openedAfter s.link.conn.data.quitting s.opened .receive ev }
  | .link ev => (linkStep lib cfg s.link ev).map fun link => { s with link := link }
  | .sendSystemInfoInit =>
    if s.link.conn.bindSent = 1 then some { s with infos := s.infos ++ [infoSmsc s.link.conn] } else none
  | .sendSystemInfo => some { s with infos := s.infos ++ [infoSmsc s.link.conn] }

end Steps

/-- **The SMSC is routable**: every message about it reported mode `1` or `3`, and its status is
`SMSCCONN_ACTIVE` while the transmit link is up. -/
structure DualPort.Routable (s : DualPort) : Prop where
  mode : ∀ info ∈ s.infos, info.connMode = 1 ∨ info.connMode = 3
  status : s.up = true → s.link.conn.status = .active

/-- An event that leaves the status of an active connection alone: the thread does not end, does not
leave its connection, and reads neither an `unbind` nor an `unbind_resp`. -/
def IoEvent.KeepsActive (quitting : Bool) : IoEvent → Prop
  | .enter _ _ => quitting = false
  | .disconnect => False
  | ev => ∀ pdu ∈ ev.pdu?, pdu.unbinds = false

instance (quitting : Bool) : ∀ ev, Decidable (IoEvent.KeepsActive quitting ev)
  | .enter _ _ => inferInstanceAs (Decidable (quitting = false))
  | .disconnect => .isFalse id
  | .readPdu _ _ | .unbindWait _ _ _ | .connWait _ _ | .readNothing | .readError | .checkTimes _ _
  | .cleanup _ | .send _ _ | .flush _ _ | .retry => inferInstanceAs (Decidable (∀ _ ∈ _, _))

/-- **The receiving thread stays out of the way**: while the transmit link is up it leaves the status
alone, and when the SMSC is announced, the port opened last is the transmit port. -/
def Undisturbed (s : DualPort) : DualEvent → Prop
  | .link (.receive ev) => s.up = true → ev.KeepsActive s.link.conn.data.quitting
  | .sendSystemInfoInit | .sendSystemInfo => s.opened = some .transmit
  | _ => True

instance (s : DualPort) : ∀ e, Decidable (Undisturbed s e)
  | .link (.receive ev) =>
    inferInstanceAs (Decidable (s.up = true → ev.KeepsActive s.link.conn.data.quitting))
  | .sendSystemInfoInit | .sendSystemInfo => inferInstanceAs (Decidable (s.opened = some .transmit))
  | .link (.io _) | .link (.smscconnSend _) | .link .shutdownCb => .isTrue trivial

/-! ## What the threads write

Both threads are taken through their effect on the control fields; no step of either is looked at anew. -/

namespace Control

variable {c : Control} {openMode : ℤ} {ev : IoEvent} {pdu : Pdu}

theorem rejected_status (c : Control) (commandStatus : ℤ) :
    (c.rejected commandStatus).status = c.status := by
  unfold rejected
  split <;> rfl

theorem rejected_mode (c : Control) (commandStatus : ℤ) :
    (c.rejected commandStatus).mode = c.mode := by
  unfold rejected
  split <;> rfl

/-- A connection that is active stays so but for the PDUs that end a session. -/
theorem afterPdu_status_eq_active (h : c.status = .active) :
    (c.afterPdu pdu).status = .active ↔ pdu.unbinds = false := by
  cases pdu with
  | bindTransmitterResp status | bindTransceiverResp status =>
    rw [afterPdu]
    split <;> simp [Pdu.unbinds, rejected_status, h]
  | bindReceiverResp status =>
    rw [afterPdu]
    split <;> simp [Pdu.unbinds, rejected_status, h]
  | unbind | unbindResp => simp [afterPdu, Pdu.unbinds]
  | submitSmResp _ _ _ | genericNack _ _ | other => simp [afterPdu, Pdu.unbinds, h]

/-- **When an active connection stays active.** -/
theorem after_status_eq_active (h : c.status = .active) :
    (c.after openMode ev).status = .active ↔ ev.KeepsActive c.quitting := by
  have hpdu : ∀ pdu : Pdu, (c.afterPdu pdu).status = .active ↔ ∀ p ∈ some pdu, p.unbinds = false := by
    intro pdu
    rw [afterPdu_status_eq_active h]
    simp
  cases ev with
  | enter opened now =>
    rw [after, IoEvent.KeepsActive]
    cases c.quitting <;> simp [h]
  | readPdu pdu now => exact hpdu pdu
  | unbindWait ok pdu now =>
    cases pdu with
    | none => simpa [after, IoEvent.KeepsActive, IoEvent.pdu?] using h
    | some pdu => exact hpdu pdu
  | disconnect => simp [after, IoEvent.KeepsActive]
  | _ => simpa [after, IoEvent.KeepsActive, IoEvent.pdu?] using h

/-- A successful bind makes the connection active. -/
theorem after_status_of_binds (hpdu : ev.pdu? = some pdu) (hbinds : pdu.binds = true) :
    (c.after openMode ev).status = .active := by
  have hafter : (c.afterPdu pdu).status = .active := by
    cases pdu with
    | bindTransmitterResp status | bindTransceiverResp status =>
      have hok : status = smppEsmeRok := of_decide_eq_true hbinds
      rw [afterPdu, if_neg (not_not.mpr hok)]
    | _ => exact absurd hbinds (by simp [Pdu.binds])
  cases ev with
  | readPdu pdu' now =>
    obtain rfl : pdu' = pdu := Option.some.inj hpdu
    exact hafter
  | unbindWait ok pdu' now =>
    obtain rfl : pdu' = some pdu := hpdu
    exact hafter
  | _ => exact absurd hpdu (by simp [IoEvent.pdu?])

/-- Only the opening of a link writes the mode. -/
theorem after_mode (c : Control) (openMode : ℤ) (ev : IoEvent) :
    (c.after openMode ev).mode =
      match ev with
      | .enter _ _ => if c.quitting then c.mode else openMode
      | _ => c.mode := by
  have hpdu : ∀ pdu, (c.afterPdu pdu).mode = c.mode := by
    intro pdu
    unfold afterPdu
    repeat' split
    all_goals first | rfl | exact rejected_mode _ _
  cases ev with
  | enter opened now =>
    rw [after]
    split <;> rfl
  | readPdu pdu now => exact hpdu pdu
  | unbindWait ok pdu now =>
    cases pdu with
    | none => rfl
    | some pdu => exact hpdu pdu
  | _ => rfl

end Control

section Link

variable {lib : Gwlib} {cfg : ClientCfg} {l l' : Link} {ev : IoEvent}

theorem linkStep_io_control (h : linkStep lib cfg l (.io ev) = some l') :
    l'.conn.control = l.conn.control.after l.conn.control.txMode ev := by
  obtain ⟨⟨q', conn'⟩, hio, rfl⟩ := Option.map_eq_some_iff.mp h
  exact ioThread_control hio

theorem linkStep_receive_control (h : linkStep lib cfg l (.receive ev) = some l') :
    l'.conn.control = l.conn.control.after rxMode ev := by
  obtain ⟨rx, q', conn', -, hrx, rfl⟩ := linkStep_receive h
  have hcontrol := rxThread_control hrx
  rw [control_withThread] at hcontrol
  exact hcontrol

/-- Other threads do not write the status or the mode. -/
theorem linkStep_other {e : LinkEvent} (hio : ∀ ev, e ≠ .io ev) (hrx : ∀ ev, e ≠ .receive ev)
    (h : linkStep lib cfg l e = some l') :
    l'.conn.status = l.conn.status ∧ l'.conn.mode = l.conn.mode := by
  cases e with
  | io ev => exact absurd rfl (hio ev)
  | receive ev => exact absurd rfl (hrx ev)
  | smscconnSend msg =>
    obtain ⟨conn, hconn, rfl⟩ := Option.map_eq_some_iff.mp h
    obtain ⟨-, -, rfl⟩ := smscconnSend_eq_some.mp hconn
    exact ⟨rfl, rfl⟩
  | shutdownCb =>
    rw [← Option.some.inj h]
    exact ⟨rfl, rfl⟩

end Link

/-! ## The invariant

The mode is that of the port opened last, so it is announced wrongly only if that is the receiving port.  A step
of the receiving thread keeps the status of a link that is up exactly if it leaves the status alone; all other
steps keep it. -/

/-- The mode tells which port was opened last. -/
def ModeOf : Option Port → ℤ → Prop
  | none, mode => mode = 0
  | some .transmit, mode => mode = 1 ∨ mode = 3
  | some .receive, mode => mode = 2

/-- Mode `1` and `3` are those of the transmitting thread. -/
theorem ModeOf.transmit_iff {opened : Option Port} {mode : ℤ} (h : ModeOf opened mode) :
    mode = 1 ∨ mode = 3 ↔ opened = some .transmit := by
  match opened, h with
  | none, h | some .receive, h =>
    rw [ModeOf] at h
    simp [h]
  | some .transmit, h => exact ⟨fun _ => rfl, fun _ => h⟩

/-- An event of one of the threads leaves the mode that belongs to the port. -/
theorem ModeOf.after {c : Control} {opened : Option Port} {openMode : ℤ} {port : Port} (ev : IoEvent)
    (h : ModeOf opened c.mode) (hport : ModeOf (some port) openMode) :
    ModeOf (openedAfter c.quitting opened port ev) (c.after openMode ev).mode := by
  rw [Control.after_mode]
  cases ev with
  | enter now opened =>
    rw [openedAfter]
    cases c.quitting with
    | false => exact hport
    | true => exact h
  | _ => exact h

namespace DualPort

/-- The SMSC is routable, and the mode is that of the port opened last. -/
structure Inv (s : DualPort) : Prop extends s.Routable where
  opened : ModeOf s.opened s.link.conn.mode

section Inv

variable {lib : Gwlib} {cfg : ClientCfg} {s s' : DualPort} {e : DualEvent} {ev : IoEvent} {link : Link}

/-- The link is up because it was bound just now, or because it was up and the event left it so. -/
theorem upAfter_eq_true {up : Bool} {pc : Pc} (quitting : Bool) (h : upAfter up ev pc = true) :
    (∃ pdu, ev.pdu? = some pdu ∧ pdu.binds = true) ∨ up = true ∧ ev.KeepsActive quitting := by
  unfold upAfter at h
  rw [Bool.and_eq_true] at h
  have hread : ∀ pdu : Pdu, (pdu.binds || up && !pdu.unbinds) = true →
      pdu.binds = true ∨ up = true ∧ pdu.unbinds = false := by
    intro pdu hpdu
    rwa [Bool.or_eq_true, Bool.and_eq_true, Bool.not_eq_true'] at hpdu
  cases ev with
  | enter opened now => exact absurd h.2 Bool.false_ne_true
  | disconnect => exact absurd h.2 Bool.false_ne_true
  | readPdu pdu now =>
    refine (hread pdu h.2).imp (fun hbinds => ⟨pdu, rfl, hbinds⟩) fun hup => ⟨hup.1, fun p hp => ?_⟩
    exact Option.some.inj hp ▸ hup.2
  | unbindWait ok pdu now =>
    cases pdu with
    | none => exact .inr ⟨h.2, fun p hp => absurd hp (by simp [IoEvent.pdu?])⟩
    | some pdu =>
      refine (hread pdu h.2).imp (fun hbinds => ⟨pdu, rfl, hbinds⟩) fun hup => ⟨hup.1, fun p hp => ?_⟩
      exact Option.some.inj hp ▸ hup.2
  | _ => exact .inr ⟨h.2, fun p hp => absurd hp (by simp [IoEvent.pdu?])⟩

/-- While the transmit link is up, the steps of its own thread keep the status. -/
theorem status_of_up (hs : s.up = true → s.link.conn.status = .active)
    (h : linkStep lib cfg s.link (.io ev) = some link) {pc : Pc} (hup : upAfter s.up ev pc = true) :
    link.conn.status = .active := by
  have hcontrol : link.conn.status = (s.link.conn.control.after s.link.conn.control.txMode ev).status :=
    congrArg Control.status (linkStep_io_control h)
  rw [hcontrol]
  obtain ⟨pdu, hpdu, hbinds⟩ | ⟨hold, hkeeps⟩ := upAfter_eq_true s.link.conn.data.quitting hup
  · exact Control.after_status_of_binds hpdu hbinds
  · exact (Control.after_status_eq_active (hs hold)).mpr hkeeps

/-- A step of the transmitting thread. -/
theorem Inv.io (hi : s.Inv) (h : linkStep lib cfg s.link (.io ev) = some link) :
    Inv { s with
      link := link
      up := upAfter s.up ev link.conn.thread.pc
      opened := openedAfter s.link.conn.data.quitting s.opened .transmit ev } where
  mode := hi.mode
  status hup := status_of_up hi.status h hup
  opened := by
    have hmode : ModeOf (some .transmit) s.link.conn.control.txMode := by
      unfold Control.txMode
      split
      · exact .inr rfl
      · exact .inl rfl
    have hafter := ModeOf.after ev (show ModeOf s.opened s.link.conn.control.mode from hi.opened) hmode
    rw [← linkStep_io_control h] at hafter
    exact hafter

/-- A step of the receiving thread keeps the mode of the port opened last. -/
theorem Inv.receive_mode (hi : s.Inv) (h : linkStep lib cfg s.link (.receive ev) = some link) :
    ModeOf (openedAfter s.link.conn.data.quitting s.opened .receive ev) link.conn.mode := by
  have hafter := ModeOf.after ev (show ModeOf s.opened s.link.conn.control.mode from hi.opened)
    (show ModeOf (some .receive) rxMode from rfl)
  rw [← linkStep_receive_control h] at hafter
  exact hafter

/-- A step of the receiving thread keeps an active connection active if and only if it leaves the status
alone. -/
theorem receive_status (hs : s.link.conn.status = .active)
    (h : linkStep lib cfg s.link (.receive ev) = some link) :
    link.conn.status = .active ↔ ev.KeepsActive s.link.conn.data.quitting := by
  have hcontrol : link.conn.status = (s.link.conn.control.after rxMode ev).status :=
    congrArg Control.status (linkStep_receive_control h)
  rw [hcontrol]
  exact Control.after_status_eq_active hs

/-- A step of another thread. -/
theorem Inv.other (hi : s.Inv) {le : LinkEvent} (h : linkStep lib cfg s.link le = some link)
    (hio : ∀ ev, le ≠ .io ev) (hrx : ∀ ev, le ≠ .receive ev) : Inv { s with link := link } := by
  obtain ⟨hstatus, hmode⟩ := linkStep_other hio hrx h
  exact ⟨⟨hi.mode, fun hup => hstatus.trans (hi.status hup)⟩, hmode.symm ▸ hi.opened⟩

/-- The message about the connection reports the mode. -/
theorem mode_concat (hi : s.Inv) :
    (∀ info ∈ s.infos ++ [infoSmsc s.link.conn], info.connMode = 1 ∨ info.connMode = 3) ↔
      s.opened = some .transmit := by
  rw [← hi.opened.transmit_iff, List.forall_mem_append]
  have hconn : (infoSmsc s.link.conn).connMode = s.link.conn.mode := rfl
  constructor
  · exact fun hall => hconn ▸ hall.2 _ (List.mem_singleton_self _)
  · refine fun hmode => ⟨hi.mode, fun info hinfo => ?_⟩
    rw [List.mem_singleton.mp hinfo]
    exact hmode

/-- **An undisturbed step keeps the invariant.** -/
theorem Inv.step (hi : s.Inv) (hg : Undisturbed s e) (h : dualStep lib cfg s e = some s') : s'.Inv := by
  match e, hg, h with
  | .link (.io ev), _, h =>
    obtain ⟨link, hlink, rfl⟩ := Option.map_eq_some_iff.mp h
    exact hi.io hlink
  | .link (.receive ev), hg, h =>
    obtain ⟨link, hlink, rfl⟩ := Option.map_eq_some_iff.mp h
    exact ⟨⟨hi.mode, fun hup => (receive_status (hi.status hup) hlink).mpr (hg hup)⟩,
      hi.receive_mode hlink⟩
  | .link (.smscconnSend msg), _, h =>
    obtain ⟨link, hlink, rfl⟩ := Option.map_eq_some_iff.mp h
    exact hi.other hlink (by simp) (by simp)
  | .link .shutdownCb, _, h =>
    rw [dualStep, Option.map_eq_some_iff] at h
    · obtain ⟨link, hlink, rfl⟩ := h
      exact hi.other hlink (by simp) (by simp)
    all_goals simp
  | .sendSystemInfoInit, hg, h =>
    rw [dualStep] at h
    split at h
    · rw [← Option.some.inj h]
      exact ⟨⟨(mode_concat hi).mpr hg, hi.status⟩, hi.opened⟩
    · exact absurd h (by simp)
  | .sendSystemInfo, hg, h =>
    rw [← Option.some.inj h]
    exact ⟨⟨(mode_concat hi).mpr hg, hi.status⟩, hi.opened⟩

/-- **A disturbed step breaks the property.** -/
theorem Inv.not_routable (hi : s.Inv) (hg : ¬ Undisturbed s e) (h : dualStep lib cfg s e = some s') :
    ¬ s'.Routable := by
  match e, hg, h with
  | .link (.io ev), hg, h | .link (.smscconnSend msg), hg, h | .link .shutdownCb, hg, h =>
    exact absurd trivial hg
  | .link (.receive ev), hg, h =>
    obtain ⟨link, hlink, rfl⟩ := Option.map_eq_some_iff.mp h
    obtain ⟨hup, hkeeps⟩ := Classical.not_imp.mp hg
    exact fun hr => hkeeps ((receive_status (hi.status hup) hlink).mp (hr.status hup))
  | .sendSystemInfoInit, hg, h =>
    rw [dualStep] at h
    split at h
    · rw [← Option.some.inj h]
      exact fun hr => hg ((mode_concat hi).mp hr.mode)
    · exact absurd h (by simp)
  | .sendSystemInfo, hg, h =>
    rw [← Option.some.inj h]
    exact fun hr => hg ((mode_concat hi).mp hr.mode)

end Inv

/-- A created connection has no mode yet. -/
theorem inv_start {grp : CfgGroup} {conn : SmscConn} (h : smscconnCreate (some grp) = some conn) :
    Inv { link := { conn := conn, receiver := some {} } } := by
  obtain ⟨-, -, hmode⟩ := smscconnCreate_eq_some h
  exact ⟨⟨by simp, by simp⟩, hmode⟩

/-- **When a dual-port SMSC stays routable.**  For every interleaving of the two threads of a created
connection, with all connects, bind responses, unbinds and errors on either link: the property holds in
every state of the run if and only if, at every step, the receiving thread leaves the status alone while
the transmit link is up, and the SMSC is announced only while the port opened last is the transmit
port. -/
theorem routable_iff_undisturbed (lib : Gwlib) (cfg : ClientCfg) {grp : CfgGroup} {conn : SmscConn}
    (hconn : smscconnCreate (some grp) = some conn) {evs : List DualEvent} {s : DualPort}
    (hrun : exec (dualStep lib cfg) { link := { conn := conn, receiver := some {} } } evs = some s) :
    Always (dualStep lib cfg) Routable { link := { conn := conn, receiver := some {} } } evs ↔
      Along (dualStep lib cfg) Undisturbed { link := { conn := conn, receiver := some {} } } evs :=
  always_iff_along Inv.toRoutable (fun hi hg h => hi.step hg h) (fun hi hg h => hi.not_routable hg h)
    (inv_start hconn) hrun

end DualPort

/-! ## Samples -/

/-- The configuration of an SMSC. -/
def sampleDualGroup : CfgGroup where
  smsc := some (octstrImm "smpp")
  smscId := some (octstrImm "smsc-a")
  smscType := some (octstrImm "gsm")
  smpp := some sampleSmpp

/-- Its connection, with a thread for each port. -/
def sampleDualPort : DualPort where
  link := { conn := sampleConn, receiver := some {} }

/-- Both links wait and are bound. -/
def sampleBinds : List DualEvent :=
  [.link (.io (.connWait true 1000)), .link (.receive (.connWait true 1000)),
    .link (.io (.readPdu (.bindTransmitterResp 0) 1001)),
    .link (.receive (.readPdu (.bindReceiverResp 0) 1001))]

/-- The receive port is opened first. -/
def sampleUndisturbed : List DualEvent :=
  [.link (.receive (.enter true 1000)), .link (.io (.enter true 1000))] ++ sampleBinds ++
    [.sendSystemInfoInit, .sendSystemInfo]

/-- The receive port is opened last, and its link fails. -/
def sampleDisturbed : List DualEvent :=
  [.link (.io (.enter true 1000)), .link (.receive (.enter true 1000))] ++ sampleBinds ++
    [.sendSystemInfo, .link (.receive .readError), .link (.receive .disconnect)]

theorem DualPort.routable_sampleUndisturbed :
    Always (dualStep sampleGwlib { dndcheckFlag := false }) DualPort.Routable sampleDualPort
      sampleUndisturbed := by
  have hconn : smscconnCreate (some sampleDualGroup) = some sampleConn := rfl
  have hrun : ∃ s, exec (dualStep sampleGwlib { dndcheckFlag := false }) sampleDualPort
      sampleUndisturbed = some s := Option.isSome_iff_exists.mp (by decide)
  obtain ⟨s, hrun⟩ := hrun
  exact (DualPort.routable_iff_undisturbed sampleGwlib { dndcheckFlag := false } hconn hrun).mpr (by decide)

/-- **The receiving thread gets in the way**: mode `2` is announced, and the status of the bound transmit
link is that of the failed receive link. -/
theorem DualPort.routable_sampleDisturbed :
    ∃ s, exec (dualStep sampleGwlib { dndcheckFlag := false }) sampleDualPort sampleDisturbed = some s ∧
      s.infos.map InfoSmsc.connMode = [2] ∧ s.up = true ∧ s.link.conn.status = .reconnecting ∧
      ¬ s.Routable := by
  refine ⟨(exec (dualStep sampleGwlib { dndcheckFlag := false }) sampleDualPort sampleDisturbed).get
    (by decide), (Option.some_get _).symm, by decide, by decide, by decide, fun hr => ?_⟩
  exact absurd (hr.status (by decide)) (by decide)

end SmppServer.SmppSmsc
