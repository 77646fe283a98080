import SmppServer.Machinery.Exec
import SmppServer.Machinery.Ledger
import SmppServer.Smsc.Status
import SmppServer.Smsc.SystemInfo

/-!
# Smsc/LifeCycle — the producers that the main program waits for

`smscconn_create` counts a connection as a producer (`smpp_client_smscconn_ready`), `shutdown_cb` takes
it off again (`smpp_client_smscconn_killed`), and at the end the main program waits until none is left.
But a connection also dies without `shutdown_cb`: when its bind is rejected for the system id or the
password, `io_thread` leaves its loop and sets `SMSCCONN_DEAD` itself, and `smscconn_shutdown` passes
over dead connections.

* `Lives.accounted_of_shutDown` — in every run in which a thread ends only while `smscconn_shutdown` is
  under way for its connection, and no two such calls are, the accounts are right.
-/

namespace SmppServer.SmppSmsc

open Machinery

/-! ## A connection and the calls that shut it down

`smscconn_shutdown` is called by several threads, and may be under way more than once: the test at its beginning
and the call of `smpp_client_smscconn_killed` at its end are steps of their own. -/

/-- Where a call of `smscconn_shutdown` is behind its test: before `shutdown_cb`, at the join of the
threads, or before `smpp_client_smscconn_killed`. -/
inductive ShutdownPc
  | tested
  | joining
  | dead
  deriving DecidableEq, Repr

/-- A connection with its threads, the calls of `smscconn_shutdown` that are under way for it, and the
number of calls of `smpp_client_smscconn_killed` made for it. -/
structure Life where
  conn : SmscConn
  receiver : Option IoThread := none
  calls : List ShutdownPc := []
  killed : ℕ := 0
  deriving DecidableEq

/-- What happens to a connection: a step of one of its threads, a message, a call of
`smscconn_shutdown`, and the steps of such a call. -/
inductive LifeEvent
  | io (ev : IoEvent)
  | receive (ev : IoEvent)
  | smscconnSend (msg : Msg)
  | smscconnShutdown
  | shutdownCb (call : ℕ)
  | joined (call : ℕ)
  | smscconnKilled (call : ℕ)
  deriving DecidableEq

/-- The number of calls of `smpp_client_smscconn_killed`. -/
def LifeEvent.kills : LifeEvent → ℕ
  | .smscconnKilled _ => 1
  | _ => 0

/-- The threads have ended, as far as there are any. -/
def Life.Ended (l : Life) : Prop := l.conn.thread.pc = .ended ∧ ∀ rx ∈ l.receiver, rx.pc = .ended

instance (l : Life) : Decidable l.Ended := inferInstanceAs (Decidable (_ ∧ _))

section Step

variable (lib : Gwlib) (cfg : ClientCfg)

/-- **One step of a connection.** -/
def lifeStep (q : Queues) (l : Life) : LifeEvent → Option (Queues × Life)
  | .io ev => (ioThread lib cfg (q, l.conn) ev).map fun r => (r.1, { l with conn := r.2 })
  | .receive ev =>
    match l.receiver with
    | none => none
    | some rx => (rxThread lib cfg (q, l.conn.withThread rx) ev).map fun r =>
        (r.1, { l with conn := r.2.withThread l.conn.thread, receiver := some r.2.thread })
  | .smscconnSend msg => (smscconnSend l.conn msg).map fun conn => (q, { l with conn := conn })
  | .smscconnShutdown =>
    if l.conn.status = .dead then some (q, l) else some (q, { l with calls := l.calls ++ [.tested] })
  | .shutdownCb call =>
    if l.calls[call]? = some .tested then
      some (q, { l with
        calls := l.calls.set call .joining
        conn :=
          { l.conn with
            whyKilled := .killedShutdown
            data := { l.conn.data with quitting := true } } })
    else none
  | .joined call =>
    if l.calls[call]? = some .joining ∧ l.Ended then
      some ({ q with destroyed := q.destroyed ++ l.conn.queuedIds },
        { l with
          calls := l.calls.set call .dead
          conn :=
            { l.conn with
              status := .dead
              data := { l.conn.data with msgsToSend := [], sentMsgs := ∅ } } })
    else none
  | .smscconnKilled call =>
    if l.calls[call]? = some .dead then
      some (q, { l with calls := l.calls.eraseIdx call, killed := l.killed + 1 })
    else none

end Step

/-! ## The process -/

/-- The connections of the process, and how often each of the two functions was called. -/
structure Lives where
  queues : Queues := {}
  lives : List Life := []
  ready : ℕ := 0
  killed : ℕ := 0
  deriving DecidableEq

/-- What happens: a connection is created, or created in the place of a dead one; something happens to
one of them. -/
inductive LivesEvent
  | smscconnCreate (grp : CfgGroup) (port receivePort : Bool)
  | smsc2RestartSmsc (i : ℕ) (grp : CfgGroup) (port receivePort : Bool)
  | life (i : ℕ) (ev : LifeEvent)
  deriving DecidableEq

/-- A connection with a thread for each port that is configured. -/
def newLife (port receivePort : Bool) (conn : SmscConn) : Life where
  conn := if port then conn else { conn with thread := { conn.thread with pc := .ended } }
  receiver := if receivePort then some {} else none

section Steps

variable (lib : Gwlib) (cfg : ClientCfg)

/-- **One step of the process.**  A restart takes the write lock of the list, which every call of
`smscconn_shutdown` holds for reading. -/
def livesStep (s : Lives) : LivesEvent → Option Lives
  | .smscconnCreate grp port receivePort => (smscconnCreate (some grp)).map fun conn =>
      { s with lives := s.lives ++ [newLife port receivePort conn], ready := s.ready + 1 }
  | .smsc2RestartSmsc i grp port receivePort =>
    match s.lives[i]? with
    | none => none
    | some l =>
      if l.conn.status = .dead ∧ ∀ l ∈ s.lives, l.calls = [] then
        (smscconnCreate (some grp)).map fun conn =>
          { s with lives := s.lives.set i (newLife port receivePort conn), ready := s.ready + 1 }
      else none
  | .life i ev =>
    match s.lives[i]? with
    | none => none
    | some l => (lifeStep lib cfg s.queues l ev).map fun r =>
        { s with
          queues := r.1
          lives := s.lives.set i r.2
          killed := s.killed + ev.kills }

end Steps

/-- The connection is dead, and no call of `smscconn_shutdown` is under way that has still to take it
off. -/
def Life.Gone (l : Life) : Prop := l.conn.status = .dead ∧ l.calls = []

instance (l : Life) : Decidable l.Gone := inferInstanceAs (Decidable (_ ∧ _))

/-- **The accounts are right**: for each connection `killed` was called exactly once when it is gone, and
not before; what is counted are the connections that are not gone; and while none is being shut down,
these are the connections that are not dead. -/
structure Lives.Accounted (s : Lives) : Prop where
  each : ∀ l ∈ s.lives, l.killed = if l.Gone then 1 else 0
  counted : (s.ready : ℤ) - s.killed = (s.lives.filter fun l => ¬ l.Gone).length
  total : (∀ l ∈ s.lives, l.calls = []) →
    (s.ready : ℤ) - s.killed = (s.lives.filter fun l => l.conn.status ≠ .dead).length

/-- The event is one of the test at the top of the loop. -/
def IoEvent.enters : IoEvent → Bool
  | .enter _ _ => true
  | _ => false

/-- A thread ends only while its connection is being shut down, and a connection is not shut down
twice. -/
def Life.ShutDown (l : Life) : LifeEvent → Prop
  | .io ev | .receive ev => ev.enters = true → l.conn.data.quitting = true → l.calls ≠ []
  | .smscconnShutdown => l.conn.status ≠ .dead → l.calls = []
  | _ => True

/-- **Connections die by being shut down.** -/
def ShutDown (s : Lives) : LivesEvent → Prop
  | .life i ev => ∀ l ∈ s.lives[i]?, l.ShutDown ev
  | _ => True

instance (l : Life) : ∀ ev, Decidable (l.ShutDown ev)
  | .io ev | .receive ev =>
    inferInstanceAs (Decidable (ev.enters = true → l.conn.data.quitting = true → l.calls ≠ []))
  | .smscconnShutdown => inferInstanceAs (Decidable (l.conn.status ≠ .dead → l.calls = []))
  | .smscconnSend _ | .shutdownCb _ | .joined _ | .smscconnKilled _ => .isTrue trivial

instance (s : Lives) : ∀ e, Decidable (ShutDown s e)
  | .life i ev => inferInstanceAs (Decidable (∀ l ∈ s.lives[i]?, l.ShutDown ev))
  | .smscconnCreate _ _ _ | .smsc2RestartSmsc _ _ _ _ => .isTrue trivial

/-! ## One connection

A connection with a call under way is not taken off before that call is done, and a connection that nobody shuts
down lives or was taken off. -/

section Life

variable {lib : Gwlib} {cfg : ClientCfg} {q q' : Queues} {conn conn' : SmscConn} {l l' : Life}
  {ev : IoEvent} {e : LifeEvent}

/-- A thread sets `SMSCCONN_DEAD` only when it ends. -/
theorem Control.after_status_ne_dead {c : Control} {openMode : ℤ} (h : c.status ≠ .dead)
    (hend : ev.enters = true → c.quitting = false) : (c.after openMode ev).status ≠ .dead := by
  have hpdu : ∀ pdu, (c.afterPdu pdu).status ≠ .dead := by
    intro pdu
    unfold Control.afterPdu Control.rejected
    repeat' split
    all_goals first | exact h | simp
  cases ev with
  | enter opened now =>
    rw [Control.after, if_neg (by simp [hend rfl])]
    exact h
  | readPdu pdu now => exact hpdu pdu
  | unbindWait ok pdu now =>
    cases pdu with
    | none => exact h
    | some pdu => exact hpdu pdu
  | disconnect => simp [Control.after]
  | _ => exact h

theorem ioThread_ended (hpc : conn.thread.pc = .ended) : ioThread lib cfg (q, conn) ev = none := by
  unfold ioThread
  simp only [hpc]

theorem rxThread_ended (hpc : conn.thread.pc = .ended) : rxThread lib cfg (q, conn) ev = none := by
  unfold rxThread
  simp only [hpc]

/-- How a connection stands: it lives, or it is dead and was taken off; while it is being shut down it
was not. -/
def Life.Sound (l : Life) : Prop :=
  match l.calls with
  | [] => l.conn.status ≠ .dead ∧ l.killed = 0 ∨ l.conn.status = .dead ∧ l.Ended ∧ l.killed = 1
  | [.dead] => l.conn.status = .dead ∧ l.Ended ∧ l.killed = 0
  | [_] => l.killed = 0
  | _ => False

/-- A connection with a thread that makes a step is not dead, unless it is being shut down. -/
theorem Life.Sound.thread (hs : l.Sound) (hcalls : l'.calls = l.calls) (hkilled : l'.killed = l.killed)
    (hlive : ¬ l.Ended) (hstatus : l.calls = [] → l.conn.status ≠ .dead → l'.conn.status ≠ .dead) :
    l'.Sound := by
  unfold Life.Sound at hs ⊢
  rw [hcalls, hkilled]
  split at hs
  · rename_i hnil
    obtain ⟨hstat, hzero⟩ | ⟨-, hended, -⟩ := hs
    · exact .inl ⟨hstatus hnil hstat, hzero⟩
    · exact absurd hended hlive
  · exact absurd hs.2.1 hlive
  · exact hs
  · exact hs

theorem Life.Sound.io (hs : l.Sound) (hg : l.ShutDown (.io ev))
    (h : lifeStep lib cfg q l (.io ev) = some (q', l')) : l'.Sound := by
  obtain ⟨⟨q₁, conn₁⟩, hio, heq⟩ := Option.map_eq_some_iff.mp h
  obtain ⟨-, rfl⟩ := Prod.mk.inj heq
  refine hs.thread rfl rfl (fun hended => ?_) fun hnil hstat => ?_
  · rw [ioThread_ended hended.1] at hio
    exact absurd hio (by simp)
  · have hstatus : conn₁.status = (l.conn.control.after l.conn.control.txMode ev).status :=
      congrArg Control.status (ioThread_control hio)
    refine hstatus ▸ Control.after_status_ne_dead hstat fun henters => ?_
    exact Bool.eq_false_iff.mpr fun hquit => hg henters hquit hnil

theorem Life.Sound.receive (hs : l.Sound) (hg : l.ShutDown (.receive ev))
    (h : lifeStep lib cfg q l (.receive ev) = some (q', l')) : l'.Sound := by
  rw [lifeStep] at h
  split at h
  · exact absurd h (by simp)
  · rename_i rx hrx
    obtain ⟨⟨q₁, conn₁⟩, hio, heq⟩ := Option.map_eq_some_iff.mp h
    obtain ⟨-, rfl⟩ := Prod.mk.inj heq
    refine hs.thread rfl rfl (fun hended => ?_) fun hnil hstat => ?_
    · rw [rxThread_ended (hended.2 rx hrx)] at hio
      exact absurd hio (by simp)
    · have hstatus : conn₁.status = (l.conn.control.after rxMode ev).status :=
        congrArg Control.status (rxThread_control hio)
      refine (show _ = _ from hstatus) ▸ Control.after_status_ne_dead hstat fun henters => ?_
      exact Bool.eq_false_iff.mpr fun hquit => hg henters hquit hnil

/-- A call that got past the test is the first one. -/
theorem Life.Sound.shutdown (hs : l.Sound) (hg : l.ShutDown .smscconnShutdown)
    (h : lifeStep lib cfg q l .smscconnShutdown = some (q', l')) : l'.Sound := by
  rw [lifeStep] at h
  split at h
  · obtain ⟨-, rfl⟩ := Prod.mk.inj (Option.some.inj h)
    exact hs
  · rename_i hstat
    obtain ⟨-, rfl⟩ := Prod.mk.inj (Option.some.inj h)
    have hnil : l.calls = [] := hg hstat
    unfold Life.Sound at hs ⊢
    rw [hnil] at hs ⊢
    obtain ⟨-, hzero⟩ | ⟨hdead, -⟩ := hs
    · exact hzero
    · exact absurd hdead hstat

theorem Life.Sound.length_le (hs : l.Sound) : l.calls.length ≤ 1 := by
  unfold Life.Sound at hs
  split at hs <;> simp_all

/-- The call that is under way is the only one. -/
theorem Life.Sound.calls_eq (hs : l.Sound) {call : ℕ} {pc : ShutdownPc} (h : l.calls[call]? = some pc) :
    call = 0 ∧ l.calls = [pc] := by
  have hlen := hs.length_le
  obtain ⟨hlt, hget⟩ := List.getElem?_eq_some_iff.mp h
  obtain rfl : call = 0 := by omega
  obtain ⟨pc', hone⟩ := List.length_eq_one_iff.mp (show l.calls.length = 1 by omega)
  simp only [hone, List.getElem_cons_zero] at hget
  exact ⟨rfl, hget ▸ hone⟩

theorem Life.Sound.shutdownCb (hs : l.Sound) {call : ℕ}
    (h : lifeStep lib cfg q l (.shutdownCb call) = some (q', l')) : l'.Sound ∧ l'.killed = l.killed := by
  rw [lifeStep] at h
  split at h
  · rename_i hcall
    obtain ⟨-, rfl⟩ := Prod.mk.inj (Option.some.inj h)
    obtain ⟨rfl, hone⟩ := hs.calls_eq hcall
    unfold Life.Sound at hs ⊢
    simp only [hone, List.set_cons_zero] at hs ⊢
    exact ⟨hs, trivial⟩
  · exact absurd h (by simp)

theorem Life.Sound.joined (hs : l.Sound) {call : ℕ}
    (h : lifeStep lib cfg q l (.joined call) = some (q', l')) : l'.Sound ∧ l'.killed = l.killed := by
  rw [lifeStep] at h
  split at h
  · rename_i hcall
    obtain ⟨-, rfl⟩ := Prod.mk.inj (Option.some.inj h)
    obtain ⟨rfl, hone⟩ := hs.calls_eq hcall.1
    unfold Life.Sound at hs ⊢
    simp only [hone, List.set_cons_zero] at hs ⊢
    exact ⟨⟨trivial, hcall.2, hs⟩, trivial⟩
  · exact absurd h (by simp)

/-- The connection is taken off once it is dead. -/
theorem Life.Sound.smscconnKilled (hs : l.Sound) {call : ℕ}
    (h : lifeStep lib cfg q l (.smscconnKilled call) = some (q', l')) :
    l'.Sound ∧ l.killed = 0 ∧ l'.killed = 1 := by
  rw [lifeStep] at h
  split at h
  · rename_i hcall
    obtain ⟨-, rfl⟩ := Prod.mk.inj (Option.some.inj h)
    obtain ⟨rfl, hone⟩ := hs.calls_eq hcall
    unfold Life.Sound at hs ⊢
    simp only [hone, List.eraseIdx_cons_zero] at hs ⊢
    obtain ⟨hdead, hended, hzero⟩ := hs
    exact ⟨.inr ⟨hdead, hended, by rw [hzero]⟩, hzero, by rw [hzero]⟩
  · exact absurd h (by simp)

/-- **What a step leaves of a connection**, and whether it calls `killed`. -/
theorem Life.Sound.step (hs : l.Sound) (hg : l.ShutDown e)
    (h : lifeStep lib cfg q l e = some (q', l')) :
    l'.Sound ∧ (e.kills = 1 ∧ l.killed = 0 ∧ l'.killed = 1 ∨ e.kills = 0 ∧ l'.killed = l.killed) := by
  cases e with
  | io ev =>
    obtain ⟨r, -, heq⟩ := Option.map_eq_some_iff.mp h
    exact ⟨hs.io hg h, .inr ⟨rfl, by rw [← (Prod.mk.inj heq).2]⟩⟩
  | receive ev =>
    refine ⟨hs.receive hg h, .inr ⟨rfl, ?_⟩⟩
    rw [lifeStep] at h
    split at h
    · exact absurd h (by simp)
    · obtain ⟨r, -, heq⟩ := Option.map_eq_some_iff.mp h
      rw [← (Prod.mk.inj heq).2]
  | smscconnSend msg =>
    obtain ⟨conn, hconn, heq⟩ := Option.map_eq_some_iff.mp h
    obtain ⟨-, rfl⟩ := Prod.mk.inj heq
    obtain ⟨-, -, rfl⟩ := smscconnSend_eq_some.mp hconn
    exact ⟨hs, .inr ⟨rfl, rfl⟩⟩
  | smscconnShutdown =>
    refine ⟨hs.shutdown hg h, .inr ⟨rfl, ?_⟩⟩
    rw [lifeStep] at h
    split at h <;> rw [← (Prod.mk.inj (Option.some.inj h)).2]
  | shutdownCb call => exact ⟨(hs.shutdownCb h).1, .inr ⟨rfl, (hs.shutdownCb h).2⟩⟩
  | joined call => exact ⟨(hs.joined h).1, .inr ⟨rfl, (hs.joined h).2⟩⟩
  | smscconnKilled call =>
    obtain ⟨hsound, hold, hnew⟩ := hs.smscconnKilled h
    exact ⟨hsound, .inl ⟨rfl, hold, hnew⟩⟩

end Life

/-! ## All connections

The two numbers of the process are sums over the connections, and a step changes one of these. -/

namespace Lives

/-- The number of connections that were not taken off. -/
def counted (s : Lives) : ℕ := s.lives.countP fun l => l.killed = 0

/-- Every connection stands as it should, and the calls of `ready` are those of `killed` and one for each
connection that was not taken off. -/
structure Inv (s : Lives) : Prop where
  sound : ∀ l ∈ s.lives, l.Sound
  balance : s.ready = s.killed + s.counted

section Inv

variable {lib : Gwlib} {cfg : ClientCfg} {s s' : Lives} {e : LivesEvent}

theorem inv_start : Inv {} := ⟨by simp, rfl⟩

/-- A new connection lives. -/
theorem newLife_sound {grp : CfgGroup} {conn : SmscConn} (port receivePort : Bool)
    (h : smscconnCreate (some grp) = some conn) :
    (newLife port receivePort conn).Sound ∧ (newLife port receivePort conn).killed = 0 := by
  obtain ⟨-, hstatus, -⟩ := smscconnCreate_eq_some h
  refine ⟨.inl ⟨?_, rfl⟩, rfl⟩
  cases port <;> simp [newLife, hstatus]

/-- One connection is replaced by another. -/
theorem Inv.sound_set (hi : s.Inv) {i : ℕ} {l : Life} (h : l.Sound) : ∀ l' ∈ s.lives.set i l, l'.Sound := by
  intro l' hl'
  obtain hmem | rfl := List.mem_or_eq_of_mem_set hl'
  · exact hi.sound l' hmem
  · exact h

/-- The number of connections that were not taken off, when one is replaced. -/
theorem countP_set_add {i : ℕ} {l : Life} (hl : s.lives[i]? = some l) (l' : Life) :
    (s.lives.set i l').countP (fun l => l.killed = 0) + (if l.killed = 0 then 1 else 0) =
      s.counted + if l'.killed = 0 then 1 else 0 := by
  obtain ⟨hlt, hget⟩ := List.getElem?_eq_some_iff.mp hl
  have hset := List.countP_set (p := fun l : Life => decide (l.killed = 0)) (a := l') hlt
  rw [hget] at hset
  simp only [decide_eq_true_eq] at hset
  rw [hset, counted]
  have hpos : l.killed = 0 → 0 < s.lives.countP fun l => l.killed = 0 := fun hzero =>
    List.countP_pos_iff.mpr ⟨l, List.mem_of_getElem? hl, decide_eq_true hzero⟩
  split_ifs with hold hnew
  · have := hpos hold
    omega
  · have := hpos hold
    omega
  all_goals omega

/-- A dead connection that no call shuts down was taken off. -/
theorem killed_of_dead {l : Life} (hs : l.Sound) (hcalls : l.calls = []) (hdead : l.conn.status = .dead) :
    l.killed = 1 := by
  unfold Life.Sound at hs
  rw [hcalls] at hs
  exact (hs.resolve_left fun hlive => hlive.1 hdead).2.2

/-- A connection is created. -/
theorem Inv.smscconnCreate (hi : s.Inv) {grp : CfgGroup} {port receivePort : Bool}
    (h : livesStep lib cfg s (.smscconnCreate grp port receivePort) = some s') : s'.Inv := by
  obtain ⟨conn, hconn, rfl⟩ := Option.map_eq_some_iff.mp h
  obtain ⟨hsound, hzero⟩ := newLife_sound port receivePort hconn
  refine ⟨fun l hl => ?_, ?_⟩
  · obtain hmem | hmem := List.mem_append.mp hl
    · exact hi.sound l hmem
    · exact List.mem_singleton.mp hmem ▸ hsound
  · have hbalance := hi.balance
    rw [counted] at hbalance ⊢
    simp only [List.countP_append, List.countP_singleton, if_pos (decide_eq_true hzero)]
    omega

/-- A dead connection is replaced by a new one. -/
theorem Inv.smsc2RestartSmsc (hi : s.Inv) {i : ℕ} {grp : CfgGroup} {port receivePort : Bool}
    (h : livesStep lib cfg s (.smsc2RestartSmsc i grp port receivePort) = some s') : s'.Inv := by
  rw [livesStep] at h
  split at h
  · exact absurd h (by simp)
  · rename_i l hl
    obtain ⟨⟨hdead, hcalls⟩, h⟩ := Option.ite_none_right_eq_some.mp h
    obtain ⟨conn, hconn, rfl⟩ := Option.map_eq_some_iff.mp h
    obtain ⟨hsound, hzero⟩ := newLife_sound port receivePort hconn
    have hmem := List.mem_of_getElem? hl
    have hone := killed_of_dead (hi.sound l hmem) (hcalls l hmem) hdead
    refine ⟨hi.sound_set hsound, ?_⟩
    have hcount := countP_set_add hl (newLife port receivePort conn)
    rw [if_neg (by omega), if_pos hzero] at hcount
    have hbalance := hi.balance
    simp only [counted]
    omega

/-- Something happens at one connection. -/
theorem Inv.life (hi : s.Inv) {i : ℕ} {ev : LifeEvent} (hg : ShutDown s (.life i ev))
    (h : livesStep lib cfg s (.life i ev) = some s') : s'.Inv := by
  rw [livesStep] at h
  split at h
  · exact absurd h (by simp)
  · rename_i l hl
    obtain ⟨⟨q, l'⟩, hlife, rfl⟩ := Option.map_eq_some_iff.mp h
    obtain ⟨hsound, hkills⟩ := (hi.sound l (List.mem_of_getElem? hl)).step (hg l hl) hlife
    refine ⟨hi.sound_set hsound, ?_⟩
    have hcount := countP_set_add hl l'
    have hbalance := hi.balance
    rw [counted]
    obtain ⟨hone, hold, hnew⟩ | ⟨hnone, hsame⟩ := hkills
    · rw [if_pos hold, if_neg (by omega)] at hcount
      simp only [hone]
      omega
    · rw [hsame] at hcount
      simp only [hnone]
      omega

/-- **Every step keeps the invariant** if connections die by being shut down. -/
theorem Inv.step (hi : s.Inv) (hg : ShutDown s e) (h : livesStep lib cfg s e = some s') : s'.Inv := by
  cases e with
  | smscconnCreate grp port receivePort => exact hi.smscconnCreate h
  | smsc2RestartSmsc i grp port receivePort => exact hi.smsc2RestartSmsc h
  | life i ev => exact hi.life hg h

/-- A connection was taken off exactly if it is gone. -/
theorem killed_eq {l : Life} (hs : l.Sound) : l.killed = if l.Gone then 1 else 0 := by
  split
  · rename_i hgone
    exact killed_of_dead hs hgone.2 hgone.1
  · rename_i hgone
    unfold Life.Sound at hs
    split at hs
    · rename_i hcalls
      exact (hs.resolve_right fun hdead => hgone ⟨hdead.1, hcalls⟩).2
    · exact hs.2.2
    · exact hs
    · exact hs.elim

theorem Inv.counted_eq (hi : s.Inv) : s.counted = (s.lives.filter fun l => ¬ l.Gone).length := by
  rw [counted, ← List.countP_eq_length_filter]
  refine List.countP_congr fun l hl => ?_
  rw [decide_eq_true_eq, decide_eq_true_eq, killed_eq (hi.sound l hl)]
  split <;> simp_all

theorem Inv.accounted (hi : s.Inv) : s.Accounted := by
  have hbalance := hi.balance
  have hcounted := hi.counted_eq
  refine ⟨fun l hl => killed_eq (hi.sound l hl), by omega, fun hcalls => ?_⟩
  have hfilter : (s.lives.filter fun l => ¬ l.Gone) = s.lives.filter fun l => l.conn.status ≠ .dead := by
    refine List.filter_congr fun l hl => ?_
    simp [Life.Gone, hcalls l hl]
  rw [← hfilter]
  omega

end Inv

/-- **The producer count is right.**  For every run of any set of connections, with binds accepted or
rejected with any status, reconnects, stops, restarts and the shutdown, in which a thread ends only while
its connection is being shut down, and no connection is shut down twice: each dead connection called
`killed` exactly once, and what is counted are the connections that are not dead. -/
theorem accounted_of_shutDown (lib : Gwlib) (cfg : ClientCfg) {evs : List LivesEvent} {s : Lives}
    (hdown : Along (livesStep lib cfg) ShutDown {} evs) (hrun : exec (livesStep lib cfg) {} evs = some s) :
    s.Accounted :=
  (exec_invariant (fun hi hg h => hi.step hg h) inv_start hdown hrun).accounted

end Lives

/-! ## Samples -/

/-- Two connections; the second is stopped after its bind. -/
def sampleStopped : List LivesEvent :=
  [.smscconnCreate (sampleGroups.get ⟨0, by decide⟩) true false,
    .smscconnCreate (sampleGroups.get ⟨1, by decide⟩) true false,
    .life 1 (.io (.enter true 1000)), .life 1 (.io (.connWait true 1000)),
    .life 1 (.io (.readPdu (.bindTransmitterResp 0) 1001)), .life 1 (.io (.send true 1001)),
    .life 1 .smscconnShutdown, .life 1 (.shutdownCb 0), .life 1 (.io .readNothing),
    .life 1 (.io (.checkTimes [] 1001)), .life 1 (.io (.send true 1001)),
    .life 1 (.io (.connWait true 1002)), .life 1 (.io (.unbindWait true (some .unbindResp) 1002)),
    .life 1 (.io (.unbindWait true none 1002)), .life 1 (.io .disconnect), .life 1 (.io (.flush [] 1002)),
    .life 1 (.io (.flush [] 1002)), .life 1 (.io .retry), .life 1 (.io (.enter true 1003)),
    .life 1 (.joined 0), .life 1 (.smscconnKilled 0)]

/-- A connection whose bind is rejected for the password; then it is shut down. -/
def sampleRejected : List LivesEvent :=
  [.smscconnCreate (sampleGroups.get ⟨0, by decide⟩) true false,
    .life 0 (.io (.enter true 1000)), .life 0 (.io (.connWait true 1000)),
    .life 0 (.io (.readPdu (.bindTransmitterResp smppEsmeRinvpaswd) 1001)), .life 0 (.io .disconnect),
    .life 0 (.io (.flush [] 1001)), .life 0 (.io (.flush [] 1001)), .life 0 (.io .retry),
    .life 0 (.io (.enter true 1002)), .life 0 .smscconnShutdown]

/-- The process after the stop. -/
def sampleLives : Lives :=
  (exec (livesStep sampleGwlib { dndcheckFlag := false }) {} sampleStopped).get (by decide)

theorem Lives.accounted_sampleStopped :
    sampleLives.ready = 2 ∧ sampleLives.killed = 1 ∧
      sampleLives.lives.map (fun l => l.conn.status) = [.connecting, .dead] ∧ sampleLives.Accounted := by
  have hrun : exec (livesStep sampleGwlib { dndcheckFlag := false }) {} sampleStopped =
      some sampleLives := (Option.some_get _).symm
  exact ⟨by decide, by decide, by decide,
    Lives.accounted_of_shutDown sampleGwlib { dndcheckFlag := false } (by decide) hrun⟩

/-- **A connection that gives up by itself** is dead and stays counted. -/
theorem Lives.accounted_sampleRejected :
    ∃ s, exec (livesStep sampleGwlib { dndcheckFlag := false }) {} sampleRejected = some s ∧
      s.ready = 1 ∧ s.killed = 0 ∧ s.lives.map (fun l => (l.conn.status, l.calls)) = [(.dead, [])] ∧
      ¬ s.Accounted := by
  refine ⟨(exec (livesStep sampleGwlib { dndcheckFlag := false }) {} sampleRejected).get (by decide),
    (Option.some_get _).symm, by decide, by decide, by decide, fun hacc => ?_⟩
  exact absurd (hacc.total (by decide)) (by decide)

end SmppServer.SmppSmsc
