import SmppServer.Smsc.Census
import SmppServer.Machinery.Exec

/-!
# Smsc/Transmit — conservation of messages in a transmit session

A session is one connection over its whole life: the steps of its transmitting thread in any
interleaving with messages handed to it by other threads, and its shutdown.  A message that was handed
over should at any time be queued, sent and unanswered, back with the router, or recorded; and when
the thread has ended nothing should be left.

* `session_conserved` — so it is in every run whose steps lose nothing: see `NothingLost` for the
  ways a message is lost.
-/

namespace SmppServer.SmppSmsc

open Machinery
open scoped List

/-- A connection, what it produced, the ids of all messages handed to it, and whether one was handed
over since its thread last emptied `msgs_to_send`. -/
structure Session where
  queues : Queues := {}
  conn : SmscConn
  appended : List Octstr := []
  late : Bool := false
  deriving DecidableEq

/-- What happens to a connection: a step of its thread, a message handed over, the two halves of
`shutdown_cb` around the join of the thread. -/
inductive SessionEvent
  | io (ev : IoEvent)
  | smscconnSend (msg : Msg)
  | shutdownCb
  | smppDestroy
  deriving DecidableEq, Repr

section Session

variable (lib : Gwlib) (cfg : ClientCfg)

/-- One step of a session. -/
def sessionStep (s : Session) : SessionEvent → Option Session
  | .io ev => (ioThread lib cfg (s.queues, s.conn) ev).map fun r =>
      { s with queues := r.1, conn := r.2, late := s.late && r.2.thread.pc.flushed }
  | .smscconnSend msg =>
    match smscconnSend s.conn msg with
    | none => some s
    | some conn => some
        { s with
          conn := conn
          appended := s.appended ++ [msg.accountMsgId]
          late := s.late || s.conn.thread.pc.flushed }
  | .shutdownCb =>
    if s.conn.status = .dead then some s
    else some
      { s with
        conn :=
          { s.conn with
            whyKilled := .killedShutdown
            data := { s.conn.data with quitting := true } } }
  | .smppDestroy =>
    if s.conn.thread.pc = .ended ∧ s.conn.whyKilled = .killedShutdown then some
      { s with
        queues := { s.queues with destroyed := s.queues.destroyed ++ s.conn.queuedIds }
        conn :=
          { s.conn with
            status := .dead
            data := { s.conn.data with msgsToSend := [], sentMsgs := ∅ } } }
    else none

/-- The places of the messages of a session. -/
def Session.places (s : Session) : List Octstr :=
  s.conn.queuedIds ++ s.conn.sentIds ++ s.queues.outgoingIds ++ s.queues.recordIds

/-- **Transmit-session conservation**: the messages handed over are, each once, in the four places,
and an ended thread leaves none in `msgs_to_send` or `sent_msgs`. -/
structure Session.Conserved (s : Session) : Prop where
  places : s.appended ~ s.places
  ended : s.conn.thread.pc = .ended → s.conn.data.msgsToSend = [] ∧ s.conn.data.sentMsgs = ∅

/-- **A step of a session that loses nothing**: the thread's step loses nothing, and the thread does
not end with a message handed over since it last emptied the queue. -/
def NothingLost (s : Session) : SessionEvent → Prop
  | .io ev => KeepsAll lib cfg s.conn ev ∧
      (s.conn.thread.pc = .top → s.conn.data.quitting = true → s.late = false)
  | _ => True

instance (s : Session) : ∀ ev, Decidable (NothingLost lib cfg s ev)
  | .io ev => inferInstanceAs (Decidable (KeepsAll lib cfg s.conn ev ∧
      (s.conn.thread.pc = .top → s.conn.data.quitting = true → s.late = false)))
  | .smscconnSend _ | .shutdownCb | .smppDestroy => .isTrue trivial

/-- A connection as `smsc_smpp_create` leaves it. -/
structure SmscConn.Fresh (conn : SmscConn) : Prop where
  msgsToSend : conn.data.msgsToSend = []
  sentMsgs : conn.data.sentMsgs = ∅
  pc : conn.thread.pc = .top

end Session

/-! ## The invariant

The count of the places is kept by every move that loses nothing.  When the thread has ended, what it has
flushed is all there was. -/

/-- What holds at each step: besides the count of the places, what the thread has left behind it when
it is behind the flush. -/
structure Session.Inv (s : Session) : Prop where
  places : ∀ x, s.appended.count x = s.conn.queuedIds.count x + s.conn.sentIds.count x +
    s.queues.outgoingIds.count x + s.queues.recordIds.count x
  empty : s.conn.thread.pc.flushed = true → s.late = false → s.conn.data.msgsToSend = []
  keys : ∀ {quitting keys}, s.conn.thread.pc = .flushSent quitting keys →
    ∀ key ∈ s.conn.data.sentMsgs, key ∈ keys
  sent : s.conn.thread.pc = .after ∨ s.conn.thread.pc = .top ∨ s.conn.thread.pc = .ended →
    s.conn.data.sentMsgs = ∅
  ended : s.conn.thread.pc = .ended → s.conn.data.msgsToSend = [] ∧ s.conn.status = .dead

section Steps

variable {lib : Gwlib} {cfg : ClientCfg} {s s' : Session} {ev : IoEvent} {q : Queues} {conn : SmscConn}

theorem Session.Inv.conserved (h : s.Inv) : s.Conserved where
  places := List.perm_iff_count.mpr fun x => by
    rw [h.places x, Session.places, List.count_append, List.count_append, List.count_append]
  ended hpc := ⟨(h.ended hpc).1, h.sent (.inr (.inr hpc))⟩

theorem Session.inv_start (h : conn.Fresh) : Session.Inv { conn := conn } where
  places x := by
    simp [SmscConn.queuedIds, SmscConn.sentIds, h.msgsToSend, h.sentMsgs, Queues.outgoingIds,
      Queues.recordIds]
  empty _ _ := h.msgsToSend
  keys hpc := by simp [h.pc] at hpc
  sent _ := h.sentMsgs
  ended hpc := by simp [h.pc] at hpc

/-- Behind the flush, `sent_msgs` holds what is still to be flushed. -/
theorem Session.Inv.emptied (hi : s.Inv) : s.conn.Emptied := by
  intro hflushed key hkey
  cases hpc : s.conn.thread.pc with
  | flushSent quitting keys => exact hi.keys hpc key hkey
  | after | top | ended =>
    rw [hi.sent (by simp [hpc])] at hkey
    exact absurd hkey (AList.notMem_empty key)
  | waiting | unbinding | reading | idle | cleaning _ _ | sendInner | sendOuter | down _
  | flushQueue _ => simp [hpc, Pc.flushed] at hflushed

/-- A step of the thread. -/
theorem Session.Inv.io (hi : s.Inv) (hg : NothingLost lib cfg s (.io ev))
    (h : ioThread lib cfg (s.queues, s.conn) ev = some (q, conn)) :
    Session.Inv { s with queues := q, conn := conn, late := s.late && conn.thread.pc.flushed } := by
  obtain ⟨hkeeps, hend⟩ := hg
  have hflush : conn.thread.pc.flushed = true → Flushing s.conn conn := ioThread_flushing h
  constructor
  case places =>
    intro x
    rw [hi.places x, (ioThread_moves h).count_places hkeeps x]
  case empty =>
    intro hpc hlate
    have hlate : s.late = false := by simpa [hpc] using hlate
    cases hflush hpc with
    | listed hempty _ _ => exact hempty
    | removed hpc₀ hmsgs _ _ => exact hmsgs.trans (hi.empty (by rw [hpc₀]; rfl) hlate)
    | done hpc₀ hdata _ => exact hdata ▸ hi.empty (by rw [hpc₀]; rfl) hlate
    | again hpc₀ hdata _ => exact hdata ▸ hi.empty (by rw [hpc₀]; rfl) hlate
    | ended hpc₀ _ hdata _ _ => exact hdata ▸ hi.empty (by rw [hpc₀]; rfl) hlate
  case keys =>
    intro quitting keys hpc key hkey
    simp only at hpc hkey
    have hleft := hi.emptied.io h (by rw [hpc]; rfl) key hkey
    rwa [hpc] at hleft
  case sent =>
    intro hpc
    simp only at hpc
    refine sentMsgs_eq_empty fun key hkey => ?_
    rcases hpc with hpc | hpc | hpc
    all_goals
      have hleft := hi.emptied.io h (by rw [hpc]; rfl) key hkey
      rwa [hpc] at hleft
  case ended =>
    intro hpc
    simp only at hpc
    cases hflush (by rw [hpc]; rfl) with
    | listed _ _ hpc' | removed _ _ _ hpc' | done _ _ hpc' | again _ _ hpc' => simp [hpc'] at hpc
    | ended hpc₀ hquit hdata _ hdead =>
      exact ⟨hdata ▸ hi.empty (by rw [hpc₀]; rfl) (hend hpc₀ hquit), hdead⟩

/-- A message handed over. -/
theorem Session.Inv.smscconnSend {msg : Msg} (hi : s.Inv) (h : smscconnSend s.conn msg = some conn) :
    Session.Inv
      { s with
        conn := conn
        appended := s.appended ++ [msg.accountMsgId]
        late := s.late || s.conn.thread.pc.flushed } := by
  obtain ⟨hlive, -, rfl⟩ := smscconnSend_eq_some.mp h
  constructor
  case places =>
    intro x
    have hx := hi.places x
    simp only [SmscConn.queuedIds, sendMsgCb, SmscConn.sentIds, List.map_append, List.count_append,
      msgDuplicate_eq, List.map_cons, List.map_nil] at hx ⊢
    omega
  case empty =>
    intro hpc hlate
    have hfalse : s.conn.thread.pc.flushed = false := by simp_all
    exact absurd hpc (by simp [sendMsgCb, hfalse])
  case keys => exact fun hpc => hi.keys hpc
  case sent => exact fun hpc => hi.sent hpc
  case ended => exact fun hpc => absurd (hi.ended hpc).2 hlive

/-- **Every step that loses nothing keeps the invariant.** -/
theorem Session.Inv.step {e : SessionEvent} (hi : s.Inv) (hg : NothingLost lib cfg s e)
    (h : sessionStep lib cfg s e = some s') : s'.Inv := by
  cases e with
  | io ev =>
    obtain ⟨⟨q, conn⟩, hio, rfl⟩ := Option.map_eq_some_iff.mp h
    exact hi.io hg hio
  | smscconnSend msg =>
    rw [sessionStep] at h
    split at h
    · exact Option.some.inj h ▸ hi
    · rename_i conn hsend
      exact Option.some.inj h ▸ hi.smscconnSend hsend
  | shutdownCb =>
    rw [sessionStep] at h
    split at h
    · exact Option.some.inj h ▸ hi
    · rw [← Option.some.inj h]
      exact ⟨hi.places, hi.empty, hi.keys, hi.sent, hi.ended⟩
  | smppDestroy =>
    rw [sessionStep] at h
    split at h
    · rename_i hend
      rw [← Option.some.inj h]
      obtain ⟨hmsgs, -⟩ := hi.ended hend.1
      have hsent := hi.sent (.inr (.inr hend.1))
      refine ⟨fun x => ?_, fun _ _ => rfl, ?_, fun _ => rfl, fun _ => ⟨rfl, rfl⟩⟩
      · have hx := hi.places x
        simp only [SmscConn.queuedIds, SmscConn.sentIds, hmsgs, hsent] at hx
        exact hx
      · intro quitting keys hpc
        exact absurd (hend.1.symm.trans hpc) (by simp)
    · exact absurd h (by simp)

end Steps

/-- **Conservation.**  For any library and settings, with DND checking on or off: in every run of a
session whose steps all lose nothing, the messages handed over are each in exactly one place, and
nothing is left when the thread has ended. -/
theorem session_conserved (lib : Gwlib) (cfg : ClientCfg) {conn : SmscConn} (hconn : conn.Fresh)
    {evs : List SessionEvent} {s : Session}
    (hlost : Along (sessionStep lib cfg) (NothingLost lib cfg) { conn := conn } evs)
    (hrun : exec (sessionStep lib cfg) { conn := conn } evs = some s) : s.Conserved :=
  (exec_invariant (fun hi hg h => hi.step hg h) (Session.inv_start hconn) hlost hrun).conserved

/-- A message is handed over, sent and answered; a second one is taken back when the connection is
shut down. -/
def sampleSession : List SessionEvent :=
  [.smscconnSend sampleMsg, .io (.enter true 1000), .io (.connWait true 1000),
   .io (.readPdu (.bindTransmitterResp 0) 1001), .io (.send true 1001), .io (.send true 1001),
   .io (.readPdu (.submitSmResp 3 0 none) 1002), .io (.send true 1002), .smscconnSend sampleMsg,
   .shutdownCb, .io .readNothing, .io (.checkTimes [] 1003), .io (.send true 1003),
   .io (.send true 1003), .io (.connWait true 1003), .io (.unbindWait true (some .unbindResp) 1004),
   .io (.unbindWait true none 1004), .io .disconnect, .io (.flush [5] 1004), .io (.flush [] 1004),
   .io (.flush [] 1004), .io .retry, .io (.enter true 1004), .smppDestroy]

theorem session_conserved_sampleSession :
    ((exec (sessionStep sampleGwlib { dndcheckFlag := true }) { conn := sampleConn } sampleSession).get
      (by decide)).Conserved :=
  session_conserved sampleGwlib { dndcheckFlag := true } ⟨rfl, rfl, rfl⟩ (by decide)
    (Option.some_get _).symm

/-- The first write fails: the message is nowhere. -/
def sampleLoss : List SessionEvent :=
  [.smscconnSend sampleMsg, .io (.enter true 1000), .io (.connWait true 1000),
   .io (.readPdu (.bindTransmitterResp 0) 1001), .io (.send false 1001)]

theorem session_conserved_sampleLoss :
    ¬ ∀ (lib : Gwlib) (cfg : ClientCfg) (conn : SmscConn), conn.Fresh →
      ∀ (evs : List SessionEvent) (s : Session),
        exec (sessionStep lib cfg) { conn := conn } evs = some s → s.Conserved := by
  intro hall
  have h := hall sampleGwlib { dndcheckFlag := false } sampleConn ⟨rfl, rfl, rfl⟩ sampleLoss _
    (Option.some_get (by decide)).symm
  exact absurd h.places.length_eq (by decide)

end SmppServer.SmppSmsc
