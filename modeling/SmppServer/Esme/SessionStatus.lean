import SmppServer.Esme.Authorise
import SmppServer.Machinery.Exec

/-!
# Esme/SessionStatus — one status for the life of a session and for the SMSCs

The status of a TX session is written by the thread that serves it, when its client unbinds, by
`esme_shutdown`, and by `update_esme_conn`, which the thread of the reverse connection runs for a change
of the SMSCs' status.  The first two write that the session is to end; the third writes whether an SMSC
is connected, over whatever it finds.  `update_esme_conn` holds the lock on `esme_list`, so sessions
are neither added nor removed meanwhile, but the other writers do not take it: a status may change
between its test and the write that follows.

`stop_esme` writes through a pointer that is never set, so no session gets `ESME_SEND_UNBIND`.

* `terminalKept_iff_heeded` — the sessions that are to end do so exactly in the runs in which
  `update_esme_conn` writes over no status that says so.
-/

namespace SmppServer.SmppEsme

open Machinery

/-! ## Sessions and their threads

Where a thread is between its tests, and what it does when a test finds the status.  Two ghost fields note the
end that was asked for and whether a test missed it. -/

/-- The status says that the session is to end. -/
def EsmeStatus.Terminal : EsmeStatus → Prop
  | .unconnected | .disconnect | .sendUnbind => True
  | .binded | .smscUnconnected => False

instance : DecidablePred EsmeStatus.Terminal
  | .unconnected | .disconnect | .sendUnbind => .isTrue trivial
  | .binded | .smscUnconnected => .isFalse id

/-- Where a session thread is: before the test for `ESME_DISCONNECT` and `ESME_SEND_UNBIND`, reading
PDUs before the test for `ESME_UNCONNECTED`, waiting for the answer to its `unbind`, or on its way to
`esme_destroy`. -/
inductive SessionPc
  | waiting
  | reading
  | unbinding
  | leaving
  deriving DecidableEq, Repr

/-- A TX session with its thread.  Two fields record what happened and are read by no function: the last
status written that says that the session is to end, and whether a test for it missed it. -/
structure TxSession where
  tx : EsmeTx
  pc : SessionPc := .waiting
  terminal : Option EsmeStatus := none
  overlooked : Bool := false
  deriving DecidableEq, Repr

/-- The status is written. -/
def TxSession.writeStatus (s : TxSession) (status : EsmeStatus) : TxSession :=
  { s with
    tx := { s.tx with status := status }
    terminal := if status.Terminal then some status else s.terminal }

/-- The write of `update_esme_conn`; a session whose SMSCs are back starts to count anew. -/
def TxSession.update (s : TxSession) (status : EsmeStatus) : TxSession :=
  let s := s.writeStatus status
  if status = .binded then { s with tx := { s.tx with submitsUnconnect := 0 } } else s

/-- The PDUs of a client, as far as they differ here. -/
inductive SessionPdu
  | unbind
  | unbindResp
  | other
  deriving DecidableEq, Repr

/-- `handle_pdu`: `handle_unbind` and `handle_unbind_resp` for a TX session. -/
def handlePdu (s : TxSession) : SessionPdu → TxSession
  | .unbind => s.writeStatus .unconnected
  | .unbindResp => { s with tx := { s.tx with quit := 1 } }
  | .other => s

/-- What a session thread does next; it may fail wherever it reads or writes, and the wait for the
answer to its `unbind` ends. -/
inductive ThreadEvent
  | testDisconnect
  | handlePdu (pdu : SessionPdu)
  | testUnconnected
  | fail
  deriving DecidableEq, Repr

/-- **The loop of `receive_smpp_thread`**, up to `esme_destroy`. -/
def receiveSmppThread (s : TxSession) : ThreadEvent → Option TxSession
  | .testDisconnect =>
    if s.pc = .waiting then
      if s.tx.status = .disconnect ∨ s.tx.status = .sendUnbind then some { s with pc := .unbinding }
      else
        some { s with
          pc := .reading
          overlooked := s.overlooked ||
            (s.terminal = some .disconnect ∨ s.terminal = some .sendUnbind) }
    else none
  | .handlePdu pdu =>
    if s.pc = .reading ∨ s.pc = .unbinding then some (SmppEsme.handlePdu s pdu) else none
  | .testUnconnected =>
    if s.pc = .reading then
      if s.tx.status = .unconnected then some { s with pc := .leaving }
      else
        some { s with
          pc := .waiting
          overlooked := s.overlooked || s.terminal = some .unconnected }
    else none
  | .fail => if s.pc = .leaving then none else some { s with pc := .leaving }

/-! ## The process

`update_esme_conn` and `esme_shutdown` are under way one session at a time, so that a thread may come between
the test of a status and the write that follows. -/

/-- An entry of `esme_list` with its TX sessions. -/
structure BoundAccount where
  systemId : Option Octstr
  txEsme : List TxSession
  deriving DecidableEq, Repr

/-- Where `update_esme_conn` is: not under way, before its test of a session's status, or before the
write of a status that follows. -/
inductive Updater
  | idle
  | testing (i j : ℕ)
  | writing (i j : ℕ) (status : EsmeStatus)
  deriving DecidableEq, Repr

/-- The bound accounts, the SMSCs, whether the program is running, and the two calls that may be under
way: `update_esme_conn`, and `esme_shutdown` with the connection of the session it waits for. -/
structure Sessions where
  esmeList : List BoundAccount := []
  smsc : SmscData := {}
  running : Bool := true
  updater : Updater := .idle
  joining : Option ℕ := none
  deriving DecidableEq, Repr

namespace Sessions

/-- All TX sessions. -/
def txSessions (w : Sessions) : List TxSession := w.esmeList.flatMap (·.txEsme)

/-- The session at a place of an account. -/
def tx? (w : Sessions) (i j : ℕ) : Option TxSession :=
  match w.esmeList[i]? with
  | none => none
  | some account => account.txEsme[j]?

/-- Put a session at a place of an account. -/
def setTx (w : Sessions) (i j : ℕ) (s : TxSession) : Sessions :=
  { w with esmeList := w.esmeList.modify i fun a => { a with txEsme := a.txEsme.set j s } }

/-- Append a session to the entry of its account, which is made if there is none. -/
def appendTx (w : Sessions) (systemId : Option Octstr) (s : TxSession) : Sessions :=
  match w.esmeList.findIdx? fun a => a.systemId = systemId with
  | some i =>
    { w with esmeList := w.esmeList.modify i fun a => { a with txEsme := a.txEsme ++ [s] } }
  | none => { w with esmeList := w.esmeList ++ [⟨systemId, [s]⟩] }

/-- Remove a session. -/
def eraseTx (w : Sessions) (i j : ℕ) : Sessions :=
  { w with esmeList := w.esmeList.modify i fun a => { a with txEsme := a.txEsme.eraseIdx j } }

end Sessions

/-- What happens in the process. -/
inductive SessionEvent
  | bind (env : AuthEnv) (tc : TempConn) (pdu : BindPdu) (mode : ℤ)
  | noOfSmsc (noOfSmsc : ℕ)
  | infoSmsc (msg : InfoSmsc)
  | updateEsmeConn
  | shutdown
  | esmeShutdown
  | thread (i j : ℕ) (ev : ThreadEvent)
  | esmeDestroy (i j : ℕ)

section Steps

variable (accounts : List SmscClient)

/-- The session that a bind appends. -/
def boundSession (w : Sessions) (env : AuthEnv) (tc : TempConn) (pdu : BindPdu) (mode : ℤ) :
    TxSession :=
  let env := { env with translations := accounts, smscList := w.smsc.smscList }
  let ids := match w.esmeList.find? fun a => a.systemId = pdu.systemId with
    | some a => a.txEsme.map (·.tx.sessionId)
    | none => []
  { tx := { newSession env pdu tc mode (allocateSessionId ids) (initialTxStatus env pdu) with } }

/-- **One step of `update_esme_conn`**: the test of a session's status, by what `check_smsc_conn` says of
the account, or the write that follows. -/
def updateEsmeConn (w : Sessions) : Option Sessions :=
  match w.updater with
  | .idle => none
  | .testing i j =>
    match w.esmeList[i]? with
    | none => some { w with updater := .idle }
    | some account =>
      match account.txEsme[j]? with
      | none => some { w with updater := .testing (i + 1) 0 }
      | some s =>
        let smsc := checkSmscConn accounts w.smsc.smscList account.systemId
        if smsc = 0 ∨ smsc = 1 then
          if s.tx.status ≠ .smscUnconnected then
            some { w with updater := .writing i j .smscUnconnected }
          else some { w with updater := .testing i (j + 1) }
        else if smsc = 2 then
          if s.tx.status = .smscUnconnected then some { w with updater := .writing i j .binded }
          else some { w with updater := .testing i (j + 1) }
        else some { w with updater := .testing i (j + 1) }
  | .writing i j status =>
    match w.tx? i j with
    | none => none
    | some s =>
      some { w.setTx i j (s.update status) with updater := .testing i (j + 1) }

/-- One round of `esme_shutdown`: the first TX session is disconnected, once the thread of the one
before has ended. -/
def esmeShutdown (w : Sessions) : Option Sessions :=
  if w.running ∨ ∃ s ∈ w.txSessions, w.joining = some s.tx.conn then none
  else
    match w.esmeList.findIdx? fun a => a.txEsme ≠ [] with
    | none => none
    | some i =>
      match w.tx? i 0 with
      | none => none
      | some s =>
        some { w.setTx i 0 (s.writeStatus .disconnect) with joining := some s.tx.conn }

/-- **One step of the process.**  Messages from the SMSC process are handled one after the other, and
discarded when the program is shutting down.  Sessions are added and removed under the lock that
`update_esme_conn` holds. -/
def sessionStep (w : Sessions) : SessionEvent → Option Sessions
  | .bind env tc pdu mode =>
    if w.updater = .idle ∧ (mode = 1 ∨ mode = 3) ∧ ∀ s ∈ w.txSessions, s.tx.conn ≠ tc.conn then
      some (w.appendTx pdu.systemId (boundSession accounts w env tc pdu mode))
    else none
  | .noOfSmsc noOfSmsc =>
    if w.updater ≠ .idle then none
    else if w.running then some { w with smsc := handleNoOfSmsc noOfSmsc }
    else some w
  | .infoSmsc msg =>
    if w.updater ≠ .idle then none
    else if w.running then
      if w.smsc.smscDataRecieved < w.smsc.totalSmsc - 1 then
        some { w with smsc := handleInfoSmsc w.smsc msg }
      else some { w with smsc := handleInfoSmsc w.smsc msg, updater := .testing 0 0 }
    else some w
  | .updateEsmeConn => updateEsmeConn accounts w
  | .shutdown => some { w with running := false }
  | .esmeShutdown => esmeShutdown w
  | .thread i j ev =>
    match w.tx? i j with
    | none => none
    | some s => (receiveSmppThread s ev).map (w.setTx i j)
  | .esmeDestroy i j =>
    match w.tx? i j with
    | none => none
    | some s => if s.pc = .leaving ∧ w.updater = .idle then some (w.eraseTx i j) else none

end Steps

/-! ## Sessions that are to end

A terminal status stays, or is followed by another one.  The only writer that may write another kind over it is
`update_esme_conn`, and `Heeded` is the condition that it does not. -/

/-- A session that is to end: its status is not changed back, and no test for it misses it. -/
structure TxSession.Kept (s : TxSession) : Prop where
  status : s.terminal ≠ none → s.tx.status ≠ .binded ∧ s.tx.status ≠ .smscUnconnected
  heeded : s.overlooked = false

instance (s : TxSession) : Decidable s.Kept :=
  decidable_of_iff ((s.terminal ≠ none → s.tx.status ≠ .binded ∧ s.tx.status ≠ .smscUnconnected) ∧
    s.overlooked = false) ⟨fun h => ⟨h.1, h.2⟩, fun h => ⟨h.1, h.2⟩⟩

/-- **Terminal statuses are kept.** -/
def Sessions.TerminalKept (w : Sessions) : Prop := ∀ s ∈ w.txSessions, s.Kept

instance (w : Sessions) : Decidable w.TerminalKept :=
  inferInstanceAs (Decidable (∀ s ∈ w.txSessions, s.Kept))

/-- The write that `update_esme_conn` is about to make goes over no status that says that the session is
to end. -/
def Updater.Spares (w : Sessions) : Updater → Prop
  | .writing i j _ => ∀ s ∈ w.tx? i j, ¬ s.tx.status.Terminal
  | .idle | .testing _ _ => True

instance (w : Sessions) : ∀ u : Updater, Decidable (u.Spares w)
  | .writing i j _ => inferInstanceAs (Decidable (∀ s ∈ w.tx? i j, ¬ s.tx.status.Terminal))
  | .idle | .testing _ _ => .isTrue trivial

/-- **The guard of a step**: where `update_esme_conn` writes, it spares the sessions that are to end. -/
def Sessions.Heeded (w : Sessions) : SessionEvent → Prop
  | .updateEsmeConn => w.updater.Spares w
  | _ => True

instance (w : Sessions) : ∀ ev, Decidable (w.Heeded ev)
  | .updateEsmeConn => inferInstanceAs (Decidable (w.updater.Spares w))
  | .bind _ _ _ _ | .noOfSmsc _ | .infoSmsc _ | .shutdown | .esmeShutdown | .thread _ _ _
  | .esmeDestroy _ _ => .isTrue trivial

/-- What a session keeps as long as nothing writes over its end: its status is the last one written
that says that it is to end. -/
structure TxSession.Sound (s : TxSession) : Prop where
  status : ∀ st, s.terminal = some st → s.tx.status = st ∧ st.Terminal
  terminal : s.tx.status.Terminal → s.terminal ≠ none
  heeded : s.overlooked = false

namespace TxSession

variable {s s' : TxSession}

theorem Sound.kept (h : s.Sound) : s.Kept where
  status hne := by
    obtain ⟨st, hst⟩ := Option.ne_none_iff_exists'.mp hne
    obtain ⟨heq, hterminal⟩ := h.status st hst
    rw [heq]
    exact ⟨fun hb => (hb ▸ hterminal : EsmeStatus.Terminal .binded),
      fun hu => (hu ▸ hterminal : EsmeStatus.Terminal .smscUnconnected)⟩
  heeded := h.heeded

/-- A session whose status says that it is to end may get another such status. -/
theorem Sound.writeStatus_terminal (h : s.Sound) {st : EsmeStatus} (hst : st.Terminal) :
    (s.writeStatus st).Sound where
  status st' hst' := by
    rw [writeStatus, if_pos hst] at hst'
    obtain rfl := Option.some.inj hst'
    exact ⟨rfl, hst⟩
  terminal _ := by
    rw [writeStatus, if_pos hst]
    exact Option.some_ne_none st
  heeded := h.heeded

/-- A session that goes on may get a status that says so. -/
theorem Sound.writeStatus_not_terminal (h : s.Sound) (hs : ¬ s.tx.status.Terminal) {st : EsmeStatus}
    (hst : ¬ st.Terminal) : (s.writeStatus st).Sound where
  status st' hst' := by
    rw [writeStatus, if_neg hst] at hst'
    obtain ⟨heq, hterminal⟩ := h.status st' hst'
    exact absurd (heq ▸ hterminal) hs
  terminal hterminal := absurd hterminal hst
  heeded := h.heeded

theorem Sound.update (h : s.Sound) (hs : ¬ s.tx.status.Terminal) {st : EsmeStatus}
    (hst : ¬ st.Terminal) : (s.update st).Sound := by
  have hwrite := h.writeStatus_not_terminal hs hst
  rw [TxSession.update]
  split
  · exact ⟨hwrite.status, hwrite.terminal, hwrite.heeded⟩
  · exact hwrite

theorem update_status (s : TxSession) (st : EsmeStatus) : (s.update st).tx.status = st := by
  rw [TxSession.update]
  split <;> rfl

theorem update_terminal {st : EsmeStatus} (hst : ¬ st.Terminal) :
    (s.update st).terminal = s.terminal := by
  rw [TxSession.update]
  split <;> exact if_neg hst

/-- The thread gets to another place without missing anything. -/
theorem Sound.moveTo (h : s.Sound) (pc : SessionPc) {missed : Bool} (hmissed : missed = false) :
    Sound { s with pc := pc, overlooked := s.overlooked || missed } where
  status := h.status
  terminal := h.terminal
  heeded := by rw [h.heeded, hmissed, Bool.or_self]

/-- A test for a status that the session does not have misses no such status. -/
theorem Sound.terminal_ne (h : s.Sound) {st : EsmeStatus} (hst : s.tx.status ≠ st) :
    s.terminal ≠ some st := fun hterminal => hst (h.status st hterminal).1

theorem Sound.handlePdu (h : s.Sound) (pdu : SessionPdu) : (handlePdu s pdu).Sound := by
  cases pdu with
  | unbind => exact h.writeStatus_terminal trivial
  | unbindResp => exact ⟨h.status, h.terminal, h.heeded⟩
  | other => exact h

/-- **A session thread heeds the status** that says that its session is to end. -/
theorem Sound.receiveSmppThread (h : s.Sound) {ev : ThreadEvent}
    (hs : receiveSmppThread s ev = some s') : s'.Sound := by
  cases ev with
  | testDisconnect =>
    obtain ⟨-, hs⟩ := Option.ite_none_right_eq_some.mp hs
    split at hs
    · exact Option.some.inj hs ▸ ⟨h.status, h.terminal, h.heeded⟩
    · rename_i hstatus
      obtain ⟨hdisconnect, hunbind⟩ := not_or.mp hstatus
      have hmissed : ¬ (s.terminal = some .disconnect ∨ s.terminal = some .sendUnbind) :=
        not_or.mpr ⟨h.terminal_ne hdisconnect, h.terminal_ne hunbind⟩
      exact Option.some.inj hs ▸ h.moveTo .reading (decide_eq_false hmissed)
  | handlePdu pdu =>
    obtain ⟨-, hs⟩ := Option.ite_none_right_eq_some.mp hs
    exact Option.some.inj hs ▸ h.handlePdu pdu
  | testUnconnected =>
    obtain ⟨-, hs⟩ := Option.ite_none_right_eq_some.mp hs
    split at hs
    · exact Option.some.inj hs ▸ ⟨h.status, h.terminal, h.heeded⟩
    · rename_i hstatus
      exact Option.some.inj hs ▸ h.moveTo .waiting (decide_eq_false (h.terminal_ne hstatus))
  | fail =>
    obtain ⟨-, hs⟩ := Option.ite_none_left_eq_some.mp hs
    exact Option.some.inj hs ▸ ⟨h.status, h.terminal, h.heeded⟩

end TxSession

/-! ## Where the sessions come from

The sessions of all accounts as one list, under changes of one of them. -/

namespace Sessions

variable {w w' : Sessions} {s s' : TxSession} {i j : ℕ}

/-- A change to one account. -/
theorem mem_flatMap_modify {l : List BoundAccount} {g : BoundAccount → BoundAccount}
    (h : s ∈ (l.modify i g).flatMap (·.txEsme)) :
    s ∈ l.flatMap (·.txEsme) ∨ ∃ a, l[i]? = some a ∧ s ∈ (g a).txEsme := by
  obtain ⟨a', ha', hs⟩ := List.mem_flatMap.mp h
  obtain ⟨k, hk⟩ := List.mem_iff_getElem?.mp ha'
  rw [List.getElem?_modify] at hk
  obtain ⟨a, ha, rfl⟩ := Option.map_eq_some_iff.mp hk
  split at hs
  · rename_i hik
    exact .inr ⟨a, hik ▸ ha, hs⟩
  · exact .inl (List.mem_flatMap.mpr ⟨a, List.mem_of_getElem? ha, hs⟩)

theorem tx?_eq_some : w.tx? i j = some s ↔ ∃ a, w.esmeList[i]? = some a ∧ a.txEsme[j]? = some s := by
  rw [tx?]
  cases w.esmeList[i]? <;> simp

theorem mem_txSessions_of_getElem? {a : BoundAccount} (ha : w.esmeList[i]? = some a)
    (hs : s ∈ a.txEsme) : s ∈ w.txSessions :=
  List.mem_flatMap.mpr ⟨a, List.mem_of_getElem? ha, hs⟩

theorem mem_txSessions_of_tx? (h : w.tx? i j = some s) : s ∈ w.txSessions := by
  obtain ⟨a, ha, hs⟩ := tx?_eq_some.mp h
  exact mem_txSessions_of_getElem? ha (List.mem_of_getElem? hs)

theorem mem_setTx (h : s' ∈ (w.setTx i j s).txSessions) : s' ∈ w.txSessions ∨ s' = s := by
  obtain h | ⟨a, ha, h⟩ := mem_flatMap_modify h
  · exact .inl h
  · obtain h | h := List.mem_or_eq_of_mem_set h
    · exact .inl (mem_txSessions_of_getElem? ha h)
    · exact .inr h

/-- A session that is put in the place of another one is there. -/
theorem mem_setTx_self (h : w.tx? i j = some s') : s ∈ (w.setTx i j s).txSessions := by
  obtain ⟨a, ha, hs'⟩ := tx?_eq_some.mp h
  refine mem_txSessions_of_getElem? (w := w.setTx i j s) (i := i)
    (a := { a with txEsme := a.txEsme.set j s }) ?_ ?_
  · rw [setTx, List.getElem?_modify, ha]
    simp
  · exact List.mem_set (List.getElem?_eq_some_iff.mp hs').1 s

theorem mem_eraseTx (h : s ∈ (w.eraseTx i j).txSessions) : s ∈ w.txSessions := by
  obtain h | ⟨a, ha, h⟩ := mem_flatMap_modify h
  · exact h
  · exact mem_txSessions_of_getElem? ha (List.mem_of_mem_eraseIdx h)

theorem mem_appendTx {systemId : Option Octstr} (h : s' ∈ (w.appendTx systemId s).txSessions) :
    s' ∈ w.txSessions ∨ s' = s := by
  rw [appendTx] at h
  split at h
  · obtain h | ⟨a, ha, h⟩ := mem_flatMap_modify h
    · exact .inl h
    · obtain h | h := List.mem_append.mp h
      · exact .inl (mem_txSessions_of_getElem? ha h)
      · exact .inr (List.mem_singleton.mp h)
  · rw [txSessions, List.flatMap_append] at h
    obtain h | h := List.mem_append.mp h
    · exact .inl h
    · exact .inr (by simpa using h)

/-- **The invariant**: every session is sound, and `update_esme_conn` writes only whether an SMSC is
connected. -/
structure Inv (w : Sessions) : Prop where
  sound : ∀ s ∈ w.txSessions, s.Sound
  writing : ∀ i j st, w.updater = .writing i j st → ¬ st.Terminal

theorem Inv.terminalKept (h : w.Inv) : w.TerminalKept := fun s hs => (h.sound s hs).kept

theorem inv_start : Inv {} where
  sound s hs := absurd hs List.not_mem_nil
  writing i j st h := absurd h (by simp)

/-- A sound session in the place of another. -/
theorem Inv.setTx (h : w.Inv) (hs : s.Sound) : ∀ s' ∈ (w.setTx i j s).txSessions, s'.Sound := by
  intro s' hs'
  obtain hs' | rfl := mem_setTx hs'
  · exact h.sound s' hs'
  · exact hs

theorem sound_boundSession (accounts : List SmscClient) (w : Sessions) (env : AuthEnv)
    (tc : TempConn) (pdu : BindPdu) (mode : ℤ) :
    (boundSession accounts w env tc pdu mode).Sound where
  status st hst := absurd hst (by simp [boundSession])
  terminal hterminal := by
    simp only [boundSession, newSession, initialTxStatus] at hterminal
    split at hterminal <;> exact absurd hterminal id
  heeded := rfl

/-! ## Runs

One lemma for each actor, and `Inv.step` puts them together.  A write over the end of a session breaks the
property at once, which gives the other direction. -/

variable {accounts : List SmscClient} {ev : SessionEvent}

/-- **What a step of `update_esme_conn` can do**: it moves on, decides on a write, or writes. -/
theorem updateEsmeConn_cases (h : updateEsmeConn accounts w = some w') :
    (w'.esmeList = w.esmeList ∧ ∀ i j st, w'.updater = .writing i j st → ¬ st.Terminal) ∨
      ∃ i j st s, w.updater = .writing i j st ∧ w.tx? i j = some s ∧
        w' = { w.setTx i j (s.update st) with updater := .testing i (j + 1) } := by
  rw [updateEsmeConn] at h
  split at h
  · exact absurd h (by simp)
  · refine .inl ?_
    split at h
    · obtain rfl := Option.some.inj h
      exact ⟨rfl, by simp⟩
    · split at h
      · obtain rfl := Option.some.inj h
        exact ⟨rfl, by simp⟩
      · dsimp only at h
        split at h <;> split at h <;> try split at h
        all_goals
          obtain rfl := Option.some.inj h
          exact ⟨rfl, by simp [EsmeStatus.Terminal]⟩
  · rename_i i j st hupdater
    split at h
    · exact absurd h (by simp)
    · rename_i s hs
      exact .inr ⟨i, j, st, s, hupdater, hs, (Option.some.inj h).symm⟩

theorem Inv.updateEsmeConn (hinv : w.Inv) (hg : w.updater.Spares w)
    (h : updateEsmeConn accounts w = some w') : w'.Inv := by
  obtain ⟨hlist, hwriting⟩ | ⟨i, j, st, s, hupdater, hs, rfl⟩ := updateEsmeConn_cases h
  · refine ⟨fun s hs => hinv.sound s ?_, hwriting⟩
    rwa [txSessions, hlist] at hs
  · rw [hupdater] at hg
    have hupdate := (hinv.sound s (mem_txSessions_of_tx? hs)).update (hg s hs)
      (hinv.writing i j st hupdater)
    exact ⟨hinv.setTx hupdate, fun i' j' st' h' => absurd h' (by simp)⟩

theorem Inv.esmeShutdown (hinv : w.Inv) (h : esmeShutdown w = some w') : w'.Inv := by
  obtain ⟨-, h⟩ := Option.ite_none_left_eq_some.mp h
  split at h
  · exact absurd h (by simp)
  · split at h
    · exact absurd h (by simp)
    · rename_i s hs
      have hwrite : (s.writeStatus .disconnect).Sound :=
        (hinv.sound s (mem_txSessions_of_tx? hs)).writeStatus_terminal trivial
      exact Option.some.inj h ▸ ⟨hinv.setTx hwrite, hinv.writing⟩

theorem Inv.bind (hinv : w.Inv) {env : AuthEnv} {tc : TempConn} {pdu : BindPdu} {mode : ℤ}
    (h : sessionStep accounts w (.bind env tc pdu mode) = some w') : w'.Inv := by
  obtain ⟨-, h⟩ := Option.ite_none_right_eq_some.mp h
  obtain rfl := Option.some.inj h
  refine ⟨fun s hs => ?_, fun i j st hw => hinv.writing i j st ?_⟩
  · obtain hs | rfl := mem_appendTx hs
    · exact hinv.sound s hs
    · exact sound_boundSession accounts w env tc pdu mode
  · rw [← hw, appendTx]
    split <;> rfl

theorem Inv.noOfSmsc (hinv : w.Inv) {noOfSmsc : ℕ}
    (h : sessionStep accounts w (.noOfSmsc noOfSmsc) = some w') : w'.Inv := by
  obtain ⟨-, h⟩ := Option.ite_none_left_eq_some.mp h
  split at h
  · exact Option.some.inj h ▸ ⟨hinv.sound, hinv.writing⟩
  · exact Option.some.inj h ▸ hinv

theorem Inv.infoSmsc (hinv : w.Inv) {msg : InfoSmsc}
    (h : sessionStep accounts w (.infoSmsc msg) = some w') : w'.Inv := by
  obtain ⟨-, h⟩ := Option.ite_none_left_eq_some.mp h
  split at h
  · split at h
    · exact Option.some.inj h ▸ ⟨hinv.sound, hinv.writing⟩
    · exact Option.some.inj h ▸ ⟨hinv.sound, fun i j st hw => absurd hw (by simp)⟩
  · exact Option.some.inj h ▸ hinv

theorem Inv.thread (hinv : w.Inv) {tev : ThreadEvent}
    (h : sessionStep accounts w (.thread i j tev) = some w') : w'.Inv := by
  rw [sessionStep] at h
  split at h
  · exact absurd h (by simp)
  · rename_i s hs
    obtain ⟨s', hs', rfl⟩ := Option.map_eq_some_iff.mp h
    have hsound := (hinv.sound s (mem_txSessions_of_tx? hs)).receiveSmppThread hs'
    exact ⟨hinv.setTx hsound, hinv.writing⟩

theorem Inv.esmeDestroy (hinv : w.Inv)
    (h : sessionStep accounts w (.esmeDestroy i j) = some w') : w'.Inv := by
  rw [sessionStep] at h
  split at h
  · exact absurd h (by simp)
  · obtain ⟨-, h⟩ := Option.ite_none_right_eq_some.mp h
    exact Option.some.inj h ▸ ⟨fun s hs => hinv.sound s (mem_eraseTx hs), hinv.writing⟩

/-- **Steps that spare the sessions keep the invariant.** -/
theorem Inv.step (hinv : w.Inv) (hg : w.Heeded ev) (h : sessionStep accounts w ev = some w') :
    w'.Inv := by
  cases ev with
  | bind env tc pdu mode => exact hinv.bind h
  | noOfSmsc noOfSmsc => exact hinv.noOfSmsc h
  | infoSmsc msg => exact hinv.infoSmsc h
  | updateEsmeConn => exact hinv.updateEsmeConn hg h
  | shutdown => exact Option.some.inj h ▸ ⟨hinv.sound, hinv.writing⟩
  | esmeShutdown => exact hinv.esmeShutdown h
  | thread i j tev => exact hinv.thread h
  | esmeDestroy i j => exact hinv.esmeDestroy h

/-- A session that was to end, and whose end was written over. -/
theorem not_kept_update {st : EsmeStatus} (hs : s.Sound) (hterminal : s.tx.status.Terminal)
    (hst : ¬ st.Terminal) : ¬ (s.update st).Kept := by
  intro hkept
  have hstatus := hkept.status
    (by rw [TxSession.update_terminal hst]; exact hs.terminal hterminal)
  rw [TxSession.update_status] at hstatus
  cases st with
  | binded => exact hstatus.1 rfl
  | smscUnconnected => exact hstatus.2 rfl
  | unconnected => exact hst trivial
  | disconnect => exact hst trivial
  | sendUnbind => exact hst trivial

/-- **A write over the end of a session breaks it.** -/
theorem Inv.not_terminalKept (hinv : w.Inv) (hg : ¬ w.Heeded ev)
    (h : sessionStep accounts w ev = some w') : ¬ w'.TerminalKept := by
  cases ev with
  | updateEsmeConn =>
    cases hupdater : w.updater with
    | idle => exact absurd (by rw [Heeded, hupdater]; trivial) hg
    | testing i j => exact absurd (by rw [Heeded, hupdater]; trivial) hg
    | writing i j st =>
      rw [Heeded, hupdater] at hg
      obtain ⟨s, hs, hterminal⟩ : ∃ s, w.tx? i j = some s ∧ s.tx.status.Terminal := by
        simpa [Updater.Spares] using hg
      rw [sessionStep, SmppEsme.updateEsmeConn, hupdater] at h
      simp only [hs] at h
      obtain rfl := Option.some.inj h
      refine fun hkept => not_kept_update (hinv.sound s (mem_txSessions_of_tx? hs)) hterminal
        (hinv.writing i j st hupdater) (hkept (s.update st) (mem_setTx_self hs))
  | _ => exact absurd trivial hg

/-- **Terminal session states are kept** throughout a run exactly when `update_esme_conn` never writes
over one. -/
theorem terminalKept_iff_heeded (accounts : List SmscClient) (evs : List SessionEvent) (w : Sessions)
    (hrun : exec (sessionStep accounts) {} evs = some w) :
    Always (sessionStep accounts) TerminalKept {} evs ↔
      Along (sessionStep accounts) Heeded {} evs :=
  always_iff_along Inv.terminalKept (fun hi hg h => hi.step hg h)
    (fun hi hg h => hi.not_terminalKept hg h) inv_start hrun

end Sessions

/-! ## Samples -/

/-- An account with a transmitter. -/
def sampleTransmitter : SmscClient where
  accountName := octstrImm "acme"
  password := octstrImm "secret"
  validfrom := octstrImm "01/01/2020 00:00:00"
  validto := octstrImm "01/01/2030 00:00:00"
  allowedMode := 1

/-- The status of the one SMSC. -/
def sampleInfoSmsc (connStatus : ℤ) : InfoSmsc := ⟨octstrImm "smsc-a", connStatus, octstrImm "all", 1⟩

/-- The SMSC is announced as connected, the account binds, its thread begins to read. -/
def sampleSession : List SessionEvent :=
  [.noOfSmsc 1, .infoSmsc (sampleInfoSmsc 1),
    .bind ⟨[], ⟨0, 0, 0, fun _ _ => 0⟩, [], 7⟩ (tempconnCreate 5 (octstrImm "10.0.0.1") 4000 2775 1)
      { systemId := some (octstrImm "acme"), password := some (octstrImm "secret") } 1,
    .thread 0 0 .testDisconnect]

/-- The SMSC is lost while the session is in use; the client unbinds when that has been noted. -/
def sampleHeeded : List SessionEvent :=
  sampleSession ++
    [.infoSmsc (sampleInfoSmsc 0), .updateEsmeConn, .updateEsmeConn, .updateEsmeConn,
      .updateEsmeConn, .thread 0 0 (.handlePdu .unbind), .thread 0 0 .testUnconnected,
      .esmeDestroy 0 0]

/-- The client unbinds; before its thread tests the status the SMSC is lost. -/
def sampleLostUnbind : List SessionEvent :=
  sampleSession ++
    [.thread 0 0 (.handlePdu .unbind), .infoSmsc (sampleInfoSmsc 0), .updateEsmeConn,
      .updateEsmeConn, .thread 0 0 .testUnconnected]

/-- The state a run of the sample ends in. -/
def sampleSessionsAfter (evs : List SessionEvent) : Option Sessions :=
  exec (sessionStep [sampleTransmitter]) {} evs

theorem Sessions.terminalKept_sampleHeeded :
    Always (sessionStep [sampleTransmitter]) Sessions.TerminalKept {} sampleHeeded := by
  have hrun : exec (sessionStep [sampleTransmitter]) {} sampleHeeded =
      some ((sampleSessionsAfter sampleHeeded).get (by decide)) := (Option.some_get _).symm
  exact (Sessions.terminalKept_iff_heeded [sampleTransmitter] sampleHeeded _ hrun).mpr (by decide)

/-- **The unbind is lost**: the thread of a session whose client has unbound goes on with a status that
says that the SMSC is not connected. -/
theorem Sessions.terminalKept_sampleLostUnbind :
    ∃ w, exec (sessionStep [sampleTransmitter]) {} sampleLostUnbind = some w ∧
      ¬ w.TerminalKept :=
  ⟨(sampleSessionsAfter sampleLostUnbind).get (by decide), (Option.some_get _).symm, by decide⟩

end SmppServer.SmppEsme
