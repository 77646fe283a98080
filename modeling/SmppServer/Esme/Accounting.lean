import SmppServer.Esme.Sessions
import SmppServer.Esme.VerifyPdu

/-!
# Esme/Accounting — every submit is answered once and recorded once

The ESME process over whole histories: accounts bind and end their sessions, the sessions submit, and
everything else — the status of the program and of its connections, the queue to the SMSC process, the
status of a session — changes at will in between.  What the process sends is logged: the responses,
the messages to the database process, and the messages to the SMSC process.

* `handleSubmitSm_outcome` — one submit: its counters, its response, its records.
* `submit_accounting` — the books balance in **every** reachable state.
-/

namespace SmppServer.SmppEsme

open Machinery Function

/-! ## What one call does to the books

Every change that a call makes to a session is one of three kinds: it counts a submit as received, as settled,
or not at all.  `Booked` composes, so the books of a call are the sum of its parts. -/

/-- A change of a session in which `received` submits were received and `settled` were accepted or
rejected. -/
structure Books (received settled : ℕ) (f : EsmeTx → EsmeTx) : Prop where
  conn : ∀ tx, (f tx).conn = tx.conn
  sessionId : ∀ tx, (f tx).sessionId = tx.sessionId
  msgReceived : ∀ tx, (f tx).msgReceived = tx.msgReceived + received
  settled : ∀ tx, (f tx).msgSent + (f tx).msgRejected = tx.msgSent + tx.msgRejected + settled

theorem Books.comp {r r' s s' : ℕ} {f g : EsmeTx → EsmeTx} (hg : Books r' s' g) (hf : Books r s f) :
    Books (r + r') (s + s') (g ∘ f) where
  conn tx := (hg.conn (f tx)).trans (hf.conn tx)
  sessionId tx := (hg.sessionId (f tx)).trans (hf.sessionId tx)
  msgReceived tx := by rw [comp_apply, hg.msgReceived, hf.msgReceived, Nat.add_assoc]
  settled tx := by rw [comp_apply, hg.settled, hf.settled, Nat.add_assoc]

theorem books_id : Books 0 0 id := ⟨fun _ => rfl, fun _ => rfl, fun _ => rfl, fun _ => rfl⟩

theorem books_countQuota : Books 0 0 countQuota := by
  constructor <;> intro tx <;> unfold countQuota <;> split <;> rfl

theorem books_rejected : Books 0 1 fun tx => { tx with msgRejected := tx.msgRejected + 1 } :=
  ⟨fun _ => rfl, fun _ => rfl, fun _ => rfl, fun _ => (Nat.add_assoc ..).symm⟩

theorem books_sent : Books 0 1 fun tx => { tx with msgSent := tx.msgSent + 1 } :=
  ⟨fun _ => rfl, fun _ => rfl, fun _ => rfl, fun _ => Nat.add_right_comm ..⟩

theorem books_received : Books 1 0 fun tx => { tx with msgReceived := tx.msgReceived + 1 } :=
  ⟨fun _ => rfl, fun _ => rfl, fun _ => rfl, fun _ => rfl⟩

/-- The account is changed in one transmitter session, with these books, and in nothing that names its
sessions. -/
structure Booked (e : Esme) (session received settled : ℕ) (e' : Esme) : Prop where
  systemId : e'.systemId = e.systemId
  rxEsme : e'.rxEsme = e.rxEsme
  txEsme : ∃ f, Books received settled f ∧ e'.txEsme = e.txEsme.modify session f

section Booked

variable {e e' e'' : Esme} {session r r' s s' : ℕ} {f : EsmeTx → EsmeTx}

theorem Booked.trans (h : Booked e session r s e') (h' : Booked e' session r' s' e'') :
    Booked e session (r + r') (s + s') e'' := by
  obtain ⟨f, hf, htx⟩ := h.txEsme
  obtain ⟨g, hg, htx'⟩ := h'.txEsme
  refine ⟨h'.systemId.trans h.systemId, h'.rxEsme.trans h.rxEsme, g ∘ f, hg.comp hf, ?_⟩
  rw [htx', htx, List.modify_modify_eq]

theorem booked_modifyTx (hf : Books r s f) : Booked e session r s (e.modifyTx session f) :=
  ⟨rfl, rfl, f, hf, rfl⟩

/-- Nothing that is counted changes. -/
theorem booked_of_eq (hid : e'.systemId = e.systemId) (hrx : e'.rxEsme = e.rxEsme)
    (htx : e'.txEsme = e.txEsme) : Booked e session 0 0 e' :=
  ⟨hid, hrx, id, books_id, by rw [htx, List.modify_id]⟩

theorem booked_paceSubmits (now : Moment) : Booked e session 0 0 (paceSubmits now e) := by
  rw [paceSubmits]
  split
  · exact booked_of_eq rfl rfl rfl
  · exact booked_of_eq rfl rfl rfl

theorem booked_verifyPduPara (env : VerifyEnv) (pdu : SubmitSm) :
    Booked e session 0 0 (verifyPduPara env e pdu).esme := by
  obtain ⟨allowedPrefix, h⟩ := verifyPduPara_esme env e pdu
  rw [h]
  exact booked_of_eq rfl rfl rfl

end Booked

/-- What handling a submit relies on: the checks, the routing, and the conversions. -/
structure SubmitEnv extends VerifyEnv where
  routPdu : Option Octstr → Option Octstr → Option (Octstr × Octstr)
  smppPduPack : SubmitSm → Option Octstr
  octstrBinaryToHex : Octstr → Octstr

/-- The functions that `handle_submit_sm` calls. -/
def SubmitEnv.lib (env : SubmitEnv) : SubmitLib where
  verifyPduPara := verifyPduPara env.toVerifyEnv
  routPdu := env.routPdu
  smppPduPack := env.smppPduPack
  octstrBinaryToHex := env.octstrBinaryToHex

section Outcome

variable {env : SubmitEnv} {cfg : ServerCfg} {now : Moment} {srv : SubmitServer} {e e' : Esme}
  {session : ℕ} {mode : ℤ} {tx : EsmeTx} {pdu : SubmitSm} {messageId : Octstr} {status : ℤ}

/-- **The checks settle the submit**: one counter goes up, and there is a message for the SMSC process
exactly if the status is zero. -/
structure Settled (e : Esme) (session : ℕ) (messageId : Octstr) (c : Checked) : Prop where
  esme : Booked e session 0 1 c.esme
  msg : c.msg.map (·.accountMsgId) = if c.commandStatus = 0 then some messageId else none

theorem settled_reject (h : Booked e session 0 0 e') (hstatus : status ≠ 0) :
    Settled e session messageId (reject session status e') where
  esme := h.trans (booked_modifyTx books_rejected)
  msg := (if_neg hstatus).symm

theorem settled_checkSubmit :
    Settled e session messageId (checkSubmit env.lib cfg now srv e session tx messageId pdu) := by
  have hsame : Booked e session 0 0 e := booked_of_eq rfl rfl rfl
  have hverified : Booked e session 0 0
      (verifyPduPara env.toVerifyEnv (e.modifyTx session countQuota) pdu).esme :=
    (booked_modifyTx books_countQuota).trans (booked_verifyPduPara env.toVerifyEnv pdu)
  rw [checkSubmit]
  split
  · exact settled_reject hsame (by decide)
  split
  · exact settled_reject hsame (by decide)
  split
  · exact settled_reject hsame (by decide)
  split
  · exact settled_reject hsame (by decide)
  dsimp only [SubmitEnv.lib]
  split
  · exact settled_reject hverified (by decide)
  split
  · rename_i hreason
    exact settled_reject hverified hreason
  split
  · exact settled_reject hverified (by decide)
  · refine ⟨show Booked e session (0 + 0) (0 + 1) _ from hverified.trans ?_, rfl⟩
    exact ⟨rfl, rfl, _, books_sent, rfl⟩

/-- **One submit is on the books**: it is received and settled on its session; there is one response,
one row, a record exactly of a rejection, and a message for the SMSC process exactly of an accepted
submit that needs no DND check. -/
structure SubmitOutcome.Accounted (cfg : ServerCfg) (srv : SubmitServer) (e : Esme) (session : ℕ)
    (pdu : SubmitSm) (out : SubmitOutcome) : Prop where
  esme : Booked e session 1 1 out.esme
  resp : out.resp.sequenceNumber = pdu.sequenceNumber
  smppEsme : (out.smppEsme.accountMsgId, out.smppEsme.submitStatus) =
    (out.resp.messageId, out.resp.commandStatus)
  insertMis : out.insertMis.map (fun m => (m.accountMsgId, m.submitStatus)) =
    if out.resp.commandStatus = 0 then none else some (out.resp.messageId, out.resp.commandStatus)
  forwarded : ∃ msgs, out.server.forwardSendList = srv.forwardSendList ++ msgs ∧
    msgs.map (·.accountMsgId) =
      if out.resp.commandStatus = 0 ∧ cfg.dndcheckFlag = 0 then [out.resp.messageId] else []

/-- The counter of message ids is not on the books. -/
theorem SubmitOutcome.Accounted.of_counter {c : ℕ} {out : SubmitOutcome}
    (h : out.Accounted cfg { srv with counter := c } e session pdu) :
    out.Accounted cfg srv e session pdu :=
  ⟨h.esme, h.resp, h.smppEsme, h.insertMis, h.forwarded⟩

/-- The end of `handle_submit_sm`, on the outcome of its checks. -/
theorem accounted_answerSubmit {ip : Octstr} {c : Checked} (h : Settled e session messageId c) :
    (answerSubmit env.lib cfg now srv session 1 ip messageId pdu c).Accounted cfg srv e session pdu where
  esme := h.esme.trans (booked_modifyTx books_received)
  resp := rfl
  smppEsme := rfl
  insertMis := by
    by_cases hstatus : c.commandStatus = 0
    · simp [answerSubmit, hstatus]
    · simp [answerSubmit, hstatus, misDbInsert]
  forwarded := by
    have hmsg := h.msg
    cases hc : c.msg with
    | none =>
      rw [hc, Option.map_none] at hmsg
      have hstatus : c.commandStatus ≠ 0 := fun h => by simp [h] at hmsg
      refine ⟨[], ?_, ?_⟩
      · simp only [answerSubmit, hc, List.append_nil]
      · simp [answerSubmit, hstatus]
    | some msg =>
      rw [hc, Option.map_some] at hmsg
      have hstatus : c.commandStatus = 0 := by
        by_contra h
        simp [h] at hmsg
      rw [if_pos hstatus, Option.some.injEq] at hmsg
      by_cases hdnd : cfg.dndcheckFlag = 0
      · refine ⟨[msg], ?_, ?_⟩
        · simp only [answerSubmit, hc, if_pos hdnd]
        · simp [answerSubmit, hmsg, hstatus, hdnd]
      · refine ⟨[], ?_, ?_⟩
        · simp only [answerSubmit, hc, if_neg hdnd, List.append_nil]
        · simp [answerSubmit, hdnd]

/-- Answering leaves the counter of message ids. -/
theorem answerSubmit_counter {ip : Octstr} {c : Checked} :
    (answerSubmit env.lib cfg now srv session mode ip messageId pdu c).server.counter = srv.counter := by
  simp only [answerSubmit]
  split
  · split <;> rfl
  · rfl

theorem paceSubmits_txEsme : (paceSubmits now e).txEsme = e.txEsme := by
  rw [paceSubmits]
  split <;> rfl

/-- **A submit on a transmitter or transceiver session** is handled, and on the books. -/
theorem handleSubmitSm_tx (env : SubmitEnv) (cfg : ServerCfg) (now : Moment) (srv : SubmitServer)
    (pdu : SubmitSm) (htx : e.txEsme[session]? = some tx) :
    ∃ out, handleSubmitSm env.lib cfg now srv e session 1 pdu = some out ∧
      out.Accounted cfg srv e session pdu ∧
      out.server.counter = srv.counter + 1 ∧
      out.resp.messageId =
        formatLd tx.msgReceived ++ formatLd now.timestamp ++ formatLd (srv.counter + 1 : ℕ) := by
  have hpace : (paceSubmits now e).txEsme[session]? = some tx := by rw [paceSubmits_txEsme, htx]
  rw [handleSubmitSm, if_neg (by decide), hpace, Option.map_some]
  refine ⟨_, rfl, .of_counter (c := srv.counter + 1) ?_, answerSubmit_counter, rfl⟩
  exact accounted_answerSubmit
    ⟨(booked_paceSubmits now).trans settled_checkSubmit.esme, settled_checkSubmit.msg⟩

end Outcome

/-! ## Histories

The world is the registry with its threads, the rest of the process, and logs of what it received and sent.
Sessions of receivers read submits too, but the process does not survive one, so there is no step for it. -/

/-- A message for the database process. -/
inductive DbboxMsg
  | smppEsme (msg : SmppEsmeMsg)
  | insertMis (msg : InsertMisMsg)
  deriving DecidableEq, Repr

/-- The id and the status of a row. -/
def DbboxMsg.row? : DbboxMsg → Option (Octstr × ℤ)
  | .smppEsme msg => some (msg.accountMsgId, msg.submitStatus)
  | .insertMis _ => none

/-- The id and the status of a MIS record. -/
def DbboxMsg.mis? : DbboxMsg → Option (Octstr × ℤ)
  | .smppEsme _ => none
  | .insertMis msg => some (msg.accountMsgId, msg.submitStatus)

/-- A response, with the connection it is sent over and the mode of its session. -/
structure Answer where
  conn : ℕ
  mode : ℤ
  resp : SubmitSmResp
  deriving DecidableEq, Repr

/-- The id and the status of a response. -/
def Answer.entry (x : Answer) : Octstr × ℤ := (x.resp.messageId, x.resp.commandStatus)

/-- The registry and the session threads, the rest of the process, and the logs of what it received and
sent. -/
structure SubmitWorld extends World where
  server : SubmitServer
  received : List (ℕ × SubmitSm)
  answers : List Answer
  dbbox : List DbboxMsg
  forwarded : List SubmitMsg

/-- The state at start-up. -/
def SubmitWorld.init : SubmitWorld := ⟨World.init, {}, [], [], [], []⟩

/-- What happens: a bind or the end of a session; a submit over a connection; a change of the process
outside the sessions; a change of a session by `update_esme_conn` or by its own thread. -/
inductive SubmitEvent
  | session (ev : AtomicEvent)
  | submit (conn : ℕ) (env : SubmitEnv) (now : Moment) (pdu : SubmitSm)
  | server (srv : SubmitServer)
  | status (esme session : ℕ) (status : EsmeStatus) (submitsUnconnect : ℕ)

/-- The position of a session in its list. -/
def Esme.position (e : Esme) (k : Kind) (sessionId : ℤ) : ℕ := (e.ids k).idxOf sessionId

/-- A submit was handled: the account and the process change, and what was sent is logged. -/
def SubmitWorld.record (w : SubmitWorld) (conn esme : ℕ) (mode : ℤ) (pdu : SubmitSm) (out : SubmitOutcome) :
    SubmitWorld where
  registry := w.registry.modify esme fun _ => out.esme
  phase := w.phase
  server := out.server
  received := w.received ++ [(conn, pdu)]
  answers := w.answers ++ [⟨conn, mode, out.resp⟩]
  dbbox := w.dbbox ++ .smppEsme out.smppEsme :: (out.insertMis.map .insertMis).toList
  forwarded := w.forwarded ++ out.server.forwardSendList.drop w.server.forwardSendList.length

/-- **One step of the process.**  The thread of a transceiver has the thread type of a transmitter; with a submit
of a receiver there is no step, since the process does not survive it. -/
def submitStep (cfg : ServerCfg) (w : SubmitWorld) : SubmitEvent → Option SubmitWorld
  | .session ev => (atomicStep w.toWorld ev).map fun w' => { w with toWorld := w' }
  | .submit conn env now pdu =>
    match w.phase conn with
    | .bound esme mode sessionId =>
      (w.registry.get? esme).bind fun e =>
        (handleSubmitSm env.lib cfg now w.server e (e.position (.ofMode mode) sessionId)
          (Kind.ofMode mode).threadType pdu).map (w.record conn esme mode pdu)
    | _ => none
  | .server srv => some { w with server := { srv with counter := w.server.counter } }
  | .status esme session status submitsUnconnect => some
      { w with
        registry := w.registry.modify esme fun e => e.modifyTx session fun tx =>
          { tx with status := status, submitsUnconnect := submitsUnconnect } }

/-- **The books balance**: on every session the submits received are those accepted and those
rejected; the responses answer the submits one by one; every response has one row with its status, and
one MIS record exactly if it is a rejection; and what went to the SMSC process is what was accepted,
unless the DND checker forwards it. -/
structure SubmitWorld.Balanced (cfg : ServerCfg) (w : SubmitWorld) : Prop where
  counters : ∀ {a e}, (a, e) ∈ w.registry.cells → ∀ tx ∈ e.txEsme,
    tx.msgReceived = tx.msgSent + tx.msgRejected
  answers : w.answers.map (fun x => (x.conn, x.resp.sequenceNumber)) =
    w.received.map fun x => (x.1, x.2.sequenceNumber)
  smppEsme : w.dbbox.filterMap DbboxMsg.row? = w.answers.map Answer.entry
  insertMis : w.dbbox.filterMap DbboxMsg.mis? =
    (w.answers.filter fun x => x.resp.commandStatus ≠ 0).map Answer.entry
  forwarded : w.forwarded.map (·.accountMsgId) =
    if cfg.dndcheckFlag = 0 then
      (w.answers.filter fun x => x.resp.commandStatus = 0).map (·.resp.messageId)
    else []

/-! ## The registry under a submit

A submit changes counters of an entry and neither its name nor the names of its sessions; the registry invariant
speaks of these alone. -/

/-- The connections and the ids of the sessions of a kind. -/
def Esme.keys (e : Esme) (k : Kind) : List (ℕ × ℤ) := (e.sessions k).map fun s => (s.conn, s.sessionId)

theorem map_modify_of_eq {α β : Type*} {f : α → α} {g : α → β} (h : ∀ x, g (f x) = g x) :
    ∀ (l : List α) (i : ℕ), (l.modify i f).map g = l.map g
  | [], _ => by simp
  | x :: l, 0 => by simp [h]
  | x :: l, i + 1 => by simp [map_modify_of_eq h l i]

section Keys

variable {r : Registry} {phase : ℕ → Phase} {a : ℕ} {e e' : Esme} {f : Esme → Esme}

theorem Booked.keys {session n m : ℕ} (h : Booked e session n m e') (k : Kind) : e'.keys k = e.keys k := by
  obtain ⟨f, hf, htx⟩ := h.txEsme
  cases k with
  | tx =>
    simp only [Esme.keys, Esme.sessions, List.map_map, htx]
    exact map_modify_of_eq (fun tx => Prod.ext (hf.conn tx) (hf.sessionId tx)) _ _
  | rx => simp only [Esme.keys, Esme.sessions, h.rxEsme]

theorem Esme.exists_session_of_keys (h : ∀ k, e'.keys k = e.keys k) {k : Kind} {s : Session}
    (hs : s ∈ e.sessions k) : ∃ s' ∈ e'.sessions k, s'.conn = s.conn ∧ s'.sessionId = s.sessionId := by
  have hmem : (s.conn, s.sessionId) ∈ e'.keys k := by
    rw [h k]
    exact List.mem_map_of_mem hs
  obtain ⟨s', hs', heq⟩ := List.mem_map.mp hmem
  exact ⟨s', hs', congrArg Prod.fst heq, congrArg Prod.snd heq⟩

theorem EntryOk.of_keys (h : EntryOk phase a e) (hid : e'.systemId = e.systemId)
    (hkeys : ∀ k, e'.keys k = e.keys k) : EntryOk phase a e' := by
  have hids : ∀ k, e'.ids k = e.ids k := by
    intro k
    have hsnd := congrArg (List.map Prod.snd) (hkeys k)
    rw [Esme.keys, Esme.keys, List.map_map, List.map_map] at hsnd
    exact hsnd
  refine ⟨hid ▸ h.named, fun k => hids k ▸ h.nodup k, fun k => hids k ▸ h.pos k, fun k s hs => ?_⟩
  obtain ⟨s', hs', hconn, hsid⟩ := Esme.exists_session_of_keys (fun k => (hkeys k).symm) hs
  obtain ⟨m, hm, hb⟩ := h.bound k s' hs'
  exact ⟨m, hm, by rw [← hconn, ← hsid]; exact hb⟩

/-- **A change of an entry that keeps its name and the names of its sessions.** -/
theorem Registered.modify_keys (h : Registered r phase)
    (hf : ∀ e, (a, e) ∈ r.cells → (f e).systemId = e.systemId ∧ ∀ k, (f e).keys k = e.keys k) :
    Registered (r.modify a f) phase := by
  refine ⟨h.onlyOfName_modify fun e he => (hf e he).1, fun {b e'} hb => ?_, fun {b e'} hb => ?_,
    h.hasMode, fun {c b m i} hb => ?_⟩
  · obtain ⟨-, hb⟩ | ⟨rfl, e, he, rfl⟩ := Arena.mem_modify.mp hb
    · exact h.entryOk hb
    · exact (h.entryOk he).of_keys (hf e he).1 (hf e he).2
  · obtain ⟨-, hb⟩ | ⟨rfl, e, he, rfl⟩ := Arena.mem_modify.mp hb
    · exact h.occupied hb
    · obtain ⟨k, hk⟩ := h.occupied he
      obtain ⟨s, hs⟩ := List.exists_mem_of_ne_nil _ hk
      obtain ⟨s', hs', -⟩ := Esme.exists_session_of_keys (hf e he).2 hs
      exact ⟨k, List.ne_nil_of_mem hs'⟩
  · obtain ⟨e, he, s, hs, hsid, hconn⟩ := h.hasSession hb
    by_cases hba : b = a
    · subst hba
      obtain ⟨s', hs', hconn', hsid'⟩ := Esme.exists_session_of_keys (hf e he).2 hs
      exact ⟨f e, Arena.mem_modify.mpr (.inr ⟨rfl, e, he, rfl⟩), s', hs', hsid'.trans hsid,
        hconn'.trans hconn⟩
    · exact ⟨e, Arena.mem_modify.mpr (.inl ⟨hba, he⟩), s, hs, hsid, hconn⟩

end Keys

/-! ## Binds and destroys leave the counters

A new session has counted nothing and is balanced from the start; a session that ends takes its counters with
it. -/

/-- The transmitter sessions of a registry, old or new: a new one has counted nothing yet. -/
def CountersKept (r r' : Registry) : Prop :=
  ∀ a e', (a, e') ∈ r'.cells → ∀ tx ∈ e'.txEsme,
    (∃ e, (a, e) ∈ r.cells ∧ tx ∈ e.txEsme) ∨
      tx.msgReceived = 0 ∧ tx.msgSent = 0 ∧ tx.msgRejected = 0

section Counters

variable {r r' : Registry} {a : ℕ} {e e' : Esme} {tx : EsmeTx} {mode id : ℤ}

theorem mem_txEsme_deleteFrom (h : deleteFrom e mode id = .ok e') (htx : tx ∈ e'.txEsme) :
    tx ∈ e.txEsme := by
  obtain ⟨-, rfl⟩ | ⟨-, rfl | rfl⟩ := deleteFrom_cases h
  · exact List.mem_of_mem_eraseP htx
  · exact htx
  · exact htx

theorem countersKept_esmeDestroy (h : esmeDestroy r a mode id = .ok r') : CountersKept r r' := by
  intro b e' he' tx htx
  refine .inl ?_
  unfold esmeDestroy at h
  split at h
  · exact absurd h (by simp)
  rename_i e he
  split at h
  · obtain rfl := Except.ok.inj h
    exact ⟨e', he', htx⟩
  split at h
  · exact absurd h (by simp)
  rename_i hdel
  split at h
  · split at h
    · obtain rfl := Except.ok.inj h
      exact ⟨e', (Arena.mem_free.mp he').1, htx⟩
    · exact absurd h (by simp)
  · obtain rfl := Except.ok.inj h
    obtain ⟨-, hb⟩ | ⟨rfl, -, -, rfl⟩ := Arena.mem_modify.mp he'
    · exact ⟨e', hb, htx⟩
    · exact ⟨e, Arena.get?_eq_some.mp he, mem_txEsme_deleteFrom hdel htx⟩

theorem mem_txEsme_addSession {env : AuthEnv} {pdu : BindPdu} {tc : TempConn}
    (htx : tx ∈ (addSession env pdu tc mode e).txEsme) :
    tx ∈ e.txEsme ∨ tx.msgReceived = 0 ∧ tx.msgSent = 0 ∧ tx.msgRejected = 0 := by
  unfold addSession at htx
  split at htx
  · obtain htx | htx := List.mem_append.mp htx
    · exact .inl htx
    · rw [List.mem_singleton.mp htx]
      exact .inr ⟨rfl, rfl, rfl⟩
  · split at htx
    · exact .inl htx
    · exact .inl htx

theorem countersKept_atomicStep {w w' : World} {ev : AtomicEvent} (hs : atomicStep w ev = some w') :
    CountersKept w.registry w'.registry := by
  cases ev with
  | bind env tc pdu mode =>
    obtain ⟨-, -, -, -, rfl | ⟨t, -, rfl⟩ | ⟨a, e, -, rfl⟩⟩ := atomicStep_bind hs
    · exact fun b e' he' tx htx => .inl ⟨e', he', htx⟩
    · intro b e' he' tx htx
      obtain he' | ⟨-, rfl⟩ := Arena.mem_alloc.mp he'
      · exact .inl ⟨e', he', htx⟩
      · exact .inr ((mem_txEsme_addSession htx).resolve_left List.not_mem_nil)
    · intro b e' he' tx htx
      obtain ⟨-, hb⟩ | ⟨rfl, v, hv, rfl⟩ := Arena.mem_modify.mp he'
      · exact .inl ⟨e', hb, htx⟩
      · exact (mem_txEsme_addSession htx).imp_left fun h => ⟨v, hv, h⟩
  | destroy c =>
    obtain ⟨a, m, i, r, -, hd, rfl⟩ := atomicStep_destroy hs
    exact countersKept_esmeDestroy hd

end Counters

/-! ## One step keeps the books

The balance has two halves, one over the sessions and one over the logs.  A submit moves both by one; nothing
else moves either. -/

/-- The transmitter or transceiver session of a connection. -/
def SubmitWorld.tx? (w : SubmitWorld) (conn : ℕ) : Option EsmeTx :=
  match w.phase conn with
  | .bound esme mode sessionId =>
    if mode = 2 then none
    else (w.registry.get? esme).bind fun e => e.txEsme[e.position .tx sessionId]?
  | _ => none

section Step

variable {cfg : ServerCfg} {w w' : SubmitWorld} {conn a : ℕ} {m i : ℤ} {e : Esme} {env : SubmitEnv}
  {now : Moment} {pdu : SubmitSm} {ev : SubmitEvent}

/-- A session that is in the list is at its position. -/
theorem Esme.position_lt {k : Kind} (h : i ∈ e.ids k) : e.position k i < (e.ids k).length :=
  List.idxOf_lt_length_iff.mpr h

/-- What a submit on the session of a connection does: it counts once on the books of the session, and its id is
made of the three counters. -/
structure Handled (cfg : ServerCfg) (w : SubmitWorld) (conn : ℕ) (now : Moment) (pdu : SubmitSm)
    (e : Esme) (session : ℕ) (tx : EsmeTx) (out : SubmitOutcome) : Prop where
  tx_eq : w.tx? conn = some tx
  accounted : out.Accounted cfg w.server e session pdu
  counter : out.server.counter = w.server.counter + 1
  messageId : out.resp.messageId =
    formatLd tx.msgReceived ++ formatLd now.timestamp ++ formatLd (w.server.counter + 1 : ℕ)

/-- **Every submit of a transmitter or transceiver is handled.** -/
theorem Registered.submit (h : Registered w.registry w.phase) (hb : w.phase conn = .bound a m i) (hm : m ≠ 2)
    (cfg : ServerCfg) (env : SubmitEnv) (now : Moment) (pdu : SubmitSm) :
    ∃ e session tx out, (a, e) ∈ w.registry.cells ∧ Handled cfg w conn now pdu e session tx out ∧
      submitStep cfg w (.submit conn env now pdu) = some (w.record conn a m pdu out) := by
  obtain ⟨e, he, s, hs, rfl, -⟩ := h.hasSession hb
  have hget := Arena.get?_eq_some.mpr he
  have hlt := Esme.position_lt (e := e) (List.mem_map_of_mem hs : s.sessionId ∈ e.ids (.ofMode m))
  have hk : Kind.ofMode m = .tx := if_neg hm
  rw [hk, Esme.ids_tx, List.length_map] at hlt
  have htx := List.getElem?_eq_getElem hlt
  obtain ⟨out, hout, hacc, hcounter, hid⟩ := handleSubmitSm_tx env cfg now w.server pdu htx
  refine ⟨e, _, _, out, he, ⟨?_, hacc, hcounter, hid⟩, ?_⟩
  · simp only [SubmitWorld.tx?, hb, if_neg hm, hget, Option.bind_some, htx]
  · simp only [submitStep, hb, hget, Option.bind_some, hk, Kind.threadType, hout, Option.map_some]

/-- The process takes a step with a submit only if it comes from a session that may transmit. -/
theorem submitStep_bound (h : submitStep cfg w (.submit conn env now pdu) = some w') :
    ∃ a m i, w.phase conn = .bound a m i ∧ m ≠ 2 := by
  simp only [submitStep] at h
  split at h
  · rename_i a m i hb
    refine ⟨a, m, i, hb, ?_⟩
    rintro rfl
    obtain ⟨e, -, h⟩ := Option.bind_eq_some_iff.mp h
    exact absurd h (by simp [handleSubmitSm, Kind.ofMode, Kind.threadType])
  · exact absurd h (by simp)

theorem mem_modify_of_mem {α : Type*} {l : List α} {j : ℕ} {f : α → α} {x : α} (h : x ∈ l.modify j f) :
    x ∈ l ∨ ∃ y ∈ l, x = f y := by
  obtain ⟨k, hk⟩ := List.mem_iff_getElem?.mp h
  rw [List.getElem?_modify] at hk
  obtain ⟨y, hy, rfl⟩ := Option.map_eq_some_iff.mp hk
  have hmem : y ∈ l := List.mem_of_getElem? hy
  split
  · exact .inr ⟨y, hmem, rfl⟩
  · exact .inl hmem

/-- As many submits received as settled: the counters of the sessions stay in balance. -/
theorem Booked.counters {session n : ℕ} {e' : Esme} (h : Booked e session n n e')
    (hbefore : ∀ tx ∈ e.txEsme, tx.msgReceived = tx.msgSent + tx.msgRejected) :
    ∀ tx ∈ e'.txEsme, tx.msgReceived = tx.msgSent + tx.msgRejected := by
  intro tx htx
  obtain ⟨f, hf, htxs⟩ := h.txEsme
  rw [htxs] at htx
  obtain hmem | ⟨tx₀, hmem, rfl⟩ := mem_modify_of_mem htx
  · exact hbefore tx hmem
  · have hreceived := hf.msgReceived tx₀
    have hsettled := hf.settled tx₀
    have hbalance := hbefore tx₀ hmem
    omega

/-- A submit that is on the books keeps them balanced. -/
theorem SubmitWorld.Balanced.record (h : w.Balanced cfg) (he : (a, e) ∈ w.registry.cells) {session : ℕ}
    {out : SubmitOutcome} (hout : out.Accounted cfg w.server e session pdu) :
    (w.record conn a m pdu out).Balanced cfg where
  counters := by
    intro b e' hb tx htx
    obtain ⟨-, hb⟩ | ⟨rfl, -, -, rfl⟩ := Arena.mem_modify.mp hb
    · exact h.counters hb tx htx
    · exact hout.esme.counters (h.counters he) tx htx
  answers := by
    simp only [SubmitWorld.record, List.map_append, h.answers, List.map_cons, List.map_nil, hout.resp]
  smppEsme := by
    have hnone : (out.insertMis.map DbboxMsg.insertMis).toList.filterMap DbboxMsg.row? = [] := by
      cases out.insertMis <;> rfl
    simp only [SubmitWorld.record, List.filterMap_append, h.smppEsme, List.filterMap_cons,
      DbboxMsg.row?, hnone, hout.smppEsme, List.map_append, List.map_cons, List.map_nil, Answer.entry]
  insertMis := by
    have hmis : (out.insertMis.map DbboxMsg.insertMis).toList.filterMap DbboxMsg.mis? =
        (out.insertMis.map fun m => (m.accountMsgId, m.submitStatus)).toList := by
      cases out.insertMis <;> rfl
    simp only [SubmitWorld.record, List.filterMap_append, h.insertMis, List.filterMap_cons,
      DbboxMsg.mis?, hmis, hout.insertMis, List.filter_append, List.map_append]
    by_cases hstatus : out.resp.commandStatus = 0
    · simp [hstatus]
    · simp [hstatus, Answer.entry]
  forwarded := by
    obtain ⟨msgs, hmsgs, hids⟩ := hout.forwarded
    simp only [SubmitWorld.record, hmsgs, List.drop_left, List.map_append, h.forwarded, hids]
    by_cases hdnd : cfg.dndcheckFlag = 0
    · by_cases hstatus : out.resp.commandStatus = 0
      · simp [hdnd, hstatus]
      · simp [hdnd, hstatus]
    · simp [hdnd]

/-- The registry is sound and the books balance. -/
structure SubmitWorld.Inv (cfg : ServerCfg) (w : SubmitWorld) : Prop where
  registered : Registered w.registry w.phase
  balanced : w.Balanced cfg

theorem SubmitWorld.inv_init : SubmitWorld.init.Inv cfg where
  registered := registered_init
  balanced :=
    { counters := fun h => absurd h Arena.not_mem_empty
      answers := rfl
      smppEsme := rfl
      insertMis := rfl
      forwarded := by simp [SubmitWorld.init] }

/-- Handling a submit keeps the invariant. -/
theorem SubmitWorld.Inv.record (h : w.Inv cfg) (he : (a, e) ∈ w.registry.cells) {session : ℕ}
    {out : SubmitOutcome} (hout : out.Accounted cfg w.server e session pdu) :
    (w.record conn a m pdu out).Inv cfg where
  registered := by
    change Registered (w.registry.modify a fun _ => out.esme) w.phase
    refine h.registered.modify_keys fun e' he' => ?_
    obtain rfl := Arena.val_unique he he'
    exact ⟨hout.esme.systemId, hout.esme.keys⟩
  balanced := h.balanced.record he hout

/-- **Every step keeps the invariant.** -/
theorem SubmitWorld.Inv.step (h : w.Inv cfg) (hs : submitStep cfg w ev = some w') : w'.Inv cfg := by
  cases ev with
  | session ev =>
    obtain ⟨w₁, hstep, rfl⟩ := Option.map_eq_some_iff.mp hs
    refine ⟨registered_atomicStep h.registered hstep, ?_, h.balanced.answers, h.balanced.smppEsme,
      h.balanced.insertMis, h.balanced.forwarded⟩
    intro b e' he' tx htx
    obtain ⟨e, he, htx⟩ | ⟨hreceived, hsent, hrejected⟩ := countersKept_atomicStep hstep b e' he' tx htx
    · exact h.balanced.counters he tx htx
    · rw [hreceived, hsent, hrejected]
  | submit conn env now pdu =>
    obtain ⟨a, m, i, hb, hm⟩ := submitStep_bound hs
    obtain ⟨e, session, tx, out, he, hout, hstep⟩ := h.registered.submit hb hm cfg env now pdu
    obtain rfl := Option.some.inj (hs.symm.trans hstep)
    exact h.record he hout.accounted
  | server srv =>
    obtain rfl := Option.some.inj hs
    exact ⟨h.registered, h.balanced.counters, h.balanced.answers, h.balanced.smppEsme,
      h.balanced.insertMis, h.balanced.forwarded⟩
  | status esme session status submitsUnconnect =>
    obtain rfl := Option.some.inj hs
    have hbooked : ∀ e : Esme, Booked e session 0 0 (e.modifyTx session fun tx =>
        { tx with status := status, submitsUnconnect := submitsUnconnect }) := fun e =>
      booked_modifyTx ⟨fun _ => rfl, fun _ => rfl, fun _ => rfl, fun _ => rfl⟩
    refine ⟨h.registered.modify_keys fun e _ => ⟨(hbooked e).systemId, (hbooked e).keys⟩, ?_, h.balanced.answers,
      h.balanced.smppEsme, h.balanced.insertMis, h.balanced.forwarded⟩
    intro b e' he' tx htx
    obtain ⟨-, hb⟩ | ⟨rfl, e, he, rfl⟩ := Arena.mem_modify.mp he'
    · exact h.balanced.counters hb tx htx
    · exact (hbooked e).counters (h.balanced.counters he) tx htx

end Step

/-- The sample server, with an account that may submit at any hour. -/
def sampleSubmitterEnv : AuthEnv :=
  { sampleEnv with translations := [{ sampleClient with validTimeFrom := -1, validTimeTo := 24 }] }

/-- Every sender is known, and the local numbers that start with `9` have a route. -/
def sampleSubmitEnv : SubmitEnv where
  smppMaxSourceAddrLen := 21
  smppMaxDestAddrLen := 21
  patternListMatchesIp _ _ := false
  checkSenderApi _ _ := true
  routPdu destAddr _ := if destAddr.bind List.head? = some 57 then some ([1], [1]) else none
  smppPduPack _ := some (octstrImm "submit_sm")
  octstrBinaryToHex s := s.flatMap fun c =>
    [c / 16, c % 16].map fun d => if d < 10 then 48 + d else 55 + d

/-- A submit of a short text. -/
def sampleSubmitPdu (sequenceNumber : ℤ) (number : String) : SubmitSm where
  sequenceNumber := sequenceNumber
  sourceAddr := some (octstrImm "ACME")
  destinationAddr := some (octstrImm number)
  shortMessage := some (octstrImm "hello")

/-- The time in seconds, about ten in the morning. -/
def sampleMoment (timestamp : ℤ) : Moment := ⟨timestamp, 10, octstrImm "2023-11-14 10:13:20"⟩

end SmppServer.SmppEsme
