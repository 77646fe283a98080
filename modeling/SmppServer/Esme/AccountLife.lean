import SmppServer.Esme.Accounting
import SmppServer.Esme.SessionStatus
import SmppServer.Machinery.History

/-!
# Esme/AccountLife — the life of an account's entry

What happens to the entry of one account from its first bind on: its sessions bind, end and submit, and
`update_esme_conn` tells them whether an SMSC is connected.  An entry without sessions stands for none;
the next bind makes it anew.

A call of `handle_submit_sm` reads the clock more than once, and may sleep in between; `Readings` are
these readings, and `handleSubmitSmAt` is the call on them.

* `checkSubmit_cases` — the checks before the addresses, the checks behind them, and no others.
* `handleSubmitSmAt_cases` — everything that a submit does to the account.
* `configured_accountStep` — the limits of an entry are those of its configuration, always.
-/

namespace SmppServer.SmppEsme

open Machinery

/-! ## The clock

A submit that sleeps reads the clock again behind the sleep.  The readings are arguments, so that the limiter,
which compares two of them, is a function of what it was shown. -/

/-- The readings of the clock in one call of `handle_submit_sm`, in their order: at its start, when the
counting starts anew, and behind that. -/
structure Readings where
  start : ℤ
  restart : ℤ
  now : Moment
  start_le : start ≤ restart
  restart_le : restart ≤ now.timestamp
  hour : 0 ≤ now.tmHour ∧ now.tmHour < 24

/-- The call sleeps for a second. -/
def Readings.Paused (r : Readings) (e : Esme) : Prop := e.maxTps < e.msgCount ∧ r.start = e.esmTime

instance (r : Readings) (e : Esme) : Decidable (r.Paused e) := instDecidableAnd

/-- The account behind the throughput limit. -/
def Readings.pace (r : Readings) (e : Esme) : Esme :=
  paceSubmits { r.now with timestamp := r.restart } e

section Submit

variable (lib : SubmitLib) (cfg : ServerCfg)

/-- `handle_submit_sm` behind its throughput limit; it does not survive a submit on a receiver session. -/
def submitPaced (now : Moment) (srv : SubmitServer) (e : Esme) (session : ℕ) (mode : ℤ) (pdu : SubmitSm) :
    Option SubmitOutcome :=
  if mode = 2 then none
  else
    e.txEsme[session]?.map fun tx =>
      let srv := { srv with counter := srv.counter + 1 }
      let messageId := formatLd tx.msgReceived ++ formatLd now.timestamp ++ formatLd srv.counter
      answerSubmit lib cfg now srv session mode tx.clientIp messageId pdu
        (checkSubmit lib cfg now srv e session tx messageId pdu)

/-- **`handle_submit_sm`**, with each of its readings of the clock. -/
def handleSubmitSmAt (r : Readings) (srv : SubmitServer) (e : Esme) (session : ℕ) (mode : ℤ)
    (pdu : SubmitSm) : Option SubmitOutcome :=
  submitPaced lib cfg r.now srv (r.pace e) session mode pdu

/-- With one reading of the clock it is `handleSubmitSm`. -/
theorem handleSubmitSmAt_eq {r : Readings} (h : r.restart = r.now.timestamp) (srv : SubmitServer)
    (e : Esme) (session : ℕ) (mode : ℤ) (pdu : SubmitSm) :
    handleSubmitSmAt lib cfg r srv e session mode pdu =
      handleSubmitSm lib cfg r.now srv e session mode pdu := by
  rw [handleSubmitSmAt, Readings.pace, h]
  rfl

end Submit

theorem pace_of_lt {r : Readings} {e : Esme} (h : e.maxTps < e.msgCount) :
    r.pace e = { e with esmTime := r.restart, msgCount := 0 } := if_pos h

theorem pace_of_not_lt {r : Readings} {e : Esme} (h : ¬ e.maxTps < e.msgCount) : r.pace e = e := if_neg h

/-- The throughput limit changes the count and the beginning of the window. -/
theorem pace_eq (r : Readings) (e : Esme) :
    ∃ esmTime msgCount, r.pace e = { e with esmTime := esmTime, msgCount := msgCount } := by
  by_cases h : e.maxTps < e.msgCount
  · exact ⟨_, _, pace_of_lt h⟩
  · exact ⟨e.esmTime, e.msgCount, pace_of_not_lt h⟩

theorem pace_msgCount_nonneg (r : Readings) {e : Esme} (h : 0 ≤ e.msgCount) : 0 ≤ (r.pace e).msgCount := by
  by_cases hlt : e.maxTps < e.msgCount
  · rw [pace_of_lt hlt]
  · rwa [pace_of_not_lt hlt]

/-! ## The checks

The checks fall into two halves, with `verify_pdu_para` between them: what rejects a submit before it leaves the
account alone, and what rejects it later finds it counted in the quota.  A status is a function of the half that
gives it. -/

section Checks

variable (lib : SubmitLib) (cfg : ServerCfg)

/-- The status of a submit that the state of the process rejects. -/
def serverStatus (srv : SubmitServer) : Option ℤ :=
  if srv.programRunning = false then some 0x407
  else if (srv.reverseConnected = false ∨ srv.forwardConnected = false) ∧ cfg.smscQLimit ≠ -1 ∧
      (srv.forwardSendList.length : ℤ) = cfg.smscQLimit then some 0x409
  else if srv.globalQLimit = 1 then some 0x40A
  else none

/-- The status of a submit that is rejected before its addresses are looked at. -/
def earlyStatus (srv : SubmitServer) (e : Esme) (tx : EsmeTx) : Option ℤ :=
  match serverStatus cfg srv with
  | some status => some status
  | none => if overQuota e tx then some 0x14 else none

/-- The status of any other submit. -/
def lateStatus (now : Moment) (verified : Verified) : ℤ :=
  if now.tmHour ≤ verified.esme.validTimeFrom ∨ verified.esme.validTimeTo ≤ now.tmHour then 0x11
  else if verified.reason ≠ 0 then verified.reason
  else
    match lib.routPdu verified.destAddr verified.esme.systemId with
    | none => 0x45
    | some _ => 0

variable {lib cfg} {srv : SubmitServer} {e : Esme} {tx : EsmeTx} {status : ℤ}

theorem earlyStatus_eq_none :
    earlyStatus cfg srv e tx = none ↔ serverStatus cfg srv = none ∧ overQuota e tx = false := by
  unfold earlyStatus
  cases serverStatus cfg srv with
  | none => cases overQuota e tx <;> simp
  | some status => simp

theorem ne_zero_of_earlyStatus (h : earlyStatus cfg srv e tx = some status) : status ≠ 0 := by
  unfold earlyStatus serverStatus at h
  rintro rfl
  split_ifs at h <;> simp at h

/-- **The checks**: those before the addresses reject the submit, or those behind them do, or none. -/
theorem checkSubmit_cases (lib : SubmitLib) (cfg : ServerCfg) (now : Moment) (srv : SubmitServer)
    (e : Esme) (session : ℕ) (tx : EsmeTx) (messageId : Octstr) (pdu : SubmitSm) :
    (∃ status, earlyStatus cfg srv e tx = some status ∧
      checkSubmit lib cfg now srv e session tx messageId pdu = reject session status e) ∨
    (earlyStatus cfg srv e tx = none ∧ ∃ verified,
      lib.verifyPduPara (e.modifyTx session countQuota) pdu = verified ∧
        ((lateStatus lib now verified ≠ 0 ∧ checkSubmit lib cfg now srv e session tx messageId pdu =
            reject session (lateStatus lib now verified) verified.esme) ∨
          (lateStatus lib now verified = 0 ∧ ∃ msg,
            checkSubmit lib cfg now srv e session tx messageId pdu =
              ⟨0, { verified.esme.modifyTx session fun tx => { tx with msgSent := tx.msgSent + 1 } with
                msgCount := verified.esme.msgCount + 1 }, some msg⟩))) := by
  rw [checkSubmit, earlyStatus, serverStatus]
  by_cases hrun : srv.programRunning = false
  · exact .inl ⟨0x407, by rw [if_pos hrun], by rw [if_pos hrun]⟩
  simp only [if_neg hrun]
  by_cases hqueue : (srv.reverseConnected = false ∨ srv.forwardConnected = false) ∧
      cfg.smscQLimit ≠ -1 ∧ (srv.forwardSendList.length : ℤ) = cfg.smscQLimit
  · exact .inl ⟨0x409, by rw [if_pos hqueue], by rw [if_pos hqueue]⟩
  simp only [if_neg hqueue]
  by_cases hglobal : srv.globalQLimit = 1
  · exact .inl ⟨0x40A, by rw [if_pos hglobal], by rw [if_pos hglobal]⟩
  simp only [if_neg hglobal]
  cases hquota : overQuota e tx with
  | true => exact .inl ⟨0x14, by simp, by simp⟩
  | false =>
    refine .inr ⟨by simp, _, rfl, ?_⟩
    simp only [Bool.false_eq_true, if_false]
    generalize lib.verifyPduPara (e.modifyTx session countQuota) pdu = verified
    unfold lateStatus
    by_cases hhour : now.tmHour ≤ verified.esme.validTimeFrom ∨ verified.esme.validTimeTo ≤ now.tmHour
    · exact .inl ⟨by simp [hhour], by simp only [if_pos hhour]⟩
    simp only [if_neg hhour]
    by_cases hreason : verified.reason = 0
    · simp only [hreason, ne_eq, not_true_eq_false, if_false]
      cases lib.routPdu verified.destAddr verified.esme.systemId with
      | none => exact .inl ⟨by simp, rfl⟩
      | some route => exact .inr ⟨rfl, _, rfl⟩
    · exact .inl ⟨by simp [hreason], by simp [hreason]⟩

end Checks

/-! ## What a submit does to its account

A submit stops early or comes through.  `StoppedEarly` and `CameThrough` say all that happens to the account in
either case, and every invariant of an entry is derived from these two instead of from the code. -/

/-- The account with other senders, another count and other transmitters. -/
def Esme.settle (e : Esme) (allowedPrefix : Option Octstr) (msgCount : ℤ) (txEsme : List EsmeTx) : Esme :=
  { e with allowedPrefix := allowedPrefix, msgCount := msgCount, txEsme := txEsme }

/-- A change of a session that leaves its status and its quota. -/
def KeepsQuota (f : EsmeTx → EsmeTx) : Prop :=
  ∀ tx, (f tx).status = tx.status ∧ (f tx).submitsUnconnect = tx.submitsUnconnect

/-- `handle_submit_sm` comes to `verify_pdu_para`. -/
def Verifies (cfg : ServerCfg) (srv : SubmitServer) (e : Esme) (session : ℕ) (mode : ℤ) : Prop :=
  mode ≠ 2 ∧ ∃ tx ∈ e.txEsme[session]?, earlyStatus cfg srv e tx = none

instance (cfg : ServerCfg) (srv : SubmitServer) (e : Esme) (session : ℕ) (mode : ℤ) :
    Decidable (Verifies cfg srv e session mode) := instDecidableAnd

/-- The status of a submit that does not come to `verify_pdu_para`. -/
def stoppedStatus (cfg : ServerCfg) (srv : SubmitServer) (e : Esme) (session : ℕ) (mode : ℤ) : Option ℤ :=
  if mode = 2 then none else e.txEsme[session]?.bind (earlyStatus cfg srv e)

/-- What `verify_pdu_para` returns to it. -/
def verifiedSubmit (env : SubmitEnv) (e : Esme) (session : ℕ) (pdu : SubmitSm) : Verified :=
  verifyPduPara env.toVerifyEnv (e.modifyTx session countQuota) pdu

section Outcome

variable {env : SubmitEnv} {cfg : ServerCfg} {now : Moment} {r : Readings} {srv : SubmitServer}
  {e : Esme} {session : ℕ} {mode : ℤ} {pdu : SubmitSm} {out : SubmitOutcome}

theorem KeepsQuota.comp {f g : EsmeTx → EsmeTx} (hg : KeepsQuota g) (hf : KeepsQuota f) :
    KeepsQuota (g ∘ f) := fun tx =>
  ⟨(hg (f tx)).1.trans (hf tx).1, (hg (f tx)).2.trans (hf tx).2⟩

theorem keepsQuota_id : KeepsQuota id := fun _ => ⟨rfl, rfl⟩

theorem keepsQuota_rejected : KeepsQuota fun tx => { tx with msgRejected := tx.msgRejected + 1 } :=
  fun _ => ⟨rfl, rfl⟩

theorem keepsQuota_sent : KeepsQuota fun tx => { tx with msgSent := tx.msgSent + 1 } := fun _ => ⟨rfl, rfl⟩

theorem keepsQuota_received : KeepsQuota fun tx => { tx with msgReceived := tx.msgReceived + 1 } :=
  fun _ => ⟨rfl, rfl⟩

/-- The submit was stopped before its addresses were looked at: the account is as before, but for what
its session counts beside the quota. -/
structure StoppedEarly (e : Esme) (session : ℕ) (status : ℤ) (e' : Esme) : Prop where
  status_ne : status ≠ 0
  esme : ∃ f, KeepsQuota f ∧ e' = { e with txEsme := e.txEsme.modify session f }

/-- **The submit came to `verify_pdu_para`**: it counts in the quota of its session, and in the window
if it is accepted. -/
structure CameThrough (env : SubmitEnv) (now : Moment) (e : Esme) (session : ℕ) (pdu : SubmitSm)
    (status : ℤ) (e' : Esme) : Prop where
  status_eq : status = lateStatus env.lib now (verifiedSubmit env e session pdu)
  esme : ∃ f, KeepsQuota f ∧ e' = e.settle (verifiedSubmit env e session pdu).esme.allowedPrefix
    (e.msgCount + if status = 0 then 1 else 0) ((e.txEsme.modify session countQuota).modify session f)

theorem StoppedEarly.modifyTx {status : ℤ} {e' : Esme} {g : EsmeTx → EsmeTx} (hg : KeepsQuota g)
    (h : StoppedEarly e session status e') : StoppedEarly e session status (e'.modifyTx session g) := by
  obtain ⟨hstatus, f, hf, rfl⟩ := h
  refine ⟨hstatus, g ∘ f, hg.comp hf, ?_⟩
  rw [← List.modify_modify_eq f g]
  rfl

theorem CameThrough.modifyTx {status : ℤ} {e' : Esme} {g : EsmeTx → EsmeTx} (hg : KeepsQuota g)
    (h : CameThrough env now e session pdu status e') :
    CameThrough env now e session pdu status (e'.modifyTx session g) := by
  obtain ⟨hstatus, f, hf, rfl⟩ := h
  refine ⟨hstatus, g ∘ f, hg.comp hf, ?_⟩
  rw [← List.modify_modify_eq f g]
  rfl

theorem verifiedSubmit_esme (env : SubmitEnv) (e : Esme) (session : ℕ) (pdu : SubmitSm) :
    ∃ allowedPrefix, (verifiedSubmit env e session pdu).esme =
      e.settle allowedPrefix e.msgCount (e.txEsme.modify session countQuota) := by
  obtain ⟨allowedPrefix, h⟩ :=
    verifyPduPara_esme env.toVerifyEnv (e.modifyTx session countQuota) pdu
  exact ⟨allowedPrefix, h⟩

/-- The outcome of the checks. -/
theorem checkSubmit_esme (env : SubmitEnv) (cfg : ServerCfg) (now : Moment) (srv : SubmitServer)
    (e : Esme) (session : ℕ) (tx : EsmeTx) (messageId : Octstr) (pdu : SubmitSm) :
    (∃ status, earlyStatus cfg srv e tx = some status ∧
      StoppedEarly e session status
        (checkSubmit env.lib cfg now srv e session tx messageId pdu).esme ∧
      (checkSubmit env.lib cfg now srv e session tx messageId pdu).commandStatus = status) ∨
    (earlyStatus cfg srv e tx = none ∧
      CameThrough env now e session pdu
        (checkSubmit env.lib cfg now srv e session tx messageId pdu).commandStatus
        (checkSubmit env.lib cfg now srv e session tx messageId pdu).esme) := by
  obtain ⟨status, hearly, hcheck⟩ | ⟨hearly, verified, hverified, hlate⟩ :=
    checkSubmit_cases env.lib cfg now srv e session tx messageId pdu
  · rw [hcheck]
    exact .inl ⟨status, hearly, ⟨ne_zero_of_earlyStatus hearly, _, keepsQuota_rejected, rfl⟩, rfl⟩
  · obtain rfl : verifiedSubmit env e session pdu = verified := hverified
    obtain ⟨allowedPrefix, hesme⟩ := verifiedSubmit_esme env e session pdu
    refine .inr ⟨hearly, ?_⟩
    obtain ⟨hstatus, hcheck⟩ | ⟨hstatus, msg, hcheck⟩ := hlate
    · rw [hcheck]
      refine ⟨rfl, _, keepsQuota_rejected, ?_⟩
      change (verifiedSubmit env e session pdu).esme.modifyTx session _ = _
      rw [hesme, reject, if_neg hstatus, add_zero]
      rfl
    · rw [hcheck]
      refine ⟨hstatus.symm, _, keepsQuota_sent, ?_⟩
      rw [hesme, if_pos rfl]
      rfl

/-- Answering counts the submit as received. -/
theorem answerSubmit_esme (ip messageId : Octstr) (c : Checked) : ∃ f, KeepsQuota f ∧
    (answerSubmit env.lib cfg now srv session mode ip messageId pdu c).esme = c.esme.modifyTx session f := by
  simp only [answerSubmit]
  split
  · exact ⟨_, keepsQuota_received, rfl⟩
  · exact ⟨id, keepsQuota_id, by rw [Esme.modifyTx, List.modify_id]⟩

/-- **Everything that a submit behind the throughput limit does to its account.** -/
theorem submitPaced_cases (h : submitPaced env.lib cfg now srv e session mode pdu = some out) :
    (stoppedStatus cfg srv e session mode = some out.resp.commandStatus ∧
        ¬ Verifies cfg srv e session mode ∧
        StoppedEarly e session out.resp.commandStatus out.esme) ∨
      (Verifies cfg srv e session mode ∧
        CameThrough env now e session pdu out.resp.commandStatus out.esme) := by
  rw [submitPaced] at h
  obtain ⟨hmode, h⟩ := Option.ite_none_left_eq_some.mp h
  obtain ⟨tx, htx, rfl⟩ := Option.map_eq_some_iff.mp h
  dsimp only
  generalize hmessageId : formatLd tx.msgReceived ++ formatLd now.timestamp ++ _ = messageId
  generalize hsrv : { srv with counter := srv.counter + 1 } = srv'
  obtain ⟨f, hf, hesme⟩ := answerSubmit_esme tx.clientIp messageId
    (checkSubmit env.lib cfg now srv' e session tx messageId pdu)
  rw [hesme]
  have hearly : earlyStatus cfg srv' e tx = earlyStatus cfg srv e tx := by rw [← hsrv]; rfl
  obtain ⟨status, hstatus, hstopped, hcode⟩ | ⟨hnone, hcame⟩ :=
    checkSubmit_esme env cfg now srv' e session tx messageId pdu
  · refine .inl ⟨?_, ?_, ?_⟩
    · rw [stoppedStatus, if_neg hmode, htx, Option.bind_some, ← hearly, hstatus]
      exact congrArg some hcode.symm
    · rintro ⟨-, tx', htx', hnone⟩
      obtain rfl : tx = tx' := Option.some.inj (htx.symm.trans htx')
      rw [← hearly, hstatus] at hnone
      exact absurd hnone (by simp)
    · rw [← hcode] at hstopped
      exact hstopped.modifyTx hf
  · exact .inr ⟨⟨hmode, tx, htx, hearly ▸ hnone⟩, hcame.modifyTx hf⟩

/-- **Everything that a submit does to its account.** -/
theorem handleSubmitSmAt_cases (h : handleSubmitSmAt env.lib cfg r srv e session mode pdu = some out) :
    (stoppedStatus cfg srv (r.pace e) session mode = some out.resp.commandStatus ∧
        ¬ Verifies cfg srv (r.pace e) session mode ∧
        StoppedEarly (r.pace e) session out.resp.commandStatus out.esme) ∨
      (Verifies cfg srv (r.pace e) session mode ∧
        CameThrough env r.now (r.pace e) session pdu out.resp.commandStatus out.esme) :=
  submitPaced_cases h

/-- The status of the response. -/
def responseStatus (cfg : ServerCfg) (env : SubmitEnv) (srv : SubmitServer) (r : Readings) (session : ℕ)
    (mode : ℤ) (pdu : SubmitSm) (e : Esme) : Option ℤ :=
  (handleSubmitSmAt env.lib cfg r srv e session mode pdu).map (·.resp.commandStatus)

/-- A submit that comes to `verify_pdu_para` is answered. -/
theorem Verifies.exists_outcome (h : Verifies cfg srv (r.pace e) session mode) (env : SubmitEnv)
    (pdu : SubmitSm) : ∃ out, handleSubmitSmAt env.lib cfg r srv e session mode pdu = some out := by
  obtain ⟨hmode, tx, htx, -⟩ := h
  rw [handleSubmitSmAt, submitPaced, if_neg hmode, show (r.pace e).txEsme[session]? = some tx from htx]
  exact ⟨_, rfl⟩

end Outcome

/-! ## The life of an entry

The entry alone is followed, under the binds, submits and changes of status that concern its account.
`accountStep_cases` is the one place where the step function is unfolded. -/

/-- `update_esme_conn` on the entry of an account for which `check_smsc_conn` gives that answer. -/
def Esme.updateConn (e : Esme) (smsc : ℤ) : Esme :=
  if smsc = 0 ∨ smsc = 1 then
    { e with txEsme := e.txEsme.map fun tx => { tx with status := .smscUnconnected } }
  else if smsc = 2 then
    { e with txEsme := e.txEsme.map fun tx =>
        if tx.status = .smscUnconnected then { tx with status := .binded, submitsUnconnect := 0 } else tx }
  else e

/-- There is no session, so there is no entry. -/
def Esme.Vacant (e : Esme) : Prop := e.txEsme = [] ∧ e.rxEsme = []

instance (e : Esme) : Decidable e.Vacant := instDecidableAnd

/-- What happens to the entry: a bind or the end of a session; a submit; a change of the status of the
SMSCs, and one of the status of a session that is to end. -/
inductive AccountEvent
  | bind (env : AuthEnv) (pdu : BindPdu) (tc : TempConn) (mode : ℤ)
  | destroy (mode sessionId : ℤ)
  | submit (env : SubmitEnv) (srv : SubmitServer) (r : Readings) (session : ℕ) (mode : ℤ) (pdu : SubmitSm)
  | updateEsmeConn (smsc : ℤ)
  | status (session : ℕ) (status : EsmeStatus)

/-- The entry that a bind finds or makes. -/
def Esme.entry (e : Esme) (acct : SmscClient) (env : AuthEnv) (pdu : BindPdu) : Esme :=
  if e.Vacant then newEsme env pdu acct else e

/-- **One step in the life of an account's entry.** -/
def accountStep (acct : SmscClient) (cfg : ServerCfg) (e : Esme) : AccountEvent → Option Esme
  | .bind env pdu tc mode =>
    if pdu.systemId = some acct.accountName then
      some (addSession env pdu tc mode (e.entry acct env pdu))
    else none
  | .destroy mode sessionId => (deleteFrom e mode sessionId).toOption
  | .submit env srv r session mode pdu =>
    (handleSubmitSmAt env.lib cfg r srv e session mode pdu).map (·.esme)
  | .updateEsmeConn smsc => some (e.updateConn smsc)
  | .status session status =>
    if status.Terminal then some (e.modifyTx session fun tx => { tx with status := status }) else none

theorem bind_eq_some {acct : SmscClient} {cfg : ServerCfg} {e e' : Esme} {env : AuthEnv} {pdu : BindPdu}
    {tc : TempConn} {mode : ℤ} (h : accountStep acct cfg e (.bind env pdu tc mode) = some e') :
    pdu.systemId = some acct.accountName ∧ e' = addSession env pdu tc mode (e.entry acct env pdu) := by
  rw [accountStep] at h
  split at h
  · rename_i hname
    exact ⟨hname, (Option.some.inj h).symm⟩
  · exact absurd h (by simp)

/-- The entry with other sessions. -/
def Esme.withSessions (e : Esme) (tx : List EsmeTx) (rx : List EsmeRx) : Esme :=
  { e with txEsme := tx, rxEsme := rx }

/-- The event is neither a bind nor a submit: it changes sessions only. -/
def AccountEvent.Quiet : AccountEvent → Prop
  | .bind .. | .submit .. => False
  | .destroy .. | .updateEsmeConn .. | .status .. => True

theorem addSession_eq (env : AuthEnv) (pdu : BindPdu) (tc : TempConn) (mode : ℤ) (e : Esme) :
    ∃ tx rx, addSession env pdu tc mode e = e.withSessions tx rx := by
  unfold addSession
  split
  · exact ⟨_, _, rfl⟩
  · split
    · exact ⟨_, _, rfl⟩
    · exact ⟨e.txEsme, e.rxEsme, rfl⟩

theorem updateConn_eq (e : Esme) (smsc : ℤ) : ∃ tx, e.updateConn smsc = e.withSessions tx e.rxEsme := by
  unfold Esme.updateConn
  split
  · exact ⟨_, rfl⟩
  · split
    · exact ⟨_, rfl⟩
    · exact ⟨e.txEsme, rfl⟩

theorem eq_ok_of_toOption {ε α : Type*} {x : Except ε α} {a : α} (h : x.toOption = some a) : x = .ok a := by
  cases x with
  | error err => exact absurd h (by simp [Except.toOption])
  | ok b => rw [Option.some.inj h]

/-- **What a step does to an entry**: a bind finds or makes it, a submit does what it does, and anything
else changes its sessions. -/
theorem accountStep_cases {acct : SmscClient} {cfg : ServerCfg} {e e' : Esme} {ev : AccountEvent}
    (hs : accountStep acct cfg e ev = some e') :
    (∃ env pdu tc mode tx rx, ev = .bind env pdu tc mode ∧
      e' = (e.entry acct env pdu).withSessions tx rx) ∨
    (∃ env srv r session mode pdu out, ev = .submit env srv r session mode pdu ∧
      handleSubmitSmAt env.lib cfg r srv e session mode pdu = some out ∧ e' = out.esme) ∨
    (ev.Quiet ∧ ∃ tx rx, e' = e.withSessions tx rx) := by
  cases ev with
  | bind env pdu tc mode =>
    obtain ⟨-, rfl⟩ := bind_eq_some hs
    obtain ⟨tx, rx, h⟩ := addSession_eq env pdu tc mode (e.entry acct env pdu)
    exact .inl ⟨env, pdu, tc, mode, tx, rx, rfl, h⟩
  | destroy mode sessionId =>
    refine .inr (.inr ⟨trivial, ?_⟩)
    obtain ⟨-, rfl⟩ | ⟨-, rfl | rfl⟩ := deleteFrom_cases (eq_ok_of_toOption hs)
    · exact ⟨_, e.rxEsme, rfl⟩
    · exact ⟨e.txEsme, _, rfl⟩
    · exact ⟨e'.txEsme, e'.rxEsme, rfl⟩
  | submit env srv r session mode pdu =>
    obtain ⟨out, hout, rfl⟩ := Option.map_eq_some_iff.mp hs
    exact .inr (.inl ⟨env, srv, r, session, mode, pdu, out, rfl, hout, rfl⟩)
  | updateEsmeConn smsc =>
    obtain rfl := Option.some.inj hs
    obtain ⟨tx, h⟩ := updateConn_eq e smsc
    exact .inr (.inr ⟨trivial, tx, e.rxEsme, h⟩)
  | status session status =>
    rw [accountStep] at hs
    split at hs
    · obtain rfl := Option.some.inj hs
      exact .inr (.inr ⟨trivial, _, e.rxEsme, rfl⟩)
    · exact absurd hs (by simp)

/-! ## The limits

No step writes a limit, and a new entry copies all of them; so what is configured is what is in force. -/

/-- The limits on the submits of an account. -/
inductive Limit
  | maxTps
  | maxSubmitsUnconnect
  | maxSubmits
  | validTimeFrom
  | validTimeTo
  deriving DecidableEq, Repr

/-- A limit, as it is configured; `-1` if it is not. -/
def SmscClient.limit (t : SmscClient) : Limit → ℤ
  | .maxTps => t.maxTps
  | .maxSubmitsUnconnect => t.maxSubmitsUnconnect
  | .maxSubmits => t.maxSubmits
  | .validTimeFrom => t.validTimeFrom
  | .validTimeTo => t.validTimeTo

/-- A limit of an entry. -/
def Esme.limit (e : Esme) : Limit → ℤ
  | .maxTps => e.maxTps
  | .maxSubmitsUnconnect => e.maxSubmitsUnconnect
  | .maxSubmits => e.maxSubmits
  | .validTimeFrom => e.validTimeFrom
  | .validTimeTo => e.validTimeTo

/-- The entry has the limits of its configuration. -/
def Configured (acct : SmscClient) (e : Esme) : Prop := ∀ limit, e.limit limit = acct.limit limit

section Configured

variable {acct : SmscClient} {cfg : ServerCfg} {e e' : Esme} {ev : AccountEvent}

theorem configured_newEsme (acct : SmscClient) (env : AuthEnv) (pdu : BindPdu) :
    Configured acct (newEsme env pdu acct) := by
  rintro ⟨⟩ <;> rfl

theorem Configured.entry (h : Configured acct e) (env : AuthEnv) (pdu : BindPdu) :
    Configured acct (e.entry acct env pdu) := by
  rw [Esme.entry]
  split
  · exact configured_newEsme acct env pdu
  · exact h

theorem limit_withSessions (e : Esme) (tx : List EsmeTx) (rx : List EsmeRx) (limit : Limit) :
    (e.withSessions tx rx).limit limit = e.limit limit := by
  cases limit <;> rfl

theorem limit_pace (r : Readings) (e : Esme) (limit : Limit) : (r.pace e).limit limit = e.limit limit := by
  obtain ⟨esmTime, msgCount, h⟩ := pace_eq r e
  rw [h]
  cases limit <;> rfl

theorem limit_handleSubmitSmAt {env : SubmitEnv} {r : Readings} {srv : SubmitServer} {session : ℕ}
    {mode : ℤ} {pdu : SubmitSm} {out : SubmitOutcome}
    (h : handleSubmitSmAt env.lib cfg r srv e session mode pdu = some out) (limit : Limit) :
    out.esme.limit limit = e.limit limit := by
  rw [← limit_pace r e limit]
  obtain ⟨-, -, -, f, -, hesme⟩ | ⟨-, -, f, -, hesme⟩ := handleSubmitSmAt_cases h
  · rw [hesme]
    cases limit <;> rfl
  · rw [hesme]
    cases limit <;> rfl

/-- **The limits of an entry are those of its configuration**, whatever happens to it. -/
theorem configured_accountStep (h : Configured acct e) (hs : accountStep acct cfg e ev = some e') :
    Configured acct e' := by
  intro limit
  obtain ⟨env, pdu, tc, mode, tx, rx, -, rfl⟩ | ⟨env, srv, r, session, mode, pdu, out, -, hout, rfl⟩ |
    ⟨-, tx, rx, rfl⟩ := accountStep_cases hs
  · exact (limit_withSessions _ tx rx limit).trans (h.entry env pdu limit)
  · exact (limit_handleSubmitSmAt hout limit).trans (h limit)
  · exact (limit_withSessions e tx rx limit).trans (h limit)

end Configured

end SmppServer.SmppEsme
