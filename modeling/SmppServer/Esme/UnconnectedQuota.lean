import SmppServer.Esme.UnsetLimits
import SmppServer.Machinery.InStep

/-!
# Esme/UnconnectedQuota — the quota of submits without a connected SMSC

`submits_unconnect` is meant to count the submits that a session was allowed while no SMSC was connected.
`handle_submit_sm` counts those of a connected session in it as well, and `update_esme_conn` resets it only
when the SMSCs come back to a session that it had told that they are away.  So when they go away, the
quota is used up already by what was sent before.

A tally goes with every session: what the quota is about, and what else its counter holds.

* `Tallied.step` — a counter is the sum of the two.
* `quotaHonest_iff` — the runs in which the quota rejects no submit too early.
-/

namespace SmppServer.SmppEsme

open Machinery

/-- The submits that a session was allowed while it was unconnected, since the SMSCs were last connected,
and the other submits that its counter holds: allowed while it was connected, or before a connect that did
not reset it. -/
structure Tally where
  unconnected : ℕ := 0
  others : ℕ := 0
  deriving DecidableEq, Repr

/-- All submits of a tally. -/
def Tally.total (t : Tally) : ℕ := t.unconnected + t.others

/-- A submit is allowed on a session. -/
def EsmeTx.allow (tx : EsmeTx) (t : Tally) : Tally :=
  match tx.status with
  | .smscUnconnected => { t with unconnected := t.unconnected + 1 }
  | .binded => { t with others := t.others + 1 }
  | _ => t

/-- The SMSCs are connected again: the counter of an unconnected session is reset, any other is not. -/
def EsmeTx.reconnect (tx : EsmeTx) (t : Tally) : Tally :=
  if tx.status = .smscUnconnected then {} else { unconnected := 0, others := t.total }

/-- What a step does to the tallies, one for each session that may transmit. -/
def noteTally (cfg : ServerCfg) (e : Esme) (ev : AccountEvent) (tallies : List Tally) : List Tally :=
  match ev with
  | .bind _ _ _ mode =>
    let tallies := if e.Vacant then [] else tallies
    if mode = 1 ∨ mode = 3 then tallies ++ [{}] else tallies
  | .destroy mode sessionId =>
    if mode = 1 ∧ sessionId > 0 then
      match e.txEsme.findIdx? fun tx => tx.sessionId = sessionId with
      | none => tallies
      | some session => tallies.eraseIdx session
    else tallies
  | .submit _ srv r session mode _ =>
    if Verifies cfg srv (r.pace e) session mode then
      match e.txEsme[session]? with
      | none => tallies
      | some tx => tallies.modify session tx.allow
    else tallies
  | .updateEsmeConn smsc => if smsc = 2 then List.zipWith EsmeTx.reconnect e.txEsme tallies else tallies
  | .status .. => tallies

/-- The submits of all sessions that the quota is about. -/
def unconnectedSubmits (tallies : List Tally) : ℕ := (tallies.map Tally.unconnected).sum

/-- The other submits that the counters hold. -/
def otherSubmits (tallies : List Tally) : ℕ := (tallies.map Tally.others).sum

/-- The session is unconnected. -/
def Unconnected (e : Esme) (session : ℕ) : Prop := ∃ tx ∈ e.txEsme[session]?, tx.status = .smscUnconnected

instance (e : Esme) (session : ℕ) : Decidable (Unconnected e session) :=
  inferInstanceAs (Decidable (∃ tx ∈ e.txEsme[session]?, _))

/-- **The quota is honest**: a submit on an unconnected session is rejected for its quota only if as many
submits as the quota allows were allowed on the unconnected sessions, since the SMSCs were last connected. -/
def QuotaHonest (acct : SmscClient) (cfg : ServerCfg) (w : Esme × List Tally) : AccountEvent → Prop
  | .submit env srv r session mode pdu =>
    responseStatus cfg env srv r session mode pdu w.1 = some 0x14 → Unconnected w.1 session →
      acct.maxSubmitsUnconnect ≤ unconnectedSubmits w.2
  | _ => True

instance (acct : SmscClient) (cfg : ServerCfg) (w : Esme × List Tally) :
    DecidablePred (QuotaHonest acct cfg w)
  | .submit .. => inferInstanceAs (Decidable (_ → _ → _))
  | .bind .. | .destroy .. | .updateEsmeConn .. | .status .. => .isTrue trivial

/-- A submit that comes to the quota of unconnected sessions before it is used up finds it not used up by
the other submits either. -/
def OthersFit (acct : SmscClient) (cfg : ServerCfg) (w : Esme × List Tally) : AccountEvent → Prop
  | .submit _ srv _ session mode _ =>
    mode ≠ 2 → serverStatus cfg srv = none → Unconnected w.1 session →
      (unconnectedSubmits w.2 : ℤ) < acct.maxSubmitsUnconnect →
        (unconnectedSubmits w.2 + otherSubmits w.2 : ℤ) < acct.maxSubmitsUnconnect
  | _ => True

instance (acct : SmscClient) (cfg : ServerCfg) (w : Esme × List Tally) :
    DecidablePred (OthersFit acct cfg w)
  | .submit .. => inferInstanceAs (Decidable (_ → _ → _ → _ → _))
  | .bind .. | .destroy .. | .updateEsmeConn .. | .status .. => .isTrue trivial

/-! ## Counters and tallies

The tally of a session counts what the quota is about and what else was counted, apart.  The counter of the code
is their sum in every state, so the quota is honest where the second part leaves room. -/

/-- **A counter is the sum of its tally**, session by session. -/
def Tallied (w : Esme × List Tally) : Prop :=
  InStep (fun tx : EsmeTx => tx.submitsUnconnect) Tally.total w.1.txEsme w.2

section Step

variable {acct : SmscClient} {cfg : ServerCfg} {w w' : Esme × List Tally} {ev : AccountEvent}

theorem tallied_init (acct : SmscClient) (env : AuthEnv) (pdu : BindPdu) :
    Tallied (newEsme env pdu acct, []) := inStep_nil

theorem pace_txEsme (r : Readings) (e : Esme) : (r.pace e).txEsme = e.txEsme := by
  obtain ⟨esmTime, msgCount, h⟩ := pace_eq r e
  rw [h]

/-- A change that leaves the quotas of its session. -/
theorem map_modify_keepsQuota {f : EsmeTx → EsmeTx} (hf : KeepsQuota f) (l : List EsmeTx) (session : ℕ) :
    (l.modify session f).map (·.submitsUnconnect) = l.map (·.submitsUnconnect) :=
  map_modify_of_eq (fun tx => (hf tx).2) l session

/-- The counter goes up with the tally. -/
theorem countQuota_allow {tx : EsmeTx} {t : Tally} (h : tx.submitsUnconnect = t.total) :
    (countQuota tx).submitsUnconnect = (tx.allow t).total := by
  unfold countQuota EsmeTx.allow Tally.total at *
  cases tx.status with
  | smscUnconnected | binded =>
    dsimp only
    omega
  | unconnected | disconnect | sendUnbind => exact h

section Events

variable {e e' : Esme} {tallies : List Tally}

theorem Tallied.bind {env : AuthEnv} {pdu : BindPdu} {tc : TempConn} {mode : ℤ} (h : Tallied (e, tallies))
    (hs : accountStep acct cfg e (.bind env pdu tc mode) = some e') :
    Tallied (e', noteTally cfg e (.bind env pdu tc mode) tallies) := by
  obtain ⟨-, rfl⟩ := bind_eq_some hs
  have hentry : InStep (fun tx : EsmeTx => tx.submitsUnconnect) Tally.total
      (e.entry acct env pdu).txEsme (if e.Vacant then [] else tallies) := by
    rw [Esme.entry]
    split
    · exact inStep_nil
    · exact h
  unfold addSession noteTally Tallied
  dsimp only
  split
  · exact hentry.concat rfl
  · split
    · exact hentry
    · exact hentry

theorem Tallied.destroy {mode sessionId : ℤ} (h : Tallied (e, tallies))
    (hs : accountStep acct cfg e (.destroy mode sessionId) = some e') :
    Tallied (e', noteTally cfg e (.destroy mode sessionId) tallies) := by
  unfold noteTally Tallied
  obtain ⟨htx, rfl⟩ | ⟨hrx, rfl | rfl⟩ := deleteFrom_cases (eq_ok_of_toOption hs)
  · dsimp only
    rw [if_pos htx, List.eraseP_eq_eraseIdx]
    cases e.txEsme.findIdx? fun tx => tx.sessionId = sessionId with
    | none => exact h
    | some session => exact InStep.eraseIdx h session
  · dsimp only
    rw [if_neg hrx]
    exact h
  · dsimp only
    rw [if_neg hrx]
    exact h

/-- A submit that comes through counts for its session in both. -/
theorem Tallied.submit {env : SubmitEnv} {srv : SubmitServer} {r : Readings} {session : ℕ} {mode : ℤ}
    {pdu : SubmitSm} (h : Tallied (e, tallies))
    (hs : accountStep acct cfg e (.submit env srv r session mode pdu) = some e') :
    Tallied (e', noteTally cfg e (.submit env srv r session mode pdu) tallies) := by
  obtain ⟨out, hout, rfl⟩ := Option.map_eq_some_iff.mp hs
  unfold noteTally Tallied
  dsimp only
  obtain ⟨-, hnot, -, f, hf, hesme⟩ | ⟨hv, -, f, hf, hesme⟩ := handleSubmitSmAt_cases hout
  · rw [if_neg hnot, hesme, InStep]
    dsimp only
    rw [map_modify_keepsQuota hf, pace_txEsme]
    exact h
  · rw [if_pos hv, hesme, InStep]
    dsimp only [Esme.settle]
    rw [map_modify_keepsQuota hf, pace_txEsme]
    obtain ⟨-, tx, htx, -⟩ := hv
    rw [pace_txEsme, Option.mem_def] at htx
    rw [htx]
    refine InStep.modify h fun tx' htx' t ht => ?_
    obtain rfl : tx = tx' := Option.some.inj (htx.symm.trans htx')
    exact countQuota_allow ht

theorem Tallied.updateEsmeConn {smsc : ℤ} (h : Tallied (e, tallies)) :
    Tallied (e.updateConn smsc, noteTally cfg e (.updateEsmeConn smsc) tallies) := by
  unfold Esme.updateConn noteTally Tallied
  dsimp only
  by_cases haway : smsc = 0 ∨ smsc = 1
  · have hnot : ¬ smsc = 2 := by omega
    rw [if_pos haway, if_neg hnot, InStep, List.map_map]
    exact h
  · rw [if_neg haway]
    split
    · refine InStep.zipWith h fun tx t ht => ?_
      unfold EsmeTx.reconnect
      split
      · rfl
      · simpa [Tally.total] using ht
    · exact h

theorem Tallied.status {session : ℕ} {status : EsmeStatus} (h : Tallied (e, tallies))
    (hs : accountStep acct cfg e (.status session status) = some e') :
    Tallied (e', noteTally cfg e (.status session status) tallies) := by
  rw [accountStep] at hs
  split at hs
  · obtain rfl := Option.some.inj hs
    have hsame : (e.txEsme.modify session fun tx => { tx with status := status }).map
        (·.submitsUnconnect) = e.txEsme.map (·.submitsUnconnect) :=
      @map_modify_of_eq _ _ (fun tx : EsmeTx => { tx with status := status }) (·.submitsUnconnect)
        (fun _ => rfl) e.txEsme session
    exact hsame.trans h
  · exact absurd hs (by simp)

end Events

/-- Every step keeps the counters in step with the tallies. -/
theorem Tallied.step (h : Tallied w)
    (hs : withHistory (accountStep acct cfg) (noteTally cfg) w ev = some w') : Tallied w' := by
  obtain ⟨e, tallies⟩ := w
  obtain ⟨e', tallies'⟩ := w'
  obtain ⟨hstep, rfl : tallies' = _⟩ := withHistory_eq_some.mp hs
  cases ev with
  | bind env pdu tc mode => exact h.bind hstep
  | destroy mode sessionId => exact h.destroy hstep
  | submit env srv r session mode pdu => exact h.submit hstep
  | updateEsmeConn smsc =>
    obtain rfl : e.updateConn smsc = e' := Option.some.inj hstep
    exact h.updateEsmeConn
  | status session status => exact h.status hstep

/-- What `max_submits_unct_account` finds. -/
theorem Tallied.counters_eq (h : Tallied w) :
    maxSubmitsUnctAccount w.1 = unconnectedSubmits w.2 + otherSubmits w.2 := by
  have hsum : maxSubmitsUnctAccount w.1 = (w.2.map Tally.total).sum := congrArg List.sum h
  rw [hsum, unconnectedSubmits, otherSubmits, ← List.sum_map_add]
  rfl

/-- One submit is treated honestly exactly if the other submits fit. -/
theorem quotaHonest_step_iff (hcfg : Configured acct w.1) (h : Tallied w) :
    QuotaHonest acct cfg w ev ↔ OthersFit acct cfg w ev := by
  cases ev with
  | bind | destroy | updateEsmeConn | status => exact Iff.rfl
  | submit env srv r session mode pdu =>
    have hlimit : (r.pace w.1).maxSubmitsUnconnect = acct.maxSubmitsUnconnect :=
      (limit_pace r w.1 .maxSubmitsUnconnect).trans (hcfg .maxSubmitsUnconnect)
    have hcounters : maxSubmitsUnctAccount (r.pace w.1) =
        unconnectedSubmits w.2 + otherSubmits w.2 := by
      rw [← h.counters_eq, maxSubmitsUnctAccount, pace_txEsme]
      rfl
    have hover : ∀ tx : EsmeTx, tx.status = .smscUnconnected → (overQuota (r.pace w.1) tx = true ↔
        acct.maxSubmitsUnconnect ≠ -1 ∧
          acct.maxSubmitsUnconnect ≤ unconnectedSubmits w.2 + otherSubmits w.2) := by
      intro tx hstatus
      rw [overQuota, hstatus]
      simp only [hlimit, hcounters, decide_eq_true_eq]
      push_cast
      rfl
    simp only [QuotaHonest, OthersFit, responseStatus_eq_quota]
    constructor
    · intro hhonest hmode hserver hunconnected hlt
      by_contra hfull
      obtain ⟨tx, htx, hstatus⟩ := hunconnected
      have hrejected : QuotaRejects cfg srv (r.pace w.1) session mode :=
        ⟨hmode, tx, by rw [pace_txEsme]; exact htx, hserver,
          (hover tx hstatus).mpr ⟨by omega, by omega⟩⟩
      have hle := hhonest hrejected ⟨tx, htx, hstatus⟩
      omega
    · rintro hfit ⟨hmode, tx, htx, hserver, hfull⟩ hunconnected
      by_contra hlt
      have hsmall := hfit hmode hserver hunconnected (by omega)
      obtain ⟨tx', htx', hstatus⟩ := hunconnected
      rw [pace_txEsme] at htx
      obtain rfl := Option.mem_unique htx htx'
      have hle := ((hover tx hstatus).mp hfull).2
      omega

/-- So it is along runs. -/
theorem along_quotaHonest {es : List AccountEvent} (hcfg : Configured acct w.1) (h : Tallied w)
    (hr : exec (withHistory (accountStep acct cfg) (noteTally cfg)) w es = some w') :
    Along (withHistory (accountStep acct cfg) (noteTally cfg)) (QuotaHonest acct cfg) w es ↔
      Along (withHistory (accountStep acct cfg) (noteTally cfg)) (OthersFit acct cfg) w es :=
  along_congr (@fun _ _ _ (h : Configured acct (Prod.fst _) ∧ Tallied _) hs =>
      ⟨configured_accountStep h.1 (withHistory_eq_some.mp hs).1, h.2.step hs⟩)
    (fun h _ => quotaHonest_step_iff h.1 h.2) ⟨hcfg, h⟩ hr

end Step

/-- **When the quota is honest.**  For every account and every run of its entry — any binds, submits,
connects and disconnects — the quota rejects a submit on an unconnected session only if the submits that
the unconnected sessions were allowed since the last connect use it up, if and only if the other submits
that the counters hold never use up what these leave. -/
theorem quotaHonest_iff (acct : SmscClient) (cfg : ServerCfg) (env : AuthEnv) (pdu : BindPdu)
    {es : List AccountEvent} {w : Esme × List Tally}
    (hr : exec (withHistory (accountStep acct cfg) (noteTally cfg)) (newEsme env pdu acct, []) es = some w) :
    Along (withHistory (accountStep acct cfg) (noteTally cfg)) (QuotaHonest acct cfg)
        (newEsme env pdu acct, []) es ↔
      Along (withHistory (accountStep acct cfg) (noteTally cfg)) (OthersFit acct cfg)
        (newEsme env pdu acct, []) es :=
  along_quotaHonest (configured_newEsme acct env pdu) (tallied_init acct env pdu) hr

/-- An account that may submit once without a connected SMSC. -/
def sampleQuotaClient : SmscClient := { sampleClient with validTimeTo := 24, maxSubmitsUnconnect := 1 }

/-- A submit on the first session. -/
def sampleQuotaSubmit : AccountEvent :=
  .submit sampleSubmitEnv {} (sampleReadings 1700000001) 0 1 (sampleSubmitPdu 2 "919876543210")

/-- A transmitter binds while no SMSC is connected. -/
def sampleQuotaBind : AccountEvent :=
  .bind sampleSubmitterEnv samplePdu (tempconnCreate 0 (octstrImm "10.0.0.1") 4000 2775 1) 1

/-- Two submits without a connection: the second is rejected, and rightly. -/
theorem quotaHonest_sampleQuota : ∃ w : Esme × List Tally,
    exec (withHistory (accountStep sampleQuotaClient ⟨0, -1⟩) (noteTally ⟨0, -1⟩))
      (newEsme sampleEnv samplePdu sampleQuotaClient, [])
      [sampleQuotaBind, sampleQuotaSubmit, sampleQuotaSubmit] = some w ∧
    w.2 = [⟨1, 0⟩] ∧
    Along (withHistory (accountStep sampleQuotaClient ⟨0, -1⟩) (noteTally ⟨0, -1⟩))
      (QuotaHonest sampleQuotaClient ⟨0, -1⟩) (newEsme sampleEnv samplePdu sampleQuotaClient, [])
      [sampleQuotaBind, sampleQuotaSubmit, sampleQuotaSubmit] := by
  have hsome : (exec (withHistory (accountStep sampleQuotaClient ⟨0, -1⟩) (noteTally ⟨0, -1⟩))
      (newEsme sampleEnv samplePdu sampleQuotaClient, [])
      [sampleQuotaBind, sampleQuotaSubmit, sampleQuotaSubmit]).map (fun w => w.2) = some [⟨1, 0⟩] := by
    decide +kernel
  obtain ⟨w, hw, htallies⟩ := Option.map_eq_some_iff.mp hsome
  refine ⟨w, hw, htallies, ?_⟩
  exact (quotaHonest_iff sampleQuotaClient ⟨0, -1⟩ sampleEnv samplePdu hw).mpr (by decide +kernel)

/-- A submit is allowed while the SMSCs are connected; when they have gone away, the quota is used up
without any other. -/
theorem not_quotaHonest : ¬ ∀ (acct : SmscClient) (cfg : ServerCfg) (env : AuthEnv) (pdu : BindPdu)
    (es : List AccountEvent) (w : Esme × List Tally), 0 ≤ acct.maxSubmitsUnconnect →
    exec (withHistory (accountStep acct cfg) (noteTally cfg)) (newEsme env pdu acct, []) es = some w →
      Along (withHistory (accountStep acct cfg) (noteTally cfg)) (QuotaHonest acct cfg)
        (newEsme env pdu acct, []) es := by
  intro h
  have hsome : (exec (withHistory (accountStep sampleQuotaClient ⟨0, -1⟩) (noteTally ⟨0, -1⟩))
      (newEsme sampleEnv samplePdu sampleQuotaClient, [])
      [sampleQuotaBind, .updateEsmeConn 2, sampleQuotaSubmit, .updateEsmeConn 0,
        sampleQuotaSubmit]).isSome := by decide +kernel
  obtain ⟨w, hw⟩ := Option.isSome_iff_exists.mp hsome
  have halong := h sampleQuotaClient ⟨0, -1⟩ sampleEnv samplePdu _ w (by decide) hw
  exact absurd halong (by decide +kernel)

end SmppServer.SmppEsme
