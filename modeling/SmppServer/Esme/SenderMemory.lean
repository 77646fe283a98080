import SmppServer.Esme.AccountLife
import SmppServer.Esme.SenderApi

/-!
# Esme/SenderMemory — the senders of an account, one after the other

The list of senders that an account may use is kept in its entry, and `verify_pdu_para` puts a sender
that the web service approves **in the place of that list**.  From then on it stands for the list: a
sender of the list is asked about like any other, and a sender that the one approved last matches as a
pattern is not.

* `InForce.step` — the list in force is the sender approved last, or the configured list.
* `senderMemoryless_iff` — the runs in which no submit is treated by what was approved before it.
-/

namespace SmppServer.SmppEsme

open Machinery

/-- The sender of a PDU with good addresses. -/
def goodSender (env : VerifyEnv) (pdu : SubmitSm) : Option Octstr :=
  pdu.sourceAddr.filter fun source => ¬ env.smppMaxSourceAddrLen < source.length ∧
    (addrReason env pdu source pdu.destinationAddr).toOption.isSome

/-- `verify_pdu_para` rejects the PDU because of its sender. -/
def SenderRejected (env : VerifyEnv) (e : Esme) (pdu : SubmitSm) : Prop :=
  ∃ source ∈ senderChecked env e pdu, env.checkSenderApi e.systemId source = false

instance (env : VerifyEnv) (e : Esme) (pdu : SubmitSm) : Decidable (SenderRejected env e pdu) :=
  inferInstanceAs (Decidable (∃ source ∈ senderChecked env e pdu, _))

/-- The sender that the web service approves for the PDU, if it is asked. -/
def approvedSender (env : VerifyEnv) (e : Esme) (pdu : SubmitSm) : Option Octstr :=
  (senderChecked env e pdu).filter fun source => env.checkSenderApi e.systemId source

section Verify

variable {env : VerifyEnv} {e e' : Esme} {pdu : SubmitSm} {source : Octstr}

/-- The web service is asked about a good sender that the list in force does not match. -/
theorem senderChecked_eq : senderChecked env e pdu =
    (goodSender env pdu).filter fun source => env.patternListMatchesIp e.allowedPrefix source = false := by
  unfold senderChecked goodSender
  cases pdu.sourceAddr with
  | none => rfl
  | some source =>
    by_cases hlen : env.smppMaxSourceAddrLen < source.length
    · simp [Option.filter_some, hlen, Nat.not_le.mpr hlen]
    · have hle := Nat.not_lt.mp hlen
      cases hreason : addrReason env pdu source pdu.destinationAddr with
      | error reason => simp [Option.filter_some, hlen, hreason, Except.toOption]
      | ok dest =>
        cases hmatch : env.patternListMatchesIp e.allowedPrefix source with
        | true => simp [Option.filter_some, hmatch, hle, hlen, hreason, Except.toOption]
        | false => simp [Option.filter_some, hmatch, hle, hlen, hreason, Except.toOption]

/-- The sender is rejected if neither the list in force nor the web service knows it. -/
theorem senderRejected_iff : SenderRejected env e pdu ↔ ∃ source ∈ goodSender env pdu,
    env.patternListMatchesIp e.allowedPrefix source = false ∧
      env.checkSenderApi e.systemId source = false := by
  unfold SenderRejected
  refine exists_congr fun source => ?_
  rw [senderChecked_eq, Option.mem_def, Option.filter_eq_some_iff, Option.mem_def, decide_eq_true_eq,
    and_assoc]

/-- A rejected sender gives the status. -/
theorem SenderRejected.reason (h : SenderRejected env e pdu) :
    (verifyPduPara env e pdu).reason = 0x401 := by
  obtain ⟨source, hsource, hunknown⟩ := h
  obtain ⟨-, dest, hverify⟩ := verifyPduPara_of_senderChecked hsource
  rw [hverify, if_neg (by simp [hunknown])]

/-- **The approved sender takes the place of the list.** -/
theorem verifyPduPara_allowedPrefix (env : VerifyEnv) (e : Esme) (pdu : SubmitSm) :
    (verifyPduPara env e pdu).esme.allowedPrefix = (approvedSender env e pdu).or e.allowedPrefix := by
  unfold approvedSender
  cases hchecked : senderChecked env e pdu with
  | none =>
    obtain ⟨reason, -, hverify⟩ | ⟨source, dest, -, hsame, hverify⟩ := verifyPduPara_cases env e pdu
    · rw [show verifyPduPara env e pdu = _ from hverify env.checkSenderApi]
      rfl
    · have hmatch : env.patternListMatchesIp e.allowedPrefix source = true := by
        by_contra hne
        rw [hsame, if_neg hne] at hchecked
        exact absurd hchecked (by simp)
      rw [show verifyPduPara env e pdu = _ from hverify env.checkSenderApi]
      simp [verifySender, hmatch]
  | some source =>
    obtain ⟨-, dest, hverify⟩ := verifyPduPara_of_senderChecked hchecked
    rw [hverify, Option.filter_some]
    split
    · rfl
    · rfl

end Verify

/-! ## Runs

Beside the entry goes the sender that was approved last.  The list in force is that sender, or the configured
list as long as there is none; so a submit is judged as if nothing had been approved before exactly if the two
agree on its sender. -/

/-- The account as `verify_pdu_para` gets it. -/
def calledWith (r : Readings) (e : Esme) (session : ℕ) : Esme := (r.pace e).modifyTx session countQuota

/-- **The sender is judged by the configured list**, whatever was approved before: a submit that comes to
`verify_pdu_para` is rejected because of its sender exactly if it would be with that list. -/
def SenderMemoryless (acct : SmscClient) (cfg : ServerCfg) (e : Esme) : AccountEvent → Prop
  | .submit env srv r session mode pdu =>
    Verifies cfg srv (r.pace e) session mode →
      (SenderRejected env.toVerifyEnv (calledWith r e session) pdu ↔
        SenderRejected env.toVerifyEnv
          { calledWith r e session with allowedPrefix := acct.allowedPrefix } pdu)
  | _ => True

instance (acct : SmscClient) (cfg : ServerCfg) (e : Esme) : DecidablePred (SenderMemoryless acct cfg e)
  | .submit .. => inferInstanceAs (Decidable (_ → (_ ↔ _)))
  | .bind .. | .destroy .. | .updateEsmeConn .. | .status .. => .isTrue trivial

/-- The sender that was approved last since the entry was made. -/
def noteApproved (cfg : ServerCfg) (e : Esme) (ev : AccountEvent) (last : Option Octstr) :
    Option Octstr :=
  match ev with
  | .bind .. => if e.Vacant then none else last
  | .submit env srv r session mode pdu =>
    if Verifies cfg srv (r.pace e) session mode then
      (approvedSender env.toVerifyEnv (calledWith r e session) pdu).or last
    else last
  | _ => last

/-- At a submit that comes to `verify_pdu_para` with good addresses: the web service knows the sender, or
it has approved none, or the one it approved last matches the sender exactly if the configured list
does. -/
def LastApprovedAgrees (acct : SmscClient) (cfg : ServerCfg) (w : Esme × Option Octstr) :
    AccountEvent → Prop
  | .submit env srv r session mode pdu =>
    Verifies cfg srv (r.pace w.1) session mode → ∀ source ∈ goodSender env.toVerifyEnv pdu,
      env.checkSenderApi w.1.systemId source = false → ∀ approved ∈ w.2,
        env.patternListMatchesIp (some approved) source =
          env.patternListMatchesIp acct.allowedPrefix source
  | _ => True

instance (acct : SmscClient) (cfg : ServerCfg) (w : Esme × Option Octstr) :
    DecidablePred (LastApprovedAgrees acct cfg w)
  | .submit .. => inferInstanceAs (Decidable (_ → ∀ source ∈ goodSender _ _, _ → ∀ approved ∈ w.2, _))
  | .bind .. | .destroy .. | .updateEsmeConn .. | .status .. => .isTrue trivial

section Runs

variable {acct : SmscClient} {cfg : ServerCfg} {w w' : Esme × Option Octstr} {ev : AccountEvent}

theorem calledWith_allowedPrefix (r : Readings) (e : Esme) (session : ℕ) :
    (calledWith r e session).allowedPrefix = e.allowedPrefix := by
  obtain ⟨esmTime, msgCount, h⟩ := pace_eq r e
  rw [calledWith, h]
  rfl

theorem calledWith_systemId (r : Readings) (e : Esme) (session : ℕ) :
    (calledWith r e session).systemId = e.systemId := by
  obtain ⟨esmTime, msgCount, h⟩ := pace_eq r e
  rw [calledWith, h]
  rfl

theorem noteApproved_of_quiet {e : Esme} (h : ev.Quiet) (last : Option Octstr) :
    noteApproved cfg e ev last = last := by
  cases ev with
  | bind | submit => exact h.elim
  | destroy | updateEsmeConn | status => rfl

/-- **The list in force**: the sender approved last, or the configured list. -/
def InForce (acct : SmscClient) (w : Esme × Option Octstr) : Prop :=
  w.1.allowedPrefix = w.2.or acct.allowedPrefix

theorem InForce.step (h : InForce acct w)
    (hs : withHistory (accountStep acct cfg) (noteApproved cfg) w ev = some w') : InForce acct w' := by
  obtain ⟨e, last⟩ := w
  obtain ⟨e', last'⟩ := w'
  obtain ⟨hstep, rfl : last' = _⟩ := withHistory_eq_some.mp hs
  unfold InForce at h ⊢
  dsimp only at h hstep ⊢
  obtain ⟨env, pdu, tc, mode, tx, rx, rfl, rfl⟩ |
    ⟨env, srv, r, session, mode, pdu, out, rfl, hout, rfl⟩ | ⟨hq, tx, rx, rfl⟩ :=
    accountStep_cases hstep
  · rw [Esme.withSessions, Esme.entry, noteApproved]
    split
    · rfl
    · exact h
  · rw [← calledWith_allowedPrefix r e session] at h
    obtain ⟨-, hv, -, f, -, hesme⟩ | ⟨hv, -, f, -, hesme⟩ := handleSubmitSmAt_cases hout
    · rw [hesme, noteApproved, if_neg hv, ← h]
      rfl
    · rw [hesme, noteApproved, if_pos hv, Option.or_assoc, ← h]
      exact verifyPduPara_allowedPrefix env.toVerifyEnv (calledWith r e session) pdu
  · rw [noteApproved_of_quiet hq]
    exact h

/-- One submit is judged by the configured list exactly if the sender approved last agrees with it. -/
theorem senderMemoryless_step_iff (h : InForce acct w) :
    SenderMemoryless acct cfg w.1 ev ↔ LastApprovedAgrees acct cfg w ev := by
  obtain ⟨e, last⟩ := w
  cases ev with
  | bind | destroy | updateEsmeConn | status => exact Iff.rfl
  | submit env srv r session mode pdu =>
    replace h : e.allowedPrefix = last.or acct.allowedPrefix := h
    simp only [SenderMemoryless, LastApprovedAgrees]
    refine imp_congr_right fun _ => ?_
    rw [senderRejected_iff, senderRejected_iff, calledWith_allowedPrefix, calledWith_systemId, h]
    constructor
    · rintro hiff source hgood hunknown approved (rfl : last = some approved)
      have hsame : env.patternListMatchesIp (some approved) source = false ↔
          env.patternListMatchesIp acct.allowedPrefix source = false := by
        constructor
        · intro hmatch
          obtain ⟨s, hs, hconfigured, -⟩ := hiff.mp ⟨source, hgood, hmatch, hunknown⟩
          rwa [Option.mem_unique hgood hs]
        · intro hconfigured
          obtain ⟨s, hs, hmatch, -⟩ := hiff.mpr ⟨source, hgood, hconfigured, hunknown⟩
          rwa [Option.mem_unique hgood hs]
      rwa [Bool.eq_iff_iff, ← not_iff_not, Bool.not_eq_true, Bool.not_eq_true]
    · intro hagree
      refine exists_congr fun source => and_congr_right fun hgood =>
        and_congr_left fun hunknown => ?_
      cases last with
      | none => exact Iff.rfl
      | some approved =>
        rw [← hagree source hgood hunknown approved rfl]
        exact Iff.rfl

end Runs

/-- **When the sender alone decides.**  For every account, every configured list and every run of its
entry — any sessions, any submits on them in any order, any answers of the web service — every submit is
judged by the configured list if and only if at every submit the web service knows the sender, or it has
approved none since the entry was made, or the sender it approved last matches this one exactly if the
configured list does. -/
theorem senderMemoryless_iff (acct : SmscClient) (cfg : ServerCfg) (env : AuthEnv) (pdu : BindPdu)
    {es : List AccountEvent} {e : Esme}
    (hr : exec (accountStep acct cfg) (newEsme env pdu acct) es = some e) :
    Along (accountStep acct cfg) (SenderMemoryless acct cfg) (newEsme env pdu acct) es ↔
      Along (withHistory (accountStep acct cfg) (noteApproved cfg)) (LastApprovedAgrees acct cfg)
        (newEsme env pdu acct, none) es := by
  obtain ⟨last, hlast⟩ : ∃ last, exec (withHistory (accountStep acct cfg) (noteApproved cfg))
      (newEsme env pdu acct, none) es = some (e, last) := exec_withHistory hr none
  have hplain : Along (withHistory (accountStep acct cfg) (noteApproved cfg))
        (fun w ev => SenderMemoryless acct cfg w.1 ev) (newEsme env pdu acct, none) es ↔
      Along (accountStep acct cfg) (SenderMemoryless acct cfg) (newEsme env pdu acct) es :=
    along_withHistory
  rw [← hplain]
  exact along_congr (@fun _ _ _ => InForce.step) (fun h _ => senderMemoryless_step_iff h)
    (show InForce acct (newEsme env pdu acct, none) from rfl) hlast

/-! ## Three submits -/

/-- An account that may send as `ACME`. -/
def sampleAcmeClient : SmscClient :=
  { sampleClient with allowedPrefix := some (octstrImm "ACME"), maxTps := 5, validTimeTo := 24 }

/-- A list matches its only sender, and the web service knows `BANK`. -/
def sampleBankEnv : SubmitEnv :=
  { sampleSubmitEnv with
    patternListMatchesIp := fun list source => list = some source
    checkSenderApi := fun _ source => source = octstrImm "BANK" }

/-- Readings in one second. -/
def sampleReadings (timestamp : ℤ) : Readings where
  start := timestamp
  restart := timestamp
  now := sampleMoment timestamp
  start_le := le_refl _
  restart_le := le_refl _
  hour := by simp [sampleMoment]

/-- A submit of that sender on the first session. -/
def sampleSubmitFrom (source : String) : AccountEvent :=
  .submit sampleBankEnv {} (sampleReadings 1700000001) 0 1
    { sampleSubmitPdu 2 "919876543210" with sourceAddr := some (octstrImm source) }

/-- A transmitter binds and submits as these senders. -/
def sampleSenders (sources : List String) : List AccountEvent :=
  .bind sampleSubmitterEnv samplePdu (tempconnCreate 0 (octstrImm "10.0.0.1") 4000 2775 1) 1 ::
    sources.map sampleSubmitFrom

theorem senderMemoryless_sampleSenders :
    Along (accountStep sampleAcmeClient ⟨0, -1⟩) (SenderMemoryless sampleAcmeClient ⟨0, -1⟩)
      (newEsme sampleEnv samplePdu sampleAcmeClient) (sampleSenders ["ACME", "BANK", "BANK"]) := by
  have hsome : (exec (accountStep sampleAcmeClient ⟨0, -1⟩)
      (newEsme sampleEnv samplePdu sampleAcmeClient)
      (sampleSenders ["ACME", "BANK", "BANK"])).isSome := by decide +kernel
  obtain ⟨e, he⟩ := Option.isSome_iff_exists.mp hsome
  refine (senderMemoryless_iff sampleAcmeClient ⟨0, -1⟩ sampleEnv samplePdu he).mpr ?_
  decide +kernel

/-- A submit relies on these patterns and these answers of the web service. -/
def AccountEvent.ReliesOn (env : SubmitEnv) : AccountEvent → Prop
  | .submit env' .. => env' = env
  | _ => True

/-- The sender of the configured list is rejected behind another one, though the answers do not
change. -/
theorem not_senderMemoryless : ¬ ∀ (acct : SmscClient) (cfg : ServerCfg) (env : AuthEnv) (pdu : BindPdu)
    (answers : SubmitEnv) (es : List AccountEvent) (e : Esme), (∀ ev ∈ es, ev.ReliesOn answers) →
    exec (accountStep acct cfg) (newEsme env pdu acct) es = some e →
      Along (accountStep acct cfg) (SenderMemoryless acct cfg) (newEsme env pdu acct) es := by
  intro h
  have hsome : (exec (accountStep sampleAcmeClient ⟨0, -1⟩)
      (newEsme sampleEnv samplePdu sampleAcmeClient)
      (sampleSenders ["ACME", "BANK", "ACME"])).isSome := by decide +kernel
  obtain ⟨e, he⟩ := Option.isSome_iff_exists.mp hsome
  have hanswers : ∀ ev ∈ sampleSenders ["ACME", "BANK", "ACME"], ev.ReliesOn sampleBankEnv := by
    simp [sampleSenders, sampleSubmitFrom, AccountEvent.ReliesOn]
  have halong := h sampleAcmeClient ⟨0, -1⟩ sampleEnv samplePdu sampleBankEnv _ e hanswers he
  exact absurd halong (by decide +kernel)

end SmppServer.SmppEsme
