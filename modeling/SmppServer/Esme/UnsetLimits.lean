import SmppServer.Esme.SenderMemory

/-!
# Esme/UnsetLimits — limits that are not configured

A limit that is not configured is stored as `-1`.  The two quotas are tested for that first; the count
of the window and the hours are compared with the number as it is.  No hour is `-1` or less, so the
hour from which submits are valid is harmless; every hour is above the one up to which they are valid,
and every count above the one that the window may have.

A submit is **held up** by a limit if it sleeps, or is answered with the status for that limit, and with
another value of the limit it would not.

* `heldUp_iff` — when an unset limit holds a submit up, limit by limit.
* `unsetHarmless_iff` — the runs in which none does.
-/

namespace SmppServer.SmppEsme

open Machinery

/-- The entry with another value of a limit. -/
def Esme.setLimit (e : Esme) (limit : Limit) (value : ℤ) : Esme :=
  match limit with
  | .maxTps => { e with maxTps := value }
  | .maxSubmitsUnconnect => { e with maxSubmitsUnconnect := value }
  | .maxSubmits => { e with maxSubmits := value }
  | .validTimeFrom => { e with validTimeFrom := value }
  | .validTimeTo => { e with validTimeTo := value }

/-- The status of a submit that a limit rejects; the throughput limit rejects none. -/
def Limit.status : Limit → Option ℤ
  | .maxTps => none
  | .maxSubmitsUnconnect | .maxSubmits => some 0x14
  | .validTimeFrom | .validTimeTo => some 0x11

/-- **The submit is held up by a limit**: it sleeps, or gets the status for the limit, and would not with
another value of it. -/
def HeldUp (cfg : ServerCfg) (env : SubmitEnv) (srv : SubmitServer) (r : Readings) (session : ℕ)
    (mode : ℤ) (pdu : SubmitSm) (e : Esme) (limit : Limit) : Prop :=
  match limit.status with
  | none => r.Paused e ∧ ∃ value, ¬ r.Paused (e.setLimit limit value)
  | some status =>
    responseStatus cfg env srv r session mode pdu e = some status ∧
      ∃ value, responseStatus cfg env srv r session mode pdu (e.setLimit limit value) ≠ some status

/-- No limit that is not configured holds the submit up. -/
def UnsetHarmless (acct : SmscClient) (cfg : ServerCfg) (e : Esme) : AccountEvent → Prop
  | .submit env srv r session mode pdu =>
    ∀ limit, acct.limit limit = -1 → ¬ HeldUp cfg env srv r session mode pdu e limit
  | _ => True

/-- `max-tps` is configured, or the submit comes in another second than the one in which the window began;
and the hour up to which submits are valid is configured, or another check rejects the submit before it,
or the hour from which they are valid does. -/
def UnsetAvoided (acct : SmscClient) (cfg : ServerCfg) (e : Esme) : AccountEvent → Prop
  | .submit _ srv r session mode _ =>
    (acct.maxTps = -1 → r.start ≠ e.esmTime) ∧
      (acct.validTimeTo = -1 → Verifies cfg srv (r.pace e) session mode →
        r.now.tmHour ≤ acct.validTimeFrom)
  | _ => True

instance (acct : SmscClient) (cfg : ServerCfg) (e : Esme) : DecidablePred (UnsetAvoided acct cfg e)
  | .submit .. => inferInstanceAs (Decidable ((_ → _) ∧ (_ → _ → _)))
  | .bind .. | .destroy .. | .updateEsmeConn .. | .status .. => .isTrue trivial

/-! ## The statuses of the limits

Each limit has a status of its own, so a response tells which limit gave it. -/

section Status

variable {cfg : ServerCfg} {env : SubmitEnv} {srv : SubmitServer} {r : Readings} {session : ℕ} {mode : ℤ}
  {pdu : SubmitSm} {e : Esme} {limit : Limit} {value : ℤ}

/-- The quota of the session is used up, and nothing before it rejects the submit. -/
def QuotaRejects (cfg : ServerCfg) (srv : SubmitServer) (e : Esme) (session : ℕ) (mode : ℤ) : Prop :=
  mode ≠ 2 ∧ ∃ tx ∈ e.txEsme[session]?, serverStatus cfg srv = none ∧ overQuota e tx = true

theorem earlyStatus_eq_quota {tx : EsmeTx} : earlyStatus cfg srv e tx = some 0x14 ↔
    serverStatus cfg srv = none ∧ overQuota e tx = true := by
  unfold earlyStatus
  cases hserver : serverStatus cfg srv with
  | none => cases overQuota e tx <;> simp
  | some status =>
    unfold serverStatus at hserver
    split_ifs at hserver <;> obtain rfl := Option.some.inj hserver <;> simp

theorem stoppedStatus_eq_quota :
    stoppedStatus cfg srv e session mode = some 0x14 ↔ QuotaRejects cfg srv e session mode := by
  unfold stoppedStatus QuotaRejects
  by_cases hmode : mode = 2
  · simp [hmode]
  · simp only [if_neg hmode, Option.bind_eq_some_iff, earlyStatus_eq_quota, Option.mem_def]
    exact (and_iff_right hmode).symm

theorem stoppedStatus_ne_hour : stoppedStatus cfg srv e session mode ≠ some 0x11 := by
  unfold stoppedStatus
  split
  · simp
  · intro h
    obtain ⟨tx, -, htx⟩ := Option.bind_eq_some_iff.mp h
    unfold earlyStatus serverStatus at htx
    split_ifs at htx <;> simp at htx

theorem lateStatus_eq_hour {now : Moment} : lateStatus env.lib now (verifiedSubmit env e session pdu) = 0x11 ↔
    now.tmHour ≤ e.validTimeFrom ∨ e.validTimeTo ≤ now.tmHour := by
  have hmem : (verifiedSubmit env e session pdu).reason ∈ _ :=
    verifyPduPara_reason_mem env.toVerifyEnv (e.modifyTx session countQuota) pdu
  obtain ⟨allowedPrefix, hesme⟩ := verifiedSubmit_esme env e session pdu
  have hreason : (verifiedSubmit env e session pdu).reason ≠ 0x11 := by
    intro h
    rw [h] at hmem
    exact absurd hmem (by decide)
  rw [lateStatus, hesme]
  change (if now.tmHour ≤ e.validTimeFrom ∨ e.validTimeTo ≤ now.tmHour then _ else _) = _ ↔ _
  split
  · rename_i hhour
    exact iff_of_true rfl hhour
  · rename_i hhour
    refine iff_of_false ?_ hhour
    split
    · exact hreason
    · split <;> simp

theorem lateStatus_ne_quota {now : Moment} :
    lateStatus env.lib now (verifiedSubmit env e session pdu) ≠ 0x14 := by
  have hmem : (verifiedSubmit env e session pdu).reason ∈ _ :=
    verifyPduPara_reason_mem env.toVerifyEnv (e.modifyTx session countQuota) pdu
  unfold lateStatus
  split
  · simp
  · split
    · intro h
      rw [h] at hmem
      exact absurd hmem (by decide)
    · split <;> simp

/-- **Rejected for the hour.** -/
theorem responseStatus_eq_hour : responseStatus cfg env srv r session mode pdu e = some 0x11 ↔
    Verifies cfg srv (r.pace e) session mode ∧
      (r.now.tmHour ≤ e.limit .validTimeFrom ∨ e.limit .validTimeTo ≤ r.now.tmHour) := by
  rw [← limit_pace r e .validTimeFrom, ← limit_pace r e .validTimeTo]
  unfold responseStatus
  constructor
  · intro h
    obtain ⟨out, hout, hstatus⟩ := Option.map_eq_some_iff.mp h
    obtain ⟨hstopped, -, -⟩ | ⟨hv, hcame⟩ := handleSubmitSmAt_cases hout
    · rw [hstatus] at hstopped
      exact absurd hstopped stoppedStatus_ne_hour
    · rw [hcame.status_eq] at hstatus
      exact ⟨hv, lateStatus_eq_hour.mp hstatus⟩
  · rintro ⟨hv, hhour⟩
    obtain ⟨out, hout⟩ := hv.exists_outcome env pdu
    obtain ⟨-, hnot, -⟩ | ⟨-, hcame⟩ := handleSubmitSmAt_cases hout
    · exact absurd hv hnot
    · rw [hout, Option.map_some, hcame.status_eq, lateStatus_eq_hour.mpr hhour]

/-- **Rejected for the quota.** -/
theorem responseStatus_eq_quota : responseStatus cfg env srv r session mode pdu e = some 0x14 ↔
    QuotaRejects cfg srv (r.pace e) session mode := by
  unfold responseStatus
  constructor
  · intro h
    obtain ⟨out, hout, hstatus⟩ := Option.map_eq_some_iff.mp h
    obtain ⟨hstopped, -, -⟩ | ⟨hv, hcame⟩ := handleSubmitSmAt_cases hout
    · rw [hstatus] at hstopped
      exact stoppedStatus_eq_quota.mp hstopped
    · rw [hcame.status_eq] at hstatus
      exact absurd hstatus lateStatus_ne_quota
  · intro hq
    obtain ⟨hmode, tx, htx, hserver, hover⟩ := hq
    have hsome : ∃ out, handleSubmitSmAt env.lib cfg r srv e session mode pdu = some out := by
      rw [handleSubmitSmAt, submitPaced, if_neg hmode,
        show (r.pace e).txEsme[session]? = some tx from htx]
      exact ⟨_, rfl⟩
    obtain ⟨out, hout⟩ := hsome
    obtain ⟨hstopped, -, -⟩ | ⟨hv, -⟩ := handleSubmitSmAt_cases hout
    · rw [stoppedStatus_eq_quota.mpr ⟨hmode, tx, htx, hserver, hover⟩] at hstopped
      rw [hout, Option.map_some, ← hstopped]
    · obtain ⟨-, tx', htx', hearly⟩ := hv
      obtain rfl := Option.mem_unique htx htx'
      rw [(earlyStatus_eq_none.mp hearly).2] at hover
      exact absurd hover (by simp)

end Status

/-! ## What an unset limit does

A submit is compared with the one under another value of the limit.  The quotas are guarded; of the two others,
`max-tps` is exceeded by every count and the end of the day by every hour. -/

section Unset

variable {cfg : ServerCfg} {env : SubmitEnv} {srv : SubmitServer} {r : Readings} {session : ℕ} {mode : ℤ}
  {pdu : SubmitSm} {e : Esme} {limit : Limit} {value : ℤ}

theorem pace_setLimit (h : limit ≠ .maxTps) : r.pace (e.setLimit limit value) = (r.pace e).setLimit limit value := by
  have htps : (e.setLimit limit value).maxTps = e.maxTps ∧ (e.setLimit limit value).msgCount = e.msgCount := by
    cases limit <;> first | exact ⟨rfl, rfl⟩ | exact absurd rfl h
  by_cases hlt : e.maxTps < e.msgCount
  · rw [pace_of_lt hlt, pace_of_lt (by rw [htps.1, htps.2]; exact hlt)]
    cases limit <;> rfl
  · rw [pace_of_not_lt hlt, pace_of_not_lt (by rw [htps.1, htps.2]; exact hlt)]

/-- An unset `max-tps` makes every submit sleep that comes in the second in which its window began. -/
theorem heldUp_maxTps (hunset : e.limit .maxTps = -1) (hcount : 0 ≤ e.msgCount) :
    HeldUp cfg env srv r session mode pdu e .maxTps ↔ r.start = e.esmTime := by
  have htps : e.maxTps = -1 := hunset
  constructor
  · exact fun h => h.1.2
  · exact fun h => ⟨⟨by omega, h⟩, e.msgCount, fun hp => absurd hp.1 (lt_irrefl _)⟩

/-- A quota that is not configured is used up under any value. -/
theorem overQuota_setLimit {tx : EsmeTx} (hquota : limit.status = some 0x14) (hunset : e.limit limit = -1)
    (h : overQuota e tx = true) : overQuota (e.setLimit limit value) tx = true := by
  unfold overQuota at h ⊢
  cases hstatus : tx.status with
  | smscUnconnected =>
    rw [hstatus] at h
    cases limit with
    | maxSubmitsUnconnect =>
      have hneg : e.maxSubmitsUnconnect = -1 := hunset
      simp [hneg] at h
    | maxSubmits => exact h
    | maxTps | validTimeFrom | validTimeTo => exact absurd hquota (by decide)
  | binded =>
    rw [hstatus] at h
    cases limit with
    | maxSubmitsUnconnect => exact h
    | maxSubmits =>
      have hneg : e.maxSubmits = -1 := hunset
      simp [hneg] at h
    | maxTps | validTimeFrom | validTimeTo => exact absurd hquota (by decide)
  | unconnected | disconnect | sendUnbind =>
    rw [hstatus] at h
    exact absurd h (by simp)

/-- An unset quota rejects nothing. -/
theorem not_heldUp_quota (hquota : limit.status = some 0x14) (hunset : e.limit limit = -1) :
    ¬ HeldUp cfg env srv r session mode pdu e limit := by
  unfold HeldUp
  rw [hquota]
  rintro ⟨hrejected, value, hother⟩
  refine hother (responseStatus_eq_quota.mpr ?_)
  have hne : limit ≠ .maxTps := by
    rintro rfl
    exact absurd hquota (by decide)
  obtain ⟨hmode, tx, htx, hserver, hover⟩ := responseStatus_eq_quota.mp hrejected
  rw [pace_setLimit hne]
  refine ⟨hmode, tx, ?_, hserver, overQuota_setLimit hquota ?_ hover⟩
  · cases limit <;> exact htx
  · rw [limit_pace]
    exact hunset

/-- An unset hour from which submits are valid rejects nothing. -/
theorem not_heldUp_validTimeFrom (hunset : e.limit .validTimeFrom = -1) :
    ¬ HeldUp cfg env srv r session mode pdu e .validTimeFrom := by
  rintro ⟨hrejected, value, hother⟩
  refine hother (responseStatus_eq_hour.mpr ?_)
  obtain ⟨hv, hhour⟩ := responseStatus_eq_hour.mp hrejected
  have hnever := r.hour.1
  rw [pace_setLimit (by decide)]
  exact ⟨hv, .inr (hhour.resolve_left (by omega))⟩

/-- **An unset hour up to which submits are valid rejects every submit** that the other hour does not. -/
theorem heldUp_validTimeTo (hunset : e.limit .validTimeTo = -1) :
    HeldUp cfg env srv r session mode pdu e .validTimeTo ↔
      Verifies cfg srv (r.pace e) session mode ∧ ¬ r.now.tmHour ≤ e.limit .validTimeFrom := by
  have hhour := r.hour
  constructor
  · rintro ⟨hrejected, value, hother⟩
    obtain ⟨hv, -⟩ := responseStatus_eq_hour.mp hrejected
    refine ⟨hv, fun hfrom => hother (responseStatus_eq_hour.mpr ?_)⟩
    rw [pace_setLimit (by decide)]
    exact ⟨hv, .inl hfrom⟩
  · rintro ⟨hv, hfrom⟩
    refine ⟨responseStatus_eq_hour.mpr ⟨hv, .inr (by omega)⟩, 24, fun h => ?_⟩
    obtain ⟨-, hlow | hhigh⟩ := responseStatus_eq_hour.mp h
    · exact hfrom hlow
    · have hval : (e.setLimit .validTimeTo 24).limit .validTimeTo = 24 := rfl
      omega

/-- **When an unset limit holds the submit up**: `max-tps` in the second of the window, and the hour up to
which submits are valid if nothing else rejects the submit before. -/
theorem heldUp_iff (hunset : e.limit limit = -1) (hcount : 0 ≤ e.msgCount) :
    HeldUp cfg env srv r session mode pdu e limit ↔
      (limit = .maxTps ∧ r.start = e.esmTime) ∨
        (limit = .validTimeTo ∧ Verifies cfg srv (r.pace e) session mode ∧
          ¬ r.now.tmHour ≤ e.limit .validTimeFrom) := by
  cases limit with
  | maxTps => simp [heldUp_maxTps hunset hcount]
  | maxSubmitsUnconnect => simp [not_heldUp_quota rfl hunset]
  | maxSubmits => simp [not_heldUp_quota rfl hunset]
  | validTimeFrom => simp [not_heldUp_validTimeFrom hunset]
  | validTimeTo => simp [heldUp_validTimeTo hunset]

end Unset

/-! ## Runs

A run is harmless if each of its submits is, since a limit that holds one up does so on its own. -/

section Runs

variable {acct : SmscClient} {cfg : ServerCfg} {e e' : Esme} {ev : AccountEvent}

/-- The count of a window is never negative. -/
theorem msgCount_nonneg (h : 0 ≤ e.msgCount) (hs : accountStep acct cfg e ev = some e') :
    0 ≤ e'.msgCount := by
  obtain ⟨env, pdu, tc, mode, tx, rx, -, rfl⟩ | ⟨env, srv, r, session, mode, pdu, out, -, hout, rfl⟩ |
    ⟨-, tx, rx, rfl⟩ := accountStep_cases hs
  · change 0 ≤ (e.entry acct env pdu).msgCount
    rw [Esme.entry]
    split
    · exact le_refl _
    · exact h
  · have hpace := pace_msgCount_nonneg r h
    obtain ⟨-, -, -, f, -, hesme⟩ | ⟨-, -, f, -, hesme⟩ := handleSubmitSmAt_cases hout
    · rw [hesme]
      exact hpace
    · rw [hesme]
      change 0 ≤ (r.pace e).msgCount + _
      split <;> omega
  · exact h

/-- One submit is held up by no unset limit exactly if it avoids the two that hold submits up. -/
theorem unsetHarmless_step_iff (hcfg : Configured acct e) (hcount : 0 ≤ e.msgCount) :
    UnsetHarmless acct cfg e ev ↔ UnsetAvoided acct cfg e ev := by
  cases ev with
  | bind | destroy | updateEsmeConn | status => exact Iff.rfl
  | submit env srv r session mode pdu =>
    simp only [UnsetHarmless, UnsetAvoided]
    constructor
    · intro h
      refine ⟨fun hunset heq => ?_, fun hunset hv => ?_⟩
      · exact h .maxTps hunset ((heldUp_maxTps ((hcfg .maxTps).trans hunset) hcount).mpr heq)
      · by_contra hlate
        refine h .validTimeTo hunset ((heldUp_validTimeTo ((hcfg .validTimeTo).trans hunset)).mpr ⟨hv, ?_⟩)
        rwa [hcfg .validTimeFrom]
    · rintro ⟨htps, hto⟩ limit hunset hheld
      obtain ⟨rfl, heq⟩ | ⟨rfl, hv, hlate⟩ := (heldUp_iff ((hcfg limit).trans hunset) hcount).mp hheld
      · exact htps hunset heq
      · rw [hcfg .validTimeFrom] at hlate
        exact hlate (hto hunset hv)

/-- So it is along runs. -/
theorem along_unsetHarmless {es : List AccountEvent} (hcfg : Configured acct e) (hcount : 0 ≤ e.msgCount)
    (hr : exec (accountStep acct cfg) e es = some e') :
    Along (accountStep acct cfg) (UnsetHarmless acct cfg) e es ↔
      Along (accountStep acct cfg) (UnsetAvoided acct cfg) e es :=
  along_congr (@fun _ _ _ (h : Configured acct _ ∧ 0 ≤ Esme.msgCount _) hs =>
      ⟨configured_accountStep h.1 hs, msgCount_nonneg h.2 hs⟩)
    (fun h _ => unsetHarmless_step_iff h.1 h.2) ⟨hcfg, hcount⟩ hr

end Runs

/-- **When unset limits do not limit.**  For every account and every run of its entry, no submit is held
up by a limit that is not configured if and only if every submit finds `max-tps` configured or comes in
another second than the one in which its window began, and finds the hour up to which submits are valid
configured, or is rejected by another check before it, or for the hour from which they are valid. -/
theorem unsetHarmless_iff (acct : SmscClient) (cfg : ServerCfg) (env : AuthEnv) (pdu : BindPdu)
    {es : List AccountEvent} {e : Esme}
    (hr : exec (accountStep acct cfg) (newEsme env pdu acct) es = some e) :
    Along (accountStep acct cfg) (UnsetHarmless acct cfg) (newEsme env pdu acct) es ↔
      Along (accountStep acct cfg) (UnsetAvoided acct cfg) (newEsme env pdu acct) es :=
  along_unsetHarmless (configured_newEsme acct env pdu) (le_refl 0) hr

/-- An account with a throughput limit and an hour up to which submits are valid. -/
def sampleLimitedClient : SmscClient := { sampleClient with maxTps := 5, validTimeTo := 24 }

theorem unsetHarmless_sampleSenders :
    Along (accountStep sampleLimitedClient ⟨0, -1⟩) (UnsetHarmless sampleLimitedClient ⟨0, -1⟩)
      (newEsme sampleEnv samplePdu sampleLimitedClient) (sampleSenders ["BANK", "ACME"]) := by
  have hsome : (exec (accountStep sampleLimitedClient ⟨0, -1⟩)
      (newEsme sampleEnv samplePdu sampleLimitedClient) (sampleSenders ["BANK", "ACME"])).isSome := by
    decide +kernel
  obtain ⟨e, he⟩ := Option.isSome_iff_exists.mp hsome
  refine (unsetHarmless_iff sampleLimitedClient ⟨0, -1⟩ sampleEnv samplePdu he).mpr ?_
  decide +kernel

/-- With no limit configured, the first submit is rejected for the hour. -/
theorem not_unsetHarmless : ¬ ∀ (acct : SmscClient) (cfg : ServerCfg) (env : AuthEnv) (pdu : BindPdu)
    (es : List AccountEvent) (e : Esme),
    exec (accountStep acct cfg) (newEsme env pdu acct) es = some e →
      Along (accountStep acct cfg) (UnsetHarmless acct cfg) (newEsme env pdu acct) es := by
  intro h
  have hsome : (exec (accountStep sampleClient ⟨0, -1⟩) (newEsme sampleEnv samplePdu sampleClient)
      (sampleSenders ["BANK"])).isSome := by decide +kernel
  obtain ⟨e, he⟩ := Option.isSome_iff_exists.mp hsome
  have halong := h sampleClient ⟨0, -1⟩ sampleEnv samplePdu _ e he
  have havoided := (along_unsetHarmless (configured_newEsme sampleClient sampleEnv samplePdu) (le_refl 0)
    he).mp halong
  exact absurd havoided (by decide +kernel)

end SmppServer.SmppEsme
