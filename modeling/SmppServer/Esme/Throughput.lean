import SmppServer.Esme.UnsetLimits
import SmppServer.Machinery.RateWindow

/-!
# Esme/Throughput — the throughput limit of an account

`handle_submit_sm` counts what it accepts in a window, and opens a new one when the count is above
`max-tps`; if the window was opened in the same second it sleeps before.  So a window accepts one more
than `max-tps`, and an old window that is used up in some second is followed by a new one in that very
second.

The submits of an account are taken one at a time, by a clock that does not go back; a sleep of a second
takes one at least.

* `doubled_of_inTime` — at most `2 · max-tps + 2` submits are accepted in any second.
* `accepted_le_maxTps` — at most `max-tps` in the runs whose windows stay apart.
-/

namespace SmppServer.SmppEsme

open Machinery

/-- The clock, and the readings with which submits were accepted, the latest first. -/
structure Arrivals where
  clock : ℤ
  accepted : List ℤ

/-- What a step adds to the arrivals. -/
def noteArrival (cfg : ServerCfg) (e : Esme) (ev : AccountEvent) (h : Arrivals) : Arrivals :=
  match ev with
  | .bind env _ _ _ => { h with clock := env.clock.now }
  | .submit env srv r session mode pdu =>
    { clock := r.now.timestamp
      accepted :=
        if responseStatus cfg env srv r session mode pdu e = some 0 then r.now.timestamp :: h.accepted
        else h.accepted }
  | _ => h

/-- The clock does not go back, and a sleep of a second takes one at least. -/
def InTime (w : Esme × Arrivals) : AccountEvent → Prop
  | .bind env _ _ _ => w.2.clock ≤ env.clock.now
  | .submit _ _ r _ _ _ => w.2.clock ≤ r.start ∧ (r.Paused w.1 → r.start + 1 ≤ r.restart)
  | _ => True

instance (w : Esme × Arrivals) : DecidablePred (InTime w)
  | .bind .. => inferInstanceAs (Decidable (_ ≤ _))
  | .submit .. => inferInstanceAs (Decidable (_ ∧ (_ → _)))
  | .destroy .. | .updateEsmeConn .. | .status .. => .isTrue trivial

/-- The submit passes all checks behind the throughput limit. -/
def Accepts (cfg : ServerCfg) (env : SubmitEnv) (srv : SubmitServer) (r : Readings) (session : ℕ)
    (mode : ℤ) (pdu : SubmitSm) (e : Esme) : Prop :=
  Verifies cfg srv (r.pace e) session mode ∧
    lateStatus env.lib r.now (verifiedSubmit env (r.pace e) session pdu) = 0

instance (cfg : ServerCfg) (env : SubmitEnv) (srv : SubmitServer) (r : Readings) (session : ℕ) (mode : ℤ)
    (pdu : SubmitSm) (e : Esme) : Decidable (Accepts cfg env srv r session mode pdu e) :=
  instDecidableAnd

/-- **The windows stay apart**: a window is opened in a later second than all accepted submits, by a
submit that finds the count above `max-tps` or by the bind that makes the entry; and a submit that passes
the checks and finds the count at `max-tps` comes in another second than one that the window has
accepted. -/
def WindowsApart (cfg : ServerCfg) (w : Esme × Arrivals) : AccountEvent → Prop
  | .bind env _ _ _ => w.1.Vacant → ∀ y ∈ w.2.accepted, y < env.clock.now
  | .submit env srv r session mode pdu =>
    (w.1.maxTps < w.1.msgCount → ∀ y ∈ w.2.accepted, y < r.restart) ∧
      (Accepts cfg env srv r session mode pdu w.1 → (r.pace w.1).msgCount = w.1.maxTps →
        ∃ y ∈ w.2.accepted.take (r.pace w.1).msgCount.toNat, y ≠ r.now.timestamp)
  | _ => True

instance (cfg : ServerCfg) (w : Esme × Arrivals) : DecidablePred (WindowsApart cfg w)
  | .bind .. => inferInstanceAs (Decidable (_ → ∀ y ∈ w.2.accepted, _))
  | .submit .. => inferInstanceAs (Decidable ((_ → ∀ y ∈ w.2.accepted, _) ∧ (_ → _ → ∃ y ∈ _, _)))
  | .destroy .. | .updateEsmeConn .. | .status .. => .isTrue trivial

/-! ## The window of an account

Count and beginning of the window are two fields of the entry; `Machinery/RateWindow` has the limiter by itself. -/

/-- The window that an entry keeps. -/
def rateWindow (w : Esme × Arrivals) : RateWindow ℤ := ⟨w.1.esmTime, w.1.msgCount.toNat, w.2.accepted⟩

section Step

variable {acct : SmscClient} {cfg : ServerCfg} {env : SubmitEnv} {srv : SubmitServer} {r : Readings}
  {session : ℕ} {mode : ℤ} {pdu : SubmitSm} {w w' : Esme × Arrivals} {ev : AccountEvent}

theorem responseStatus_eq_zero {e : Esme} : responseStatus cfg env srv r session mode pdu e = some 0 ↔
    Accepts cfg env srv r session mode pdu e := by
  unfold responseStatus Accepts
  constructor
  · intro h
    obtain ⟨out, hout, hstatus⟩ := Option.map_eq_some_iff.mp h
    obtain ⟨-, -, hstopped⟩ | ⟨hv, hcame⟩ := handleSubmitSmAt_cases hout
    · exact absurd hstatus hstopped.status_ne
    · exact ⟨hv, hcame.status_eq.symm.trans hstatus⟩
  · rintro ⟨hv, hlate⟩
    obtain ⟨out, hout⟩ := hv.exists_outcome env pdu
    obtain ⟨-, hnot, -⟩ | ⟨-, hcame⟩ := handleSubmitSmAt_cases hout
    · exact absurd hv hnot
    · rw [hout, Option.map_some, hcame.status_eq, hlate]

/-- The window after the throughput limit. -/
def pacedWindow (r : Readings) (w : Esme × Arrivals) : RateWindow ℤ :=
  if w.1.maxTps < w.1.msgCount then (rateWindow w).restart r.restart else rateWindow w

theorem pacedWindow_count (r : Readings) (htps : 0 ≤ w.1.maxTps) :
    (pacedWindow r w).count = (r.pace w.1).msgCount.toNat ∧ (r.pace w.1).msgCount ≤ w.1.maxTps := by
  unfold pacedWindow
  split
  · rename_i hlt
    rw [pace_of_lt hlt]
    exact ⟨rfl, htps⟩
  · rename_i hlt
    rw [pace_of_not_lt hlt]
    exact ⟨rfl, by omega⟩

/-- **A submit moves the window** as the limiter does. -/
theorem rateWindow_submit (hcount : 0 ≤ w.1.msgCount)
    (hs : withHistory (accountStep acct cfg) (noteArrival cfg) w
      (.submit env srv r session mode pdu) = some w') :
    rateWindow w' =
      if Accepts cfg env srv r session mode pdu w.1 then (pacedWindow r w).accept r.now.timestamp
      else pacedWindow r w := by
  obtain ⟨hstep, hnote⟩ := withHistory_eq_some.mp hs
  obtain ⟨out, hout, hesme⟩ := Option.map_eq_some_iff.mp hstep
  have hpace : rateWindow (r.pace w.1, w.2) = pacedWindow r w := by
    unfold pacedWindow
    split
    · rename_i hlt
      rw [pace_of_lt hlt]
      rfl
    · rename_i hlt
      rw [pace_of_not_lt hlt]
  have hcount' := pace_msgCount_nonneg r hcount
  have hadm : Accepts cfg env srv r session mode pdu w.1 ↔ out.resp.commandStatus = 0 := by
    rw [← responseStatus_eq_zero, responseStatus, hout, Option.map_some, Option.some.injEq]
  have haccepted : w'.2.accepted =
      if out.resp.commandStatus = 0 then r.now.timestamp :: w.2.accepted else w.2.accepted := by
    rw [hnote, noteArrival]
    simp only [responseStatus, hout, Option.map_some, Option.some.injEq]
  rw [← hpace]
  simp only [hadm]
  rw [rateWindow, haccepted, ← hesme]
  obtain ⟨-, -, hne, f, -, hstopped⟩ | ⟨-, -, f, -, hcame⟩ := handleSubmitSmAt_cases hout
  · rw [hstopped, if_neg hne, if_neg hne]
    rfl
  · rw [hcame]
    change (⟨(r.pace w.1).esmTime, ((r.pace w.1).msgCount + _).toNat, _⟩ : RateWindow ℤ) = _
    split
    · rw [Int.toNat_add hcount' (by decide)]
      rfl
    · rw [add_zero]
      rfl

/-- A bind opens a window if it makes the entry. -/
theorem rateWindow_bind {aenv : AuthEnv} {bpdu : BindPdu} {tc : TempConn} {m : ℤ}
    (hs : withHistory (accountStep acct cfg) (noteArrival cfg) w (.bind aenv bpdu tc m) = some w') :
    rateWindow w' = if w.1.Vacant then (rateWindow w).restart aenv.clock.now else rateWindow w := by
  obtain ⟨hstep, hnote⟩ := withHistory_eq_some.mp hs
  obtain ⟨-, hesme⟩ := bind_eq_some hstep
  obtain ⟨tx, rx, hadd⟩ := addSession_eq aenv bpdu tc m (w.1.entry acct aenv bpdu)
  rw [rateWindow, hnote, hesme, hadd, Esme.entry]
  split
  · rfl
  · rfl

/-- Anything else leaves it. -/
theorem rateWindow_quiet (hq : ev.Quiet)
    (hs : withHistory (accountStep acct cfg) (noteArrival cfg) w ev = some w') :
    rateWindow w' = rateWindow w ∧ w'.2.clock = w.2.clock := by
  obtain ⟨hstep, hnote⟩ := withHistory_eq_some.mp hs
  have hsame : noteArrival cfg w.1 ev w.2 = w.2 := by
    cases ev with
    | bind | submit => exact hq.elim
    | destroy | updateEsmeConn | status => rfl
  rw [hsame] at hnote
  obtain ⟨env, pdu, tc, mode, tx, rx, rfl, -⟩ | ⟨env, srv, r, session, mode, pdu, out, rfl, -, -⟩ |
    ⟨-, tx, rx, hesme⟩ := accountStep_cases hstep
  · exact hq.elim
  · exact hq.elim
  · exact ⟨by rw [rateWindow, hesme, hnote]; rfl, by rw [hnote]⟩

end Step

/-! ## Runs

The clock does not go back, and a pause takes a second.  So the windows of a run have rising beginnings, and a
second meets at most two of them. -/

section Runs

variable {acct : SmscClient} {cfg : ServerCfg} {w w' : Esme × Arrivals} {ev : AccountEvent}

/-- The window was opened, and everything was accepted, before the clock stood as it does. -/
structure Ticking (acct : SmscClient) (w : Esme × Arrivals) : Prop where
  configured : Configured acct w.1
  msgCount : 0 ≤ w.1.msgCount
  opened : (rateWindow w).opened ≤ w.2.clock
  log : ∀ y ∈ (rateWindow w).log, y ≤ w.2.clock

theorem ticking_init (acct : SmscClient) (env : AuthEnv) (pdu : BindPdu) :
    Ticking acct (newEsme env pdu acct, ⟨env.clock.now, []⟩) :=
  ⟨configured_newEsme acct env pdu, le_refl _, le_refl _, fun _ hy => absurd hy List.not_mem_nil⟩

theorem Ticking.maxTps (h : Ticking acct w) : w.1.maxTps = acct.maxTps := h.configured .maxTps

/-- The window of a submit was opened before it is counted. -/
theorem Ticking.pacedWindow_opened {r : Readings} (h : Ticking acct w) (hclock : w.2.clock ≤ r.start) :
    (pacedWindow r w).opened ≤ r.now.timestamp := by
  have hstart := r.start_le
  have hrestart := r.restart_le
  have hopened := h.opened
  unfold pacedWindow
  split
  · exact hrestart
  · omega

theorem pacedWindow_log (r : Readings) (w : Esme × Arrivals) : (pacedWindow r w).log = w.2.accepted := by
  unfold pacedWindow
  split <;> rfl

theorem Ticking.step (h : Ticking acct w) (ht : InTime w ev)
    (hs : withHistory (accountStep acct cfg) (noteArrival cfg) w ev = some w') : Ticking acct w' := by
  obtain ⟨hstep, hnote⟩ := withHistory_eq_some.mp hs
  have hconfigured := configured_accountStep h.configured hstep
  have hcount := msgCount_nonneg h.msgCount hstep
  cases ev with
  | bind env pdu tc mode =>
    have hclock : w'.2.clock = env.clock.now := by rw [hnote]; rfl
    have hle : w.2.clock ≤ env.clock.now := ht
    refine ⟨hconfigured, hcount, ?_, ?_⟩
    · rw [rateWindow_bind hs, hclock]
      split
      · exact le_refl _
      · exact h.opened.trans hle
    · rw [rateWindow_bind hs, hclock]
      intro y hy
      refine (h.log y ?_).trans hle
      split at hy <;> exact hy
  | submit env srv r session mode pdu =>
    have hclock : w'.2.clock = r.now.timestamp := by rw [hnote]; rfl
    have hopened := h.pacedWindow_opened ht.1
    have hlog : ∀ y ∈ (pacedWindow r w).log, y ≤ r.now.timestamp := by
      intro y hy
      rw [pacedWindow_log] at hy
      have hold := h.log y hy
      have hle : w.2.clock ≤ r.start := ht.1
      have hstart := r.start_le
      have hrestart := r.restart_le
      omega
    refine ⟨hconfigured, hcount, ?_, ?_⟩
    · rw [rateWindow_submit h.msgCount hs, hclock]
      split
      · exact hopened
      · exact hopened
    · rw [rateWindow_submit h.msgCount hs, hclock]
      split
      · intro y hy
        obtain rfl | hy := List.mem_cons.mp (RateWindow.log_accept _ _ ▸ hy)
        · exact le_refl _
        · exact hlog y hy
      · exact hlog
  | destroy | updateEsmeConn | status =>
    obtain ⟨hwindow, hclock⟩ := rateWindow_quiet (by trivial) hs
    exact ⟨hconfigured, hcount, by rw [hwindow, hclock]; exact h.opened, by
      rw [hwindow, hclock]
      exact h.log⟩

/-- Windows that stay apart accept `max-tps` submits at most at any time. -/
theorem apart_step (hacct : 0 ≤ acct.maxTps) (h : Ticking acct w)
    (hapart : (rateWindow w).Apart acct.maxTps.toNat) (ht : InTime w ev) (hg : WindowsApart cfg w ev)
    (hs : withHistory (accountStep acct cfg) (noteArrival cfg) w ev = some w') :
    (rateWindow w').Apart acct.maxTps.toNat := by
  cases ev with
  | bind env pdu tc mode =>
    rw [rateWindow_bind hs]
    split
    · rename_i hvacant
      exact hapart.restart (hg hvacant)
    · exact hapart
  | submit env srv r session mode pdu =>
    obtain ⟨hopen, hspread⟩ := hg
    have hpaced : (pacedWindow r w).Apart acct.maxTps.toNat := by
      unfold pacedWindow
      split
      · rename_i hlt
        exact hapart.restart (hopen hlt)
      · exact hapart
    obtain ⟨hcount, hle⟩ := pacedWindow_count r (h.maxTps.symm ▸ hacct)
    have hnonneg := pace_msgCount_nonneg r h.msgCount
    rw [h.maxTps] at hle hspread
    rw [rateWindow_submit h.msgCount hs]
    split
    · rename_i hadm
      refine hpaced.accept (h.pacedWindow_opened ht.1) (by omega) fun hfull => ?_
      obtain ⟨y, hy, hne⟩ := hspread hadm (by omega)
      refine ⟨y, ?_, hne⟩
      rw [RateWindow.current, pacedWindow_log, hcount]
      exact hy
    · exact hpaced
  | destroy | updateEsmeConn | status =>
    rw [(rateWindow_quiet (by trivial) hs).1]
    exact hapart

/-- The entry is made in a later second than all accepted submits. -/
def EntriesApart (w : Esme × Arrivals) : AccountEvent → Prop
  | .bind env _ _ _ => w.1.Vacant → ∀ y ∈ w.2.accepted, y < env.clock.now
  | _ => True

/-- A window is opened later than the one before it: in the same second it is not without a pause. -/
theorem doubled_step (hacct : 0 ≤ acct.maxTps) (h : Ticking acct w)
    (hdoubled : (rateWindow w).Doubled (acct.maxTps.toNat + 1)) (ht : InTime w ev)
    (hg : EntriesApart w ev)
    (hs : withHistory (accountStep acct cfg) (noteArrival cfg) w ev = some w') :
    (rateWindow w').Doubled (acct.maxTps.toNat + 1) := by
  cases ev with
  | bind env pdu tc mode =>
    rw [rateWindow_bind hs]
    split
    · rename_i hvacant
      have hlog : ∀ y ∈ (rateWindow w).log, y < env.clock.now := hg hvacant
      exact hdoubled.restart (fun y hy => hlog y (List.mem_of_mem_drop hy)) fun y hy => (hlog y hy).le
    · exact hdoubled
  | submit env srv r session mode pdu =>
    obtain ⟨hclock, hpause⟩ := ht
    have hstart := r.start_le
    have hpaced : (pacedWindow r w).Doubled (acct.maxTps.toNat + 1) := by
      unfold pacedWindow
      split
      · rename_i hlt
        have hopened : (rateWindow w).opened < r.restart := by
          have hle := h.opened
          by_cases hsame : r.start = w.1.esmTime
          · have hslept := hpause ⟨hlt, hsame⟩
            change w.1.esmTime < r.restart
            omega
          · have hne : (rateWindow w).opened ≠ r.start := fun heq => hsame heq.symm
            omega
        refine hdoubled.restart (fun y hy => lt_of_le_of_lt (hdoubled.earlier y hy) hopened) ?_
        intro y hy
        have hold := h.log y hy
        omega
      · exact hdoubled
    obtain ⟨hcount, hle⟩ := pacedWindow_count r (h.maxTps.symm ▸ hacct)
    have hnonneg := pace_msgCount_nonneg r h.msgCount
    rw [h.maxTps] at hle
    rw [rateWindow_submit h.msgCount hs]
    split
    · exact hpaced.accept (h.pacedWindow_opened hclock) (by omega)
    · exact hpaced
  | destroy | updateEsmeConn | status =>
    rw [(rateWindow_quiet (by trivial) hs).1]
    exact hdoubled

end Runs

/-- **What the throughput limit does promise**: along every run in which the entry is not made anew in a
second with accepted submits, at most `2 · max-tps + 2` submits are accepted in any second. -/
theorem doubled_of_inTime {acct : SmscClient} (hacct : 0 ≤ acct.maxTps) (cfg : ServerCfg) (env : AuthEnv)
    (pdu : BindPdu) {es : List AccountEvent} {w : Esme × Arrivals}
    (hr : exec (withHistory (accountStep acct cfg) (noteArrival cfg))
      (newEsme env pdu acct, ⟨env.clock.now, []⟩) es = some w)
    (ht : Along (withHistory (accountStep acct cfg) (noteArrival cfg))
      (fun w ev => InTime w ev ∧ EntriesApart w ev) (newEsme env pdu acct, ⟨env.clock.now, []⟩) es)
    (x : ℤ) : (w.2.accepted.count x : ℤ) ≤ 2 * acct.maxTps + 2 := by
  have hinit : (rateWindow (newEsme env pdu acct, ⟨env.clock.now, []⟩)).Doubled (acct.maxTps.toNat + 1) :=
    ⟨Nat.zero_le _, fun _ hy => absurd hy List.not_mem_nil, fun _ hy => absurd hy List.not_mem_nil,
      Nat.zero_le _, fun _ => Nat.zero_le _⟩
  have hinv : Ticking acct w ∧ (rateWindow w).Doubled (acct.maxTps.toNat + 1) :=
    exec_invariant (@fun _ _ _ (h : Ticking acct _ ∧ (rateWindow _).Doubled (acct.maxTps.toNat + 1)) hg hs =>
      ⟨h.1.step hg.1 hs, doubled_step hacct h.1 h.2 hg.1 hg.2 hs⟩) ⟨ticking_init acct env pdu, hinit⟩ ht hr
  have hle : w.2.accepted.count x ≤ _ := hinv.2.count_log_le x
  omega

/-- **The throughput limit.**  For every account with `max-tps`, every run of its entry — any sessions, any
arrivals — by a clock that does not go back, with pauses of a second at least: if the windows stay apart,
at most `max-tps` submits are accepted with a reading of any one second. -/
theorem accepted_le_maxTps {acct : SmscClient} (hacct : 0 ≤ acct.maxTps) (cfg : ServerCfg) (env : AuthEnv)
    (pdu : BindPdu) {es : List AccountEvent} {w : Esme × Arrivals}
    (hr : exec (withHistory (accountStep acct cfg) (noteArrival cfg))
      (newEsme env pdu acct, ⟨env.clock.now, []⟩) es = some w)
    (ht : Along (withHistory (accountStep acct cfg) (noteArrival cfg)) InTime
      (newEsme env pdu acct, ⟨env.clock.now, []⟩) es)
    (hg : Along (withHistory (accountStep acct cfg) (noteArrival cfg)) (WindowsApart cfg)
      (newEsme env pdu acct, ⟨env.clock.now, []⟩) es)
    (x : ℤ) : (w.2.accepted.count x : ℤ) ≤ acct.maxTps := by
  have hinit : (rateWindow (newEsme env pdu acct, ⟨env.clock.now, []⟩)).Apart acct.maxTps.toNat :=
    ⟨fun _ hy => absurd hy List.not_mem_nil, fun _ hy => absurd hy List.not_mem_nil,
      fun _ => Nat.zero_le _⟩
  have hinv : Ticking acct w ∧ (rateWindow w).Apart acct.maxTps.toNat :=
    exec_invariant (@fun _ _ _ (h : Ticking acct _ ∧ (rateWindow _).Apart acct.maxTps.toNat) hg hs =>
      ⟨h.1.step hg.1 hs, apart_step hacct h.1 h.2 hg.1 hg.2 hs⟩) ⟨ticking_init acct env pdu, hinit⟩
      (ht.and hg) hr
  have hle : w.2.accepted.count x ≤ _ := hinv.2.count_le x
  omega

/-- An account that may submit once a second. -/
def samplePacedClient : SmscClient := { sampleClient with maxTps := 1, validTimeTo := 24 }

/-- A transmitter binds and submits at these times. -/
def sampleArrivals (times : List ℤ) : List AccountEvent :=
  .bind sampleSubmitterEnv samplePdu (tempconnCreate 0 (octstrImm "10.0.0.1") 4000 2775 1) 1 ::
    times.map fun t => .submit sampleSubmitEnv {} (sampleReadings t) 0 1 (sampleSubmitPdu 2 "919876543210")

theorem accepted_le_maxTps_sampleArrivals : ∃ w : Esme × Arrivals,
    exec (withHistory (accountStep samplePacedClient ⟨0, -1⟩) (noteArrival ⟨0, -1⟩))
      (newEsme sampleEnv samplePdu samplePacedClient, ⟨1700000000, []⟩)
      (sampleArrivals [1700000001, 1700000002, 1700000004]) = some w ∧
    w.2.accepted = [1700000004, 1700000002, 1700000001] ∧
    (w.2.accepted.count 1700000002 : ℤ) ≤ 1 := by
  have hsome : (exec (withHistory (accountStep samplePacedClient ⟨0, -1⟩) (noteArrival ⟨0, -1⟩))
      (newEsme sampleEnv samplePdu samplePacedClient, ⟨1700000000, []⟩)
      (sampleArrivals [1700000001, 1700000002, 1700000004])).map (fun w => w.2.accepted) =
      some [1700000004, 1700000002, 1700000001] := by decide +kernel
  obtain ⟨w, hw, haccepted⟩ := Option.map_eq_some_iff.mp hsome
  exact ⟨w, hw, haccepted, accepted_le_maxTps (by decide : 0 ≤ samplePacedClient.maxTps) ⟨0, -1⟩
    sampleEnv samplePdu hw (by decide +kernel) (by decide +kernel) 1700000002⟩

/-- Four submits in one second. -/
theorem not_accepted_le_maxTps : ¬ ∀ (acct : SmscClient) (cfg : ServerCfg) (env : AuthEnv) (pdu : BindPdu)
    (es : List AccountEvent) (w : Esme × Arrivals), 0 ≤ acct.maxTps →
    exec (withHistory (accountStep acct cfg) (noteArrival cfg))
      (newEsme env pdu acct, ⟨env.clock.now, []⟩) es = some w →
    Along (withHistory (accountStep acct cfg) (noteArrival cfg)) InTime
      (newEsme env pdu acct, ⟨env.clock.now, []⟩) es →
    ∀ x : ℤ, (w.2.accepted.count x : ℤ) ≤ acct.maxTps := by
  intro h
  have hsome : (exec (withHistory (accountStep samplePacedClient ⟨0, -1⟩) (noteArrival ⟨0, -1⟩))
      (newEsme sampleEnv samplePdu samplePacedClient, ⟨1700000000, []⟩)
      (sampleArrivals [1700000001, 1700000001, 1700000001, 1700000001])).map (fun w => w.2.accepted) =
      some [1700000001, 1700000001, 1700000001, 1700000001] := by decide +kernel
  obtain ⟨w, hw, haccepted⟩ := Option.map_eq_some_iff.mp hsome
  have hle := h samplePacedClient ⟨0, -1⟩ sampleEnv samplePdu _ w (by decide) hw (by decide +kernel)
    1700000001
  rw [haccepted] at hle
  exact absurd hle (by decide)

end SmppServer.SmppEsme
