import SmppServer.Esme.Sessions

/-!
# Esme/Concurrent — binds whose check and commit are separate steps

`authorise_user` looks the account up and compares its sessions with the limits in one section, and
creates the entry or appends the session in another; between the two, other connections bind and
destroy.  Here the two sections are separate steps, and `stale` records that a commit wrote to an
entry that was no longer in `esme_list`.

A commit is **valid** (`CommitValid`) when the check it rests on would still pass in the state it
starts from, and with the same entry.  Nothing in the code ensures this; it is exactly what the
session limits need:

* `splitInv_step` — steps whose commits are valid keep the registry, the limits and the pointers.
* `not_sessionLimitsOk_of_not_commitValid` — an invalid commit breaks one of them.
* `sessionLimits_iff_commitValid` — so a run has them throughout exactly when all its commits are
  valid.
-/

namespace SmppServer.SmppEsme

open Machinery Function

/-- The registry, the session threads, and whether a commit used an entry that had been freed. -/
structure SplitWorld extends World where
  stale : Bool

/-- The state at start-up. -/
def SplitWorld.init : SplitWorld := ⟨World.init, false⟩

/-- The two sections of `authorise_user`, and `esme_destroy`. -/
inductive SplitEvent
  | check (env : AuthEnv) (tc : TempConn) (pdu : BindPdu) (mode : ℤ)
  | commit (env : AuthEnv) (tc : TempConn)
  | destroy (conn : ℕ)

/-- One section; the accounts of the configuration are the same in all of them. -/
def splitStep (accounts : List SmscClient) (w : SplitWorld) : SplitEvent → Option SplitWorld
  | .check env tc pdu mode =>
    if (mode = 1 ∨ mode = 2 ∨ mode = 3) ∧ w.phase tc.conn = .idle then
      match authoriseCheck { env with translations := accounts } w.registry pdu mode with
      | .error _ => none
      | .ok (.refused _) => some { w with phase := update w.phase tc.conn .closed }
      | .ok (.accepted t esmePresent) =>
        some { w with phase := update w.phase tc.conn (.checked pdu mode t esmePresent) }
    else none
  | .commit env tc =>
    match w.phase tc.conn with
    | .checked pdu mode t esmePresent =>
      match authoriseCommit { env with translations := accounts } w.registry pdu mode tc t
          esmePresent with
      | .error _ => some { w with phase := update w.phase tc.conn .closed, stale := true }
      | .ok (r, tc', esme) =>
        some { w with
          registry := r
          phase := update w.phase tc.conn (.bound esme mode tc'.sessionId) }
    | _ => none
  | .destroy conn =>
    match w.phase conn with
    | .bound esme mode sessionId =>
      match esmeDestroy w.registry esme (Kind.ofMode mode).threadType sessionId with
      | .error _ => none
      | .ok r => some { w with registry := r, phase := update w.phase conn .closed }
    | _ => none

/-! ## Limits

The limits of an account speak of a list of an entry, and the guard of a commit of the entry that its check
found. -/

/-- The configured limit of a kind of session. -/
def SmscClient.maxSessions (t : SmscClient) : Kind → ℤ
  | .tx => t.maxTxSessions
  | .rx => t.maxRxSessions

/-- The sessions of an entry are within the limits of its account, where these are set. -/
def WithinLimits (accounts : List SmscClient) (e : Esme) : Prop :=
  ∀ name t k, e.systemId = some name →
    accounts.find? (fun t => name = t.accountName) = some t →
    0 ≤ t.maxSessions k → ((e.sessions k).length : ℤ) ≤ t.maxSessions k

/-- The limit check, read at the list of the bind's kind. -/
theorem sessionLimitHit_eq {mode : ℤ} {t : SmscClient} (h1 : 1 ≤ mode) (h3 : mode ≤ 3) :
    (sessionLimitHit mode t none = true ↔ t.maxSessions (.ofMode mode) = 0) ∧
      ∀ a e, sessionLimitHit mode t (some (a, e)) = true ↔
        ((e.sessions (.ofMode mode)).length : ℤ) = t.maxSessions (.ofMode mode) := by
  by_cases h : mode = 1 ∨ mode = 3
  · rw [Kind.ofMode_eq_tx h]
    simp [sessionLimitHit, h, limitHit, SmscClient.maxSessions, Esme.sessions]
  · obtain rfl : mode = 2 := by omega
    rw [Kind.ofMode_eq_rx rfl]
    simp [sessionLimitHit, limitHit, SmscClient.maxSessions, Esme.sessions]

/-- What a check that was accepted keeps hold of: its account, and the entry it found, which is
either freed or still the entry of that name. -/
structure CheckedOk (accounts : List SmscClient) (r : Registry) (pdu : BindPdu) (mode : ℤ)
    (t : SmscClient) (present : Option ℕ) : Prop where
  mode_ge : 1 ≤ mode
  mode_le : mode ≤ 3
  account : ∃ name, pdu.systemId = some name ∧
    accounts.find? (fun t => name = t.accountName) = some t
  lt_next : ∀ a, present = some a → a < r.next
  name_eq : ∀ a e, present = some a → (a, e) ∈ r.cells → e.systemId = pdu.systemId

/-- **The invariant** of runs whose commits are valid. -/
structure SplitInv (accounts : List SmscClient) (w : SplitWorld) : Prop where
  registered : Registered w.registry w.phase
  notStale : w.stale = false
  checkedOk : ∀ {c pdu mode t present}, w.phase c = .checked pdu mode t present →
    CheckedOk accounts w.registry pdu mode t present
  limits : ∀ {a e}, (a, e) ∈ w.registry.cells → WithinLimits accounts e

theorem splitInv_init (accounts : List SmscClient) : SplitInv accounts .init where
  registered := registered_init
  notStale := rfl
  checkedOk h := absurd h (by simp [SplitWorld.init, World.init])
  limits h := absurd h Arena.not_mem_empty

/-- The check a connection has passed would still pass, and with the same entry. -/
def CheckHolds (r : Registry) : Phase → Prop
  | .checked pdu mode t present =>
    present = (isPresentEsme r pdu.systemId).map Prod.fst ∧
      sessionLimitHit mode t (isPresentEsme r pdu.systemId) = false
  | _ => True

instance (r : Registry) : ∀ p, Decidable (CheckHolds r p)
  | .idle => .isTrue trivial
  | .checked _ _ _ _ => inferInstanceAs (Decidable (_ ∧ _))
  | .bound _ _ _ => .isTrue trivial
  | .closed => .isTrue trivial

/-- The check behind a commit still holds in the state the commit starts from. -/
def CommitValid (w : SplitWorld) : SplitEvent → Prop
  | .commit _ tc => CheckHolds w.registry (w.phase tc.conn)
  | _ => True

instance (w : SplitWorld) : ∀ ev, Decidable (CommitValid w ev)
  | .check _ _ _ _ => .isTrue trivial
  | .commit _ tc => inferInstanceAs (Decidable (CheckHolds w.registry (w.phase tc.conn)))
  | .destroy _ => .isTrue trivial

/-- **The session limits**: one entry per account name, no commit through a freed entry, and the
sessions of every account within its limits. -/
def SessionLimitsOk (accounts : List SmscClient) (w : SplitWorld) : Prop :=
  (w.registry.vals.map (·.systemId)).Nodup ∧ w.stale = false ∧
    ∀ e ∈ w.registry.vals, ∀ name t, e.systemId = some name →
      accounts.find? (fun t => name = t.accountName) = some t →
      (0 ≤ t.maxTxSessions → (e.txEsme.length : ℤ) ≤ t.maxTxSessions) ∧
        (0 ≤ t.maxRxSessions → (e.rxEsme.length : ℤ) ≤ t.maxRxSessions)

/-! ## Valid commits keep the invariant

Names and addresses that were there stay, whatever other connections do: `NamesKept`.  With a check that still
holds, a commit is the atomic bind of `Esme/Sessions`. -/

section Valid

variable {accounts : List SmscClient} {r r' : Registry} {pdu : BindPdu} {mode : ℤ}
  {t : SmscClient} {present : Option ℕ}

/-- A change of the registry that gives no old address to an entry of another name. -/
def NamesKept (r r' : Registry) : Prop :=
  r.next ≤ r'.next ∧
    ∀ b e', (b, e') ∈ r'.cells → b < r.next → ∃ e, (b, e) ∈ r.cells ∧ e.systemId = e'.systemId

theorem CheckedOk.mono (h : CheckedOk accounts r pdu mode t present) (hk : NamesKept r r') :
    CheckedOk accounts r' pdu mode t present where
  mode_ge := h.mode_ge
  mode_le := h.mode_le
  account := h.account
  lt_next a ha := lt_of_lt_of_le (h.lt_next a ha) hk.1
  name_eq a e' ha he' := by
    obtain ⟨e, he, hname⟩ := hk.2 a e' he' (h.lt_next a ha)
    rw [← hname]
    exact h.name_eq a e ha he

theorem namesKept_alloc (e : Esme) : NamesKept r (r.alloc e) := by
  refine ⟨Nat.le_succ _, fun b e' hb hlt => ?_⟩
  rcases Arena.mem_alloc.mp hb with hb | ⟨rfl, -⟩
  · exact ⟨e', hb, rfl⟩
  · exact absurd hlt (lt_irrefl _)

theorem namesKept_modify {a : ℕ} {f : Esme → Esme} (hf : ∀ e, (f e).systemId = e.systemId) :
    NamesKept r (r.modify a f) := by
  refine ⟨le_rfl, fun b e' hb _ => ?_⟩
  rcases Arena.mem_modify.mp hb with ⟨-, hb⟩ | ⟨rfl, v, hv, rfl⟩
  · exact ⟨e', hb, rfl⟩
  · exact ⟨v, hv, (hf v).symm⟩

theorem Destroyed.mem {a b : ℕ} {e e' : Esme} {k : Kind} {i : ℤ} (h : Destroyed r r' a e k i)
    (hb : (b, e') ∈ r'.cells) :
    (b, e') ∈ r.cells ∨ b = a ∧ e' = e.without i k := by
  rw [h] at hb
  split at hb
  · exact .inl (List.mem_of_mem_filter hb)
  · obtain ⟨c, hc, hcb⟩ := List.mem_map.mp hb
    split at hcb
    · exact .inr ⟨(Prod.mk.inj hcb).1.symm, (Prod.mk.inj hcb).2.symm⟩
    · exact .inl (hcb ▸ hc)

theorem WithinLimits.without {e : Esme} (h : WithinLimits accounts e) (i : ℤ) (k : Kind) :
    WithinLimits accounts (e.without i k) := by
  intro name t j hn ht hj
  rw [Esme.without_systemId] at hn
  refine le_trans ?_ (h name t j hn ht hj)
  rw [Esme.sessions_without]
  split
  · next hjk =>
    subst hjk
    exact_mod_cast List.length_filter_le _ _
  · exact le_rfl

/-- One more session of a kind whose limit is not reached stays within the limits. -/
theorem withinLimits_addSession {env : AuthEnv} {tc : TempConn} {e : Esme} {name : Octstr}
    (h1 : 1 ≤ mode) (h3 : mode ≤ 3) (hn : e.systemId = some name)
    (ht : accounts.find? (fun t => name = t.accountName) = some t)
    (h : WithinLimits accounts e)
    (hlim : ((e.sessions (.ofMode mode)).length : ℤ) ≠ t.maxSessions (.ofMode mode)) :
    WithinLimits accounts (addSession env pdu tc mode e) := by
  intro name' t' k hn' ht' hk
  rw [addSession_systemId, hn, Option.some.injEq] at hn'
  subst hn'
  rw [ht, Option.some.injEq] at ht'
  subst ht'
  have hold := h name t k hn ht hk
  rw [sessions_addSession e h1 h3]
  split
  · next hkm =>
    subst hkm
    rw [List.length_append, List.length_singleton]
    push_cast
    omega
  · exact hold

end Valid

/-- Phases other than the one that moved are as before. -/
theorem update_eq_checked {phase : ℕ → Phase} {c c' : ℕ} {p : Phase} {pdu : BindPdu} {mode : ℤ}
    {t : SmscClient} {present : Option ℕ} (hp : ∀ pdu m t pr, p ≠ .checked pdu m t pr)
    (h : update phase c p c' = .checked pdu mode t present) :
    phase c' = .checked pdu mode t present := by
  by_cases hcc : c' = c
  · rw [hcc, update_self] at h
    exact absurd h (hp pdu mode t present)
  · rwa [update_of_ne hcc] at h

section Step

variable {accounts : List SmscClient} {w w' : SplitWorld} {env : AuthEnv} {tc : TempConn}
  {pdu : BindPdu} {mode : ℤ} {t : SmscClient} {present : Option ℕ}

/-- A check leaves the registry alone, and what it found is remembered correctly. -/
theorem SplitInv.check (h : SplitInv accounts w)
    (hs : splitStep accounts w (.check env tc pdu mode) = some w') : SplitInv accounts w' := by
  simp only [splitStep] at hs
  split at hs
  case isFalse => exact absurd hs (by simp)
  next hg =>
  have hc : ∀ b m i, w.phase tc.conn ≠ .bound b m i := by simp [hg.2]
  split at hs
  · exact absurd hs (by simp)
  · obtain rfl := Option.some.inj hs
    exact ⟨h.registered.update hc (by simp), h.notStale,
      fun hp => h.checkedOk (update_eq_checked (by simp) hp), h.limits⟩
  · next t' present' hchk =>
    obtain rfl := Option.some.inj hs
    refine ⟨h.registered.update hc (by simp), h.notStale, fun {c _ _ _ _} hp => ?_, h.limits⟩
    dsimp only at hp
    by_cases hcc : c = tc.conn
    · rw [hcc, update_self, Phase.checked.injEq] at hp
      obtain ⟨rfl, rfl, rfl, rfl⟩ := hp
      obtain ⟨⟨h1, -⟩, hacc, -, -, rfl⟩ := authoriseCheck_accepted hchk
      refine ⟨h1, by omega, hacc, fun a ha => ?_, fun a e ha he => ?_⟩
      · obtain ⟨⟨a', e⟩, hf, rfl⟩ := Option.map_eq_some_iff.mp ha
        exact w.registry.lt_next _ (isPresentEsme_eq_some hf).1
      · obtain ⟨⟨a', e'⟩, hf, rfl⟩ := Option.map_eq_some_iff.mp ha
        rw [Arena.val_unique he (isPresentEsme_eq_some hf).1]
        exact (isPresentEsme_eq_some hf).2
    · rw [update_of_ne hcc] at hp
      exact h.checkedOk hp

/-- A destroy frees or shrinks an entry and touches no other. -/
theorem SplitInv.destroy {c : ℕ} (h : SplitInv accounts w)
    (hs : splitStep accounts w (.destroy c) = some w') : SplitInv accounts w' := by
  simp only [splitStep] at hs
  split at hs
  case h_2 => exact absurd hs (by simp)
  next a m i hb =>
  obtain ⟨e, he, -⟩ := h.registered.hasSession hb
  obtain ⟨r', hd, hspec, hreg⟩ := h.registered.destroy hb he
  rw [hd] at hs
  obtain rfl := Option.some.inj hs
  have hkept : NamesKept w.registry r' := by
    refine ⟨(esmeDestroy_next hd).ge, fun b e' hb' _ => ?_⟩
    rcases hspec.mem hb' with hb' | ⟨rfl, rfl⟩
    · exact ⟨e', hb', rfl⟩
    · exact ⟨e, he, (Esme.without_systemId e i _).symm⟩
  refine ⟨hreg, h.notStale, fun hp => (h.checkedOk (update_eq_checked (by simp) hp)).mono hkept,
    fun {b e'} hb' => ?_⟩
  rcases hspec.mem hb' with hb' | ⟨-, rfl⟩
  · exact h.limits hb'
  · exact (h.limits he).without i _

/-- A commit that creates the entry, after a check that would still pass. -/
theorem SplitInv.commit_none (h : SplitInv accounts w)
    (hp : w.phase tc.conn = .checked pdu mode t none)
    (hnone : isPresentEsme w.registry pdu.systemId = none)
    (hlim : sessionLimitHit mode t none = false) :
    SplitInv accounts
      { w with
        registry := w.registry.alloc (addSession env pdu tc mode (newEsme env pdu t))
        phase := update w.phase tc.conn
          (.bound w.registry.next mode (nextSessionId (newEsme env pdu t) mode)) } := by
  have hok := h.checkedOk hp
  obtain ⟨name, hn, ht⟩ := hok.account
  refine ⟨h.registered.commit_alloc (by simp [hn]) hnone hok.mode_ge hok.mode_le (by simp [hp]),
    h.notStale,
    fun hp' => (h.checkedOk (update_eq_checked (by simp) hp')).mono (namesKept_alloc _),
    fun {a e} he => ?_⟩
  rcases Arena.mem_alloc.mp he with he | ⟨-, rfl⟩
  · exact h.limits he
  · have hne : t.maxSessions (.ofMode mode) ≠ 0 := fun h0 => by
      rw [(sessionLimitHit_eq hok.mode_ge hok.mode_le).1.mpr h0] at hlim
      exact absurd hlim (by simp)
    refine withinLimits_addSession hok.mode_ge hok.mode_le hn ht (fun _ t' k _ _ hk => ?_) ?_
    · rw [newEsme_sessions]
      exact hk
    · rw [newEsme_sessions]
      exact hne.symm

/-- A commit that adds to the entry it found, after a check that would still pass. -/
theorem SplitInv.commit_some {a : ℕ} {e : Esme} (h : SplitInv accounts w)
    (hp : w.phase tc.conn = .checked pdu mode t (some a))
    (hsome : isPresentEsme w.registry pdu.systemId = some (a, e))
    (hlim : sessionLimitHit mode t (some (a, e)) = false) :
    SplitInv accounts
      { w with
        registry := w.registry.modify a (addSession env pdu tc mode)
        phase := update w.phase tc.conn (.bound a mode (nextSessionId e mode)) } := by
  have hok := h.checkedOk hp
  obtain ⟨name, hn, ht⟩ := hok.account
  obtain ⟨he, hname⟩ := isPresentEsme_eq_some hsome
  refine ⟨h.registered.commit_modify he hok.mode_ge hok.mode_le (by simp [hp]), h.notStale,
    fun hp' => (h.checkedOk (update_eq_checked (by simp) hp')).mono
      (namesKept_modify addSession_systemId),
    fun {b e'} hb => ?_⟩
  rcases Arena.mem_modify.mp hb with ⟨-, hb⟩ | ⟨rfl, v, hv, rfl⟩
  · exact h.limits hb
  · obtain rfl := Arena.val_unique hv he
    refine withinLimits_addSession hok.mode_ge hok.mode_le (hname.trans hn) ht (h.limits he) ?_
    intro heq
    rw [((sessionLimitHit_eq hok.mode_ge hok.mode_le).2 b v).mpr heq] at hlim
    exact absurd hlim (by simp)

/-- **A step whose commit is valid keeps the invariant.** -/
theorem splitInv_step {ev : SplitEvent} (h : SplitInv accounts w) (hv : CommitValid w ev)
    (hs : splitStep accounts w ev = some w') : SplitInv accounts w' := by
  cases ev with
  | check env tc pdu mode => exact h.check hs
  | destroy c => exact h.destroy hs
  | commit env tc =>
    simp only [splitStep] at hs
    split at hs
    case h_2 => exact absurd hs (by simp)
    next pdu mode t present hp =>
    simp only [CommitValid, CheckHolds, hp] at hv
    obtain ⟨rfl, hlim⟩ := hv
    have hok := h.checkedOk hp
    cases hf : isPresentEsme w.registry pdu.systemId with
    | none =>
      simp only [hf, Option.map_none, authoriseCommit] at hs
      obtain rfl := Option.some.inj hs
      rw [hf] at hp hlim
      simp only [noteSession_sessionId _ hok.mode_ge hok.mode_le]
      exact h.commit_none hp hf hlim
    | some c =>
      obtain ⟨a, e⟩ := c
      have hget := Arena.get?_eq_some.mpr (isPresentEsme_eq_some hf).1
      simp only [hf, Option.map_some, authoriseCommit, hget] at hs
      obtain rfl := Option.some.inj hs
      rw [hf] at hp hlim
      simp only [noteSession_sessionId _ hok.mode_ge hok.mode_le]
      exact h.commit_some hp hf hlim

/-! ## Invalid commits break it

A check that no longer holds has lost its entry, has got a second one, or has found its limit reached since.
The commit does not look, and in each of these cases something that the limits promise is broken in the next
state. -/

theorem SplitInv.sessionLimitsOk (h : SplitInv accounts w) : SessionLimitsOk accounts w := by
  refine ⟨h.registered.names_nodup, h.notStale, fun e he name t hn ht => ?_⟩
  obtain ⟨c, hc, rfl⟩ := List.mem_map.mp he
  have htx := h.limits hc name t .tx hn ht
  have hrx := h.limits hc name t .rx hn ht
  simp only [Esme.sessions, List.length_map] at htx hrx
  exact ⟨htx, hrx⟩

/-- The limits read at the lists of sessions. -/
theorem SessionLimitsOk.withinLimits {a : ℕ} {e : Esme} (h : SessionLimitsOk accounts w)
    (he : (a, e) ∈ w.registry.cells) : WithinLimits accounts e := by
  intro name t k hn ht hk
  obtain ⟨htx, hrx⟩ := h.2.2 e (List.mem_map_of_mem he) name t hn ht
  cases k with
  | tx => simpa [Esme.sessions, SmscClient.maxSessions] using htx hk
  | rx => simpa [Esme.sessions, SmscClient.maxSessions] using hrx hk

/-- Two entries of one name are one entry. -/
theorem SessionLimitsOk.eq_of_name {a b : ℕ} {e e' : Esme} (h : SessionLimitsOk accounts w)
    (he : (a, e) ∈ w.registry.cells) (he' : (b, e') ∈ w.registry.cells)
    (hname : e.systemId = e'.systemId) : a = b := by
  have hnd := h.1
  rw [Arena.vals, List.map_map] at hnd
  exact congrArg Prod.fst (List.inj_on_of_nodup_map hnd he he' hname)

/-- The look-up finds the entry of a name wherever it is in the list. -/
theorem Registered.isPresentEsme_eq {r : Registry} {phase : ℕ → Phase} {a : ℕ} {e : Esme}
    (h : Registered r phase) (he : (a, e) ∈ r.cells) :
    isPresentEsme r e.systemId = some (a, e) :=
  Arena.find?_eq_of_unique he (by simp) fun b e' hb hn => h.onlyOfName he b e' hb (by simpa using hn)

/-- Appending to a list that has reached its limit exceeds it. -/
theorem not_withinLimits_addSession {e : Esme} {name : Octstr} (h1 : 1 ≤ mode) (h3 : mode ≤ 3)
    (hn : e.systemId = some name)
    (ht : accounts.find? (fun t => name = t.accountName) = some t)
    (hlim : ((e.sessions (.ofMode mode)).length : ℤ) = t.maxSessions (.ofMode mode)) :
    ¬ WithinLimits accounts (addSession env pdu tc mode e) := by
  intro h
  have := h name t (.ofMode mode) (by rw [addSession_systemId, hn]) ht (by omega)
  rw [sessions_addSession e h1 h3, if_pos rfl, List.length_append, List.length_singleton] at this
  push_cast at this
  omega

/-- An invalid commit that creates an entry gives the account a second one, or exceeds its limit. -/
theorem not_sessionLimitsOk_commit_none {phase : ℕ → Phase}
    (hok : CheckedOk accounts w.registry pdu mode t none)
    (hv : ¬ CheckHolds w.registry (.checked pdu mode t none)) :
    ¬ SessionLimitsOk accounts
      { w with
        registry := w.registry.alloc (addSession env pdu tc mode (newEsme env pdu t))
        phase := phase } := by
  intro hlim
  obtain ⟨name, hn, ht⟩ := hok.account
  have hnew := Arena.mem_alloc (A := w.registry)
    (v := addSession env pdu tc mode (newEsme env pdu t)) |>.mpr (.inr ⟨rfl, rfl⟩)
  cases hf : isPresentEsme w.registry pdu.systemId with
  | none =>
    have hhit : sessionLimitHit mode t none = true := by simpa [CheckHolds, hf] using hv
    refine not_withinLimits_addSession hok.mode_ge hok.mode_le hn ht ?_ (hlim.withinLimits hnew)
    rw [newEsme_sessions]
    exact ((sessionLimitHit_eq hok.mode_ge hok.mode_le).1.mp hhit).symm
  | some c =>
    obtain ⟨b, e⟩ := c
    obtain ⟨he, hname⟩ := isPresentEsme_eq_some hf
    have hb := hlim.eq_of_name (Arena.mem_alloc.mpr (.inl he)) hnew
      (by rw [addSession_systemId, hname, newEsme_systemId])
    exact absurd (w.registry.lt_next _ he) (hb ▸ lt_irrefl _)

/-- An invalid commit to an entry that is still there exceeds the limit of its account. -/
theorem not_sessionLimitsOk_commit_some {a : ℕ} {e : Esme} {phase : ℕ → Phase}
    (h : Registered w.registry w.phase) (hok : CheckedOk accounts w.registry pdu mode t (some a))
    (he : (a, e) ∈ w.registry.cells)
    (hv : ¬ CheckHolds w.registry (.checked pdu mode t (some a))) :
    ¬ SessionLimitsOk accounts
      { w with
        registry := w.registry.modify a (addSession env pdu tc mode)
        phase := phase } := by
  intro hlim
  obtain ⟨name, hn, ht⟩ := hok.account
  have hname := hok.name_eq a e rfl he
  have hf := h.isPresentEsme_eq he
  rw [hname] at hf
  have hhit : sessionLimitHit mode t (some (a, e)) = true := by simpa [CheckHolds, hf] using hv
  exact not_withinLimits_addSession hok.mode_ge hok.mode_le (hname.trans hn) ht
    (((sessionLimitHit_eq hok.mode_ge hok.mode_le).2 a e).mp hhit)
    (hlim.withinLimits (Arena.mem_modify.mpr (.inr ⟨rfl, e, he, rfl⟩)))

/-- **An invalid commit breaks the session limits**: the account gets a second entry, the commit
goes through a freed one, or a limit is exceeded. -/
theorem not_sessionLimitsOk_of_not_commitValid {ev : SplitEvent} (h : SplitInv accounts w)
    (hv : ¬ CommitValid w ev) (hs : splitStep accounts w ev = some w') :
    ¬ SessionLimitsOk accounts w' := by
  cases ev with
  | check env tc pdu mode => exact absurd trivial hv
  | destroy c => exact absurd trivial hv
  | commit env tc =>
    simp only [splitStep] at hs
    split at hs
    case h_2 => exact absurd hs (by simp)
    next pdu mode t present hp =>
    have hok := h.checkedOk hp
    rw [CommitValid, hp] at hv
    cases present with
    | none =>
      obtain rfl := Option.some.inj hs
      exact not_sessionLimitsOk_commit_none hok hv
    | some a =>
      cases hget : w.registry.get? a with
      | none =>
        simp only [authoriseCommit, hget] at hs
        obtain rfl := Option.some.inj hs
        exact fun hlim => absurd hlim.2.1 (by simp)
      | some e =>
        simp only [authoriseCommit, hget] at hs
        obtain rfl := Option.some.inj hs
        exact not_sessionLimitsOk_commit_some h.registered hok (Arena.get?_eq_some.mp hget) hv

end Step

/-- **Session limits under concurrent binds.**  Along any run of checks, commits and destroys, the
session limits hold in every state exactly when every commit rests on a check that would still pass,
with the same entry, in the state the commit starts from. -/
theorem sessionLimits_iff_commitValid {accounts : List SmscClient} {es : List SplitEvent}
    {w : SplitWorld} (hr : exec (splitStep accounts) SplitWorld.init es = some w) :
    Always (splitStep accounts) (SessionLimitsOk accounts) SplitWorld.init es ↔
      Along (splitStep accounts) CommitValid SplitWorld.init es :=
  always_iff_along SplitInv.sessionLimitsOk splitInv_step not_sessionLimitsOk_of_not_commitValid
    (splitInv_init accounts) hr

/-- Two transmitters bind one after the other. -/
def sampleSequential : List SplitEvent :=
  [.check sampleEnv (tempconnCreate 0 (octstrImm "10.0.0.1") 4000 2775 1) samplePdu 1,
    .commit sampleEnv (tempconnCreate 0 (octstrImm "10.0.0.1") 4000 2775 1),
    .check sampleEnv (tempconnCreate 1 (octstrImm "10.0.0.2") 4000 2775 1) samplePdu 1,
    .commit sampleEnv (tempconnCreate 1 (octstrImm "10.0.0.2") 4000 2775 1)]

theorem sessionLimits_sampleSequential :
    (exec (splitStep [sampleClient]) SplitWorld.init sampleSequential).isSome ∧
      Always (splitStep [sampleClient]) (SessionLimitsOk [sampleClient]) SplitWorld.init
        sampleSequential := by
  have hsome : (exec (splitStep [sampleClient]) SplitWorld.init sampleSequential).isSome := by
    decide
  obtain ⟨w, hw⟩ := Option.isSome_iff_exists.mp hsome
  exact ⟨hsome, (sessionLimits_iff_commitValid hw).mpr (by decide)⟩

/-- The same two binds, both checked before either commits. -/
def sampleRace : List SplitEvent :=
  [.check sampleEnv (tempconnCreate 0 (octstrImm "10.0.0.1") 4000 2775 1) samplePdu 1,
    .check sampleEnv (tempconnCreate 1 (octstrImm "10.0.0.2") 4000 2775 1) samplePdu 1,
    .commit sampleEnv (tempconnCreate 0 (octstrImm "10.0.0.1") 4000 2775 1),
    .commit sampleEnv (tempconnCreate 1 (octstrImm "10.0.0.2") 4000 2775 1)]

/-- Both find the account absent, and it ends up with two entries. -/
theorem sessionLimits_sampleRace :
    ¬ ∀ (accounts : List SmscClient) (es : List SplitEvent) (w : SplitWorld),
      exec (splitStep accounts) SplitWorld.init es = some w → SessionLimitsOk accounts w := by
  intro hall
  have hnames : ((exec (splitStep [sampleClient]) SplitWorld.init sampleRace).map
      fun w => w.registry.vals.map (·.systemId)) =
        some [some (octstrImm "acme"), some (octstrImm "acme")] := by decide
  obtain ⟨w, hw, hw'⟩ := Option.map_eq_some_iff.mp hnames
  have hok := hall [sampleClient] sampleRace w hw
  have hnd := hok.1
  rw [hw'] at hnd
  exact absurd hnd (by decide)

end SmppServer.SmppEsme
