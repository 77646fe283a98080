import SmppServer.Esme.ListLock
import SmppServer.Esme.Sessions

/-!
# Esme/StopEsme — stopping the sessions of an account

An account used to have one transmitter and one receiver, which its entry pointed at; now it has a list
of each.  `stop_esme` still writes through the two pointers, which nothing sets any more: it finds the
entry, reaches no session of it, and reports success.

* `status_ne_sendUnbind` — no bind and no destroy tells a session to unbind.
* `stopped_iff` — an account's sessions are stopped as promised exactly if the account is not listed.
-/

namespace SmppServer.SmppEsme

open Machinery

/-- What `stop_esme` leaves behind: its return value, the registry, and the threads woken up. -/
structure StopOutcome where
  ret : ℤ
  registry : Registry
  woken : List ℤ

/-- **`stop_esme`.**  What the fields that nothing sets hold is a parameter; no session is reached through
them. -/
def stopEsme (r : Registry) (esme : Octstr) (threads : ℕ → EsmeThreads) : StopOutcome :=
  match isPresentEsme r (some esme) with
  | none => ⟨-1, r, []⟩
  | some (esmePos, _) => ⟨0, r, (threads esmePos).woken⟩

/-- The account has an entry. -/
def Listed (r : Registry) (esme : Octstr) : Prop := ∃ a e, (a, e) ∈ r.cells ∧ e.systemId = some esme

/-- **The account is stopped**: its sessions are to unbind and their threads are woken up, other accounts
are as before; the return value says whether there was such an account. -/
structure Stopped (r : Registry) (esme : Octstr) (out : StopOutcome) : Prop where
  ret : out.ret = -1 ↔ ¬ Listed r esme
  stopped : out.ret = 0 → ∀ a e, (a, e) ∈ out.registry.cells → e.systemId = some esme →
    ∀ k, ∀ s ∈ e.sessions k, s.status = .sendUnbind ∧ s.threadId ∈ out.woken
  others : out.ret = 0 → ∀ a e, e.systemId ≠ some esme →
    ((a, e) ∈ out.registry.cells ↔ (a, e) ∈ r.cells)

/-! ## The sessions of a registry

The status that tells a session to unbind is written by nothing but `stop_esme`. -/

section Sessions

variable {r r' : Registry} {w w' : World} {ev : AtomicEvent} {a : ℕ} {e e' : Esme} {mode id : ℤ}

/-- No session of the registry has been told to unbind. -/
def NoneStopped (r : Registry) : Prop :=
  ∀ a e, (a, e) ∈ r.cells → ∀ k, ∀ s ∈ e.sessions k, s.status ≠ .sendUnbind

theorem initialTxStatus_ne (env : AuthEnv) (pdu : BindPdu) : initialTxStatus env pdu ≠ .sendUnbind := by
  unfold initialTxStatus
  dsimp only
  split <;> simp

theorem addedSession_status_ne (env : AuthEnv) (pdu : BindPdu) (tc : TempConn) (mode : ℤ) (e : Esme) :
    (addedSession env pdu tc mode e).status ≠ .sendUnbind := by
  change (if mode = 1 ∨ mode = 3 then initialTxStatus env pdu else .binded) ≠ _
  split
  · exact initialTxStatus_ne env pdu
  · simp

/-- What is left of the sessions after one was deleted. -/
theorem sessions_deleteFrom (h : deleteFrom e mode id = .ok e') (k : Kind) :
    e'.sessions k ⊆ e.sessions k := by
  obtain ⟨-, rfl⟩ | ⟨-, rfl | rfl⟩ := deleteFrom_cases h
  · cases k with
    | tx => exact List.map_subset _ List.eraseP_subset
    | rx => exact List.Subset.refl _
  · cases k with
    | tx => exact List.Subset.refl _
    | rx => exact List.map_subset _ List.eraseP_subset
  · exact List.Subset.refl _

theorem NoneStopped.esmeDestroy (hr : NoneStopped r) (h : esmeDestroy r a mode id = .ok r') :
    NoneStopped r' := by
  intro b v hv k s hs
  unfold SmppEsme.esmeDestroy at h
  split at h
  · exact absurd h (by simp)
  rename_i e he
  split at h
  · obtain rfl := Except.ok.inj h
    exact hr b v hv k s hs
  split at h
  · exact absurd h (by simp)
  rename_i e' hdel
  split at h
  · split at h
    · obtain rfl := Except.ok.inj h
      exact hr b v (Arena.mem_free.mp hv).1 k s hs
    · exact absurd h (by simp)
  · obtain rfl := Except.ok.inj h
    obtain ⟨-, hv⟩ | ⟨rfl, -, -, rfl⟩ := Arena.mem_modify.mp hv
    · exact hr b v hv k s hs
    · exact hr b e (Arena.get?_eq_some.mp he) k s (sessions_deleteFrom hdel k hs)

/-- A bind adds a session that has not been told to unbind. -/
theorem NoneStopped.addSession {env : AuthEnv} {pdu : BindPdu} {tc : TempConn} {mode : ℤ} (h1 : 1 ≤ mode)
    (h3 : mode ≤ 3) {e : Esme} (h : ∀ k, ∀ s ∈ e.sessions k, s.status ≠ .sendUnbind) :
    ∀ k, ∀ s ∈ (addSession env pdu tc mode e).sessions k, s.status ≠ .sendUnbind := by
  intro k s hs
  rw [sessions_addSession e h1 h3] at hs
  split at hs
  · obtain hs | hs := List.mem_append.mp hs
    · exact h k s hs
    · rw [List.mem_singleton.mp hs]
      exact addedSession_status_ne env pdu tc mode e
  · exact h k s hs

/-- **No bind and no destroy tells a session to unbind.** -/
theorem NoneStopped.atomicStep (h : NoneStopped w.registry) (hs : atomicStep w ev = some w') :
    NoneStopped w'.registry := by
  cases ev with
  | bind env tc pdu mode =>
    obtain ⟨h1, h3, -, -, rfl | ⟨t, -, rfl⟩ | ⟨a, e, -, rfl⟩⟩ := atomicStep_bind hs
    · exact h
    · intro b v hv
      obtain hv | ⟨-, rfl⟩ := Arena.mem_alloc.mp hv
      · exact h b v hv
      · exact NoneStopped.addSession h1 h3 fun k s hs => by simp at hs
    · intro b v hv
      obtain ⟨-, hv⟩ | ⟨rfl, v₀, hv₀, rfl⟩ := Arena.mem_modify.mp hv
      · exact h b v hv
      · exact NoneStopped.addSession h1 h3 (h b v₀ hv₀)
  | destroy c =>
    obtain ⟨a, m, i, r, -, hd, rfl⟩ := atomicStep_destroy hs
    exact h.esmeDestroy hd

/-- In every state that binds and destroys lead to, no session has been told to unbind. -/
theorem status_ne_sendUnbind {es : List AtomicEvent} (hr : exec atomicStep World.init es = some w) :
    NoneStopped w.registry :=
  exec_invariant_of_step (P := fun w => NoneStopped w.registry) NoneStopped.atomicStep
    (fun _ _ he => absurd he Arena.not_mem_empty) hr

end Sessions

/-! ## Stopping

An entry that is found has its fields for the threads unset, so no thread is woken up and no session is told
anything; the value returned is that of success. -/

section Stop

variable {r : Registry} {esme : Octstr}

/-- The search finds an entry exactly if the account is listed. -/
theorem isPresentEsme_eq_none_iff : isPresentEsme r (some esme) = none ↔ ¬ Listed r esme := by
  constructor
  · rintro h ⟨a, e, he, hname⟩
    exact isPresentEsme_eq_none h he hname
  · intro h
    cases hfound : isPresentEsme r (some esme) with
    | none => rfl
    | some found => exact absurd ⟨_, _, isPresentEsme_eq_some hfound⟩ h

theorem stopEsme_of_not_listed (h : ¬ Listed r esme) (threads : ℕ → EsmeThreads) :
    stopEsme r esme threads = ⟨-1, r, []⟩ := by
  rw [stopEsme, isPresentEsme_eq_none_iff.mpr h]

/-- An account that is listed is found, and nothing is done to it. -/
theorem stopEsme_of_listed (h : Listed r esme) (threads : ℕ → EsmeThreads) :
    (stopEsme r esme threads).ret = 0 ∧ (stopEsme r esme threads).registry = r := by
  cases hfound : isPresentEsme r (some esme) with
  | none => exact absurd h (isPresentEsme_eq_none_iff.mp hfound)
  | some found =>
    rw [stopEsme, hfound]
    exact ⟨rfl, rfl⟩

theorem stopped_of_not_listed (h : ¬ Listed r esme) (threads : ℕ → EsmeThreads) :
    Stopped r esme (stopEsme r esme threads) := by
  rw [stopEsme_of_not_listed h]
  exact ⟨⟨fun _ => h, fun _ => rfl⟩, fun h0 => absurd h0 (by simp), fun h0 => absurd h0 (by simp)⟩

/-- An account with a session that has not been told to unbind is not stopped. -/
theorem not_stopped_of_listed {phase : ℕ → Phase} (hreg : Registered r phase) (hnone : NoneStopped r)
    (h : Listed r esme) (threads : ℕ → EsmeThreads) : ¬ Stopped r esme (stopEsme r esme threads) := by
  intro hstopped
  obtain ⟨a, e, he, hname⟩ := h
  obtain ⟨hret, hsame⟩ := stopEsme_of_listed ⟨a, e, he, hname⟩ threads
  obtain ⟨k, hk⟩ := hreg.occupied he
  obtain ⟨s, hs⟩ := List.exists_mem_of_ne_nil _ hk
  have he' : (a, e) ∈ (stopEsme r esme threads).registry.cells := by
    rw [hsame]
    exact he
  exact hnone a e he k s hs (hstopped.stopped hret a e he' hname k s hs).1

end Stop

/-- **An account is stopped** exactly if it is not listed: after every history of binds and destroys, for
every name, and whatever the fields hold that nothing sets. -/
theorem stopped_iff {es : List AtomicEvent} {w : World} (hr : exec atomicStep World.init es = some w)
    (esme : Octstr) (threads : ℕ → EsmeThreads) :
    Stopped w.registry esme (stopEsme w.registry esme threads) ↔ ¬ Listed w.registry esme := by
  have hreg : Registered w.registry w.phase :=
    exec_invariant_of_step (P := fun w => Registered w.registry w.phase)
      registered_atomicStep registered_init hr
  exact ⟨fun h hlisted => not_stopped_of_listed hreg (status_ne_sendUnbind hr) hlisted threads h,
    fun h => stopped_of_not_listed h threads⟩

/-- The fields hold zeros. -/
def sampleThreads : ℕ → EsmeThreads := fun _ => ⟨false, 0, false, 0⟩

theorem stopped_sampleHistory : ∃ w, exec atomicStep World.init sampleHistory = some w ∧
    Stopped w.registry (octstrImm "ghost") (stopEsme w.registry (octstrImm "ghost") sampleThreads) := by
  have hsome : ((exec atomicStep World.init sampleHistory).map fun w =>
      w.registry.cells.map fun c => c.2.systemId) = some [some (octstrImm "acme")] := by decide
  obtain ⟨w, hw, hnames⟩ := Option.map_eq_some_iff.mp hsome
  refine ⟨w, hw, (stopped_iff hw (octstrImm "ghost") sampleThreads).mpr ?_⟩
  rintro ⟨a, e, he, hname⟩
  have hmem : e.systemId ∈ w.registry.cells.map fun c => c.2.systemId := List.mem_map_of_mem he
  rw [hnames, List.mem_singleton, hname] at hmem
  exact absurd hmem (by decide)

/-- The transmitter that is left of the history is not told to unbind. -/
theorem not_stopped : ¬ ∀ (es : List AtomicEvent) (w : World) (esme : Octstr)
    (threads : ℕ → EsmeThreads), exec atomicStep World.init es = some w →
      Stopped w.registry esme (stopEsme w.registry esme threads) := by
  intro h
  have hsome : ((exec atomicStep World.init sampleHistory).map fun w =>
      w.registry.cells.map fun c => c.2.systemId) = some [some (octstrImm "acme")] := by decide
  obtain ⟨w, hw, hnames⟩ := Option.map_eq_some_iff.mp hsome
  have hmem : some (octstrImm "acme") ∈ w.registry.cells.map fun c => c.2.systemId := by
    rw [hnames]
    exact List.mem_singleton_self _
  obtain ⟨⟨a, e⟩, he, hname⟩ := List.mem_map.mp hmem
  have hreg : Registered w.registry w.phase :=
    exec_invariant_of_step (P := fun w => Registered w.registry w.phase)
      registered_atomicStep registered_init hw
  exact not_stopped_of_listed hreg (status_ne_sendUnbind hw) ⟨a, e, he, hname⟩ sampleThreads
    (h sampleHistory w (octstrImm "acme") sampleThreads hw)

end SmppServer.SmppEsme
