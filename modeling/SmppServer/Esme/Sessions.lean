import SmppServer.Esme.Authorise
import SmppServer.Machinery.Exec

/-!
# Esme/Sessions — the registry over whole histories of binds and destroys

Each connection is a thread that binds once and, if the bind succeeded, later destroys the session
it bound.  `phase` records how far every connection got; for a bound one it holds what the thread
keeps: the pointer to the account's entry, the mode and the session id.

The invariant `Registered` ties the registry to the phases: sessions and bound connections are in
one-to-one correspondence, account names and session ids are distinct, and no entry is empty.  It is
kept by a commit (`Registered.commit_alloc`, `Registered.commit_modify`) and by a destroy
(`Registered.destroy`), so it holds after any history of atomic binds and destroys.

* `sessions_registered` — what the registry looks like, and what looking up and destroying a bound
  session does, in every reachable state.
-/

namespace SmppServer.SmppEsme

open Machinery Function

/-- How far a connection got. -/
inductive Phase
  | idle
  | checked (pdu : BindPdu) (mode : ℤ) (t : SmscClient) (esmePresent : Option ℕ)
  | bound (esme : ℕ) (mode sessionId : ℤ)
  | closed
  deriving DecidableEq

/-- The registry and the session threads, one per connection. -/
structure World where
  registry : Registry
  phase : ℕ → Phase

/-- The state at start-up: an empty list, and no connection has bound. -/
def World.init : World := ⟨Arena.empty, fun _ => .idle⟩

/-! ## The invariant

Of each entry, that it is sound by itself; of the registry, that its entries have different names; of the
phases, that every bound connection has its session where its pointer says. -/

/-- An entry is sound: it has a name, the ids of each kind are positive and distinct, and each of
its sessions belongs to a bound connection. -/
structure EntryOk (phase : ℕ → Phase) (a : ℕ) (e : Esme) : Prop where
  named : e.systemId.isSome
  nodup : ∀ k, (e.ids k).Nodup
  pos : ∀ k, ∀ i ∈ e.ids k, 1 ≤ i
  bound : ∀ k, ∀ s ∈ e.sessions k, ∃ m, Kind.ofMode m = k ∧ phase s.conn = .bound a m s.sessionId

/-- Connection `c` has its session in the entry at `a`. -/
def HasSession (r : Registry) (c a : ℕ) (mode id : ℤ) : Prop :=
  ∃ e, (a, e) ∈ r.cells ∧ ∃ s ∈ e.sessions (.ofMode mode), s.sessionId = id ∧ s.conn = c

/-- **The registry invariant.** -/
structure Registered (r : Registry) (phase : ℕ → Phase) : Prop where
  onlyOfName : ∀ {a e}, (a, e) ∈ r.cells → OnlyOfName r a e
  entryOk : ∀ {a e}, (a, e) ∈ r.cells → EntryOk phase a e
  occupied : ∀ {a e}, (a, e) ∈ r.cells → ∃ k, e.sessions k ≠ []
  hasMode : ∀ {c a m i}, phase c = .bound a m i → 1 ≤ m ∧ m ≤ 3
  hasSession : ∀ {c a m i}, phase c = .bound a m i → HasSession r c a m i

theorem registered_init : Registered World.init.registry World.init.phase where
  onlyOfName h := absurd h Arena.not_mem_empty
  entryOk h := absurd h Arena.not_mem_empty
  occupied h := absurd h Arena.not_mem_empty
  hasMode h := absurd h (by simp [World.init])
  hasSession h := absurd h (by simp [World.init])

section Entry

variable {phase : ℕ → Phase} {a b c : ℕ} {e : Esme} {p : Phase} {m i : ℤ}

/-- A connection without a session in the entry may change its phase. -/
theorem EntryOk.update (h : EntryOk phase b e) (hc : ∀ m i, phase c ≠ .bound b m i) :
    EntryOk (update phase c p) b e := by
  refine ⟨h.named, h.nodup, h.pos, fun k s hs => ?_⟩
  obtain ⟨m, hk, hs⟩ := h.bound k s hs
  have hsc : s.conn ≠ c := fun hsc => hc m s.sessionId (hsc ▸ hs)
  exact ⟨m, hk, by rwa [update_of_ne hsc]⟩

/-- The entry made for a new account is sound. -/
theorem entryOk_newEsme {env : AuthEnv} {pdu : BindPdu} {t : SmscClient}
    (hn : pdu.systemId.isSome) : EntryOk phase a (newEsme env pdu t) := by
  refine ⟨hn, fun k => ?_, fun k i hi => ?_, fun k s hs => ?_⟩
  · rw [Esme.ids, newEsme_sessions]
    exact List.nodup_nil
  · rw [Esme.ids, newEsme_sessions] at hi
    exact absurd hi List.not_mem_nil
  · rw [newEsme_sessions] at hs
    exact absurd hs List.not_mem_nil

/-- The ids in use after a session was added. -/
theorem ids_addSession {env : AuthEnv} {pdu : BindPdu} {tc : TempConn} (e : Esme) (h1 : 1 ≤ m)
    (h3 : m ≤ 3) (k : Kind) :
    (addSession env pdu tc m e).ids k =
      if k = .ofMode m then e.ids k ++ [nextSessionId e m] else e.ids k := by
  rw [Esme.ids, sessions_addSession e h1 h3]
  split
  · rw [List.map_append]
    rfl
  · rfl

/-- Appending the session of a connection that had none keeps an entry sound. -/
theorem EntryOk.addSession {env : AuthEnv} {pdu : BindPdu} {tc : TempConn} (h : EntryOk phase a e)
    (h1 : 1 ≤ m) (h3 : m ≤ 3) (hc : ∀ b m i, phase tc.conn ≠ .bound b m i) :
    EntryOk (Function.update phase tc.conn (.bound a m (nextSessionId e m))) a
      (addSession env pdu tc m e) := by
  have hnext := nextSessionId_eq e h1 h3
  refine ⟨by rw [addSession_systemId]; exact h.named, fun k => ?_, fun k j hj => ?_,
    fun k s hs => ?_⟩
  · rw [ids_addSession e h1 h3]
    split
    · next hk =>
      refine List.nodup_append.mpr ⟨h.nodup k, by simp, fun j hj j' hj' => ?_⟩
      rw [List.mem_singleton.mp hj', hnext, ← hk]
      exact fun hjj => allocateSessionId_not_mem (h.pos k) (hjj ▸ hj)
    · exact h.nodup k
  · rw [ids_addSession e h1 h3] at hj
    split at hj
    · rcases List.mem_append.mp hj with hj | hj
      · exact h.pos k j hj
      · rw [List.mem_singleton.mp hj, hnext]
        exact one_le_allocateSessionId _
    · exact h.pos k j hj
  · rw [sessions_addSession e h1 h3] at hs
    have hold : ∀ s ∈ e.sessions k, ∃ m', Kind.ofMode m' = k ∧
        Function.update phase tc.conn (.bound a m (nextSessionId e m)) s.conn =
          .bound a m' s.sessionId :=
      (h.update fun m i => hc a m i).bound k
    split at hs
    · next hk =>
      rcases List.mem_append.mp hs with hs | hs
      · exact hold s hs
      · rw [List.mem_singleton.mp hs]
        exact ⟨m, hk.symm, by rw [addedSession_conn, update_self, addedSession_sessionId]⟩
    · exact hold s hs

/-- Taking out the session of a connection that gives it up keeps an entry sound. -/
theorem EntryOk.without (h : EntryOk phase a e) (hc : phase c = .bound a m i) :
    EntryOk (Function.update phase c p) a (e.without i (.ofMode m)) := by
  have hsub : ∀ k, ((e.without i (.ofMode m)).sessions k).Sublist (e.sessions k) := by
    intro k
    rw [Esme.sessions_without]
    split
    · next hk => rw [hk]; exact List.filter_sublist
    · exact List.Sublist.refl _
  refine ⟨by rw [Esme.without_systemId]; exact h.named,
    fun k => (h.nodup k).sublist ((hsub k).map _),
    fun k j hj => h.pos k j (((hsub k).map _).subset hj), fun k s hs => ?_⟩
  obtain ⟨m', hk, hb⟩ := h.bound k s ((hsub k).subset hs)
  refine ⟨m', hk, ?_⟩
  rwa [update_of_ne]
  intro hsc
  -- the session of `c` itself has been filtered out
  rw [hsc, hc, Phase.bound.injEq] at hb
  obtain ⟨-, rfl, rfl⟩ := hb
  rw [Esme.sessions_without, if_pos hk.symm] at hs
  have := (List.mem_filter.mp hs).2
  simp at this

/-- The sessions of other connections stay in the entry. -/
theorem EntryOk.mem_without {s s' : Session} {k : Kind} (h : EntryOk phase a e)
    (hs : s ∈ e.sessions (.ofMode m)) (hi : s.sessionId = i) (hs' : s' ∈ e.sessions k)
    (hne : s'.conn ≠ s.conn) : s' ∈ (e.without i (.ofMode m)).sessions k := by
  rw [Esme.sessions_without]
  split
  · next hk =>
    subst hk
    refine List.mem_filter.mpr ⟨hs', decide_eq_true fun hi' => hne ?_⟩
    exact congrArg _ (List.inj_on_of_nodup_map (h.nodup (.ofMode m)) hs' hs (hi'.trans hi.symm))
  · exact hs'

end Entry

/-! ## Commits and destroys keep the invariant

Four changes of a registry: a new entry, a new session in an entry, a session less, an entry less.  For each of
them the phases of the other connections stay as they were. -/

section Step

variable {r : Registry} {phase : ℕ → Phase} {a c : ℕ} {e : Esme} {p : Phase} {m i : ℤ}
  {env : AuthEnv} {pdu : BindPdu} {tc : TempConn}

/-- After a change to a phase that is not `bound`, only other connections are bound. -/
theorem bound_of_update {c' : ℕ} (hp : ∀ a m i, p ≠ .bound a m i)
    (hb : Function.update phase c p c' = .bound a m i) : c' ≠ c ∧ phase c' = .bound a m i := by
  have hcc : c' ≠ c := by
    rintro rfl
    rw [update_self] at hb
    exact hp a m i hb
  rw [update_of_ne hcc] at hb
  exact ⟨hcc, hb⟩

/-- A connection that has no session may change to any phase but `bound`. -/
theorem Registered.update (h : Registered r phase) (hc : ∀ a m i, phase c ≠ .bound a m i)
    (hp : ∀ a m i, p ≠ .bound a m i) : Registered r (update phase c p) :=
  ⟨h.onlyOfName, fun he => (h.entryOk he).update fun m i => hc _ m i, h.occupied,
    fun hb => h.hasMode (bound_of_update hp hb).2, fun hb => h.hasSession (bound_of_update hp hb).2⟩

/-- A connection bound in one of the three modes. -/
theorem Registered.hasMode_update {c' b : ℕ} {m' i' : ℤ} (h : Registered r phase) (h1 : 1 ≤ m)
    (h3 : m ≤ 3) (hb : Function.update phase c (.bound a m i) c' = .bound b m' i') :
    1 ≤ m' ∧ m' ≤ 3 := by
  by_cases hcc : c' = c
  · rw [hcc, update_self, Phase.bound.injEq] at hb
    obtain ⟨-, rfl, -⟩ := hb
    exact ⟨h1, h3⟩
  · rw [update_of_ne hcc] at hb
    exact h.hasMode hb

/-- A change of one entry that keeps its name. -/
theorem Registered.onlyOfName_modify {f : Esme → Esme} {b : ℕ} {e' : Esme} (h : Registered r phase)
    (hf : ∀ v, (a, v) ∈ r.cells → (f v).systemId = v.systemId) (hb : (b, e') ∈ (r.modify a f).cells) :
    OnlyOfName (r.modify a f) b e' := by
  intro b' e'' hb' hname
  rcases Arena.mem_modify.mp hb with ⟨-, hv⟩ | ⟨rfl, v, hv, rfl⟩ <;>
    rcases Arena.mem_modify.mp hb' with ⟨-, hv'⟩ | ⟨rfl, v', hv', rfl⟩
  · exact h.onlyOfName hv b' e'' hv' hname
  · exact h.onlyOfName hv b' v' hv' (by rwa [hf v' hv'] at hname)
  · exact h.onlyOfName hv b' e'' hv' (by rwa [hf v hv] at hname)
  · rfl

/-- **A commit that creates the account's entry.** -/
theorem Registered.commit_alloc {t : SmscClient} (h : Registered r phase)
    (hn : pdu.systemId.isSome) (hnone : isPresentEsme r pdu.systemId = none)
    (h1 : 1 ≤ m) (h3 : m ≤ 3) (hc : ∀ b m i, phase tc.conn ≠ .bound b m i) :
    Registered (r.alloc (addSession env pdu tc m (newEsme env pdu t)))
      (Function.update phase tc.conn (.bound r.next m (nextSessionId (newEsme env pdu t) m))) := by
  have hsess : (SmppEsme.addSession env pdu tc m (newEsme env pdu t)).sessions (.ofMode m) =
      (newEsme env pdu t).sessions (.ofMode m) ++
        [addedSession env pdu tc m (newEsme env pdu t)] := by
    rw [sessions_addSession _ h1 h3, if_pos rfl]
  refine ⟨fun {a e} he b e' he' hname => ?_, fun {a e} he => ?_, fun {a e} he => ?_,
    fun hb => h.hasMode_update h1 h3 hb, fun {c a m' i} hb => ?_⟩
  · rcases Arena.mem_alloc.mp he with he | ⟨rfl, rfl⟩ <;>
      rcases Arena.mem_alloc.mp he' with he' | ⟨rfl, rfl⟩
    · exact h.onlyOfName he b e' he' hname
    · rw [addSession_systemId, newEsme_systemId] at hname
      exact absurd hname.symm (isPresentEsme_eq_none hnone he)
    · rw [addSession_systemId, newEsme_systemId] at hname
      exact absurd hname (isPresentEsme_eq_none hnone he')
    · rfl
  · rcases Arena.mem_alloc.mp he with he | ⟨rfl, rfl⟩
    · exact (h.entryOk he).update fun m i => hc a m i
    · exact (entryOk_newEsme hn).addSession h1 h3 hc
  · rcases Arena.mem_alloc.mp he with he | ⟨rfl, rfl⟩
    · exact h.occupied he
    · exact ⟨.ofMode m, by simp [hsess]⟩
  · by_cases hcc : c = tc.conn
    · rw [hcc, update_self, Phase.bound.injEq] at hb
      obtain ⟨rfl, rfl, rfl⟩ := hb
      exact ⟨_, Arena.mem_alloc.mpr (.inr ⟨rfl, rfl⟩), _,
        by rw [hsess]; exact List.mem_append_right _ (List.mem_singleton_self _), rfl, hcc.symm⟩
    · rw [update_of_ne hcc] at hb
      obtain ⟨e, he, hs⟩ := h.hasSession hb
      exact ⟨e, Arena.mem_alloc.mpr (.inl he), hs⟩

/-- **A commit that adds a session to the account's entry.** -/
theorem Registered.commit_modify (h : Registered r phase) (he : (a, e) ∈ r.cells)
    (h1 : 1 ≤ m) (h3 : m ≤ 3) (hc : ∀ b m i, phase tc.conn ≠ .bound b m i) :
    Registered (r.modify a (addSession env pdu tc m))
      (Function.update phase tc.conn (.bound a m (nextSessionId e m))) := by
  have hsess : ∀ k, (SmppEsme.addSession env pdu tc m e).sessions k =
      if k = .ofMode m then e.sessions k ++ [addedSession env pdu tc m e] else e.sessions k :=
    sessions_addSession e h1 h3
  refine ⟨h.onlyOfName_modify fun v _ => addSession_systemId .., fun {b e'} hb => ?_,
    fun {b e'} hb => ?_, fun hb => h.hasMode_update h1 h3 hb, fun {c b m' i} hb => ?_⟩
  · rcases Arena.mem_modify.mp hb with ⟨hba, hb⟩ | ⟨rfl, v, hv, rfl⟩
    · exact (h.entryOk hb).update fun m i => hc b m i
    · rw [Arena.val_unique hv he]
      exact (h.entryOk he).addSession h1 h3 hc
  · rcases Arena.mem_modify.mp hb with ⟨hba, hb⟩ | ⟨rfl, v, hv, rfl⟩
    · exact h.occupied hb
    · rw [Arena.val_unique hv he]
      exact ⟨.ofMode m, by simp [hsess]⟩
  · by_cases hcc : c = tc.conn
    · rw [hcc, update_self, Phase.bound.injEq] at hb
      obtain ⟨rfl, rfl, rfl⟩ := hb
      refine ⟨_, Arena.mem_modify.mpr (.inr ⟨rfl, e, he, rfl⟩), addedSession env pdu tc m e, ?_, rfl,
        hcc.symm⟩
      rw [hsess, if_pos rfl]
      exact List.mem_append_right _ (List.mem_singleton_self _)
    · rw [update_of_ne hcc] at hb
      obtain ⟨e', he', s, hs, hsi⟩ := h.hasSession hb
      by_cases hba : b = a
      · subst hba
        obtain rfl := Arena.val_unique he' he
        refine ⟨_, Arena.mem_modify.mpr (.inr ⟨rfl, e', he, rfl⟩), s, ?_, hsi⟩
        rw [hsess]
        split
        · exact List.mem_append_left _ hs
        · exact hs
      · exact ⟨e', Arena.mem_modify.mpr (.inl ⟨hba, he'⟩), s, hs, hsi⟩

/-- The entry at `a` without the session `i`, or no entry if it was the last session: everything
else as before. -/
def Destroyed (r r' : Registry) (a : ℕ) (e : Esme) (k : Kind) (i : ℤ) : Prop :=
  r'.cells =
    if e.sessionCount = 1 then r.cells.filter fun c => c.1 ≠ a
    else r.cells.map fun c => if c.1 = a then (a, e.without i k) else c

/-- The other connections with a session in the entry keep it. -/
theorem Registered.mem_without {c' : ℕ} {m' i' : ℤ} (h : Registered r phase)
    (hb : phase c = .bound a m i) (he : (a, e) ∈ r.cells) (hcc : c' ≠ c)
    (hb' : phase c' = .bound a m' i') :
    ∃ s ∈ (e.without i (.ofMode m)).sessions (.ofMode m'), s.sessionId = i' ∧ s.conn = c' := by
  obtain ⟨e₁, he₁, s, hs, hsi, hsc⟩ := h.hasSession hb
  obtain ⟨e₂, he₂, s', hs', hsi', hsc'⟩ := h.hasSession hb'
  obtain rfl := Arena.val_unique he he₁
  obtain rfl := Arena.val_unique he he₂
  exact ⟨s', (h.entryOk he).mem_without hs hsi hs' (by rw [hsc', hsc]; exact hcc), hsi', hsc'⟩

/-- The other entries stay sound when a session is given up. -/
theorem Registered.entryOk_closed {b : ℕ} {e' : Esme} (h : Registered r phase)
    (hb : phase c = .bound a m i) (hba : b ≠ a) (he' : (b, e') ∈ r.cells) :
    EntryOk (Function.update phase c .closed) b e' := by
  refine (h.entryOk he').update fun m' i' hb' => ?_
  rw [hb, Phase.bound.injEq] at hb'
  exact hba hb'.1.symm

/-- The last session of an entry is given up, and the entry with it. -/
theorem Registered.unlink (h : Registered r phase) (hb : phase c = .bound a m i)
    (he : (a, e) ∈ r.cells) (hnil : ∀ k, (e.without i (.ofMode m)).sessions k = []) :
    Registered (r.free a) (Function.update phase c .closed) := by
  have hclosed : ∀ a m i, Phase.closed ≠ .bound a m i := by simp
  refine ⟨fun {b e'} hb' b' e'' hb'' hname => ?_, fun {b e'} hb' => ?_, fun {b e'} hb' => ?_,
    fun hb' => h.hasMode (bound_of_update hclosed hb').2, fun {c' b m' i'} hb' => ?_⟩
  · exact h.onlyOfName (Arena.mem_free.mp hb').1 b' e'' (Arena.mem_free.mp hb'').1 hname
  · exact h.entryOk_closed hb (Arena.mem_free.mp hb').2 (Arena.mem_free.mp hb').1
  · exact h.occupied (Arena.mem_free.mp hb').1
  · obtain ⟨hcc, hb'⟩ := bound_of_update hclosed hb'
    have hba : b ≠ a := by
      rintro rfl
      obtain ⟨s', hs', -⟩ := h.mem_without hb he hcc hb'
      rw [hnil] at hs'
      exact absurd hs' List.not_mem_nil
    obtain ⟨e', he', hs'⟩ := h.hasSession hb'
    exact ⟨e', Arena.mem_free.mpr ⟨he', hba⟩, hs'⟩

/-- One of several sessions of an entry is given up. -/
theorem Registered.takeOut (h : Registered r phase) (hb : phase c = .bound a m i)
    (he : (a, e) ∈ r.cells) (hmore : ∃ k, (e.without i (.ofMode m)).sessions k ≠ []) :
    Registered (r.modify a fun _ => e.without i (.ofMode m)) (Function.update phase c .closed) := by
  have hclosed : ∀ a m i, Phase.closed ≠ .bound a m i := by simp
  refine ⟨h.onlyOfName_modify fun v hv => ?_, fun {b e'} hb' => ?_, fun {b e'} hb' => ?_,
    fun hb' => h.hasMode (bound_of_update hclosed hb').2, fun {c' b m' i'} hb' => ?_⟩
  · rw [Esme.without_systemId, Arena.val_unique hv he]
  · rcases Arena.mem_modify.mp hb' with ⟨hba, hv⟩ | ⟨rfl, v, hv, rfl⟩
    · exact h.entryOk_closed hb hba hv
    · exact (h.entryOk he).without hb
  · rcases Arena.mem_modify.mp hb' with ⟨hba, hv⟩ | ⟨rfl, v, hv, rfl⟩
    · exact h.occupied hv
    · exact hmore
  · obtain ⟨hcc, hb'⟩ := bound_of_update hclosed hb'
    by_cases hba : b = a
    · subst hba
      exact ⟨_, Arena.mem_modify.mpr (.inr ⟨rfl, e, he, rfl⟩), h.mem_without hb he hcc hb'⟩
    · obtain ⟨e', he', hs'⟩ := h.hasSession hb'
      exact ⟨e', Arena.mem_modify.mpr (.inl ⟨hba, he'⟩), hs'⟩

/-- **A destroy by the thread of a bound session** finds the session, takes out nothing else, and
unlinks the entry with its last session. -/
theorem Registered.destroy (h : Registered r phase) (hb : phase c = .bound a m i)
    (he : (a, e) ∈ r.cells) :
    ∃ r', esmeDestroy r a (Kind.ofMode m).threadType i = .ok r' ∧
      Destroyed r r' a e (.ofMode m) i ∧ Registered r' (Function.update phase c .closed) := by
  have hok := h.entryOk he
  obtain ⟨e', he', s, hs, hsi, -⟩ := h.hasSession hb
  obtain rfl := Arena.val_unique he he'
  have hmem : i ∈ e.ids (.ofMode m) := hsi ▸ List.mem_map_of_mem hs
  have hdel := deleteFrom_eq_ok (hok.pos _ i hmem) (hok.nodup _) hmem
  have hcount := sessionCount_without (hok.nodup _) hmem
  by_cases hlast : (e.without i (.ofMode m)).txEsme = [] ∧ (e.without i (.ofMode m)).rxEsme = []
  · have hone : e.sessionCount = 1 := by
      rw [← hcount, Esme.sessionCount, hlast.1, hlast.2]
      rfl
    refine ⟨_, esmeDestroy_eq_free he (h.onlyOfName he) hok.named hdel hlast, ?_,
      h.unlink hb he (Esme.forall_sessions_eq_nil.mpr hlast)⟩
    rw [Destroyed, if_pos hone]
    rfl
  · have hone : e.sessionCount ≠ 1 := by
      intro hone
      have h0 : (e.without i (.ofMode m)).sessionCount = 0 := by omega
      rw [Esme.sessionCount, Nat.add_eq_zero_iff, List.length_eq_zero_iff,
        List.length_eq_zero_iff] at h0
      exact hlast h0
    have hmore : ∃ k, (e.without i (.ofMode m)).sessions k ≠ [] :=
      not_forall.mp fun hnil => hlast (Esme.forall_sessions_eq_nil.mp hnil)
    refine ⟨_, esmeDestroy_eq_modify he (h.onlyOfName he) hok.named hdel hlast, ?_,
      h.takeOut hb he hmore⟩
    rw [Destroyed, if_neg hone]
    exact Arena.modify_cells_eq he

end Step

/-! ## Histories of atomic binds and destroys

An atomic bind is a check followed by its commit.  In every state that a history reaches the invariant holds,
and the claims about look-ups and destroys are read off it. -/

/-- A whole call of `authorise_user` for a connection that has not bound yet, or the
`esme_destroy` with which a session thread ends. -/
inductive AtomicEvent
  | bind (env : AuthEnv) (tc : TempConn) (pdu : BindPdu) (mode : ℤ)
  | destroy (conn : ℕ)

/-- One atomic bind or destroy; a fault leaves no next state. -/
def atomicStep (w : World) : AtomicEvent → Option World
  | .bind env tc pdu mode =>
    if (mode = 1 ∨ mode = 2 ∨ mode = 3) ∧ w.phase tc.conn = .idle then
      match authoriseUser env w.registry pdu mode tc with
      | .error _ => none
      | .ok res =>
        some {
          registry := res.registry
          phase := update w.phase tc.conn <|
            match res.esme with
            | none => .closed
            | some esme => .bound esme mode res.tempConn.sessionId }
    else none
  | .destroy conn =>
    match w.phase conn with
    | .bound esme mode sessionId =>
      match esmeDestroy w.registry esme (Kind.ofMode mode).threadType sessionId with
      | .error _ => none
      | .ok r => some ⟨r, update w.phase conn .closed⟩
    | _ => none

/-- **What an atomic bind does**: it is refused, or a new entry or the account's entry gets the session. -/
theorem atomicStep_bind {w w' : World} {env : AuthEnv} {tc : TempConn} {pdu : BindPdu} {mode : ℤ}
    (hs : atomicStep w (.bind env tc pdu mode) = some w') :
    1 ≤ mode ∧ mode ≤ 3 ∧ w.phase tc.conn = .idle ∧ pdu.systemId.isSome ∧
      (w' = ⟨w.registry, update w.phase tc.conn .closed⟩ ∨
        (∃ t, isPresentEsme w.registry pdu.systemId = none ∧
          w' = ⟨w.registry.alloc (addSession env pdu tc mode (newEsme env pdu t)),
            update w.phase tc.conn
              (.bound w.registry.next mode (nextSessionId (newEsme env pdu t) mode))⟩) ∨
        (∃ a e, (a, e) ∈ w.registry.cells ∧
          w' = ⟨w.registry.modify a (addSession env pdu tc mode),
            update w.phase tc.conn (.bound a mode (nextSessionId e mode))⟩)) := by
  simp only [atomicStep] at hs
  split at hs
  case isFalse => exact absurd hs (by simp)
  next hg =>
  obtain ⟨hmode, hidle⟩ := hg
  have h1 : 1 ≤ mode := by omega
  have h3 : mode ≤ 3 := by omega
  cases hn : pdu.systemId with
  | none =>
    rw [authoriseUser, authoriseCheck_of_none hn h1 (by omega)] at hs
    exact absurd hs (by simp)
  | some name =>
    refine ⟨h1, h3, hidle, rfl, ?_⟩
    obtain ⟨ret, -, hu⟩ | ⟨t, -, hp, hu⟩ | ⟨t, a, e, -, hp, hu⟩ :=
      authoriseUser_cases env w.registry tc hn h1 (by omega)
    · rw [hu] at hs
      exact .inl (Option.some.inj hs).symm
    · rw [hu] at hs
      simp only [noteSession_sessionId _ h1 h3] at hs
      exact .inr (.inl ⟨t, hn ▸ hp, (Option.some.inj hs).symm⟩)
    · rw [hu] at hs
      simp only [noteSession_sessionId _ h1 h3] at hs
      exact .inr (.inr ⟨a, e, (isPresentEsme_eq_some hp).1, (Option.some.inj hs).symm⟩)

/-- What an atomic destroy does. -/
theorem atomicStep_destroy {w w' : World} {conn : ℕ} (hs : atomicStep w (.destroy conn) = some w') :
    ∃ esme mode sessionId r, w.phase conn = .bound esme mode sessionId ∧
      esmeDestroy w.registry esme (Kind.ofMode mode).threadType sessionId = .ok r ∧
        w' = ⟨r, update w.phase conn .closed⟩ := by
  simp only [atomicStep] at hs
  split at hs
  case h_2 => exact absurd hs (by simp)
  next esme mode sessionId hbound =>
  split at hs
  · exact absurd hs (by simp)
  · rename_i r hd
    exact ⟨esme, mode, sessionId, r, hbound, hd, (Option.some.inj hs).symm⟩

/-- Every atomic bind and destroy keeps the registry invariant. -/
theorem registered_atomicStep {w w' : World} {ev : AtomicEvent}
    (h : Registered w.registry w.phase) (hs : atomicStep w ev = some w') :
    Registered w'.registry w'.phase := by
  cases ev with
  | bind env tc pdu mode =>
    obtain ⟨h1, h3, hidle, hname, houtcome⟩ := atomicStep_bind hs
    have hc : ∀ b m i, w.phase tc.conn ≠ .bound b m i := by simp [hidle]
    obtain rfl | ⟨t, hp, rfl⟩ | ⟨a, e, he, rfl⟩ := houtcome
    · exact h.update hc (by simp)
    · exact h.commit_alloc hname hp h1 h3 hc
    · exact h.commit_modify he h1 h3 hc
  | destroy c =>
    obtain ⟨a, m, i, r, hb, hd, rfl⟩ := atomicStep_destroy hs
    obtain ⟨e, he, -⟩ := h.hasSession hb
    obtain ⟨r', hd', -, hr⟩ := h.destroy hb he
    obtain rfl : r = r' := Except.ok.inj (hd.symm.trans hd')
    exact hr

/-- Distinct entries have distinct account names. -/
theorem Registered.names_nodup {r : Registry} {phase : ℕ → Phase} (h : Registered r phase) :
    (r.vals.map (·.systemId)).Nodup := by
  rw [Arena.vals, List.map_map]
  refine List.Nodup.map_on (fun c hc d hd hcd => ?_) (List.Nodup.of_map _ r.nodup)
  have hab : c.1 = d.1 := (h.onlyOfName (a := d.1) (e := d.2) hd) c.1 c.2 hc hcd
  exact List.inj_on_of_nodup_map r.nodup hc hd hab

/-- A connection's session is the only one in the registry that was bound over it. -/
theorem Registered.session_unique {r : Registry} {phase : ℕ → Phase} {a c : ℕ} {e : Esme} {m i : ℤ}
    {s : Session} (h : Registered r phase) (hb : phase c = .bound a m i) (he : (a, e) ∈ r.cells)
    (hs : s ∈ e.sessions (.ofMode m)) (hi : s.sessionId = i) {b : ℕ} {e' : Esme} {k : Kind}
    {s' : Session} (he' : (b, e') ∈ r.cells) (hs' : s' ∈ e'.sessions k) (hc : s'.conn = c) :
    b = a ∧ k = .ofMode m ∧ s' = s := by
  obtain ⟨m', hk, hb'⟩ := (h.entryOk he').bound k s' hs'
  rw [hc, hb, Phase.bound.injEq] at hb'
  obtain ⟨rfl, rfl, hi'⟩ := hb'
  obtain rfl := Arena.val_unique he he'
  obtain rfl := hk
  exact ⟨rfl, rfl, List.inj_on_of_nodup_map ((h.entryOk he).nodup _) hs' hs (hi'.symm.trans hi.symm)⟩

/-- **The session registry over whole histories.**  After any history of atomic binds and destroys:
account names are distinct, no entry is without session, session ids are distinct and positive; and
for every bound session, looking it up returns the one session bound over its connection, and
destroying it does not fault, removes that session and nothing else, and unlinks the account exactly
with its last session. -/
theorem sessions_registered {es : List AtomicEvent} {w : World}
    (hr : exec atomicStep World.init es = some w) :
    (w.registry.vals.map (·.systemId)).Nodup ∧
    (∀ e ∈ w.registry.vals, 1 ≤ e.sessionCount) ∧
    (∀ e ∈ w.registry.vals, ∀ k, (e.ids k).Nodup ∧ ∀ i ∈ e.ids k, 1 ≤ i) ∧
    ∀ c a m i, w.phase c = .bound a m i →
      ∃ e, (a, e) ∈ w.registry.cells ∧
        (∃ str, getSessionStr e m i = some str ∧ str.toSession.sessionId = i ∧
          str.toSession.conn = c ∧
          ∀ b e' k s, (b, e') ∈ w.registry.cells → s ∈ e'.sessions k → s.conn = c →
            b = a ∧ k = .ofMode m ∧ s = str.toSession) ∧
        ∃ r', esmeDestroy w.registry a (Kind.ofMode m).threadType i = .ok r' ∧
          Destroyed w.registry r' a e (.ofMode m) i := by
  have h : Registered w.registry w.phase :=
    exec_invariant_of_step (P := fun w => Registered w.registry w.phase)
      registered_atomicStep registered_init hr
  refine ⟨h.names_nodup, fun e he => ?_, fun e he k => ?_, fun c a m i hb => ?_⟩
  · obtain ⟨c, hc, rfl⟩ := List.mem_map.mp he
    obtain ⟨k, hk⟩ := h.occupied hc
    by_contra hlt
    have h0 : c.2.txEsme.length = 0 ∧ c.2.rxEsme.length = 0 := by
      unfold Esme.sessionCount at hlt
      omega
    exact hk (Esme.forall_sessions_eq_nil.mpr
      ⟨List.length_eq_zero_iff.mp h0.1, List.length_eq_zero_iff.mp h0.2⟩ k)
  · obtain ⟨c, hc, rfl⟩ := List.mem_map.mp he
    exact ⟨(h.entryOk hc).nodup k, (h.entryOk hc).pos k⟩
  · obtain ⟨e, he, s, hs, hi, hsc⟩ := h.hasSession hb
    have hok := h.entryOk he
    obtain ⟨h1, h3⟩ := h.hasMode hb
    have hpos : 1 ≤ s.sessionId := hok.pos _ _ (List.mem_map_of_mem hs)
    obtain ⟨str, hstr, rfl⟩ := getSessionStr_eq_some h1 h3 hpos (hok.nodup _) hs
    obtain ⟨r', hd, hspec, -⟩ := h.destroy hb he
    refine ⟨e, he, ⟨str, hi ▸ hstr, hi, hsc, fun b e' k s he' hs' hc => ?_⟩, r', hd, hspec⟩
    exact h.session_unique hb he hs hi he' hs' hc

/-- Two transmitters bind and the first one ends; the second still holds session `2`. -/
def sampleHistory : List AtomicEvent :=
  [.bind sampleEnv (tempconnCreate 0 (octstrImm "10.0.0.1") 4000 2775 1) samplePdu 1,
    .bind sampleEnv (tempconnCreate 1 (octstrImm "10.0.0.2") 4000 2775 1) samplePdu 1,
    .destroy 0]

theorem sessions_registered_sampleHistory :
    ∃ w, exec atomicStep World.init sampleHistory = some w ∧ w.phase 1 = .bound 0 1 2 ∧
      ∃ e, (0, e) ∈ w.registry.cells ∧
        ∃ str, getSessionStr e 1 2 = some str ∧ str.toSession.conn = 1 := by
  have hsome : ((exec atomicStep World.init sampleHistory).map fun w => w.phase 1) =
      some (.bound 0 1 2) := by decide
  obtain ⟨w, hw, hphase⟩ := Option.map_eq_some_iff.mp hsome
  obtain ⟨-, -, -, hb⟩ := sessions_registered hw
  obtain ⟨e, he, ⟨str, hstr, -, hconn, -⟩, -⟩ := hb 1 0 1 2 hphase
  exact ⟨w, hw, hphase, e, he, str, hstr, hconn⟩

end SmppServer.SmppEsme
