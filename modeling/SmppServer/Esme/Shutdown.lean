import Mathlib.Data.Prod.Lex
import SmppServer.Esme.Sessions

/-!
# Esme/Shutdown — `esme_shutdown` and the entries it waits for

When the process is to end, `esme_shutdown` goes over `esme_list` and takes the sessions of each entry one after
the other: it tells the session to disconnect and waits for its thread.  The thread destroys the session, and with
the last session of an account the entry too — which `esme_shutdown` then looks at, to see whether there are
sessions left.  It holds no lock meanwhile, so other session threads may end at any time.  A bind looks at the status
of the program at its beginning only: one that was in progress then adds its session later.

* `esme_shutdown_returns_iff` — unless a bind was in progress, it gets to its end exactly if no session is bound
  when it starts; otherwise it reads an entry that was freed, or a list that has become empty, in every order of
  events.
-/

namespace SmppServer.SmppEsme

open Machinery Function

/-! ## The code

The bodies of the two inner loops are the same but for the list, so `k` says which of them it is.  A `break` goes
where the loop ends, `afterSessions`.
-/

/-- Where `esme_shutdown` is: before the entry for the next round, before `gwlist_len` of a list of sessions,
before the next session, waiting for a thread, or at its end.  `left` are the rounds of the outer loop to come,
`rounds` those of the inner loop. -/
inductive DownPc
  | account (left : ℕ)
  | counting (left a : ℕ) (k : Kind)
  | session (left a : ℕ) (k : Kind) (rounds : ℕ)
  | joining (left a : ℕ) (k : Kind) (rounds conn : ℕ)
  | done
  | failed (f : Fault)
  deriving DecidableEq, Repr

/-- The process while it shuts down.  What the sessions' status is does not matter here. -/
structure Down where
  world : World
  pc : DownPc

/-- `esme_shutdown` has taken the length of `esme_list`. -/
def Down.start (w : World) : Down := ⟨w, .account w.registry.cells.length⟩

/-- Where it goes on when the sessions of a kind are done. -/
def afterSessions (left a : ℕ) : Kind → DownPc
  | .tx => .counting left a .rx
  | .rx => .account left

/-- **One step of `esme_shutdown`.** -/
def esmeShutdownStep (w : World) : DownPc → Option DownPc
  | .account 0 => some .done
  | .account (left + 1) =>
    match gwlistGet w.registry.cells 0 with
    | .error f => some (.failed f)
    | .ok (a, _) => some (.counting left a .tx)
  | .counting left a k =>
    match w.registry.get? a with
    | none => some (.failed .dangling)
    | some e => some (.session left a k (e.sessions k).length)
  | .session left a k 0 => some (afterSessions left a k)
  | .session left a k (rounds + 1) =>
    match w.registry.get? a with
    | none => some (.failed .dangling)
    | some e =>
      match gwlistGet (e.sessions k) 0 with
      | .error f => some (.failed f)
      | .ok s => some (.joining left a k rounds s.conn)
  | .joining left a k rounds conn =>
    if w.phase conn = .closed then
      match w.registry.get? a with
      | none => some (.failed .dangling)
      | some e => some (if e.sessions k = [] then afterSessions left a k else .session left a k rounds)
    else none
  | .done => none
  | .failed _ => none

/-- What happens: a step of `esme_shutdown`, a session thread ends, or a bind that was in progress adds its session. -/
inductive DownEvent
  | shutdown
  | ends (conn : ℕ)
  | binds (env : AuthEnv) (tc : TempConn) (pdu : BindPdu) (mode : ℤ)

/-- The registry changes; nothing happens any more when the process has failed. -/
def Down.change (d : Down) (ev : AtomicEvent) : Option Down :=
  match d.pc with
  | .failed _ => none
  | pc => (atomicStep d.world ev).map fun w => ⟨w, pc⟩

/-- One step of the process. -/
def downStep (d : Down) : DownEvent → Option Down
  | .shutdown => (esmeShutdownStep d.world d.pc).map fun pc => ⟨d.world, pc⟩
  | .ends conn => d.change (.destroy conn)
  | .binds env tc pdu mode => d.change (.bind env tc pdu mode)

/-- The event is no bind. -/
def DownEvent.Settled : DownEvent → Prop
  | .binds .. => False
  | _ => True

instance : DecidablePred DownEvent.Settled
  | .binds .. => .isFalse id
  | .shutdown | .ends _ => .isTrue trivial

/-! ## Sessions end

A session that ends is taken out of its list; if it was the last of the account, the entry goes with it. -/

section Ends

variable {w w' : World} {c : ℕ}

/-- **A session thread ends**: an entry that is still there lost that session at most. -/
theorem atomicStep_ends (h : Registered w.registry w.phase) (hs : atomicStep w (.destroy c) = some w') :
    Registered w'.registry w'.phase ∧
      ∃ a m i, w.phase c = .bound a m i ∧ w'.phase = update w.phase c .closed ∧
        ∀ {b e'}, (b, e') ∈ w'.registry.cells → ∃ e, (b, e) ∈ w.registry.cells ∧
          ∀ k, e'.sessions k = if b = a ∧ k = Kind.ofMode m then
            (e.sessions k).filter fun s => s.sessionId ≠ i else e.sessions k := by
  refine ⟨registered_atomicStep h hs, ?_⟩
  obtain ⟨a, m, i, r, hb, hd, rfl⟩ := atomicStep_destroy hs
  obtain ⟨e, he, -⟩ := h.hasSession hb
  obtain ⟨r', hd', hspec, -⟩ := h.destroy hb he
  obtain rfl : r = r' := Except.ok.inj (hd.symm.trans hd')
  refine ⟨a, m, i, hb, rfl, fun {b e'} hbe => ?_⟩
  rw [hspec] at hbe
  split at hbe
  · obtain ⟨hbe, hne⟩ := List.mem_filter.mp hbe
    have hne : b ≠ a := by simpa using hne
    exact ⟨e', hbe, fun k => by rw [if_neg fun hc => hne hc.1]⟩
  · obtain ⟨⟨b', v⟩, hv, hc⟩ := List.mem_map.mp hbe
    dsimp only at hc
    split at hc
    · obtain ⟨rfl, rfl⟩ := Prod.mk.inj hc
      refine ⟨e, he, fun k => ?_⟩
      rw [Esme.sessions_without]
      by_cases hk : k = Kind.ofMode m
      · rw [if_pos hk, if_pos ⟨rfl, hk⟩, hk]
      · rw [if_neg hk, if_neg fun hc => hk hc.2]
    · rename_i hne
      obtain ⟨rfl, rfl⟩ := Prod.mk.inj hc
      exact ⟨v, hv, fun k => by rw [if_neg fun hc => hne hc.1]⟩

/-- No list of sessions becomes longer. -/
theorem length_sessions_le_of_ends {b : ℕ} {e e' : Esme} {a : ℕ} {m i : ℤ} {k : Kind}
    (h : e'.sessions k = if b = a ∧ k = Kind.ofMode m then
      (e.sessions k).filter fun s => s.sessionId ≠ i else e.sessions k) :
    (e'.sessions k).length ≤ (e.sessions k).length := by
  rw [h]
  split
  · exact List.length_filter_le _ _
  · exact le_rfl

end Ends

/-! ## What holds while it goes on

A session that ends makes no list longer, and the last session of an entry takes the entry with it.  So an entry that
`esme_shutdown` finds still there when the rounds for a list are over has no session in it, which no entry is without.
-/

/-- The lists of an entry that `esme_shutdown` is at: how many sessions there may be, given how many rounds are to
come; when it is at the receivers there is no transmitter left. -/
structure AtEntry (w : World) (a : ℕ) (k : Kind) (bound : ℕ) : Prop where
  length_le : ∀ e, (a, e) ∈ w.registry.cells → (e.sessions k).length ≤ bound
  tx : k = .rx → ∀ e, (a, e) ∈ w.registry.cells → e.sessions .tx = []

/-- **What holds while `esme_shutdown` goes on**, if there was a session when it began. -/
def GoesOn (d : Down) : Prop :=
  match d.pc with
  | .account left => left ≠ 0
  | .counting _ a k => k = .rx → ∀ e, (a, e) ∈ d.world.registry.cells → e.sessions .tx = []
  | .session _ a k rounds => AtEntry d.world a k rounds ∧ (k = .rx → rounds ≠ 0)
  | .joining _ a k rounds conn =>
    AtEntry d.world a k (rounds + if d.world.phase conn = .closed then 0 else 1) ∧
      (d.world.phase conn ≠ .closed → ∃ m i, d.world.phase conn = .bound a m i ∧ Kind.ofMode m = k)
  | .done => False
  | .failed f => f = .dangling ∨ f = .outOfList

section GoesOn

variable {w w' : World} {d d' : Down} {left a rounds conn : ℕ} {k : Kind} {e : Esme}

/-- An entry without transmitters has a receiver. -/
theorem Registered.rx_ne_nil (h : Registered w.registry w.phase) (he : (a, e) ∈ w.registry.cells)
    (htx : e.sessions .tx = []) : e.sessions .rx ≠ [] := by
  obtain ⟨k, hk⟩ := h.occupied he
  cases k with
  | tx => exact absurd htx hk
  | rx => exact hk

/-- `esme_shutdown` leaves the transmitters of an entry when there are none left. -/
theorem goesOn_afterSessions (hle : AtEntry w a .tx 0) : GoesOn ⟨w, afterSessions left a .tx⟩ := by
  intro _ e he
  exact List.length_eq_zero_iff.mp (Nat.le_zero.mp (hle.length_le e he))

/-- The entry for the next round. -/
theorem goesOn_account {pc : DownPc} (hg : GoesOn ⟨w, .account left⟩)
    (hs : esmeShutdownStep w (.account left) = some pc) : GoesOn ⟨w, pc⟩ := by
  cases left with
  | zero => exact absurd rfl hg
  | succ left =>
    rw [esmeShutdownStep] at hs
    split at hs
    · rename_i f hget
      obtain rfl := Option.some.inj hs
      exact .inr (gwlistGet_eq_error hget)
    · obtain rfl := Option.some.inj hs
      exact fun hk => absurd hk (by simp)

/-- The length of a list of sessions is taken; that of the receivers is not zero when there are no transmitters. -/
theorem goesOn_counting {pc : DownPc} (h : Registered w.registry w.phase) (hg : GoesOn ⟨w, .counting left a k⟩)
    (hs : esmeShutdownStep w (.counting left a k) = some pc) : GoesOn ⟨w, pc⟩ := by
  rw [esmeShutdownStep] at hs
  split at hs
  · obtain rfl := Option.some.inj hs
    exact .inl rfl
  · rename_i e he
    have he := Arena.get?_eq_some.mp he
    obtain rfl := Option.some.inj hs
    refine ⟨⟨fun e' he' => (congrArg (fun v => (v.sessions k).length) (Arena.val_unique he' he)).le, hg⟩, ?_⟩
    rintro rfl hlen
    exact h.rx_ne_nil he (hg rfl e he) (List.length_eq_zero_iff.mp hlen)

/-- The next session is told to disconnect, or the rounds for the list are over. -/
theorem goesOn_session {pc : DownPc} (h : Registered w.registry w.phase)
    (hg : GoesOn ⟨w, .session left a k rounds⟩) (hs : esmeShutdownStep w (.session left a k rounds) = some pc) :
    GoesOn ⟨w, pc⟩ := by
  obtain ⟨hle, hrounds⟩ := hg
  cases rounds with
  | zero =>
    obtain rfl := Option.some.inj hs
    cases k with
    | tx => exact goesOn_afterSessions hle
    | rx => exact absurd rfl (hrounds rfl)
  | succ rounds =>
    rw [esmeShutdownStep] at hs
    split at hs
    · obtain rfl := Option.some.inj hs
      exact .inl rfl
    · rename_i e he
      have he := Arena.get?_eq_some.mp he
      split at hs
      · rename_i f hget
        obtain rfl := Option.some.inj hs
        exact .inr (gwlistGet_eq_error hget)
      · rename_i s hget
        obtain rfl := Option.some.inj hs
        have hmem : s ∈ e.sessions k := List.mem_of_getElem? (gwlistGet_eq_ok.mp hget).2
        obtain ⟨m, hk, hb⟩ := (h.entryOk he).bound k s hmem
        have hopen : w.phase s.conn ≠ .closed := by
          rw [hb]
          simp
        refine ⟨?_, fun _ => ⟨m, s.sessionId, hb, hk⟩⟩
        rw [if_neg hopen]
        exact hle

/-- The thread that was waited for has ended. -/
theorem goesOn_joining {pc : DownPc} (h : Registered w.registry w.phase)
    (hg : GoesOn ⟨w, .joining left a k rounds conn⟩)
    (hs : esmeShutdownStep w (.joining left a k rounds conn) = some pc) : GoesOn ⟨w, pc⟩ := by
  obtain ⟨hle, -⟩ := hg
  rw [esmeShutdownStep] at hs
  obtain ⟨hclosed, hs⟩ := Option.ite_none_right_eq_some.mp hs
  rw [if_pos hclosed] at hle
  split at hs
  · obtain rfl := Option.some.inj hs
    exact .inl rfl
  · rename_i e he
    have he := Arena.get?_eq_some.mp he
    obtain rfl := Option.some.inj hs
    split
    · rename_i hnil
      cases k with
      | tx =>
        refine goesOn_afterSessions ⟨fun e' he' => ?_, hle.tx⟩
        rw [Arena.val_unique he' he, hnil]
        exact le_rfl
      | rx => exact absurd hnil (h.rx_ne_nil he (hle.tx rfl e he))
    · rename_i hmore
      refine ⟨hle, fun _ hzero => hmore ?_⟩
      exact List.length_eq_zero_iff.mp (Nat.le_zero.mp (hzero ▸ hle.length_le e he))

/-- **A step of `esme_shutdown`** keeps what holds. -/
theorem goesOn_shutdown (h : Registered w.registry w.phase) {pc pc' : DownPc} (hg : GoesOn ⟨w, pc⟩)
    (hs : esmeShutdownStep w pc = some pc') : GoesOn ⟨w, pc'⟩ := by
  cases pc with
  | account left => exact goesOn_account hg hs
  | counting left a k => exact goesOn_counting h hg hs
  | session left a k rounds => exact goesOn_session h hg hs
  | joining left a k rounds conn => exact goesOn_joining h hg hs
  | done => exact absurd hs (by simp [esmeShutdownStep])
  | failed f => exact absurd hs (by simp [esmeShutdownStep])

/-- A session that ends keeps what holds at an entry. -/
theorem AtEntry.ends {bound : ℕ} (hle : AtEntry w a k bound) (h : Registered w.registry w.phase)
    (hs : atomicStep w (.destroy conn) = some w') : AtEntry w' a k bound := by
  obtain ⟨-, b, m, i, -, -, hcells⟩ := atomicStep_ends h hs
  refine ⟨fun e' he' => ?_, fun hk e' he' => ?_⟩
  · obtain ⟨e, he, hsessions⟩ := hcells he'
    exact (length_sessions_le_of_ends (hsessions k)).trans (hle.length_le e he)
  · obtain ⟨e, he, hsessions⟩ := hcells he'
    have hnil := length_sessions_le_of_ends (hsessions .tx)
    rw [hle.tx hk e he] at hnil
    exact List.length_eq_zero_iff.mp (Nat.le_zero.mp hnil)

/-- The thread that `esme_shutdown` waits for takes its session with it. -/
theorem AtEntry.joined {m i : ℤ} (hle : AtEntry w a k (rounds + 1)) (h : Registered w.registry w.phase)
    (hb : w.phase conn = .bound a m i) (hk : Kind.ofMode m = k)
    (hs : atomicStep w (.destroy conn) = some w') : AtEntry w' a k rounds := by
  refine ⟨fun e' he' => ?_, (hle.ends h hs).tx⟩
  obtain ⟨-, b, m', i', hb', -, hcells⟩ := atomicStep_ends h hs
  rw [hb, Phase.bound.injEq] at hb'
  obtain ⟨rfl, rfl, rfl⟩ := hb'
  obtain ⟨e, he, hsessions⟩ := hcells he'
  obtain ⟨e₁, he₁, s, hmem, hsi, -⟩ := h.hasSession hb
  obtain rfl := Arena.val_unique he he₁
  have hlt : (e'.sessions k).length < (e.sessions k).length := by
    rw [hsessions k, if_pos ⟨rfl, hk.symm⟩]
    exact List.length_filter_lt_length_iff_exists.mpr ⟨s, hk ▸ hmem, by simpa using hsi⟩
  have := hle.length_le e he
  omega

/-- **A session that ends** keeps what holds while `esme_shutdown` goes on. -/
theorem goesOn_ends {pc : DownPc} {c : ℕ} (h : Registered w.registry w.phase) (hg : GoesOn ⟨w, pc⟩)
    (hs : atomicStep w (.destroy c) = some w') : GoesOn ⟨w', pc⟩ := by
  cases pc with
  | account left => exact hg
  | counting left a k =>
    intro hk
    have hle : AtEntry w a .tx 0 := ⟨fun e he => by rw [hg hk e he]; exact le_rfl, fun hk => absurd hk (by simp)⟩
    exact fun e he => List.length_eq_zero_iff.mp (Nat.le_zero.mp ((hle.ends h hs).length_le e he))
  | session left a k rounds => exact ⟨hg.1.ends h hs, hg.2⟩
  | joining left a k rounds conn =>
    obtain ⟨-, b, m, i, hb, hphase, -⟩ := atomicStep_ends h hs
    obtain ⟨hle, hbound⟩ := hg
    by_cases hc : c = conn
    · subst hc
      have hopen : w.phase c ≠ .closed := by
        rw [hb]
        simp
      obtain ⟨m', i', hb', hk⟩ := hbound hopen
      have hclosed : w'.phase c = .closed := by rw [hphase, update_self]
      rw [if_neg hopen] at hle
      refine ⟨?_, fun hne => absurd hclosed hne⟩
      rw [if_pos hclosed]
      exact hle.joined h hb' hk hs
    · have hsame : w'.phase conn = w.phase conn := by rw [hphase, update_of_ne (Ne.symm hc)]
      refine ⟨?_, fun hne => ?_⟩
      · rw [hsame]
        exact hle.ends h hs
      · rw [hsame]
        exact hbound (hsame ▸ hne)
  | done => exact hg
  | failed f => exact hg

/-- What holds of the registry and of `esme_shutdown`. -/
structure Down.Inv (d : Down) : Prop where
  registered : Registered d.world.registry d.world.phase
  goesOn : GoesOn d

/-- Every step of the process that is no bind keeps what holds. -/
theorem Down.Inv.step {ev : DownEvent} (h : d.Inv) (hev : ev.Settled) (hs : downStep d ev = some d') : d'.Inv := by
  obtain ⟨w, pc⟩ := d
  cases ev with
  | shutdown =>
    obtain ⟨pc', hpc', rfl⟩ := Option.map_eq_some_iff.mp hs
    exact ⟨h.registered, goesOn_shutdown h.registered h.goesOn hpc'⟩
  | ends c =>
    rw [downStep, Down.change] at hs
    split at hs
    · exact absurd hs (by simp)
    · obtain ⟨w', hw', rfl⟩ := Option.map_eq_some_iff.mp hs
      exact ⟨registered_atomicStep h.registered hw', goesOn_ends h.registered h.goesOn hw'⟩
  | binds env tc pdu mode => exact absurd hev id

/-- Every run without a bind keeps what holds. -/
theorem Down.Inv.run {es : List DownEvent} (h : d.Inv) (hes : ∀ ev ∈ es, ev.Settled)
    (hr : exec downStep d es = some d') : d'.Inv :=
  exec_invariant (G := fun _ ev => ev.Settled) Down.Inv.step h (along_of_mem (fun ev hev _ => hes ev hev) d) hr

end GoesOn

/-! ## Where it ends

Each step of `esme_shutdown` comes closer to its end, and the thread it waits for can always end.  So it does
not wait for ever, and while it goes on it can only fail. -/

/-- How far `esme_shutdown` is: the rounds to come, the lists of the entry, the rounds for the list. -/
def DownPc.measure : DownPc → ℕ ×ₗ ℕ ×ₗ ℕ
  | .account left => toLex (left, toLex (0, 0))
  | .counting left _ .tx => toLex (left, toLex (4, 0))
  | .counting left _ .rx => toLex (left, toLex (2, 0))
  | .session left _ .tx rounds => toLex (left, toLex (3, 2 * rounds))
  | .session left _ .rx rounds => toLex (left, toLex (1, 2 * rounds))
  | .joining left _ .tx rounds _ => toLex (left, toLex (3, 2 * rounds + 1))
  | .joining left _ .rx rounds _ => toLex (left, toLex (1, 2 * rounds + 1))
  | .done => toLex (0, toLex (0, 0))
  | .failed _ => toLex (0, toLex (0, 0))

section Ending

variable {w : World} {pc pc' : DownPc}

/-- Every step of `esme_shutdown` fails, ends or gets further. -/
theorem measure_lt (hs : esmeShutdownStep w pc = some pc') :
    (∃ f, pc' = .failed f) ∨ pc' = .done ∨ pc'.measure < pc.measure := by
  cases pc with
  | account left =>
    cases left with
    | zero => exact .inr (.inl (Option.some.inj hs).symm)
    | succ left =>
      rw [esmeShutdownStep] at hs
      split at hs <;> obtain rfl := Option.some.inj hs
      · exact .inl ⟨_, rfl⟩
      · exact .inr (.inr (Prod.Lex.toLex_lt_toLex.mpr (.inl (Nat.lt_succ_self _))))
  | counting left a k =>
    rw [esmeShutdownStep] at hs
    split at hs <;> obtain rfl := Option.some.inj hs
    · exact .inl ⟨_, rfl⟩
    · cases k <;> simp [DownPc.measure, Prod.Lex.toLex_lt_toLex]
  | session left a k rounds =>
    cases rounds with
    | zero =>
      obtain rfl := Option.some.inj hs
      cases k <;> simp [DownPc.measure, afterSessions, Prod.Lex.toLex_lt_toLex]
    | succ rounds =>
      rw [esmeShutdownStep] at hs
      split at hs
      · exact .inl ⟨_, (Option.some.inj hs).symm⟩
      · split at hs <;> obtain rfl := Option.some.inj hs
        · exact .inl ⟨_, rfl⟩
        · cases k <;> simp [DownPc.measure, Prod.Lex.toLex_lt_toLex] <;> omega
  | joining left a k rounds conn =>
    rw [esmeShutdownStep] at hs
    split at hs
    · split at hs
      · exact .inl ⟨_, (Option.some.inj hs).symm⟩
      · obtain rfl := Option.some.inj hs
        split <;> cases k <;> simp [DownPc.measure, afterSessions, Prod.Lex.toLex_lt_toLex]
    · exact absurd hs (by simp)
  | done => exact absurd hs (by simp [esmeShutdownStep])
  | failed f => exact absurd hs (by simp [esmeShutdownStep])

/-- `esme_shutdown` waits for nothing but the end of a thread. -/
theorem esmeShutdownStep_isSome (hdone : pc ≠ .done) (hfailed : ∀ f, pc ≠ .failed f)
    (hjoin : ∀ left a k rounds conn, pc = .joining left a k rounds conn → w.phase conn = .closed) :
    ∃ pc', esmeShutdownStep w pc = some pc' := by
  cases pc with
  | account left =>
    cases left with
    | zero => exact ⟨_, rfl⟩
    | succ left =>
      rw [esmeShutdownStep]
      split <;> exact ⟨_, rfl⟩
  | counting left a k =>
    rw [esmeShutdownStep]
    split <;> exact ⟨_, rfl⟩
  | session left a k rounds =>
    cases rounds with
    | zero => exact ⟨_, rfl⟩
    | succ rounds =>
      rw [esmeShutdownStep]
      split
      · exact ⟨_, rfl⟩
      · split <;> exact ⟨_, rfl⟩
  | joining left a k rounds conn =>
    rw [esmeShutdownStep, if_pos (hjoin left a k rounds conn rfl)]
    split <;> exact ⟨_, rfl⟩
  | done => exact absurd rfl hdone
  | failed f => exact absurd rfl (hfailed f)

/-- The thread that `esme_shutdown` waits for can end. -/
theorem join_ends (h : Down.Inv ⟨w, pc⟩) (hfailed : ∀ f, pc ≠ .failed f) :
    ∃ es w', (∀ ev ∈ es, DownEvent.Settled ev) ∧ exec downStep ⟨w, pc⟩ es = some ⟨w', pc⟩ ∧
      ∃ pc', esmeShutdownStep w' pc = some pc' := by
  have hdone : pc ≠ .done := by
    rintro rfl
    exact h.goesOn
  by_cases hopen : ∃ left a k rounds conn, pc = .joining left a k rounds conn ∧ w.phase conn ≠ .closed
  · obtain ⟨left, a, k, rounds, conn, rfl, hne⟩ := hopen
    obtain ⟨m, i, hb, -⟩ := h.goesOn.2 hne
    obtain ⟨e, he, -⟩ := h.registered.hasSession hb
    obtain ⟨r, hd, -, -⟩ := h.registered.destroy hb he
    have hs : atomicStep w (.destroy conn) = some ⟨r, update w.phase conn .closed⟩ := by
      rw [atomicStep, hb]
      dsimp only
      rw [hd]
    refine ⟨[.ends conn], _, by simp [DownEvent.Settled],
      exec_cons_eq_some.mpr ⟨_, congrArg (Option.map _) hs, rfl⟩, ?_⟩
    refine esmeShutdownStep_isSome hdone hfailed fun left' a' k' rounds' conn' hpc => ?_
    obtain ⟨-, -, -, -, rfl⟩ := DownPc.joining.inj hpc
    exact update_self _ _ _
  · push Not at hopen
    exact ⟨[], w, by simp, rfl, esmeShutdownStep_isSome hdone hfailed hopen⟩

/-- **While it goes on it can only fail.** -/
theorem fails_of_goesOn (h : Down.Inv ⟨w, pc⟩) :
    ∃ es d f, (∀ ev ∈ es, DownEvent.Settled ev) ∧ exec downStep ⟨w, pc⟩ es = some d ∧ d.pc = .failed f ∧
      (f = .dangling ∨ f = .outOfList) := by
  -- by the progress of `esme_shutdown`; meanwhile at most the thread that it waits for ends
  induction hm : pc.measure using WellFoundedLT.induction generalizing w pc with
  | ind n ih =>
    by_cases hfailed : ∃ f, pc = .failed f
    · obtain ⟨f, rfl⟩ := hfailed
      exact ⟨[], _, f, by simp, rfl, rfl, h.goesOn⟩
    obtain ⟨es, w', hsettled, hes, pc', hpc'⟩ := join_ends h (not_exists.mp hfailed)
    have hstep : downStep ⟨w', pc⟩ .shutdown = some ⟨w', pc'⟩ :=
      congrArg (Option.map fun pc => (⟨w', pc⟩ : Down)) hpc'
    have hinv : Down.Inv ⟨w', pc'⟩ := (h.run hsettled hes).step (show DownEvent.Settled .shutdown from trivial) hstep
    have hrun := exec_concat hes hstep
    have hsettled' : ∀ ev ∈ es ++ [.shutdown], DownEvent.Settled ev :=
      List.forall_mem_append.mpr ⟨hsettled, by simp [DownEvent.Settled]⟩
    obtain ⟨f, rfl⟩ | rfl | hlt := measure_lt hpc'
    · exact ⟨_, _, f, hsettled', hrun, rfl, hinv.goesOn⟩
    · exact absurd hinv.goesOn id
    · obtain ⟨es', d, f, hes', hd, hf⟩ := ih _ (hm ▸ hlt) hinv rfl
      exact ⟨_, d, f, List.forall_mem_append.mpr ⟨hsettled', hes'⟩, (exec_append hrun).trans hd, hf⟩

/-- **`esme_shutdown` gets to its end exactly if no session is bound when it starts**, however the session threads
end meanwhile, unless a bind was in progress.  If one is bound, every run can go on until `esme_shutdown` reads an
entry that was freed or a list that has become empty. -/
theorem esme_shutdown_returns_iff {hist : List AtomicEvent} (hw : exec atomicStep World.init hist = some w) :
    ((∃ es d, (∀ ev ∈ es, DownEvent.Settled ev) ∧ exec downStep (Down.start w) es = some d ∧ d.pc = .done) ↔
        w.registry.cells = []) ∧
      (w.registry.cells ≠ [] → ∀ es d, (∀ ev ∈ es, DownEvent.Settled ev) →
        exec downStep (Down.start w) es = some d →
          ∃ es' d' f, (∀ ev ∈ es', DownEvent.Settled ev) ∧ exec downStep d es' = some d' ∧ d'.pc = .failed f ∧
            (f = .dangling ∨ f = .outOfList)) := by
  have h : Registered w.registry w.phase :=
    exec_invariant_of_step (P := fun w => Registered w.registry w.phase) registered_atomicStep registered_init hw
  have hstart : w.registry.cells ≠ [] → (Down.start w).Inv := fun hne =>
    ⟨h, fun hzero => hne (List.length_eq_zero_iff.mp hzero)⟩
  refine ⟨⟨?_, fun hnil => ?_⟩, fun hne es d hes hd => fails_of_goesOn ((hstart hne).run hes hd)⟩
  · rintro ⟨es, d, hes, hd, hdone⟩
    by_contra hne
    have hg := ((hstart hne).run hes hd).goesOn
    rw [GoesOn, hdone] at hg
    exact hg
  · refine ⟨[.shutdown], ⟨w, .done⟩, by simp [DownEvent.Settled], ?_, rfl⟩
    rw [Down.start, hnil]
    rfl

/-- One transmitter is bound: `esme_shutdown` never gets to its end. -/
theorem esme_shutdown_returns_iff_sampleHistory :
    ∃ w, exec atomicStep World.init sampleHistory = some w ∧
      ¬ ∃ es d, (∀ ev ∈ es, DownEvent.Settled ev) ∧ exec downStep (Down.start w) es = some d ∧ d.pc = .done := by
  have hrun : ((exec atomicStep World.init sampleHistory).map fun w => w.registry.cells.length) = some 1 := by
    decide
  obtain ⟨w, hw, hone⟩ := Option.map_eq_some_iff.mp hrun
  refine ⟨w, hw, fun hdone => ?_⟩
  rw [(esme_shutdown_returns_iff hw).1.mp hdone] at hone
  exact absurd hone (by simp)

/-- While `esme_shutdown` waits for that transmitter another one of the account binds: it gets to its end, with the
new one bound. -/
example : ((exec atomicStep World.init sampleHistory).bind fun w => exec downStep (Down.start w)
    ([.shutdown, .shutdown, .shutdown,
      .binds sampleEnv (tempconnCreate 2 (octstrImm "10.0.0.3") 4000 2775 1) samplePdu 1, .ends 1] ++
      List.replicate 5 .shutdown)).map (fun d => (d.pc, d.world.phase 2)) = some (.done, .bound 0 1 1) := by
  decide +kernel

end Ending

end SmppServer.SmppEsme
