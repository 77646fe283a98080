import Mathlib.Data.List.Basic

/-!
# Machinery/Exec — runs of a partial step function, and the invariant rule

A system is a step function `σ → ι → Option σ`: an event either moves the state or is not enabled
in it.  A **run** folds the step function over a list of events, and is defined when every event of
the list was enabled; quantifying over all lists of events therefore ranges over every reachable
state.  `Along step G s es` says that each event of the run met the guard `G` *in the state it was
taken from* — the way to speak of runs that stay away from one transition.

* `exec_invariant` — the guarded invariant rule: what every guarded step preserves holds at the end
  of every guarded run.
* `exec_invariant_of_step` — the same for unrestricted runs.
* `along_congr` — a fact about single steps, stated for all steps of a run.
* `always_iff_along` — when the guarded steps are the *only* ones that keep a property, a run has the
  property throughout exactly when it is guarded.
-/

namespace Machinery

variable {σ ι : Type*}

/-- The run of `step` over a list of events, defined when every event is enabled. -/
def exec (step : σ → ι → Option σ) : σ → List ι → Option σ
  | s, [] => some s
  | s, e :: es => (step s e).bind fun s' => exec step s' es

/-- Every event of the run meets `G` in the state it is taken from. -/
def Along (step : σ → ι → Option σ) (G : σ → ι → Prop) : σ → List ι → Prop
  | _, [] => True
  | s, e :: es => G s e ∧
      match step s e with
      | none => True
      | some s' => Along step G s' es

variable {step : σ → ι → Option σ} {G : σ → ι → Prop} {s s' s'' : σ} {e : ι} {es : List ι}

@[simp] theorem exec_nil : exec step s [] = some s := rfl

theorem exec_cons_eq_some :
    exec step s (e :: es) = some s'' ↔ ∃ s', step s e = some s' ∧ exec step s' es = some s'' := by
  rw [exec, Option.bind_eq_some_iff]

/-- A run goes on with one more event. -/
theorem exec_concat (h : exec step s es = some s') (he : step s' e = some s'') :
    exec step s (es ++ [e]) = some s'' := by
  induction es generalizing s with
  | nil =>
    obtain rfl : s = s' := Option.some.inj h
    exact exec_cons_eq_some.mpr ⟨s'', he, rfl⟩
  | cons e' es ih =>
    obtain ⟨t, ht, htail⟩ := exec_cons_eq_some.mp h
    exact exec_cons_eq_some.mpr ⟨t, ht, ih htail⟩

/-- A run goes on with another run. -/
theorem exec_append {es' : List ι} (h : exec step s es = some s') : exec step s (es ++ es') = exec step s' es' := by
  induction es generalizing s with
  | nil =>
    obtain rfl : s = s' := Option.some.inj h
    rfl
  | cons e es ih =>
    obtain ⟨t, ht, htail⟩ := exec_cons_eq_some.mp h
    rw [List.cons_append, exec, ht]
    exact ih htail

theorem Along.head (h : Along step G s (e :: es)) : G s e := h.1

theorem Along.tail (h : Along step G s (e :: es)) (hs : step s e = some s') :
    Along step G s' es := by
  have h2 := h.2
  rw [hs] at h2
  exact h2

theorem Along.of_append {es₁ es₂ : List ι} (h : Along step G s (es₁ ++ es₂))
    (hs : exec step s es₁ = some s') : Along step G s' es₂ := by
  induction es₁ generalizing s with
  | nil =>
    obtain rfl : s = s' := Option.some.inj hs
    exact h
  | cons e es ih =>
    obtain ⟨t, ht, hrest⟩ := exec_cons_eq_some.mp hs
    exact ih (h.tail ht) hrest

/-- Two guards along one run. -/
theorem Along.and {H : σ → ι → Prop} (hG : Along step G s es) (hH : Along step H s es) :
    Along step (fun s e => G s e ∧ H s e) s es := by
  induction es generalizing s with
  | nil => trivial
  | cons e es ih =>
    obtain ⟨hGe, hGes⟩ := hG
    obtain ⟨hHe, hHes⟩ := hH
    refine ⟨⟨hGe, hHe⟩, ?_⟩
    cases hs : step s e with
    | none => trivial
    | some t =>
      rw [hs] at hGes hHes
      exact ih hGes hHes

/-- A decidable guard is decided along a run by running it. -/
instance Along.decidable [∀ s e, Decidable (G s e)] :
    ∀ (s : σ) (es : List ι), Decidable (Along step G s es)
  | _, [] => .isTrue trivial
  | s, e :: es =>
    match h : step s e with
    | none => decidable_of_iff (G s e) (by simp [Along, h])
    | some s' =>
      have := Along.decidable s' es
      decidable_of_iff (G s e ∧ Along step G s' es) (by simp [Along, h])

/-- A guard that every event of the run meets in any state holds along it. -/
theorem along_of_mem : ∀ {es : List ι}, (∀ e ∈ es, ∀ s, G s e) → ∀ s : σ, Along step G s es
  | [], _, _ => trivial
  | e :: es, h, s => by
    obtain ⟨he, hes⟩ := List.forall_mem_cons.mp h
    refine ⟨he s, ?_⟩
    cases step s e with
    | none => trivial
    | some s' => exact along_of_mem hes s'

/-- A guard that every enabled step meets holds along every run. -/
theorem along_of_forall (h : ∀ s e, G s e) (es : List ι) (s : σ) : Along step G s es :=
  along_of_mem (fun e _ s => h s e) s

/-- **The guarded invariant rule**: what every guarded step preserves holds at the end of every
guarded run. -/
theorem exec_invariant {Inv : σ → Prop}
    (hstep : ∀ {s e s'}, Inv s → G s e → step s e = some s' → Inv s') :
    ∀ {es : List ι} {s s' : σ}, Inv s → Along step G s es → exec step s es = some s' → Inv s' := by
  intro es
  induction es with
  | nil =>
    intro s s' hi _ hr
    rw [exec_nil, Option.some.injEq] at hr
    exact hr ▸ hi
  | cons e es ih =>
    intro s s' hi ha hr
    obtain ⟨t, ht, hr'⟩ := exec_cons_eq_some.mp hr
    exact ih (hstep hi ha.head ht) (ha.tail ht) hr'

/-- Two guards that agree on the steps of an invariant agree on its runs. -/
theorem along_congr {Inv : σ → Prop} {H : σ → ι → Prop}
    (hstep : ∀ {s e s'}, Inv s → step s e = some s' → Inv s')
    (hiff : ∀ {s e s'}, Inv s → step s e = some s' → (G s e ↔ H s e)) :
    ∀ {es : List ι} {s s' : σ}, Inv s → exec step s es = some s' →
      (Along step G s es ↔ Along step H s es) := by
  intro es
  induction es with
  | nil => exact fun _ _ => Iff.rfl
  | cons e es ih =>
    intro s s' hi hr
    obtain ⟨t, ht, hr'⟩ := exec_cons_eq_some.mp hr
    simp only [Along, ht]
    exact and_congr (hiff hi ht) (ih (hstep hi ht) hr')

/-- The invariant rule for unrestricted runs. -/
theorem exec_invariant_of_step {P : σ → Prop}
    (hstep : ∀ {s e s'}, P s → step s e = some s' → P s')
    {es : List ι} {s s' : σ} (hi : P s) (hr : exec step s es = some s') : P s' :=
  exec_invariant (G := fun _ _ => True) (fun hs _ ht => hstep hs ht) hi
    (along_of_forall (fun _ _ => trivial) es s) hr

/-- A property holds in every state of the run. -/
def Always (step : σ → ι → Option σ) (P : σ → Prop) : σ → List ι → Prop
  | s, [] => P s
  | s, e :: es => P s ∧
      match step s e with
      | none => True
      | some s' => Always step P s' es

theorem Always.head {P : σ → Prop} (h : Always step P s es) : P s := by
  cases es with
  | nil => exact h
  | cons e es => exact h.1

theorem Always.last {P : σ → Prop} (h : Always step P s es) (hr : exec step s es = some s') : P s' := by
  induction es generalizing s with
  | nil =>
    obtain rfl : s = s' := Option.some.inj hr
    exact h
  | cons e es ih =>
    obtain ⟨t, ht, hrest⟩ := exec_cons_eq_some.mp hr
    have htail := h.2
    rw [ht] at htail
    exact ih htail hrest

/-- What holds in every state of a run, each of its steps starts from. -/
theorem Always.along {P : σ → Prop} (hG : ∀ {s e s'}, P s → step s e = some s' → G s e)
    (h : Always step P s es) (hr : exec step s es = some s') : Along step G s es := by
  induction es generalizing s with
  | nil => trivial
  | cons e es ih =>
    obtain ⟨t, ht, hrest⟩ := exec_cons_eq_some.mp hr
    have htail := h.2
    rw [ht] at htail
    refine ⟨hG h.head ht, ?_⟩
    rw [ht]
    exact ih htail hrest

/-- **The exact guard of a property.**  If an invariant implies the property, every guarded step
keeps the invariant, and every unguarded step breaks the property, then the property holds
throughout a run exactly when every step of the run is guarded. -/
theorem always_iff_along {Inv P : σ → Prop} (hP : ∀ {s}, Inv s → P s)
    (hstep : ∀ {s e s'}, Inv s → G s e → step s e = some s' → Inv s')
    (hbreak : ∀ {s e s'}, Inv s → ¬ G s e → step s e = some s' → ¬ P s') :
    ∀ {es : List ι} {s s' : σ}, Inv s → exec step s es = some s' →
      (Always step P s es ↔ Along step G s es) := by
  intro es
  induction es with
  | nil => exact fun hi _ => ⟨fun _ => trivial, fun _ => hP hi⟩
  | cons e es ih =>
    intro s s' hi hr
    obtain ⟨t, ht, hr'⟩ := exec_cons_eq_some.mp hr
    simp only [Always, Along, ht]
    constructor
    · rintro ⟨-, hal⟩
      have hG : G s e := by
        by_contra hG
        exact hbreak hi hG ht hal.head
      exact ⟨hG, (ih (hstep hi hG ht) hr').mp hal⟩
    · rintro ⟨hG, hal⟩
      exact ⟨hP hi, (ih (hstep hi hG ht) hr').mpr hal⟩

end Machinery
