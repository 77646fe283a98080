import SmppServer.Machinery.Exec

/-!
# Machinery/History — runs that remember

A **history** rides on a run and takes no part in it: `withHistory step note` moves the state by `step`,
and the history by what `note` says about the event and the state it is taken from.  What a run did so
far can then be spoken of in the guard of a step.

* `exec_withHistory` — every run has its history, so nothing is lost by following one.
* `along_withHistory` — a guard that does not look at the history.
-/

namespace Machinery

variable {σ ι γ : Type*} {step : σ → ι → Option σ} {note : σ → ι → γ → γ}

/-- The step function with a history beside the state. -/
def withHistory (step : σ → ι → Option σ) (note : σ → ι → γ → γ) (w : σ × γ) (e : ι) : Option (σ × γ) :=
  (step w.1 e).map fun s' => (s', note w.1 e w.2)

theorem withHistory_eq_some {w w' : σ × γ} {e : ι} :
    withHistory step note w e = some w' ↔ step w.1 e = some w'.1 ∧ w'.2 = note w.1 e w.2 := by
  rw [withHistory, Option.map_eq_some_iff]
  constructor
  · rintro ⟨s', hs', rfl⟩
    exact ⟨hs', rfl⟩
  · rintro ⟨hs, hg⟩
    exact ⟨w'.1, hs, by rw [← hg]⟩

/-- Every run has its history. -/
theorem exec_withHistory {s s' : σ} {es : List ι} (h : exec step s es = some s') (g : γ) :
    ∃ g', exec (withHistory step note) (s, g) es = some (s', g') := by
  induction es generalizing s g with
  | nil =>
    obtain rfl : s = s' := Option.some.inj h
    exact ⟨g, rfl⟩
  | cons e es ih =>
    obtain ⟨t, ht, hrest⟩ := exec_cons_eq_some.mp h
    obtain ⟨g', hg'⟩ := ih hrest (note s e g)
    exact ⟨g', exec_cons_eq_some.mpr ⟨(t, note s e g), withHistory_eq_some.mpr ⟨ht, rfl⟩, hg'⟩⟩

/-- A guard that does not look at the history holds along the run itself. -/
theorem along_withHistory {G : σ → ι → Prop} {s : σ} {g : γ} {es : List ι} :
    Along (withHistory step note) (fun w e => G w.1 e) (s, g) es ↔ Along step G s es := by
  induction es generalizing s g with
  | nil => exact Iff.rfl
  | cons e es ih =>
    refine and_congr_right fun _ => ?_
    rw [withHistory]
    cases step s e with
    | none => exact Iff.rfl
    | some s' => exact ih

end Machinery
