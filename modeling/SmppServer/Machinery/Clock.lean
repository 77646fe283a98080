import Mathlib.Data.Int.Notation
import SmppServer.Machinery.Exec

/-!
# Machinery/Clock — runs by a clock, with a log

A system runs **by the clock** when each event happens at a time, times do not go back, and an event
that reads the clock reads its own time.  What a property speaks of is taken down in a log, at most
one entry a step; the property then says of every entry that it is right after those before it.

* `Justified.concat` — a log with one more entry.
* `justified_of_step` — the invariant rule for logs: what each guarded step may take down, in the states
  of an invariant, decides what the log of a guarded run holds.
-/

namespace Machinery

variable {σ ι α : Type*}

/-- A system, the time, and the log. -/
structure Clocked (σ α : Type*) where
  state : σ
  clock : ℤ
  log : List α := []

/-- **One step by the clock**: an event with its time. -/
def clockedStep (step : σ → ι → Option σ) (time? : ι → Option ℤ) (note : σ → ℤ × ι → σ → Option α)
    (p : Clocked σ α) (e : ℤ × ι) : Option (Clocked σ α) :=
  if p.clock ≤ e.1 ∧ ∀ now ∈ time? e.2, now = e.1 then
    (step p.state e.2).map fun s => ⟨s, e.1, p.log ++ (note p.state e s).toList⟩
  else none

/-- Every entry of a log is right after those before it. -/
def Justified (P : List α → α → Prop) (log : List α) : Prop :=
  ∀ earlier a later, log = earlier ++ a :: later → P earlier a

section Rules

variable {step : σ → ι → Option σ} {time? : ι → Option ℤ} {note : σ → ℤ × ι → σ → Option α}
  {p p' : Clocked σ α} {e : ℤ × ι} {P : List α → α → Prop} {log : List α}

theorem clockedStep_eq_some : clockedStep step time? note p e = some p' ↔
    p.clock ≤ e.1 ∧ (∀ now ∈ time? e.2, now = e.1) ∧ ∃ s, step p.state e.2 = some s ∧
      p' = ⟨s, e.1, p.log ++ (note p.state e s).toList⟩ := by
  rw [clockedStep, Option.ite_none_right_eq_some, Option.map_eq_some_iff, and_assoc]
  simp only [eq_comm]

theorem Justified.nil (P : List α → α → Prop) : Justified P [] := by
  intro earlier a later h
  simp at h

/-- One more entry. -/
theorem Justified.concat {a : α} (h : Justified P log) (ha : P log a) : Justified P (log ++ [a]) := by
  intro earlier b later heq
  obtain rfl | ⟨later, last, rfl⟩ := later.eq_nil_or_concat
  · obtain ⟨rfl, hlast⟩ := List.append_inj' heq rfl
    obtain rfl := List.singleton_inj.mp hlast
    exact ha
  · rw [List.concat_eq_append, ← List.cons_append, ← List.append_assoc] at heq
    exact h earlier b later (List.append_inj' heq rfl).1

/-- The entry a step takes down, if it does. -/
theorem Justified.append_toList {o : Option α} (h : Justified P log) (ho : ∀ a ∈ o, P log a) :
    Justified P (log ++ o.toList) := by
  cases o with
  | none => rwa [Option.toList_none, List.append_nil]
  | some a => exact h.concat (ho a rfl)

/-- **The invariant rule for logs.** -/
theorem justified_of_step {Inv : Clocked σ α → Prop} {G : Clocked σ α → ℤ × ι → Prop}
    (hstep : ∀ {p e p'}, Inv p → G p e → clockedStep step time? note p e = some p' → Inv p')
    (hnote : ∀ {p e p'}, Inv p → G p e → clockedStep step time? note p e = some p' →
      ∀ a ∈ note p.state e p'.state, P p.log a)
    {es : List (ℤ × ι)} {p p' : Clocked σ α} (hi : Inv p) (hlog : Justified P p.log)
    (ha : Along (clockedStep step time? note) G p es)
    (hr : exec (clockedStep step time? note) p es = some p') : Justified P p'.log := by
  have hboth : ∀ {p e p'}, Inv p ∧ Justified P p.log → G p e →
      clockedStep step time? note p e = some p' → Inv p' ∧ Justified P p'.log := by
    rintro p e p' ⟨hi, hlog⟩ hg h
    refine ⟨hstep hi hg h, ?_⟩
    have hnew := hnote hi hg h
    obtain ⟨-, -, s, -, rfl⟩ := clockedStep_eq_some.mp h
    exact hlog.append_toList hnew
  exact (exec_invariant hboth ⟨hi, hlog⟩ ha hr).2

end Rules

end Machinery
