import Mathlib.Data.List.Basic

/-!
# Machinery/Fifo — messages handled in the order they were sent

A queue holds messages that **add** keys to what the reader knows, and messages that **need** keys to
be known when their turn comes.  `Covered known q` says that every message of the queue will find what
it needs: the keys known now, and those added by the messages before it.

* `Covered.concat` — a message may be sent when what it needs is known or was added before it.
* `Covered.append` — messages that need nothing may always be sent.
-/

namespace Machinery

variable {α κ : Type*}

section Covered

variable (adds : α → List κ) (needs : α → κ → Prop)

/-- Every message finds what it needs when its turn comes. -/
def Covered : List κ → List α → Prop
  | _, [] => True
  | known, m :: q => (∀ k, needs m k → k ∈ known) ∧ Covered (adds m ++ known) q

end Covered

variable {adds : α → List κ} {needs needs' : α → κ → Prop} {known known' : List κ} {q : List α} {m : α}

/-- More may be known, and less be needed. -/
theorem Covered.mono (h : Covered adds needs known q) (hknown : ∀ k ∈ known, k ∈ known')
    (hneeds : ∀ m ∈ q, ∀ k, needs' m k → needs m k) : Covered adds needs' known' q := by
  induction q generalizing known known' with
  | nil => trivial
  | cons m q ih =>
    refine ⟨fun k hk => hknown k (h.1 k (hneeds m List.mem_cons_self k hk)), ih h.2 ?_ ?_⟩
    · intro k hk
      obtain hk | hk := List.mem_append.mp hk
      · exact List.mem_append_left _ hk
      · exact List.mem_append_right _ (hknown k hk)
    · exact fun m' hm' => hneeds m' (List.mem_cons_of_mem m hm')

/-- **A message is sent** whose needs are known, or added by the messages before it. -/
theorem Covered.concat (h : Covered adds needs known q)
    (hm : ∀ k, needs m k → k ∈ known ∨ k ∈ q.flatMap adds) : Covered adds needs known (q ++ [m]) := by
  induction q generalizing known with
  | nil => exact ⟨fun k hk => (hm k hk).resolve_right List.not_mem_nil, trivial⟩
  | cons m' q ih =>
    refine ⟨h.1, ih h.2 fun k hk => ?_⟩
    obtain hknown | hadded := hm k hk
    · exact .inl (List.mem_append_right _ hknown)
    · obtain hhead | hrest := List.mem_append.mp (List.flatMap_cons ▸ hadded)
      · exact .inl (List.mem_append_left _ hhead)
      · exact .inr hrest

/-- Messages that need nothing may always be sent. -/
theorem Covered.append {q' : List α} (h : Covered adds needs known q)
    (hq' : ∀ m ∈ q', ∀ k, ¬ needs m k) : Covered adds needs known (q ++ q') := by
  induction q' generalizing q with
  | nil => rwa [List.append_nil]
  | cons m q' ih =>
    have hm : Covered adds needs known (q ++ [m]) :=
      h.concat fun k hk => absurd hk (hq' m List.mem_cons_self k)
    have happ := ih hm fun m' hm' => hq' m' (List.mem_cons_of_mem m hm')
    rwa [List.append_assoc] at happ

end Machinery
