import SmppServer.Machinery.Exec
import Mathlib.Logic.Function.Basic
import Mathlib.Data.Nat.Notation

/-!
# Machinery/Locks — programs that take and release reader–writer locks

A `Locking` program works on the locks of a process, one for each name.  It returns a value and leaves
the locks in some state, or it does not return: it waits for a lock, it is still running after the steps
it was given, or it faults.

What a program does to the locks follows from its text, by rules that leave its branches apart.

* `Keeps m P` — whenever `m` returns, the locks are as before, and its value has the property `P`.
* `Releases x m P` — whenever `m` returns, `x` was unlocked once and nothing else changed.
* `Takes x m P` — whenever `m` returns, one more read lock is held on `x`.
* `Proceeds m l` — from the locks `l` the program does not wait for a lock for ever.

A read lock that a call leaves behind stays: calls that keep the locks do not give it back.

* `exec_callStep_eq_iff` — calls one behind the other leave the locks as they were exactly if each of them
  keeps them.
-/

namespace Machinery

/-! ## Locks -/

/-- A reader–writer lock: the number of read locks held on it, and whether the write lock is. -/
structure RwLock where
  readers : ℕ := 0
  writer : Bool := false
  deriving DecidableEq, Repr

namespace RwLock

/-- A read lock is given unless the write lock is held. -/
def rdlock (k : RwLock) : Option RwLock :=
  if k.writer then none else some { k with readers := k.readers + 1 }

/-- The write lock is given if nothing is held. -/
def wrlock (k : RwLock) : Option RwLock := if k = {} then some { writer := true } else none

/-- The write lock is released, or one read lock; something must be held. -/
def unlock (k : RwLock) : Option RwLock :=
  if k.writer then some { k with writer := false }
  else if 0 < k.readers then some { k with readers := k.readers - 1 } else none

theorem unlock_rdlock {k k' : RwLock} (h : k.rdlock = some k') : k'.unlock = some k := by
  obtain ⟨readers, writer⟩ := k
  obtain ⟨hw, h⟩ := Option.ite_none_left_eq_some.mp h
  rw [← Option.some.inj h]
  simp_all [unlock]

theorem unlock_wrlock {k k' : RwLock} (h : k.wrlock = some k') : k'.unlock = some k := by
  obtain ⟨rfl, h⟩ := Option.ite_none_right_eq_some.mp h
  rw [← Option.some.inj h]
  rfl

/-- The write lock is given exactly if the lock is free. -/
theorem isSome_wrlock {k : RwLock} : k.wrlock.isSome ↔ k = {} := by
  by_cases h : k = {} <;> simp [wrlock, h]

theorem readers_of_rdlock {k k' : RwLock} (h : k.rdlock = some k') :
    k'.readers = k.readers + 1 := by
  obtain ⟨-, h⟩ := Option.ite_none_left_eq_some.mp h
  rw [← Option.some.inj h]

end RwLock

/-! ## Programs

A program is a state monad over the locks that may stop.  Only taking and releasing touch a lock, and the state
of any other one is as it was. -/

/-- Why a program does not return. -/
inductive Stop (ε : Type)
  | blocked
  | unfinished
  | fault (f : ε)
  deriving DecidableEq, Repr

/-- A program over locks with names in `L`. -/
abbrev Locking (L ε α : Type) : Type := StateT (L → RwLock) (Except (Stop ε)) α

namespace Locking

variable {L ε α β : Type}

/-- The outcome of a computation that takes no locks; `none` if it is not finished. -/
def ofOutcome : Option (Except ε α) → Locking L ε α
  | none => throw .unfinished
  | some (.error f) => throw (.fault f)
  | some (.ok a) => pure a

/-- No lock is held. -/
def free : L → RwLock := fun _ => {}

section Actions

variable [DecidableEq L]

@[simp] theorem update_free (x : L) : Function.update free x {} = free := Function.update_eq_self x free

/-- One change of one lock, which waits until the lock allows it. -/
def change (act : RwLock → Option RwLock) (x : L) : Locking L ε Unit := fun l =>
  match act (l x) with
  | none => .error .blocked
  | some k => .ok ((), Function.update l x k)

def rdlock (x : L) : Locking L ε Unit := change RwLock.rdlock x

def wrlock (x : L) : Locking L ε Unit := change RwLock.wrlock x

def unlock (x : L) : Locking L ε Unit := change RwLock.unlock x

end Actions

/-! ## How a program returns -/

variable {m : Locking L ε α} {f : α → Locking L ε β} {l l' l'' : L → RwLock} {a : α} {b : β}

theorem run_bind_eq_ok : (m >>= f).run l = .ok (b, l'') ↔
    ∃ a l', m.run l = .ok (a, l') ∧ (f a).run l' = .ok (b, l'') := by
  rw [StateT.run_bind]
  cases h : m.run l with
  | error e => simp [bind, Except.bind]
  | ok p =>
    obtain ⟨a₀, l₀⟩ := p
    constructor
    · exact fun hf => ⟨a₀, l₀, rfl, hf⟩
    · rintro ⟨a, l', hp, hf⟩
      obtain ⟨rfl, rfl⟩ := Prod.mk.inj (Except.ok.inj hp)
      exact hf

theorem run_ofOutcome_eq_ok {o : Option (Except ε α)} (h : (ofOutcome o).run l = .ok (a, l')) :
    o = some (.ok a) ∧ l' = l := by
  match o, h with
  | some (.ok a'), h =>
    obtain ⟨rfl, rfl⟩ := Prod.mk.inj (Except.ok.inj h)
    exact ⟨rfl, rfl⟩

theorem run_change_eq_ok [DecidableEq L] {act : RwLock → Option RwLock} {x : L} {u : Unit}
    (h : (change act x : Locking L ε Unit).run l = .ok (u, l')) :
    ∃ k, act (l x) = some k ∧ l' = Function.update l x k := by
  change (match act (l x) with
    | none => Except.error Stop.blocked
    | some k => .ok ((), Function.update l x k)) = _ at h
  split at h
  · exact absurd h (by simp)
  · rename_i k hk
    exact ⟨k, hk, (Prod.mk.inj (Except.ok.inj h)).2.symm⟩

/-! ## What a program does to the locks

The three judgements differ in what the program owes: nothing, one unlocking of `x`, or one read lock on `x` too
many.  A bind adds up what its parts owe. -/

/-- When the program returns, the locks are as before, and its value has the property. -/
def Keeps (m : Locking L ε α) (P : α → Prop) : Prop :=
  ∀ ⦃l a l'⦄, m.run l = .ok (a, l') → l' = l ∧ P a

section Rules

variable {P : α → Prop} {Q : β → Prop}

theorem Keeps.pure (h : P a) : Keeps (pure a : Locking L ε α) P := by
  intro l b l' hrun
  obtain ⟨rfl, rfl⟩ := Prod.mk.inj (Except.ok.inj hrun)
  exact ⟨rfl, h⟩

theorem Keeps.ofOutcome (o : Option (Except ε α)) :
    Keeps (Locking.ofOutcome o : Locking L ε α) fun a => o = some (.ok a) :=
  fun _ _ _ hrun => (run_ofOutcome_eq_ok hrun).symm

theorem Keeps.bind (hm : Keeps m P) (hf : ∀ a, P a → Keeps (f a) Q) : Keeps (m >>= f) Q := by
  intro l b l'' hrun
  obtain ⟨a, l', hrunm, hrunf⟩ := run_bind_eq_ok.mp hrun
  obtain ⟨rfl, ha⟩ := hm hrunm
  exact hf a ha hrunf

theorem Keeps.mono {P' : α → Prop} (hm : Keeps m P) (h : ∀ a, P a → P' a) : Keeps m P' :=
  fun _ _ _ hrun => (hm hrun).imp_right (h _)

variable [DecidableEq L] {x : L}

/-- When the program returns, the lock was unlocked, once more than it was locked, and its value has the
property. -/
def Releases (x : L) (m : Locking L ε α) (P : α → Prop) : Prop :=
  ∀ ⦃l a l'⦄, m.run l = .ok (a, l') →
    (∃ k, (l x).unlock = some k ∧ l' = Function.update l x k) ∧ P a

/-- When the program returns, one more read lock is held on the lock, and its value has the property. -/
def Takes (x : L) (m : Locking L ε α) (P : α → Prop) : Prop :=
  ∀ ⦃l a l'⦄, m.run l = .ok (a, l') →
    (∃ k, (l x).rdlock = some k ∧ l' = Function.update l x k) ∧ P a

theorem Releases.unlock (hm : Keeps m P) : Releases x (do unlock x; m) P := by
  intro l a l'' hrun
  obtain ⟨u, l', hunlock, hrunm⟩ := run_bind_eq_ok.mp hrun
  obtain ⟨k, hk, rfl⟩ := run_change_eq_ok hunlock
  obtain ⟨rfl, ha⟩ := hm hrunm
  exact ⟨⟨k, hk, rfl⟩, ha⟩

theorem Releases.bind (hm : Keeps m P) (hf : ∀ a, P a → Releases x (f a) Q) :
    Releases x (m >>= f) Q := by
  intro l b l'' hrun
  obtain ⟨a, l', hrunm, hrunf⟩ := run_bind_eq_ok.mp hrun
  obtain ⟨rfl, ha⟩ := hm hrunm
  exact hf a ha hrunf

theorem Releases.mono {P' : α → Prop} (hm : Releases x m P) (h : ∀ a, P a → P' a) :
    Releases x m P' :=
  fun _ _ _ hrun => (hm hrun).imp_right (h _)

theorem Takes.rdlock (hm : Keeps m P) : Takes x (do rdlock x; m) P := by
  intro l a l'' hrun
  obtain ⟨u, l', hlock, hrunm⟩ := run_bind_eq_ok.mp hrun
  obtain ⟨k, hk, rfl⟩ := run_change_eq_ok hlock
  obtain ⟨rfl, ha⟩ := hm hrunm
  exact ⟨⟨k, hk, rfl⟩, ha⟩

theorem Takes.bind (hm : Takes x m P) (hf : ∀ a, P a → Keeps (f a) Q) : Takes x (m >>= f) Q := by
  intro l b l'' hrun
  obtain ⟨a, l', hrunm, hrunf⟩ := run_bind_eq_ok.mp hrun
  obtain ⟨hk, ha⟩ := hm hrunm
  obtain ⟨rfl, hb⟩ := hf a ha hrunf
  exact ⟨hk, hb⟩

/-- A change that the unlocking in the program takes back. -/
theorem Keeps.change {act : RwLock → Option RwLock}
    (hact : ∀ {k k' : RwLock}, act k = some k' → k'.unlock = some k) (hm : Releases x m P) :
    Keeps (do change act x; m) P := by
  intro l a l'' hrun
  obtain ⟨u, l', hlock, hrunm⟩ := run_bind_eq_ok.mp hrun
  obtain ⟨k, hk, rfl⟩ := run_change_eq_ok hlock
  obtain ⟨⟨k', hk', rfl⟩, ha⟩ := hm hrunm
  rw [Function.update_self, hact hk] at hk'
  obtain rfl := Option.some.inj hk'
  exact ⟨by rw [Function.update_idem, Function.update_eq_self], ha⟩

/-- **A lock taken for reading and released on the way.** -/
theorem Keeps.rdlock (hm : Releases x m P) : Keeps (do rdlock x; m) P :=
  .change RwLock.unlock_rdlock hm

/-- **A lock taken for writing and released on the way.** -/
theorem Keeps.wrlock (hm : Releases x m P) : Keeps (do wrlock x; m) P :=
  .change RwLock.unlock_wrlock hm

end Rules

/-! ## Waiting

Whether a program comes to a lock that is not given to it depends on the locks it starts from; a part that keeps
the locks hands them on to the next. -/

/-- From these locks the program does not come to a lock that is not given to it. -/
def Proceeds (m : Locking L ε α) (l : L → RwLock) : Prop := m.run l ≠ .error .blocked

section Proceeds

variable {P : α → Prop}

theorem Proceeds.pure (a : α) (l : L → RwLock) : Proceeds (pure a : Locking L ε α) l :=
  fun h => nomatch h

theorem Proceeds.ofOutcome (o : Option (Except ε α)) (l : L → RwLock) :
    Proceeds (Locking.ofOutcome o : Locking L ε α) l := by
  intro h
  match o, h with
  | none, h => nomatch h
  | some (.error _), h => nomatch h
  | some (.ok _), h => nomatch h

/-- A part that keeps the locks, and then the rest. -/
theorem Proceeds.bind (hgo : Proceeds m l) (hm : Keeps m P) (hf : ∀ a, P a → Proceeds (f a) l) :
    Proceeds (m >>= f) l := by
  intro hrun
  rw [StateT.run_bind] at hrun
  cases h : m.run l with
  | error e =>
    rw [h] at hrun
    obtain rfl : e = .blocked := Except.error.inj hrun
    exact hgo h
  | ok p =>
    obtain ⟨hl, ha⟩ := hm h
    rw [h] at hrun
    exact hf p.1 ha (hl ▸ hrun)

/-- What is done with the value changes nothing. -/
theorem Proceeds.map (hgo : Proceeds m l) (g : α → β) :
    Proceeds (do let a ← m; return g a) l := by
  intro hrun
  rw [StateT.run_bind] at hrun
  cases h : m.run l with
  | error e =>
    rw [h] at hrun
    obtain rfl : e = .blocked := Except.error.inj hrun
    exact hgo h
  | ok p =>
    rw [h] at hrun
    exact nomatch hrun

variable [DecidableEq L] {x : L} {k : RwLock}

theorem Proceeds.change {act : RwLock → Option RwLock} (hact : act (l x) = some k)
    (hm : Proceeds m (Function.update l x k)) : Proceeds (do change act x; m) l := by
  intro hrun
  refine hm ?_
  rw [← hrun, StateT.run_bind]
  have hchange : (Locking.change act x : Locking L ε Unit).run l =
      .ok ((), Function.update l x k) := by
    change (match act (l x) with
      | none => Except.error Stop.blocked
      | some k => .ok ((), Function.update l x k)) = _
    rw [hact]
  rw [hchange]
  rfl

/-- The lock is free. -/
theorem Proceeds.rdlock (hx : l x = {}) (hm : Proceeds m (Function.update l x { readers := 1 })) :
    Proceeds (do rdlock x; m) l :=
  .change (by rw [hx]; rfl) hm

/-- The lock is free. -/
theorem Proceeds.wrlock (hx : l x = {}) (hm : Proceeds m (Function.update l x { writer := true })) :
    Proceeds (do wrlock x; m) l :=
  .change (by rw [hx]; rfl) hm

/-- The lock is held for reading or for writing. -/
theorem Proceeds.unlock (hk : k.unlock = some {}) (hm : Proceeds m (Function.update l x {})) :
    Proceeds (do unlock x; m) (Function.update l x k) :=
  .change (by rw [Function.update_self]; exact hk) (by rwa [Function.update_idem])

end Proceeds

/-! ## Calls one behind the other

Since no call gives back what another left, the read locks held only grow along a run. -/

section Calls

variable {ι : Type} {run : ι → Locking L ε Unit} {U : ι → Prop} {c : ι} {calls : List ι}

/-- A call that returns moves the locks. -/
def callStep (run : ι → Locking L ε Unit) (l : L → RwLock) (c : ι) : Option (L → RwLock) :=
  match (run c).run l with
  | .ok (_, l') => some l'
  | .error _ => none

theorem callStep_eq_some (h : callStep run l c = some l') : (run c).run l = .ok ((), l') := by
  rw [callStep] at h
  split at h
  · rename_i hrun
    exact Option.some.inj h ▸ hrun
  · exact absurd h (by simp)

variable [DecidableEq L] (hkeeps : ∀ c, U c → Keeps (run c) fun _ => True)
  (htakes : ∀ c, ¬ U c → ∃ x, Takes x (run c) fun _ => True)
include hkeeps htakes

/-- A call keeps the locks, or one more read lock is held afterwards. -/
theorem callStep_cases (h : callStep run l c = some l') :
    U c ∧ l' = l ∨ ¬ U c ∧ (∀ x, (l x).readers ≤ (l' x).readers) ∧
      ∃ x, (l x).readers < (l' x).readers := by
  have hrun := callStep_eq_some h
  by_cases hU : U c
  · exact .inl ⟨hU, (hkeeps c hU hrun).1⟩
  · obtain ⟨x, hx⟩ := htakes c hU
    obtain ⟨⟨k, hk, rfl⟩, -⟩ := hx hrun
    have hmore : k.readers = (l x).readers + 1 := RwLock.readers_of_rdlock hk
    refine .inr ⟨hU, fun y => ?_, x, ?_⟩
    · by_cases hy : y = x
      · subst hy
        rw [Function.update_self]
        omega
      · exact Nat.le_of_eq (by rw [Function.update_of_ne hy])
    · rw [Function.update_self]
      omega

/-- No call gives back a read lock that was held before it. -/
theorem exec_callStep_le (h : exec (callStep run) l calls = some l') (x : L) :
    (l x).readers ≤ (l' x).readers := by
  induction calls generalizing l with
  | nil =>
    obtain rfl := Option.some.inj h
    exact Nat.le_refl _
  | cons c calls ih =>
    obtain ⟨l₁, hc, hrest⟩ := exec_cons_eq_some.mp h
    obtain ⟨-, rfl⟩ | ⟨-, hle, -⟩ := callStep_cases hkeeps htakes hc
    · exact ih hrest
    · exact Nat.le_trans (hle x) (ih hrest)

/-- **Calls leave the locks as they were exactly if each of them keeps them.** -/
theorem exec_callStep_eq_iff (h : exec (callStep run) l calls = some l') :
    l' = l ↔ ∀ c ∈ calls, U c := by
  induction calls generalizing l with
  | nil => simpa using (Option.some.inj h).symm
  | cons c calls ih =>
    obtain ⟨l₁, hc, hrest⟩ := exec_cons_eq_some.mp h
    rw [List.forall_mem_cons]
    obtain ⟨hU, rfl⟩ | ⟨hU, -, x, hlt⟩ := callStep_cases hkeeps htakes hc
    · rw [ih hrest, and_iff_right hU]
    · refine iff_of_false (fun heq => ?_) fun hall => hU hall.1
      have hle := exec_callStep_le hkeeps htakes hrest x
      rw [heq] at hle
      omega

end Calls

end Locking

end Machinery
