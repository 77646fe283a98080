import SmppServer.Machinery.Exec
import SmppServer.Machinery.Ledger

/-!
# Gwlib/DbPool — the database connections and the threads that share them

Every SQL statement of dbbox is run on a connection that a thread takes out of a pool and puts back.  A connection
that does not answer when it is taken out is closed, and *one* new connection is opened in its place; if that fails
the thread waits for another one, and the pool is smaller from then on.

* `pool_shared` — a connection is in the pool or with one thread; the pool knows how many there are, and how many
  it has lost for good; and as long as there is one, somebody can go on.
* `empty_pool_is_dead` — when the last connection is lost, no statement is run any more: the threads that wait
  do so for ever, and the next one to ask ends the process.
-/

namespace SmppServer

open Machinery
open scoped List

/-! ## The code

A statement takes its connection out of the pool, checks it and puts it back.  Between these a thread is in one
of five places, and the pool is whatever the threads do not hold. -/

/-- Where a thread is with its statement: it has none, waits in `gwlist_consume`, has a connection that is to be
checked, has closed one and is to open another, or runs its statement. -/
inductive DbThread
  | idle
  | waiting
  | checking (conn : ℕ)
  | reopening
  | querying (conn : ℕ)
  deriving DecidableEq, Repr

/-- The connections a thread has. -/
def DbThread.holds : DbThread → List ℕ
  | .checking conn | .querying conn => [conn]
  | _ => []

/-- The connections a thread is about to open. -/
def DbThread.owes : DbThread → List Unit
  | .reopening => [()]
  | _ => []

/-- `DBPool` with the threads that use it: the connections by their handles, and the next handle. -/
structure DbPool where
  pool : List ℕ
  currSize : ℕ
  maxSize : ℕ
  next : ℕ
  threads : List DbThread
  panicked : Bool := false
  deriving DecidableEq, Repr

namespace DbPool

/-- `dbpool_increase`, with the answers of the database to the attempts. -/
def increase (p : DbPool) : List Bool → DbPool
  | [] => p
  | answer :: answers =>
    if p.currSize < p.maxSize then
      increase
        (if answer then
          { p with pool := p.pool ++ [p.next], currSize := p.currSize + 1, next := p.next + 1 }
        else p)
        answers
    else p

/-- `dbpool_create`, with as many attempts as connections are wanted. -/
def create (answers : List Bool) : DbPool :=
  increase { pool := [], currSize := 0, maxSize := answers.length, next := 0, threads := [] } answers

end DbPool

/-- What happens: a thread is started, or it goes on. -/
inductive DbEvent
  | spawn
  | ask (t : ℕ)
  | consume (t : ℕ)
  | check (t : ℕ) (answer : Bool)
  | reopen (t : ℕ) (answer : Bool)
  | produce (t : ℕ)
  deriving DecidableEq, Repr

/-- **One step of the threads**: `dbpool_conn_consume`, the statement, and `dbpool_conn_produce`. -/
def dbStep (p : DbPool) : DbEvent → Option DbPool
  | .spawn => if p.panicked then none else some { p with threads := p.threads ++ [.idle] }
  | .ask t =>
    if p.panicked ∨ p.threads[t]? ≠ some .idle then none
    else if p.currSize < 1 then some { p with panicked := true }
    else some { p with threads := p.threads.set t .waiting }
  | .consume t =>
    if p.panicked ∨ p.threads[t]? ≠ some .waiting then none
    else match p.pool with
      | [] => none
      | conn :: rest => some { p with pool := rest, threads := p.threads.set t (.checking conn) }
  | .check t answer =>
    if p.panicked then none
    else match p.threads[t]? with
      | some (.checking conn) =>
        if answer then some { p with threads := p.threads.set t (.querying conn) }
        else some { p with currSize := p.currSize - 1, threads := p.threads.set t .reopening }
      | _ => none
  | .reopen t answer =>
    if p.panicked ∨ p.threads[t]? ≠ some .reopening then none
    else some { p.increase [answer] with threads := p.threads.set t .waiting }
  | .produce t =>
    if p.panicked then none
    else match p.threads[t]? with
      | some (.querying conn) => some { p with pool := p.pool ++ [conn], threads := p.threads.set t .idle }
      | _ => none

/-- **What one step does.** -/
theorem dbStep_cases {p p' : DbPool} {e : DbEvent} (hs : dbStep p e = some p') :
    p.panicked = false ∧
      match e with
      | .spawn => p' = { p with threads := p.threads ++ [.idle] }
      | .ask t => p.threads[t]? = some .idle ∧
          p' = if p.currSize < 1 then { p with panicked := true } else { p with threads := p.threads.set t .waiting }
      | .consume t => ∃ conn rest, p.threads[t]? = some .waiting ∧ p.pool = conn :: rest ∧
          p' = { p with pool := rest, threads := p.threads.set t (.checking conn) }
      | .check t answer => ∃ conn, p.threads[t]? = some (.checking conn) ∧
          p' = if answer then { p with threads := p.threads.set t (.querying conn) }
            else { p with currSize := p.currSize - 1, threads := p.threads.set t .reopening }
      | .reopen t answer => p.threads[t]? = some .reopening ∧
          p' = { p.increase [answer] with threads := p.threads.set t .waiting }
      | .produce t => ∃ conn, p.threads[t]? = some (.querying conn) ∧
          p' = { p with pool := p.pool ++ [conn], threads := p.threads.set t .idle } := by
  cases e with
  | spawn =>
    rw [dbStep] at hs
    obtain ⟨hp, hs⟩ := Option.ite_none_left_eq_some.mp hs
    exact ⟨by simpa using hp, (Option.some.inj hs).symm⟩
  | ask t =>
    rw [dbStep] at hs
    obtain ⟨hp, hs⟩ := Option.ite_none_left_eq_some.mp hs
    obtain ⟨hp, ht⟩ := not_or.mp hp
    rw [← apply_ite some] at hs
    exact ⟨by simpa using hp, not_not.mp ht, (Option.some.inj hs).symm⟩
  | consume t =>
    rw [dbStep] at hs
    obtain ⟨hp, hs⟩ := Option.ite_none_left_eq_some.mp hs
    obtain ⟨hp, ht⟩ := not_or.mp hp
    refine ⟨by simpa using hp, ?_⟩
    cases hpool : p.pool with
    | nil => simp [hpool] at hs
    | cons conn rest =>
      rw [hpool] at hs
      exact ⟨conn, rest, not_not.mp ht, rfl, (Option.some.inj hs).symm⟩
  | check t answer =>
    rw [dbStep] at hs
    obtain ⟨hp, hs⟩ := Option.ite_none_left_eq_some.mp hs
    refine ⟨by simpa using hp, ?_⟩
    split at hs
    next conn ht =>
      rw [← apply_ite some] at hs
      exact ⟨conn, ht, (Option.some.inj hs).symm⟩
    next => cases hs
  | reopen t answer =>
    rw [dbStep] at hs
    obtain ⟨hp, hs⟩ := Option.ite_none_left_eq_some.mp hs
    obtain ⟨hp, ht⟩ := not_or.mp hp
    exact ⟨by simpa using hp, not_not.mp ht, (Option.some.inj hs).symm⟩
  | produce t =>
    rw [dbStep] at hs
    obtain ⟨hp, hs⟩ := Option.ite_none_left_eq_some.mp hs
    refine ⟨by simpa using hp, ?_⟩
    split at hs
    next conn ht => exact ⟨conn, ht, (Option.some.inj hs).symm⟩
    next => cases hs

/-! ## Where the connections are

A connection is a handle, and the handles in the pool and with the threads are different.  What the pool counts
and what was lost account for those that were opened: the counts change together, in one step of one thread. -/

/-- The connections of the threads. -/
def DbPool.held (p : DbPool) : List ℕ := p.threads.flatMap DbThread.holds

/-- How many connections are to be opened anew. -/
def DbPool.owed (p : DbPool) : ℕ := (p.threads.flatMap DbThread.owes).length

/-- A connection was closed and could not be opened anew. -/
def DbEvent.loses : DbEvent → Bool
  | .reopen _ answer => !answer
  | _ => false

/-- **What holds of the pool** after `opened` connections were opened at first and `lost` of them were lost: each
is in one place, the size counts them, and the others are there or about to be opened anew. -/
structure PoolSound (opened lost : ℕ) (p : DbPool) : Prop where
  nodup : (p.pool ++ p.held).Nodup
  lt_next : ∀ c ∈ p.pool ++ p.held, c < p.next
  size : p.currSize = (p.pool ++ p.held).length
  total : p.currSize + p.owed + lost = opened
  opened_le : opened ≤ p.maxSize

section Sound

variable {opened lost t : ℕ} {p p' : DbPool} {old : DbThread}

/-- One more connection is put behind the others. -/
theorem conns_opened {pool held : List ℕ} {next : ℕ} (hnodup : (pool ++ held).Nodup)
    (hlt : ∀ c ∈ pool ++ held, c < next) :
    (pool ++ [next] ++ held).Nodup ∧ (∀ c ∈ pool ++ [next] ++ held, c < next + 1) ∧
      (pool ++ [next] ++ held).length = (pool ++ held).length + 1 := by
  have hconns : pool ++ [next] ++ held ~ next :: (pool ++ held) := by
    rw [List.append_assoc]
    exact List.perm_middle
  refine ⟨hconns.nodup_iff.mpr (List.nodup_cons.mpr ⟨fun hc => ?_, hnodup⟩), fun c hc => ?_, hconns.length_eq⟩
  · exact absurd (hlt _ hc) (lt_irrefl _)
  · obtain rfl | hc := List.mem_cons.mp (hconns.mem_iff.mp hc)
    · exact Nat.lt_succ_self _
    · exact Nat.lt_succ_of_lt (hlt c hc)

/-- The connections stay where they are, or change places. -/
theorem PoolSound.moved (h : PoolSound opened lost p) (hconns : p'.pool ++ p'.held ~ p.pool ++ p.held)
    (howed : p'.owed = p.owed) (hsame : (p'.currSize, p'.next, p'.maxSize) = (p.currSize, p.next, p.maxSize)) :
    PoolSound opened lost p' := by
  simp only [Prod.mk.injEq] at hsame
  obtain ⟨hsize, hnext, hmax⟩ := hsame
  refine ⟨hconns.nodup_iff.mpr h.nodup, fun c hc => ?_, ?_, ?_, ?_⟩
  · rw [hnext]
    exact h.lt_next c (hconns.mem_iff.mp hc)
  · rw [hsize, hconns.length_eq]
    exact h.size
  · rw [hsize, howed]
    exact h.total
  · rw [hmax]
    exact h.opened_le

/-- What the threads hold after one of them has gone on. -/
theorem held_set (ht : p.threads[t]? = some old) (new : DbThread) :
    ∃ rest, p.held ~ old.holds ++ rest ∧ (p.threads.set t new).flatMap DbThread.holds ~ new.holds ++ rest :=
  flatMap_set_split ht new

/-- How many connections are to be opened after one thread has gone on. -/
theorem owed_set (ht : p.threads[t]? = some old) (new : DbThread) :
    ((p.threads.set t new).flatMap DbThread.owes).length + old.owes.length = p.owed + new.owes.length := by
  obtain ⟨rest, hold, hnew⟩ := flatMap_set_split (f := DbThread.owes) ht new
  rw [DbPool.owed, hold.length_eq, hnew.length_eq, List.length_append, List.length_append]
  omega

/-- A connection goes from the pool to a thread, from a thread to the pool, or nowhere. -/
theorem PoolSound.goesOn (h : PoolSound opened lost p) (ht : p.threads[t]? = some old) {new : DbThread}
    {pool : List ℕ} (howes : new.owes = old.owes) (hconns : pool ++ new.holds ~ p.pool ++ old.holds) :
    PoolSound opened lost { p with pool := pool, threads := p.threads.set t new } := by
  obtain ⟨rest, hold, hnew⟩ := held_set ht new
  refine h.moved ?_ ?_ rfl
  · calc pool ++ (p.threads.set t new).flatMap DbThread.holds ~ pool ++ (new.holds ++ rest) := hnew.append_left _
      _ ~ p.pool ++ (old.holds ++ rest) := by
        rw [← List.append_assoc, ← List.append_assoc]
        exact hconns.append_right _
      _ ~ p.pool ++ p.held := hold.symm.append_left _
  · have := owed_set ht new
    rw [howes] at this
    exact Nat.add_right_cancel this

/-- A thread closes its connection. -/
theorem PoolSound.closes {conn : ℕ} (h : PoolSound opened lost p) (ht : p.threads[t]? = some (.checking conn)) :
    PoolSound opened lost { p with currSize := p.currSize - 1, threads := p.threads.set t .reopening } := by
  obtain ⟨rest, hold, hnew⟩ := held_set ht .reopening
  have hconns : p.pool ++ p.held ~ conn :: (p.pool ++ (p.threads.set t .reopening).flatMap DbThread.holds) :=
    calc p.pool ++ p.held ~ p.pool ++ (conn :: rest) := hold.append_left _
      _ ~ conn :: (p.pool ++ rest) := List.perm_middle
      _ ~ conn :: (p.pool ++ (p.threads.set t .reopening).flatMap DbThread.holds) :=
        (hnew.symm.append_left _).cons _
  have hlength := h.size.trans hconns.length_eq
  have howed := owed_set ht .reopening
  have htotal := h.total
  refine ⟨(hconns.nodup_iff.mp h.nodup).of_cons, fun c hc => ?_, ?_, ?_, h.opened_le⟩
  · exact h.lt_next c (hconns.mem_iff.mpr (List.mem_cons_of_mem _ hc))
  · exact (congrArg (· - 1) hlength).trans (Nat.add_sub_cancel _ _)
  · change p.currSize - 1 + ((p.threads.set t .reopening).flatMap DbThread.owes).length + lost = opened
    simp only [DbThread.owes, List.length_nil, List.length_singleton] at howed
    rw [List.length_cons] at hlength
    omega

/-- A thread opens a connection, or fails to do so. -/
theorem PoolSound.reopens (h : PoolSound opened lost p) (ht : p.threads[t]? = some .reopening) (answer : Bool) :
    PoolSound opened (lost + if answer then 0 else 1)
      { p.increase [answer] with threads := p.threads.set t .waiting } := by
  obtain ⟨rest, hold, hnew⟩ := held_set ht .waiting
  have hheld : (p.threads.set t .waiting).flatMap DbThread.holds ~ p.held := hnew.trans hold.symm
  have howed := owed_set ht .waiting
  simp only [DbThread.owes, List.length_nil, List.length_singleton] at howed
  have htotal := h.total
  have hmax := h.opened_le
  have hroom : p.currSize < p.maxSize := by omega
  have hconns := hheld.append_left p.pool
  have hnodup := hconns.nodup_iff.mpr h.nodup
  have hlt : ∀ c ∈ p.pool ++ (p.threads.set t .waiting).flatMap DbThread.holds, c < p.next :=
    fun c hc => h.lt_next c (hconns.mem_iff.mp hc)
  cases answer with
  | false =>
    have hsame : p.increase [false] = p := by simp [DbPool.increase]
    rw [hsame]
    refine ⟨hnodup, hlt, h.size.trans hconns.length_eq.symm, ?_, h.opened_le⟩
    change p.currSize + ((p.threads.set t .waiting).flatMap DbThread.owes).length + (lost + 1) = opened
    omega
  | true =>
    have hmore : p.increase [true] =
        { p with pool := p.pool ++ [p.next], currSize := p.currSize + 1, next := p.next + 1 } := by
      simp [DbPool.increase, hroom]
    rw [hmore]
    obtain ⟨hnodup', hlt', hlength⟩ := conns_opened hnodup hlt
    refine ⟨hnodup', hlt', ?_, ?_, h.opened_le⟩
    · exact (congrArg (· + 1) (h.size.trans hconns.length_eq.symm)).trans hlength.symm
    · change p.currSize + 1 + ((p.threads.set t .waiting).flatMap DbThread.owes).length + (lost + 0) = opened
      omega

/-- **What `dbpool_increase` opens** while the pool is with no thread. -/
theorem PoolSound.increase (h : PoolSound opened lost p) (hidle : p.threads = []) (answers : List Bool)
    (hroom : opened + answers.length ≤ p.maxSize) :
    PoolSound (opened + answers.count true) lost (p.increase answers) := by
  induction answers generalizing p opened with
  | nil => exact h
  | cons answer answers ih =>
    rw [List.length_cons] at hroom
    have htotal := h.total
    have hlt : p.currSize < p.maxSize := by omega
    rw [DbPool.increase, if_pos hlt]
    cases answer with
    | false =>
      rw [List.count_cons_of_ne (by decide)]
      exact ih h hidle (by change opened + answers.length ≤ p.maxSize; omega)
    | true =>
      obtain ⟨hnodup, hlt', hlength⟩ := conns_opened h.nodup h.lt_next
      have hopened : PoolSound (opened + 1) lost
          { p with pool := p.pool ++ [p.next], currSize := p.currSize + 1, next := p.next + 1 } := by
        refine ⟨hnodup, hlt', (congrArg (· + 1) h.size).trans hlength.symm, ?_, by change opened + 1 ≤ p.maxSize; omega⟩
        change p.currSize + 1 + p.owed + lost = opened + 1
        omega
      rw [List.count_cons_self, Nat.add_comm _ 1, ← Nat.add_assoc]
      exact ih hopened hidle (by change opened + 1 + answers.length ≤ p.maxSize; omega)

theorem create_sound (answers : List Bool) : PoolSound (answers.count true) 0 (DbPool.create answers) := by
  have hempty : PoolSound 0 0 { pool := [], currSize := 0, maxSize := answers.length, next := 0, threads := [] } :=
    ⟨List.nodup_nil, fun c hc => absurd hc (List.not_mem_nil), rfl, rfl, Nat.zero_le _⟩
  rw [← Nat.zero_add (answers.count true)]
  exact hempty.increase rfl answers (Nat.le_of_eq (Nat.zero_add _))

/-- **One step**: a connection is lost exactly when it cannot be opened anew. -/
theorem PoolSound.step {e : DbEvent} (h : PoolSound opened lost p) (hs : dbStep p e = some p') :
    PoolSound opened (lost + if e.loses then 1 else 0) p' := by
  obtain ⟨-, hcase⟩ := dbStep_cases hs
  cases e with
  | spawn =>
    dsimp only at hcase
    rw [hcase]
    refine h.moved ?_ ?_ rfl
    · simp [DbPool.held, DbThread.holds]
    · simp [DbPool.owed, DbThread.owes]
  | ask t =>
    obtain ⟨ht, rfl⟩ := hcase
    change PoolSound opened lost _
    by_cases hsize : p.currSize < 1
    · rw [if_pos hsize]
      exact h.moved (.refl _) rfl rfl
    · rw [if_neg hsize]
      exact h.goesOn ht rfl (.refl _)
  | consume t =>
    obtain ⟨conn, rest, ht, hpool, rfl⟩ := hcase
    refine h.goesOn ht rfl ?_
    simp [hpool, DbThread.holds, List.perm_append_singleton]
  | check t answer =>
    obtain ⟨conn, ht, rfl⟩ := hcase
    cases answer with
    | true => exact h.goesOn ht rfl (.refl _)
    | false => exact h.closes ht
  | reopen t answer =>
    obtain ⟨ht, rfl⟩ := hcase
    have hlost : (if DbEvent.loses (.reopen t answer) then 1 else 0) = if answer then 0 else 1 := by
      cases answer <;> rfl
    rw [hlost]
    exact h.reopens ht answer
  | produce t =>
    obtain ⟨conn, ht, rfl⟩ := hcase
    exact h.goesOn ht rfl (by simp [DbThread.holds])

/-- **A run of the threads.** -/
theorem PoolSound.run {es : List DbEvent} (h : PoolSound opened lost p) (hrun : exec dbStep p es = some p') :
    PoolSound opened (lost + es.countP DbEvent.loses) p' := by
  induction es generalizing p lost with
  | nil =>
    obtain rfl : p = p' := Option.some.inj hrun
    exact h
  | cons e es ih =>
    obtain ⟨p₁, hs, hrest⟩ := exec_cons_eq_some.mp hrun
    have := ih (h.step hs) hrest
    rwa [Nat.add_assoc, Nat.add_comm (ite _ _ _), ← List.countP_cons] at this

end Sound

/-! ## Who can go on

A thread stops only in front of an empty pool.  As long as a connection is left it is in the pool or with a
thread that can go on; when none is, all threads rest, and this is never left again. -/

/-- The thread has no connection and is about to open none. -/
def DbThread.rests : DbThread → Bool
  | .idle | .waiting => true
  | _ => false

/-- A thread goes on with the statement it has. -/
def DbEvent.goesOn : DbEvent → Bool
  | .spawn | .ask _ => false
  | _ => true

section Progress

variable {opened lost t : ℕ} {p p' : DbPool} {e : DbEvent}

theorem DbThread.rests_iff (th : DbThread) : th.rests = true ↔ th.holds = [] ∧ th.owes = [] := by
  cases th <;> simp [DbThread.rests, DbThread.holds, DbThread.owes]

/-- A thread that has a connection, or is about to open one, can go on. -/
theorem goesOn_of_not_rests {th : DbThread} (hp : p.panicked = false) (ht : p.threads[t]? = some th)
    (hth : th.rests = false) : ∃ e p', e.goesOn = true ∧ dbStep p e = some p' := by
  cases th with
  | idle => cases hth
  | waiting => cases hth
  | checking conn => exact ⟨.check t true, _, rfl, by simp [dbStep, hp, ht]; rfl⟩
  | reopening => exact ⟨.reopen t true, _, rfl, by simp [dbStep, hp, ht]; rfl⟩
  | querying conn => exact ⟨.produce t, _, rfl, by simp [dbStep, hp, ht]; rfl⟩

/-- The connections that are not lost are in the pool when every thread rests. -/
theorem PoolSound.length_pool (h : PoolSound opened lost p) (hrest : ∀ th ∈ p.threads, th.rests = true) :
    p.pool.length + lost = opened := by
  have hheld : p.held = [] := List.flatMap_eq_nil_iff.mpr fun th hth => (th.rests_iff.mp (hrest th hth)).1
  have howed : p.owed = 0 :=
    List.length_eq_zero_iff.mpr (List.flatMap_eq_nil_iff.mpr fun th hth => (th.rests_iff.mp (hrest th hth)).2)
  have hsize := h.size
  have htotal := h.total
  rw [hheld, List.append_nil] at hsize
  omega

/-- **Somebody can go on** as long as a connection is left. -/
theorem PoolSound.exists_goesOn (h : PoolSound opened lost p) (hp : p.panicked = false) (hleft : lost < opened)
    (hbusy : ∃ th ∈ p.threads, th ≠ .idle) : ∃ e p', e.goesOn = true ∧ dbStep p e = some p' := by
  by_cases hrest : ∀ th ∈ p.threads, th.rests = true
  · obtain ⟨th, hth, hidle⟩ := hbusy
    obtain ⟨t, ht⟩ := List.mem_iff_getElem?.mp hth
    have hwaiting : th = .waiting := by
      have := hrest th hth
      cases th <;> simp_all [DbThread.rests]
    have hlength := h.length_pool hrest
    obtain ⟨conn, rest, hpool⟩ := List.exists_cons_of_ne_nil (l := p.pool) (by rintro hnil; simp [hnil] at hlength; omega)
    exact ⟨.consume t, _, rfl, by simp [dbStep, hp, ht, hwaiting, hpool]; rfl⟩
  · push Not at hrest
    obtain ⟨th, hth, hrest⟩ := hrest
    obtain ⟨t, ht⟩ := List.mem_iff_getElem?.mp hth
    exact goesOn_of_not_rests hp ht (Bool.eq_false_iff.mpr hrest)

/-- **No connection is left**: none is in the pool, and every thread rests. -/
structure PoolLost (p : DbPool) : Prop where
  pool : p.pool = []
  size : p.currSize = 0
  rests : ∀ th ∈ p.threads, th.rests = true

/-- When every connection is lost. -/
theorem PoolSound.all_lost (h : PoolSound opened opened p) : PoolLost p := by
  have htotal := h.total
  have hsize : p.currSize = 0 := by omega
  have howed : p.owed = 0 := by omega
  have hconns := List.length_eq_zero_iff.mp (h.size.symm.trans hsize)
  obtain ⟨hpool, hheld⟩ := List.append_eq_nil_iff.mp hconns
  have howes := List.flatMap_eq_nil_iff.mp (List.length_eq_zero_iff.mp howed)
  refine ⟨hpool, hsize, fun th hth => th.rests_iff.mpr ⟨?_, howes th hth⟩⟩
  exact List.flatMap_eq_nil_iff.mp hheld th hth

/-- **One step without connections**: a thread is started, or the one that asks ends the process. -/
theorem PoolLost.step (h : PoolLost p) (hs : dbStep p e = some p') :
    PoolLost p' ∧ e.goesOn = false ∧ (p'.panicked = true ↔ ∃ t, e = .ask t) ∧ ∃ new, p'.threads = p.threads ++ new := by
  obtain ⟨hp, hcase⟩ := dbStep_cases hs
  have hbusy : ∀ {t : ℕ} {th : DbThread}, p.threads[t]? = some th → th.rests = true :=
    fun ht => h.rests _ (List.mem_of_getElem? ht)
  cases e with
  | spawn =>
    dsimp only at hcase
    rw [hcase]
    refine ⟨⟨h.pool, h.size, fun th hth => ?_⟩, rfl, by simp [hp], [.idle], rfl⟩
    obtain hth | hth := List.mem_append.mp hth
    · exact h.rests th hth
    · rw [List.mem_singleton.mp hth]
      rfl
  | ask t =>
    obtain ⟨-, rfl⟩ := hcase
    rw [if_pos (by rw [h.size]; exact Nat.zero_lt_one)]
    exact ⟨⟨h.pool, h.size, h.rests⟩, rfl, by simp, [], (List.append_nil _).symm⟩
  | consume t =>
    obtain ⟨conn, rest, -, hpool, -⟩ := hcase
    rw [h.pool] at hpool
    cases hpool
  | check t answer =>
    obtain ⟨conn, ht, -⟩ := hcase
    cases hbusy ht
  | reopen t answer =>
    cases hbusy hcase.1
  | produce t =>
    obtain ⟨conn, ht, -⟩ := hcase
    cases hbusy ht

/-- **A run without connections.** -/
theorem PoolLost.run {es : List DbEvent} (h : PoolLost p) (hrun : exec dbStep p es = some p') :
    PoolLost p' ∧ (∀ e ∈ es, e.goesOn = false) ∧
      (p'.panicked = true ↔ p.panicked = true ∨ ∃ t, .ask t ∈ es) ∧ ∃ new, p'.threads = p.threads ++ new := by
  induction es generalizing p with
  | nil =>
    obtain rfl : p = p' := Option.some.inj hrun
    exact ⟨h, by simp, by simp, [], (List.append_nil _).symm⟩
  | cons e es ih =>
    obtain ⟨p₁, hs, hrest⟩ := exec_cons_eq_some.mp hrun
    obtain ⟨h₁, he, hpanic, new, hnew⟩ := h.step hs
    obtain ⟨h', hes, hpanic', new', hnew'⟩ := ih h₁ hrest
    refine ⟨h', List.forall_mem_cons.mpr ⟨he, hes⟩, ?_, new ++ new', ?_⟩
    · have hp := (dbStep_cases hs).1
      rw [hpanic', hpanic, hp]
      simp only [Bool.false_eq_true, false_or, List.mem_cons, exists_or, eq_comm]
    · rw [hnew', hnew, List.append_assoc]

end Progress

/-! ## The pool

The two sides of the same account: while connections are left the pool works, and with the last one it is dead. -/

/-- **The connections are shared.**  In every run each connection is in the pool or with one thread; the pool counts
them; and those opened at first are there, about to be opened anew, or lost — one for each that could not be opened
anew.  The next thread to ask ends the process exactly when all that are not lost are about to be opened anew, and
as long as not all are lost, one of the threads that have a statement can go on. -/
theorem pool_shared (answers : List Bool) {es : List DbEvent} {p : DbPool}
    (hrun : exec dbStep (DbPool.create answers) es = some p) :
    (p.pool ++ p.held).Nodup ∧ p.currSize = (p.pool ++ p.held).length ∧
      p.currSize + p.owed + es.countP DbEvent.loses = answers.count true ∧
      (∀ {t : ℕ} {p' : DbPool}, dbStep p (.ask t) = some p' →
        (p'.panicked = true ↔ p.owed + es.countP DbEvent.loses = answers.count true)) ∧
      (p.panicked = false → es.countP DbEvent.loses < answers.count true → (∃ th ∈ p.threads, th ≠ .idle) →
        ∃ e p', e.goesOn = true ∧ dbStep p e = some p') := by
  have h := (create_sound answers).run hrun
  rw [Nat.zero_add] at h
  have htotal := h.total
  refine ⟨h.nodup, h.size, htotal, fun {t p'} hs => ?_, h.exists_goesOn⟩
  obtain ⟨hp, -, rfl⟩ := dbStep_cases hs
  by_cases hsize : p.currSize < 1
  · rw [if_pos hsize]
    exact ⟨fun _ => by omega, fun _ => rfl⟩
  · rw [if_neg hsize]
    exact ⟨fun h => absurd h (Bool.eq_false_iff.mp hp), fun h => by omega⟩

/-- Two connections of three are opened; one thread runs a statement, another loses its connection. -/
def sampleQueries : List DbEvent :=
  [.spawn, .spawn, .ask 0, .ask 1, .consume 0, .check 0 true, .consume 1, .check 1 false, .reopen 1 false]

theorem pool_shared_sampleQueries :
    ∃ p, exec dbStep (DbPool.create [true, false, true]) sampleQueries = some p ∧ (p.pool ++ p.held).Nodup ∧
      p.currSize + p.owed + 1 = 2 ∧ ∃ e p', e.goesOn = true ∧ dbStep p e = some p' := by
  have hrun : exec dbStep (DbPool.create [true, false, true]) sampleQueries = some _ := rfl
  obtain ⟨hnodup, -, htotal, -, hgoes⟩ := pool_shared [true, false, true] hrun
  exact ⟨_, rfl, hnodup, htotal, hgoes rfl (by decide) ⟨.waiting, by decide, by decide⟩⟩

/-- **The last connection.**  Once as many connections could not be opened anew as were opened at first, nothing but
new threads comes after: no statement goes on, the threads that wait for a connection wait in every later state, and
the process ends with the next thread that asks for one. -/
theorem empty_pool_is_dead (answers : List Bool) {es es' : List DbEvent} {p p' : DbPool}
    (hrun : exec dbStep (DbPool.create answers) es = some p)
    (hlost : es.countP DbEvent.loses = answers.count true) (hrun' : exec dbStep p es' = some p') :
    (∀ e ∈ es', e.goesOn = false) ∧ (∀ {t : ℕ}, p.threads[t]? = some .waiting → p'.threads[t]? = some .waiting) ∧
      (p'.panicked = true ↔ p.panicked = true ∨ ∃ t, .ask t ∈ es') := by
  have h := (create_sound answers).run hrun
  rw [Nat.zero_add, hlost] at h
  obtain ⟨-, hes, hpanic, new, hnew⟩ := h.all_lost.run hrun'
  refine ⟨hes, fun {t} ht => ?_, hpanic⟩
  obtain ⟨hlt, -⟩ := List.getElem?_eq_some_iff.mp ht
  rw [hnew, List.getElem?_append_left hlt]
  exact ht

/-- One thread waits when the only connection is lost, and a new one asks for it. -/
theorem empty_pool_is_dead_sampleQueries :
    ∃ p p', exec dbStep (DbPool.create [true])
        [.spawn, .spawn, .ask 0, .ask 1, .consume 0, .check 0 false, .reopen 0 false] = some p ∧
      exec dbStep p [.spawn, .ask 2] = some p' ∧ p'.threads[1]? = some .waiting ∧ p'.panicked = true := by
  have hrun : exec dbStep (DbPool.create [true])
    [.spawn, .spawn, .ask 0, .ask 1, .consume 0, .check 0 false, .reopen 0 false] = some _ := rfl
  obtain ⟨-, hwaiting, hpanic⟩ := empty_pool_is_dead [true] hrun (by decide)
    (show exec dbStep _ [.spawn, .ask 2] = some _ from rfl)
  exact ⟨_, _, rfl, rfl, hwaiting rfl, hpanic.mpr (.inr ⟨2, by decide⟩)⟩

end SmppServer
