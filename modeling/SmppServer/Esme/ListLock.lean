import SmppServer.Esme.Authorise
import SmppServer.Machinery.Locks

/-!
# Esme/ListLock — the locks of `esme_list` and `smsc_list` in the ESME process

`authorise_user`, `esme_destroy` and `stop_esme` as programs over the two locks: `authorise_user` takes
`esme_list_lock` for reading to look for the account's entry, gives it back, takes it for writing, and
looks at `smsc_list` under the other lock meanwhile.

* `keeps_authoriseUserLocked`, `keeps_esmeDestroyLocked` — on every path the locks are as before, and
  what is returned is what the functions without locks return.
* `takes_stopEsmeLocked` — for an id that is not in `esme_list`, `stop_esme` returns with a read lock.
* `proceeds_authoriseUserLocked` — no operation waits for a lock that it holds itself.
-/

namespace SmppServer

/-- The locks of the lists: `smsc_list_lock` of the SMSC process, and `esme_list_lock` and
`smsc_list_lock` of the ESME process. -/
inductive ListLock
  | smscListLock
  | esmeListLock
  | esmeSmscListLock
  deriving DecidableEq, Repr

namespace SmppEsme

open Machinery Machinery.Locking

/-- A program over the locks of the lists. -/
abbrev WithLocks (α : Type) : Type := Locking ListLock Fault α

/-! ## Looking for an entry

Programs over locks, from `Machinery/Locks`: the functions of `Esme/Authorise` with their lock operations
written out. -/

/-- `is_present_esme`. -/
def isPresentEsmeLocked (r : Registry) (systemId : Option Octstr) : WithLocks (Option (ℕ × Esme)) := do
  rdlock .esmeListLock
  let returnEsme := isPresentEsme r systemId
  unlock .esmeListLock
  return returnEsme

/-- `is_smsc_present`. -/
def isSmscPresentLocked (smscList : List SmscConnList) : WithLocks ℤ := do
  rdlock .esmeSmscListLock
  let returnResult := isSmscPresent smscList
  unlock .esmeSmscListLock
  return returnResult

/-- `check_smsc_conn`. -/
def checkSmscConnLocked (trans : List SmscClient) (smscList : List SmscConnList)
    (username : Option Octstr) : WithLocks ℤ :=
  match username with
  | none => return 0
  | some name =>
    match trans.find? fun t => name = t.accountName with
    | none => return 0
    | some _ => isSmscPresentLocked smscList

/-- The status of a new transmitter session; the second question is asked if the first answer is not
`0`. -/
def initialTxStatusLocked (env : AuthEnv) (pdu : BindPdu) : WithLocks EsmeStatus := do
  let first ← checkSmscConnLocked env.translations env.smscList pdu.systemId
  if first = 0 then return .smscUnconnected
  let second ← checkSmscConnLocked env.translations env.smscList pdu.systemId
  return if second = 1 then .smscUnconnected else .binded

/-! ## The three operations

Both sections of `authorise_user` take and give back; `stop_esme` gives back only where it found the entry. -/

/-- The first section of `authorise_user`. -/
def authoriseCheckLocked (env : AuthEnv) (r : Registry) (pdu : BindPdu) (mode : ℤ) :
    WithLocks CheckResult := do
  if mode > 4 ∨ mode < 1 then return .refused (-1)
  match ← ofOutcome (some (smppClientFindUsername env.translations pdu.systemId)) with
  | none => return .refused 1
  | some t =>
    match accountRefusal env pdu mode t with
    | some ret => return .refused ret
    | none =>
      let esmePresent ← isPresentEsmeLocked r pdu.systemId
      if sessionLimitHit mode t esmePresent then return .refused 10
      return .accepted t (esmePresent.map Prod.fst)

/-- The second section of `authorise_user`. -/
def authoriseCommitLocked (env : AuthEnv) (r : Registry) (pdu : BindPdu) (mode : ℤ) (tc : TempConn)
    (t : SmscClient) (esmePresent : Option ℕ) : WithLocks (Registry × TempConn × ℕ) := do
  wrlock .esmeListLock
  -- the status that `addSession` gives the session
  if mode = 1 ∨ mode = 3 then
    let _ ← initialTxStatusLocked env pdu
  let committed ← ofOutcome (some (authoriseCommit env r pdu mode tc t esmePresent))
  unlock .esmeListLock
  return committed

/-- `authorise_user`; the registry may have changed when the second section finds it. -/
def authoriseUserLocked (env : AuthEnv) (r r' : Registry) (pdu : BindPdu) (mode : ℤ)
    (tc : TempConn) : WithLocks AuthResult := do
  match ← authoriseCheckLocked env r pdu mode with
  | .refused ret => return ⟨ret, r, tc, none⟩
  | .accepted t esmePresent =>
    let (r', tc', esme) ← authoriseCommitLocked env r' pdu mode tc t esmePresent
    return ⟨0, r', tc', some esme⟩

/-- `esme_destroy`; nothing is done for a `NULL` pointer. -/
def esmeDestroyLocked (r : Registry) (esme : Option ℕ) (mode sessionId : ℤ) : WithLocks Registry := do
  match esme with
  | none => return r
  | some esme =>
    wrlock .esmeListLock
    let r' ← ofOutcome (some (esmeDestroy r esme mode sessionId))
    unlock .esmeListLock
    return r'

/-- Fields of `ESME` that only `stop_esme` reads, and nothing sets: whether there is a transmitter and a
receiver, and the ids of their threads. -/
structure EsmeThreads where
  esmetx : Bool
  txThreadId : ℤ
  esmerx : Bool
  rxThreadId : ℤ
  deriving DecidableEq, Repr

/-- The threads that are sent an unbind and woken up. -/
def EsmeThreads.woken (threads : EsmeThreads) : List ℤ :=
  (if threads.esmetx ∧ threads.txThreadId ≠ -1 then [threads.txThreadId] else []) ++
    (if threads.esmerx ∧ threads.rxThreadId ≠ -1 then [threads.rxThreadId] else [])

/-- `stop_esme`: its return value, and the threads woken up.  It does not release the lock if it has not
found the entry. -/
def stopEsmeLocked (r : Registry) (esme : Octstr) (threads : ℕ → EsmeThreads) :
    WithLocks (ℤ × List ℤ) := do
  rdlock .esmeListLock
  match isPresentEsme r (some esme) with
  | none => return (-1, [])
  | some (esmePos, _) =>
    let woken := (threads esmePos).woken
    unlock .esmeListLock
    return (0, woken)

/-! ## The locks

Of each operation, that it keeps the locks on all its paths and computes what it computes without them.
Operations compose, so each lemma cites those of its parts. -/

section Locks

variable {env : AuthEnv} {r r' : Registry} {pdu : BindPdu} {mode : ℤ} {tc : TempConn}

theorem keeps_isPresentEsmeLocked (r : Registry) (systemId : Option Octstr) :
    Keeps (isPresentEsmeLocked r systemId) (· = isPresentEsme r systemId) :=
  .rdlock (.unlock (.pure rfl))

theorem keeps_isSmscPresentLocked (smscList : List SmscConnList) :
    Keeps (isSmscPresentLocked smscList) (· = isSmscPresent smscList) :=
  .rdlock (.unlock (.pure rfl))

theorem keeps_checkSmscConnLocked (trans : List SmscClient) (smscList : List SmscConnList)
    (username : Option Octstr) :
    Keeps (checkSmscConnLocked trans smscList username) (· = checkSmscConn trans smscList username) := by
  cases username with
  | none => exact .pure rfl
  | some name =>
    rw [checkSmscConnLocked, checkSmscConn]
    cases trans.find? fun t => name = t.accountName with
    | none => exact .pure rfl
    | some t => exact keeps_isSmscPresentLocked smscList

theorem keeps_initialTxStatusLocked (env : AuthEnv) (pdu : BindPdu) :
    Keeps (initialTxStatusLocked env pdu) (· = initialTxStatus env pdu) := by
  refine .bind (keeps_checkSmscConnLocked _ _ _) fun first hfirst => ?_
  subst hfirst
  split
  case isTrue h => exact .pure (by simp [initialTxStatus, h])
  case isFalse h =>
    refine .bind (keeps_checkSmscConnLocked _ _ _) fun second hsecond => ?_
    exact .pure (by simp [initialTxStatus, h, hsecond])

/-- **The first section keeps the locks**, and finds what it finds without them. -/
theorem keeps_authoriseCheckLocked (env : AuthEnv) (r : Registry) (pdu : BindPdu) (mode : ℤ) :
    Keeps (authoriseCheckLocked env r pdu mode) fun res => authoriseCheck env r pdu mode = .ok res := by
  rw [authoriseCheckLocked]
  split
  case isTrue hmode => exact .pure (by rw [authoriseCheck, if_pos hmode])
  case isFalse hmode =>
    refine .bind (.ofOutcome _) fun found hfound => ?_
    replace hfound := Option.some.inj hfound
    cases found with
    | none => exact .pure (by simp [authoriseCheck, hmode, hfound])
    | some t =>
      dsimp only
      cases hrefusal : accountRefusal env pdu mode t with
      | some ret => exact .pure (by simp [authoriseCheck, hmode, hfound, hrefusal])
      | none =>
        refine .bind (keeps_isPresentEsmeLocked r pdu.systemId) fun present hpresent => ?_
        subst hpresent
        split
        case isTrue hlimit => exact .pure (by simp [authoriseCheck, hmode, hfound, hrefusal, hlimit])
        case isFalse hlimit => exact .pure (by simp [authoriseCheck, hmode, hfound, hrefusal, hlimit])

/-- **The second section keeps the locks**, and does what it does without them. -/
theorem keeps_authoriseCommitLocked (env : AuthEnv) (r : Registry) (pdu : BindPdu) (mode : ℤ)
    (tc : TempConn) (t : SmscClient) (esmePresent : Option ℕ) :
    Keeps (authoriseCommitLocked env r pdu mode tc t esmePresent)
      fun res => authoriseCommit env r pdu mode tc t esmePresent = .ok res := by
  have hcommit : Releases .esmeListLock
      (do
        let committed ← (ofOutcome (some (authoriseCommit env r pdu mode tc t esmePresent)) : WithLocks _)
        unlock .esmeListLock
        return committed)
      fun res => authoriseCommit env r pdu mode tc t esmePresent = .ok res :=
    .bind (.ofOutcome _) fun _ hres => .unlock (.pure (Option.some.inj hres))
  refine .wrlock ?_
  split
  case isTrue =>
    exact .bind (keeps_initialTxStatusLocked env pdu) fun _ _ => hcommit
  case isFalse => exact hcommit

/-- **`authorise_user` keeps the locks.**  If the registry is the same in both sections, it returns what
it returns without them. -/
theorem keeps_authoriseUserLocked (env : AuthEnv) (r r' : Registry) (pdu : BindPdu) (mode : ℤ)
    (tc : TempConn) :
    Keeps (authoriseUserLocked env r r' pdu mode tc)
      fun res => r = r' → authoriseUser env r pdu mode tc = .ok res := by
  refine .bind (keeps_authoriseCheckLocked env r pdu mode) fun checked hchecked => ?_
  cases checked with
  | refused ret => exact .pure fun _ => by rw [authoriseUser, hchecked]
  | accepted t esmePresent =>
    refine .bind (keeps_authoriseCommitLocked env r' pdu mode tc t esmePresent) fun committed hc => ?_
    refine .pure fun hr => ?_
    subst hr
    rw [authoriseUser, hchecked]
    simp only [hc]

/-- **`esme_destroy` keeps the locks.** -/
theorem keeps_esmeDestroyLocked (r : Registry) (esme : Option ℕ) (mode sessionId : ℤ) :
    Keeps (esmeDestroyLocked r esme mode sessionId)
      fun r' => ∀ a ∈ esme, esmeDestroy r a mode sessionId = .ok r' := by
  cases esme with
  | none => exact .pure (by simp)
  | some a =>
    refine .wrlock (.bind (.ofOutcome _) fun r' hr' => .unlock (.pure ?_))
    simpa using hr'

/-- `stop_esme` keeps the locks if it finds the entry. -/
theorem keeps_stopEsmeLocked {esme : Octstr} (h : (isPresentEsme r (some esme)).isSome)
    (threads : ℕ → EsmeThreads) :
    Keeps (stopEsmeLocked r esme threads) fun res => res.1 = 0 := by
  obtain ⟨found, hfound⟩ := Option.isSome_iff_exists.mp h
  rw [stopEsmeLocked, hfound]
  exact .rdlock (.unlock (.pure rfl))

/-- **Otherwise it returns with a read lock.** -/
theorem takes_stopEsmeLocked {esme : Octstr} (h : isPresentEsme r (some esme) = none)
    (threads : ℕ → EsmeThreads) :
    Takes .esmeListLock (stopEsmeLocked r esme threads) fun res => res.1 = -1 := by
  rw [stopEsmeLocked, h]
  exact .rdlock (.pure rfl)

/-! ## Free locks are given

A program that starts with free locks never waits for one that it holds itself. -/

theorem proceeds_isPresentEsmeLocked (r : Registry) (systemId : Option Octstr)
    {l : ListLock → RwLock} (h : l .esmeListLock = {}) :
    Proceeds (isPresentEsmeLocked r systemId) l :=
  .rdlock h (.unlock rfl (.pure _ _))

theorem proceeds_checkSmscConnLocked (trans : List SmscClient) (smscList : List SmscConnList)
    (username : Option Octstr) {l : ListLock → RwLock} (h : l .esmeSmscListLock = {}) :
    Proceeds (checkSmscConnLocked trans smscList username) l := by
  cases username with
  | none => exact .pure _ _
  | some name =>
    rw [checkSmscConnLocked]
    cases trans.find? fun t => name = t.accountName with
    | none => exact .pure _ _
    | some t => exact .rdlock h (.unlock rfl (.pure _ _))

theorem proceeds_initialTxStatusLocked (env : AuthEnv) (pdu : BindPdu) {l : ListLock → RwLock}
    (h : l .esmeSmscListLock = {}) : Proceeds (initialTxStatusLocked env pdu) l := by
  have hcheck := proceeds_checkSmscConnLocked env.translations env.smscList pdu.systemId h
  refine .bind hcheck (keeps_checkSmscConnLocked _ _ _) fun first _ => ?_
  split
  · exact .pure _ _
  · exact .bind hcheck (keeps_checkSmscConnLocked _ _ _) fun _ _ => .pure _ _

theorem proceeds_authoriseCheckLocked (env : AuthEnv) (r : Registry) (pdu : BindPdu) (mode : ℤ)
    {l : ListLock → RwLock} (h : l .esmeListLock = {}) :
    Proceeds (authoriseCheckLocked env r pdu mode) l := by
  rw [authoriseCheckLocked]
  split
  · exact .pure _ _
  refine .bind (.ofOutcome _ _) (.ofOutcome _) fun found _ => ?_
  cases found with
  | none => exact .pure _ _
  | some t =>
    dsimp only
    cases accountRefusal env pdu mode t with
    | some ret => exact .pure _ _
    | none =>
      refine .bind (proceeds_isPresentEsmeLocked r _ h) (keeps_isPresentEsmeLocked r _) fun _ _ => ?_
      split
      · exact .pure _ _
      · exact .pure _ _

theorem proceeds_authoriseCommitLocked (env : AuthEnv) (r : Registry) (pdu : BindPdu) (mode : ℤ)
    (tc : TempConn) (t : SmscClient) (esmePresent : Option ℕ) :
    Proceeds (authoriseCommitLocked env r pdu mode tc t esmePresent) free := by
  have hcommit : Proceeds
      (do
        let committed ← (ofOutcome (some (authoriseCommit env r pdu mode tc t esmePresent)) : WithLocks _)
        unlock .esmeListLock
        return committed)
      (Function.update free .esmeListLock { writer := true }) :=
    .bind (.ofOutcome _ _) (.ofOutcome _) fun _ _ => .unlock rfl (.pure _ _)
  refine .wrlock rfl ?_
  split
  · exact .bind (proceeds_initialTxStatusLocked env pdu rfl) (keeps_initialTxStatusLocked env pdu)
      fun _ _ => hcommit
  · exact hcommit

/-- **`authorise_user` does not wait for itself.** -/
theorem proceeds_authoriseUserLocked (env : AuthEnv) (r r' : Registry) (pdu : BindPdu) (mode : ℤ)
    (tc : TempConn) : Proceeds (authoriseUserLocked env r r' pdu mode tc) free := by
  refine .bind (proceeds_authoriseCheckLocked env r pdu mode rfl)
    (keeps_authoriseCheckLocked env r pdu mode) fun checked _ => ?_
  cases checked with
  | refused ret => exact .pure _ _
  | accepted t esmePresent =>
    exact .bind (proceeds_authoriseCommitLocked env r' pdu mode tc t esmePresent)
      (keeps_authoriseCommitLocked env r' pdu mode tc t esmePresent) fun _ _ => .pure _ _

theorem proceeds_esmeDestroyLocked (r : Registry) (esme : Option ℕ) (mode sessionId : ℤ) :
    Proceeds (esmeDestroyLocked r esme mode sessionId) free := by
  cases esme with
  | none => exact .pure _ _
  | some a => exact .wrlock rfl (.bind (.ofOutcome _ _) (.ofOutcome _) fun _ _ => .unlock rfl (.pure _ _))

theorem proceeds_stopEsmeLocked (r : Registry) (esme : Octstr) (threads : ℕ → EsmeThreads) :
    Proceeds (stopEsmeLocked r esme threads) free := by
  refine .rdlock rfl ?_
  cases isPresentEsme r (some esme) with
  | none => exact .pure _ _
  | some found => exact .unlock rfl (.pure _ _)

end Locks

end SmppEsme

end SmppServer
