import SmppServer.Esme.ListLock
import SmppServer.Smsc.Route
import SmppServer.Smsc.SystemInfo

/-!
# Smsc/ListLock — the lock of `smsc_list` in the SMSC process, and lock discipline

`smsc2_rout`, the two functions that announce the connections, and the two that stop and restart one, as
programs over `smsc_list_lock`.  While a thread has the lock for reading, other threads change the
connections: what a call finds at its reads is an argument.

`send_system_info_init` takes the lock and never releases it, unless the list is empty; `stop_esme`
returns with the lock for an id it does not find.

* `keeps_smsc2RoutLocked` — `smsc2_rout` keeps the lock on every path, through its recursive call.
* `lockDiscipline_iff` — calls one behind the other, of any of the operations of both processes, leave the
  locks as they were, and free for a writer, exactly if none of them is one of these two.
-/

namespace SmppServer.SmppSmsc

open Machinery Machinery.Locking SmppEsme

/-! ## Routing

The recursive call of `smsc2_rout` comes behind the unlocking, so it finds the lock as the first call did.  What
the connections are by then is another view. -/

/-- What a call of `smsc2_rout` finds: the process at its checks, and the connections at its sends. -/
structure RoutView where
  process : Process
  sending : List SmscConn

/-- No other thread changes a connection between the checks and the sends. -/
def RoutView.Still (v : RoutView) : Prop := v.sending = v.process.smscList

/-- `smscconn_send` on the connection at a position. -/
def RoutView.send (v : RoutView) (pos : ℕ) (message : Msg) : Option SmscConn :=
  v.sending[pos]?.bind fun conn => smscconnSend conn message

section Rout

variable (lib : Gwlib) (cfg : ClientCfg)

/-- The loop over the preferred positions, and the part behind it. -/
def preferredLoopLocked (v : RoutView) (behind : Msg → WithLocks (ℤ × Process)) :
    Msg → List ℤ → WithLocks (ℤ × Process)
  | message, [] => behind message
  | message, pos :: rest => do
    let conn ← ofOutcome (some (gwlistGet v.process.smscList pos))
    if (smscconnInfo conn).status ≠ .active then
      if v.process.smppClientStatus ≠ .shutdown then preferredLoopLocked v behind message rest
      else
        unlock .smscListLock
        return (-1, { v.process with queues := msgDestroy v.process.queues message })
    else if smscconnUsable lib conn message.routingInfo = false then
      preferredLoopLocked v behind message rest
    else
      let message := { message with msgState := .notSent }
      match v.send pos.toNat message with
      | none => preferredLoopLocked v behind message rest
      | some conn' =>
        unlock .smscListLock
        return (1, { v.process with smscList := v.process.smscList.set pos.toNat conn' })

/-- `smsc2_rout` behind the loop over the preferred positions; `again` calls it anew. -/
def routAllowedLocked (stack : ℤ) (v : RoutView) (message : Msg)
    (again : Msg → WithLocks (ℤ × Process)) : WithLocks (ℤ × Process) := do
  let a ← ofOutcome (some (allowedLoop lib v.process.smscList message.routingInfo {}
    (allowedVisited stack message.routingInfo.allowedSmsc)))
  match a with
  | { bestOk := some i, .. } =>
    let message := { message with msgState := .notSent }
    match v.process.smscList[i]? with
    | none => ofOutcome (some (.error .outOfList))
    | some _ =>
      match v.send i message with
      | none =>
        unlock .smscListLock
        again message
      | some conn' =>
        unlock .smscListLock
        return (1, { v.process with smscList := v.process.smscList.set i conn' })
  | { bestOk := none, badFound := true, .. } =>
    if v.process.smppClientStatus ≠ .shutdown then
      let p := { v.process with queues := produceOutgoingMsg cfg v.process.queues message }
      unlock .smscListLock
      return (0, p)
    else
      unlock .smscListLock
      return (0, v.process)
  | { bestOk := none, badFound := false, .. } =>
    unlock .smscListLock
    if v.process.smppClientStatus = .shutdown then return (0, v.process)
    return (-1, v.process)

/-- `smsc2_rout`, with what each of its calls finds; it is not finished if it needs more. -/
def smsc2RoutLocked (stack : ℤ) : List RoutView → Msg → WithLocks (ℤ × Process)
  | [], _ => ofOutcome none
  | v :: views, message => do
    rdlock .smscListLock
    if v.process.smscList = [] then
      unlock .smscListLock
      return (-1, v.process)
    preferredLoopLocked lib v
      (fun message => routAllowedLocked lib cfg stack v message fun message =>
        smsc2RoutLocked stack views message)
      message (terminated message.routingInfo.preferredSmsc)

end Rout

/-! ## Announcing, stopping and restarting -/

/-- The loop of `send_system_info_init` over so many connections, with the connection that each turn
finds; it waits at one that did not send its bind. -/
def systemInfoInitLoop : ℕ → List SmscConn → WithLocks (List InfoSmsc)
  | 0, _ => return []
  | _ + 1, [] => ofOutcome none
  | n + 1, conn :: turns => do
    if conn.bindSent ≠ 1 then systemInfoInitLoop (n + 1) turns
    else
      let msgs ← systemInfoInitLoop n turns
      return infoSmsc conn :: msgs

/-- `send_system_info_init`: the messages it sends.  It releases the lock only for the empty list. -/
def sendSystemInfoInitLocked (smscList turns : List SmscConn) : WithLocks (List ReverseMsg) := do
  rdlock .smscListLock
  if smscList = [] then
    unlock .smscListLock
    return []
  let msgs ← systemInfoInitLoop smscList.length turns
  return .noOfSmsc smscList.length :: msgs.map .infoSmsc

/-- One round of `send_system_info`: the messages it sends, none in the first round; no value when it
leaves its loop. -/
def sendSystemInfoLocked (smscList : List SmscConn) (first : Bool) :
    WithLocks (Option (List InfoSmsc)) := do
  rdlock .smscListLock
  if smscList = [] then
    unlock .smscListLock
    return none
  let msgs := if first then [] else smscList.map infoSmsc
  unlock .smscListLock
  return some msgs

/-- `smsc2_stop_smsc`: its return value, and the positions it shuts down. -/
def smsc2StopSmscLocked (smscRunning : Bool) (smscList : List SmscConn) (id : Octstr) :
    WithLocks (ℤ × List ℕ) := do
  if !smscRunning then return (-1, [])
  rdlock .smscListLock
  let shut := (smscList.zipIdx.filter fun p => p.1.id = id ∧ p.1.status ≠ .dead).map Prod.snd
  unlock .smscListLock
  return (0, shut)

/-- `smsc2_restart_smsc`: its return value, and the list. -/
def smsc2RestartSmscLocked (smscRunning : Bool) (smscGroups : List CfgGroup)
    (smscList : List SmscConn) (id : Octstr) : WithLocks (ℤ × List SmscConn) := do
  if !smscRunning then return (-1, smscList)
  wrlock .smscListLock
  let smscList := smsc2RestartSmsc smscGroups smscList id
  unlock .smscListLock
  return (0, smscList)

/-! ## The locks

What each function does to the lock, whatever it finds: the branches are followed by the rules, and the loops by
induction on what is still to be visited. -/

section Locks

variable {lib : Gwlib} {cfg : ClientCfg} {v : RoutView} {message : Msg} {stack : ℤ}
  {C : Prop} {Q : ℤ × Process → Prop}

theorem RoutView.Still.send_eq (h : v.Still) {pos : ℕ} {conn : SmscConn}
    (hconn : v.process.smscList[pos]? = some conn) (message : Msg) :
    v.send pos message = smscconnSend conn message := by
  rw [RoutView.send, h, hconn, Option.bind_some]

/-- The loop over the preferred positions releases the lock where it returns, if the part behind it
does. -/
theorem releases_preferredLoopLocked {behind : Msg → WithLocks (ℤ × Process)} {positions : List ℤ}
    (hstill : C → v.Still)
    (hbehind : ∀ message',
      (C → preferredLoop lib v.process message positions = .ok (.inl message')) →
      Releases .smscListLock (behind message') Q)
    (hreturn : ∀ r, (C → preferredLoop lib v.process message positions = .ok (.inr r)) → Q r) :
    Releases .smscListLock (preferredLoopLocked lib v behind message positions) Q := by
  induction positions generalizing message with
  | nil => exact hbehind message fun _ => rfl
  | cons pos rest ih =>
    refine .bind (.ofOutcome _) fun conn hconn => ?_
    replace hconn := Option.some.inj hconn
    have hget := (gwlistGet_eq_ok.mp hconn).2
    rw [preferredLoop, hconn] at hbehind hreturn
    dsimp only at hbehind hreturn
    split
    case isTrue hinactive =>
      simp only [if_pos hinactive] at hbehind hreturn
      split
      case isTrue hrunning =>
        simp only [if_pos hrunning] at hbehind hreturn
        exact ih hbehind hreturn
      case isFalse hrunning =>
        simp only [if_neg hrunning] at hreturn
        exact .unlock (.pure (hreturn _ fun _ => rfl))
    case isFalse hactive =>
      simp only [if_neg hactive] at hbehind hreturn
      split
      case isTrue hunusable =>
        simp only [if_pos hunusable] at hbehind hreturn
        exact ih hbehind hreturn
      case isFalse husable =>
        simp only [if_neg husable] at hbehind hreturn
        dsimp only
        cases hsend : v.send pos.toNat { message with msgState := .notSent } with
        | none =>
          refine ih (fun message' h => hbehind message' fun hC => ?_)
            fun r h => hreturn r fun hC => ?_
          · rw [← (hstill hC).send_eq hget, hsend]
            exact h hC
          · rw [← (hstill hC).send_eq hget, hsend]
            exact h hC
        | some conn' =>
          refine .unlock (.pure (hreturn _ fun hC => ?_))
          rw [← (hstill hC).send_eq hget, hsend]

/-- The part behind it releases the lock, if the new call keeps the locks. -/
theorem releases_routAllowedLocked {again : Msg → WithLocks (ℤ × Process)}
    {againFree : Msg → Option (Except Fault (ℤ × Process))}
    (hstill : C → v.Still)
    (hagain : ∀ message, Keeps (again message) fun r => C → againFree message = some (.ok r)) :
    Releases .smscListLock (routAllowedLocked lib cfg stack v message again)
      fun r => C → routAllowed lib cfg stack v.process message againFree = some (.ok r) := by
  refine .bind (.ofOutcome _) fun a ha => ?_
  replace ha := Option.some.inj ha
  rw [routAllowed, ha]
  obtain ⟨_ | i, boSent, badFound⟩ := a
  · dsimp only
    cases badFound with
    | true =>
      dsimp only
      split
      · exact .unlock (.pure fun _ => rfl)
      · exact .unlock (.pure fun _ => rfl)
    | false =>
      dsimp only
      refine .unlock ?_
      split
      · exact .pure fun _ => rfl
      · exact .pure fun _ => rfl
  · dsimp only
    cases hconn : v.process.smscList[i]? with
    | none => exact fun _ _ _ hrun => absurd (run_ofOutcome_eq_ok hrun).1 (by simp)
    | some conn =>
      dsimp only
      cases hsend : v.send i { message with msgState := .notSent } with
      | none =>
        refine .unlock ((hagain _).mono fun r hr hC => ?_)
        rw [← (hstill hC).send_eq hconn, hsend]
        exact hr hC
      | some conn' =>
        refine .unlock (.pure fun hC => ?_)
        rw [← (hstill hC).send_eq hconn, hsend]

/-- **`smsc2_rout` keeps the lock**, whatever its calls find.  If nothing changes meanwhile, it returns
what it returns without the lock. -/
theorem keeps_smsc2RoutLocked (lib : Gwlib) (cfg : ClientCfg) (stack : ℤ) (p : Process)
    (views : List RoutView) (message : Msg) :
    Keeps (smsc2RoutLocked lib cfg stack views message) fun r =>
      (∀ v ∈ views, v.process = p ∧ v.Still) →
        smsc2Rout lib cfg stack views.length p message = some (.ok r) := by
  induction views generalizing message with
  | nil => exact fun _ _ _ hrun => nomatch (run_ofOutcome_eq_ok hrun).1
  | cons v views ih =>
    refine .rdlock ?_
    split
    case isTrue hempty =>
      refine .unlock (.pure fun hp => ?_)
      obtain ⟨rfl, -⟩ := hp v List.mem_cons_self
      rw [List.length_cons, smsc2Rout, if_pos hempty]
    case isFalse hne =>
      have hagain : ∀ message, Keeps (smsc2RoutLocked lib cfg stack views message) fun r =>
          (∀ v' ∈ v :: views, v'.process = p ∧ v'.Still) →
            smsc2Rout lib cfg stack views.length p message = some (.ok r) := fun message =>
        (ih message).mono fun r hr hp => hr fun v' hv' => hp v' (List.mem_cons_of_mem _ hv')
      have hstill : (∀ v' ∈ v :: views, v'.process = p ∧ v'.Still) → v.Still := fun hp =>
        (hp v List.mem_cons_self).2
      refine releases_preferredLoopLocked hstill (fun message' hloop => ?_) fun r hloop hp => ?_
      · refine (releases_routAllowedLocked hstill hagain).mono fun r hr hp => ?_
        obtain ⟨rfl, -⟩ := hp v List.mem_cons_self
        rw [List.length_cons, smsc2Rout, if_neg hne, hloop hp]
        exact hr hp
      · obtain ⟨rfl, -⟩ := hp v List.mem_cons_self
        rw [List.length_cons, smsc2Rout, if_neg hne, hloop hp]

/-- The loop of `send_system_info_init` takes no lock; it sends one message for each connection. -/
theorem keeps_systemInfoInitLoop (n : ℕ) (turns : List SmscConn) :
    Keeps (systemInfoInitLoop n turns) fun msgs => msgs.length = n := by
  induction turns generalizing n with
  | nil =>
    cases n with
    | zero => exact .pure rfl
    | succ n => exact fun _ _ _ hrun => nomatch (run_ofOutcome_eq_ok hrun).1
  | cons conn turns ih =>
    cases n with
    | zero => exact .pure rfl
    | succ n =>
      rw [systemInfoInitLoop]
      split
      · exact ih (n + 1)
      · refine .bind (ih n) fun msgs hmsgs => .pure ?_
        rw [List.length_cons, hmsgs]

/-- For the empty list `send_system_info_init` keeps the lock. -/
theorem keeps_sendSystemInfoInitLocked (turns : List SmscConn) :
    Keeps (sendSystemInfoInitLocked [] turns) (· = []) :=
  .rdlock (.unlock (.pure rfl))

/-- **Otherwise it returns with a read lock.** -/
theorem takes_sendSystemInfoInitLocked {smscList : List SmscConn} (h : smscList ≠ [])
    (turns : List SmscConn) :
    Takes .smscListLock (sendSystemInfoInitLocked smscList turns)
      fun msgs => msgs.length = smscList.length + 1 := by
  refine .rdlock ?_
  rw [if_neg h]
  refine .bind (keeps_systemInfoInitLoop _ turns) fun msgs hmsgs => .pure ?_
  rw [List.length_cons, List.length_map, hmsgs]

theorem keeps_sendSystemInfoLocked (smscList : List SmscConn) (first : Bool) :
    Keeps (sendSystemInfoLocked smscList first) fun res => res = none ↔ smscList = [] := by
  refine .rdlock ?_
  split
  case isTrue h => exact .unlock (.pure (by simp [h]))
  case isFalse h => exact .unlock (.pure (by simp [h]))

theorem keeps_smsc2StopSmscLocked (smscRunning : Bool) (smscList : List SmscConn) (id : Octstr) :
    Keeps (smsc2StopSmscLocked smscRunning smscList id) fun res =>
      res.1 = if smscRunning then 0 else -1 := by
  rw [smsc2StopSmscLocked]
  cases smscRunning with
  | false => exact .pure rfl
  | true => exact .rdlock (.unlock (.pure rfl))

theorem keeps_smsc2RestartSmscLocked (smscRunning : Bool) (smscGroups : List CfgGroup)
    (smscList : List SmscConn) (id : Octstr) :
    Keeps (smsc2RestartSmscLocked smscRunning smscGroups smscList id) fun res =>
      res.2 = if smscRunning then smsc2RestartSmsc smscGroups smscList id else smscList := by
  rw [smsc2RestartSmscLocked]
  cases smscRunning with
  | false => exact .pure rfl
  | true => exact .wrlock (.unlock (.pure rfl))

end Locks

/-! ## The steps of an announcement

`announcerStep` takes `send_system_info_init` turn by turn. -/

section Announcement

variable {s : Announcer} {i : ℕ}

/-- The message of a turn at a connection that has sent its bind. -/
theorem announcerStep_initTurn_of_bound {conn : SmscConn} (hinit : s.init = some i)
    (hconn : s.smscList[i]? = some conn) (hbound : conn.bindSent = 1) :
    announcerStep s .initTurn =
      some { s.sendMsgReverseServer (.infoSmsc (infoSmsc conn)) with init := some (i + 1) } := by
  rw [announcerStep, hinit]
  dsimp only
  rw [hconn]
  exact if_neg (not_not.mpr hbound)

/-- The turns of the loop, from position `i` to the end of the list. -/
theorem exec_initTurns (hinit : s.init = some i) (n : ℕ) (hn : i + n = s.smscList.length)
    (hbound : ∀ conn ∈ s.smscList, conn.bindSent = 1) :
    ∃ s', exec announcerStep s (List.replicate (n + 1) .initTurn) = some s' ∧
      s'.init = none ∧ s'.readers = s.readers ∧
      s'.reverse = s.reverse ++ (s.smscList.drop i).map fun conn => .infoSmsc (infoSmsc conn) := by
  induction n generalizing s i with
  | zero =>
    have hend : s.smscList[i]? = none := List.getElem?_eq_none (by omega)
    refine ⟨{ s with init := none }, exec_cons_eq_some.mpr ⟨_, ?_, rfl⟩, rfl, rfl, ?_⟩
    · rw [announcerStep, hinit]
      dsimp only
      rw [hend]
    · rw [List.drop_eq_nil_of_le (by omega), List.map_nil, List.append_nil]
  | succ n ih =>
    obtain ⟨conn, hconn⟩ : ∃ conn, s.smscList[i]? = some conn :=
      ⟨_, List.getElem?_eq_getElem (by omega)⟩
    have hturn := announcerStep_initTurn_of_bound hinit hconn (hbound conn (List.mem_of_getElem? hconn))
    obtain ⟨s', hrun, hinit', hreaders, hreverse⟩ := ih
      (s := { s.sendMsgReverseServer (.infoSmsc (infoSmsc conn)) with init := some (i + 1) }) rfl
      ((Nat.add_right_comm i 1 n).trans hn) hbound
    refine ⟨s', exec_cons_eq_some.mpr ⟨_, hturn, hrun⟩, hinit', hreaders, ?_⟩
    have hdrop : s.smscList.drop i = conn :: s.smscList.drop (i + 1) :=
      List.drop_eq_getElem?_toList_append.trans (by rw [hconn]; rfl)
    rw [hreverse, hdrop, List.map_cons, List.append_cons]
    rfl

/-- If every connection has sent its bind, the loop does not wait. -/
theorem systemInfoInitLoop_of_bound {turns : List SmscConn}
    (hbound : ∀ conn ∈ turns, conn.bindSent = 1) :
    systemInfoInitLoop turns.length turns = return turns.map infoSmsc := by
  induction turns with
  | nil => rfl
  | cons conn turns ih =>
    rw [List.forall_mem_cons] at hbound
    rw [List.length_cons, systemInfoInitLoop, if_neg (not_not.mpr hbound.1), ih hbound.2]
    rfl

/-- **An undisturbed announcement**, step by step: one more read lock is held at its end, and the messages
sent are those that `send_system_info_init` returns. -/
theorem exec_sendSystemInfoInit (hinit : s.init = none) (hlist : s.smscList ≠ [])
    (hbound : ∀ conn ∈ s.smscList, conn.bindSent = 1) :
    ∃ s', exec announcerStep s
        (.sendSystemInfoInit :: List.replicate (s.smscList.length + 1) .initTurn) = some s' ∧
      s'.readers = s.readers + 1 ∧
      Takes .smscListLock (sendSystemInfoInitLocked s.smscList s.smscList)
        fun msgs => s'.reverse = s.reverse ++ msgs := by
  have hcount : announcerStep s .sendSystemInfoInit = some
      { s.sendMsgReverseServer (.noOfSmsc s.smscList.length) with
        readers := s.readers + 1
        init := some 0 } := by
    rw [announcerStep, if_neg (not_not.mpr hinit), if_neg hlist]
  obtain ⟨s', hturns, -, hreaders, hreverse⟩ := exec_initTurns
    (s := { s.sendMsgReverseServer (.noOfSmsc s.smscList.length) with
      readers := s.readers + 1
      init := some 0 }) rfl s.smscList.length (Nat.zero_add _) hbound
  refine ⟨s', exec_cons_eq_some.mpr ⟨_, hcount, hturns⟩, hreaders, .rdlock ?_⟩
  rw [if_neg hlist, systemInfoInitLoop_of_bound hbound]
  refine .bind (P := (· = s.smscList.map infoSmsc)) (.pure rfl) fun msgs hmsgs => .pure ?_
  rw [hreverse, hmsgs, List.drop_zero, List.map_map]
  exact List.append_assoc _ [_] _

end Announcement

/-! ## Free locks are given

From a free lock no function waits, and behind the first read lock all that is left to do is to release it. -/

section Proceeds

variable {lib : Gwlib} {cfg : ClientCfg} {v : RoutView} {stack : ℤ}

/-- `smsc_list_lock` is held for reading. -/
def reading : ListLock → RwLock := Function.update free .smscListLock { readers := 1 }

theorem proceeds_unlock {α : Type} {m : WithLocks α} (h : Proceeds m free) :
    Proceeds (do unlock .smscListLock; m) reading :=
  .unlock rfl (by rwa [update_free])

theorem proceeds_preferredLoopLocked {behind : Msg → WithLocks (ℤ × Process)}
    (hbehind : ∀ message, Proceeds (behind message) reading) (message : Msg) (positions : List ℤ) :
    Proceeds (preferredLoopLocked lib v behind message positions) reading := by
  induction positions generalizing message with
  | nil => exact hbehind message
  | cons pos rest ih =>
    refine .bind (.ofOutcome _ _) (.ofOutcome _) fun conn _ => ?_
    split
    · split
      · exact ih message
      · exact proceeds_unlock (.pure _ _)
    · split
      · exact ih message
      · dsimp only
        split
        · exact ih _
        · exact proceeds_unlock (.pure _ _)

theorem proceeds_routAllowedLocked {again : Msg → WithLocks (ℤ × Process)}
    (hagain : ∀ message, Proceeds (again message) free) (message : Msg) :
    Proceeds (routAllowedLocked lib cfg stack v message again) reading := by
  refine .bind (.ofOutcome _ _) (.ofOutcome _) fun a _ => ?_
  match a with
  | ⟨some i, _, _⟩ =>
    dsimp only
    split
    · exact .ofOutcome _ _
    · split
      · exact proceeds_unlock (hagain _)
      · exact proceeds_unlock (.pure _ _)
  | ⟨none, _, true⟩ =>
    dsimp only
    split
    · exact proceeds_unlock (.pure _ _)
    · exact proceeds_unlock (.pure _ _)
  | ⟨none, _, false⟩ =>
    refine proceeds_unlock ?_
    split
    · exact .pure _ _
    · exact .pure _ _

/-- **`smsc2_rout` does not wait for itself**; its recursive call finds the lock released. -/
theorem proceeds_smsc2RoutLocked (lib : Gwlib) (cfg : ClientCfg) (stack : ℤ) (views : List RoutView)
    (message : Msg) : Proceeds (smsc2RoutLocked lib cfg stack views message) free := by
  induction views generalizing message with
  | nil => exact .ofOutcome _ _
  | cons v views ih =>
    refine .rdlock rfl ?_
    split
    · exact proceeds_unlock (.pure _ _)
    · exact proceeds_preferredLoopLocked (fun _ => proceeds_routAllowedLocked ih _) _ _

theorem proceeds_systemInfoInitLoop (n : ℕ) (turns : List SmscConn) (l : ListLock → RwLock) :
    Proceeds (systemInfoInitLoop n turns) l := by
  induction turns generalizing n with
  | nil =>
    cases n with
    | zero => exact .pure _ _
    | succ n => exact .ofOutcome _ _
  | cons conn turns ih =>
    cases n with
    | zero => exact .pure _ _
    | succ n =>
      rw [systemInfoInitLoop]
      split
      · exact ih (n + 1)
      · exact .bind (ih n) (keeps_systemInfoInitLoop n turns) fun _ _ => .pure _ _

theorem proceeds_sendSystemInfoInitLocked (smscList turns : List SmscConn) :
    Proceeds (sendSystemInfoInitLocked smscList turns) free := by
  refine .rdlock rfl ?_
  split
  · exact proceeds_unlock (.pure _ _)
  · exact .bind (proceeds_systemInfoInitLoop _ _ _) (keeps_systemInfoInitLoop _ _) fun _ _ => .pure _ _

theorem proceeds_sendSystemInfoLocked (smscList : List SmscConn) (first : Bool) :
    Proceeds (sendSystemInfoLocked smscList first) free := by
  refine .rdlock rfl ?_
  split
  · exact proceeds_unlock (.pure _ _)
  · exact proceeds_unlock (.pure _ _)

theorem proceeds_smsc2StopSmscLocked (smscRunning : Bool) (smscList : List SmscConn) (id : Octstr) :
    Proceeds (smsc2StopSmscLocked smscRunning smscList id) free := by
  rw [smsc2StopSmscLocked]
  cases smscRunning with
  | false => exact .pure _ _
  | true => exact .rdlock rfl (.unlock rfl (.pure _ _))

theorem proceeds_smsc2RestartSmscLocked (smscRunning : Bool) (smscGroups : List CfgGroup)
    (smscList : List SmscConn) (id : Octstr) :
    Proceeds (smsc2RestartSmscLocked smscRunning smscGroups smscList id) free := by
  rw [smsc2RestartSmscLocked]
  cases smscRunning with
  | false => exact .pure _ _
  | true => exact .wrlock rfl (.unlock rfl (.pure _ _))

end Proceeds

/-! ## Lock discipline

The functions of both processes are the calls of one language.  Which of them leave a lock behind is told by
their arguments. -/

/-- A call of one of the operations, with its arguments and all that it finds. -/
inductive ListCall
  | smsc2Rout (lib : Gwlib) (cfg : ClientCfg) (stack : ℤ) (views : List RoutView) (message : Msg)
  | sendSystemInfoInit (smscList turns : List SmscConn)
  | sendSystemInfo (smscList : List SmscConn) (first : Bool)
  | smsc2StopSmsc (smscRunning : Bool) (smscList : List SmscConn) (id : Octstr)
  | smsc2RestartSmsc (smscRunning : Bool) (smscGroups : List CfgGroup) (smscList : List SmscConn)
      (id : Octstr)
  | stopEsme (r : Registry) (esme : Octstr) (threads : ℕ → EsmeThreads)
  | authoriseUser (env : AuthEnv) (r r' : Registry) (pdu : BindPdu) (mode : ℤ) (tc : TempConn)
  | esmeDestroy (r : Registry) (esme : Option ℕ) (mode sessionId : ℤ)

namespace ListCall

/-- The call, without the value it returns. -/
def run : ListCall → WithLocks Unit
  | .smsc2Rout lib cfg stack views message => do
    let _ ← smsc2RoutLocked lib cfg stack views message
  | .sendSystemInfoInit smscList turns => do
    let _ ← sendSystemInfoInitLocked smscList turns
  | .sendSystemInfo smscList first => do
    let _ ← sendSystemInfoLocked smscList first
  | .smsc2StopSmsc smscRunning smscList id => do
    let _ ← smsc2StopSmscLocked smscRunning smscList id
  | .smsc2RestartSmsc smscRunning smscGroups smscList id => do
    let _ ← smsc2RestartSmscLocked smscRunning smscGroups smscList id
  | .stopEsme r esme threads => do
    let _ ← stopEsmeLocked r esme threads
  | .authoriseUser env r r' pdu mode tc => do
    let _ ← authoriseUserLocked env r r' pdu mode tc
  | .esmeDestroy r esme mode sessionId => do
    let _ ← esmeDestroyLocked r esme mode sessionId

/-- `send_system_info_init` finds no connection in the list, and `stop_esme` finds the id in the
list. -/
def Releasing : ListCall → Prop
  | .sendSystemInfoInit smscList _ => smscList = []
  | .stopEsme r esme _ => (isPresentEsme r (some esme)).isSome
  | _ => True

instance : ∀ c, Decidable (Releasing c)
  | .sendSystemInfoInit smscList _ => inferInstanceAs (Decidable (smscList = []))
  | .stopEsme r esme _ => inferInstanceAs (Decidable ((isPresentEsme r (some esme)).isSome))
  | .smsc2Rout .. | .sendSystemInfo .. | .smsc2StopSmsc .. | .smsc2RestartSmsc .. | .authoriseUser ..
  | .esmeDestroy .. => .isTrue trivial

/-- A call that releases the lock keeps the locks. -/
theorem keeps_run (c : ListCall) (h : c.Releasing) : Keeps c.run fun _ => True := by
  cases c with
  | smsc2Rout lib cfg stack views message =>
    exact .bind (keeps_smsc2RoutLocked lib cfg stack ⟨[], {}, .running⟩ views message)
      fun _ _ => .pure trivial
  | sendSystemInfoInit smscList turns =>
    obtain rfl : smscList = [] := h
    exact .bind (keeps_sendSystemInfoInitLocked turns) fun _ _ => .pure trivial
  | sendSystemInfo smscList first =>
    exact .bind (keeps_sendSystemInfoLocked smscList first) fun _ _ => .pure trivial
  | smsc2StopSmsc smscRunning smscList id =>
    exact .bind (keeps_smsc2StopSmscLocked smscRunning smscList id) fun _ _ => .pure trivial
  | smsc2RestartSmsc smscRunning smscGroups smscList id =>
    exact .bind (keeps_smsc2RestartSmscLocked smscRunning smscGroups smscList id)
      fun _ _ => .pure trivial
  | stopEsme r esme threads =>
    exact .bind (keeps_stopEsmeLocked h threads) fun _ _ => .pure trivial
  | authoriseUser env r r' pdu mode tc =>
    exact .bind (keeps_authoriseUserLocked env r r' pdu mode tc) fun _ _ => .pure trivial
  | esmeDestroy r esme mode sessionId =>
    exact .bind (keeps_esmeDestroyLocked r esme mode sessionId) fun _ _ => .pure trivial

/-- Any other leaves a read lock behind. -/
theorem takes_run (c : ListCall) (h : ¬ c.Releasing) : ∃ x, Takes x c.run fun _ => True := by
  cases c with
  | sendSystemInfoInit smscList turns =>
    exact ⟨_, .bind (takes_sendSystemInfoInitLocked h turns) fun _ _ => .pure trivial⟩
  | stopEsme r esme threads =>
    have hnone : isPresentEsme r (some esme) = none := Option.not_isSome_iff_eq_none.mp h
    exact ⟨_, .bind (takes_stopEsmeLocked hnone threads) fun _ _ => .pure trivial⟩
  | smsc2Rout | sendSystemInfo | smsc2StopSmsc | smsc2RestartSmsc | authoriseUser | esmeDestroy =>
    exact absurd trivial h

/-- **No call waits for a lock that it holds itself.** -/
theorem proceeds_run (c : ListCall) : Proceeds c.run free := by
  cases c with
  | smsc2Rout lib cfg stack views message =>
    exact .bind (proceeds_smsc2RoutLocked lib cfg stack views message)
      (keeps_smsc2RoutLocked lib cfg stack ⟨[], {}, .running⟩ views message) fun _ _ => .pure _ _
  | sendSystemInfoInit smscList turns =>
    exact (proceeds_sendSystemInfoInitLocked smscList turns).map _
  | sendSystemInfo smscList first =>
    exact (proceeds_sendSystemInfoLocked smscList first).map _
  | smsc2StopSmsc smscRunning smscList id =>
    exact (proceeds_smsc2StopSmscLocked smscRunning smscList id).map _
  | smsc2RestartSmsc smscRunning smscGroups smscList id =>
    exact (proceeds_smsc2RestartSmscLocked smscRunning smscGroups smscList id).map _
  | stopEsme r esme threads => exact (proceeds_stopEsmeLocked r esme threads).map _
  | authoriseUser env r r' pdu mode tc =>
    exact (proceeds_authoriseUserLocked env r r' pdu mode tc).map _
  | esmeDestroy r esme mode sessionId =>
    exact (proceeds_esmeDestroyLocked r esme mode sessionId).map _

end ListCall

/-- **Lock discipline.**  Calls one behind the other, of any of the operations, with any arguments and
whatever they find: when all have returned, the locks are held as before exactly if each call was
releasing.  If they were free, they are then free for a writer exactly in that case, and no next call
waits. -/
theorem lockDiscipline_iff {calls : List ListCall} {l l' : ListLock → RwLock}
    (hrun : exec (callStep ListCall.run) l calls = some l') :
    (l' = l ↔ ∀ c ∈ calls, c.Releasing) ∧
      (l = free → ((∀ x, (l' x).wrlock.isSome) ↔ ∀ c ∈ calls, c.Releasing) ∧
        ((∀ c ∈ calls, c.Releasing) → ∀ c : ListCall, Proceeds c.run l')) := by
  have hkept : l' = l ↔ ∀ c ∈ calls, c.Releasing :=
    exec_callStep_eq_iff ListCall.keeps_run ListCall.takes_run hrun
  refine ⟨hkept, fun hfree => ⟨?_, fun hall c => ?_⟩⟩
  · rw [← hkept, hfree, funext_iff]
    exact forall_congr' fun x => RwLock.isSome_wrlock
  · rw [hkept.mpr hall, hfree]
    exact c.proceeds_run

/-- An announcement to the empty list, a round of `send_system_info`, a stop and a restart. -/
def sampleCalls : List ListCall :=
  [.sendSystemInfoInit [] [], .sendSystemInfo [sampleConn] false,
    .smsc2StopSmsc true [sampleConn] sampleConn.id, .smsc2RestartSmsc true [] [sampleConn] sampleConn.id]

/-- Four calls that leave the lock free. -/
theorem lockDiscipline_sampleCalls :
    ∃ l', exec (callStep ListCall.run) free sampleCalls = some l' ∧ l' = free := by
  have hrun : exec (callStep ListCall.run) free sampleCalls =
      some ((exec (callStep ListCall.run) free sampleCalls).get rfl) := (Option.some_get _).symm
  exact ⟨_, hrun, (lockDiscipline_iff hrun).1.mpr (by decide)⟩

/-- `stop_esme` for an id that is not in the list returns with a read lock, and the next bind does not get
the write lock. -/
theorem not_lockDiscipline_sampleStop :
    ∃ l', exec (callStep ListCall.run) free
        [.stopEsme .empty (octstrImm "nobody") fun _ => ⟨false, -1, false, -1⟩] = some l' ∧
      l' ≠ free ∧ (l' .esmeListLock).wrlock = none := by
  refine ⟨_, rfl, fun h => ?_, rfl⟩
  exact absurd (congrFun h .esmeListLock) (by decide)

end SmppServer.SmppSmsc
