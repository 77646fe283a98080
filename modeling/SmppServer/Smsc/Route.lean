import SmppServer.Smsc.Conn
import SmppServer.Machinery.Ledger

/-!
# Smsc/Route — choosing the SMSC for a message

`smsc2_rout` first goes through the preferred positions and hands the message to the first connection
that is active and usable; then through the allowed positions, of which the one with the least load
gets it.  If the allowed positions give no connection the message is queued again, destroyed, or left
behind, and both callers ignore which.

* `preferredLoop_of_stop`, `allowedLoop_eq_ok` — what the two loops find.
* `routConserves_iff` — a call leaves the message in exactly one place if and only if it is
  `Routable`.
-/

namespace SmppServer.SmppSmsc

open Machinery
open scoped List

/-- The state of the process. -/
inductive ClientStatus
  | running
  | suspended
  | shutdown
  | dead
  | full
  deriving DecidableEq, Repr

/-- What `smsc2_rout` reads and writes. -/
structure Process where
  smscList : List SmscConn
  queues : Queues
  smppClientStatus : ClientStatus
  deriving DecidableEq

section Rout

variable (lib : Gwlib) (cfg : ClientCfg)

/-- The loop over the preferred positions.  It returns from `smsc2_rout`, or falls through with the
message, whose state a refused send has changed.  The code gets the connection with `gwlist_get1`, which has
no source here; it is taken to be `gwlist_get`. -/
def preferredLoop (p : Process) : Msg → List ℤ → Except Fault (Msg ⊕ (ℤ × Process))
  | message, [] => .ok (.inl message)
  | message, pos :: rest =>
    match gwlistGet p.smscList pos with
    | .error fault => .error fault
    | .ok conn =>
      if (smscconnInfo conn).status ≠ .active then
        if p.smppClientStatus ≠ .shutdown then preferredLoop p message rest
        else .ok (.inr (-1, { p with queues := msgDestroy p.queues message }))
      else if smscconnUsable lib conn message.routingInfo = false then
        preferredLoop p message rest
      else
        let message := { message with msgState := .notSent }
        match smscconnSend conn message with
        | none => preferredLoop p message rest
        | some conn' =>
          .ok (.inr (1, { p with smscList := p.smscList.set pos.toNat conn' }))

/-- The local variables of the loop over the allowed positions. -/
structure Allowed where
  bestOk : Option ℕ := none
  boSent : ℤ := 0
  badFound : Bool := false
  deriving DecidableEq, Repr

/-- One allowed position; `bad_found` is reset at each of them. -/
def allowedBody (smscList : List SmscConn) (routingInfo : ForwardQueueData) (a : Allowed)
    (selectedPosition : ℤ) : Except Fault Allowed :=
  match gwlistGet smscList selectedPosition with
  | .error fault => .error fault
  | .ok conn =>
    let info := smscconnInfo conn
    if info.status ≠ .active then .ok { a with badFound := true }
    else if smscconnUsable lib conn routingInfo = false then .ok { a with badFound := false }
    else if a.bestOk = none ∨ info.load < a.boSent then
      .ok { bestOk := some selectedPosition.toNat, boSent := info.load, badFound := false }
    else .ok { a with badFound := false }

/-- The loop over the allowed positions. -/
def allowedLoop (smscList : List SmscConn) (routingInfo : ForwardQueueData) :
    Allowed → List ℤ → Except Fault Allowed
  | a, [] => .ok a
  | a, pos :: rest =>
    match allowedBody lib smscList routingInfo a pos with
    | .error fault => .error fault
    | .ok a => allowedLoop smscList routingInfo a rest

/-- `allowed_smsc_len`, which keeps what was on the stack when there is no allowed position. -/
def allowedSmscLen (stack : ℤ) (allowedSmsc : List ℤ) : ℤ :=
  if terminated allowedSmsc = [] then stack else (terminated allowedSmsc).length

/-- The positions that the loop over the allowed positions visits. -/
def allowedVisited (stack : ℤ) (allowedSmsc : List ℤ) : List ℤ :=
  (List.range (allowedSmscLen stack allowedSmsc).toNat).map fun i => allowedSmsc.getD i (-1)

/-- `smsc2_rout` behind the loop over the preferred positions; `again` calls it anew. -/
def routAllowed (stack : ℤ) (p : Process) (message : Msg)
    (again : Msg → Option (Except Fault (ℤ × Process))) : Option (Except Fault (ℤ × Process)) :=
  match allowedLoop lib p.smscList message.routingInfo {}
      (allowedVisited stack message.routingInfo.allowedSmsc) with
  | .error fault => some (.error fault)
  | .ok { bestOk := some i, .. } =>
    let message := { message with msgState := .notSent }
    match p.smscList[i]? with
    | none => some (.error .outOfList)
    | some conn =>
      match smscconnSend conn message with
      | none => again message
      | some conn' => some (.ok (1, { p with smscList := p.smscList.set i conn' }))
  | .ok { bestOk := none, badFound := true, .. } =>
    if p.smppClientStatus ≠ .shutdown then
      some (.ok (0, { p with queues := produceOutgoingMsg cfg p.queues message }))
    else some (.ok (0, p))
  | .ok { bestOk := none, badFound := false, .. } =>
    if p.smppClientStatus = .shutdown then some (.ok (0, p)) else some (.ok (-1, p))

/-- `smsc2_rout`, with a bound on the number of calls; `none` if it needs more. -/
def smsc2Rout (stack : ℤ) : ℕ → Process → Msg → Option (Except Fault (ℤ × Process))
  | 0, _, _ => none
  | calls + 1, p, message =>
    if p.smscList = [] then some (.ok (-1, p))
    else
      match preferredLoop lib p message (terminated message.routingInfo.preferredSmsc) with
      | .error fault => some (.error fault)
      | .ok (.inr r) => some (.ok r)
      | .ok (.inl message) =>
        routAllowed lib cfg stack p message fun message => smsc2Rout stack calls p message

/-- The places a message can be in: one entry for every message in a `msgs_to_send` list, in
`outgoing_msg`, and for every record emitted. -/
def Process.places (p : Process) : List Octstr :=
  p.smscList.flatMap (·.queuedIds) ++
    (p.queues.outgoingIds ++ p.queues.recordIds)

/-- **Router conservation**: a call with this message returns, and leaves it in exactly one place more
than it was in before; nothing else moves. -/
def RoutConserves (stack : ℤ) (p : Process) (message : Msg) : Prop :=
  ∃ calls r p', smsc2Rout lib cfg stack calls p message = some (.ok (r, p')) ∧
    p'.places ~ message.accountMsgId :: p.places

/-- What a position leads to. -/
inductive Target
  | outside
  | inactive
  | unusable
  | good
  deriving DecidableEq, Repr

/-- A position outside the list, an inactive connection, an active one that may not be used for this
receiver, or one that will take the message. -/
def target (smscList : List SmscConn) (routingInfo : ForwardQueueData) (pos : ℤ) : Target :=
  match gwlistGet smscList pos with
  | .error _ => .outside
  | .ok conn =>
    if conn.status ≠ .active then .inactive
    else if smscconnUsable lib conn routingInfo then .good
    else .unusable

/-- The loop over the preferred positions goes on behind this one. -/
def Target.passedOver (status : ClientStatus) (t : Target) : Bool :=
  t = .unusable ∨ t = .inactive ∧ status ≠ .shutdown

/-- The allowed positions can take a message that no preferred one took: all of them are in the list,
and one is active and usable or — unless the process is shutting down — the last one is inactive. -/
def AllowedRoutable (p : Process) (message : Msg) : Prop :=
  let t := target lib p.smscList message.routingInfo
  let allowed := terminated message.routingInfo.allowedSmsc
  (∀ pos ∈ allowed, t pos ≠ .outside) ∧
    ((∃ pos ∈ allowed, t pos = .good) ∨
      p.smppClientStatus ≠ .shutdown ∧ ∃ pos ∈ allowed.getLast?, t pos = .inactive)

/-- The first preferred position that is not passed over. -/
def preferredStop (p : Process) (message : Msg) : Option ℤ :=
  (terminated message.routingInfo.preferredSmsc).find? fun pos =>
    !(target lib p.smscList message.routingInfo pos).passedOver p.smppClientStatus

/-- **When a message can be routed.**  The first preferred position that is not passed over leads to
an active and usable connection; or all are passed over and the allowed positions can take it. -/
def Routable (p : Process) (message : Msg) : Prop :=
  match preferredStop lib p message with
  | some pos => target lib p.smscList message.routingInfo pos = .good
  | none => AllowedRoutable lib p message

instance (p : Process) (message : Msg) : Decidable (AllowedRoutable lib p message) :=
  inferInstanceAs (Decidable (_ ∧ _))

instance (p : Process) (message : Msg) : Decidable (Routable lib p message) :=
  match h : preferredStop lib p message with
  | some pos => decidable_of_iff (target lib p.smscList message.routingInfo pos = .good)
      (by rw [Routable, h])
  | none => decidable_of_iff (AllowedRoutable lib p message) (by rw [Routable, h])

end Rout

section Loops

variable {lib : Gwlib} {cfg : ClientCfg} {p : Process} {message : Msg} {smscList : List SmscConn}
  {routingInfo : ForwardQueueData} {pos : ℤ} {stack : ℤ}

/-! ## Targets

What a position is to the loops: outside the list, inactive, refused by the prefix rules, or good. -/

theorem target_eq_outside :
    target lib smscList routingInfo pos = .outside ↔ ∃ fault, gwlistGet smscList pos = .error fault := by
  unfold target
  cases gwlistGet smscList pos with
  | error fault => simp
  | ok conn =>
    simp only [reduceCtorEq, exists_false, iff_false]
    split
    · simp
    · split <;> simp

theorem target_eq_inactive :
    target lib smscList routingInfo pos = .inactive ↔
      ∃ conn, gwlistGet smscList pos = .ok conn ∧ conn.status ≠ .active := by
  unfold target
  cases gwlistGet smscList pos with
  | error fault => simp
  | ok conn =>
    by_cases hs : conn.status = .active
    · cases hu : smscconnUsable lib conn routingInfo <;> simp [hs, hu]
    · simp [hs]

theorem target_eq_unusable :
    target lib smscList routingInfo pos = .unusable ↔
      ∃ conn, gwlistGet smscList pos = .ok conn ∧ conn.status = .active ∧
        smscconnUsable lib conn routingInfo = false := by
  unfold target
  cases gwlistGet smscList pos with
  | error fault => simp
  | ok conn => by_cases hs : conn.status = .active <;> simp [hs]

theorem target_eq_good :
    target lib smscList routingInfo pos = .good ↔
      ∃ conn, gwlistGet smscList pos = .ok conn ∧ conn.status = .active ∧
        smscconnUsable lib conn routingInfo = true := by
  unfold target
  cases gwlistGet smscList pos with
  | error fault => simp
  | ok conn => by_cases hs : conn.status = .active <;> simp [hs]

/-- `-1` is no position. -/
theorem target_neg_one : target lib smscList routingInfo (-1) = .outside :=
  target_eq_outside.mpr ⟨.outOfList, rfl⟩

/-! ## The preferred positions

The loop passes over positions until one stops it, and what it does there depends on that position alone. -/

theorem preferredLoop_cons_of_passedOver {rest : List ℤ}
    (h : (target lib p.smscList message.routingInfo pos).passedOver p.smppClientStatus = true) :
    preferredLoop lib p message (pos :: rest) = preferredLoop lib p message rest := by
  simp only [Target.passedOver, Bool.decide_or, Bool.decide_and, Bool.or_eq_true,
    decide_eq_true_eq, Bool.and_eq_true] at h
  rcases h with h | ⟨h, hst⟩
  · obtain ⟨conn, hget, hactive, husable⟩ := target_eq_unusable.mp h
    simp [preferredLoop, hget, smscconnInfo, hactive, husable]
  · obtain ⟨conn, hget, hactive⟩ := target_eq_inactive.mp h
    simp [preferredLoop, hget, smscconnInfo, hactive, hst]

theorem preferredLoop_append {before : List ℤ} (rest : List ℤ)
    (h : ∀ pos ∈ before,
      (target lib p.smscList message.routingInfo pos).passedOver p.smppClientStatus = true) :
    preferredLoop lib p message (before ++ rest) = preferredLoop lib p message rest := by
  induction before with
  | nil => rfl
  | cons pos before ih =>
    rw [List.cons_append, preferredLoop_cons_of_passedOver (h pos List.mem_cons_self)]
    exact ih fun pos' hpos' => h pos' (List.mem_cons_of_mem _ hpos')

/-- A good preferred position takes the message. -/
theorem preferredLoop_cons_of_good (rest : List ℤ)
    (h : target lib p.smscList message.routingInfo pos = .good) :
    ∃ conn, p.smscList[pos.toNat]? = some conn ∧
      preferredLoop lib p message (pos :: rest) =
        .ok (.inr (1, { p with
          smscList := p.smscList.set pos.toNat
            (sendMsgCb conn { message with msgState := .notSent }) })) := by
  obtain ⟨conn, hget, hactive, husable⟩ := target_eq_good.mp h
  refine ⟨conn, (gwlistGet_eq_ok.mp hget).2, ?_⟩
  simp [preferredLoop, hget, smscconnInfo, hactive, husable, smscconnSend_of_usable husable]

/-- A preferred position that is neither good nor passed over faults, or destroys the message. -/
theorem preferredLoop_cons_of_stop (rest : List ℤ)
    (hover : (target lib p.smscList message.routingInfo pos).passedOver p.smppClientStatus = false)
    (hgood : target lib p.smscList message.routingInfo pos ≠ .good) :
    (∃ fault, preferredLoop lib p message (pos :: rest) = .error fault) ∨
      target lib p.smscList message.routingInfo pos = .inactive ∧
        preferredLoop lib p message (pos :: rest) =
          .ok (.inr (-1, { p with queues := msgDestroy p.queues message })) := by
  cases ht : target lib p.smscList message.routingInfo pos with
  | good => exact absurd ht hgood
  | unusable => simp [ht, Target.passedOver] at hover
  | outside =>
    obtain ⟨fault, hget⟩ := target_eq_outside.mp ht
    exact .inl ⟨fault, by simp [preferredLoop, hget]⟩
  | inactive =>
    obtain ⟨conn, hget, hactive⟩ := target_eq_inactive.mp ht
    have hst : p.smppClientStatus = .shutdown := by simpa [ht, Target.passedOver] using hover
    exact .inr ⟨rfl, by simp [preferredLoop, hget, smscconnInfo, hactive, hst]⟩

/-! ## The allowed positions

All of them are visited.  The loop keeps the best connection and, in `bad_found`, whether the last position it
came to was inactive. -/

/-- With an allowed position, the positions visited are those before the terminator. -/
theorem allowedVisited_of_ne_nil {allowed : List ℤ} (h : terminated allowed ≠ []) :
    allowedVisited stack allowed = terminated allowed := by
  have hpre : terminated allowed <+: allowed := List.takeWhile_prefix _
  refine List.ext_getElem (by simp [allowedVisited, allowedSmscLen, h]) fun i hi hi' => ?_
  simp only [allowedVisited, List.getElem_map, List.getElem_range]
  rw [List.getD_eq_getElem?_getD, List.getElem?_eq_getElem (Nat.lt_of_lt_of_le hi' hpre.length_le),
    Option.getD_some, hpre.getElem hi']

/-- Without one, none is visited or the first one visited is the terminator. -/
theorem allowedVisited_of_eq_nil (stack : ℤ) {allowed : List ℤ} (h : terminated allowed = []) :
    allowedVisited stack allowed = [] ∨ ∃ rest, allowedVisited stack allowed = -1 :: rest := by
  have hhead : allowed.getD 0 (-1) = -1 := by
    cases allowed with
    | nil => rfl
    | cons pos rest =>
      by_contra hne
      simp [terminated, show pos ≠ -1 from hne] at h
  rw [allowedVisited, allowedSmscLen, if_pos h]
  cases stack.toNat with
  | zero => exact .inl rfl
  | succ n =>
    rw [List.range_succ_eq_map, List.map_cons, hhead]
    exact .inr ⟨_, rfl⟩

/-- An allowed position outside the list faults. -/
theorem allowedLoop_of_outside {a : Allowed} {l : List ℤ}
    (h : ∃ pos ∈ l, target lib smscList routingInfo pos = .outside) :
    ∃ fault, allowedLoop lib smscList routingInfo a l = .error fault := by
  induction l generalizing a with
  | nil => simp at h
  | cons pos l ih =>
    rw [allowedLoop]
    cases hbody : allowedBody lib smscList routingInfo a pos with
    | error fault => exact ⟨fault, rfl⟩
    | ok a' =>
      obtain ⟨pos', hmem, hout⟩ := h
      rcases List.mem_cons.mp hmem with rfl | hmem
      · obtain ⟨fault, hfault⟩ := target_eq_outside.mp hout
        simp [allowedBody, hfault] at hbody
      · exact ih ⟨pos', hmem, hout⟩

/-- One position: a good one leaves a connection, the best one comes from a good one, and `bad_found`
says whether this one is inactive. -/
theorem allowedBody_eq_ok {a : Allowed} (h : target lib smscList routingInfo pos ≠ .outside) :
    ∃ a', allowedBody lib smscList routingInfo a pos = .ok a' ∧
      (∀ i, a'.bestOk = some i →
        a.bestOk = some i ∨ target lib smscList routingInfo pos = .good ∧ pos.toNat = i) ∧
      (a'.bestOk = none → a.bestOk = none ∧ target lib smscList routingInfo pos ≠ .good) ∧
      (a'.badFound = true ↔ target lib smscList routingInfo pos = .inactive) := by
  cases ht : target lib smscList routingInfo pos with
  | outside => exact absurd ht h
  | inactive =>
    obtain ⟨conn, hget, hactive⟩ := target_eq_inactive.mp ht
    refine ⟨{ a with badFound := true }, ?_, fun i hi => .inl hi, fun hn => ⟨hn, by simp⟩, by simp⟩
    simp [allowedBody, hget, smscconnInfo, hactive]
  | unusable =>
    obtain ⟨conn, hget, hactive, husable⟩ := target_eq_unusable.mp ht
    refine ⟨{ a with badFound := false }, ?_, fun i hi => .inl hi, fun hn => ⟨hn, by simp⟩, by simp⟩
    simp [allowedBody, hget, smscconnInfo, hactive, husable]
  | good =>
    obtain ⟨conn, hget, hactive, husable⟩ := target_eq_good.mp ht
    simp only [allowedBody, hget, smscconnInfo, hactive, husable, ne_eq, not_true_eq_false,
      if_false, Bool.true_eq_false]
    split
    · exact ⟨_, rfl, fun i hi => .inr ⟨trivial, Option.some.inj hi⟩, fun hn => by simp at hn, by simp⟩
    · rename_i hbest
      exact ⟨_, rfl, fun i hi => .inl hi, fun hn => absurd (.inl hn) hbest, by simp⟩

/-- If no allowed position is outside, the loop ends with a connection exactly when a position is
good, and `bad_found` tells whether the last position is inactive. -/
theorem allowedLoop_eq_ok {a : Allowed} {l : List ℤ}
    (h : ∀ pos ∈ l, target lib smscList routingInfo pos ≠ .outside) :
    ∃ a', allowedLoop lib smscList routingInfo a l = .ok a' ∧
      (∀ i, a'.bestOk = some i →
        a.bestOk = some i ∨ ∃ pos ∈ l, target lib smscList routingInfo pos = .good ∧ pos.toNat = i) ∧
      (a'.bestOk = none → a.bestOk = none ∧ ∀ pos ∈ l, target lib smscList routingInfo pos ≠ .good) ∧
      (a'.badFound = true ↔ match l.getLast? with
        | none => a.badFound = true
        | some pos => target lib smscList routingInfo pos = .inactive) := by
  induction l generalizing a with
  | nil => exact ⟨a, rfl, fun i hi => .inl hi, fun hn => ⟨hn, by simp⟩, Iff.rfl⟩
  | cons pos l ih =>
    obtain ⟨hpos, hl⟩ := List.forall_mem_cons.mp h
    obtain ⟨a₁, hbody, hsome, hnone, hbad⟩ := allowedBody_eq_ok (a := a) hpos
    obtain ⟨a', hok, hsome', hnone', hbad'⟩ := ih (a := a₁) hl
    refine ⟨a', by rw [allowedLoop, hbody]; exact hok, fun i hi => ?_, fun hn => ?_, ?_⟩
    · rcases hsome' i hi with hi | ⟨pos', hmem, hgood⟩
      · exact (hsome i hi).imp_right fun hgood => ⟨pos, List.mem_cons_self, hgood⟩
      · exact .inr ⟨pos', List.mem_cons_of_mem _ hmem, hgood⟩
    · obtain ⟨hn₁, hrest⟩ := hnone' hn
      obtain ⟨hn₀, hgood⟩ := hnone hn₁
      exact ⟨hn₀, List.forall_mem_cons.mpr ⟨hgood, hrest⟩⟩
    · rw [hbad', List.getLast?_cons]
      cases l.getLast? with
      | none => exact hbad
      | some last => exact Iff.rfl

/-! ## Where the message is afterwards

A call that returns adds the message to one place or to none; which of the two is decided by the loops, and the
places of all other messages stay. -/

/-- A duplicate in the queue of one connection is one place more. -/
theorem places_set {i : ℕ} {conn : SmscConn} (h : p.smscList[i]? = some conn) (msg : Msg) :
    { p with smscList := p.smscList.set i (sendMsgCb conn msg) }.places ~
      msg.accountMsgId :: p.places := by
  have hconn : (sendMsgCb conn msg).queuedIds ~ [msg.accountMsgId] ++ conn.queuedIds := by
    simp only [SmscConn.queuedIds, sendMsgCb, msgDuplicate_eq, List.map_append, List.map_cons,
      List.map_nil]
    exact List.perm_append_comm
  exact (flatMap_set_perm h hconn).append_right _

/-- So is an entry of `outgoing_msg`. -/
theorem places_produceOutgoingMsg (msg : Msg) :
    { p with queues := produceOutgoingMsg cfg p.queues msg }.places ~ msg.accountMsgId :: p.places := by
  simp only [Process.places, outgoingIds_produceOutgoingMsg, recordIds_produceOutgoingMsg,
    List.append_assoc, List.singleton_append]
  rw [← List.append_assoc, ← List.append_assoc]
  exact List.perm_middle

/-- A call that leaves all places as they are loses the message. -/
theorem not_perm_cons_self {α : Type*} (a : α) (l : List α) : ¬ l ~ a :: l := by
  intro h
  simpa using h.length_eq

/-- The allowed positions hand the message over, or queue it. -/
theorem routAllowed_of_routable {again : Msg → Option (Except Fault (ℤ × Process))}
    (h : AllowedRoutable lib p message) :
    ∃ r p', routAllowed lib cfg stack p message again = some (.ok (r, p')) ∧
      p'.places ~ message.accountMsgId :: p.places := by
  obtain ⟨hin, hor⟩ := h
  have hne : terminated message.routingInfo.allowedSmsc ≠ [] := by
    rintro hnil
    simp [hnil] at hor
  obtain ⟨a, hok, hsome, hnone, hbad⟩ := allowedLoop_eq_ok (a := {}) hin
  obtain ⟨bestOk, boSent, badFound⟩ := a
  simp only [routAllowed, allowedVisited_of_ne_nil hne, hok]
  cases bestOk with
  | some i =>
    obtain h | ⟨pos, -, hgood, rfl⟩ := hsome i rfl
    · simp at h
    obtain ⟨conn, hget, -, husable⟩ := target_eq_good.mp hgood
    have hconn := (gwlistGet_eq_ok.mp hget).2
    simp only [hconn, smscconnSend_of_usable husable]
    exact ⟨1, _, rfl, places_set hconn { message with msgState := .notSent }⟩
  | none =>
    obtain ⟨hst, last, hlast, hinactive⟩ := hor.resolve_left fun ⟨pos, hmem, hgood⟩ =>
      (hnone rfl).2 pos hmem hgood
    obtain rfl : badFound = true := by
      rw [Option.mem_def] at hlast
      simpa [hlast, hinactive] using hbad
    simp only [ne_eq, hst, not_false_eq_true, if_true]
    exact ⟨0, _, rfl, places_produceOutgoingMsg message⟩

/-- Otherwise a call that returns leaves every place as it was. -/
theorem places_routAllowed {again : Msg → Option (Except Fault (ℤ × Process))} {r : ℤ} {p' : Process}
    (h : ¬ AllowedRoutable lib p message)
    (hr : routAllowed lib cfg stack p message again = some (.ok (r, p'))) : p'.places = p.places := by
  unfold routAllowed at hr
  by_cases hne : terminated message.routingInfo.allowedSmsc = []
  · -- no allowed position: nothing is visited, or the terminator is fetched
    obtain hv | ⟨rest, hv⟩ := allowedVisited_of_eq_nil stack hne
    · simp only [hv, allowedLoop] at hr
      split at hr <;> simp_all
    · have hout : ∃ pos ∈ -1 :: rest, target lib p.smscList message.routingInfo pos = .outside :=
        ⟨-1, List.mem_cons_self, target_neg_one⟩
      obtain ⟨fault, hfault⟩ := allowedLoop_of_outside (a := {}) hout
      simp [hv, hfault] at hr
  · rw [allowedVisited_of_ne_nil hne] at hr
    by_cases hin : ∀ pos ∈ terminated message.routingInfo.allowedSmsc,
        target lib p.smscList message.routingInfo pos ≠ .outside
    · obtain ⟨⟨bestOk, boSent, badFound⟩, hok, hsome, -, hbad⟩ := allowedLoop_eq_ok (a := {}) hin
      simp only [hok] at hr
      have hor : ¬ _ := fun hor => h ⟨hin, hor⟩
      rw [not_or] at hor
      cases bestOk with
      | some i =>
        obtain hi | ⟨pos, hmem, hgood, -⟩ := hsome i rfl
        · simp at hi
        · exact absurd ⟨pos, hmem, hgood⟩ hor.1
      | none =>
        cases badFound with
        | false => simp only at hr; split at hr <;> simp_all
        | true =>
          have hst : p.smppClientStatus = .shutdown := by
            by_contra hst
            refine hor.2 ⟨hst, _, List.getLast?_eq_some_getLast hne, ?_⟩
            simpa [List.getLast?_eq_some_getLast hne] using hbad
          simp_all
    · obtain ⟨fault, hfault⟩ := allowedLoop_of_outside (a := {}) (by simpa using hin)
      simp [hfault] at hr

/-- The loop over the preferred positions, up to the position it stops at. -/
theorem preferredLoop_of_stop (h : preferredStop lib p message = some pos) :
    (target lib p.smscList message.routingInfo pos).passedOver p.smppClientStatus = false ∧
      ∃ rest, preferredLoop lib p message (terminated message.routingInfo.preferredSmsc) =
        preferredLoop lib p message (pos :: rest) := by
  obtain ⟨hpos, before, rest, hl, hbefore⟩ := List.find?_eq_some_iff_append.mp h
  refine ⟨by simpa using hpos, rest, ?_⟩
  rw [hl]
  exact preferredLoop_append _ fun pos' hpos' => by simpa using hbefore pos' hpos'

theorem preferredLoop_of_no_stop (h : preferredStop lib p message = none) :
    preferredLoop lib p message (terminated message.routingInfo.preferredSmsc) =
      .ok (.inl message) := by
  have hover := List.find?_eq_none.mp h
  have happ := preferredLoop_append [] fun pos hpos => by simpa using hover pos hpos
  rwa [List.append_nil] at happ

/-- What a call that returns has done with the message. -/
inductive RoutOutcome (lib : Gwlib) (cfg : ClientCfg) (p : Process) (message : Msg) : Process → Prop
  /-- It is left behind. -/
  | lost : RoutOutcome lib cfg p message p
  /-- A connection got a duplicate. -/
  | handedOver {i : ℕ} {conn : SmscConn} (hconn : p.smscList[i]? = some conn) :
      RoutOutcome lib cfg p message
        { p with
          smscList := p.smscList.set i (sendMsgCb conn { message with msgState := .notSent }) }
  /-- It waits for the router. -/
  | queued : RoutOutcome lib cfg p message
      { p with queues := produceOutgoingMsg cfg p.queues message }
  /-- It was destroyed, at a preferred position that is inactive. -/
  | destroyed {pos : ℤ} (hstop : preferredStop lib p message = some pos)
      (hinactive : target lib p.smscList message.routingInfo pos = .inactive) :
      RoutOutcome lib cfg p message { p with queues := msgDestroy p.queues message }

theorem routAllowed_outcome {again : Msg → Option (Except Fault (ℤ × Process))} {r : ℤ}
    {p' : Process} (h : routAllowed lib cfg stack p message again = some (.ok (r, p'))) :
    RoutOutcome lib cfg p message p' := by
  unfold routAllowed at h
  by_cases hin : ∀ pos ∈ allowedVisited stack message.routingInfo.allowedSmsc,
      target lib p.smscList message.routingInfo pos ≠ .outside
  · obtain ⟨⟨bestOk, boSent, badFound⟩, hok, hsome, -, -⟩ := allowedLoop_eq_ok (a := {}) hin
    simp only [hok] at h
    cases bestOk with
    | some i =>
      obtain hi | ⟨pos, -, hgood, rfl⟩ := hsome i rfl
      · simp at hi
      obtain ⟨conn, hget, -, husable⟩ := target_eq_good.mp hgood
      have hconn := (gwlistGet_eq_ok.mp hget).2
      simp only [hconn, smscconnSend_of_usable husable, Option.some.injEq, Except.ok.injEq,
        Prod.mk.injEq] at h
      rw [← h.2]
      exact .handedOver hconn
    | none =>
      cases badFound with
      | true =>
        simp only at h
        split at h
        all_goals
          simp only [Option.some.injEq, Except.ok.injEq, Prod.mk.injEq] at h
          rw [← h.2]
        · exact .queued
        · exact .lost
      | false =>
        simp only at h
        split at h
        all_goals
          simp only [Option.some.injEq, Except.ok.injEq, Prod.mk.injEq] at h
          rw [← h.2]
          exact .lost
  · obtain ⟨fault, hfault⟩ := allowedLoop_of_outside (a := {}) (by simpa using hin)
    simp [hfault] at h

/-- **Every call that returns has one of four outcomes.** -/
theorem smsc2Rout_outcome {calls : ℕ} {r : ℤ} {p' : Process}
    (h : smsc2Rout lib cfg stack calls p message = some (.ok (r, p'))) :
    RoutOutcome lib cfg p message p' := by
  cases calls with
  | zero => simp [smsc2Rout] at h
  | succ calls =>
    rw [smsc2Rout] at h
    split at h
    · simp only [Option.some.injEq, Except.ok.injEq, Prod.mk.injEq] at h
      rw [← h.2]
      exact .lost
    · cases hstop : preferredStop lib p message with
      | none =>
        rw [preferredLoop_of_no_stop hstop] at h
        exact routAllowed_outcome h
      | some pos =>
        obtain ⟨hover, rest, hloop⟩ := preferredLoop_of_stop hstop
        by_cases hgood : target lib p.smscList message.routingInfo pos = .good
        · obtain ⟨conn, hconn, hsent⟩ := preferredLoop_cons_of_good rest hgood
          simp only [hloop, hsent, Option.some.injEq, Except.ok.injEq, Prod.mk.injEq] at h
          rw [← h.2]
          exact .handedOver hconn
        · obtain ⟨fault, hfault⟩ | ⟨hinactive, hdestroy⟩ :=
            preferredLoop_cons_of_stop rest hover hgood
          · simp [hloop, hfault] at h
          · simp only [hloop, hdestroy, Option.some.injEq, Except.ok.injEq, Prod.mk.injEq] at h
            rw [← h.2]
            exact .destroyed hstop hinactive

/-- A routable message has a connection to go to. -/
theorem Routable.smscList_ne_nil (h : Routable lib p message) : p.smscList ≠ [] := by
  have hout : ∀ pos, p.smscList = [] → target lib p.smscList message.routingInfo pos = .outside := by
    intro pos hnil
    refine target_eq_outside.mpr ⟨.outOfList, ?_⟩
    simp [gwlistGet, hnil]
  intro hnil
  unfold Routable at h
  split at h
  · simp [hout _ hnil] at h
  · obtain ⟨-, ⟨pos, -, hgood⟩ | ⟨-, pos, -, hinactive⟩⟩ := h
    · simp [hout pos hnil] at hgood
    · simp [hout pos hnil] at hinactive

/-- One call with a routable message returns with the message in one place more. -/
theorem smsc2Rout_of_routable (cfg : ClientCfg) (stack : ℤ) (h : Routable lib p message) (calls : ℕ) :
    ∃ r p', smsc2Rout lib cfg stack (calls + 1) p message = some (.ok (r, p')) ∧
      p'.places ~ message.accountMsgId :: p.places := by
  rw [smsc2Rout, if_neg h.smscList_ne_nil]
  unfold Routable at h
  split at h
  · rename_i pos hstop
    obtain ⟨-, rest, hloop⟩ := preferredLoop_of_stop hstop
    obtain ⟨conn, hconn, hgood⟩ := preferredLoop_cons_of_good rest h
    rw [hloop, hgood]
    exact ⟨1, _, rfl, places_set hconn { message with msgState := .notSent }⟩
  · rename_i hstop
    rw [preferredLoop_of_no_stop hstop]
    exact routAllowed_of_routable h

/-- A call with any other message that returns leaves every place as it was. -/
theorem places_smsc2Rout {calls : ℕ} {r : ℤ} {p' : Process} (h : ¬ Routable lib p message)
    (hr : smsc2Rout lib cfg stack calls p message = some (.ok (r, p'))) : p'.places = p.places := by
  cases calls with
  | zero => simp [smsc2Rout] at hr
  | succ calls =>
    rw [smsc2Rout] at hr
    by_cases hnil : p.smscList = []
    · simp only [hnil, if_true, Option.some.injEq, Except.ok.injEq, Prod.mk.injEq] at hr
      rw [hr.2]
    · rw [if_neg hnil] at hr
      unfold Routable at h
      split at h
      · rename_i pos hstop
        obtain ⟨hover, rest, hloop⟩ := preferredLoop_of_stop hstop
        obtain ⟨fault, hfault⟩ | ⟨-, hdestroy⟩ := preferredLoop_cons_of_stop rest hover h
        · simp [hloop, hfault] at hr
        · simp only [hloop, hdestroy, Option.some.injEq, Except.ok.injEq, Prod.mk.injEq] at hr
          rw [← hr.2]
          rfl
      · rename_i hstop
        rw [preferredLoop_of_no_stop hstop] at hr
        exact places_routAllowed h hr

end Loops

/-- **When the router conserves a message.**  Whatever the settings, the connections, the arrays of
the message and the state of the process: a call of `smsc2_rout` returns with the message in exactly
one place if and only if the message is routable. -/
theorem routConserves_iff (lib : Gwlib) (cfg : ClientCfg) (stack : ℤ) (p : Process) (message : Msg) :
    RoutConserves lib cfg stack p message ↔ Routable lib p message := by
  constructor
  · rintro ⟨calls, r, p', hr, hperm⟩
    by_contra h
    rw [places_smsc2Rout h hr] at hperm
    exact not_perm_cons_self _ _ hperm
  · intro h
    obtain ⟨r, p', hr, hperm⟩ := smsc2Rout_of_routable cfg stack h 0
    exact ⟨1, r, p', hr, hperm⟩

/-- Two connections: the first lost its SMSC, the second is up and must not get Indian numbers. -/
def sampleProcess : Process where
  smscList :=
    [{ id := octstrImm "smsc-a", smscType := octstrImm "gsm", status := .reconnecting,
       data := sampleSmpp },
     { id := octstrImm "smsc-b", smscType := octstrImm "gsm", status := .active,
       deniedPrefix := some (octstrImm "91"), data := sampleSmpp }]
  queues := {}
  smppClientStatus := .running

/-- The message waits for no SMSC and is in no queue: the reset of `bad_found` at the second position
forgets the first. -/
theorem routConserves_sampleProcess :
    ¬ ∀ (lib : Gwlib) (cfg : ClientCfg) (stack : ℤ) (p : Process) (message : Msg),
      RoutConserves lib cfg stack p message := by
  intro hall
  obtain ⟨calls, r, p', hr, hperm⟩ :=
    hall sampleGwlib { dndcheckFlag := false } 0 sampleProcess sampleMsg
  rw [places_smsc2Rout (by decide) hr] at hperm
  exact not_perm_cons_self _ _ hperm

end SmppServer.SmppSmsc
