import SmppServer.Smsc.Retransmit

/-!
# Smsc/Merge — the merge of the routing lists in the router

Before `msg_router` routes a message again it moves the preferred positions behind the allowed ones.
How many there are it counts in two local variables, which are set only in the loops that count: a list
without positions leaves the number of an earlier message in place.  For the preferred list this does no
harm, since all that is moved is the terminator; for the allowed list it leaves a gap, and the
terminator in front of it hides what was moved.

* `merged_iff` — one merge, by the number left behind.
* `merges_merged_iff` — no merge of a run is disturbed exactly if no message with allowed positions comes
  before one with preferred positions only.
-/

namespace SmppServer.SmppSmsc

open Machinery

/-! ## Arrays

The arrays have no length: what is read behind the last value written is `-1`.  Two arrays with the same
positions may differ behind their terminators. -/

section Arrays

variable {a b w : List ℤ} {i k n : ℕ} {v : ℤ}

@[simp] theorem arrayGet_nil : arrayGet [] i = -1 := rfl

@[simp] theorem arrayGet_cons_zero : arrayGet (v :: a) 0 = v := rfl

@[simp] theorem arrayGet_cons_succ : arrayGet (v :: a) (i + 1) = arrayGet a i := rfl

theorem arrayGet_append_left (h : i < a.length) : arrayGet (a ++ b) i = arrayGet a i := by
  simp [arrayGet, List.getElem?_append_left h]

theorem arrayGet_append_right (h : a.length ≤ i) : arrayGet (a ++ b) i = arrayGet b (i - a.length) := by
  simp [arrayGet, List.getElem?_append_right h]

theorem arrayGet_of_length_le (h : a.length ≤ i) : arrayGet a i = -1 := by
  simp [arrayGet, List.getElem?_eq_none h]

theorem arrayGet_replicate : arrayGet (List.replicate n (-1)) k = -1 := by
  rw [arrayGet, List.getD_eq_getElem?_getD, List.getElem?_replicate]
  split <;> rfl

/-- An array has the value at the index where it was written, and the old one elsewhere. -/
theorem arrayGet_arraySet : arrayGet (arraySet a i v) k = if k = i then v else arrayGet a k := by
  have hlen : i < (a ++ List.replicate (i + 1 - a.length) (-1)).length := by
    simp only [List.length_append, List.length_replicate]
    omega
  split_ifs with h
  · subst h
    simp [arrayGet, arraySet, List.getElem?_set_self hlen]
  · have hget : arrayGet (arraySet a i v) k = arrayGet (a ++ List.replicate (i + 1 - a.length) (-1)) k := by
      simp [arrayGet, arraySet, List.getElem?_set_ne (Ne.symm h)]
    rw [hget]
    by_cases hk : k < a.length
    · exact arrayGet_append_left hk
    · rw [arrayGet_append_right (by omega), arrayGet_replicate, arrayGet_of_length_le (by omega)]

/-- The positions of an array are read off its entries. -/
theorem terminated_eq_iff (hw : -1 ∉ w) :
    terminated a = w ↔ ∀ i ≤ w.length, arrayGet a i = arrayGet w i := by
  induction w generalizing a with
  | nil =>
    cases a with
    | nil => simp [terminated]
    | cons v a => simp [terminated, List.takeWhile_cons]
  | cons x w ih =>
    obtain ⟨hx, hw⟩ : -1 ≠ x ∧ -1 ∉ w := by simpa using hw
    cases a with
    | nil =>
      refine iff_of_false (by simp [terminated]) fun h => hx ?_
      simpa using h 0 (Nat.zero_le _)
    | cons v a =>
      have hcons : terminated (v :: a) = x :: w ↔ v = x ∧ terminated a = w := by
        by_cases hv : v = -1
        · refine iff_of_false (by simp [terminated, hv]) fun h => hx ?_
          rw [← hv, h.1]
        · simp [terminated, hv]
      rw [hcons, ih hw]
      constructor
      · rintro ⟨rfl, h⟩ i hi
        cases i with
        | zero => rfl
        | succ i => exact h i (by simpa using hi)
      · exact fun h => ⟨by simpa using h 0 (Nat.zero_le _), fun i hi => by
          simpa using h (i + 1) (by simpa using hi)⟩

end Arrays

/-! ## One merge

The loop writes as many entries as were counted in the preferred list, from the place that was counted in the
allowed one.  All that can go wrong is a count that was left behind. -/

section Merge

variable {routingInfo : ForwardQueueData} {n stale preferredNos allowedNos : ℕ} {a : List ℤ}

/-- What the merge is for: the preferred positions come behind the allowed ones, and none is preferred
any more. -/
def Merged (old new : ForwardQueueData) : Prop :=
  terminated new.allowedSmsc = terminated old.allowedSmsc ++ terminated old.preferredSmsc ∧
    terminated new.preferredSmsc = []

/-- The arrays after the loop of the merge. -/
theorem foldl_merge (preferred allowed : List ℤ) (n allowedNos : ℕ) :
    ∃ preferred' allowed', (List.range n).foldl
        (fun (arrays : List ℤ × List ℤ) j =>
          (arraySet arrays.1 j (-1), arraySet arrays.2 (allowedNos + j) (arrayGet arrays.1 j)))
        (preferred, allowed) = (preferred', allowed') ∧
      (∀ k, arrayGet preferred' k = if k < n then -1 else arrayGet preferred k) ∧
      ∀ k, arrayGet allowed' k =
        if allowedNos ≤ k ∧ k < allowedNos + n then arrayGet preferred (k - allowedNos)
        else arrayGet allowed k := by
  induction n with
  | zero => exact ⟨preferred, allowed, rfl, by simp, fun k => by rw [if_neg (by omega)]⟩
  | succ n ih =>
    obtain ⟨preferred', allowed', hfold, hpreferred, hallowed⟩ := ih
    refine ⟨arraySet preferred' n (-1), arraySet allowed' (allowedNos + n) (arrayGet preferred' n), ?_,
      fun k => ?_, fun k => ?_⟩
    · rw [List.range_succ, List.foldl_append, hfold]
      rfl
    · rw [arrayGet_arraySet, hpreferred]
      grind
    · rw [arrayGet_arraySet, hallowed, hpreferred]
      grind

/-- The entries of the arrays after a merge. -/
theorem arrayGet_mergeSmsc (k : ℕ) :
    arrayGet (mergeSmsc preferredNos allowedNos routingInfo).preferredSmsc k =
        (if k < preferredNos then -1 else arrayGet routingInfo.preferredSmsc k) ∧
      arrayGet (mergeSmsc preferredNos allowedNos routingInfo).allowedSmsc k =
        if k = allowedNos + preferredNos then -1
        else if allowedNos ≤ k ∧ k < allowedNos + preferredNos then
          arrayGet routingInfo.preferredSmsc (k - allowedNos)
        else arrayGet routingInfo.allowedSmsc k := by
  obtain ⟨preferred, allowed, hfold, hpreferred, hallowed⟩ :=
    foldl_merge routingInfo.preferredSmsc routingInfo.allowedSmsc preferredNos allowedNos
  simp only [mergeSmsc, hfold, arrayGet_arraySet]
  exact ⟨hpreferred k, by rw [hallowed]⟩

theorem neg_one_notMem_terminated : -1 ∉ terminated a := fun h => by
  simpa using List.mem_takeWhile_imp h

/-- The entries of an array up to its terminator. -/
theorem arrayGet_terminated (h : n ≤ (terminated a).length) : arrayGet a n = arrayGet (terminated a) n :=
  (terminated_eq_iff neg_one_notMem_terminated).mp rfl n h

theorem countEntries_of_ne_nil (h : terminated a ≠ []) : countEntries stale a = (terminated a).length :=
  if_neg h

theorem countEntries_of_eq_nil (h : terminated a = []) : countEntries stale a = stale := if_pos h

/-- No position is preferred after a merge. -/
theorem terminated_preferred_mergeSmsc (stale allowedNos : ℕ) (routingInfo : ForwardQueueData) :
    terminated (mergeSmsc (countEntries stale routingInfo.preferredSmsc) allowedNos
      routingInfo).preferredSmsc = [] := by
  refine (terminated_eq_iff List.not_mem_nil).mpr fun i hi => ?_
  obtain rfl : i = 0 := Nat.le_zero.mp hi
  rw [(arrayGet_mergeSmsc 0).1]
  split_ifs with hpos
  · rfl
  · have hnil : terminated routingInfo.preferredSmsc = [] := by
      by_contra hne
      rw [countEntries_of_ne_nil hne] at hpos
      exact hpos (List.length_pos_iff.mpr hne)
    rw [arrayGet_terminated (Nat.zero_le _), hnil]

/-- The positions of the allowed array after a merge that counted both lists, or found none to move. -/
theorem terminated_allowed_mergeSmsc
    (hallowed : allowedNos = (terminated routingInfo.allowedSmsc).length ∨
      terminated routingInfo.preferredSmsc = [])
    (hle : (terminated routingInfo.allowedSmsc).length ≤ allowedNos)
    (hpreferred : terminated routingInfo.preferredSmsc ≠ [] →
      preferredNos = (terminated routingInfo.preferredSmsc).length) :
    terminated (mergeSmsc preferredNos allowedNos routingInfo).allowedSmsc =
      terminated routingInfo.allowedSmsc ++ terminated routingInfo.preferredSmsc := by
  have hmem : -1 ∉ terminated routingInfo.allowedSmsc ++ terminated routingInfo.preferredSmsc := by
    rw [List.mem_append, not_or]
    exact ⟨neg_one_notMem_terminated, neg_one_notMem_terminated⟩
  refine (terminated_eq_iff hmem).mpr fun k hk => ?_
  rw [List.length_append] at hk
  rw [(arrayGet_mergeSmsc k).2]
  by_cases hkA : k < (terminated routingInfo.allowedSmsc).length
  · -- the allowed positions stay where they are
    rw [if_neg (by omega), if_neg (by omega), arrayGet_terminated hkA.le, arrayGet_append_left hkA]
  · rw [arrayGet_append_right (by omega)]
    by_cases hP : terminated routingInfo.preferredSmsc = []
    · -- nothing is moved but the terminator
      obtain rfl : k = (terminated routingInfo.allowedSmsc).length := by
        rw [hP, List.length_nil] at hk
        omega
      have hA := arrayGet_terminated (a := routingInfo.allowedSmsc) le_rfl
      have hP0 := arrayGet_terminated (a := routingInfo.preferredSmsc) (Nat.zero_le _)
      rw [arrayGet_of_length_le le_rfl] at hA
      rw [hP, arrayGet_nil] at hP0 ⊢
      split_ifs with hend hin
      · rfl
      · rw [show (terminated routingInfo.allowedSmsc).length - allowedNos = 0 by omega, hP0]
      · exact hA
    · -- the preferred positions, up to the terminator
      have hnos := hpreferred hP
      have hallowed := hallowed.resolve_right hP
      rw [← hallowed]
      split_ifs with hend hin
      · rw [arrayGet_of_length_le (by omega)]
      · exact arrayGet_terminated (by omega)
      · omega

/-- **When a merge is not disturbed**: there is an allowed position, or no preferred one, or no allowed
position was counted before. -/
theorem merged_iff (preferredNos allowedNos : ℕ) (routingInfo : ForwardQueueData) :
    Merged routingInfo (mergeSmsc (countEntries preferredNos routingInfo.preferredSmsc)
      (countEntries allowedNos routingInfo.allowedSmsc) routingInfo) ↔
    terminated routingInfo.allowedSmsc ≠ [] ∨ terminated routingInfo.preferredSmsc = [] ∨
      allowedNos = 0 := by
  rw [Merged, and_iff_left (terminated_preferred_mergeSmsc _ _ _)]
  constructor
  · intro h
    by_contra hbad
    simp only [not_or, not_not] at hbad
    obtain ⟨hA, hP, hpos⟩ := hbad
    rw [hA, List.nil_append, countEntries_of_eq_nil hA] at h
    -- the terminator at the start of the array is still there
    have hzero : arrayGet (mergeSmsc (countEntries preferredNos routingInfo.preferredSmsc) allowedNos
        routingInfo).allowedSmsc 0 = _ := (arrayGet_mergeSmsc 0).2
    have hA0 := arrayGet_terminated (a := routingInfo.allowedSmsc) (Nat.zero_le _)
    rw [hA, arrayGet_nil] at hA0
    rw [if_neg (by omega), if_neg (by omega), hA0, arrayGet_terminated (Nat.zero_le _), h] at hzero
    obtain ⟨x, P, hxP⟩ := List.exists_cons_of_ne_nil hP
    refine neg_one_notMem_terminated (a := routingInfo.preferredSmsc) ?_
    rw [hxP] at hzero ⊢
    exact List.mem_cons.mpr (.inl hzero.symm)
  · intro h
    have hpreferred : terminated routingInfo.preferredSmsc ≠ [] →
        countEntries preferredNos routingInfo.preferredSmsc =
          (terminated routingInfo.preferredSmsc).length := countEntries_of_ne_nil
    by_cases hA : terminated routingInfo.allowedSmsc = []
    · rw [countEntries_of_eq_nil hA]
      have hor := h.resolve_left (not_not.mpr hA)
      exact terminated_allowed_mergeSmsc (hor.symm.imp_left fun h0 => by rw [h0, hA]; rfl)
        (by rw [hA]; exact Nat.zero_le _) hpreferred
    · rw [countEntries_of_ne_nil hA]
      exact terminated_allowed_mergeSmsc (.inl rfl) le_rfl hpreferred

end Merge

/-! ## The merges of a run

A count is left behind by a message that had entries in its list, so a merge is disturbed exactly by an earlier
message with allowed positions. -/

section Runs

variable (lib : Gwlib) (cfg : ClientCfg)

/-- A message off the queue is not given up, and there is an SMSC to route it to. -/
def ComesToMerge (smscList : List SmscConn) (now : ℤ) (msg : Msg) : Prop :=
  msg.smInfo.pdu ≠ none ∧ msg.msgState ≠ .sentNoresp ∧ msg.retries ≠ cfg.maxRetryLimit ∧
    ¬ (cfg.maxMsgDuration ≠ -1 ∧ cfg.maxMsgDuration < now - msg.msgRetryTime) ∧
    0 < smscLength smscList

instance (smscList : List SmscConn) (now : ℤ) (msg : Msg) :
    Decidable (ComesToMerge cfg smscList now msg) := inferInstanceAs (Decidable (_ ∧ _))

/-- The message that the next step of the router takes to the merge, if it does. -/
def merging (s : System) (now : ℤ) : Option Msg :=
  match s.router, s.process.queues.outgoingMsg with
  | .pass (_ + 1), msg :: _ => if ComesToMerge cfg s.process.smscList now msg then some msg else none
  | _, _ => none

/-- The lists of the message that a step takes to the merge, and those it is routed with. -/
def mergesAt (t t' : Traffic) : TrafficEvent → List (ForwardQueueData × ForwardQueueData)
  | .system (.msgRouter _ now) =>
    match merging cfg t.system now with
    | none => []
    | some msg => (t'.system.inHand.drop t.system.inHand.length).map fun routed =>
        (msg.routingInfo, routed.routingInfo)
  | _ => []

/-- The lists of all messages that come to the merge in a run, and those they are routed with. -/
def merges (t : Traffic) : List TrafficEvent → List (ForwardQueueData × ForwardQueueData)
  | [] => []
  | ev :: evs =>
    match trafficStep lib cfg t ev with
    | none => []
    | some t' => mergesAt cfg t t' ev ++ merges t' evs

end Runs

section Steps

variable {lib : Gwlib} {cfg : ClientCfg} {s s' : System} {t t' : Traffic} {ev : TrafficEvent} {msg : Msg}
  {recheck : Bool} {now : ℤ}

/-- A step of the router without a merge counts nothing. -/
theorem msgRouter_of_not_merging (hnone : merging cfg s now = none)
    (h : msgRouter lib cfg s recheck now = some s') : s'.allowedNos = s.allowedNos := by
  cases msgRouter_outcome h with
  | quiet | emptied | lost | putBack => rfl
  | givenUp hnext hstatus hgiveUp => exact (giveUp_same hgiveUp).2.1
  | @merged msg left hnext hrouter hpdu hstatus hlength =>
    obtain ⟨rest, hmsgs⟩ := System.outgoingMsg_of_nextMsg hnext
    obtain ⟨hstate, hretries, hexpired⟩ :=
      passStatus_eq_none.mp (System.passStatus_of_giveUpStatus hstatus)
    have hmerge : ComesToMerge cfg s.process.smscList now msg :=
      ⟨hpdu, hstate, hretries, hexpired, hlength⟩
    simp [merging, hrouter, hmsgs, hmerge] at hnone

/-- A step with one routes the message with the lists it merged. -/
theorem msgRouter_of_merging (hmsg : merging cfg s now = some msg)
    (h : msgRouter lib cfg s recheck now = some s') :
    s'.allowedNos = countEntries s.allowedNos msg.routingInfo.allowedSmsc ∧
      s'.inHand = s.inHand ++ [{ msg with
        routingInfo := mergeSmsc (countEntries s.preferredNos msg.routingInfo.preferredSmsc)
          (countEntries s.allowedNos msg.routingInfo.allowedSmsc) msg.routingInfo }] := by
  unfold merging at hmsg
  split at hmsg
  · rename_i left msg' rest hrouter hmsgs
    split_ifs at hmsg with hmerge
    obtain rfl := Option.some.inj hmsg
    obtain ⟨hpdu, hstate, hretries, hexpired, hlength⟩ := hmerge
    have hpos : 0 < smscLength s.extractOutgoing.process.smscList := hlength
    rw [msgRouter, hrouter] at h
    simp only [hmsgs, routerMsg, hpdu, hstate, hretries, hexpired, hpos, if_false, if_true] at h
    rw [← Option.some.inj h]
    exact ⟨rfl, rfl⟩
  · simp at hmsg

/-- Nothing else in the process counts positions. -/
theorem trafficStep_allowedNos (h : trafficStep lib cfg t ev = some t')
    (hother : ∀ recheck now, ev ≠ .system (.msgRouter recheck now)) :
    t'.system.allowedNos = t.system.allowedNos := by
  cases ev with
  | receive i ev =>
    obtain ⟨conn, rx, q, conn', -, -, rfl⟩ := trafficStep_receive h
    rfl
  | system e =>
    cases e with
    | io i ev =>
      obtain ⟨conn, q, conn', -, -, rfl⟩ := trafficStep_io h
      rfl
    | handleRequest submit =>
      obtain ⟨s', hs, rfl⟩ := Option.map_eq_some_iff.mp h
      cases handleRequest_outcome hs with
      | recorded | taken | destroyed => rfl
    | rout k stack =>
      obtain ⟨s', hs, rfl⟩ := Option.map_eq_some_iff.mp h
      obtain ⟨message, r, p, -, -, rfl⟩ := routInHand_eq_some hs
      rfl
    | msgRouter recheck now => exact absurd rfl (hother recheck now)
    | shutdownCb i =>
      obtain ⟨s', hs, rfl⟩ := Option.map_eq_some_iff.mp h
      obtain ⟨conn, -, ⟨-, rfl⟩ | ⟨-, rfl⟩⟩ := systemStep_shutdownCb hs
      · rfl
      · rfl
    | smppDestroy i =>
      obtain ⟨s', hs, rfl⟩ := Option.map_eq_some_iff.mp h
      obtain ⟨conn, -, -, rfl⟩ := systemStep_smppDestroy hs
      rfl
    | smsc2RestartSmsc i conn' =>
      obtain ⟨s', hs, rfl⟩ := Option.map_eq_some_iff.mp h
      obtain ⟨conn, -, -, rfl⟩ := systemStep_smsc2RestartSmsc hs
      rfl
    | setClientStatus status =>
      rw [trafficStep_setClientStatus h]

/-- **One step**: it merges nothing and counts nothing, or merges the lists of one message. -/
theorem mergesAt_cases (h : trafficStep lib cfg t ev = some t') :
    mergesAt cfg t t' ev = [] ∧ t'.system.allowedNos = t.system.allowedNos ∨
      ∃ (old : ForwardQueueData) (stale : ℕ),
        mergesAt cfg t t' ev = [(old, mergeSmsc (countEntries stale old.preferredSmsc)
          (countEntries t.system.allowedNos old.allowedSmsc) old)] ∧
        t'.system.allowedNos = countEntries t.system.allowedNos old.allowedSmsc := by
  by_cases hrouter : ∃ recheck now, ev = .system (.msgRouter recheck now)
  · obtain ⟨recheck, now, rfl⟩ := hrouter
    obtain ⟨s', hs, rfl⟩ := Option.map_eq_some_iff.mp h
    cases hmerging : merging cfg t.system now with
    | none =>
      exact .inl ⟨by simp [mergesAt, hmerging], msgRouter_of_not_merging hmerging hs⟩
    | some msg =>
      obtain ⟨hnos, hinHand⟩ := msgRouter_of_merging hmerging hs
      refine .inr ⟨msg.routingInfo, t.system.preferredNos, ?_, hnos⟩
      simp [mergesAt, hmerging, hinHand]
  · simp only [not_exists] at hrouter
    refine .inl ⟨?_, trafficStep_allowedNos h hrouter⟩
    unfold mergesAt
    split
    · rename_i recheck now
      exact absurd rfl (hrouter recheck now)
    · rfl

/-- No message with allowed positions before one with preferred positions only. -/
def MergeOrder (earlier later : ForwardQueueData × ForwardQueueData) : Prop :=
  terminated earlier.1.allowedSmsc = [] ∨ terminated later.1.allowedSmsc ≠ [] ∨
    terminated later.1.preferredSmsc = []

/-- The merges of a run from any state: they are undisturbed if they are in order and none meets a number
left behind before. -/
theorem merges_merged (evs : List TrafficEvent) (t : Traffic) :
    (∀ pr ∈ merges lib cfg t evs, Merged pr.1 pr.2) ↔
      (merges lib cfg t evs).Pairwise MergeOrder ∧
        (t.system.allowedNos = 0 ∨ ∀ pr ∈ merges lib cfg t evs,
          terminated pr.1.allowedSmsc ≠ [] ∨ terminated pr.1.preferredSmsc = []) := by
  induction evs generalizing t with
  | nil => simp [merges]
  | cons ev evs ih =>
    cases hstep : trafficStep lib cfg t ev with
    | none => simp [merges, hstep]
    | some t' =>
      have hmerges : merges lib cfg t (ev :: evs) = mergesAt cfg t t' ev ++ merges lib cfg t' evs := by
        rw [merges, hstep]
      have hrest := ih t'
      rw [hmerges]
      obtain ⟨hat, hnos⟩ | ⟨old, stale, hat, hnos⟩ := mergesAt_cases hstep
      · rw [hat, List.nil_append, ← hnos]
        exact hrest
      · rw [hat, List.singleton_append, List.forall_mem_cons, List.forall_mem_cons,
          List.pairwise_cons, hrest, merged_iff, hnos]
        by_cases hA : terminated old.allowedSmsc = []
        · -- nothing is counted
          have hall : ∀ pr ∈ merges lib cfg t' evs, MergeOrder (old, mergeSmsc
              (countEntries stale old.preferredSmsc)
              (countEntries t.system.allowedNos old.allowedSmsc) old) pr := fun pr _ => .inl hA
          rw [countEntries_of_eq_nil hA]
          simp only [hA, ne_eq, not_true_eq_false, false_or]
          tauto
        · -- the allowed positions are counted, and stay behind
          have hpos : (terminated old.allowedSmsc).length ≠ 0 := by simpa using hA
          rw [countEntries_of_ne_nil hA]
          simp only [MergeOrder, hA, hpos, ne_eq, not_false_eq_true, true_or, true_and, false_or]
          tauto

end Steps

/-- **When the merge is not disturbed.**  In every run from the start of the router: all messages that come
to the merge are routed with the lists that are meant if and only if no message with allowed positions
comes to the merge before one with preferred positions only. -/
theorem merges_merged_iff (lib : Gwlib) (cfg : ClientCfg) {t : Traffic}
    (hlocals : t.system.allowedNos = 0) (evs : List TrafficEvent) :
    (∀ pr ∈ merges lib cfg t evs, Merged pr.1 pr.2) ↔ (merges lib cfg t evs).Pairwise MergeOrder := by
  rw [merges_merged]
  exact and_iff_left (.inl hlocals)

instance (pr : ForwardQueueData × ForwardQueueData) : Decidable (Merged pr.1 pr.2) :=
  inferInstanceAs (Decidable (_ ∧ _))

instance : DecidableRel MergeOrder := fun _ _ => inferInstanceAs (Decidable (_ ∨ _))

/-- A submit with these positions. -/
def sampleListed (id : String) (preferredSmsc allowedSmsc : Octstr) : Submit :=
  { sampleSubmit with
    accountMsgId := octstrImm id
    preferredSmsc := preferredSmsc
    allowedSmsc := allowedSmsc }

/-- Two submits are written to the SMSC, which answers that its queue is full; the router takes both. -/
def sampleMerges (first second : Submit) : List TrafficEvent :=
  [.io 0 (.enter true 1000), .io 0 (.connWait true 1000), .io 0 (.readPdu (.bindTransmitterResp 0) 1001),
   .handleRequest first, .rout 0 0, .handleRequest second, .rout 0 0, .io 0 (.send true 1001),
   .io 0 (.send true 1001), .io 0 (.send true 1001), .io 0 (.readPdu (.submitSmResp 2 0x14 none) 1002),
   .io 0 (.send true 1002), .io 0 (.readPdu (.submitSmResp 3 0x14 none) 1002), .msgRouter true 1003,
   .msgRouter true 1003, .msgRouter true 1003].map .system

/-- The message with a preferred position comes first: both are routed as they should be. -/
theorem merges_merged_sampleMerges :
    (merges sampleGwlib sampleTwoTries sampleTraffic
      (sampleMerges (sampleListed "a1" [0] []) (sampleListed "a2" [] [0]))).length = 2 ∧
    ∀ pr ∈ merges sampleGwlib sampleTwoTries sampleTraffic
      (sampleMerges (sampleListed "a1" [0] []) (sampleListed "a2" [] [0])), Merged pr.1 pr.2 :=
  ⟨by decide +kernel, (merges_merged_iff sampleGwlib sampleTwoTries (t := sampleTraffic) rfl
    (sampleMerges (sampleListed "a1" [0] []) (sampleListed "a2" [] [0]))).mpr (by decide +kernel)⟩

/-- It comes second: its position lies behind a terminator. -/
theorem not_merges_merged :
    ¬ ∀ (lib : Gwlib) (cfg : ClientCfg) (t : Traffic), t.system.allowedNos = 0 →
      ∀ evs, ∀ pr ∈ merges lib cfg t evs, Merged pr.1 pr.2 := by
  intro h
  have hall := h sampleGwlib sampleTwoTries sampleTraffic rfl
    (sampleMerges (sampleListed "a1" [] [0]) (sampleListed "a2" [0] []))
  exact absurd hall (by decide +kernel)

end SmppServer.SmppSmsc
