import SmppServer.Smsc.Route
import Mathlib.Data.List.Induction

/-!
# Smsc/Selection — which SMSC gets a message

The **selected** position is the first preferred one that is active and usable, and without such a
one the allowed position with the least load, the earliest among equals.  `smsc2_rout` keeps the
best position and its load in two local variables; `allowedLoop_holds` says that they run through a
fold, and `foldl_better` that the fold ends at the position with the least load.

* `smsc2Rout_selected` — the message goes to the selected position, unless a process that is shutting
  down destroys it before.
-/

namespace SmppServer.SmppSmsc

/-! ## The selected position -/

section Selected

variable (lib : Gwlib) (smscList : List SmscConn) (routingInfo : ForwardQueueData)

/-- The load at a position: the received counter of its connection, as an `int` holds it. -/
def loadAt (pos : ℤ) : ℤ :=
  match gwlistGet smscList pos with
  | .error _ => 0
  | .ok conn => (BitVec.ofNat 32 conn.received).toInt

/-- The first preferred position that is active and usable. -/
def preferredSelected : Option ℤ :=
  (terminated routingInfo.preferredSmsc).find? fun pos =>
    target lib smscList routingInfo pos = .good

/-- The allowed positions that are active and usable. -/
def allowedGood : List ℤ :=
  (terminated routingInfo.allowedSmsc).filter fun pos =>
    target lib smscList routingInfo pos = .good

/-- The first of these positions that has the least load. -/
def leastLoaded (l : List ℤ) : Option ℤ :=
  l.find? fun pos => ∀ other ∈ l, loadAt smscList pos ≤ loadAt smscList other

/-- The position whose connection should get the message. -/
def selected : Option ℤ :=
  (preferredSelected lib smscList routingInfo).or
    (leastLoaded smscList (allowedGood lib smscList routingInfo))

end Selected

/-- The process is shutting down, and an inactive preferred position comes before the first one that
is active and usable. -/
def DestroysAtShutdown (lib : Gwlib) (p : Process) (message : Msg) : Prop :=
  p.smppClientStatus = .shutdown ∧
    ∃ pos ∈ (terminated message.routingInfo.preferredSmsc).takeWhile fun pos =>
      target lib p.smscList message.routingInfo pos ≠ .good,
      target lib p.smscList message.routingInfo pos = .inactive

/-- The message was handed to the connection at this position, and to no other. -/
def HandedTo (p : Process) (message : Msg) (pos : ℤ) (p' : Process) : Prop :=
  ∃ conn, gwlistGet p.smscList pos = .ok conn ∧
    p' = { p with
      smscList := p.smscList.set pos.toNat (sendMsgCb conn { message with msgState := .notSent }) }

section Loops

variable {lib : Gwlib} {cfg : ClientCfg} {p : Process} {message : Msg} {smscList : List SmscConn}
  {routingInfo : ForwardQueueData} {pos : ℤ}

/-! ## The allowed positions

The first good position is taken, and each later one that is better by load replaces it: a fold from the left,
of which the earliest among equals comes out. -/

/-- The best position so far after one more that is active and usable. -/
def better (smscList : List SmscConn) : Option ℤ → ℤ → Option ℤ
  | none, pos => some pos
  | some b, pos => if loadAt smscList pos < loadAt smscList b then some pos else some b

/-- One more position takes the place of the best one only if its load is less. -/
theorem leastLoaded_concat {b : ℤ} {l : List ℤ} (hb : leastLoaded smscList l = some b) :
    leastLoaded smscList (l ++ [pos]) = better smscList (some b) pos := by
  obtain ⟨hleast, before, rest, hl, hbefore⟩ := List.find?_eq_some_iff_append.mp hb
  have hleast : ∀ other ∈ l, loadAt smscList b ≤ loadAt smscList other := by simpa using hleast
  rw [better, leastLoaded]
  split_ifs with hlt
  · have hnone : l.find? (fun b => ∀ other ∈ l ++ [pos], loadAt smscList b ≤ loadAt smscList other) =
        none := by
      refine List.find?_eq_none.mpr fun a ha hmin => ?_
      have hpos : loadAt smscList a ≤ loadAt smscList pos := of_decide_eq_true hmin pos (by simp)
      have hba := hleast a ha
      omega
    have hmin : ∀ other ∈ l ++ [pos], loadAt smscList pos ≤ loadAt smscList other := by
      refine List.forall_mem_append.mpr ⟨fun other hmem => ?_, by simp⟩
      have hbo := hleast other hmem
      omega
    rw [List.find?_append, hnone, Option.none_or, List.find?_singleton, if_pos (by simpa using hmin)]
  · refine List.find?_eq_some_iff_append.mpr ⟨?_, before, rest ++ [pos], by simp [hl], ?_⟩
    · refine decide_eq_true (List.forall_mem_append.mpr ⟨hleast, ?_⟩)
      simpa using hlt
    · intro a ha
      have hworse : ¬ ∀ other ∈ l, loadAt smscList a ≤ loadAt smscList other := by
        simpa using hbefore a ha
      have hnot : ¬ ∀ other ∈ l ++ [pos], loadAt smscList a ≤ loadAt smscList other :=
        fun hall => hworse fun other hmem => hall other (List.mem_append_left _ hmem)
      simpa using hnot

theorem leastLoaded_eq_none {l : List ℤ} : leastLoaded smscList l = none ↔ l = [] := by
  refine ⟨fun hnone => ?_, by rintro rfl; rfl⟩
  induction l using List.reverseRecOn with
  | nil => rfl
  | append_singleton l pos ih =>
    cases hb : leastLoaded smscList l with
    | none => simp [ih hb, leastLoaded] at hnone
    | some b =>
      rw [leastLoaded_concat hb, better] at hnone
      split_ifs at hnone

/-- **The fold ends at the least load.** -/
theorem foldl_better (l : List ℤ) : l.foldl (better smscList) none = leastLoaded smscList l := by
  induction l using List.reverseRecOn with
  | nil => rfl
  | append_singleton l pos ih =>
    rw [List.foldl_concat, ih]
    cases hb : leastLoaded smscList l with
    | none => simp [leastLoaded_eq_none.mp hb, leastLoaded, better]
    | some b => exact (leastLoaded_concat hb).symm

/-- The local variables hold the best position and its load. -/
def Allowed.Holds (smscList : List SmscConn) (a : Allowed) (best : Option ℤ) : Prop :=
  a.bestOk = best.map Int.toNat ∧ ∀ b ∈ best, a.boSent = loadAt smscList b

/-- An active connection reports the load of its position. -/
theorem load_eq_loadAt {conn : SmscConn} (hget : gwlistGet smscList pos = .ok conn)
    (hactive : conn.status = .active) : (smscconnInfo conn).load = loadAt smscList pos := by
  simp [smscconnInfo, queuedCb, hactive, loadAt, hget]

/-- As long as an `int` can hold the received counter, it is the load. -/
theorem loadAt_eq_received {conn : SmscConn} (hget : gwlistGet smscList pos = .ok conn)
    (hint : conn.received < 0x80000000) : loadAt smscList pos = conn.received := by
  have hload : loadAt smscList pos = (BitVec.ofNat 32 conn.received).toInt := by simp [loadAt, hget]
  rw [hload, BitVec.toInt_ofNat']
  exact Int.bmod_eq_of_le (by omega) (by omega)

/-- A position that is active and usable takes part in the choice. -/
theorem allowedBody_of_good {a : Allowed} {best : Option ℤ} (ha : a.Holds smscList best)
    (hgood : target lib smscList routingInfo pos = .good) :
    ∃ a', allowedBody lib smscList routingInfo a pos = .ok a' ∧
      a'.Holds smscList (better smscList best pos) := by
  obtain ⟨conn, hget, hactive, husable⟩ := target_eq_good.mp hgood
  have hload := load_eq_loadAt hget hactive
  have hstatus : (smscconnInfo conn).status = .active := hactive
  obtain ⟨hbest, hsent⟩ := ha
  simp only [allowedBody, hget, hstatus, husable, hload, ne_eq, not_true_eq_false, if_false,
    Bool.true_eq_false]
  cases best with
  | none =>
    rw [Option.map_none] at hbest
    rw [if_pos (.inl hbest)]
    exact ⟨_, rfl, rfl, by simp [better]⟩
  | some b =>
    rw [Option.map_some] at hbest
    have hb : a.boSent = loadAt smscList b := hsent b rfl
    by_cases hlt : loadAt smscList pos < loadAt smscList b
    · rw [if_pos (.inr (by omega))]
      exact ⟨_, rfl, by simp [better, hlt, Allowed.Holds]⟩
    · rw [if_neg (by rw [hbest, hb]; simpa using hlt)]
      exact ⟨_, rfl, by simp [better, hlt, Allowed.Holds, hbest, hb]⟩

/-- Any other position is passed over. -/
theorem allowedBody_of_ne_good {a : Allowed} {best : Option ℤ} (ha : a.Holds smscList best)
    (hin : target lib smscList routingInfo pos ≠ .outside)
    (hgood : target lib smscList routingInfo pos ≠ .good) :
    ∃ a', allowedBody lib smscList routingInfo a pos = .ok a' ∧ a'.Holds smscList best := by
  cases ht : target lib smscList routingInfo pos with
  | outside => exact absurd ht hin
  | good => exact absurd ht hgood
  | inactive =>
    obtain ⟨conn, hget, hactive⟩ := target_eq_inactive.mp ht
    have hstatus : (smscconnInfo conn).status ≠ .active := hactive
    exact ⟨{ a with badFound := true }, by simp [allowedBody, hget, hstatus], ha⟩
  | unusable =>
    obtain ⟨conn, hget, hactive, husable⟩ := target_eq_unusable.mp ht
    have hstatus : (smscconnInfo conn).status = .active := hactive
    exact ⟨{ a with badFound := false }, by simp [allowedBody, hget, hstatus, husable], ha⟩

/-- The loop over the allowed positions folds `better` over those that are active and usable. -/
theorem allowedLoop_holds {a : Allowed} {best : Option ℤ} {l : List ℤ}
    (ha : a.Holds smscList best)
    (hin : ∀ pos ∈ l, target lib smscList routingInfo pos ≠ .outside) :
    ∃ a', allowedLoop lib smscList routingInfo a l = .ok a' ∧
      a'.Holds smscList ((l.filter fun pos => target lib smscList routingInfo pos = .good).foldl
        (better smscList) best) := by
  induction l generalizing a best with
  | nil => exact ⟨a, rfl, ha⟩
  | cons pos l ih =>
    obtain ⟨hpos, hin⟩ := List.forall_mem_cons.mp hin
    by_cases hgood : target lib smscList routingInfo pos = .good
    · obtain ⟨a₁, hbody, ha₁⟩ := allowedBody_of_good ha hgood
      obtain ⟨a', hloop, ha'⟩ := ih ha₁ hin
      exact ⟨a', by rw [allowedLoop, hbody]; exact hloop, by simpa [hgood] using ha'⟩
    · obtain ⟨a₁, hbody, ha₁⟩ := allowedBody_of_ne_good ha hpos hgood
      obtain ⟨a', hloop, ha'⟩ := ih ha₁ hin
      exact ⟨a', by rw [allowedLoop, hbody]; exact hloop, by simpa [hgood] using ha'⟩

/-- **The loop finds the least load.** -/
theorem allowedLoop_leastLoaded
    (hin : ∀ pos ∈ terminated routingInfo.allowedSmsc,
      target lib smscList routingInfo pos ≠ .outside) :
    ∃ a, allowedLoop lib smscList routingInfo {} (terminated routingInfo.allowedSmsc) = .ok a ∧
      a.bestOk =
        (leastLoaded smscList (allowedGood lib smscList routingInfo)).map Int.toNat := by
  have hempty : Allowed.Holds smscList {} none := ⟨rfl, by simp⟩
  obtain ⟨a, hloop, ha⟩ := allowedLoop_holds hempty hin
  exact ⟨a, hloop, by rw [ha.1, foldl_better, allowedGood]⟩

/-! ## The preferred positions

`preferredSelected` is the position at which the loop stops, unless it stops before that at an inactive one
during a shutdown. -/

/-- A position in the list that is neither good nor passed over is inactive in a process that is
shutting down. -/
theorem inactive_of_not_passedOver {t : Target} {status : ClientStatus} (hin : t ≠ .outside)
    (hover : t.passedOver status = false) (hgood : t ≠ .good) :
    t = .inactive ∧ status = .shutdown := by
  cases t with
  | outside => exact absurd rfl hin
  | good => exact absurd rfl hgood
  | unusable => simp [Target.passedOver] at hover
  | inactive => exact ⟨rfl, by simpa [Target.passedOver] using hover⟩

theorem ne_good_of_passedOver {t : Target} {status : ClientStatus}
    (hover : t.passedOver status = true) : t ≠ .good := by
  rintro rfl
  simp [Target.passedOver] at hover

/-- An inactive position is not passed over in a process that is shutting down. -/
theorem not_inactive_of_passedOver {t : Target} {status : ClientStatus}
    (hover : t.passedOver status = true) : ¬ (status = .shutdown ∧ t = .inactive) := by
  rintro ⟨rfl, rfl⟩
  simp [Target.passedOver] at hover

/-- If the loop stops at a good position, this is the one selected, and nothing is destroyed. -/
theorem selected_of_stop (hstop : preferredStop lib p message = some pos)
    (hgood : target lib p.smscList message.routingInfo pos = .good) :
    selected lib p.smscList message.routingInfo = some pos ∧ ¬ DestroysAtShutdown lib p message := by
  obtain ⟨-, before, rest, hl, hbefore⟩ := List.find?_eq_some_iff_append.mp hstop
  have hover : ∀ b ∈ before,
      (target lib p.smscList message.routingInfo b).passedOver p.smppClientStatus = true :=
    fun b hb => by simpa using hbefore b hb
  have hnone : before.find? (fun pos =>
      target lib p.smscList message.routingInfo pos = .good) = none :=
    List.find?_eq_none.mpr fun b hb => by simpa using ne_good_of_passedOver (hover b hb)
  constructor
  · rw [selected, preferredSelected, hl, List.find?_append, hnone]
    simp [hgood]
  · rintro ⟨hshut, b, hb, hinactive⟩
    rw [hl, List.takeWhile_append_of_pos fun b hb => by
      simpa using ne_good_of_passedOver (hover b hb)] at hb
    simp only [ne_eq, hgood, not_true_eq_false, decide_false, Bool.false_eq_true,
      not_false_eq_true, List.takeWhile_cons_of_neg, List.append_nil] at hb
    exact not_inactive_of_passedOver (hover b hb) ⟨hshut, hinactive⟩

/-- If it stops anywhere else, the message is destroyed. -/
theorem destroysAtShutdown_of_stop (hstop : preferredStop lib p message = some pos)
    (hin : target lib p.smscList message.routingInfo pos ≠ .outside)
    (hgood : target lib p.smscList message.routingInfo pos ≠ .good) :
    DestroysAtShutdown lib p message := by
  obtain ⟨hpos, before, rest, hl, hbefore⟩ := List.find?_eq_some_iff_append.mp hstop
  obtain ⟨hinactive, hshut⟩ := inactive_of_not_passedOver hin (by simpa using hpos) hgood
  refine ⟨hshut, pos, ?_, hinactive⟩
  rw [hl, List.takeWhile_append_of_pos fun b hb => by
    simpa using ne_good_of_passedOver (by simpa using hbefore b hb)]
  simp [hgood]

/-- If it passes over all positions, no preferred one is selected, and nothing is destroyed. -/
theorem selected_of_no_stop (hstop : preferredStop lib p message = none) :
    preferredSelected lib p.smscList message.routingInfo = none ∧
      ¬ DestroysAtShutdown lib p message := by
  have hover : ∀ b ∈ terminated message.routingInfo.preferredSmsc,
      (target lib p.smscList message.routingInfo b).passedOver p.smppClientStatus = true :=
    fun b hb => by simpa using List.find?_eq_none.mp hstop b hb
  constructor
  · exact List.find?_eq_none.mpr fun b hb => by simpa using ne_good_of_passedOver (hover b hb)
  · rintro ⟨hshut, b, hb, hinactive⟩
    exact not_inactive_of_passedOver (hover b (List.takeWhile_subset _ hb)) ⟨hshut, hinactive⟩

/-- An inactive preferred position destroys the message when the process is shutting down. -/
theorem preferredLoop_cons_of_shutdown (rest : List ℤ)
    (hinactive : target lib p.smscList message.routingInfo pos = .inactive)
    (hshut : p.smppClientStatus = .shutdown) :
    preferredLoop lib p message (pos :: rest) =
      .ok (.inr (-1, { p with queues := msgDestroy p.queues message })) := by
  obtain ⟨conn, hget, hactive⟩ := target_eq_inactive.mp hinactive
  simp [preferredLoop, hget, smscconnInfo, hactive, hshut]

/-- A good position hands the message over. -/
theorem handedTo_of_good (hgood : target lib p.smscList message.routingInfo pos = .good) :
    ∃ conn, gwlistGet p.smscList pos = .ok conn ∧ p.smscList[pos.toNat]? = some conn ∧
      smscconnSend conn { message with msgState := .notSent } =
        some (sendMsgCb conn { message with msgState := .notSent }) := by
  obtain ⟨conn, hget, -, husable⟩ := target_eq_good.mp hgood
  exact ⟨conn, hget, (gwlistGet_eq_ok.mp hget).2, smscconnSend_of_usable husable _⟩

/-- Behind the preferred positions, the message goes to the allowed one with the least load. -/
theorem routAllowed_selected {stack : ℤ} {again : Msg → Option (Except Fault (ℤ × Process))}
    (hin : ∀ pos ∈ terminated message.routingInfo.allowedSmsc,
      target lib p.smscList message.routingInfo pos ≠ .outside)
    (hgood : allowedGood lib p.smscList message.routingInfo ≠ []) :
    ∃ pos p', leastLoaded p.smscList (allowedGood lib p.smscList message.routingInfo) =
        some pos ∧ HandedTo p message pos p' ∧
      routAllowed lib cfg stack p message again = some (.ok (1, p')) := by
  have hne : terminated message.routingInfo.allowedSmsc ≠ [] := by
    intro hnil
    simp [allowedGood, hnil] at hgood
  obtain ⟨⟨bestOk, boSent, badFound⟩, hloop, hbest⟩ := allowedLoop_leastLoaded hin
  have hsome : leastLoaded p.smscList (allowedGood lib p.smscList message.routingInfo) ≠ none :=
    mt leastLoaded_eq_none.mp hgood
  obtain ⟨pos, hpos⟩ := Option.ne_none_iff_exists'.mp hsome
  have hposGood : target lib p.smscList message.routingInfo pos = .good := by
    simpa using (List.mem_filter.mp (List.mem_of_find?_eq_some hpos)).2
  obtain ⟨conn, hget, hconn, hsend⟩ := handedTo_of_good hposGood
  obtain rfl : bestOk = some pos.toNat := by simpa only [hpos, Option.map_some] using hbest
  refine ⟨pos, _, hpos, ⟨conn, hget, rfl⟩, ?_⟩
  simp only [routAllowed, allowedVisited_of_ne_nil hne, hloop, hconn, hsend]

/-! ## One call

The two parts of `smsc2_rout` are put together by where the loop over the preferred positions stops. -/

theorem smscList_ne_nil_of_good (hgood : target lib p.smscList message.routingInfo pos = .good) :
    p.smscList ≠ [] := by
  obtain ⟨conn, hget, -, -⟩ := target_eq_good.mp hgood
  rintro hnil
  simp [gwlistGet, hnil] at hget

/-- The preferred loop stops at a good position. -/
theorem smsc2Rout_of_good_stop (cfg : ClientCfg) (stack : ℤ) (calls : ℕ)
    (hstop : preferredStop lib p message = some pos)
    (hgood : target lib p.smscList message.routingInfo pos = .good) :
    ∃ p', HandedTo p message pos p' ∧
      smsc2Rout lib cfg stack (calls + 1) p message = some (.ok (1, p')) := by
  obtain ⟨hover, rest, hloop⟩ := preferredLoop_of_stop hstop
  obtain ⟨conn, hconn, hsent⟩ := preferredLoop_cons_of_good rest hgood
  obtain ⟨conn', hget, hconn', -⟩ := handedTo_of_good hgood
  obtain rfl : conn' = conn := Option.some.inj (hconn'.symm.trans hconn)
  refine ⟨_, ⟨conn', hget, rfl⟩, ?_⟩
  rw [smsc2Rout, if_neg (smscList_ne_nil_of_good hgood), hloop, hsent]

/-- It stops at an inactive one, in a process that is shutting down. -/
theorem smsc2Rout_of_shutdown (cfg : ClientCfg) (stack : ℤ) (calls : ℕ) (hlist : p.smscList ≠ [])
    (hstop : preferredStop lib p message = some pos)
    (hinactive : target lib p.smscList message.routingInfo pos = .inactive)
    (hshut : p.smppClientStatus = .shutdown) :
    smsc2Rout lib cfg stack (calls + 1) p message =
      some (.ok (-1, { p with queues := msgDestroy p.queues message })) := by
  obtain ⟨hover, rest, hloop⟩ := preferredLoop_of_stop hstop
  rw [smsc2Rout, if_neg hlist, hloop, preferredLoop_cons_of_shutdown rest hinactive hshut]

/-- It does not stop. -/
theorem smsc2Rout_of_no_stop (cfg : ClientCfg) (stack : ℤ) (calls : ℕ) (hlist : p.smscList ≠ [])
    (hstop : preferredStop lib p message = none)
    (hin : ∀ pos ∈ terminated message.routingInfo.allowedSmsc,
      target lib p.smscList message.routingInfo pos ≠ .outside)
    (hgood : allowedGood lib p.smscList message.routingInfo ≠ []) :
    ∃ pos p', leastLoaded p.smscList (allowedGood lib p.smscList message.routingInfo) = some pos ∧
      HandedTo p message pos p' ∧
      smsc2Rout lib cfg stack (calls + 1) p message = some (.ok (1, p')) := by
  obtain ⟨pos, p', hleast, hhanded, hrout⟩ : ∃ pos p', _ ∧ HandedTo p message pos p' ∧
      routAllowed lib cfg stack p message _ = some (.ok (1, p')) := routAllowed_selected hin hgood
  refine ⟨pos, p', hleast, hhanded, ?_⟩
  rw [smsc2Rout, if_neg hlist, preferredLoop_of_no_stop hstop]
  exact hrout

end Loops

/-- **Which SMSC gets the message.**  For all connections and all lists of valid positions, some one
of which is active and usable: a call of `smsc2_rout` hands the
message to the selected position and to no other, unless the process is shutting down and an inactive
preferred position comes first; then it destroys the message. -/
theorem smsc2Rout_selected (lib : Gwlib) (cfg : ClientCfg) (stack : ℤ) (calls : ℕ) (p : Process)
    (message : Msg)
    (hpos : ∀ pos ∈ terminated message.routingInfo.preferredSmsc ++
      terminated message.routingInfo.allowedSmsc, ∃ conn, gwlistGet p.smscList pos = .ok conn)
    (hgood : ∃ pos ∈ terminated message.routingInfo.preferredSmsc ++
      terminated message.routingInfo.allowedSmsc,
      target lib p.smscList message.routingInfo pos = .good) :
    (¬ DestroysAtShutdown lib p message → ∃ pos p',
      selected lib p.smscList message.routingInfo = some pos ∧ HandedTo p message pos p' ∧
        smsc2Rout lib cfg stack (calls + 1) p message = some (.ok (1, p'))) ∧
    (DestroysAtShutdown lib p message →
      smsc2Rout lib cfg stack (calls + 1) p message =
        some (.ok (-1, { p with queues := msgDestroy p.queues message }))) := by
  have hin : ∀ pos ∈ terminated message.routingInfo.preferredSmsc ++
      terminated message.routingInfo.allowedSmsc,
      target lib p.smscList message.routingInfo pos ≠ .outside := by
    intro pos hmem hout
    obtain ⟨conn, hget⟩ := hpos pos hmem
    obtain ⟨fault, hfault⟩ := target_eq_outside.mp hout
    simp [hget] at hfault
  obtain ⟨hinPreferred, hinAllowed⟩ := List.forall_mem_append.mp hin
  obtain ⟨good, hmem, hgood⟩ := hgood
  have hlist := smscList_ne_nil_of_good hgood
  cases hstop : preferredStop lib p message with
  | some pos =>
    by_cases hposGood : target lib p.smscList message.routingInfo pos = .good
    · obtain ⟨hselected, hdestroys⟩ := selected_of_stop hstop hposGood
      obtain ⟨p', hhanded, hrout⟩ := smsc2Rout_of_good_stop cfg stack calls hstop hposGood
      exact ⟨fun _ => ⟨pos, p', hselected, hhanded, hrout⟩, fun h => absurd h hdestroys⟩
    · have hinPos := hinPreferred pos (List.mem_of_find?_eq_some hstop)
      obtain ⟨hinactive, hshut⟩ :=
        inactive_of_not_passedOver hinPos (preferredLoop_of_stop hstop).1 hposGood
      exact ⟨fun h => absurd (destroysAtShutdown_of_stop hstop hinPos hposGood) h,
        fun _ => smsc2Rout_of_shutdown cfg stack calls hlist hstop hinactive hshut⟩
  | none =>
    obtain ⟨hselected, hdestroys⟩ := selected_of_no_stop hstop
    have hallowedGood : allowedGood lib p.smscList message.routingInfo ≠ [] := by
      obtain hmem | hmem := List.mem_append.mp hmem
      · exact absurd hgood (by simpa using List.find?_eq_none.mp hselected good hmem)
      · exact List.ne_nil_of_mem (List.mem_filter.mpr ⟨hmem, by simpa using hgood⟩)
    obtain ⟨pos, p', hleast, hhanded, hrout⟩ :=
      smsc2Rout_of_no_stop cfg stack calls hlist hstop hinAllowed hallowedGood
    exact ⟨fun _ => ⟨pos, p', by rw [selected, hselected, Option.none_or, hleast], hhanded, hrout⟩,
      fun h => absurd h hdestroys⟩

/-- Three connections that are up; the second and the third received fewer messages. -/
def sampleLoads : Process where
  smscList :=
    [{ sampleConn with status := .active, received := 7 },
     { sampleConn with status := .active, received := 3 },
     { sampleConn with status := .active, received := 3 },
     { sampleConn with status := .reconnecting }]
  queues := {}
  smppClientStatus := .running

/-- The message prefers the connection that is down and may go to the three others. -/
def sampleChoice : Msg :=
  { sampleMsg with
    routingInfo :=
      { sampleMsg.routingInfo with preferredSmsc := [3, -1], allowedSmsc := [0, 1, 2, -1] } }

/-- Both of the idle connections have the least load, and the earlier one gets the message. -/
theorem smsc2Rout_selected_sampleLoads :
    ∃ p', HandedTo sampleLoads sampleChoice 1 p' ∧
      smsc2Rout sampleGwlib { dndcheckFlag := false } 0 1 sampleLoads sampleChoice =
        some (.ok (1, p')) := by
  obtain ⟨pos, p', hselected, hhanded, hrout⟩ :=
    (smsc2Rout_selected sampleGwlib { dndcheckFlag := false } 0 0 sampleLoads sampleChoice
      (by simp [sampleLoads, sampleChoice, terminated, gwlistGet]) ⟨0, by decide, by decide⟩).1
      (by rintro ⟨hshut, -⟩; simp [sampleLoads] at hshut)
  obtain rfl : pos = 1 := Option.some.inj (hselected.symm.trans (by decide))
  exact ⟨p', hhanded, hrout⟩

/-- While the process shuts down, the same message goes to none of them. -/
theorem not_smsc2Rout_selected :
    ¬ ∀ (lib : Gwlib) (cfg : ClientCfg) (stack : ℤ) (p : Process) (message : Msg),
      (∀ pos ∈ terminated message.routingInfo.preferredSmsc ++
        terminated message.routingInfo.allowedSmsc, ∃ conn, gwlistGet p.smscList pos = .ok conn) →
      terminated message.routingInfo.allowedSmsc ≠ [] →
      (∃ pos ∈ terminated message.routingInfo.preferredSmsc ++
        terminated message.routingInfo.allowedSmsc,
        target lib p.smscList message.routingInfo pos = .good) →
      ∃ calls pos p', selected lib p.smscList message.routingInfo = some pos ∧
        HandedTo p message pos p' ∧ smsc2Rout lib cfg stack calls p message = some (.ok (1, p')) := by
  intro hall
  obtain ⟨calls, pos, p', -, -, hrout⟩ :=
    hall sampleGwlib { dndcheckFlag := false } 0 { sampleLoads with smppClientStatus := .shutdown }
      sampleChoice (by simp [sampleLoads, sampleChoice, terminated, gwlistGet]) (by decide)
      ⟨0, by decide, by decide⟩
  cases calls with
  | zero => simp [smsc2Rout] at hrout
  | succ calls =>
    have hloop : preferredLoop sampleGwlib { sampleLoads with smppClientStatus := .shutdown }
        sampleChoice [3] = .ok (.inr (-1, { sampleLoads with
          smppClientStatus := .shutdown
          queues := msgDestroy sampleLoads.queues sampleChoice })) :=
      preferredLoop_cons_of_shutdown [] (by decide) rfl
    have hpreferred : terminated sampleChoice.routingInfo.preferredSmsc = [3] := by decide
    simp only [smsc2Rout, hpreferred, hloop] at hrout
    simp [sampleLoads] at hrout

end SmppServer.SmppSmsc
