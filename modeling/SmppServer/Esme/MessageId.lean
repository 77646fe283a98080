import SmppServer.Esme.Accounting

/-!
# Esme/MessageId — when two submits get the same message id

The id of a submit is printed from three numbers without anything between them: the submits received
on its session before, the time, and a counter of the whole process.  Digits of one number can be read
as digits of the next, so ids of different sessions may coincide although the counter never repeats.

* `Stamp.id_eq_iff` — all the ways in which this happens: the submits received on the one session begin
  with the digits of those on the other, and the rest is shifted.
* `messageIds_nodup_iff` — the ids of a run are different **exactly** when no submit meets an earlier
  one in this way.
-/

namespace SmppServer.SmppEsme

open Machinery

/-! ## Three numbers printed without separator

Ids coincide when the concatenations of the digits do.  The times have ten digits, so the first number of the
one begins with the first of the other, and the rest is shifted by the difference of their lengths. -/

/-- The three numbers of a message id. -/
structure Stamp where
  msgReceived : ℕ
  timestamp : ℤ
  counter : ℕ
  deriving DecidableEq, Repr

/-- `octstr_format("%ld%ld%ld", …)`. -/
def Stamp.id (s : Stamp) : Octstr :=
  formatLd s.msgReceived ++ formatLd s.timestamp ++ formatLd s.counter

/-- A time of ten digits. -/
def TenDigits (t : ℤ) : Prop := 10 ^ 9 ≤ t ∧ t < 10 ^ 10

instance (t : ℤ) : Decidable (TenDigits t) := inferInstanceAs (Decidable (_ ∧ _))

/-- **The digits are shifted**: the earlier session has received a number that goes on with the digits
`d` where the later one ends; these stand before the earlier time, as `e` stands behind the later one,
and `e` is what the later counter has before the digits of the earlier. -/
def Stamp.Shifted (later earlier : Stamp) : Prop :=
  ∃ d e : Octstr, d ≠ [] ∧ formatLd earlier.msgReceived = formatLd later.msgReceived ++ d ∧
    formatLd later.timestamp ++ e = d ++ formatLd earlier.timestamp ∧
    formatLd later.counter = e ++ formatLd earlier.counter

/-- The digits `d` and `e` can only be those that are left over. -/
instance (later earlier : Stamp) : Decidable (later.Shifted earlier) :=
  decidable_of_iff
    (let d := (formatLd earlier.msgReceived).drop (formatLd later.msgReceived).length
      let e := (formatLd later.counter).take
        ((formatLd later.counter).length - (formatLd earlier.counter).length)
      d ≠ [] ∧ formatLd earlier.msgReceived = formatLd later.msgReceived ++ d ∧
        formatLd later.timestamp ++ e = d ++ formatLd earlier.timestamp ∧
        formatLd later.counter = e ++ formatLd earlier.counter) <| by
    constructor
    · exact fun h => ⟨_, _, h⟩
    · rintro ⟨d, e, hd, hreceived, htime, hcounter⟩
      have hd' : (formatLd earlier.msgReceived).drop (formatLd later.msgReceived).length = d := by
        rw [hreceived, List.drop_left]
      have he' : (formatLd later.counter).take
          ((formatLd later.counter).length - (formatLd earlier.counter).length) = e := by
        rw [hcounter, List.length_append, Nat.add_sub_cancel, List.take_left]
      simp only [hd', he']
      exact ⟨hd, hreceived, htime, hcounter⟩

theorem length_formatLd_of_tenDigits {t : ℤ} (h : TenDigits t) : (formatLd t).length = 10 := by
  obtain ⟨n, rfl⟩ := Int.eq_ofNat_of_zero_le (by unfold TenDigits at h; omega : 0 ≤ t)
  have hn : 10 ^ 9 ≤ n ∧ n < 10 ^ 10 := by
    unfold TenDigits at h
    omega
  rw [formatLd_natCast]
  have hle := (length_decimal_le_iff (n := n) (k := 10) (by norm_num)).mpr hn.2
  have hgt := (not_congr (length_decimal_le_iff (n := n) (k := 9) (by norm_num))).mpr (by omega)
  omega

/-- A larger number has at least as many digits. -/
theorem length_decimal_mono {n m : ℕ} (h : n ≤ m) : (decimal n).length ≤ (decimal m).length := by
  have hpos : 0 < (decimal m).length := by
    rw [decimal, List.length_map]
    exact Nat.length_toDigits_pos
  exact (length_decimal_le_iff hpos).mpr (h.trans_lt ((length_decimal_le_iff hpos).mp le_rfl))

/-- **When two ids coincide**, of times with ten digits and different counters. -/
theorem Stamp.id_eq_iff {later earlier : Stamp} (ht : TenDigits later.timestamp)
    (ht' : TenDigits earlier.timestamp) (hlt : earlier.counter < later.counter) :
    later.id = earlier.id ↔ later.Shifted earlier := by
  have hlen := length_formatLd_of_tenDigits ht
  have hlen' := length_formatLd_of_tenDigits ht'
  have hcounter : (formatLd earlier.counter).length ≤ (formatLd later.counter).length := by
    rw [formatLd_natCast, formatLd_natCast]
    exact length_decimal_mono hlt.le
  constructor
  · intro h
    have htotal := congrArg List.length h
    simp only [Stamp.id, List.length_append] at htotal
    have hleft : formatLd later.msgReceived <+: later.id := ⟨_, (List.append_assoc ..).symm⟩
    have hleft' : formatLd earlier.msgReceived <+: later.id := by
      rw [h]
      exact ⟨_, (List.append_assoc ..).symm⟩
    have hright : formatLd later.counter <:+ later.id := ⟨_, rfl⟩
    have hright' : formatLd earlier.counter <:+ later.id := by
      rw [h]
      exact ⟨_, rfl⟩
    have hinit := List.prefix_of_prefix_length_le hleft hleft' (by omega)
    have hsuffix := List.suffix_of_suffix_length_le hright' hright hcounter
    obtain ⟨d, hd⟩ := hinit
    obtain ⟨e, he⟩ := hsuffix
    have htime : formatLd later.timestamp ++ e = d ++ formatLd earlier.timestamp := by
      rw [Stamp.id, Stamp.id, ← hd, ← he] at h
      simp only [List.append_assoc, List.append_cancel_left_eq] at h
      rw [← List.append_assoc, ← List.append_assoc d] at h
      exact List.append_cancel_right h
    refine ⟨d, e, ?_, hd.symm, htime, he.symm⟩
    rintro rfl
    -- nothing is shifted, so the counters are printed alike
    have hnil : e = [] := by
      have hlengths := congrArg List.length htime
      simp only [List.length_append, List.length_nil] at hlengths
      exact List.length_eq_zero_iff.mp (by omega)
    rw [hnil, List.nil_append, formatLd_natCast, formatLd_natCast] at he
    exact absurd (decimal_injective he) hlt.ne
  · rintro ⟨d, e, -, hreceived, htime, hcount⟩
    rw [Stamp.id, Stamp.id, hreceived, hcount]
    simp only [List.append_assoc]
    rw [← List.append_assoc _ e, htime, List.append_assoc]

/-! ## Runs under a clock

The stamps of the ids that were given are kept beside the world.  The counter rises with every submit, so equal
ids have different counters, which is where the characterisation of the first section applies. -/

/-- The process, the latest time it read, and the numbers of the ids it gave to transmitters and
transceivers. -/
structure ClockedWorld where
  world : SubmitWorld
  time : ℤ
  stamps : List Stamp

/-- The state at start-up. -/
def ClockedWorld.init : ClockedWorld := ⟨SubmitWorld.init, 0, []⟩

/-- The numbers that the next submit over a connection is given, if it transmits. -/
def SubmitWorld.stamp? (w : SubmitWorld) (conn : ℕ) (now : Moment) : Option Stamp :=
  (w.tx? conn).map fun tx => ⟨tx.msgReceived, now.timestamp, w.server.counter + 1⟩

/-- A step of the process; the clock does not go back, and shows times of ten digits. -/
def clockedStep (cfg : ServerCfg) (s : ClockedWorld) : SubmitEvent → Option ClockedWorld
  | .submit conn env now pdu =>
    if s.time ≤ now.timestamp ∧ TenDigits now.timestamp then
      (submitStep cfg s.world (.submit conn env now pdu)).map fun w =>
        ⟨w, now.timestamp, s.stamps ++ (s.world.stamp? conn now).toList⟩
    else none
  | ev => (submitStep cfg s.world ev).map fun w => { s with world := w }

/-- The ids in the responses to transmitters and transceivers. -/
def SubmitWorld.messageIds (w : SubmitWorld) : List Octstr :=
  (w.answers.filter fun x => x.mode ≠ 2).map (·.resp.messageId)

/-- **The submit is kept apart** from every earlier one: no shift of digits leads from the one to the
other. -/
def KeptApart (s : ClockedWorld) : SubmitEvent → Prop
  | .submit conn _ now _ => ∀ stamp ∈ s.world.stamp? conn now, ∀ earlier ∈ s.stamps, ¬ stamp.Shifted earlier
  | _ => True

instance (s : ClockedWorld) : ∀ ev, Decidable (KeptApart s ev)
  | .submit conn _ now _ =>
    inferInstanceAs (Decidable
      (∀ stamp ∈ s.world.stamp? conn now, ∀ earlier ∈ s.stamps, ¬ stamp.Shifted earlier))
  | .session _ | .server _ | .status _ _ _ _ => .isTrue trivial

/-- The ids given are those of the stamps; these have counters that were used, and times of ten
digits. -/
structure ClockedWorld.Stamped (cfg : ServerCfg) (s : ClockedWorld) : Prop where
  inv : s.world.Inv cfg
  ids : s.world.messageIds = s.stamps.map Stamp.id
  counter : ∀ stamp ∈ s.stamps, stamp.counter ≤ s.world.server.counter
  timestamp : ∀ stamp ∈ s.stamps, TenDigits stamp.timestamp

section Clocked

variable {cfg : ServerCfg} {s s' : ClockedWorld} {w : SubmitWorld} {ev : SubmitEvent} {conn : ℕ}
  {env : SubmitEnv} {now : Moment} {pdu : SubmitSm}

theorem ClockedWorld.stamped_init : ClockedWorld.init.Stamped cfg :=
  ⟨SubmitWorld.inv_init, rfl, by simp [ClockedWorld.init], by simp [ClockedWorld.init]⟩

/-- A step that answers nothing leaves the ids and the counter. -/
theorem submitStep_of_not_submit (hev : ∀ conn env now pdu, ev ≠ .submit conn env now pdu)
    (h : submitStep cfg s.world ev = some w) :
    w.answers = s.world.answers ∧ w.server.counter = s.world.server.counter := by
  cases ev with
  | session ev =>
    obtain ⟨w₁, -, rfl⟩ := Option.map_eq_some_iff.mp h
    exact ⟨rfl, rfl⟩
  | submit conn env now pdu => exact absurd rfl (hev conn env now pdu)
  | server srv =>
    obtain rfl := Option.some.inj h
    exact ⟨rfl, rfl⟩
  | status esme session status submitsUnconnect =>
    obtain rfl := Option.some.inj h
    exact ⟨rfl, rfl⟩

/-- **A submit adds the id of its stamp**, if it transmits. -/
theorem submitStep_messageIds (hreg : Registered s.world.registry s.world.phase)
    (h : submitStep cfg s.world (.submit conn env now pdu) = some w) :
    w.messageIds = s.world.messageIds ++ (s.world.stamp? conn now).toList.map Stamp.id ∧
      w.server.counter = s.world.server.counter + (s.world.stamp? conn now).toList.length := by
  obtain ⟨a, m, i, hb, hm⟩ := submitStep_bound h
  obtain ⟨e, session, tx, out, -, hout, hstep⟩ := hreg.submit hb hm cfg env now pdu
  obtain rfl := Option.some.inj (h.symm.trans hstep)
  have hstamp : s.world.stamp? conn now =
      some ⟨tx.msgReceived, now.timestamp, s.world.server.counter + 1⟩ := by
    rw [SubmitWorld.stamp?, hout.tx_eq, Option.map_some]
  rw [hstamp]
  refine ⟨?_, hout.counter⟩
  simp only [SubmitWorld.messageIds, SubmitWorld.record, List.filter_append, List.map_append,
    Option.toList_some, List.map_cons, List.map_nil]
  rw [List.filter_cons_of_pos (by simpa using hm), List.filter_nil, List.map_singleton, hout.messageId]
  rfl

/-- The stamp of the next submit: its counter is new, its time the one that is read. -/
theorem SubmitWorld.stamp?_eq_some {stamp : Stamp} (h : w.stamp? conn now = some stamp) :
    stamp.counter = w.server.counter + 1 ∧ stamp.timestamp = now.timestamp := by
  obtain ⟨tx, -, rfl⟩ := Option.map_eq_some_iff.mp h
  exact ⟨rfl, rfl⟩

/-- The step of a submit, under the clock. -/
theorem clockedStep_submit (h : clockedStep cfg s (.submit conn env now pdu) = some s') :
    TenDigits now.timestamp ∧ submitStep cfg s.world (.submit conn env now pdu) = some s'.world ∧
      s'.stamps = s.stamps ++ (s.world.stamp? conn now).toList := by
  simp only [clockedStep] at h
  split at h
  · rename_i hclock
    obtain ⟨w, hw, rfl⟩ := Option.map_eq_some_iff.mp h
    exact ⟨hclock.2, hw, rfl⟩
  · exact absurd h (by simp)

/-- The step of anything else. -/
theorem clockedStep_of_not_submit (hev : ∀ conn env now pdu, ev ≠ .submit conn env now pdu)
    (h : clockedStep cfg s ev = some s') :
    submitStep cfg s.world ev = some s'.world ∧ s'.stamps = s.stamps := by
  have hmap : (submitStep cfg s.world ev).map (fun w => { s with world := w }) = some s' := by
    cases ev with
    | submit conn env now pdu => exact absurd rfl (hev conn env now pdu)
    | session _ => exact h
    | server _ => exact h
    | status _ _ _ _ => exact h
  obtain ⟨w, hw, rfl⟩ := Option.map_eq_some_iff.mp hmap
  exact ⟨hw, rfl⟩

/-- Every step keeps the ids in line with the stamps. -/
theorem ClockedWorld.Stamped.step (h : s.Stamped cfg) (hs : clockedStep cfg s ev = some s') :
    s'.Stamped cfg := by
  by_cases hev : ∃ conn env now pdu, ev = .submit conn env now pdu
  · obtain ⟨conn, env, now, pdu, rfl⟩ := hev
    obtain ⟨hten, hstep, hstamps⟩ := clockedStep_submit hs
    obtain ⟨hids, hcounter⟩ := submitStep_messageIds h.inv.registered hstep
    refine ⟨h.inv.step hstep, by rw [hids, h.ids, hstamps, List.map_append], fun stamp hmem => ?_,
      fun stamp hmem => ?_⟩
    · rw [hstamps, List.mem_append, Option.mem_toList] at hmem
      obtain hmem | hmem := hmem
      · have hle := h.counter stamp hmem
        omega
      · rw [hcounter, hmem, (SubmitWorld.stamp?_eq_some hmem).1, Option.toList_some, List.length_singleton]
    · rw [hstamps, List.mem_append, Option.mem_toList] at hmem
      obtain hmem | hmem := hmem
      · exact h.timestamp stamp hmem
      · rwa [(SubmitWorld.stamp?_eq_some hmem).2]
  · simp only [not_exists] at hev
    obtain ⟨hstep, hstamps⟩ := clockedStep_of_not_submit hev hs
    obtain ⟨hanswers, hcounter⟩ := submitStep_of_not_submit hev hstep
    refine ⟨h.inv.step hstep, ?_, ?_, ?_⟩
    · rw [SubmitWorld.messageIds, hanswers, hstamps]
      exact h.ids
    · rw [hstamps, hcounter]
      exact h.counter
    · rw [hstamps]
      exact h.timestamp

/-- **One step keeps the ids different exactly if its submit is kept apart.** -/
theorem ClockedWorld.Stamped.nodup_iff (h : s.Stamped cfg) (hnodup : s.world.messageIds.Nodup)
    (hs : clockedStep cfg s ev = some s') : s'.world.messageIds.Nodup ↔ KeptApart s ev := by
  by_cases hev : ∃ conn env now pdu, ev = .submit conn env now pdu
  · obtain ⟨conn, env, now, pdu, rfl⟩ := hev
    obtain ⟨hten, hstep, -⟩ := clockedStep_submit hs
    rw [(submitStep_messageIds h.inv.registered hstep).1]
    simp only [KeptApart]
    cases hstamp : s.world.stamp? conn now with
    | none => simp [hnodup]
    | some stamp =>
      obtain ⟨hcounter, htime⟩ := SubmitWorld.stamp?_eq_some hstamp
      have happart : stamp.id ∉ s.world.messageIds ↔ ∀ earlier ∈ s.stamps, ¬ stamp.Shifted earlier := by
        rw [h.ids, List.mem_map, not_exists]
        refine forall_congr' fun earlier => ?_
        rw [not_and]
        refine forall_congr' fun hmem => not_congr ?_
        have hle := h.counter earlier hmem
        rw [eq_comm]
        exact Stamp.id_eq_iff (htime ▸ hten) (h.timestamp earlier hmem) (by omega)
      rw [Option.toList_some, List.map_singleton, List.nodup_append]
      simp only [hnodup, List.nodup_singleton, true_and, List.mem_singleton, forall_eq,
        Option.mem_def, Option.some.injEq, forall_eq', ← happart]
      exact ⟨fun hne hmem => hne stamp.id hmem rfl, fun hnot id hid heq => hnot (heq ▸ hid)⟩
  · have hapart : KeptApart s ev := by
      cases ev with
      | submit conn env now pdu => exact absurd ⟨conn, env, now, pdu, rfl⟩ hev
      | session _ => trivial
      | server _ => trivial
      | status _ _ _ _ => trivial
    simp only [not_exists] at hev
    obtain ⟨hstep, -⟩ := clockedStep_of_not_submit hev hs
    rw [SubmitWorld.messageIds, (submitStep_of_not_submit hev hstep).1]
    exact iff_of_true hnodup hapart

/-- The ids are in line with the stamps, and different. -/
structure ClockedWorld.Distinct (cfg : ServerCfg) (s : ClockedWorld) : Prop where
  stamped : s.Stamped cfg
  nodup : s.world.messageIds.Nodup

theorem ClockedWorld.distinct_init : ClockedWorld.init.Distinct cfg :=
  ⟨ClockedWorld.stamped_init, List.nodup_nil⟩

theorem ClockedWorld.Distinct.step (h : s.Distinct cfg) (hapart : KeptApart s ev)
    (hs : clockedStep cfg s ev = some s') : s'.Distinct cfg :=
  ⟨h.stamped.step hs, (h.stamped.nodup_iff h.nodup hs).mpr hapart⟩

theorem ClockedWorld.Distinct.not_nodup (h : s.Distinct cfg) (hapart : ¬ KeptApart s ev)
    (hs : clockedStep cfg s ev = some s') : ¬ s'.world.messageIds.Nodup :=
  fun hnodup => hapart ((h.stamped.nodup_iff h.nodup hs).mp hnodup)

end Clocked

/-- **The ids of a run are different exactly when its submits are kept apart.** -/
theorem messageIds_nodup_iff (cfg : ServerCfg) {es : List SubmitEvent} {s : ClockedWorld}
    (hr : exec (clockedStep cfg) ClockedWorld.init es = some s) :
    Always (clockedStep cfg) (fun s => s.world.messageIds.Nodup) ClockedWorld.init es ↔
      Along (clockedStep cfg) KeptApart ClockedWorld.init es :=
  always_iff_along ClockedWorld.Distinct.nodup (fun hi hg h => hi.step hg h)
    (fun hi hg h => hi.not_nodup hg h) ClockedWorld.distinct_init hr

/-! ## Samples -/

/-- Binds of two transmitters, over the connections `0` and `1`. -/
def sampleBinds : List SubmitEvent :=
  [.session (.bind sampleSubmitterEnv (tempconnCreate 0 (octstrImm "10.0.0.1") 4000 2775 1) samplePdu 1),
    .session (.bind sampleSubmitterEnv (tempconnCreate 1 (octstrImm "10.0.0.2") 4000 2775 1) samplePdu 1)]

/-- A submit in the second 1111111111. -/
def sampleSubmitOn (conn : ℕ) : SubmitEvent :=
  .submit conn sampleSubmitEnv (sampleMoment 1111111111) (sampleSubmitPdu 2 "919876543210")

/-- Of 112 submits in one second, the 12th is the 12th of the first session, and the 112th is the second
of the other one. -/
def sampleCollision : List SubmitEvent :=
  sampleBinds ++ List.replicate 12 (sampleSubmitOn 0) ++ [sampleSubmitOn 1] ++
    List.replicate 98 (sampleSubmitOn 0) ++ [sampleSubmitOn 1]

/-- Two submits of each of two sessions get different ids. -/
theorem messageIds_nodup_sampleSubmit :
    Always (clockedStep ⟨0, -1⟩) (fun s => s.world.messageIds.Nodup) ClockedWorld.init
      (sampleBinds ++ [sampleSubmitOn 0, sampleSubmitOn 1, sampleSubmitOn 1, sampleSubmitOn 0]) := by
  have hsome : (exec (clockedStep ⟨0, -1⟩) ClockedWorld.init
      (sampleBinds ++ [sampleSubmitOn 0, sampleSubmitOn 1, sampleSubmitOn 1, sampleSubmitOn 0])).isSome := by
    decide +kernel
  obtain ⟨s, hs⟩ := Option.isSome_iff_exists.mp hsome
  exact (messageIds_nodup_iff ⟨0, -1⟩ hs).mpr (by decide +kernel)

/-- The 12th and the 112th submit get the same id. -/
theorem not_messageIds_nodup :
    ¬ ∀ (es : List SubmitEvent) (s : ClockedWorld),
      exec (clockedStep ⟨0, -1⟩) ClockedWorld.init es = some s → s.world.messageIds.Nodup := by
  intro hnodup
  have hids : (exec (clockedStep ⟨0, -1⟩) ClockedWorld.init sampleCollision).map
      (fun s => (s.world.messageIds[11]?, s.world.messageIds[111]?)) =
      some (some (octstrImm "11111111111112"), some (octstrImm "11111111111112")) := by
    decide +kernel
  obtain ⟨s, hs, hpair⟩ := Option.map_eq_some_iff.mp hids
  obtain ⟨h11, h111⟩ := Prod.mk.inj hpair
  have hlt := (List.getElem?_eq_some_iff.mp h11).1
  exact absurd ((List.getElem?_inj hlt (hnodup _ s hs)).mp (h11.trans h111.symm)) (by decide)

end SmppServer.SmppEsme
