import SmppServer.Esme.RoutPdu
import SmppServer.Smsc.Router

/-!
# Smsc/RoutingLists — the routing lists from one process to the other

`rout_pdu` of the ESME process sends its two lists of positions as octets; `handle_request` of the SMSC
process stores them in the routing arrays of the message, `MAX_NO_SMSC/2` elements each, behind a
terminating `-1`.  Neither end compares the length of a list with the room there is for it.

* `routed_iff_listsFit` — the lists arrive as they were meant exactly when they fit.
-/

namespace SmppServer.SmppSmsc

open Machinery SmppEsme

/-! ## The routing arrays

The octets are stored up to the terminator and `-1` behind it, so an array with room holds the list, and one
without room is written past its end. -/

/-- The routing arrays of a message just allocated: their elements are not initialised. -/
structure RoutingMemory (maxNoSmsc : ℕ) where
  preferredSmsc : List ℤ
  allowedSmsc : List ℤ
  preferred_length : preferredSmsc.length = maxNoSmsc / 2
  allowed_length : allowedSmsc.length = maxNoSmsc / 2

/-- `handle_request` fills an array: an element for each octet, a terminator, and `-1` up to its end. -/
def storeSmsc (memory : List ℤ) (octets : Octstr) : Option (List ℤ) := do
  let f ← Filling.pushAll ⟨memory, 0⟩ (octets.map fun c => toChar c.toNat)
  let array ← assign f.buf f.index (-1)
  some (array.mapIdx fun i v => if octets.length ≤ i then -1 else v)

/-- The two arrays that `handle_request` stores. -/
def RoutingMemory.store {maxNoSmsc : ℕ} (memory : RoutingMemory maxNoSmsc)
    (preferredSmsc allowedSmsc : Octstr) : Option (List ℤ × List ℤ) := do
  let preferred ← storeSmsc memory.preferredSmsc preferredSmsc
  let allowed ← storeSmsc memory.allowedSmsc allowedSmsc
  some (preferred, allowed)

/-- The last loop of `handle_request` over an array leaves what was written and fills the rest. -/
theorem mapIdx_fill {memory chars : List ℤ} (h : chars.length < memory.length) :
    (((Filling.overwritten memory chars).buf.set chars.length (-1)).mapIdx fun i v =>
        if chars.length ≤ i then -1 else v) =
      chars ++ List.replicate (memory.length - chars.length) (-1) := by
  refine List.ext_getElem ?_ fun i hi hi' => ?_
  · rw [List.length_mapIdx, List.length_set, Filling.length_overwritten_buf (Nat.le_of_lt h),
      List.length_append, List.length_replicate]
    omega
  · rw [List.getElem_mapIdx]
    by_cases hi : chars.length ≤ i
    · rw [if_pos hi, List.getElem_append_right hi, List.getElem_replicate]
    · rw [if_neg hi, List.getElem_set_ne (by omega), List.getElem_append_left (by omega)]
      exact List.getElem_append_left (by omega)

/-- **The array holds the octets and ends with `-1`**, if there is room for the terminator. -/
theorem storeSmsc_eq (memory : List ℤ) (octets : Octstr) :
    storeSmsc memory octets =
      if octets.length < memory.length then
        some (octets.map (fun c => toChar c.toNat) ++
          List.replicate (memory.length - octets.length) (-1))
      else none := by
  have hlength : (octets.map fun c => toChar c.toNat).length = octets.length := List.length_map _
  rw [storeSmsc, ← Filling.overwritten_nil, Filling.pushAll_overwritten (Nat.zero_le _),
    List.length_nil, Nat.zero_add, List.nil_append, ← hlength]
  by_cases hroom : (octets.map fun c => toChar c.toNat).length < memory.length
  · rw [if_pos (Nat.le_of_lt hroom), if_pos hroom, Option.bind_eq_bind, Option.bind_some, assign,
      Filling.length_overwritten_buf (Nat.le_of_lt hroom), Filling.overwritten_index, if_pos hroom]
    exact congrArg some (mapIdx_fill hroom)
  · rw [if_neg hroom]
    split
    · rename_i hle
      rw [Option.bind_eq_bind, Option.bind_some, assign, Filling.length_overwritten_buf hle,
        Filling.overwritten_index, if_neg hroom]
      rfl
    · rfl

/-- The entries before the terminators are the positions. -/
theorem terminated_asChars (positions : List ℕ) (n : ℕ) :
    terminated (asChars positions ++ List.replicate n (-1)) = asChars positions := by
  have hentry : ∀ ch ∈ asChars positions, decide (ch ≠ -1) := by
    intro ch hch
    obtain ⟨i, -, rfl⟩ := List.mem_map.mp hch
    exact decide_eq_true (by omega)
  rw [terminated, List.takeWhile_append_of_pos hentry, List.takeWhile_replicate,
    if_neg (by decide), List.append_nil]

theorem toNat_toUInt8 {i : ℕ} (h : i < 128) : i.toUInt8.toNat = i :=
  Nat.mod_eq_of_lt (Nat.lt_trans h (by decide))

/-- The entries of a stored array are the positions it was sent. -/
theorem terminated_storeSmsc {memory array : List ℤ} {positions : List ℕ}
    (hpositions : ∀ i ∈ positions, i < 128)
    (h : storeSmsc memory (positions.map (·.toUInt8)) = some array) :
    terminated array = asChars positions := by
  have hchars : (positions.map (·.toUInt8)).map (fun c => toChar c.toNat) = asChars positions := by
    rw [List.map_map]
    refine List.map_congr_left fun i hi => ?_
    rw [Function.comp_apply, toNat_toUInt8 (hpositions i hi), toChar_natCast (hpositions i hi)]
  rw [storeSmsc_eq] at h
  split at h
  · rw [← Option.some.inj h, hchars, terminated_asChars]
  · exact absurd h (by simp)

/-! ## From `rout_pdu` to the arrays

`rout_pdu` writes an octet each time the account names an SMSC that supports the number type, and one for each
such SMSC that it does not name.  Whether both lists fit where they are put is a question of these numbers. -/

/-- **What the two lists are for.**  They share no position, together they are the positions of the
SMSCs that support the number type, and the preferred ones are the dedicated SMSC followed by the
preferred SMSCs in the order of the configuration. -/
structure RoutingLists (smscList : List SmscConnList) (type : Octstr) (t : SmscClient)
    (preferred allowed : List ℤ) : Prop where
  disjoint : preferred.Disjoint allowed
  union : ∀ p, p ∈ preferred ∨ p ∈ allowed ↔ ∃ i : ℕ, p = i ∧ Eligible smscList type i
  order : preferred = asChars (t.namedSmsc.filterMap (eligiblePosition smscList type))

section Routed

variable (doesPrefixMatch : Octstr → Octstr → ℤ) (series : Series) (trans : List SmscClient)
  (smscList : List SmscConnList) (destAddr : Octstr) (t : SmscClient) {maxNoSmsc : ℕ}
  (memory : RoutingMemory maxNoSmsc)

/-- The route of a message of the account: `rout_pdu` returns, with `0` if there is a position to go
to, and what `handle_request` then stores are the lists. -/
def Routed : Prop :=
  ∃ result, routPdu doesPrefixMatch series (some trans) smscList (some destAddr)
      (some t.accountName) = some result ∧
    (result.ret = 0 ↔ ∃ i, Eligible smscList (numberType doesPrefixMatch series destAddr) i) ∧
    (result.ret = 0 → ∃ preferredSmsc allowedSmsc arrays,
      result.ospreferredSmsc = some preferredSmsc ∧ result.osallowedSmsc = some allowedSmsc ∧
      memory.store preferredSmsc allowedSmsc = some arrays ∧
      RoutingLists smscList (numberType doesPrefixMatch series destAddr) t (terminated arrays.1)
        (terminated arrays.2))

end Routed

/-- The lists fit.  The ids the account names, each counted as often as it is named if it is that of an
SMSC that supports the number type, are at most 255, or 256 if no SMSC is left out; and these, as well
as the SMSCs left, are fewer than the elements of a routing array, unless there are none of either. -/
def ListsFit (maxNoSmsc : ℕ) (smscList : List SmscConnList) (type : Octstr) (t : SmscClient) : Prop :=
  (t.namedSmsc.countP (namesEligible smscList type) < 256 ∨
    t.namedSmsc.countP (namesEligible smscList type) = 256 ∧
      ∀ c ∈ smscList, c.supports type ∧ c.smscId ∈ t.namedSmsc) ∧
  (t.namedSmsc.countP (namesEligible smscList type) < maxNoSmsc / 2 ∧
      (smscList.countP fun c => c.supports type ∧ c.smscId ∉ t.namedSmsc) < maxNoSmsc / 2 ∨
    ∀ c ∈ smscList, ¬ c.supports type)

instance (maxNoSmsc : ℕ) (smscList : List SmscConnList) (type : Octstr) (t : SmscClient) :
    Decidable (ListsFit maxNoSmsc smscList type t) := inferInstanceAs (Decidable (_ ∧ _))

section

variable {smscList : List SmscConnList} {type : Octstr} {t : SmscClient} {maxNoSmsc : ℕ}

/-- There is a position to go to. -/
theorem exists_eligible_iff :
    (∃ i, Eligible smscList type i) ↔ ¬ ∀ c ∈ smscList, ¬ c.supports type := by
  constructor
  · rintro ⟨i, c, hc, hsupports⟩ hnone
    exact hnone c (List.mem_of_getElem? hc) hsupports
  · intro h
    by_contra hnone
    refine h fun c hc hsupports => hnone ?_
    obtain ⟨i, hi, rfl⟩ := List.getElem_of_mem hc
    exact ⟨i, smscList[i], List.getElem?_eq_getElem hi, hsupports⟩

/-- `rout_pdu` returns `0` if there is a position to go to. -/
theorem routedResult_ret : (routedResult smscList type t).ret = 0 ↔ ∃ i, Eligible smscList type i := by
  simp only [routedResult]
  constructor
  · intro h
    split at h
    · exact absurd h (by decide)
    · rename_i hsome
      obtain hpreferred | hallowed := not_and_or.mp hsome
      · obtain ⟨i, hi⟩ := List.exists_mem_of_ne_nil _ hpreferred
        exact ⟨i, eligible_of_mem_preferredPositions hi⟩
      · obtain ⟨i, hi⟩ := List.exists_mem_of_ne_nil _ hallowed
        exact ⟨i, (mem_allowedPositions.mp hi).2⟩
  · rintro ⟨i, hi⟩
    refine if_neg fun hnil => ?_
    obtain h | h := mem_preferredPositions_or_mem_allowedPositions.mpr hi
    · exact List.ne_nil_of_mem h hnil.1
    · exact List.ne_nil_of_mem h hnil.2

theorem preferredPositions_lt (hlen : smscList.length ≤ 127) :
    ∀ i ∈ preferredPositions smscList type t, i < 128 := fun i hi => by
  have := (eligible_of_mem_preferredPositions hi).lt_length
  omega

theorem allowedPositions_lt (hlen : smscList.length ≤ 127) :
    ∀ i ∈ allowedPositions smscList type t, i < 128 := fun i hi => by
  have := (mem_allowedPositions.mp hi).2.lt_length
  omega

/-- Both arrays have room, or nothing is stored. -/
theorem RoutingMemory.exists_store_iff (memory : RoutingMemory maxNoSmsc)
    (preferredSmsc allowedSmsc : Octstr) :
    (∃ arrays, memory.store preferredSmsc allowedSmsc = some arrays) ↔
      preferredSmsc.length < maxNoSmsc / 2 ∧ allowedSmsc.length < maxNoSmsc / 2 := by
  rw [store, storeSmsc_eq, storeSmsc_eq, memory.preferred_length, memory.allowed_length]
  by_cases hpreferred : preferredSmsc.length < maxNoSmsc / 2 <;>
    by_cases hallowed : allowedSmsc.length < maxNoSmsc / 2 <;> simp [hpreferred, hallowed]

theorem RoutingMemory.store_eq_some {memory : RoutingMemory maxNoSmsc}
    {preferredSmsc allowedSmsc : Octstr} {arrays : List ℤ × List ℤ}
    (h : memory.store preferredSmsc allowedSmsc = some arrays) :
    storeSmsc memory.preferredSmsc preferredSmsc = some arrays.1 ∧
      storeSmsc memory.allowedSmsc allowedSmsc = some arrays.2 := by
  obtain ⟨preferred, hpreferred, h⟩ := Option.bind_eq_some_iff.mp h
  obtain ⟨allowed, hallowed, h⟩ := Option.bind_eq_some_iff.mp h
  obtain rfl := Option.some.inj h
  exact ⟨hpreferred, hallowed⟩

/-- **The positions that `rout_pdu` finds are the lists.** -/
theorem routingLists_positions (hnodup : (smscList.map (·.smscId)).Nodup) :
    RoutingLists smscList type t (asChars (preferredPositions smscList type t))
      (asChars (allowedPositions smscList type t)) where
  disjoint := by
    intro p hpreferred hallowed
    obtain ⟨i, hi, rfl⟩ := List.mem_map.mp hpreferred
    obtain ⟨j, hj, hij⟩ := List.mem_map.mp hallowed
    rw [Int.ofNat.inj hij] at hj
    exact (mem_allowedPositions.mp hj).1 hi
  union p := by
    rw [asChars, asChars, ← List.mem_append, ← List.map_append, List.mem_map]
    constructor
    · rintro ⟨i, hi, rfl⟩
      exact ⟨i, rfl, mem_preferredPositions_or_mem_allowedPositions.mp (List.mem_append.mp hi)⟩
    · rintro ⟨i, rfl, hi⟩
      exact ⟨i, List.mem_append.mpr (mem_preferredPositions_or_mem_allowedPositions.mpr hi), rfl⟩
  order := by
    rw [preferredPositions]
    exact congrArg asChars
      (List.filterMap_congr fun id _ => (eligiblePosition_eq_searchSmsc hnodup id).symm)

/-- What is stored of the positions found are the lists. -/
theorem routingLists_store (hlen : smscList.length ≤ 127)
    (hnodup : (smscList.map (·.smscId)).Nodup) {memory : RoutingMemory maxNoSmsc}
    {arrays : List ℤ × List ℤ}
    (h : memory.store ((preferredPositions smscList type t).map (·.toUInt8))
      ((allowedPositions smscList type t).map (·.toUInt8)) = some arrays) :
    RoutingLists smscList type t (terminated arrays.1) (terminated arrays.2) := by
  obtain ⟨hpreferred, hallowed⟩ := RoutingMemory.store_eq_some h
  rw [terminated_storeSmsc (preferredPositions_lt hlen) hpreferred,
    terminated_storeSmsc (allowedPositions_lt hlen) hallowed]
  exact routingLists_positions hnodup

/-- The positions fit into the buffer of `rout_pdu`, read off the configuration. -/
theorem preferredFit_iff (hnodup : (smscList.map (·.smscId)).Nodup) :
    PreferredFit smscList type t ↔
      t.namedSmsc.countP (namesEligible smscList type) < 256 ∨
        t.namedSmsc.countP (namesEligible smscList type) = 256 ∧
          ∀ c ∈ smscList, c.supports type ∧ c.smscId ∈ t.namedSmsc := by
  have hall : (∀ i < smscList.length, i ∈ preferredPositions smscList type t) ↔
      ∀ c ∈ smscList, c.supports type ∧ c.smscId ∈ t.namedSmsc := by
    constructor
    · intro h c hc
      obtain ⟨i, hi, rfl⟩ := List.getElem_of_mem hc
      exact (mem_preferredPositions hnodup (List.getElem?_eq_getElem hi)).mp (h i hi)
    · intro h i hi
      exact (mem_preferredPositions hnodup (List.getElem?_eq_getElem hi)).mpr
        (h _ (List.getElem_mem hi))
  rw [PreferredFit, length_preferredPositions, hall]

end

/-- **The routing lists, end to end.**  For accounts that passed `verify_config_para` and SMSCs with
distinct ids, at most 127 of them, the lists arrive as they were meant if and only if they fit. -/
theorem routed_iff_listsFit (doesPrefixMatch : Octstr → Octstr → ℤ) (series : Series)
    (trans : List SmscClient) (smscList : List SmscConnList) (destAddr : Octstr) (t : SmscClient)
    {maxNoSmsc : ℕ} (memory : RoutingMemory maxNoSmsc) (hverify : verifyConfigPara trans = 0)
    (ht : t ∈ trans) (hlen : smscList.length ≤ 127)
    (hnodup : (smscList.map (·.smscId)).Nodup) :
    Routed doesPrefixMatch series trans smscList destAddr t memory ↔
      ListsFit maxNoSmsc smscList (numberType doesPrefixMatch series destAddr) t := by
  rw [Routed, ListsFit, routPdu_eq hlen (find?_accountName hverify ht), ← preferredFit_iff hnodup]
  generalize numberType doesPrefixMatch series destAddr = type
  rw [← length_preferredPositions, ← length_allowedPositions hnodup]
  by_cases hfit : PreferredFit smscList type t
  · rw [if_pos hfit]
    constructor
    · rintro ⟨result, hresult, -, harrays⟩
      obtain rfl := Option.some.inj hresult
      refine ⟨hfit, ?_⟩
      by_cases hsome : ∃ i, Eligible smscList type i
      · obtain ⟨preferredSmsc, allowedSmsc, arrays, hpreferred, hallowed, hstore, -⟩ :=
          harrays (routedResult_ret.mpr hsome)
        have hroom := (memory.exists_store_iff _ _).mp ⟨arrays, hstore⟩
        rw [← Option.some.inj hpreferred, ← Option.some.inj hallowed, List.length_map,
          List.length_map] at hroom
        exact .inl hroom
      · exact .inr (not_not.mp fun h => hsome (exists_eligible_iff.mpr h))
    · rintro ⟨-, hroom⟩
      refine ⟨_, rfl, routedResult_ret, fun hret => ?_⟩
      have hroom := hroom.resolve_right (exists_eligible_iff.mp (routedResult_ret.mp hret))
      obtain ⟨arrays, hstore⟩ := (memory.exists_store_iff
        ((preferredPositions smscList type t).map (·.toUInt8))
        ((allowedPositions smscList type t).map (·.toUInt8))).mpr
          (by rwa [List.length_map, List.length_map])
      exact ⟨_, _, arrays, rfl, rfl, hstore, routingLists_store hlen hnodup hstore⟩
  · rw [if_neg hfit]
    simp [hfit]

/-- An account with a dedicated SMSC `a` that prefers `b`. -/
def sampleRoutedAccount : SmscClient where
  accountName := octstrImm "acme"
  password := octstrImm "secret"
  validfrom := octstrImm "01/01/2020 00:00:00"
  validto := octstrImm "01/01/2030 00:00:00"
  allowedMode := 1
  dedicatedSmsc := some (octstrImm "a")
  preferredSmsc := some [octstrImm "b"]

/-- Four SMSCs; `c` supports another number type. -/
def sampleSmscList : List SmscConnList :=
  [⟨octstrImm "b", 1, octstrImm "all", 3⟩, ⟨octstrImm "c", 1, octstrImm "cdma", 1⟩,
    ⟨octstrImm "d", 1, octstrImm "gsm", 1⟩, ⟨octstrImm "a", 1, octstrImm "gsm", 1⟩]

def sampleNumberSeries : Series where
  gsmSeries := some (octstrImm "91")
  cdmaSeries := some []
  intSeries := some []
  defaultSeries := octstrImm "all"

/-- A number matches a series of one prefix that it starts with. -/
def samplePrefixMatch (series number : Octstr) : ℤ := if series.isPrefixOf number then 1 else 0

/-- The routing arrays with `MAX_NO_SMSC` elements in all. -/
def sampleRoutingMemory (maxNoSmsc : ℕ) : RoutingMemory maxNoSmsc where
  preferredSmsc := List.replicate (maxNoSmsc / 2) 0
  allowedSmsc := List.replicate (maxNoSmsc / 2) 0
  preferred_length := List.length_replicate
  allowed_length := List.length_replicate

/-- The message goes to `a`, then to `b`, then to `d`. -/
theorem routed_sampleRoutedAccount :
    Routed samplePrefixMatch sampleNumberSeries [sampleRoutedAccount] sampleSmscList
      (octstrImm "919") sampleRoutedAccount (sampleRoutingMemory 40) :=
  (routed_iff_listsFit samplePrefixMatch sampleNumberSeries [sampleRoutedAccount] sampleSmscList
    (octstrImm "919") sampleRoutedAccount (sampleRoutingMemory 40) (by decide) (by decide)
    (by decide) (by decide)).mpr (by decide)

/-- The account names its preferred SMSC `d` 257 times. -/
def sampleRepeated : SmscClient :=
  { sampleRoutedAccount with
    dedicatedSmsc := none
    preferredSmsc := some (List.replicate 257 (octstrImm "d")) }

/-- **The buffer of `rout_pdu` overruns.**  The check of the configuration accepts the account; each
mention of `d` writes its position. -/
theorem not_routed_sampleRepeated :
    verifyConfigPara [sampleRepeated] = 0 ∧ sampleSmscList.length ≤ 127 ∧
      (sampleSmscList.map (·.smscId)).Nodup ∧
      ¬ Routed samplePrefixMatch sampleNumberSeries [sampleRepeated] sampleSmscList
        (octstrImm "919") sampleRepeated (sampleRoutingMemory 1024) := by
  have hverify : verifyConfigPara [sampleRepeated] = 0 := by
    have hnone : [sampleRepeated].filterMap (·.dedicatedSmsc) = [] := rfl
    have hshared : ¬ dedicatedShared [sampleRepeated] := by
      rw [dedicatedShared, hnone]
      simp
    rw [verifyConfigPara, if_neg (by decide), if_neg (by decide), if_neg hshared]
  have hcount : sampleRepeated.namedSmsc.countP
      (namesEligible sampleSmscList (octstrImm "gsm")) = 257 := by
    simp only [SmscClient.namedSmsc, sampleRepeated, Option.toList_none, List.nil_append,
      Option.getD_some, List.countP_replicate]
    decide
  refine ⟨hverify, by decide, by decide, ?_⟩
  rintro ⟨result, hresult, -⟩
  rw [routPdu_eq (by decide) (find?_accountName hverify List.mem_cons_self), if_neg] at hresult
  · exact absurd hresult (by simp)
  · have htype : numberType samplePrefixMatch sampleNumberSeries (octstrImm "919") =
        octstrImm "gsm" := by decide
    rw [htype, PreferredFit, length_preferredPositions, hcount]
    rintro (h | h)
    · exact absurd h (by decide)
    · exact absurd h.1 (by decide)

end SmppServer.SmppSmsc
