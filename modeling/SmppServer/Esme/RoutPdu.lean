import SmppServer.Machinery.Buffer
import SmppServer.Gwlib.Number
import SmppServer.Esme.Account
import Mathlib.Data.List.Nodup

/-!
# Esme/RoutPdu — the SMSCs a message may go to

`rout_pdu` sorts the SMSCs that support a destination's number type into two lists of positions: those
the account names, its dedicated SMSC first, and the others.  The lists are built in two buffers of 256
`char`s filled with `-1` and leave as octets.

* `verifyConfigPara_eq_zero_iff` — what the check of the configuration lets pass.
* `routPdu_eq` — what the lists are, and when the buffer for the SMSCs the account names is overrun.
-/

namespace SmppServer.SmppEsme

open Machinery

/-! ## The check of the configuration

Two searches over all pairs.  What passes them has distinct names, and no SMSC that is dedicated to one account
and preferred by another or the same. -/

/-- The first loops of `verify_config_para`: two accounts at different places have one name. -/
def nameShared (trans : List SmscClient) : Bool :=
  (trans.map (·.accountName)).zipIdx.any fun tmp =>
    (trans.map (·.accountName)).zipIdx.any fun name => tmp.1 = name.1 ∧ tmp.2 ≠ name.2

/-- The last loops of `verify_config_para`: an account prefers an SMSC of the dedicated list. -/
def dedicatedShared (trans : List SmscClient) : Bool :=
  trans.any fun ot1 =>
    (ot1.preferredSmsc.getD []).any fun id => id ∈ trans.filterMap (·.dedicatedSmsc)

/-- `verify_config_para`: `0` if the accounts have different names, and none of them prefers an SMSC
that is dedicated to some account.  Without accounts an error is logged only. -/
def verifyConfigPara (trans : List SmscClient) : ℤ :=
  if trans.length = 0 then 0
  else if nameShared trans then -1
  else if dedicatedShared trans then -1
  else 0

/-- The loops compare every two places, so they find a name that is given twice. -/
theorem nameShared_iff {trans : List SmscClient} :
    nameShared trans ↔ ¬ (trans.map (·.accountName)).Nodup := by
  simp only [nameShared, List.any_eq_true, decide_eq_true_eq, Prod.exists,
    List.mk_mem_zipIdx_iff_getElem?]
  rw [List.nodup_iff_getElem?_ne_getElem?]
  push Not
  constructor
  · rintro ⟨name, i, hi, name', j, hj, rfl, hij⟩
    rcases Nat.lt_or_gt_of_ne hij with hlt | hlt
    · exact ⟨i, j, hlt, (List.getElem?_eq_some_iff.mp hj).1, hi.trans hj.symm⟩
    · exact ⟨j, i, hlt, (List.getElem?_eq_some_iff.mp hi).1, hj.trans hi.symm⟩
  · rintro ⟨i, j, hij, hj, heq⟩
    have hat := List.getElem?_eq_getElem hj
    exact ⟨_, i, heq.trans hat, _, j, hat, rfl, hij.ne⟩

/-- The last loops find an SMSC that one account prefers and one, it or another, has for itself. -/
theorem dedicatedShared_iff {trans : List SmscClient} :
    dedicatedShared trans ↔
      ∃ ot1 ∈ trans, ∃ id ∈ ot1.preferredSmsc.getD [], ∃ t ∈ trans, t.dedicatedSmsc = some id := by
  simp only [dedicatedShared, List.any_eq_true, decide_eq_true_eq, List.mem_filterMap]

/-- The check fails if one of its two searches finds something. -/
theorem verifyConfigPara_eq (trans : List SmscClient) :
    verifyConfigPara trans = if nameShared trans ∨ dedicatedShared trans then -1 else 0 := by
  by_cases hlen : trans.length = 0
  · rw [List.length_eq_zero_iff.mp hlen]
    rfl
  · by_cases hnames : nameShared trans
    · rw [verifyConfigPara, if_neg hlen, if_pos hnames, if_pos (.inl hnames)]
    · rw [verifyConfigPara, if_neg hlen, if_neg hnames]
      simp only [hnames, Bool.false_eq_true, false_or]

theorem not_shared_of_verifyConfigPara {trans : List SmscClient} (h : verifyConfigPara trans = 0) :
    ¬ nameShared trans ∧ ¬ dedicatedShared trans := by
  rw [verifyConfigPara_eq] at h
  split at h
  · exact absurd h (by decide)
  · exact not_or.mp ‹_›

/-- **The check of the configuration** is passed exactly by the accounts with different names of which none
prefers an SMSC that is dedicated to some account; for all others it is `-1`. -/
theorem verifyConfigPara_eq_zero_iff (trans : List SmscClient) :
    (verifyConfigPara trans = 0 ↔
      (trans.map (·.accountName)).Nodup ∧
        ∀ ot1 ∈ trans, ∀ id ∈ ot1.preferredSmsc.getD [], ∀ t ∈ trans, t.dedicatedSmsc ≠ some id) ∧
    (verifyConfigPara trans ≠ 0 → verifyConfigPara trans = -1) := by
  constructor
  · constructor
    · intro h
      obtain ⟨hnames, hshared⟩ := not_shared_of_verifyConfigPara h
      refine ⟨not_not.mp (mt nameShared_iff.mpr hnames), fun ot1 hot1 id hid t ht hded => hshared ?_⟩
      exact dedicatedShared_iff.mpr ⟨ot1, hot1, id, hid, t, ht, hded⟩
    · rintro ⟨hnodup, hpreferred⟩
      rw [verifyConfigPara_eq, if_neg]
      rintro (hnames | hshared)
      · exact nameShared_iff.mp hnames hnodup
      · obtain ⟨ot1, hot1, id, hid, t, ht, hded⟩ := dedicatedShared_iff.mp hshared
        exact hpreferred ot1 hot1 id hid t ht hded
  · intro h
    rw [verifyConfigPara_eq] at h ⊢
    split
    · rfl
    · exact absurd (if_neg ‹_›) h

/-- Of the accounts that passed the check, each is found under its name. -/
theorem find?_accountName {trans : List SmscClient} {t : SmscClient}
    (h : verifyConfigPara trans = 0) (ht : t ∈ trans) :
    (trans.find? fun t' => t.accountName = t'.accountName) = some t := by
  have hnodup := not_not.mp (mt nameShared_iff.mpr (not_shared_of_verifyConfigPara h).1)
  cases hfind : trans.find? fun t' => t.accountName = t'.accountName with
  | none => exact absurd (decide_eq_true rfl) (List.find?_eq_none.mp hfind t ht)
  | some t' =>
    have hname : t.accountName = t'.accountName := by simpa using List.find?_some hfind
    exact congrArg some
      (List.inj_on_of_nodup_map hnodup (List.mem_of_find?_eq_some hfind) ht hname.symm)

/-! ## The number type

The tests for the series are an `else if` chain on whether a series is set, not on whether the number belongs to
it. -/

/-- The series of the configuration; `default_series` is always set. -/
structure Series where
  gsmSeries : Option Octstr
  cdmaSeries : Option Octstr
  intSeries : Option Octstr
  defaultSeries : Octstr
  deriving DecidableEq, Repr

/-- The number type of a destination.  The tests for the series are alternatives, so only the first
series that is set is looked at. -/
def numberType (doesPrefixMatch : Octstr → Octstr → ℤ) (series : Series) (destAddr : Octstr) :
    Octstr :=
  match series.gsmSeries, series.cdmaSeries, series.intSeries with
  | some gsmSeries, _, _ =>
    if doesPrefixMatch gsmSeries destAddr = 1 then octstrImm "gsm" else series.defaultSeries
  | none, some cdmaSeries, _ =>
    if doesPrefixMatch cdmaSeries destAddr = 1 then octstrImm "cdma" else series.defaultSeries
  | none, none, some intSeries =>
    if doesPrefixMatch intSeries destAddr = 1 then octstrImm "int" else series.defaultSeries
  | none, none, none => series.defaultSeries

/-! ## The lists

The buffers are lists of `char`s with an index, and every access is checked: `none` is an access outside. -/

/-- The SMSC supports the number type, and is bound in transmitter or transceiver mode. -/
def SmscConnList.supports (numberType : Octstr) (c : SmscConnList) : Bool :=
  (numberType == c.smscType || c.smscType == octstrImm "all") && c.transmits

/-- A buffer of `rout_pdu`, filled with `-1`. -/
def charBuffer : List ℤ := List.replicate 256 (-1)

section Lists

variable (smscList : List SmscConnList) (numberType : Octstr)

/-- The search for an SMSC of the account: the first position with its id that supports the type. -/
def searchSmsc (id : Octstr) : Option ℕ :=
  smscList.findIdx? fun c => id = c.smscId ∧ c.supports numberType

/-- The outcome of a search is written to `preferred_smsc`. -/
def preferSmsc (f : Filling ℤ) (id : Octstr) : Option (Filling ℤ) :=
  f.pushSome ((searchSmsc smscList numberType id).map fun i => toChar i)

/-- The loops that fill `preferred_smsc`: the dedicated SMSC, then the preferred ones. -/
def fillPreferred (t : SmscClient) : Option (Filling ℤ) :=
  let f : Option (Filling ℤ) := match t.dedicatedSmsc with
    | none => some ⟨charBuffer, 0⟩
    | some dedicated => preferSmsc smscList numberType ⟨charBuffer, 0⟩ dedicated
  f.bind ((t.preferredSmsc.getD []).foldlM (preferSmsc smscList numberType))

/-- The inner loop over `preferred_smsc`: whether one of the next elements is the position. -/
def alreadyPreferred (preferredSmsc : List ℤ) (i : ℤ) : (left j : ℕ) → Option Bool
  | 0, _ => some false
  | left + 1, j =>
    match preferredSmsc[j]? with
    | none => none
    | some ch => if ch = i then some true else alreadyPreferred preferredSmsc i left (j + 1)

/-- One round of the loop that fills `allowed_smsc`.  The check for a position that was preferred goes
one element beyond the last one written. -/
def allowSmsc (preferred : Filling ℤ) (f : Filling ℤ) (entry : SmscConnList × ℕ) :
    Option (Filling ℤ) := do
  let listed ← if 0 < preferred.index then
      alreadyPreferred preferred.buf entry.2 (preferred.index + 1) 0
    else some false
  if listed then some f
  else f.pushSome (if entry.1.supports numberType then some (toChar entry.2) else none)

/-- The loop that fills `allowed_smsc`. -/
def fillAllowed (preferred : Filling ℤ) : Option (Filling ℤ) :=
  smscList.zipIdx.foldlM (allowSmsc numberType preferred) ⟨charBuffer, 0⟩

end Lists

/-- `octstr_append_char` for each element written: it asserts that they are octets. -/
def octetsWritten (f : Filling ℤ) : Option Octstr :=
  (f.buf.take f.index).mapM fun ch => if 0 ≤ ch ∧ ch ≤ 255 then some ch.toNat.toUInt8 else none

/-- What `rout_pdu` returns, and the two texts it makes. -/
structure RoutPduResult where
  ret : ℤ
  ospreferredSmsc : Option Octstr := none
  osallowedSmsc : Option Octstr := none
  deriving DecidableEq, Repr

/-- What `handle_submit_sm` takes from it: the two texts, unless it is not `0`. -/
def RoutPduResult.lists (r : RoutPduResult) : Option (Octstr × Octstr) :=
  if r.ret = 0 then r.ospreferredSmsc.bind fun p => r.osallowedSmsc.map (p, ·) else none

/-- **`rout_pdu`.**  `none` stands for a call that reads or writes outside of its buffers. -/
def routPdu (doesPrefixMatch : Octstr → Octstr → ℤ) (series : Series)
    (translations : Option (List SmscClient)) (smscList : List SmscConnList)
    (destAddr username : Option Octstr) : Option RoutPduResult :=
  match translations, destAddr, username with
  | some translations, some destAddr, some username =>
    match translations.find? fun t => username = t.accountName with
    | none => some { ret := -1 }
    | some t => do
      let type := numberType doesPrefixMatch series destAddr
      let preferred ← fillPreferred smscList type t
      let allowed ← fillAllowed smscList type preferred
      let ospreferredSmsc ← octetsWritten preferred
      let osallowedSmsc ← octetsWritten allowed
      some
        { ret := if 0 < preferred.index ∨ 0 < allowed.index then 0 else -1
          ospreferredSmsc := ospreferredSmsc
          osallowedSmsc := osallowedSmsc }
  | _, _, _ => some { ret := -1 }

/-! ## What the lists are

The positions by themselves, without buffers: those found for the ids of the account, and the others that
support the type.  Together they are the eligible ones. -/

/-- The ids an account is configured with, the dedicated SMSC first. -/
def SmscClient.namedSmsc (t : SmscClient) : List Octstr :=
  t.dedicatedSmsc.toList ++ t.preferredSmsc.getD []

section Positions

variable (smscList : List SmscConnList) (numberType : Octstr) (t : SmscClient)

/-- The positions found for the ids of the account. -/
def preferredPositions : List ℕ := t.namedSmsc.filterMap (searchSmsc smscList numberType)

/-- The other positions that support the type. -/
def allowedPositions : List ℕ :=
  smscList.zipIdx.filterMap fun entry =>
    if entry.2 ∉ preferredPositions smscList numberType t ∧ entry.1.supports numberType then
      some entry.2
    else none

end Positions

variable {smscList : List SmscConnList} {type : Octstr} {t : SmscClient}

/-- A position supports the number type. -/
def Eligible (smscList : List SmscConnList) (type : Octstr) (i : ℕ) : Prop :=
  ∃ c, smscList[i]? = some c ∧ c.supports type

theorem searchSmsc_eq_some {id : Octstr} {i : ℕ} (h : searchSmsc smscList type id = some i) :
    ∃ c, smscList[i]? = some c ∧ id = c.smscId ∧ c.supports type := by
  obtain ⟨hi, hmatch, -⟩ := List.findIdx?_eq_some_iff_getElem.mp h
  exact ⟨smscList[i], List.getElem?_eq_getElem hi, of_decide_eq_true hmatch⟩

theorem eligible_of_mem_preferredPositions {i : ℕ}
    (h : i ∈ preferredPositions smscList type t) : Eligible smscList type i := by
  obtain ⟨id, -, hid⟩ := List.mem_filterMap.mp h
  obtain ⟨c, hc, -, hsupports⟩ := searchSmsc_eq_some hid
  exact ⟨c, hc, hsupports⟩

theorem mem_allowedPositions {i : ℕ} :
    i ∈ allowedPositions smscList type t ↔
      i ∉ preferredPositions smscList type t ∧ Eligible smscList type i := by
  rw [allowedPositions, List.mem_filterMap]
  constructor
  · rintro ⟨⟨c, k⟩, hmem, hif⟩
    split at hif
    · rename_i h
      obtain rfl := Option.some.inj hif
      exact ⟨h.1, c, List.mk_mem_zipIdx_iff_getElem?.mp hmem, h.2⟩
    · exact absurd hif (by simp)
  · rintro ⟨hnot, c, hc, hsupports⟩
    exact ⟨(c, i), List.mk_mem_zipIdx_iff_getElem?.mpr hc, if_pos ⟨hnot, hsupports⟩⟩

theorem Eligible.lt_length {i : ℕ} (h : Eligible smscList type i) : i < smscList.length := by
  obtain ⟨c, hc, -⟩ := h
  exact (List.getElem?_eq_some_iff.mp hc).1

/-- The preferred and the allowed positions together are the eligible ones. -/
theorem mem_preferredPositions_or_mem_allowedPositions {i : ℕ} :
    i ∈ preferredPositions smscList type t ∨ i ∈ allowedPositions smscList type t ↔
      Eligible smscList type i := by
  constructor
  · rintro (h | h)
    · exact eligible_of_mem_preferredPositions h
    · exact (mem_allowedPositions.mp h).2
  · intro h
    by_cases hi : i ∈ preferredPositions smscList type t
    · exact .inl hi
    · exact .inr (mem_allowedPositions.mpr ⟨hi, h⟩)

/-! ## The loops find them

The loops write these positions as long as they fit.  The check whether a position was preferred reads one
element too far, which is harmless but for a buffer that is full. -/

/-- Positions as elements of a buffer. -/
abbrev asChars (positions : List ℕ) : List ℤ := positions.map (↑)

theorem length_charBuffer : charBuffer.length = 256 := List.length_replicate

/-- What the searches write are the positions themselves. -/
theorem filterMap_searchSmsc_toChar (hlen : smscList.length ≤ 127) (ids : List Octstr) :
    ids.filterMap (fun id => (searchSmsc smscList type id).map fun i => toChar i) =
      asChars (ids.filterMap (searchSmsc smscList type)) := by
  rw [asChars, List.map_filterMap]
  refine List.filterMap_congr fun id _ => ?_
  cases hid : searchSmsc smscList type id with
  | none => rfl
  | some i =>
    obtain ⟨c, hc, -⟩ := searchSmsc_eq_some hid
    have hi := (List.getElem?_eq_some_iff.mp hc).1
    exact congrArg some (toChar_natCast (by omega))

theorem fillPreferred_eq (hlen : smscList.length ≤ 127) :
    fillPreferred smscList type t =
      if (preferredPositions smscList type t).length ≤ 256 then
        some (.overwritten charBuffer (asChars (preferredPositions smscList type t)))
      else none := by
  have hpush : fillPreferred smscList type t =
      Filling.pushAll (.overwritten charBuffer [])
        (asChars (preferredPositions smscList type t)) := by
    rw [fillPreferred, preferredPositions, ← filterMap_searchSmsc_toChar hlen, SmscClient.namedSmsc,
      List.filterMap_append, Filling.pushAll_append]
    have hloop (ids : List Octstr) (f : Filling ℤ) :
        ids.foldlM (preferSmsc smscList type) f =
          f.pushAll (ids.filterMap fun id => (searchSmsc smscList type id).map fun i => toChar i) :=
      foldlM_pushSome (fun _ _ _ => rfl) f
    simp only [← hloop]
    cases t.dedicatedSmsc with
    | none => rfl
    | some dedicated => exact congrArg (Option.bind · _) (bind_pure _).symm
  rw [hpush, Filling.pushAll_overwritten (Nat.zero_le _), List.length_nil, Nat.zero_add,
    List.length_map, length_charBuffer, List.nil_append]

/-- The inner loop finds a position among the next elements, or runs to their end. -/
theorem alreadyPreferred_eq {preferredSmsc : List ℤ} {i : ℤ} {left j : ℕ}
    (hj : j ≤ preferredSmsc.length) :
    alreadyPreferred preferredSmsc i left j =
      if i ∈ (preferredSmsc.drop j).take left then some true
      else if j + left ≤ preferredSmsc.length then some false
      else none := by
  induction left generalizing j with
  | zero => rw [alreadyPreferred, List.take_zero, if_neg List.not_mem_nil, Nat.add_zero, if_pos hj]
  | succ left ih =>
    rw [alreadyPreferred]
    by_cases hlt : j < preferredSmsc.length
    · rw [List.getElem?_eq_getElem hlt, List.drop_eq_getElem_cons hlt, List.take_succ_cons]
      by_cases hi : preferredSmsc[j] = i
      · simp [hi]
      · have hmem : i ∈ preferredSmsc[j] :: (preferredSmsc.drop (j + 1)).take left ↔
            i ∈ (preferredSmsc.drop (j + 1)).take left := by
          rw [List.mem_cons, or_iff_right fun h => hi h.symm]
        simp only [if_neg hi, hmem]
        rw [ih hlt, Nat.succ_add_eq_add_succ]
    · rw [List.getElem?_eq_none (Nat.not_lt.mp hlt), List.drop_eq_nil_of_le (Nat.not_lt.mp hlt),
        List.take_nil, if_neg List.not_mem_nil, if_neg (by omega)]

/-- Reading one element beyond the last one written does no harm inside of the buffer: it holds no
position.  At the end of the buffer it is an overrun. -/
theorem alreadyPreferred_overwritten {positions : List ℕ} (hpositions : positions.length ≤ 256)
    (i : ℕ) :
    alreadyPreferred (Filling.overwritten charBuffer (asChars positions)).buf i
        (positions.length + 1) 0 =
      if i ∈ positions then some true else if positions.length < 256 then some false else none := by
  have hlen : (asChars positions).length ≤ charBuffer.length := by
    rwa [List.length_map, length_charBuffer]
  rw [alreadyPreferred_eq (Nat.zero_le _), Filling.length_overwritten_buf hlen, length_charBuffer,
    Nat.zero_add, List.drop_zero, Filling.overwritten_buf, List.take_append, List.length_map,
    Nat.add_sub_cancel_left]
  have hmem : (i : ℤ) ∈ (asChars positions).take (positions.length + 1) ++
      (charBuffer.drop positions.length).take 1 ↔ i ∈ positions := by
    have hcast : (i : ℤ) ∈ asChars positions ↔ i ∈ positions :=
      List.mem_map_of_injective fun _ _ => Int.ofNat.inj
    rw [List.mem_append, List.take_of_length_le (by simp), hcast]
    refine or_iff_left fun h => ?_
    have hfill := List.eq_of_mem_replicate (List.mem_of_mem_drop (List.mem_of_mem_take h))
    exact absurd hfill (by omega)
  simp only [hmem, Nat.add_one_le_iff]

/-- One round: a position that was preferred is passed over; for any other the check overruns a full
buffer. -/
theorem allowSmsc_overwritten {positions : List ℕ} (hpositions : positions.length ≤ 256)
    (f : Filling ℤ) (entry : SmscConnList × ℕ) :
    allowSmsc type (.overwritten charBuffer (asChars positions)) f entry =
      if entry.2 ∈ positions then some f
      else if positions.length < 256 then
        f.pushSome (if entry.1.supports type then some (toChar entry.2) else none)
      else none := by
  rw [allowSmsc, Filling.overwritten_index, List.length_map]
  cases positions with
  | nil => rfl
  | cons p ps =>
    rw [if_pos (List.length_pos_of_mem List.mem_cons_self), alreadyPreferred_overwritten hpositions]
    by_cases hmem : entry.2 ∈ p :: ps
    · rw [if_pos hmem, if_pos hmem]
      rfl
    · rw [if_neg hmem, if_neg hmem]
      by_cases hroom : (p :: ps).length < 256
      · rw [if_pos hroom, if_pos hroom]
        rfl
      · rw [if_neg hroom, if_neg hroom]
        rfl

/-- …so where it does not, the round writes what `allowedPositions` lists. -/
theorem allowSmsc_eq_pushSome (hlen : smscList.length ≤ 127)
    (hpreferred : (preferredPositions smscList type t).length ≤ 256)
    (hroom : (preferredPositions smscList type t).length < 256 ∨
      ∀ i < smscList.length, i ∈ preferredPositions smscList type t)
    (entry : SmscConnList × ℕ) (hentry : entry ∈ smscList.zipIdx) (f : Filling ℤ) :
    allowSmsc type (.overwritten charBuffer (asChars (preferredPositions smscList type t))) f
        entry =
      f.pushSome ((if entry.2 ∉ preferredPositions smscList type t ∧ entry.1.supports type then
        some entry.2 else none).map fun i : ℕ => (i : ℤ)) := by
  have hi : entry.2 < smscList.length := by
    have := List.snd_lt_of_mem_zipIdx hentry
    omega
  rw [allowSmsc_overwritten hpreferred]
  by_cases hmem : entry.2 ∈ preferredPositions smscList type t
  · rw [if_pos hmem, if_neg fun h => h.1 hmem]
    rfl
  · rw [if_neg hmem, if_pos (hroom.resolve_right fun h => hmem (h _ hi)),
      toChar_natCast (by omega)]
    by_cases hsupports : entry.1.supports type
    · rw [if_pos hsupports, if_pos ⟨hmem, hsupports⟩]
      rfl
    · rw [if_neg hsupports, if_neg fun h => hsupports h.2]
      rfl

theorem length_allowedPositions_le (smscList : List SmscConnList) (type : Octstr) (t : SmscClient) :
    (allowedPositions smscList type t).length ≤ smscList.length :=
  List.length_zipIdx (l := smscList) ▸ List.length_filterMap_le _ _

/-- **The loop over all SMSCs** writes the allowed positions.  With the buffer for the preferred ones
full it completes only if every SMSC is among them. -/
theorem fillAllowed_eq (hlen : smscList.length ≤ 127)
    (hpreferred : (preferredPositions smscList type t).length ≤ 256) :
    fillAllowed smscList type
        (.overwritten charBuffer (asChars (preferredPositions smscList type t))) =
      if (preferredPositions smscList type t).length < 256 ∨
          ∀ i < smscList.length, i ∈ preferredPositions smscList type t then
        some (.overwritten charBuffer (asChars (allowedPositions smscList type t)))
      else none := by
  rw [fillAllowed]
  split
  · rename_i hroom
    have hall := length_allowedPositions_le smscList type t
    rw [foldlM_pushSome (allowSmsc_eq_pushSome hlen hpreferred hroom), ← Filling.overwritten_nil,
      ← List.map_filterMap, Filling.pushAll_overwritten (Nat.zero_le _), List.length_nil,
      Nat.zero_add, List.length_map, length_charBuffer, List.nil_append]
    exact if_pos (by rw [allowedPositions] at hall; omega)
  · rename_i hroom
    obtain ⟨hfull, hother⟩ := not_or.mp hroom
    obtain ⟨i, hi, hnot⟩ : ∃ i < smscList.length, i ∉ preferredPositions smscList type t := by
      simpa using hother
    refine foldlM_eq_none (List.mk_mem_zipIdx_iff_getElem?.mpr (List.getElem?_eq_getElem hi))
      (fun f => ?_) _
    rw [allowSmsc_overwritten hpreferred, if_neg hnot, if_neg hfull]

/-- The octets of positions that are written. -/
theorem octetsWritten_overwritten {positions : List ℕ} (h : ∀ i ∈ positions, i < 256) :
    octetsWritten (.overwritten charBuffer (asChars positions)) =
      some (positions.map (·.toUInt8)) := by
  rw [octetsWritten, Filling.overwritten_index, Filling.overwritten_buf, List.take_left]
  induction positions with
  | nil => rfl
  | cons i positions ih =>
    have hi : (0 : ℤ) ≤ i ∧ (i : ℤ) ≤ 255 := by
      have := h i List.mem_cons_self
      omega
    rw [asChars, List.map_cons, List.mapM_cons, if_pos hi,
      ih fun j hj => h j (List.mem_cons_of_mem i hj)]
    rfl

/-- The positions fit into the buffer for the preferred ones: at most 255 of them, or 256 if no SMSC
is left for which the check reads one element further. -/
def PreferredFit (smscList : List SmscConnList) (type : Octstr) (t : SmscClient) : Prop :=
  (preferredPositions smscList type t).length < 256 ∨
    (preferredPositions smscList type t).length = 256 ∧
      ∀ i < smscList.length, i ∈ preferredPositions smscList type t

instance : Decidable (PreferredFit smscList type t) := inferInstanceAs (Decidable (_ ∨ _))

/-- What `rout_pdu` gives for an account when its buffers hold the positions. -/
def routedResult (smscList : List SmscConnList) (type : Octstr) (t : SmscClient) : RoutPduResult where
  ret :=
    if preferredPositions smscList type t = [] ∧ allowedPositions smscList type t = [] then -1 else 0
  ospreferredSmsc := some ((preferredPositions smscList type t).map (·.toUInt8))
  osallowedSmsc := some ((allowedPositions smscList type t).map (·.toUInt8))

/-- **`rout_pdu` for an account of the configuration.** -/
theorem routPdu_eq {doesPrefixMatch : Octstr → Octstr → ℤ} {series : Series}
    {trans : List SmscClient} {destAddr username : Octstr} (hlen : smscList.length ≤ 127)
    (hfind : (trans.find? fun t => username = t.accountName) = some t) :
    routPdu doesPrefixMatch series (some trans) smscList (some destAddr) (some username) =
      if PreferredFit smscList (numberType doesPrefixMatch series destAddr) t then
        some (routedResult smscList (numberType doesPrefixMatch series destAddr) t)
      else none := by
  simp only [routPdu, hfind]
  generalize numberType doesPrefixMatch series destAddr = type
  rw [fillPreferred_eq hlen]
  by_cases hle : (preferredPositions smscList type t).length ≤ 256
  · rw [if_pos hle, Option.bind_eq_bind, Option.bind_some, fillAllowed_eq hlen hle]
    by_cases hfit : PreferredFit smscList type t
    · have hpreferred : ∀ i ∈ preferredPositions smscList type t, i < 256 := fun i hi => by
        have := (eligible_of_mem_preferredPositions hi).lt_length
        omega
      have hallowed : ∀ i ∈ allowedPositions smscList type t, i < 256 := fun i hi => by
        have := (mem_allowedPositions.mp hi).2.lt_length
        omega
      rw [if_pos hfit, if_pos (hfit.imp_right And.right)]
      simp only [Option.bind_some, octetsWritten_overwritten hpreferred,
        octetsWritten_overwritten hallowed]
      refine congrArg some ?_
      rw [routedResult]
      congr 1
      simp only [Filling.overwritten_index, List.length_map, List.length_pos_iff]
      split <;> split <;> tauto
    · rw [if_neg hfit, if_neg]
      · rfl
      · rintro (h | h)
        · exact hfit (.inl h)
        · exact hfit ((Nat.lt_or_eq_of_le hle).imp_right fun heq => ⟨heq, h⟩)
  · rw [if_neg hle, if_neg]
    · rfl
    · rintro (h | h) <;> omega

/-! ## Distinct ids

The search looks for the first position with the id that supports the type.  Where the ids are distinct this is
the position of the SMSC with that id, or none if that one does not support the type. -/

/-- The position of the SMSC with the id, if it supports the type. -/
def eligiblePosition (smscList : List SmscConnList) (type : Octstr) (id : Octstr) : Option ℕ :=
  (smscList.findIdx? fun c => id = c.smscId).filter fun i =>
    (smscList[i]?).any (SmscConnList.supports type)

/-- The id is that of an SMSC that supports the type. -/
def namesEligible (smscList : List SmscConnList) (type : Octstr) (id : Octstr) : Bool :=
  smscList.any fun c => id = c.smscId ∧ c.supports type

section Distinct

variable (hnodup : (smscList.map (·.smscId)).Nodup)
include hnodup

/-- An id stands at one position. -/
theorem position_unique {i j : ℕ} {c c' : SmscConnList} (hc : smscList[i]? = some c)
    (hc' : smscList[j]? = some c') (hid : c.smscId = c'.smscId) : i = j := by
  have hi : i < (smscList.map (·.smscId)).length := by
    rw [List.length_map]
    exact (List.getElem?_eq_some_iff.mp hc).1
  refine (List.getElem?_inj hi hnodup).mp ?_
  rw [List.getElem?_map, List.getElem?_map, hc, hc']
  exact congrArg some hid

theorem searchSmsc_of_getElem? {id : Octstr} {i : ℕ} {c : SmscConnList}
    (hc : smscList[i]? = some c) (hid : id = c.smscId) (hsupports : c.supports type) :
    searchSmsc smscList type id = some i := by
  cases hsearch : searchSmsc smscList type id with
  | none =>
    have hnone := List.findIdx?_eq_none_iff.mp hsearch c (List.mem_of_getElem? hc)
    exact absurd hnone (by simp [hid, hsupports])
  | some j =>
    obtain ⟨c', hc', hid', -⟩ := searchSmsc_eq_some hsearch
    rw [position_unique hnodup hc' hc (hid'.symm.trans hid)]

theorem eligiblePosition_eq_searchSmsc (id : Octstr) :
    eligiblePosition smscList type id = searchSmsc smscList type id := by
  rw [eligiblePosition]
  cases hfind : smscList.findIdx? fun c => id = c.smscId with
  | none =>
    refine (List.findIdx?_eq_none_iff.mpr fun c hc => ?_).symm
    have hid := List.findIdx?_eq_none_iff.mp hfind c hc
    simp only [decide_eq_false_iff_not] at hid ⊢
    exact fun h => hid h.1
  | some i =>
    obtain ⟨hi, hid, -⟩ := List.findIdx?_eq_some_iff_getElem.mp hfind
    have hc := List.getElem?_eq_getElem hi
    rw [Option.filter_some, hc, Option.any_some]
    split
    · rename_i hsupports
      exact (searchSmsc_of_getElem? hnodup hc (of_decide_eq_true hid) hsupports).symm
    · rename_i hsupports
      cases hsearch : searchSmsc smscList type id with
      | none => rfl
      | some j =>
        obtain ⟨c', hc', hid', hsupports'⟩ := searchSmsc_eq_some hsearch
        have hij := position_unique hnodup hc hc' ((of_decide_eq_true hid).symm.trans hid')
        rw [← hij, hc] at hc'
        exact absurd (Option.some.inj hc' ▸ hsupports') hsupports

/-- The preferred positions are those of the ids the account names. -/
theorem mem_preferredPositions {i : ℕ} {c : SmscConnList} (hc : smscList[i]? = some c) :
    i ∈ preferredPositions smscList type t ↔ c.supports type ∧ c.smscId ∈ t.namedSmsc := by
  constructor
  · intro h
    obtain ⟨id, hid, hsearch⟩ := List.mem_filterMap.mp h
    obtain ⟨c', hc', rfl, hsupports⟩ := searchSmsc_eq_some hsearch
    obtain rfl := Option.some.inj (hc.symm.trans hc')
    exact ⟨hsupports, hid⟩
  · rintro ⟨hsupports, hid⟩
    exact List.mem_filterMap.mpr ⟨c.smscId, hid, searchSmsc_of_getElem? hnodup hc rfl hsupports⟩

theorem length_allowedPositions :
    (allowedPositions smscList type t).length =
      smscList.countP fun c => c.supports type ∧ c.smscId ∉ t.namedSmsc := by
  have hfst : (smscList.countP fun c => c.supports type ∧ c.smscId ∉ t.namedSmsc) =
      smscList.zipIdx.countP fun entry =>
        entry.1.supports type ∧ entry.1.smscId ∉ t.namedSmsc := by
    conv_lhs => rw [← List.zipIdx_map_fst 0 smscList, List.countP_map]
    rfl
  rw [hfst, allowedPositions, List.length_filterMap_eq_countP]
  refine List.countP_congr fun entry hentry => ?_
  have hc := List.mk_mem_zipIdx_iff_getElem?.mp hentry
  by_cases hsupports : entry.1.supports type <;>
    simp [mem_preferredPositions hnodup hc, hsupports]

end Distinct

theorem length_preferredPositions :
    (preferredPositions smscList type t).length =
      t.namedSmsc.countP (namesEligible smscList type) := by
  rw [preferredPositions, List.length_filterMap_eq_countP]
  exact List.countP_congr fun id _ => by rw [searchSmsc, List.findIdx?_isSome, namesEligible]

end SmppServer.SmppEsme
