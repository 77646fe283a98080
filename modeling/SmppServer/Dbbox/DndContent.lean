import Mathlib.Data.List.TakeWhile
import SmppServer.Dbbox.Dnd
import SmppServer.Esme.VerifyPdu

/-!
# Dbbox/DndContent — what is left of a message behind the DND checker

On the way of a message through the tables its content is written in hexadecimal, unless its data coding
is `0`; the user data header is split off, in hexadecimal too, and put back by `msg_process`, which reads
six pairs of digits with `atoi`.  So a header of another length is cut or read past its end, an octet
from ten on comes back as another number, and a content that is not in hexadecimal ends at its first
`NUL`.

* `atoi_hexPair_eq_iff` — the octets whose two digits mean the same in decimal.
* `contentKept_iff` — **exactly** which messages come through.
-/

namespace SmppServer.SmppDbbox

open SmppEsme

/-! ## Hexadecimal

`HexForm` says that a text stands for octets.  The one place where this is read wrongly is `atoi`, which takes
two hexadecimal digits for decimal ones: an octet survives it if it is below ten, and no other does. -/

/-- The text is the octets in hexadecimal, two digits each, in either case. -/
def HexForm (m u : Octstr) : Prop :=
  u.map (digitValue 16) = m.flatMap fun o => [some (o.toNat / 16), some (o.toNat % 16)]

section Hex

variable {m u : Octstr} {c d o : UInt8}

theorem HexForm.nil_iff : HexForm [] u ↔ u = [] := by
  simp [HexForm]

theorem HexForm.cons_iff : HexForm (o :: m) u ↔ ∃ c d v, u = c :: d :: v ∧
    digitValue 16 c = some (o.toNat / 16) ∧ digitValue 16 d = some (o.toNat % 16) ∧ HexForm m v := by
  constructor
  · intro h
    match u, h with
    | [], h => simp [HexForm] at h
    | [c], h => simp [HexForm] at h
    | c :: d :: v, h =>
      simp only [HexForm, List.map_cons, List.flatMap_cons, List.cons_append, List.nil_append,
        List.cons.injEq] at h
      exact ⟨c, d, v, rfl, h.1, h.2.1, h.2.2⟩
  · rintro ⟨c, d, v, rfl, hc, hd, hv⟩
    simp only [HexForm, List.map_cons, List.flatMap_cons, List.cons_append, List.nil_append, hc, hd] at hv ⊢
    rw [hv]

theorem HexForm.length : ∀ {m u : Octstr}, HexForm m u → u.length = 2 * m.length
  | [], u, h => by simp [HexForm.nil_iff.mp h]
  | o :: m, u, h => by
    obtain ⟨c, d, v, rfl, -, -, hv⟩ := HexForm.cons_iff.mp h
    have := HexForm.length hv
    simp only [List.length_cons]
    omega

/-- A hexadecimal digit is a decimal one if its value is. -/
theorem digitValue_ten {n : ℕ} (h : digitValue 16 c = some n) :
    digitValue 10 c = if n < 10 then some n else none := by
  have hall : ∀ k < 256, ∀ n ∈ digitValue 16 (UInt8.ofNat k),
      digitValue 10 (UInt8.ofNat k) = if n < 10 then some n else none := by decide +kernel
  have hc := hall c.toNat (UInt8.toNat_lt c) n
  rw [UInt8.ofNat_toNat] at hc
  exact hc h

/-- `atoi` of two hexadecimal digits: reading stops at a letter. -/
theorem atoi_hexPair {hi lo : ℕ} (hc : digitValue 16 c = some hi) (hd : digitValue 16 d = some lo) :
    atoi [c, d] = ((if hi < 10 then (if lo < 10 then hi * 10 + lo else hi) else 0 : ℕ) : ℤ) := by
  obtain ⟨hspace, hminus, hplus, -⟩ := digitValue_eq_some le_rfl hc
  have hnumber : leadingNumber 10 0 [c, d] =
      if hi < 10 then (if lo < 10 then hi * 10 + lo else hi) else 0 := by
    simp only [leadingNumber, digitValue_ten hc, digitValue_ten hd]
    split_ifs <;> simp
  have hsmall : leadingNumber 10 0 [c, d] < 100 := by
    rw [hnumber]
    split_ifs <;> omega
  rw [atoi, strtoll_cons hspace hminus hplus (fun h => absurd h (by decide)), min_eq_right (by omega),
    Int.bmod_eq_of_le (by omega) (by omega), hnumber]

/-- **The octets that survive**: their two digits mean the same in decimal. -/
theorem atoi_hexPair_eq_iff (hc : digitValue 16 c = some (o.toNat / 16))
    (hd : digitValue 16 d = some (o.toNat % 16)) :
    (atoi [c, d] % 256).toNat.toUInt8 = o ↔ o < 10 := by
  rw [atoi_hexPair hc hd, ← UInt8.toNat_inj, UInt8.lt_iff_toNat_lt]
  have ho := UInt8.toNat_lt o
  generalize hv : (if o.toNat / 16 < 10 then
    (if o.toNat % 16 < 10 then o.toNat / 16 * 10 + o.toNat % 16 else o.toNat / 16 : ℕ) else 0) = v
  have hlt : v < 100 := by
    rw [← hv]
    split_ifs <;> omega
  have hcast : ((v : ℤ) % 256).toNat.toUInt8.toNat = v := by
    simp
    omega
  rw [hcast, ← hv]
  change _ ↔ o.toNat < 10
  split_ifs <;> omega

/-- The digits of the octet at a position. -/
theorem HexForm.pair : ∀ {m u : Octstr} {i : ℕ}, HexForm m u → m[i]? = some o →
    ∃ c d, (u.drop (2 * i)).take 2 = [c, d] ∧ digitValue 16 c = some (o.toNat / 16) ∧
      digitValue 16 d = some (o.toNat % 16)
  | o' :: m, u, 0, h, hi => by
    obtain ⟨c, d, v, rfl, hc, hd, -⟩ := HexForm.cons_iff.mp h
    obtain rfl : o' = o := Option.some.inj hi
    exact ⟨c, d, rfl, hc, hd⟩
  | o' :: m, u, i + 1, h, hi => by
    obtain ⟨c, d, v, rfl, -, -, hv⟩ := HexForm.cons_iff.mp h
    obtain ⟨c', d', hpair, hc', hd'⟩ := HexForm.pair hv hi
    exact ⟨c', d', by rw [← hpair, Nat.mul_succ]; rfl, hc', hd'⟩

/-- **A header of six octets comes back if all its octets are below ten.** -/
theorem udhOctets_eq_iff (h : HexForm m u) (hlen : m.length = 6) :
    udhOctets u = m ↔ ∀ o ∈ m, o < 10 := by
  have hoctet : ∀ i (hi : i < m.length),
      (atoi ((u.drop (2 * i)).take 2) % 256).toNat.toUInt8 = m[i] ↔ m[i] < 10 := by
    intro i hi
    obtain ⟨c, d, hpair, hc, hd⟩ := h.pair (List.getElem?_eq_getElem hi)
    rw [hpair]
    exact atoi_hexPair_eq_iff hc hd
  have hext : udhOctets u = m ↔ ∀ i (hi : i < m.length),
      (atoi ((u.drop (2 * i)).take 2) % 256).toNat.toUInt8 = m[i] := by
    rw [udhOctets, List.ext_getElem_iff]
    simp only [List.length_map, List.length_range, hlen, List.getElem_map, List.getElem_range, true_and]
    exact ⟨fun hall i hi => hall i hi hi, fun hall i hi _ => hall i hi⟩
  rw [hext, List.forall_mem_iff_getElem]
  exact forall_congr' fun i => forall_congr' fun hi => hoctet i hi

/-- A text in hexadecimal has no terminator in it. -/
theorem HexForm.zero_notMem : ∀ {m u : Octstr}, HexForm m u → 0 ∉ u
  | [], u, h => by simp [HexForm.nil_iff.mp h]
  | o :: m, u, h => by
    obtain ⟨c, d, v, rfl, hc, hd, hv⟩ := HexForm.cons_iff.mp h
    have hzero : digitValue 16 0 = none := by decide
    simp only [List.mem_cons, not_or]
    refine ⟨?_, ?_, hv.zero_notMem⟩
    · rintro rfl
      exact Option.some_ne_none _ (hc.symm.trans hzero)
    · rintro rfl
      exact Option.some_ne_none _ (hd.symm.trans hzero)

theorem HexForm.cstr_eq (h : HexForm m u) : cstr u = u := cstr_eq_self_iff.mpr h.zero_notMem

end Hex

/-! ## The way of a message

A message goes through three conversions, on which only `Faithful` is asked.  The header and the rest are
followed apart, since the header alone is read as decimal digits and the rest alone is cut at a `NUL`; put
together again they are the message exactly if both came through. -/

/-- The message begins with a user data header: its first octet counts the octets behind it. -/
def HasHeader (message : Octstr) : Prop := message ≠ [] ∧ udhl message ≤ message.length

/-- What is known of the conversions: `octstr_binary_to_hex` and `octstr_hex_to_binary` are inverse to
each other, and the two functions that split a message give its header in hexadecimal and the rest — in
hexadecimal too, where the message was. -/
structure Faithful (lib : SubmitLib) (text : TextLib) : Prop where
  toHex : ∀ m, HexForm m (lib.octstrBinaryToHex m)
  toBinary : ∀ {m u}, HexForm m u → text.octstrHexToBinary u = m
  ascii : ∀ {m}, HasHeader m → ∃ u, HexForm (m.take (udhl m)) u ∧
    text.binaryMsgToAscii m = (u, m.drop (udhl m))
  hindi : ∀ {m v}, HasHeader m → HexForm m v → ∃ u w, HexForm (m.take (udhl m)) u ∧
    HexForm (m.drop (udhl m)) w ∧ text.binaryMsgToAsciiHindi v = (u, w)

section Content

variable (lib : SubmitLib) (text : TextLib) (cfg : ServerCfg) (now : Moment) (later : Octstr) (e : Esme)
  (ip : Octstr) (resp : SubmitSmResp) (pdu : SubmitSm)

/-- The row of `process_table` for a submit whose number is not listed. -/
def dndRow : ProcessRow :=
  checkerInsert false (dlrSmppEsmeAdd text (smppEsmeMsg lib cfg now e ip resp pdu))

/-- **The message comes through**: `msg_process` reads no pair of digits that is not there, and sends
the octets that were submitted. -/
def ContentKept : Prop :=
  ((dndRow lib text cfg now e ip resp pdu).udh = [] ∨
    12 ≤ (dndRow lib text cfg now e ip resp pdu).udh.length) ∧
  some (dndSubmit text later (dndRow lib text cfg now e ip resp pdu)).content = pdu.shortMessage

/-- **Nothing is lost**: a header has six octets, all below ten, and a content that does not travel in
hexadecimal has no `NUL`. -/
def Transparent (message : Octstr) : Prop :=
  if pdu.esmClass.toNat.testBit 6 then
    udhl message = 6 ∧ (∀ o ∈ message.take 6, o < 10) ∧
      (pdu.dataCoding ≠ 0 ∨ 0 ∉ message.drop 6)
  else pdu.dataCoding ≠ 0 ∨ 0 ∉ message

instance (message : Octstr) : Decidable (Transparent pdu message) :=
  have : Decidable (∀ o ∈ message.take 6, o < 10) := List.decidableBAll _ _
  inferInstanceAs (Decidable (ite _ _ _))

end Content

section Kept

variable {lib : SubmitLib} {text : TextLib} {cfg : ServerCfg} {now : Moment} {later : Octstr} {e : Esme}
  {ip : Octstr} {resp : SubmitSmResp} {pdu : SubmitSm} {message : Octstr}

/-- The header of a message, empty if there is none. -/
def headerOf (pdu : SubmitSm) (message : Octstr) : Octstr :=
  if pdu.esmClass.toNat.testBit 6 then message.take (udhl message) else []

/-- The message behind its header. -/
def restOf (pdu : SubmitSm) (message : Octstr) : Octstr :=
  if pdu.esmClass.toNat.testBit 6 then message.drop (udhl message) else message

/-- The content of a row as `msg_process` reads it, without the header. -/
def readContent (text : TextLib) (row : ProcessRow) : Octstr :=
  if row.dataCoding ≠ 0 then text.octstrHexToBinary row.content else row.content

/-- **The row of a message** holds its header in hexadecimal; the rest is whole if it is in hexadecimal
too, and ends at its first `NUL` otherwise. -/
theorem dndRow_spec (cfg : ServerCfg) (now : Moment) (e : Esme) (ip : Octstr) (resp : SubmitSmResp)
    (h : Faithful lib text) (hmsg : pdu.shortMessage = some message)
    (hheader : pdu.esmClass.toNat.testBit 6 = true → HasHeader message) :
    HexForm (headerOf pdu message) (dndRow lib text cfg now e ip resp pdu).udh ∧
      readContent text (dndRow lib text cfg now e ip resp pdu) =
        if pdu.dataCoding ≠ 0 then restOf pdu message else cstr (restOf pdu message) := by
  have hhex := h.toHex message
  cases hudh : pdu.esmClass.toNat.testBit 6 with
  | false =>
    by_cases hcoding : pdu.dataCoding = 0
    · simp [headerOf, restOf, readContent, dndRow, checkerInsert, dlrSmppEsmeAdd, smppEsmeMsg, hudh,
        hcoding, hmsg, octstrGetCstr, HexForm.nil_iff]
    · simp [headerOf, restOf, readContent, dndRow, checkerInsert, dlrSmppEsmeAdd, smppEsmeMsg, hudh,
        hcoding, hmsg, octstrGetCstr, HexForm.nil_iff, hhex.cstr_eq, h.toBinary hhex]
  | true =>
    by_cases hcoding : pdu.dataCoding = 0
    · obtain ⟨u, hu, hsplit⟩ := h.ascii (hheader hudh)
      simp [headerOf, restOf, readContent, dndRow, checkerInsert, dlrSmppEsmeAdd, smppEsmeMsg, hudh,
        hcoding, hmsg, octstrGetCstr, hsplit, hu]
    · obtain ⟨u, w, hu, hw, hsplit⟩ := h.hindi (hheader hudh) hhex
      simp [headerOf, restOf, readContent, dndRow, checkerInsert, dlrSmppEsmeAdd, smppEsmeMsg, hudh,
        hcoding, hmsg, octstrGetCstr, hsplit, hu, hw.cstr_eq, h.toBinary hw]

/-- The rest comes through whole. -/
theorem rest_eq_iff {rest : Octstr} : (if pdu.dataCoding ≠ 0 then rest else cstr rest) = rest ↔
    pdu.dataCoding ≠ 0 ∨ 0 ∉ rest := by
  by_cases hcoding : pdu.dataCoding = 0
  · simp [hcoding, cstr_eq_self_iff]
  · simp [hcoding]

theorem length_kept_le {rest : Octstr} :
    (if pdu.dataCoding ≠ 0 then rest else cstr rest).length ≤ rest.length := by
  split
  · exact le_rfl
  · exact (List.takeWhile_sublist _).length_le

theorem length_udhOctets (udh : Octstr) : (udhOctets udh).length = 6 := by
  rw [udhOctets, List.length_map, List.length_range]

/-- Six octets and a rest that may be cut make up the message only if its header has six octets. -/
theorem six_append_eq_iff {six header kept rest : Octstr} (hsix : six.length = 6)
    (hheader : 6 ≤ header.length) (hkept : kept.length ≤ rest.length) :
    six ++ kept = header ++ rest ↔ header.length = 6 ∧ six = header ∧ kept = rest := by
  constructor
  · intro h
    have hlen := congrArg List.length h
    simp only [List.length_append] at hlen
    have hsix' : header.length = 6 := by omega
    obtain ⟨hl, hr⟩ := List.append_inj h (hsix.trans hsix'.symm)
    exact ⟨hsix', hl, hr⟩
  · rintro ⟨-, rfl, rfl⟩
    rfl

/-- **Exactly these messages come through the DND checker**: those without header whose content is in
hexadecimal or without `NUL`, and those with a header of six octets below ten and such a rest. -/
theorem contentKept_iff (h : Faithful lib text) (hmsg : pdu.shortMessage = some message)
    (hheader : pdu.esmClass.toNat.testBit 6 = true → HasHeader message) :
    ContentKept lib text cfg now later e ip resp pdu ↔ Transparent pdu message := by
  obtain ⟨hudh, hread⟩ := dndRow_spec cfg now e ip resp h hmsg hheader
  have hlen := hudh.length
  have hcontent : (dndSubmit text later (dndRow lib text cfg now e ip resp pdu)).content =
      if (dndRow lib text cfg now e ip resp pdu).udh ≠ [] then
        udhOctets (dndRow lib text cfg now e ip resp pdu).udh ++
          readContent text (dndRow lib text cfg now e ip resp pdu)
      else readContent text (dndRow lib text cfg now e ip resp pdu) := rfl
  rw [ContentKept, hcontent, hread, hmsg, Option.some.injEq, Transparent]
  cases hbit : pdu.esmClass.toNat.testBit 6 with
  | false =>
    have hnil : (dndRow lib text cfg now e ip resp pdu).udh = [] := by
      rw [headerOf, hbit] at hudh
      exact HexForm.nil_iff.mp hudh
    have hrest : restOf pdu message = message := by rw [restOf, hbit]; rfl
    rw [hnil, hrest]
    simp only [ne_eq, not_true_eq_false, if_false, true_or, true_and, Bool.false_eq_true]
    exact rest_eq_iff
  | true =>
    obtain ⟨hne, hle⟩ := hheader hbit
    have hhead : headerOf pdu message = message.take (udhl message) := by rw [headerOf, hbit]; rfl
    have hrest : restOf pdu message = message.drop (udhl message) := by rw [restOf, hbit]; rfl
    rw [hhead] at hudh hlen
    rw [hrest]
    have hpos : 0 < udhl message := by
      cases message with
      | nil => exact absurd rfl hne
      | cons c m => exact Nat.succ_pos _
    rw [List.length_take, min_eq_left hle] at hlen
    have hudhne : (dndRow lib text cfg now e ip resp pdu).udh ≠ [] := by
      intro hnil
      rw [hnil, List.length_nil] at hlen
      omega
    have htake : (message.take (udhl message)).length = udhl message := by
      rw [List.length_take, min_eq_left hle]
    have hsplit : message.take (udhl message) ++ message.drop (udhl message) = message :=
      List.take_append_drop ..
    rw [if_pos hudhne, if_pos rfl, or_iff_right hudhne, hlen]
    constructor
    · rintro ⟨htwelve, heq⟩
      obtain ⟨hsix, hhead, hkept⟩ := (six_append_eq_iff (length_udhOctets _) (by omega) length_kept_le).mp
        (heq.trans hsplit.symm)
      have hudhl : udhl message = 6 := htake.symm.trans hsix
      have hbelow := (udhOctets_eq_iff hudh hsix).mp hhead
      rw [hudhl] at hkept hbelow
      exact ⟨hudhl, hbelow, rest_eq_iff.mp hkept⟩
    · rintro ⟨hudhl, hbelow, hrest⟩
      rw [hudhl] at htake hudh hsplit ⊢
      rw [rest_eq_iff.mpr hrest, (udhOctets_eq_iff hudh htake).mpr hbelow]
      exact ⟨le_rfl, hsplit⟩

end Kept

/-! ## Samples -/

/-- A hexadecimal digit, in upper case. -/
def hexDigit (n : ℕ) : UInt8 := if n < 10 then (48 + n).toUInt8 else (55 + n).toUInt8

/-- The octets in hexadecimal. -/
def binaryToHex (m : Octstr) : Octstr := m.flatMap fun o => [hexDigit (o.toNat / 16), hexDigit (o.toNat % 16)]

/-- The octets that pairs of digits stand for. -/
def hexToBinary : Octstr → Octstr
  | c :: d :: u => ((digitValue 16 c).getD 0 * 16 + (digitValue 16 d).getD 0).toUInt8 :: hexToBinary u
  | _ => []

theorem digitValue_hexDigit : ∀ n < 16, digitValue 16 (hexDigit n) = some n := by decide

theorem hexForm_binaryToHex : ∀ m, HexForm m (binaryToHex m)
  | [] => rfl
  | o :: m => by
    have ho := UInt8.toNat_lt o
    exact HexForm.cons_iff.mpr ⟨_, _, _, rfl, digitValue_hexDigit _ (by omega),
      digitValue_hexDigit _ (by omega), hexForm_binaryToHex m⟩

theorem hexToBinary_of_hexForm : ∀ {m u : Octstr}, HexForm m u → hexToBinary u = m
  | [], u, h => by
    rw [HexForm.nil_iff.mp h]
    rfl
  | o :: m, u, h => by
    obtain ⟨c, d, v, rfl, hc, hd, hv⟩ := HexForm.cons_iff.mp h
    have hoctet : o.toNat / 16 * 16 + o.toNat % 16 = o.toNat := Nat.div_add_mod' ..
    rw [hexToBinary, hc, hd, Option.getD_some, Option.getD_some, hoctet, hexToBinary_of_hexForm hv]
    exact congrArg (· :: m) (UInt8.ofNat_toNat)

/-- A text in hexadecimal is split where the octets are. -/
theorem HexForm.split : ∀ {m u : Octstr} (k : ℕ), HexForm m u →
    HexForm (m.take k) (u.take (2 * k)) ∧ HexForm (m.drop k) (u.drop (2 * k))
  | m, u, 0, h => by simpa [HexForm.nil_iff] using h
  | [], u, k + 1, h => by simp [HexForm.nil_iff.mp h, HexForm.nil_iff]
  | o :: m, u, k + 1, h => by
    obtain ⟨c, d, v, rfl, hc, hd, hv⟩ := HexForm.cons_iff.mp h
    obtain ⟨htake, hdrop⟩ := HexForm.split k hv
    exact ⟨HexForm.cons_iff.mpr ⟨c, d, v.take (2 * k), rfl, hc, hd, htake⟩, hdrop⟩

/-- The sample library, with hexadecimal contents. -/
def sampleHexLib : SubmitLib := { sampleSubmitLib with octstrBinaryToHex := binaryToHex }

/-- Contents are split behind the header that their first octet announces. -/
def sampleHexTextLib : TextLib where
  octstrHexToBinary := hexToBinary
  binaryMsgToAscii m := (binaryToHex (m.take (udhl m)), m.drop (udhl m))
  binaryMsgToAsciiHindi u := (u.take (2 * udhl (hexToBinary u)), u.drop (2 * udhl (hexToBinary u)))
  smppPduPack _ := some (octstrImm "deliver_sm")

theorem faithful_sampleHexLib : Faithful sampleHexLib sampleHexTextLib where
  toHex := hexForm_binaryToHex
  toBinary := hexToBinary_of_hexForm
  ascii _ := ⟨_, hexForm_binaryToHex _, rfl⟩
  hindi {m v} _ hv := by
    have hsplit := hv.split (udhl m)
    refine ⟨_, _, hsplit.1, hsplit.2, ?_⟩
    simp only [sampleHexTextLib, hexToBinary_of_hexForm hv]

/-- A part of a long message; the reference number stands in the fourth octet of its header. -/
def samplePart (reference : UInt8) : SubmitSm :=
  { sampleSubmitSm "9876543210" with
    esmClass := 0x40
    shortMessage := some ([5, 0, 3, reference, 2, 1] ++ octstrImm "hello") }

theorem contentKept_samplePart :
    ContentKept sampleHexLib sampleHexTextLib ⟨1, -1⟩ ⟨1700000000, 10, []⟩ [] sampleEsme [] ⟨1, 0, []⟩
      (samplePart 7) :=
  (contentKept_iff faithful_sampleHexLib rfl fun _ => ⟨by simp, by decide⟩).mpr (by decide)

/-- The reference number `10` is sent on as `0`. -/
theorem not_contentKept :
    ¬ ∀ (lib : SubmitLib) (text : TextLib), Faithful lib text → ∀ (pdu : SubmitSm) (message : Octstr),
      pdu.shortMessage = some message → (pdu.esmClass.toNat.testBit 6 = true → HasHeader message) →
      ContentKept lib text ⟨1, -1⟩ ⟨1700000000, 10, []⟩ [] sampleEsme [] ⟨1, 0, []⟩ pdu := by
  intro h
  have hkept := h _ _ faithful_sampleHexLib (samplePart 10) _ rfl fun _ => ⟨by simp, by decide⟩
  exact absurd hkept.2 (by decide)

end SmppServer.SmppDbbox
