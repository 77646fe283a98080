import Mathlib.Tactic.IntervalCases
import Mathlib.Tactic.NormNum
import SmppServer.Dbbox.Receipt
import SmppServer.Smsc.Conn
import SmppServer.Smsc.MsgId

/-!
# Smsc/DeliverSm — the report of a message and its id

An SMSC answers a submit with its message id, and reports later, in a `deliver_sm` with that id, what
became of the message.  Both ids are normalised as `msg-id-type` prescribes before they are used.

* `msgIds_agree` — the ids of a response and of a report agree if the SMSC writes them as prescribed.
* `msgIds_differ_iff` — two ids stay apart **exactly** below the largest `long long`.
-/

namespace SmppServer.SmppSmsc

open Machinery SmppDbbox

/-! ## The report -/

/-- The fields of a `deliver_sm` that are read. -/
structure DeliverSm where
  smLength : ℤ
  shortMessage : Option Octstr
  messagePayload : Option Octstr := none
  sourceAddr : Option Octstr
  destinationAddr : Option Octstr
  receiptedMessageId : Option Octstr := none
  deriving DecidableEq, Repr

/-- Library code: the fields of the text of a report by their number, and the packing of a
`deliver_sm`. -/
structure ReceiptLib where
  timesOctstrGetManyAlphanumeric : Option Octstr → ℕ → Octstr
  timesOctstrGetManyChars : Option Octstr → ℕ → Octstr
  smppPduPack : DeliverSm → Option Octstr

section Report

variable (lib : Gwlib) (receipts : ReceiptLib) (deliverSmSource : ℤ)

/-- `get_smscid`: the id and the status in the text of a report. -/
def getSmscid (sm : Option Octstr) : Octstr × ℤ :=
  let stat := receipts.timesOctstrGetManyChars sm 6
  (receipts.timesOctstrGetManyAlphanumeric sm 1,
    if stat = octstrImm "DELIVRD" then 1
    else if stat = octstrImm "EXPIRED" then 2
    else if stat = octstrImm "DELETED" then 3
    else if stat = octstrImm "UNDELIV" then 4
    else if stat = octstrImm "ACCEPTD" then 5
    else if stat = octstrImm "UNKNOWN" then 6
    else if stat = octstrImm "REJECTD" then 7
    else 10)

/-- `handle_deliver_sm_msgid`: the id of a report, normalised by the second bit of `msg-id-type`. -/
def handleDeliverSmMsgid (smppMsgIdType : ℤ) (msgid : Octstr) : Octstr :=
  if smppMsgIdType = -1 then msgid
  else if smppMsgIdType.toNat.testBit 1 ∨ msgid.all gwIsdigit = false then formatLu (strtoll 16 msgid)
  else formatLu (strtoll 10 msgid)

/-- The text that holds the id. -/
def DeliverSm.text (pdu : DeliverSm) : Option Octstr :=
  if pdu.smLength = 0 ∧ pdu.messagePayload.isSome then pdu.messagePayload else pdu.shortMessage

/-- The id that a report names. -/
def DeliverSm.named (smppMsgIdType : ℤ) (pdu : DeliverSm) : Octstr :=
  handleDeliverSmMsgid smppMsgIdType (getSmscid receipts pdu.text).1

/-- The destination: the last ten digits of a number. -/
def DeliverSm.destAddr (pdu : DeliverSm) : Option Octstr :=
  let newDestAddr :=
    if deliverSmSource = 1 ∧ pdu.sourceAddr.isSome then pdu.sourceAddr
    else if deliverSmSource = 0 ∧ pdu.destinationAddr.isSome then pdu.destinationAddr
    else none
  newDestAddr.map fun addr =>
    if 9 < addr.length ∧ lib.octstrIsnum addr = true then addr.drop (addr.length - 10) else addr

/-- `handle_pdu` on a `deliver_sm`: the message for the database process. -/
def handleDeliverSm (conn : SmscConn) (pdu : DeliverSm) : InsertStatus :=
  let smscmsgid := pdu.named receipts conn.data.smppMsgIdType
  { smscId := some conn.id
    smscMsgId := some smscmsgid
    destAddr := pdu.destAddr lib deliverSmSource
    deliverStatus := (getSmscid receipts pdu.text).2
    pdu := receipts.smppPduPack { pdu with receiptedMessageId := some smscmsgid } }

end Report

/-- The base that `msg-id-type` prescribes with one of its bits. -/
def msgIdBase (smppMsgIdType : ℤ) (bit : ℕ) : ℕ := if smppMsgIdType.toNat.testBit bit then 16 else 10

/-- The id kept from a response, if the SMSC writes it as prescribed. -/
theorem submitSmRespMsgId_of_writes {smppMsgIdType : ℤ} {n : ℕ} {id : Octstr} (htype : 0 ≤ smppMsgIdType)
    (h : Writes (msgIdBase smppMsgIdType 0) n id) :
    submitSmRespMsgId smppMsgIdType (some id) = some (some (formatLu (min (2 ^ 63 - 1) n))) := by
  have hne : smppMsgIdType ≠ -1 := by omega
  unfold msgIdBase at h
  by_cases hbit : smppMsgIdType.toNat.testBit 0
  · rw [if_pos hbit] at h
    rw [submitSmRespMsgId, if_neg hne, if_pos hbit, Option.getD_some, strtoll_of_writes le_rfl h]
  · rw [if_neg hbit] at h
    rw [submitSmRespMsgId, if_neg hne, if_neg hbit, strtoll_of_writes (by norm_num) h]
    exact if_pos (all_gwIsdigit_of_writes h)

/-- The id read from a report, if the SMSC writes it as prescribed. -/
theorem handleDeliverSmMsgid_of_writes {smppMsgIdType : ℤ} {n : ℕ} {id : Octstr}
    (htype : 0 ≤ smppMsgIdType) (h : Writes (msgIdBase smppMsgIdType 1) n id) :
    handleDeliverSmMsgid smppMsgIdType id = formatLu (min (2 ^ 63 - 1) n) := by
  have hne : smppMsgIdType ≠ -1 := by omega
  unfold msgIdBase at h
  by_cases hbit : smppMsgIdType.toNat.testBit 1
  · rw [if_pos hbit] at h
    rw [handleDeliverSmMsgid, if_neg hne, if_pos (.inl hbit), strtoll_of_writes le_rfl h]
  · rw [if_neg hbit] at h
    have hdigits := all_gwIsdigit_of_writes h
    rw [handleDeliverSmMsgid, if_neg hne, if_neg (by simp [hbit, hdigits]),
      strtoll_of_writes (by norm_num) h]

/-- **The ids of response and report agree**, for every `msg-id-type` and every number that the SMSC
writes in the two bases the type prescribes; numbers beyond a `long long` are clamped in both. -/
theorem msgIds_agree {smppMsgIdType : ℤ} {n : ℕ} {response report : Octstr}
    (htype : 0 ≤ smppMsgIdType ∧ smppMsgIdType ≤ 3)
    (hresponse : Writes (msgIdBase smppMsgIdType 0) n response)
    (hreport : Writes (msgIdBase smppMsgIdType 1) n report) :
    submitSmRespMsgId smppMsgIdType (some response) =
      some (some (handleDeliverSmMsgid smppMsgIdType report)) := by
  rw [submitSmRespMsgId_of_writes htype.1 hresponse, handleDeliverSmMsgid_of_writes htype.1 hreport]

/-- A number that looks decimal in hexadecimal, with a zero before it: `0x10` and `16`. -/
theorem msgIds_agree_sixteen :
    submitSmRespMsgId 1 (some (octstrImm "010")) =
      some (some (handleDeliverSmMsgid 1 (octstrImm "16"))) :=
  msgIds_agree (n := 16) (by decide) ⟨by decide, [0, 1, 0], by decide, by decide⟩
    ⟨by decide, [1, 6], by decide, by decide⟩

/-- **Ids stay apart**: of two different numbers in hexadecimal, the keys that are kept from the responses
differ, and the keys made of the reports, exactly if one of them is below the largest `long long`; all
from there on have one key. -/
theorem msgIds_differ_iff {smppMsgIdType : ℤ} {n m : ℕ} {id id' : Octstr}
    (htype : 0 ≤ smppMsgIdType ∧ smppMsgIdType ≤ 3) (hid : Writes 16 n id) (hid' : Writes 16 m id')
    (hne : n ≠ m) :
    (smppMsgIdType.toNat.testBit 0 = true →
          submitSmRespMsgId smppMsgIdType (some id) ≠ submitSmRespMsgId smppMsgIdType (some id')) ∧
        (smppMsgIdType.toNat.testBit 1 = true →
          handleDeliverSmMsgid smppMsgIdType id ≠ handleDeliverSmMsgid smppMsgIdType id') ↔
      smppMsgIdType = 0 ∨ n < 2 ^ 63 - 1 ∨ m < 2 ^ 63 - 1 := by
  have hbase : ∀ {bit : ℕ}, smppMsgIdType.toNat.testBit bit = true → msgIdBase smppMsgIdType bit = 16 :=
    fun hbit => if_pos hbit
  have hkey : formatLu (min (2 ^ 63 - 1) n) = formatLu (min (2 ^ 63 - 1) m) ↔
      ¬ (n < 2 ^ 63 - 1 ∨ m < 2 ^ 63 - 1) := by
    rw [formatLu, formatLu, decimal_injective.eq_iff]
    omega
  have hresp : smppMsgIdType.toNat.testBit 0 = true →
      (submitSmRespMsgId smppMsgIdType (some id) ≠ submitSmRespMsgId smppMsgIdType (some id') ↔
        n < 2 ^ 63 - 1 ∨ m < 2 ^ 63 - 1) := by
    intro hbit
    rw [submitSmRespMsgId_of_writes htype.1 (hbase hbit ▸ hid),
      submitSmRespMsgId_of_writes htype.1 (hbase hbit ▸ hid'), Ne, Option.some_inj, Option.some_inj, hkey,
      not_not]
  have hreport : smppMsgIdType.toNat.testBit 1 = true →
      (handleDeliverSmMsgid smppMsgIdType id ≠ handleDeliverSmMsgid smppMsgIdType id' ↔
        n < 2 ^ 63 - 1 ∨ m < 2 ^ 63 - 1) := by
    intro hbit
    rw [handleDeliverSmMsgid_of_writes htype.1 (hbase hbit ▸ hid),
      handleDeliverSmMsgid_of_writes htype.1 (hbase hbit ▸ hid'), Ne, hkey, not_not]
  have hzero : smppMsgIdType = 0 ↔
      smppMsgIdType.toNat.testBit 0 = false ∧ smppMsgIdType.toNat.testBit 1 = false := by
    obtain ⟨hlow, hhigh⟩ := htype
    interval_cases smppMsgIdType <;> decide
  rw [imp_congr_right hresp, imp_congr_right hreport, hzero]
  cases smppMsgIdType.toNat.testBit 0 <;> cases smppMsgIdType.toNat.testBit 1 <;> simp

/-- Ids of thirty-two bits. -/
theorem msgIds_differ_sample :
    submitSmRespMsgId 3 (some (octstrImm "1A2B")) ≠ submitSmRespMsgId 3 (some (octstrImm "1a2c")) ∧
      handleDeliverSmMsgid 3 (octstrImm "1A2B") ≠ handleDeliverSmMsgid 3 (octstrImm "1a2c") := by
  have hid : Writes 16 0x1A2B (octstrImm "1A2B") := ⟨by decide, [1, 10, 2, 11], by decide, by decide⟩
  have hid' : Writes 16 0x1A2C (octstrImm "1a2c") := ⟨by decide, [1, 10, 2, 12], by decide, by decide⟩
  have hdiffer := (msgIds_differ_iff (by decide : 0 ≤ (3 : ℤ) ∧ (3 : ℤ) ≤ 3) hid hid' (by decide)).mpr
    (.inr (.inl (by decide)))
  exact ⟨hdiffer.1 (by decide), hdiffer.2 (by decide)⟩

/-- Two random ids of sixty-four bits with the top bit set. -/
theorem not_msgIds_differ :
    ¬ ∀ (smppMsgIdType : ℤ) (n m : ℕ) (id id' : Octstr), 0 ≤ smppMsgIdType ∧ smppMsgIdType ≤ 3 →
      Writes 16 n id → Writes 16 m id' → id.length ≤ 16 ∧ id'.length ≤ 16 → n ≠ m →
      smppMsgIdType.toNat.testBit 0 = true →
        submitSmRespMsgId smppMsgIdType (some id) ≠ submitSmRespMsgId smppMsgIdType (some id') := by
  intro h
  refine h 1 0xF000000000000001 0x8000000000000002 (octstrImm "F000000000000001")
    (octstrImm "8000000000000002") (by decide) ?_ ?_ (by decide) (by decide) (by decide) ?_
  · exact ⟨by decide, [15, 0, 0, 0, 0, 0, 0, 0, 0, 0, 0, 0, 0, 0, 0, 1], by decide, by decide⟩
  · exact ⟨by decide, [8, 0, 0, 0, 0, 0, 0, 0, 0, 0, 0, 0, 0, 0, 0, 2], by decide, by decide⟩
  · decide

end SmppServer.SmppSmsc
