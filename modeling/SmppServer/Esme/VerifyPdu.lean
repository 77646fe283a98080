import SmppServer.Esme.Submit

/-!
# Esme/VerifyPdu — the checks on a `submit_sm`

`verify_pdu_para` looks at the two addresses, at the sender, and at the flags of a `submit_sm`; the
first check that fails gives the status of the response.  A sender that the account has not used
before is looked up with a web service, and remembered.

* `verifyPduPara_esme` — the account is changed in its senders only.
* `verifyPduPara_reason_mem` — the statuses that it returns.
-/

namespace SmppServer.SmppEsme

/-- What the checks rely on: the longest addresses, the patterns of senders, and the web service that
knows the senders of an account. -/
structure VerifyEnv where
  smppMaxSourceAddrLen : ℕ
  smppMaxDestAddrLen : ℕ
  patternListMatchesIp : Option Octstr → Octstr → Bool
  checkSenderApi : Option Octstr → Octstr → Bool

/-- `octstr_check_range`: the octets of a range that lie in the string meet the filter. -/
def octstrCheckRange (s : Octstr) (pos len : ℕ) (filter : UInt8 → Bool) : Bool :=
  ((s.drop pos).take len).all filter

/-- `convert_addr_from_pdu`: `1` for a bad type of number, `2` for a bad numbering plan, `3` for a bad
address. -/
def convertAddrFromPdu (addr : Option Octstr) (ton npi : ℤ) : ℤ :=
  match addr with
  | none => 1
  | some addr =>
    if 6 < ton ∨ ton < 0 then 1
    else if npi ∉ [0, 1, 3, 4, 6, 8, 9, 10, 14] then 2
    -- international: at least seven octets, digits with or without a `+` in front
    else if ton = 1 then
      if addr.length < 7 then 3
      else if addr[0]? = some 43 ∧ octstrCheckRange addr 1 256 gwIsdigit = false then 3
      else if addr[0]? ≠ some 43 ∧ octstrCheckRange addr 0 256 gwIsdigit = false then 3
      else 0
    -- national
    else if ton = 2 then (if addr.length < 10 then 3 else 0)
    -- alphanumeric
    else if ton = 5 then (if 11 < addr.length then 3 else 0)
    else 0

/-- The number without trunk or country code, by the length of the address. -/
def localNumber (addr : Octstr) : Octstr :=
  if addr.length = 11 then addr.drop 1
  else if addr.length = 12 then addr.drop 2
  else if addr.length = 13 then addr.drop 3
  else addr

/-- The length that a user data header claims, its own octet included; an empty message claims none. -/
def udhl (shortMessage : Octstr) : ℕ :=
  match shortMessage with
  | [] => 0
  | c :: _ => c.toNat + 1

/-- The checks behind the sender's. -/
def verifyFlags (pdu : SubmitSm) (destAddr : Octstr) : ℤ :=
  if destAddr.length < 10 then 0x401
  else if pdu.priorityFlag < 0 ∨ 3 < pdu.priorityFlag then 0x06
  else if 0 < pdu.replaceIfPresentFlag then 0x42
  else if pdu.esmClass.toNat.testBit 6 ∧
      (pdu.shortMessage.getD []).length < udhl (pdu.shortMessage.getD []) then 0x403
  else 0

/-- The status for an address that `convert_addr_from_pdu` refuses. -/
def addrStatus (ret ton npi addr : ℤ) : Option ℤ :=
  if ret = 1 then some ton else if ret = 2 then some npi else if ret = 3 then some addr else none

/-- The sender is one that the account has used, or one that the web service knows. -/
def verifySender (env : VerifyEnv) (esme : Esme) (pdu : SubmitSm) (source destAddr : Octstr) : Verified :=
  if env.patternListMatchesIp esme.allowedPrefix source then
    ⟨verifyFlags pdu destAddr, destAddr, source, esme⟩
  else if env.checkSenderApi esme.systemId source then
    ⟨verifyFlags pdu destAddr, destAddr, source, { esme with allowedPrefix := source }⟩
  else ⟨0x401, destAddr, source, esme⟩

/-- The status for a bad address, the source first. -/
def addrReason (env : VerifyEnv) (pdu : SubmitSm) (source : Octstr) : Option Octstr → Except ℤ Octstr
  | none => .error 0x0B
  | some dest =>
    if env.smppMaxDestAddrLen < dest.length then .error 0x0B
    else
      match addrStatus (convertAddrFromPdu source pdu.sourceAddrTon pdu.sourceAddrNpi) 0x48 0x49 0x0A with
      | some reason => .error reason
      | none =>
        match addrStatus (convertAddrFromPdu dest pdu.destAddrTon pdu.destAddrNpi) 0x50 0x51 0x0B with
        | some reason => .error reason
        | none => .ok dest

/-- **`verify_pdu_para`.** -/
def verifyPduPara (env : VerifyEnv) (esme : Esme) (pdu : SubmitSm) : Verified :=
  match pdu.sourceAddr with
  | none => ⟨0x0A, none, none, esme⟩
  | some source =>
    if env.smppMaxSourceAddrLen < source.length then ⟨0x0A, none, none, esme⟩
    else
      match addrReason env pdu source pdu.destinationAddr with
      | .error reason => ⟨reason, none, none, esme⟩
      | .ok dest => verifySender env esme pdu source (localNumber dest)

theorem verifySender_esme (env : VerifyEnv) (esme : Esme) (pdu : SubmitSm) (source destAddr : Octstr) :
    ∃ allowedPrefix, (verifySender env esme pdu source destAddr).esme =
      { esme with allowedPrefix := allowedPrefix } := by
  rw [verifySender]
  split
  · exact ⟨esme.allowedPrefix, rfl⟩
  · split
    · exact ⟨some source, rfl⟩
    · exact ⟨esme.allowedPrefix, rfl⟩

/-- **The account is changed in its senders only.** -/
theorem verifyPduPara_esme (env : VerifyEnv) (esme : Esme) (pdu : SubmitSm) :
    ∃ allowedPrefix, (verifyPduPara env esme pdu).esme = { esme with allowedPrefix := allowedPrefix } := by
  rw [verifyPduPara]
  split
  · exact ⟨esme.allowedPrefix, rfl⟩
  · split
    · exact ⟨esme.allowedPrefix, rfl⟩
    · split
      · exact ⟨esme.allowedPrefix, rfl⟩
      · exact verifySender_esme env esme pdu _ _

/-! ## The statuses

All that can be returned, from the order of the checks. -/

theorem addrStatus_mem {ret a b c status : ℤ} (h : addrStatus ret a b c = some status) :
    status ∈ [a, b, c] := by
  unfold addrStatus at h
  split_ifs at h <;> obtain rfl := Option.some.inj h <;> simp

/-- The statuses of a bad address. -/
theorem addrReason_mem {env : VerifyEnv} {pdu : SubmitSm} {source : Octstr} {dest : Option Octstr} {reason : ℤ}
    (h : addrReason env pdu source dest = .error reason) :
    reason ∈ [0x0A, 0x0B, 0x48, 0x49, 0x50, (0x51 : ℤ)] := by
  unfold addrReason at h
  split at h
  · obtain rfl := Except.error.inj h
    simp
  · split at h
    · obtain rfl := Except.error.inj h
      simp
    · split at h
      · rename_i hstatus
        obtain rfl := Except.error.inj h
        have hmem := addrStatus_mem hstatus
        simp only [List.mem_cons, List.not_mem_nil, or_false] at hmem ⊢
        omega
      · split at h
        · rename_i hstatus
          obtain rfl := Except.error.inj h
          have hmem := addrStatus_mem hstatus
          simp only [List.mem_cons, List.not_mem_nil, or_false] at hmem ⊢
          omega
        · exact absurd h (by simp)

theorem verifyFlags_mem (pdu : SubmitSm) (destAddr : Octstr) :
    verifyFlags pdu destAddr ∈ [0, 0x06, 0x42, 0x401, (0x403 : ℤ)] := by
  unfold verifyFlags
  split_ifs <;> simp

theorem verifySender_reason_mem (env : VerifyEnv) (esme : Esme) (pdu : SubmitSm) (source destAddr : Octstr) :
    (verifySender env esme pdu source destAddr).reason ∈ [0, 0x06, 0x42, 0x401, (0x403 : ℤ)] := by
  unfold verifySender
  split_ifs
  · exact verifyFlags_mem pdu destAddr
  · exact verifyFlags_mem pdu destAddr
  · simp

/-- **The statuses that `verify_pdu_para` returns.** -/
theorem verifyPduPara_reason_mem (env : VerifyEnv) (esme : Esme) (pdu : SubmitSm) :
    (verifyPduPara env esme pdu).reason ∈
      [0, 0x06, 0x0A, 0x0B, 0x42, 0x48, 0x49, 0x50, 0x51, 0x401, (0x403 : ℤ)] := by
  unfold verifyPduPara
  split
  · simp
  · split
    · simp
    · split
      · rename_i hreason
        have hmem := addrReason_mem hreason
        simp only [List.mem_cons, List.not_mem_nil, or_false] at hmem ⊢
        omega
      · rename_i source _ _ _ dest _
        have hmem := verifySender_reason_mem env esme pdu source (localNumber dest)
        simp only [List.mem_cons, List.not_mem_nil, or_false] at hmem ⊢
        omega

end SmppServer.SmppEsme
