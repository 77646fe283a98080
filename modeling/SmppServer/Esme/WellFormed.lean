import SmppServer.Esme.Accounting

/-!
# Esme/WellFormed — what an accepted `submit_sm` looks like

`verify_pdu_para` accepts a PDU whose addresses, flags and header pass their checks and whose sender is
known.  The first octet of the message, plus one, is the length that a user data header claims; for an
empty message `octstr_get_char` gives `-1`, so the claimed length is zero and the check of it passes.

* `verifyPduPara_reason_eq_zero_iff` — the status is zero **exactly** if all that is checked holds.
* `wellFormed_iff` — an accepted PDU is well formed except one with the header flag and an empty message.
-/

namespace SmppServer.SmppEsme

/-! ## Well-formed PDUs

What the checks are for: addresses of the form that their type of number and numbering plan ask, flags in their
range, and a header that is there if it is announced. -/

/-- An octet string of digits. -/
def AllDigits (s : Octstr) : Prop := ∀ c ∈ s, gwIsdigit c = true

/-- An address is well formed for its type of number and numbering plan. -/
structure WellFormedAddr (addr : Octstr) (ton npi : ℤ) : Prop where
  typeOfNumber : 0 ≤ ton ∧ ton ≤ 6
  plan : npi ∈ ([0, 1, 3, 4, 6, 8, 9, 10, 14] : List ℤ)
  international : ton = 1 →
    7 ≤ addr.length ∧ (AllDigits addr ∨ ∃ digits, addr = 43 :: digits ∧ AllDigits digits)
  national : ton = 2 → 10 ≤ addr.length
  alphanumeric : ton = 5 → addr.length ≤ 11

/-- **The submit is well formed**, and `*dest_addr` is the number behind the prefix. -/
structure WellFormedSubmit (env : VerifyEnv) (pdu : SubmitSm) (destAddr : Option Octstr) : Prop where
  source : ∃ source, pdu.sourceAddr = some source ∧ source.length ≤ env.smppMaxSourceAddrLen ∧
    WellFormedAddr source pdu.sourceAddrTon pdu.sourceAddrNpi
  dest : ∃ dest number, pdu.destinationAddr = some dest ∧ dest.length ≤ env.smppMaxDestAddrLen ∧
    WellFormedAddr dest pdu.destAddrTon pdu.destAddrNpi ∧
    destAddr = some number ∧ number <:+ dest ∧ 10 ≤ number.length ∧
    (10 ≤ dest.length → dest.length ≤ 13 → number.length = 10)
  priority : 0 ≤ pdu.priorityFlag ∧ pdu.priorityFlag ≤ 3
  replace : pdu.replaceIfPresentFlag = 0
  udh : pdu.esmClass.toNat.testBit 6 →
    ∃ u message, pdu.shortMessage = some (u :: message) ∧ u.toNat + 1 ≤ (u :: message).length

/-! ## The range of the fields

Digits are checked in a range of 256 octets, which addresses of the protocol do not leave. -/

/-- The addresses of the protocol fit into the range that is checked for digits. -/
structure VerifyEnv.ShortAddrs (env : VerifyEnv) : Prop where
  source : env.smppMaxSourceAddrLen ≤ 256
  dest : env.smppMaxDestAddrLen ≤ 256

/-- The flag is read from one octet of the PDU. -/
def SubmitSm.Unpacked (pdu : SubmitSm) : Prop := 0 ≤ pdu.replaceIfPresentFlag

/-! ## The checks

Each check, as the property that it decides.  All of them together are well-formedness, but for a header that is
announced in an empty message: `octstr_get_char` gives `-1` there, and the length that is compared is zero. -/

section Checks

variable {env : VerifyEnv} {esme : Esme} {pdu : SubmitSm} {addr source dest : Octstr} {ton npi : ℤ}

/-- The range covers an address that is short enough. -/
theorem octstrCheckRange_iff {pos : ℕ} (h : addr.length ≤ pos + 256) :
    octstrCheckRange addr pos 256 gwIsdigit = true ↔ AllDigits (addr.drop pos) := by
  rw [octstrCheckRange, List.take_of_length_le (by rw [List.length_drop]; omega), List.all_eq_true]
  exact Iff.rfl

theorem drop_one_of_getElem? {c : UInt8} (h : addr[0]? = some c) : addr = c :: addr.drop 1 := by
  cases addr with
  | nil => simp at h
  | cons d addr =>
    obtain rfl : d = c := Option.some.inj h
    rfl

/-- The two checks for digits. -/
theorem digits_iff (hlen : addr.length ≤ 256) :
    ¬ (addr[0]? = some 43 ∧ octstrCheckRange addr 1 256 gwIsdigit = false) ∧
      ¬ (addr[0]? ≠ some 43 ∧ octstrCheckRange addr 0 256 gwIsdigit = false) ↔
    AllDigits addr ∨ ∃ digits, addr = 43 :: digits ∧ AllDigits digits := by
  have hzero : octstrCheckRange addr 0 256 gwIsdigit = true ↔ AllDigits (addr.drop 0) :=
    octstrCheckRange_iff (by omega)
  have hone : octstrCheckRange addr 1 256 gwIsdigit = true ↔ AllDigits (addr.drop 1) :=
    octstrCheckRange_iff (by omega)
  rw [List.drop_zero] at hzero
  simp only [not_and, Bool.not_eq_false, hzero, hone]
  constructor
  · rintro ⟨hplus, hnone⟩
    by_cases h : addr[0]? = some 43
    · exact .inr ⟨_, drop_one_of_getElem? h, hplus h⟩
    · exact .inl (hnone h)
  · rintro (hall | ⟨digits, rfl, hall⟩)
    · refine ⟨fun h => ?_, fun _ => hall⟩
      have hmem : (43 : UInt8) ∈ addr := List.mem_of_getElem? h
      exact absurd (hall 43 hmem) (by decide)
    · exact ⟨fun _ => hall, fun h => absurd rfl h⟩

/-- **An address passes its checks exactly if it is well formed.** -/
theorem convertAddrFromPdu_eq_zero_iff (hlen : addr.length ≤ 256) :
    convertAddrFromPdu (some addr) ton npi = 0 ↔ WellFormedAddr addr ton npi := by
  have hparts : WellFormedAddr addr ton npi ↔ (0 ≤ ton ∧ ton ≤ 6) ∧
      npi ∈ ([0, 1, 3, 4, 6, 8, 9, 10, 14] : List ℤ) ∧
      (ton = 1 → 7 ≤ addr.length ∧
        (AllDigits addr ∨ ∃ digits, addr = 43 :: digits ∧ AllDigits digits)) ∧
      (ton = 2 → 10 ≤ addr.length) ∧ (ton = 5 → addr.length ≤ 11) :=
    ⟨fun h => ⟨h.typeOfNumber, h.plan, h.international, h.national, h.alphanumeric⟩,
      fun ⟨h1, h2, h3, h4, h5⟩ => ⟨h1, h2, h3, h4, h5⟩⟩
  rw [hparts, ← digits_iff hlen, convertAddrFromPdu]
  by_cases hton : 6 < ton ∨ ton < 0
  · rw [if_pos hton]
    exact ⟨fun h => absurd h (by decide), fun ⟨h, _⟩ => by omega⟩
  rw [if_neg hton]
  by_cases hnpi : npi ∈ ([0, 1, 3, 4, 6, 8, 9, 10, 14] : List ℤ)
  swap
  · rw [if_pos hnpi]
    exact ⟨fun h => absurd h (by decide), fun ⟨_, h, _⟩ => absurd h hnpi⟩
  rw [if_neg (not_not.mpr hnpi)]
  have hrange : 0 ≤ ton ∧ ton ≤ 6 := by omega
  simp only [hrange, hnpi, true_and, and_self]
  by_cases h1 : ton = 1
  · subst h1
    simp only [if_true, forall_true_left]
    split_ifs with hshort hplus hnone
    · simp [hshort]
    · simp [hplus]
    · simp [hnone]
    · exact ⟨fun _ => ⟨⟨Nat.le_of_not_lt hshort, hplus, hnone⟩, fun h => absurd h (by decide),
        fun h => absurd h (by decide)⟩, fun _ => rfl⟩
  rw [if_neg h1]
  by_cases h2 : ton = 2
  · subst h2
    split_ifs <;> simp <;> omega
  rw [if_neg h2]
  by_cases h5 : ton = 5
  · subst h5
    split_ifs <;> simp <;> omega
  · simp [h1, h2, h5]

/-- The number is what is left of the address. -/
theorem localNumber_suffix (addr : Octstr) : localNumber addr <:+ addr := by
  rw [localNumber]
  split_ifs
  · exact List.drop_suffix 1 addr
  · exact List.drop_suffix 2 addr
  · exact List.drop_suffix 3 addr
  · exact List.suffix_refl addr

theorem length_localNumber (h10 : 10 ≤ addr.length) (h13 : addr.length ≤ 13) :
    (localNumber addr).length = 10 := by
  rw [localNumber]
  split_ifs
  · rw [List.length_drop]
    omega
  · rw [List.length_drop]
    omega
  · rw [List.length_drop]
    omega
  · omega

/-- The last checks. -/
theorem verifyFlags_eq_zero_iff {number : Octstr} : verifyFlags pdu number = 0 ↔
    10 ≤ number.length ∧ (0 ≤ pdu.priorityFlag ∧ pdu.priorityFlag ≤ 3) ∧
      pdu.replaceIfPresentFlag ≤ 0 ∧
      (pdu.esmClass.toNat.testBit 6 →
        udhl (pdu.shortMessage.getD []) ≤ (pdu.shortMessage.getD []).length) := by
  rw [verifyFlags]
  split_ifs with hlen hprio hreplace hudh
  · simp [hlen]
  · exact ⟨fun h => absurd h (by decide), fun ⟨_, h, _⟩ => by omega⟩
  · exact ⟨fun h => absurd h (by decide), fun ⟨_, _, h, _⟩ => by omega⟩
  · exact ⟨fun h => absurd h (by decide), fun ⟨_, _, _, h⟩ => by have := h hudh.1; omega⟩
  · refine ⟨fun _ => ⟨by omega, by omega, by omega, fun hbit => ?_⟩, fun _ => rfl⟩
    exact Nat.le_of_not_lt fun hlt => hudh ⟨hbit, hlt⟩

/-- An address that is refused has one of three values. -/
theorem addrStatus_eq_none {a b c : ℤ} :
    addrStatus (convertAddrFromPdu (some addr) ton npi) a b c = none ↔
      convertAddrFromPdu (some addr) ton npi = 0 := by
  rw [convertAddrFromPdu]
  split_ifs <;> simp [addrStatus]

end Checks

/-- **All that is checked**, except the claim of a header. -/
structure Passes (env : VerifyEnv) (esme : Esme) (pdu : SubmitSm) (source dest : Octstr) : Prop where
  sourceAddr : pdu.sourceAddr = some source
  destinationAddr : pdu.destinationAddr = some dest
  sourceLen : source.length ≤ env.smppMaxSourceAddrLen
  destLen : dest.length ≤ env.smppMaxDestAddrLen
  sourceOk : WellFormedAddr source pdu.sourceAddrTon pdu.sourceAddrNpi
  destOk : WellFormedAddr dest pdu.destAddrTon pdu.destAddrNpi
  sender : env.patternListMatchesIp esme.allowedPrefix source = true ∨
    env.checkSenderApi esme.systemId source = true
  number : 10 ≤ (localNumber dest).length
  priority : 0 ≤ pdu.priorityFlag ∧ pdu.priorityFlag ≤ 3
  replace : pdu.replaceIfPresentFlag ≤ 0

/-- The length that a header claims is there. -/
def HeaderFits (pdu : SubmitSm) : Prop :=
  pdu.esmClass.toNat.testBit 6 →
    udhl (pdu.shortMessage.getD []) ≤ (pdu.shortMessage.getD []).length

/-- A header is announced, and the message is empty. -/
def MissingHeader (pdu : SubmitSm) : Prop :=
  pdu.esmClass.toNat.testBit 6 ∧ pdu.shortMessage.getD [] = []

section Verify

variable {env : VerifyEnv} {esme : Esme} {pdu : SubmitSm}

/-- **When a sender passes**, with the status of the other flags. -/
theorem verifySender_reason_eq_zero_iff {source number : Octstr} :
    (verifySender env esme pdu source number).reason = 0 ↔
      (env.patternListMatchesIp esme.allowedPrefix source = true ∨
        env.checkSenderApi esme.systemId source = true) ∧ verifyFlags pdu number = 0 := by
  rw [verifySender]
  split_ifs with hmatch hapi
  · simp [hmatch]
  · simp [hapi]
  · simp [hmatch, hapi]

theorem verifySender_destAddr {source number : Octstr} :
    (verifySender env esme pdu source number).destAddr = some number := by
  rw [verifySender]
  split_ifs <;> rfl

/-- The destination passes if both addresses are well formed. -/
theorem addrReason_eq_ok {source dest : Octstr} (henv : env.ShortAddrs)
    (hsource : source.length ≤ env.smppMaxSourceAddrLen) :
    addrReason env pdu source pdu.destinationAddr = .ok dest ↔
      pdu.destinationAddr = some dest ∧ dest.length ≤ env.smppMaxDestAddrLen ∧
        WellFormedAddr source pdu.sourceAddrTon pdu.sourceAddrNpi ∧
        WellFormedAddr dest pdu.destAddrTon pdu.destAddrNpi := by
  cases pdu.destinationAddr with
  | none => simp [addrReason]
  | some d =>
    rw [addrReason]
    by_cases hlen : env.smppMaxDestAddrLen < d.length
    · rw [if_pos hlen]
      refine ⟨fun h => absurd h (by simp), fun ⟨hd, hle, _⟩ => ?_⟩
      obtain rfl := Option.some.inj hd
      exact absurd hle (Nat.not_le.mpr hlen)
    rw [if_neg hlen]
    have hs : convertAddrFromPdu (some source) pdu.sourceAddrTon pdu.sourceAddrNpi = 0 ↔
        WellFormedAddr source pdu.sourceAddrTon pdu.sourceAddrNpi :=
      convertAddrFromPdu_eq_zero_iff (hsource.trans henv.source)
    have hd : convertAddrFromPdu (some d) pdu.destAddrTon pdu.destAddrNpi = 0 ↔
        WellFormedAddr d pdu.destAddrTon pdu.destAddrNpi :=
      convertAddrFromPdu_eq_zero_iff ((Nat.not_lt.mp hlen).trans henv.dest)
    rw [← hs, ← addrStatus_eq_none (a := 0x48) (b := 0x49) (c := 0x0A)]
    cases hsrc : addrStatus (convertAddrFromPdu (some source) pdu.sourceAddrTon pdu.sourceAddrNpi)
        0x48 0x49 0x0A with
    | some reason => simp
    | none =>
      rw [← addrStatus_eq_none (a := 0x50) (b := 0x51) (c := 0x0B)] at hd
      cases hdst : addrStatus (convertAddrFromPdu (some d) pdu.destAddrTon pdu.destAddrNpi)
          0x50 0x51 0x0B with
      | some reason =>
        refine ⟨fun h => absurd h (by simp), fun ⟨heq, _, _, hok⟩ => ?_⟩
        obtain rfl := Option.some.inj heq
        simp [hdst] at hd
        exact absurd hok hd
      | none =>
        have hok := hd.mp hdst
        constructor
        · intro h
          obtain rfl : d = dest := Except.ok.inj h
          exact ⟨rfl, Nat.not_lt.mp hlen, rfl, hok⟩
        · rintro ⟨heq, -, -, -⟩
          exact congrArg Except.ok (Option.some.inj heq)

/-- A refusal of an address is no success. -/
theorem addrReason_ne_error_zero {source : Octstr} :
    addrReason env pdu source pdu.destinationAddr ≠ .error 0 := by
  intro h
  exact absurd (addrReason_mem h) (by decide)

/-- A PDU that passes goes on to the check of its sender. -/
theorem Passes.verifyPduPara_eq {source dest : Octstr} (h : Passes env esme pdu source dest)
    (henv : env.ShortAddrs) :
    verifyPduPara env esme pdu = verifySender env esme pdu source (localNumber dest) := by
  have hreason := (addrReason_eq_ok henv h.sourceLen).mpr ⟨h.destinationAddr, h.destLen, h.sourceOk, h.destOk⟩
  simp only [verifyPduPara, h.sourceAddr, if_neg (Nat.not_lt.mpr h.sourceLen), hreason]

/-- **When the status is zero**: all that is checked holds. -/
theorem verifyPduPara_reason_eq_zero_iff (henv : env.ShortAddrs) :
    (verifyPduPara env esme pdu).reason = 0 ↔
      (∃ source dest, Passes env esme pdu source dest) ∧ HeaderFits pdu := by
  constructor
  · intro h
    rw [verifyPduPara] at h
    split at h
    · exact absurd h (by simp)
    rename_i source hsource
    split at h
    · exact absurd h (by simp)
    rename_i hlen
    split at h
    · rename_i reason hreason
      obtain rfl : reason = 0 := h
      exact absurd hreason addrReason_ne_error_zero
    · rename_i dest hreason
      have hle := Nat.not_lt.mp hlen
      obtain ⟨hdest, hdestLen, hsourceOk, hdestOk⟩ := (addrReason_eq_ok henv hle).mp hreason
      obtain ⟨hsender, hflags⟩ := verifySender_reason_eq_zero_iff.mp h
      obtain ⟨hnumber, hpriority, hreplace, hheader⟩ := verifyFlags_eq_zero_iff.mp hflags
      exact ⟨⟨source, dest, hsource, hdest, hle, hdestLen, hsourceOk, hdestOk, hsender, hnumber, hpriority,
        hreplace⟩, hheader⟩
  · rintro ⟨⟨source, dest, h⟩, hheader⟩
    rw [h.verifyPduPara_eq henv, verifySender_reason_eq_zero_iff, verifyFlags_eq_zero_iff]
    exact ⟨h.sender, h.number, h.priority, h.replace, hheader⟩

/-- The length that a header claims, where there is one. -/
theorem headerFits_iff : HeaderFits pdu ↔ MissingHeader pdu ∨ (pdu.esmClass.toNat.testBit 6 →
    ∃ u message, pdu.shortMessage = some (u :: message) ∧ u.toNat + 1 ≤ (u :: message).length) := by
  by_cases hbit : pdu.esmClass.toNat.testBit 6 = true
  · simp only [HeaderFits, MissingHeader, hbit, forall_true_left, true_and]
    cases hmessage : pdu.shortMessage with
    | none => simp [udhl]
    | some message =>
      cases message with
      | nil => simp [udhl]
      | cons u message => simp [udhl]
  · simp [HeaderFits, hbit]

/-- **Accepted submits are well formed**, except one that announces a header and has no message: for every
account and PDU, an accepted submit is well formed if and only if it is not such a submit that passes
everything else. -/
theorem wellFormed_iff (henv : env.ShortAddrs) (hpdu : pdu.Unpacked) :
    ((verifyPduPara env esme pdu).reason = 0 →
        WellFormedSubmit env pdu (verifyPduPara env esme pdu).destAddr) ↔
      ¬ (MissingHeader pdu ∧ ∃ source dest, Passes env esme pdu source dest) := by
  rw [verifyPduPara_reason_eq_zero_iff henv]
  constructor
  · rintro hall ⟨hmissing, hpasses⟩
    obtain ⟨u, message, hmessage, -⟩ := (hall ⟨hpasses, headerFits_iff.mpr (.inl hmissing)⟩).udh hmissing.1
    have hempty := hmissing.2
    rw [hmessage] at hempty
    exact List.cons_ne_nil u message hempty
  · rintro hnot ⟨⟨source, dest, hpasses⟩, hheader⟩
    have hdest : (verifyPduPara env esme pdu).destAddr = some (localNumber dest) := by
      rw [hpasses.verifyPduPara_eq henv, verifySender_destAddr]
    refine ⟨⟨source, hpasses.sourceAddr, hpasses.sourceLen, hpasses.sourceOk⟩,
      ⟨dest, localNumber dest, hpasses.destinationAddr, hpasses.destLen, hpasses.destOk, hdest,
        localNumber_suffix dest, hpasses.number, length_localNumber⟩, hpasses.priority,
      le_antisymm hpasses.replace hpdu, ?_⟩
    exact (headerFits_iff.mp hheader).resolve_left fun hmissing => hnot ⟨hmissing, source, dest, hpasses⟩

end Verify

/-- A text without a header, and one that announces a header and is empty. -/
def sampleHeaderPdu (esmClass : ℤ) (text : String) : SubmitSm where
  sequenceNumber := 2
  sourceAddr := some (octstrImm "+919812345678")
  sourceAddrTon := 1
  sourceAddrNpi := 1
  destinationAddr := some (octstrImm "919876543210")
  shortMessage := some (octstrImm text)
  esmClass := esmClass

theorem shortAddrs_sampleSubmitEnv : sampleSubmitEnv.toVerifyEnv.ShortAddrs := ⟨by decide, by decide⟩

theorem wellFormed_sampleHeaderPdu :
    WellFormedSubmit sampleSubmitEnv.toVerifyEnv (sampleHeaderPdu 0 "hello")
      (verifyPduPara sampleSubmitEnv.toVerifyEnv (newEsme sampleEnv samplePdu sampleClient)
        (sampleHeaderPdu 0 "hello")).destAddr := by
  have hpdu : (sampleHeaderPdu 0 "hello").Unpacked := le_refl (0 : ℤ)
  exact (wellFormed_iff shortAddrs_sampleSubmitEnv hpdu).mpr (fun h => absurd h.1.1 (by decide)) (by decide)

/-- The empty message is accepted. -/
theorem not_wellFormed : ¬ ∀ (env : VerifyEnv) (esme : Esme) (pdu : SubmitSm), env.ShortAddrs →
    pdu.Unpacked → (verifyPduPara env esme pdu).reason = 0 →
      WellFormedSubmit env pdu (verifyPduPara env esme pdu).destAddr := by
  intro h
  have hpdu : (sampleHeaderPdu 64 "").Unpacked := le_refl (0 : ℤ)
  obtain ⟨u, message, hmessage, -⟩ := (h sampleSubmitEnv.toVerifyEnv
    (newEsme sampleEnv samplePdu sampleClient) (sampleHeaderPdu 64 "") shortAddrs_sampleSubmitEnv hpdu
    (by decide)).udh (by decide)
  exact absurd hmessage (by simp [sampleHeaderPdu, octstrImm])

end SmppServer.SmppEsme
