import SmppServer.Esme.Accounting
import SmppServer.Machinery.Shell

/-!
# Esme/SenderApi — asking the web service about a sender

`check_sender_api` pastes the names of the account and of the sender into a URL in double quotes, and
runs `curl` on it in a shell.  Nothing looks at what the sender consists of before: an alphanumeric
address is checked for its length only.

* `verifyPduPara_of_senderChecked` — the checks on a `submit_sm` ask about the sender of the PDU only.
* `senderKept_iff` — the command fetches that URL exactly if both names mean themselves in quotes.
-/

namespace SmppServer.SmppEsme

open Machinery Machinery.Shell

/-! ## The code

The URL is built into a buffer and the command into another; names that are too long overrun one of them. -/

/-- The URL for an account and a sender. -/
def senderUrl (account sourceAddr : Octstr) : Octstr :=
  octstrImm "http://192.168.1.27:8081/fonadaSmpp/admin/sndridsts?userid=" ++
    (account ++ (octstrImm "&senderid=" ++ sourceAddr))

/-- The command that `check_sender_api` passes to `popen`; `none` if it overruns its buffer. -/
def senderCommand (account : Option Octstr) (sourceAddr : Octstr) : Option Octstr :=
  let url := octstrImm "curl -s \"" ++
    (senderUrl (cstr (octstrGetCstr account)) (cstr sourceAddr) ++ octstrImm "\"")
  if url.length < 1035 then some url else none

/-- `check_sender_api`, where `popen` gives the last line that a command puts out. -/
def checkSenderApi (popen : Octstr → Octstr) (account : Option Octstr) (sourceAddr : Octstr) :
    Option Bool :=
  (senderCommand account sourceAddr).map fun command => popen command = octstrImm "True"

/-- The sender with which `verify_pdu_para` calls `check_sender_api`, if it does. -/
def senderChecked (env : VerifyEnv) (esme : Esme) (pdu : SubmitSm) : Option Octstr :=
  match pdu.sourceAddr with
  | none => none
  | some source =>
    if env.smppMaxSourceAddrLen < source.length then none
    else
      match addrReason env pdu source pdu.destinationAddr with
      | .error _ => none
      | .ok _ => if env.patternListMatchesIp esme.allowedPrefix source then none else some source

/-! ## Which sender is asked about

The web service is asked late: behind the checks of both addresses, and only for a sender that the list in force
does not match. -/

section Verify

variable {env : VerifyEnv} {esme : Esme} {pdu : SubmitSm} {source : Octstr}

/-- A PDU with good addresses is asked about unless the account knows the sender; any other is refused. -/
theorem verifyPduPara_cases (env : VerifyEnv) (esme : Esme) (pdu : SubmitSm) :
    (∃ reason, senderChecked env esme pdu = none ∧
      ∀ check, verifyPduPara { env with checkSenderApi := check } esme pdu =
        ⟨reason, none, none, esme⟩) ∨
    ∃ source dest, pdu.sourceAddr = some source ∧
      senderChecked env esme pdu =
        (if env.patternListMatchesIp esme.allowedPrefix source then none else some source) ∧
      ∀ check, verifyPduPara { env with checkSenderApi := check } esme pdu =
        verifySender { env with checkSenderApi := check } esme pdu source dest := by
  unfold senderChecked verifyPduPara
  cases pdu.sourceAddr with
  | none => exact .inl ⟨0x0A, rfl, fun _ => rfl⟩
  | some source =>
    by_cases hlen : env.smppMaxSourceAddrLen < source.length
    · exact .inl ⟨0x0A, by simp [hlen], fun _ => by simp [hlen]⟩
    · simp only [hlen, if_false]
      cases hreason : addrReason env pdu source pdu.destinationAddr with
      | error reason =>
        exact .inl ⟨reason, rfl, fun check => by
          rw [show addrReason { env with checkSenderApi := check } = addrReason env from rfl, hreason]⟩
      | ok dest =>
        exact .inr ⟨source, localNumber dest, rfl, rfl, fun check => by
          rw [show addrReason { env with checkSenderApi := check } = addrReason env from rfl, hreason]⟩

/-- **The web service is asked about the sender of the PDU**: the answer decides whether the PDU is
refused, or the sender is remembered. -/
theorem verifyPduPara_of_senderChecked (h : senderChecked env esme pdu = some source) :
    pdu.sourceAddr = some source ∧ ∃ dest : Octstr, verifyPduPara env esme pdu =
      if env.checkSenderApi esme.systemId source then
        ⟨verifyFlags pdu dest, dest, source, { esme with allowedPrefix := source }⟩
      else ⟨0x401, dest, source, esme⟩ := by
  obtain ⟨reason, hnone, -⟩ | ⟨source', dest, hsource, hchecked, hverify⟩ :=
    verifyPduPara_cases env esme pdu
  · simp [hnone] at h
  · rw [hchecked] at h
    split_ifs at h with hmatch
    obtain rfl : source' = source := Option.some.inj h
    exact ⟨hsource, dest, (hverify env.checkSenderApi).trans (by simp [verifySender, hmatch])⟩

/-- So the status depends on what the command of that sender puts out. -/
theorem verifyPduPara_of_senderCommand {popen : Octstr → Octstr} {command : Octstr}
    (hcheck : ∀ account source, checkSenderApi popen account source =
      (senderCommand account source).map fun _ => env.checkSenderApi account source)
    (h : senderChecked env esme pdu = some source)
    (hcommand : senderCommand esme.systemId source = some command) :
    ∃ dest : Octstr, verifyPduPara env esme pdu =
      if popen command = octstrImm "True" then
        ⟨verifyFlags pdu dest, dest, source, { esme with allowedPrefix := source }⟩
      else ⟨0x401, dest, source, esme⟩ := by
  obtain ⟨-, dest, hverify⟩ := verifyPduPara_of_senderChecked h
  have hanswer : decide (popen command = octstrImm "True") =
      env.checkSenderApi esme.systemId source := by
    simpa [checkSenderApi, hcommand] using hcheck esme.systemId source
  exact ⟨dest, by simpa [← hanswer] using hverify⟩

end Verify

/-! ## The command

What the shell makes of text in double quotes is in `Machinery/Shell`.  The URL is inert there exactly if both
names are. -/

section Command

variable {account sourceAddr : Octstr}

theorem zero_notMem_of_length_cstr (h : (cstr account).length = account.length) : 0 ∉ account :=
  cstr_eq_self_iff.mp ((List.takeWhile_sublist _).eq_of_length h)

/-- Names with a terminator make another URL. -/
theorem senderUrl_cstr : senderUrl (cstr account) (cstr sourceAddr) = senderUrl account sourceAddr ↔
    0 ∉ account ∧ 0 ∉ sourceAddr := by
  constructor
  · intro h
    have hlen := congrArg List.length h
    simp only [senderUrl, List.length_append] at hlen
    have hacc := length_cstr_le account
    have hsrc := length_cstr_le sourceAddr
    exact ⟨zero_notMem_of_length_cstr (by omega), zero_notMem_of_length_cstr (by omega)⟩
  · rintro ⟨hacc, hsrc⟩
    rw [cstr_eq_self_iff.mpr hacc, cstr_eq_self_iff.mpr hsrc]

/-- The URL means itself in quotes if both names do. -/
theorem inert_senderUrl :
    Inert 34 (senderUrl account sourceAddr) ↔ Inert 38 account ∧ Inert 34 sourceAddr := by
  have hbase : ∀ next, Inert next
      (octstrImm "http://192.168.1.27:8081/fonadaSmpp/admin/sndridsts?userid=") := fun next =>
    inert_of_forall_ne (by simp [octstrImm])
  have hmid : ∀ next, Inert next (octstrImm "&senderid=") := fun next =>
    inert_of_forall_ne (by simp [octstrImm])
  have hhead : (octstrImm "&senderid=" ++ sourceAddr).headD 34 = 38 := rfl
  rw [senderUrl, inert_append, inert_append, hhead, inert_append]
  simp [hbase, hmid]

/-- The command, if it fits. -/
theorem senderCommand_eq_some {name : Option Octstr} {command : Octstr} :
    senderCommand name sourceAddr = some command ↔
      (senderUrl (cstr (octstrGetCstr name)) (cstr sourceAddr)).length + 10 < 1035 ∧
        octstrImm "curl -s \"" ++
          (senderUrl (cstr (octstrGetCstr name)) (cstr sourceAddr) ++ octstrImm "\"") = command := by
  have hlen : ∀ url : Octstr,
      (octstrImm "curl -s \"" ++ (url ++ octstrImm "\"")).length = url.length + 10 := fun url => by
    simp [octstrImm]
  simp only [senderCommand, hlen]
  split_ifs with h
  · simp [h]
  · simp [h]

/-- What the shell makes of the command. -/
theorem words_senderCommand : words (octstrImm "curl -s \"" ++
      (senderUrl (cstr account) (cstr sourceAddr) ++ octstrImm "\"")) =
      some [octstrImm "curl", octstrImm "-s", senderUrl account sourceAddr] ↔
    (Inert 38 account ∧ Inert 34 sourceAddr) ∧ 0 ∉ account ∧ 0 ∉ sourceAddr := by
  have hopen : run {} (octstrImm "curl -s \"") =
      some (inQuotes [octstrImm "curl", octstrImm "-s"] []) := by decide
  have hlen : (senderUrl (cstr account) (cstr sourceAddr)).length ≤
      (senderUrl account sourceAddr).length := by
    have hacc := length_cstr_le account
    have hsrc := length_cstr_le sourceAddr
    simp only [senderUrl, List.length_append]
    omega
  have hwords := words_quoted_iff hopen hlen
  rw [senderUrl_cstr] at hwords
  refine hwords.trans ⟨fun ⟨hinert, hnul⟩ => ?_, fun ⟨hinert, hnul⟩ => ?_⟩
  · rw [senderUrl_cstr.mpr hnul, inert_senderUrl] at hinert
    exact ⟨hinert, hnul⟩
  · rw [senderUrl_cstr.mpr hnul, inert_senderUrl]
    exact ⟨hinert, hnul⟩

end Command

/-- The shell reads each command that is run for the PDU as `curl`, `-s` and the URL with the names of
the account and the sender in it. -/
def SenderKept (env : VerifyEnv) (esme : Esme) (pdu : SubmitSm) : Prop :=
  ∀ source ∈ senderChecked env esme pdu, ∃ command,
    senderCommand esme.systemId source = some command ∧
      words command = some [octstrImm "curl", octstrImm "-s",
        senderUrl (octstrGetCstr esme.systemId) source]

/-- **When the sender is no injection.**  For every account and every PDU, whatever the settings: the
shell reads the command as meant if and only if the sender, if it is asked about, and the account's name
have no terminator, no `"`, no `$`, no backquote and no backslash in front of an octet that it would
keep — the closing quote included — and the command fits into its buffer. -/
theorem senderKept_iff (env : VerifyEnv) (esme : Esme) (pdu : SubmitSm) :
    SenderKept env esme pdu ↔ ∀ source ∈ senderChecked env esme pdu,
      (Inert 38 (octstrGetCstr esme.systemId) ∧ Inert 34 source) ∧
        (0 ∉ octstrGetCstr esme.systemId ∧ 0 ∉ source) ∧
        (senderUrl (octstrGetCstr esme.systemId) source).length + 10 < 1035 := by
  refine forall₂_congr fun source _ => ?_
  constructor
  · rintro ⟨command, hcommand, hwords⟩
    obtain ⟨hfits, rfl⟩ := senderCommand_eq_some.mp hcommand
    obtain ⟨hinert, hnul⟩ := words_senderCommand.mp hwords
    rw [senderUrl_cstr.mpr hnul] at hfits
    exact ⟨hinert, hnul, hfits⟩
  · rintro ⟨hinert, hnul, hfits⟩
    rw [← senderUrl_cstr.mpr hnul] at hfits
    exact ⟨_, senderCommand_eq_some.mpr ⟨hfits, rfl⟩, words_senderCommand.mpr ⟨hinert, hnul⟩⟩

/-- An alphanumeric sender with a command in it. -/
def sampleInjection : SubmitSm where
  sequenceNumber := 2
  sourceAddr := some (octstrImm "$(reboot)")
  sourceAddrTon := 5
  destinationAddr := some (octstrImm "919876543210")
  shortMessage := some (octstrImm "hello")

/-- The account that a transmitter has bound. -/
def sampleBoundEsme : Esme :=
  addSession sampleEnv samplePdu (tempconnCreate 0 (octstrImm "10.0.0.1") 4000 2775 1) 1
    (newEsme sampleEnv samplePdu sampleClient)

/-- The shell runs the command before it fetches the URL. -/
theorem not_senderKept :
    ¬ ∀ (env : VerifyEnv) (esme : Esme) (pdu : SubmitSm), SenderKept env esme pdu := by
  intro h
  have hchecked : senderChecked sampleSubmitEnv.toVerifyEnv sampleBoundEsme sampleInjection =
      some (octstrImm "$(reboot)") := by decide
  obtain ⟨command, hcommand, hwords⟩ :=
    h sampleSubmitEnv.toVerifyEnv sampleBoundEsme sampleInjection (octstrImm "$(reboot)") hchecked
  obtain ⟨-, rfl⟩ := senderCommand_eq_some.mp hcommand
  exact absurd (words_senderCommand.mp hwords).1.2 (by decide)

end SmppServer.SmppEsme
