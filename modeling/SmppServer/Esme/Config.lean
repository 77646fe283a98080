import SmppServer.Esme.Authenticate
import SmppServer.Esme.RoutPdu
import SmppServer.Gwlib.CfgRead

/-!
# Esme/Config — the accounts and the settings of the ESME server's configuration

Every `smpp-client` group of the configuration becomes an account, unless a variable is missing or its mode
is not known; the first group that does not become one ends the program, as does a missing setting of the
`core` group, or a client for one of the other processes that cannot be started.  What `log_open` and
`init_start_client` answer are parameters.

* `createOnetrans_eq_some` — where an account has its texts from.
* `startServer_eq_ok` — the accounts of a server that starts.
* `bind_from_configuration` — who is let in by a server that was started from a file.
-/

namespace SmppServer.SmppEsme

open Machinery

/-- `SMPP_ENQUIRE_LINK_INTERVAL`. -/
def smppEnquireLinkInterval : ℤ := 30

/-- `octstr_split(tmp, ";")`. -/
def splitSemicolon (tmp : Octstr) : List Octstr := linesOf 59 tmp

/-- `rx_log_file`, which is read only where receivers are allowed. -/
def rxLogFileOf (grp : CfgGroup) (rxAllowed : Bool) : Except CfgPanic (Option Octstr) :=
  if rxAllowed then cfgGet grp (octstrImm "rx-log-file") else .ok none

section Code

variable (logOpen : Octstr → ℤ → ℤ)

/-- `create_onetrans`; `none` for a `NULL`.  The integers of the structure that are `int` are converted. -/
def createOnetrans (grp : CfgGroup) : Except CfgPanic (Option SmscClient) := do
  if grp.name ≠ some (octstrImm "smpp-client") then return none
  let mode ← cfgGet grp (octstrImm "mode")
  let accountName ← cfgGet grp (octstrImm "account-name")
  let password ← cfgGet grp (octstrImm "password")
  let validfrom ← cfgGet grp (octstrImm "validfrom")
  let validto ← cfgGet grp (octstrImm "validto")
  let logFile ← cfgGet grp (octstrImm "log-file")
  let allowedPrefix ← cfgGet grp (octstrImm "account-allow-prefix")
  let deniedPrefix ← cfgGet grp (octstrImm "account-deny-prefix")
  let dedicatedSmsc ← cfgGet grp (octstrImm "dedicated-smsc")
  let preferredSmsc ← cfgGet grp (octstrImm "preferred-smsc")
  let logLevel ← cfgGetInteger grp (octstrImm "log-level")
  let enquireLinkInterval ← cfgGetInteger grp (octstrImm "enquire-link-interval")
  let dndsCheck ← cfgGetInteger grp (octstrImm "dnd-check")
  let rxAllowed ← cfgGetBool grp (octstrImm "rx-allowed")
  let maxSubmitsUnconnect ← cfgGetInteger grp (octstrImm "max-submits-unconnect")
  let maxSubmits ← cfgGetInteger grp (octstrImm "max-submits")
  let maxTxSessions ← cfgGetInteger grp (octstrImm "max-tx-sessions")
  let maxRxSessions ← cfgGetInteger grp (octstrImm "max-rx-sessions")
  let maxTps ← cfgGetInteger grp (octstrImm "max-tps")
  let validTimeFrom ← cfgGetInteger grp (octstrImm "valid_time_from")
  let validTimeTo ← cfgGetInteger grp (octstrImm "valid_time_to")
  match accountName, password, mode, validfrom, validto with
  | some accountName, some password, some mode, some validfrom, some validto =>
    let rxLogFile ← rxLogFileOf grp rxAllowed
    let logLevel := logLevel.getD 0
    return (allowedModeOf mode rxAllowed).map fun allowedMode =>
      { accountName, password, validfrom, validto, allowedMode, logFile, rxLogFile, logLevel
        logIdx := (logFile.map (logOpen · logLevel)).getD (-1)
        rxLogIdx := (rxLogFile.map (logOpen · logLevel)).getD (-1)
        allowedPrefix, deniedPrefix, dedicatedSmsc
        preferredSmsc := preferredSmsc.map splitSemicolon
        enquireLinkInterval := enquireLinkInterval.getD smppEnquireLinkInterval
        maxSubmitsUnconnect := maxSubmitsUnconnect.getD (-1)
        maxSubmits := maxSubmits.getD (-1)
        maxTps := maxTps.getD (-1)
        maxTxSessions := maxTxSessions.getD (-1)
        maxRxSessions := maxRxSessions.getD (-1)
        validTimeFrom := toInt (validTimeFrom.getD (-1))
        validTimeTo := toInt (validTimeTo.getD (-1))
        dndsCheck := toInt (dndsCheck.getD 0) }
  | _, _, _, _, _ => return none

/-- The loop of `smpp_client_add_cfg`, which calls `smpp_client_add_one`; `-1` at the first group without an
account. -/
def smppClientAddOnes : List SmscClient → List CfgGroup → Except CfgPanic (ℤ × List SmscClient)
  | ots, [] => .ok (0, ots)
  | ots, grp :: list =>
    (createOnetrans logOpen grp).bind fun
      | none => .ok (-1, ots)
      | some ot => smppClientAddOnes (ots ++ [ot]) list

/-- `smpp_client_add_cfg`. -/
def smppClientAddCfg (cfg : Cfg) : Except CfgPanic (ℤ × List SmscClient) :=
  smppClientAddOnes logOpen [] ((cfg.multiGroups.lookup (octstrImm "smpp-client")).getD [])

end Code

/-! ## Starting the server

Variables are asked for in a fixed order, and the first that is missing ends the process; clients are started in
between, and one that cannot be started ends it too.  The order decides which message is logged. -/

/-- How the start of the server panics; a setting that is missing is named in the text. -/
inductive StartPanic
  | cfg (p : CfgPanic)
  /-- "Couldn't read configuration from `%s'." -/
  | read (filename : Octstr)
  /-- "urltrans_add_cfg failed" -/
  | addCfg
  /-- "Config file verification failed" -/
  | verification
  /-- "Trying to fetch variable `%s' in non-existing group" -/
  | noGroup (varname : Octstr)
  /-- "… is not specified", "… parameter is MANDATORY" -/
  | notSpecified (varname : Octstr)
  /-- "Could not connect to …" -/
  | notConnected (client : Octstr)
  deriving DecidableEq, Repr

/-- What `manage_thread` reads before it accepts connections. -/
structure Settings where
  dbboxHost : Octstr
  dbboxPort : ℤ
  dndcheckFlag : ℤ
  smscHost : Octstr
  smscForwardPort : ℤ
  smscReversePort : ℤ
  transPort : ℤ
  recvPort : ℤ
  transRecvPort : ℤ
  smscQLimit : ℤ
  deriving DecidableEq, Repr

section Start

variable (initStartClient : Octstr → ℤ → Bool) (grp : CfgGroup)

/-- A text that must be there. -/
def needText (varname : Octstr) : Except StartPanic Octstr :=
  match cfgGet grp varname with
  | .error p => .error (.cfg p)
  | .ok none => .error (.notSpecified varname)
  | .ok (some os) => .ok os

/-- An integer that must be there. -/
def needInteger (varname : Octstr) : Except StartPanic ℤ :=
  match cfgGetInteger grp varname with
  | .error p => .error (.cfg p)
  | .ok none => .error (.notSpecified varname)
  | .ok (some n) => .ok n

/-- An integer that need not be there. -/
def integerOr (varname : Octstr) (default : ℤ) : Except StartPanic ℤ :=
  match cfgGetInteger grp varname with
  | .error p => .error (.cfg p)
  | .ok n => .ok (n.getD default)

/-- A client that `init_start_client` must not answer with `NULL`. -/
def needClient (host : Octstr) (port : ℤ) (client : Octstr) : Except StartPanic Unit :=
  if initStartClient host port then .ok () else .error (.notConnected client)

/-- The settings, in the order in which `manage_thread` reads them, and the clients that it starts in between. -/
def readSettings : Except StartPanic Settings := do
  let dbboxHost ← needText grp (octstrImm "dbbox-host")
  let dbboxPort ← needInteger grp (octstrImm "dbbox-port")
  needClient initStartClient dbboxHost dbboxPort (octstrImm "dbbox")
  let dndcheckFlag ← needInteger grp (octstrImm "dndcheck_flag")
  let smscHost ← needText grp (octstrImm "smsc-host")
  let smscForwardPort ← needInteger grp (octstrImm "smsc-forward-port")
  let smscReversePort ← needInteger grp (octstrImm "smsc-reverse-port")
  let smscQLimit ← integerOr grp (octstrImm "smsc-unconnect-q-limit") (-1)
  needClient initStartClient smscHost smscForwardPort (octstrImm "forward client")
  needClient initStartClient smscHost smscReversePort (octstrImm "reverse client")
  let transPort ← needInteger grp (octstrImm "trans-mode-port")
  let recvPort ← needInteger grp (octstrImm "recv-mode-port")
  let transRecvPort ← needInteger grp (octstrImm "transrecv-mode-port")
  return { dbboxHost, dbboxPort, dndcheckFlag, smscHost, smscForwardPort, smscReversePort
           transPort, recvPort, transRecvPort, smscQLimit }

end Start

/-- The start of the server, from what `cfg_read` did: the accounts are read and verified, then the settings
of the core group. -/
def startServer (logOpen : Octstr → ℤ → ℤ) (initStartClient : Octstr → ℤ → Bool) (filename : Octstr) :
    CfgOutcome → Except StartPanic (List SmscClient × Settings)
  | .panicked p => .error (.cfg p)
  | .failed _ _ => .error (.read filename)
  | .read cfg =>
    match cfg.singleGroups.lookup (octstrImm "core"), smppClientAddCfg logOpen cfg with
    -- `manage_log` reads the core group first
    | none, _ => .error (.noGroup (octstrImm "log-file"))
    | some _, .error p => .error (.cfg p)
    | some grp, .ok (ret, translations) =>
      if ret = -1 then .error .addCfg
      else if verifyConfigPara translations = -1 then .error .verification
      else (readSettings initStartClient grp).map fun settings => (translations, settings)

/-! ## The accounts of a server that starts

An account is made of its group alone, and all groups must give one.  What `verify_config_para` then finds out
is in `Esme/RoutPdu`. -/

section Started

variable {logOpen : Octstr → ℤ → ℤ} {initStartClient : Octstr → ℤ → Bool} {grp : CfgGroup}
  {list : List CfgGroup} {ot : SmscClient} {ots ots' : List SmscClient} {cfg : Cfg} {filename name : Octstr}
  {ret : ℤ}

theorem exists_of_bind_eq_ok {α β : Type} {x : Except CfgPanic α} {f : α → Except CfgPanic β} {b : β}
    (h : (x >>= f) = .ok b) : ∃ a, x = .ok a ∧ f a = .ok b := by
  cases x with
  | error => cases h
  | ok a => exact ⟨a, rfl, h⟩

theorem exists_of_map_eq_ok {ε α β : Type} {x : Except ε α} {f : α → β} {b : β} (h : x.map f = .ok b) :
    ∃ a, x = .ok a ∧ f a = b := by
  cases x with
  | error => cases h
  | ok a => exact ⟨a, rfl, Except.ok.inj h⟩

theorem eq_lookup_of_cfgGet_eq_ok {value : Option Octstr} (h : cfgGet grp name = .ok value) :
    value = grp.vars.lookup name := by
  rw [cfgGet] at h
  split at h
  · split at h
    · exact (Except.ok.inj h).symm
    · cases h
  · exact (Except.ok.inj h).symm

/-- The texts of an account are those of its group, and its mode is one. -/
structure AccountOf (grp : CfgGroup) (ot : SmscClient) : Prop where
  accountName : grp.vars.lookup (octstrImm "account-name") = some ot.accountName
  password : grp.vars.lookup (octstrImm "password") = some ot.password
  validfrom : grp.vars.lookup (octstrImm "validfrom") = some ot.validfrom
  validto : grp.vars.lookup (octstrImm "validto") = some ot.validto
  mode : ∃ mode rxAllowed, grp.vars.lookup (octstrImm "mode") = some mode ∧
    allowedModeOf mode rxAllowed = some ot.allowedMode

/-- **Where an account has its texts from.** -/
theorem createOnetrans_eq_some (hgrp : grp.name = some (octstrImm "smpp-client"))
    (h : createOnetrans logOpen grp = .ok (some ot)) : AccountOf grp ot := by
  rw [createOnetrans, if_neg (not_not_intro hgrp)] at h
  obtain ⟨mode, hmode, h⟩ := exists_of_bind_eq_ok h
  obtain ⟨accountName, hname, h⟩ := exists_of_bind_eq_ok h
  obtain ⟨password, hpassword, h⟩ := exists_of_bind_eq_ok h
  obtain ⟨validfrom, hfrom, h⟩ := exists_of_bind_eq_ok h
  obtain ⟨validto, hto, h⟩ := exists_of_bind_eq_ok h
  obtain ⟨logFile, -, h⟩ := exists_of_bind_eq_ok h
  obtain ⟨allowedPrefix, -, h⟩ := exists_of_bind_eq_ok h
  obtain ⟨deniedPrefix, -, h⟩ := exists_of_bind_eq_ok h
  obtain ⟨dedicatedSmsc, -, h⟩ := exists_of_bind_eq_ok h
  obtain ⟨preferredSmsc, -, h⟩ := exists_of_bind_eq_ok h
  obtain ⟨logLevel, -, h⟩ := exists_of_bind_eq_ok h
  obtain ⟨enquireLinkInterval, -, h⟩ := exists_of_bind_eq_ok h
  obtain ⟨dndsCheck, -, h⟩ := exists_of_bind_eq_ok h
  obtain ⟨rxAllowed, -, h⟩ := exists_of_bind_eq_ok h
  obtain ⟨maxSubmitsUnconnect, -, h⟩ := exists_of_bind_eq_ok h
  obtain ⟨maxSubmits, -, h⟩ := exists_of_bind_eq_ok h
  obtain ⟨maxTxSessions, -, h⟩ := exists_of_bind_eq_ok h
  obtain ⟨maxRxSessions, -, h⟩ := exists_of_bind_eq_ok h
  obtain ⟨maxTps, -, h⟩ := exists_of_bind_eq_ok h
  obtain ⟨validTimeFrom, -, h⟩ := exists_of_bind_eq_ok h
  obtain ⟨validTimeTo, -, h⟩ := exists_of_bind_eq_ok h
  split at h
  · obtain ⟨rxLogFile, -, h⟩ := exists_of_bind_eq_ok h
    obtain ⟨allowedMode, hallowed, rfl⟩ := Option.map_eq_some_iff.mp (Except.ok.inj h)
    exact ⟨(eq_lookup_of_cfgGet_eq_ok hname).symm, (eq_lookup_of_cfgGet_eq_ok hpassword).symm,
      (eq_lookup_of_cfgGet_eq_ok hfrom).symm, (eq_lookup_of_cfgGet_eq_ok hto).symm,
      ⟨_, rxAllowed, (eq_lookup_of_cfgGet_eq_ok hmode).symm, hallowed⟩⟩
  · cases h

theorem smppClientAddOnes_ret (h : smppClientAddOnes logOpen ots list = .ok (ret, ots')) : ret = 0 ∨ ret = -1 := by
  induction list generalizing ots with
  | nil => exact .inl (Prod.mk.inj (Except.ok.inj h)).1.symm
  | cons grp list ih =>
    obtain ⟨ot, -, h⟩ := exists_of_bind_eq_ok h
    cases ot with
    | none => exact .inr (Prod.mk.inj (Except.ok.inj h)).1.symm
    | some ot => exact ih h

/-- Without error, every group has become an account. -/
theorem smppClientAddOnes_eq_zero (h : smppClientAddOnes logOpen ots list = .ok (0, ots')) :
    ∃ added, ots' = ots ++ added ∧ List.Forall₂ (fun grp ot => createOnetrans logOpen grp = .ok (some ot)) list added := by
  induction list generalizing ots with
  | nil =>
    obtain ⟨-, rfl⟩ := Prod.mk.inj (Except.ok.inj h)
    exact ⟨[], (List.append_nil ots).symm, .nil⟩
  | cons grp list ih =>
    obtain ⟨ot, hot, h⟩ := exists_of_bind_eq_ok h
    cases ot with
    | none => cases h
    | some ot =>
      obtain ⟨added, rfl, hadded⟩ := ih h
      exact ⟨ot :: added, by simp, .cons hot hadded⟩

/-- The groups of the accounts. -/
def clientGroups (cfg : Cfg) : List CfgGroup := (cfg.multiGroups.lookup (octstrImm "smpp-client")).getD []

/-- **The accounts of a server that starts**: one of each group, with different names, and none that prefers an
SMSC which is dedicated to one. -/
theorem startServer_eq_ok {settings : Settings}
    (h : startServer logOpen initStartClient filename (.read cfg) = .ok (ots, settings)) :
    List.Forall₂ (fun grp ot => createOnetrans logOpen grp = .ok (some ot)) (clientGroups cfg) ots ∧
      verifyConfigPara ots = 0 := by
  rw [startServer] at h
  split at h
  · cases h
  · cases h
  · next ret translations hcore hadd =>
    split at h
    · cases h
    · next hret =>
      split at h
      · cases h
      · next hverify =>
        obtain ⟨_, -, heq⟩ := exists_of_map_eq_ok h
        obtain ⟨rfl, -⟩ := Prod.mk.inj heq
        obtain rfl : ret = 0 := (smppClientAddOnes_ret hadd).resolve_right hret
        obtain ⟨added, rfl, hadded⟩ := smppClientAddOnes_eq_zero hadd
        refine ⟨hadded, ?_⟩
        rw [verifyConfigPara_eq] at hverify ⊢
        exact if_neg fun hshared => hverify (if_pos hshared)

/-- The group of an account. -/
theorem exists_group_of_mem (hall : List.Forall₂ (fun grp ot => createOnetrans logOpen grp = .ok (some ot)) list ots)
    (hot : ot ∈ ots) : ∃ grp ∈ list, createOnetrans logOpen grp = .ok (some ot) := by
  induction hall with
  | nil => cases hot
  | cons hgrp _ ih =>
    obtain rfl | hot := List.mem_cons.mp hot
    · exact ⟨_, List.mem_cons_self, hgrp⟩
    · obtain ⟨grp, hmem, hgrp'⟩ := ih hot
      exact ⟨grp, List.mem_cons_of_mem _ hmem, hgrp'⟩

/-- The names of the groups are those of the accounts. -/
theorem map_account_name (hall : List.Forall₂ (fun grp ot => createOnetrans logOpen grp = .ok (some ot)) list ots)
    (hname : ∀ grp ∈ list, grp.name = some (octstrImm "smpp-client")) :
    list.map (·.vars.lookup (octstrImm "account-name")) = (ots.map (·.accountName)).map some := by
  induction hall with
  | nil => rfl
  | cons hgrp _ ih =>
    obtain ⟨hgroup, hgroups⟩ := List.forall_mem_cons.mp hname
    rw [List.map_cons, List.map_cons, List.map_cons, ih hgroups, (createOnetrans_eq_some hgroup hgrp).accountName]

/-- **Who is let in** by a server that was started from a configuration file: a bind that names an account
of one `smpp-client` group of the file, and no other, and that carries the password of this group or none;
both stand in lines of the file. -/
theorem bind_from_configuration {fs : Octstr → Option Node} {fuel : ℕ} {settings : Settings} {env : AuthEnv}
    {r : Registry} {pdu : BindPdu} {mode : ℤ} {tc : TempConn} {res : AuthResult}
    (hbind : authoriseUser env r pdu mode tc = .ok res) (hret : res.ret = 0)
    (hstart : startServer logOpen initStartClient filename (.read cfg) = .ok (env.translations, settings))
    (hread : cfgRead fs fuel filename = some (.read cfg)) :
    ∃ name password, pdu.systemId = some name ∧ (pdu.password = none ∨ pdu.password = some password) ∧
      (∃! grp, grp ∈ clientGroups cfg ∧ grp.vars.lookup (octstrImm "account-name") = some name) ∧
      (∃ grp ∈ clientGroups cfg, grp.vars.lookup (octstrImm "account-name") = some name ∧
        grp.vars.lookup (octstrImm "password") = some password) ∧
      (∃ loc, LineOf fs loc ∧ Assigns loc.line (octstrImm "account-name") name) ∧
      ∃ loc, LineOf fs loc ∧ Assigns loc.line (octstrImm "password") password := by
  obtain ⟨hall, hverify⟩ := startServer_eq_ok hstart
  have hok : ∀ grp ∈ clientGroups cfg, GroupOk fs (octstrImm "smpp-client") grp := fun grp hgrp =>
    groupOk_of_mem (all_of_cfgRead hread) (List.mem_append_right _ hgrp)
  obtain ⟨t, present, hcheck⟩ := authoriseCheck_of_ret_eq_zero hbind hret
  obtain ⟨hmode, ⟨name, hn, ht⟩, hnone, -, -⟩ := authoriseCheck_accepted hcheck
  have hmem := List.mem_of_find?_eq_some ht
  have hname : name = t.accountName := by simpa using List.find?_some ht
  obtain ⟨grp, hgrp, hcreate⟩ := exists_group_of_mem hall hmem
  obtain ⟨hacc, hpass, -, -, word, rxAllowed, -, hword⟩ := createOnetrans_eq_some (hok grp hgrp).1.name hcreate
  rw [← hname] at hacc
  obtain ⟨hpassword, -⟩ := (accountRefusal_eq_none_iff (allowedModeOf_range hword).2 hmode).mp hnone
  have hnodup := not_not.mp (mt nameShared_iff.mpr (not_shared_of_verifyConfigPara hverify).1)
  have hkeys : ((clientGroups cfg).map (·.vars.lookup (octstrImm "account-name"))).Nodup := by
    rw [map_account_name hall fun grp hgrp => (hok grp hgrp).1.name]
    exact hnodup.map (Option.some_injective _)
  refine ⟨name, t.password, hn, hpassword, ⟨grp, ⟨hgrp, hacc⟩, fun grp' ⟨hgrp', hacc'⟩ => ?_⟩,
    ⟨grp, hgrp, hacc, hpass⟩, (hok grp hgrp).2 _ _ hacc, (hok grp hgrp).2 _ _ hpass⟩
  exact List.inj_on_of_nodup_map hkeys hgrp' hgrp (hacc'.trans hacc.symm)

/-- A configuration with the settings that the server needs, and one client. -/
def sampleConf (file : Octstr) : Option Node :=
  if file = octstrImm "smpp-esme.conf" then
    some (.file (["group = core", "dbbox-host = localhost", "dbbox-port = 20000", "dndcheck_flag = 0",
      "smsc-host = localhost", "smsc-forward-port = 21000", "smsc-reverse-port = 22000", "trans-mode-port = 3000",
      "recv-mode-port = 4000", "transrecv-mode-port = 5000", "", "group = smpp-client", "mode = tx",
      "account-name = acme", "password = \"secret\"", "validfrom = 01/01/2020 00:00:00",
      "validto = 01/01/2030 00:00:00", "max-tx-sessions = 2"].flatMap fun line => octstrImm line ++ [10]))
  else none

theorem bind_from_sampleConf :
    ∃ cfg accounts settings res, cfgRead sampleConf 40 (octstrImm "smpp-esme.conf") = some (.read cfg) ∧
      startServer (fun _ _ => 0) (fun _ _ => true) (octstrImm "smpp-esme.conf") (.read cfg) = .ok (accounts, settings) ∧
      authoriseUser { sampleEnv with translations := accounts } .empty samplePdu 1
        (tempconnCreate 0 (octstrImm "10.0.0.1") 4000 2775 1) = .ok res ∧ res.ret = 0 ∧
      ∃ name password, samplePdu.systemId = some name ∧
        (samplePdu.password = none ∨ samplePdu.password = some password) ∧
        (∃! grp, grp ∈ clientGroups cfg ∧ grp.vars.lookup (octstrImm "account-name") = some name) ∧
        (∃ grp ∈ clientGroups cfg, grp.vars.lookup (octstrImm "account-name") = some name ∧
          grp.vars.lookup (octstrImm "password") = some password) ∧
        (∃ loc, LineOf sampleConf loc ∧ Assigns loc.line (octstrImm "account-name") name) ∧
        ∃ loc, LineOf sampleConf loc ∧ Assigns loc.line (octstrImm "password") password := by
  have hrun : ∃ cfg accounts settings res, cfgRead sampleConf 40 (octstrImm "smpp-esme.conf") = some (.read cfg) ∧
      startServer (fun _ _ => 0) (fun _ _ => true) (octstrImm "smpp-esme.conf") (.read cfg) = .ok (accounts, settings) ∧
      authoriseUser { sampleEnv with translations := accounts } .empty samplePdu 1
        (tempconnCreate 0 (octstrImm "10.0.0.1") 4000 2775 1) = .ok res ∧ res.ret = 0 :=
    ⟨_, _, _, _, rfl, rfl, rfl, rfl⟩
  obtain ⟨cfg, accounts, settings, res, hread, hstart, hbind, hret⟩ := hrun
  exact ⟨cfg, accounts, settings, res, hread, hstart, hbind, hret, bind_from_configuration hbind hret hstart hread⟩

end Started

end SmppServer.SmppEsme
