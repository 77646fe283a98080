import SmppServer.Gwlib.Number
import SmppServer.Machinery.HashTable
import SmppServer.Machinery.Lines

/-!
# Gwlib/Cfg — the groups of a configuration file

A configuration is a set of groups of variables; `cfg.def` says which groups there are, which of them occur
once and which variables each may have.  A group is read from consecutive lines `name = value`, and is
added to the configuration at the next empty line (`add_group`), if it names itself and has only variables
it may have.  The dictionaries of the code are the finite maps they implement (`Gwlib/Dict`).

* `parseValue_eq_self_iff` — which texts are read as they are written.
* `addGroup_all` — a group that is added is well formed, and stands with the groups of its kind.
* `octstrParseLong_formatLd` — a number that is printed is read back.
-/

namespace SmppServer

open Machinery

/-! ## `cfg.def`

The list that the C preprocessor makes of `cfg.def`, with the two tests that are generated from it. -/

/-- A group of `cfg.def`: its name, whether it is a `SINGLE_GROUP`, and its variables. -/
structure GroupDef where
  name : Octstr
  single : Bool
  fields : List Octstr

/-- `cfg.def`. -/
def cfgDef : List GroupDef := [
  ⟨octstrImm "core", true, [
    "dndcheck_flag", "admin-port", "admin-password", "esme-file-path", "dlr-storage", "log-file",
    "log-level", "trans-mode-port", "recv-mode-port", "transrecv-mode-port", "connect-allow-ip",
    "connect-deny-ip", "global-allow-prefix", "global-deny-prefix", "admin-interface",
    "admin-password", "status-password", "admin-allow-ip", "admin-deny-ip", "gsm-series",
    "cdma-series", "int-series", "default-series", "access-log", "dbbox-host", "dbbox-port",
    "dbbox-reconnect-delay", "smsc-host", "smsc-forward-port", "smsc-reverse-port", "dbdata-port",
    "smsc-reconnect-delay", "dbbox-unconnect-q-limit", "smsc-unconnect-q-limit", "dbbox-ping-delay",
    "dbbox-pingack-timeout", "dbbox-client-timeout", "smsc-ping-delay", "smsc-pingack-timeout",
    "smsc-client-timeout", "log-file-size", "log-interval", "access-log", "access-log-time",
    "access-log-format", "access-log-clean"].map octstrImm⟩,
  ⟨octstrImm "SMPP-Client", true, [
    "admin-port", "admin-interface", "admin-password", "status-password", "admin-deny-ip",
    "admin-allow-ip", "msg-retry-limit", "sys-info-resend-freq", "msg-resend-freq",
    "compare-esm-smscid", "msg-failed-log", "max-msg-duration", "global-q-min",
    "global-q-max"].map octstrImm⟩,
  ⟨octstrImm "smpp-client", false, [
    "mode", "account-name", "password", "validfrom", "validto", "enquire-link-interval", "log-file",
    "log-level", "account-allow-prefix", "account-deny-prefix", "preferred-smsc", "dedicated-smsc",
    "rx-allowed", "max-submits-unconnect", "max-submits", "max-tps", "dnd-check", "rx-log-file",
    "max-tx-sessions", "max-rx-sessions", "valid_time_from", "valid_time_to"].map octstrImm⟩,
  ⟨octstrImm "smsc", false, [
    "smsc", "smsc-id", "smsc-type", "allowed-prefix", "denied-prefix", "log-file", "log-level",
    "our-host", "alt-dcs", "alt-charset", "host", "port", "smsc-username", "smsc-password",
    "validityperiod", "our-port", "receive-port", "connect-allow-ip", "system-id", "system-type",
    "address-range", "wait-ack", "wait-ack-expire", "source-addr-ton", "source-addr-npi",
    "dest-addr-ton", "dest-addr-npi", "bind-addr-ton", "bind-addr-npi", "service-type",
    "source-addr-autodetect", "enquire-link-interval", "max-pending-submits", "reconnect-delay",
    "transceiver-mode", "interface-version", "priority", "msg-id-type", "connection-timeout",
    "allowed-prefix-regex", "denied-prefix-regex", "alt-addr-charset", "masking-prefix", "tx-smsc-id",
    "deliver-sm-source", "max-q-len"].map octstrImm⟩,
  ⟨octstrImm "testsmsc", true, [
    "smsc", "smsc-id", "log-file", "log-level", "host", "port", "smsc-username", "smsc-password",
    "receive-port", "system-type", "address-range", "source-addr-ton", "source-addr-npi",
    "dest-addr-ton", "dest-addr-npi", "service-type", "enquire-link-interval", "transceiver-mode",
    "interface-version", "input-file", "global-sender", "global-receiver", "core-file", "max-messages",
    "global-text"].map octstrImm⟩,
  ⟨octstrImm "mysql-connection", false, [
    "id", "host", "port", "username", "password", "database", "socket",
    "max-connections"].map octstrImm⟩,
  ⟨octstrImm "dlr-db", true, [
    "id", "table", "field-EsmeAccountName", "field-EsmeMsgId", "field-SmscId", "field-SmscMsgId",
    "field-DatetimeSubmit"].map octstrImm⟩,
  ⟨octstrImm "dlr-db-mis", true, [
    "id", "table", "field-EsmeAccountName", "field-EsmeMsgId", "field-SmscId", "field-SmscMsgId",
    "field-SubmitStat", "field-DatetimeRecv", "field-DatetimeSubmit", "field-SourceAddr",
    "field-DestAddr", "field-MsgContent", "field-UDH", "field-RetryValue",
    "field-client-ip"].map octstrImm⟩,
  ⟨octstrImm "dlr-db-status", true, [
    "id", "table", "field-SmscId", "field-SmscMsgId", "field-DestAddr", "field-DelieverStat",
    "field-DatetimeDeliver"].map octstrImm⟩,
  ⟨octstrImm "dlr-db-smpp-esme", true, [
    "id", "table", "field-EsmeAccountName", "field-EsmeMsgId", "field-SubmitStat",
    "field-DatetimeRecv", "field-SourceAddr", "field-DestAddr", "field-MsgContent", "field-UDH",
    "field-RetryValue", "allowed_smsc", "field-dnd-flag", "preferred_smsc", "field-data-coding",
    "field-esm-class", "field-more-messages-to-send"].map octstrImm⟩]

/-- `is_allowed_in_group`, which asks `core_is_allowed_in_group` alone. -/
def isAllowedInGroup (group var : Octstr) : Bool :=
  match cfgDef.find? (·.name = group) with
  | some g => octstrImm "group" = var || var ∈ g.fields
  | none => false

/-- `is_single_group`, which asks `core_is_single_group` alone. -/
def isSingleGroup (query : Octstr) : Bool :=
  match cfgDef.find? (·.name = query) with
  | some g => g.single
  | none => false

/-! ## Values

A value is stripped of blanks and, between quotation marks, of these and of its backslashes.  What can be
printed and read back are the numbers, and the texts that none of this touches. -/

/-- `octstr_strip_blanks`. -/
def octstrStripBlanks (s : Octstr) : Octstr := strip isSpace s

/-- The loop of `parse_value`: a backslash quotes a backslash or a quotation mark. -/
def unescape : Octstr → Octstr
  | [] => []
  | [c] => [c]
  | c :: d :: s =>
    if c = 92 then if d = 92 ∨ d = 34 then d :: unescape s else 92 :: d :: unescape s
    else c :: unescape (d :: s)

/-- `parse_value`. -/
def parseValue (value : Octstr) : Octstr :=
  let value := octstrStripBlanks value
  if value.head? = some 34 ∧ value.getLast? = some 34 then unescape (value.dropLast.drop 1) else value

/-- The sign in front of a number. -/
def takeSign : Octstr → Bool × Octstr
  | 45 :: s => (true, s)
  | 43 :: s => (false, s)
  | s => (false, s)

/-- The base that a number's first octets name. -/
def takeBase : Octstr → ℕ × Octstr
  | 48 :: x :: d :: s =>
    if (x = 120 ∨ x = 88) ∧ (digitValue 16 d).isSome then (16, d :: s) else (8, 48 :: x :: d :: s)
  | 48 :: s => (8, 48 :: s)
  | s => (10, s)

/-- `octstr_parse_long` with base `0`; `none` for `-1`. -/
def octstrParseLong (s : Octstr) : Option ℤ :=
  let (negative, s) := takeSign (s.dropWhile isSpace)
  let (base, s) := takeBase s
  let n : ℤ := if negative then -leadingNumber base 0 s else leadingNumber base 0 s
  if (s.head?.bind (digitValue base)).isSome ∧ -2 ^ 63 ≤ n ∧ n < 2 ^ 63 then some n else none

section Values

variable {v w : Octstr} {c d : UInt8} {n : ℤ}

theorem length_unescape_le (s : Octstr) : (unescape s).length ≤ s.length := by
  fun_induction unescape s with
  | case1 | case2 => exact le_rfl
  | case3 _ _ _ ih | case4 _ _ _ ih =>
    simp only [List.length_cons]
    omega
  | case5 _ _ _ _ ih =>
    simp only [List.length_cons] at ih ⊢
    omega

theorem parseValue_octstrStripBlanks (v : Octstr) : parseValue (octstrStripBlanks v) = parseValue v := by
  rw [parseValue, parseValue, octstrStripBlanks, octstrStripBlanks, strip_strip]

/-- The text is read as it is written: no blanks around it, and not in quotation marks. -/
def Literal (v : Octstr) : Prop :=
  Trimmed isSpace v ∧ ¬(v.head? = some 34 ∧ v.getLast? = some 34)

instance : Decidable (Literal v) := inferInstanceAs (Decidable (_ ∧ _))

/-- **Which texts are read as they are written.** -/
theorem parseValue_eq_self_iff : parseValue v = v ↔ Literal v := by
  have hshort : ∀ w : Octstr, w ≠ [] → (unescape (w.dropLast.drop 1)).length < w.length := fun w hw => by
    have hle := length_unescape_le (w.dropLast.drop 1)
    have hpos := List.length_pos_of_ne_nil hw
    rw [List.length_drop, List.length_dropLast] at hle
    omega
  have hstrip : (strip isSpace v).length ≤ v.length :=
    ((List.rdropWhile_prefix isSpace _).sublist.trans (List.dropWhile_sublist isSpace)).length_le
  rw [parseValue, octstrStripBlanks]
  by_cases hquoted : (strip isSpace v).head? = some 34 ∧ (strip isSpace v).getLast? = some 34
  · rw [if_pos hquoted]
    have hne : strip isSpace v ≠ [] := fun h => by simp [h] at hquoted
    have hlt := hshort _ hne
    constructor
    · intro h
      rw [h] at hlt
      omega
    · rintro ⟨htrim, hnot⟩
      rw [strip_eq_self htrim] at hquoted
      exact absurd hquoted hnot
  · rw [if_neg hquoted, strip_eq_self_iff]
    constructor
    · intro htrim
      rw [strip_eq_self htrim] at hquoted
      exact ⟨htrim, hquoted⟩
    · exact And.left

/-! ### Numbers -/

/-- No number starts with a zero but zero. -/
theorem head_decimal {m : ℕ} (hm : 0 < m) : ∃ d s, decimal m = d :: s ∧ d ≠ 48 ∧ (digitValue 10 d).isSome = true := by
  induction m using Nat.strongRecOn with
  | ind m ih =>
    by_cases h : m < 10
    · refine ⟨(Nat.digitChar m).toNat.toUInt8, [], ?_, ?_⟩
      · rw [decimal, Nat.toDigits_of_lt_base h]
        rfl
      · interval_cases m <;> decide
    · obtain ⟨d, s, hs, hd⟩ := ih (m / 10) (by omega) (by omega)
      refine ⟨d, s ++ [(Nat.digitChar (m % 10)).toNat.toUInt8], ?_, hd⟩
      rw [decimal, Nat.toDigits_of_base_le (by norm_num) (by omega), List.map_append, List.map_singleton,
        ← decimal, hs, List.cons_append]

theorem leadingNumber_decimal (m : ℕ) : leadingNumber 10 0 (decimal m) = m := by
  obtain ⟨-, ds, hds, hm⟩ := writes_decimal m
  rw [leadingNumber_of_map hds, hm, zero_mul, zero_add]

theorem takeSign_of_ne {s : Octstr} (hminus : c ≠ 45) (hplus : c ≠ 43) : takeSign (c :: s) = (false, c :: s) := by
  rw [takeSign]
  · rintro _ ⟨⟩
    exact hminus rfl
  · rintro _ ⟨⟩
    exact hplus rfl

theorem takeBase_of_ne {s : Octstr} (h : c ≠ 48) : takeBase (c :: s) = (10, c :: s) := by
  rw [takeBase]
  · rintro _ _ _ ⟨⟩
    exact h rfl
  · rintro _ ⟨⟩
    exact h rfl

/-- What is read behind the sign. -/
theorem takeBase_decimal (m : ℕ) :
    leadingNumber (takeBase (decimal m)).1 0 (takeBase (decimal m)).2 = m ∧
      ((takeBase (decimal m)).2.head?.bind (digitValue (takeBase (decimal m)).1)).isSome = true := by
  obtain rfl | hm := Nat.eq_zero_or_pos m
  · decide
  · obtain ⟨d, s, hs, hd, hdigit⟩ := head_decimal hm
    have hnumber := leadingNumber_decimal m
    rw [hs] at hnumber ⊢
    rw [takeBase_of_ne hd]
    exact ⟨hnumber, hdigit⟩

/-- No digit is a blank or a sign. -/
theorem takeSign_decimal (m : ℕ) :
    takeSign ((decimal m).dropWhile isSpace) = (false, decimal m) := by
  obtain rfl | hm := Nat.eq_zero_or_pos m
  · decide
  · obtain ⟨d, s, hs, -, hdigit⟩ := head_decimal hm
    obtain ⟨v, hv⟩ := Option.isSome_iff_exists.mp hdigit
    obtain ⟨hspace, hminus, hplus, -⟩ := digitValue_eq_some (by norm_num) hv
    rw [hs, List.dropWhile_cons_of_neg (by simp [hspace]), takeSign_of_ne hminus hplus]

/-- **A number that is printed is read back.** -/
theorem octstrParseLong_formatLd (h : -2 ^ 63 ≤ n ∧ n < 2 ^ 63) : octstrParseLong (formatLd n) = some n := by
  obtain ⟨hnumber, hdigit⟩ := takeBase_decimal n.natAbs
  rw [formatLd]
  split
  · have hsign : takeSign ((45 :: decimal n.natAbs).dropWhile isSpace) = (true, decimal n.natAbs) := rfl
    have habs : -(n.natAbs : ℤ) = n := by omega
    simp only [octstrParseLong, hsign, hnumber, if_true, habs]
    exact if_pos ⟨hdigit, h⟩
  · have habs : (n.natAbs : ℤ) = n := by omega
    simp only [octstrParseLong, takeSign_decimal, hnumber, Bool.false_eq_true, if_false, habs]
    exact if_pos ⟨hdigit, h⟩

end Values

/-! ## Groups

Variables are collected in a group until an empty line ends it; then it is checked and takes its place.  A group
that may occur once replaces the one before it. -/

/-- `CfgGroup`; `line` is never set. -/
structure CfgGroup where
  name : Option Octstr := none
  vars : FiniteMap Octstr Octstr := ∅
  configfile : Option Octstr := none

/-- `Cfg`. -/
structure Cfg where
  filename : Octstr
  singleGroups : FiniteMap Octstr CfgGroup := ∅
  multiGroups : FiniteMap Octstr (List CfgGroup) := ∅

/-- What `cfg_read` logs before it returns `-1`. -/
inductive CfgError
  /-- "Group does not contain variable 'group'." -/
  | noGroupVariable
  /-- "Group '%s' may not contain field '%s'.", with one of these fields -/
  | mayNotContain (group : Octstr) (fields : List Octstr)
  /-- "An equals sign ('=') is missing on line %ld of file %s." -/
  | equalsMissing (lineNo : ℕ) (filename : Octstr)
  deriving DecidableEq, Repr

/-- How the reading of a configuration panics. -/
inductive CfgPanic
  /-- "Failed to load main configuration file `%s'. Aborting!" -/
  | mainFile (filename : Octstr)
  /-- "Recursive include for config file `%s' detected (on line %ld of file %s)." -/
  | recursiveInclude (filename : Octstr) (lineNo : ℕ) (loadedFrom : Octstr)
  /-- "Failed to load whole configuration. Aborting!" -/
  | includedFile (filename : Octstr)
  /-- "Trying to fetch variable `%s' in group `%s', not allowed." -/
  | fetchNotAllowed (varname group : Octstr)
  deriving DecidableEq, Repr

/-- `cfg_set`. -/
def cfgSet (grp : CfgGroup) (varname value : Octstr) : CfgGroup :=
  { grp with vars := grp.vars.insert varname value }

/-- `cfg_get`. -/
def cfgGet (grp : CfgGroup) (varname : Octstr) : Except CfgPanic (Option Octstr) :=
  match grp.name with
  | some name =>
    if isAllowedInGroup name varname then .ok (grp.vars.lookup varname)
    else .error (.fetchNotAllowed varname name)
  | none => .ok (grp.vars.lookup varname)

/-- `cfg_get_integer`; `none` for `-1`. -/
def cfgGetInteger (grp : CfgGroup) (varname : Octstr) : Except CfgPanic (Option ℤ) :=
  (cfgGet grp varname).map fun os => os.bind octstrParseLong

/-- `octstr_case_compare(…) == 0`. -/
def octstrCaseEq (a b : Octstr) : Bool :=
  let lower (c : UInt8) : UInt8 := if 65 ≤ c ∧ c ≤ 90 then c + 32 else c
  a.map lower = b.map lower

/-- What `cfg_get_bool` leaves in its first argument; a text that is neither counts as true. -/
def cfgGetBool (grp : CfgGroup) (varname : Octstr) : Except CfgPanic Bool :=
  (cfgGet grp varname).map fun os =>
    match os with
    | none => false
    | some os =>
      if ["true", "yes", "on", "1"].any fun s => octstrCaseEq os (octstrImm s) then true
      else if ["false", "no", "off", "0"].any fun s => octstrCaseEq os (octstrImm s) then false
      else true

/-- `add_group`. -/
def addGroup (cfg : Cfg) (grp : CfgGroup) : Except CfgError Cfg :=
  match grp.vars.lookup (octstrImm "group") with
  | none => .error .noGroupVariable
  | some groupname =>
    let grp := { grp with name := some groupname }
    match grp.vars.keys.filter fun name => !isAllowedInGroup groupname name with
    | name :: names => .error (.mayNotContain groupname (name :: names))
    | [] =>
      if isSingleGroup groupname then
        .ok { cfg with singleGroups := cfg.singleGroups.insert groupname grp }
      else
        let list := (cfg.multiGroups.lookup groupname).getD []
        .ok { cfg with multiGroups := cfg.multiGroups.insert groupname (list ++ [grp]) }

section Groups

variable {cfg cfg' : Cfg} {grp : CfgGroup} {groupname : Octstr}

/-- A group of the configuration: it has the name it gives itself, and only variables `cfg.def` allows. -/
structure CfgGroup.WellFormed (grp : CfgGroup) (groupname : Octstr) : Prop where
  name : grp.name = some groupname
  group : grp.vars.lookup (octstrImm "group") = some groupname
  allowed : ∀ var ∈ grp.vars, isAllowedInGroup groupname var = true

/-- Every group of the configuration has the property under the name where it stands, with the groups of
its kind. -/
structure Cfg.All (P : Octstr → CfgGroup → Prop) (cfg : Cfg) : Prop where
  single : ∀ {groupname grp}, cfg.singleGroups.lookup groupname = some grp →
    isSingleGroup groupname = true ∧ P groupname grp
  multi : ∀ {groupname list}, cfg.multiGroups.lookup groupname = some list →
    isSingleGroup groupname = false ∧ list ≠ [] ∧ ∀ grp ∈ list, P groupname grp

theorem all_empty (P : Octstr → CfgGroup → Prop) (filename : Octstr) : (Cfg.mk filename ∅ ∅).All P where
  single h := by simp at h
  multi h := by simp at h

/-- What adding a group does. -/
theorem addGroup_eq_ok (h : addGroup cfg grp = .ok cfg') :
    ∃ groupname, { grp with name := some groupname }.WellFormed groupname ∧
      (isSingleGroup groupname = true ∧ cfg' = { cfg with
          singleGroups := cfg.singleGroups.insert groupname { grp with name := some groupname } } ∨
        isSingleGroup groupname = false ∧ cfg' = { cfg with
          multiGroups := cfg.multiGroups.insert groupname
            ((cfg.multiGroups.lookup groupname).getD [] ++ [{ grp with name := some groupname }]) }) := by
  rw [addGroup] at h
  split at h
  · cases h
  · next groupname hgroup =>
    simp only at h
    split at h
    · cases h
    · next hallowed =>
      have hwf : { grp with name := some groupname }.WellFormed groupname :=
        ⟨rfl, hgroup, fun var hvar => by simpa using List.filter_eq_nil_iff.mp hallowed var hvar⟩
      refine ⟨groupname, hwf, ?_⟩
      split at h
      · next hsingle => exact .inl ⟨hsingle, (Except.ok.inj h).symm⟩
      · next hsingle => exact .inr ⟨by simpa using hsingle, (Except.ok.inj h).symm⟩

/-- **Adding a group**: it is well formed, and stands with the groups of its kind. -/
theorem addGroup_all {P : Octstr → CfgGroup → Prop} (hcfg : cfg.All P)
    (hgrp : ∀ groupname, { grp with name := some groupname }.WellFormed groupname →
      P groupname { grp with name := some groupname })
    (h : addGroup cfg grp = .ok cfg') : cfg'.All P := by
  obtain ⟨groupname, hwf, ⟨hsingle, rfl⟩ | ⟨hmulti, rfl⟩⟩ := addGroup_eq_ok h
  · refine ⟨fun {name g} hg => ?_, hcfg.multi⟩
    by_cases hname : name = groupname
    · subst hname
      rw [AList.lookup_insert, Option.some.injEq] at hg
      exact hg ▸ ⟨hsingle, hgrp name hwf⟩
    · exact hcfg.single (by rwa [AList.lookup_insert_ne hname] at hg)
  · refine ⟨hcfg.single, fun {name list} hlist => ?_⟩
    by_cases hname : name = groupname
    · subst hname
      rw [AList.lookup_insert, Option.some.injEq] at hlist
      subst hlist
      refine ⟨hmulti, by simp, fun g hg => ?_⟩
      obtain hg | hg := List.mem_append.mp hg
      · cases hl : cfg.multiGroups.lookup name with
        | none => simp [hl] at hg
        | some list => exact (hcfg.multi hl).2.2 g (by simpa [hl] using hg)
      · exact List.mem_singleton.mp hg ▸ hgrp name hwf
    · exact hcfg.multi (by rwa [AList.lookup_insert_ne hname] at hlist)

end Groups

end SmppServer
