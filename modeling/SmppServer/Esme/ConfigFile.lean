import SmppServer.Esme.RowGroup
import Mathlib.Data.List.ReduceOption

/-!
# Esme/ConfigFile — the configuration that dbbox writes for the ESME server

dbbox writes the configuration file of smpp-esme (`Dbbox/EsmeFile`), smpp-esme reads it (`Gwlib/CfgRead`),
makes accounts of its groups and reads the settings of its core group (`Esme/Config`).

* `accounts_of_database` — which accounts the server has, of which rows.
* `server_does_not_start` — with the file that dbbox writes the server stops, at the latest at a setting that it
  lacks.
-/

namespace SmppServer.SmppEsme

open Machinery

/-! ## The core group

The lines that dbbox writes for the group `core` are read back one by one.  The last of the settings is not
among them, so the start stops there or before. -/

/-- What the lines of the core group give its variables. -/
def coreBlock (ip : Octstr) : Block := [
  (octstrImm "group", octstrImm "core"),
  (octstrImm "log-file", octstrImm "/tmp/server_debug/esme/smpp_esme.log"),
  (octstrImm "access-log", octstrImm "/tmp/server_debug/esme/access.log"),
  (octstrImm "log-level", octstrImm "0"),
  (octstrImm "trans-mode-port", octstrImm "3000"),
  (octstrImm "recv-mode-port", octstrImm "4000"),
  (octstrImm "transrecv-mode-port", octstrImm "5000"),
  (octstrImm "admin-port", octstrImm "34000"),
  (octstrImm "admin-password", octstrImm "foobar"),
  (octstrImm "connect-allow-ip", parseValue (34 :: ip ++ [34])),
  (octstrImm "gsm-series", octstrImm "98;99"),
  (octstrImm "cdma-series", octstrImm "92"),
  (octstrImm "dbbox-host", octstrImm "localhost"),
  (octstrImm "dbbox-port", octstrImm "20000"),
  (octstrImm "dbbox-reconnect-delay", octstrImm "5"),
  (octstrImm "smsc-host", octstrImm "localhost"),
  (octstrImm "smsc-reverse-port", octstrImm "22000"),
  (octstrImm "smsc-forward-port", octstrImm "21000"),
  (octstrImm "smsc-reconnect-delay", octstrImm "5"),
  (octstrImm "smsc-unconnect-q-limit", octstrImm "-1"),
  (octstrImm "dbbox-unconnect-q-limit", octstrImm "6"),
  (octstrImm "dbbox-ping-delay", octstrImm "10"),
  (octstrImm "dbbox-pingack-timeout", octstrImm "30"),
  (octstrImm "smsc-ping-delay", octstrImm "10"),
  (octstrImm "smsc-pingack-timeout", octstrImm "20"),
  (octstrImm "log-file-size", octstrImm "10"),
  (octstrImm "log-interval", octstrImm "60") ]

section Core

variable {ip filename name value : Octstr} {ips : List (Option Octstr)}

/-- The addresses stay on their line. -/
def AddressesFit (ips : List (Option Octstr)) : Prop :=
  ∀ row ∈ ips, 10 ∉ cstr (row.getD []) ∧ ¬ octstrImm "include" <:+: cstr (row.getD [])

instance (ips : List (Option Octstr)) : Decidable (AddressesFit ips) :=
  inferInstanceAs (Decidable (∀ row ∈ ips, _ ∧ _))

theorem strcat_eq_some {size : ℕ} {buffer buffer' : Octstr} {s : Option Octstr}
    (h : strcat size buffer s = some buffer') : buffer' = buffer ++ cstr (s.getD []) := by
  obtain ⟨s, rfl, h⟩ := Option.bind_eq_some_iff.mp h
  exact (Option.some.inj (Option.ite_none_right_eq_some.mp h).2).symm

/-- The addresses, with a semicolon behind each. -/
theorem ipList_eq_some (h : ipList ips = some ip) :
    ip = ips.flatMap fun row => cstr (row.getD []) ++ [59] := by
  suffices ∀ buffer, ips.foldlM (fun buffer row => (strcat 2022 buffer row).bind fun buffer =>
      strcat 2022 buffer (some [59])) buffer = some ip →
      ip = buffer ++ ips.flatMap fun row => cstr (row.getD []) ++ [59] from this [] h
  clear h
  intro buffer
  induction ips generalizing buffer with
  | nil =>
    intro h
    obtain rfl : buffer = ip := Option.some.inj h
    rw [List.flatMap_nil, List.append_nil]
  | cons row ips ih =>
    intro h
    rw [List.foldlM_cons] at h
    obtain ⟨buffer₂, h₂, h⟩ := Option.bind_eq_some_iff.mp h
    obtain ⟨buffer₁, h₁, h₂⟩ := Option.bind_eq_some_iff.mp h₂
    rw [ih buffer₂ h, strcat_eq_some h₂, strcat_eq_some h₁, List.flatMap_cons, List.append_assoc,
      List.append_assoc, List.append_assoc]
    rfl

/-- The addresses fit on one line together. -/
theorem AddressesFit.ipList (h : AddressesFit ips) (hip : ipList ips = some ip) :
    10 ∉ ip ∧ ¬ octstrImm "include" <:+: ip := by
  rw [ipList_eq_some hip]
  clear hip
  induction ips with
  | nil => exact ⟨List.not_mem_nil, by decide⟩
  | cons row ips ih =>
    obtain ⟨⟨hnewline, hinclude⟩, hips⟩ := List.forall_mem_cons.mp h
    obtain ⟨hnewlines, hincludes⟩ := ih hips
    rw [List.flatMap_cons, List.append_assoc, List.singleton_append, infix_append_cons_iff (by decide)]
    refine ⟨fun hmem => ?_, not_or.mpr ⟨hinclude, hincludes⟩⟩
    obtain hmem | hmem := List.mem_append.mp hmem
    · exact hnewline hmem
    · exact (List.mem_cons.mp hmem).elim (by decide) hnewlines

/-- The line with the addresses. -/
theorem connectAllowIp_line (hnewline : 10 ∉ ip) (hinclude : ¬ octstrImm "include" <:+: ip) :
    PlainLine (octstrImm "connect-allow-ip  =\"" ++ ip ++ octstrImm "\"") ∧
      Assigns (octstrImm "connect-allow-ip  =\"" ++ ip ++ octstrImm "\"") (octstrImm "connect-allow-ip")
        (parseValue (34 :: ip ++ [34])) := by
  have hquote : octstrImm "\"" = [34] := by decide
  have hhead : octstrImm "connect-allow-ip  =\"" = octstrImm "connect-allow-ip" ++ [32, 32] ++ [61] ++ [34] := by
    decide
  refine ⟨⟨?_, ?_⟩, ?_⟩
  · rw [List.mem_append, List.mem_append]
    exact not_or.mpr ⟨not_or.mpr ⟨by decide, hnewline⟩, by decide⟩
  · rw [hquote, List.getLast?_concat]
    decide
  · refine Named.assigns ⟨⟨[32, 32], ?_, by simp [isSpace]⟩, by decide, by decide, by decide, by decide⟩ ?_
    · rw [hhead, hquote]
      simp
    · rw [hquote, infix_append_cons_iff (by decide), hhead, List.append_assoc, List.singleton_append,
        infix_append_cons_iff (by decide)]
      exact not_or.mpr ⟨not_or.mpr ⟨by decide, hinclude⟩, by decide⟩

/-- The lines of the core group are lines of their own, and give its variables their values. -/
theorem coreLines_block (hnewline : 10 ∉ ip) (hinclude : ¬ octstrImm "include" <:+: ip) :
    (∀ line ∈ coreLines ip, PlainLine line) ∧ BlockLines (coreLines ip) (coreBlock ip) := by
  obtain ⟨hplain, hassigns⟩ := connectAllowIp_line hnewline hinclude
  have hlines : coreLines ip = (coreLines []).take 9 ++
      (octstrImm "connect-allow-ip  =\"" ++ ip ++ octstrImm "\"") :: (coreLines []).drop 10 := rfl
  have hblock : coreBlock ip = (coreBlock []).take 9 ++
      (octstrImm "connect-allow-ip", parseValue (34 :: ip ++ [34])) :: (coreBlock []).drop 10 := rfl
  have hbefore : List.Forall₂ (fun line var => Assigns line var.1 var.2) ((coreLines []).take 9)
      ((coreBlock []).take 9) := by decide +kernel
  have hbehind : List.Forall₂ (fun line var => Assigns line var.1 var.2) ((coreLines []).drop 10)
      ((coreBlock []).drop 10) := by decide +kernel
  rw [hlines, hblock]
  constructor
  · simp only [List.forall_mem_append, List.forall_mem_cons]
    exact ⟨by decide +kernel, hplain, by decide +kernel⟩
  · exact List.rel_append hbefore (.cons hassigns hbehind)

/-- The core group, as it stands in the configuration. -/
def coreGroup (filename ip : Octstr) : CfgGroup :=
  { groupOf filename (coreBlock ip) with name := some (octstrImm "core") }

/-- What `manage_thread` reads first is there, but not `dndcheck_flag`. -/
theorem coreGroup_lookup (filename ip : Octstr) :
    (coreGroup filename ip).vars.lookup (octstrImm "dbbox-host") = some (octstrImm "localhost") ∧
    (coreGroup filename ip).vars.lookup (octstrImm "dbbox-port") = some (octstrImm "20000") ∧
    (coreGroup filename ip).vars.lookup (octstrImm "dndcheck_flag") = none := by
  have hlookup : ∀ name, (coreGroup filename ip).vars.lookup name =
      ((coreBlock ip).reverse.find? (·.1 = name)).map (·.2) := fun name => by
    rw [coreGroup, groupOf, lookup_setAll]
    simp
  refine ⟨?_, ?_, ?_⟩
  all_goals
    rw [hlookup]
    rfl

/-- **The settings stop** at the first one that is not in the file, if not at the client for dbbox. -/
theorem readSettings_coreGroup (initStartClient : Octstr → ℤ → Bool) (filename ip : Octstr) :
    readSettings initStartClient (coreGroup filename ip) = .error (
      if initStartClient (octstrImm "localhost") 20000 then .notSpecified (octstrImm "dndcheck_flag")
      else .notConnected (octstrImm "dbbox")) := by
  obtain ⟨hhost, hport, hflag⟩ := coreGroup_lookup filename ip
  have hget : ∀ name, isAllowedInGroup (octstrImm "core") name = true →
      cfgGet (coreGroup filename ip) name = .ok ((coreGroup filename ip).vars.lookup name) := fun _ h => if_pos h
  have hhost' : needText (coreGroup filename ip) (octstrImm "dbbox-host") = .ok (octstrImm "localhost") := by
    rw [needText, hget _ (by decide), hhost]
  have hport' : needInteger (coreGroup filename ip) (octstrImm "dbbox-port") = .ok 20000 := by
    rw [needInteger, cfgGetInteger, hget _ (by decide), hport]
    decide
  have hflag' : needInteger (coreGroup filename ip) (octstrImm "dndcheck_flag") =
      .error (.notSpecified (octstrImm "dndcheck_flag")) := by
    rw [needInteger, cfgGetInteger, hget _ (by decide), hflag]
    rfl
  rw [readSettings, hhost', hport', hflag']
  cases hclient : initStartClient (octstrImm "localhost") 20000 with
  | true => simp [needClient, hclient, bind, Except.bind]
  | false => simp [needClient, hclient, bind, Except.bind]

end Core

/-! ## The groups

A row of the table becomes a block of lines, the block a group, and the group an account: each step by a lemma
of the module that it belongs to. -/

section Groups

variable {ip filename groupname : Octstr} {cfg cfg' : Cfg} {grp : CfgGroup} {row : EsmeClientInfo}
  {rows : List EsmeClientInfo}

/-- The configuration with one more group. -/
def withGroup (cfg : Cfg) (groupname : Octstr) (grp : CfgGroup) : Cfg :=
  let list := (cfg.multiGroups.lookup groupname).getD []
  if isSingleGroup groupname then { cfg with singleGroups := cfg.singleGroups.insert groupname grp }
  else { cfg with multiGroups := cfg.multiGroups.insert groupname (list ++ [grp]) }

theorem withGroup_multi (cfg : Cfg) (grp : CfgGroup) (h : isSingleGroup groupname = false) :
    (withGroup cfg groupname grp).singleGroups = cfg.singleGroups ∧
      ((withGroup cfg groupname grp).multiGroups.lookup groupname).getD [] =
        (cfg.multiGroups.lookup groupname).getD [] ++ [grp] := by
  simp [withGroup, h]

/-- A block that names its group, and gives only variables that it may have. -/
theorem addGroup_groupOf {block : Block}
    (hgroup : (block.reverse.find? (·.1 = octstrImm "group")).map (·.2) = some groupname)
    (hallowed : ∀ name ∈ block.map (·.1), isAllowedInGroup groupname name = true) :
    addGroup cfg (groupOf filename block) =
      .ok (withGroup cfg groupname { groupOf filename block with name := some groupname }) := by
  have hlookup : (groupOf filename block).vars.lookup (octstrImm "group") = some groupname := by
    rw [groupOf, lookup_setAll, hgroup, Option.some_or]
  have hkeys : ((groupOf filename block).vars.keys.filter fun name => !isAllowedInGroup groupname name) = [] := by
    refine List.filter_eq_nil_iff.mpr fun name hname => ?_
    obtain hname | hname := mem_setAll (AList.mem_keys.mpr hname)
    · simp [hallowed name hname]
    · exact absurd hname (AList.notMem_empty name)
  rw [addGroup, hlookup]
  simp only [hkeys, withGroup]
  split <;> rfl

theorem addGroup_coreBlock (cfg : Cfg) (filename ip : Octstr) :
    addGroup cfg (groupOf filename (coreBlock ip)) =
      .ok (withGroup cfg (octstrImm "core") (coreGroup filename ip)) := by
  refine addGroup_groupOf rfl fun name hname => ?_
  have hall : ∀ name ∈ (coreBlock []).map (·.1), isAllowedInGroup (octstrImm "core") name = true := by
    decide +kernel
  exact hall name hname

theorem addGroup_rowBlock (cfg : Cfg) (filename : Octstr) (row : EsmeClientInfo) :
    addGroup cfg (groupOf filename (rowBlock row)) =
      .ok (withGroup cfg (octstrImm "smpp-client") (rowGroup filename row)) := by
  refine addGroup_groupOf (rowValue_eq row).1 fun name hname => ?_
  rw [rowBlock, List.map_map] at hname
  obtain ⟨part, hpart, rfl⟩ := List.mem_map.mp hname
  exact isAllowedInGroup_rowParts part hpart

/-- The groups of the rows, one after the other. -/
theorem addGroups_rows (cfg : Cfg) (filename : Octstr) (rows : List EsmeClientInfo) :
    ∃ cfg', addGroups cfg (rows.map fun row => groupOf filename (rowBlock row)) = .ok cfg' ∧
      cfg'.singleGroups = cfg.singleGroups ∧
      (cfg'.multiGroups.lookup (octstrImm "smpp-client")).getD [] =
        (cfg.multiGroups.lookup (octstrImm "smpp-client")).getD [] ++ rows.map (rowGroup filename) := by
  induction rows generalizing cfg with
  | nil => exact ⟨cfg, rfl, rfl, by simp⟩
  | cons row rows ih =>
    obtain ⟨cfg', hadd, hsingle, hmulti⟩ :=
      ih (withGroup cfg (octstrImm "smpp-client") (rowGroup filename row))
    obtain ⟨hone, hlist⟩ := withGroup_multi cfg (rowGroup filename row)
      (by decide : isSingleGroup (octstrImm "smpp-client") = false)
    refine ⟨cfg', addGroups_cons_eq_ok.mpr ⟨_, addGroup_rowBlock cfg filename row, hadd⟩, ?_, ?_⟩
    · rw [hsingle, hone]
    · rw [hmulti, hlist, List.append_assoc, List.map_cons, List.singleton_append]

/-- The accounts of the groups, up to the first that does not become one. -/
theorem smppClientAddOnes_rows (logOpen : Octstr → ℤ → ℤ) (filename : Octstr) (ots : List SmscClient)
    (rows : List EsmeClientInfo) :
    smppClientAddOnes logOpen ots (rows.map (rowGroup filename)) =
      .ok (if ∀ row ∈ rows, (rowAccount logOpen row).isSome then 0 else -1,
        ots ++ ((rows.map (rowAccount logOpen)).takeWhile (·.isSome)).reduceOption) := by
  induction rows generalizing ots with
  | nil => simp [smppClientAddOnes]
  | cons row rows ih =>
    rw [List.map_cons, smppClientAddOnes, createOnetrans_rowGroup]
    cases hrow : rowAccount logOpen row with
    | none => simp [Except.bind, hrow]
    | some ot =>
      simp only [Except.bind, ih]
      simp [hrow]

theorem eq_map_of_mapM_eq_some {α β : Type} {f : α → Option β} {g : α → β} {l : List α} {l' : List β}
    (hf : ∀ a b, f a = some b → b = g a) (h : l.mapM f = some l') : l' = l.map g := by
  induction l generalizing l' with
  | nil => exact (Option.some.inj h).symm
  | cons a l ih =>
    rw [List.mapM_cons] at h
    obtain ⟨b, hb, h⟩ := Option.bind_eq_some_iff.mp h
    obtain ⟨bs, hbs, h⟩ := Option.bind_eq_some_iff.mp h
    rw [← Option.some.inj h, hf a b hb, ih hbs, List.map_cons]

/-- What is written, if it is written. -/
theorem esmeFileUpdate_eq_written {ips : List (Option Octstr)} {contents : Octstr}
    (h : esmeFileUpdate (some ips) (some rows) true = .written contents) :
    ∃ ip, ipList ips = some ip ∧
      contents = (coreLines ip ++ (rows.map rowEntry).flatMap fun x => [] :: x.1).flatMap
        fun line => line ++ [10] := by
  simp only [esmeFileUpdate] at h
  split at h
  · cases h
  · next ip hip =>
    refine ⟨ip, hip, ?_⟩
    cases rows with
    | nil => cases h
    | cons row rows =>
      simp only [if_true] at h
      split at h
      · cases h
      · next groups hgroups =>
        have hmap : groups = (row :: rows).map fun row => (rowParts row).map fun part => part.1 ++ part.2.2 :=
          eq_map_of_mapM_eq_some (fun _ _ => eq_of_rowLines_eq_some) hgroups
        rw [← FileUpdate.written.inj h, hmap, List.flatMap_map, List.flatMap_map]
        rfl

/-- The configuration of the file. -/
theorem cfgRead_written {fs : Octstr → Option Node} {ips : List (Option Octstr)} {contents : Octstr}
    (hwritten : esmeFileUpdate (some ips) (some rows) true = .written contents)
    (hips : AddressesFit ips) (hrows : ∀ row ∈ rows, ∀ text ∈ rowTexts row, OneLine text)
    (hfile : fs filename = some (.file contents)) :
    ∃ fuel cfg ip, cfgRead fs fuel filename = some (.read cfg) ∧
      cfg.singleGroups.lookup (octstrImm "core") = some (coreGroup filename ip) ∧
      (cfg.multiGroups.lookup (octstrImm "smpp-client")).getD [] = rows.map (rowGroup filename) := by
  obtain ⟨ip, hip, rfl⟩ := esmeFileUpdate_eq_written hwritten
  obtain ⟨hnewline, hinclude⟩ := hips.ipList hip
  obtain ⟨hplain, hblock⟩ := coreLines_block hnewline hinclude
  obtain ⟨cfg, hadd, hsingle, hmulti⟩ :=
    addGroups_rows (withGroup ⟨filename, ∅, ∅⟩ (octstrImm "core") (coreGroup filename ip)) filename rows
  have hall : addGroups ⟨filename, ∅, ∅⟩ (((coreLines ip, coreBlock ip) :: rows.map rowEntry).map
      fun x => groupOf filename x.2) = .ok cfg := by
    have hrest : (rows.map rowEntry).map (fun x => groupOf filename x.2) =
        rows.map fun row => groupOf filename (rowBlock row) := by
      simp only [List.map_map, Function.comp_def, rowEntry_snd]
    rw [List.map_cons, hrest, addGroups_cons_eq_ok]
    exact ⟨_, addGroup_coreBlock _ filename ip, hadd⟩
  have hlines : ∀ x ∈ rows.map rowEntry, (∀ line ∈ x.1, PlainLine line) ∧ BlockLines x.1 x.2 ∧ x.2 ≠ [] := by
    intro x hx
    obtain ⟨row, hrow, rfl⟩ := List.mem_map.mp hx
    exact ⟨(rowParts_lines (hrows row hrow)).1, (rowParts_lines (hrows row hrow)).2, rowBlock_ne_nil row⟩
  obtain ⟨fuel, hread⟩ := @cfgRead_blocks fs filename (coreLines ip, coreBlock ip) (rows.map rowEntry) cfg hfile
    (List.forall_mem_cons.mpr ⟨hplain, fun x hx => (hlines x hx).1⟩)
    (List.forall_mem_cons.mpr ⟨⟨hblock, List.cons_ne_nil _ _⟩, fun x hx => (hlines x hx).2⟩) hall
  refine ⟨fuel, cfg, ip, hread, ?_, ?_⟩
  · rw [hsingle]
    rfl
  · rw [hmulti]
    rfl

/-- **The accounts of the database.**  The file that dbbox writes is read without error, and the accounts
are those of the rows in their order, up to the first row with a mode that there is not: its texts as
`parse_value` reads them, which are the texts of the row exactly if these are literal, and its numbers. -/
theorem accounts_of_database (logOpen : Octstr → ℤ → ℤ) {fs : Octstr → Option Node} (ips : List (Option Octstr))
    {contents : Octstr} (hwritten : esmeFileUpdate (some ips) (some rows) true = .written contents)
    (hips : AddressesFit ips) (hrows : ∀ row ∈ rows, ∀ text ∈ rowTexts row, OneLine text)
    (hfile : fs filename = some (.file contents)) :
    ∃ fuel cfg, cfgRead fs fuel filename = some (.read cfg) ∧
      smppClientAddCfg logOpen cfg =
        .ok (if ∀ row ∈ rows, (rowAccount logOpen row).isSome then 0 else -1,
          ((rows.map (rowAccount logOpen)).takeWhile (·.isSome)).reduceOption) := by
  obtain ⟨fuel, cfg, ip, hread, -, hmulti⟩ := cfgRead_written hwritten hips hrows hfile
  refine ⟨fuel, cfg, hread, ?_⟩
  rw [smppClientAddCfg, hmulti, smppClientAddOnes_rows, List.nil_append]

/-- A row, with blanks behind its password. -/
def sampleRow : EsmeClientInfo where
  mode := some (octstrImm "tx")
  esmeAcc := some (octstrImm "acme")
  esmePass := some (octstrImm "secret ")
  esmeValidFrom := some (octstrImm "01/01/2020 00:00:00")
  emsValidTo := some (octstrImm "01/01/2030 00:00:00")
  esmeLogFile := some (octstrImm "/tmp/acme.log")
  esmeLogLevel := some (octstrImm "0")
  maxSubmitsUncon := some (octstrImm "10")
  maxSubmits := some (octstrImm "20")
  maxTxSessions := some (octstrImm "2")
  maxRxSessions := some (octstrImm "2")
  allowSource := none
  maxTps := some (octstrImm "50")
  dndCheck := some (octstrImm "0")
  dedicateSmsc := some (octstrImm "smsc-one")

theorem accounts_of_sampleRow :
    ∃ contents, esmeFileUpdate (some [some (octstrImm "10.0.0.1")]) (some [sampleRow]) true = .written contents ∧
      ∃ fuel cfg, cfgRead (fun _ => some (.file contents)) fuel (octstrImm "smpp-esme.conf") = some (.read cfg) ∧
        smppClientAddCfg (fun _ _ => 0) cfg =
          .ok (if ∀ row ∈ [sampleRow], (rowAccount (fun _ _ => 0) row).isSome then 0 else -1,
            (([sampleRow].map (rowAccount fun _ _ => 0)).takeWhile (·.isSome)).reduceOption) :=
  ⟨_, rfl, accounts_of_database (fun _ _ => 0) [some (octstrImm "10.0.0.1")] rfl (by decide)
    (by decide +kernel) rfl⟩

/-- What the check of the configuration finds in accounts of rows: none of them prefers an SMSC. -/
theorem verifyConfigPara_rows (logOpen : Octstr → ℤ → ℤ) (hmodes : ∀ row ∈ rows, (rowAccount logOpen row).isSome) :
    verifyConfigPara ((rows.map (rowAccount logOpen)).takeWhile (·.isSome)).reduceOption =
      if (rows.map fun row => parseValue (percentS row.esmeAcc)).Nodup then 0 else -1 := by
  have haccounts : ((rows.map (rowAccount logOpen)).takeWhile (·.isSome)).reduceOption =
      rows.filterMap (rowAccount logOpen) := by
    rw [List.takeWhile_eq_self_iff.mpr (List.forall_mem_map.mpr hmodes)]
    exact List.filterMap_map
  have hnames : (rows.filterMap (rowAccount logOpen)).map (·.accountName) =
      rows.map fun row => parseValue (percentS row.esmeAcc) := by
    have hname : ∀ row ∈ rows, (rowAccount logOpen row).map (·.accountName) =
        some (parseValue (percentS row.esmeAcc)) := fun row hrow => by
      obtain ⟨ot, hot⟩ := Option.isSome_iff_exists.mp (hmodes row hrow)
      obtain ⟨mode, -, hmode⟩ := Option.map_eq_some_iff.mp hot
      rw [hot, ← hmode]
      rfl
    rw [List.map_filterMap, List.filterMap_congr hname, List.filterMap_eq_map']
  have hpreferred : ∀ ot ∈ rows.filterMap (rowAccount logOpen), ot.preferredSmsc = none := by
    intro ot hot
    obtain ⟨row, -, hot⟩ := List.mem_filterMap.mp hot
    obtain ⟨mode, -, rfl⟩ := Option.map_eq_some_iff.mp hot
    rfl
  have hdedicated : ¬ dedicatedShared (rows.filterMap (rowAccount logOpen)) := by
    rw [dedicatedShared_iff]
    rintro ⟨ot, hot, id, hid, -⟩
    rw [hpreferred ot hot] at hid
    cases hid
  have hshared : nameShared (rows.filterMap (rowAccount logOpen)) ↔
      ¬ (rows.map fun row => parseValue (percentS row.esmeAcc)).Nodup := by
    rw [nameShared_iff, hnames]
  rw [haccounts, verifyConfigPara_eq]
  by_cases hnodup : (rows.map fun row => parseValue (percentS row.esmeAcc)).Nodup
  · rw [if_pos hnodup, if_neg (not_or.mpr ⟨fun h => hshared.mp h hnodup, hdedicated⟩)]
  · rw [if_neg hnodup, if_pos (.inl (hshared.mpr hnodup))]

/-- **The server does not start** with the file that dbbox writes.  If all the modes are known and the names
differ, and it can start its client for dbbox, what stops it is the setting `dndcheck_flag`, which it needs and dbbox
does not write. -/
theorem server_does_not_start (logOpen : Octstr → ℤ → ℤ) (initStartClient : Octstr → ℤ → Bool)
    {fs : Octstr → Option Node} (ips : List (Option Octstr))
    {contents : Octstr} (hwritten : esmeFileUpdate (some ips) (some rows) true = .written contents)
    (hips : AddressesFit ips) (hrows : ∀ row ∈ rows, ∀ text ∈ rowTexts row, OneLine text)
    (hfile : fs filename = some (.file contents)) :
    ∃ fuel outcome, cfgRead fs fuel filename = some outcome ∧
      startServer logOpen initStartClient filename outcome = .error (
        if ∃ row ∈ rows, rowAccount logOpen row = none then .addCfg
        else if (rows.map fun row => parseValue (percentS row.esmeAcc)).Nodup then
          if initStartClient (octstrImm "localhost") 20000 then .notSpecified (octstrImm "dndcheck_flag")
          else .notConnected (octstrImm "dbbox")
        else .verification) := by
  obtain ⟨fuel, cfg, ip, hread, hcore, hmulti⟩ := cfgRead_written hwritten hips hrows hfile
  have hadd : smppClientAddCfg logOpen cfg =
      .ok (if ∀ row ∈ rows, (rowAccount logOpen row).isSome then 0 else -1,
        ((rows.map (rowAccount logOpen)).takeWhile (·.isSome)).reduceOption) := by
    rw [smppClientAddCfg, hmulti, smppClientAddOnes_rows, List.nil_append]
  refine ⟨fuel, .read cfg, hread, ?_⟩
  simp only [startServer, hcore, hadd]
  by_cases hmodes : ∀ row ∈ rows, (rowAccount logOpen row).isSome = true
  · have hnone : ¬ ∃ row ∈ rows, rowAccount logOpen row = none := by
      rintro ⟨row, hrow, hnone⟩
      have hsome := hmodes row hrow
      rw [hnone] at hsome
      cases hsome
    rw [if_pos hmodes, if_neg (by decide), verifyConfigPara_rows logOpen hmodes, if_neg hnone]
    by_cases hnodup : (rows.map fun row => parseValue (percentS row.esmeAcc)).Nodup
    · rw [if_pos hnodup, if_neg (by decide), readSettings_coreGroup, if_pos hnodup]
      rfl
    · rw [if_neg hnodup, if_pos rfl, if_neg hnodup]
  · have hsome : ∃ row ∈ rows, rowAccount logOpen row = none := by
      push Not at hmodes
      obtain ⟨row, hrow, hnone⟩ := hmodes
      exact ⟨row, hrow, Option.not_isSome_iff_eq_none.mp hnone⟩
    rw [if_neg hmodes, if_pos rfl, if_pos hsome]

theorem server_does_not_start_sampleRow :
    ∃ contents, esmeFileUpdate (some [some (octstrImm "10.0.0.1")]) (some [sampleRow]) true = .written contents ∧
      ∃ fuel outcome, cfgRead (fun _ => some (.file contents)) fuel (octstrImm "smpp-esme.conf") = some outcome ∧
        startServer (fun _ _ => 0) (fun _ _ => true) (octstrImm "smpp-esme.conf") outcome = .error (
          if ∃ row ∈ [sampleRow], rowAccount (fun _ _ => 0) row = none then .addCfg
          else if ([sampleRow].map fun row => parseValue (percentS row.esmeAcc)).Nodup then
            if true then .notSpecified (octstrImm "dndcheck_flag") else .notConnected (octstrImm "dbbox")
          else .verification) :=
  ⟨_, rfl, server_does_not_start (fun _ _ => 0) (fun _ _ => true) [some (octstrImm "10.0.0.1")] rfl (by decide)
    (by decide +kernel) rfl⟩

end Groups

end SmppServer.SmppEsme
