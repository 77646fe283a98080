import SmppServer.Smsc.Conn
import SmppServer.Esme.SmscList
import SmppServer.Machinery.Exec

/-!
# Smsc/SystemInfo — announcing the SMSCs to the ESME process

Routing positions are indices into `smsc_list` of the SMSC process; the ESME process computes them in
a list of its own, which it builds from a count and the entries that follow it.  Two threads of the
SMSC process send entries over one connection: `send_system_info_init`, after it sent the count, and
`send_system_info`, again and again.

* `announce` — the protocol that the receiver relies on: after the count, entry by entry.
* `smsc2RestartSmsc_ids` — a restart keeps the ids of the list.
* `positionsAgree_of_inTurn` — in every run whose entries are sent in turn the lists agree: see `InTurn`.
-/

namespace SmppServer.SmppSmsc

open Machinery SmppEsme

/-! ## The list of connections

Ids are those of the groups of the configuration, and a restart replaces a connection by one with the same id at
the same position. -/

/-- A group `smsc` of the configuration; `smpp` is what `smsc_smpp_create` makes of it, if it
succeeds. -/
structure CfgGroup where
  smsc : Option Octstr
  smscId : Option Octstr
  smscType : Option Octstr
  allowedPrefix : Option Octstr := none
  deniedPrefix : Option Octstr := none
  allowedPrefixRegex : Option Octstr := none
  deniedPrefixRegex : Option Octstr := none
  smpp : Option Smpp
  deriving DecidableEq

/-- The values of `smsc-type`. -/
def smscTypes : List Octstr :=
  [octstrImm "int", octstrImm "gsm", octstrImm "cdma", octstrImm "all"]

/-- `smscconn_create`. -/
def smscconnCreate : Option CfgGroup → Option SmscConn
  | none => none
  | some grp =>
    match grp.smsc, grp.smscId, grp.smscType with
    | some _, some id, some smscType =>
      if smscType ∈ smscTypes then
        grp.smpp.map fun data =>
          { id := id
            smscType := smscType
            allowedPrefix := grp.allowedPrefix
            deniedPrefix := grp.deniedPrefix
            allowedPrefixRegex := grp.allowedPrefixRegex
            deniedPrefixRegex := grp.deniedPrefixRegex
            data := data }
      else none
    | _, _, _ => none

/-- A created connection has the id of its group, and was not opened yet. -/
theorem smscconnCreate_eq_some {grp : CfgGroup} {conn : SmscConn}
    (h : smscconnCreate (some grp) = some conn) :
    grp.smscId = some conn.id ∧ conn.status = .connecting ∧ conn.mode = 0 := by
  rw [smscconnCreate] at h
  split at h
  · rename_i id smscType _ hid _
    obtain ⟨-, h⟩ := Option.ite_none_right_eq_some.mp h
    obtain ⟨data, -, rfl⟩ := Option.map_eq_some_iff.mp h
    exact ⟨hid, rfl, rfl⟩
  · exact absurd h (by simp)

/-- `start2_smsc`: one connection for each group; it panics if one is missing or two ids are equal. -/
def start2Smsc (smscGroups : List CfgGroup) : Option (List SmscConn) :=
  match smscGroups.mapM fun grp => smscconnCreate (some grp) with
  | none => none
  | some smscList => if (smscList.map (·.id)).Nodup then some smscList else none

/-- The search for the group of a connection: the number of hits and the group it stopped at.  If there
are not enough hits, that is the last group. -/
def findGroup (id : Octstr) (num : ℕ) : ℕ → Option CfgGroup → List CfgGroup → ℕ × Option CfgGroup
  | hit, grp, [] => (hit, grp)
  | hit, _, grp :: rest =>
    if grp.smscId = some id then
      if hit = num then (hit, some grp) else findGroup id num (hit + 1) (some grp) rest
    else findGroup id num hit (some grp) rest

/-- The loop of `smsc2_restart_smsc` over the positions that `smsc2_find` returns: a dead connection is
replaced by a new one at its position. -/
def restartLoop (smscGroups : List CfgGroup) (id : Octstr) : ℕ → List SmscConn → List SmscConn
  | _, [] => []
  | num, conn :: rest =>
    if conn.id ≠ id ∨ conn.status ≠ .dead then conn :: restartLoop smscGroups id num rest
    else
      let (hit, grp) := findGroup id num 0 none smscGroups
      if hit ≠ num then conn :: rest
      else
        match smscconnCreate grp with
        | none => conn :: restartLoop smscGroups id num rest
        | some newConn => newConn :: restartLoop smscGroups id (num + 1) rest

/-- `smsc2_restart_smsc` on the list. -/
def smsc2RestartSmsc (smscGroups : List CfgGroup) (smscList : List SmscConn) (id : Octstr) :
    List SmscConn :=
  restartLoop smscGroups id 0 smscList

/-- The first search finds a group with the id if there is one. -/
theorem findGroup_zero {id : Octstr} {grps : List CfgGroup} (grp₀ : Option CfgGroup)
    (h : ∃ grp ∈ grps, grp.smscId = some id) :
    ∃ grp, findGroup id 0 0 grp₀ grps = (0, some grp) ∧ grp.smscId = some id := by
  induction grps generalizing grp₀ with
  | nil => simp at h
  | cons grp rest ih =>
    rw [findGroup]
    by_cases hid : grp.smscId = some id
    · rw [if_pos hid, if_pos rfl]
      exact ⟨grp, rfl, hid⟩
    · rw [if_neg hid]
      obtain ⟨grp', hmem, hid'⟩ := h
      obtain rfl | hmem := List.mem_cons.mp hmem
      · exact absurd hid' hid
      · exact ih _ ⟨grp', hmem, hid'⟩

/-- Without a connection of that id the loop changes nothing. -/
theorem restartLoop_of_notMem {grps : List CfgGroup} {id : Octstr} {num : ℕ} {l : List SmscConn}
    (h : id ∉ l.map (·.id)) : restartLoop grps id num l = l := by
  induction l with
  | nil => rfl
  | cons conn rest ih =>
    rw [List.map_cons, List.mem_cons, not_or] at h
    rw [restartLoop, if_pos (.inl (Ne.symm h.1)), ih h.2]

/-- **A restart keeps the ids**, if they are distinct and each has a group. -/
theorem smsc2RestartSmsc_ids {grps : List CfgGroup} {l : List SmscConn} (id : Octstr)
    (hnodup : (l.map (·.id)).Nodup)
    (hgroup : ∀ id ∈ l.map (·.id), ∃ grp ∈ grps, grp.smscId = some id) :
    (smsc2RestartSmsc grps l id).map (·.id) = l.map (·.id) := by
  rw [smsc2RestartSmsc]
  induction l with
  | nil => rfl
  | cons conn rest ih =>
    rw [List.map_cons, List.nodup_cons] at hnodup
    rw [List.map_cons, List.forall_mem_cons] at hgroup
    rw [restartLoop]
    split
    · rw [List.map_cons, List.map_cons, ih hnodup.2 hgroup.2]
    · rename_i hdead
      rw [not_or, not_not, not_not] at hdead
      obtain ⟨rfl, -⟩ := hdead
      obtain ⟨grp, hfind, hid⟩ := findGroup_zero none hgroup.1
      simp only [hfind, ne_eq, not_true_eq_false, if_false]
      split
      · rw [List.map_cons, List.map_cons, ih hnodup.2 hgroup.2]
      · rename_i newConn hcreate
        have hnew : newConn.id = conn.id :=
          Option.some.inj ((smscconnCreate_eq_some hcreate).1.symm.trans hid)
        rw [restartLoop_of_notMem hnodup.1, List.map_cons, List.map_cons, hnew]

/-- Every connection created comes from a group. -/
theorem exists_group_of_mapM {grps : List CfgGroup} {l : List SmscConn} {conn : SmscConn}
    (h : (grps.mapM fun grp => smscconnCreate (some grp)) = some l) (hconn : conn ∈ l) :
    ∃ grp ∈ grps, grp.smscId = some conn.id := by
  induction grps generalizing l with
  | nil =>
    obtain rfl : [] = l := Option.some.inj h
    simp at hconn
  | cons grp rest ih =>
    simp only [List.mapM_cons, Option.bind_eq_bind, Option.pure_def, Option.bind_eq_some_iff,
      Option.some.injEq] at h
    obtain ⟨new, hnew, news, hnews, rfl⟩ := h
    obtain rfl | hconn := List.mem_cons.mp hconn
    · exact ⟨grp, List.mem_cons_self, (smscconnCreate_eq_some hnew).1⟩
    · obtain ⟨grp', hmem, hid⟩ := ih hnews hconn
      exact ⟨grp', List.mem_cons_of_mem _ hmem, hid⟩

/-- `start2_smsc` gives distinct ids, each with a group. -/
theorem start2Smsc_eq_some {grps : List CfgGroup} {l : List SmscConn} (h : start2Smsc grps = some l) :
    (l.map (·.id)).Nodup ∧ ∀ id ∈ l.map (·.id), ∃ grp ∈ grps, grp.smscId = some id := by
  rw [start2Smsc] at h
  split at h
  · exact absurd h (by simp)
  · rename_i smscList hmap
    split at h
    · rename_i hnodup
      obtain rfl := Option.some.inj h
      refine ⟨hnodup, fun id hid => ?_⟩
      obtain ⟨conn, hconn, rfl⟩ := List.mem_map.mp hid
      exact exists_group_of_mapM hmap hconn
    · exact absurd h (by simp)

/-! ## The protocol

The receiver knows no positions: it appends entries until it has as many as were announced, and updates by id
afterwards.  The automaton says which sequences it understands. -/

/-- A message on the reverse connection. -/
inductive ReverseMsg
  | noOfSmsc (noOfSmsc : ℕ)
  | infoSmsc (msg : InfoSmsc)
  deriving DecidableEq, Repr

/-- `handle_request` of the ESME process. -/
def receive (d : SmscData) : ReverseMsg → SmscData
  | .noOfSmsc n => handleNoOfSmsc n
  | .infoSmsc msg => handleInfoSmsc d msg

/-- **The announcement as an automaton.**  Its state is the number of entries since the last count,
`none` before the first.  A count starts anew; while entries are missing, the next one is that at the
position counted so far. -/
def announce (ids : List Octstr) : Option ℕ → ReverseMsg → Option (Option ℕ)
  | _, .noOfSmsc n => if n = ids.length then some (some 0) else none
  | none, .infoSmsc _ => some none
  | some k, .infoSmsc msg =>
    if ids.length ≤ k ∨ ids[k]? = some msg.smscId then some (some (k + 1)) else none

/-- What the ESME process holds after so many entries. -/
def Mirrors (ids : List Octstr) : Option ℕ → SmscData → Prop
  | none, d => d.totalSmsc = -1 ∧ d.smscDataRecieved = -1
  | some k, d => d.totalSmsc = ids.length ∧ d.smscDataRecieved = (min k ids.length : ℕ) - 1 ∧
      d.smscList.map (·.smscId) = ids.take k

section Protocol

variable {ids : List Octstr} {k k' : Option ℕ} {d : SmscData} {m : ReverseMsg}

/-- A count starts the list anew. -/
theorem mirrors_handleNoOfSmsc (ids : List Octstr) :
    Mirrors ids (some 0) (handleNoOfSmsc ids.length) :=
  ⟨rfl, by simp [handleNoOfSmsc], rfl⟩

/-- An entry in turn is appended while entries are missing, and updates the list afterwards. -/
theorem Mirrors.handleInfoSmsc {msg : InfoSmsc} {n : ℕ} (h : Mirrors ids (some n) d)
    (hnext : ids.length ≤ n ∨ ids[n]? = some msg.smscId) :
    Mirrors ids (some (n + 1)) (handleInfoSmsc d msg) := by
  obtain ⟨htotal, hreceived, hlist⟩ := h
  rw [SmppEsme.handleInfoSmsc]
  by_cases hn : n < ids.length
  · have hid := hnext.resolve_left (by omega)
    rw [if_pos (by omega)]
    refine ⟨htotal, by simp only [hreceived]; omega, ?_⟩
    rw [prepareSmscList_map_smscId, hlist, List.take_add_one, hid, Option.toList_some]
  · rw [if_neg (by omega)]
    refine ⟨htotal, by simp only [hreceived]; omega, ?_⟩
    rw [updateSmscList_map_smscId, hlist, List.take_of_length_le (by omega),
      List.take_of_length_le (by omega)]

/-- **The receiver follows the protocol.** -/
theorem Mirrors.receive (h : Mirrors ids k d) (hm : announce ids k m = some k') :
    Mirrors ids k' (receive d m) := by
  cases m with
  | noOfSmsc n =>
    simp only [announce] at hm
    split at hm
    · rename_i hn
      obtain rfl := Option.some.inj hm
      exact hn ▸ mirrors_handleNoOfSmsc ids
    · exact absurd hm (by simp)
  | infoSmsc msg =>
    cases k with
    | none =>
      -- before the first count an entry is an update of nothing
      obtain rfl := Option.some.inj hm
      obtain ⟨htotal, hreceived⟩ := h
      rw [SmppSmsc.receive, SmppEsme.handleInfoSmsc, if_neg (by omega)]
      exact ⟨htotal, hreceived⟩
    | some n =>
      simp only [announce] at hm
      split at hm
      · rename_i hnext
        obtain rfl := Option.some.inj hm
        exact h.handleInfoSmsc hnext
      · exact absurd hm (by simp)

/-- When all entries are gathered, the lists agree. -/
theorem Mirrors.ids_eq_of_gathered (h : Mirrors ids k d) (hg : d.Gathered) :
    d.smscList.map (·.smscId) = ids := by
  rw [SmscData.Gathered] at hg
  cases k with
  | none =>
    obtain ⟨htotal, hreceived⟩ := h
    omega
  | some k =>
    obtain ⟨htotal, hreceived, hlist⟩ := h
    rw [hlist, List.take_of_length_le (by omega)]

end Protocol

/-! ## The threads

Both threads send entries from the same list, and each keeps its own position in it. -/

/-- Where `send_system_info` is: asleep, before its first turn or later; in the loop; or ended. -/
inductive SystemInfoPc
  | asleep (first : Bool)
  | sending (i : ℕ)
  | ended
  deriving DecidableEq, Repr

/-- The position the loop has reached. -/
def SystemInfoPc.position : SystemInfoPc → Option ℕ
  | .sending i => some i
  | .asleep _ | .ended => none

/-- The SMSC process as far as it announces its connections, the messages on the reverse connection,
and the ESME process at its end.  `readers` counts the read locks held on `smsc_list_lock`;
`followed` is the number of entries sent since the last count. -/
structure Announcer where
  smscGroups : List CfgGroup
  smscList : List SmscConn
  readers : ℕ := 0
  init : Option ℕ := none
  periodic : SystemInfoPc := .asleep true
  reverse : List ReverseMsg := []
  followed : Option ℕ := none
  esme : SmscData := {}
  deriving DecidableEq

def Announcer.ids (s : Announcer) : List Octstr := s.smscList.map (·.id)

/-- The message that both threads make of a connection. -/
def infoSmsc (conn : SmscConn) : InfoSmsc where
  smscId := conn.id
  connStatus := if (smscconnInfo conn).status = .active then 1 else 0
  smscType := conn.smscType
  connMode := (smscconnInfo conn).mode

/-- `send_msg_reverse_server`. -/
def Announcer.sendMsgReverseServer (s : Announcer) (msg : ReverseMsg) : Announcer :=
  { s with
    reverse := s.reverse ++ [msg]
    followed := match msg with
      | .noOfSmsc _ => some 0
      | .infoSmsc _ => s.followed.map (· + 1) }

/-- What happens: `send_system_info_init` is called, or its loop turns; `send_system_info` wakes up, or
its loop turns; a connection is restarted; the threads of a connection change it; the ESME process
takes a message. -/
inductive AnnouncerEvent
  | sendSystemInfoInit
  | initTurn
  | wakeSystemInfo
  | systemInfoTurn
  | smsc2RestartSmsc (id : Octstr)
  | connChange (i : ℕ) (conn : SmscConn)
  | deliver
  deriving DecidableEq

/-- **One step.**  `send_system_info_init` waits at a connection that did not send its bind, and does
not release the lock. -/
def announcerStep (s : Announcer) : AnnouncerEvent → Option Announcer
  | .sendSystemInfoInit =>
    if s.init ≠ none then none
    else if s.smscList = [] then some s
    else some
      { s.sendMsgReverseServer (.noOfSmsc s.smscList.length) with
        readers := s.readers + 1
        init := some 0 }
  | .initTurn =>
    match s.init with
    | none => none
    | some i =>
      match s.smscList[i]? with
      | none => some { s with init := none }
      | some conn =>
        if conn.bindSent ≠ 1 then some s
        else some { s.sendMsgReverseServer (.infoSmsc (infoSmsc conn)) with init := some (i + 1) }
  | .wakeSystemInfo =>
    match s.periodic with
    | .asleep first =>
      if s.smscList = [] then some { s with periodic := .ended }
      else if first then some { s with periodic := .asleep false }
      else some { s with readers := s.readers + 1, periodic := .sending 0 }
    | _ => none
  | .systemInfoTurn =>
    match s.periodic with
    | .sending i =>
      match s.smscList[i]? with
      | none => some { s with readers := s.readers - 1, periodic := .asleep false }
      | some conn => some
          { s.sendMsgReverseServer (.infoSmsc (infoSmsc conn)) with periodic := .sending (i + 1) }
    | _ => none
  | .smsc2RestartSmsc id =>
    if s.readers = 0 then
      some { s with smscList := smsc2RestartSmsc s.smscGroups s.smscList id }
    else none
  | .connChange i conn' =>
    match s.smscList[i]? with
    | none => none
    | some conn =>
      if conn'.id = conn.id then some { s with smscList := s.smscList.set i conn' } else none
  | .deliver =>
    match s.reverse with
    | [] => none
    | msg :: rest => some { s with reverse := rest, esme := receive s.esme msg }

/-- **Routing positions agree**: when the ESME process has gathered the number announced, its list
names the same SMSCs at the same positions. -/
def Announcer.PositionsAgree (s : Announcer) : Prop :=
  s.esme.Gathered → s.esme.smscList.map (·.smscId) = s.ids

instance (s : Announcer) : Decidable s.PositionsAgree := inferInstanceAs (Decidable (_ → _))

/-- The entry at position `i` may be sent: no count was sent yet, or all entries that belong to the last
one were, or this one is next. -/
def Announcer.Turn (s : Announcer) (i : ℕ) : Prop :=
  ∀ k ∈ s.followed, s.smscList.length ≤ k ∨ i = k

instance (s : Announcer) (i : ℕ) : Decidable (s.Turn i) := inferInstanceAs (Decidable (∀ _ ∈ _, _))

/-- **Entries are sent in turn**, by either thread. -/
def InTurn (s : Announcer) : AnnouncerEvent → Prop
  | .initTurn => ∀ i ∈ s.init, ∀ conn ∈ s.smscList[i]?, conn.bindSent = 1 → s.Turn i
  | .systemInfoTurn => ∀ i ∈ s.periodic.position, i < s.smscList.length → s.Turn i
  | _ => True

instance (s : Announcer) : ∀ e, Decidable (InTurn s e)
  | .initTurn => inferInstanceAs
      (Decidable (∀ i ∈ s.init, ∀ conn ∈ s.smscList[i]?, conn.bindSent = 1 → s.Turn i))
  | .systemInfoTurn => inferInstanceAs
      (Decidable (∀ i ∈ s.periodic.position, i < s.smscList.length → s.Turn i))
  | .sendSystemInfoInit | .wakeSystemInfo | .smsc2RestartSmsc _ | .connChange _ _ | .deliver =>
    .isTrue trivial

/-! ## The invariant

Following the messages under way from what the ESME process holds, the automaton ends in the state of the
sender.  An entry in turn is a step it can take. -/

/-- The messages on the reverse connection take the protocol from what the ESME process holds to what
the SMSC process sent last. -/
structure Announcer.Inv (s : Announcer) : Prop where
  nodup : s.ids.Nodup
  group : ∀ id ∈ s.ids, ∃ grp ∈ s.smscGroups, grp.smscId = some id
  path : ∃ k, Mirrors s.ids k s.esme ∧ exec (announce s.ids) k s.reverse = some s.followed

section Steps

variable {s s' : Announcer} {e : AnnouncerEvent} {i : ℕ} {conn : SmscConn}

theorem Announcer.length_ids (s : Announcer) : s.ids.length = s.smscList.length := List.length_map _

/-- An entry sent in turn is one the protocol expects. -/
theorem Announcer.Turn.announce (h : s.Turn i) (hconn : s.smscList[i]? = some conn) :
    announce s.ids s.followed (.infoSmsc (infoSmsc conn)) = some (s.followed.map (· + 1)) := by
  have hid : s.ids[i]? = some conn.id := by rw [Announcer.ids, List.getElem?_map, hconn]; rfl
  cases hfollowed : s.followed with
  | none => rfl
  | some k =>
    have hturn : s.ids.length ≤ k ∨ s.ids[k]? = some (infoSmsc conn).smscId := by
      obtain hk | rfl := h k hfollowed
      · exact .inl (s.length_ids ▸ hk)
      · exact .inr hid
    rw [SmppSmsc.announce, if_pos hturn]
    rfl

/-- Sending what the protocol expects. -/
theorem Announcer.Inv.send {msg : ReverseMsg} (hi : s.Inv)
    (hmsg : announce s.ids s.followed msg = some (s.sendMsgReverseServer msg).followed) :
    (s.sendMsgReverseServer msg).Inv := by
  obtain ⟨k, hmirrors, hpath⟩ := hi.path
  exact ⟨hi.nodup, hi.group, k, hmirrors, exec_concat hpath hmsg⟩

/-- The invariant speaks of the ids, the groups, the messages and the ESME process only. -/
theorem Announcer.Inv.congr (hi : s.Inv) (hids : s'.ids = s.ids) (hgroups : s'.smscGroups = s.smscGroups)
    (hreverse : s'.reverse = s.reverse) (hfollowed : s'.followed = s.followed)
    (hesme : s'.esme = s.esme) : s'.Inv := by
  refine ⟨?_, ?_, ?_⟩
  · exact hids ▸ hi.nodup
  · rw [hids, hgroups]
    exact hi.group
  · rw [hids, hreverse, hfollowed, hesme]
    exact hi.path

/-- The count is sent. -/
theorem Announcer.Inv.sendSystemInfoInit (hi : s.Inv)
    (h : announcerStep s .sendSystemInfoInit = some s') : s'.Inv := by
  rw [announcerStep] at h
  split at h
  · exact absurd h (by simp)
  split at h
  · exact Option.some.inj h ▸ hi
  · rw [← Option.some.inj h]
    have hcount : announce s.ids s.followed (.noOfSmsc s.smscList.length) = some (some 0) := by
      rw [announce, if_pos s.length_ids.symm]
    exact (hi.send hcount).congr rfl rfl rfl rfl rfl

/-- A turn of the loop of `send_system_info_init`. -/
theorem Announcer.Inv.initTurn (hi : s.Inv) (hg : InTurn s .initTurn)
    (h : announcerStep s .initTurn = some s') : s'.Inv := by
  rw [announcerStep] at h
  split at h
  · exact absurd h (by simp)
  rename_i i hinit
  split at h
  · rw [← Option.some.inj h]
    exact hi.congr rfl rfl rfl rfl rfl
  rename_i conn hconn
  split at h
  · exact Option.some.inj h ▸ hi
  · rename_i hbind
    rw [← Option.some.inj h]
    have hturn : s.Turn i := hg i hinit conn hconn (not_not.mp hbind)
    exact (hi.send (hturn.announce hconn)).congr rfl rfl rfl rfl rfl

/-- `send_system_info` wakes up. -/
theorem Announcer.Inv.wakeSystemInfo (hi : s.Inv) (h : announcerStep s .wakeSystemInfo = some s') :
    s'.Inv := by
  rw [announcerStep] at h
  split at h
  · split at h
    · rw [← Option.some.inj h]
      exact hi.congr rfl rfl rfl rfl rfl
    split at h
    all_goals
      rw [← Option.some.inj h]
      exact hi.congr rfl rfl rfl rfl rfl
  · exact absurd h (by simp)

/-- A turn of the loop of `send_system_info`. -/
theorem Announcer.Inv.systemInfoTurn (hi : s.Inv) (hg : InTurn s .systemInfoTurn)
    (h : announcerStep s .systemInfoTurn = some s') : s'.Inv := by
  rw [announcerStep] at h
  split at h
  · rename_i i hpc
    split at h
    · rw [← Option.some.inj h]
      exact hi.congr rfl rfl rfl rfl rfl
    · rename_i conn hconn
      rw [← Option.some.inj h]
      have hlt : i < s.smscList.length := (List.getElem?_eq_some_iff.mp hconn).1
      have hturn : s.Turn i := hg i (by rw [hpc]; rfl) hlt
      exact (hi.send (hturn.announce hconn)).congr rfl rfl rfl rfl rfl
  · exact absurd h (by simp)

/-- A change of a connection that keeps its id keeps all ids. -/
theorem map_id_set {l : List SmscConn} {conn' : SmscConn} (hconn : l[i]? = some conn)
    (hid : conn'.id = conn.id) : (l.set i conn').map (·.id) = l.map (·.id) := by
  obtain ⟨hlt, rfl⟩ := List.getElem?_eq_some_iff.mp hconn
  have hlt' : i < (l.map (·.id)).length := by rwa [List.length_map]
  have hget : (l.map (·.id))[i] = l[i].id := List.getElem_map _
  rw [List.map_set, hid, ← hget]
  exact List.set_getElem_self hlt'

/-- A message is delivered: the receiver follows the protocol. -/
theorem Announcer.Inv.deliver (hi : s.Inv) (h : announcerStep s .deliver = some s') : s'.Inv := by
  rw [announcerStep] at h
  split at h
  · exact absurd h (by simp)
  · rename_i msg rest hreverse
    rw [← Option.some.inj h]
    obtain ⟨k, hmirrors, hpath⟩ := hi.path
    rw [hreverse] at hpath
    obtain ⟨k', hmsg, hrest⟩ := exec_cons_eq_some.mp hpath
    exact ⟨hi.nodup, hi.group, k', hmirrors.receive hmsg, hrest⟩

/-- **Every step in turn keeps the invariant.** -/
theorem Announcer.Inv.step (hi : s.Inv) (hg : InTurn s e) (h : announcerStep s e = some s') :
    s'.Inv := by
  cases e with
  | sendSystemInfoInit => exact hi.sendSystemInfoInit h
  | initTurn => exact hi.initTurn hg h
  | wakeSystemInfo => exact hi.wakeSystemInfo h
  | systemInfoTurn => exact hi.systemInfoTurn hg h
  | smsc2RestartSmsc id =>
    rw [announcerStep] at h
    split at h
    · rw [← Option.some.inj h]
      exact hi.congr (smsc2RestartSmsc_ids id hi.nodup hi.group) rfl rfl rfl rfl
    · exact absurd h (by simp)
  | connChange i conn' =>
    rw [announcerStep] at h
    split at h
    · exact absurd h (by simp)
    rename_i conn hconn
    split at h
    · rename_i hid
      rw [← Option.some.inj h]
      exact hi.congr (map_id_set hconn hid) rfl rfl rfl rfl
    · exact absurd h (by simp)
  | deliver => exact hi.deliver h

end Steps

/-- **Routing positions agree.**  For every configuration, and every interleaving of the two threads,
restarts and deliveries in which entries are sent in turn. -/
theorem positionsAgree_of_inTurn {grps : List CfgGroup} {l : List SmscConn}
    (hstart : start2Smsc grps = some l) {evs : List AnnouncerEvent} {s : Announcer}
    (hturn : Along announcerStep InTurn { smscGroups := grps, smscList := l } evs)
    (hrun : exec announcerStep { smscGroups := grps, smscList := l } evs = some s) :
    s.PositionsAgree := by
  obtain ⟨hnodup, hgroup⟩ := start2Smsc_eq_some hstart
  have hi : Announcer.Inv { smscGroups := grps, smscList := l } :=
    ⟨hnodup, hgroup, none, ⟨rfl, rfl⟩, rfl⟩
  obtain ⟨k, hmirrors, -⟩ := (exec_invariant (fun hi hg h => hi.step hg h) hi hturn hrun).path
  exact hmirrors.ids_eq_of_gathered

/-- Two groups. -/
def sampleGroups : List CfgGroup :=
  [{ smsc := some (octstrImm "smpp"), smscId := some (octstrImm "smsc-a")
     smscType := some (octstrImm "gsm"), smpp := some sampleSmpp },
   { smsc := some (octstrImm "smpp"), smscId := some (octstrImm "smsc-b")
     smscType := some (octstrImm "gsm"), smpp := some sampleSmpp }]

/-- The connections of the two groups. -/
def sampleList : List SmscConn := (start2Smsc sampleGroups).get (by decide)

/-- Both binds are sent; the ESME process connects and gets the count and both entries. -/
def sampleAnnouncement : List AnnouncerEvent :=
  [.connChange 0 { sampleConn with bindSent := 1 },
   .connChange 1 { sampleConn with id := octstrImm "smsc-b", bindSent := 1 },
   .wakeSystemInfo, .sendSystemInfoInit, .initTurn, .initTurn, .initTurn, .deliver, .deliver, .deliver,
   .wakeSystemInfo, .systemInfoTurn, .systemInfoTurn, .systemInfoTurn, .deliver, .deliver]

theorem positionsAgree_sampleAnnouncement :
    ((exec announcerStep { smscGroups := sampleGroups, smscList := sampleList }
      sampleAnnouncement).get (by decide)).PositionsAgree :=
  positionsAgree_of_inTurn (Option.some_get _).symm (by decide) (Option.some_get _).symm

/-- `send_system_info` wakes up while `send_system_info_init` is between its two entries: the ESME
process has the first SMSC twice. -/
def sampleInterleaving : List AnnouncerEvent :=
  [.connChange 0 { sampleConn with bindSent := 1 }, .wakeSystemInfo, .sendSystemInfoInit, .initTurn,
   .wakeSystemInfo, .systemInfoTurn, .deliver, .deliver, .deliver]

theorem positionsAgree_sampleInterleaving :
    ¬ ∀ (grps : List CfgGroup) (l : List SmscConn), start2Smsc grps = some l →
      ∀ (evs : List AnnouncerEvent) (s : Announcer),
        exec announcerStep { smscGroups := grps, smscList := l } evs = some s → s.PositionsAgree := by
  intro hall
  have h := hall sampleGroups sampleList (Option.some_get _).symm sampleInterleaving _
    (Option.some_get (by decide)).symm
  exact absurd h (by decide)

end SmppServer.SmppSmsc
