import Mathlib.Data.Finset.Card
import Mathlib.Data.Int.Interval
import SmppServer.Esme.Account
import SmppServer.Machinery.Arena

/-!
# Esme/Registry — the registry of bound sessions

`esme_list` holds one `ESME` per account with a bound session; each carries a list of transmitter
sessions (`tx_esme`, also used by transceivers) and a list of receiver sessions (`rx_esme`).  Session
threads keep a pointer to their account's entry and the id of their session, so the registry is an
`Arena`: entries are reached through pointers, and a pointer to a freed entry is reached no more.

* `allocateSessionId_not_mem`, `one_le_allocateSessionId` — the id given to a new session is
  positive and not in use.
* `allocateSessionIdOf_isLeast` — it is the least such number.
* `esmeDestroy_eq_free`, `esmeDestroy_eq_modify` — what a destroy does to an entry that is the only
  one of its name and holds the session.
-/

namespace SmppServer.SmppEsme

open Machinery

/-- The status of a session. -/
inductive EsmeStatus
  | unconnected
  | binded
  | disconnect
  | sendUnbind
  | smscUnconnected
  deriving DecidableEq, Repr

/-- `struct msg_deliver`: a receipt that a session is to write. -/
structure MsgDeliver where
  smscId : Option Octstr
  smscMsgId : Option Octstr
  accountMsgId : Option Octstr
  os : Option Octstr
  deriving DecidableEq, Repr

/-- What `ESME_TX` and `ESME_RX` have in common.  `conn` names the connection the session was bound
over. -/
structure Session where
  conn : ℕ
  clientIp : Octstr
  clientPort : ℤ
  listenPort : ℤ
  startTime : ℤ
  seqNumberCounter : ℕ
  status : EsmeStatus
  msgSent : ℕ := 0
  quit : ℤ := 0
  mode : ℤ
  threadId : ℤ
  dataToWrite : List MsgDeliver := []
  sessionId : ℤ
  deriving DecidableEq, Repr

/-- `ESME_TX`: a transmitter or transceiver session. -/
structure EsmeTx extends Session where
  msgReceived : ℕ := 0
  msgRejected : ℕ := 0
  submitsUnconnect : ℕ := 0
  deriving DecidableEq, Repr

/-- `ESME_RX`: a receiver session. -/
structure EsmeRx extends Session where
  deriving DecidableEq, Repr

/-- `ESME`: an account with a bound session.  `rxLogIdx` is left unset when the account has no
receiver log. -/
structure Esme where
  systemId : Option Octstr
  password : Option Octstr
  systemType : Option Octstr
  interfaceVersion : ℤ
  addrTon : ℤ
  addrNpi : ℤ
  addressRange : Option Octstr
  enquireLinkInterval : ℤ
  allowedPrefix : Option Octstr
  deniedPrefix : Option Octstr
  maxSubmitsUnconnect : ℤ
  maxSubmits : ℤ
  maxTps : ℤ
  validTimeFrom : ℤ
  validTimeTo : ℤ
  dndCheck : ℤ
  msgCount : ℤ
  esmTime : ℤ
  logFile : Option Octstr
  rxLogFile : Option Octstr
  logLevel : ℤ
  logIdx : ℤ
  rxLogIdx : Option ℤ
  txEsme : List EsmeTx
  rxEsme : List EsmeRx
  deriving DecidableEq, Repr

/-- The two session lists of an entry. -/
inductive Kind
  | tx
  | rx
  deriving DecidableEq, Repr

/-- The list a session of that mode belongs to: transceivers are kept with the transmitters. -/
def Kind.ofMode (mode : ℤ) : Kind := if mode = 2 then .rx else .tx

/-- The `thread_type` with which a session thread destroys its session. -/
def Kind.threadType : Kind → ℤ
  | .tx => 1
  | .rx => 2

/-- What the sessions of a kind have in common. -/
def Esme.sessions (e : Esme) : Kind → List Session
  | .tx => e.txEsme.map (·.toSession)
  | .rx => e.rxEsme.map (·.toSession)

/-- The ids in use for a kind of session. -/
def Esme.ids (e : Esme) (k : Kind) : List ℤ := (e.sessions k).map (·.sessionId)

theorem Esme.ids_tx (e : Esme) : e.ids .tx = e.txEsme.map (·.sessionId) := List.map_map

theorem Esme.ids_rx (e : Esme) : e.ids .rx = e.rxEsme.map (·.sessionId) := List.map_map

theorem Esme.forall_sessions_eq_nil {e : Esme} :
    (∀ k, e.sessions k = []) ↔ e.txEsme = [] ∧ e.rxEsme = [] := by
  constructor
  · exact fun h => ⟨List.map_eq_nil_iff.mp (h .tx), List.map_eq_nil_iff.mp (h .rx)⟩
  · rintro ⟨htx, hrx⟩ (_ | _)
    · exact List.map_eq_nil_iff.mpr htx
    · exact List.map_eq_nil_iff.mpr hrx

/-- `esme_list` with the entries it points at. -/
abbrev Registry := Arena Esme

/-- `is_present_esme`: the first entry of that name, with its address. -/
def isPresentEsme (r : Registry) (systemId : Option Octstr) : Option (ℕ × Esme) :=
  r.find? fun e => e.systemId = systemId

/-! ## Session ids

The search tries `1`, then the numbers above the least id in use, as many as there are ids and one more.  One of
these is free by counting, and the first that is free has everything below it in use. -/

/-- The least id of a list, `0` for the empty list. -/
def lowestId : List ℤ → ℤ
  | [] => 0
  | i :: is => is.foldl (fun low j => if j < low then j else low) i

/-- `allocate_session_id`: `1` unless it is in use, then the first gap above it, then one more than
the number of sessions. -/
def allocateSessionId (ids : List ℤ) : ℤ :=
  if lowestId ids ≠ 1 then 1
  else
    match (List.range (ids.length - 1)).find? fun i : ℕ => lowestId ids + i + 1 ∉ ids with
    | some i => lowestId ids + i + 1
    | none => lowestId ids + ids.length

theorem foldl_min_le (is : List ℤ) (i : ℤ) :
    is.foldl (fun low j => if j < low then j else low) i ≤ i ∧
      (∀ j ∈ is, is.foldl (fun low j => if j < low then j else low) i ≤ j) ∧
      is.foldl (fun low j => if j < low then j else low) i ∈ i :: is := by
  induction is generalizing i with
  | nil => simp
  | cons k is ih =>
    obtain ⟨h1, h2, h3⟩ := ih (if k < i then k else i)
    have hki : (if k < i then k else i) ≤ i ∧ (if k < i then k else i) ≤ k := by
      split <;> omega
    rw [List.foldl_cons]
    refine ⟨h1.trans hki.1, ?_, ?_⟩
    · intro j hj
      rcases List.mem_cons.mp hj with rfl | hj
      · exact h1.trans hki.2
      · exact h2 j hj
    · rcases List.mem_cons.mp h3 with h3 | h3
      · rw [h3]
        split <;> simp
      · simp [h3]

theorem lowestId_le {ids : List ℤ} {i : ℤ} (h : i ∈ ids) : lowestId ids ≤ i := by
  cases ids with
  | nil => exact absurd h (by simp)
  | cons k is =>
    obtain ⟨h1, h2, _⟩ := foldl_min_le is k
    rcases List.mem_cons.mp h with rfl | h
    · exact h1
    · exact h2 i h

theorem lowestId_mem {ids : List ℤ} (h : ids ≠ []) : lowestId ids ∈ ids := by
  cases ids with
  | nil => exact absurd rfl h
  | cons k is => exact (foldl_min_le is k).2.2

/-- A new session's id is positive. -/
theorem one_le_allocateSessionId (ids : List ℤ) : 1 ≤ allocateSessionId ids := by
  unfold allocateSessionId
  split
  · exact le_rfl
  · next h => split <;> omega

/-- A list of ids that contains every number from `1` to its length contains no larger one. -/
theorem length_succ_not_mem {ids : List ℤ} (h : ∀ i : ℤ, 1 ≤ i → i ≤ ids.length → i ∈ ids) :
    (ids.length : ℤ) + 1 ∉ ids := by
  intro hmem
  have hsub : Finset.Icc (1 : ℤ) (ids.length + 1) ⊆ ids.toFinset := by
    intro i hi
    obtain ⟨h1, h2⟩ := Finset.mem_Icc.mp hi
    rw [List.mem_toFinset]
    rcases lt_or_eq_of_le h2 with h2 | h2
    · exact h i h1 (by omega)
    · exact h2 ▸ hmem
  have hcard := Finset.card_le_card hsub
  have hlen := List.toFinset_card_le ids
  rw [Int.card_Icc] at hcard
  omega

theorem one_mem_of_lowestId {ids : List ℤ} (hlow : lowestId ids = 1) : (1 : ℤ) ∈ ids := by
  have hne : ids ≠ [] := by
    rintro rfl
    exact absurd hlow (by decide)
  exact hlow ▸ lowestId_mem hne

/-- Where the first `k` candidates of the search are in use, so is every number up to them. -/
theorem mem_of_candidates {ids : List ℤ} {k : ℕ} (hlow : lowestId ids = 1)
    (hused : ∀ i < k, lowestId ids + (i : ℕ) + 1 ∈ ids) {m : ℤ} (h1 : 1 ≤ m) (hm : m < k + 2) :
    m ∈ ids := by
  rcases eq_or_lt_of_le h1 with rfl | h1
  · exact one_mem_of_lowestId hlow
  · -- `m` is the candidate number `m - 2`
    have hcandidate := hused (m - 2).toNat (by omega)
    rwa [hlow, show (1 : ℤ) + ((m - 2).toNat : ℤ) + 1 = m by omega] at hcandidate

/-- Where no candidate of the search is free, every number up to the length of the list is in use. -/
theorem mem_of_find?_eq_none {ids : List ℤ} (hlow : lowestId ids = 1)
    (hnone : ((List.range (ids.length - 1)).find? fun i : ℕ => lowestId ids + i + 1 ∉ ids) = none)
    {m : ℤ} (h1 : 1 ≤ m) (hm : m ≤ ids.length) : m ∈ ids := by
  have hused : ∀ i < ids.length - 1, lowestId ids + (i : ℕ) + 1 ∈ ids := by
    intro i hi
    simpa using List.find?_eq_none.mp hnone i (List.mem_range.mpr hi)
  exact mem_of_candidates hlow hused h1 (by omega)

/-- **A new session's id is not in use**, whatever the order of the ids already given out. -/
theorem allocateSessionId_not_mem {ids : List ℤ} (hpos : ∀ i ∈ ids, 1 ≤ i) :
    allocateSessionId ids ∉ ids := by
  unfold allocateSessionId
  split
  · next hlow =>
    intro hmem
    have h1 := lowestId_le hmem
    have h2 := hpos _ (lowestId_mem (List.ne_nil_of_mem hmem))
    omega
  · next hlow =>
    have hlow : lowestId ids = 1 := not_not.mp hlow
    split
    · next i hi => simpa using List.find?_some hi
    · next hnone =>
      rw [hlow, add_comm]
      exact length_succ_not_mem fun m => mem_of_find?_eq_none hlow hnone

/-- Every positive number below a new session's id is in use. -/
theorem mem_of_lt_allocateSessionId {ids : List ℤ} {m : ℤ} (h1 : 1 ≤ m)
    (hm : m < allocateSessionId ids) : m ∈ ids := by
  rw [allocateSessionId] at hm
  split at hm
  · omega
  · rename_i hlow
    have hlow : lowestId ids = 1 := not_not.mp hlow
    split at hm
    · -- the candidates before the one that is free are in use
      rename_i i hi
      obtain ⟨-, -, hbefore⟩ := List.find?_range_eq_some.mp hi
      exact mem_of_candidates hlow (fun j hj => by simpa using hbefore j hj) h1 (by omega)
    · rename_i hnone
      exact mem_of_find?_eq_none hlow hnone h1 (by omega)

/-- The list that `allocate_session_id` searches: transmitter sessions in mode `1`, receiver sessions in
mode `2`. -/
inductive SearchList
  | tx (list : List EsmeTx)
  | rx (list : List EsmeRx)

/-- The ids that are gathered from it. -/
def SearchList.sessionList : SearchList → List ℤ
  | .tx list => list.map (·.sessionId)
  | .rx list => list.map (·.sessionId)

/-- `allocate_session_id` of a list that may be `NULL`. -/
def allocateSessionIdOf : Option SearchList → ℤ
  | none => 0
  | some searchList => allocateSessionId searchList.sessionList

/-- **A new session's id is the least that is free**: no smaller positive number is unused. -/
theorem allocateSessionIdOf_isLeast {searchList : SearchList}
    (hpos : ∀ id ∈ searchList.sessionList, 1 ≤ id) :
    IsLeast {id : ℤ | 1 ≤ id ∧ id ∉ searchList.sessionList} (allocateSessionIdOf (some searchList)) := by
  refine ⟨⟨one_le_allocateSessionId _, allocateSessionId_not_mem hpos⟩, ?_⟩
  rintro id ⟨h1, hfree⟩
  by_contra hlt
  exact hfree (mem_of_lt_allocateSessionId h1 (not_le.mp hlt))

/-- Sessions with the ids 4, 1, 2 and 7, in this order. -/
def sampleSearchList : SearchList :=
  .rx ([4, 1, 2, 7].map fun id =>
    { conn := 0, clientIp := [], clientPort := 0, listenPort := 0, startTime := 0, seqNumberCounter := 0,
      status := .binded, mode := 2, threadId := 0, sessionId := id })

theorem allocateSessionIdOf_isLeast_sampleSearchList :
    allocateSessionIdOf (some sampleSearchList) = 3 ∧
      IsLeast {id : ℤ | 1 ≤ id ∧ id ∉ sampleSearchList.sessionList}
        (allocateSessionIdOf (some sampleSearchList)) :=
  ⟨by decide, allocateSessionIdOf_isLeast (by decide)⟩

example : allocateSessionId [3, 1, 4] = 2 := by decide

/-! ## Lists with distinct keys

Searching and erasing by a key that no two elements share. -/

theorem find?_key_eq_some {α : Type} {key : α → ℤ} {l : List α} (hnd : (l.map key).Nodup) {x : α}
    (hx : x ∈ l) : l.find? (fun y => key y = key x) = some x := by
  cases hf : l.find? fun y => key y = key x with
  | none => exact absurd (List.find?_eq_none.mp hf x hx) (by simp)
  | some y =>
    have hy : key y = key x := by simpa using List.find?_some hf
    rw [List.inj_on_of_nodup_map hnd (List.mem_of_find?_eq_some hf) hx hy]

theorem eraseP_key_eq_filter {α : Type} {key : α → ℤ} {id : ℤ} {l : List α}
    (hnd : (l.map key).Nodup) :
    l.eraseP (fun x => key x = id) = l.filter fun x => key x ≠ id := by
  induction l with
  | nil => rfl
  | cons x l ih =>
    rw [List.map_cons, List.nodup_cons] at hnd
    by_cases hx : key x = id
    · have hl : ∀ y ∈ l, key y ≠ id := fun y hy h =>
        hnd.1 (hx ▸ h ▸ List.mem_map_of_mem hy)
      rw [List.eraseP_cons_of_pos (by simpa using hx), List.filter_cons_of_neg (by simpa using hx),
        List.filter_eq_self.mpr (by simpa using hl)]
    · rw [List.eraseP_cons_of_neg (by simpa using hx), List.filter_cons_of_pos (by simpa using hx),
        ih hnd.2]

/-! ## Looking a session up

The mode says which list is searched; a transceiver is among the transmitters. -/

/-- The structure a session thread works on. -/
inductive SessionStr
  | tx (s : EsmeTx)
  | rx (s : EsmeRx)
  deriving DecidableEq, Repr

/-- The part common to both kinds. -/
def SessionStr.toSession : SessionStr → Session
  | .tx s => s.toSession
  | .rx s => s.toSession

/-- `get_session_str`: the first session with that id in the list the mode selects. -/
def getSessionStr (esme : Esme) (mode sessionId : ℤ) : Option SessionStr :=
  if sessionId < 1 ∨ mode < 1 ∨ mode > 3 then none
  else if mode = 1 ∨ mode = 3 then
    (esme.txEsme.find? fun s => s.sessionId = sessionId).map .tx
  else (esme.rxEsme.find? fun s => s.sessionId = sessionId).map .rx

/-- When no two sessions of the kind share an id, the look-up returns the session with that id. -/
theorem getSessionStr_eq_some {e : Esme} {mode : ℤ} {s : Session} (h1 : 1 ≤ mode) (h3 : mode ≤ 3)
    (hpos : 1 ≤ s.sessionId) (hnd : (e.ids (.ofMode mode)).Nodup)
    (hs : s ∈ e.sessions (.ofMode mode)) :
    ∃ str, getSessionStr e mode s.sessionId = some str ∧ str.toSession = s := by
  unfold getSessionStr
  rw [if_neg (by omega)]
  by_cases h2 : mode = 2
  · rw [if_neg (by omega)]
    rw [Kind.ofMode, if_pos h2] at hs hnd
    obtain ⟨x, hx, rfl⟩ := List.mem_map.mp hs
    exact ⟨.rx x, congrArg (Option.map _) (find?_key_eq_some (e.ids_rx ▸ hnd) hx), rfl⟩
  · rw [if_pos (by omega)]
    rw [Kind.ofMode, if_neg h2] at hs hnd
    obtain ⟨x, hx, rfl⟩ := List.mem_map.mp hs
    exact ⟨.tx x, congrArg (Option.map _) (find?_key_eq_some (e.ids_tx ▸ hnd) hx), rfl⟩

/-! ## Destroying a session

`esme_destroy` works with a name, with a pointer and with an id, and these need not agree.  For an entry that is
the only one of its name they do, and then exactly one session is gone, with its entry if it was the last. -/

/-- Delete the first session with an id.  When there is none the search ends with a `NULL` session
that is dereferenced next. -/
def deleteSession {α : Type} (key : α → ℤ) (sessionId : ℤ) (l : List α) : Except Fault (List α) :=
  if ∃ s ∈ l, key s = sessionId then .ok (l.eraseP fun s => key s = sessionId)
  else .error .nullDeref

/-- The session lists of an entry after the session has been taken out of the one that the thread
type selects. -/
def deleteFrom (e : Esme) (mode sessionId : ℤ) : Except Fault Esme :=
  if mode = 1 ∧ sessionId > 0 then
    (deleteSession (·.sessionId) sessionId e.txEsme).map fun l => { e with txEsme := l }
  else if mode = 2 ∧ sessionId > 0 then
    (deleteSession (·.sessionId) sessionId e.rxEsme).map fun l => { e with rxEsme := l }
  else .ok e

/-- `esme_destroy`.  The position to delete is found by name, the session and the memory to free
through the pointer; if the two are different entries the list is left with a freed one. -/
def esmeDestroy (r : Registry) (esme : ℕ) (mode sessionId : ℤ) : Except Fault Registry :=
  match r.get? esme with
  | none => .error .dangling
  | some e =>
    match r.find? fun e1 => e.systemId.isSome && e.systemId = e1.systemId with
    | none => .ok r
    | some (found, _) =>
      match deleteFrom e mode sessionId with
      | .error f => .error f
      | .ok e' =>
        if e'.txEsme = [] ∧ e'.rxEsme = [] then
          if found = esme then .ok (r.free esme) else .error .dangling
        else .ok (r.modify esme fun _ => e')

/-- An entry without the sessions of an id. -/
def Esme.without (e : Esme) (id : ℤ) : Kind → Esme
  | .tx => { e with txEsme := e.txEsme.filter fun s => s.sessionId ≠ id }
  | .rx => { e with rxEsme := e.rxEsme.filter fun s => s.sessionId ≠ id }

@[simp] theorem Esme.without_systemId (e : Esme) (id : ℤ) (k : Kind) :
    (e.without id k).systemId = e.systemId := by
  cases k <;> rfl

theorem Esme.sessions_without (e : Esme) (id : ℤ) (k j : Kind) :
    (e.without id k).sessions j =
      if j = k then (e.sessions k).filter fun s => s.sessionId ≠ id else e.sessions j := by
  cases k <;> cases j <;> simp [Esme.without, Esme.sessions, List.filter_map, Function.comp_def]

/-- The number of sessions of an account. -/
def Esme.sessionCount (e : Esme) : ℕ := e.txEsme.length + e.rxEsme.length

theorem length_filter_key {α : Type} {key : α → ℤ} {id : ℤ} {l : List α}
    (hnd : (l.map key).Nodup) (hs : id ∈ l.map key) :
    (l.filter fun s => key s ≠ id).length + 1 = l.length := by
  obtain ⟨x, hx, hxi⟩ := List.mem_map.mp hs
  rw [← eraseP_key_eq_filter hnd]
  have := List.length_eraseP_of_mem (p := fun y => key y = id) hx (by simpa using hxi)
  have := List.length_pos_of_mem hx
  omega

theorem sessionCount_without {e : Esme} {k : Kind} {id : ℤ} (hnd : (e.ids k).Nodup)
    (hs : id ∈ e.ids k) : (e.without id k).sessionCount + 1 = e.sessionCount := by
  cases k with
  | tx =>
    rw [Esme.ids_tx] at hnd hs
    have := length_filter_key hnd hs
    simp only [Esme.sessionCount, Esme.without]
    omega
  | rx =>
    rw [Esme.ids_rx] at hnd hs
    have := length_filter_key hnd hs
    simp only [Esme.sessionCount, Esme.without]
    omega

theorem deleteSession_eq_ok {α : Type} {key : α → ℤ} {id : ℤ} {l : List α}
    (hnd : (l.map key).Nodup) (hs : id ∈ l.map key) :
    deleteSession key id l = .ok (l.filter fun s => key s ≠ id) := by
  have hex : ∃ s ∈ l, key s = id := by simpa using hs
  rw [deleteSession, if_pos hex, eraseP_key_eq_filter hnd]

theorem eq_eraseP_of_deleteSession {α : Type} {key : α → ℤ} {id : ℤ} {l l' : List α}
    (h : deleteSession key id l = .ok l') : l' = l.eraseP fun s => key s = id := by
  unfold deleteSession at h
  split at h
  · exact (Except.ok.inj h).symm
  · exact absurd h (by simp)

/-- A deletion takes a session out of the list that the thread type selects, if it selects one. -/
theorem deleteFrom_cases {e e' : Esme} {mode id : ℤ} (h : deleteFrom e mode id = .ok e') :
    ((mode = 1 ∧ id > 0) ∧ e' = { e with txEsme := e.txEsme.eraseP fun s => s.sessionId = id }) ∨
      (¬ (mode = 1 ∧ id > 0) ∧
        (e' = { e with rxEsme := e.rxEsme.eraseP fun s => s.sessionId = id } ∨ e' = e)) := by
  unfold deleteFrom at h
  split at h
  · rename_i htx
    cases hl : deleteSession (·.sessionId) id e.txEsme with
    | error f =>
      rw [hl] at h
      exact absurd h (by simp [Except.map])
    | ok l =>
      rw [hl] at h
      obtain rfl := Except.ok.inj h
      exact .inl ⟨htx, by rw [eq_eraseP_of_deleteSession hl]⟩
  · rename_i htx
    split at h
    · cases hl : deleteSession (·.sessionId) id e.rxEsme with
      | error f =>
        rw [hl] at h
        exact absurd h (by simp [Except.map])
      | ok l =>
        rw [hl] at h
        obtain rfl := Except.ok.inj h
        exact .inr ⟨htx, .inl (by rw [eq_eraseP_of_deleteSession hl])⟩
    · exact .inr ⟨htx, .inr (Except.ok.inj h).symm⟩

/-- The deletion finds the session, and takes out nothing else. -/
theorem deleteFrom_eq_ok {e : Esme} {k : Kind} {id : ℤ} (hpos : 1 ≤ id) (hnd : (e.ids k).Nodup)
    (hs : id ∈ e.ids k) : deleteFrom e k.threadType id = .ok (e.without id k) := by
  unfold deleteFrom
  cases k with
  | tx =>
    rw [Esme.ids_tx] at hnd hs
    rw [if_pos ⟨rfl, by omega⟩, deleteSession_eq_ok hnd hs]
    rfl
  | rx =>
    rw [Esme.ids_rx] at hnd hs
    rw [if_neg (by simp [Kind.threadType]), if_pos ⟨rfl, by omega⟩, deleteSession_eq_ok hnd hs]
    rfl

section Destroy

variable {r : Registry} {a : ℕ} {e e' : Esme} {mode id : ℤ}

/-- No other entry has the name of the entry at `a`. -/
def OnlyOfName (r : Registry) (a : ℕ) (e : Esme) : Prop :=
  ∀ b e1, (b, e1) ∈ r.cells → e1.systemId = e.systemId → b = a

theorem OnlyOfName.find? (hu : OnlyOfName r a e) (he : (a, e) ∈ r.cells)
    (hs : e.systemId.isSome) :
    r.find? (fun e1 => e.systemId.isSome && e.systemId = e1.systemId) = some (a, e) := by
  refine Arena.find?_eq_of_unique he (by simp [hs]) fun b w hw hp => hu b w hw ?_
  rw [hs, Bool.true_and] at hp
  exact (of_decide_eq_true hp).symm

/-- Destroying the last session of an account unlinks and frees its entry. -/
theorem esmeDestroy_eq_free (he : (a, e) ∈ r.cells) (hu : OnlyOfName r a e)
    (hs : e.systemId.isSome) (hd : deleteFrom e mode id = .ok e') (hlast : e'.txEsme = [] ∧ e'.rxEsme = []) :
    esmeDestroy r a mode id = .ok (r.free a) := by
  simp only [esmeDestroy, Arena.get?_eq_some.mpr he, hu.find? he hs, hd, if_pos hlast, if_true]

/-- Destroying one of several sessions changes the account's entry in place. -/
theorem esmeDestroy_eq_modify (he : (a, e) ∈ r.cells) (hu : OnlyOfName r a e)
    (hs : e.systemId.isSome) (hd : deleteFrom e mode id = .ok e') (hmore : ¬ (e'.txEsme = [] ∧ e'.rxEsme = [])) :
    esmeDestroy r a mode id = .ok (r.modify a fun _ => e') := by
  simp only [esmeDestroy, Arena.get?_eq_some.mpr he, hu.find? he hs, hd, if_neg hmore]

/-- A destroy allocates nothing. -/
theorem esmeDestroy_next {r' : Registry} (h : esmeDestroy r a mode id = .ok r') :
    r'.next = r.next := by
  unfold esmeDestroy at h
  repeat' split at h
  all_goals simp only [Except.ok.injEq, reduceCtorEq] at h
  all_goals exact h ▸ rfl

end Destroy

end SmppServer.SmppEsme
