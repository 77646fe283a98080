import SmppServer.Dbbox.MsgProcess

/-!
# Dbbox/EsmeClient — which client the results go to

Clients connect to the database process, register with an admin message, and leave.  The result of a
look-up goes to `esme_process_client`, a pointer that is set when a client registers as `smpp-esme`
while it is NULL.  Nothing sets it back: a client that left stays the one that results go to, and one
that registers later gets none.

A connection keeps its position in `clientList` for good, and a new one gets a new position; the part
of the server that reads and writes the connections is not here.

* `DbboxServer.delivered_iff_firstStays` — in every run, results go to connected clients that
  registered as `smpp-esme`, and are not dropped while there is one, exactly if results come only while
  the client that registered first has not left.
-/

namespace SmppServer.SmppDbbox

open Machinery

/-! ## The clients

A client that has left stays in the list, disconnected, so that its position remains its name.  The pointer of
the database process is such a position. -/

/-- A client, with all that was put on its send list. -/
structure ProcessClient extends EsmeProcessClient where
  connected : Bool := true
  deriving DecidableEq, Repr

/-- The database process and its clients.  `registrations` are the clients that have registered as
`smpp-esme`, the first one first. -/
structure DbboxServer where
  handles : Bool := true
  statusTable : List InsertStatus := []
  clientList : List ProcessClient := []
  esmeProcessClient : Option ℕ := none
  registrations : List ℕ := []
  deriving DecidableEq

namespace DbboxServer

/-- The process as `handle_request` finds it on an `insert_status` message. -/
def dbbox (s : DbboxServer) : Dbbox where
  handles := s.handles
  statusTable := s.statusTable
  esmeProcessClient :=
    (s.esmeProcessClient.bind fun k => s.clientList[k]?).map ProcessClient.toEsmeProcessClient

/-- The process as `handle_request` leaves it. -/
def withDbbox (s : DbboxServer) (box : Dbbox) : DbboxServer :=
  { s with
    handles := box.handles
    statusTable := box.statusTable
    clientList :=
      match s.esmeProcessClient, box.esmeProcessClient with
      | some k, some client =>
        s.clientList.modify k fun c => { c with toEsmeProcessClient := client }
      | _, _ => s.clientList }

/-- The client is connected. -/
def Connected (s : DbboxServer) (k : ℕ) : Prop := ∃ c ∈ s.clientList[k]?, c.connected = true

instance (s : DbboxServer) (k : ℕ) : Decidable (s.Connected k) :=
  inferInstanceAs (Decidable (∃ c ∈ s.clientList[k]?, c.connected = true))

end DbboxServer

/-! ## Runs

`Delivered` looks at one event and at the send lists before and behind it; the property of a run is that it
holds along it. -/

/-- What happens: a client connects, or leaves; a client sends an admin message with command 1; a client
sends an `insert_status` message; and `dnd_deliver_sm_generate` has the result for a receipt. -/
inductive ClientEvent
  | connect
  | disconnect (k : ℕ)
  | register (k : ℕ) (connId : Octstr)
  | insertStatus (k : ℕ) (mysqlSelect : Octstr → Option (List MisRow)) (msg : InsertStatus)
  | dndReceipt (pdu : Option Octstr) (resultMsg : ValuesGot)

/-- `handle_request` on an admin message with command 1. -/
def handleRegister (s : DbboxServer) (k : ℕ) (connId : Octstr) : DbboxServer :=
  let s := { s with clientList := s.clientList.modify k fun c => { c with connId := some connId } }
  if connId = octstrImm "smpp-esme" then
    { s with
      esmeProcessClient := s.esmeProcessClient <|> some k
      registrations := s.registrations ++ [k] }
  else s

/-- **One step.** -/
def clientStep (s : DbboxServer) : ClientEvent → Option DbboxServer
  | .connect => some { s with clientList := s.clientList ++ [⟨⟨none, []⟩, true⟩] }
  | .disconnect k =>
    if s.Connected k then
      some { s with clientList := s.clientList.modify k fun c => { c with connected := false } }
    else none
  | .register k connId => if s.Connected k then some (handleRegister s k connId) else none
  | .insertStatus k mysqlSelect msg =>
    if s.Connected k then some (s.withDbbox (handleInsertStatus mysqlSelect s.dbbox msg)) else none
  | .dndReceipt pdu resultMsg => some (s.withDbbox (appendResult s.dbbox pdu resultMsg))

namespace DbboxServer

/-- The result that the event has for the ESME process, with the PDU of the receipt. -/
def result (s : DbboxServer) : ClientEvent → Option (Option Octstr × ValuesGot)
  | .insertStatus _ mysqlSelect msg =>
    match msg.smscMsgId, msg.destAddr with
    | some smscMsgId, some destAddr => some (msg.pdu, dlrFind s.handles mysqlSelect destAddr smscMsgId)
    | _, _ => none
  | .dndReceipt pdu resultMsg => some (pdu, resultMsg)
  | .connect | .disconnect _ | .register _ _ => none

/-- A connected client that registered as `smpp-esme`. -/
def Live (s : DbboxServer) (k : ℕ) : Prop := s.Connected k ∧ k ∈ s.registrations

/-- What was put on the send list of a client. -/
def sendList (s : DbboxServer) (k : ℕ) : List ValuesGot :=
  (s.clientList[k]?.map fun c => c.sendList).getD []

/-- **The event is delivered**: only live clients are sent something, and if there is a live client,
one is sent the result. -/
structure Delivered (s : DbboxServer) (e : ClientEvent) : Prop where
  onlyLive : ∀ s' ∈ clientStep s e, ∀ k, s'.sendList k ≠ s.sendList k → s.Live k
  kept : ∀ s' ∈ clientStep s e, ∀ r ∈ s.result e, (∃ k, s.Live k) →
    ∃ k, s.Live k ∧ ∃ client ∈ s.clientList[k]?,
      s'.sendList k = s.sendList k ++ [resultFor client.toEsmeProcessClient r.1 r.2]

/-- **The first stays**: if the event has a result, the client that registered first is connected, if
one has registered. -/
def FirstStays (s : DbboxServer) (e : ClientEvent) : Prop :=
  (s.result e).isSome → ∀ k ∈ s.registrations.head?, s.Connected k

instance (s : DbboxServer) (e : ClientEvent) : Decidable (s.FirstStays e) :=
  inferInstanceAs (Decidable ((s.result e).isSome → ∀ k ∈ s.registrations.head?, s.Connected k))

/-! ## The pointer

The pointer is set once, by the first client that registers as `smpp-esme`, and never again.  So the invariant
is an equation: it is the head of the registrations. -/

/-- The pointer is the client that registered first, and clients that registered are in the list. -/
structure Inv (s : DbboxServer) : Prop where
  first : s.esmeProcessClient = s.registrations.head?
  inList : ∀ k ∈ s.registrations, k < s.clientList.length

variable {s s' : DbboxServer} {e : ClientEvent} {k : ℕ}

theorem inv_start : Inv {} := ⟨rfl, by simp⟩

theorem Connected.lt (h : s.Connected k) : k < s.clientList.length := by
  obtain ⟨c, hc, -⟩ := h
  exact (List.getElem?_eq_some_iff.mp hc).1

@[simp] theorem length_withDbbox (s : DbboxServer) (box : Dbbox) :
    (s.withDbbox box).clientList.length = s.clientList.length := by
  simp only [withDbbox]
  split <;> simp

@[simp] theorem esmeProcessClient_withDbbox (s : DbboxServer) (box : Dbbox) :
    (s.withDbbox box).esmeProcessClient = s.esmeProcessClient := rfl

@[simp] theorem registrations_withDbbox (s : DbboxServer) (box : Dbbox) :
    (s.withDbbox box).registrations = s.registrations := rfl

theorem Inv.withDbbox (hi : s.Inv) (box : Dbbox) : (s.withDbbox box).Inv where
  first := hi.first
  inList k hk := (length_withDbbox s box).symm ▸ hi.inList k hk

/-- A client registers; only the first one that does as `smpp-esme` sets the pointer. -/
theorem Inv.handleRegister (hi : s.Inv) (hk : s.Connected k) (connId : Octstr) :
    (handleRegister s k connId).Inv := by
  by_cases hid : connId = octstrImm "smpp-esme"
  · rw [SmppDbbox.handleRegister, if_pos hid]
    constructor
    case first =>
      change (s.esmeProcessClient <|> some k) = (s.registrations ++ [k]).head?
      rw [hi.first]
      cases s.registrations <;> rfl
    case inList =>
      intro j hj
      rw [List.length_modify]
      obtain hj | hj := List.mem_append.mp hj
      · exact hi.inList j hj
      · exact List.mem_singleton.mp hj ▸ hk.lt
  · rw [SmppDbbox.handleRegister, if_neg hid]
    exact ⟨hi.first, fun j hj => by rw [List.length_modify]; exact hi.inList j hj⟩

/-- **Every step keeps the invariant.** -/
theorem Inv.step (hi : s.Inv) (h : clientStep s e = some s') : s'.Inv := by
  cases e with
  | connect =>
    rw [← Option.some.inj h]
    exact ⟨hi.first, fun k hk => (hi.inList k hk).trans_le (by simp)⟩
  | disconnect k =>
    obtain ⟨-, h⟩ := Option.ite_none_right_eq_some.mp h
    rw [← Option.some.inj h]
    exact ⟨hi.first, fun j hj => by rw [List.length_modify]; exact hi.inList j hj⟩
  | register k connId =>
    obtain ⟨hk, h⟩ := Option.ite_none_right_eq_some.mp h
    rw [← Option.some.inj h]
    exact hi.handleRegister hk connId
  | insertStatus k mysqlSelect msg =>
    obtain ⟨-, h⟩ := Option.ite_none_right_eq_some.mp h
    rw [← Option.some.inj h]
    exact hi.withDbbox _
  | dndReceipt pdu resultMsg =>
    rw [← Option.some.inj h]
    exact hi.withDbbox _

/-! ## Who is sent what

A result changes one send list, that of the pointer's client, and every other event changes none.  With the
invariant of the pointer, whether an event is delivered is then a question about the first client alone. -/

section InsertStatus

variable {mysqlSelect : Octstr → Option (List MisRow)} {box : Dbbox} {msg : InsertStatus}

/-- Without a message id or a destination, nothing is looked up. -/
theorem handleInsertStatus_of_none (h : msg.smscMsgId = none ∨ msg.destAddr = none) :
    handleInsertStatus mysqlSelect box msg = dlrStatusAdd box msg := by
  rw [handleInsertStatus]
  split
  case h_1 hm hd => simp [hm, hd] at h
  case h_2 => rfl

/-- With both, the result is looked up and handed on. -/
theorem handleInsertStatus_of_some {m d : Octstr} (hm : msg.smscMsgId = some m)
    (hd : msg.destAddr = some d) :
    handleInsertStatus mysqlSelect box msg =
      appendResult (dlrStatusAdd box msg) msg.pdu (dlrFind box.handles mysqlSelect d m) := by
  rw [handleInsertStatus, hm, hd, ← dlrStatusAdd_handles box msg]
  rfl

end InsertStatus

theorem sendList_congr (h : s'.clientList = s.clientList) (j : ℕ) : s'.sendList j = s.sendList j := by
  rw [sendList, h]
  rfl

/-- A change of one client that leaves its send list leaves all send lists. -/
theorem sendList_modify (f : ProcessClient → ProcessClient) (hf : ∀ c, (f c).sendList = c.sendList)
    (h : s'.clientList = s.clientList.modify k f) (j : ℕ) : s'.sendList j = s.sendList j := by
  rw [sendList, sendList, h, List.getElem?_modify]
  cases s.clientList[j]? with
  | none => rfl
  | some c =>
    change (if k = j then f c else c).sendList = c.sendList
    split
    · exact hf c
    · rfl

theorem sendList_connect (j : ℕ) :
    sendList { s with clientList := s.clientList ++ [⟨⟨none, []⟩, true⟩] } j = s.sendList j := by
  rw [sendList, sendList, List.getElem?_append]
  split
  case isTrue => rfl
  case isFalse hj =>
    rw [List.getElem?_eq_none (not_lt.mp hj)]
    cases j - s.clientList.length <;> rfl

/-- Without a pointer no send list changes. -/
theorem sendList_withDbbox_of_none (box : Dbbox) (hp : s.esmeProcessClient = none) (j : ℕ) :
    (s.withDbbox box).sendList j = s.sendList j := by
  refine sendList_congr ?_ j
  rw [withDbbox, hp]

/-- Only the send list of the pointer's client changes. -/
theorem sendList_withDbbox_of_some {box : Dbbox} {c : ProcessClient} {client : EsmeProcessClient}
    (hp : s.esmeProcessClient = some k) (hc : s.clientList[k]? = some c)
    (hbox : box.esmeProcessClient = some client) (j : ℕ) :
    (s.withDbbox box).sendList j = if k = j then client.sendList else s.sendList j := by
  rw [sendList, withDbbox, hp, hbox, List.getElem?_modify]
  split
  case isTrue hkj => rw [← hkj, hc]; rfl
  case isFalse hkj => rw [Option.map_eq_map, Option.map_id']; rfl

section Append

variable {box : Dbbox} (hbox : box.esmeProcessClient = s.dbbox.esmeProcessClient)
include hbox

/-- What the process does without a change of the pointer's client leaves all send lists. -/
theorem sendList_withDbbox_of_eq (j : ℕ) : (s.withDbbox box).sendList j = s.sendList j := by
  cases hp : s.esmeProcessClient with
  | none => exact sendList_withDbbox_of_none box hp j
  | some k =>
    cases hc : s.clientList[k]? with
    | none =>
      have hclient : box.esmeProcessClient = none := by
        rw [hbox, dbbox, hp, Option.bind_some, hc, Option.map_none]
      refine sendList_congr ?_ j
      rw [withDbbox, hp, hclient]
    | some c =>
      have hclient : box.esmeProcessClient = some c.toEsmeProcessClient := by
        rw [hbox, dbbox, hp, Option.bind_some, hc, Option.map_some]
      rw [sendList_withDbbox_of_some hp hc hclient]
      split
      case isTrue hkj => rw [← hkj, sendList, hc]; rfl
      case isFalse => rfl

/-- **The client of the pointer is sent the result**, connected or not, and no other is. -/
theorem sendList_appendResult {c : ProcessClient} (hp : s.esmeProcessClient = some k)
    (hc : s.clientList[k]? = some c) (pdu : Option Octstr) (resultMsg : ValuesGot) (j : ℕ) :
    (s.withDbbox (appendResult box pdu resultMsg)).sendList j =
      if k = j then s.sendList k ++ [resultFor c.toEsmeProcessClient pdu resultMsg]
      else s.sendList j := by
  have hclient : box.esmeProcessClient = some c.toEsmeProcessClient := by
    rw [hbox, dbbox, hp, Option.bind_some, hc, Option.map_some]
  have happend : (appendResult box pdu resultMsg).esmeProcessClient =
      some { c.toEsmeProcessClient with
        sendList := c.sendList ++ [resultFor c.toEsmeProcessClient pdu resultMsg] } := by
    rw [appendResult, hclient]
  have hold : s.sendList k = c.sendList := by rw [sendList, hc]; rfl
  rw [sendList_withDbbox_of_some hp hc happend, hold]

end Append

/-- **A step and its result.**  A step without one leaves all send lists; one with a result hands it to
the client of the pointer. -/
theorem clientStep_result (h : clientStep s e = some s') :
    (s.result e = none ∧ ∀ j, s'.sendList j = s.sendList j) ∨
      ∃ r box, s.result e = some r ∧ box.esmeProcessClient = s.dbbox.esmeProcessClient ∧
        s' = s.withDbbox (appendResult box r.1 r.2) := by
  cases e with
  | connect =>
    rw [← Option.some.inj h]
    exact .inl ⟨rfl, sendList_connect⟩
  | disconnect k =>
    obtain ⟨-, h⟩ := Option.ite_none_right_eq_some.mp h
    rw [← Option.some.inj h]
    exact .inl ⟨rfl, sendList_modify (fun c => { c with connected := false }) (fun _ => rfl) rfl⟩
  | register k connId =>
    obtain ⟨-, h⟩ := Option.ite_none_right_eq_some.mp h
    rw [← Option.some.inj h]
    refine .inl ⟨rfl, fun j => ?_⟩
    refine sendList_modify (k := k) (fun c => { c with connId := some connId }) (fun _ => rfl) ?_ j
    rw [handleRegister]
    split <;> rfl
  | insertStatus k mysqlSelect msg =>
    obtain ⟨-, h⟩ := Option.ite_none_right_eq_some.mp h
    rw [← Option.some.inj h]
    cases hm : msg.smscMsgId with
    | none =>
      refine .inl ⟨by rw [result, hm], sendList_withDbbox_of_eq ?_⟩
      rw [handleInsertStatus_of_none (.inl hm), dlrStatusAdd_esmeProcessClient]
    | some m =>
      cases hd : msg.destAddr with
      | none =>
        refine .inl ⟨by rw [result, hm, hd], sendList_withDbbox_of_eq ?_⟩
        rw [handleInsertStatus_of_none (.inr hd), dlrStatusAdd_esmeProcessClient]
      | some d =>
        refine .inr ⟨(msg.pdu, dlrFind s.handles mysqlSelect d m), dlrStatusAdd s.dbbox msg,
          by rw [result, hm, hd], dlrStatusAdd_esmeProcessClient _ _, ?_⟩
        rw [handleInsertStatus_of_some hm hd]
        rfl
  | dndReceipt pdu resultMsg =>
    rw [← Option.some.inj h]
    exact .inr ⟨(pdu, resultMsg), s.dbbox, rfl, rfl, rfl⟩

/-- If no client has registered, there is nothing to keep. -/
theorem delivered_of_registrations_nil (hi : s.Inv) (h : clientStep s e = some s')
    (hnil : s.registrations = []) : s.Delivered e := by
  have hpointer : s.esmeProcessClient = none := by rw [hi.first, hnil]; rfl
  constructor
  case onlyLive =>
    intro t ht j hne
    obtain rfl : s' = t := Option.some.inj (h.symm.trans ht)
    obtain ⟨-, hsame⟩ | ⟨r, box, -, hbox, rfl⟩ := clientStep_result h
    · exact absurd (hsame j) hne
    · exact absurd (sendList_withDbbox_of_none _ hpointer j) hne
  case kept =>
    rintro - - - - ⟨k, hlive⟩
    exact absurd hlive.2 (hnil ▸ List.not_mem_nil)

/-- **A step is delivered exactly if the first client stays**: the result goes to that client. -/
theorem delivered_iff_firstStays_of_step (hi : s.Inv) (h : clientStep s e = some s') :
    s.Delivered e ↔ s.FirstStays e := by
  cases hregs : s.registrations with
  | nil =>
    have hfirst : s.FirstStays e := fun _ k hk => by simp [hregs] at hk
    exact iff_of_true (delivered_of_registrations_nil hi h hregs) hfirst
  | cons k rest =>
    have hmem : k ∈ s.registrations := hregs ▸ List.mem_cons_self
    have hpointer : s.esmeProcessClient = some k := by rw [hi.first, hregs]; rfl
    obtain ⟨c, hc⟩ : ∃ c, s.clientList[k]? = some c :=
      ⟨_, List.getElem?_eq_getElem (hi.inList k hmem)⟩
    have hstays : s.FirstStays e ↔ ((s.result e).isSome → s.Connected k) := by
      simp [FirstStays, hregs]
    rw [hstays]
    obtain ⟨hnone, hsame⟩ | ⟨r, box, hresult, hbox, rfl⟩ := clientStep_result h
    · refine iff_of_true ⟨?_, ?_⟩ (by simp [hnone])
      · intro t ht j hne
        obtain rfl : s' = t := Option.some.inj (h.symm.trans ht)
        exact absurd (hsame j) hne
      · intro _ _ r hr
        exact absurd hr (by simp [hnone])
    · have hsent := sendList_appendResult hbox hpointer hc r.1 r.2
      constructor
      · intro hdelivered _
        refine (hdelivered.onlyLive _ h k ?_).1
        rw [hsent, if_pos rfl]
        simp
      · intro hconnected
        have hlive : s.Live k := ⟨hconnected (by simp [hresult]), hmem⟩
        constructor
        case onlyLive =>
          intro t ht j hne
          obtain rfl := Option.some.inj (h.symm.trans ht)
          by_cases hkj : k = j
          · exact hkj ▸ hlive
          · exact absurd ((hsent j).trans (if_neg hkj)) hne
        case kept =>
          intro t ht r' hr' _
          obtain rfl := Option.some.inj (h.symm.trans ht)
          obtain rfl : r = r' := Option.some.inj (hresult.symm.trans hr')
          exact ⟨k, hlive, _, hc, (hsent k).trans (if_pos rfl)⟩

/-- **Results go to the registered ESME process** exactly if the first client stays.  In every run of the
database process, over any clients that connect, register, leave and come again, with any messages and
receipts between: each result goes to a connected client that registered as `smpp-esme`, and none is
dropped while there is one, exactly if in each step with a result the client that registered first is
connected. -/
theorem delivered_iff_firstStays {es : List ClientEvent} {s : DbboxServer}
    (hrun : exec clientStep {} es = some s) :
    Along clientStep Delivered {} es ↔ Along clientStep FirstStays {} es :=
  along_congr (@fun _ _ _ => Inv.step) (@fun _ _ _ => delivered_iff_firstStays_of_step) inv_start hrun

end DbboxServer

/-- The SMSC process and the ESME process connect, and the ESME process registers. -/
def sampleRegistered : List ClientEvent :=
  [.connect, .connect, .register 0 (octstrImm "smpp-smsc"), .register 1 (octstrImm "smpp-esme")]

/-- The receipt is reported. -/
def sampleReported : ClientEvent := .insertStatus 0 (fun _ => some []) sampleStatus

/-- The ESME process stays: it gets the result. -/
theorem DbboxServer.delivered_sampleRegistered :
    Along clientStep DbboxServer.Delivered {} (sampleRegistered ++ [sampleReported]) :=
  (DbboxServer.delivered_iff_firstStays (Option.some_get (by decide)).symm).mpr (by decide)

/-- The ESME process leaves and comes again. -/
def sampleReconnected : List ClientEvent :=
  sampleRegistered ++ [.disconnect 1, .connect, .register 2 (octstrImm "smpp-esme")]

/-- The result is put on the list of the connection that the ESME process has left. -/
theorem DbboxServer.not_delivered_sampleReconnected :
    (exec clientStep {} (sampleReconnected ++ [sampleReported])).isSome ∧
      ¬ Along clientStep DbboxServer.Delivered {} (sampleReconnected ++ [sampleReported]) := by
  refine ⟨by decide, fun h => ?_⟩
  have hlast := (h.of_append (Option.some_get (by decide)).symm).head
  have hlive := hlast.onlyLive _ (Option.some_get (by decide)).symm 1 (by decide)
  exact absurd hlive.1 (by decide)

end SmppServer.SmppDbbox
