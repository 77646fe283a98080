import SmppServer.Esme.Authorise

/-!
# Esme/Bind — the bind handlers

`handle_pdu_bind` answers the first PDU of a connection.  The three handlers share one shape: refuse
while the program is not running, on the wrong listen port, or while a server connection is down;
otherwise authorise the user, note whether the bind succeeded, and translate the return value to a
command status.  They differ in the port, in the status of the two other refusals, in the session
list they look at, and in the translation — the transmitter answers every failure with the same
status and asks for the entry once more before answering success.

* `handlersConn_cases` — the outcomes of a handler on a PDU with a system id.
* `bind_atomic` — status `0` exactly when one session was appended, and nothing changed otherwise.
* `handlersConn_answers_iff`, `handlePduBind_answers_iff` — when a handler answers, and when a bind PDU
  gets to its handler at all.
-/

namespace SmppServer.SmppEsme

open Machinery

/-! ## Command statuses

The codes under the names of `smpp_pdu.h`, without their prefix. -/

def rinvcmdid : ℕ := 0x03
def ralynbd : ℕ := 0x05
def rinvprtflg : ℕ := 0x06
def rinvmsgid : ℕ := 0x0C
def rbindfail : ℕ := 0x0D
def rinvpaswd : ℕ := 0x0E
def rinvsysid : ℕ := 0x0F
def rinvexpiry : ℕ := 0x62

/-! ## The server around the handlers

The handlers read the status of the program, the ports and the two connections, and leave an answer and a
changed registry behind. -/

/-- `program_status`. -/
inductive ProgramStatus
  | running
  | isolated
  | suspended
  | shutdown
  | dead
  | full
  deriving DecidableEq, Repr

/-- A connection to another process of the server; `connected` is `status == PROCESS_CONNECTED`. -/
structure ProcessClient where
  connected : Bool
  deriving DecidableEq, Repr

/-- The globals the bind handlers read. -/
structure Server extends AuthEnv where
  programStatus : ProgramStatus
  transPort : ℤ
  recvPort : ℤ
  transRecvPort : ℤ
  dbboxClient : Option ProcessClient
  forwardClient : Option ProcessClient
  reverseClient : Option ProcessClient
  dbboxConnectedToClient : ℤ
  smscSystemId : Option Octstr

/-- `check_server_connections`. -/
def checkServerConnections (srv : Server) : ℤ :=
  match srv.dbboxClient, srv.forwardClient, srv.reverseClient with
  | some dbbox, some forward, some reverse =>
    if srv.dbboxConnectedToClient ≠ 1 then -1
    else if ¬ dbbox.connected ∨ ¬ forward.connected ∨ ¬ reverse.connected then -1
    else 0
  | _, _, _ => -1

/-- The three bind PDUs. -/
inductive BindType
  | bindTransmitter
  | bindReceiver
  | bindTransceiver
  deriving DecidableEq, Repr

/-- A bind response. -/
structure BindResp where
  type : BindType
  sequenceNumber : ℕ
  commandStatus : ℕ
  systemId : Option Octstr
  scInterfaceVersion : ℕ
  deriving DecidableEq, Repr

/-- `SMPP_SERVER_VERSION`. -/
def smppServerVersion : ℕ := 0x34

/-- What a handler leaves behind: its `MSG_BIND_INFO`, the registry and the connection. -/
structure BindInfo where
  resp : BindResp
  esme : Option ℕ
  registry : Registry
  tempConn : TempConn

/-! ## The handlers

One definition with a record of what differs; the three handlers are that definition at three records.  The
transmitter translates return values in a way of its own, and looks for the entry once more. -/

/-- The command status of `handle_bind_transmitter` for a return value of `authorise_user`; a value
that no branch names leaves the status at its default `0`. -/
def transmitterStatus (ret : ℤ) (esme : Option ℕ) : ℕ :=
  if ret = 0 ∧ esme.isSome then 0
  else if ret = 1 then rbindfail
  else if ret = 2 then rbindfail
  else if ret = 3 then rbindfail
  else if ret = 6 then rbindfail
  else if ret = 4 ∨ ret = 5 then rbindfail
  else if ret = 7 then rbindfail
  else if ret = 8 then rbindfail
  else if ret = 9 then rbindfail
  else if ret = 10 then rbindfail
  else if ret = -1 then rbindfail
  else 0

/-- The command status of `handle_bind_receiver` and `handle_bind_transceiver`. -/
def receiverStatus (ret : ℤ) (_esme : Option ℕ) : ℕ :=
  if ret = 0 then 0
  else if ret = 1 then rinvsysid
  else if ret = 2 then rinvpaswd
  else if ret = 3 then rinvcmdid
  else if ret = 6 then ralynbd
  else if ret = 4 ∨ ret = 5 then rinvexpiry
  else if ret = 7 then rinvmsgid
  else if ret = 8 then rinvprtflg
  else if ret = 9 then rinvprtflg
  else if ret = 10 then rbindfail
  else 0

/-- The entry stored through `esme_ptr` has a session in the list the handler looks at. -/
def hasSessions {α : Type} (r : Registry) (sessions : Esme → List α) (esme : Option ℕ) : Bool :=
  match esme.bind r.get? with
  | none => false
  | some e => (sessions e).length > 0

/-- What sets one bind handler apart from the others: its mode and listen port, the status of a bind
on the wrong port or without server connections, the session list it looks at, and its translation
of return values. -/
structure Handler where
  type : BindType
  mode : ℤ
  port : Server → ℤ
  refusal : ℕ
  sessionPresent : Registry → Option ℕ → Bool
  status : ℤ → Option ℕ → ℕ

/-- The shape of the three handlers. -/
def handleBind (h : Handler) (srv : Server) (r : Registry) (tc : TempConn) (pdu : BindPdu) :
    Except Fault BindInfo :=
  let resp (status : ℕ) : BindResp :=
    ⟨h.type, pdu.sequenceNumber, status, srv.smscSystemId, smppServerVersion⟩
  if srv.programStatus ≠ .running then .ok ⟨resp rbindfail, none, r, tc⟩
  else if tc.listenPort ≠ h.port srv then .ok ⟨resp h.refusal, none, r, tc⟩
  else if checkServerConnections srv = -1 then .ok ⟨resp h.refusal, none, r, tc⟩
  else
    match authoriseUser srv.toAuthEnv r pdu h.mode tc with
    | .error f => .error f
    | .ok res =>
      let bindSuccessful : ℤ :=
        if res.ret = 0 ∧ h.sessionPresent res.registry res.esme then 1 else 0
      .ok ⟨resp (h.status res.ret res.esme), res.esme, res.registry,
        { res.tempConn with bindSuccessful := bindSuccessful }⟩

def bindTransmitter : Handler where
  type := .bindTransmitter
  mode := 1
  port := (·.transPort)
  refusal := rbindfail
  sessionPresent r := hasSessions r (·.txEsme)
  status := transmitterStatus

def bindReceiver : Handler where
  type := .bindReceiver
  mode := 2
  port := (·.recvPort)
  refusal := rinvcmdid
  sessionPresent r := hasSessions r (·.rxEsme)
  status := receiverStatus

def bindTransceiver : Handler where
  type := .bindTransceiver
  mode := 3
  port := (·.transRecvPort)
  refusal := rinvcmdid
  sessionPresent r := hasSessions r (·.txEsme)
  status := receiverStatus

/-- `handle_bind_transmitter`. -/
def handleBindTransmitter := handleBind bindTransmitter

/-- `handle_bind_receiver`. -/
def handleBindReceiver := handleBind bindReceiver

/-- `handle_bind_transceiver`. -/
def handleBindTransceiver := handleBind bindTransceiver

/-- `handlers_conn`: the handler of each bind PDU. -/
def handlersConn : BindType → Server → Registry → TempConn → BindPdu → Except Fault BindInfo
  | .bindTransmitter => handleBindTransmitter
  | .bindReceiver => handleBindReceiver
  | .bindTransceiver => handleBindTransceiver

/-- `init_log_file`: the index of the log the thread writes to.  Without a name the function ends in a
bare `return`, and its caller uses a value that is not there. -/
def initLogFile (username : Option Octstr) (translations : List SmscClient) (mode : ℤ) :
    Except Fault ℤ :=
  match username with
  | none => .error .indeterminate
  | some name =>
    match smppClientFindUsername translations (some name) with
    | .error f => .error f
    | .ok none => .ok (-1)
    | .ok (some t) =>
      if mode = 1 ∧ t.logFile.isSome then .ok t.logIdx
      else if mode = 2 ∧ t.rxLogFile.isSome then .ok t.rxLogIdx
      else .ok (-1)

/-- `handle_pdu_bind` on a bind PDU.  The index of the log goes to `log_thread_to` before any handler
looks at the PDU. -/
def handlePduBind (srv : Server) (r : Registry) (tc : TempConn) (type : BindType) (pdu : BindPdu) :
    Except Fault BindInfo :=
  match initLogFile pdu.systemId srv.translations tc.mode with
  | .error f => .error f
  | .ok _ => handlersConn type srv r tc pdu

/-! ## The outcomes of a handler

What is needed of the records: the mode is one of the three, and no refusal is translated to success. -/

/-- What sets the handler of a bind PDU apart. -/
def handlerOf : BindType → Handler
  | .bindTransmitter => bindTransmitter
  | .bindReceiver => bindReceiver
  | .bindTransceiver => bindTransceiver

/-- The list a bind of that type appends to. -/
def BindType.kind : BindType → Kind
  | .bindTransmitter => .tx
  | .bindReceiver => .rx
  | .bindTransceiver => .tx

theorem handlersConn_eq (type : BindType) : handlersConn type = handleBind (handlerOf type) := by
  cases type <;> rfl

theorem handlerOf_mode (type : BindType) :
    1 ≤ (handlerOf type).mode ∧ (handlerOf type).mode ≤ 3 ∧
      Kind.ofMode (handlerOf type).mode = type.kind := by
  cases type <;> decide

theorem handlerOf_refusal (type : BindType) : (handlerOf type).refusal ≠ 0 := by
  cases type <;> decide

/-- No return value of a refused bind is translated to success. -/
theorem handlerOf_status_ne_zero (type : BindType) {ret : ℤ} (h : ret ∈ [1, 2, 3, 4, 5, 10]) :
    (handlerOf type).status ret none ≠ 0 := by
  simp only [List.mem_cons, List.not_mem_nil, or_false] at h
  cases type <;> rcases h with rfl | rfl | rfl | rfl | rfl | rfl <;> decide

theorem handlerOf_status_zero (type : BindType) (a : ℕ) :
    (handlerOf type).status 0 (some a) = 0 := by
  cases type <;> rfl

theorem handlerOf_sessionPresent {type : BindType} {r : Registry} {a : ℕ} {e : Esme}
    (he : (a, e) ∈ r.cells) (hs : e.sessions type.kind ≠ []) :
    (handlerOf type).sessionPresent r (some a) = true := by
  have hget := Arena.get?_eq_some.mpr he
  cases type <;>
    simpa [handlerOf, bindTransmitter, bindReceiver, bindTransceiver, hasSessions, hget,
      BindType.kind, Esme.sessions, List.length_pos_iff] using hs

/-! ## Bind atomicity

A handler that answers success has gone through `authorise_user` with success, and that appended one session;
any other answer leaves the registry as it was. -/

/-- `e'` is `e` with one more session of a kind, bound over `conn`. -/
def OneMore (conn : ℕ) : Kind → Esme → Esme → Prop
  | .tx, e, e' => ∃ s : EsmeTx, s.conn = conn ∧ e' = { e with txEsme := e.txEsme ++ [s] }
  | .rx, e, e' => ∃ s : EsmeRx, s.conn = conn ∧ e' = { e with rxEsme := e.rxEsme ++ [s] }

/-- Exactly one session of a kind was appended to the registry: it is the only session of a new
entry at the end of the list, or the last one of an entry that was there. -/
def SessionAppended (conn : ℕ) (k : Kind) (r r' : Registry) : Prop :=
  ∃ e e', OneMore conn k e e' ∧
    ((∀ j, e.sessions j = []) ∧ r'.cells = r.cells ++ [(r.next, e')] ∨
      ∃ a, (a, e) ∈ r.cells ∧ r'.cells = r.cells.map fun c => if c.1 = a then (a, e') else c)

section Spec

variable (type : BindType) (srv : Server) (r : Registry) (tc : TempConn) {pdu : BindPdu}

theorem oneMore_addSession {env : AuthEnv} {mode : ℤ} {tc : TempConn} (e : Esme) (h1 : 1 ≤ mode) (h3 : mode ≤ 3) :
    OneMore tc.conn (.ofMode mode) e (addSession env pdu tc mode e) := by
  unfold addSession
  by_cases h : mode = 1 ∨ mode = 3
  · rw [if_pos h, Kind.ofMode_eq_tx h]
    exact ⟨_, rfl, rfl⟩
  · rw [if_neg h, if_pos (by omega), Kind.ofMode_eq_rx (by omega)]
    exact ⟨_, rfl, rfl⟩

/-- **The outcomes of a handler** on a PDU with a system id: a refusal that changes nothing, or
success with one session appended. -/
theorem handlersConn_cases {name : Octstr} (hn : pdu.systemId = some name) :
    ∃ info, handlersConn type srv r tc pdu = .ok info ∧
      ((info.resp.commandStatus ≠ 0 ∧ info.registry = r ∧
          (info.tempConn.bindSuccessful = tc.bindSuccessful ∨
            info.tempConn.bindSuccessful = 0)) ∨
        (info.resp.commandStatus = 0 ∧ SessionAppended tc.conn type.kind r info.registry ∧
          info.tempConn.bindSuccessful = 1)) := by
  obtain ⟨h1, h3, hkind⟩ := handlerOf_mode type
  have hsess : ∀ e k, k = type.kind → (addSession srv.toAuthEnv pdu tc (handlerOf type).mode e).sessions k
      ≠ [] := by
    intro e k hk
    rw [sessions_addSession e h1 h3, if_pos (hk.trans hkind.symm)]
    simp
  rw [handlersConn_eq, handleBind]
  by_cases hrun : srv.programStatus = .running
  swap
  · rw [if_pos hrun]
    exact ⟨_, rfl, .inl ⟨by simp [rbindfail], rfl, .inl rfl⟩⟩
  rw [if_neg (not_not.mpr hrun)]
  by_cases hport : tc.listenPort = (handlerOf type).port srv
  swap
  · rw [if_pos hport]
    exact ⟨_, rfl, .inl ⟨handlerOf_refusal type, rfl, .inl rfl⟩⟩
  rw [if_neg (not_not.mpr hport)]
  by_cases hserv : checkServerConnections srv = -1
  · rw [if_pos hserv]
    exact ⟨_, rfl, .inl ⟨handlerOf_refusal type, rfl, .inl rfl⟩⟩
  rw [if_neg hserv]
  obtain ⟨ret, hret, hu⟩ | ⟨t, -, hp, hu⟩ | ⟨t, a, e, -, hp, hu⟩ :=
    authoriseUser_cases srv.toAuthEnv r tc hn h1 (by omega)
  · rw [hu]
    refine ⟨_, rfl, .inl ⟨handlerOf_status_ne_zero type hret, rfl, .inr ?_⟩⟩
    have hne : ret ≠ 0 := by
      rintro rfl
      exact absurd hret (by decide)
    exact if_neg fun h => hne h.1
  · rw [hu]
    refine ⟨_, rfl, .inr ⟨handlerOf_status_zero type _, ?_, ?_⟩⟩
    · exact ⟨newEsme srv.toAuthEnv pdu t, _, hkind ▸ oneMore_addSession _ h1 h3,
        .inl ⟨newEsme_sessions t, rfl⟩⟩
    · exact if_pos ⟨rfl, handlerOf_sessionPresent (Arena.mem_alloc.mpr (.inr ⟨rfl, rfl⟩))
        (hsess _ _ rfl)⟩
  · rw [hu]
    have he := (isPresentEsme_eq_some hp).1
    refine ⟨_, rfl, .inr ⟨handlerOf_status_zero type _, ?_, ?_⟩⟩
    · exact ⟨e, _, hkind ▸ oneMore_addSession e h1 h3, .inr ⟨a, he, Arena.modify_cells_eq he⟩⟩
    · exact if_pos ⟨rfl, handlerOf_sessionPresent (Arena.mem_modify.mpr (.inr ⟨rfl, e, he, rfl⟩))
        (hsess _ _ rfl)⟩

end Spec

/-- **Bind atomicity.**  For a bind PDU with a system id on a new connection, the handler answers
with status `0` exactly when one session was appended to the registry and `bind_successful` is set;
otherwise the registry is untouched and `bind_successful` is `0`. -/
theorem bind_atomic (type : BindType) (srv : Server) (r : Registry) (pdu : BindPdu) (name : Octstr)
    (hn : pdu.systemId = some name) (conn : ℕ) (clientIp : Octstr)
    (clientPort listenPort listenMode : ℤ) :
    ∃ info,
      handlersConn type srv r (tempconnCreate conn clientIp clientPort listenPort listenMode) pdu =
        .ok info ∧
      (info.resp.commandStatus = 0 ↔
        SessionAppended conn type.kind r info.registry ∧ info.tempConn.bindSuccessful = 1) ∧
      (info.resp.commandStatus ≠ 0 →
        info.registry = r ∧ info.tempConn.bindSuccessful = 0) := by
  obtain ⟨info, hinfo, ⟨hst, hreg, hbs⟩ | ⟨hst, happ, hbs⟩⟩ :=
    handlersConn_cases type srv r
      (tempconnCreate conn clientIp clientPort listenPort listenMode) hn
  · have hbs : info.tempConn.bindSuccessful = 0 := hbs.elim id id
    refine ⟨info, hinfo, ⟨fun h => absurd h hst, fun h => ?_⟩, fun _ => ⟨hreg, hbs⟩⟩
    rw [hbs] at h
    exact absurd h.2 (by decide)
  · exact ⟨info, hinfo, ⟨fun _ => ⟨happ, hbs⟩, fun _ => hst⟩, fun h => absurd hst h⟩

/-- A server with every connection up that listens for transmitters on port 2775. -/
def sampleServer : Server where
  toAuthEnv := sampleEnv
  programStatus := .running
  transPort := 2775
  recvPort := 2776
  transRecvPort := 2777
  dbboxClient := some ⟨true⟩
  forwardClient := some ⟨true⟩
  reverseClient := some ⟨true⟩
  dbboxConnectedToClient := 1
  smscSystemId := none

/-- The first transmitter of the account is accepted. -/
theorem bind_atomic_samplePdu :
    ∃ info, handlersConn .bindTransmitter sampleServer Arena.empty
        (tempconnCreate 0 (octstrImm "10.0.0.1") 4000 2775 1) samplePdu = .ok info ∧
      SessionAppended 0 .tx Arena.empty info.registry ∧ info.tempConn.bindSuccessful = 1 := by
  have hstatus : (handlersConn .bindTransmitter sampleServer Arena.empty
      (tempconnCreate 0 (octstrImm "10.0.0.1") 4000 2775 1) samplePdu).map
        (fun info => info.resp.commandStatus) = .ok 0 := by rfl
  obtain ⟨info, hinfo, hiff, -⟩ := bind_atomic .bindTransmitter sampleServer Arena.empty samplePdu
    (octstrImm "acme") rfl 0 (octstrImm "10.0.0.1") 4000 2775 1
  rw [hinfo] at hstatus
  exact ⟨info, hinfo, hiff.mp (Except.ok.inj hstatus)⟩

/-! ## When a bind is answered

The system id decides.  Before any handler sees the PDU the thread asks for the log of the account, and without
a name that function returns no value: so a bind without a system id is not answered, whatever its handler would
have said. -/

/-- A handler that gets as far as authentication fails the assertion on a PDU without system id. -/
theorem handlersConn_of_none {type : BindType} {srv : Server} {r : Registry} {tc : TempConn}
    {pdu : BindPdu} (hn : pdu.systemId = none) (hrun : srv.programStatus = .running)
    (hport : tc.listenPort = (handlerOf type).port srv) (hserv : checkServerConnections srv ≠ -1) :
    handlersConn type srv r tc pdu = .error (.gwAssert "name != NULL") := by
  obtain ⟨h1, h3, -⟩ := handlerOf_mode type
  rw [handlersConn_eq, handleBind, if_neg (not_not.mpr hrun), if_neg (not_not.mpr hport),
    if_neg hserv, authoriseUser, authoriseCheck_of_none hn h1 (by omega)]

/-- The refusals that stand before authentication are answers. -/
theorem handlersConn_of_refused {type : BindType} {srv : Server} {tc : TempConn} (r : Registry)
    (pdu : BindPdu) (h : srv.programStatus ≠ .running ∨ tc.listenPort ≠ (handlerOf type).port srv ∨
      checkServerConnections srv = -1) : ∃ info, handlersConn type srv r tc pdu = .ok info := by
  rw [handlersConn_eq, handleBind]
  by_cases hrun : srv.programStatus = .running
  swap
  · exact ⟨_, if_pos hrun⟩
  by_cases hport : tc.listenPort = (handlerOf type).port srv
  swap
  · exact ⟨_, (if_neg (not_not.mpr hrun)).trans (if_pos hport)⟩
  have hserv : checkServerConnections srv = -1 := by simpa [hrun, hport] using h
  exact ⟨_, (if_neg (not_not.mpr hrun)).trans ((if_neg (not_not.mpr hport)).trans (if_pos hserv))⟩

/-- **When a handler answers.**  A bind with a system id always is answered.  Without one, the answer
comes only from the refusals that stand before authentication. -/
theorem handlersConn_answers_iff (srv : Server) (r : Registry) (tc : TempConn) (type : BindType)
    (pdu : BindPdu) :
    (∃ info, handlersConn type srv r tc pdu = .ok info) ↔
      pdu.systemId ≠ none ∨ srv.programStatus ≠ .running ∨
        tc.listenPort ≠ (handlerOf type).port srv ∨ checkServerConnections srv = -1 := by
  constructor
  · rintro ⟨info, hinfo⟩
    by_contra hno
    simp only [not_or, not_not] at hno
    obtain ⟨hn, hrun, hport, hserv⟩ := hno
    rw [handlersConn_of_none hn hrun hport hserv] at hinfo
    exact absurd hinfo (by simp)
  · intro hor
    cases hn : pdu.systemId with
    | some name =>
      obtain ⟨info, hinfo, -⟩ := handlersConn_cases type srv r tc hn
      exact ⟨info, hinfo⟩
    | none => exact handlersConn_of_refused r pdu (by simpa [hn] using hor)

/-- With a name the function returns an index. -/
theorem initLogFile_some (name : Octstr) (translations : List SmscClient) (mode : ℤ) :
    ∃ idx, initLogFile (some name) translations mode = .ok idx := by
  simp only [initLogFile, smppClientFindUsername_some]
  cases translations.find? fun t => name = t.accountName with
  | none => exact ⟨_, rfl⟩
  | some t =>
    dsimp only
    split
    · exact ⟨_, rfl⟩
    · split <;> exact ⟨_, rfl⟩

/-- A PDU with a system id gets to its handler. -/
theorem handlePduBind_of_some {srv : Server} {pdu : BindPdu} {name : Octstr}
    (hn : pdu.systemId = some name) (r : Registry) (tc : TempConn) (type : BindType) :
    handlePduBind srv r tc type pdu = handlersConn type srv r tc pdu := by
  obtain ⟨idx, hidx⟩ := initLogFile_some name srv.translations tc.mode
  rw [handlePduBind, hn, hidx]

/-- A PDU without one does not, in whatever state the server is. -/
theorem handlePduBind_of_none {pdu : BindPdu} (hn : pdu.systemId = none) (srv : Server) (r : Registry)
    (tc : TempConn) (type : BindType) :
    handlePduBind srv r tc type pdu = .error .indeterminate := by
  rw [handlePduBind, hn, initLogFile]

/-- **When a bind PDU is answered**: if and only if it has a system id.  Without one no refusal comes
in time, because `handle_pdu_bind` uses what `init_log_file` does not return before it calls a handler;
a handler that came to authenticate the user would fail its assertion (`handlersConn_answers_iff`). -/
theorem handlePduBind_answers_iff (srv : Server) (r : Registry) (tc : TempConn) (type : BindType)
    (pdu : BindPdu) :
    (∃ info, handlePduBind srv r tc type pdu = .ok info) ↔ pdu.systemId ≠ none := by
  cases hn : pdu.systemId with
  | none =>
    rw [handlePduBind_of_none hn]
    simp
  | some name =>
    have hanswers := (handlersConn_answers_iff srv r tc type pdu).mpr (.inl (by simp [hn]))
    rw [handlePduBind_of_some hn]
    simpa using hanswers

/-- A `bind_transmitter` with an empty system id is not answered by a server that is up: not every bind
PDU is answered. -/
theorem handlePduBind_not_total :
    ¬ ∀ (srv : Server) (r : Registry) (tc : TempConn) (type : BindType) (pdu : BindPdu),
      ∃ info, handlePduBind srv r tc type pdu = .ok info := by
  intro hall
  obtain ⟨info, hinfo⟩ := hall sampleServer Arena.empty
    (tempconnCreate 0 (octstrImm "10.0.0.1") 4000 2775 1) .bindTransmitter { systemId := none }
  rw [handlePduBind_of_none rfl] at hinfo
  exact absurd hinfo (by simp)

end SmppServer.SmppEsme
