import SmppServer.Esme.Registry

/-!
# Esme/Authorise — authentication of a bind, and the session it creates

`authorise_user` runs in two sections.  The first looks the account up, checks password, mode and
dates, finds the account's entry in `esme_list` and compares its number of sessions with the
configured limit; the second, under the write lock, creates the entry if the first found none and
appends a new session to it.  They are `authoriseCheck` and `authoriseCommit`; `authoriseUser` runs
one after the other.

* `authoriseCheck_accepted` — everything an accepted bind has been checked for.
* `authoriseUser_cases` — the three outcomes: a refusal that changes nothing, a fresh entry with one
  session, or one more session in the account's entry.
-/

namespace SmppServer.SmppEsme

open Machinery

/-- The fields of a `bind_transmitter`, `bind_receiver` or `bind_transceiver` PDU; an empty text
field unpacks to `NULL`. -/
structure BindPdu where
  systemId : Option Octstr
  password : Option Octstr := none
  systemType : Option Octstr := none
  interfaceVersion : ℤ := 52
  addrTon : ℤ := 0
  addrNpi : ℤ := 0
  addressRange : Option Octstr := none
  sequenceNumber : ℕ := 0
  deriving DecidableEq, Repr

/-- `TEMPCONN`: a connection that has not been bound yet. -/
structure TempConn where
  conn : ℕ
  clientIp : Octstr
  clientPort : ℤ
  listenPort : ℤ
  bindSuccessful : ℤ
  mode : ℤ
  sessionId : ℤ
  deriving DecidableEq, Repr

/-- `tempconn_create`. -/
def tempconnCreate (conn : ℕ) (clientIp : Octstr) (clientPort listenPort mode : ℤ) : TempConn :=
  ⟨conn, clientIp, clientPort, listenPort, 0, mode, 0⟩

/-- What authentication reads besides the registry: the accounts, the clock, the known SMSCs and the
id of the calling thread. -/
structure AuthEnv where
  translations : List SmscClient
  clock : Clock
  smscList : List SmscConnList
  threadId : ℤ

/-- The outcome of the first section: a refusal with its return value, or the account and the entry
found for it in `esme_list`. -/
inductive CheckResult
  | refused (ret : ℤ)
  | accepted (t : SmscClient) (esmePresent : Option ℕ)
  deriving DecidableEq, Repr

/-- A session limit is hit: it is `0` and the account has no entry, or it equals the number of
sessions of the entry found. -/
def limitHit {α : Type} (sessions : Esme → List α) (limit : ℤ) : Option (ℕ × Esme) → Bool
  | none => limit = 0
  | some (_, e) => ((sessions e).length : ℤ) = limit

/-- The session limit that applies to a bind of that mode is hit. -/
def sessionLimitHit (mode : ℤ) (t : SmscClient) (present : Option (ℕ × Esme)) : Bool :=
  if mode = 1 ∨ mode = 3 then limitHit (·.txEsme) t.maxTxSessions present
  else if mode = 2 then limitHit (·.rxEsme) t.maxRxSessions present
  else false

/-- The checks of password, mode and dates against the account: the return value of the first one
that fails.  A bind without password is not compared with the account's. -/
def accountRefusal (env : AuthEnv) (pdu : BindPdu) (mode : ℤ) (t : SmscClient) : Option ℤ :=
  if pdu.password ≠ none ∧ pdu.password ≠ some t.password then some 2
  else if t.allowedMode < 4 ∧ mode ≠ t.allowedMode then some 3
  else if mode = 3 ∧ t.allowedMode = 4 then some 3
  else
    match compareDate env.clock (some t.validfrom) (some t.validto) with
    | .yourAccountWillValidAfterSometime => some 4
    | .yourAccountIsNotValid => some 5
    | _ => none

/-- The first section of `authorise_user`: from the arguments to the limit checks. -/
def authoriseCheck (env : AuthEnv) (r : Registry) (pdu : BindPdu) (mode : ℤ) :
    Except Fault CheckResult :=
  if mode > 4 ∨ mode < 1 then .ok (.refused (-1))
  else
    match smppClientFindUsername env.translations pdu.systemId with
    | .error f => .error f
    | .ok none => .ok (.refused 1)
    | .ok (some t) =>
      match accountRefusal env pdu mode t with
      | some ret => .ok (.refused ret)
      | none =>
        if sessionLimitHit mode t (isPresentEsme r pdu.systemId) then .ok (.refused 10)
        else .ok (.accepted t ((isPresentEsme r pdu.systemId).map Prod.fst))

/-- The entry made for an account without one. -/
def newEsme (env : AuthEnv) (pdu : BindPdu) (t : SmscClient) : Esme where
  systemId := pdu.systemId
  password := pdu.password
  systemType := pdu.systemType
  interfaceVersion := pdu.interfaceVersion
  addrTon := pdu.addrTon
  addrNpi := pdu.addrNpi
  addressRange := pdu.addressRange
  enquireLinkInterval := t.enquireLinkInterval
  allowedPrefix := t.allowedPrefix
  deniedPrefix := t.deniedPrefix
  maxSubmitsUnconnect := t.maxSubmitsUnconnect
  maxSubmits := t.maxSubmits
  maxTps := t.maxTps
  validTimeFrom := t.validTimeFrom
  validTimeTo := t.validTimeTo
  dndCheck := t.dndsCheck
  msgCount := 0
  esmTime := env.clock.now
  logFile := t.logFile
  rxLogFile := t.rxLogFile
  logLevel := if t.logFile.isSome ∨ t.rxLogFile.isSome then t.logLevel else -1
  logIdx := if t.logFile.isSome then t.logIdx else -1
  rxLogIdx := if t.rxLogFile.isSome then some t.rxLogIdx else none
  txEsme := []
  rxEsme := []

/-- What a new session takes from the connection and the PDU. -/
def newSession (env : AuthEnv) (pdu : BindPdu) (tc : TempConn) (mode sessionId : ℤ)
    (status : EsmeStatus) : Session where
  conn := tc.conn
  clientIp := tc.clientIp
  clientPort := tc.clientPort
  listenPort := tc.listenPort
  startTime := env.clock.now
  seqNumberCounter := pdu.sequenceNumber
  status := status
  mode := mode
  threadId := env.threadId
  sessionId := sessionId

/-- The status a transmitter session starts with. -/
def initialTxStatus (env : AuthEnv) (pdu : BindPdu) : EsmeStatus :=
  let smsc := checkSmscConn env.translations env.smscList pdu.systemId
  if smsc = 0 ∨ smsc = 1 then .smscUnconnected else .binded

/-- The id the next session of that mode gets. -/
def nextSessionId (e : Esme) (mode : ℤ) : ℤ :=
  if mode = 1 ∨ mode = 3 then allocateSessionId (e.txEsme.map (·.sessionId))
  else allocateSessionId (e.rxEsme.map (·.sessionId))

/-- Append a new session to the list its mode selects; mode `4` selects none. -/
def addSession (env : AuthEnv) (pdu : BindPdu) (tc : TempConn) (mode : ℤ) (e : Esme) : Esme :=
  if mode = 1 ∨ mode = 3 then
    { e with txEsme := e.txEsme ++
        [{ newSession env pdu tc mode (nextSessionId e mode) (initialTxStatus env pdu) with }] }
  else if mode = 2 then
    { e with rxEsme := e.rxEsme ++
        [{ newSession env pdu tc 2 (nextSessionId e mode) .binded with }] }
  else e

/-- The connection afterwards: it knows the mode and the id of its session. -/
def noteSession (tc : TempConn) (mode : ℤ) (e : Esme) : TempConn :=
  if mode = 1 ∨ mode = 2 ∨ mode = 3 then
    { tc with mode := mode, sessionId := nextSessionId e mode }
  else tc

/-- The second section of `authorise_user`, under the write lock.  An entry that was found in the
first section and freed since is written to all the same. -/
def authoriseCommit (env : AuthEnv) (r : Registry) (pdu : BindPdu) (mode : ℤ) (tc : TempConn)
    (t : SmscClient) (esmePresent : Option ℕ) :
    Except Fault (Registry × TempConn × ℕ) :=
  match esmePresent with
  | none =>
    let e := newEsme env pdu t
    .ok (r.alloc (addSession env pdu tc mode e), noteSession tc mode e, r.next)
  | some a =>
    match r.get? a with
    | none => .error .dangling
    | some e => .ok (r.modify a (addSession env pdu tc mode), noteSession tc mode e, a)

/-- What `authorise_user` leaves behind: its return value, the registry, the connection, and the
entry stored through `esme_ptr`. -/
structure AuthResult where
  ret : ℤ
  registry : Registry
  tempConn : TempConn
  esme : Option ℕ

/-- `authorise_user`. -/
def authoriseUser (env : AuthEnv) (r : Registry) (pdu : BindPdu) (mode : ℤ) (tc : TempConn) :
    Except Fault AuthResult :=
  match authoriseCheck env r pdu mode with
  | .error f => .error f
  | .ok (.refused ret) => .ok ⟨ret, r, tc, none⟩
  | .ok (.accepted t esmePresent) =>
    match authoriseCommit env r pdu mode tc t esmePresent with
    | .error f => .error f
    | .ok (r', tc', esme) => .ok ⟨0, r', tc', some esme⟩

/-! ## What a check establishes

The first section reads and writes nothing.  A bind that it accepts has an account with the right password and a
mode and a date that fit, and the entry it found or the knowledge that there was none. -/

section Check

variable {env : AuthEnv} {r : Registry} {pdu : BindPdu} {mode : ℤ} {t : SmscClient}
  {present : Option ℕ}

/-- With a system id the first section never faults. -/
theorem authoriseCheck_ne_error {name : Octstr} (hn : pdu.systemId = some name) (f : Fault) :
    authoriseCheck env r pdu mode ≠ .error f := by
  unfold authoriseCheck
  rw [hn, smppClientFindUsername_some]
  intro h
  repeat' split at h
  all_goals simp_all

/-- Without a system id the assertion in the account look-up fails. -/
theorem authoriseCheck_of_none (hn : pdu.systemId = none) (h1 : 1 ≤ mode) (h4 : mode ≤ 4) :
    authoriseCheck env r pdu mode = .error (.gwAssert "name != NULL") := by
  unfold authoriseCheck
  rw [if_neg (by omega), hn]
  rfl

/-- **What an accepted bind has been checked for.** -/
theorem authoriseCheck_accepted (h : authoriseCheck env r pdu mode = .ok (.accepted t present)) :
    (1 ≤ mode ∧ mode ≤ 4) ∧
      (∃ name, pdu.systemId = some name ∧
        env.translations.find? (fun t => name = t.accountName) = some t) ∧
      accountRefusal env pdu mode t = none ∧
      sessionLimitHit mode t (isPresentEsme r pdu.systemId) = false ∧
      present = (isPresentEsme r pdu.systemId).map Prod.fst := by
  unfold authoriseCheck at h
  split at h
  · exact absurd h (by simp)
  next hmode =>
  cases hn : pdu.systemId with
  | none =>
    rw [hn] at h
    exact absurd h (by simp [smppClientFindUsername])
  | some name =>
    rw [hn, smppClientFindUsername_some] at h
    cases hf : env.translations.find? fun t => name = t.accountName with
    | none =>
      rw [hf] at h
      exact absurd h (by simp)
    | some t' =>
      simp only [hf] at h
      split at h
      · exact absurd h (by simp)
      next hacc =>
      split at h
      · exact absurd h (by simp)
      next hlim =>
      simp only [Except.ok.injEq, CheckResult.accepted.injEq] at h
      obtain ⟨rfl, rfl⟩ := h
      exact ⟨⟨by omega, by omega⟩, ⟨name, rfl, hf⟩, hacc, by simpa using hlim, rfl⟩

theorem accountRefusal_mem {ret : ℤ} (h : accountRefusal env pdu mode t = some ret) :
    ret ∈ [2, 3, 4, 5] := by
  unfold accountRefusal at h
  repeat' split at h
  all_goals
    simp only [Option.some.injEq, reduceCtorEq] at h
    try exact h ▸ by decide

/-- The return values of a refusal; `-1` is left to modes that no handler uses. -/
theorem authoriseCheck_refused {ret : ℤ} (h : authoriseCheck env r pdu mode = .ok (.refused ret)) :
    ret = -1 ∧ (mode > 4 ∨ mode < 1) ∨ ret ∈ [1, 2, 3, 4, 5, 10] := by
  unfold authoriseCheck at h
  repeat' split at h
  all_goals simp only [Except.ok.injEq, CheckResult.refused.injEq, reduceCtorEq] at h
  · next hmode => exact .inl ⟨h.symm, hmode⟩
  · exact .inr (h ▸ by decide)
  · next hacc =>
    have := accountRefusal_mem hacc
    simp only [List.mem_cons, List.not_mem_nil, or_false] at this ⊢
    omega
  · exact .inr (h ▸ by decide)

end Check

/-! ## What a commit does

The second section adds one session, to the entry it was given or to a new one.  Both kinds of a session share
`addedSession`, so that the two lists need one lemma. -/

section Commit

variable {env : AuthEnv} {r : Registry} {pdu : BindPdu} {mode : ℤ} {tc : TempConn}

theorem Kind.ofMode_eq_tx (h : mode = 1 ∨ mode = 3) : Kind.ofMode mode = .tx :=
  if_neg (by omega)

theorem Kind.ofMode_eq_rx (h : mode = 2) : Kind.ofMode mode = .rx := if_pos h

theorem nextSessionId_eq (e : Esme) (h1 : 1 ≤ mode) (h3 : mode ≤ 3) :
    nextSessionId e mode = allocateSessionId (e.ids (.ofMode mode)) := by
  unfold nextSessionId
  by_cases h : mode = 1 ∨ mode = 3
  · rw [if_pos h, Kind.ofMode_eq_tx h, Esme.ids_tx]
  · rw [if_neg h, Kind.ofMode_eq_rx (by omega), Esme.ids_rx]

/-- The part common to both kinds of the session that a bind of that mode appends. -/
def addedSession (env : AuthEnv) (pdu : BindPdu) (tc : TempConn) (mode : ℤ) (e : Esme) : Session :=
  newSession env pdu tc mode (nextSessionId e mode)
    (if mode = 1 ∨ mode = 3 then initialTxStatus env pdu else .binded)

@[simp] theorem addedSession_conn (e : Esme) :
    (addedSession env pdu tc mode e).conn = tc.conn := rfl

@[simp] theorem addedSession_sessionId (e : Esme) :
    (addedSession env pdu tc mode e).sessionId = nextSessionId e mode := rfl

@[simp] theorem addSession_systemId (e : Esme) :
    (addSession env pdu tc mode e).systemId = e.systemId := by
  unfold addSession
  split
  · rfl
  · split <;> rfl

/-- A bind appends one session to the list of its kind and leaves the other list alone. -/
theorem sessions_addSession (e : Esme) (h1 : 1 ≤ mode) (h3 : mode ≤ 3) (k : Kind) :
    (addSession env pdu tc mode e).sessions k =
      if k = .ofMode mode then e.sessions k ++ [addedSession env pdu tc mode e]
      else e.sessions k := by
  unfold addSession addedSession
  by_cases h : mode = 1 ∨ mode = 3
  · rw [if_pos h, if_pos h, Kind.ofMode_eq_tx h]
    cases k <;> simp [Esme.sessions]
  · obtain rfl : mode = 2 := by omega
    rw [if_neg h, if_neg h, if_pos rfl, Kind.ofMode_eq_rx rfl]
    cases k <;> simp [Esme.sessions]

@[simp] theorem newEsme_systemId (t : SmscClient) : (newEsme env pdu t).systemId = pdu.systemId :=
  rfl

@[simp] theorem newEsme_sessions (t : SmscClient) (k : Kind) : (newEsme env pdu t).sessions k = [] := by
  cases k <;> rfl

theorem noteSession_sessionId (e : Esme) (h1 : 1 ≤ mode) (h3 : mode ≤ 3) :
    (noteSession tc mode e).sessionId = nextSessionId e mode := by
  unfold noteSession
  rw [if_pos (by omega)]

theorem isPresentEsme_eq_some {a : ℕ} {e : Esme} {name : Option Octstr}
    (h : isPresentEsme r name = some (a, e)) : (a, e) ∈ r.cells ∧ e.systemId = name :=
  ⟨Arena.mem_of_find?_eq_some h, by simpa using Arena.pred_of_find?_eq_some h⟩

theorem isPresentEsme_eq_none {a : ℕ} {e : Esme} {name : Option Octstr}
    (h : isPresentEsme r name = none) (he : (a, e) ∈ r.cells) : e.systemId ≠ name := by
  simpa using Arena.find?_eq_none h he

/-- **The three outcomes of `authorise_user`** on a PDU with a system id: a refusal that changes
nothing, a fresh entry with its first session, or one more session in the account's entry. -/
theorem authoriseUser_cases (env : AuthEnv) (r : Registry) (tc : TempConn) {name : Octstr}
    (hn : pdu.systemId = some name) (h1 : 1 ≤ mode) (h4 : mode ≤ 4) :
    (∃ ret ∈ [1, 2, 3, 4, 5, 10], authoriseUser env r pdu mode tc = .ok ⟨ret, r, tc, none⟩) ∨
    (∃ t, authoriseCheck env r pdu mode = .ok (.accepted t none) ∧
      isPresentEsme r pdu.systemId = none ∧
      authoriseUser env r pdu mode tc =
        .ok ⟨0, r.alloc (addSession env pdu tc mode (newEsme env pdu t)),
          noteSession tc mode (newEsme env pdu t), some r.next⟩) ∨
    (∃ t a e, authoriseCheck env r pdu mode = .ok (.accepted t (some a)) ∧
      isPresentEsme r pdu.systemId = some (a, e) ∧
      authoriseUser env r pdu mode tc =
        .ok ⟨0, r.modify a (addSession env pdu tc mode), noteSession tc mode e, some a⟩) := by
  unfold authoriseUser
  cases hc : authoriseCheck env r pdu mode with
  | error f => exact absurd hc (authoriseCheck_ne_error hn f)
  | ok res =>
    cases res with
    | refused ret =>
      have hret := (authoriseCheck_refused hc).resolve_left fun h => by omega
      exact .inl ⟨ret, hret, rfl⟩
    | accepted t present =>
      obtain ⟨_, _, _, _, rfl⟩ := authoriseCheck_accepted hc
      cases hp : isPresentEsme r pdu.systemId with
      | none => exact .inr (.inl ⟨t, rfl, rfl, rfl⟩)
      | some c =>
        obtain ⟨he, _⟩ := isPresentEsme_eq_some hp
        refine .inr (.inr ⟨t, c.1, c.2, rfl, rfl, ?_⟩)
        simp only [Option.map_some, authoriseCommit, Arena.get?_eq_some.mpr he]

end Commit

/-! ## A small configuration -/

/-- An account of the configuration file, valid from 2020 to 2030, with at most two transmitters. -/
def sampleClient : SmscClient where
  accountName := octstrImm "acme"
  password := octstrImm "secret"
  validfrom := octstrImm "01/01/2020 00:00:00"
  validto := octstrImm "01/01/2030 00:00:00"
  allowedMode := 1
  maxTxSessions := 2

/-- A server in 2023, in the time zone UTC, with that account. -/
def sampleEnv : AuthEnv where
  translations := [sampleClient]
  clock :=
    { now := 1700000000
      isdst1 := 0
      isdst3 := 0
      toSeconds := fun _ d =>
        if d = octstrImm "01/01/2020 00:00:00" then 1577836800
        else if d = octstrImm "01/01/2030 00:00:00" then 1893456000
        else 0 }
  smscList := []
  threadId := 1

/-- A transmitter bind of that account. -/
def samplePdu : BindPdu where
  systemId := some (octstrImm "acme")
  password := some (octstrImm "secret")

end SmppServer.SmppEsme
