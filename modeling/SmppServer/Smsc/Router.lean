import SmppServer.Smsc.Route
import SmppServer.Smsc.IoThread

/-!
# Smsc/Router — the SMSC process as a whole

Submits arrive through `handle_request`, `msg_router` goes over the messages that wait, and both pass
a message to `smsc2_rout`; the threads of the connections run beside them.  A message between the
decision to route it and its routing is *in hand*: the state of the process may change in between.

The two numbers that `msg_router` keeps in local variables survive from one message to the next.
-/

namespace SmppServer.SmppSmsc

/-- A `submit` message from the ESME process, or from the database process when DND checking is on. -/
structure Submit where
  accountName : Octstr
  accountMsgId : Octstr
  reqTime : Octstr
  pdu : Option Octstr
  preferredSmsc : Octstr
  allowedSmsc : Octstr
  destinationAddr : Octstr
  sourceAddr : Octstr
  content : Option Octstr
  dataCoding : ℤ
  esmClass : ℤ
  moreMessagesToSend : ℤ
  ip : Option Octstr
  deriving DecidableEq, Repr

/-- Where `msg_router` is: between two passes, in a pass with so many messages to go, in the drain at
its end, or ended. -/
inductive RouterPc
  | idle
  | pass (left : ℕ)
  | drain (left : ℕ)
  | ended
  deriving DecidableEq, Repr

/-- The SMSC process: the connections and queues, the messages in hand, the router with its local
variables, and the ids of all submits received. -/
structure System where
  process : Process
  inHand : List Msg := []
  router : RouterPc := .idle
  preferredNos : ℕ := 0
  allowedNos : ℕ := 0
  received : List Octstr := []
  deriving DecidableEq

def System.setQueues (s : System) (q : Queues) : System :=
  { s with process := { s.process with queues := q } }

def System.setConn (s : System) (i : ℕ) (conn : SmscConn) : System :=
  { s with process := { s.process with smscList := s.process.smscList.set i conn } }

/-! ## Submits -/

section Request

variable (lib : Gwlib) (cfg : ClientCfg)

/-- The routing array made of the octets of a text. -/
def routingArray (positions : Octstr) : List ℤ := positions.map (fun c => (c.toNat : ℤ)) ++ [-1]

/-- The message that `handle_request` makes of a submit.  With DND checking it has no PDU and goes to
the first SMSC. -/
def submitMsg (submit : Submit) : Msg where
  smInfo :=
    { pdu := if cfg.dndcheckFlag then none else submit.pdu
      accountName := submit.accountName
      accountMsgId := submit.accountMsgId
      reqTime := submit.reqTime
      clientIp := submit.ip }
  routingInfo :=
    { destinationAddr := submit.destinationAddr
      sourceAddr := submit.sourceAddr
      content := submit.content
      dataCoding := submit.dataCoding
      esmClass := submit.esmClass
      moreMessagesToSend := submit.moreMessagesToSend
      preferredSmsc := if cfg.dndcheckFlag then [0, -1] else routingArray submit.preferredSmsc
      allowedSmsc := if cfg.dndcheckFlag then [-1] else routingArray submit.allowedSmsc }

/-- `handle_request` can make a message of the submit: with DND checking always, else if it has
positions to go to and a PDU. -/
def Submit.Complete (submit : Submit) : Prop :=
  cfg.dndcheckFlag = true ∨
    ¬ (submit.preferredSmsc = [] ∧ submit.allowedSmsc = []) ∧ submit.pdu ≠ none

instance (submit : Submit) : Decidable (submit.Complete cfg) := inferInstanceAs (Decidable (_ ∨ _))

/-- `handle_request` on a submit, up to the call of `smsc2_rout`.  While the process shuts down the
submit is recorded and destroyed; a submit that is not complete is destroyed. -/
def handleRequest (s : System) (submit : Submit) : Option System :=
  let s := { s with received := s.received ++ [submit.accountMsgId] }
  let q := s.process.queues
  if s.process.smppClientStatus ≠ .running then
    (submit.pdu.bind lib.smppPduUnpack).map fun pdu =>
      s.setQueues
        { q with
          insertMis := q.insertMis ++
            [misRecord submit.accountName submit.accountMsgId submit.reqTime none none pdu 0x40B
              submit.ip]
          destroyed := q.destroyed ++ [submit.accountMsgId] }
  else if submit.Complete cfg then
    some { s with inHand := s.inHand ++ [{ submitMsg cfg submit with serial := s.received.length }] }
  else some (s.setQueues { q with destroyed := q.destroyed ++ [submit.accountMsgId] })

/-- The call of `smsc2_rout` for a message in hand. -/
def routInHand (s : System) (k : ℕ) (stack : ℤ) : Option System :=
  match s.inHand[k]? with
  | none => none
  | some message =>
    match smsc2Rout lib cfg stack 1 s.process message with
    | some (.ok (_, p)) => some { s with process := p, inHand := s.inHand.eraseIdx k }
    | _ => none

/-! ## The router

A pass goes over as many messages as were waiting when it began.  Each of them is dropped, given up, put back,
or taken in hand. -/

/-- `smsc_length`: the number of active connections. -/
def smscLength (smscList : List SmscConn) : ℕ :=
  smscList.countP fun conn => (smscconnInfo conn).status = .active

/-- Reading and writing a routing array, which is filled with `-1`. -/
def arrayGet (a : List ℤ) (i : ℕ) : ℤ := a.getD i (-1)

def arraySet (a : List ℤ) (i : ℕ) (v : ℤ) : List ℤ :=
  (a ++ List.replicate (i + 1 - a.length) (-1)).set i v

/-- The number of entries before the terminator, or what the variable held if there is none. -/
def countEntries (stale : ℕ) (a : List ℤ) : ℕ :=
  if terminated a = [] then stale else (terminated a).length

/-- The merge of `msg_router`: the preferred positions are moved behind the allowed ones. -/
def mergeSmsc (preferredNos allowedNos : ℕ) (routingInfo : ForwardQueueData) : ForwardQueueData :=
  let (preferred, allowed) := (List.range preferredNos).foldl
    (fun (arrays : List ℤ × List ℤ) j =>
      (arraySet arrays.1 j (-1), arraySet arrays.2 (allowedNos + j) (arrayGet arrays.1 j)))
    (routingInfo.preferredSmsc, routingInfo.allowedSmsc)
  { routingInfo with
    preferredSmsc := preferred
    allowedSmsc := arraySet allowed (allowedNos + preferredNos) (-1) }

/-- A message is given up: it is recorded with the status, and destroyed. -/
def giveUp (s : System) (msg : Msg) (status : ℤ) : Option System :=
  (msg.smInfo.pdu.bind lib.smppPduUnpack).map fun pdu =>
    s.setQueues (msgDestroy (misDbInsert s.process.queues msg msg.failedSmscId none pdu status) msg)

/-- One message of a pass, taken off `outgoing_msg`; `recheck` tells whether the second look at the
connections still finds none active. -/
def routerMsg (s : System) (msg : Msg) (recheck : Bool) (now : ℤ) : Option System :=
  if msg.smInfo.pdu = none then some s
  else if msg.msgState = .sentNoresp then giveUp lib s msg 0x405
  else if msg.retries = cfg.maxRetryLimit then giveUp lib s msg 0x404
  else if cfg.maxMsgDuration ≠ -1 ∧ cfg.maxMsgDuration < now - msg.msgRetryTime then
    giveUp lib s msg 0x404
  else if 0 < smscLength s.process.smscList then
    let preferredNos := countEntries s.preferredNos msg.routingInfo.preferredSmsc
    let allowedNos := countEntries s.allowedNos msg.routingInfo.allowedSmsc
    some
      { s with
        preferredNos := preferredNos
        allowedNos := allowedNos
        inHand := s.inHand ++
          [{ msg with routingInfo := mergeSmsc preferredNos allowedNos msg.routingInfo }] }
  else if recheck then
    let q := s.process.queues
    some (s.setQueues { q with outgoingMsg := q.outgoingMsg ++ [msg] })
  else some s

/-- The end of a pass: the lower queue limit is announced. -/
def passDone (s : System) : System :=
  let q := s.process.queues
  let q := if cfg.globalQMin ≠ -1 ∧ (q.outgoingMsg.length : ℤ) < cfg.globalQMin then
      { q with globalQMsg := q.globalQMsg ++ [2] }
    else q
  { s.setQueues q with router := .idle }

/-- `gwlist_extract_first` on `outgoing_msg`. -/
def System.extractOutgoing (s : System) : System :=
  s.setQueues { s.process.queues with outgoingMsg := s.process.queues.outgoingMsg.tail }

/-- **One step of `msg_router`.** -/
def msgRouter (s : System) (recheck : Bool) (now : ℤ) : Option System :=
  match s.router with
  | .idle =>
    if s.process.smppClientStatus = .running then
      if 0 < s.process.queues.outgoingMsg.length then
        some { s with router := .pass s.process.queues.outgoingMsg.length }
      else some s
    else if smscLength s.process.smscList = 0 then
      some { s with router := .drain s.process.queues.outgoingMsg.length }
    else none
  | .pass 0 => some (passDone cfg s)
  | .pass (left + 1) =>
    match s.process.queues.outgoingMsg with
    | [] => some { s with router := .pass left }
    | msg :: _ => routerMsg lib cfg { s.extractOutgoing with router := .pass left } msg recheck now
  | .drain 0 =>
    some { s.setQueues { s.process.queues with outgoingMsg := [] } with router := .ended }
  | .drain (left + 1) =>
    match s.process.queues.outgoingMsg with
    | [] => some { s with router := .drain left }
    | msg :: _ =>
      let s := { s.extractOutgoing with router := .drain left }
      if msg.smInfo.pdu = none then some s
      else giveUp lib s msg (if msg.msgState = .sentNoresp then 0x405 else 0x406)
  | .ended => none

/-! ## Runs of the process

An event names the thread that goes on and what it reads from outside: the time, a PDU, a submit. -/

/-- What happens in the process. -/
inductive SystemEvent
  | io (i : ℕ) (ev : IoEvent)
  | shutdownCb (i : ℕ)
  | smppDestroy (i : ℕ)
  | smsc2RestartSmsc (i : ℕ) (conn : SmscConn)
  | setClientStatus (status : ClientStatus)
  | handleRequest (submit : Submit)
  | rout (k : ℕ) (stack : ℤ)
  | msgRouter (recheck : Bool) (now : ℤ)
  deriving DecidableEq

/-- **One step of the process.**  A submit may carry any id, one that was used before included. -/
def systemStep (s : System) : SystemEvent → Option System
  | .io i ev =>
    match s.process.smscList[i]? with
    | none => none
    | some conn => (ioThread lib cfg (s.process.queues, conn) ev).map fun r =>
        (s.setQueues r.1).setConn i r.2
  | .shutdownCb i =>
    match s.process.smscList[i]? with
    | none => none
    | some conn =>
      if conn.status = .dead then some s
      else some (s.setConn i
        { conn with
          whyKilled := .killedShutdown
          data := { conn.data with quitting := true } })
  | .smppDestroy i =>
    match s.process.smscList[i]? with
    | none => none
    | some conn =>
      if conn.thread.pc = .ended ∧ conn.whyKilled = .killedShutdown then
        let q := s.process.queues
        some ((s.setQueues { q with destroyed := q.destroyed ++ conn.queuedIds }).setConn i
          { conn with
            status := .dead
            data := { conn.data with msgsToSend := [], sentMsgs := ∅ } })
      else none
  | .smsc2RestartSmsc i conn' =>
    match s.process.smscList[i]? with
    | none => none
    | some conn =>
      if conn.status = .dead ∧ conn'.id = conn.id ∧ conn'.data.msgsToSend = [] ∧
          conn'.data.sentMsgs = ∅ ∧ conn'.thread.pc = .top then some (s.setConn i conn')
      else none
  | .setClientStatus status =>
    some { s with process := { s.process with smppClientStatus := status } }
  | .handleRequest submit => handleRequest lib cfg s submit
  | .rout k stack => routInHand lib cfg s k stack
  | .msgRouter recheck now => msgRouter lib cfg s recheck now

end Request

/-! ## What a step can do

Results about runs look at a step through these outcomes, each with the branch of the source it stands for. -/

/-- What `handle_request` leaves. -/
inductive RequestOutcome (lib : Gwlib) (cfg : ClientCfg) (s : System) (submit : Submit) : System → Prop
  /-- The process shuts down: the submit is recorded and destroyed. -/
  | recorded {pdu : SmppPdu} (hstatus : s.process.smppClientStatus ≠ .running)
      (hunpack : submit.pdu.bind lib.smppPduUnpack = some pdu) :
      RequestOutcome lib cfg s submit
        (System.setQueues { s with received := s.received ++ [submit.accountMsgId] }
          { s.process.queues with
            insertMis := s.process.queues.insertMis ++
              [misRecord submit.accountName submit.accountMsgId submit.reqTime none none pdu 0x40B
                submit.ip]
            destroyed := s.process.queues.destroyed ++ [submit.accountMsgId] })
  /-- A message is made of it. -/
  | taken (hstatus : s.process.smppClientStatus = .running) (hcomplete : submit.Complete cfg) :
      RequestOutcome lib cfg s submit
        { s with
          received := s.received ++ [submit.accountMsgId]
          inHand := s.inHand ++
            [{ submitMsg cfg submit with serial := (s.received ++ [submit.accountMsgId]).length }] }
  /-- It is not complete, and destroyed. -/
  | destroyed (hstatus : s.process.smppClientStatus = .running) (hcomplete : ¬ submit.Complete cfg) :
      RequestOutcome lib cfg s submit
        (System.setQueues { s with received := s.received ++ [submit.accountMsgId] }
          { s.process.queues with
            destroyed := s.process.queues.destroyed ++ [submit.accountMsgId] })

/-- The message that the router takes off `outgoing_msg`. -/
def System.nextMsg (s : System) : Option Msg :=
  match s.router with
  | .pass (_ + 1) | .drain (_ + 1) => s.process.queues.outgoingMsg.head?
  | _ => none

/-- The status with which a message of a pass is given up. -/
def passStatus (cfg : ClientCfg) (now : ℤ) (msg : Msg) : Option ℤ :=
  if msg.msgState = .sentNoresp then some 0x405
  else if msg.retries = cfg.maxRetryLimit then some 0x404
  else if cfg.maxMsgDuration ≠ -1 ∧ cfg.maxMsgDuration < now - msg.msgRetryTime then some 0x404
  else none

/-- The status with which the router gives a message up: in the drain every one has one. -/
def System.giveUpStatus (s : System) (cfg : ClientCfg) (now : ℤ) (msg : Msg) : Option ℤ :=
  match s.router with
  | .pass _ => passStatus cfg now msg
  | _ => some (if msg.msgState = .sentNoresp then 0x405 else 0x406)

/-- What a step of the router leaves. -/
inductive RouterOutcome (lib : Gwlib) (cfg : ClientCfg) (s : System) (now : ℤ) : System → Prop
  /-- It takes no message. -/
  | quiet (pc : RouterPc) (globalQMsg : List ℤ) (hnext : s.nextMsg = none) :
      RouterOutcome lib cfg s now
        { s.setQueues { s.process.queues with globalQMsg := globalQMsg } with router := pc }
  /-- It empties the queue at the end. -/
  | emptied (hnext : s.nextMsg = none) :
      RouterOutcome lib cfg s now
        { s.setQueues { s.process.queues with outgoingMsg := [] } with router := .ended }
  /-- The message has no PDU, or there is no connection for it any more: it is left behind. -/
  | lost {msg : Msg} (pc : RouterPc) (hnext : s.nextMsg = some msg)
      (hwhy : msg.smInfo.pdu = none ∨ s.giveUpStatus cfg now msg = none) :
      RouterOutcome lib cfg s now { s.extractOutgoing with router := pc }
  /-- It is given up. -/
  | givenUp {msg : Msg} {pc : RouterPc} {status : ℤ} {s' : System} (hnext : s.nextMsg = some msg)
      (hstatus : s.giveUpStatus cfg now msg = some status)
      (h : giveUp lib { s.extractOutgoing with router := pc } msg status = some s') :
      RouterOutcome lib cfg s now s'
  /-- It is put back. -/
  | putBack {msg : Msg} (pc : RouterPc) (hnext : s.nextMsg = some msg)
      (hstatus : s.giveUpStatus cfg now msg = none) :
      RouterOutcome lib cfg s now
        { s.setQueues { s.process.queues with
            outgoingMsg := s.process.queues.outgoingMsg.tail ++ [msg] } with router := pc }
  /-- Its lists are merged, and it is taken in hand. -/
  | merged {msg : Msg} (left : ℕ) (hnext : s.nextMsg = some msg) (hrouter : s.router = .pass (left + 1))
      (hpdu : msg.smInfo.pdu ≠ none) (hstatus : s.giveUpStatus cfg now msg = none)
      (hlength : 0 < smscLength s.process.smscList) :
      RouterOutcome lib cfg s now
        { s.extractOutgoing with
          router := .pass left
          preferredNos := countEntries s.preferredNos msg.routingInfo.preferredSmsc
          allowedNos := countEntries s.allowedNos msg.routingInfo.allowedSmsc
          inHand := s.inHand ++
            [{ msg with
              routingInfo := mergeSmsc (countEntries s.preferredNos msg.routingInfo.preferredSmsc)
                (countEntries s.allowedNos msg.routingInfo.allowedSmsc) msg.routingInfo }] }

section Cases

variable {lib : Gwlib} {cfg : ClientCfg} {s s' : System} {i : ℕ} {msg : Msg} {now : ℤ}

theorem handleRequest_outcome {submit : Submit} (h : handleRequest lib cfg s submit = some s') :
    RequestOutcome lib cfg s submit s' := by
  unfold handleRequest at h
  dsimp only at h
  split at h
  · rename_i hstatus
    obtain ⟨pdu, hunpack, rfl⟩ := Option.map_eq_some_iff.mp h
    exact .recorded hstatus hunpack
  rename_i hstatus
  split at h
  · rename_i hcomplete
    obtain rfl := Option.some.inj h
    exact .taken (not_not.mp hstatus) hcomplete
  · rename_i hcomplete
    obtain rfl := Option.some.inj h
    exact .destroyed (not_not.mp hstatus) hcomplete

/-- A message in hand is routed only if there is one, and by a call of `smsc2_rout` that returns. -/
theorem routInHand_eq_some {k : ℕ} {stack : ℤ} (h : routInHand lib cfg s k stack = some s') :
    ∃ message r p, s.inHand[k]? = some message ∧
      smsc2Rout lib cfg stack 1 s.process message = some (.ok (r, p)) ∧
      s' = { s with process := p, inHand := s.inHand.eraseIdx k } := by
  rw [routInHand] at h
  split at h
  · exact absurd h (by simp)
  · rename_i message hmessage
    split at h
    · rename_i r p hrout
      exact ⟨message, r, p, hmessage, hrout, (Option.some.inj h).symm⟩
    · exact absurd h (by simp)

theorem passStatus_eq_none : passStatus cfg now msg = none ↔
    msg.msgState ≠ .sentNoresp ∧ msg.retries ≠ cfg.maxRetryLimit ∧
      ¬ (cfg.maxMsgDuration ≠ -1 ∧ cfg.maxMsgDuration < now - msg.msgRetryTime) := by
  unfold passStatus
  split_ifs
  all_goals simp [*]

/-- Only in a pass there are messages that are not given up. -/
theorem System.passStatus_of_giveUpStatus (h : s.giveUpStatus cfg now msg = none) :
    passStatus cfg now msg = none := by
  unfold System.giveUpStatus at h
  split at h
  · exact h
  · exact absurd h (by simp)

/-- The message that is taken is the first one. -/
theorem System.outgoingMsg_of_nextMsg (h : s.nextMsg = some msg) :
    ∃ rest, s.process.queues.outgoingMsg = msg :: rest := by
  unfold System.nextMsg at h
  split at h
  · exact ⟨_, List.eq_cons_of_mem_head? h⟩
  · exact ⟨_, List.eq_cons_of_mem_head? h⟩
  · exact absurd h (by simp)

/-- One message of a pass. -/
theorem routerMsg_outcome {recheck : Bool} {left : ℕ} (hrouter : s.router = .pass (left + 1))
    (hnext : s.nextMsg = some msg)
    (h : routerMsg lib cfg { s.extractOutgoing with router := .pass left } msg recheck now = some s') :
    RouterOutcome lib cfg s now s' := by
  have hstatus : s.giveUpStatus cfg now msg = passStatus cfg now msg := by
    rw [System.giveUpStatus, hrouter]
  unfold routerMsg at h
  split at h
  · rename_i hpdu
    obtain rfl := Option.some.inj h
    exact .lost _ hnext (.inl hpdu)
  rename_i hpdu
  split at h
  · rename_i hstate
    exact .givenUp hnext (by rw [hstatus, passStatus, if_pos hstate]) h
  rename_i hstate
  split at h
  · rename_i hretries
    exact .givenUp hnext (by rw [hstatus, passStatus, if_neg hstate, if_pos hretries]) h
  rename_i hretries
  split at h
  · rename_i hexpired
    exact .givenUp hnext
      (by rw [hstatus, passStatus, if_neg hstate, if_neg hretries, if_pos hexpired]) h
  rename_i hexpired
  have hnone : s.giveUpStatus cfg now msg = none :=
    hstatus.trans (passStatus_eq_none.mpr ⟨hstate, hretries, hexpired⟩)
  split at h
  · rename_i hlength
    obtain rfl := Option.some.inj h
    exact .merged left hnext hrouter hpdu hnone hlength
  split at h
  · obtain rfl := Option.some.inj h
    exact .putBack _ hnext hnone
  · obtain rfl := Option.some.inj h
    exact .lost _ hnext (.inr hnone)

/-- **What a step of the router can do.** -/
theorem msgRouter_outcome {recheck : Bool} (h : msgRouter lib cfg s recheck now = some s') :
    RouterOutcome lib cfg s now s' := by
  have hquiet : ∀ pc, s.nextMsg = none → RouterOutcome lib cfg s now { s with router := pc } :=
    fun pc hnext => .quiet pc s.process.queues.globalQMsg hnext
  rw [msgRouter] at h
  split at h
  · rename_i hrouter
    have hnext : s.nextMsg = none := by rw [System.nextMsg, hrouter]
    split_ifs at h
    · exact Option.some.inj h ▸ hquiet _ hnext
    · exact Option.some.inj h ▸ hquiet s.router hnext
    · exact Option.some.inj h ▸ hquiet _ hnext
  · rename_i hrouter
    have hnext : s.nextMsg = none := by rw [System.nextMsg, hrouter]
    rw [← Option.some.inj h, passDone]
    split
    · exact .quiet .idle _ hnext
    · exact hquiet .idle hnext
  · rename_i left hrouter
    have hhead : s.nextMsg = s.process.queues.outgoingMsg.head? := by rw [System.nextMsg, hrouter]
    split at h
    · rename_i hmsgs
      exact Option.some.inj h ▸ hquiet _ (by rw [hhead, hmsgs, List.head?_nil])
    · rename_i msg rest hmsgs
      exact routerMsg_outcome hrouter (by rw [hhead, hmsgs, List.head?_cons]) h
  · rename_i hrouter
    obtain rfl := Option.some.inj h
    exact .emptied (by rw [System.nextMsg, hrouter])
  · rename_i left hrouter
    have hhead : s.nextMsg = s.process.queues.outgoingMsg.head? := by rw [System.nextMsg, hrouter]
    split at h
    · rename_i hmsgs
      exact Option.some.inj h ▸ hquiet _ (by rw [hhead, hmsgs, List.head?_nil])
    · rename_i msg rest hmsgs
      have hnext : s.nextMsg = some msg := by rw [hhead, hmsgs, List.head?_cons]
      dsimp only at h
      split at h
      · rename_i hpdu
        obtain rfl := Option.some.inj h
        exact .lost _ hnext (.inl hpdu)
      · exact .givenUp hnext (by rw [System.giveUpStatus, hrouter]) h
  · exact absurd h (by simp)

/-- A message that is given up leaves everything but the records and the destroyed ids. -/
theorem giveUp_same {status : ℤ} (h : giveUp lib s msg status = some s') :
    s'.inHand = s.inHand ∧ s'.allowedNos = s.allowedNos ∧
      s'.process.smscList = s.process.smscList ∧
      s'.process.queues.outgoingMsg = s.process.queues.outgoingMsg := by
  obtain ⟨pdu, -, rfl⟩ := Option.map_eq_some_iff.mp h
  exact ⟨rfl, rfl, rfl, rfl⟩

theorem systemStep_io {ev : IoEvent} (h : systemStep lib cfg s (.io i ev) = some s') :
    ∃ conn q conn', s.process.smscList[i]? = some conn ∧
      ioThread lib cfg (s.process.queues, conn) ev = some (q, conn') ∧
      s' = (s.setQueues q).setConn i conn' := by
  rw [systemStep] at h
  split at h
  · exact absurd h (by simp)
  · rename_i conn hconn
    obtain ⟨⟨q, conn'⟩, hio, rfl⟩ := Option.map_eq_some_iff.mp h
    exact ⟨conn, q, conn', hconn, hio, rfl⟩

theorem systemStep_shutdownCb (h : systemStep lib cfg s (.shutdownCb i) = some s') :
    ∃ conn, s.process.smscList[i]? = some conn ∧
      (conn.status = .dead ∧ s' = s ∨
        conn.status ≠ .dead ∧ s' = s.setConn i
          { conn with
            whyKilled := .killedShutdown
            data := { conn.data with quitting := true } }) := by
  rw [systemStep] at h
  split at h
  · exact absurd h (by simp)
  · rename_i conn hconn
    split at h
    · rename_i hdead
      exact ⟨conn, hconn, .inl ⟨hdead, (Option.some.inj h).symm⟩⟩
    · rename_i hdead
      exact ⟨conn, hconn, .inr ⟨hdead, (Option.some.inj h).symm⟩⟩

theorem systemStep_smppDestroy (h : systemStep lib cfg s (.smppDestroy i) = some s') :
    ∃ conn, s.process.smscList[i]? = some conn ∧
      (conn.thread.pc = .ended ∧ conn.whyKilled = .killedShutdown) ∧
      s' = (s.setQueues { s.process.queues with
          destroyed := s.process.queues.destroyed ++ conn.queuedIds }).setConn i
        { conn with
          status := .dead
          data := { conn.data with msgsToSend := [], sentMsgs := ∅ } } := by
  rw [systemStep] at h
  split at h
  · exact absurd h (by simp)
  · rename_i conn hconn
    obtain ⟨hended, h⟩ := Option.ite_none_right_eq_some.mp h
    exact ⟨conn, hconn, hended, (Option.some.inj h).symm⟩

theorem systemStep_smsc2RestartSmsc {conn' : SmscConn}
    (h : systemStep lib cfg s (.smsc2RestartSmsc i conn') = some s') :
    ∃ conn, s.process.smscList[i]? = some conn ∧
      (conn.status = .dead ∧ conn'.id = conn.id ∧ conn'.data.msgsToSend = [] ∧
        conn'.data.sentMsgs = ∅ ∧ conn'.thread.pc = .top) ∧ s' = s.setConn i conn' := by
  rw [systemStep] at h
  split at h
  · exact absurd h (by simp)
  · rename_i conn hconn
    obtain ⟨hnew, h⟩ := Option.ite_none_right_eq_some.mp h
    exact ⟨conn, hconn, hnew, (Option.some.inj h).symm⟩

end Cases

end SmppServer.SmppSmsc
