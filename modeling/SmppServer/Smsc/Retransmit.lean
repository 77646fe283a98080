import SmppServer.Smsc.Census
import SmppServer.Smsc.Receiver
import SmppServer.Smsc.System
import SmppServer.Machinery.Custody

/-!
# Smsc/Retransmit — how often a message is written to an SMSC

The whole process again, now with the receiving threads of the connections that have a receive port,
and with a journal of the traffic: which message was written to which connection under which sequence
number, and which sequence numbers a `submit_sm_resp` carried.  Ids play no part here: two submits
with the same id are two messages.

A message lies *ready* (in hand, or in the queue of a connection), *outgoing* (before the router), or
*sent* (unanswered, under its connection and sequence number).  `trafficStep_shift` says which of the
moves `Handling` a step makes; the two results follow with the invariant rule for custody.

* `answered_between_writes` — a message is not written again unless the sequence number of its last
  transmission was answered.
* `writes_le_maxRetryLimit` — a message is written at most `max_retry_limit` times.
-/

namespace SmppServer.SmppSmsc

open Machinery
open scoped List

/-! ## The process with its traffic -/

/-- A connection, by its position, and a sequence number. -/
abbrev Key := ℕ × ℤ

/-- The process, the receiving threads by the position of their connection, and the journal. -/
structure Traffic where
  system : System
  receivers : List (Option IoThread) := []
  journal : List (Action Key) := []
  deriving DecidableEq

/-- What happens: a step of the process, or of a receiving thread. -/
inductive TrafficEvent
  | system (e : SystemEvent)
  | receive (i : ℕ) (ev : IoEvent)
  deriving DecidableEq

/-- The time an event reads. -/
def TrafficEvent.now? : TrafficEvent → Option ℤ
  | .system (.io _ ev) | .receive _ ev => ev.now?
  | .system (.msgRouter _ now) => some now
  | _ => none

section Steps

variable (lib : Gwlib) (cfg : ClientCfg)

/-- The answer an event brings to connection `i`. -/
def answeredBy (i : ℕ) (ev : IoEvent) : List (Action Key) :=
  match ev.pdu? with
  | some (.submitSmResp key _ _) => [.answered (i, key)]
  | _ => []

/-- The message that connection `i` writes in a round of `send_messages`. -/
def writtenBy (i : ℕ) (conn : SmscConn) (written : Bool) : List (Action Key) :=
  if conn.CanSend then
    match conn.data.msgsToSend with
    | [] => []
    | msg :: _ =>
      if Transmitted lib cfg written conn.extractFirst msg then
        (transmission lib cfg conn.extractFirst msg).toList.map fun pdu =>
          .written msg.serial (i, pdu.submitSm.sequenceNumber)
      else []
  else []

/-- What a step of the thread of connection `i` adds to the journal. -/
def ioJournal (i : ℕ) (conn : SmscConn) : IoEvent → List (Action Key)
  | .send written _ => writtenBy lib cfg i conn written
  | ev => answeredBy i ev

/-- A step of the receiving thread `rx` of connection `i`. -/
def rxStep (t : Traffic) (i : ℕ) (conn : SmscConn) (rx : IoThread) (ev : IoEvent) : Option Traffic :=
  (rxThread lib cfg (t.system.process.queues, conn.withThread rx) ev).map fun r =>
    { system := (t.system.setQueues r.1).setConn i (r.2.withThread conn.thread)
      receivers := t.receivers.set i (some r.2.thread)
      journal := t.journal ++ answeredBy i ev }

/-- **One step of the process with its traffic.**  A connection that is restarted has the receiving
thread it had, at its start. -/
def trafficStep (t : Traffic) : TrafficEvent → Option Traffic
  | .system (.io i ev) =>
    match t.system.process.smscList[i]? with
    | none => none
    | some conn => (systemStep lib cfg t.system (.io i ev)).map fun s =>
        { t with system := s, journal := t.journal ++ ioJournal lib cfg i conn ev }
  | .system (.smsc2RestartSmsc i conn) =>
    (systemStep lib cfg t.system (.smsc2RestartSmsc i conn)).map fun s =>
      { t with system := s, receivers := t.receivers.modify i (·.map fun _ => {}) }
  | .system e => (systemStep lib cfg t.system e).map fun s => { t with system := s }
  | .receive i ev =>
    match t.system.process.smscList[i]?, t.receivers[i]? with
    | some conn, some (some rx) => rxStep lib cfg t i conn rx ev
    | _, _ => none

end Steps

/-! ## Where the messages lie

The copies of a message are counted over the whole process, whatever thread holds them: the state of a message
is the place it lies in and what the journal says of it. -/

/-- Where a message lies. -/
inductive Place
  | ready
  | outgoing
  | sent (key : Key)
  deriving DecidableEq, Repr

/-- The messages of connection `i`. -/
def SmscConn.copies (conn : SmscConn) (i : ℕ) : List (Place × Msg) :=
  conn.data.msgsToSend.map (Place.ready, ·) ++
    conn.data.sentMsgs.entries.map fun e => (Place.sent (i, e.1), e.2.msg)

/-- The messages before the router. -/
def Queues.copies (q : Queues) : List (Place × Msg) := q.outgoingMsg.map (Place.outgoing, ·)

/-- The messages of the process. -/
def System.copies (s : System) : List (Place × Msg) :=
  s.inHand.map (Place.ready, ·) ++ s.process.queues.copies ++
    s.process.smscList.zipIdx.flatMap fun c => c.1.copies c.2

/-- The messages, the traffic, and the number of submits. -/
def Traffic.custody (t : Traffic) : Custody Place Msg Key :=
  ⟨t.system.copies, t.journal, t.system.received.length⟩

/-- **The moves of a message.**  The router takes a message only behind its checks; a message is
written out of a queue, and what is given back unanswered keeps its state. -/
inductive Handling (cfg : ClientCfg) : Place × Msg → Place × Msg → List (Action Key) → Prop
  | route {m m' : Msg} (hretries : m'.retries = m.retries) : Handling cfg (.ready, m) (.ready, m') []
  | handBack {m m' : Msg} (hretries : m'.retries = m.retries) :
      Handling cfg (.ready, m) (.outgoing, m') []
  | take {m m' : Msg} (hstate : m.msgState ≠ .sentNoresp) (hlimit : m.retries ≠ cfg.maxRetryLimit)
      (hretries : m'.retries = m.retries) : Handling cfg (.outgoing, m) (.ready, m') []
  | transmit {m m' : Msg} {key : Key} (hstate : m'.msgState = .sentNoresp)
      (hretries : m'.retries = m.retries + 1) :
      Handling cfg (.ready, m) (.sent key, m') [.written m.serial key]
  | expire {m m' : Msg} {key : Key} (hstate : m'.msgState = m.msgState)
      (hretries : m'.retries = m.retries) : Handling cfg (.sent key, m) (.outgoing, m') []
  | answer {m m' : Msg} {key : Key} (hretries : m'.retries = m.retries) :
      Handling cfg (.sent key, m) (.outgoing, m') [.answered key]

/-- A message as `handle_request` makes it. -/
def Entered (p : Place × Msg) : Prop := p.1 = .ready ∧ p.2.retries = 0

/-- **A move with what the message carries**: that stays as it is unless the message is transmitted,
over an SMSC that has an alternative character set or not.  The source it was submitted with never
changes. -/
inductive Passage (lib : Gwlib) (cfg : ClientCfg) (alt : Bool) :
    Place × Msg → Place × Msg → List (Action Key) → Prop
  | carry {p p' : Place × Msg} {as : List (Action Key)} (hmove : Handling cfg p p' as)
      (hplace : ∀ key, p'.1 ≠ .sent key) (hinfo : p'.2.smInfo = p.2.smInfo)
      (hsource : p'.2.routingInfo.sourceAddr = p.2.routingInfo.sourceAddr)
      (hstate : p'.2.msgState = .sentNoresp → p.2.msgState = .sentNoresp) :
      Passage lib cfg alt p p' as
  | transmit {m m' : Msg} {key : Key} (hmove : Handling cfg (.ready, m) (.sent key, m')
        [.written m.serial key])
      (hstate : m'.msgState = .sentNoresp)
      (hpdu : cfg.dndcheckFlag = false → Recoded lib alt m.smInfo.pdu m'.smInfo.pdu)
      (hattempt : ∃ conn pdu, attempt lib cfg conn m = some (m', pdu)) :
      Passage lib cfg alt (.ready, m) (.sent key, m') [.written m.serial key]

/-- A message as `handle_request` makes it of the submit it got. -/
def Arrives (cfg : ClientCfg) (e : TrafficEvent) (p : Place × Msg) : Prop :=
  Entered p ∧ ∃ submit, e = .system (.handleRequest submit) ∧
    p.2.smInfo = (submitMsg cfg submit).smInfo ∧ p.2.msgState = .notRouted ∧
      p.2.routingInfo.sourceAddr = submit.sourceAddr

theorem Passage.handling {lib : Gwlib} {cfg : ClientCfg} {alt : Bool} {p p' : Place × Msg}
    {as : List (Action Key)} (h : Passage lib cfg alt p p' as) : Handling cfg p p' as := by
  cases h with
  | carry hmove _ _ _ _ => exact hmove
  | transmit hmove _ _ _ => exact hmove

section Moves

variable {lib : Gwlib} {cfg : ClientCfg} {alt : Bool} {e : TrafficEvent} {ev : IoEvent}
  {q q' : Queues} {c c' : SmscConn} {msg : Msg} {i n : ℕ} {key : ℤ} {smppMsg : SmppMsg}
  {journal : List (Action Key)}

/-- What a step does to the messages. -/
abbrev Shifts (cfg : ClientCfg) : Custody Place Msg Key → Custody Place Msg Key → Prop :=
  Shift Msg.serial Entered (Handling cfg)

/-- What a step does to the messages and to what they carry. -/
abbrev Passes (lib : Gwlib) (cfg : ClientCfg) (alt : Bool) (e : TrafficEvent) :
    Custody Place Msg Key → Custody Place Msg Key → Prop :=
  Shift Msg.serial (Arrives cfg e) (Passage lib cfg alt)

theorem answeredBy_eq (i : ℕ) (ev : IoEvent) :
    ∃ keys : List Key, answeredBy i ev = keys.map .answered := by
  unfold answeredBy
  split
  · rename_i key _ _ _
    exact ⟨[(i, key)], rfl⟩
  · exact ⟨[], rfl⟩

@[simp] theorem copies_produceOutgoingMsg (cfg : ClientCfg) (q : Queues) (msg : Msg) :
    (produceOutgoingMsg cfg q msg).copies = q.copies ++ [(.outgoing, msg)] := by
  simp [Queues.copies]

/-! ## The threads of a connection

A thread takes a message out of one list and puts it in another, so the copies of its connection are permuted,
and at most one of them goes before the router. -/

theorem copies_congr (hmsgs : c'.data.msgsToSend = c.data.msgsToSend)
    (hsent : c'.data.sentMsgs = c.data.sentMsgs) : c'.copies i = c.copies i := by
  rw [SmscConn.copies, SmscConn.copies, hmsgs, hsent]

theorem copies_of_pop (hmsgs : c.data.msgsToSend = msg :: c'.data.msgsToSend)
    (hsent : c'.data.sentMsgs = c.data.sentMsgs) : c.copies i = (.ready, msg) :: c'.copies i := by
  rw [SmscConn.copies, SmscConn.copies, hmsgs, hsent, List.map_cons, List.cons_append]

theorem copies_perm_of_erase (hmsgs : c'.data.msgsToSend = c.data.msgsToSend)
    (hkey : c.data.sentMsgs.lookup key = some smppMsg)
    (hsent : c'.data.sentMsgs = c.data.sentMsgs.erase key) :
    c.copies i ~ (.sent (i, key), smppMsg.msg) :: c'.copies i := by
  rw [SmscConn.copies, SmscConn.copies, hmsgs, hsent]
  have hperm := (entries_perm_of_lookup hkey).map fun e => (Place.sent (i, e.1), e.2.msg)
  exact (hperm.append_left _).trans List.perm_middle

theorem copies_subperm_of_insert (hmsgs : c.data.msgsToSend = msg :: c'.data.msgsToSend)
    (hsent : c'.data.sentMsgs = c.data.sentMsgs.insert key smppMsg) :
    ∃ rest, c.copies i = (.ready, msg) :: rest ∧
      c'.copies i <+~ (.sent (i, key), smppMsg.msg) :: rest := by
  refine ⟨c'.data.msgsToSend.map (Place.ready, ·) ++
    c.data.sentMsgs.entries.map fun e => (Place.sent (i, e.1), e.2.msg), ?_, ?_⟩
  · rw [SmscConn.copies, hmsgs, List.map_cons, List.cons_append]
  · obtain ⟨l, hperm, hsub⟩ := entries_insert_subperm c.data.sentMsgs key smppMsg
    have hmap := (hperm.map fun e => (Place.sent (i, e.1), e.2.msg)).symm.subperm.trans
      (hsub.map fun e => (Place.sent (i, e.1), e.2.msg)).subperm
    rw [SmscConn.copies, hsent]
    exact ((List.Subperm.refl _).append hmap).trans List.perm_middle.subperm

/-- A message taken out of the queue of a connection goes before the router. -/
theorem perm_cons_concat {α : Type*} (a : α) (l₁ l₂ : List α) : l₁ ++ (l₂ ++ [a]) ~ a :: (l₁ ++ l₂) := by
  rw [← List.append_assoc]
  exact List.perm_append_singleton a (l₁ ++ l₂)

/-- **A step of a thread that is no round of `send_messages`.** -/
theorem Moves.passes (h : Moves lib cfg ev q c q' c') (hev : ∀ written now, ev ≠ .send written now)
    (i n : ℕ) (journal : List (Action Key)) :
    Passes lib cfg alt e ⟨c.copies i ++ q.copies, journal, n⟩
      ⟨c'.copies i ++ q'.copies, journal ++ answeredBy i ev, n⟩ := by
  obtain ⟨keys, hkeys⟩ := answeredBy_eq i ev
  -- a step that only loses messages
  have hlose : ∀ {copies copies' : List (Place × Msg)}, copies' <+~ copies →
      Passes lib cfg alt e ⟨copies, journal, n⟩ ⟨copies', journal ++ answeredBy i ev, n⟩ := fun hsub =>
    .shrink hsub (by rw [hkeys]) le_rfl
  cases h with
  | keep hmsgs hsent =>
    rw [copies_congr hmsgs hsent]
    exact hlose (List.Subperm.refl _)
  | drop heq _ _ _ _ => exact absurd heq (hev _ _)
  | transmit heq _ _ _ _ _ _ => exact absurd heq (hev _ _)
  | flushDrop _ hmsgs hsent _ =>
    rw [copies_of_pop hmsgs hsent]
    exact hlose (List.sublist_cons_self _ _).subperm
  | flushQueued hmsgs hsent hback =>
    obtain ⟨now, -, rfl⟩ := hback
    rw [copies_of_pop hmsgs hsent, copies_produceOutgoingMsg]
    exact .move (.refl _) (perm_cons_concat _ _ _).subperm
      (.carry (.handBack rfl) (fun _ => nofun) rfl rfl id) rfl
      (fun _ _ hmem => absurd hmem List.not_mem_nil) (by rw [hkeys, List.append_nil]) rfl
  | giveBack hmsgs hkey hsent hback =>
    obtain ⟨now, -, rfl⟩ := hback
    rw [copies_produceOutgoingMsg]
    exact .move ((copies_perm_of_erase hmsgs hkey hsent).append_right _)
      (perm_cons_concat _ _ _).subperm (.carry (.expire rfl rfl) (fun _ => nofun) rfl rfl id) rfl
      (fun _ _ hmem => absurd hmem List.not_mem_nil) (by rw [hkeys, List.append_nil]) rfl
  | nack _ _ hmsgs hkey hsent =>
    have hperm := copies_perm_of_erase (i := i) hmsgs hkey hsent
    exact hlose (((List.sublist_cons_self _ _).subperm.trans hperm.symm.subperm).append
      (List.Subperm.refl _))
  | answer _ _ hmsgs hkey hsent _ hq =>
    have hperm := copies_perm_of_erase (i := i) hmsgs hkey hsent
    rw [hq]
    exact hlose (((List.sublist_cons_self _ _).subperm.trans hperm.symm.subperm).append
      (List.Subperm.refl _))
  | @answerRetry _ key _ _ _ _ _ hpdu _ hmsgs hkey hsent _ hback =>
    obtain ⟨now, -, rfl⟩ := hback
    rw [copies_produceOutgoingMsg]
    have hanswer : answeredBy i ev = [.answered (i, key)] := by rw [answeredBy, hpdu]
    exact .moveOnly ((copies_perm_of_erase hmsgs hkey hsent).append_right _)
      (perm_cons_concat _ _ _).subperm (.carry (.answer rfl) (fun _ => nofun) rfl rfl nofun) rfl
      (fun _ _ hmem => absurd hmem (by simp)) (by rw [hanswer]) rfl

/-- **A round of `send_messages`.** -/
theorem ioSend_passes {back : Pc} {written : Bool} {now : ℤ}
    (h : ioSend lib cfg back written now q c = some (q', c')) (i n : ℕ)
    (journal : List (Action Key)) :
    Passes lib cfg c.data.altCharset.isSome e ⟨c.copies i ++ q.copies, journal, n⟩
      ⟨c'.copies i ++ q'.copies, journal ++ writtenBy lib cfg i c written, n⟩ := by
  obtain ⟨rfl, ⟨hroom, hmsgs, hsent⟩ | ⟨msg, hroom, hmsgs, hcases⟩⟩ := ioSend_cases h
  · have hnone : writtenBy lib cfg i c written = [] := by
      unfold writtenBy
      split
      · rename_i hcan
        rw [hroom.resolve_left (not_not.mpr hcan)]
      · rfl
    rw [hnone, copies_congr hmsgs hsent]
    exact .lose (List.Subperm.refl _) (List.append_nil _) le_rfl
  · obtain ⟨hsent, hnot⟩ | ⟨pdu, smppMsg, hwritten, hattempt, hsent⟩ := hcases
    · have hnone : writtenBy lib cfg i c written = [] := by
        rw [writtenBy, if_pos hroom, hmsgs]
        exact if_neg hnot
      rw [hnone, copies_of_pop hmsgs hsent]
      exact .lose (List.sublist_cons_self _ _).subperm (List.append_nil _) le_rfl
    · obtain ⟨hpdu, packed, htry, hrecoded⟩ := transmission_of_attempt hattempt
      have hone : writtenBy lib cfg i c written =
          [.written msg.serial (i, pdu.submitSm.sequenceNumber)] := by
        rw [writtenBy, if_pos hroom, hmsgs]
        simp only [if_pos hwritten, hpdu, Option.toList_some, List.map_cons, List.map_nil]
      obtain ⟨rest, hfrom, hto⟩ := copies_subperm_of_insert (i := i) hmsgs hsent
      have hserial : smppMsg.msg.serial = msg.serial := by rw [htry]; rfl
      rw [hone, hfrom]
      have hstate : smppMsg.msg.msgState = .sentNoresp := by rw [htry]; rfl
      have hinfo : smppMsg.msg.smInfo.pdu = packed := by rw [htry]; rfl
      refine .moveOnly (.refl _) (hto.append (List.Subperm.refl _))
        (.transmit (.transmit hstate (by rw [htry]; rfl)) hstate (fun hdnd => hinfo ▸ hrecoded hdnd)
          ⟨_, pdu, hattempt⟩) hserial ?_ rfl rfl
      intro number key hmem
      exact (Action.written.inj (List.mem_singleton.mp hmem)).1

end Moves

/-! ## The process

What one connection does to its messages and the queues, it does to the process: all other connections are
framed. -/

/-- A step of the process that journals nothing. -/
abbrev System.Quiet (lib : Gwlib) (cfg : ClientCfg) (alt : Bool) (e : TrafficEvent)
    (journal : List (Action Key)) (s s' : System) : Prop :=
  Passes lib cfg alt e ⟨s.copies, journal, s.received.length⟩
    ⟨s'.copies, journal, s'.received.length⟩

section Process

variable {lib : Gwlib} {cfg : ClientCfg} {alt : Bool} {e : TrafficEvent} {s s' : System} {i : ℕ}
  {conn conn' : SmscConn} {msg : Msg} {journal : List (Action Key)}

/-- The messages of one connection and those before the router, apart from all others. -/
theorem System.copies_split (hconn : s.process.smscList[i]? = some conn) (q' : Queues)
    (conn' : SmscConn) :
    ∃ others, s.copies ~ conn.copies i ++ s.process.queues.copies ++ others ∧
      ((s.setQueues q').setConn i conn').copies ~ conn'.copies i ++ q'.copies ++ others := by
  obtain ⟨rest, hall, hset⟩ := flatMap_zipIdx_set_split (f := fun c => c.1.copies c.2) hconn conn'
  refine ⟨s.inHand.map (Place.ready, ·) ++ rest, ?_, ?_⟩
  · refine List.perm_iff_count.mpr fun x => ?_
    simp only [System.copies, List.count_append, hall.count_eq]
    omega
  · refine List.perm_iff_count.mpr fun x => ?_
    simp only [System.copies, System.setConn, System.setQueues, List.count_append, hset.count_eq]
    omega

/-- What a step of one connection does to its messages and the queues, it does to the process. -/
theorem System.passes_setConn (hconn : s.process.smscList[i]? = some conn) {q' : Queues}
    {journal' : List (Action Key)}
    (h : Passes lib cfg alt e ⟨conn.copies i ++ s.process.queues.copies, journal, s.received.length⟩
      ⟨conn'.copies i ++ q'.copies, journal', s.received.length⟩) :
    Passes lib cfg alt e ⟨s.copies, journal, s.received.length⟩
      ⟨((s.setQueues q').setConn i conn').copies, journal', s.received.length⟩ := by
  obtain ⟨others, hcopies, hcopies'⟩ := System.copies_split hconn q' conn'
  exact h.of_part hcopies hcopies'

/-- A step that leaves the messages where they are, or loses some. -/
theorem System.passes_of_subperm (h : s'.copies <+~ s.copies)
    (hreceived : s.received.length ≤ s'.received.length) :
    System.Quiet lib cfg alt e journal s s' :=
  .lose h rfl hreceived

/-- A step of the transmitting thread. -/
theorem System.passes_io {ev : IoEvent} {q' : Queues}
    (hconn : s.process.smscList[i]? = some conn)
    (h : ioThread lib cfg (s.process.queues, conn) ev = some (q', conn')) :
    Passes lib cfg conn.data.altCharset.isSome e ⟨s.copies, journal, s.received.length⟩
      ⟨((s.setQueues q').setConn i conn').copies, journal ++ ioJournal lib cfg i conn ev,
        s.received.length⟩ := by
  refine System.passes_setConn hconn ?_
  by_cases hev : ∃ written now, ev = .send written now
  · obtain ⟨written, now, rfl⟩ := hev
    obtain ⟨back, hsend⟩ := ioThread_send h
    exact ioSend_passes hsend i _ journal
  · have hnot : ∀ written now, ev ≠ .send written now := fun written now heq => hev ⟨written, now, heq⟩
    have hjournal : ioJournal lib cfg i conn ev = answeredBy i ev := by
      cases ev with
      | send written now => exact absurd rfl (hnot written now)
      | _ => rfl
    rw [hjournal]
    exact (ioThread_moves h).passes hnot i _ journal

/-- A message in hand, apart from all others. -/
theorem perm_cons_eraseIdx {α : Type*} {l : List α} {k : ℕ} {a : α} (h : l[k]? = some a) :
    l ~ a :: l.eraseIdx k := by
  obtain ⟨hk, rfl⟩ := List.getElem?_eq_some_iff.mp h
  exact (List.getElem_cons_eraseIdx_perm hk).symm

/-- A connection that got a message holds it in its queue. -/
theorem copies_sendMsgCb (conn : SmscConn) (msg : Msg) (i : ℕ) :
    (sendMsgCb conn msg).copies i ~ (.ready, msg) :: conn.copies i := by
  simp only [SmscConn.copies, sendMsgCb, msgDuplicate_eq, List.map_append, List.map_cons, List.map_nil,
    List.append_assoc, List.singleton_append]
  exact List.perm_middle

/-- `smsc2_rout` with a message in hand. -/
theorem System.passes_rout {k : ℕ} {stack : ℤ} (h : routInHand lib cfg s k stack = some s') :
    System.Quiet lib cfg alt e journal s s' := by
  obtain ⟨message, r, p, hmsg, hrout, rfl⟩ := routInHand_eq_some h
  -- the message that is routed, and everything else
  have hfrom : s.copies ~ (.ready, message) :: System.copies { s with inHand := s.inHand.eraseIdx k } := by
    have hperm := (perm_cons_eraseIdx hmsg).map (Place.ready, ·)
    simp only [System.copies, List.append_assoc]
    exact hperm.append_right _
  cases smsc2Rout_outcome hrout with
  | lost | destroyed _ _ =>
    exact System.passes_of_subperm ((List.sublist_cons_self _ _).subperm.trans hfrom.symm.subperm)
      le_rfl
  | queued =>
    refine .moveOnly hfrom ?_ (.carry (.handBack rfl) (by simp) rfl rfl id) rfl
      (fun _ _ hmem => absurd hmem List.not_mem_nil) (List.append_nil _).symm rfl
    refine (List.perm_iff_count.mpr fun x => ?_).subperm
    simp only [System.copies, copies_produceOutgoingMsg, List.count_append, List.count_cons,
      List.count_nil]
    omega
  | @handedOver i conn hconn =>
    have hroute : Passage lib cfg alt (.ready, message)
        (.ready, { message with msgState := .notSent }) [] :=
      .carry (.route rfl) (by simp) rfl rfl (by simp)
    refine .moveOnly hfrom ?_ hroute rfl (fun _ _ hmem => absurd hmem List.not_mem_nil)
      (List.append_nil _).symm rfl
    obtain ⟨rest, hall, hset⟩ := flatMap_zipIdx_set_split (f := fun c => c.1.copies c.2) hconn
      (sendMsgCb conn { message with msgState := .notSent })
    have hsent := (copies_sendMsgCb conn { message with msgState := .notSent } i).append_right rest
    refine (List.perm_iff_count.mpr fun x => ?_).subperm
    simp only [System.copies, List.count_append, (hset.trans hsent).count_eq, hall.count_eq,
      List.count_cons]
    omega

/-- One more message in hand. -/
theorem System.copies_concat_inHand (hhand : s'.inHand = s.inHand ++ [msg])
    (hprocess : s'.process = s.process) : s'.copies ~ (.ready, msg) :: s.copies := by
  rw [System.copies, System.copies, hhand, hprocess, List.map_append, List.map_cons, List.map_nil]
  simp only [List.append_assoc, List.singleton_append]
  exact List.perm_middle

/-- `handle_request`: the message enters under the next number. -/
theorem System.passes_handleRequest {submit : Submit} (h : handleRequest lib cfg s submit = some s') :
    System.Quiet lib cfg alt (.system (.handleRequest submit)) journal s s' := by
  have hone : s.received.length ≤ (s.received ++ [submit.accountMsgId]).length := by simp
  cases handleRequest_outcome h with
  | recorded | destroyed => exact System.passes_of_subperm (List.Subperm.refl _) hone
  | taken =>
    have hreceived : (s.received ++ [submit.accountMsgId]).length = s.received.length + 1 :=
      List.length_append
    exact .enter (List.Perm.subperm (System.copies_concat_inHand rfl rfl))
      ⟨⟨rfl, rfl⟩, submit, rfl, rfl, rfl, rfl⟩ hreceived rfl hreceived

/-! ## The router -/

/-- The first message before the router, apart from all others. -/
theorem System.copies_extractOutgoing (pc : RouterPc) (hnext : s.nextMsg = some msg) :
    s.copies ~ (.outgoing, msg) :: System.copies { s.extractOutgoing with router := pc } := by
  obtain ⟨rest, hmsgs⟩ := System.outgoingMsg_of_nextMsg hnext
  simp only [System.copies, System.extractOutgoing, System.setQueues, Queues.copies, hmsgs,
    List.map_cons, List.tail_cons, List.append_assoc, List.cons_append]
  exact List.perm_middle

/-- Giving up a message touches no other. -/
theorem giveUp_copies {status : ℤ} (h : giveUp lib s msg status = some s') :
    s'.copies = s.copies ∧ s'.received = s.received := by
  obtain ⟨pdu, -, rfl⟩ := Option.map_eq_some_iff.mp h
  exact ⟨rfl, rfl⟩

/-- **A step of the router.** -/
theorem System.passes_msgRouter {recheck : Bool} {now : ℤ}
    (h : msgRouter lib cfg s recheck now = some s') :
    System.Quiet lib cfg alt e journal s s' := by
  cases msgRouter_outcome h with
  | quiet => exact System.passes_of_subperm (List.Subperm.refl _) le_rfl
  | emptied =>
    refine System.passes_of_subperm ?_ le_rfl
    simp only [System.copies, System.setQueues, Queues.copies, List.map_nil, List.append_nil]
    exact ((List.sublist_append_left _ _).append_right _).subperm
  | lost pc hnext =>
    have hfrom := System.copies_extractOutgoing pc hnext
    exact System.passes_of_subperm
      ((List.sublist_cons_self _ _).subperm.trans hfrom.symm.subperm) le_rfl
  | @givenUp msg pc status s' hnext hstatus hgiveUp =>
    have hfrom := System.copies_extractOutgoing pc hnext
    obtain ⟨hcopies, hreceived⟩ := giveUp_copies hgiveUp
    rw [System.Quiet, hcopies, hreceived]
    exact .lose ((List.sublist_cons_self _ _).subperm.trans hfrom.symm.subperm) rfl le_rfl
  | @putBack msg pc hnext hstatus =>
    have hfrom := System.copies_extractOutgoing pc hnext
    refine System.passes_of_subperm (.trans (List.Perm.subperm ?_) hfrom.symm.subperm) le_rfl
    refine List.perm_iff_count.mpr fun x => ?_
    simp only [System.copies, System.extractOutgoing, System.setQueues, Queues.copies, List.map_append,
      List.map_cons, List.map_nil, List.count_append, List.count_cons, List.count_nil]
    omega
  | @merged msg left hnext hrouter hpdu hstatus =>
    -- routed behind the two checks
    have hfrom := System.copies_extractOutgoing (.pass left) hnext
    obtain ⟨hstate, hlimit, -⟩ := passStatus_eq_none.mp (System.passStatus_of_giveUpStatus hstatus)
    have htake : Passage lib cfg alt (.outgoing, msg)
        (.ready, { msg with
          routingInfo := mergeSmsc (countEntries s.preferredNos msg.routingInfo.preferredSmsc)
            (countEntries s.allowedNos msg.routingInfo.allowedSmsc) msg.routingInfo }) [] :=
      .carry (.take hstate hlimit rfl) (by simp) rfl rfl id
    exact .moveOnly hfrom (List.Perm.subperm (System.copies_concat_inHand rfl rfl)) htake rfl
      (fun _ _ hmem => absurd hmem List.not_mem_nil) (List.append_nil _).symm rfl

/-! ## Steps with traffic -/

/-- A connection is replaced by one that holds less. -/
theorem System.passes_setConn_of_subperm {conn' : SmscConn} {q : Queues}
    (hconn : s.process.smscList[i]? = some conn) (hsub : conn'.copies i <+~ conn.copies i)
    (hq : q.copies = s.process.queues.copies) :
    Passes lib cfg alt e ⟨s.copies, journal, s.received.length⟩
      ⟨((s.setQueues q).setConn i conn').copies, journal, s.received.length⟩ := by
  obtain ⟨others, hcopies, hcopies'⟩ := System.copies_split hconn q conn'
  rw [hq] at hcopies'
  refine System.passes_of_subperm ?_ le_rfl
  exact hcopies'.subperm.trans (((hsub.append (List.Subperm.refl _)).append
    (List.Subperm.refl _)).trans hcopies.symm.subperm)

/-- `shutdown_cb` leaves the messages alone. -/
theorem System.passes_shutdownCb (h : systemStep lib cfg s (.shutdownCb i) = some s') :
    System.Quiet lib cfg alt e journal s s' := by
  obtain ⟨conn, hconn, ⟨-, rfl⟩ | ⟨-, rfl⟩⟩ := systemStep_shutdownCb h
  · exact System.passes_of_subperm (List.Subperm.refl _) le_rfl
  · exact System.passes_setConn_of_subperm hconn (List.Subperm.refl _) rfl

/-- `smpp_destroy` loses them. -/
theorem System.passes_smppDestroy (h : systemStep lib cfg s (.smppDestroy i) = some s') :
    System.Quiet lib cfg alt e journal s s' := by
  obtain ⟨conn, hconn, -, rfl⟩ := systemStep_smppDestroy h
  exact System.passes_setConn_of_subperm hconn List.nil_subperm rfl

/-- A connection starts anew without messages. -/
theorem System.passes_smsc2RestartSmsc
    (h : systemStep lib cfg s (.smsc2RestartSmsc i conn) = some s') :
    System.Quiet lib cfg alt e journal s s' := by
  obtain ⟨old, hold, ⟨-, -, hmsgs, hsent, -⟩, rfl⟩ := systemStep_smsc2RestartSmsc h
  have hempty : conn.copies i = [] := by
    rw [SmscConn.copies, hmsgs, hsent]
    rfl
  refine System.passes_setConn_of_subperm hold ?_ rfl
  rw [hempty]
  exact List.nil_subperm

/-- The SMSC at which the event happens has an alternative character set. -/
def Traffic.hasAlt (t : Traffic) : TrafficEvent → Bool
  | .system (.io i _) =>
    t.system.process.smscList[i]?.any fun conn => conn.data.altCharset.isSome
  | _ => false

/-- A step of the thread of a connection. -/
theorem trafficStep_io {t t' : Traffic} (h : trafficStep lib cfg t (.system (.io i ev)) = some t') :
    ∃ conn q conn', t.system.process.smscList[i]? = some conn ∧
      ioThread lib cfg (t.system.process.queues, conn) ev = some (q, conn') ∧
      t' = { t with
        system := (t.system.setQueues q).setConn i conn'
        journal := t.journal ++ ioJournal lib cfg i conn ev } := by
  rw [trafficStep] at h
  split at h
  · exact absurd h (by simp)
  · rename_i conn hconn
    obtain ⟨s', hs, rfl⟩ := Option.map_eq_some_iff.mp h
    obtain ⟨conn₁, q, conn', hconn₁, hio, rfl⟩ := systemStep_io hs
    obtain rfl := Option.some.inj (hconn.symm.trans hconn₁)
    exact ⟨conn, q, conn', hconn, hio, rfl⟩

/-- A step of the receiving thread of a connection. -/
theorem trafficStep_receive {t t' : Traffic} (h : trafficStep lib cfg t (.receive i ev) = some t') :
    ∃ conn rx q conn', t.system.process.smscList[i]? = some conn ∧
      rxThread lib cfg (t.system.process.queues, conn.withThread rx) ev = some (q, conn') ∧
      t' = { system := (t.system.setQueues q).setConn i (conn'.withThread conn.thread)
             receivers := t.receivers.set i (some conn'.thread)
             journal := t.journal ++ answeredBy i ev } := by
  rw [trafficStep] at h
  split at h
  · rename_i conn rx hconn _
    obtain ⟨⟨q, conn'⟩, hrx, rfl⟩ := Option.map_eq_some_iff.mp h
    exact ⟨conn, rx, q, conn', hconn, hrx, rfl⟩
  · exact absurd h (by simp)

/-- The status of the database process is no concern of the messages. -/
theorem trafficStep_setClientStatus {t t' : Traffic} {status : ClientStatus}
    (h : trafficStep lib cfg t (.system (.setClientStatus status)) = some t') :
    t' = { t with system := { t.system with
      process := { t.system.process with smppClientStatus := status } } } :=
  (Option.some.inj h).symm

/-- **Every step makes one of the moves.** -/
theorem trafficStep_passes {t t' : Traffic} {e : TrafficEvent}
    (h : trafficStep lib cfg t e = some t') : Passes lib cfg (t.hasAlt e) e t.custody t'.custody := by
  cases e with
  | receive i ev =>
    obtain ⟨conn, rx, q, conn', hconn, hrx, rfl⟩ := trafficStep_receive h
    have hev : ∀ written now, ev ≠ .send written now := by
      rintro written now rfl
      simp [rxThread] at hrx
    exact System.passes_setConn hconn ((rxThread_moves hrx).passes hev i _ t.journal)
  | system e =>
    cases e with
    | io i ev =>
      obtain ⟨conn, q, conn', hconn, hio, rfl⟩ := trafficStep_io h
      rw [Traffic.hasAlt, hconn]
      exact System.passes_io hconn hio
    | handleRequest submit =>
      obtain ⟨s', hs, rfl⟩ := Option.map_eq_some_iff.mp h
      exact System.passes_handleRequest hs
    | rout k stack =>
      obtain ⟨s', hs, rfl⟩ := Option.map_eq_some_iff.mp h
      exact System.passes_rout hs
    | msgRouter recheck now =>
      obtain ⟨s', hs, rfl⟩ := Option.map_eq_some_iff.mp h
      exact System.passes_msgRouter hs
    | shutdownCb i =>
      obtain ⟨s', hs, rfl⟩ := Option.map_eq_some_iff.mp h
      exact System.passes_shutdownCb hs
    | smppDestroy i =>
      obtain ⟨s', hs, rfl⟩ := Option.map_eq_some_iff.mp h
      exact System.passes_smppDestroy hs
    | smsc2RestartSmsc i conn =>
      obtain ⟨s', hs, rfl⟩ := Option.map_eq_some_iff.mp h
      exact System.passes_smsc2RestartSmsc hs
    | setClientStatus status =>
      rw [trafficStep_setClientStatus h]
      exact System.passes_of_subperm (List.Subperm.refl _) le_rfl

theorem trafficStep_shifts {t t' : Traffic} {e : TrafficEvent}
    (h : trafficStep lib cfg t e = some t') : Shifts cfg t.custody t'.custody :=
  (trafficStep_passes h).mono (fun _ hentry => hentry.1) fun _ _ _ hmove => hmove.handling

end Process

/-! ## No retransmission without a response

The rule about single messages is `Cleared`; that the whole process keeps it is the invariant rule for custody. -/

/-- A message that may be written has no unanswered transmission; one that was sent has at most the
transmission it is kept under. -/
def Cleared (journal : List (Action Key)) : Place × Msg → Prop
  | (.ready, m) => unanswered m.serial journal = []
  | (.outgoing, m) => m.msgState ≠ .sentNoresp → unanswered m.serial journal = []
  | (.sent key, m) => m.msgState = .sentNoresp ∧ ∀ k ∈ unanswered m.serial journal, k = key

/-- Fewer unanswered transmissions only help. -/
theorem Cleared.mono {journal journal' : List (Action Key)} {p : Place × Msg} (h : Cleared journal p)
    (hsub : unanswered p.2.serial journal' <+ unanswered p.2.serial journal) :
    Cleared journal' p := by
  obtain ⟨place, m⟩ := p
  have hnil : unanswered m.serial journal = [] → unanswered m.serial journal' = [] := by
    intro hnil
    exact List.sublist_nil.mp (hnil ▸ hsub)
  cases place with
  | ready => exact hnil h
  | outgoing => exact fun hstate => hnil (h hstate)
  | sent key => exact ⟨h.1, fun k hk => h.2 k (hsub.subset hk)⟩

/-- The moves keep messages cleared, and write only what has no unanswered transmission. -/
theorem keeps_cleared (cfg : ClientCfg) :
    Keeps Msg.serial Entered (Handling cfg) Cleared Orderly where
  frame h ha := h.mono (unanswered_sublist ha)
  entry := by
    rintro journal ⟨place, m⟩ ⟨rfl, -⟩ hnew
    exact unanswered_eq_nil hnew
  move := by
    rintro journal ⟨place, m⟩ ⟨place', m'⟩ as h hserial hmove
    change m'.serial = m.serial at hserial
    cases hmove with
    | route _ =>
      rw [List.append_nil, Cleared, hserial]
      exact h
    | handBack _ =>
      rw [List.append_nil, Cleared, hserial]
      exact fun _ => h
    | take hstate _ _ =>
      rw [List.append_nil, Cleared, hserial]
      exact h hstate
    | transmit hstate _ =>
      have hnone : unanswered m.serial journal = [] := h
      rw [Cleared, hserial, unanswered_written_self, hnone]
      exact ⟨hstate, fun k hk => List.mem_singleton.mp hk⟩
    | expire hstate _ =>
      exact fun hnot => absurd (hstate.trans h.1) hnot
    | answer _ =>
      rw [Cleared, hserial, unanswered_answered]
      intro _
      refine List.filter_eq_nil_iff.mpr fun k hk => ?_
      simpa using h.2 k hk
  answered h := h.answered _
  moved hj h hmove := by
    cases hmove with
    | route _ | handBack _ | take _ _ _ | expire _ _ => rwa [List.append_nil]
    | transmit _ _ => exact hj.written _ h
    | answer _ => exact hj.answered _

/-- The process when it starts, before any traffic. -/
structure Traffic.Start (t : Traffic) : Prop where
  system : t.system.Start
  journal : t.journal = []

/-- When the process starts there is no message. -/
theorem Traffic.Start.copies {t : Traffic} (h : t.Start) : t.system.copies = [] := by
  rw [System.copies, h.system.inHand, h.system.queues]
  refine List.flatMap_eq_nil_iff.mpr fun c hc => ?_
  obtain ⟨hmsgs, hsent⟩ := h.system.fresh c.1 (List.fst_mem_of_mem_zipIdx hc)
  rw [SmscConn.copies, hmsgs, hsent]
  rfl

/-- Before any traffic every message is as it should be: there is none. -/
theorem Traffic.Start.sound {t : Traffic} (h : t.Start) {Good : List (Action Key) → Place × Msg → Prop}
    {J : List (Action Key) → Prop} (hj : J []) : t.custody.Sound Msg.serial Good J where
  nodup := by rw [Traffic.custody, h.copies]; exact List.nodup_nil
  known p hp := by rw [Traffic.custody, h.copies] at hp; exact absurd hp List.not_mem_nil
  named n key hmem := by rw [Traffic.custody, h.journal] at hmem; exact absurd hmem List.not_mem_nil
  good p hp := by rw [Traffic.custody, h.copies] at hp; exact absurd hp List.not_mem_nil
  journal := by rw [Traffic.custody, h.journal]; exact hj

/-- **No retransmission without a response**: between two transmissions of a message, the sequence
number of the first was answered on the connection it was written to. -/
theorem answered_between_writes (lib : Gwlib) (cfg : ClientCfg) {t t' : Traffic} (hs : t.Start)
    {es : List TrafficEvent} (hr : exec (trafficStep lib cfg) t es = some t') {serial : ℕ}
    {key key' : Key} {l₁ l₂ l₃ : List (Action Key)}
    (hj : t'.journal = l₁ ++ .written serial key :: l₂ ++ .written serial key' :: l₃) :
    .answered key ∈ l₂ := by
  have hsound := exec_invariant_of_step
    (P := fun t => t.custody.Sound Msg.serial Cleared Orderly)
    (fun h hstep => h.shift (keeps_cleared cfg) (trafficStep_shifts hstep)) (hs.sound .nil) hr
  exact Orderly.answered_mem hsound.journal hj

/-- The process with one connection, before any traffic. -/
def sampleTraffic : Traffic := { system := sampleSystem }

/-- The SMSC answers a submit with a full queue; the router sends it out again. -/
def sampleRetry : List TrafficEvent :=
  (sampleRun 0x14).map .system ++
    [.system (.msgRouter true 1003), .system (.msgRouter true 1003), .system (.msgRouter true 1003),
     .system (.rout 0 0), .system (.io 0 (.send true 1003))]

/-- Settings with two tries for each message. -/
def sampleTwoTries : ClientCfg := { dndcheckFlag := false, maxRetryLimit := 2 }

/-- The process behind the second transmission. -/
def sampleRetried : Traffic :=
  (exec (trafficStep sampleGwlib sampleTwoTries) sampleTraffic sampleRetry).get (by decide)

theorem answered_between_writes_sampleRetry :
    sampleRetried.journal = [.written 1 (0, 2), .answered (0, 2), .written 1 (0, 3)] ∧
      Action.answered ((0, 2) : Key) ∈ [Action.answered ((0, 2) : Key)] :=
  ⟨by decide, answered_between_writes sampleGwlib sampleTwoTries ⟨sampleSystem_start, rfl⟩
    (Option.some_get _).symm (show sampleRetried.journal =
      [] ++ .written 1 (0, 2) :: [.answered (0, 2)] ++ .written 1 (0, 3) :: [] by decide)⟩

/-! ## Bounded retries

The retries of a message count its transmissions, and the router looks at them before it routes the message
again. -/

/-- A message counts its transmissions, and below the limit where it may be written. -/
def Counted (limit : ℤ) (journal : List (Action Key)) (p : Place × Msg) : Prop :=
  (writes p.2.serial journal : ℤ) = p.2.retries ∧
    match p.1 with
    | .ready => p.2.retries < limit
    | _ => p.2.retries ≤ limit

/-- A move keeps the count, and leaves a message below the limit where it may be written. -/
theorem Counted.move {cfg : ClientCfg} {journal as : List (Action Key)} {p p' : Place × Msg}
    (h : Counted cfg.maxRetryLimit journal p) (hserial : p'.2.serial = p.2.serial)
    (hmove : Handling cfg p p' as) : Counted cfg.maxRetryLimit (journal ++ as) p' := by
  obtain ⟨place, m⟩ := p
  obtain ⟨place', m'⟩ := p'
  obtain ⟨hcount, hbound⟩ := h
  change m'.serial = m.serial at hserial
  change (writes m.serial journal : ℤ) = m.retries at hcount
  cases hmove with
  | route hretries =>
    rw [List.append_nil, Counted, hserial, hretries]
    exact ⟨hcount, hbound⟩
  | handBack hretries =>
    rw [List.append_nil, Counted, hserial, hretries]
    have hlt : m.retries < cfg.maxRetryLimit := hbound
    exact ⟨hcount, Int.le_of_lt hlt⟩
  | take _ hne hretries =>
    rw [List.append_nil, Counted, hserial, hretries]
    have hle : m.retries ≤ cfg.maxRetryLimit := hbound
    have hlt : m.retries < cfg.maxRetryLimit := by omega
    exact ⟨hcount, hlt⟩
  | transmit _ hretries =>
    rw [Counted, hserial, hretries, writes_concat_written, if_pos rfl]
    refine ⟨by push_cast; rw [hcount], ?_⟩
    exact hbound
  | expire _ hretries =>
    rw [List.append_nil, Counted, hserial, hretries]
    exact ⟨hcount, hbound⟩
  | answer hretries =>
    rw [Counted, hserial, hretries, writes_answered]
    exact ⟨hcount, hbound⟩

/-- A move writes only below the limit. -/
theorem Counted.writes_le {cfg : ClientCfg} {journal as : List (Action Key)} {p p' : Place × Msg}
    (h : Counted cfg.maxRetryLimit journal p)
    (hj : ∀ n, (writes n journal : ℤ) ≤ cfg.maxRetryLimit) (hmove : Handling cfg p p' as) (n : ℕ) :
    (writes n (journal ++ as) : ℤ) ≤ cfg.maxRetryLimit := by
  cases hmove with
  | route _ | handBack _ | take _ _ _ | expire _ _ =>
    rw [List.append_nil]
    exact hj n
  | transmit _ _ =>
    rw [writes_concat_written]
    split
    · rename_i heq
      obtain ⟨hcount, hbound⟩ := h
      dsimp only at hcount hbound
      rw [← heq]
      omega
    · exact hj n
  | answer _ =>
    rw [writes_answered]
    exact hj n

/-- The moves keep the count, and write only below the limit. -/
theorem keeps_counted {cfg : ClientCfg} (hlimit : 1 ≤ cfg.maxRetryLimit) :
    Keeps Msg.serial Entered (Handling cfg) (Counted cfg.maxRetryLimit)
      fun journal => ∀ n, (writes n journal : ℤ) ≤ cfg.maxRetryLimit where
  frame h ha := by
    rw [Counted, writes_of_ne ha]
    exact h
  entry := by
    rintro journal ⟨place, m⟩ ⟨rfl, hzero⟩ hnew
    refine ⟨?_, ?_⟩
    · rw [writes_eq_zero hnew, hzero]
      rfl
    · change m.retries < cfg.maxRetryLimit
      rw [show m.retries = 0 from hzero]
      omega
  move h hserial hmove := h.move hserial hmove
  answered h n := by
    rw [writes_answered]
    exact h n
  moved hj h hmove n := h.writes_le hj hmove n

/-- **Bounded retries**: no message is written more than `max_retry_limit` times. -/
theorem writes_le_maxRetryLimit (lib : Gwlib) (cfg : ClientCfg) (hlimit : 1 ≤ cfg.maxRetryLimit)
    {t t' : Traffic} (hs : t.Start) {es : List TrafficEvent}
    (hr : exec (trafficStep lib cfg) t es = some t') (serial : ℕ) :
    (writes serial t'.journal : ℤ) ≤ cfg.maxRetryLimit := by
  have hzero : ∀ n, (writes n ([] : List (Action Key)) : ℤ) ≤ cfg.maxRetryLimit := by
    intro n
    change (0 : ℤ) ≤ _
    omega
  have hsound := exec_invariant_of_step
    (P := fun t => t.custody.Sound Msg.serial (Counted cfg.maxRetryLimit)
      fun journal => ∀ n, (writes n journal : ℤ) ≤ cfg.maxRetryLimit)
    (fun h hstep => h.shift (keeps_counted hlimit) (trafficStep_shifts hstep)) (hs.sound hzero) hr
  exact hsound.journal serial

theorem writes_le_maxRetryLimit_sampleRetry :
    writes 1 sampleRetried.journal = 2 ∧ (writes 1 sampleRetried.journal : ℤ) ≤ 2 :=
  ⟨by decide, writes_le_maxRetryLimit sampleGwlib sampleTwoTries (by decide)
    ⟨sampleSystem_start, rfl⟩ (Option.some_get _).symm 1⟩

end SmppServer.SmppSmsc
