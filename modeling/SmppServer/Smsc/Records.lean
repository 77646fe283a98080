import SmppServer.Smsc.Retransmit

/-!
# Smsc/Records — which message a record is about

A record names a message by the id the account gave it, and two submits may carry one id.  Here every
record stands under the number of its message: `Traffic.records` reads off the state and the event what
a step records, in the response handler, in the router, in its drain, or in `handle_request` during the
shutdown.

* `trafficStep_insertMis` — these are the records a step hands to the database process, and no others.
* `Traffic.mem_records` — a record is made of what a message carries that was sent or waits for the
  router, or of a submit that has just come.
* `Traffic.mem_records_of_answered` — a message whose transmission is answered is recorded.
-/

namespace SmppServer.SmppSmsc

open Machinery

/-! ## The records of a step -/

section Records

variable (lib : Gwlib) (cfg : ClientCfg)

/-- The record of a message, under its number. -/
def Msg.recorded (msg : Msg) (smscId smscMsgId : Option Octstr) (status : ℤ) : List (ℕ × InsertMis) :=
  (msg.smInfo.pdu.bind lib.smppPduUnpack).toList.map fun pdu =>
    (msg.serial, misRecord msg.smInfo.accountName msg.smInfo.accountMsgId msg.smInfo.reqTime smscId
      smscMsgId pdu status msg.smInfo.clientIp)

/-- The record that a PDU brings about on a connection. -/
def pduRecords (conn : SmscConn) : Option Pdu → List (ℕ × InsertMis)
  | some (.submitSmResp key status messageId) =>
    match conn.data.sentMsgs.lookup key, submitSmRespMsgId conn.data.smppMsgIdType messageId with
    | some smppMsg, some smscMsgId => smppMsg.msg.recorded lib (some conn.id) smscMsgId status
    | _, _ => []
  | _ => []

/-- The record of a submit that comes during the shutdown. -/
def requestRecords (s : System) (submit : Submit) : List (ℕ × InsertMis) :=
  if s.process.smppClientStatus ≠ .running then
    (submit.pdu.bind lib.smppPduUnpack).toList.map fun pdu =>
      (s.received.length + 1, misRecord submit.accountName submit.accountMsgId submit.reqTime none none
        pdu 0x40B submit.ip)
  else []

/-- The record of a message that the router gives up, in a pass or in the drain. -/
def routerRecords (s : System) (now : ℤ) : List (ℕ × InsertMis) :=
  match s.router, s.process.queues.outgoingMsg with
  | .pass (_ + 1), msg :: _ =>
    if msg.msgState = .sentNoresp then msg.recorded lib msg.failedSmscId none 0x405
    else if msg.retries = cfg.maxRetryLimit ∨
        cfg.maxMsgDuration ≠ -1 ∧ cfg.maxMsgDuration < now - msg.msgRetryTime then
      msg.recorded lib msg.failedSmscId none 0x404
    else []
  | .drain (_ + 1), msg :: _ =>
    msg.recorded lib msg.failedSmscId none (if msg.msgState = .sentNoresp then 0x405 else 0x406)
  | _, _ => []

/-- **The records of a step.** -/
def Traffic.records (t : Traffic) : TrafficEvent → List (ℕ × InsertMis)
  | .system (.io i ev) | .receive i ev =>
    match t.system.process.smscList[i]? with
    | some conn => pduRecords lib conn ev.pdu?
    | none => []
  | .system (.handleRequest submit) => requestRecords lib t.system submit
  | .system (.msgRouter _ now) => routerRecords lib cfg t.system now
  | _ => []

end Records

section Spec

variable {lib : Gwlib} {cfg : ClientCfg} {ev : IoEvent} {q q' : Queues} {c c' : SmscConn}
  {s s' : System} {msg : Msg} {now : ℤ}

theorem Msg.recorded_of_unpack {pdu : SmppPdu} (h : msg.smInfo.pdu.bind lib.smppPduUnpack = some pdu)
    (smscId smscMsgId : Option Octstr) (status : ℤ) :
    (misDbInsert q msg smscId smscMsgId pdu status).insertMis =
      q.insertMis ++ (msg.recorded lib smscId smscMsgId status).map Prod.snd := by
  simp [Msg.recorded, h, misDbInsert]

/-! ## The threads

The moves of a thread say which of them records anything, so no step is unfolded again. -/

/-- A response is recorded if it answers a message. -/
theorem handleSubmitSmResp_insertMis {key status : ℤ} {messageId : Option Octstr}
    (h : handleSubmitSmResp lib cfg now q c key status messageId = some (q', c')) :
    q'.insertMis =
      q.insertMis ++ (pduRecords lib c (some (.submitSmResp key status messageId))).map Prod.snd := by
  unfold handleSubmitSmResp at h
  split at h
  · rename_i hkey
    rw [Option.some.injEq, Prod.mk.injEq] at h
    simp [pduRecords, hkey, h.1]
  · rename_i smppMsg hkey
    simp only at h
    split at h
    · rename_i smscMsgId pdu hid hunpack
      have hrecorded := Msg.recorded_of_unpack (q := q) hunpack (some c.id) smscMsgId status
      have hrecords : pduRecords lib c (some (.submitSmResp key status messageId)) =
          smppMsg.msg.recorded lib (some c.id) smscMsgId status := by
        have hid' : submitSmRespMsgId c.data.smppMsgIdType messageId = some smscMsgId := hid
        simp only [pduRecords, hkey, hid']
      rw [hrecords, ← hrecorded]
      split at h
      · cases hst : temporary status with
        | true =>
          rw [smscconnSendFailed_of_retries hst, Option.some.injEq, Prod.mk.injEq] at h
          rw [← h.1, produceOutgoingMsg_insertMis]
          rfl
        | false =>
          rw [smscconnSendFailed_of_not_retries hst, Option.some.injEq, Prod.mk.injEq] at h
          rw [← h.1]
          rfl
      · rw [Option.some.injEq, Prod.mk.injEq] at h
        rw [← h.1]
        rfl
    · exact absurd h (by simp)

/-- Only a response is recorded. -/
theorem Moves.insertMis_eq (h : Moves lib cfg ev q c q' c')
    (hev : ∀ key status messageId, ev.pdu? ≠ some (.submitSmResp key status messageId)) :
    q'.insertMis = q.insertMis := by
  cases h with
  | keep _ _ | drop _ _ _ _ _ | transmit _ _ _ _ _ _ _ | flushDrop _ _ _ _ | nack _ _ _ _ _ => rfl
  | flushQueued _ _ _ | giveBack _ _ _ _ => exact produceOutgoingMsg_insertMis cfg q _
  | answer hpdu _ _ _ _ _ _ => exact absurd hpdu (hev _ _ _)
  | answerRetry hpdu _ _ _ _ _ _ => exact absurd hpdu (hev _ _ _)

/-- **What a step of a thread records**, from what it does to the messages and to a PDU. -/
theorem Moves.insertMis (h : Moves lib cfg ev q c q' c')
    (hpdu : ∀ pdu, ev.pdu? = some pdu → ∃ now c₁, handlePdu lib cfg now q c pdu = some (q', c₁)) :
    q'.insertMis = q.insertMis ++ (pduRecords lib c ev.pdu?).map Prod.snd := by
  by_cases hev : ∃ key status messageId, ev.pdu? = some (.submitSmResp key status messageId)
  · obtain ⟨key, status, messageId, hev⟩ := hev
    obtain ⟨now, c₁, hhandle⟩ := hpdu _ hev
    rw [hev]
    exact handleSubmitSmResp_insertMis hhandle
  · have hnone : pduRecords lib c ev.pdu? = [] := by
      unfold pduRecords
      split
      · rename_i key status messageId heq
        exact absurd ⟨key, status, messageId, heq⟩ hev
      · rfl
    rw [hnone, List.map_nil, List.append_nil]
    exact h.insertMis_eq fun key status messageId heq => hev ⟨key, status, messageId, heq⟩

/-! ## The process

The record of each event is read off the state before it. -/

theorem handleRequest_insertMis {submit : Submit} (h : handleRequest lib cfg s submit = some s') :
    s'.process.queues.insertMis =
      s.process.queues.insertMis ++ (requestRecords lib s submit).map Prod.snd := by
  cases handleRequest_outcome h with
  | recorded hstatus hunpack => simp [requestRecords, hunpack, hstatus, System.setQueues]
  | taken hstatus | destroyed hstatus => simp [requestRecords, hstatus, System.setQueues]

theorem giveUp_insertMis {status : ℤ} (h : giveUp lib s msg status = some s') :
    s'.process.queues.insertMis = s.process.queues.insertMis ++
      (msg.recorded lib msg.failedSmscId none status).map Prod.snd := by
  obtain ⟨pdu, hunpack, rfl⟩ := Option.map_eq_some_iff.mp h
  exact Msg.recorded_of_unpack hunpack _ _ _

theorem routInHand_insertMis {k : ℕ} {stack : ℤ} (h : routInHand lib cfg s k stack = some s') :
    s'.process.queues.insertMis = s.process.queues.insertMis := by
  obtain ⟨message, r, p, -, hrout, rfl⟩ := routInHand_eq_some h
  cases smsc2Rout_outcome hrout with
  | lost | destroyed _ _ | handedOver _ => rfl
  | queued => exact produceOutgoingMsg_insertMis cfg _ _

/-- The router records the message it takes, if it gives that up. -/
theorem routerRecords_eq (s : System) (now : ℤ) : routerRecords lib cfg s now =
    match s.nextMsg with
    | none => []
    | some msg =>
      match s.giveUpStatus cfg now msg with
      | none => []
      | some status => msg.recorded lib msg.failedSmscId none status := by
  unfold routerRecords System.nextMsg System.giveUpStatus passStatus
  cases s.router with
  | idle | ended => rfl
  | pass left =>
    cases left with
    | zero => rfl
    | succ left =>
      cases s.process.queues.outgoingMsg with
      | nil => rfl
      | cons msg rest =>
        simp only [List.head?_cons]
        split_ifs
        all_goals simp_all
  | drain left =>
    cases left with
    | zero => rfl
    | succ left =>
      cases s.process.queues.outgoingMsg with
      | nil => rfl
      | cons msg rest => rfl

theorem routerRecords_of_givenUp {status : ℤ} (hnext : s.nextMsg = some msg)
    (hstatus : s.giveUpStatus cfg now msg = some status) :
    routerRecords lib cfg s now = msg.recorded lib msg.failedSmscId none status := by
  simp only [routerRecords_eq, hnext, hstatus]

/-- Nothing is recorded if no message is taken, or one that has no PDU or is not given up. -/
theorem routerRecords_eq_nil (h : ∀ msg ∈ s.nextMsg,
    msg.smInfo.pdu = none ∨ s.giveUpStatus cfg now msg = none) : routerRecords lib cfg s now = [] := by
  rw [routerRecords_eq]
  cases hnext : s.nextMsg with
  | none => rfl
  | some msg =>
    dsimp only
    obtain hpdu | hstatus := h msg hnext
    · cases s.giveUpStatus cfg now msg with
      | none => rfl
      | some status => simp [Msg.recorded, hpdu]
    · rw [hstatus]

/-- **A step of the router.** -/
theorem msgRouter_insertMis {recheck : Bool} (h : msgRouter lib cfg s recheck now = some s') :
    s'.process.queues.insertMis =
      s.process.queues.insertMis ++ (routerRecords lib cfg s now).map Prod.snd := by
  have hquiet : (∀ msg ∈ s.nextMsg, msg.smInfo.pdu = none ∨ s.giveUpStatus cfg now msg = none) →
      s.process.queues.insertMis =
        s.process.queues.insertMis ++ (routerRecords lib cfg s now).map Prod.snd := by
    intro hnone
    rw [routerRecords_eq_nil hnone, List.map_nil, List.append_nil]
  cases msgRouter_outcome h with
  | quiet pc globalQMsg hnext | emptied hnext => exact hquiet (by simp [hnext])
  | lost pc hnext hwhy => exact hquiet (by simpa [hnext] using hwhy)
  | givenUp hnext hstatus hgiveUp =>
    rw [routerRecords_of_givenUp hnext hstatus]
    exact (giveUp_insertMis hgiveUp :)
  | putBack pc hnext hstatus | merged left hnext hrouter hpdu hstatus =>
    exact hquiet (by simp [hnext, hstatus])

/-- **The records of a step** are those it hands to the database process. -/
theorem trafficStep_insertMis {t t' : Traffic} {e : TrafficEvent}
    (h : trafficStep lib cfg t e = some t') :
    t'.system.process.queues.insertMis =
      t.system.process.queues.insertMis ++ (t.records lib cfg e).map Prod.snd := by
  cases e with
  | receive i ev =>
    obtain ⟨conn, rx, q', conn', hconn, hrx, rfl⟩ := trafficStep_receive h
    simp only [Traffic.records, hconn]
    exact (rxThread_moves hrx).insertMis fun pdu hpdu => rxThread_handlePdu hpdu hrx
  | system e =>
    cases e with
    | io i ev =>
      obtain ⟨conn, q', conn', hconn, hio, rfl⟩ := trafficStep_io h
      simp only [Traffic.records, hconn]
      exact (ioThread_moves hio).insertMis fun pdu hpdu => ioThread_handlePdu hpdu hio
    | handleRequest submit =>
      obtain ⟨s', hs, rfl⟩ := Option.map_eq_some_iff.mp h
      exact handleRequest_insertMis hs
    | msgRouter recheck now =>
      obtain ⟨s', hs, rfl⟩ := Option.map_eq_some_iff.mp h
      exact msgRouter_insertMis hs
    | rout k stack =>
      obtain ⟨s', hs, rfl⟩ := Option.map_eq_some_iff.mp h
      exact (routInHand_insertMis hs).trans (List.append_nil _).symm
    | shutdownCb i =>
      obtain ⟨s', hs, rfl⟩ := Option.map_eq_some_iff.mp h
      obtain ⟨conn, -, ⟨-, rfl⟩ | ⟨-, rfl⟩⟩ := systemStep_shutdownCb hs
      all_goals exact (List.append_nil _).symm
    | smppDestroy i =>
      obtain ⟨s', hs, rfl⟩ := Option.map_eq_some_iff.mp h
      obtain ⟨conn, -, -, rfl⟩ := systemStep_smppDestroy hs
      exact (List.append_nil _).symm
    | smsc2RestartSmsc i conn =>
      obtain ⟨s', hs, rfl⟩ := Option.map_eq_some_iff.mp h
      obtain ⟨old, -, -, rfl⟩ := systemStep_smsc2RestartSmsc hs
      exact (List.append_nil _).symm
    | setClientStatus status =>
      rw [trafficStep_setClientStatus h]
      exact (List.append_nil _).symm

/-! ## What a record is made of

A record shows the PDU that the message carried, wherever it was made. -/

/-- The record shows what this PDU carries. -/
def InsertMis.Shows (record : InsertMis) (pdu : SmppPdu) : Prop :=
  record.esmClass = pdu.submitSm.esmClass ∧ record.msgContent = pdu.submitSm.shortMessage

theorem Msg.mem_recorded {smscId smscMsgId : Option Octstr} {status : ℤ} {n : ℕ} {record : InsertMis}
    (h : (n, record) ∈ msg.recorded lib smscId smscMsgId status) :
    n = msg.serial ∧ ∃ pdu, msg.smInfo.pdu.bind lib.smppPduUnpack = some pdu ∧ record.Shows pdu := by
  obtain ⟨pdu, hpdu, heq⟩ := List.mem_map.mp h
  obtain ⟨rfl, rfl⟩ := Prod.mk.inj heq
  exact ⟨rfl, pdu, Option.mem_toList.mp hpdu, rfl, rfl⟩

/-- The record is made of a message that was sent, or waits for the router. -/
def System.Recording (lib : Gwlib) (s : System) (n : ℕ) (record : InsertMis) : Prop :=
  ∃ p ∈ s.copies, p.1 ≠ .ready ∧ p.2.serial = n ∧
    ∃ pdu, p.2.smInfo.pdu.bind lib.smppPduUnpack = some pdu ∧ record.Shows pdu

/-- A response records the message kept under its key. -/
theorem recording_of_mem_pduRecords {conn : SmscConn} {i n : ℕ} {pdu : Option Pdu} {record : InsertMis}
    (hget : s.process.smscList[i]? = some conn) (h : (n, record) ∈ pduRecords lib conn pdu) :
    s.Recording lib n record := by
  unfold pduRecords at h
  split at h
  · rename_i key status messageId
    split at h
    · rename_i smppMsg smscMsgId hkey _
      obtain ⟨rfl, pdu, hpdu, hshows⟩ := Msg.mem_recorded h
      refine ⟨(.sent (i, key), smppMsg.msg), ?_, nofun, rfl, pdu, hpdu, hshows⟩
      obtain ⟨others, hcopies, -⟩ := System.copies_split hget s.process.queues conn
      refine hcopies.mem_iff.mpr (List.mem_append_left _ (List.mem_append_left _ ?_))
      exact List.mem_append_right _ (List.mem_map.mpr
        ⟨⟨key, smppMsg⟩, AList.mem_lookup_iff.mp hkey, rfl⟩)
    · exact absurd h List.not_mem_nil
  · exact absurd h List.not_mem_nil

/-- The router records the message it takes. -/
theorem recording_of_mem_routerRecords {n : ℕ} {record : InsertMis}
    (h : (n, record) ∈ routerRecords lib cfg s now) : s.Recording lib n record := by
  cases hnext : s.nextMsg with
  | none => simp [routerRecords_eq, hnext] at h
  | some msg =>
    cases hstatus : s.giveUpStatus cfg now msg with
    | none => simp [routerRecords_eq, hnext, hstatus] at h
    | some status =>
      rw [routerRecords_of_givenUp hnext hstatus] at h
      obtain ⟨rfl, pdu, hpdu, hshows⟩ := Msg.mem_recorded h
      refine ⟨(.outgoing, msg), ?_, nofun, rfl, pdu, hpdu, hshows⟩
      exact (System.copies_extractOutgoing .idle hnext).mem_iff.mpr List.mem_cons_self

/-- **A record is made** of a message of the process, or of the submit that comes. -/
theorem Traffic.mem_records {t : Traffic} {e : TrafficEvent} {n : ℕ} {record : InsertMis}
    (h : (n, record) ∈ t.records lib cfg e) :
    t.system.Recording lib n record ∨
      ∃ submit, e = .system (.handleRequest submit) ∧ n = t.system.received.length + 1 ∧
        ∃ pdu, submit.pdu.bind lib.smppPduUnpack = some pdu ∧ record.Shows pdu := by
  have hconn : ∀ {i : ℕ} {ev : IoEvent}, (n, record) ∈ (match t.system.process.smscList[i]? with
        | some conn => pduRecords lib conn ev.pdu?
        | none => []) → t.system.Recording lib n record := by
    intro i ev hmem
    split at hmem
    · rename_i conn hget
      exact recording_of_mem_pduRecords hget hmem
    · exact absurd hmem List.not_mem_nil
  cases e with
  | receive i ev => exact .inl (hconn h)
  | system e =>
    cases e with
    | io i ev => exact .inl (hconn h)
    | handleRequest submit =>
      obtain ⟨-, hmem⟩ := List.mem_ite_nil_right.mp h
      obtain ⟨pdu, hpdu, heq⟩ := List.mem_map.mp hmem
      obtain ⟨rfl, rfl⟩ := Prod.mk.inj heq
      exact .inr ⟨submit, rfl, rfl, pdu, Option.mem_toList.mp hpdu, rfl, rfl⟩
    | msgRouter recheck now => exact .inl (recording_of_mem_routerRecords h)
    | rout _ _ | shutdownCb _ | smppDestroy _ | smsc2RestartSmsc _ _ | setClientStatus _ =>
      exact absurd h List.not_mem_nil

/-! ## Answers

A response that is handled and names a message of `sent_msgs` brings about a record, and its journal entry names
the same key. -/

/-- A response that is handled records the message it answers. -/
theorem pduRecords_of_handlePdu {key status : ℤ} {messageId : Option Octstr} {smppMsg : SmppMsg}
    (hkey : c.data.sentMsgs.lookup key = some smppMsg)
    (h : handlePdu lib cfg now q c (.submitSmResp key status messageId) = some (q', c')) :
    smppMsg.msg.serial ∈
      (pduRecords lib c (some (.submitSmResp key status messageId))).map Prod.fst := by
  simp only [handlePdu, handleSubmitSmResp, hkey] at h
  split at h
  · rename_i smscMsgId pdu hid hunpack
    have hid' : submitSmRespMsgId c.data.smppMsgIdType messageId = some smscMsgId := hid
    simp [pduRecords, hkey, hid', Msg.recorded, hunpack]
  · exact absurd h (by simp)

theorem answered_mem_answeredBy {i : ℕ} {key : Key} (h : .answered key ∈ answeredBy i ev) :
    ∃ k status messageId, key = (i, k) ∧ ev.pdu? = some (.submitSmResp k status messageId) := by
  unfold answeredBy at h
  split at h
  · rename_i k status messageId hev
    obtain rfl := Action.answered.inj (List.mem_singleton.mp h)
    exact ⟨k, status, messageId, rfl, hev⟩
  · exact absurd h List.not_mem_nil

/-- A round of `send_messages` answers nothing. -/
theorem answered_mem_ioJournal {conn : SmscConn} {i : ℕ} {key : Key}
    (h : .answered key ∈ ioJournal lib cfg i conn ev) : .answered key ∈ answeredBy i ev := by
  cases ev with
  | send written now =>
    have hwritten : .answered key ∈ writtenBy lib cfg i conn written := h
    unfold writtenBy at hwritten
    split at hwritten
    · split at hwritten
      · exact absurd hwritten List.not_mem_nil
      · split at hwritten
        · obtain ⟨pdu, -, heq⟩ := List.mem_map.mp hwritten
          exact absurd heq nofun
        · exact absurd hwritten List.not_mem_nil
    · exact absurd hwritten List.not_mem_nil
  | _ => exact h

/-- A message kept under a key of connection `i` is in its `sent_msgs`. -/
theorem lookup_of_mem_copies {conn : SmscConn} {i : ℕ} {k : ℤ}
    (hconn : s.process.smscList[i]? = some conn) (h : (.sent (i, k), msg) ∈ s.copies) :
    ∃ smppMsg, conn.data.sentMsgs.lookup k = some smppMsg ∧ smppMsg.msg = msg := by
  simp only [System.copies, Queues.copies, List.mem_append, List.mem_map, Prod.mk.injEq,
    reduceCtorEq, false_and, and_false, exists_false, false_or, List.mem_flatMap] at h
  obtain ⟨⟨conn', j⟩, hmem, hcopy⟩ := h
  obtain hready | hsent := List.mem_append.mp hcopy
  · obtain ⟨m, -, heq⟩ := List.mem_map.mp hready
    simp at heq
  · obtain ⟨entry, hentry, heq⟩ := List.mem_map.mp hsent
    obtain ⟨hplace, rfl⟩ := Prod.mk.inj heq
    obtain ⟨rfl, rfl⟩ := Prod.mk.inj (Place.sent.inj hplace)
    have hget : s.process.smscList[j]? = some conn' := List.mk_mem_zipIdx_iff_getElem?.mp hmem
    obtain rfl := Option.some.inj (hget.symm.trans hconn)
    exact ⟨entry.2, AList.mem_lookup_iff.mpr hentry, rfl⟩

/-- A thread that reads an answer records the message that was kept under its key. -/
theorem mem_pduRecords_of_answered {i : ℕ} {key : Key} {conn : SmscConn}
    (hconn : s.process.smscList[i]? = some conn) (hcopy : (.sent key, msg) ∈ s.copies)
    (hanswered : .answered key ∈ answeredBy i ev) (hdata : c.data = conn.data)
    (hpdu : ∀ pdu, ev.pdu? = some pdu → ∃ now c₁, handlePdu lib cfg now q c pdu = some (q', c₁)) :
    msg.serial ∈ (pduRecords lib c ev.pdu?).map Prod.fst := by
  obtain ⟨k, status, messageId, rfl, hev⟩ := answered_mem_answeredBy hanswered
  obtain ⟨now, c₁, hhandle⟩ := hpdu _ hev
  obtain ⟨smppMsg, hkey, rfl⟩ := lookup_of_mem_copies hconn hcopy
  rw [← hdata] at hkey
  rw [hev]
  exact pduRecords_of_handlePdu hkey hhandle

/-- **Answers are recorded**, each under the number of the message that was kept under its key. -/
theorem Traffic.mem_records_of_answered {t t' : Traffic} {e : TrafficEvent} {key : Key}
    {new : List (Action Key)} (h : trafficStep lib cfg t e = some t')
    (hcopy : (.sent key, msg) ∈ t.system.copies) (hjournal : t'.journal = t.journal ++ new)
    (hnew : .answered key ∈ new) : msg.serial ∈ (t.records lib cfg e).map Prod.fst := by
  -- the other steps add nothing to the journal
  have hquiet : t'.journal ≠ t.journal := by
    intro hsame
    rw [hsame, List.self_eq_append_right] at hjournal
    rw [hjournal] at hnew
    exact absurd hnew List.not_mem_nil
  cases e with
  | receive i ev =>
    obtain ⟨conn, rx, q', conn', hconn, hrx, rfl⟩ := trafficStep_receive h
    rw [← List.append_cancel_left hjournal] at hnew
    simp only [Traffic.records, hconn]
    exact mem_pduRecords_of_answered (c := conn.withThread rx) hconn hcopy hnew rfl
      fun pdu hpdu => rxThread_handlePdu hpdu hrx
  | system e =>
    cases e with
    | io i ev =>
      obtain ⟨conn, q', conn', hconn, hio, rfl⟩ := trafficStep_io h
      rw [← List.append_cancel_left hjournal] at hnew
      simp only [Traffic.records, hconn]
      exact mem_pduRecords_of_answered hconn hcopy (answered_mem_ioJournal hnew) rfl
        fun pdu hpdu => ioThread_handlePdu hpdu hio
    | handleRequest _ | rout _ _ | msgRouter _ _ | shutdownCb _ | smppDestroy _ | smsc2RestartSmsc _ _ =>
      obtain ⟨s', hs, rfl⟩ := Option.map_eq_some_iff.mp h
      exact absurd rfl hquiet
    | setClientStatus status =>
      rw [trafficStep_setClientStatus h] at hquiet
      exact absurd rfl hquiet

end Spec

end SmppServer.SmppSmsc
