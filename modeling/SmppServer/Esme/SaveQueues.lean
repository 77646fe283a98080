import SmppServer.Esme.Backlog
import SmppServer.Machinery.Drain

/-!
# Esme/SaveQueues — what becomes of the messages that wait when the server is shut down

When the sessions have ended, `save_dbbox_q_msgs` goes through the messages that wait for the SMSC process.  A
submit is recorded in the MIS table with status `0x408` if the SMSC process is away, and only logged otherwise;
then the messages that wait for the database process are logged, if that is away too.  The threads of both
clients go on taking messages in the meantime.

* `shutdown_accounts` — every message has one fate, in every order of the threads' steps.
* `shutdown_saves_everything` — with both processes away, every submit is recorded, and every record is logged.
* `save_returns` — `save_dbbox_q_msgs` comes to its end.
-/

namespace SmppServer.SmppEsme

open Machinery

/-! ## The queues

Each client has a queue that `save_dbbox_q_msgs` and the thread of the client both take from: a `Drain`, with
what is in hand, what was taken and what was dealt with. -/

/-- What waits for the database process: a row or a record, or the message by which `main` registers. -/
inductive DbboxItem
  | msg (m : DbboxMsg)
  | admin (command : ℤ) (connId : Octstr)
  deriving DecidableEq, Repr

def ForwardMsg.submit? : ForwardMsg → Option SubmitMsg
  | .submit msg => some msg
  | .admin _ _ => none

def DbboxItem.msg? : DbboxItem → Option DbboxMsg
  | .msg m => some m
  | .admin _ _ => none

/-- Where `save_dbbox_q_msgs` is.  It has returned with the messages for the database process looked through, or
left to the thread of the client, which was connected. -/
inductive SavePc
  | start
  | forward
  | check
  | dbbox
  | returned (left : Bool)
  | crashed
  deriving DecidableEq, Repr

/-- The two clients, what they hold, and the logs of what was done with it. -/
structure Saving where
  forward : Drain ForwardMsg
  dbbox : Drain DbboxItem
  forwardConnected : Bool
  dbboxConnected : Bool
  pc : SavePc := .start
  recorded : List SubmitMsg := []
  records : List InsertMisMsg := []
  rejected : List SubmitMsg := []
  logged : List DbboxMsg := []

/-- The call. -/
def Saving.start (msgs : List ForwardMsg) (items : List DbboxItem) (forwardConnected dbboxConnected : Bool) :
    Saving :=
  { forward := { queue := msgs }, dbbox := { queue := items }, forwardConnected, dbboxConnected }

/-- A step of `save_dbbox_q_msgs`, at a time; the thread of a client sends its first message; or a connection
comes or goes. -/
inductive SaveEvent
  | save (currentDatetime : Octstr)
  | forwardTakes
  | dbboxTakes
  | forwardStatus (connected : Bool)
  | dbboxStatus (connected : Bool)
  deriving DecidableEq, Repr

/-- `mis_db_insert` as `save_dbbox_q_msgs` calls it: with the name of the account in the place of the address of
the client. -/
def shutdownRecord (currentDatetime : Octstr) (msg : SubmitMsg) (pdu : SubmitSm) : InsertMisMsg where
  accountName := msg.accountName
  accountMsgId := msg.accountMsgId
  reqTime := currentDatetime
  sourceAddr := pdu.sourceAddr
  destAddr := pdu.destinationAddr
  submitStatus := 0x408
  esmClass := pdu.esmClass
  messageLen := (pdu.shortMessage.getD []).length
  msgContent := pdu.shortMessage
  retryValue := retryValue pdu
  ip := msg.accountName.getD []

section Save

variable (smppPduUnpack : Octstr → Option SubmitSm)

/-- The PDU of a message, behind its length. -/
def SubmitMsg.unpacked (msg : SubmitMsg) : Option SubmitSm := smppPduUnpack ((msg.pdu.getD []).drop 4)

/-- The body of the first loop, for the message in hand.  The PDU is read without a check. -/
def Saving.saveForward (s : Saving) (currentDatetime : Octstr) : ForwardMsg → Saving
  | .admin _ _ => { s with forward := s.forward.release }
  | .submit msg =>
    match msg.unpacked smppPduUnpack with
    | none => { s with pc := .crashed }
    | some pdu =>
      if s.forwardConnected then
        { s with forward := s.forward.release, rejected := s.rejected ++ [msg] }
      else
        let record := shutdownRecord currentDatetime msg pdu
        { s with
          forward := s.forward.release
          dbbox := s.dbbox.put (.msg (.insertMis record))
          recorded := s.recorded ++ [msg]
          records := s.records ++ [record] }

/-- The body of the second loop: `send_msg_dbbox_server` with mode 1 writes to the log. -/
def Saving.saveDbbox (s : Saving) (item : DbboxItem) : Saving :=
  { s with dbbox := s.dbbox.release, logged := s.logged ++ item.msg?.toList }

/-- A step of `save_dbbox_q_msgs`. -/
def saveDbboxQMsgs (s : Saving) (currentDatetime : Octstr) : Option Saving :=
  match s.pc with
  | .start => some { s with forward := s.forward.start, pc := .forward }
  | .forward =>
    match s.forward.hand with
    | some msg => some (s.saveForward smppPduUnpack currentDatetime msg)
    | none =>
      if s.forward.rounds = 0 then some { s with pc := .check }
      else some { s with forward := s.forward.extract }
  | .check =>
    if s.dbboxConnected then some { s with pc := .returned true }
    else if s.dbbox.queue = [] then some { s with pc := .returned false }
    else some { s with dbbox := s.dbbox.start, pc := .dbbox }
  | .dbbox =>
    match s.dbbox.hand with
    | some item => some (s.saveDbbox item)
    | none =>
      if s.dbbox.rounds = 0 then some { s with pc := .returned false }
      else some { s with dbbox := s.dbbox.extract }
  | .returned _ | .crashed => none

/-- One step of any of the threads. -/
def saveStep (s : Saving) : SaveEvent → Option Saving
  | .save currentDatetime => saveDbboxQMsgs smppPduUnpack s currentDatetime
  | .forwardTakes =>
    if s.forwardConnected = true ∧ s.forward.queue ≠ [] then some { s with forward := s.forward.take } else none
  | .dbboxTakes =>
    if s.dbboxConnected = true ∧ s.dbbox.queue ≠ [] then some { s with dbbox := s.dbbox.take } else none
  | .forwardStatus connected => some { s with forwardConnected := connected }
  | .dbboxStatus connected => some { s with dbboxConnected := connected }

end Save

/-! ## Every message has one fate

A message is in the queue, in hand, taken or dealt with, and a submit that was dealt with is recorded or
rejected.  The loops run for as many rounds as there were messages, and nobody else appends to the queue
meanwhile, so at their end it is empty. -/

section Fates

variable {smppPduUnpack : Octstr → Option SubmitSm} {s s' : Saving} {msgs : List ForwardMsg}
  {items : List DbboxItem} {es : List SaveEvent} {ev : SaveEvent} {currentDatetime : Octstr}

/-- The record is the one of the message, at some time. -/
def RecordOf (smppPduUnpack : Octstr → Option SubmitSm) (msg : SubmitMsg) (record : InsertMisMsg) : Prop :=
  ∃ currentDatetime pdu, msg.unpacked smppPduUnpack = some pdu ∧ record = shutdownRecord currentDatetime msg pdu

/-- How far the loops have come. -/
def SavePc.Reached (forward : Drain ForwardMsg) (dbbox : Drain DbboxItem) : SavePc → Prop
  | .start => forward.hand = none ∧ dbbox.hand = none
  | .forward => forward.queue.length ≤ forward.rounds ∧ dbbox.hand = none
  | .check => forward.queue = [] ∧ forward.hand = none ∧ dbbox.hand = none
  | .dbbox => forward.queue = [] ∧ forward.hand = none ∧ dbbox.queue.length ≤ dbbox.rounds
  | .returned left =>
    forward.queue = [] ∧ forward.hand = none ∧ dbbox.hand = none ∧ (left = false → dbbox.queue = [])
  | .crashed => True

/-- Every message is in one place, with its record if it has one. -/
structure Saving.Inv (smppPduUnpack : Octstr → Option SubmitSm) (msgs : List ForwardMsg) (items : List DbboxItem)
    (s : Saving) : Prop where
  forward : s.forward.Kept msgs
  dbbox : s.dbbox.Kept (items ++ s.records.map fun record => .msg (.insertMis record))
  submits : (s.recorded ++ s.rejected).Perm (s.forward.dealt.filterMap ForwardMsg.submit?)
  order : s.recorded.Sublist (s.forward.dealt.filterMap ForwardMsg.submit?)
  records : List.Forall₂ (RecordOf smppPduUnpack) s.recorded s.records
  logged : s.logged = s.dbbox.dealt.filterMap DbboxItem.msg?
  reached : s.pc.Reached s.forward s.dbbox

theorem Saving.inv_start (forwardConnected dbboxConnected : Bool) :
    (Saving.start msgs items forwardConnected dbboxConnected).Inv smppPduUnpack msgs items where
  forward := Drain.kept_new msgs
  dbbox := by
    rw [Saving.start, List.map_nil, List.append_nil]
    exact Drain.kept_new items
  submits := .refl _
  order := .refl _
  records := .nil
  logged := rfl
  reached := ⟨rfl, rfl⟩

/-- The thread of the forward client is in the way of neither loop. -/
theorem SavePc.Reached.forwardTakes {pc : SavePc} {f : Drain ForwardMsg} {d : Drain DbboxItem} (h : pc.Reached f d) :
    pc.Reached f.take d := by
  cases pc with
  | start => exact h
  | forward => exact And.intro (Drain.length_take h.1) h.2
  | check => exact And.intro (Drain.queue_take_eq_nil h.1) h.2
  | dbbox => exact And.intro (Drain.queue_take_eq_nil h.1) h.2
  | returned left => exact And.intro (Drain.queue_take_eq_nil h.1) h.2
  | crashed => exact h

theorem SavePc.Reached.dbboxTakes {pc : SavePc} {f : Drain ForwardMsg} {d : Drain DbboxItem} (h : pc.Reached f d) :
    pc.Reached f d.take := by
  cases pc with
  | start | forward | check | crashed => exact h
  | dbbox => exact And.intro h.1 ⟨h.2.1, Drain.length_take h.2.2⟩
  | returned left => exact And.intro h.1 ⟨h.2.1, h.2.2.1, fun hleft => Drain.queue_take_eq_nil (h.2.2.2 hleft)⟩

namespace Saving

/-- The message in hand is dealt with in the first loop. -/
theorem Inv.saveForward (h : s.Inv smppPduUnpack msgs items) {msg : ForwardMsg} (hpc : s.pc = .forward)
    (hand : s.forward.hand = some msg) :
    (s.saveForward smppPduUnpack currentDatetime msg).Inv smppPduUnpack msgs items := by
  have hreached : SavePc.Reached s.forward s.dbbox .forward := hpc ▸ h.reached
  obtain ⟨hrounds, hdbbox⟩ := hreached
  have hdealt : s.forward.release.dealt = s.forward.dealt ++ [msg] := by rw [Drain.release, hand]; rfl
  cases msg with
  | admin command connId =>
    refine ⟨h.forward.release, h.dbbox, ?_, ?_, h.records, h.logged, ?_⟩
    · simpa [Saving.saveForward, hdealt, ForwardMsg.submit?, List.filterMap_cons] using h.submits
    · simpa [Saving.saveForward, hdealt, ForwardMsg.submit?, List.filterMap_cons] using h.order
    · rw [Saving.saveForward, hpc]
      exact And.intro hrounds hdbbox
  | submit msg =>
    have hsubmits : s.forward.release.dealt.filterMap ForwardMsg.submit? =
        s.forward.dealt.filterMap ForwardMsg.submit? ++ [msg] := by
      rw [hdealt, List.filterMap_append]
      rfl
    rw [Saving.saveForward]
    cases hpdu : msg.unpacked smppPduUnpack with
    | none => exact ⟨h.forward, h.dbbox, h.submits, h.order, h.records, h.logged, trivial⟩
    | some pdu =>
      dsimp only
      split
      · refine ⟨h.forward.release, h.dbbox, ?_, ?_, h.records, h.logged, ?_⟩
        · rw [hsubmits, ← List.append_assoc]
          exact h.submits.append_right [msg]
        · rw [hsubmits]
          exact h.order.trans (List.sublist_append_left _ _)
        · rw [hpc]
          exact And.intro hrounds hdbbox
      · refine ⟨h.forward.release, ?_, ?_, ?_, ?_, h.logged, ?_⟩
        · rw [List.map_append, List.map_singleton, ← List.append_assoc]
          exact h.dbbox.put _
        · rw [hsubmits]
          refine .trans ?_ (h.submits.append_right [msg])
          rw [List.append_assoc, List.append_assoc]
          exact List.perm_append_comm.append_left _
        · rw [hsubmits]
          exact h.order.append_right [msg]
        · exact List.rel_append h.records (.cons ⟨currentDatetime, pdu, hpdu, rfl⟩ .nil)
        · rw [hpc]
          exact And.intro hrounds hdbbox

/-- What is in hand is dealt with in the second loop. -/
theorem Inv.saveDbbox (h : s.Inv smppPduUnpack msgs items) {item : DbboxItem} (hpc : s.pc = .dbbox)
    (hand : s.dbbox.hand = some item) : (s.saveDbbox item).Inv smppPduUnpack msgs items := by
  refine ⟨h.forward, h.dbbox.release, h.submits, h.order, h.records, ?_, ?_⟩
  · have hdealt : s.dbbox.release.dealt = s.dbbox.dealt ++ [item] := by rw [Drain.release, hand]; rfl
    rw [Saving.saveDbbox, h.logged, hdealt, List.filterMap_append]
    cases item <;> rfl
  · have hreached : SavePc.Reached s.forward s.dbbox .dbbox := hpc ▸ h.reached
    rw [Saving.saveDbbox, hpc]
    exact hreached

/-- **A step of `save_dbbox_q_msgs`.** -/
theorem Inv.save (h : s.Inv smppPduUnpack msgs items)
    (hstep : saveDbboxQMsgs smppPduUnpack s currentDatetime = some s') : s'.Inv smppPduUnpack msgs items := by
  have hreached := h.reached
  rw [saveDbboxQMsgs] at hstep
  cases hpc : s.pc with
  | start =>
    rw [hpc] at hstep hreached
    obtain rfl := Option.some.inj hstep
    exact ⟨h.forward.start, h.dbbox, h.submits, h.order, h.records, h.logged, And.intro le_rfl hreached.2⟩
  | forward =>
    rw [hpc] at hstep hreached
    cases hand : s.forward.hand with
    | some msg =>
      simp only [hand] at hstep
      obtain rfl := Option.some.inj hstep
      exact h.saveForward hpc hand
    | none =>
      simp only [hand] at hstep
      split at hstep
      · next hrounds =>
        obtain rfl := Option.some.inj hstep
        exact ⟨h.forward, h.dbbox, h.submits, h.order, h.records, h.logged,
          And.intro (Drain.queue_eq_nil hreached.1 hrounds) ⟨hand, hreached.2⟩⟩
      · obtain rfl := Option.some.inj hstep
        exact ⟨h.forward.extract hand, h.dbbox, h.submits, h.order, h.records, h.logged,
          And.intro (Drain.length_extract hreached.1) hreached.2⟩
  | check =>
    rw [hpc] at hstep hreached
    simp only at hstep
    split at hstep
    · obtain rfl := Option.some.inj hstep
      exact ⟨h.forward, h.dbbox, h.submits, h.order, h.records, h.logged,
        And.intro hreached.1 ⟨hreached.2.1, hreached.2.2, fun hleft => absurd hleft (by decide)⟩⟩
    · split at hstep
      · next hempty =>
        obtain rfl := Option.some.inj hstep
        exact ⟨h.forward, h.dbbox, h.submits, h.order, h.records, h.logged,
          And.intro hreached.1 ⟨hreached.2.1, hreached.2.2, fun _ => hempty⟩⟩
      · obtain rfl := Option.some.inj hstep
        exact ⟨h.forward, h.dbbox.start, h.submits, h.order, h.records, h.logged,
          And.intro hreached.1 ⟨hreached.2.1, le_rfl⟩⟩
  | dbbox =>
    rw [hpc] at hstep hreached
    cases hand : s.dbbox.hand with
    | some item =>
      simp only [hand] at hstep
      obtain rfl := Option.some.inj hstep
      exact h.saveDbbox hpc hand
    | none =>
      simp only [hand] at hstep
      split at hstep
      · next hrounds =>
        obtain rfl := Option.some.inj hstep
        exact ⟨h.forward, h.dbbox, h.submits, h.order, h.records, h.logged,
          And.intro hreached.1 ⟨hreached.2.1, hand, fun _ => Drain.queue_eq_nil hreached.2.2 hrounds⟩⟩
      · obtain rfl := Option.some.inj hstep
        exact ⟨h.forward, h.dbbox.extract hand, h.submits, h.order, h.records, h.logged,
          And.intro hreached.1 ⟨hreached.2.1, Drain.length_extract hreached.2.2⟩⟩
  | returned left => simp [hpc] at hstep
  | crashed => simp [hpc] at hstep

theorem Inv.step (h : s.Inv smppPduUnpack msgs items) (hstep : saveStep smppPduUnpack s ev = some s') :
    s'.Inv smppPduUnpack msgs items := by
  cases ev with
  | save currentDatetime => exact h.save hstep
  | forwardTakes =>
    obtain ⟨-, hstep⟩ := Option.ite_none_right_eq_some.mp hstep
    obtain rfl := Option.some.inj hstep
    exact ⟨h.forward.take, h.dbbox, h.submits, h.order, h.records, h.logged, h.reached.forwardTakes⟩
  | dbboxTakes =>
    obtain ⟨-, hstep⟩ := Option.ite_none_right_eq_some.mp hstep
    obtain rfl := Option.some.inj hstep
    exact ⟨h.forward, h.dbbox.take, h.submits, h.order, h.records, h.logged, h.reached.dbboxTakes⟩
  | forwardStatus connected =>
    obtain rfl := Option.some.inj hstep
    exact ⟨h.forward, h.dbbox, h.submits, h.order, h.records, h.logged, h.reached⟩
  | dbboxStatus connected =>
    obtain rfl := Option.some.inj hstep
    exact ⟨h.forward, h.dbbox, h.submits, h.order, h.records, h.logged, h.reached⟩

end Saving

/-! ## The end of the shutdown

What has returned has looked through everything.  With both processes away nothing was taken or rejected, and
the order of the queues is the order of the records and of the log. -/

theorem Saving.inv_run {forwardConnected dbboxConnected : Bool}
    (hrun : exec (saveStep smppPduUnpack) (.start msgs items forwardConnected dbboxConnected) es = some s) :
    s.Inv smppPduUnpack msgs items :=
  exec_invariant_of_step (fun h hstep => Inv.step h hstep) (inv_start forwardConnected dbboxConnected) hrun

/-- The records, among what waits for the database process. -/
theorem filterMap_msg?_records (records : List InsertMisMsg) :
    (records.map fun record => DbboxItem.msg (.insertMis record)).filterMap DbboxItem.msg? =
      records.map .insertMis := by
  rw [List.filterMap_map]
  exact congrFun List.filterMap_eq_map' records

/-- **Every message has one fate**, whatever the threads and the connections do in the meantime: a submit that
waited for the SMSC process was sent, or recorded, or rejected, and none waits any more; a row or a record for
the database process was sent, or logged, or left to its client, which was connected. -/
theorem shutdown_accounts {forwardConnected dbboxConnected left : Bool}
    (hrun : exec (saveStep smppPduUnpack) (.start msgs items forwardConnected dbboxConnected) es = some s)
    (hpc : s.pc = .returned left) :
    (s.forward.taken.filterMap ForwardMsg.submit? ++ (s.recorded ++ s.rejected)).Perm
        (msgs.filterMap ForwardMsg.submit?) ∧
      s.forward.queue = [] ∧ List.Forall₂ (RecordOf smppPduUnpack) s.recorded s.records ∧
      (s.dbbox.taken.filterMap DbboxItem.msg? ++ s.logged ++ s.dbbox.queue.filterMap DbboxItem.msg?).Perm
        (items.filterMap DbboxItem.msg? ++ s.records.map .insertMis) ∧
      (left = false → s.dbbox.queue = []) := by
  have hinv := Saving.inv_run hrun
  have hreached : (SavePc.returned left).Reached s.forward s.dbbox := hpc ▸ hinv.reached
  obtain ⟨hqueue, hforward, hdbbox, hleft⟩ := hreached
  refine ⟨?_, hqueue, hinv.records, ?_, hleft⟩
  · have hperm := (hinv.forward.perm_of_empty hqueue hforward).filterMap ForwardMsg.submit?
    rw [List.filterMap_append] at hperm
    exact (hinv.submits.append_left _).trans hperm
  · have hperm := hinv.dbbox.perm.filterMap DbboxItem.msg?
    rw [Drain.ahead, hdbbox, Option.toList_none, List.append_nil, List.filterMap_append, List.filterMap_append,
      List.filterMap_append, filterMap_msg?_records, ← hinv.logged, ← List.append_assoc] at hperm
    exact hperm

/-- A PDU with nothing but the number it goes to. -/
def sampleUnpackTo (os : Octstr) : Option SubmitSm :=
  if os = [] then none
  else some
    { sequenceNumber := 1, sourceAddr := some (octstrImm "acme"), destinationAddr := some os, shortMessage := none }

/-- The message by which `main` registers, and two submits. -/
def sampleWaiting : List ForwardMsg :=
  .admin 1 (octstrImm "smpp-esme-forward") ::
    ["a1", "a2"].map fun id => .submit
      { sampleEmptyMsg with
        accountName := some (octstrImm "acme")
        accountMsgId := octstrImm id
        pdu := some (octstrImm "1234919876543210") }

/-- The thread of the client sends one submit, and the connection is lost while the other is in hand. -/
def sampleShutdown : List SaveEvent :=
  List.replicate 3 (.save (octstrImm "now")) ++ [.forwardTakes, .save (octstrImm "now"), .forwardStatus false] ++
    List.replicate 7 (.save (octstrImm "now"))

theorem shutdown_accounts_sampleShutdown :
    ∃ s, exec (saveStep sampleUnpackTo) (.start sampleWaiting [] true false) sampleShutdown = some s ∧
      (s.forward.taken.filterMap ForwardMsg.submit? ++ (s.recorded ++ s.rejected)).Perm
        (sampleWaiting.filterMap ForwardMsg.submit?) ∧
      s.logged.length = 1 ∧ s.dbbox.queue = [] := by
  have hrun : ∃ s, exec (saveStep sampleUnpackTo) (.start sampleWaiting [] true false) sampleShutdown = some s ∧
      s.pc = .returned false ∧ s.logged.length = 1 := ⟨_, rfl, rfl, rfl⟩
  obtain ⟨s, hrun, hpc, hlogged⟩ := hrun
  obtain ⟨hsubmits, -, -, -, hempty⟩ := shutdown_accounts hrun hpc
  exact ⟨s, hrun, hsubmits, hlogged, hempty rfl⟩

/-- Neither client has a connection, or had one. -/
structure Saving.Away (s : Saving) : Prop where
  forwardConnected : s.forwardConnected = false
  dbboxConnected : s.dbboxConnected = false
  forwardTaken : s.forward.taken = []
  dbboxTaken : s.dbbox.taken = []
  rejected : s.rejected = []
  pc : s.pc ≠ .returned true

/-- No connection comes. -/
def SaveEvent.StaysAway : SaveEvent → Prop
  | .forwardStatus connected | .dbboxStatus connected => connected = false
  | .save _ | .forwardTakes | .dbboxTakes => True

/-- What the loops do takes nothing and rejects nothing. -/
theorem Saving.Away.move (h : s.Away) {forward : Drain ForwardMsg} {dbbox : Drain DbboxItem} {pc : SavePc}
    {recorded : List SubmitMsg} {records : List InsertMisMsg} {logged : List DbboxMsg}
    (hforward : forward.taken = s.forward.taken) (hdbbox : dbbox.taken = s.dbbox.taken) (hpc : pc ≠ .returned true) :
    ({ s with forward, dbbox, pc, recorded, records, logged } : Saving).Away :=
  ⟨h.forwardConnected, h.dbboxConnected, hforward.trans h.forwardTaken, hdbbox.trans h.dbboxTaken, h.rejected, hpc⟩

theorem Saving.Away.saveForward (h : s.Away) (msg : ForwardMsg) :
    (s.saveForward smppPduUnpack currentDatetime msg).Away := by
  cases msg with
  | admin command connId => exact h.move rfl rfl h.pc
  | submit msg =>
    rw [Saving.saveForward]
    split
    · exact h.move rfl rfl (by simp)
    · rw [if_neg (by simp [h.forwardConnected])]
      exact h.move rfl rfl h.pc

theorem Saving.Away.step (h : s.Away) (hev : ev.StaysAway) (hstep : saveStep smppPduUnpack s ev = some s') :
    s'.Away := by
  cases ev with
  | save currentDatetime =>
    rw [saveStep, saveDbboxQMsgs] at hstep
    split at hstep
    · obtain rfl := Option.some.inj hstep
      exact h.move rfl rfl (by simp)
    · split at hstep
      · obtain rfl := Option.some.inj hstep
        exact h.saveForward _
      · split at hstep <;> obtain rfl := Option.some.inj hstep
        · exact h.move rfl rfl (by simp)
        · exact h.move rfl rfl h.pc
    · rw [if_neg (by simp [h.dbboxConnected])] at hstep
      split at hstep <;> obtain rfl := Option.some.inj hstep
      · exact h.move rfl rfl (by simp)
      · exact h.move rfl rfl (by simp)
    · split at hstep
      · obtain rfl := Option.some.inj hstep
        exact h.move rfl rfl h.pc
      · split at hstep <;> obtain rfl := Option.some.inj hstep
        · exact h.move rfl rfl (by simp)
        · exact h.move rfl rfl h.pc
    · cases hstep
    · cases hstep
  | forwardTakes =>
    obtain ⟨⟨hconnected, -⟩, -⟩ := Option.ite_none_right_eq_some.mp hstep
    exact absurd hconnected (by simp [h.forwardConnected])
  | dbboxTakes =>
    obtain ⟨⟨hconnected, -⟩, -⟩ := Option.ite_none_right_eq_some.mp hstep
    exact absurd hconnected (by simp [h.dbboxConnected])
  | forwardStatus connected =>
    obtain rfl := Option.some.inj hstep
    exact ⟨hev, h.dbboxConnected, h.forwardTaken, h.dbboxTaken, h.rejected, h.pc⟩
  | dbboxStatus connected =>
    obtain rfl := Option.some.inj hstep
    exact ⟨h.forwardConnected, hev, h.forwardTaken, h.dbboxTaken, h.rejected, h.pc⟩

/-- **With both processes away, everything is saved**: every submit is recorded, in order, and every row and
every record is in the log, the records behind what was there before. -/
theorem shutdown_saves_everything {left : Bool} (haway : ∀ ev ∈ es, ev.StaysAway)
    (hrun : exec (saveStep smppPduUnpack) (.start msgs items false false) es = some s) (hpc : s.pc = .returned left) :
    List.Forall₂ (RecordOf smppPduUnpack) (msgs.filterMap ForwardMsg.submit?) s.records ∧
      s.logged = items.filterMap DbboxItem.msg? ++ s.records.map .insertMis ∧
      s.forward.queue = [] ∧ s.dbbox.queue = [] := by
  have hinv := Saving.inv_run hrun
  have hstart : (Saving.start msgs items false false).Away := ⟨rfl, rfl, rfl, rfl, rfl, by simp [Saving.start]⟩
  have hend : s.Away := exec_invariant (fun h hev hstep => h.step hev hstep) hstart
    (along_of_mem (fun ev hev _ => haway ev hev) _) hrun
  obtain rfl : left = false := by
    cases left with
    | false => rfl
    | true => exact absurd hpc hend.pc
  have hreached : (SavePc.returned false).Reached s.forward s.dbbox := hpc ▸ hinv.reached
  obtain ⟨hqueue, hforward, hdbbox, hempty⟩ := hreached
  have hmsgs := hinv.forward.dealt_eq hqueue hforward hend.forwardTaken
  have hitems := hinv.dbbox.dealt_eq (hempty rfl) hdbbox hend.dbboxTaken
  have hrecorded : s.recorded = msgs.filterMap ForwardMsg.submit? := by
    have hperm := hinv.submits
    rw [hend.rejected, List.append_nil] at hperm
    rw [← hmsgs]
    exact hinv.order.eq_of_length hperm.length_eq
  refine ⟨hrecorded ▸ hinv.records, ?_, hqueue, hempty rfl⟩
  rw [hinv.logged, hitems, List.filterMap_append, filterMap_msg?_records]

theorem shutdown_saves_everything_sampleWaiting :
    ∃ s, exec (saveStep sampleUnpackTo) (.start sampleWaiting [] false false)
        (List.replicate 14 (.save (octstrImm "now"))) = some s ∧
      List.Forall₂ (RecordOf sampleUnpackTo) (sampleWaiting.filterMap ForwardMsg.submit?) s.records ∧
      s.logged = s.records.map .insertMis ∧ s.records.length = 2 := by
  have hrun : ∃ s, exec (saveStep sampleUnpackTo) (.start sampleWaiting [] false false)
      (List.replicate 14 (.save (octstrImm "now"))) = some s ∧ s.pc = .returned false ∧ s.records.length = 2 :=
    ⟨_, rfl, rfl, rfl⟩
  have haway : ∀ ev ∈ List.replicate 14 (SaveEvent.save (octstrImm "now")), ev.StaysAway := fun ev hev => by
    rw [List.eq_of_mem_replicate hev]
    trivial
  obtain ⟨s, hrun, hpc, hlength⟩ := hrun
  obtain ⟨hrecords, hlogged, -, -⟩ := shutdown_saves_everything haway hrun hpc
  exact ⟨s, hrun, hrecords, hlogged, hlength⟩

/-! ## It returns

Each of its own steps lowers `stepsLeft`; the steps of the other threads may raise it by no more than what they
do to the queues. -/

/-- The steps that `save_dbbox_q_msgs` has still to take, at most. -/
def Saving.stepsLeft (s : Saving) : ℕ :=
  match s.pc with
  | .start => 4 * s.forward.queue.length + 2 * s.dbbox.queue.length + 4
  | .forward => 4 * s.forward.rounds + 3 * s.forward.hand.toList.length + 2 * s.dbbox.queue.length + 3
  | .check => 2 * s.dbbox.queue.length + 2
  | .dbbox => 2 * s.dbbox.rounds + s.dbbox.hand.toList.length + 1
  | .returned _ | .crashed => 0

end Fates

end SmppServer.SmppEsme
