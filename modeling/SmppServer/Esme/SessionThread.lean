import SmppServer.Machinery.Exec
import SmppServer.Esme.UpdateInfo
import SmppServer.Esme.Registry

/-!
# Esme/SessionThread — what a session thread reads and writes

After the bind `receive_smpp_thread` reads the PDUs of its client and answers them, writes the receipts that
other threads put in `data_to_write`, and sends an `enquire_link` when nothing was sent for a while.  When the
session is to end it sends an `unbind`, reads on until that is answered, and destroys the session.

What `smpp_pdu_unpack` makes of a receipt is a parameter; whether `handle_submit_sm` accepts a message is part of
the event.  A `submit_sm` of a receiver, and a receipt of which no `deliver_sm` can be made, crash the process.

* `session_conversation` — each request is answered once, in order and under its number; the receipts leave in
  the order in which they were queued; what the server asks is numbered without a gap, from the number of the
  bind itself.
* `unbinding_session_loses_receipts` — once the server has sent its `unbind`, no receipt leaves any more, and
  those still queued go to `octstr_destroy`, which they are none for.
-/

namespace SmppServer.SessionThread

open Machinery SmppEsme SmppSmsc

/-! ## PDUs

Of a PDU only its type, its number and its status matter here.  The answers have the number of the request. -/

/-- The PDUs of a client that `handlers` knows, and the others. -/
inductive PduType
  | genericNack
  | enquireLink
  | enquireLinkResp
  | submitSm
  | deliverSmResp
  | unbind
  | unbindResp
  | cancelSm
  | replaceSm
  | querySm
  | other (commandId : ℕ)
  deriving DecidableEq, Repr

/-- A PDU that was read, with the status that `handle_submit_sm` gives it if it is a `submit_sm`. -/
structure Pdu where
  type : PduType
  sequenceNumber : ℕ
  submitStatus : ℕ := 0
  deriving DecidableEq, Repr

/-- The types of answers. -/
inductive RespType
  | enquireLinkResp
  | submitSmResp
  | unbindResp
  | cancelSmResp
  | replaceSmResp
  | querySmResp
  | genericNack
  deriving DecidableEq, Repr

/-- An answer. -/
structure Resp where
  type : RespType
  sequenceNumber : ℕ
  commandStatus : ℕ
  deriving DecidableEq, Repr

/-- What `smpp_pdu_unpack` makes of a receipt; nothing but a `deliver_sm` is looked into. -/
inductive Unpacked
  | deliverSm (pdu : DeliverSm)
  | other (os : Octstr)
  deriving DecidableEq, Repr

/-- What is passed to `conn_write`. -/
inductive Sent
  | resp (r : Resp)
  | enquireLink (sequenceNumber : UInt64)
  | unbind (sequenceNumber : UInt64)
  | deliverSm (sequenceNumber : UInt64) (pdu : DeliverSm)
  | other (os : Octstr)
  deriving DecidableEq, Repr

/-- `octstr_from_position(os, 4)` and `smpp_pdu_unpack`. -/
structure UnpackLib where
  unpack : Option Octstr → Option Unpacked

/-! ## The session

One handler for each type, as in the table `handlers`; what is sent, read and taken is noted in order. -/

/-- Where the thread is: before `conn_wait`, before `send_enquire_link`, reading, in `write_esme_conn` with PDUs
left to read or without, waiting for the `unbind_resp`, at `error:`, or gone. -/
inductive Pc
  | waiting
  | enquiring
  | reading
  | writing (again : Bool)
  | unbinding
  | error
  | gone
  deriving DecidableEq, Repr

/-- A session with its thread, which serves an `ESME_TX` or an `ESME_RX`.  What was sent, read, queued, taken from
the queue and destroyed in it is recorded and looked at by nobody; `crashed` says that the process is no more. -/
structure Serving where
  kind : Kind
  pc : Pc := .waiting
  status : EsmeStatus
  quit : ℤ := 0
  seqNumberCounter : UInt64
  dataToWrite : List MsgDeliver := []
  lastEnquireSent : ℤ
  sent : List Sent := []
  read : List Pdu := []
  produced : List MsgDeliver := []
  taken : List MsgDeliver := []
  destroyed : List MsgDeliver := []
  crashed : Bool := false
  deriving DecidableEq, Repr

/-- What `read_pdu` finds: a PDU, none so far, or none any more. -/
inductive ReadPdu
  | pdu (p : Pdu)
  | nothing
  | broken
  deriving DecidableEq, Repr

/-- What happens in a session: another thread queues a receipt or writes the status, or the thread goes on. -/
inductive Event
  | produce (m : MsgDeliver)
  | setStatus (status : EsmeStatus)
  | connWait (ok : Bool)
  | enquire (now : ℤ)
  | readPdu (r : ReadPdu)
  | write
  | unbindPdu (p : Pdu)
  | unbindOver
  | destroy
  deriving DecidableEq, Repr

/-! ### Handlers

`handle_pdu` looks its PDU up in the table `handlers`.  A handler changes the session at most in its `status` or its
`quit`, which are there in an `ESME_TX` and in an `ESME_RX`; only `handle_submit_sm` takes the one for the other. -/

/-- A handler: its answer, and what it does to the session. -/
abbrev Handler := Pdu → Serving → Option Resp × Serving

/-- `handle_generic_nack`, `handle_enquire_link_resp` and `handle_deliver_sm_resp`. -/
def handleNothing : Handler := fun _ s => (none, s)

/-- `handle_enquire_link`. -/
def handleEnquireLink : Handler := fun pdu s => (some ⟨.enquireLinkResp, pdu.sequenceNumber, 0⟩, s)

/-- `handle_submit_sm`, as far as the answer goes.  On a receiver session it looks for the `client_ip` of an `ESME_TX`
and finds the number of a thread. -/
def handleSubmitSm : Handler := fun pdu s =>
  match s.kind with
  | .tx => (some ⟨.submitSmResp, pdu.sequenceNumber, pdu.submitStatus⟩, s)
  | .rx => (none, { s with crashed := true })

/-- `handle_unbind`. -/
def handleUnbind : Handler := fun pdu s =>
  (some ⟨.unbindResp, pdu.sequenceNumber, 0⟩, { s with status := .unconnected })

/-- `handle_unbind_resp`. -/
def handleUnbindResp : Handler := fun _ s => (none, { s with quit := 1 })

/-- `handle_cancel_sm`, with `SMPP_ESME_RCANCELFAIL`. -/
def handleCancelSm : Handler := fun pdu s => (some ⟨.cancelSmResp, pdu.sequenceNumber, 0x11⟩, s)

/-- `handle_replace_sm`, with `SMPP_ESME_RREPLACEFAIL`. -/
def handleReplaceSm : Handler := fun pdu s => (some ⟨.replaceSmResp, pdu.sequenceNumber, 0x13⟩, s)

/-- `handle_query_sm`, with `SMPP_ESME_RQUERYFAIL`. -/
def handleQuerySm : Handler := fun pdu s => (some ⟨.querySmResp, pdu.sequenceNumber, 0x67⟩, s)

/-- `handlers`. -/
def handlers : List (PduType × Handler) :=
  [(.genericNack, handleNothing), (.enquireLink, handleEnquireLink), (.enquireLinkResp, handleNothing),
    (.submitSm, handleSubmitSm), (.deliverSmResp, handleNothing), (.unbind, handleUnbind),
    (.unbindResp, handleUnbindResp), (.cancelSm, handleCancelSm), (.replaceSm, handleReplaceSm),
    (.querySm, handleQuerySm)]

/-- A PDU is passed to `conn_write`. -/
def Serving.connWrite (s : Serving) (pdu : Sent) : Serving := { s with sent := s.sent ++ [pdu] }

/-- `handle_pdu`; for a type it does not know, a `generic_nack` with `SMPP_ESME_RINVCMDID`. -/
def handlePdu (pdu : Pdu) (s : Serving) : Serving :=
  let s := { s with read := s.read ++ [pdu] }
  match handlers.find? fun h => h.1 = pdu.type with
  | some (_, handler) =>
    match handler pdu s with
    | (some resp, s') => if pdu.type = .genericNack then s' else s'.connWrite (.resp resp)
    | (none, s') => s'
  | none => s.connWrite (.resp ⟨.genericNack, pdu.sequenceNumber, 0x03⟩)

/-! ### The thread -/

section Thread

variable (lib : UnpackLib) (enquireLinkInterval : ℤ)

/-- `send_enquire_link`. -/
def sendEnquireLink (now : ℤ) (s : Serving) : Serving :=
  if now - s.lastEnquireSent < enquireLinkInterval then s
  else
    { s.connWrite (.enquireLink s.seqNumberCounter) with
      lastEnquireSent := now
      seqNumberCounter := s.seqNumberCounter + 1 }

/-- `send_unbind`. -/
def sendUnbind (s : Serving) : Serving :=
  { s.connWrite (.unbind s.seqNumberCounter) with seqNumberCounter := s.seqNumberCounter + 1 }

/-- The `deliver_sm` that `update_info` makes of a receipt.  There is none if it reads what is not there, or if
it destroys the payload that it has read the text in. -/
def delivered (pdu : DeliverSm) (accountMsgId : Option Octstr) : Option DeliverSm :=
  if (pdu.shortMessage.getD []).length = 0 ∧ pdu.messagePayload.isSome then none
  else (updateInfo pdu (octstrGetCstr accountMsgId)).map fun r => { r.2 with receiptedMessageId := accountMsgId }

/-- A round of the loop of `write_esme_conn`, with a receipt.  The `strcpy` of its ids into a `db_extract` that nothing
reads is left out; the structure is not in the sources. -/
def writeReceipt (m : MsgDeliver) (s : Serving) : Serving :=
  match lib.unpack m.os with
  | none => s
  | some (.other os) => s.connWrite (.other os)
  | some (.deliverSm pdu) =>
    match delivered pdu m.accountMsgId with
    | none => { s with crashed := true }
    | some pdu' =>
      { s.connWrite (.deliverSm s.seqNumberCounter pdu') with
        seqNumberCounter := s.seqNumberCounter + 1 }

/-- **One step of a session.** -/
def sessionStep (s : Serving) : Event → Option Serving
  | .produce m =>
    if s.crashed ∨ s.pc = .gone then none
    else some { s with dataToWrite := s.dataToWrite ++ [m], produced := s.produced ++ [m] }
  | .setStatus status => if s.crashed ∨ s.pc = .gone then none else some { s with status := status }
  | .connWait ok =>
    if s.crashed ∨ s.pc ≠ .waiting then none
    else if ok = false then some { s with pc := .error }
    else if s.status = .disconnect ∨ s.status = .sendUnbind then some { sendUnbind s with pc := .unbinding }
    else some { s with pc := .enquiring }
  | .enquire now =>
    if s.crashed ∨ s.pc ≠ .enquiring then none
    else if s.status = .binded ∨ s.status = .smscUnconnected then
      some { sendEnquireLink enquireLinkInterval now s with pc := .reading }
    else some { s with pc := .reading }
  | .readPdu r =>
    if s.crashed ∨ s.pc ≠ .reading then none
    else match r with
      | .pdu p => some { handlePdu p s with pc := .writing true }
      | .nothing => some { s with pc := if s.status = .unconnected then .error else .writing false }
      | .broken => some { s with pc := .error }
  | .write =>
    if s.crashed then none
    else match s.pc with
      | .writing again =>
        match s.dataToWrite with
        | [] => some { s with pc := if again then .enquiring else .waiting }
        | m :: rest => some (writeReceipt lib m { s with dataToWrite := rest, taken := s.taken ++ [m] })
      | _ => none
  | .unbindPdu p =>
    if s.crashed ∨ s.pc ≠ .unbinding ∨ s.quit = 1 then none else some (handlePdu p s)
  | .unbindOver => if s.crashed ∨ s.pc ≠ .unbinding then none else some { s with pc := .error }
  | .destroy =>
    if s.crashed ∨ s.pc ≠ .error then none
    else some { s with pc := .gone, dataToWrite := [], destroyed := s.dataToWrite }

/-- The session after its bind. -/
def Serving.start (kind : Kind) (status : EsmeStatus) (bindNumber : UInt64) (now : ℤ) : Serving where
  kind := kind
  status := status
  seqNumberCounter := bindNumber
  lastEnquireSent := now

end Thread

/-! ## The conversation

What was sent falls into three parts: the answers, the receipts, and what has a number of its own, the receipts among
it.  Each part is a function of what was read or taken from the queue, so that it grows with every step. -/

/-- The number of a PDU that asks for an answer. -/
def Sent.number : Sent → Option UInt64
  | .enquireLink n | .unbind n | .deliverSm n _ => some n
  | _ => none

/-- The answer to a PDU of the client. -/
def Sent.answer : Sent → Option Resp
  | .resp r => some r
  | _ => none

/-- The receipt in a PDU. -/
def Sent.receipt : Sent → Option Unpacked
  | .deliverSm _ pdu => some (.deliverSm pdu)
  | .other os => some (.other os)
  | _ => none

/-- How a PDU is to be answered; what is an answer itself is not. -/
def answerType : PduType → Option RespType
  | .genericNack | .enquireLinkResp | .deliverSmResp | .unbindResp => none
  | .enquireLink => some .enquireLinkResp
  | .submitSm => some .submitSmResp
  | .unbind => some .unbindResp
  | .cancelSm => some .cancelSmResp
  | .replaceSm => some .replaceSmResp
  | .querySm => some .querySmResp
  | .other _ => some .genericNack

/-- The status of the answer. -/
def Pdu.commandStatus (p : Pdu) : ℕ :=
  match p.type with
  | .submitSm => p.submitStatus
  | .cancelSm => 0x11
  | .replaceSm => 0x13
  | .querySm => 0x67
  | .other _ => 0x03
  | _ => 0

/-- A PDU that `handle_pdu` does not survive. -/
def Fatal (kind : Kind) (p : Pdu) : Prop := kind = .rx ∧ p.type = .submitSm

instance (kind : Kind) (p : Pdu) : Decidable (Fatal kind p) := instDecidableAnd

/-- The answer to a PDU. -/
def answerOf (kind : Kind) (p : Pdu) : Option Resp :=
  if Fatal kind p then none else (answerType p.type).map (⟨·, p.sequenceNumber, p.commandStatus⟩)

variable (lib : UnpackLib)

/-- What is written for a receipt. -/
def written (m : MsgDeliver) : Option Unpacked :=
  match lib.unpack m.os with
  | none => none
  | some (.other os) => some (.other os)
  | some (.deliverSm pdu) => (delivered pdu m.accountMsgId).map .deliverSm

/-- A receipt that `write_esme_conn` does not survive. -/
def Deadly (m : MsgDeliver) : Prop :=
  ∃ pdu, lib.unpack m.os = some (.deliverSm pdu) ∧ delivered pdu m.accountMsgId = none

/-- Numbers that follow each other. -/
def numbersFrom (start : UInt64) : ℕ → List UInt64
  | 0 => []
  | n + 1 => start :: numbersFrom (start + 1) n

/-- How many PDUs have a number of their own. -/
def numbered (xs : List Sent) : ℕ := (xs.filterMap Sent.number).length

/-- **What a session does**: `xs` are the PDUs it sent meanwhile, `ps` those it read, `ms` the receipts it took
from its queue and `new` those that were queued. -/
structure Grows (xs : List Sent) (ps : List Pdu) (ms new : List MsgDeliver) (s s' : Serving) : Prop where
  kind : s'.kind = s.kind
  sent : s'.sent = s.sent ++ xs
  read : s'.read = s.read ++ ps
  taken : s'.taken = s.taken ++ ms
  produced : s'.produced = s.produced ++ new
  queue : ms ++ (s'.destroyed ++ s'.dataToWrite) = s.destroyed ++ s.dataToWrite ++ new
  answers : xs.filterMap Sent.answer = ps.filterMap (answerOf s.kind)
  receipts : xs.filterMap Sent.receipt = ms.filterMap (written lib)
  numbers : xs.filterMap Sent.number = numbersFrom s.seqNumberCounter (numbered xs)
  counter : s'.seqNumberCounter = s.seqNumberCounter + UInt64.ofNat (numbered xs)
  crashed : s'.crashed = true ↔ s.crashed = true ∨ (∃ p ∈ ps, Fatal s.kind p) ∨ ∃ m ∈ ms, Deadly lib m

variable {lib} {s s' s'' : Serving} {xs xs' : List Sent} {ps ps' : List Pdu} {ms ms' new new' : List MsgDeliver}

theorem numbersFrom_add (start : UInt64) (m n : ℕ) :
    numbersFrom start (m + n) = numbersFrom start m ++ numbersFrom (start + UInt64.ofNat m) n := by
  induction m generalizing start with
  | zero => simp [numbersFrom]
  | succ m ih =>
    have hstart : start + 1 + UInt64.ofNat m = start + UInt64.ofNat (m + 1) := by
      rw [UInt64.ofNat_add, UInt64.add_comm (UInt64.ofNat m), ← UInt64.add_assoc]
      rfl
    rw [Nat.add_right_comm, numbersFrom, ih, numbersFrom, List.cons_append, hstart]

theorem numbered_append (xs xs' : List Sent) : numbered (xs ++ xs') = numbered xs + numbered xs' := by
  rw [numbered, List.filterMap_append, List.length_append]
  rfl

theorem Grows.refl (s : Serving) : Grows lib [] [] [] [] s s where
  kind := rfl
  sent := (List.append_nil _).symm
  read := (List.append_nil _).symm
  taken := (List.append_nil _).symm
  produced := (List.append_nil _).symm
  queue := by simp
  answers := rfl
  receipts := rfl
  numbers := rfl
  counter := (UInt64.add_zero _).symm
  crashed := by simp

theorem Grows.trans (h : Grows lib xs ps ms new s s') (h' : Grows lib xs' ps' ms' new' s' s'') :
    Grows lib (xs ++ xs') (ps ++ ps') (ms ++ ms') (new ++ new') s s'' where
  kind := h'.kind.trans h.kind
  sent := by rw [h'.sent, h.sent, List.append_assoc]
  read := by rw [h'.read, h.read, List.append_assoc]
  taken := by rw [h'.taken, h.taken, List.append_assoc]
  produced := by rw [h'.produced, h.produced, List.append_assoc]
  queue := by rw [List.append_assoc, h'.queue, ← List.append_assoc, h.queue, List.append_assoc]
  answers := by rw [List.filterMap_append, List.filterMap_append, h.answers, h'.answers, h.kind]
  receipts := by rw [List.filterMap_append, List.filterMap_append, h.receipts, h'.receipts]
  numbers := by
    rw [List.filterMap_append, h.numbers, h'.numbers, numbered_append, numbersFrom_add, h.counter]
  counter := by rw [h'.counter, h.counter, numbered_append, UInt64.ofNat_add, UInt64.add_assoc]
  crashed := by
    rw [h'.crashed, h.crashed, h.kind]
    simp only [List.mem_append, or_and_right, exists_or]
    rw [or_assoc, or_or_or_comm]

/-- What the thread does next, and the status, are no part of it. -/
theorem Grows.frame (h : Grows lib xs ps ms new s s') (pc : Pc) (status : EsmeStatus) (quit last : ℤ) :
    Grows lib xs ps ms new s { s' with pc := pc, status := status, quit := quit, lastEnquireSent := last } :=
  ⟨h.kind, h.sent, h.read, h.taken, h.produced, h.queue, h.answers, h.receipts, h.numbers, h.counter, h.crashed⟩

/-- A PDU with a number of its own is written. -/
theorem grows_numbered {x : Sent} (hx : x.number = some s.seqNumberCounter) (ha : x.answer = none)
    (hr : x.receipt = none) :
    Grows lib [x] [] [] [] s { s.connWrite x with seqNumberCounter := s.seqNumberCounter + 1 } := by
  have hn : [x].filterMap Sent.number = [s.seqNumberCounter] := by
    rw [List.filterMap_cons_some hx, List.filterMap_nil]
  have hone : numbered [x] = 1 := congrArg List.length hn
  exact
    { Grows.refl s with
      sent := rfl
      answers := List.filterMap_cons_none ha
      receipts := List.filterMap_cons_none hr
      numbers := by rw [hn, hone]; rfl
      counter := by rw [hone]; rfl }

variable (lib) in
theorem grows_sendUnbind (s : Serving) : ∃ xs, Grows lib xs [] [] [] s (sendUnbind s) :=
  ⟨_, grows_numbered rfl rfl rfl⟩

variable (lib) in
theorem grows_sendEnquireLink (interval now : ℤ) (s : Serving) :
    ∃ xs, Grows lib xs [] [] [] s (sendEnquireLink interval now s) := by
  rw [sendEnquireLink]
  split
  · exact ⟨_, Grows.refl s⟩
  · exact ⟨_, (grows_numbered (s := s) rfl rfl rfl).frame s.pc s.status s.quit now⟩

/-- **A PDU is handled**: it is answered as it is to be. -/
theorem handlePdu_eq (p : Pdu) (s : Serving) :
    ∃ status quit, handlePdu p s =
      { s with
        read := s.read ++ [p], sent := s.sent ++ (answerOf s.kind p).toList.map .resp, status := status, quit := quit,
        crashed := s.crashed || decide (Fatal s.kind p) } := by
  obtain ⟨type, n, submitStatus⟩ := p
  obtain ⟨kind⟩ := s
  cases kind <;> cases type <;>
    simp only [handlePdu, handlers, answerOf, answerType, Fatal, Pdu.commandStatus, List.find?_cons,
      List.find?_nil, reduceCtorEq, decide_true, decide_false, handleNothing, handleEnquireLink, handleSubmitSm,
      handleUnbind, handleUnbindResp, handleCancelSm, handleReplaceSm, handleQuerySm, Serving.connWrite,
      Option.map_some, Option.map_none, Option.toList_some, Option.toList_none, List.map_cons, List.map_nil,
      List.append_nil, if_false, if_true, and_true, and_false, Bool.or_false, Bool.or_true] <;>
    exact ⟨_, _, rfl⟩

variable (lib) in
theorem grows_handlePdu (p : Pdu) (s : Serving) : ∃ xs, Grows lib xs [p] [] [] s (handlePdu p s) := by
  obtain ⟨status, quit, heq⟩ := handlePdu_eq p s
  rw [heq]
  have hcrashed : (s.crashed || decide (Fatal s.kind p)) = true ↔
      s.crashed = true ∨ (∃ p' ∈ [p], Fatal s.kind p') ∨ ∃ m ∈ ([] : List MsgDeliver), Deadly lib m := by
    simp
  refine ⟨(answerOf s.kind p).toList.map .resp, ?_⟩
  cases hp : answerOf s.kind p with
  | none =>
    have hanswers : [p].filterMap (answerOf s.kind) = [] := List.filterMap_cons_none hp
    exact { Grows.refl s with sent := rfl, read := rfl, answers := hanswers.symm, crashed := hcrashed }
  | some r =>
    have hanswers : [p].filterMap (answerOf s.kind) = [r] := List.filterMap_cons_some hp
    exact { Grows.refl s with sent := rfl, read := rfl, answers := hanswers.symm, crashed := hcrashed }

/-- The first receipt is taken from the queue, and `xs` is sent for it. -/
theorem grows_take (xs : List Sent) (c : UInt64) (b : Bool) {m : MsgDeliver} {rest : List MsgDeliver}
    (hq : s.dataToWrite = m :: rest) (hd : s.destroyed = []) (ha : xs.filterMap Sent.answer = [])
    (hr : xs.filterMap Sent.receipt = (written lib m).toList)
    (hn : xs.filterMap Sent.number = numbersFrom s.seqNumberCounter (numbered xs))
    (hc : c = s.seqNumberCounter + UInt64.ofNat (numbered xs)) (hb : b = true ↔ s.crashed = true ∨ Deadly lib m) :
    Grows lib xs [] [m] [] s
      { s with
        dataToWrite := rest, taken := s.taken ++ [m], sent := s.sent ++ xs,
        seqNumberCounter := c, crashed := b } where
  kind := rfl
  sent := rfl
  read := (List.append_nil _).symm
  taken := rfl
  produced := (List.append_nil _).symm
  queue := by
    rw [hd, hq]
    simp
  answers := ha
  receipts := by
    rw [hr]
    cases hw : written lib m with
    | none => rw [List.filterMap_cons_none hw]; rfl
    | some u => rw [List.filterMap_cons_some hw]; rfl
  numbers := hn
  counter := hc
  crashed := by simpa using hb

variable (lib) in
/-- A receipt is taken from the queue, and written if that is possible. -/
theorem grows_writeReceipt {m : MsgDeliver} {rest : List MsgDeliver} (hq : s.dataToWrite = m :: rest)
    (hd : s.destroyed = []) :
    ∃ xs, Grows lib xs [] [m] [] s
      (writeReceipt lib m { s with dataToWrite := rest, taken := s.taken ++ [m] }) := by
  have hzero : s.seqNumberCounter = s.seqNumberCounter + UInt64.ofNat 0 := (UInt64.add_zero _).symm
  have hsurvived : ¬ Deadly lib m → (s.crashed = true ↔ s.crashed = true ∨ Deadly lib m) := by tauto
  rw [writeReceipt]
  cases hu : lib.unpack m.os with
  | none =>
    have hw : written lib m = none := by rw [written, hu]
    have hd' : ¬ Deadly lib m := fun ⟨_, hpdu, _⟩ => absurd (hu.symm.trans hpdu) (by simp)
    exact ⟨[], by simpa using grows_take [] _ s.crashed hq hd rfl (by rw [hw]; rfl) rfl hzero (hsurvived hd')⟩
  | some u =>
    cases u with
    | other os =>
      have hw : written lib m = some (.other os) := by rw [written, hu]
      have hd' : ¬ Deadly lib m := fun ⟨_, hpdu, _⟩ => absurd (hu.symm.trans hpdu) (by simp)
      exact ⟨[.other os], grows_take _ _ _ hq hd rfl (by rw [hw]; rfl) rfl hzero (hsurvived hd')⟩
    | deliverSm pdu =>
      dsimp only
      cases hp : delivered pdu m.accountMsgId with
      | none =>
        have hw : written lib m = none := by rw [written, hu]; dsimp only; rw [hp]; rfl
        have hdeadly : true = true ↔ s.crashed = true ∨ Deadly lib m := iff_of_true rfl (.inr ⟨pdu, hu, hp⟩)
        exact ⟨[], by simpa using grows_take [] _ true hq hd rfl (by rw [hw]; rfl) rfl hzero hdeadly⟩
      | some pdu' =>
        have hw : written lib m = some (.deliverSm pdu') := by rw [written, hu]; dsimp only; rw [hp]; rfl
        have hd' : ¬ Deadly lib m := by
          rintro ⟨pdu'', hpdu, hnone⟩
          obtain rfl : pdu = pdu'' := Unpacked.deliverSm.inj (Option.some.inj (hu.symm.trans hpdu))
          exact absurd (hp.symm.trans hnone) (by simp)
        exact ⟨[.deliverSm s.seqNumberCounter pdu'],
          grows_take _ _ _ hq hd rfl (by rw [hw]; rfl) rfl rfl (hsurvived hd')⟩

/-- The receipts are in the queue as long as the session is there, and destroyed afterwards. -/
structure Placed (s : Serving) : Prop where
  destroyed : s.pc ≠ .gone → s.destroyed = []
  dataToWrite : s.pc = .gone → s.dataToWrite = []

theorem destroyed_sendEnquireLink (interval now : ℤ) (s : Serving) :
    (sendEnquireLink interval now s).destroyed = s.destroyed := by
  rw [sendEnquireLink]
  split <;> rfl

theorem destroyed_handlePdu (p : Pdu) (s : Serving) : (handlePdu p s).destroyed = s.destroyed := by
  obtain ⟨status, quit, heq⟩ := handlePdu_eq p s
  rw [heq]

theorem taken_handlePdu (p : Pdu) (s : Serving) :
    (handlePdu p s).taken = s.taken ∧ (handlePdu p s).pc = s.pc := by
  obtain ⟨status, quit, heq⟩ := handlePdu_eq p s
  rw [heq]
  exact ⟨rfl, rfl⟩

variable (lib) in
theorem destroyed_writeReceipt (m : MsgDeliver) (s : Serving) :
    (writeReceipt lib m s).destroyed = s.destroyed ∧ (writeReceipt lib m s).pc = s.pc := by
  rw [writeReceipt]
  split
  · exact ⟨rfl, rfl⟩
  · exact ⟨rfl, rfl⟩
  · split <;> exact ⟨rfl, rfl⟩

variable (lib) in
/-- The conversation has grown, and the receipts are where they belong. -/
structure Advances (s s' : Serving) : Prop where
  placed : Placed s'
  grows : ∃ xs ps ms new, Grows lib xs ps ms new s s'

/-- A step after which the session is still there. -/
theorem Grows.advances (h : Grows lib xs ps ms new s s') (hd : s'.destroyed = []) (hpc : s'.pc ≠ .gone) :
    Advances lib s s' :=
  ⟨⟨fun _ => hd, fun hgone => absurd hgone hpc⟩, xs, ps, ms, new, h⟩

/-- A step that says nothing. -/
theorem advances_silent (hd : s.destroyed = []) {pc : Pc} (hpc : pc ≠ .gone) (status : EsmeStatus) :
    Advances lib s { s with pc := pc, status := status } :=
  ((Grows.refl s).frame pc status s.quit s.lastEnquireSent).advances hd hpc

variable {interval : ℤ} {e : Event}

theorem advances_produce {m : MsgDeliver} (hs : Placed s) (h : sessionStep lib interval s (.produce m) = some s') :
    Advances lib s s' := by
  rw [sessionStep] at h
  obtain ⟨hpc, h⟩ := Option.ite_none_left_eq_some.mp h
  obtain rfl := Option.some.inj h
  have hgrows : Grows lib [] [] [] [m] s { s with dataToWrite := s.dataToWrite ++ [m], produced := s.produced ++ [m] } :=
    { Grows.refl s with produced := rfl, queue := (List.append_assoc s.destroyed s.dataToWrite [m]).symm }
  exact hgrows.advances (hs.destroyed fun hgone => hpc (.inr hgone)) fun hgone => hpc (.inr hgone)

theorem advances_setStatus {status : EsmeStatus} (hs : Placed s)
    (h : sessionStep lib interval s (.setStatus status) = some s') : Advances lib s s' := by
  rw [sessionStep] at h
  obtain ⟨hpc, h⟩ := Option.ite_none_left_eq_some.mp h
  obtain rfl := Option.some.inj h
  have halive : s.pc ≠ .gone := fun hgone => hpc (.inr hgone)
  exact advances_silent (hs.destroyed halive) halive status

/-- Where a thread that goes on stands, if it stands anywhere but at its end. -/
theorem eq_of_enabled {pc : Pc} {x : Option Serving} (h : (if s.crashed ∨ s.pc ≠ pc then none else x) = some s') :
    s.pc = pc ∧ x = some s' := by
  obtain ⟨hpc, h⟩ := Option.ite_none_left_eq_some.mp h
  exact ⟨by_contra fun hne => hpc (.inr hne), h⟩

theorem advances_connWait {ok : Bool} (hs : Placed s) (h : sessionStep lib interval s (.connWait ok) = some s') :
    Advances lib s s' := by
  rw [sessionStep] at h
  obtain ⟨hpc, h⟩ := eq_of_enabled h
  have hd : s.destroyed = [] := hs.destroyed (by simp [hpc])
  split at h
  · obtain rfl := Option.some.inj h
    exact advances_silent hd (by simp) s.status
  split at h
  · obtain rfl := Option.some.inj h
    obtain ⟨xs, hg⟩ := grows_sendUnbind lib s
    exact (hg.frame .unbinding s.status s.quit s.lastEnquireSent).advances hd (by simp)
  · obtain rfl := Option.some.inj h
    exact advances_silent hd (by simp) s.status

theorem advances_enquire {now : ℤ} (hs : Placed s) (h : sessionStep lib interval s (.enquire now) = some s') :
    Advances lib s s' := by
  rw [sessionStep] at h
  obtain ⟨hpc, h⟩ := eq_of_enabled h
  have hd : s.destroyed = [] := hs.destroyed (by simp [hpc])
  split at h
  · obtain rfl := Option.some.inj h
    obtain ⟨xs, hg⟩ := grows_sendEnquireLink lib interval now s
    exact (hg.frame .reading _ _ _).advances ((destroyed_sendEnquireLink interval now s).trans hd) (by simp)
  · obtain rfl := Option.some.inj h
    exact advances_silent hd (by simp) s.status

theorem advances_readPdu {r : ReadPdu} (hs : Placed s) (h : sessionStep lib interval s (.readPdu r) = some s') :
    Advances lib s s' := by
  rw [sessionStep.eq_def] at h
  obtain ⟨hpc, h⟩ := eq_of_enabled h
  have hd : s.destroyed = [] := hs.destroyed (by simp [hpc])
  cases r with
  | pdu p =>
    obtain rfl := Option.some.inj h
    obtain ⟨xs, hg⟩ := grows_handlePdu lib p s
    exact (hg.frame (.writing true) _ _ _).advances ((destroyed_handlePdu p s).trans hd) (by simp)
  | nothing =>
    obtain rfl := Option.some.inj h
    exact advances_silent hd (by split <;> simp) s.status
  | broken =>
    obtain rfl := Option.some.inj h
    exact advances_silent hd (by simp) s.status

theorem advances_write (hs : Placed s) (h : sessionStep lib interval s .write = some s') : Advances lib s s' := by
  rw [sessionStep.eq_def] at h
  obtain ⟨-, h⟩ := Option.ite_none_left_eq_some.mp h
  split at h
  · rename_i again hpc
    have hd : s.destroyed = [] := hs.destroyed (by simp [hpc])
    split at h
    · obtain rfl := Option.some.inj h
      exact advances_silent hd (by split <;> simp) s.status
    · rename_i m rest hq
      obtain rfl := Option.some.inj h
      obtain ⟨xs, hg⟩ := grows_writeReceipt lib hq hd
      obtain ⟨hdestroyed, hpc'⟩ := destroyed_writeReceipt lib m
        { s with dataToWrite := rest, taken := s.taken ++ [m] }
      exact hg.advances (hdestroyed.trans hd) (by rw [hpc', hpc]; simp)
  · exact absurd h (by simp)

theorem advances_unbindPdu {p : Pdu} (hs : Placed s) (h : sessionStep lib interval s (.unbindPdu p) = some s') :
    Advances lib s s' := by
  rw [sessionStep] at h
  obtain ⟨hpc, h⟩ := Option.ite_none_left_eq_some.mp h
  have hunbinding : s.pc = .unbinding := by_contra fun hne => hpc (.inr (.inl hne))
  obtain rfl := Option.some.inj h
  obtain ⟨xs, hg⟩ := grows_handlePdu lib p s
  have hd : s.destroyed = [] := hs.destroyed (by simp [hunbinding])
  exact hg.advances ((destroyed_handlePdu p s).trans hd) (by simp [(taken_handlePdu p s).2, hunbinding])

theorem advances_unbindOver (hs : Placed s) (h : sessionStep lib interval s .unbindOver = some s') :
    Advances lib s s' := by
  rw [sessionStep] at h
  obtain ⟨hpc, h⟩ := eq_of_enabled h
  obtain rfl := Option.some.inj h
  exact advances_silent (hs.destroyed (by simp [hpc])) (by simp) s.status

theorem advances_destroy (hs : Placed s) (h : sessionStep lib interval s .destroy = some s') : Advances lib s s' := by
  rw [sessionStep] at h
  obtain ⟨hpc, h⟩ := eq_of_enabled h
  have hd : s.destroyed = [] := hs.destroyed (by simp [hpc])
  obtain rfl := Option.some.inj h
  exact ⟨⟨fun hgone => absurd rfl hgone, fun _ => rfl⟩, [], [], [], [],
    { Grows.refl s with queue := by simp [hd] }⟩

/-- **One step of a session grows its conversation.** -/
theorem step_advances (h : sessionStep lib interval s e = some s') (hs : Placed s) : Advances lib s s' := by
  cases e with
  | produce m => exact advances_produce hs h
  | setStatus status => exact advances_setStatus hs h
  | connWait ok => exact advances_connWait hs h
  | enquire now => exact advances_enquire hs h
  | readPdu r => exact advances_readPdu hs h
  | write => exact advances_write hs h
  | unbindPdu p => exact advances_unbindPdu hs h
  | unbindOver => exact advances_unbindOver hs h
  | destroy => exact advances_destroy hs h

variable {es es' : List Event} {kind : Kind} {status : EsmeStatus} {number : UInt64} {now : ℤ}

theorem run_advances (h : exec (sessionStep lib interval) s es = some s') (hs : Placed s) : Advances lib s s' := by
  induction es generalizing s with
  | nil =>
    obtain rfl := Option.some.inj h
    exact ⟨hs, _, _, _, _, Grows.refl s⟩
  | cons e es ih =>
    obtain ⟨t, ht, hrest⟩ := exec_cons_eq_some.mp h
    obtain ⟨hplaced, xs, ps, ms, new, hg⟩ := step_advances ht hs
    obtain ⟨hplaced', xs', ps', ms', new', hg'⟩ := ih hrest hplaced
    exact ⟨hplaced', _, _, _, _, hg.trans hg'⟩

theorem placed_start : Placed (Serving.start kind status number now) := ⟨fun _ => rfl, fun _ => rfl⟩

/-- What a session did since its bind. -/
theorem grows_of_start (h : exec (sessionStep lib interval) (Serving.start kind status number now) es = some s) :
    Grows lib s.sent s.read s.taken s.produced (Serving.start kind status number now) s := by
  obtain ⟨-, xs, ps, ms, new, hg⟩ := run_advances h placed_start
  obtain rfl : s.sent = xs := hg.sent
  obtain rfl : s.read = ps := hg.read
  obtain rfl : s.taken = ms := hg.taken
  obtain rfl : s.produced = new := hg.produced
  exact hg

section Sample

/-- The text of a receipt. -/
def sampleText : Octstr :=
  octstrImm "id:17 sub:001 dlvrd:001 submit date:2401010101 done date:2401010102 stat:DELIVRD err:000 text:hi"

/-- A `deliver_sm` with the receipt, behind its length. -/
def samplePdu : Octstr :=
  [0, 0, 0, 5, 0, 0, 0, 0, 0, 0, 0, 1, 0, 1, 1] ++ octstrImm "919" ++ [0, 1, 1] ++ octstrImm "100" ++
    [0, 4, 0, 0, 0, 0, 0, 0, 0, 0, 96] ++ sampleText

/-- The receipt in the queue of a session. -/
def sampleDeliver : MsgDeliver where
  smscId := some (octstrImm "919")
  smscMsgId := some (octstrImm "17")
  accountMsgId := some (octstrImm "42")
  os := some ([0, 0, 0, 135] ++ samplePdu)

/-- The PDU as `smpp_pdu_unpack` sees it. -/
def sampleUnpack : UnpackLib where
  unpack os :=
    if os.map (·.drop 4) = some samplePdu then
      some (.deliverSm
        { smLength := 96, shortMessage := some sampleText, sourceAddr := some (octstrImm "919"),
          destinationAddr := some (octstrImm "100") })
    else none

end Sample

/-! ## The end of a session

Behind its loop the thread only reads and waits.  Nothing takes a receipt from the queue then, and what other
threads still put there is destroyed with it. -/

/-- The thread has left its loop. -/
def Leaving (s : Serving) : Prop := s.pc = .unbinding ∨ s.pc = .error ∨ s.pc = .gone

/-- **A thread that has left its loop takes no receipt any more.** -/
theorem leaving_step (h : sessionStep lib interval s e = some s') (hs : Leaving s) :
    Leaving s' ∧ s'.taken = s.taken := by
  rw [sessionStep.eq_def] at h
  cases e with
  | produce m =>
    dsimp only at h
    split at h
    · exact absurd h (by simp)
    · obtain rfl := Option.some.inj h
      exact ⟨hs, rfl⟩
  | setStatus status =>
    dsimp only at h
    split at h
    · exact absurd h (by simp)
    · obtain rfl := Option.some.inj h
      exact ⟨hs, rfl⟩
  | connWait ok =>
    obtain hpc | hpc | hpc := hs <;> exact absurd h (by simp [hpc])
  | enquire now =>
    obtain hpc | hpc | hpc := hs <;> exact absurd h (by simp [hpc])
  | readPdu r =>
    obtain hpc | hpc | hpc := hs <;> exact absurd h (by simp [hpc])
  | write =>
    obtain hpc | hpc | hpc := hs <;> exact absurd h (by simp [hpc])
  | unbindPdu p =>
    dsimp only at h
    split at h
    · exact absurd h (by simp)
    · obtain rfl := Option.some.inj h
      obtain ⟨htaken, hpc⟩ := taken_handlePdu p s
      exact ⟨hs.imp hpc.trans (Or.imp hpc.trans hpc.trans), htaken⟩
  | unbindOver =>
    dsimp only at h
    split at h
    · exact absurd h (by simp)
    · obtain rfl := Option.some.inj h
      exact ⟨.inr (.inl rfl), rfl⟩
  | destroy =>
    dsimp only at h
    split at h
    · exact absurd h (by simp)
    · obtain rfl := Option.some.inj h
      exact ⟨.inr (.inr rfl), rfl⟩

theorem leaving_run (h : exec (sessionStep lib interval) s es = some s') (hs : Leaving s) :
    Leaving s' ∧ s'.taken = s.taken :=
  exec_invariant_of_step (P := fun t => Leaving t ∧ t.taken = s.taken)
    (fun ht hstep => ⟨(leaving_step hstep ht.1).1, (leaving_step hstep ht.1).2.trans ht.2⟩) ⟨hs, rfl⟩ h

variable (lib interval kind status number now es es') in
/-- **A session that ends loses its receipts**: from the `unbind` of the server on, or after an error, whatever is in
the queue and whatever comes into it stays there, and goes to `octstr_destroy` when the session is destroyed. -/
theorem unbinding_session_loses_receipts {t : Serving}
    (h : exec (sessionStep lib interval) (Serving.start kind status number now) es = some s) (hs : Leaving s)
    (h' : exec (sessionStep lib interval) s es' = some t) :
    t.sent.filterMap Sent.receipt = s.sent.filterMap Sent.receipt ∧
      t.produced = s.taken ++ (t.destroyed ++ t.dataToWrite) ∧ (t.pc = .gone → t.dataToWrite = []) := by
  obtain ⟨hplaced, -⟩ := run_advances h placed_start
  obtain ⟨hplaced', xs, ps', ms', new, hg⟩ := run_advances h' hplaced
  have htaken := (leaving_run h' hs).2
  obtain rfl : ms' = [] := List.append_right_eq_self.mp (hg.taken ▸ htaken)
  have hproduced : s.produced = s.taken ++ (s.destroyed ++ s.dataToWrite) := (grows_of_start h).queue.symm
  refine ⟨?_, ?_, hplaced'.dataToWrite⟩
  · rw [hg.sent, List.filterMap_append, hg.receipts, List.filterMap_nil, List.append_nil]
  · have hqueue : t.destroyed ++ t.dataToWrite = s.destroyed ++ s.dataToWrite ++ new := hg.queue
    rw [hg.produced, hproduced, hqueue, List.append_assoc, List.append_assoc]

/-- A receipt that is queued while the session waits for the answer to its `unbind`. -/
theorem unbinding_session_loses_receipts_sample :
    ∃ s t, exec (sessionStep sampleUnpack 30) (Serving.start .tx .binded 5 0)
        [.setStatus .disconnect, .connWait true] = some s ∧
      exec (sessionStep sampleUnpack 30) s
        [.produce sampleDeliver, .unbindPdu ⟨.unbindResp, 5, 0⟩, .unbindOver, .destroy] = some t ∧
      t.destroyed = [sampleDeliver] ∧
      t.sent.filterMap Sent.receipt = s.sent.filterMap Sent.receipt ∧
      t.produced = s.taken ++ (t.destroyed ++ t.dataToWrite) ∧ (t.pc = .gone → t.dataToWrite = []) := by
  refine ⟨_, _, rfl, rfl, by decide +kernel, ?_⟩
  exact unbinding_session_loses_receipts sampleUnpack 30 [.setStatus .disconnect, .connWait true]
    [.produce sampleDeliver, .unbindPdu ⟨.unbindResp, 5, 0⟩, .unbindOver, .destroy] .tx .binded 5 0 rfl (.inl rfl) rfl

end SmppServer.SessionThread
