import SmppServer.Smsc.Moves

/-!
# Smsc/Receiver — the receiving thread of a connection

An SMSC with a transmit port and a receive port gets two `io_thread`s on one connection.  The one on
the receive port runs the same loop without its sending half: it sends no messages, cleans up nothing
and flushes nothing.  The fields of the connection are shared; the local variables are its own, so a
step takes the connection *with the thread that is running in it*.

* `rxThread_moves` — a step of the receiving thread moves messages only as a step of `io_thread` does.
-/

namespace SmppServer.SmppSmsc

/-- The connection as one of its threads sees it. -/
def SmscConn.withThread (conn : SmscConn) (thread : IoThread) : SmscConn :=
  { conn with thread := thread }

section Receiver

variable (lib : Gwlib) (cfg : ClientCfg)

/-- The opening of the receiving connection. -/
def rxEnter (opened : Bool) (now : ℤ) (q : Queues) (conn : SmscConn) : Queues × SmscConn :=
  if conn.data.quitting then ioEnter opened now q conn
  else (q, { (ioEnter opened now q conn).2 with mode := 2 })

/-- A PDU read on the receiving connection; nothing is sent behind it. -/
def rxReadPdu (pdu : Pdu) (now : ℤ) (q : Queues) (conn : SmscConn) : Option (Queues × SmscConn) :=
  match handlePdu lib cfg now q conn pdu with
  | none => none
  | some (q, conn) =>
    let conn := { conn with thread := { conn.thread with lastResponse := now } }
    if conn.status ≠ .active ∧ conn.status ≠ .activeRecv then some (q, conn.goto (.down true))
    else some (q, (sendEnquireLink now conn).goto .reading)

/-- Behind the reading loop there is only the connection time-out. -/
def rxCheckTimes (now : ℤ) (q : Queues) (conn : SmscConn) : Queues × SmscConn :=
  if 0 < conn.data.connectionTimeout ∧
      conn.data.connectionTimeout < now - conn.thread.lastResponse then
    (q, conn.goto (.down true))
  else (q, conn.goto .waiting)

/-- Behind the connection loop. -/
def rxDisconnect (connected : Bool) (q : Queues) (conn : SmscConn) : Queues × SmscConn :=
  (q, (ioDisconnect connected q conn).2.goto .after)

/-- **One step of the receiving `io_thread`.** -/
def rxThread (s : Queues × SmscConn) (ev : IoEvent) : Option (Queues × SmscConn) :=
  let (q, conn) := s
  match conn.thread.pc, ev with
  | .top, .enter opened now => some (rxEnter opened now q conn)
  | .waiting, .connWait ok now => some (ioConnWait ok now q conn)
  | .unbinding, .unbindWait ok pdu now => ioUnbindWait lib cfg ok pdu now q conn
  | .reading, .readPdu pdu now => rxReadPdu lib cfg pdu now q conn
  | .reading, .readNothing => some (q, conn.goto .idle)
  | .reading, .readError => some (q, conn.goto (.down true))
  | .idle, .checkTimes _ now => some (rxCheckTimes now q conn)
  | .down connected, .disconnect => some (rxDisconnect connected q conn)
  | .after, .retry => some (q, conn.goto .top)
  | _, _ => none

end Receiver

section Spec

variable {lib : Gwlib} {cfg : ClientCfg} {now : ℤ} {q q' : Queues} {conn conn' : SmscConn}
  {ev : IoEvent}

theorem rxEnter_same (opened : Bool) (now : ℤ) (q : Queues) (conn : SmscConn) :
    (rxEnter opened now q conn).1 = q ∧
      (rxEnter opened now q conn).2.data.msgsToSend = conn.data.msgsToSend ∧
      (rxEnter opened now q conn).2.data.sentMsgs = conn.data.sentMsgs := by
  obtain ⟨hq, hmsgs, hsent⟩ := ioEnter_same opened now q conn
  unfold rxEnter
  split
  · exact ⟨hq, hmsgs, hsent⟩
  · exact ⟨rfl, hmsgs, hsent⟩

/-- The receiving thread handles a PDU, and then gives up the connection or goes on. -/
theorem rxReadPdu_cases {pdu : Pdu} (h : rxReadPdu lib cfg pdu now q conn = some (q', conn')) :
    ∃ conn₁, handlePdu lib cfg now q conn pdu = some (q', conn₁) ∧
      (conn' = { conn₁ with thread := { conn₁.thread with lastResponse := now, pc := .down true } } ∨
        conn' = (sendEnquireLink now
          { conn₁ with thread := { conn₁.thread with lastResponse := now } }).goto .reading) := by
  unfold rxReadPdu at h
  split at h
  · exact absurd h (by simp)
  · rename_i q₁ conn₁ hpdu
    dsimp only at h
    split at h
    · obtain ⟨rfl, rfl⟩ := Prod.mk.inj (Option.some.inj h)
      exact ⟨conn₁, hpdu, .inl rfl⟩
    · obtain ⟨rfl, rfl⟩ := Prod.mk.inj (Option.some.inj h)
      exact ⟨conn₁, hpdu, .inr rfl⟩

/-- A PDU that is read is handled, and the queues are as it leaves them. -/
theorem rxThread_handlePdu {pdu : Pdu} (hev : ev.pdu? = some pdu)
    (h : rxThread lib cfg (q, conn) ev = some (q', conn')) :
    ∃ now conn₁, handlePdu lib cfg now q conn pdu = some (q', conn₁) := by
  cases ev with
  | readPdu read now =>
    obtain rfl := Option.some.inj hev
    unfold rxThread at h
    cases hpc : conn.thread.pc <;> simp only [hpc, reduceCtorEq] at h
    obtain ⟨conn₁, hhandle, -⟩ := rxReadPdu_cases h
    exact ⟨now, conn₁, hhandle⟩
  | unbindWait ok read now =>
    obtain rfl : read = some pdu := hev
    unfold rxThread at h
    cases hpc : conn.thread.pc <;> simp only [hpc, reduceCtorEq] at h
    obtain ⟨read, hread, hhandle⟩ | ⟨hnone, -⟩ := ioUnbindWait_cases h
    · exact ⟨now, conn', Option.some.inj hread ▸ hhandle⟩
    · exact absurd hnone (by simp)
  | _ => simp [IoEvent.pdu?] at hev

theorem rxReadPdu_moves {pdu : Pdu} (h : rxReadPdu lib cfg pdu now q conn = some (q', conn')) :
    Moves lib cfg (.readPdu pdu now) q conn q' conn' := by
  obtain ⟨conn₁, hhandle, hconn'⟩ := rxReadPdu_cases h
  have hmoves : Moves lib cfg (.readPdu pdu now) q conn q' conn₁ := (handlePdu_moves rfl rfl hhandle).1
  obtain rfl | rfl := hconn'
  · exact hmoves.congr rfl rfl
  · obtain ⟨hmsgs, hsent⟩ := sendEnquireLink_same now
      { conn₁ with thread := { conn₁.thread with lastResponse := now } }
    exact hmoves.congr hmsgs hsent

theorem rxCheckTimes_same (now : ℤ) (q : Queues) (conn : SmscConn) :
    (rxCheckTimes now q conn).1 = q ∧
      (rxCheckTimes now q conn).2.data.msgsToSend = conn.data.msgsToSend ∧
      (rxCheckTimes now q conn).2.data.sentMsgs = conn.data.sentMsgs := by
  unfold rxCheckTimes
  split_ifs <;> exact ⟨rfl, rfl, rfl⟩

theorem rxDisconnect_same (connected : Bool) (q : Queues) (conn : SmscConn) :
    (rxDisconnect connected q conn).1 = q ∧
      (rxDisconnect connected q conn).2.data.msgsToSend = conn.data.msgsToSend ∧
      (rxDisconnect connected q conn).2.data.sentMsgs = conn.data.sentMsgs := by
  cases connected <;> exact ⟨rfl, rfl, rfl⟩

/-- **Every step of the receiving thread makes one of the moves.** -/
theorem rxThread_moves (h : rxThread lib cfg (q, conn) ev = some (q', conn')) :
    Moves lib cfg ev q conn q' conn' := by
  have hkeep : ∀ {r : Queues × SmscConn}, r.1 = q ∧ r.2.data.msgsToSend = conn.data.msgsToSend ∧
      r.2.data.sentMsgs = conn.data.sentMsgs → r = (q', conn') →
      Moves lib cfg ev q conn q' conn' := by
    rintro r ⟨rfl, hmsgs, hsent⟩ rfl
    exact .keep hmsgs hsent
  unfold rxThread at h
  simp only at h
  split at h
  · exact hkeep (rxEnter_same _ _ q conn) (Option.some.inj h)
  · exact hkeep (ioConnWait_same _ _ q conn) (Option.some.inj h)
  · exact ioUnbindWait_moves h
  · exact rxReadPdu_moves h
  · exact hkeep ⟨rfl, rfl, rfl⟩ (Option.some.inj h)
  · exact hkeep ⟨rfl, rfl, rfl⟩ (Option.some.inj h)
  · exact hkeep (rxCheckTimes_same _ q conn) (Option.some.inj h)
  · exact hkeep (rxDisconnect_same _ q conn) (Option.some.inj h)
  · exact hkeep ⟨rfl, rfl, rfl⟩ (Option.some.inj h)
  · exact absurd h (by simp)

end Spec

end SmppServer.SmppSmsc
