import SmppServer.Gwlib.Base
import SmppServer.Machinery.Stream

/-!
# Gwlib/Conn — the buffers of a connection

`Connection` has a buffer for what is to be written and one for what has been read, each with a position in
it.  What is written goes to the output buffer first and from there to the kernel, which takes as much of it
as it likes; what the kernel has for the connection goes to the input buffer, from which the reading
functions cut.  A function is one critical section, or several of them, under the lock of its buffer;
`conn_flush` and `conn_wait` release it while they poll.  The answers of the kernel are parameters.

Of the reading functions `conn_read_withlen` is left out, which no program calls: behind a negative length with fewer
than four octets after it, it asks for that many octets, and the position goes back.

* `CriticalSection.run_balance` — nothing is lost, doubled or put in another order in a connection.
* `CriticalSection.run_interest` — what a registered connection waits for.
* `connFlush_eq_zero` — when `conn_flush` succeeds, everything has gone to the kernel.
-/

namespace SmppServer

open Machinery

/-- What `octstr_write_data` returns: so many octets, of those it is given, or `-1`. -/
inductive WriteAnswer
  | accepted (n : ℕ)
  | failed
  deriving DecidableEq, Repr

/-- What `read` returns; `again` is an error that is none. -/
inductive ReadAnswer
  | data (s : Octstr)
  | eof
  | again
  | failed
  deriving DecidableEq, Repr

/-- What `gwthread_pollfd` returns: `-1`, `0` or events; `broken` is `POLLERR` or `POLLHUP`. -/
inductive PollAnswer
  | failed (eintr : Bool)
  | woken
  | events (nval broken pollin pollout : Bool)
  deriving DecidableEq, Repr

/-- `Connection`, without SSL.  Of the registration with a set of descriptors it has the events that it waits for;
`registeredEarly`, that it was registered before it was connected, is recorded and looked at by nobody. -/
structure Conn where
  connected : Bool := true
  outbuf : Window UInt8 := .empty
  outputBuffering : ℕ := 0
  inbuf : Window UInt8 := .empty
  readEof : Bool := false
  ioError : Bool := false
  registered : Bool := false
  listeningPollin : Bool := false
  listeningPollout : Bool := false
  registeredEarly : Bool := false

section Code

variable (c : Conn)

/-! ## Writing

The output buffer goes to the kernel once it has as much as the buffering asks for; what the kernel does not
take stays in it. -/

/-- `unlocked_register_pollin`. -/
def unlockedRegisterPollin (onoff : Bool) : Conn := { c with listeningPollin := onoff }

/-- `unlocked_register_pollout`. -/
def unlockedRegisterPollout (onoff : Bool) : Conn := { c with listeningPollout := onoff }

/-- The written data is deleted when it is more than half of the buffer. -/
def discardWritten (outbuf : Window UInt8) : Window UInt8 :=
  if outbuf.buf.length / 2 < outbuf.pos then outbuf.compact else outbuf

/-- `unlocked_write`, and what went to the kernel. -/
def unlockedWrite : WriteAnswer → ℤ × Conn × Octstr
  | .failed => (-1, { c with ioError := true }, [])
  | .accepted n =>
    let ret := min n c.outbuf.content.length
    let c' := { c with outbuf := discardWritten (c.outbuf.advance ret) }
    (ret, if c'.registered then unlockedRegisterPollout c' (0 < c'.outbuf.content.length) else c',
      c.outbuf.content.take ret)

/-- `unlocked_try_write`. -/
def unlockedTryWrite (answer : WriteAnswer) : ℤ × Conn × Octstr :=
  let len := c.outbuf.content.length
  if len = 0 then (0, c, [])
  else if len < c.outputBuffering then (1, c, [])
  else
    match unlockedWrite c answer with
    | (ret, c, out) =>
      if ret < 0 then (-1, c, out) else if 0 < c.outbuf.content.length then (1, c, out) else (0, c, out)

/-- `conn_write` and `conn_write_data`. -/
def connWrite (data : Octstr) (answer : WriteAnswer) : ℤ × Conn × Octstr :=
  unlockedTryWrite { c with outbuf := c.outbuf.append data } answer

/-- `conn_set_output_buffering`. -/
def connSetOutputBuffering (size : ℕ) (answer : WriteAnswer) : ℤ × Conn × Octstr :=
  unlockedTryWrite { c with outputBuffering := size } answer

/-- The loop of `conn_flush`; `none` if it is still waiting when there are no more answers. -/
def flushLoop (c : Conn) : List (PollAnswer × WriteAnswer) → Option (ℤ × Conn × Octstr)
  | [] => if c.outbuf.content = [] then some (0, c, []) else none
  | (poll, answer) :: answers =>
    if c.outbuf.content = [] then some (0, c, [])
    else
      match poll with
      | .failed eintr => some (if eintr then 1 else -1, c, [])
      | .woken => some (1, c, [])
      | .events nval broken _ pollout =>
        if nval then some (-1, c, [])
        else if pollout ∨ broken then
          match unlockedWrite c answer with
          | (ret, c, out) =>
            if ret < 0 then some (-1, c, out)
            else (flushLoop c answers).map fun (ret, c, out') => (ret, c, out ++ out')
        else flushLoop c answers

/-- `conn_flush`. -/
def connFlush (answer : WriteAnswer) (answers : List (PollAnswer × WriteAnswer)) : Option (ℤ × Conn × Octstr) :=
  match unlockedWrite c answer with
  | (ret, c, out) =>
    if ret < 0 then some (-1, c, out)
    else (flushLoop c answers).map fun (ret, c, out') => (ret, c, out ++ out')

/-! ## Reading

The reading functions differ in what they cut from the input buffer.  Each tries that first, reads from the kernel if
it could not, and tries again. -/

/-- `unlocked_read`, and what came from the kernel. -/
def unlockedRead (answer : ReadAnswer) : Conn × Octstr :=
  let c := { c with inbuf := c.inbuf.compact }
  let stopped (c : Conn) : Conn := if c.registered then unlockedRegisterPollin c false else c
  match answer with
  | .again => (c, [])
  | .failed => (stopped { c with ioError := true }, [])
  | .eof => (stopped { c with readEof := true }, [])
  | .data s => ({ c with inbuf := c.inbuf.append s }, s)

/-- What a reading function makes of the unread data: how far the position moves, and what is returned. -/
abbrev Attempt := Octstr → ℕ × Option Octstr

/-- `conn_read_everything`. -/
def Attempt.everything : Attempt := fun s => if s.length = 0 then (0, none) else (s.length, some s)

/-- `conn_read_fixed`. -/
def Attempt.fixed (length : ℕ) : Attempt := fun s => if s.length < length then (0, none) else (length, some (s.take length))

/-- The carriage return at the end of a line is removed. -/
def withoutCr (line : Octstr) : Octstr := if line.getLast? = some 13 then line.dropLast else line

/-- `conn_read_line`. -/
def Attempt.line : Attempt := fun s =>
  if 10 ∈ s then (s.idxOf 10 + 1, some (withoutCr (s.take (s.idxOf 10)))) else (0, none)

/-- `conn_read_packet`: what stands in front of the first mark is lost. -/
def Attempt.packet (startmark endmark : UInt8) : Attempt := fun s =>
  if startmark ∈ s then
    let startpos := s.idxOf startmark
    let rest := s.drop startpos
    if endmark ∈ rest then
      (startpos + (rest.idxOf endmark + 1), some (rest.take (rest.idxOf endmark + 1)))
    else (startpos, none)
  else (s.length, none)

/-- What a critical section did: the connection, what was given to it, what went to the kernel and came from
it, what was cut from the input buffer, and what is returned. -/
structure Outcome where
  conn : Conn
  given : Octstr := []
  out : Octstr := []
  inp : Octstr := []
  cut : Octstr := []
  got : Option Octstr := none

/-- An attempt on the input buffer. -/
def attemptOnce (attempt : Attempt) : Outcome :=
  let (n, got) := attempt c.inbuf.content
  { conn := { c with inbuf := c.inbuf.advance n }, cut := c.inbuf.content.take n, got := got }

/-- The reading functions try, read, and try again. -/
def tryTwice (attempt : Attempt) (answer : ReadAnswer) : Outcome :=
  let first := attemptOnce c attempt
  if first.got.isSome then first
  else
    let (c, inp) := unlockedRead first.conn answer
    let second := attemptOnce c attempt
    { second with inp := inp, cut := first.cut ++ second.cut }

/-- `conn_read_fixed`. -/
def connReadFixed (length : ℤ) (answer : ReadAnswer) : Outcome :=
  if length < 1 then { conn := c } else tryTwice c (Attempt.fixed length.toNat) answer

/-! ## Registration

The events that a connection listens for are part of its state: the functions that fill and empty the buffers
set them anew. -/

/-- `conn_get_connect_result`, with what the kernel says of the connect. -/
def connGetConnectResult (ok : Bool) : Conn := if ok then { c with connected := true } else c

/-- `conn_register` with a set of descriptors; the connection is not registered with another one.  While the connect is
not answered it listens in both directions. -/
def connRegister : Conn :=
  if c.registered then c
  else if c.connected then
    { c with registered := true
             registeredEarly := false
             listeningPollin := !c.readEof && !c.ioError
             listeningPollout := 0 < c.outbuf.content.length }
  else { c with registered := true, registeredEarly := true, listeningPollin := true, listeningPollout := true }

/-- `conn_unregister`. -/
def connUnregister : Conn :=
  if c.registered then
    { c with registered := false, registeredEarly := false, listeningPollin := false, listeningPollout := false }
  else c

/-- `poll_callback` with `POLLERR` or `POLLHUP`; it leaves it to the callback to look at the answer to a connect. -/
def pollError : Conn :=
  if c.connected then { unlockedRegisterPollout (unlockedRegisterPollin c false) false with ioError := true } else c

end Code

/-! ## Critical sections

The functions are taken apart into the sections they run under a lock.  A thread may come between any two of
them, so a run of a connection is a list of sections. -/

/-- What is done with the buffers under a lock, by whatever function. -/
inductive CriticalSection
  /-- `conn_write` and `conn_write_data` -/
  | append (data : Octstr) (answer : WriteAnswer)
  | setOutputBuffering (size : ℕ) (answer : WriteAnswer)
  /-- in `conn_flush`, `conn_wait` and `poll_callback` -/
  | write (answer : WriteAnswer)
  /-- in `conn_wait` and `poll_callback` -/
  | read (answer : ReadAnswer)
  | readEverything (answer : ReadAnswer)
  | readFixed (length : ℤ) (answer : ReadAnswer)
  | readLine (answer : ReadAnswer)
  | readPacket (startmark endmark : UInt8) (answer : ReadAnswer)
  | connectResult (ok : Bool)
  | register
  | unregister
  | pollError
  deriving DecidableEq, Repr

/-- The section on a connection. -/
def CriticalSection.run (c : Conn) : CriticalSection → Outcome
  | append data answer =>
    let (_, c, out) := connWrite c data answer
    { conn := c, given := data, out := out }
  | setOutputBuffering size answer =>
    let (_, c, out) := connSetOutputBuffering c size answer
    { conn := c, out := out }
  | write answer =>
    let (_, c, out) := unlockedWrite c answer
    { conn := c, out := out }
  | read answer =>
    let (c, inp) := unlockedRead c answer
    { conn := c, inp := inp }
  | readEverything answer => tryTwice c Attempt.everything answer
  | readFixed length answer => connReadFixed c length answer
  | readLine answer => tryTwice c Attempt.line answer
  | readPacket startmark endmark answer => tryTwice c (Attempt.packet startmark endmark) answer
  | connectResult ok => { conn := connGetConnectResult c ok }
  | register => { conn := connRegister c }
  | unregister => { conn := connUnregister c }
  | pollError => { conn := SmppServer.pollError c }

section Balance

variable {c : Conn} {answer : WriteAnswer}

@[simp] theorem content_discardWritten (w : Window UInt8) : (discardWritten w).content = w.content := by
  rw [discardWritten]
  split <;> rfl

/-- What the kernel takes are the first octets of the output buffer. -/
theorem unlockedWrite_balance (c : Conn) (answer : WriteAnswer) :
    (unlockedWrite c answer).2.2 ++ (unlockedWrite c answer).2.1.outbuf.content = c.outbuf.content ∧
      (unlockedWrite c answer).2.1.inbuf = c.inbuf := by
  cases answer with
  | failed => exact ⟨rfl, rfl⟩
  | accepted n =>
    have hcontent : (unlockedWrite c (.accepted n)).2.1.outbuf.content =
        c.outbuf.content.drop (min n c.outbuf.content.length) := by
      rw [unlockedWrite]
      dsimp only
      split <;> simp [unlockedRegisterPollout]
    constructor
    · rw [hcontent]
      exact List.take_append_drop _ _
    · rw [unlockedWrite]
      dsimp only
      split <;> rfl

theorem unlockedTryWrite_balance (c : Conn) (answer : WriteAnswer) :
    (unlockedTryWrite c answer).2.2 ++ (unlockedTryWrite c answer).2.1.outbuf.content = c.outbuf.content ∧
      (unlockedTryWrite c answer).2.1.inbuf = c.inbuf := by
  have hwrite := unlockedWrite_balance c answer
  simp only [unlockedTryWrite]
  repeat' split
  all_goals first | exact ⟨rfl, rfl⟩ | exact hwrite

/-- What comes from the kernel goes behind what is in the input buffer. -/
theorem unlockedRead_balance (c : Conn) (answer : ReadAnswer) :
    (unlockedRead c answer).1.inbuf.content = c.inbuf.content ++ (unlockedRead c answer).2 ∧
      (unlockedRead c answer).1.outbuf = c.outbuf := by
  cases answer with
  | again | data => simp [unlockedRead]
  | eof | failed =>
    simp only [unlockedRead]
    split <;> simp [unlockedRegisterPollin]

theorem attemptOnce_balance (c : Conn) (attempt : Attempt) :
    (attemptOnce c attempt).cut ++ (attemptOnce c attempt).conn.inbuf.content = c.inbuf.content ∧
      (attemptOnce c attempt).conn.outbuf = c.outbuf := by
  simp [attemptOnce]

theorem tryTwice_balance (c : Conn) (attempt : Attempt) (answer : ReadAnswer) :
    (tryTwice c attempt answer).cut ++ (tryTwice c attempt answer).conn.inbuf.content =
        c.inbuf.content ++ (tryTwice c attempt answer).inp ∧
      (tryTwice c attempt answer).conn.outbuf = c.outbuf ∧
      (tryTwice c attempt answer).given = [] ∧ (tryTwice c attempt answer).out = [] := by
  have hfirst := attemptOnce_balance c attempt
  have hread := unlockedRead_balance (attemptOnce c attempt).conn answer
  have hsecond := attemptOnce_balance (unlockedRead (attemptOnce c attempt).conn answer).1 attempt
  simp only [tryTwice]
  split
  · exact ⟨by rw [hfirst.1]; simp [attemptOnce], hfirst.2, rfl, rfl⟩
  · refine ⟨?_, hsecond.2.trans (hread.2.trans hfirst.2), rfl, rfl⟩
    calc (attemptOnce c attempt).cut ++ _ ++ _ = (attemptOnce c attempt).cut ++
          ((attemptOnce c attempt).conn.inbuf.content ++
            (unlockedRead (attemptOnce c attempt).conn answer).2) := by
          rw [List.append_assoc, hsecond.1, hread.1]
      _ = c.inbuf.content ++ (unlockedRead (attemptOnce c attempt).conn answer).2 := by
          rw [← List.append_assoc, hfirst.1]

/-- **Nothing is lost in a connection.**  What a section gives to the kernel and what is left in the output
buffer is what was in it and what was given to it, in this order; what it cuts from the input buffer and
what is left there is what was in it and what came from the kernel. -/
theorem CriticalSection.run_balance (c : Conn) (s : CriticalSection) :
    (s.run c).out ++ (s.run c).conn.outbuf.content = c.outbuf.content ++ (s.run c).given ∧
      (s.run c).cut ++ (s.run c).conn.inbuf.content = c.inbuf.content ++ (s.run c).inp := by
  cases s with
  | append data answer =>
    have h := unlockedTryWrite_balance { c with outbuf := c.outbuf.append data } answer
    exact ⟨h.1.trans (Window.content_append _ _), by simp [run, connWrite, h.2]⟩
  | setOutputBuffering size answer =>
    have h := unlockedTryWrite_balance { c with outputBuffering := size } answer
    exact ⟨h.1.trans (List.append_nil _).symm, by simp [run, connSetOutputBuffering, h.2]⟩
  | write answer =>
    have h := unlockedWrite_balance c answer
    exact ⟨h.1.trans (List.append_nil _).symm, by simp [run, h.2]⟩
  | read answer =>
    have h := unlockedRead_balance c answer
    exact ⟨by simp [run, h.2], h.1⟩
  | readEverything answer =>
    obtain ⟨h, hout, hgiven, hnone⟩ := tryTwice_balance c Attempt.everything answer
    exact ⟨by simp [run, hout, hgiven, hnone], h⟩
  | readFixed length answer =>
    simp only [run, connReadFixed]
    split
    · simp
    · obtain ⟨h, hout, hgiven, hnone⟩ := tryTwice_balance c (Attempt.fixed length.toNat) answer
      exact ⟨by simp [hout, hgiven, hnone], h⟩
  | readLine answer =>
    obtain ⟨h, hout, hgiven, hnone⟩ := tryTwice_balance c Attempt.line answer
    exact ⟨by simp [run, hout, hgiven, hnone], h⟩
  | readPacket startmark endmark answer =>
    obtain ⟨h, hout, hgiven, hnone⟩ := tryTwice_balance c (Attempt.packet startmark endmark) answer
    exact ⟨by simp [run, hout, hgiven, hnone], h⟩
  | connectResult ok => cases ok <;> simp [run, connGetConnectResult]
  | register =>
    simp only [run, connRegister]
    repeat' split
    all_goals simp
  | unregister =>
    simp only [run, connUnregister]
    split <;> simp
  | pollError =>
    simp only [run, SmppServer.pollError]
    split <;> simp [unlockedRegisterPollin, unlockedRegisterPollout]

/-- What the loop of `conn_flush` leaves when it ends with `0`. -/
theorem flushLoop_eq_zero {answers : List (PollAnswer × WriteAnswer)} {c' : Conn} {out : Octstr}
    (h : flushLoop c answers = some (0, c', out)) : out = c.outbuf.content ∧ c'.outbuf.content = [] := by
  induction answers generalizing c out with
  | nil =>
    obtain ⟨hnil, h⟩ := Option.ite_none_right_eq_some.mp h
    cases h
    exact ⟨hnil.symm, hnil⟩
  | cons answer answers ih =>
    obtain ⟨poll, answer⟩ := answer
    have hbalance := (unlockedWrite_balance c answer).1
    simp only [flushLoop] at h
    split at h
    · next hnil =>
      cases h
      exact ⟨hnil.symm, hnil⟩
    · split at h
      · next eintr => cases eintr <;> cases h
      · cases h
      · split at h
        · cases h
        · split at h
          · split at h
            · cases h
            · obtain ⟨⟨ret, c₁, out'⟩, hloop, heq⟩ := Option.map_eq_some_iff.mp h
              cases heq
              obtain ⟨rfl, hempty⟩ := ih hloop
              exact ⟨hbalance, hempty⟩
          · exact ih h

/-- **When `conn_flush` succeeds**, everything in the output buffer has gone to the kernel. -/
theorem connFlush_eq_zero {answers : List (PollAnswer × WriteAnswer)} {c' : Conn} {out : Octstr}
    (h : connFlush c answer answers = some (0, c', out)) : out = c.outbuf.content ∧ c'.outbuf.content = [] := by
  have hbalance := (unlockedWrite_balance c answer).1
  simp only [connFlush] at h
  split at h
  · cases h
  · obtain ⟨⟨ret, c₁, out'⟩, hloop, heq⟩ := Option.map_eq_some_iff.mp h
    cases heq
    obtain ⟨rfl, hempty⟩ := flushLoop_eq_zero hloop
    exact ⟨hbalance, hempty⟩

end Balance

/-! ## What a registered connection waits for

A connection that is registered before it is connected listens in both directions, whatever is in its buffers, and an
end of the file that was read before keeps it listening for input. -/

/-- A registered connection without error waits to write if there is something to write that is not held back.  If it
was connected when it was registered, it waits for input until the end of the file, and to write only if there is
something to write. -/
structure Conn.Interest (c : Conn) : Prop where
  pollin : c.registered = true → c.registeredEarly = false → c.ioError = false → c.listeningPollin = !c.readEof
  pollout : c.registered = true → c.ioError = false → c.outbuf.content ≠ [] →
    c.outputBuffering ≤ c.outbuf.content.length → c.listeningPollout = true
  needed : c.registered = true → c.registeredEarly = false → c.ioError = false → c.listeningPollout = true →
    c.outbuf.content ≠ []
  off : c.registered = false → c.listeningPollin = false ∧ c.listeningPollout = false

section Interest

variable {c c' : Conn}

/-- Writing to the kernel sets what is waited for anew. -/
theorem unlockedWrite_interest
    (hc : c.registered = true → c.registeredEarly = false → c.ioError = false → c.listeningPollin = !c.readEof)
    (hoff : c.registered = false → c.listeningPollin = false ∧ c.listeningPollout = false) (answer : WriteAnswer) :
    (unlockedWrite c answer).2.1.Interest := by
  cases answer with
  | failed => exact ⟨fun _ _ => nofun, fun _ => nofun, fun _ _ => nofun, hoff⟩
  | accepted n =>
    rw [unlockedWrite]
    dsimp only
    split
    · next hregistered =>
      refine ⟨hc, fun _ _ hne _ => ?_, fun _ _ _ hlisten => ?_, fun h => ?_⟩
      · exact decide_eq_true (List.length_pos_of_ne_nil hne)
      · exact List.ne_nil_of_length_pos (of_decide_eq_true hlisten)
      · exact absurd (hregistered.symm.trans h) (by decide)
    · next hregistered =>
      exact ⟨fun h => absurd h hregistered, fun h => absurd h hregistered, fun h => absurd h hregistered, hoff⟩

/-- What is held back by the buffering need not be waited for. -/
theorem unlockedTryWrite_interest (h : c.Interest) {outbuf : Window UInt8} (size : ℕ) (answer : WriteAnswer)
    (hmore : outbuf.content = [] → c.outbuf.content = []) :
    (unlockedTryWrite { c with outbuf := outbuf, outputBuffering := size } answer).2.1.Interest := by
  have hwrite := unlockedWrite_interest (c := { c with outbuf := outbuf, outputBuffering := size })
    h.pollin h.off answer
  simp only [unlockedTryWrite]
  split
  · next hlen =>
    have hnil := List.length_eq_zero_iff.mp hlen
    exact ⟨h.pollin, fun _ _ hne => absurd hnil hne, fun hr hu he hl => absurd (hmore hnil) (h.needed hr hu he hl),
      h.off⟩
  · next hlen =>
    split
    · next hheld =>
      refine ⟨h.pollin, fun _ _ _ hle => ?_, fun _ _ _ _ hnil => hlen (List.length_eq_zero_iff.mpr hnil), h.off⟩
      exact absurd hheld (Nat.not_lt.mpr hle)
    · repeat' split
      all_goals exact hwrite

theorem Conn.Interest.withInbuf (h : c.Interest) (w : Window UInt8) : { c with inbuf := w }.Interest :=
  ⟨h.pollin, h.pollout, h.needed, h.off⟩

/-- At the end of the file, input is no longer waited for. -/
theorem unlockedRead_interest (h : c.Interest) (answer : ReadAnswer) : (unlockedRead c answer).1.Interest := by
  cases answer with
  | again => exact h.withInbuf _
  | data s => exact h.withInbuf _
  | eof =>
    simp only [unlockedRead]
    split
    · exact ⟨fun _ _ _ => rfl, h.pollout, h.needed, fun hr => ⟨rfl, (h.off hr).2⟩⟩
    · next hr => exact ⟨fun h' => absurd h' hr, h.pollout, h.needed, h.off⟩
  | failed =>
    simp only [unlockedRead]
    split
    · exact ⟨fun _ _ => nofun, fun _ => nofun, fun _ _ => nofun, fun hr => ⟨rfl, (h.off hr).2⟩⟩
    · exact ⟨fun _ _ => nofun, fun _ => nofun, fun _ _ => nofun, h.off⟩

theorem tryTwice_interest (h : c.Interest) (attempt : Attempt) (answer : ReadAnswer) :
    (tryTwice c attempt answer).conn.Interest := by
  simp only [tryTwice]
  split
  · exact h.withInbuf _
  · exact (unlockedRead_interest (h.withInbuf _) answer).withInbuf _

/-- **What a registered connection waits for**, whatever is done with it. -/
theorem CriticalSection.run_interest (h : c.Interest) (s : CriticalSection) : (s.run c).conn.Interest := by
  cases s with
  | append data answer =>
    exact unlockedTryWrite_interest h c.outputBuffering answer fun hnil => by simp_all
  | setOutputBuffering size answer => exact unlockedTryWrite_interest h size answer id
  | write answer => exact unlockedWrite_interest h.pollin h.off answer
  | read answer => exact unlockedRead_interest h answer
  | readEverything answer => exact tryTwice_interest h _ answer
  | readFixed length answer =>
    simp only [run, connReadFixed]
    split
    · exact h
    · exact tryTwice_interest h _ answer
  | readLine answer => exact tryTwice_interest h _ answer
  | readPacket startmark endmark answer => exact tryTwice_interest h _ answer
  | connectResult ok =>
    simp only [run, connGetConnectResult]
    split
    · exact ⟨h.pollin, h.pollout, h.needed, h.off⟩
    · exact h
  | register =>
    simp only [run, connRegister]
    split
    · exact h
    split
    · refine ⟨fun _ _ he => ?_, fun _ _ hne _ => ?_, fun _ _ _ hl => ?_, nofun⟩
      · simp [show c.ioError = false from he]
      · exact decide_eq_true (List.length_pos_of_ne_nil hne)
      · exact List.ne_nil_of_length_pos (of_decide_eq_true hl)
    · exact ⟨fun _ => nofun, fun _ _ _ _ => rfl, fun _ => nofun, nofun⟩
  | unregister =>
    simp only [run, connUnregister]
    split
    · exact ⟨nofun, nofun, nofun, fun _ => ⟨rfl, rfl⟩⟩
    · exact h
  | pollError =>
    simp only [run, SmppServer.pollError]
    split
    · exact ⟨fun _ _ => nofun, fun _ => nofun, fun _ _ => nofun, fun _ => ⟨rfl, rfl⟩⟩
    · exact h

/-- One section after the other, of whatever threads. -/
def runSections (c : Conn) (sections : List CriticalSection) : Conn :=
  sections.foldl (fun c (s : CriticalSection) => (s.run c).conn) c

/-- **What a connection waits for**, after any use of a new connection by any threads; `connected` says whether its
connect was answered at once. -/
theorem runSections_interest (connected : Bool) (sections : List CriticalSection) :
    (runSections { connected := connected } sections).Interest := by
  have hnew : Conn.Interest { connected := connected } := ⟨nofun, nofun, nofun, fun _ => ⟨rfl, rfl⟩⟩
  generalize ({ connected := connected } : Conn) = c at hnew ⊢
  induction sections generalizing c with
  | nil => exact hnew
  | cons s sections ih => exact ih _ (s.run_interest hnew)

end Interest

end SmppServer
