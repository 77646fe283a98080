import SmppServer.Esme.Bind
import SmppServer.Machinery.Segments

/-!
# Esme/BindRead — how the first PDU of a connection is read

`receive_smpp_thread` waits until something has arrived and calls `read_pdu` once.  If the PDU is not there
as a whole, `read_pdu` returns `0`, and the thread goes on as if it were: with an `esme` that was never set,
and without another reading.  The loop of a session calls `read_pdu` again in this case, and keeps `len`.

How `smpp_pdu.c` reads and unpacks is a parameter, `SmppPduLib`.

* `readPdu_valid` — when `read_pdu` finds a valid PDU.
* `receiveBind_eq_atOnce_iff` — when the bind does not depend on how the octets arrive.
-/

namespace SmppServer.SmppEsme

open Machinery

/-! ## The connection

A connection is the stream of the octets that arrive, with how often it was read and how much was taken from it. -/

/-- A connection, with the octets that arrive on it; `broken` is what `conn_eof` and `conn_error` say. -/
structure Connection where
  delivery : Delivery UInt8
  readings : ℕ := 0
  taken : ℕ := 0
  broken : Bool := false

/-- The octets that have been read off the socket, each time as many as fit into `buf`. -/
def Connection.received (c : Connection) : Octstr := c.delivery.got 4096 c.readings

def Connection.inbuf (c : Connection) : Octstr := c.received.drop c.taken

def Connection.unlockedRead (c : Connection) : Connection := { c with readings := c.readings + 1 }

/-- `conn_wait` on a connection to which nothing is to be written: `1` if nothing arrives in time. -/
def connWait (c : Connection) : ℤ × Connection :=
  if c.delivery.present c.readings = [] then (1, c) else (0, c.unlockedRead)

/-- The connection after another reading, if there are not so many octets. -/
def Connection.await (c : Connection) (length : ℤ) : Connection :=
  if c.inbuf.length < length then c.unlockedRead else c

/-- `conn_read_fixed`. -/
def connReadFixed (c : Connection) (length : ℤ) : Option Octstr × Connection :=
  if length < 1 then (none, c)
  else
    let c := c.await length
    if c.inbuf.length < length then (none, c)
    else (some (c.inbuf.take length.toNat), { c with taken := c.taken + length.toNat })

/-! ## Reading a PDU

The two calls that `read_pdu` makes of `smpp_pdu.c` are parameters, of which the theorems ask that they read
with `conn_read_fixed`. -/

/-- A PDU on a connection without session. -/
inductive FirstPdu
  | bind (type : BindType) (pdu : BindPdu)
  | other (sequenceNumber : ℕ)
  deriving DecidableEq, Repr

/-- What is called of `smpp_pdu.c`; `lenOf` is the length that a length word stands for, `-1` for
garbage. -/
structure SmppPduLib where
  lenOf : Octstr → ℤ
  smppPduReadLen : Connection → ℤ × Connection
  smppPduReadData : Connection → ℤ → Option Octstr × Connection
  smppPduUnpack : Octstr → Option FirstPdu

/-- It reads with `conn_read_fixed`: `0` and `NULL` as long as there are not enough octets. -/
structure SmppPduLib.ReadsFixed (lib : SmppPduLib) : Prop where
  readLen_none : ∀ {c c' : Connection}, connReadFixed c 4 = (none, c') → lib.smppPduReadLen c = (0, c')
  readLen_some : ∀ {c c' : Connection} {os : Octstr}, connReadFixed c 4 = (some os, c') →
    lib.smppPduReadLen c = (lib.lenOf os, c')
  readData : ∀ (c : Connection) (len : ℤ), lib.smppPduReadData c len = connReadFixed c (len - 4)

/-- What `read_pdu` returns, and what it stores. -/
structure ReadPdu where
  ret : ℤ
  len : ℤ
  pdu : Option FirstPdu
  conn : Connection

/-- `read_pdu`, once the length is known. -/
def readBody (lib : SmppPduLib) (c : Connection) (len : ℤ) : ReadPdu :=
  match lib.smppPduReadData c len with
  | (none, c) => ⟨if c.broken then -1 else 0, len, none, c⟩
  | (some os, c) =>
    match lib.smppPduUnpack os with
    | none => ⟨-1, 0, none, c⟩
    | some pdu => ⟨1, 0, some pdu, c⟩

/-- `read_pdu`. -/
def readPdu (lib : SmppPduLib) (c : Connection) (len : ℤ) : ReadPdu :=
  if len = 0 then
    match lib.smppPduReadLen c with
    | (len, c) =>
      if len = -1 then ⟨-1, len, none, c⟩
      else if len = 0 then ⟨if c.broken then -1 else 0, len, none, c⟩
      else readBody lib c len
  else readBody lib c len

/-! ## The thread up to its session

`receiveBind` is the function up to its loop.  The local variable for the entry is set by a bind only, and is
read in any case. -/

/-- A PDU that the thread writes. -/
inductive FirstResp
  | bind (resp : BindResp)
  | genericNack (sequenceNumber commandStatus : ℕ)
  deriving DecidableEq, Repr

/-- How the thread goes on: with the loop of a session, with the end of the connection, or not at all. -/
inductive Next
  | loop (esme : ℕ) (session : SessionStr)
  | closed
  | fault (f : Fault)
  deriving DecidableEq, Repr

/-- What the thread has written and left in the registry, and how it goes on. -/
structure BindStage where
  responses : List FirstResp
  registry : Registry
  next : Next

/-- The thread behind `read_pdu`: it looks its session up. -/
def enterSession (c : Connection) (r : Registry) (tc : TempConn) (esme : Option ℕ) : Next :=
  if c.broken then .closed
  else
    match esme with
    | none => .closed
    | some a =>
      match (r.get? a).bind fun e => getSessionStr e tc.mode tc.sessionId with
      | none => .fault .nullDeref
      | some session => .loop a session

/-- `handle_pdu_bind` on the first PDU, and what comes behind it. -/
def handleFirstPdu (srv : Server) (r : Registry) (tc : TempConn) (c : Connection) : FirstPdu → BindStage
  | .bind type pdu =>
    match handlePduBind srv r tc type pdu with
    | .error f => ⟨[], r, .fault f⟩
    | .ok info =>
      ⟨[.bind info.resp], info.registry,
        if info.tempConn.bindSuccessful = 0 then .closed
        else enterSession c info.registry info.tempConn info.esme⟩
  -- there is no entry, whatever `bind_successful` says
  | .other sequenceNumber => ⟨[.genericNack sequenceNumber rinvcmdid], r, .closed⟩

/-- **`receive_smpp_thread`** up to the loop of its session; `esme` is what its local variable holds before
anything is assigned to it. -/
def receiveBind (lib : SmppPduLib) (srv : Server) (r : Registry) (tc : TempConn) (esme : Option ℕ)
    (c : Connection) : BindStage :=
  match connWait c with
  | (ret, c) =>
    if ret = 1 then ⟨[], r, .closed⟩
    else
      let read := readPdu lib c 0
      if read.ret = 1 then
        match read.pdu with
        | none => ⟨[], r, .fault .nullDeref⟩
        | some pdu => handleFirstPdu srv r tc read.conn pdu
      else if read.ret = -1 ∧ (read.len = 0 ∨ read.len = -1) then ⟨[], r, .closed⟩
      else ⟨[], r, enterSession read.conn r tc esme⟩

/-! ## When the PDU is read

Everything depends on how many octets the first two or three readings find.  The length word takes one or two,
and one more decides whether the body is there. -/

/-- The octets of a valid bind PDU: its length word says how many they are, and the others are its
body. -/
structure ValidBind (lib : SmppPduLib) (octets : Octstr) (type : BindType) (pdu : BindPdu) : Prop where
  word : lib.lenOf (octets.take 4) = octets.length
  long : 4 < octets.length
  body : lib.smppPduUnpack (octets.drop 4) = some (.bind type pdu)

/-- The readings that a length word takes. -/
def readingsOfWord (d : Delivery UInt8) : ℕ := if 4 ≤ (d.got 4096 1).length then 1 else 2

/-- **The first readings find so many octets**: the one of `conn_wait` and another one, or two others if
the first finds no whole length word. -/
def FirstReadingsFind (d : Delivery UInt8) (n : ℕ) : Prop :=
  4 ≤ (d.got 4096 (readingsOfWord d)).length ∧ n ≤ (d.got 4096 (readingsOfWord d + 1)).length

instance (d : Delivery UInt8) (n : ℕ) : Decidable (FirstReadingsFind d n) := instDecidableAnd

/-- The readings after which `conn_read_fixed` returns. -/
def Connection.readingsFor (c : Connection) (n : ℕ) : ℕ :=
  if c.taken + n ≤ c.received.length then c.readings else c.readings + 1

section Read

variable {lib : SmppPduLib} {d : Delivery UInt8} {octets : Octstr} {type : BindType} {pdu : BindPdu}

theorem length_inbuf (c : Connection) : c.inbuf.length = c.received.length - c.taken := List.length_drop

theorem await_eq (c : Connection) {n : ℕ} (hpos : 0 < n) :
    c.await n = { c with readings := c.readingsFor n } := by
  have hlength := length_inbuf c
  unfold Connection.await Connection.readingsFor Connection.unlockedRead
  by_cases hshort : c.received.length < c.taken + n
  · rw [if_pos (by omega), if_neg (by omega)]
  · rw [if_neg (by omega), if_pos (by omega)]

/-- **`conn_read_fixed`** finds the octets that come next in the stream, or not enough of them. -/
theorem connReadFixed_eq (c : Connection) {n : ℕ} (hpos : 0 < n) :
    connReadFixed c n =
      if c.taken + n ≤ (c.delivery.got 4096 (c.readingsFor n)).length then
        (some ((c.delivery.stream.drop c.taken).take n),
          { c with readings := c.readingsFor n, taken := c.taken + n })
      else (none, { c with readings := c.readingsFor n }) := by
  have hone : ¬ (n : ℤ) < 1 := by omega
  have hlength : ({ c with readings := c.readingsFor n } : Connection).inbuf.length =
      (c.delivery.got 4096 (c.readingsFor n)).length - c.taken := length_inbuf _
  rw [connReadFixed, if_neg hone, await_eq c hpos]
  dsimp only
  by_cases hfound : c.taken + n ≤ (c.delivery.got 4096 (c.readingsFor n)).length
  · rw [if_neg (by omega), if_pos hfound, Int.toNat_natCast, ← Delivery.take_drop_got hfound]
    rfl
  · rw [if_pos (by omega), if_neg hfound]

/-- Behind the length word, one more reading decides. -/
theorem length_got_of_readingsFor (d : Delivery UInt8) (k : ℕ) {n : ℕ} (h : 4 < n) :
    4 + (n - 4) ≤ (d.got 4096 ((⟨d, k, 4, false⟩ : Connection).readingsFor (n - 4))).length ↔
      n ≤ (d.got 4096 (k + 1)).length := by
  have hmono := d.length_got_le_succ 4096 k
  unfold Connection.readingsFor Connection.received
  dsimp only
  split <;> omega

/-- **`read_pdu` finds a valid PDU**, when it is called for the first time, if the first readings find all
of its octets; else it returns `0`. -/
theorem readPdu_valid (hlib : lib.ReadsFixed) (hvalid : ValidBind lib d.stream type pdu) :
    (FirstReadingsFind d d.stream.length ∧
      ∃ c, c.broken = false ∧ readPdu lib ⟨d, 1, 0, false⟩ 0 = ⟨1, 0, some (.bind type pdu), c⟩) ∨
    (¬ FirstReadingsFind d d.stream.length ∧
      ∃ len c, c.broken = false ∧ readPdu lib ⟨d, 1, 0, false⟩ 0 = ⟨0, len, none, c⟩) := by
  have hlong := hvalid.long
  have hword : connReadFixed ⟨d, 1, 0, false⟩ 4 = _ := connReadFixed_eq ⟨d, 1, 0, false⟩ (by decide : 0 < 4)
  have hreadings : (⟨d, 1, 0, false⟩ : Connection).readingsFor 4 = readingsOfWord d := by
    simp [Connection.readingsFor, readingsOfWord, Connection.received]
  rw [hreadings] at hword
  dsimp only at hword
  rw [Nat.zero_add] at hword
  unfold readPdu
  rw [if_pos rfl]
  by_cases hfour : 4 ≤ (d.got 4096 (readingsOfWord d)).length
  · rw [if_pos hfour] at hword
    rw [hlib.readLen_some hword, List.drop_zero, hvalid.word]
    dsimp only
    rw [if_neg (by omega), if_neg (by omega), readBody, hlib.readData]
    have hcast : (d.stream.length : ℤ) - 4 = (d.stream.length - 4 : ℕ) := by omega
    rw [hcast, connReadFixed_eq ⟨d, readingsOfWord d, 4, false⟩ (by omega : 0 < d.stream.length - 4)]
    have hwhole := length_got_of_readingsFor d (readingsOfWord d) hlong
    by_cases hfound : d.stream.length ≤ (d.got 4096 (readingsOfWord d + 1)).length
    · rw [if_pos (hwhole.mpr hfound), List.take_of_length_le (by simp)]
      dsimp only
      rw [hvalid.body]
      exact .inl ⟨⟨hfour, hfound⟩, _, rfl, rfl⟩
    · rw [if_neg fun h => hfound (hwhole.mp h)]
      exact .inr ⟨fun h => hfound h.2, _, _, rfl, rfl⟩
  · rw [if_neg hfour] at hword
    rw [hlib.readLen_none hword]
    exact .inr ⟨fun h => hfour h.1, _, _, rfl, rfl⟩

end Read

/-! ## The bind

Two deliveries of the same octets lead to the same outcome if the first readings find all of them in both or in
neither.  Octets that arrive at once are found. -/

section Bind

variable {lib : SmppPduLib} {srv : Server} {r : Registry} {tc : TempConn} {type : BindType} {pdu : BindPdu}

theorem enterSession_congr {c c' : Connection} (h : c.broken = c'.broken) (esme : Option ℕ) :
    enterSession c r tc esme = enterSession c' r tc esme := by
  unfold enterSession
  rw [h]

theorem handleFirstPdu_congr {c c' : Connection} (h : c.broken = c'.broken) (first : FirstPdu) :
    handleFirstPdu srv r tc c first = handleFirstPdu srv r tc c' first := by
  cases first with
  | bind type pdu => simp only [handleFirstPdu, enterSession_congr h]
  | other sequenceNumber => rfl

/-- What the thread does with a valid bind PDU, by what the first readings find of it. -/
theorem receiveBind_valid (hlib : lib.ReadsFixed) {d : Delivery UInt8}
    (hvalid : ValidBind lib d.stream type pdu) (hfirst : d.present 0 ≠ []) (esme : Option ℕ) :
    receiveBind lib srv r tc esme ⟨d, 0, 0, false⟩ =
      if FirstReadingsFind d d.stream.length then handleFirstPdu srv r tc ⟨d, 0, 0, false⟩ (.bind type pdu)
      else ⟨[], r, enterSession ⟨d, 0, 0, false⟩ r tc esme⟩ := by
  rw [receiveBind, connWait, if_neg hfirst]
  dsimp only [Connection.unlockedRead]
  rw [if_neg (by decide : ¬ (0 : ℤ) = 1)]
  obtain ⟨hfind, c, hopen, hread⟩ | ⟨hfind, len, c, hopen, hread⟩ := readPdu_valid hlib hvalid
  · rw [hread, if_pos rfl, if_pos hfind]
    exact handleFirstPdu_congr hopen _
  · rw [hread, if_neg hfind]
    dsimp only
    rw [if_neg (by decide : ¬ (0 : ℤ) = 1), if_neg (by simp)]
    exact congrArg (BindStage.mk [] r) (enterSession_congr hopen esme)

/-- A bind that is not answered has no system id. -/
theorem handlePduBind_eq_error {f : Fault} (h : handlePduBind srv r tc type pdu = .error f) :
    f = .indeterminate := by
  cases hn : pdu.systemId with
  | some name =>
    obtain ⟨info, hinfo, -⟩ := handlersConn_cases type srv r tc hn
    rw [handlePduBind_of_some hn, hinfo] at h
    exact absurd h (by simp)
  | none =>
    rw [handlePduBind_of_none hn] at h
    exact (Except.error.inj h).symm

/-- A thread that has handled a bind has answered it, or failed. -/
theorem handleFirstPdu_ne (c c' : Connection) (esme : Option ℕ) :
    handleFirstPdu srv r tc c (.bind type pdu) ≠ ⟨[], r, enterSession c' r tc esme⟩ := by
  rw [handleFirstPdu]
  cases hbind : handlePduBind srv r tc type pdu with
  | ok info => simp
  | error f =>
    obtain rfl := handlePduBind_eq_error hbind
    unfold enterSession
    dsimp only
    split
    · simp
    · split
      · simp
      · split <;> simp

end Bind

/-- Two deliveries of the octets of a valid bind PDU have one outcome if and only if the first readings
find the PDU in both, or in none. -/
theorem receiveBind_eq_iff {lib : SmppPduLib} (hlib : lib.ReadsFixed) (srv : Server) (r : Registry)
    (tc : TempConn) (esme : Option ℕ) {type : BindType} {pdu : BindPdu} {d d' : Delivery UInt8}
    (hvalid : ValidBind lib d.stream type pdu) (hstream : d'.stream = d.stream)
    (hfirst : d.present 0 ≠ []) (hfirst' : d'.present 0 ≠ []) :
    receiveBind lib srv r tc esme ⟨d, 0, 0, false⟩ = receiveBind lib srv r tc esme ⟨d', 0, 0, false⟩ ↔
      (FirstReadingsFind d d.stream.length ↔ FirstReadingsFind d' d.stream.length) := by
  rw [receiveBind_valid hlib hvalid hfirst, receiveBind_valid hlib (hstream.symm ▸ hvalid) hfirst', hstream]
  by_cases hfind : FirstReadingsFind d d.stream.length
  · rw [if_pos hfind]
    by_cases hfind' : FirstReadingsFind d' d.stream.length
    · rw [if_pos hfind']
      exact iff_of_true (handleFirstPdu_congr rfl _) (iff_of_true hfind hfind')
    · rw [if_neg hfind']
      exact iff_of_false (handleFirstPdu_ne _ _ _) fun h => hfind' (h.mp hfind)
  · rw [if_neg hfind]
    by_cases hfind' : FirstReadingsFind d' d.stream.length
    · rw [if_pos hfind']
      exact iff_of_false (handleFirstPdu_ne _ _ _).symm fun h => hfind (h.mpr hfind')
    · rw [if_neg hfind']
      exact iff_of_true (congrArg (BindStage.mk [] r) (enterSession_congr rfl esme))
        (iff_of_false hfind hfind')

/-- Octets that arrive at once are found by the first readings, if two of them have room. -/
theorem firstReadingsFind_atOnce {octets : Octstr} (h : 4 < octets.length) :
    FirstReadingsFind (.atOnce octets) octets.length ↔ octets.length ≤ 8192 := by
  have hone : readingsOfWord (.atOnce octets) = 1 := by
    rw [readingsOfWord, Delivery.length_got_atOnce, if_pos (by omega)]
  rw [FirstReadingsFind, hone, Delivery.length_got_atOnce, Delivery.length_got_atOnce]
  omega

/-- **When a bind does not depend on its segments.**  For every valid bind PDU and every delivery of its
octets, the thread answers, registers and goes on as it does when they arrive at once, if and only if the
first readings find all of them; of over `8192` octets, which they do not find at once either, if and only
if they do not. -/
theorem receiveBind_eq_atOnce_iff {lib : SmppPduLib} (hlib : lib.ReadsFixed) (srv : Server) (r : Registry)
    (tc : TempConn) (esme : Option ℕ) {octets : Octstr} {type : BindType} {pdu : BindPdu}
    (hvalid : ValidBind lib octets type pdu) {d : Delivery UInt8} (hstream : d.stream = octets)
    (hfirst : d.present 0 ≠ []) :
    receiveBind lib srv r tc esme ⟨d, 0, 0, false⟩ =
        receiveBind lib srv r tc esme ⟨.atOnce octets, 0, 0, false⟩ ↔
      (FirstReadingsFind d octets.length ↔ octets.length ≤ 8192) := by
  subst hstream
  rw [← firstReadingsFind_atOnce hvalid.long]
  refine receiveBind_eq_iff hlib srv r tc esme hvalid (Delivery.stream_atOnce _) hfirst ?_
  rw [Delivery.present_atOnce]
  exact List.ne_nil_of_length_pos (by have hlong := hvalid.long; omega)

/-- The octets of a `bind_transmitter`. -/
def sampleBindOctets : Octstr :=
  [0, 0, 0, 33, 0, 0, 0, 2, 0, 0, 0, 0, 0, 0, 0, 1] ++ octstrImm "acme" ++ [0] ++ octstrImm "secret" ++
    [0, 0, 52, 0, 0, 0]

def sampleBindPdu : BindPdu := { samplePdu with sequenceNumber := 1 }

/-- The length of a PDU, in network order; a header has 16 octets. -/
def sampleLenOf (os : Octstr) : ℤ :=
  let len : ℤ := os.foldl (fun n c => 256 * n + c.toNat) 0
  if len < 16 then -1 else len

/-- A reader that knows this body. -/
def sampleLib : SmppPduLib where
  lenOf := sampleLenOf
  smppPduReadLen c :=
    match connReadFixed c 4 with
    | (none, c) => (0, c)
    | (some os, c) => (sampleLenOf os, c)
  smppPduReadData c len := connReadFixed c (len - 4)
  smppPduUnpack os :=
    if os = sampleBindOctets.drop 4 then some (.bind .bindTransmitter sampleBindPdu) else none

theorem sampleLib_readsFixed : sampleLib.ReadsFixed where
  readLen_none h := by
    simp only [sampleLib, h]
  readLen_some h := by
    simp only [sampleLib, h]
  readData _ _ := rfl

theorem validBind_sample : ValidBind sampleLib sampleBindOctets .bindTransmitter sampleBindPdu :=
  ⟨by decide, by decide, by decide⟩

/-- These octets in two segments; at so many readings in a row there is nothing new. -/
def sampleDelivery (first pause : ℕ) : Delivery UInt8 where
  segments := [sampleBindOctets.take first, sampleBindOctets.drop first]
  arrived n := n / pause + 1
  monotone _ _ h := Nat.add_le_add_right (Nat.div_le_div_right h) 1

theorem stream_sampleDelivery (first pause : ℕ) : (sampleDelivery first pause).stream = sampleBindOctets := by
  simp [sampleDelivery, Delivery.stream]

/-- A connection to the port for transmitters. -/
def sampleTempConn : TempConn := tempconnCreate 0 (octstrImm "10.0.0.1") 4000 2775 1

/-- The length word is cut, but the rest is there at the next reading. -/
theorem receiveBind_sampleDelivery :
    receiveBind sampleLib sampleServer Arena.empty sampleTempConn none ⟨sampleDelivery 2 1, 0, 0, false⟩ =
      receiveBind sampleLib sampleServer Arena.empty sampleTempConn none
        ⟨.atOnce sampleBindOctets, 0, 0, false⟩ :=
  (receiveBind_eq_atOnce_iff sampleLib_readsFixed sampleServer Arena.empty sampleTempConn none
    validBind_sample (stream_sampleDelivery 2 1) (by decide +kernel)).mpr (by decide +kernel)

/-- The body is cut, and the rest comes later. -/
theorem not_receiveBind_eq_atOnce : ¬ ∀ (lib : SmppPduLib), lib.ReadsFixed → ∀ (srv : Server) (r : Registry)
    (tc : TempConn) (esme : Option ℕ) (octets : Octstr) (type : BindType) (pdu : BindPdu),
    ValidBind lib octets type pdu → ∀ d : Delivery UInt8, d.stream = octets → d.present 0 ≠ [] →
      receiveBind lib srv r tc esme ⟨d, 0, 0, false⟩ =
        receiveBind lib srv r tc esme ⟨.atOnce octets, 0, 0, false⟩ := by
  intro h
  have heq := h sampleLib sampleLib_readsFixed sampleServer Arena.empty sampleTempConn none
    sampleBindOctets .bindTransmitter sampleBindPdu validBind_sample (sampleDelivery 20 2)
    (stream_sampleDelivery 20 2) (by decide +kernel)
  have hiff := (receiveBind_eq_iff sampleLib_readsFixed sampleServer Arena.empty sampleTempConn none
    ((stream_sampleDelivery 20 2).symm ▸ validBind_sample)
    ((Delivery.stream_atOnce _).trans (stream_sampleDelivery 20 2).symm) (by decide +kernel)
    (by decide +kernel)).mp heq
  exact absurd hiff (by decide +kernel)

end SmppServer.SmppEsme
