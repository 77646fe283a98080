import SmppServer.Gwlib.ConnLink

/-!
# Gwlib/PduStream — the PDUs of a connection

A PDU begins with its length in four octets.  `read_pdu`, of which both processes have a copy, reads the length
and keeps it until it has read the rest; each time it tries again it goes on where it was.  What it calls of
`smpp_pdu.c` is a parameter, `PduLib`, of which the theorems ask that it reads with `conn_read_fixed`.

* `pdus_in_order` — the PDUs read at one end are those written at the other, in their order, none left out.
* `readPdu_of_arrived` — when everything has arrived, each call of `read_pdu` finds the next PDU.
-/

namespace SmppServer

open Machinery

/-- `conn_read_fixed` at one end, and what it returns; `none` if the kernel gives what it does not have. -/
def readFixedAt (link : Link) (y : Bool) (length : ℤ) (answer : ReadAnswer) : Option (Option Octstr × Link) :=
  (link.step y (.readFixed length answer)).map fun link' =>
    (((CriticalSection.readFixed length answer).run (link.conn y)).got, link')

/-- What is called of `smpp_pdu.c` at one end; `lenOf` is the length that a length word stands for, `-1` for
garbage. -/
structure PduLib (P : Type*) where
  lenOf : Octstr → ℤ
  smppPduReadLen : Link → Bool → ReadAnswer → Option (ℤ × Link)
  smppPduReadData : Link → Bool → ℤ → ReadAnswer → Option (Option Octstr × Link)
  smppPduUnpack : Octstr → Option P

/-- It reads with `conn_read_fixed`: `0` and `NULL` as long as there are not enough octets. -/
structure PduLib.ReadsFixed {P : Type*} (lib : PduLib P) : Prop where
  readLen : ∀ (link : Link) (y : Bool) (answer : ReadAnswer), lib.smppPduReadLen link y answer =
    (readFixedAt link y 4 answer).map fun r => (r.1.elim 0 lib.lenOf, r.2)
  readData : ∀ (link : Link) (y : Bool) (len : ℤ) (answer : ReadAnswer),
    lib.smppPduReadData link y len answer = readFixedAt link y (len - 4) answer

variable {P : Type*} (lib : PduLib P)

/-- The length word says how long a PDU is. -/
def pduFraming : Framing UInt8 where
  head := 4
  size w := some (lib.lenOf w).toNat

/-- A PDU that is packed: its length word says how many octets there are, and the others can be unpacked. -/
structure Packed (m : Octstr) : Prop where
  frame : (pduFraming lib).IsFrame m
  unpacks : (lib.smppPduUnpack (m.drop 4)).isSome = true

/-- Two connections with the length that the reader of each end keeps, what was written there as PDUs, and what
`read_pdu` returned there. -/
structure PduLink (P : Type*) where
  link : Link
  len : Bool → ℤ
  written : Bool → List Octstr
  read : Bool → List P

/-- What `read_pdu` returns. -/
structure ReadResult (P : Type*) where
  ret : ℤ
  after : PduLink P

section Code

variable (l : PduLink P) (y : Bool)

/-- `conn_eof(conn) || conn_error(conn)`. -/
def broken : Bool := (l.link.conn y).readEof || (l.link.conn y).ioError

/-- `read_pdu`, once the length is known. -/
def readPduData (answer : ReadAnswer) : Option (ReadResult P) :=
  (lib.smppPduReadData l.link y (l.len y) answer).map fun
    | (none, link) =>
      let l := { l with link := link }
      ⟨if broken l y then -1 else 0, l⟩
    | (some os, link) =>
      let l := { l with link := link, len := Function.update l.len y 0 }
      match lib.smppPduUnpack os with
      | none => ⟨-1, l⟩
      | some pdu => ⟨1, { l with read := Function.update l.read y (l.read y ++ [pdu]) }⟩

/-- **`read_pdu`** at one end; `none` if the kernel gives what it does not have. -/
def readPdu (answer answer' : ReadAnswer) : Option (ReadResult P) :=
  if l.len y = 0 then
    (lib.smppPduReadLen l.link y answer).bind fun (len, link) =>
      let l := { l with link := link, len := Function.update l.len y len }
      if len = -1 then some ⟨-1, l⟩
      else if len = 0 then some ⟨if broken l y then -1 else 0, l⟩
      else readPduData lib l y answer'
  else readPduData lib l y answer'

end Code

/-- What is done at one end: a PDU is written, `read_pdu` is called, or the connection is used otherwise. -/
inductive PduStep
  | write (os : Octstr) (answer : WriteAnswer)
  | readPdu (answer answer' : ReadAnswer)
  | other (s : CriticalSection)
  deriving DecidableEq, Repr

/-- The sections that neither give nor cut. -/
def CriticalSection.passes : CriticalSection → Bool
  | .setOutputBuffering .. | .write _ | .read _ | .register | .unregister | .pollError => true
  | _ => false

/-- A step at one end. -/
def PduLink.step (l : PduLink P) (x : Bool) : PduStep → Option (PduLink P)
  | .write os answer =>
    (l.link.step x (.append os answer)).map fun link =>
      { l with link := link, written := Function.update l.written x (l.written x ++ [os]) }
  | .readPdu answer answer' => (SmppServer.readPdu lib l x answer answer').map (·.after)
  | .other s => if s.passes then (l.link.step x s).map fun link => { l with link := link } else none

/-- A run. -/
def PduLink.run (l : PduLink P) : List (Bool × PduStep) → Option (PduLink P)
  | [] => some l
  | (x, s) :: steps => (l.step lib x s).bind fun l => l.run steps

/-- Two new connections. -/
def PduLink.new : PduLink P := ⟨Link.new, fun _ => 0, fun _ => [], fun _ => []⟩

/-! ## What has been read

What has been cut at an end are whole PDUs, and perhaps the length word of the next one, which `read_pdu` keeps
in its variable until it has read the rest. -/

/-- Everything written is a PDU. -/
def AllPacked (l : PduLink P) : Prop := ∀ x, ∀ m ∈ l.written x, Packed lib m

/-- How far the reader of an end has got: behind some PDUs, and perhaps behind the length word of the next. -/
structure ReadTo (l : PduLink P) (y : Bool) (done todo : List Octstr) (held : Octstr) : Prop where
  written : l.written (!y) = done ++ todo
  cut : l.link.cut y = done.flatten ++ held
  read : (l.read y).map some = done.map fun m => lib.smppPduUnpack (m.drop 4)
  held : held = [] ∧ l.len y = 0 ∨ ∃ m rest, todo = m :: rest ∧ held = m.take 4 ∧ l.len y = m.length

/-- What holds throughout a run. -/
structure PduLink.Ok (l : PduLink P) : Prop where
  balanced : l.link.Balanced
  given : ∀ x, l.link.given x = (l.written x).flatten
  readTo : ∀ y, ∃ done todo held, ReadTo lib l y done todo held

section Read

variable {lib} {l l' : PduLink P} {y : Bool} {got : Option Octstr} {n : ℕ} {answer answer' : ReadAnswer}

/-- `conn_read_fixed` cuts what it returns, and nothing if it returns nothing. -/
theorem tryTwice_fixed (c : Conn) (n : ℕ) (answer : ReadAnswer) :
    (tryTwice c (Attempt.fixed n) answer).got = none ∧ (tryTwice c (Attempt.fixed n) answer).cut = [] ∨
      ∃ os, (tryTwice c (Attempt.fixed n) answer).got = some os ∧ os.length = n ∧ (tryTwice c (Attempt.fixed n) answer).cut = os := by
  have honce : ∀ c : Conn, (attemptOnce c (Attempt.fixed n)).got = none ∧ (attemptOnce c (Attempt.fixed n)).cut = [] ∨
      ∃ os, (attemptOnce c (Attempt.fixed n)).got = some os ∧ os.length = n ∧ (attemptOnce c (Attempt.fixed n)).cut = os := by
    intro c
    by_cases hlen : c.inbuf.content.length < n
    · left
      simp [attemptOnce, Attempt.fixed, hlen]
    · right
      refine ⟨c.inbuf.content.take n, ?_, List.length_take_of_le (Nat.not_lt.mp hlen), ?_⟩
      · simp [attemptOnce, Attempt.fixed, hlen]
      · simp [attemptOnce, Attempt.fixed, hlen]
  simp only [tryTwice]
  split
  · exact honce c
  · next hfirst =>
    obtain ⟨-, hcut⟩ | ⟨os, hgot, -⟩ := honce c
    · rw [hcut, List.nil_append]
      exact honce _
    · exact absurd (by rw [hgot]; rfl) hfirst

/-- What `conn_read_fixed` does at one end. -/
theorem readFixedAt_eq_some {link link' : Link} (h : readFixedAt link y n answer = some (got, link')) (hn : 0 < n) :
    (link.Balanced → link'.Balanced) ∧ link'.given = link.given ∧ (∀ z, z ≠ y → link'.cut z = link.cut z) ∧
      (got = none ∧ link'.cut y = link.cut y ∨
        ∃ os, got = some os ∧ os.length = n ∧ link'.cut y = link.cut y ++ os) := by
  obtain ⟨link', hstep, heq⟩ := Option.map_eq_some_iff.mp h
  obtain ⟨rfl, rfl⟩ := Prod.mk.inj heq
  have hone : ¬ (n : ℤ) < 1 := by omega
  have hrun : (CriticalSection.readFixed n answer).run (link.conn y) =
      tryTwice (link.conn y) (Attempt.fixed n) answer := by
    rw [CriticalSection.run, connReadFixed, if_neg hone, Int.toNat_natCast]
  have hbalanced : link.Balanced → link'.Balanced := fun hl => hl.step hstep
  obtain ⟨-, hlink⟩ := Option.ite_none_right_eq_some.mp hstep
  rw [hrun] at hlink ⊢
  have hgiven := (tryTwice_balance (link.conn y) (Attempt.fixed n) answer).2.2.1
  refine ⟨hbalanced, ?_, fun z hz => ?_, ?_⟩
  · rw [← Option.some.inj hlink, hgiven, List.append_nil]
    exact Function.update_eq_self y link.given
  · rw [← Option.some.inj hlink]
    exact Function.update_of_ne hz _ _
  · have hcut : link'.cut y = link.cut y ++ (tryTwice (link.conn y) (Attempt.fixed n) answer).cut := by
      rw [← Option.some.inj hlink]
      exact Function.update_self y _ _
    rw [hcut]
    obtain ⟨hnone, hnil⟩ | ⟨os, hsome, hlen, hos⟩ := tryTwice_fixed (link.conn y) n answer
    · exact .inl ⟨hnone, by rw [hnil, List.append_nil]⟩
    · exact .inr ⟨os, hsome, hlen, by rw [hos]⟩

/-- What is cut next stands where the reader has got to. -/
theorem ReadTo.todo_flatten {done todo : List Octstr} {held os : Octstr} {link : Link}
    (h : ReadTo lib l y done todo held) (hl : link.Balanced) (hgiven : link.given (!y) = (l.written (!y)).flatten)
    (hcut : link.cut y = l.link.cut y ++ os) : ∃ s, todo.flatten = held ++ (os ++ s) := by
  have hstream := hl (!y)
  rw [hgiven, h.written, List.flatten_append, Bool.not_not, hcut, h.cut] at hstream
  simp only [List.append_assoc] at hstream
  exact ⟨_, List.append_cancel_left hstream⟩

/-- What is read at one end does not change how far the reader of the other has got. -/
theorem ReadTo.other {done todo : List Octstr} {held : Octstr} {z : Bool} (h : ReadTo lib l z done todo held)
    (hwritten : l'.written = l.written) (hcut : l'.link.cut z = l.link.cut z) (hread : l'.read z = l.read z)
    (hlen : l'.len z = l.len z) : ReadTo lib l' z done todo held :=
  ⟨by rw [hwritten, h.written], by rw [hcut, h.cut], by rw [hread, h.read], by rw [hlen]; exact h.held⟩

/-- Where the reader of a PDU has got to, once it knows its length. -/
theorem ReadTo.of_len {done todo : List Octstr} {held : Octstr} (h : ReadTo lib l y done todo held)
    (hlen : l.len y ≠ 0) : ∃ m rest, todo = m :: rest ∧ held = m.take 4 ∧ l.len y = m.length :=
  h.held.resolve_left fun hnil => hlen hnil.2

/-- Nothing was cut: the readers of both ends are where they were. -/
theorem PduLink.Ok.unread {link : Link} (hok : l.Ok lib) (hbalanced : link.Balanced)
    (hgiven : link.given = l.link.given) (hother : ∀ z, z ≠ y → link.cut z = l.link.cut z)
    (hcut : link.cut y = l.link.cut y) : ({ l with link := link } : PduLink P).Ok lib := by
  refine ⟨hbalanced, fun x => by rw [hgiven, hok.given], fun z => ?_⟩
  obtain ⟨done, todo, held, hz⟩ := hok.readTo z
  refine ⟨done, todo, held, hz.other rfl ?_ rfl rfl⟩
  by_cases hzy : z = y
  · exact hzy ▸ hcut
  · exact hother z hzy

/-- Four octets were cut, behind whole PDUs: they are the length word of the next. -/
theorem PduLink.Ok.readLength {link : Link} {os : Octstr} (hok : l.Ok lib) (hpacked : AllPacked lib l)
    (hlen : l.len y = 0) (hbalanced : link.Balanced) (hgiven : link.given = l.link.given)
    (hother : ∀ z, z ≠ y → link.cut z = l.link.cut z) (hos : os.length = 4)
    (hcut : link.cut y = l.link.cut y ++ os) :
    4 < lib.lenOf os ∧
      ({ l with link := link, len := Function.update l.len y (lib.lenOf os) } : PduLink P).Ok lib := by
  have hgiven' : ∀ x, link.given x = (l.written x).flatten := fun x => by rw [hgiven, hok.given]
  obtain ⟨done, todo, held, hto⟩ := hok.readTo y
  have htodo : ∀ m ∈ todo, (pduFraming lib).IsFrame m := fun m hm =>
    (hpacked (!y) m (by rw [hto.written]; exact List.mem_append_right _ hm)).frame
  obtain ⟨rfl, -⟩ : held = [] ∧ l.len y = 0 := hto.held.resolve_right fun ⟨m, rest, heq, _, hm⟩ => by
    have hlong : 4 < m.length := (htodo m (by simp [heq])).head
    omega
  obtain ⟨s, hs⟩ := hto.todo_flatten hbalanced (hgiven' _) hcut
  rw [List.nil_append] at hs
  obtain ⟨m, rest, rfl, hm⟩ := Framing.eq_cons_of_head htodo (by decide : 0 < 4) hos hs
  have hframe := htodo m List.mem_cons_self
  have hsize : (lib.lenOf os).toNat = m.length := by
    have hsize := hframe.size
    rw [hm] at hsize
    exact Option.some.inj hsize
  have hlong : 4 < m.length := hframe.head
  have hlenOf : lib.lenOf os = m.length := by omega
  refine ⟨by omega, hbalanced, hgiven', fun z => ?_⟩
  by_cases hzy : z = y
  · subst hzy
    refine ⟨done, m :: rest, os, hto.written, ?_, hto.read, .inr ⟨m, rest, rfl, hm.symm, ?_⟩⟩
    · rw [hcut, hto.cut, List.append_nil]
    · exact (Function.update_self z _ _).trans hlenOf
  · obtain ⟨done', todo', held', hz⟩ := hok.readTo z
    exact ⟨done', todo', held', hz.other rfl (hother z hzy) rfl (Function.update_of_ne hzy _ _)⟩

/-- **Reading the rest of a PDU.** -/
theorem readPduData_ok {r : ReadResult P} (hlib : lib.ReadsFixed) (hok : l.Ok lib) (hpacked : AllPacked lib l)
    (hlen : l.len y ≠ 0) (h : readPduData lib l y answer = some r) : r.after.Ok lib ∧ r.after.written = l.written := by
  obtain ⟨done, todo, held, hto⟩ := hok.readTo y
  obtain ⟨m, rest, rfl, rfl, hm⟩ := hto.of_len hlen
  have hmem : m ∈ l.written (!y) := by simp [hto.written]
  have hlong : 4 < m.length := (hpacked _ m hmem).frame.head
  obtain ⟨⟨got, link⟩, hread, hr⟩ := Option.map_eq_some_iff.mp h
  have hcast : l.len y - 4 = (m.length - 4 : ℕ) := by omega
  rw [hlib.readData, hcast] at hread
  obtain ⟨hbalanced, hgiven, hother, hcut⟩ := readFixedAt_eq_some hread (by omega)
  obtain ⟨rfl, hcut⟩ | ⟨os, rfl, hos, hcut⟩ := hcut
  · rw [← hr]
    exact ⟨hok.unread (hbalanced hok.balanced) hgiven hother hcut, rfl⟩
  · have hgiven' : ∀ x, link.given x = (l.written x).flatten := fun x => by rw [hgiven, hok.given]
    obtain ⟨s, hs⟩ := hto.todo_flatten (hbalanced hok.balanced) (hgiven' _) hcut
    have hbody : os = m.drop 4 := (Framing.eq_drop_of_body (f := pduFraming lib) hos hs).1
    obtain ⟨pdu, hpdu⟩ := Option.isSome_iff_exists.mp (hpacked _ m hmem).unpacks
    rw [hbody] at hr hcut
    simp only [hpdu] at hr
    rw [← hr]
    refine ⟨⟨hbalanced hok.balanced, hgiven', fun z => ?_⟩, rfl⟩
    by_cases hzy : z = y
    · subst hzy
      refine ⟨done ++ [m], rest, [], ?_, ?_, ?_, .inl ⟨rfl, Function.update_self z _ _⟩⟩
      · simp [hto.written]
      · rw [hcut, hto.cut]
        simp [List.take_append_drop]
      · simp [hto.read, hpdu]
    · obtain ⟨done', todo', held', hz⟩ := hok.readTo z
      exact ⟨done', todo', held', hz.other rfl (hother z hzy) (Function.update_of_ne hzy _ _)
        (Function.update_of_ne hzy _ _)⟩

/-- **Reading a PDU.** -/
theorem readPdu_ok {r : ReadResult P} (hlib : lib.ReadsFixed) (hok : l.Ok lib) (hpacked : AllPacked lib l)
    (h : readPdu lib l y answer answer' = some r) : r.after.Ok lib ∧ r.after.written = l.written := by
  rw [readPdu] at h
  split at h
  · next hlen =>
    rw [hlib.readLen] at h
    obtain ⟨⟨len, link⟩, hmap, hr⟩ := Option.bind_eq_some_iff.mp h
    obtain ⟨⟨got, link⟩, hread, heq⟩ := Option.map_eq_some_iff.mp hmap
    obtain ⟨rfl, rfl⟩ := Prod.mk.inj heq
    obtain ⟨hbalanced, hgiven, hother, hcut⟩ := readFixedAt_eq_some hread (by omega : 0 < 4)
    obtain ⟨rfl, hcut⟩ | ⟨os, rfl, hos, hcut⟩ := hcut
    · -- there are not four octets: the length stays unknown
      have hsame : Function.update l.len y 0 = l.len := by rw [← hlen, Function.update_eq_self]
      simp only [Option.elim_none, hsame] at hr
      rw [if_neg (by decide), if_pos trivial] at hr
      rw [← Option.some.inj hr]
      exact ⟨hok.unread (hbalanced hok.balanced) hgiven hother hcut, rfl⟩
    · obtain ⟨hlong, hok'⟩ := hok.readLength hpacked hlen (hbalanced hok.balanced) hgiven hother hos hcut
      have hdata : readPduData lib { l with link := link, len := Function.update l.len y (lib.lenOf os) } y answer' =
          some r := by
        have hgarbage : ¬ lib.lenOf os = -1 := by omega
        have hzero : ¬ lib.lenOf os = 0 := by omega
        simpa only [Option.elim_some, hgarbage, hzero, if_false] using hr
      have hlen' : Function.update l.len y (lib.lenOf os) y ≠ 0 := by
        rw [Function.update_self]
        omega
      obtain ⟨hafter, hwritten⟩ := readPduData_ok hlib hok' hpacked hlen' hdata
      exact ⟨hafter, hwritten⟩
  · next hlen => exact readPduData_ok hlib hok hpacked hlen h

end Read

/-! ## Runs

A section of another function cuts nothing from the input buffers, so only `read_pdu` moves the reader. -/

section Run

variable {lib} {l l' : PduLink P} {x : Bool}

theorem ok_new : (PduLink.new : PduLink P).Ok lib :=
  ⟨balanced_new, fun _ => rfl, fun _ => ⟨[], [], [], rfl, rfl, rfl, .inl ⟨rfl, rfl⟩⟩⟩

/-- The other sections cut nothing, and are given nothing. -/
theorem run_of_passes {s : CriticalSection} (h : s.passes = true) (c : Conn) :
    (s.run c).given = [] ∧ (s.run c).cut = [] := by
  cases s with
  | append | readEverything | readFixed | readLine | readPacket => cases h
  | _ => exact ⟨rfl, rfl⟩

/-- What a section does to what was written and cut. -/
theorem Link.step_eq_some {l l' : Link} {s : CriticalSection} (h : l.step x s = some l') :
    l'.given = Function.update l.given x (l.given x ++ (s.run (l.conn x)).given) ∧
      l'.cut = Function.update l.cut x (l.cut x ++ (s.run (l.conn x)).cut) := by
  obtain ⟨-, h⟩ := Option.ite_none_right_eq_some.mp h
  rw [← Option.some.inj h]
  exact ⟨rfl, rfl⟩

/-- A PDU is written: it is the last that the reader of the other end has still to come to. -/
theorem PduLink.Ok.write {os : Octstr} {answer : WriteAnswer} {link : Link} (hok : l.Ok lib)
    (hlink : l.link.step x (.append os answer) = some link) :
    ({ l with link := link, written := Function.update l.written x (l.written x ++ [os]) } : PduLink P).Ok lib := by
  obtain ⟨hgiven, hcut⟩ := Link.step_eq_some hlink
  refine ⟨hok.balanced.step hlink, fun z => ?_, fun z => ?_⟩
  · by_cases hz : z = x
    · subst hz
      simp [hgiven, hok.given, CriticalSection.run]
    · simp [hgiven, hok.given, Function.update_of_ne hz]
  · have hcut' : link.cut z = l.link.cut z := by
      have hnil : ((CriticalSection.append os answer).run (l.link.conn x)).cut = [] := rfl
      rw [hcut, hnil, List.append_nil, Function.update_eq_self]
    obtain ⟨done, todo, held, hto⟩ := hok.readTo z
    by_cases hz : (!z) = x
    · refine ⟨done, todo ++ [os], held, ?_, hcut'.trans hto.cut, hto.read, ?_⟩
      · subst hz
        simp [hto.written]
      · refine hto.held.imp id fun hread => ?_
        obtain ⟨m, rest, htodo, hheld, hm⟩ := hread
        exact ⟨m, rest ++ [os], by rw [htodo, List.cons_append], hheld, hm⟩
    · exact ⟨done, todo, held, (Function.update_of_ne hz _ _).trans hto.written, hcut'.trans hto.cut,
        hto.read, hto.held⟩

theorem AllPacked.write {os : Octstr} {link : Link} (hpacked : AllPacked lib l) (hos : Packed lib os) :
    AllPacked lib { l with link := link, written := Function.update l.written x (l.written x ++ [os]) } := by
  intro z m hm
  by_cases hz : z = x
  · subst hz
    have hm' : m ∈ l.written z ++ [os] := by simpa using hm
    obtain hm | hm := List.mem_append.mp hm'
    · exact hpacked z m hm
    · obtain rfl := List.mem_singleton.mp hm
      exact hos
  · exact hpacked z m (by simpa [Function.update_of_ne hz] using hm)

/-- **One step.** -/
theorem PduLink.Ok.step {s : PduStep} (hlib : lib.ReadsFixed) (hok : l.Ok lib) (hpacked : AllPacked lib l)
    (hs : ∀ os answer, s = .write os answer → Packed lib os) (hstep : l.step lib x s = some l') :
    l'.Ok lib ∧ AllPacked lib l' := by
  cases s with
  | write os answer =>
    rw [PduLink.step] at hstep
    obtain ⟨link, hlink, rfl⟩ := Option.map_eq_some_iff.mp hstep
    exact ⟨hok.write hlink, hpacked.write (hs os answer rfl)⟩
  | readPdu answer answer' =>
    obtain ⟨r, hr, rfl⟩ := Option.map_eq_some_iff.mp hstep
    obtain ⟨hok', hwritten⟩ := readPdu_ok hlib hok hpacked hr
    exact ⟨hok', fun z m hm => hpacked z m (hwritten ▸ hm)⟩
  | other s =>
    obtain ⟨hpasses, hstep⟩ := Option.ite_none_right_eq_some.mp hstep
    obtain ⟨link, hlink, rfl⟩ := Option.map_eq_some_iff.mp hstep
    obtain ⟨hgiven, hcut⟩ := Link.step_eq_some hlink
    obtain ⟨hnone, hnil⟩ := run_of_passes hpasses (l.link.conn x)
    rw [hnone, List.append_nil, Function.update_eq_self] at hgiven
    rw [hnil, List.append_nil, Function.update_eq_self] at hcut
    have hok' := hok.unread (hok.balanced.step hlink) hgiven (fun z _ => congrFun hcut z) (congrFun hcut x)
    exact ⟨hok', hpacked⟩

theorem PduLink.Ok.run {steps : List (Bool × PduStep)} (hlib : lib.ReadsFixed) (hok : l.Ok lib)
    (hpacked : AllPacked lib l)
    (hs : ∀ step ∈ steps, ∀ os answer, step.2 = .write os answer → Packed lib os)
    (hrun : l.run lib steps = some l') : l'.Ok lib ∧ AllPacked lib l' := by
  induction steps generalizing l with
  | nil => exact Option.some.inj hrun ▸ ⟨hok, hpacked⟩
  | cons step steps ih =>
    obtain ⟨hs, hrest⟩ := List.forall_mem_cons.mp hs
    obtain ⟨l₁, hstep, hrun⟩ := Option.bind_eq_some_iff.mp hrun
    obtain ⟨hok', hpacked'⟩ := PduLink.Ok.step hlib hok hpacked hs hstep
    exact ih hok' hpacked' hrest hrun

/-- **The PDUs are read in order.**  In every run of two new connections with any use of them by threads, of
which only PDUs are written: the PDUs that `read_pdu` returned at one end are the first of those written at
the other, in their order. -/
theorem pdus_in_order (hlib : lib.ReadsFixed) {steps : List (Bool × PduStep)}
    (hs : ∀ step ∈ steps, ∀ os answer, step.2 = .write os answer → Packed lib os)
    (hrun : PduLink.new.run lib steps = some l) (y : Bool) :
    (l.read y).map some <+: (l.written (!y)).map fun m => lib.smppPduUnpack (m.drop 4) := by
  obtain ⟨hok, -⟩ := PduLink.Ok.run hlib ok_new (fun _ _ h => absurd h List.not_mem_nil) hs hrun
  obtain ⟨done, todo, held, hto⟩ := hok.readTo y
  rw [hto.read, hto.written, List.map_append]
  exact List.prefix_append _ _

/-- PDUs of less than 256 octets, unpacked to their octets. -/
def sampleLib : PduLib Octstr where
  lenOf w := (w.getLastD 0).toNat
  smppPduReadLen link y answer :=
    (readFixedAt link y 4 answer).map fun r => (r.1.elim 0 fun w => ((w.getLastD 0).toNat : ℤ), r.2)
  smppPduReadData link y len answer := readFixedAt link y (len - 4) answer
  smppPduUnpack os := some os

theorem readsFixed_sampleLib : sampleLib.ReadsFixed := ⟨fun _ _ _ => rfl, fun _ _ _ _ => rfl⟩

/-- A PDU of six octets is written, of which the kernel takes three and later the others, and it is read in
three pieces. -/
def sampleSteps : List (Bool × PduStep) := [
  (false, .write [0, 0, 0, 6, 8, 9] (.accepted 3)),
  (true, .readPdu (.data [0, 0]) .again),
  (false, .other (.write (.accepted 3))),
  (true, .readPdu (.data [0, 6]) (.data [8])),
  (true, .other (.read (.data [9]))) ]

theorem packed_sampleSteps : ∀ step ∈ sampleSteps, ∀ os answer, step.2 = .write os answer → Packed sampleLib os := by
  simp only [sampleSteps, List.forall_mem_cons, PduStep.write.injEq, reduceCtorEq, false_implies, implies_true,
    List.not_mem_nil, and_true]
  rintro os answer ⟨rfl, rfl⟩
  exact ⟨⟨by decide, rfl⟩, rfl⟩

theorem pdus_in_order_sampleSteps :
    ∃ l, PduLink.new.run sampleLib sampleSteps = some l ∧
      ∀ y, (l.read y).map some <+: (l.written (!y)).map fun m => sampleLib.smppPduUnpack (m.drop 4) :=
  ⟨_, rfl, pdus_in_order readsFixed_sampleLib packed_sampleSteps (rfl : PduLink.new.run sampleLib sampleSteps = some _)⟩

end Run

/-! ## When everything has arrived

What has arrived is in the input buffer, and `conn_read_fixed` finds it there at its first attempt: what the
kernel would answer is not asked for. -/

section Arrived

variable {lib} {l l' : PduLink P} {y : Bool} {m : Octstr} {n : ℕ} (answer answer' : ReadAnswer)

/-- Nothing is on the way to this end, nor in the output buffer of the other. -/
def Arrived (l : PduLink P) (y : Bool) : Prop :=
  l.link.wire (!y) = [] ∧ (l.link.conn (!y)).outbuf.content = []

theorem Packed.lenOf (h : Packed lib m) : lib.lenOf (m.take 4) = m.length := by
  have hsize : some (lib.lenOf (m.take 4)).toNat = some m.length := h.frame.size
  have hlong : 4 < m.length := h.frame.head
  have hnat := Option.some.inj hsize
  omega

/-- What the input buffer has is read at once. -/
theorem readFixedAt_of_le {link : Link} (hn : 0 < n) (hle : n ≤ (link.conn y).inbuf.content.length) :
    ∃ link', readFixedAt link y n answer = some (some ((link.conn y).inbuf.content.take n), link') ∧
      (link'.conn y).inbuf.content = (link.conn y).inbuf.content.drop n ∧
      link'.conn (!y) = link.conn (!y) ∧ link'.wire (!y) = link.wire (!y) := by
  have hone : ¬ (n : ℤ) < 1 := by omega
  have hrun : (CriticalSection.readFixed n answer).run (link.conn y) =
      { conn := { link.conn y with inbuf := (link.conn y).inbuf.advance n }
        cut := (link.conn y).inbuf.content.take n
        got := some ((link.conn y).inbuf.content.take n) } := by
    rw [CriticalSection.run, connReadFixed, if_neg hone, Int.toNat_natCast]
    simp [tryTwice, attemptOnce, Attempt.fixed, Nat.not_lt.mpr hle]
  rw [readFixedAt, Link.step, hrun]
  simp

/-- The rest of a PDU is there. -/
theorem readPduData_of_arrived {rest : Octstr} (hlib : lib.ReadsFixed) (hm : Packed lib m) (h : Arrived l y)
    (hlen : l.len y = m.length) (hinbuf : (l.link.conn y).inbuf.content = m.drop 4 ++ rest) :
    ∃ r, readPduData lib l y answer = some r ∧ r.ret = 1 ∧ Arrived r.after y ∧
      (r.after.read y).length = (l.read y).length + 1 := by
  have hlong : 4 < m.length := hm.frame.head
  have hdrop : (m.drop 4).length = m.length - 4 := List.length_drop
  have hcast : l.len y - 4 = (m.length - 4 : ℕ) := by omega
  have htake : (l.link.conn y).inbuf.content.take (m.length - 4) = m.drop 4 := by
    rw [hinbuf, List.take_append_of_le_length hdrop.ge, List.take_of_length_le hdrop.le]
  have hle : m.length - 4 ≤ (l.link.conn y).inbuf.content.length := by
    rw [hinbuf, List.length_append]
    omega
  obtain ⟨link, hread, -, hconn, hwire⟩ := readFixedAt_of_le answer (by omega) hle
  obtain ⟨pdu, hpdu⟩ := Option.isSome_iff_exists.mp hm.unpacks
  rw [readPduData, hlib.readData, hcast, hread, htake]
  simp only [Option.map_some, hpdu]
  refine ⟨_, rfl, rfl, ⟨hwire.trans h.1, ?_⟩, by simp⟩
  exact (congrArg (fun c : Conn => c.outbuf.content) hconn).trans h.2

/-- As long as fewer PDUs were read than written, there is one that the reader has still to come to. -/
theorem ReadTo.exists_cons {done todo : List Octstr} {held : Octstr} (h : ReadTo lib l y done todo held)
    (hless : (l.read y).length < (l.written (!y)).length) : ∃ m rest, todo = m :: rest := by
  have hdone : (l.read y).length = done.length := by
    have hlen := congrArg List.length h.read
    rwa [List.length_map, List.length_map] at hlen
  refine List.exists_cons_of_ne_nil fun hnil => ?_
  rw [hdone, h.written, hnil, List.append_nil] at hless
  exact lt_irrefl _ hless

/-- What is left of the stream is in the input buffer. -/
theorem ReadTo.inbuf_of_arrived {done todo : List Octstr} {held : Octstr} (hto : ReadTo lib l y done todo held)
    (hok : l.Ok lib) (h : Arrived l y) : todo.flatten = held ++ (l.link.conn y).inbuf.content := by
  have hstream := hok.balanced (!y)
  rw [hok.given, hto.written, List.flatten_append, Bool.not_not, hto.cut, h.1, h.2] at hstream
  simp only [List.append_nil, List.append_assoc] at hstream
  exact List.append_cancel_left hstream

/-- **Each call finds the next PDU.** -/
theorem readPdu_of_arrived (hlib : lib.ReadsFixed) (hok : l.Ok lib) (hpacked : AllPacked lib l) (h : Arrived l y)
    (hless : (l.read y).length < (l.written (!y)).length) :
    ∃ r, readPdu lib l y answer answer' = some r ∧ r.ret = 1 ∧ Arrived r.after y ∧
      (r.after.read y).length = (l.read y).length + 1 := by
  obtain ⟨done, todo, held, hto⟩ := hok.readTo y
  obtain ⟨m, rest, rfl⟩ := hto.exists_cons hless
  have hm : Packed lib m := hpacked (!y) m (by simp [hto.written])
  have hlong : 4 < m.length := hm.frame.head
  have hinbuf := hto.inbuf_of_arrived hok h
  rw [List.flatten_cons] at hinbuf
  obtain ⟨rfl, hlen⟩ | ⟨m', rest', heq, rfl, hlen⟩ := hto.held
  · rw [List.nil_append] at hinbuf
    have hle : 4 ≤ (l.link.conn y).inbuf.content.length := by
      rw [← hinbuf, List.length_append]
      omega
    obtain ⟨link, hread, hrest, hconn, hwire⟩ := readFixedAt_of_le answer (by decide : 0 < 4) hle
    rw [← hinbuf, List.take_append_of_le_length hlong.le] at hread
    rw [← hinbuf, List.drop_append_of_le_length hlong.le] at hrest
    have harrived : Arrived { l with link := link, len := Function.update l.len y (lib.lenOf (m.take 4)) } y :=
      ⟨hwire.trans h.1, (congrArg (fun c : Conn => c.outbuf.content) hconn).trans h.2⟩
    have hlen' : Function.update l.len y (lib.lenOf (m.take 4)) y = m.length := by
      rw [Function.update_self, hm.lenOf]
    obtain ⟨r, hr, hret, hafter, hcount⟩ := readPduData_of_arrived answer' hlib hm harrived hlen' hrest
    refine ⟨r, ?_, hret, hafter, hcount⟩
    have hfour : readFixedAt l.link y 4 answer = some (some (m.take 4), link) := hread
    have hgarbage : ¬ lib.lenOf (m.take 4) = -1 := by rw [hm.lenOf]; omega
    have hzero : ¬ lib.lenOf (m.take 4) = 0 := by rw [hm.lenOf]; omega
    rw [readPdu, if_pos hlen, hlib.readLen, hfour, Option.map_some, Option.bind_some]
    simpa only [Option.elim_some, hgarbage, hzero, if_false] using hr
  · obtain ⟨rfl, rfl⟩ := List.cons.inj heq
    have hrest : (l.link.conn y).inbuf.content = m.drop 4 ++ rest.flatten := by
      nth_rewrite 1 [← List.take_append_drop 4 m] at hinbuf
      rw [List.append_assoc] at hinbuf
      exact (List.append_cancel_left hinbuf).symm
    obtain ⟨r, hr, hret, hafter, hcount⟩ := readPduData_of_arrived answer' hlib hm h hlen hrest
    refine ⟨r, ?_, hret, hafter, hcount⟩
    rw [readPdu, if_neg (by omega)]
    exact hr

/-- What has been read, if it is as much as was written. -/
theorem PduLink.Ok.read_eq (hok : l.Ok lib) (hk : (l.written (!y)).length ≤ (l.read y).length) :
    (l.read y).map some = (l.written (!y)).map fun m => lib.smppPduUnpack (m.drop 4) := by
  obtain ⟨done, todo, held, hto⟩ := hok.readTo y
  have hlen := congrArg List.length hto.read
  rw [List.length_map, List.length_map] at hlen
  rw [hto.written, List.length_append] at hk
  have hnil : todo = [] := List.length_eq_zero_iff.mp (by omega)
  rw [hto.read, hto.written, hnil, List.append_nil]

/-- **The calls that are left**: each of them finds a PDU, until there is none left. -/
theorem PduLink.Ok.read_rest (hlib : lib.ReadsFixed) (hok : l.Ok lib) (hpacked : AllPacked lib l) (h : Arrived l y)
    {answers : List (ReadAnswer × ReadAnswer)}
    (hanswers : (l.read y).length + answers.length = (l.written (!y)).length) :
    ∃ l', l.run lib (answers.map fun a => (y, .readPdu a.1 a.2)) = some l' ∧
      (l'.read y).map some = (l.written (!y)).map fun m => lib.smppPduUnpack (m.drop 4) := by
  induction answers generalizing l with
  | nil => exact ⟨l, rfl, hok.read_eq hanswers.ge⟩
  | cons a answers ih =>
    rw [List.length_cons] at hanswers
    obtain ⟨r, hr, -, hafter, hcount⟩ := readPdu_of_arrived a.1 a.2 hlib hok hpacked h (by omega)
    obtain ⟨hok', hwritten⟩ := readPdu_ok hlib hok hpacked hr
    obtain ⟨l', hrun, hread⟩ := ih hok' (fun z m hm => hpacked z m (hwritten ▸ hm)) hafter
      (by rw [hwritten, hcount]; omega)
    refine ⟨l', ?_, by rw [hread, hwritten]⟩
    have hstep : l.step lib y (.readPdu a.1 a.2) = some r.after := by
      rw [PduLink.step, hr, Option.map_some]
    rw [List.map_cons, PduLink.run, hstep, Option.bind_some, hrun]

/-- **Everything is read in the end.**  After any such run, once the octets have arrived, as many calls of `read_pdu`
as there are PDUs left, whatever the kernel would answer to each of them, leave no PDU unread. -/
theorem pdus_all_read (hlib : lib.ReadsFixed) {steps : List (Bool × PduStep)}
    (hs : ∀ step ∈ steps, ∀ os answer, step.2 = .write os answer → Packed lib os)
    (hrun : PduLink.new.run lib steps = some l) (h : Arrived l y) (answers : List (ReadAnswer × ReadAnswer))
    (hanswers : (l.read y).length + answers.length = (l.written (!y)).length) :
    ∃ l', l.run lib (answers.map fun a => (y, .readPdu a.1 a.2)) = some l' ∧
      (l'.read y).map some = (l.written (!y)).map fun m => lib.smppPduUnpack (m.drop 4) := by
  obtain ⟨hok, hpacked⟩ := PduLink.Ok.run hlib ok_new (fun _ _ h => absurd h List.not_mem_nil) hs hrun
  exact PduLink.Ok.read_rest hlib hok hpacked h hanswers

theorem pdus_all_read_sampleSteps :
    ∃ l, PduLink.new.run sampleLib sampleSteps = some l ∧
      ∃ l', l.run sampleLib [(true, .readPdu .again .eof)] = some l' ∧
        (l'.read true).map some = (l.written false).map fun m => sampleLib.smppPduUnpack (m.drop 4) :=
  ⟨_, rfl, pdus_all_read readsFixed_sampleLib packed_sampleSteps
    (rfl : PduLink.new.run sampleLib sampleSteps = some _) ⟨rfl, rfl⟩ [(.again, .eof)] rfl⟩

end Arrived

end SmppServer
