import SmppServer.Gwlib.Conn

/-!
# Gwlib/ConnLink — two connections over a network

Two processes have a connection each, and the network between them carries the octets that the one kernel
took, in their order, to the other.  Threads of both processes use their connection as they like, and the
kernels take and give as much as they like at a time.

* `link_stream` — whatever is cut out at one end is what was written at the other, in its order.
-/

namespace SmppServer

open Machinery

/-- Two connections; for each end what is on its way from there, what was written there, and what was cut out
there. -/
structure Link where
  conn : Bool → Conn
  wire : Bool → Octstr
  given : Bool → Octstr
  cut : Bool → Octstr

/-- Two new connections. -/
def Link.new : Link := ⟨fun _ => {}, fun _ => [], fun _ => [], fun _ => []⟩

/-- A critical section at one end; what its kernel gives must have been on the way. -/
def Link.step (l : Link) (x : Bool) (s : CriticalSection) : Option Link :=
  let o := s.run (l.conn x)
  if o.inp <+: l.wire (!x) then
    some { conn := Function.update l.conn x o.conn
           wire := Function.update (Function.update l.wire (!x) ((l.wire (!x)).drop o.inp.length)) x
             (l.wire x ++ o.out)
           given := Function.update l.given x (l.given x ++ o.given)
           cut := Function.update l.cut x (l.cut x ++ o.cut) }
  else none

/-- A run. -/
def Link.run (l : Link) : List (Bool × CriticalSection) → Option Link
  | [] => some l
  | (x, s) :: steps => (l.step x s).bind fun l => l.run steps

/-- What was written at one end is where: cut out at the other, in its input buffer, on the way, or still in
the output buffer. -/
def Link.Balanced (l : Link) : Prop :=
  ∀ x, l.given x = l.cut (!x) ++ (l.conn (!x)).inbuf.content ++ l.wire x ++ (l.conn x).outbuf.content

section Balanced

variable {l l' : Link} {x : Bool} {s : CriticalSection}

theorem balanced_new : Link.new.Balanced := fun _ => rfl

/-- **One section at one end.** -/
theorem Link.Balanced.step (h : l.Balanced) (hstep : l.step x s = some l') : l'.Balanced := by
  obtain ⟨hinp, hstep⟩ := Option.ite_none_right_eq_some.mp hstep
  obtain ⟨hout, hin⟩ := s.run_balance (l.conn x)
  obtain ⟨rest, hrest⟩ := hinp
  have hthere := h x
  have hback := h (!x)
  rw [Bool.not_not] at hback
  rw [← Option.some.inj hstep]
  intro y
  obtain rfl | rfl : y = x ∨ y = !x := by cases x <;> cases y <;> simp
  · simp only [Function.update_self, ne_eq, Bool.not_eq_self, not_false_eq_true, Function.update_of_ne]
    rw [hthere, List.append_assoc _ (l.conn y).outbuf.content, ← hout]
    simp only [List.append_assoc]
  · simp only [Bool.not_not, Function.update_self, ne_eq, Bool.not_eq_self, not_false_eq_true,
      Function.update_of_ne]
    have hcut : l.cut x ++ (l.conn x).inbuf.content ++ (s.run (l.conn x)).inp =
        l.cut x ++ (s.run (l.conn x)).cut ++ (s.run (l.conn x)).conn.inbuf.content := by
      rw [List.append_assoc, ← hin, List.append_assoc]
    rw [hback, ← hrest, List.drop_left, ← List.append_assoc _ _ rest, hcut]

/-- A run keeps the balance. -/
theorem Link.Balanced.run {steps : List (Bool × CriticalSection)} (h : l.Balanced) (hrun : l.run steps = some l') :
    l'.Balanced := by
  induction steps generalizing l with
  | nil => exact Option.some.inj hrun ▸ h
  | cons step steps ih =>
    obtain ⟨l₁, hstep, hrest⟩ := Option.bind_eq_some_iff.mp hrun
    exact ih (h.step hstep) hrest

/-- **The octets arrive in their order.**  In every run of two new connections, what was cut out at one end,
what has been read there, what is on the way and what has not been given to the kernel at the other end are
together what was written at the other end. -/
theorem link_stream {steps : List (Bool × CriticalSection)} (h : Link.new.run steps = some l) (x : Bool) :
    l.given x = l.cut (!x) ++ (l.conn (!x)).inbuf.content ++ l.wire x ++ (l.conn x).outbuf.content :=
  balanced_new.run h x

/-- Three octets are written, one is taken at once and the others later, and they are read in two parts. -/
theorem link_stream_sample :
    ∃ l, Link.new.run [(false, .append [1, 10, 3] (.accepted 1)), (true, .readLine (.data [1])),
        (false, .write (.accepted 5)), (true, .readLine (.data [10]))] = some l ∧
      ∀ x, l.given x = l.cut (!x) ++ (l.conn (!x)).inbuf.content ++ l.wire x ++ (l.conn x).outbuf.content :=
  ⟨_, rfl, link_stream (rfl : Link.new.run [(false, .append [1, 10, 3] (.accepted 1)), (true, .readLine (.data [1])),
    (false, .write (.accepted 5)), (true, .readLine (.data [10]))] = some _)⟩

end Balanced

end SmppServer
