import SmppServer.Esme.Bind
import SmppServer.Machinery.Exec

/-!
# Smsc/DbboxStatus — telling the ESME process whether dbbox is there

The ESME process binds nobody while the SMSC process has no connection to dbbox; it knows from the `admin` messages
that `manage_log_thread` of the SMSC process sends.  That thread learns of a connection through a variable that
another thread sets, `client_cmd` for the one to dbbox and `server_cmd` for the one to the ESME process: it looks at
the variable, acts, and sets it back.  What is put there in between is lost.

* `dbboxStatus_mirrored` — when everything is quiet the ESME process knows the status, in every run that loses no
  command; and everything gets quiet by itself.
* `lost_command_sticks` — when dbbox connects, or disconnects, while the last command is being acted on, the ESME
  process takes it for the contrary until something else happens.
-/

namespace SmppServer.SmppSmsc

open Machinery SmppEsme

/-! ## The code

`manage_log_thread` is cut where another thread may write `client_cmd`: between looking at it, acting on it, and
setting it back. -/

/-- Where `manage_log_thread` is.  The value with `compareConnected` and `sendMsg1` is `msg1->admin.command`, if it
has been set. -/
inductive ManagePc
  | serverCmd
  | readStatus
  | sendStatus (command : Bool)
  | clearServerCmd
  | clientCmd
  | compareConnected (command : Option Bool)
  | sendMsg1 (command : Option Bool)
  | clearClientCmd
  deriving DecidableEq, Repr

/-- The connection of the SMSC process to dbbox, its thread, the connection of the ESME process with the `admin`
messages under way on it, and what the ESME process was told last.  In the two variables and in the messages `true`
stands for a connection made, `false` for one that was lost. -/
structure DbboxStatus where
  dbboxConnected : Bool := false
  clientCmd : Option Bool := none
  reverseConnected : Bool := false
  serverCmd : Option Bool := none
  manage : ManagePc := .serverCmd
  inFlight : List (Option Bool) := []
  dbboxConnectedToClient : ℤ := -1
  deriving DecidableEq, Repr

/-- What happens while both processes are running.  A connection that breaks still delivers the first `kept`
messages; its thread may leave a command. -/
inductive DbboxEvent
  | dbbox (connected : Bool)
  | reverseConnect
  | reverseDisconnect (kept : ℕ) (announced : Bool)
  | esmeRestart
  | smscRestart (kept : ℕ)
  | manageLogThread
  | handleRequest
  deriving DecidableEq, Repr

namespace DbboxStatus

/-- `send_msg_reverse_server` with an `admin` message. -/
def send (s : DbboxStatus) (command : Option Bool) : DbboxStatus :=
  if s.reverseConnected then { s with inFlight := s.inFlight ++ [command] } else s

/-- One step of `manage_log_thread`. -/
def manageLogThread (s : DbboxStatus) : DbboxStatus :=
  match s.manage with
  | .serverCmd =>
    match s.serverCmd with
    | none => { s with manage := .clientCmd }
    | some true => { s with manage := .readStatus }
    | some false => { s with manage := .clearServerCmd }
  | .readStatus => { s with manage := .sendStatus s.dbboxConnected }
  | .sendStatus command => { s.send (some command) with manage := .clearServerCmd }
  | .clearServerCmd => { s with serverCmd := none, manage := .clientCmd }
  | .clientCmd =>
    match s.clientCmd with
    | none => { s with manage := .serverCmd }
    | some true => { s with manage := .compareConnected none }
    | some false => { s with manage := .compareConnected (some false) }
  | .compareConnected command =>
    { s with manage := .sendMsg1 (if s.clientCmd = some true then some true else command) }
  | .sendMsg1 command => { s.send command with manage := .clearClientCmd }
  | .clearClientCmd => { s with clientCmd := none, manage := .serverCmd }

/-- What `handle_request` makes of an `admin` message. -/
def told (flag : ℤ) : Option Bool → ℤ
  | none => flag
  | some false => 0
  | some true => 1

end DbboxStatus

/-- **One step of the processes.**  A connection reports that it was made, or lost, in one step: the library between
the processes, which is not in the sources, sets its status and leaves the command. -/
def dbboxStep (s : DbboxStatus) : DbboxEvent → Option DbboxStatus
  | .dbbox connected =>
    if s.dbboxConnected = connected then none
    else some { s with dbboxConnected := connected, clientCmd := some connected }
  | .reverseConnect =>
    if s.reverseConnected then none else some { s with reverseConnected := true, serverCmd := some true }
  | .reverseDisconnect kept announced =>
    if s.reverseConnected then
      some { s with
        reverseConnected := false
        serverCmd := if announced then some false else s.serverCmd
        inFlight := s.inFlight.take kept }
    else none
  | .esmeRestart =>
    if s.reverseConnected then none else some { s with inFlight := [], dbboxConnectedToClient := -1 }
  | .smscRestart kept =>
    some { inFlight := s.inFlight.take kept, dbboxConnectedToClient := s.dbboxConnectedToClient }
  | .manageLogThread => some s.manageLogThread
  | .handleRequest =>
    match s.inFlight with
    | [] => none
    | command :: rest =>
      some { s with
        inFlight := rest
        dbboxConnectedToClient := DbboxStatus.told s.dbboxConnectedToClient command }

/-! ## What the ESME process is told

Three things tell the status in turn: a command that waits for the thread, the message the thread has in its
hands, and the messages under way.  The invariant says which of them is the last word. -/

namespace DbboxStatus

/-- What the ESME process will hold when it has read what is under way. -/
def view (s : DbboxStatus) : ℤ := s.inFlight.foldl told s.dbboxConnectedToClient

/-- What it should hold. -/
def status (s : DbboxStatus) : ℤ := if s.dbboxConnected then 1 else 0

/-- **Everything is quiet**: the ESME process is connected and has read its messages, and the thread sleeps with no
command for it. -/
structure Quiet (s : DbboxStatus) : Prop where
  reverseConnected : s.reverseConnected = true
  serverCmd : s.serverCmd ≠ some true
  clientCmd : s.clientCmd = none
  manage : s.manage = .serverCmd
  inFlight : s.inFlight = []

end DbboxStatus

/-- The thread does not look at `client_cmd` again before it sets it back. -/
def ManagePc.past : ManagePc → Bool
  | .sendMsg1 _ | .clearClientCmd => true
  | _ => false

/-- **No command is lost** by this event: it leaves none, or the thread still looks. -/
def Noticed (s : DbboxStatus) : DbboxEvent → Prop
  | .dbbox _ => s.manage.past = false ∧ s.manage ≠ .compareConnected none
  | .reverseConnect => s.manage ≠ .clearServerCmd
  | _ => True

instance (s : DbboxStatus) : ∀ e : DbboxEvent, Decidable (Noticed s e)
  | .dbbox _ => inferInstanceAs (Decidable (_ ∧ _))
  | .reverseConnect => inferInstanceAs (Decidable (_ ≠ _))
  | .reverseDisconnect .. | .esmeRestart | .smscRestart _ | .manageLogThread | .handleRequest => .isTrue trivial

namespace DbboxStatus

/-- **What holds between the threads**, with the place where the status is in the thread's hands. -/
structure Inv (s : DbboxStatus) : Prop where
  cmd : ∀ connected, s.clientCmd = some connected → connected = s.dbboxConnected
  thread : match s.manage with
    | .serverCmd | .clientCmd =>
      s.reverseConnected = true → s.serverCmd = some true ∨ s.clientCmd ≠ none ∨ s.view = s.status
    | .readStatus => True
    | .sendStatus command => command = s.dbboxConnected ∨ s.clientCmd ≠ none
    | .clearServerCmd => s.reverseConnected = true → s.clientCmd ≠ none ∨ s.view = s.status
    | .compareConnected command =>
      s.clientCmd ≠ none ∧ (command = none ∧ s.dbboxConnected = true ∨ command = some false)
    | .sendMsg1 command => command = some s.dbboxConnected
    | .clearClientCmd => s.reverseConnected = true → s.serverCmd = some true ∨ s.view = s.status

variable {s s' : DbboxStatus}

theorem told_connected (flag : ℤ) (connected : Bool) : told flag (some connected) = if connected then 1 else 0 := by
  cases connected <;> rfl

/-- Sending changes what is under way, and nothing else. -/
theorem send_eq (s : DbboxStatus) (command : Option Bool) :
    ∃ inFlight, s.send command = { s with inFlight := inFlight } := by
  rw [send]
  split
  · exact ⟨_, rfl⟩
  · exact ⟨_, rfl⟩

/-- What is sent to a process that is connected is the last it will hear. -/
theorem view_send (h : s.reverseConnected = true) (command : Option Bool) :
    (s.send command).view = told s.view command := by
  rw [send, if_pos h, view, List.foldl_append]
  rfl

/-- Reading a message changes nothing about what will be known. -/
theorem view_handleRequest (h : dbboxStep s .handleRequest = some s') :
    ∃ inFlight flag, s' = { s with inFlight := inFlight, dbboxConnectedToClient := flag } ∧ s'.view = s.view := by
  rw [dbboxStep] at h
  split at h
  next => cases h
  next command rest heq =>
    obtain rfl := Option.some.inj h
    exact ⟨_, _, rfl, by rw [view, view, heq, List.foldl_cons]⟩

/-- The thread looks at `server_cmd`. -/
theorem Inv.serverCmd (hi : s.Inv) (hpc : s.manage = .serverCmd) : s.manageLogThread.Inv := by
  have ht := hi.thread
  rw [hpc] at ht
  cases hcmd : s.serverCmd with
  | none =>
    rw [show s.manageLogThread = { s with manage := .clientCmd } by simp [DbboxStatus.manageLogThread, hpc, hcmd]]
    exact ⟨hi.cmd, ht⟩
  | some connected =>
    cases connected with
    | true =>
      rw [show s.manageLogThread = { s with manage := .readStatus } by
        simp [DbboxStatus.manageLogThread, hpc, hcmd]]
      exact ⟨hi.cmd, trivial⟩
    | false =>
      rw [show s.manageLogThread = { s with manage := .clearServerCmd } by
        simp [DbboxStatus.manageLogThread, hpc, hcmd]]
      exact ⟨hi.cmd, fun hrev => (ht hrev).resolve_left (by rw [hcmd]; decide)⟩

/-- It tells a process that has connected what it read. -/
theorem Inv.sendStatus {command : Bool} (hi : s.Inv) (hpc : s.manage = .sendStatus command) :
    s.manageLogThread.Inv := by
  have ht := hi.thread
  rw [hpc] at ht
  obtain ⟨inFlight, hsend⟩ := s.send_eq (some command)
  rw [show s.manageLogThread = { s with inFlight := inFlight, manage := .clearServerCmd } by
    simp [DbboxStatus.manageLogThread, hpc, hsend]]
  refine ⟨hi.cmd, fun hrev => ht.symm.imp id fun hcommand => ?_⟩
  have hview := view_send (s := s) hrev (some command)
  rw [hsend, told_connected, hcommand] at hview
  exact hview

/-- The thread looks at `client_cmd`. -/
theorem Inv.clientCmd (hi : s.Inv) (hpc : s.manage = .clientCmd) : s.manageLogThread.Inv := by
  have ht := hi.thread
  rw [hpc] at ht
  cases hcmd : s.clientCmd with
  | none =>
    rw [show s.manageLogThread = { s with manage := .serverCmd } by simp [DbboxStatus.manageLogThread, hpc, hcmd]]
    exact ⟨hi.cmd, ht⟩
  | some connected =>
    have hne : s.clientCmd ≠ none := by simp [hcmd]
    cases connected with
    | true =>
      rw [show s.manageLogThread = { s with manage := .compareConnected none } by
        simp [DbboxStatus.manageLogThread, hpc, hcmd]]
      exact ⟨hi.cmd, hne, .inl ⟨rfl, (hi.cmd true hcmd).symm⟩⟩
    | false =>
      rw [show s.manageLogThread = { s with manage := .compareConnected (some false) } by
        simp [DbboxStatus.manageLogThread, hpc, hcmd]]
      exact ⟨hi.cmd, hne, .inr rfl⟩

/-- It looks again: what it sends is the status, whatever the first look found. -/
theorem Inv.compareConnected {command : Option Bool} (hi : s.Inv) (hpc : s.manage = .compareConnected command) :
    s.manageLogThread.Inv := by
  have ht := hi.thread
  rw [hpc] at ht
  obtain ⟨hcmd, hcommand⟩ := ht
  obtain ⟨connected, hcmd⟩ := Option.ne_none_iff_exists'.mp hcmd
  have hconnected := hi.cmd connected hcmd
  rw [show s.manageLogThread =
    { s with manage := .sendMsg1 (if s.clientCmd = some true then some true else command) } by
      simp [DbboxStatus.manageLogThread, hpc]]
  refine ⟨hi.cmd, ?_⟩
  dsimp only
  rw [hcmd, ← hconnected]
  cases connected with
  | true => rfl
  | false =>
    obtain ⟨-, htrue⟩ | rfl := hcommand
    · exact absurd (hconnected.trans htrue) Bool.false_ne_true
    · rfl

/-- It sends the status. -/
theorem Inv.sendMsg1 {command : Option Bool} (hi : s.Inv) (hpc : s.manage = .sendMsg1 command) :
    s.manageLogThread.Inv := by
  have ht := hi.thread
  rw [hpc] at ht
  obtain ⟨inFlight, hsend⟩ := s.send_eq command
  rw [show s.manageLogThread = { s with inFlight := inFlight, manage := .clearClientCmd } by
    simp [DbboxStatus.manageLogThread, hpc, hsend]]
  refine ⟨hi.cmd, fun hrev => .inr ?_⟩
  have hview := view_send (s := s) hrev command
  rw [hsend, show command = some s.dbboxConnected from ht, told_connected] at hview
  exact hview

/-- **The thread goes on.** -/
theorem Inv.manageLogThread (hi : s.Inv) : s.manageLogThread.Inv := by
  have ht := hi.thread
  cases hpc : s.manage with
  | serverCmd => exact hi.serverCmd hpc
  | readStatus =>
    rw [show s.manageLogThread = { s with manage := .sendStatus s.dbboxConnected } by
      simp [DbboxStatus.manageLogThread, hpc]]
    exact ⟨hi.cmd, .inl rfl⟩
  | sendStatus command => exact hi.sendStatus hpc
  | clearServerCmd =>
    rw [hpc] at ht
    rw [show s.manageLogThread = { s with serverCmd := none, manage := .clientCmd } by
      simp [DbboxStatus.manageLogThread, hpc]]
    exact ⟨hi.cmd, fun hrev => .inr (ht hrev)⟩
  | clientCmd => exact hi.clientCmd hpc
  | compareConnected command => exact hi.compareConnected hpc
  | sendMsg1 command => exact hi.sendMsg1 hpc
  | clearClientCmd =>
    rw [hpc] at ht
    rw [show s.manageLogThread = { s with clientCmd := none, manage := .serverCmd } by
      simp [DbboxStatus.manageLogThread, hpc]]
    exact ⟨fun _ h => (Option.some_ne_none _ h.symm).elim, fun hrev => (ht hrev).imp id .inr⟩

/-- **One step** that loses no command. -/
theorem Inv.step {e : DbboxEvent} (hi : s.Inv) (hn : Noticed s e) (hs : dbboxStep s e = some s') : s'.Inv := by
  have ht := hi.thread
  cases e with
  | dbbox connected =>
    obtain ⟨-, hs⟩ := Option.ite_none_left_eq_some.mp hs
    obtain rfl := Option.some.inj hs
    refine ⟨by simp, ?_⟩
    obtain ⟨hpast, hcompare⟩ := hn
    cases hpc : s.manage with
    | sendMsg1 command => simp [hpc, ManagePc.past] at hpast
    | clearClientCmd => simp [hpc, ManagePc.past] at hpast
    | compareConnected command =>
      rw [hpc] at ht hcompare
      obtain ⟨rfl, -⟩ | rfl := ht.2
      · exact absurd rfl hcompare
      · simp
    | _ => simp
  | reverseConnect =>
    obtain ⟨-, hs⟩ := Option.ite_none_left_eq_some.mp hs
    obtain rfl := Option.some.inj hs
    refine ⟨hi.cmd, ?_⟩
    cases hpc : s.manage with
    | clearServerCmd => exact absurd hpc hn
    | sendStatus command => simpa [hpc] using ht
    | compareConnected command => simpa [hpc] using ht
    | sendMsg1 command => simpa [hpc] using ht
    | _ => simp
  | reverseDisconnect kept announced =>
    rw [dbboxStep] at hs
    obtain ⟨-, hs⟩ := Option.ite_none_right_eq_some.mp hs
    obtain rfl := Option.some.inj hs
    refine ⟨hi.cmd, ?_⟩
    cases hpc : s.manage with
    | sendStatus command => simpa [hpc] using ht
    | compareConnected command => simpa [hpc] using ht
    | sendMsg1 command => simpa [hpc] using ht
    | _ => simp
  | esmeRestart =>
    rw [dbboxStep] at hs
    obtain ⟨hrev, hs⟩ := Option.ite_none_left_eq_some.mp hs
    obtain rfl := Option.some.inj hs
    refine ⟨hi.cmd, ?_⟩
    cases hpc : s.manage with
    | sendStatus command => simpa [hpc] using ht
    | compareConnected command => simpa [hpc] using ht
    | sendMsg1 command => simpa [hpc] using ht
    | _ => simp [hrev]
  | smscRestart kept =>
    obtain rfl := Option.some.inj hs
    exact ⟨by simp, by simp⟩
  | manageLogThread =>
    obtain rfl := Option.some.inj hs
    exact hi.manageLogThread
  | handleRequest =>
    obtain ⟨inFlight, flag, rfl, hview⟩ := view_handleRequest hs
    refine ⟨hi.cmd, ?_⟩
    rw [hview]
    exact ht

theorem inv_start : Inv {} := ⟨fun _ h => (Option.some_ne_none _ h.symm).elim, fun hrev => (Bool.false_ne_true hrev).elim⟩

/-! ## Getting quiet

Without new connections the thread runs through its places and sleeps, and the messages under way are read. -/

/-- How many steps the thread takes until it sleeps with no command for it. -/
def stepsLeft (s : DbboxStatus) : ℕ :=
  let client := if s.clientCmd = none then 1 else 4
  let server := if s.serverCmd = none then 0 else if s.serverCmd = some true then 5 else 3
  match s.manage with
  | .serverCmd => if s.serverCmd = none then (if s.clientCmd = none then 0 else 5) else server - 1 + client
  | .readStatus => 3 + client
  | .sendStatus _ => 2 + client
  | .clearServerCmd => 1 + client
  | .clientCmd => client + server
  | .compareConnected _ => 3 + server
  | .sendMsg1 _ => 2 + server
  | .clearClientCmd => 1 + server

theorem stepsLeft_eq_zero (h : s.stepsLeft = 0) :
    s.manage = .serverCmd ∧ s.serverCmd = none ∧ s.clientCmd = none := by
  rw [stepsLeft] at h
  cases hpc : s.manage <;> simp only [hpc] at h <;> grind

/-- Each step of the thread is one step less. -/
theorem stepsLeft_manageLogThread (h : s.stepsLeft ≠ 0) : s.manageLogThread.stepsLeft < s.stepsLeft := by
  cases hpc : s.manage with
  | serverCmd =>
    cases hserver : s.serverCmd with
    | none =>
      cases hclient : s.clientCmd with
      | none => simp [stepsLeft, hpc, hserver, hclient] at h
      | some connected => simp [DbboxStatus.manageLogThread, stepsLeft, hpc, hserver, hclient]
    | some announced => cases announced <;> simp [DbboxStatus.manageLogThread, stepsLeft, hpc, hserver]
  | readStatus => simp [DbboxStatus.manageLogThread, stepsLeft, hpc]
  | sendStatus command =>
    obtain ⟨inFlight, hsend⟩ := s.send_eq (some command)
    simp [DbboxStatus.manageLogThread, stepsLeft, hpc, hsend]
  | clearServerCmd => simp [DbboxStatus.manageLogThread, stepsLeft, hpc]
  | clientCmd =>
    cases hclient : s.clientCmd with
    | none =>
      cases hserver : s.serverCmd with
      | none => simp [DbboxStatus.manageLogThread, stepsLeft, hpc, hserver, hclient]
      | some announced => cases announced <;> simp [DbboxStatus.manageLogThread, stepsLeft, hpc, hserver, hclient]
    | some connected => cases connected <;> simp [DbboxStatus.manageLogThread, stepsLeft, hpc, hclient]
  | compareConnected command => simp [DbboxStatus.manageLogThread, stepsLeft, hpc]
  | sendMsg1 command =>
    obtain ⟨inFlight, hsend⟩ := s.send_eq command
    simp [DbboxStatus.manageLogThread, stepsLeft, hpc, hsend]
  | clearClientCmd =>
    cases hserver : s.serverCmd with
    | none => simp [DbboxStatus.manageLogThread, stepsLeft, hpc, hserver]
    | some announced => cases announced <;> simp [DbboxStatus.manageLogThread, stepsLeft, hpc, hserver]

end DbboxStatus

/-- The processes go on by themselves: no connection is made or lost. -/
def DbboxEvent.own : DbboxEvent → Bool
  | .manageLogThread | .handleRequest => true
  | _ => false

namespace DbboxStatus

variable {s s' : DbboxStatus}

@[simp] theorem manageLogThread_reverseConnected (s : DbboxStatus) :
    s.manageLogThread.reverseConnected = s.reverseConnected := by
  rw [DbboxStatus.manageLogThread]
  split
  · split <;> rfl
  · rfl
  · exact (s.send_eq _).elim fun _ h => by rw [h]
  · rfl
  · split <;> rfl
  · rfl
  · exact (s.send_eq _).elim fun _ h => by rw [h]
  · rfl

/-- The messages under way are read. -/
theorem exists_read (s : DbboxStatus) : ∃ es flag, (∀ e ∈ es, DbboxEvent.own e = true) ∧
    exec dbboxStep s es = some { s with inFlight := [], dbboxConnectedToClient := flag } := by
  obtain ⟨inFlight, hinFlight⟩ : ∃ inFlight, s.inFlight = inFlight := ⟨_, rfl⟩
  induction inFlight generalizing s with
  | nil => exact ⟨[], s.dbboxConnectedToClient, by simp, by rw [← hinFlight]; rfl⟩
  | cons command rest ih =>
    obtain ⟨es, flag, hes, hrun⟩ :=
      ih { s with inFlight := rest, dbboxConnectedToClient := told s.dbboxConnectedToClient command } rfl
    refine ⟨.handleRequest :: es, flag, List.forall_mem_cons.mpr ⟨rfl, hes⟩, exec_cons_eq_some.mpr ⟨_, ?_, hrun⟩⟩
    rw [dbboxStep, hinFlight]

/-- **Everything gets quiet by itself.** -/
theorem exists_quiet (hrev : s.reverseConnected = true) :
    ∃ es s', (∀ e ∈ es, DbboxEvent.own e = true) ∧ exec dbboxStep s es = some s' ∧ s'.Quiet := by
  induction hn : s.stepsLeft using Nat.strong_induction_on generalizing s with
  | _ n ih =>
    by_cases hzero : s.stepsLeft = 0
    · obtain ⟨hpc, hserver, hclient⟩ := stepsLeft_eq_zero hzero
      obtain ⟨es, flag, hes, hrun⟩ := s.exists_read
      exact ⟨es, _, hes, hrun, hrev, by simp [hserver], hclient, hpc, rfl⟩
    · obtain ⟨es, s', hes, hrun, hquiet⟩ :=
        ih _ (hn ▸ stepsLeft_manageLogThread hzero) (s := s.manageLogThread) (by simpa using hrev) rfl
      exact ⟨.manageLogThread :: es, s', List.forall_mem_cons.mpr ⟨rfl, hes⟩,
        exec_cons_eq_some.mpr ⟨_, rfl, hrun⟩, hquiet⟩

theorem Quiet.view_eq (h : s.Quiet) : s.view = s.dbboxConnectedToClient := by
  rw [view, h.inFlight]
  rfl

/-- What the ESME process holds when everything is quiet. -/
theorem Inv.of_quiet (hi : s.Inv) (h : s.Quiet) : s.dbboxConnectedToClient = s.status := by
  have ht := hi.thread
  rw [h.manage] at ht
  obtain hserver | hclient | hview := ht h.reverseConnected
  · exact absurd hserver h.serverCmd
  · exact absurd h.clientCmd hclient
  · rw [← h.view_eq, hview]

/-! ## A lost command

What the thread set back it does not see again, so nothing that the processes do by themselves changes what the
ESME process will know. -/

/-- **Nothing is left to be sent**, and the ESME process holds `flag` when it has read everything. -/
def Stuck (flag : ℤ) (s : DbboxStatus) : Prop :=
  s.reverseConnected = true ∧ s.serverCmd ≠ some true ∧
    match s.manage with
    | .serverCmd | .clientCmd | .clearServerCmd => s.clientCmd = none ∧ s.view = flag
    | .sendMsg1 command => told s.view command = flag
    | .clearClientCmd => s.view = flag
    | _ => False

/-- What the processes do by themselves does not tell the ESME process anything else. -/
theorem Stuck.step {flag : ℤ} {e : DbboxEvent} (h : s.Stuck flag) (he : e.own = true) (hs : dbboxStep s e = some s') :
    s'.Stuck flag ∧ s'.dbboxConnected = s.dbboxConnected := by
  obtain ⟨hrev, hserver, ht⟩ := h
  cases e with
  | handleRequest =>
    obtain ⟨inFlight, flag, rfl, hview⟩ := view_handleRequest hs
    refine ⟨⟨hrev, hserver, ?_⟩, rfl⟩
    rw [hview]
    exact ht
  | manageLogThread =>
    obtain rfl := Option.some.inj hs
    cases hpc : s.manage with
    | serverCmd =>
      rw [hpc] at ht
      match hcmd : s.serverCmd with
      | none =>
        rw [show s.manageLogThread = { s with manage := .clientCmd } by simp [DbboxStatus.manageLogThread, hpc, hcmd]]
        exact ⟨⟨hrev, hserver, ht⟩, rfl⟩
      | some true => exact absurd hcmd hserver
      | some false =>
        rw [show s.manageLogThread = { s with manage := .clearServerCmd } by
          simp [DbboxStatus.manageLogThread, hpc, hcmd]]
        exact ⟨⟨hrev, hserver, ht⟩, rfl⟩
    | clearServerCmd =>
      rw [hpc] at ht
      rw [show s.manageLogThread = { s with serverCmd := none, manage := .clientCmd } by
        simp [DbboxStatus.manageLogThread, hpc]]
      exact ⟨⟨hrev, by simp, ht⟩, rfl⟩
    | clientCmd =>
      rw [hpc] at ht
      rw [show s.manageLogThread = { s with manage := .serverCmd } by
        simp [DbboxStatus.manageLogThread, hpc, ht.1]]
      exact ⟨⟨hrev, hserver, ht⟩, rfl⟩
    | sendMsg1 command =>
      rw [hpc] at ht
      obtain ⟨inFlight, hsend⟩ := s.send_eq command
      have hview := view_send hrev command
      rw [hsend] at hview
      rw [show s.manageLogThread = { s with inFlight := inFlight, manage := .clearClientCmd } by
        simp [DbboxStatus.manageLogThread, hpc, hsend]]
      exact ⟨⟨hrev, hserver, hview.trans ht⟩, rfl⟩
    | clearClientCmd =>
      rw [hpc] at ht
      rw [show s.manageLogThread = { s with clientCmd := none, manage := .serverCmd } by
        simp [DbboxStatus.manageLogThread, hpc]]
      exact ⟨⟨hrev, hserver, rfl, ht⟩, rfl⟩
    | _ =>
      rw [hpc] at ht
      exact ht.elim
  | _ => cases he

/-- **A run that the processes make by themselves.** -/
theorem Stuck.run {flag : ℤ} {es : List DbboxEvent} (h : s.Stuck flag) (hown : ∀ e ∈ es, DbboxEvent.own e = true)
    (hrun : exec dbboxStep s es = some s') : s'.Stuck flag ∧ s'.dbboxConnected = s.dbboxConnected := by
  have hstep : ∀ {t e t'}, Stuck flag t ∧ t.dbboxConnected = s.dbboxConnected → DbboxEvent.own e = true →
      dbboxStep t e = some t' → Stuck flag t' ∧ t'.dbboxConnected = s.dbboxConnected := by
    rintro t e t' ⟨ht, heq⟩ he hs
    obtain ⟨ht', heq'⟩ := ht.step he hs
    exact ⟨ht', heq'.trans heq⟩
  exact exec_invariant hstep ⟨h, rfl⟩ (along_of_mem (fun e he _ => hown e he) s) hrun

end DbboxStatus

/-! ## The status of dbbox -/

/-- **The ESME process knows the status.**  In every run in which no command is lost: when everything is quiet the
ESME process holds the status of the connection to dbbox, so it binds nobody while that is down; and as long as the
ESME process is connected everything gets quiet by itself. -/
theorem dbboxStatus_mirrored {es : List DbboxEvent} {s : DbboxStatus} (hrun : exec dbboxStep {} es = some s)
    (hseen : Along dbboxStep Noticed {} es) :
    (s.Quiet → s.dbboxConnectedToClient = (if s.dbboxConnected then 1 else 0) ∧
      ∀ srv : Server, srv.dbboxConnectedToClient = s.dbboxConnectedToClient → s.dbboxConnected = false →
        checkServerConnections srv = -1) ∧
    (s.reverseConnected = true → ∃ es' s', (∀ e ∈ es', DbboxEvent.own e = true) ∧
      exec dbboxStep s es' = some s' ∧ s'.Quiet ∧
      s'.dbboxConnectedToClient = if s'.dbboxConnected then 1 else 0) := by
  have hstep : ∀ {s e s'}, DbboxStatus.Inv s → Noticed s e → dbboxStep s e = some s' → DbboxStatus.Inv s' :=
    fun hi hn hs => hi.step hn hs
  have hi := exec_invariant hstep DbboxStatus.inv_start hseen hrun
  refine ⟨fun hquiet => ⟨hi.of_quiet hquiet, fun srv hsrv hdown => ?_⟩, fun hrev => ?_⟩
  · have hflag := hi.of_quiet hquiet
    rw [DbboxStatus.status, hdown, ← hsrv] at hflag
    rw [checkServerConnections]
    split
    · rw [if_pos (by rw [hflag]; decide)]
    · rfl
  · obtain ⟨es', s', hes', hrun', hquiet⟩ := DbboxStatus.exists_quiet hrev
    have hseen' : Along dbboxStep Noticed s es' := by
      refine along_of_mem (fun e he t => ?_) s
      have := hes' e he
      cases e <;> trivial
    exact ⟨es', s', hes', hrun', hquiet, (exec_invariant hstep hi hseen' hrun').of_quiet hquiet⟩

/-- dbbox connects, then the ESME process; the thread and the ESME process go on. -/
def sampleConnect : List DbboxEvent :=
  [.dbbox true, .reverseConnect] ++ List.replicate 8 .manageLogThread ++ [.handleRequest, .handleRequest]

theorem dbboxStatus_mirrored_sampleConnect :
    ∃ s, exec dbboxStep {} sampleConnect = some s ∧ s.dbboxConnectedToClient = 1 := by
  have hrun : exec dbboxStep {} sampleConnect = some _ := rfl
  obtain ⟨hquiet, -⟩ := dbboxStatus_mirrored hrun (by decide)
  exact ⟨_, rfl, (hquiet ⟨rfl, by decide, rfl, rfl, rfl⟩).1⟩

/-- **A lost command.**  After a run that lost none, let dbbox connect, or disconnect, while `manage_log_thread`
sends what it made of the last command or is about to set `client_cmd` back, the ESME process being connected and
its own connection acted on already.  As long as no connection is made or lost, the ESME process holds the contrary of the status whenever
everything is quiet, and that happens; if dbbox is there, nobody can bind. -/
theorem lost_command_sticks {es es' : List DbboxEvent} {s s₁ s' : DbboxStatus} {connected : Bool}
    (hrun : exec dbboxStep {} es = some s) (hseen : Along dbboxStep Noticed {} es)
    (hrev : s.reverseConnected = true) (hserver : s.serverCmd ≠ some true) (hpast : s.manage.past = true)
    (hlost : dbboxStep s (.dbbox connected) = some s₁) (hown : ∀ e ∈ es', DbboxEvent.own e = true)
    (hrun' : exec dbboxStep s₁ es' = some s') :
    s'.dbboxConnected = connected ∧
      (s'.Quiet → s'.dbboxConnectedToClient = (if connected then 0 else 1) ∧
        ∀ srv : Server, srv.dbboxConnectedToClient = s'.dbboxConnectedToClient → connected = true →
          checkServerConnections srv = -1) ∧
      ∃ es'' s'', (∀ e ∈ es'', DbboxEvent.own e = true) ∧ exec dbboxStep s' es'' = some s'' ∧ s''.Quiet := by
  have hi := exec_invariant (fun hi hn hs => DbboxStatus.Inv.step hi hn hs) DbboxStatus.inv_start hseen hrun
  obtain ⟨hne, hs₁⟩ := Option.ite_none_left_eq_some.mp hlost
  obtain rfl := Option.some.inj hs₁
  have hold : s.dbboxConnected = !connected := by
    revert hne
    cases s.dbboxConnected <;> cases connected <;> simp
  have hstuck : DbboxStatus.Stuck (if connected then 0 else 1)
      { s with dbboxConnected := connected, clientCmd := some connected } := by
    refine ⟨hrev, hserver, ?_⟩
    have ht := hi.thread
    cases hpc : s.manage with
    | sendMsg1 command =>
      rw [hpc] at ht
      obtain rfl := show command = some s.dbboxConnected from ht
      dsimp only
      rw [hold]
      cases connected <;> rfl
    | clearClientCmd =>
      rw [hpc] at ht
      have hview := (ht hrev).resolve_left hserver
      rw [DbboxStatus.status, hold] at hview
      refine hview.trans ?_
      cases connected <;> rfl
    | _ => simp [hpc, ManagePc.past] at hpast
  obtain ⟨hstuck', hconnected⟩ := hstuck.run hown hrun'
  refine ⟨hconnected, fun hquiet => ?_, DbboxStatus.exists_quiet hstuck'.1⟩
  obtain ⟨-, -, ht⟩ := hstuck'
  rw [hquiet.manage] at ht
  have hflag := hquiet.view_eq.symm.trans ht.2
  refine ⟨hflag, fun srv hsrv htrue => ?_⟩
  rw [htrue, ← hsrv] at hflag
  rw [checkServerConnections]
  split
  · rw [if_pos (by rw [hflag]; decide)]
  · rfl

/-- The connection to dbbox breaks and is made again while the thread acts on the break. -/
theorem lost_command_sticks_sampleReconnect :
    ∃ s s₁ s', exec dbboxStep {} (sampleConnect ++ [.dbbox false] ++ List.replicate 4 .manageLogThread) = some s ∧
      dbboxStep s (.dbbox true) = some s₁ ∧
      exec dbboxStep s₁ [.manageLogThread, .handleRequest] = some s' ∧
      s'.dbboxConnected = true ∧ s'.dbboxConnectedToClient = 0 := by
  have hrun : exec dbboxStep {} (sampleConnect ++ [.dbbox false] ++ List.replicate 4 .manageLogThread) = some _ := rfl
  obtain ⟨hconnected, hquiet, -⟩ := lost_command_sticks hrun (by decide) rfl (by decide) rfl
    (show dbboxStep _ (.dbbox true) = some _ from rfl) (by decide)
    (show exec dbboxStep _ [.manageLogThread, .handleRequest] = some _ from rfl)
  exact ⟨_, _, _, rfl, rfl, rfl, hconnected, (hquiet ⟨rfl, by decide, rfl, rfl, rfl⟩).1⟩

end SmppServer.SmppSmsc
