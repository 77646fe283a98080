import Mathlib.Algebra.Order.Ring.Rat
import Mathlib.Tactic.Ring
import Mathlib.Tactic.NormNum
import SmppServer.Machinery.Purge
import SmppServer.DndChecker.ReplaceWord
import SmppServer.Gwlib.AccessLog
import SmppServer.Esme.Bind
import SmppServer.Smsc.Route

/-!
# Admin/HttpAdmin — the HTTP administration of the three processes

Each process answers HTTP requests on its `admin-port`: some commands show something, some change the process,
and the latter ask for the password.  The three sources are copies of each other but for the commands.  What a
command does to the process, and what the texts say, are parameters.

* `unauthorised_requests_have_no_effect` — a process goes the way it would go without the requests that come
  from another host or without the password.
* `guessing_takes_time` — passwords that are refused are answered ever more slowly.
-/

namespace SmppServer.Admin

open Machinery

/-! ## Requests and commands

A function that changes something asks for the password itself, and the answer to a wrong one waits: the
variable that says how long is shared by all requests. -/

/-- `BBSTATUS_*`. -/
inductive StatusType
  | html
  | text
  | wml
  | xml
  deriving DecidableEq, Repr

/-- What `http_accept_request` delivers: the address, the URL, what `http_type_accepted` says of the headers and
what `http_cgi_variable` finds. -/
structure Request where
  ip : Octstr
  url : Octstr
  accepted : Octstr → Bool
  cgivars : Octstr → Option Octstr

/-- `http_send_reply`. -/
structure Reply where
  contentType : Octstr
  body : Octstr

/-- The static variables `ha_…`. -/
structure Settings where
  haPassword : Octstr
  haStatusPw : Option Octstr
  haAllowIp : Option Octstr
  haDenyIp : Option Octstr

/-- `is_allowed_ip` and `bb_status_linebreak`. -/
structure AdminLib where
  isAllowedIp : Option Octstr → Option Octstr → Octstr → Bool
  linebreak : StatusType → Octstr

/-- The static `sleep` of `httpd_check_authorization`, a number of seconds, and the sum of the sleeps it asked
for.  The `double` is a rational here. -/
structure Gate where
  sleep : ℚ
  asked : ℚ

/-- `denied:` — the thread sleeps, and longer the next time. -/
def Gate.denied (g : Gate) : Gate where
  sleep := g.sleep + 1
  asked := g.asked + g.sleep

/-- `httpd_check_authorization`. -/
def httpdCheckAuthorization (s : Settings) (cgivars : Octstr → Option Octstr) (status : Bool) (g : Gate) :
    Option Octstr × Gate :=
  let password := cgivars (octstrImm "password")
  let allowed := (none, { g with sleep := 0 })
  let denied := (some (octstrImm "Denied"), g.denied)
  if status then
    if s.haStatusPw = none then (none, g)
    else match password with
      | none => denied
      | some w => if w ≠ s.haPassword ∧ some w ≠ s.haStatusPw then denied else allowed
  else match password with
    | none => denied
    | some w => if w ≠ s.haPassword then denied else allowed

/-- A function of `httpd_commands`: one that only shows something, or one that begins with
`httpd_check_authorization(cgivars, 0)`.  That the former change nothing is in their type; in the code
`smsc_status` has `queued_cb` store what a connection received in its `load`, which is stored anew before anything
reads it. -/
inductive Command (σ : Type*)
  | shows (text : StatusType → σ → Octstr)
  | guarded (act : (Octstr → Option Octstr) → σ → Octstr × σ)

/-- The command is run. -/
def Command.function {σ : Type*} (s : Settings) (cgivars : Octstr → Option Octstr) (t : StatusType) :
    Command σ → Gate × σ → Octstr × Gate × σ
  | .shows text, (g, c) => (text t c, g, c)
  | .guarded act, (g, c) =>
    match httpdCheckAuthorization s cgivars false g with
    | (some reply, g') => (reply, g', c)
    | (none, g') => let (reply, c') := act cgivars c; (reply, g', c')

/-- The command asks for the password. -/
def Command.isGuarded {σ : Type*} : Command σ → Bool
  | .shows _ => false
  | .guarded _ => true

/-! ## The three processes

What is behind the password, and what each of the functions looks at before it acts. -/

section Processes

variable {σ : Type*}

/-- What the SMSC process does when it is told to. -/
structure SmscProcess (σ : Type*) where
  version : StatusType → σ → Octstr
  printClientStatus : StatusType → σ → Octstr
  smsc2Status : StatusType → σ → Octstr
  smppClientStatus : σ → SmppSmsc.ClientStatus
  setDead : σ → σ
  systemShutdown : σ → σ
  smsc2StopSmsc : Octstr → σ → ℤ × σ
  smsc2RestartSmsc : Octstr → σ → ℤ × σ

/-- What the ESME process does when it is told to. -/
structure EsmeProcess (σ : Type*) where
  version : StatusType → σ → Octstr
  printServerStatus : StatusType → σ → Octstr
  printEsmeStatus : StatusType → σ → Octstr
  programStatus : σ → SmppEsme.ProgramStatus
  smppServerShutdown : σ → σ
  stopEsme : Octstr → σ → ℤ × σ

/-- What dbbox does when it is told to. -/
structure DbboxProcess (σ : Type*) where
  version : StatusType → σ → Octstr
  printDbboxStatus : StatusType → σ → Octstr
  programStatus : σ → SmppEsme.ProgramStatus
  dbboxShutdown : σ → σ

/-- The text that `httpd_check_status` answers. -/
def tooLate : Octstr := octstrImm "Avalanche has already started, too late to save the sheeps"

/-- A function that asks for `httpd_check_status` and the name of a connection, and tells what became of it. -/
def namedAct (checkStatus : σ → Option Octstr) (name : String) (act : Octstr → σ → ℤ × σ)
    (failed done : Octstr → Octstr) (cgivars : Octstr → Option Octstr) (c : σ) : Octstr × σ :=
  match checkStatus c with
  | some reply => (reply, c)
  | none =>
    match cgivars (octstrImm name) with
    | none => (octstrImm "SMSC id not given", c)
    | some id =>
      let (ret, c') := act id c
      (if ret = -1 then failed (cstr id) else done (cstr id), c')

/-- A text around an id. -/
def around (before after : String) (id : Octstr) : Octstr := octstrImm before ++ id ++ octstrImm after

namespace SmscProcess

variable (p : SmscProcess σ)

/-- `httpd_check_status` of the SMSC process. -/
def httpdCheckStatus (c : σ) : Option Octstr :=
  if p.smppClientStatus c = .shutdown ∨ p.smppClientStatus c = .dead then some tooLate else none

/-- `httpd_client_shutdown`, after the password. -/
def httpdClientShutdown (_cgivars : Octstr → Option Octstr) (c : σ) : Octstr × σ :=
  (octstrImm "Bringing SMSC process down",
    if p.smppClientStatus c = .shutdown then p.setDead c else p.systemShutdown c)

/-- `httpd_smsc_stop`, after the password. -/
def httpdSmscStop : (Octstr → Option Octstr) → σ → Octstr × σ :=
  namedAct p.httpdCheckStatus "smsc" p.smsc2StopSmsc (around "Could not shut down smsc-id `" "'")
    (around "SMSC `" "' shut down")

/-- `httpd_smsc_restart`, after the password. -/
def httpdSmscRestart : (Octstr → Option Octstr) → σ → Octstr × σ :=
  namedAct p.httpdCheckStatus "smsc" p.smsc2RestartSmsc (around "Could not re-start smsc-id `" "'")
    (around "SMSC `" "' re-started")

/-- `httpd_commands` of the SMSC process. -/
def httpdCommands : List (String × Command σ) :=
  [("version", .shows p.version),
    ("smpp_smsc_shutdown", .guarded p.httpdClientShutdown),
    ("smpp_smsc_status", .shows p.printClientStatus),
    ("smsc_status", .shows p.smsc2Status),
    ("smsc_stop", .guarded p.httpdSmscStop),
    ("smsc_restart", .guarded p.httpdSmscRestart)]

end SmscProcess

namespace EsmeProcess

variable (p : EsmeProcess σ)

/-- `httpd_check_status` of the ESME process. -/
def httpdCheckStatus (c : σ) : Option Octstr :=
  if p.programStatus c = .shutdown ∨ p.programStatus c = .dead then some tooLate else none

/-- `httpd_smpp_server_shutdown`, after the password. -/
def httpdSmppServerShutdown (_cgivars : Octstr → Option Octstr) (c : σ) : Octstr × σ :=
  (octstrImm "Bringing Server Process down", p.smppServerShutdown c)

/-- `httpd_esme_stop`, after the password. -/
def httpdEsmeStop : (Octstr → Option Octstr) → σ → Octstr × σ :=
  namedAct p.httpdCheckStatus "esme" p.stopEsme (around "Could not shut down esme `" "'")
    (around "esme `" "' shut down")

/-- `httpd_commands` of the ESME process. -/
def httpdCommands : List (String × Command σ) :=
  [("version", .shows p.version),
    ("smpp_esme_status", .shows p.printServerStatus),
    ("smpp_esme_shutdown", .guarded p.httpdSmppServerShutdown),
    ("esme_status", .shows p.printEsmeStatus),
    ("esme_stop", .guarded p.httpdEsmeStop)]

end EsmeProcess

namespace DbboxProcess

variable (p : DbboxProcess σ)

/-- `httpd_shutdown`, after the password. -/
def httpdShutdown (_cgivars : Octstr → Option Octstr) (c : σ) : Octstr × σ :=
  (octstrImm "Bringing Dbbox Process down", p.dbboxShutdown c)

/-- `httpd_commands` of dbbox. -/
def httpdCommands : List (String × Command σ) :=
  [("version", .shows p.version),
    ("smpp_dbbox_shutdown", .guarded p.httpdShutdown),
    ("smpp_dbbox_status", .shows p.printDbboxStatus)]

end DbboxProcess

/-- The process that is administered. -/
inductive Process (σ : Type*)
  | smsc (p : SmscProcess σ)
  | esme (p : EsmeProcess σ)
  | dbbox (p : DbboxProcess σ)

namespace Process

/-- `httpd_commands`. -/
def httpdCommands : Process σ → List (String × Command σ)
  | .smsc p => p.httpdCommands
  | .esme p => p.httpdCommands
  | .dbbox p => p.httpdCommands

/-- The status of the process is `DEAD`. -/
def dead : Process σ → σ → Bool
  | .smsc p, c => p.smppClientStatus c = .dead
  | .esme p, c => p.programStatus c = .dead
  | .dbbox p, c => p.programStatus c = .dead

/-- The reply to a command that is not known. -/
def unknown (lib : AdminLib) (ourl : Octstr) (t : StatusType) (p : Process σ) : Octstr :=
  match p with
  | .esme _ =>
    octstrImm "\"commands\" :[" ++
      (p.httpdCommands.map fun cmd => octstrImm "\"" ++ octstrImm cmd.1 ++ octstrImm "\",").flatten
  | _ =>
    octstrImm "Unknown command `" ++ ourl ++ octstrImm "'." ++ lib.linebreak t ++
      octstrImm "Possible commands are:" ++ lib.linebreak t ++
      (p.httpdCommands.map fun cmd => octstrImm cmd.1 ++ lib.linebreak t).flatten

/-- The ESME process closes a bracket, whether it opened one or not. -/
def closing : Process σ → Octstr
  | .esme _ => octstrImm "]"
  | _ => []

end Process

/-! ## Serving a request

The command is what stands between the prefix of the URL and its first dot.  A command that needs the password
runs its check first, and the reply is sent whatever the check said. -/

/-- The format that the `Accept` headers ask for. -/
def acceptedType (accepted : Octstr → Bool) : StatusType × Octstr :=
  if accepted (octstrImm "text/vnd.wap.wml") then (.wml, octstrImm "text/vnd.wap.wml")
  else if accepted (octstrImm "text/html") then (.html, octstrImm "text/html")
  else if accepted (octstrImm "text/xml") then (.xml, octstrImm "text/xml")
  else (.text, octstrImm "text/plain")

/-- The URL without the first `/cgi-bin/`, or else without a leading `/`. -/
def killPrefix (url : Octstr) : Octstr :=
  match DndChecker.strstr (octstrImm "/cgi-bin/") url with
  | some pos => url.take pos ++ url.drop (pos + 9)
  | none => if url.head? = some 47 then url.tail else url

/-- The command of a URL, and the type behind its first dot. -/
def commandOf (url : Octstr) : Octstr × Option Octstr :=
  let url := killPrefix url
  match AccessLog.octstrSearchChar url 46 with
  | some pos => (url.take pos, some (url.drop (pos + 1)))
  | none => (url, none)

/-- The type behind the dot, if it is known. -/
def typeOf (t : StatusType) : Option Octstr → StatusType
  | none => t
  | some tmp =>
    if cstr tmp = octstrImm "txt" then .text
    else if cstr tmp = octstrImm "html" then .html
    else if cstr tmp = octstrImm "xml" then .xml
    else if cstr tmp = octstrImm "wml" then .wml
    else t

/-- The reply around a text; an XML reply keeps the content type that was accepted. -/
def finalReply (t : StatusType) (contentType reply : Octstr) : Reply :=
  match t with
  | .html =>
    ⟨octstrImm "text/html", octstrImm "<!DOCTYPE HTML PUBLIC \"-//W3C//DTD HTML 3.2//EN\">\n<html>\n<title>Kannel" ++
      octstrImm "</title>\n<body>\n<p>" ++ reply ++ octstrImm "</p>\n</body></html>\n"⟩
  | .wml =>
    ⟨octstrImm "text/vnd.wap.wml",
      octstrImm "<?xml version=\"1.0\"?>\n<!DOCTYPE wml PUBLIC \"-//WAPFORUM//DTD WML 1.1//EN\" " ++
        octstrImm "\"http://www.wapforum.org/DTD/wml_1.1.xml\">\n\n<wml>\n <card>\n  <p>" ++ reply ++
        octstrImm "  </p>\n </card>\n</wml>\n"⟩
  | .xml => ⟨contentType, octstrImm "<?xml version=\"1.0\"?>\n<gateway>\n" ++ reply ++ octstrImm "</gateway>\n"⟩
  | .text => ⟨octstrImm "text/plain", reply⟩

variable (lib : AdminLib) (s : Settings) (p : Process σ)

/-- The command that a request is for. -/
def Process.command (r : Request) : Option (Command σ) :=
  (p.httpdCommands.find? fun cmd => cstr (commandOf r.url).1 == octstrImm cmd.1).map Prod.snd

/-- `httpd_serve`. -/
def httpdServe (r : Request) (w : Gate × σ) : Reply × Gate × σ :=
  let (accepted, contentType) := acceptedType r.accepted
  let t := typeOf accepted (commandOf r.url).2
  let (reply, w') := match p.command r with
    | some cmd => cmd.function s r.cgivars t w
    | none => (p.unknown lib r.url t, w)
  (finalReply t contentType (reply ++ p.closing), w')

/-- The administration thread with the process around it: whether it waits for a request, and what it answered
so far — nothing to a host that is denied. -/
structure Httpd (σ : Type*) where
  running : Bool
  world : Gate × σ
  replies : List (Request × Option Reply)

/-- The thread is started. -/
def Httpd.start (c : σ) : Httpd σ where
  running := !p.dead c
  world := (⟨1 / 100, 0⟩, c)
  replies := []

/-- What happens: the process goes on by itself, a request is accepted, the ports are closed. -/
inductive HttpEvent (σ : Type*)
  | own (f : σ → σ)
  | request (r : Request)
  | close

/-- One round of `httpadmin_run`, and what happens in between. -/
def httpadminStep (h : Httpd σ) : HttpEvent σ → Option (Httpd σ)
  | .own f => some { h with world := (h.world.1, f h.world.2) }
  | .close => if h.running then some { h with running := false } else none
  | .request r =>
    if h.running then
      if lib.isAllowedIp s.haAllowIp s.haDenyIp r.ip then
        let (reply, w') := httpdServe lib s p r h.world
        some ⟨!p.dead w'.2, w', h.replies ++ [(r, some reply)]⟩
      else some ⟨!p.dead h.world.2, h.world, h.replies ++ [(r, none)]⟩
    else none

/-! ## What the password guards

A run with requests that are not authorised is compared with the run that leaves them out; the two agree on
everything but the sleep and the replies to those requests. -/

/-- The request comes from a host that is allowed and has the password. -/
def authorised (r : Request) : Bool :=
  lib.isAllowedIp s.haAllowIp s.haDenyIp r.ip && r.cgivars (octstrImm "password") == some s.haPassword

/-- The request tries a password: it comes from a host that is allowed, and its command asks for one. -/
def tries (r : Request) : Bool :=
  lib.isAllowedIp s.haAllowIp s.haDenyIp r.ip && (p.command r).any Command.isGuarded

variable {s} {cgivars : Octstr → Option Octstr} {t : StatusType} {g : Gate} {c : σ}

theorem checkAuthorization_allowed (h : cgivars (octstrImm "password") = some s.haPassword) :
    httpdCheckAuthorization s cgivars false g = (none, { g with sleep := 0 }) := by
  simp [httpdCheckAuthorization, h]

theorem checkAuthorization_denied (h : cgivars (octstrImm "password") ≠ some s.haPassword) :
    httpdCheckAuthorization s cgivars false g = (some (octstrImm "Denied"), g.denied) := by
  rw [httpdCheckAuthorization]
  cases hw : cgivars (octstrImm "password") with
  | none => rfl
  | some w =>
    have hne : w ≠ s.haPassword := by
      rintro rfl
      exact h hw
    simp [hne]

/-- Without the password a command leaves the process alone, and one that asks for it is slower the next time. -/
theorem function_denied (h : cgivars (octstrImm "password") ≠ some s.haPassword) (cmd : Command σ) :
    (cmd.function s cgivars t (g, c)).2 = (if cmd.isGuarded then g.denied else g, c) := by
  cases cmd with
  | shows text => rfl
  | guarded act => simp [Command.function, Command.isGuarded, checkAuthorization_denied h]

/-- With the password a command answers and acts on what the process is, whatever the sleep is. -/
theorem function_allowed (h : cgivars (octstrImm "password") = some s.haPassword) (cmd : Command σ)
    (g g' : Gate) :
    (cmd.function s cgivars t (g, c)).1 = (cmd.function s cgivars t (g', c)).1 ∧
      (cmd.function s cgivars t (g, c)).2.2 = (cmd.function s cgivars t (g', c)).2.2 := by
  cases cmd with
  | shows text => exact ⟨rfl, rfl⟩
  | guarded act => simp [Command.function, checkAuthorization_allowed h]

variable {lib p} {r : Request}

/-- Serving a request without the password. -/
theorem httpdServe_denied (h : r.cgivars (octstrImm "password") ≠ some s.haPassword) :
    (httpdServe lib s p r (g, c)).2 = (if (p.command r).any Command.isGuarded then g.denied else g, c) := by
  rw [httpdServe]
  cases p.command r with
  | none => rfl
  | some cmd => exact function_denied h cmd

/-- Serving a request with the password: the reply and the process do not depend on the sleep. -/
theorem httpdServe_allowed (h : r.cgivars (octstrImm "password") = some s.haPassword) (g g' : Gate) :
    (httpdServe lib s p r (g, c)).1 = (httpdServe lib s p r (g', c)).1 ∧
      (httpdServe lib s p r (g, c)).2.2 = (httpdServe lib s p r (g', c)).2.2 := by
  rw [httpdServe, httpdServe]
  cases p.command r with
  | none => exact ⟨rfl, rfl⟩
  | some cmd =>
    obtain ⟨hreply, hworld⟩ := function_allowed h cmd g g'
    exact ⟨by dsimp only; rw [hreply], hworld⟩

/-- What a request does to the thread. -/
theorem httpadminStep_request {h h' : Httpd σ} (hs : httpadminStep lib s p h (.request r) = some h') :
    h.running = true ∧ h'.running = !p.dead h'.world.2 ∧
      ((lib.isAllowedIp s.haAllowIp s.haDenyIp r.ip = true ∧ h'.world = (httpdServe lib s p r h.world).2 ∧
          h'.replies = h.replies ++ [(r, some (httpdServe lib s p r h.world).1)]) ∨
        (lib.isAllowedIp s.haAllowIp s.haDenyIp r.ip = false ∧ h'.world = h.world ∧
          h'.replies = h.replies ++ [(r, none)])) := by
  rw [httpadminStep] at hs
  split at hs
  · rename_i hrunning
    split at hs
    · rename_i hip
      obtain rfl := Option.some.inj hs
      exact ⟨hrunning, rfl, .inl ⟨hip, rfl, rfl⟩⟩
    · rename_i hip
      obtain rfl := Option.some.inj hs
      exact ⟨hrunning, rfl, .inr ⟨Bool.not_eq_true _ ▸ hip, rfl, rfl⟩⟩
  · exact absurd hs (by simp)

variable (lib s) in
/-- What the run with all requests and the run with those that are authorised agree on. -/
structure Agree (h k : Httpd σ) : Prop where
  running : h.running = true → k.running = true
  process : k.world.2 = h.world.2
  replies : k.replies = h.replies.filter fun reply => authorised lib s reply.1

variable {h h' k : Httpd σ} {es : List (HttpEvent σ)}

theorem filter_replies (replies : List (Request × Option Reply)) (reply : Option Reply) :
    (replies ++ [(r, reply)]).filter (fun reply => authorised lib s reply.1) =
      replies.filter (fun reply => authorised lib s reply.1) ++ if authorised lib s r then [(r, reply)] else [] := by
  rw [List.filter_append, List.filter_singleton]
  cases authorised lib s r <;> rfl

/-- A request that is authorised is answered on the other side too, in the same way. -/
theorem Agree.authorised (ha : Agree lib s h k) (hr : authorised lib s r = true)
    (hs : httpadminStep lib s p h (.request r) = some h') :
    ∃ k', httpadminStep lib s p k (.request r) = some k' ∧ Agree lib s h' k' := by
  obtain ⟨hip', hw⟩ := Bool.and_eq_true_iff.mp hr
  have hw := eq_of_beq hw
  obtain ⟨hrunning, hrun', ⟨hip, hworld, hreplies⟩ | ⟨hip, -, -⟩⟩ := httpadminStep_request hs
  · have hk : k.world = (k.world.1, h.world.2) := by rw [← ha.process]
    obtain ⟨hreply, hprocess⟩ : (httpdServe lib s p r h.world).1 = (httpdServe lib s p r k.world).1 ∧
        (httpdServe lib s p r h.world).2.2 = (httpdServe lib s p r k.world).2.2 := by
      rw [hk]
      exact httpdServe_allowed hw h.world.1 k.world.1
    refine ⟨⟨!p.dead (httpdServe lib s p r k.world).2.2, (httpdServe lib s p r k.world).2,
      k.replies ++ [(r, some (httpdServe lib s p r k.world).1)]⟩, ?_, ?_, ?_, ?_⟩
    · rw [httpadminStep, if_pos (ha.running hrunning), if_pos hip]
    · rw [hrun', hworld, hprocess]
      exact id
    · rw [hworld]
      exact hprocess.symm
    · rw [hreplies, filter_replies, if_pos hr, hreply, ha.replies]
  · exact absurd (hip'.symm.trans hip) (by simp)

section Sample

/-- An SMSC process of which only the status is looked at. -/
def sampleProcess : Process SmppSmsc.ClientStatus :=
  .smsc
    { version := fun _ _ => octstrImm "Kannel"
      printClientStatus := fun _ _ => []
      smsc2Status := fun _ _ => []
      smppClientStatus := id
      setDead := fun _ => .dead
      systemShutdown := fun _ => .shutdown
      smsc2StopSmsc := fun _ c => (0, c)
      smsc2RestartSmsc := fun _ c => (-1, c) }

/-- One host is allowed. -/
def sampleLib : AdminLib where
  isAllowedIp allow _ ip := allow == some ip
  linebreak _ := octstrImm "\n"

/-- The host that is allowed, the password, and a password that nobody is asked for. -/
def sampleSettings : Settings where
  haPassword := octstrImm "bar"
  haStatusPw := some (octstrImm "foo")
  haAllowIp := some (octstrImm "127.0.0.1")
  haDenyIp := some (octstrImm "*.*.*.*")

/-- A request with a password, or without one. -/
def sampleRequest (ip url : String) (password : Option String) : Request where
  ip := octstrImm ip
  url := octstrImm url
  accepted _ := false
  cgivars name := if name = octstrImm "password" then password.map octstrImm else none

/-- Somebody asks for the version, somebody guesses, another host knows the password. -/
def sampleGuesses : List (HttpEvent SmppSmsc.ClientStatus) :=
  [.request (sampleRequest "127.0.0.1" "/cgi-bin/version.txt" none),
    .request (sampleRequest "127.0.0.1" "/cgi-bin/smpp_smsc_shutdown" (some "foo")),
    .request (sampleRequest "127.0.0.1" "/smsc_stop.xml" none),
    .own fun _ => .full,
    .request (sampleRequest "10.0.0.7" "/smpp_smsc_shutdown" none)]

end Sample

/-! ## Guessing the password

The sleep grows by a second with each guess, and only a request that has the password sets it back. -/

/-- The gate after a number of passwords were denied. -/
def Gate.afterDenied (d : ℕ) (g : Gate) : Gate where
  sleep := g.sleep + d
  asked := g.asked + d * g.sleep + d * (d - 1) / 2

variable (lib s p) in
/-- A request that tries the password. -/
def trying : HttpEvent σ → Bool
  | .request r => tries lib s p r
  | _ => false

/-- What one event without the password does to the gate. -/
theorem gate_step {e : HttpEvent σ} (he : ∀ r, e = .request r → authorised lib s r = false)
    (hs : httpadminStep lib s p h e = some h') :
    h'.world.1 = h.world.1.afterDenied (if trying lib s p e then 1 else 0) := by
  have hzero : h.world.1.afterDenied 0 = h.world.1 := by simp [Gate.afterDenied]
  cases e with
  | own f =>
    obtain rfl := Option.some.inj hs
    exact hzero.symm
  | close =>
    rw [httpadminStep] at hs
    split at hs
    · obtain rfl := Option.some.inj hs
      exact hzero.symm
    · exact absurd hs (by simp)
  | request r =>
    have hr := he r rfl
    obtain ⟨-, -, ⟨hip, hworld, -⟩ | ⟨hip, hworld, -⟩⟩ := httpadminStep_request hs
    · have hw : r.cgivars (octstrImm "password") ≠ some s.haPassword := by
        intro hw
        simp [SmppServer.Admin.authorised, hip, hw] at hr
      rw [hworld, httpdServe_denied hw]
      cases hg : (p.command r).any Command.isGuarded with
      | false => simp [trying, tries, hg, hzero]
      | true => simp [trying, tries, hip, hg, Gate.afterDenied, Gate.denied]
    · simp [hworld, trying, tries, hip, hzero]

variable (lib s p c es) in
/-- **Guessing takes time**: as long as nobody gives the password, the sleeps asked for by `d` requests that try one
add up to `d * (d - 1) / 2` seconds and `d` times the first of them — whatever is requested in between. -/
theorem guessing_takes_time {h : Httpd σ} (hes : ∀ r, .request r ∈ es → authorised lib s r = false)
    (hr : exec (httpadminStep lib s p) (Httpd.start p c) es = some h) :
    let d : ℚ := es.countP (trying lib s p)
    h.world.1.asked = d * (d - 1) / 2 + d / 100 := by
  intro d
  have hgate := exec_measure (fun h : Httpd σ => h.world.1)
    (fun e => ∀ r, e = .request r → authorised lib s r = false) (trying lib s p) Gate.afterDenied ?_ ?_
    (fun he hs => gate_step he hs) (fun e he r hreq => hes r (hreq ▸ he)) hr
  · rw [hgate]
    change 0 + d * (1 / 100) + d * (d - 1) / 2 = _
    ring
  · intro g
    simp [Gate.afterDenied]
  · intro n g
    simp only [Gate.afterDenied, Gate.mk.injEq]
    push_cast
    constructor <;> ring

/-- Two guesses, a second and two hundredths. -/
theorem guessing_takes_time_sampleGuesses :
    ∃ h, exec (httpadminStep sampleLib sampleSettings sampleProcess) (Httpd.start sampleProcess .running)
        sampleGuesses = some h ∧ h.world.1.asked = 51 / 50 := by
  refine ⟨_, rfl, ?_⟩
  have hasked := guessing_takes_time sampleLib sampleSettings sampleProcess .running sampleGuesses ?_ rfl
  · refine hasked.trans ?_
    have hcount : sampleGuesses.countP (trying sampleLib sampleSettings sampleProcess) = 2 := by decide
    rw [hcount]
    norm_num
  · intro r hr
    simp only [sampleGuesses, List.mem_cons, HttpEvent.request.injEq, reduceCtorEq, false_or, or_false,
      List.not_mem_nil] at hr
    obtain rfl | rfl | rfl | rfl := hr <;> decide

end Processes

end SmppServer.Admin
