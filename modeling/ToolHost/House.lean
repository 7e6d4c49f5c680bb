import ToolHost.Install
import ToolHost.OneShot
import ToolHost.Registry
import ToolHost.Session.Turn

/-!
# The house

All that a run of the program keeps: the room of every session name, the one-shot commands, the
installations under way, the location of the artifact, the files, and what has happened so far.
The house only answers to actions; who sends them, and in which order, is not its affair.
-/
namespace ToolHost

open Machine (Host Path)

/-- What can be asked for and waited for. -/
inductive Call
  | session (name : SessionName) (request : Session.Request)
  /-- A single command, run by the given artifact. -/
  | oneShot (artifact : Path) (dir : Path) (text : String)
  /-- The exit codes of all one-shot commands under way. -/
  | awaitOneShots
  | install (target : Path) (artifactName : String) (url : Value)

/-- What comes of a call or a command. -/
inductive Reply
  | nothing
  | session (s : Session.View)
  | launched (l : OneShot.Launch)
  | codes (cs : List Int)
  | installed (i : Installed)
  | value (v : Value)

/-- A reply in a few words; nothing has none. -/
def Reply.written? : Reply → Option String
  | nothing => none
  | session s => some s.written
  | launched l => some l.written
  | codes cs => some ("[" ++ ", ".intercalate (cs.map toString) ++ "]")
  | installed i => some i.written
  | value v => if v.isNull then none else some v.shown

/-- What a command does when it is called. -/
inductive Command
  | install
  | start
  | stop
  | restart
  | clear
  /-- A subcommand of the tool. -/
  | run (subcommand : String)
  /-- Gives a value. -/
  | give (v : Value)

structure House where
  plan : Plan := {}
  host : Host := {}
  location : Location := {}
  rooms : List (SessionName × Session.Room) := []
  /-- The names under which sessions are recorded, in the order in which they came to be so. -/
  roster : List SessionName := []
  shots : OneShot.Shots := {}
  installs : List (CallId × Install.Order) := []
  commands : Registry Command := {}
  /-- The prompt is to go on reading lines. -/
  isPrompting : Bool := false
  /-- What happened, the latest first. -/
  trace : List Happening := []

/-- What becomes ready to run. -/
inductive Job
  | room (name : SessionName) (job : Session.Job)
  | shot (job : OneShot.Job)
  deriving DecidableEq, Repr

/-- What can happen in the house. -/
inductive Action
  | begin (id : CallId) (call : Call)
  | room (name : SessionName) (action : Session.Action)
  | shot (action : OneShot.Action)
  /-- An installation has what it fetched; the addresses that were asked come with it. -/
  | received (id : CallId) (asked : List String) (outcome : Http.Outcome)
      (refusal : Install.Refusal)

/-- What a step brings about. -/
structure Outcome where
  house : House
  jobs : List Job := []
  /-- Calls of rooms to be woken after some time. -/
  alarms : List (SessionName × CallId × Seconds) := []
  returned : Option (CallId × Except Trouble Reply) := none

namespace House

def room (h : House) (name : SessionName) : Session.Room := (h.rooms.lookup name).getD { name }

def setRoom (h : House) (r : Session.Room) : House :=
  { h with rooms := (r.name, r) :: h.rooms.filter (·.1 != r.name) }

def say (h : House) (x : Happening) : House := { h with trace := x :: h.trace }

/-- All live sessions, in the order in which they were recorded. -/
def sessions (h : House) : List Session.View := h.roster.filterMap fun n => (h.room n).live?

/-- The session of a process, as it is now. -/
def sessionOf? (h : House) (pid : Pid) : Option Session.View :=
  h.rooms.findSome? fun (_, r) => (r.child? pid).map fun _ => r.session pid

/-- Whether the artifact is there. -/
def artifact (h : House) (p : Path) : Except Trouble Unit :=
  match Config.Place.exists? h.host p with
  | .error b => .error (.breakdown b)
  | .ok true => .ok ()
  | .ok false => .error (.failure (.artifactNotFound (some p.text)))

/-- The command that starts a session now, or why there is none. -/
def sessionCommand (h : House) : Except Trouble (List String) := do
  let p ← h.location.artifactPath
  h.artifact p
  (h.plan.argv p.text h.plan.interactiveArgs).mapError .breakdown

def extra (h : House) : Machine.Variables := h.plan.extra h.host.environment

/-- What rooms have to know. -/
def setting (h : House) : Session.Setting :=
  { command := h.sessionCommand, grace := h.plan.grace, extra := h.extra }

/-- The reply of a room. A call that was given up ends with an interruption. -/
def replyOfRoom : Session.Ending → Except Trouble Reply
  | .session s => .ok (.session s)
  | .done => .ok .nothing
  | .failed t => .error t
  | .abandoned => .error (.breakdown .interrupted)

def replyOfShot : OneShot.Ending → Except Trouble Reply
  | .launched l => .ok (.launched l)
  | .codes cs => .ok (.codes cs)
  | .failed t => .error t

/-- The roster after the record of a name changed. -/
def enroll (roster : List SessionName) (name : SessionName) (before after : Option Pid) :
    List SessionName :=
  if before = after then roster
  else
    let without := roster.filter (· != name)
    if after.isSome then without ++ [name] else without

/-- Something happens in a room. -/
def actRoom (h : House) (name : SessionName) (a : Session.Action) : Outcome :=
  let r := h.room name
  let t := r.act h.setting a
  let h := { h.setRoom t.room with
    roster := enroll h.roster name r.recorded t.room.recorded
    trace := t.trace ++ h.trace }
  { house := h
    jobs := t.jobs.map (.room name)
    alarms := t.alarms.map fun (id, length) => (name, id, length)
    returned := t.returned.map fun (id, e) => (id, replyOfRoom e) }

/-- Something happens to one-shot commands. -/
def actShot (h : House) (a : OneShot.Action) : Outcome :=
  let t := h.shots.act a
  { house := { h with shots := t.shots, trace := t.trace ++ h.trace }
    jobs := t.jobs.map .shot
    returned := t.returned.map fun (id, e) => (id, replyOfShot e) }

/-- Begins an installation, and ends it if the artifact is there or the address is no text. -/
def beginInstall (h : House) (id : CallId) (target : Path) (artifactName : String) (url : Value) :
    Outcome :=
  let failed (h : House) (b : Breakdown) : Outcome := ⟨h, [], [], some (id, .error (.breakdown b))⟩
  match Install.order h.host target artifactName url.written with
  | .error b => failed h b
  | .ok o =>
    match Install.look h.host o with
    | .error b => failed h b
    | .ok .present =>
      let h := { h.say (.present o.path.text) with location := o.location }
      ⟨h, [], [], some (id, .ok (.installed ⟨o.path, none⟩))⟩
    | .ok .missing =>
      let h := h.say (.fetching o.url)
      match url with
      | .scalar (.text _) => { house := { h with installs := h.installs ++ [(id, o)] } }
      | _ => failed h .wrongKind

/-- Ends an installation with what it fetched. -/
def receive (h : House) (id : CallId) (asked : List String) (outcome : Http.Outcome)
    (refusal : Install.Refusal) : Outcome :=
  match h.installs.lookup id with
  | none => { house := h }
  | some o =>
    let c := Install.receive h.host.files o outcome refusal
    let requests := (asked.map Happening.requested).reverse
    let h := { h with
      host := { h.host with files := c.files }
      installs := h.installs.filter (·.1 != id)
      location := match c.result with | .ok _ => o.location | .error _ => h.location
      trace := c.trace ++ requests ++ h.trace }
    { house := h, returned := some (id, c.result.map .installed) }

/-- Begins a call. -/
def begin (h : House) (id : CallId) : Call → Outcome
  | .session name request => h.actRoom name (.begin id request)
  | .oneShot artifact dir text =>
    let argv := h.artifact artifact >>= fun _ => OneShot.words h.plan artifact.text text
    h.actShot (.begin id argv dir)
  | .awaitOneShots => h.actShot (.await id)
  | .install target artifactName url => h.beginInstall id target artifactName url

/-- What an action does. -/
def act (h : House) : Action → Outcome
  | .begin id call => h.begin id call
  | .room name a => h.actRoom name a
  | .shot a => h.actShot a
  | .received id asked outcome refusal => h.receive id asked outcome refusal

end House

end ToolHost
