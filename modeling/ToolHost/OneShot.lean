import ToolHost.Launch
import ToolHost.Happening
import ToolHost.Machine.Path
import ToolHost.Shell.Words

/-!
# One-shot commands

The tool can be run with a single command, without a session. The caller does not wait for the
process to end; that is left to a reaper, one for each process. A process is listed from its launch
until its reaper is done, and whoever waits for the listed processes gets their exit codes when all
their reapers are.
-/
namespace ToolHost.OneShot

open Machine (Path)

/-- A launched command, as its caller sees it. -/
structure Launch where
  command : String
  pid : Pid
  dir : String
  deriving DecidableEq, Repr

/-- A launch in a few words. -/
def Launch.written (l : Launch) : String :=
  "<LaunchResult pid=" ++ toString l.pid ++ " " ++ Text.quoted l.command ++ ">"

/-- The words of a command given as text, or the failure to find them. -/
def words (plan : Plan) (artifact text : String) : Except Trouble (List String) :=
  match Shell.split text with
  | .ok args => (plan.argv artifact args).mapError .breakdown
  | .error e =>
    match plan.argv artifact [] with
    | .error b => .error (.breakdown b)
    | .ok start =>
      .error (.failure (.spawn (Shell.join start ++ " " ++ text)
        ("Cannot parse subcommand " ++ Text.quoted text ++ ": " ++ e.message)))

/-- Where the reaper of a process stands. -/
inductive Reaper
  | unstarted
  | asleep
  | woken
  | done
  deriving DecidableEq, Repr

structure Shot where
  pid : Pid
  command : String
  code : Option Int := none
  reaper : Reaper := .unstarted
  isListed : Bool := true
  deriving DecidableEq, Repr

/-- A call that waits for a process to be created. -/
structure Pending where
  id : CallId
  argv : List String
  dir : Path
  deriving DecidableEq, Repr

/-- A call that waits for processes to be reaped. -/
structure Vigil where
  id : CallId
  pids : List Pid
  /-- How many of them have not been counted yet. -/
  missing : Nat
  deriving DecidableEq, Repr

/-- All one-shot commands. -/
structure Shots where
  shots : List Shot := []
  pending : List Pending := []
  vigils : List Vigil := []
  deriving DecidableEq, Repr

inductive Job
  /-- A call goes on. -/
  | resume (id : CallId)
  | reap (pid : Pid)
  /-- A process goes off the list. -/
  | forget (pid : Pid)
  /-- A waiting call counts a process. -/
  | count (id : CallId)
  deriving DecidableEq, Repr

/-- How a call ends. -/
inductive Ending
  | launched (l : Launch)
  | codes (cs : List Int)
  | failed (t : Trouble)
  deriving DecidableEq, Repr

/-- What a step brings about. -/
structure Turn where
  shots : Shots
  jobs : List Job := []
  /-- What happened, the latest first. -/
  trace : List Happening := []
  returned : Option (CallId × Ending) := none

inductive Action
  /-- A command is launched in a directory, if it could be made out. -/
  | begin (id : CallId) (argv : Except Trouble (List String)) (dir : Path)
  | launched (id : CallId) (outcome : Except SpawnFault Pid) (extra : Machine.Variables)
  | reap (pid : Pid)
  | exit (pid : Pid) (code : Int)
  | forget (pid : Pid)
  /-- A call wants to wait for all listed processes. -/
  | await (id : CallId)
  | count (id : CallId)
  | resume (id : CallId)

namespace Shots

def shot? (s : Shots) (pid : Pid) : Option Shot := s.shots.find? (·.pid = pid)

def setShot (s : Shots) (x : Shot) : Shots :=
  { s with shots := s.shots.map fun y => if y.pid = x.pid then x else y }

def listed (s : Shots) : List Shot := s.shots.filter (·.isListed)

def codes (s : Shots) (pids : List Pid) : List Int :=
  pids.map fun pid => ((s.shot? pid).bind (·.code)).getD 0

/-- A command begins to be launched. -/
def begin (s : Shots) (id : CallId) (argv : Except Trouble (List String)) (dir : Path) : Turn :=
  match argv with
  | .error t => { shots := s, returned := some (id, .failed t) }
  | .ok argv =>
    { shots := { s with pending := s.pending ++ [⟨id, argv, dir⟩] }, jobs := [.resume id] }

/-- The process of a command was created, or not. -/
def launched (s : Shots) (id : CallId) (outcome : Except SpawnFault Pid)
    (extra : Machine.Variables) : Turn :=
  match s.pending.find? (·.id = id) with
  | none => { shots := s }
  | some p =>
    let s := { s with pending := s.pending.filter (·.id != id) }
    let dir := p.dir.text
    match outcome with
    | .error fault =>
      { shots := s
        trace := [.spawnFailed p.argv dir]
        returned := some (id, .failed (fault.trouble p.argv dir)) }
    | .ok pid =>
      let command := Shell.join p.argv
      { shots := { s with shots := s.shots ++ [{ pid, command }] }
        jobs := [.reap pid]
        trace := [.launched command pid dir, .spawned false pid p.argv dir extra]
        returned := some (id, .launched ⟨command, pid, dir⟩) }

/-- A reaper looks whether its process has ended. When it has, the process goes off the list and
everybody who waits for it counts it. -/
def reap (s : Shots) (pid : Pid) : Turn :=
  match s.shot? pid with
  | none => { shots := s }
  | some x =>
    match x.reaper, x.code with
    | .done, _ => { shots := s }
    | _, none => { shots := s.setShot { x with reaper := .asleep } }
    | _, some code =>
      let counting := s.vigils.filter fun v => v.pids.contains pid
      { shots := s.setShot { x with reaper := .done }
        jobs := .forget pid :: counting.map fun v => .count v.id
        trace := [.reaped x.command pid code] }

/-- A process ends, unless it has ended before. -/
def exit (s : Shots) (pid : Pid) (code : Int) : Turn :=
  match s.shot? pid with
  | none => { shots := s }
  | some x =>
    if x.code.isSome then { shots := s }
    else
      let isAsleep := x.reaper = .asleep
      { shots := s.setShot { x with
          code := some code, reaper := if isAsleep then .woken else x.reaper }
        jobs := if isAsleep then [.reap pid] else []
        trace := [.exited pid code] }

def forget (s : Shots) (pid : Pid) : Turn :=
  match s.shot? pid with
  | none => { shots := s }
  | some x => { shots := s.setShot { x with isListed := false } }

/-- A call begins to wait. Processes whose reapers are done are counted as soon as it is their
turn. -/
def await (s : Shots) (id : CallId) : Turn :=
  let listed := s.listed
  if listed.isEmpty then { shots := s, returned := some (id, .codes []) }
  else
    { shots := { s with vigils := s.vigils ++ [⟨id, listed.map (·.pid), listed.length⟩] }
      jobs := (listed.filter (·.reaper = .done)).map fun _ => .count id }

/-- A call counts a process; with the last one it goes on. -/
def count (s : Shots) (id : CallId) : Turn :=
  let vigils := s.vigils.map fun v =>
    if v.id = id then { v with missing := v.missing - 1 } else v
  let isOver := s.vigils.any fun v => v.id = id && v.missing = 1
  { shots := { s with vigils }, jobs := if isOver then [.resume id] else [] }

/-- A call that has counted all its processes ends. -/
def resume (s : Shots) (id : CallId) : Turn :=
  match s.vigils.find? (·.id = id) with
  | none => { shots := s }
  | some v =>
    if v.missing ≠ 0 then { shots := s }
    else
      { shots := { s with vigils := s.vigils.filter (·.id != id) }
        returned := some (id, .codes (s.codes v.pids)) }

/-- What an action does. -/
def act (s : Shots) : Action → Turn
  | .begin id argv dir => s.begin id argv dir
  | .launched id outcome extra => s.launched id outcome extra
  | .reap pid => s.reap pid
  | .exit pid code => s.exit pid code
  | .forget pid => s.forget pid
  | .await id => s.await id
  | .count id => s.count id
  | .resume id => s.resume id

end Shots

end ToolHost.OneShot
