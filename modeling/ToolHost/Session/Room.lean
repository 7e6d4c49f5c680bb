import ToolHost.Launch
import ToolHost.Session.Child
import ToolHost.Session.Latch

/-!
# Rooms

A room is all that belongs to one session name: the process that is recorded under it, the latch
that puts starts, stops and restarts in order, the calls under way, the display, and every process
that was ever created for the name. At most one session of a name is live.
-/
namespace ToolHost.Session

open Machine (Path)

/-- What can be asked of a room. -/
inductive Request
  | start (dir : Path)
  | stop
  | restart (dir : Path)
  | send (line : String)
  deriving DecidableEq, Repr

/-- A session as its caller sees it. -/
structure View where
  name : SessionName
  pid : Pid
  dir : Path
  isLive : Bool
  code : Option Int
  deriving DecidableEq, Repr

/-- A session in a few words. -/
def View.written (s : View) : String :=
  let state :=
    if s.isLive then "live"
    else "exited=" ++ match s.code with | none => "None" | some c => toString c
  "<ToolSession " ++ s.name.shown ++ " pid=" ++ toString s.pid ++ " " ++ state ++ ">"

/-- How a call ends. -/
inductive Ending
  | session (s : View)
  | done
  | failed (t : Trouble)
  /-- The caller gave up. -/
  | abandoned
  deriving DecidableEq, Repr

/-- Where a call waits. -/
inductive Phase
  /-- In the queue of the latch. -/
  | queued
  /-- For the output of a stopped process to end, or for its time to run out. -/
  | grace (pid : Pid)
  /-- For a killed process to end. -/
  | reaping (pid : Pid)
  /-- For the relay of a stopped process to end. -/
  | joining (pid : Pid)
  /-- For a process to be created. -/
  | spawning (argv : List String)
  /-- For a line to be taken. -/
  | draining
  deriving DecidableEq, Repr

inductive Wake
  | asleep
  | woken
  /-- To be resumed only to give up. -/
  | interrupted
  deriving DecidableEq, Repr

/-- A call that waits. -/
structure Caller where
  id : CallId
  request : Request
  /-- The latch that the call passed or waits for; none outside. -/
  latch : Option Nat
  phase : Phase
  wake : Wake := .asleep
  deriving DecidableEq, Repr

/-- A process that was created. -/
structure Birth where
  pid : Pid
  traits : Traits := {}
  deriving DecidableEq, Repr

structure Room where
  name : SessionName
  /-- All latches that there ever were, by number. -/
  latches : List (Nat × Latch) := []
  /-- The latch that calls go to. -/
  latch : Option Nat := none
  /-- How many calls are at the latch, waiting or inside. -/
  users : Option Nat := none
  /-- The process whose session is recorded. -/
  recorded : Option Pid := none
  /-- What is on display, once there is a display. -/
  display : Option (List Terminal.StyledText) := none
  children : List Child := []
  callers : List Caller := []
  deriving DecidableEq, Repr

namespace Room

def child? (r : Room) (pid : Pid) : Option Child := r.children.find? (·.pid = pid)

def child (r : Room) (pid : Pid) : Child := (r.child? pid).getD { pid }

def setChild (r : Room) (c : Child) : Room :=
  { r with children := r.children.map fun d => if d.pid = c.pid then c else d }

def latchAt (r : Room) (n : Nat) : Latch := (r.latches.lookup n).getD {}

def setLatch (r : Room) (n : Nat) (l : Latch) : Room :=
  { r with latches := r.latches.map fun e => if e.1 = n then (n, l) else e }

/-- The number of the latch that a call goes to; the latch may still have to be made. -/
def latchNumber (r : Room) : Nat := r.latch.getD r.latches.length

/-- The room with one more call at the latch, which is made if it is not there. -/
def knock (r : Room) : Room :=
  let n := r.latchNumber
  let latches := if r.latch.isSome then r.latches else r.latches ++ [(n, ({} : Latch))]
  { r with latches, latch := some n, users := some (r.users.getD 0 + 1) }

def caller? (r : Room) (id : CallId) : Option Caller := r.callers.find? (·.id = id)

def setCaller (r : Room) (c : Caller) : Room :=
  { r with callers := r.callers.map fun d => if d.id = c.id then c else d }

/-- The room with a new process, whose session is recorded. From now on there is a display. -/
def adopt (r : Room) (dir : Path) (b : Birth) : Room :=
  { r with
    children := r.children ++ [{ pid := b.pid, dir, traits := b.traits }]
    display := some (r.display.getD [])
    recorded := some b.pid }

/-- The session of a process, as it is now. -/
def session (r : Room) (pid : Pid) : View :=
  let c := r.child pid
  ⟨r.name, pid, c.dir, c.isLive, c.code⟩

/-- The live session, if there is one. -/
def live? (r : Room) : Option View :=
  match r.recorded with
  | some pid => if (r.child pid).isLive then some (r.session pid) else none
  | none => none

/-- Whether a call waits for the output of a stopped process to end, so that its time can run
out. -/
def isInGrace (r : Room) (id : CallId) : Bool :=
  match r.caller? id with
  | some ⟨_, _, _, .grace _, .asleep⟩ => true
  | _ => false

end Room

/-- What becomes ready to run in a room. -/
inductive Job
  /-- A call goes on. -/
  | resume (id : CallId)
  /-- The relay of a process goes on. -/
  | relay (pid : Pid)
  /-- A call is told that a relay ended. -/
  | notice (id : CallId)
  /-- A process finds a piece on its input. -/
  | input (pid : Pid) (piece : Machine.Bytes)
  /-- A process finds the end of its input. -/
  | inputEnd (pid : Pid)
  deriving DecidableEq, Repr

/-- What a room has to know of the rest of the program. -/
structure Setting where
  /-- The command that would be launched now, or why there is none. -/
  command : Except Trouble (List String)
  grace : Grace
  /-- Variables of a child that differ from the program's own. -/
  extra : Machine.Variables := []

/-- What can happen in a room. -/
inductive Action
  /-- A call begins. -/
  | begin (id : CallId) (request : Request)
  | resume (id : CallId)
  /-- A call goes on that waits for a process to be created. -/
  | launched (id : CallId) (outcome : Except SpawnFault Birth)
  /-- A call in its grace period is woken. -/
  | wake (id : CallId)
  | relay (pid : Pid)
  /-- A process ends. -/
  | exit (pid : Pid) (code : Int)
  /-- A process writes. -/
  | output (pid : Pid) (portion : Machine.Bytes)
  /-- The output of a process ends. -/
  | closeOutput (pid : Pid)
  /-- The line of a call that waits is taken, or the connection turns out to be broken. -/
  | drained (id : CallId) (isBroken : Bool)
  /-- A call is to give up. -/
  | cancel (id : CallId)
  | clear
  /-- The display is looked at. -/
  | openDisplay

end ToolHost.Session
