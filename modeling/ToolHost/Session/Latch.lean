import ToolHost.Happening

/-!
# Latches

A latch lets one call in at a time. Calls that find it closed wait in a queue. A latch that is
released is open at once, and the first call of the queue gets leave to enter; until it does, new
calls queue up behind it, so nobody overtakes.
-/
namespace ToolHost.Session

/-- How a waiting call stands. -/
inductive Ticket
  | pending
  /-- The call may enter. -/
  | granted
  /-- The call no longer waits. -/
  | withdrawn
  deriving DecidableEq, Repr

structure Latch where
  isHeld : Bool := false
  queue : List (CallId × Ticket) := []
  deriving DecidableEq, Repr

namespace Latch

/-- Whether a call may enter without waiting. -/
def isOpen (l : Latch) : Bool := !l.isHeld && l.queue.all fun w => w.2 = .withdrawn

def enter (l : Latch) : Latch := { l with isHeld := true }

/-- Joins the queue. -/
def wait (l : Latch) (id : CallId) : Latch := { l with queue := l.queue ++ [(id, .pending)] }

def ticket? (l : Latch) (id : CallId) : Option Ticket := l.queue.lookup id

/-- Gives the first call of the queue leave to enter, if it is still to get it. -/
def invite (l : Latch) : Latch × Option CallId :=
  match l.queue with
  | (id, .pending) :: rest => ({ l with queue := (id, .granted) :: rest }, some id)
  | _ => (l, none)

def release (l : Latch) : Latch × Option CallId := { l with isHeld := false }.invite

/-- Leaves the queue. -/
def quit (l : Latch) (id : CallId) : Latch := { l with queue := l.queue.filter (·.1 != id) }

/-- Gives up waiting, but stays in the queue until the call is resumed. -/
def withdraw (l : Latch) (id : CallId) : Latch :=
  { l with queue := l.queue.map fun w => if w.1 = id then (id, .withdrawn) else w }

end Latch

end ToolHost.Session
