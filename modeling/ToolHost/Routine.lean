import ToolHost.House

/-!
# Routines

What a front end does, step by step: it looks at the house, changes it on the spot, and makes calls
whose replies it waits for. Between a call and its reply other routines may run; nowhere else.
-/
namespace ToolHost

/-- A rest of a routine that is no call of the house. -/
inductive Rest
  /-- Some time passes. -/
  | sleep (length : Seconds)
  /-- Everything that can run without waiting for time runs first. -/
  | calm
  deriving DecidableEq, Repr

inductive Routine (α : Type)
  | done (a : α)
  | look (next : House → Routine α)
  | alter (f : House → House) (next : Routine α)
  | call (c : Call) (next : Except Trouble Reply → Routine α)
  | rest (r : Rest) (next : Routine α)

namespace Routine

variable {α β : Type}

def bind : Routine α → (α → Routine β) → Routine β
  | done a, f => f a
  | look next, f => look fun h => (next h).bind f
  | alter g next, f => alter g (next.bind f)
  | call c next, f => call c fun r => (next r).bind f
  | rest r next, f => rest r (next.bind f)

instance : Monad Routine where
  pure := done
  bind := bind

end Routine

/-- A routine that may fail. -/
abbrev Conduct := ExceptT Trouble Routine

namespace Conduct

/-- Makes a call and waits for its reply. -/
def ask (c : Call) : Conduct Reply := ExceptT.mk (.call c .done)

def house : Conduct House := ExceptT.mk (.look fun h => .done (.ok h))

def alter (f : House → House) : Conduct Unit := ExceptT.mk (.alter f (.done (.ok ())))

def note (x : Happening) : Conduct Unit := alter (·.say x)

def rest (r : Rest) : Conduct Unit := ExceptT.mk (.rest r (.done (.ok ())))

/-- What a routine comes to, be it a failure. -/
def attempt {α : Type} (x : Conduct α) : Conduct (Except Trouble α) :=
  ExceptT.mk (x.run.bind fun r => .done (.ok r))

def ofExcept {α : Type} (x : Except Trouble α) : Conduct α := ExceptT.mk (.done x)

/-- Sends the lines of a text one after another. -/
def sendLines (name : SessionName) : List String → Conduct Unit
  | [] => pure ()
  | line :: rest => do
    let _ ← ask (.session name (.send line))
    sendLines name rest

/-- Sends every line of a text. -/
def sendText (name : SessionName) (text : String) : Conduct Unit :=
  sendLines name ((Text.lines text.toList).map String.ofList)

/-- Stops sessions one after another. -/
def stopAll : List SessionName → Conduct Unit
  | [] => pure ()
  | name :: rest => do
    let _ ← ask (.session name .stop)
    stopAll rest

/-- Stops every session that is recorded now. -/
def shutDown : Conduct Unit := do
  stopAll (← house).roster

/-- Runs a single command with the artifact where it is now. -/
def oneShot (dir : Machine.Path) (text : String) : Conduct Reply := do
  let artifact ← ofExcept (← house).location.artifactPath
  ask (.oneShot artifact dir text)

end Conduct

end ToolHost
