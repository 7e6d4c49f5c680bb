import Mathlib.Tactic
import ToolHost.Routine

/-!
# Routines step by step

A routine that is put together from parts is brought into the form in which its next step stands at
its head.
-/
namespace ToolHost

variable {α β : Type}

namespace Routine

@[simp] theorem bind_eq (x : Routine α) (f : α → Routine β) : x >>= f = x.bind f := rfl

@[simp] theorem pure_eq (a : α) : (pure a : Routine α) = .done a := rfl

@[simp] theorem bind_done (a : α) (f : α → Routine β) : (done a).bind f = f a := rfl

@[simp] theorem bind_look (next : House → Routine α) (f : α → Routine β) :
    (look next).bind f = look fun h => (next h).bind f := rfl

@[simp] theorem bind_alter (g : House → House) (next : Routine α) (f : α → Routine β) :
    (alter g next).bind f = alter g (next.bind f) := rfl

@[simp] theorem bind_call (c : Call) (next : Except Trouble Reply → Routine α)
    (f : α → Routine β) : (call c next).bind f = call c fun r => (next r).bind f := rfl

@[simp] theorem bind_rest (r : Rest) (next : Routine α) (f : α → Routine β) :
    (rest r next).bind f = rest r (next.bind f) := rfl

/-- What is left of a routine that looks at a house. -/
def onLook (h : House) : Routine α → Routine α
  | look next => next h
  | x => x

/-- What is left of a routine that changes the house. -/
def onAlter : Routine α → Routine α
  | alter _ next => next
  | x => x

/-- What is left of a routine whose call is answered. -/
def onReply (reply : Except Trouble Reply) : Routine α → Routine α
  | call _ next => next reply
  | x => x

end Routine

namespace Conduct

/-- A routine that goes on with what a part of it has come to, unless that failed. -/
def onward (f : α → Conduct β) : Except Trouble α → Routine (Except Trouble β)
  | .ok a => (f a).run
  | .error t => .done (.error t)

@[simp] theorem onward_ok (f : α → Conduct β) (a : α) : onward f (.ok a) = (f a).run := rfl

@[simp] theorem onward_error (f : α → Conduct β) (t : Trouble) :
    onward f (.error t) = .done (.error t) := rfl

@[simp] theorem run_bind (x : Conduct α) (f : α → Conduct β) :
    (x >>= f).run = x.run.bind (onward f) := by
  change Routine.bind _ _ = Routine.bind _ _
  congr 1
  funext r
  cases r <;> rfl

@[simp] theorem run_pure (a : α) : (pure a : Conduct α).run = .done (.ok a) := rfl

@[simp] theorem run_ask (c : Call) : (ask c).run = .call c .done := rfl

@[simp] theorem run_house : house.run = .look fun h => .done (.ok h) := rfl

@[simp] theorem run_alter (f : House → House) : (alter f).run = .alter f (.done (.ok ())) := rfl

@[simp] theorem run_note (x : Happening) : (note x).run = .alter (·.say x) (.done (.ok ())) := rfl

@[simp] theorem run_ofExcept (x : Except Trouble α) : (ofExcept x).run = .done x := rfl

@[simp] theorem run_attempt (x : Conduct α) :
    x.attempt.run = x.run.bind fun r => .done (.ok r) := rfl

end Conduct

end ToolHost
