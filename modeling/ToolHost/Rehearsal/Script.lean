import ToolHost.Seconds
import ToolHost.Session.Room

/-!
# Scripts for children

What a child of a rehearsal does: whether it comes into being at all, what it writes, how it
answers lines and the end of its input, and when it ends.
-/
namespace ToolHost.Rehearsal

open Machine (Bytes)

/-- What a child does in answer to something: it writes and may end. -/
structure Answer where
  out : List Bytes := []
  exit : Option Int := none

/-- What a child does at the end of its input. -/
structure Farewell where
  delay : Seconds := .zero
  out : List Bytes := []
  code : Int := 0

structure Script where
  /-- Why the child is not created. -/
  fault : Option SpawnFault := none
  /-- What can be read from the start. -/
  out : List Bytes := []
  /-- The code with which the child ends by itself, some time after its creation. -/
  exit : Option Int := none
  delay : Seconds := .zero
  /-- What is written before every line that is given back; without it lines are swallowed. -/
  echo : Option Bytes := none
  /-- Answers to particular lines. -/
  replies : List (Bytes × Answer) := []
  /-- Nothing happens at the end of the input if there is none. -/
  farewell : Option Farewell := some {}
  traits : Session.Traits := {}

namespace Script

/-- A session without a script of its own gives every line back. -/
def session : Script := { echo := some (Text.Utf8.encode "got: ") }

/-- A single command without a script of its own succeeds at once. -/
def oneShot : Script := { exit := some 0 }

def lineFeed : UInt8 := 10

/-- The answer to a line. -/
def answer (s : Script) (line : Bytes) : Answer :=
  match s.replies.lookup line with
  | some a => a
  | none =>
    match s.echo with
    | some start => { out := [start ++ line ++ [lineFeed]] }
    | none => {}

end Script

/-- The complete lines of some octets, and what follows the last of them. -/
def completeLines (bytes : Bytes) : List Bytes × Bytes :=
  go bytes []
where
  go : Bytes → Bytes → List Bytes × Bytes
    | [], line => ([], line.reverse)
    | b :: rest, line =>
      if b = Script.lineFeed then
        let (lines, last) := go rest []
        (line.reverse :: lines, last)
      else go rest (b :: line)

end ToolHost.Rehearsal
