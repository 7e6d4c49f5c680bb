import ToolHost.Failure

/-!
# Named commands

A front end calls commands by their names. Names are bound to whatever the commands are, each with
a description; binding a name again replaces what it was bound to.
-/
namespace ToolHost

/-- A name with what it is bound to. -/
structure Binding (α : Type) where
  name : String
  command : α
  description : String := ""

structure Registry (α : Type) where
  bindings : List (Binding α) := []

namespace Registry

variable {α : Type}

/-- Binds a name. -/
def bind (r : Registry α) (b : Binding α) : Registry α :=
  ⟨r.bindings.filter (·.name != b.name) ++ [b]⟩

def unbind (r : Registry α) (name : String) : Registry α :=
  ⟨r.bindings.filter (·.name != name)⟩

def find? (r : Registry α) (name : String) : Option (Binding α) :=
  r.bindings.find? (·.name = name)

def contains (r : Registry α) (name : String) : Bool := (r.find? name).isSome

/-- The description of a name, empty if nothing is bound to it. -/
def describe (r : Registry α) (name : String) : String :=
  ((r.find? name).map (·.description)).getD ""

/-- The names in the order of their characters. -/
def names (r : Registry α) : List String :=
  (r.bindings.map (·.name)).mergeSort fun a b => !decide (b < a)

/-- The command that a name is bound to. -/
def command (r : Registry α) (name : String) : Except Failure α :=
  match r.find? name with
  | some b => .ok b.command
  | none => .error (.unknownCommand name)

end Registry

end ToolHost
