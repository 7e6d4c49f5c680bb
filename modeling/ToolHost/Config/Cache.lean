import ToolHost.Config.Source

/-!
# The settings in memory

The settings of no particular project are built once and kept until they are dropped or a fresh
build is asked for. Settings of a project are built whenever they are asked for and never kept.
-/
namespace ToolHost.Config

open Machine (Host)

/-- Settings, told apart from others by the number of their build. -/
structure Built where
  serial : Nat
  settings : Settings

structure Cache where
  kept : Option Built := none
  /-- The number of the next build. -/
  next : Nat := 0

namespace Cache

/-- Builds settings; those of no project are kept. A build that fails changes nothing that is
kept. -/
def rebuild (c : Cache) (h : Host) (root : Option String) : Logged Built × Cache :=
  let built := (build h root).bind fun s => .ok ⟨c.next, s⟩
  match built.outcome with
  | .error _ => (built, { c with next := c.next + 1 })
  | .ok b => (built, { kept := if root.isNone then some b else c.kept, next := c.next + 1 })

/-- The settings, of a project or of none; `fresh` asks for a new build in any case. -/
def load (c : Cache) (h : Host) (root : Option String) (fresh : Bool) : Logged Built × Cache :=
  match c.kept, root, fresh with
  | some b, none, false => (.ok b, c)
  | _, _, _ => c.rebuild h root

/-- The settings of no project. -/
def get (c : Cache) (h : Host) : Logged Built × Cache := c.load h none false

def reset (c : Cache) : Cache := { c with kept := none }

end Cache

end ToolHost.Config
