import ToolHost.Machine.FileTree

/-!
# The host

What a program sees of the machine it runs on: its variables, its kind, its files, and the home
directories of its users.
-/
namespace ToolHost.Machine

abbrev Variables := List (String × String)

namespace Variables

def get? (vs : Variables) (name : String) : Option String := List.lookup name vs

def unset (vs : Variables) (name : String) : Variables := vs.filter (·.1 != name)

/-- Sets a variable, in its place if it has one. -/
def set (vs : Variables) (name value : String) : Variables :=
  if vs.any (·.1 == name) then vs.map fun v => if v.1 = name then (name, value) else v
  else vs ++ [(name, value)]

/-- Sets all variables of a second list. -/
def update (vs more : Variables) : Variables :=
  more.foldl (fun vs v => vs.set v.1 v.2) vs

/-- The variables that are not the same in a second list. -/
def changes (vs before : Variables) : Variables :=
  vs.filter fun v => before.get? v.1 != some v.2

end Variables

structure Host where
  environment : Variables := []
  isWindows : Bool := false
  files : FileTree := {}
  /-- Files that may not be read, as they are named. -/
  unreadable : List String := []

namespace Host

/-- A variable that is set to something. -/
def nonempty? (h : Host) (name : String) : Option String :=
  (h.environment.get? name).filter (· != "")

def homes (h : Host) : Path.Homes :=
  { own := (h.environment.get? "HOME").getD "/root" }

/-- A path with its home directory in place of `~`. -/
def expandHome? (h : Host) (p : Path) : Option Path := p.expandHome? h.homes

/-- The user's home directory. -/
def home? (h : Host) : Option Path := h.expandHome? (Path.ofString "~")

end Host

end ToolHost.Machine
