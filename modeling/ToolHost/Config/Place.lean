import ToolHost.Failure
import ToolHost.Product
import ToolHost.Machine.Host

/-!
# Where configuration files are

One file for the system, one for the user and one for the project, in this order of priority. Any
of them may be missing.
-/
namespace ToolHost.Config.Place

open Machine (Host Path)

def fileName : String := "config.yaml"

/-- The file in a directory that other programs use too. -/
def shared (dir : Path) : Path := (dir.join Product.name).join fileName

/-- The file in a directory of the program's own. -/
def own (dir : Path) : Path := (dir.join Product.hiddenDirectory).join fileName

/-- The system's file. -/
def system? (h : Host) : Option Path :=
  if h.isWindows then (h.nonempty? "PROGRAMDATA").map fun d => shared (Path.ofString d)
  else some (shared (Path.ofString "/etc"))

/-- Whether something stands at a path, or why this cannot be told. -/
def exists? (h : Host) (p : Path) : Except Breakdown Bool :=
  match h.files.exists? p with
  | .ok b => .ok b
  | .error e => .error (.system e.code)

/-- The user's home directory. -/
def home (h : Host) : Except Breakdown Path :=
  match h.home? with
  | some p => .ok p
  | none => .error .noHome

/-- The user's file: below the directory that a variable names, else below the common directory of
the home directory if there is one, else below the program's own. -/
def user? (h : Host) : Except Breakdown (Option Path) := do
  if h.isWindows then return (h.nonempty? "APPDATA").map fun d => shared (Path.ofString d)
  match h.nonempty? "XDG_CONFIG_HOME" with
  | some d => return some (shared (Path.ofString d))
  | none =>
    let home ← home h
    let common := home.join ".config"
    if ← exists? h common then return some (shared common) else return some (own home)

/-- The file of a project. -/
def project (root : String) : Path := own (Path.ofString root)

/-- The directory that the artifact is installed into if none is configured. -/
def toolDirectory (h : Host) : Except Breakdown Path := do
  return ((← home h).join Product.hiddenDirectory).join "bin"

/-- All files, from the lowest priority to the highest. An empty root is no project. -/
def all (h : Host) (root : Option String) : Except Breakdown (List Path) := do
  let user ← user? h
  let projects := (root.filter (· != "")).map project
  return (system? h).toList ++ user.toList ++ projects.toList

end ToolHost.Config.Place
