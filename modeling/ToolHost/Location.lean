import ToolHost.Config.Place
import ToolHost.Config.Settings

/-!
# Where the artifact is

The directory believed to hold the artifact, and the artifact's name in it. The name is kept as it
was configured; only a text leads to a path.
-/
namespace ToolHost

open Machine (Host Path)

structure Location where
  directory : Option Path := none
  artifactName : Value := .text Config.defaultArtifactName

namespace Location

/-- The directory a text names, with the home directory in place of `~`. -/
def expand (h : Host) (directory : String) : Except Breakdown Path :=
  match h.expandHome? (Path.ofString directory) with
  | some p => .ok p
  | none => .error .noHome

def setDirectory (l : Location) (h : Host) (directory : String) : Except Breakdown Location := do
  return { l with directory := some (← expand h directory) }

/-- The location that some settings describe. -/
def ofSettings (h : Host) (s : Config.ToolSettings) : Except Breakdown Location := do
  let directory ←
    if s.directory.isEmpty then Config.Place.toolDirectory h
    else
      match s.directory with
      | .scalar (.text d) => expand h d
      | _ => throw .wrongKind
  return { directory := some directory, artifactName := s.artifactName }

/-- The path of the artifact. -/
def artifactPath (l : Location) : Except Trouble Path :=
  match l.directory, l.artifactName with
  | none, _ => .error (.failure (.artifactNotFound none))
  | some d, .scalar (.text n) => .ok (d.join n)
  | some _, _ => .error (.breakdown .wrongKind)

/-- Whether the artifact is there. -/
def exists? (l : Location) (h : Host) : Except Breakdown Bool :=
  match l.artifactPath with
  | .ok p => Config.Place.exists? h p
  | .error (.failure _) => .ok false
  | .error (.breakdown b) => .error b

end Location

end ToolHost
