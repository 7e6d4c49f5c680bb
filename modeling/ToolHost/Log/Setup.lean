import ToolHost.Log.Record
import ToolHost.Config.Source

/-!
# Setting up the log

Only the first setup counts. Records go to the configured file, or to the error stream if that is
a terminal. While nothing is set up to receive them, warnings and worse go to the error stream
bare.
-/
namespace ToolHost.Log

open Machine (Host Path Place)

/-- Where the log goes. -/
inductive Target
  | file (place : Place)
  | errorStream
  deriving DecidableEq, Repr

/-- The log of a program. -/
structure State where
  isSetUp : Bool := false
  level : Int := trace
  target : Option Target := none
  /-- Lines on the error stream. -/
  errorLines : List String := []

/-- The absolute path of a log file, with the home directory in place of `~` at its start. -/
def filePath (h : Host) (file : String) : Path :=
  let expanded : String :=
    match file.toList with
    | '~' :: rest =>
      let user := rest.takeWhile (· != '/')
      let home :=
        if user.isEmpty then some h.homes.own else h.homes.others.lookup (String.ofList user)
      match home with
      | none => file
      | some d =>
        let kept := (d.toList.reverse.dropWhile (· == '/')).reverse
        let whole := kept ++ rest.dropWhile (· != '/')
        if whole.isEmpty then "/" else String.ofList whole
    | _ => file
  let p := h.files.cwd.append (Path.ofString expanded)
  { p with names := Path.collapse p.names }

/-- Opens the log file; the answer is the text of the error if this fails. -/
def openFile (h : Host) (file : String) : Except String (Host × Target) :=
  let p := filePath h file
  match h.files.openAppend p with
  | .ok (files, place) => .ok ({ h with files }, .file place)
  | .error e => .error (Config.fileError e p.text)

/-- The log file that is configured, by the settings or by a variable. -/
def configuredFile (h : Host) (file : Value) : Except Breakdown (Option String) :=
  if file.isEmpty then .ok (h.nonempty? (Product.variableName "LOG"))
  else
    match file with
    | .scalar (.text f) => .ok (some f)
    | _ => .error .wrongKind

/-- Sets up the log, if that has not happened yet. -/
def setup (s : State) (h : Host) (settings : Config.LogSettings) (isTerminal : Bool) :
    Except Breakdown (State × Host) :=
  if s.isSetUp then .ok (s, h)
  else do
    let level ← Level.inForce settings
    let s := { s with isSetUp := true, level }
    let fallback (s : State) : State :=
      if isTerminal then { s with target := some .errorStream } else s
    match ← configuredFile h settings.file with
    | none => return (fallback s, h)
    | some file =>
      if file.toList.contains '\x00' then throw .badValue
      match openFile h file with
      | .ok (h, target) => return ({ s with target := some target }, h)
      | .error text =>
        let notice := Product.name ++ ": cannot open log file " ++ file ++ ": " ++ text
        let s := if isTerminal then { s with errorLines := s.errorLines ++ [notice] } else s
        return (fallback s, h)

/-- Writes a record to where the log goes. The time of day is left out. -/
def write (s : State) (h : Host) (r : Record) : State × Host :=
  if r.level < s.level then (s, h)
  else
    match s.target with
    | some (.file place) =>
      (s, { h with files := h.files.appendAt place (Text.Utf8.encode (" " ++ r.line ++ "\n")) })
    | some .errorStream => ({ s with errorLines := s.errorLines ++ [" " ++ r.line] }, h)
    | none =>
      if warning ≤ r.level then ({ s with errorLines := s.errorLines ++ [r.message] }, h)
      else (s, h)

end ToolHost.Log
