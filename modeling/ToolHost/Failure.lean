import ToolHost.Value

/-!
# Failures

What can go wrong in an installation, a session or a command, and how it is reported. A failure
that comes from outside the program, of the system or of a value nobody checked, is a breakdown:
no command reports it, it ends what is going on.
-/
namespace ToolHost

/-- The name of a session: any scalar, as the configuration has it. -/
abbrev SessionName := Scalar

/-- A failure that a front end reports. -/
inductive Failure
  /-- The artifact is missing; no path when no tool directory is known. -/
  | artifactNotFound (path : Option String)
  /-- The artifact could not be retrieved. -/
  | fetch (url reason : String) (status : Option Int)
  /-- The artifact could not be stored. -/
  | write (path reason : String)
  /-- A line was sent to a session that is not live. -/
  | noActiveSession (name : SessionName)
  /-- A process could not be created. -/
  | spawn (command reason : String)
  /-- A required setting is missing or invalid. -/
  | configuration (message : String)
  | unknownCommand (name : String)
  deriving DecidableEq, Repr

/-- What a failure says. -/
def Failure.message : Failure → String
  | artifactNotFound none =>
    "Tool location is not set; install the tool or configure tool.directory"
  | artifactNotFound (some path) => "Artifact not found: " ++ path
  | fetch url _ (some status) => "Fetching " ++ url ++ " failed with HTTP " ++ toString status
  | fetch url reason none => "Fetching " ++ url ++ " failed: " ++ reason
  | write path reason => "Cannot write " ++ path ++ ": " ++ reason
  | noActiveSession name => "No active session: " ++ name.written
  | spawn _ reason => reason
  | configuration message => message
  | unknownCommand name => "Unknown command: " ++ name

/-- An end that nothing in the program provides for. -/
inductive Breakdown
  /-- A value of a kind that the operation cannot take. -/
  | wrongKind
  /-- A section or a level that has no fields to ask for. -/
  | missingField
  /-- A text that is no number, or that the system cannot take. -/
  | badValue
  /-- A number beyond the range of floating point. -/
  | overflow
  /-- A home directory that cannot be found out. -/
  | noHome
  /-- A file that is no UTF-8 text. -/
  | notUtf8
  /-- A text that cannot be written where only ASCII, or only characters, can stand. -/
  | notAscii
  /-- A key that is not there. -/
  | missingKey
  /-- A structure nested too deeply. -/
  | tooDeep
  /-- A place beyond the end of a text. -/
  | outOfRange
  /-- A wait that took too long. -/
  | timeout
  /-- An error of the system on a file. -/
  | system (code : Int)
  /-- An address that cannot be understood. -/
  | badUrl
  /-- A tag of a text that ends what was not begun. -/
  | badMarkup
  /-- The user interrupted the program. -/
  | interrupted
  deriving DecidableEq, Repr

/-- Why an operation did not return. -/
inductive Trouble
  | failure (f : Failure)
  | breakdown (b : Breakdown)
  deriving DecidableEq, Repr

end ToolHost
