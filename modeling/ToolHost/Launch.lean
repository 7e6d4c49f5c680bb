import ToolHost.Config.Settings
import ToolHost.Machine.Host
import ToolHost.Seconds
import ToolHost.Shell.Quote
import ToolHost.Text.Quoted

/-!
# Launching the tool

The tool is an archive that a runtime runs: its command line is the runtime, the runtime's
arguments, the artifact and the arguments of the tool. The system may refuse to create a process;
what it says then is reported as a failure that names the command.
-/
namespace ToolHost

open Machine (Errno Variables)

/-- How long something may take. -/
structure Grace where
  length : Seconds
  deriving DecidableEq, Repr

/-- The length as it is shown. -/
def Grace.text (g : Grace) : String := g.length.fixed 1

/-- How children are launched. -/
structure Plan where
  /-- The program that runs the artifact; none if what is configured is no text. -/
  runtime : Option String := some Config.defaultRuntime
  runtimeArgs : List String := Config.defaultRuntimeArgs
  /-- The arguments that make the tool interactive. -/
  interactiveArgs : List String := Config.defaultInteractiveArgs
  /-- How long a process that is replaced may go on. -/
  grace : Grace := ⟨Config.defaultRestartGrace⟩
  /-- Variables that children have besides the program's own. -/
  environment : Variables := []

namespace Plan

/-- The plan that some settings make. -/
def ofSettings (s : Config.Settings) (environment : Variables) : Plan :=
  { runtime := match s.tool.runtime with | .scalar (.text r) => some r | _ => none
    runtimeArgs := s.tool.runtimeArgs
    interactiveArgs := s.tool.interactiveArgs
    grace := ⟨s.session.restartGrace⟩
    environment }

/-- The words of the command that runs an artifact. -/
def argv (p : Plan) (artifact : String) (args : List String) : Except Breakdown (List String) :=
  match p.runtime with
  | none => .error .wrongKind
  | some runtime => .ok (runtime :: p.runtimeArgs ++ artifact :: args)

/-- The variables of a child that differ from the program's own. -/
def extra (p : Plan) (own : Variables) : Variables :=
  (own.update p.environment).changes own

end Plan

/-- Why no process was created. -/
inductive SpawnFault
  /-- An error of the system, maybe on a file. -/
  | system (code : Errno) (file : Option String)
  /-- A text that the system cannot take. -/
  | badValue
  | interrupted
  deriving DecidableEq, Repr

namespace SpawnFault

/-- What is said about an error of the system, as a shell would. -/
def reason (code : Errno) (file : Option String) (program dir : String) : String :=
  if code = .noEntry then
    let missing := (file.filter (· != "")).getD program
    if missing = dir then "Working directory not found: " ++ dir
    else "Command not found: " ++ program
  else if code = .accessDenied || code = .notPermitted then "Permission denied: " ++ program
  else
    "OS error: [Errno " ++ toString code.code ++ "] " ++ code.message ++
      match file with
      | none => ""
      | some f => ": " ++ Text.quoted f

/-- How a fault in launching a command in a directory is reported. -/
def trouble (f : SpawnFault) (argv : List String) (dir : String) : Trouble :=
  match f with
  | .system code file =>
    .failure (.spawn (Shell.join argv) (reason code file (argv.headD "") dir))
  | .badValue => .breakdown .badValue
  | .interrupted => .breakdown .interrupted

end SpawnFault

end ToolHost
