import ToolHost.Routine

/-!
# The standard commands

What the standard commands do, all in one directory and for one session.
-/
namespace ToolHost

open Machine (Path)

/-- What the standard commands work on. -/
structure Post where
  /-- The session that the commands start, stop and clear. -/
  sessionName : Value
  dir : Path
  /-- Where the artifact can be fetched. -/
  source : Value

/-- The name of a session that is configured; a list or mapping cannot be one. -/
def sessionNameOf (v : Value) : Conduct SessionName :=
  match v with
  | .scalar name => pure name
  | _ => throw (.breakdown .wrongKind)

namespace Command

/-- The standard commands. -/
def standard : List (Binding Command) :=
  [⟨"install", .install, "Download the tool if it is missing"⟩,
    ⟨"repl-start", .start, "Start the REPL"⟩,
    ⟨"repl-stop", .stop, "Kill the REPL"⟩,
    ⟨"repl-restart", .restart, "Restart the REPL"⟩,
    ⟨"repl-clear", .clear, "Clear REPL output"⟩,
    ⟨"init", .run "init", "Create a new project"⟩,
    ⟨"build", .run "build", "Build the project"⟩,
    ⟨"run", .run "run", "Run the project"⟩]

def bindStandard (r : Registry Command) : Registry Command := standard.foldl (·.bind ·) r

/-- Installs the artifact where the location says. -/
def fetchArtifact (source : Value) : Conduct Reply := do
  if source.isEmpty then
    throw (.failure (.configuration
      "No source URL configured (set tool.source_url or TOOLBRIDGE_SOURCE_URL)"))
  let location := (← Conduct.house).location
  match location.directory, location.artifactName with
  | none, _ =>
    throw (.failure (.configuration "No tool directory configured (set tool.directory)"))
  | some dir, .scalar (.text name) => Conduct.ask (.install dir name source)
  | _, _ => throw (.breakdown .wrongKind)

/-- Does what a command says. -/
def perform (post : Post) : Command → Conduct Reply
  | .install => fetchArtifact post.source
  | .start => do Conduct.ask (.session (← sessionNameOf post.sessionName) (.start post.dir))
  | .stop => do Conduct.ask (.session (← sessionNameOf post.sessionName) .stop)
  | .restart => do Conduct.ask (.session (← sessionNameOf post.sessionName) (.restart post.dir))
  | .clear => do
    let name ← sessionNameOf post.sessionName
    Conduct.alter fun h => (h.actRoom name .clear).house
    return .nothing
  | .run subcommand => Conduct.oneShot post.dir subcommand
  | .give v => return .value v

/-- Calls a command by its name. -/
def invoke (post : Post) (name : String) : Conduct Reply := do
  let command ← Conduct.ofExcept (((← Conduct.house).commands.command name).mapError .failure)
  Conduct.note (.invoked name)
  command.perform post

end Command

end ToolHost
