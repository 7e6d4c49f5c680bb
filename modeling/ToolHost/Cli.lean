import ToolHost.CommandLine.Reading
import ToolHost.Log.Setup
import ToolHost.Prompt
import ToolHost.Rehearsal.Stage

/-!
# The program as a command

What the program does with its arguments: it builds the settings, sets up the log, and carries out
the mode. Whatever comes of that, all sessions are stopped before it ends. Failures are printed and
make the exit code 1; an interruption makes it 130; a breakdown ends the program.
-/
namespace ToolHost.Cli

open CommandLine (Invocation Mode Stop)
open Machine (Host Path)

/-- Prints a text with markup about the command as a whole. -/
def report (markup : String) : Conduct Unit := do
  Conduct.note (.reported (Terminal.Markup.onPage (← Prompt.rendered markup)))

/-- What the modes work with. -/
structure Work where
  settings : Config.Settings
  /-- The project directory. -/
  dir : Path
  inputs : List Prompt.Input

/-- The address that is fetched: one that was given, or the configured one. -/
def sourceOf (url : Option String) (configured : Value) : Except Trouble Value :=
  match url.filter (· != "") with
  | some u => .ok (.text u)
  | none =>
    if configured.isEmpty then
      .error (.failure (.configuration
        "No source URL configured (pass --url, set tool.source_url or TOOLBRIDGE_SOURCE_URL)"))
    else .ok configured

/-- The directory that is installed into: one that was given, or the known one. -/
def targetOf (h : House) (dir : Option String) : Except Trouble Path :=
  match dir with
  | some d => (Location.expand h.host d).mapError .breakdown
  | none =>
    match h.location.directory with
    | some d => .ok d
    | none => .error (.failure (.configuration "No tool directory configured"))

def install (w : Work) (url dir : Option String) : Conduct Int := do
  let source ← Conduct.ofExcept (sourceOf url w.settings.tool.sourceUrl)
  let h ← Conduct.house
  let target ← Conduct.ofExcept (targetOf h dir)
  match h.location.artifactName with
  | .scalar (.text name) =>
    match ← Conduct.ask (.install target name source) with
    | .installed ⟨path, some size⟩ =>
      report ("[green]Installed[/green] " ++ path.text ++ " (" ++ toString size ++ " bytes)")
    | .installed ⟨path, none⟩ =>
      report ("[dim]Already present:[/dim] " ++ path.text)
    | _ => pure ()
    return 0
  | _ => throw (.breakdown .wrongKind)

/-- The exit code of several commands: the first that is not zero. -/
def firstFailure (codes : List Int) : Int := (codes.find? (· != 0)).getD 0

/-- Runs a single command and waits for its end. -/
def oneShot (w : Work) (text : String) : Conduct Int := do
  match ← Conduct.oneShot w.dir text with
  | .launched l =>
    report ("[dim]$ " ++ Terminal.Markup.escape l.command ++ "[/dim]")
    match ← Conduct.ask .awaitOneShots with
    | .codes cs => return firstFailure cs
    | _ => return 0
  | _ => return 0

/-- Whether the configured history file can be named. -/
def checkHistory (h : Host) (file : Value) : Except Breakdown Unit :=
  if file.isEmpty then .ok ()
  else
    match file with
    | .scalar (.text f) => (Location.expand h f).map fun _ => ()
    | _ => .error .wrongKind

/-- Lets the user talk to a session. The standard commands are about the configured session. -/
def interact (w : Work) (sessionName : Option String) : Conduct Int := do
  let configured := w.settings.session.defaultName
  Conduct.alter fun h => { h with commands := Command.bindStandard {} }
  let h ← Conduct.house
  Conduct.ofExcept ((checkHistory h.host w.settings.session.historyFile).mapError .breakdown)
  let name := ((sessionName.filter (· != "")).map Value.text).getD configured
  Prompt.run ⟨name, w.dir, ⟨configured, w.dir, w.settings.tool.sourceUrl⟩⟩ w.inputs
  return 0

/-- Carries out a mode. -/
def carryOut (w : Work) : Mode → Conduct Int
  | .install url dir => install w url dir
  | .init => oneShot w "init"
  | .build => oneShot w "build"
  | .run => oneShot w "run"
  | .exec words =>
    if words.isEmpty then throw (.failure (.configuration "exec needs a subcommand"))
    else oneShot w (Shell.join words)
  | .repl sessionName => interact w sessionName

/-- Carries out a mode and stops all sessions, whatever comes of it. -/
def dispatch (w : Work) (m : Mode) : Conduct Int := do
  let result ← (carryOut w m).attempt
  Conduct.shutDown
  Conduct.ofExcept result

/-- The exit code of a run that did not break down. -/
def exitCode (w : Work) (m : Mode) : Conduct Int := do
  match ← (dispatch w m).attempt with
  | .ok code => return code
  | .error (.failure f) =>
    report ("[red]Error: " ++ Terminal.Markup.escape f.message ++ "[/red]")
    return 1
  | .error (.breakdown .interrupted) => return 130
  | .error t => throw t

/-! Preparing a run. -/

/-- A run that is ready to begin. -/
structure Prepared where
  house : House
  routine : Conduct Int
  log : Log.State

/-- The project directory of a run. -/
def projectDirectory (h : Host) (directory : Option String) : Except Breakdown Path :=
  let p := (directory.map Path.ofString).getD h.files.cwd
  if p.text.toList.contains '\x00' then .error .badValue else .ok (p.resolve h.files.cwd)

/-- The settings of a run; the verbosity that was asked for replaces the configured one. -/
def withVerbosity (s : Config.Settings) (flags : Nat) : Config.Settings :=
  match Log.verbosityOfFlags flags with
  | none => s
  | some v => { s with logging := { s.logging with verbose := .scalar (.int v) } }

/-- Writes a record to the log. -/
def note (s : Log.State) (h : Host) (r : Log.Record) : Config.Logged (Log.State × Host) :=
  ⟨.ok (Log.write s h r), if s.level ≤ r.level then [r] else []⟩

/-- Prepares a run, unless the settings or the log cannot be. -/
def prepare (h : Host) (i : Invocation) (m : Mode) (inputs : List Prompt.Input) :
    Config.Logged Prepared := do
  let dir ← .ofExcept (projectDirectory h i.directory)
  let settings := withVerbosity (← Config.build h (some dir.text)) i.verbosity
  let (log, host) ← .ofExcept (Log.setup {} h settings.logging false)
  let (log, host) ← note log host
    ⟨Log.debug, "cli", "Running " ++ m.name.text ++ " in " ++ dir.text⟩
  let location ← .ofExcept (Location.ofSettings host settings.tool)
  let location ← .ofExcept <|
    match i.toolDirectory with
    | some d => location.setDirectory host d
    | none => .ok location
  let house : House := { plan := .ofSettings settings [], host, location }
  return { house, routine := exitCode ⟨settings, dir, inputs⟩ m, log }

/-! Running. -/

inductive Ending
  /-- The program ran and gives an exit code. -/
  | code (n : Int)
  /-- The command line was answered with a text, and an exit code. -/
  | answered (n : Int)
  | broken (b : Breakdown)
  deriving DecidableEq, Repr

/-- What a run comes to. -/
structure Report where
  ending : Ending
  output : String := ""
  errors : String := ""
  /-- The records that the log kept. -/
  records : List Log.Record := []
  /-- What happened, in order. -/
  happenings : List Happening := []
  host : Host

/-- What a happening writes on the output. -/
def outputOf : Happening → String
  | .printed line => line ++ "\n"
  | .appended _ _ text => Terminal.written false text
  | _ => ""

/-- How the end of a routine is the end of a run. -/
def endingOf : Option (Except Trouble Int) → Ending
  | some (.ok n) => .code n
  | some (.error (.breakdown b)) => .broken b
  | some (.error (.failure _)) | none => .code 1

/-- Plays a prepared run. -/
def play (p : Prepared) (stage : Rehearsal.Stage Int) : Report :=
  let (stage, results) := { stage with house := p.house }.play [.routine p.routine] false
  let happenings := stage.house.trace.reverse
  let records := happenings.filterMap Happening.record?
  let host := (records.foldl (fun (s, h) r => Log.write s h r) (p.log, stage.house.host)).2
  { ending := endingOf (results.headD none)
    output := String.join (happenings.map outputOf)
    records := records.filter fun r => decide (p.log.level ≤ r.level)
    happenings
    host }

/-- Runs the program with some arguments on a stage that is as yet empty but for its host. -/
def run (stage : Rehearsal.Stage Int) (args : List String) (inputs : List Prompt.Input) : Report :=
  let host := stage.house.host
  match CommandLine.read args with
  | .error stop =>
    { ending := .answered stop.code, output := stop.output, errors := stop.errors, host }
  | .ok i =>
    match i.mode with
    | none => { ending := .code 1, output := CommandLine.mainForm.helpPage, host }
    | some m =>
      let prepared := prepare host i m inputs
      match prepared.outcome with
      | .error b => { ending := .broken b, records := prepared.records, host }
      | .ok p =>
        let r := play p stage
        { r with records := prepared.records ++ r.records }

end ToolHost.Cli
