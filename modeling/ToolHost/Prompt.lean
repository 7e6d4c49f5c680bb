import ToolHost.Commands
import ToolHost.Terminal.Markup
import ToolHost.Terminal.Table

/-!
# The prompt

Lines that the user types go to a session; a line that begins with a slash is a command. Failures
of a line are printed and the prompt goes on.
-/
namespace ToolHost.Prompt

open Machine (Path)
/-- What the user does at the prompt. -/
inductive Input
  | line (text : String)
  /-- The user interrupts the line under way. -/
  | interrupt
  deriving DecidableEq, Repr

/-- The characters that a text with markup shows. -/
def rendered (markup : String) : Conduct (List Char) :=
  Conduct.ofExcept ((Terminal.Markup.render markup).mapError .breakdown)

/-- A text as markup that shows it in a style. -/
def styled (style text : String) : String :=
  "[" ++ style ++ "]" ++ Terminal.Markup.escape text ++ "[/" ++ style ++ "]"

/-- Prints a text with markup. -/
def print (markup : String) : Conduct Unit := do
  Conduct.note (.printed (Terminal.Markup.onPage (← rendered markup)))

/-- The rows of the table of commands. -/
def helpRows (r : Registry Command) : List (String × String) :=
  ("/help", "Show this help message") ::
    r.names.map (fun n => ("/" ++ n, r.describe n)) ++ [("/quit", "Stop the REPL and exit")]

def printHelp : Conduct Unit := do
  let rows ← (helpRows (← Conduct.house).commands).mapM fun (a, b) => do
    return (← rendered a, ← rendered b)
  (Terminal.table "Available Commands" ("Command", "Description") rows).forM fun l =>
    Conduct.note (.printed l)

/-! Lines. -/

/-- A front end for one session. -/
structure Desk where
  sessionName : Value
  dir : Path
  post : Post

/-- Does what a line behind a slash says. -/
def command (d : Desk) (name : String) : Conduct Unit := do
  if name = "quit" || name = "exit" then Conduct.alter ({ · with isPrompting := false })
  else if name = "help" || name = "" then printHelp
  else
    match (← Command.invoke d.post name).written? with
    | none => return ()
    | some text => print (styled "dim" text)

/-- Does what a line says. -/
def handle (d : Desk) (line : String) : Conduct Unit := do
  match line.toList with
  | '/' :: name => command d (String.ofList (Text.trim name))
  | _ => discard (Conduct.ask (.session (← sessionNameOf d.sessionName) (.send line)))

/-- Does what a line says and prints what fails in doing so. -/
def handleLine (d : Desk) (line : String) : Conduct Unit := do
  match ← (handle d line).attempt with
  | .ok () => return ()
  | .error (.failure f) => print (styled "red" f.message)
  | .error t => throw t

/-- Reads lines until the user quits or there are no more. -/
def readLines (d : Desk) : List Input → Conduct Unit
  | [] => do
    if (← Conduct.house).isPrompting then Conduct.rest .calm
  | input :: rest => do
    if (← Conduct.house).isPrompting then
      Conduct.rest .calm
      match input with
      | .interrupt => readLines d rest
      | .line text =>
        handleLine d text
        readLines d rest

/-- Greets the user of a session. -/
def greet (name : String) : Conduct Unit := do
  print ("[bold]" ++ Product.name ++ "[/bold] - REPL session [cyan]" ++ name ++ "[/cyan]")
  print "Type /help for commands, /quit to exit.\n"

/-- Starts the session, reads lines, and stops the session. -/
def run (d : Desk) (inputs : List Input) : Conduct Unit := do
  let name ← sessionNameOf d.sessionName
  let _ ← Conduct.ask (.session name (.start d.dir))
  Conduct.alter ({ · with isPrompting := true })
  greet name.written
  readLines d inputs
  Conduct.alter ({ · with isPrompting := false })
  let _ ← Conduct.ask (.session name .stop)

end ToolHost.Prompt
