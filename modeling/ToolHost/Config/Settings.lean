import ToolHost.Config.Layer
import ToolHost.Decimal.Reader
import ToolHost.Failure
import ToolHost.Text.Blank

/-!
# Settings

The settings that a merged configuration amounts to. Every setting has a default, so a partial
configuration is complete. Only the two durations are converted to numbers and the two argument
lists to texts; any other setting is kept as it was written.
-/
namespace ToolHost.Config

open Decimal (Binary)

/-- Where the artifact lives and how it is launched. -/
structure ToolSettings where
  directory : Value
  artifactName : Value
  sourceUrl : Value
  runtime : Value
  runtimeArgs : List String
  interactiveArgs : List String
  /-- In seconds. -/
  fetchTimeout : Binary

/-- How interactive sessions behave. -/
structure SessionSettings where
  defaultName : Value
  historyFile : Value
  /-- Seconds that an old process has to read its input when it is replaced. -/
  restartGrace : Binary

/-- What is logged and where. -/
structure LogSettings where
  level : Value := .null
  verbose : Value := .null
  file : Value := .null

structure Settings where
  tool : ToolSettings
  session : SessionSettings
  logging : LogSettings
  /-- Sections that nothing here knows, as they are. -/
  extra : Entries

def defaultArtifactName : String := "tool.jar"
def defaultRuntime : String := "java"
def defaultRuntimeArgs : List String := ["-jar"]
def defaultInteractiveArgs : List String := ["repl"]
def defaultSessionName : String := "repl"

/-- Sixty seconds. -/
def defaultFetchTimeout : Binary := .ofInt 60

/-- One second. -/
def defaultRestartGrace : Binary := .ofInt 1

/-- The number that a value stands for. -/
def number : Value → Except Breakdown Binary
  | .scalar (.bool b) => .ok (.ofInt (if b then 1 else 0))
  | .scalar (.int i) =>
    let x := Binary.ofInt i
    if x.isFinite then .ok x else .error .overflow
  | .scalar (.float x) => .ok x
  | .scalar (.text s) => ofText s
  | .scalar (.octets b) => ofText (String.ofList (b.map fun x => Char.ofNat x.toNat))
  | _ => .error .wrongKind
where
  ofText (s : String) : Except Breakdown Binary :=
    match Binary.read? s with
    | some x => .ok x
    | none => .error .badValue

/-- A list of arguments: the items of a list, or the words of a text. -/
def arguments (v : Option Value) (default : List String) : Except Breakdown (List String) :=
  match v.map Value.unrolled with
  | some (.list items) =>
    if items.all (·.isWritable) then .ok (items.map (·.written)) else .error .badValue
  | some (.scalar (.text s)) => .ok ((Text.words s.toList).map String.ofList)
  | _ => .ok default

/-- A section of a configuration; an empty value stands for an empty section. -/
def sectionOf (entries : Entries) (name : String) : Except Breakdown Entries :=
  match entries.at? name with
  | none => .ok []
  | some v =>
    match v.entries? with
    | some fields => .ok fields
    | none => if v.isEmpty then .ok [] else .error .missingField

/-- The value of a field, null if it is missing. -/
def field (fields : Entries) (name : String) : Value :=
  (fields.at? name).getD .null

/-- The value of a field, or a default for one that is missing or empty. -/
def fieldOr (fields : Entries) (name default : String) : Value :=
  let v := field fields name
  if v.isEmpty then .text default else v

/-- The number in a field. A null is no number. -/
def numberField (fields : Entries) (name : String) (default : Binary) :
    Except Breakdown Binary :=
  match fields.at? name with
  | none => .ok default
  | some v => number v

def ToolSettings.ofFields (fields : Entries) : Except Breakdown ToolSettings := do
  let runtimeArgs ← arguments (fields.at? "runtime_args") defaultRuntimeArgs
  let interactiveArgs ← arguments (fields.at? "repl_args") defaultInteractiveArgs
  let fetchTimeout ← numberField fields "fetch_timeout" defaultFetchTimeout
  return {
    directory := field fields "directory"
    artifactName := fieldOr fields "artifact_name" defaultArtifactName
    sourceUrl := field fields "source_url"
    runtime := fieldOr fields "runtime" defaultRuntime
    runtimeArgs
    interactiveArgs
    fetchTimeout }

def SessionSettings.ofFields (fields : Entries) : Except Breakdown SessionSettings := do
  let restartGrace ← numberField fields "restart_grace" defaultRestartGrace
  return {
    defaultName := fieldOr fields "default_name" defaultSessionName
    historyFile := field fields "history_file"
    restartGrace }

def LogSettings.ofFields (fields : Entries) : LogSettings :=
  { level := field fields "level"
    verbose := field fields "verbose"
    file := field fields "file" }

/-- The sections that settings are taken from. -/
def knownSections : List String := ["tool", "session", "logging"]

/-- The settings that a configuration amounts to. -/
def Settings.ofEntries (entries : Entries) : Except Breakdown Settings := do
  let tool ← ToolSettings.ofFields (← sectionOf entries "tool")
  let session ← SessionSettings.ofFields (← sectionOf entries "session")
  let logging := LogSettings.ofFields (← sectionOf entries "logging")
  let isKnown (key : Scalar) : Bool := knownSections.any fun name => key = .text name
  return { tool, session, logging, extra := entries.filter fun e => !isKnown e.1 }

end ToolHost.Config
