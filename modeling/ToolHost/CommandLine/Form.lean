import ToolHost.Product

/-!
# The form of the command line

Which options there are, in front of the mode and behind it, and the texts that explain them. The
texts are derived from the options: a line of usage, and a help page with one entry for each.
-/
namespace ToolHost.CommandLine

/-- What an option is for. -/
inductive Key
  | help
  | version
  | verbose
  | directory
  | toolDirectory
  | url
  | installDirectory
  | sessionName
  deriving DecidableEq, Repr

structure Flag where
  key : Key
  names : List String
  /-- What the value is called, if the option takes one. -/
  metavar : Option String := none
  help : String
  deriving DecidableEq, Repr

/-- An option by all its names. -/
def Flag.name (f : Flag) : String := "/".intercalate f.names

/-- What the program is to do. -/
inductive ModeName
  | install
  | init
  | build
  | run
  | exec
  | repl
  deriving DecidableEq, Repr

namespace ModeName

def all : List ModeName := [install, init, build, run, exec, repl]

def text : ModeName → String
  | install => "install"
  | init => "init"
  | build => "build"
  | run => "run"
  | exec => "exec"
  | repl => "repl"

def help : ModeName → String
  | install => "Download the tool if it is missing"
  | init => "Create a new project in the directory"
  | build => "Build the project"
  | run => "Run the project"
  | exec => "Run the tool with an arbitrary subcommand"
  | repl => "Start an interactive REPL session"

def ofString? (s : String) : Option ModeName := all.find? (·.text = s)

end ModeName

/-- What may stand on a command line besides options. -/
inductive Operands
  | none
  /-- All that is left, as it is. -/
  | words
  /-- A mode, with all that belongs to it. -/
  | mode
  deriving DecidableEq, Repr

/-- A command line, or the part of one behind a mode. -/
structure Form where
  program : String
  description : Option String := none
  flags : List Flag
  operands : Operands
  deriving DecidableEq, Repr

def helpFlag : Flag := ⟨.help, ["-h", "--help"], none, "show this help message and exit"⟩

/-- The whole command line. -/
def mainForm : Form :=
  { program := Product.name
    description := some "Install and drive a compiler toolchain shipped as a runnable archive"
    flags := [helpFlag,
      ⟨.version, ["--version"], none, "show program's version number and exit"⟩,
      ⟨.verbose, ["-v", "--verbose"], none, "Increase verbosity (can be repeated)"⟩,
      ⟨.directory, ["-C", "--cwd"], some "CWD",
        "Project directory the tool runs in (default: current directory)"⟩,
      ⟨.toolDirectory, ["--tool-dir"], some "TOOL_DIR",
        "Directory holding the tool artifact (overrides tool.directory)"⟩]
    operands := .mode }

/-- The options that a mode has of its own. -/
def modeFlags : ModeName → List Flag
  | .install =>
    [⟨.url, ["--url"], some "URL", "Release URL (overrides tool.source_url)"⟩,
      ⟨.installDirectory, ["--dir"], some "INSTALL_DIR",
        "Install into this directory (default: the tool directory)"⟩]
  | .repl =>
    [⟨.sessionName, ["--name"], some "NAME", "Session name (default: session.default_name)"⟩]
  | _ => []

/-- The part of a command line behind a mode. -/
def modeForm (m : ModeName) : Form :=
  { program := Product.name ++ " " ++ m.text
    flags := helpFlag :: modeFlags m
    operands := if m = .exec then .words else .none }

/-! The texts. -/

/-- The modes as they stand in a line of usage. -/
def modeChoices : String := "\x7b" ++ ",".intercalate (ModeName.all.map ModeName.text) ++ "\x7d"

def Flag.usage (f : Flag) : String :=
  "[" ++ f.names.headD "" ++ (match f.metavar with | none => "" | some m => " " ++ m) ++ "]"

/-- The line of usage. -/
def Form.usage (f : Form) : String :=
  let operands :=
    match f.operands with
    | .none => []
    | .words => ["..."]
    | .mode => [modeChoices, "..."]
  "usage: " ++ " ".intercalate (f.program :: f.flags.map Flag.usage ++ operands) ++ "\n"

/-- An entry of a help page: how far it is indented, what is explained, and the explanation. -/
structure Entry where
  indent : Nat
  subject : String
  help : String

def Flag.entry (f : Flag) : Entry :=
  let withValue (n : String) : String := match f.metavar with | none => n | some m => n ++ " " ++ m
  ⟨2, ", ".intercalate (f.names.map withValue), f.help⟩

/-- The entries for what may stand besides options. -/
def Form.operandEntries (f : Form) : List Entry :=
  match f.operands with
  | .none => []
  | .words => [⟨2, "subcommand", "Subcommand and arguments passed to the tool"⟩]
  | .mode =>
    ⟨2, modeChoices, "Operation"⟩ :: ModeName.all.map fun m => ⟨4, m.text, m.help⟩

/-- The column beyond which no explanation is moved. -/
def helpColumnLimit : Nat := 24

/-- The column in which explanations begin. -/
def helpColumn (entries : List Entry) : Nat :=
  min helpColumnLimit ((entries.map fun e => e.subject.length + 4).foldl max 0)

def blanks (n : Nat) : String := String.ofList (List.replicate n ' ')

/-- An entry, on a line of its own or on two if the subject is long. -/
def Entry.written (column : Nat) (e : Entry) : String :=
  let start := blanks e.indent ++ e.subject
  let room := column - e.indent - 2
  (if e.subject.length ≤ room then start ++ blanks (column - start.length)
    else start ++ "\n" ++ blanks column) ++ e.help ++ "\n"

/-- The help page. -/
def Form.helpPage (f : Form) : String :=
  let operands := f.operandEntries
  let flags := f.flags.map Flag.entry
  let column := helpColumn (operands ++ flags)
  let part (title : String) (entries : List Entry) : String :=
    if entries.isEmpty then ""
    else "\n" ++ title ++ ":\n" ++ String.join (entries.map (·.written column))
  f.usage ++ (match f.description with | none => "" | some d => "\n" ++ d ++ "\n") ++
    part "positional arguments" operands ++ part "options" flags

end ToolHost.CommandLine
