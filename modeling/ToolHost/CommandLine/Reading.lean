import ToolHost.CommandLine.Form
import ToolHost.Text.Digit
import ToolHost.Text.Quoted

/-!
# Reading a command line

First every argument is told to be an option or not, by the options of the form alone, even if it
is behind a mode and meant for that. Then options take their values, and what may stand besides
options takes the rest. Long options may be shortened as long as only one begins like that, and
short ones may be written together. Two dashes alone end the options.
-/
namespace ToolHost.CommandLine

/-- Why a command line is not carried out. -/
inductive Stop
  /-- The help page of a form was asked for. -/
  | help (f : Form)
  | version
  /-- The arguments make no sense. -/
  | misuse (f : Form) (message : String)
  deriving DecidableEq, Repr

namespace Stop

/-- The exit code. -/
def code : Stop → Int
  | help _ | version => 0
  | misuse .. => 2

/-- What is written for the user. -/
def output : Stop → String
  | help f => f.helpPage
  | version => Product.name ++ " " ++ Product.version ++ "\n"
  | misuse .. => ""

/-- What is written about an error. -/
def errors : Stop → String
  | misuse f message => f.usage ++ f.program ++ ": error: " ++ message ++ "\n"
  | _ => ""

end Stop

/-- What is joined to the name of an option in the same argument. -/
inductive Joined
  /-- What stands behind an equals sign, which can only be a value. -/
  | value (text : String)
  /-- What stands right behind a short name: a value, or more short options. -/
  | tail (text : String)
  deriving DecidableEq, Repr

/-- An option as it is written: which one it is, if any, under which name, and what is joined to
it. -/
structure Written where
  flag : Option Flag
  name : String
  joined : Option Joined
  deriving DecidableEq, Repr

/-- An argument on its own. -/
inductive Item
  /-- Two dashes. -/
  | dashes
  | word (text : String)
  | option (text : String) (w : Written)
  deriving DecidableEq, Repr

def Item.text : Item → String
  | dashes => "--"
  | word t => t
  | option t _ => t

/-- Every name of an option of a form, in order. -/
def Form.names (f : Form) : List (String × Flag) :=
  f.flags.flatMap fun x => x.names.map (·, x)

def Form.flag? (f : Form) (name : String) : Option Flag := f.names.lookup name

/-- A text in front of its first equals sign and behind it. -/
def cutAtEquals (s : String) : Option (String × String) :=
  let cs := s.toList
  match cs.dropWhile (· != '=') with
  | _ :: value => some (String.ofList (cs.takeWhile (· != '=')), String.ofList value)
  | [] => none

/-- Whether an argument is a negative number. A line feed at its end does not count. -/
def isNegativeNumber (s : String) : Bool :=
  let isDigit (c : Char) : Bool := (Text.digitValue? c).isSome
  let cs := s.toList
  let cs := if cs.getLast? = some '\n' then cs.dropLast else cs
  match cs with
  | '-' :: rest =>
    match rest.dropWhile isDigit with
    | [] => !rest.isEmpty
    | '.' :: places => !places.isEmpty && places.all isDigit
    | _ => false
  | _ => false

/-- The options that an argument may be a form of: long names that begin like it, or a short name
with a value joined to it. -/
def Form.candidates (f : Form) (arg : String) : List Written :=
  match arg.toList with
  | '-' :: '-' :: _ =>
    let (start, value) :=
      match cutAtEquals arg with
      | some (start, value) => (start, some (Joined.value value))
      | none => (arg, none)
    (f.names.filter fun n => start.isPrefixOf n.1).map fun n => ⟨some n.2, n.1, value⟩
  | '-' :: c :: joined =>
    f.names.filterMap fun n =>
      if n.1 = String.ofList ['-', c] then some ⟨some n.2, n.1, some (.tail (String.ofList joined))⟩
      else if arg.isPrefixOf n.1 then some ⟨some n.2, n.1, none⟩
      else none
  | _ => []

/-- What an argument is on its own. -/
def Form.classify (f : Form) (arg : String) : Except Stop Item :=
  match arg.toList with
  | [] | [_] => .ok (.word arg)
  | '-' :: _ =>
    let exact : Option Written :=
      match f.flag? arg with
      | some x => some ⟨some x, arg, none⟩
      | none =>
        match cutAtEquals arg with
        | some (name, value) => (f.flag? name).map fun x => ⟨some x, name, some (.value value)⟩
        | none => none
    match exact with
    | some w => .ok (.option arg w)
    | none =>
      match f.candidates arg with
      | [w] => .ok (.option arg w)
      | [] =>
        if isNegativeNumber arg || arg.toList.contains ' ' then .ok (.word arg)
        else .ok (.option arg ⟨none, arg, none⟩)
      | many =>
        .error (.misuse f ("ambiguous option: " ++ arg ++ " could match " ++
          ", ".intercalate (many.map (·.name))))
  | _ => .ok (.word arg)

/-- What the arguments are. Behind two dashes all are words. -/
def Form.items (f : Form) : List String → Except Stop (List Item)
  | [] => .ok []
  | arg :: rest =>
    if arg = "--" then .ok (.dashes :: rest.map .word)
    else do
      let item ← f.classify arg
      return item :: (← f.items rest)

/-- What was read of a command line. -/
structure Reading where
  /-- Options with the values they take, in order. -/
  options : List (Key × Option String) := []
  /-- What stands besides options. -/
  operands : List String := []
  /-- Arguments that nothing took. -/
  extras : List String := []
  deriving DecidableEq, Repr

/-- An option that means something by itself ends the reading. -/
def Form.take (f : Form) (r : Reading) (key : Key) (value : Option String) : Except Stop Reading :=
  match key with
  | .help => .error (.help f)
  | .version => .error .version
  | _ => .ok { r with options := r.options ++ [(key, value)] }

def Form.takeAll (f : Form) (r : Reading) : List (Key × Option String) → Except Stop Reading
  | [] => .ok r
  | (key, value) :: rest => do f.takeAll (← f.take r key value) rest

def Form.misuseOf (f : Form) (x : Flag) (message : String) : Stop :=
  .misuse f ("argument " ++ x.name ++ ": " ++ message)

/-- What one argument stands for. -/
structure Expansion where
  /-- The options with their values. -/
  taken : List (Key × Option String)
  /-- An option whose value is still to come. -/
  pending : Option Flag := none
  /-- What no option takes. -/
  extra : Option String := none

/-- An option that is given a value in the same argument. -/
def Form.expandValue (f : Form) (taken : List (Key × Option String)) (x : Flag) (value : String) :
    Except Stop Expansion :=
  if x.metavar.isSome then .ok ⟨taken ++ [(x.key, some value)], none, none⟩
  else .error (f.misuseOf x ("ignored explicit argument " ++ Text.quoted value))

/-- An option with nothing joined to it. -/
def Flag.alone (x : Flag) (taken : List (Key × Option String)) : Expansion :=
  if x.metavar.isSome then ⟨taken, some x, none⟩ else ⟨taken ++ [(x.key, none)], none, none⟩

/-- Short options written together: those that take no value, up to one that takes the rest as its
value, one that stands at the end, or a letter that names none. -/
def Form.expandTail (f : Form) (taken : List (Key × Option String)) (x : Flag) :
    List Char → Except Stop Expansion
  | [] => f.expandValue taken x ""
  | c :: rest =>
    if x.metavar.isSome || c = '-' then f.expandValue taken x (String.ofList (c :: rest))
    else
      let taken := taken ++ [(x.key, none)]
      match f.flag? (String.ofList ['-', c]) with
      | none => .ok ⟨taken, none, some (String.ofList ('-' :: c :: rest))⟩
      | some y =>
        match rest with
        | [] => .ok (y.alone taken)
        | '=' :: value => f.expandValue taken y (String.ofList value)
        | d :: rest => f.expandTail taken y (d :: rest)

/-- What an argument that names an option stands for. -/
def Form.expand (f : Form) (x : Flag) (w : Written) : Except Stop Expansion :=
  match w.joined with
  | some (.value value) => f.expandValue [] x value
  | some (.tail tail) => f.expandTail [] x tail.toList
  | none => .ok (x.alone [])

/-- Whether a mode can be taken: a word, maybe behind two dashes. -/
def beginsMode : List Item → Bool
  | .word _ :: _ => true
  | .dashes :: .word _ :: _ => true
  | _ => false

/-- Takes the arguments one after another. -/
def Form.readItems (f : Form) (r : Reading) : List Item → Except Stop Reading
  | [] => .ok r
  | .option text w :: rest =>
    match w.flag with
    | none => f.readItems { r with extras := r.extras ++ [text] } rest
    | some x =>
      match f.expand x w with
      | .error s => .error s
      | .ok ⟨taken, none, extra⟩ =>
        match f.takeAll { r with extras := r.extras ++ extra.toList } taken with
        | .error s => .error s
        | .ok r => f.readItems r rest
      | .ok ⟨taken, some y, _⟩ =>
        match rest with
        | .word value :: rest =>
          match f.takeAll r (taken ++ [(y.key, some value)]) with
          | .error s => .error s
          | .ok r => f.readItems r rest
        | _ => .error (f.misuseOf y "expected one argument")
  | item :: rest =>
    match f.operands with
    | .words => .ok { r with operands := (item :: rest).map Item.text }
    | .mode =>
      if beginsMode (item :: rest) then .ok { r with operands := (item :: rest).map Item.text }
      else f.readItems { r with extras := r.extras ++ [item.text] } rest
    | .none => f.readItems { r with extras := r.extras ++ [item.text] } rest

/-- Reads the arguments of a form. -/
def Form.read (f : Form) (args : List String) : Except Stop Reading := do
  f.readItems {} (← f.items args)

/-! The whole command line. -/

/-- The value that an option was given last. -/
def Reading.value? (r : Reading) (key : Key) : Option String :=
  ((r.options.filter (·.1 = key)).getLast?).bind (·.2)

/-- A mode with what belongs to it. -/
inductive Mode
  | install (url dir : Option String)
  | init
  | build
  | run
  | exec (words : List String)
  | repl (sessionName : Option String)
  deriving DecidableEq, Repr

def Mode.name : Mode → ModeName
  | install .. => .install
  | init => .init
  | build => .build
  | run => .run
  | exec _ => .exec
  | repl _ => .repl

/-- What a command line asks for. -/
structure Invocation where
  verbosity : Nat := 0
  directory : Option String := none
  toolDirectory : Option String := none
  mode : Option Mode := none
  deriving DecidableEq, Repr

/-- The mode that was read, with what belongs to it. -/
def Mode.ofReading (m : ModeName) (r : Reading) : Mode :=
  match m with
  | .install => .install (r.value? .url) (r.value? .installDirectory)
  | .init => .init
  | .build => .build
  | .run => .run
  | .exec => .exec r.operands
  | .repl => .repl (r.value? .sessionName)

/-- Reads a mode and what is behind it. Gives what nothing took, too. -/
def readMode : List String → Except Stop (Option Mode × List String)
  | [] => .ok (none, [])
  | name :: rest =>
    match ModeName.ofString? name with
    | none =>
      let choices := ", ".intercalate (ModeName.all.map fun m => Text.quoted m.text)
      .error (.misuse mainForm
        ("argument mode: invalid choice: " ++ Text.quoted name ++
          " (choose from " ++ choices ++ ")"))
    | some m => do
      let r ← (modeForm m).read rest
      return (some (.ofReading m r), r.extras)

/-- Reads a command line. -/
def read (args : List String) : Except Stop Invocation := do
  let r ← mainForm.read args
  let (mode, more) ← readMode r.operands
  let extras := r.extras ++ more
  if !extras.isEmpty then
    throw (.misuse mainForm ("unrecognized arguments: " ++ " ".intercalate extras))
  return {
    verbosity := (r.options.filter (·.1 = .verbose)).length
    directory := r.value? .directory
    toolDirectory := r.value? .toolDirectory
    mode }

end ToolHost.CommandLine
