import ToolHost.Terminal.Rendition

/-!
# Escape sequences

How a line of terminal output falls into characters and escape sequences. Which characters belong
to a sequence is fixed by those that follow its ESC; an ESC that begins no sequence is a character
like any other.
-/
namespace ToolHost.Terminal

def esc : Char := '\x1b'

/-- A piece of a line. -/
inductive Lexeme
  | char (c : Char)
  /-- Selects a rendition, by parameters. -/
  | rendition (params : List Char)
  /-- An operating system command with its payload. -/
  | command (payload : List Char)
  /-- A sequence without an effect on the text. -/
  | control
  deriving DecidableEq, Repr

/-- Whether a lexeme can be read: none of its parameters is too long. -/
def Lexeme.isReadable : Lexeme → Bool
  | .rendition params => (Text.cut ';' params).all Terminal.isReadable
  | _ => true

/-- Parameter bytes of a control sequence. -/
def isParameter (c : Char) : Bool := '0' ≤ c && c ≤ '?'

/-- Intermediate bytes of a control sequence. -/
def isIntermediate (c : Char) : Bool := ' ' ≤ c && c ≤ '/'

/-- The byte that ends a control sequence. -/
def isFinal (c : Char) : Bool := '@' ≤ c && c ≤ '~'

/-- The payload of an operating system command that ends with ESC and a backslash on the same
line. -/
def commandPayload? : List Char → Option (List Char)
  | [] => none
  | '\x1b' :: '\\' :: _ => some []
  | c :: rest => if c = '\n' then none else (commandPayload? rest).map (c :: ·)

/-- The sequence that begins with ESC before the given text, and how many characters of that text
belong to it. After a parenthesis one more character belongs to it, unless that begins a sequence
itself, which is for the caller to see. -/
def sequence? : List Char → Option (Lexeme × Nat)
  | [] => none
  | '[' :: rest =>
    let params := rest.takeWhile isParameter
    let afterParams := rest.dropWhile isParameter
    let middle := afterParams.takeWhile isIntermediate
    match afterParams.dropWhile isIntermediate with
    | [] => none
    | final :: _ =>
      let length := params.length + middle.length + 2
      if isFinal final then
        some (if final = 'm' then .rendition (params ++ middle) else .control, length)
      else none
  | c :: rest =>
    if isParameter c then some (.control, 1)
    else
      match if c = ']' then commandPayload? rest else none with
      | some payload => some (.command payload, payload.length + 3)
      | none => if c = '(' || isFinal c && c ≤ '_' then some (.control, 1) else none

/-- How many characters after ESC and a parenthesis go with them. -/
def designated : List Char → Nat
  | [] => 0
  | c :: rest => if c = esc && (sequence? rest).isSome then 0 else 1

/-- The lexemes of a line after its first `skip` characters, which belong to a sequence already
seen. -/
def lexFrom : Nat → List Char → List Lexeme
  | _, [] => []
  | skip + 1, _ :: rest => lexFrom skip rest
  | 0, c :: rest =>
    if c = esc then
      match sequence? rest with
      | none => .char c :: lexFrom 0 rest
      | some (lexeme, length) =>
        let length := if rest.head? = some '(' then 1 + designated rest.tail else length
        lexeme :: lexFrom length rest
    else .char c :: lexFrom 0 rest

/-- The lexemes of a line. -/
def lex (line : List Char) : List Lexeme := lexFrom 0 line

end ToolHost.Terminal
