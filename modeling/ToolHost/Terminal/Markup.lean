import ToolHost.Terminal.Constant
import ToolHost.Terminal.NamedStyle
import ToolHost.Terminal.Page
import ToolHost.Terminal.Screen
import ToolHost.Text.Emoji

/-!
# Markup

A text for the user may hold tags between brackets that select a style, and tags that end one. The
output of the program is not styled, so that a tag only vanishes; but a tag that ends what was
never begun is an error. Backslashes before a tag make it text, each second of them; elsewhere a
backslash only protects a bracket. Between tags, the names of emoji are replaced.
-/
namespace ToolHost.Terminal.Markup

/-- A piece of a text with tags. -/
inductive Piece
  | text (chars : List Char)
  | tag (name : List Char) (parameters : Option (List Char))
  deriving DecidableEq, Repr

/-- Characters that a tag may begin with. -/
def beginsTag (c : Char) : Bool := 'a' ≤ c && c ≤ 'z' || c = '#' || c = '/' || c = '@'

/-- The inside of a tag whose opening bracket has been read, and what follows the tag. -/
def tag? (s : List Char) : Option (List Char × List Char) :=
  match s with
  | [] => none
  | c :: rest =>
    if !beginsTag c then none
    else
      let inside := rest.takeWhile fun c => c != ']' && c != '['
      match rest.drop inside.length with
      | ']' :: behind => some (c :: inside, behind)
      | _ => none

def backslashes (n : Nat) : List Char := List.replicate n '\\'

/-- A tag as a piece: its name, and its parameters behind an equals sign. -/
def tagPiece (inside : List Char) : Piece :=
  .tag (inside.takeWhile (· != '=')) (inside.dropWhile (· != '=')).tail?

/-- A stretch of text as a piece; none if it is empty. -/
def textPiece (chars : List Char) : List Piece := if chars.isEmpty then [] else [.text chars]

/-- Reads a text; `plain` holds the characters read since the last tag, reversed, and `slashes`
counts the backslashes at their end, which are not among them. -/
def pieces (fuel : Nat) (plain : List Char) (slashes : Nat) (s : List Char) : List Piece :=
  match fuel, s with
  | 0, _ | _, [] => textPiece (plain.reverse ++ backslashes slashes)
  | fuel + 1, c :: rest =>
    if c = '\\' then pieces fuel plain (slashes + 1) rest
    else
      match c, tag? rest with
      | '[', some (inside, behind) =>
        textPiece plain.reverse ++ textPiece (backslashes (slashes / 2)) ++
          (if slashes % 2 = 1 then .text ('[' :: inside ++ [']']) else tagPiece inside) ::
          pieces fuel [] 0 behind
      | _, _ => pieces fuel (c :: (backslashes slashes ++ plain)) 0 rest

/-- Text in which a backslash only protects a bracket. -/
def unprotected : List Char → List Char
  | '\\' :: '[' :: rest => '[' :: unprotected rest
  | c :: rest => c :: unprotected rest
  | [] => []

/-- A tag that has been begun. -/
structure Tag where
  name : List Char
  parameters : Option (List Char)
  deriving DecidableEq, Repr

/-- Whether a tag may end. One that calls something must have constants for arguments. -/
def Tag.isSound (t : Tag) : Bool :=
  if t.name.head? = some '@' then
    match t.parameters with
    | none | some [] => true
    | some ps => isConstant (callArguments (Text.trim ps))
  else true

/-- Ends the latest tag, or the latest one of a name. Gives the tags that remain open. -/
def ended (tags : List Tag) (name : Option (List Char)) : Except Breakdown (List Tag) :=
  let isMeant (t : Tag) : Bool := name.all (· = t.name)
  match tags.find? isMeant with
  | none => .error .badMarkup
  | some t => if t.isSound then .ok (tags.eraseP isMeant) else .error .badMarkup

/-- The text that pieces show under the tags that are open. -/
def shown (tags : List Tag) : List Piece → Except Breakdown (List Char)
  | [] => .ok []
  | .text chars :: rest => (shown tags rest).map (Text.withEmoji (unprotected chars) ++ ·)
  | .tag ('/' :: name) _ :: rest => do
    let name := Text.trim name
    let name ← if name.isEmpty then pure none else (plainStyle name).map some
    shown (← ended tags name) rest
  | .tag name parameters :: rest => do
    shown (⟨← plainStyle name, parameters⟩ :: tags) rest

/-- The text that a text with markup shows. -/
def render (s : String) : Except Breakdown (List Char) :=
  (shown [] (pieces (s.length + 1) [] 0 s.toList)).map fun cs => cs.filter (!isUnshown ·)

/-- A text with backslashes before what would be tags. -/
def escapeFrom (fuel slashes : Nat) (s : List Char) : List Char :=
  match fuel, s with
  | 0, _ | _, [] => backslashes slashes
  | fuel + 1, c :: rest =>
    if c = '\\' then escapeFrom fuel (slashes + 1) rest
    else
      match c, tag? rest with
      | '[', some (inside, behind) =>
        backslashes (2 * slashes + 1) ++ '[' :: inside ++ ']' :: escapeFrom fuel 0 behind
      | _, _ => backslashes slashes ++ c :: escapeFrom fuel 0 rest

/-- Whether a text ends with just one backslash. -/
def endsWithBackslash (s : List Char) : Bool :=
  match s.reverse with
  | '\\' :: '\\' :: _ => false
  | '\\' :: _ => true
  | _ => false

/-- A text as markup that shows it; a single backslash at its end is doubled. -/
def escape (s : String) : String :=
  let escaped := escapeFrom (s.length + 1) 0 s.toList
  String.ofList (if endsWithBackslash escaped then escaped ++ ['\\'] else escaped)

/-- Text as it stands on the page, with its tabs laid out. -/
def onPage (s : List Char) : String := written false [⟨s, none⟩]

end ToolHost.Terminal.Markup
