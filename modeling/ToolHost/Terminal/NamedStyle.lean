import ToolHost.Decimal.Whole
import ToolHost.Failure
import ToolHost.Terminal.ColorNames
import ToolHost.Terminal.Style
import ToolHost.Text.Small

/-!
# Styles in words

A style can be written in words: attributes by their names or initials, `not` before one that is
switched off, a colour, `on` before the background, and `link` before a target. Two texts name the
same style if their plain forms agree; what names no style is its own name.
-/
namespace ToolHost.Terminal

/-- A style as it is named: its choices, and its colours as they were written. -/
structure NamedStyle where
  look : Look := {}
  fg : Option (List Char) := none
  bg : Option (List Char) := none
  deriving DecidableEq, Repr

/-- Short names of attributes. -/
def attributeInitials : List (String × Attribute) :=
  [("d", .dim), ("b", .bold), ("i", .italic), ("u", .underline), ("r", .reverse), ("c", .conceal),
    ("s", .strike), ("uu", .underline2), ("o", .overline)]

def attributeOf? (word : List Char) : Option Attribute :=
  let word := String.ofList word
  (attributeInitials.lookup word).or (Attribute.all.find? (·.name = word))

/-- The number of a component of a colour; a text that is none, or too long, breaks down. -/
def componentOf (s : List Char) : Except Breakdown Int :=
  match Decimal.readWhole? 10 s with
  | some n => .ok n
  | none => .error .badValue

/-- What stands between a name and a bracket at the end. -/
def argument? (name : String) (s : List Char) : Option (List Char) :=
  let begun := name.toList ++ ['(']
  if begun.isPrefixOf s && s.getLast? = some ')' then some (s.drop begun.length).dropLast else none

def isSmallHexDigit (c : Char) : Bool := c.isDigit || 'a' ≤ c && c ≤ 'f'

/-- Whether a word in small letters is a colour. -/
def isColor (word : List Char) : Except Breakdown Bool :=
  if word = "default".toList || colorNames.contains (String.ofList word) then .ok true
  else
    match word, argument? "color" word, argument? "rgb" word with
    | '#' :: digits, _, _ => .ok (digits.length = 6 && digits.all isSmallHexDigit)
    | _, some digits, _ =>
      .ok (!digits.isEmpty && digits.length ≤ 3 && digits.all Char.isDigit &&
        Text.numeral 10 (digits.map fun c => c.toNat - 48) ≤ 255)
    | _, _, some parts =>
      let isPlain := !parts.isEmpty &&
        parts.all fun c => c = ',' || (Text.digitValue? c).isSome || Text.isBlank c
      match isPlain, Text.cut ',' parts with
      | true, [r, g, b] => do
        let r ← componentOf r
        let g ← componentOf g
        let b ← componentOf b
        return r ≤ 255 && g ≤ 255 && b ≤ 255
      | _, _ => .ok false
    | _, _, _ => .ok false

/-- A style with a colour, if the word is one. -/
def NamedStyle.colored? (s : NamedStyle) (word : List Char) (isBackground : Bool) :
    Except Breakdown (Option NamedStyle) :=
  (isColor word).map fun isOne =>
    if !isOne then none
    else if isBackground then some { s with bg := some word }
    else some { s with fg := some word }

/-- Adds to a style what a keyword says about the word behind it, which is absent at the end; none
if that is nothing. -/
def NamedStyle.keyword? (s : NamedStyle) (keyword : String) (word? : Option (List Char)) :
    Except Breakdown (Option NamedStyle) :=
  match keyword, word? with
  | "on", some word => s.colored? (Text.small word) true
  | "not", some word =>
    .ok ((attributeOf? word).map fun a => { s with look := s.look.setFlag a false })
  | "link", some word => .ok (some { s with look := { s.look with link := some word } })
  | _, _ => .ok none

/-- Adds to a style what some words say; none if they say nothing. -/
def NamedStyle.read? (s : NamedStyle) : List (List Char) → Except Breakdown (Option NamedStyle)
  | [] => .ok (some s)
  | word :: rest =>
    let word := Text.small word
    if ["on", "not", "link"].contains (String.ofList word) then
      match s.keyword? (String.ofList word) rest.head?, rest with
      | .error b, _ => .error b
      | .ok none, _ | _, [] => .ok none
      | .ok (some s), _ :: rest => s.read? rest
    else
      match attributeOf? word with
      | some a => NamedStyle.read? { s with look := s.look.setFlag a true } rest
      | none =>
        match s.colored? word false with
        | .error b => .error b
        | .ok none => .ok none
        | .ok (some s) => s.read? rest

/-- The words that say a style. -/
def NamedStyle.words (s : NamedStyle) : List (List Char) :=
  (Attribute.all.flatMap fun a =>
    match s.look.flag a with
    | none => []
    | some true => [a.name.toList]
    | some false => ["not".toList, a.name.toList]) ++
  s.fg.toList ++
  (match s.bg with | none => [] | some c => ["on".toList, c]) ++
  (match s.look.link with | none => [] | some target => ["link".toList, target])

/-- The plain form of a text that names a style. -/
def plainStyle (text : List Char) : Except Breakdown (List Char) := do
  if Text.trim text = "none".toList then return "none".toList
  match ← NamedStyle.read? {} (Text.words text) with
  | none => return Text.small (Text.trim text)
  | some s =>
    let words := s.words
    return if words.isEmpty then "none".toList else List.intercalate [' '] words

end ToolHost.Terminal
