import ToolHost.Decimal.Whole
import ToolHost.Yaml.Literal

/-!
# Tokens

The marks and scalars of a document, with the indentation of its lines made explicit: blocks open
and close by tokens of their own. A key is known to be one only when its colon is met, so the
places at which a key may begin are remembered until then; a key has to end on its line and
within 1024 characters. Tokens are read when they are asked for, and as far ahead as it takes to
know whether the next one is a key.
-/
namespace ToolHost.Yaml

/-- A line in front of a document. -/
inductive Directive
  /-- The version of the format, of which the first number decides. -/
  | version (major : Nat)
  /-- What a handle of tags stands for. -/
  | handle (name start : String)
  | other
  deriving DecidableEq, Repr

inductive Token
  | directive (d : Directive)
  | documentStart
  | documentEnd
  | streamEnd
  | blockSequence
  | blockMapping
  | blockEnd
  | flowSequence
  | flowMapping
  | flowSequenceEnd
  | flowMappingEnd
  | flowEntry
  | blockEntry
  | key
  | value
  | alias (name : String)
  | anchor (name : String)
  | tag (handle : Option String) (suffix : String)
  | scalar (text : String) (plain : Bool)
  deriving DecidableEq, Repr

/-- A place at which a key may have begun. -/
structure KeyPlace where
  /-- The number of tokens before it, those taken included. -/
  position : Nat
  /-- Whether nothing but a key can stand there. -/
  required : Bool
  cursor : Cursor

/-- The reader between two tokens. -/
structure Lexer where
  cursor : Cursor
  /-- The tokens read and not taken. -/
  tokens : List Token := []
  /-- How many tokens were taken. -/
  taken : Nat := 0
  /-- Whether the end of the text was read. -/
  isDone : Bool := false
  /-- How many brackets are open. -/
  flow : Nat := 0
  /-- The column of the innermost block, −1 outside all blocks. -/
  indent : Int := -1
  /-- The columns of the blocks around it. -/
  outer : List Int := []
  /-- Whether a key may begin here. -/
  keyAllowed : Bool := true
  /-- Where keys may have begun, by the number of open brackets. -/
  keyPlaces : List (Nat × KeyPlace) := []

namespace Lexer

def push (s : Lexer) (t : Token) : Lexer := { s with tokens := s.tokens ++ [t] }

/-- Puts a token in front of the one at a position. -/
def insert (s : Lexer) (position : Nat) (t : Token) : Lexer :=
  let (before, after) := s.tokens.splitAt (position - s.taken)
  { s with tokens := before ++ t :: after }

/-- Gives up the place of a key at the current depth. -/
def dropKeyPlace (s : Lexer) : Except Error Lexer :=
  match s.keyPlaces.lookup s.flow with
  | some place =>
    if place.required then .error .malformed
    else .ok { s with keyPlaces := s.keyPlaces.filter (·.1 != s.flow) }
  | none => .ok s

/-- Remembers that a key may begin here. -/
def noteKeyPlace (s : Lexer) : Except Error Lexer :=
  if s.keyAllowed then do
    let required := s.flow = 0 && s.indent = (s.cursor.column : Int)
    let s ← s.dropKeyPlace
    let place : KeyPlace := ⟨s.taken + s.tokens.length, required, s.cursor⟩
    return { s with keyPlaces := (s.flow, place) :: s.keyPlaces }
  else .ok s

/-- Gives up the places too far back. -/
def dropStaleKeyPlaces (s : Lexer) : Except Error Lexer :=
  let isStale (p : Nat × KeyPlace) : Bool :=
    p.2.cursor.line != s.cursor.line || s.cursor.index - p.2.cursor.index > 1024
  if s.keyPlaces.any fun p => isStale p && p.2.required then .error .malformed
  else .ok { s with keyPlaces := s.keyPlaces.filter (!isStale ·) }

/-- Closes the blocks that stand right of a column. -/
def closeBlocks (s : Lexer) (column : Int) : Lexer :=
  if s.flow = 0 then go s.outer s else s
where
  go : List Int → Lexer → Lexer
    | [], s => s
    | outer :: rest, s =>
      if s.indent > column then go rest ({ s with indent := outer, outer := rest }.push .blockEnd)
      else s

/-- Opens a block at a column, if none is open there. -/
def openBlock (s : Lexer) (column : Nat) : Option Lexer :=
  if s.indent < (column : Int) then
    some { s with outer := s.indent :: s.outer, indent := column }
  else none

/-- Skips spaces, comments and line breaks. -/
def skipBlanks : Nat → Lexer → Lexer
  | 0, s => s
  | fuel + 1, s =>
    let c := s.cursor.skip (· == ' ')
    let c := if c.peek = '#' then c.skip (!isBreakOrEnd ·) else c
    if isBreak c.peek then
      let s := { s with cursor := c.lineBreak.2 }
      skipBlanks fuel (if s.flow = 0 then { s with keyAllowed := true } else s)
    else { s with cursor := c }

/-- A token of `n` characters that no key can begin with. -/
def mark (s : Lexer) (t : Token) (n : Nat) : Lexer :=
  { s with cursor := s.cursor.forward n }.push t

/-- A token at the start of a line that ends all blocks. -/
def atMargin (s : Lexer) : Except Error Lexer := do
  let s ← (s.closeBlocks (-1)).dropKeyPlace
  return { s with keyAllowed := false }

def isWordChar (c : Char) : Bool := c.isAlphanum || c = '-' || c = '_'

/-- Characters that may follow the name of an anchor. -/
def endsAnchor (c : Char) : Bool :=
  isGap c || c = '?' || c = ':' || c = ',' || c = ']' || c = '\x7d' || c = '%' || c = '@' ||
    c = '`'

/-- An anchor or an alias, behind its indicator. -/
def anchorName (s : Lexer) (t : String → Token) : Except Error Lexer := do
  let s ← s.noteKeyPlace
  let (name, c) := s.cursor.next.take isWordChar
  if name.isEmpty || !endsAnchor c.peek then throw .malformed
  return { s with cursor := c, keyAllowed := false }.push (t (String.ofList name))

/-- Characters of an address. -/
def isAddressChar (c : Char) : Bool :=
  c.isAlphanum || "-;/?:@&=+$,_.!~*'()[]%".toList.contains c

/-- Octets in hexadecimal, each behind a percent sign. -/
def percentOctets : Nat → Cursor → Except Error (List UInt8 × Cursor)
  | 0, c => .ok ([], c)
  | fuel + 1, c =>
    if c.peek = '%' then
      match hexValue? (c.peekAt 1), hexValue? (c.peekAt 2) with
      | some a, some b => do
        let (more, c) ← percentOctets fuel (c.forward 3)
        return (UInt8.ofNat (a * 16 + b) :: more, c)
      | _, _ => .error .malformed
    else .ok ([], c)

/-- An address; the octets in it have to be a text. -/
def address : Nat → Cursor → Except Error (List Char × Cursor)
  | 0, c => .ok ([], c)
  | fuel + 1, c =>
    if c.peek = '%' then do
      let (octets, c) ← percentOctets c.rest.length c
      match String.fromUTF8? ⟨octets.toArray⟩ with
      | none => .error .malformed
      | some text =>
        let (more, c) ← address fuel c
        return (text.toList ++ more, c)
    else if isAddressChar c.peek then do
      let (more, last) ← address fuel c.next
      return (c.peek :: more, last)
    else .ok ([], c)

/-- An address that is not empty. -/
def addressText (c : Cursor) : Except Error (String × Cursor) := do
  if !isAddressChar c.peek then throw .malformed
  let (text, c) ← address c.rest.length c
  return (String.ofList text, c)

/-- The handle of a tag: an exclamation mark, or a word between two. -/
def handleName (c : Cursor) : Except Error (String × Cursor) := do
  if c.peek != '!' then throw .malformed
  if c.peekAt 1 = ' ' then return ("!", c.next)
  let (word, last) := c.next.take isWordChar
  if last.peek != '!' then throw .malformed
  return ("!" ++ String.ofList word ++ "!", last.next)

/-- The number of a version. -/
def versionNumber (c : Cursor) : Except Error (Nat × Cursor) := do
  let (digits, c) := c.take Char.isDigit
  if digits.isEmpty then throw .malformed
  if digits.length > Decimal.mostDigits then throw .noSuchValue
  return (Text.numeral 10 (digits.map fun d => d.toNat - 48), c)

/-- A directive: a percent sign, a name and what the name asks for. -/
def directive (s : Lexer) : Except Error Lexer := do
  let s ← s.atMargin
  let (name, c) := s.cursor.next.take isWordChar
  if name.isEmpty || !isSpaceOrEnd c.peek then throw .malformed
  let (d, c) ←
    if name = "YAML".toList then do
      let (major, c) ← versionNumber (c.skip (· == ' '))
      if c.peek != '.' then throw Error.malformed
      let (_, c) ← versionNumber c.next
      if !isSpaceOrEnd c.peek then throw Error.malformed
      pure (Directive.version major, c)
    else if name = "TAG".toList then do
      let (handle, c) ← handleName (c.skip (· == ' '))
      if c.peek != ' ' then throw Error.malformed
      let (start, c) ← addressText (c.skip (· == ' '))
      if !isSpaceOrEnd c.peek then throw Error.malformed
      pure (Directive.handle handle start, c)
    else pure (Directive.other, c.skip (!isBreakOrEnd ·))
  let c := c.skip (· == ' ')
  let c := if c.peek = '#' then c.skip (!isBreakOrEnd ·) else c
  if !isBreakOrEnd c.peek then throw .malformed
  return { s with cursor := c.lineBreak.2 }.push (.directive d)

/-- A tag. -/
def tagToken (s : Lexer) : Except Error Lexer := do
  let s ← s.noteKeyPlace
  let c := s.cursor
  let (handle, text, c) ←
    if c.peekAt 1 = '<' then do
      let (text, c) ← addressText (c.forward 2)
      if c.peek != '>' then throw Error.malformed
      pure (none, text, c.next)
    else if isGap (c.peekAt 1) then pure (none, "!", c.next)
    else do
      let ahead := c.next.ahead fun ch => ch != '!' && !isSpaceOrEnd ch
      let (handle, c) ←
        if c.peekAt (ahead.length + 1) = '!' then handleName c else pure ("!", c.next)
      let (text, c) ← addressText c
      pure (some handle, text, c)
  if !isSpaceOrEnd c.peek then throw .malformed
  return { s with cursor := c, keyAllowed := false }.push (.tag handle text)

/-- A scalar that may be a key. -/
def quotedScalar (s : Lexer) : Except Error Lexer := do
  let s ← s.noteKeyPlace
  let c := s.cursor
  let (text, c) ← quotedText c.peek (c.rest.length + 1) c.next
  return { s with cursor := c, keyAllowed := false }.push (.scalar (String.ofList text) false)

def plainScalar (s : Lexer) : Except Error Lexer := do
  let s ← s.noteKeyPlace
  let c := s.cursor
  let (text, broken, c) := plainText (s.flow != 0) (s.indent + 1) c.rest.length c
  return { s with cursor := c, keyAllowed := broken }.push (.scalar (String.ofList text) true)

def blockScalar (s : Lexer) : Except Error Lexer := do
  let s ← s.dropKeyPlace
  let (text, c) ← blockText (s.cursor.peek = '>') s.indent s.cursor.next
  return { s with cursor := c, keyAllowed := true }.push (.scalar (String.ofList text) false)

/-- An opening bracket. -/
def openFlow (s : Lexer) (t : Token) : Except Error Lexer := do
  let s ← s.noteKeyPlace
  return { s with flow := s.flow + 1, keyAllowed := true }.mark t 1

/-- A closing bracket. -/
def closeFlow (s : Lexer) (t : Token) : Except Error Lexer := do
  let s ← s.dropKeyPlace
  if s.flow = 0 then throw .malformed
  return { s with flow := s.flow - 1, keyAllowed := false }.mark t 1

/-- The dash of an entry of a sequence. -/
def blockEntry (s : Lexer) : Except Error Lexer := do
  if s.flow = 0 && !s.keyAllowed then throw .malformed
  let s :=
    if s.flow = 0 then
      match s.openBlock s.cursor.column with
      | some s => s.push .blockSequence
      | none => s
    else s
  let s ← { s with keyAllowed := true }.dropKeyPlace
  return s.mark .blockEntry 1

/-- A question mark, or a colon without a key before it. -/
def keyOrValue (s : Lexer) (t : Token) : Except Error Lexer := do
  if s.flow = 0 && !s.keyAllowed then throw .malformed
  let s :=
    if s.flow = 0 then
      match s.openBlock s.cursor.column with
      | some s => s.push .blockMapping
      | none => s
    else s
  let s ← { s with keyAllowed := s.flow = 0 }.dropKeyPlace
  return s.mark t 1

/-- A colon: the key before it, if there is one, gets its tokens now. -/
def valueMark (s : Lexer) : Except Error Lexer :=
  match s.keyPlaces.lookup s.flow with
  | none => s.keyOrValue .value
  | some place =>
    let s := { s with keyPlaces := s.keyPlaces.filter (·.1 != s.flow), keyAllowed := false }
    let s := s.insert place.position .key
    let s :=
      if s.flow = 0 then
        match s.openBlock place.cursor.column with
        | some s => s.insert place.position .blockMapping
        | none => s
      else s
    .ok (s.mark .value 1)

/-- Whether a plain scalar can begin here. -/
def atPlain (s : Lexer) : Bool :=
  let ch := s.cursor.peek
  !(isGap ch || "-?:,[]\x7b\x7d#&*!|>'\"%@`".toList.contains ch) ||
    (!isGap (s.cursor.peekAt 1) && (ch = '-' || (s.flow = 0 && (ch = '?' || ch = ':'))))

/-- Reads one token, and those that the indentation makes. -/
def fetch (s : Lexer) : Except Error Lexer := do
  let s ← (skipBlanks s.cursor.rest.length s).dropStaleKeyPlaces
  let s := s.closeBlocks s.cursor.column
  let c := s.cursor
  let gapFollows := isGap (c.peekAt 1)
  let atLineStart := c.column = 0
  if c.atEnd then
    let s ← s.atMargin
    return { s with keyPlaces := [], isDone := true }.push .streamEnd
  match c.peek with
  | '%' => if atLineStart then s.directive else throw .malformed
  | '[' => s.openFlow .flowSequence
  | '\x7b' => s.openFlow .flowMapping
  | ']' => s.closeFlow .flowSequenceEnd
  | '\x7d' => s.closeFlow .flowMappingEnd
  | ',' =>
    let s ← { s with keyAllowed := true }.dropKeyPlace
    return s.mark .flowEntry 1
  | '*' => s.anchorName .alias
  | '&' => s.anchorName .anchor
  | '!' => s.tagToken
  | '\'' => s.quotedScalar
  | '"' => s.quotedScalar
  | ch =>
    if atLineStart && c.atSeparator then
      let s ← s.atMargin
      return s.mark (if ch = '-' then .documentStart else .documentEnd) 3
    else if ch = '-' && gapFollows then s.blockEntry
    else if ch = '?' && (s.flow != 0 || gapFollows) then s.keyOrValue .key
    else if ch = ':' && (s.flow != 0 || gapFollows) then s.valueMark
    else if (ch = '|' || ch = '>') && s.flow = 0 then s.blockScalar
    else if s.atPlain then s.plainScalar
    else throw .malformed

/-- Reads on until it is known what the next token is. Every step but the last takes a
character. -/
def settle : Nat → Lexer → Except Error Lexer
  | 0, _ => .error .malformed
  | fuel + 1, s =>
    if s.isDone then .ok s
    else if s.tokens.isEmpty then do settle fuel (← s.fetch)
    else do
      let s ← s.dropStaleKeyPlaces
      if s.keyPlaces.any fun p => p.2.position = s.taken then settle fuel (← s.fetch)
      else return s

/-- The next token, and the reader that knows it. -/
def next (s : Lexer) : Except Error (Token × Lexer) := do
  let s ← s.settle (s.cursor.rest.length + 2)
  return (s.tokens.headD .streamEnd, s)

/-- Takes the next token. -/
def drop (s : Lexer) : Lexer := { s with tokens := s.tokens.tail, taken := s.taken + 1 }

end Lexer

/-- Characters that a document may contain. -/
def isAllowed (c : Char) : Bool :=
  let n := c.toNat
  n = 9 || n = 10 || n = 13 || (0x20 ≤ n && n ≤ 0x7E) || n = 0x85 || (0xA0 ≤ n && n ≤ 0xD7FF) ||
    (0xE000 ≤ n && n ≤ 0xFFFD) || 0x10000 ≤ n

/-- The reader at the start of a text. -/
def Lexer.ofText (text : List Char) : Except Error Lexer :=
  if text.all isAllowed then
    let start : Cursor := { rest := text }
    .ok { cursor := if start.peek = '\uFEFF' then start.next else start }
  else .error .malformed

end ToolHost.Yaml
