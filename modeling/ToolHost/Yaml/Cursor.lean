/-!
# A place in a text

Reading proceeds character by character; the place knows its line, its column and how far it is
from the start. The end of the text reads as the character NUL, which no text contains.
-/
namespace ToolHost.Yaml

structure Cursor where
  rest : List Char
  line : Nat := 0
  column : Nat := 0
  index : Nat := 0

/-- Characters that break a line. -/
def isBreak (c : Char) : Bool :=
  c = '\n' || c = '\r' || c = '\u0085' || c = '\u2028' || c = '\u2029'

/-- A line break or the end of the text. -/
def isBreakOrEnd (c : Char) : Bool := c = '\x00' || isBreak c

/-- A space, a line break or the end of the text. -/
def isSpaceOrEnd (c : Char) : Bool := c = ' ' || isBreakOrEnd c

/-- A blank, a line break or the end of the text. -/
def isGap (c : Char) : Bool := c = '\t' || isSpaceOrEnd c

namespace Cursor

/-- The character `n` places ahead. -/
def peekAt (c : Cursor) (n : Nat) : Char := (c.rest.drop n).headD '\x00'

def peek (c : Cursor) : Char := c.rest.headD '\x00'

def atEnd (c : Cursor) : Bool := c.rest.isEmpty

/-- The place behind one character. A byte order mark has no width. -/
def next (c : Cursor) : Cursor :=
  match c.rest with
  | [] => c
  | ch :: rest =>
    if isBreak ch && !(ch = '\r' && rest.head? = some '\n') then
      ⟨rest, c.line + 1, 0, c.index + 1⟩
    else if ch = '\uFEFF' then ⟨rest, c.line, c.column, c.index + 1⟩
    else ⟨rest, c.line, c.column + 1, c.index + 1⟩

def forward (c : Cursor) : Nat → Cursor
  | 0 => c
  | n + 1 => c.next.forward n

/-- The characters ahead that have a property. -/
def ahead (c : Cursor) (p : Char → Bool) : List Char := c.rest.takeWhile p

/-- Takes the characters ahead that have a property. -/
def take (c : Cursor) (p : Char → Bool) : List Char × Cursor :=
  let chars := c.ahead p
  (chars, c.forward chars.length)

def skip (c : Cursor) (p : Char → Bool) : Cursor := (c.take p).2

/-- Takes a line break, if there is one; all but the two special separators count as line
feeds. -/
def lineBreak (c : Cursor) : List Char × Cursor :=
  let ch := c.peek
  if ch = '\r' && c.peekAt 1 = '\n' then (['\n'], c.forward 2)
  else if ch = '\r' || ch = '\n' || ch = '\u0085' then (['\n'], c.next)
  else if ch = '\u2028' || ch = '\u2029' then ([ch], c.next)
  else ([], c)

/-- Whether a separator of documents stands here. -/
def atSeparator (c : Cursor) : Bool :=
  let three := c.rest.take 3
  (three = ['-', '-', '-'] || three = ['.', '.', '.']) && isGap (c.peekAt 3)

end Cursor

/-- Why a text gives no value. -/
inductive Error
  /-- It is no well-formed document, or says something that has no value here. -/
  | malformed
  /-- A scalar has the form of its kind but stands for nothing, such as the 31st of February. -/
  | noSuchValue
  /-- A scalar is to be a truth value, but is no word for one. -/
  | unknownWord
  /-- A scalar is to be a number, but has no digit at all. -/
  | noDigits
  /-- A scalar is to be a date, but does not have the form of one. -/
  | noDate
  /-- A number is larger than any that can stand there. -/
  | tooLarge
  /-- Something without a text of its own is to be a date. -/
  | noText
  /-- The nodes are nested too deeply. -/
  | tooDeep
  deriving DecidableEq, Repr

end ToolHost.Yaml
