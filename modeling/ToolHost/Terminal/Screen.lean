import ToolHost.Terminal.Escape

/-!
# Reading lines of terminal output

A line is read under the style that holds at its start and gives styled text and the style that
holds at its end. Of a line that was overwritten by carriage returns only what was written last
counts.
-/
namespace ToolHost.Terminal

/-- Bell, backspace, vertical tab, form feed and carriage return: never shown. -/
def isUnshown (c : Char) : Bool :=
  c = '\x07' || c = '\x08' || c = '\x0b' || c = '\x0c' || c = '\r'

/-- A stretch of characters as it is shown; none where nothing was written. -/
def shown (style : Style) (chars : List Char) : StyledText :=
  if chars.isEmpty then [] else [⟨chars.filter (!isUnshown ·), style⟩]

/-- The target of a link that an operating system command sets: all that follows its second
semicolon. -/
def linkTarget? (payload : List Char) : Option (List Char) :=
  match payload with
  | '8' :: ';' :: rest => (rest.dropWhile (· != ';')).tail?
  | _ => none

/-- The style after an operating system command. -/
def Style.command (s : Style) (payload : List Char) : Style :=
  match linkTarget? payload with
  | none => s
  | some target => some { s.look with link := if target.isEmpty then none else some target }

/-- Styled text of lexemes; `pending` holds the characters of the stretch under way, reversed. -/
def interpret (style : Style) (pending : List Char) : List Lexeme → StyledText × Style
  | [] => (shown style pending.reverse, style)
  | .char c :: rest => interpret style (c :: pending) rest
  | lexeme :: rest =>
    let next :=
      match lexeme with
      | .rendition params => style.render params
      | .command payload => style.command payload
      | _ => style
    let (text, last) := interpret next [] rest
    (shown style pending.reverse ++ text, last)

/-- What follows the last carriage return. -/
def overwritten (line : List Char) : List Char :=
  (line.reverse.takeWhile (· != '\r')).reverse

/-- A line without the carriage returns before its end. -/
def chomp (line : List Char) : List Char :=
  (line.reverse.dropWhile (· == '\r')).reverse

/-- Reads one line, given without its line feed. A line that shows nothing leaves nothing, be it
styled or not. -/
def readLine (style : Style) (line : List Char) : StyledText × Style :=
  let (text, last) := interpret style [] (lex (overwritten (chomp line)))
  (if text.plain.isEmpty then [] else text, last)

/-- Whether all that counts of a stretch of output can be read. -/
def isReadableText (s : List Char) : Bool :=
  s.length ≤ Decimal.mostDigits ||
    (Text.cut '\n' s).all fun line => (lex (overwritten (chomp line))).all (·.isReadable)

/-- A line feed, which has no style. -/
def newline : Run := ⟨['\n'], none⟩

/-- Reads lines one after another, with a line feed between two of them. -/
def readLines (style : Style) : List (List Char) → StyledText × Style
  | [] => ([], style)
  | [line] => readLine style line
  | line :: rest =>
    let (text, next) := readLine style line
    let (more, last) := readLines next rest
    (text ++ newline :: more, last)

/-- Reads any stretch of output. -/
def readText (style : Style) (s : List Char) : StyledText × Style :=
  readLines style (Text.cut '\n' s)

end ToolHost.Terminal
