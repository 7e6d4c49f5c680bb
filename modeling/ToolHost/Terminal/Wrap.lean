import ToolHost.Terminal.Page
import ToolHost.Text.Blank

/-!
# Breaking lines

A line that is to fit a width is broken before words. Blanks that reach beyond the width are taken
off the end of a line, and a line that still does not fit ends with an ellipsis.
-/
namespace ToolHost.Terminal

/-- The words of a line, each with the blanks behind it, the first with those before it, too.
`word` is the word under way, reversed; `hasText` tells whether it holds more than blanks. -/
def spacedWords (word : List Char) (hasText : Bool) : List Char → List (List Char)
  | [] => if hasText then [word.reverse] else []
  | c :: rest =>
    if Text.isBlank c then spacedWords (c :: word) hasText rest
    else if hasText && (word.head?.map Text.isBlank).getD false then
      word.reverse :: spacedWords [c] true rest
    else spacedWords (c :: word) true rest

/-- A text without the blanks at its end. -/
def withoutEnd (s : List Char) : List Char := (s.reverse.dropWhile Text.isBlank).reverse

/-- Puts words on lines; `line` is the line under way and `used` the cells that count for it. The
blanks behind a word need not fit. -/
def fillLines (width : Nat) (line : List Char) (used : Nat) : List (List Char) → List (List Char)
  | [] => [line]
  | word :: rest =>
    let size := Text.cellsOf (withoutEnd word)
    if used + size ≤ width then fillLines width (line ++ word) (used + Text.cellsOf word) rest
    else if !line.isEmpty && (width < size || used != 0) then
      line :: fillLines width word (Text.cellsOf word) rest
    else
      fillLines width (line ++ word) (if width < size then Text.cellsOf word else used) rest

/-- The lines that a line is broken into. -/
def brokenLines (width : Nat) (line : List Char) : List (List Char) :=
  match spacedWords [] false line with
  | [] => [line]
  | words => fillLines width [] 0 words

/-- A line without blanks at its end as far as it has more characters than the width. -/
def withoutExcess (width : Nat) (line : List Char) : List Char :=
  let blanks := line.length - (withoutEnd line).length
  line.take (line.length - min blanks (line.length - width))

/-- The beginning of a text that fits a width. Half of a wide character is a blank. -/
def beginning (width : Nat) (g : Text.Gauge) : List Char → List Char
  | [] => []
  | c :: rest =>
    let next := g.add c
    if next.cells ≤ width then c :: beginning width next rest
    else if g.cells < width then [' '] else []

/-- A text with blanks up to a width. -/
def padded (width : Nat) (s : List Char) : List Char :=
  s ++ List.replicate (width - Text.cellsOf s) ' '

/-- A line that covers just the width. -/
def fitted (width : Nat) (line : List Char) : List Char :=
  let line := withoutExcess width line
  padded width <|
    if width < Text.cellsOf line then beginning (width - 1) {} line ++ ['…'] else line

/-- A text that is written into a width, line by line. -/
def wrapped (width : Nat) (s : List Char) : List (List Char) :=
  (Text.cut '\n' s).flatMap fun line =>
    (brokenLines width (StyledText.plain (laidOut [⟨line, none⟩]))).map (fitted width)

end ToolHost.Terminal
