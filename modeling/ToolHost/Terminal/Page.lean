import ToolHost.Terminal.Style
import ToolHost.Text.Lines
import ToolHost.Text.Width

/-!
# Writing on a terminal

Styled text is written as it is, never wrapped. A tab goes on to the next multiple of eight cells.
Where the terminal has colours, every run that has something switched on stands between the
sequence that selects it and the one that resets it, line by line; the line feeds stand outside.
-/
namespace ToolHost.Terminal

def tabWidth : Nat := 8

/-- A place in a line: a stop, and what has been written behind it. -/
structure Column where
  stop : Nat := 0
  behind : Text.Gauge := {}
  deriving DecidableEq, Repr

/-- Blanks that take the place of a tab, one at the least, and the column behind them. A blank that
a joiner takes away is written, but not counted. -/
def tabBlanks (column : Column) : List Char × Column :=
  let cells := column.stop + (column.behind.add ' ').cells
  let more := (tabWidth - cells % tabWidth) % tabWidth
  (List.replicate (more + 1) ' ', { stop := cells + more })

/-- The stretches of some characters from a column on, tabs written as blanks. A stretch ends
behind every tab. Gives the column at the end, too. -/
def stretches (column : Column) (pending : List Char) : List Char → List (List Char) × Column
  | [] => (if pending.isEmpty then [] else [pending.reverse], column)
  | c :: rest =>
    if c = '\n' then
      let (more, last) := stretches {} [] rest
      ((if pending.isEmpty then [] else [pending.reverse]) ++ ['\n'] :: more, last)
    else if c = '\t' then
      let (blanks, next) := tabBlanks column
      let (more, last) := stretches next [] rest
      ((pending.reverse ++ blanks) :: more, last)
    else stretches { column with behind := column.behind.add c } (c :: pending) rest

/-- The runs of a text from a column on, cut at tabs and line feeds. -/
def laidOutFrom (column : Column) : StyledText → StyledText
  | [] => []
  | r :: rest =>
    let (parts, last) := stretches column [] r.chars
    parts.map (⟨·, r.style⟩) ++ laidOutFrom last rest

/-- The runs of a text that begins a line. -/
def laidOut (t : StyledText) : StyledText := laidOutFrom {} t

/-- The codes that select a colour; `base` is 30 for the foreground and 40 for the background. -/
def Color.codes (base : Nat) : Color → List Nat
  | .default => [base + 9]
  | .indexed n =>
    if n < 8 then [base + n] else if n < 16 then [base + 52 + n] else [base + 8, 5, n]
  | .rgb r g b => [base + 8, 2, r, g, b]

/-- The codes that select a look. What is switched off needs none. -/
def Look.codes (l : Look) : List Nat :=
  (Attribute.all.filter fun a => l.flag a = some true).map Attribute.code ++
    (l.fg.map (Color.codes 30)).getD [] ++ (l.bg.map (Color.codes 40)).getD []

def selection (codes : List Nat) : String :=
  "\x1b[" ++ ";".intercalate (codes.map toString) ++ "m"

/-- A run as it is written on a terminal with colours. -/
def Run.written (r : Run) : String :=
  let text := String.ofList r.chars
  let codes := r.style.look.codes
  if codes.isEmpty || r.chars.isEmpty || r.chars = ['\n'] then text
  else selection codes ++ text ++ selection [0]

/-- What is written for a text. -/
def written (hasColors : Bool) (t : StyledText) : String :=
  let runs := laidOut t
  if hasColors then String.join (runs.map Run.written) else String.ofList (StyledText.plain runs)

/-- What clears the screen. -/
def clearing (hasColors : Bool) : String := if hasColors then "\x1b[2J\x1b[H" else ""

end ToolHost.Terminal
