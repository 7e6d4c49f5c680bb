import ToolHost.Terminal.Screen

/-!
# The output filter

Output arrives in portions that may end anywhere. An escape sequence cut off at the end of a
portion is held back until the rest of it arrives, so it is read as a whole; the style carries
over from portion to portion.
-/
namespace ToolHost.Terminal

/-- Parameters of a control sequence that may still go on. -/
def isHeldParameter (c : Char) : Bool :=
  '0' ≤ c && c ≤ '9' || c = ';' || c = ':' || c = '?'

/-- Whether a portion ends here. A line feed at its very end does not count. -/
def endsHere (s : List Char) : Bool := s.isEmpty || s = ['\n']

/-- Whether what follows an ESC, up to the end of the portion, may be an unfinished sequence:
nothing, the parameters of a control sequence, or an operating system command without its
terminator. -/
def isUnfinished : List Char → Bool
  | '[' :: params => endsHere (params.dropWhile isHeldParameter)
  | ']' :: payload => payload.all fun c => c != '\x07' && c != esc
  | rest => endsHere rest

/-- A portion, cut before the first ESC from which it may be an unfinished sequence. -/
def holdBack : List Char → List Char × List Char
  | [] => ([], [])
  | c :: rest =>
    if c = esc && isUnfinished rest then ([], c :: rest)
    else
      let (now, held) := holdBack rest
      (c :: now, held)

/-- What a portion that never continues still shows: only the line feed that ended it, and not
even that behind an operating system command. -/
def abandon : List Char → List Char
  | '\x1b' :: ']' :: _ => []
  | held => if held.getLast? = some '\n' then ['\n'] else []

/-- The filter between two portions. -/
structure Filter where
  style : Style := none
  held : List Char := []
  deriving DecidableEq, Repr

namespace Filter

/-- Whether a portion can be read. -/
def canRead (f : Filter) (portion : List Char) : Bool :=
  isReadableText (holdBack (f.held ++ portion)).1

/-- What a portion adds to the display. -/
def feed (f : Filter) (portion : List Char) : StyledText × Filter :=
  let (now, held) := holdBack (f.held ++ portion)
  let (text, style) := readText f.style now
  (text, ⟨style, held⟩)

/-- What the end of the output adds: a sequence that never completed is dropped. -/
def flush (f : Filter) : StyledText × Filter :=
  let (text, style) := readText f.style (abandon f.held)
  (text, ⟨style, []⟩)

end Filter

end ToolHost.Terminal
