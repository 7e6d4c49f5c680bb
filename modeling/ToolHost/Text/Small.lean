import ToolHost.Text.LetterTable
import ToolHost.Text.Ranges

/-!
# Small letters

The form of a text in small letters (Unicode 14). A capital sigma at the end of a word becomes the
final one: a capital or small letter stands before it and none behind it, signs that do not count
in a word left out.
-/
namespace ToolHost.Text

/-- The small letter of a capital one that has just one. -/
def smallLetter (c : Char) : Char :=
  let n := c.toNat
  if n < 0x80 then c.toLower
  else
    match capitalRuns.find? fun (first, last, step, _) =>
        first ≤ n && n ≤ last && (n - first) % step == 0 with
    | some (_, _, _, shift) => Char.ofNat (n + shift).toNat
    | none => c

/-- Whether a letter is a capital or a small one. -/
def isCased (c : Char) : Bool :=
  smallLetter c != c || inRanges unpairedLetters c.toNat ||
    capitalRuns.any fun (first, last, step, shift) =>
      let n := (c.toNat : Int) - shift
      first ≤ n && n ≤ last && (n - first) % step == 0

def isWordSign (c : Char) : Bool := inRanges wordSigns c.toNat

/-- A text in small letters; `before` holds what has been read of it, reversed. -/
def smallFrom (before : List Char) : List Char → List Char
  | [] => []
  | c :: rest =>
    let small :=
      if c = 'Σ' then
        let isInWord := ((before.dropWhile isWordSign).head?.map isCased).getD false
        let isFollowed := ((rest.dropWhile isWordSign).head?.map isCased).getD false
        [if isInWord && !isFollowed then 'ς' else 'σ']
      else if c = 'İ' then ['i', '\u0307']
      else [smallLetter c]
    small ++ smallFrom (c :: before) rest

def small (s : List Char) : List Char := smallFrom [] s

end ToolHost.Text
