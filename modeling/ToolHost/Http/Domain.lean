import ToolHost.Http.DomainTable
import ToolHost.Text.Lines
import ToolHost.Text.Punycode
import ToolHost.Text.Small
import ToolHost.Text.Width

/-!
# International names

A host name with characters beyond ASCII is written in ASCII label by label. Not every name can be:
its characters must be letters, marks, digits and hyphens in their plain form, some of them only in
certain company, and a label with letters that run from right to left must run so as a whole.
-/
namespace ToolHost.Http.Domain

open Text (inRanges)

/-- The place that a mark takes among several, from one on; no mark has none. -/
def markClass (c : Char) : Nat :=
  ((markClasses.find? fun (first, last, _) => first ≤ c.toNat && c.toNat ≤ last).map (·.2.2)).getD 0

/-- Whether a mark makes one character with a letter. -/
def composes (letter mark : Char) : Bool :=
  composedLetters.any fun (l, m, _) => l == letter.toNat && m == mark.toNat

/-- A letter that is made of a letter and a mark. -/
def parts? (c : Char) : Option (Char × Char) :=
  (composedLetters.find? fun (_, _, whole) => whole == c.toNat).map fun (l, m, _) =>
    (Char.ofNat l, Char.ofNat m)

/-- Whether a mark makes another character of a letter: with the letter, or with what is left of it
without marks that come later. A letter is made of three others at the most. -/
def alters (fuel : Nat) (letter mark : Char) : Bool :=
  composes letter mark ||
    match fuel, parts? letter with
    | fuel + 1, some (l, m) => markClass mark < markClass m && alters fuel l mark
    | _, _ => false

/-- Whether a text is as short as can be, its marks in order: `base` is the last character that is
no mark, and `last` the class of the mark before. -/
def isComposed (base : Option Char) (last : Nat) : List Char → Bool
  | [] => true
  | c :: rest =>
    let k := markClass c
    let isFree := last = 0 || last < k
    let isAltering (b : Char) : Bool := if k = 0 then composes b c else alters 3 b c
    if k != 0 && k < last then false
    else if isFree && (base.map isAltering).getD false then false
    else isComposed (if k = 0 then some c else base) k rest

def isMark (c : Char) : Bool := inRanges Text.cellessRanges c.toNat

/-- A mark that neither joins nor runs in any way of its own. -/
def isNeutralMark (c : Char) : Bool := isMark c && !inRanges leftwardMarks c.toNat

/-- Whether a character may stand anywhere. -/
def isValid (c : Char) : Bool :=
  let n := c.toNat
  if n < 128 then c.isDigit || c.isLower || c = '-'
  else validRuns.any fun (first, last, step) =>
    first ≤ n && n ≤ last && (n - first) % step = 0

/-! Characters that depend on others: `before` are those before them, reversed. -/

/-- Whether a sign that keeps letters apart has letters to keep apart. -/
def keepsApart (before behind : List Char) : Bool :=
  let near (cs : List Char) (tables : List (Array (Nat × Nat))) : Bool :=
    match cs.dropWhile isNeutralMark with
    | [] => false
    | c :: _ => tables.any (inRanges · c.toNat)
  near before [dualJoining, leftJoining] && near behind [dualJoining, rightJoining]

def isArabicDigit (c : Char) : Bool := 0x660 ≤ c.toNat && c.toNat ≤ 0x669

def isPersianDigit (c : Char) : Bool := 0x6F0 ≤ c.toNat && c.toNat ≤ 0x6F9

/-- Whether a character may stand in its company. -/
def isValidAmong (before : List Char) (c : Char) (behind : List Char) : Bool :=
  let isBehindVirama := (before.head?.map fun c => markClass c == 9).getD false
  let all := before ++ behind
  if isArabicDigit c then !all.any isPersianDigit
  else if isPersianDigit c then !all.any isArabicDigit
  else
    match c with
    | '\u200c' => isBehindVirama || keepsApart before behind
    | '\u200d' => isBehindVirama
    | '·' => before.head? = some 'l' && behind.head? = some 'l'
    | '\u0375' => (behind.head?.map (inRanges greekRanges ·.toNat)).getD false
    | '\u05f3' | '\u05f4' => (before.head?.map (inRanges hebrewRanges ·.toNat)).getD false
    | '\u30fb' =>
      all.any fun d => [hiraganaRanges, katakanaRanges, hanRanges].any (inRanges · d.toNat)
    | c => isValid c

def areValid (before : List Char) : List Char → Bool
  | [] => true
  | c :: rest => isValidAmong before c rest && areValid (c :: before) rest

/-! The way that letters run. -/

inductive Way
  | leftward
  | rightward
  | arabicNumber
  | europeanNumber
  | mark
  | other
  deriving DecidableEq, Repr

def wayOf (c : Char) : Way :=
  let n := c.toNat
  if inRanges rightwardRanges n then .rightward
  else if isArabicDigit c || (0x10D30 ≤ n && n ≤ 0x10D39) then .arabicNumber
  else if c.isDigit || isPersianDigit c then .europeanNumber
  else if c = '-' || inRanges otherwardRanges n then .other
  else if isNeutralMark c then .mark
  else .leftward

/-- Whether a label has no letters from right to left, or runs in one way as a whole. -/
def runsOneWay (label : List Char) : Bool :=
  let ways := label.map wayOf
  let isNumber (w : Way) : Bool := w = .arabicNumber || w = .europeanNumber
  let lastWay := ((ways.reverse.dropWhile (· = .mark)).head?).getD .other
  if !ways.any fun w => w = .rightward || w = .arabicNumber then true
  else
    match ways.head? with
    | some .rightward =>
      !ways.contains .leftward && !(ways.contains .arabicNumber && ways.contains .europeanNumber) &&
        (lastWay = .rightward || isNumber lastWay)
    | some .leftward =>
      !ways.any (fun w => w = .rightward || w = .arabicNumber) &&
        (lastWay = .leftward || lastWay = .europeanNumber)
    | _ => false

/-! Labels and names. -/

/-- Whether hyphens stand neither at an end of a label nor in its third and fourth place. -/
def hasGoodHyphens (label : List Char) : Bool :=
  (label.drop 2).take 2 != ['-', '-'] && label.head? != some '-' && label.getLast? != some '-'

def isLabel (label : List Char) : Bool :=
  !label.isEmpty && label.length ≤ 254 && isComposed none 0 label && hasGoodHyphens label &&
    !(label.head?.map isMark).getD false && areValid [] label && runsOneWay label

/-- What labels in ASCII begin with that stand for others. -/
def mark : List Char := "xn--".toList

/-- The most characters of a label, and of a name with and without a dot at its end. -/
def longestLabel : Nat := 63

def longestName (endsWithDot : Bool) : Nat := if endsWithDot then 254 else 253

/-- Whether what stands behind that beginning stands for a label. -/
def isEncoded (s : List Char) : Bool :=
  !s.isEmpty && s.getLast? != some '-' && ((Text.Punycode.decode? s).map isLabel).getD false

/-- A label in ASCII, if it can be written so. -/
def label? (label : List Char) : Option (List Char) :=
  let isPlain := label.all (·.toNat < 128)
  let isSound :=
    if isPlain && mark.isPrefixOf label then isEncoded (label.drop mark.length)
    else isLabel label
  let written := if isPlain then label else mark ++ Text.Punycode.encode label
  if isSound && written.length ≤ longestLabel then some written else none

/-- The dots between labels. -/
def isDot (c : Char) : Bool := c = '.' || c = '\u3002' || c = '\uff0e' || c = '\uff61'

/-- A name in ASCII, if it can be written so. -/
def ascii? (name : List Char) : Option (List Char) :=
  let labels := Text.cut '.' (name.map fun c => if isDot c then '.' else c)
  let endsWithDot := labels.getLast? = some [] && 1 < labels.length
  let labels := if endsWithDot then labels.dropLast else labels
  match labels.mapM label? with
  | none => none
  | some labels =>
    let written := List.intercalate ['.'] labels ++ if endsWithDot then ['.'] else []
    if name.length ≤ longestName true && written.length ≤ longestName endsWithDot then some written
    else none

end ToolHost.Http.Domain
