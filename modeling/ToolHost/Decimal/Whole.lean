import ToolHost.Text.Blank
import ToolHost.Text.Digit
import ToolHost.Text.Lines

/-!
# Reading whole numbers

The text of a whole number in a base: white space around it, a sign, a prefix that names the base,
and digits of any script, with an underscore between two of them here and there. A number of very
many decimal digits is refused, as converting it takes too long; bases that are powers of two know
no such limit.
-/
namespace ToolHost.Decimal

/-- The greatest count of decimal digits that is converted. -/
def mostDigits : Nat := 4300

/-- The value of a digit in bases up to 36. -/
def baseDigit? (c : Char) : Option Nat :=
  let n := c.toNat
  if 97 ≤ n && n ≤ 122 then some (n - 87)
  else if 65 ≤ n && n ≤ 90 then some (n - 55)
  else Text.digitValue? c

/-- The letter that names a base behind a zero. -/
def baseLetter? (base : Nat) : Option Char :=
  match base with
  | 2 => some 'b'
  | 8 => some 'o'
  | 16 => some 'x'
  | _ => none

/-- The text without the prefix that names its base. -/
def withoutPrefix (base : Nat) (s : List Char) : List Char :=
  match s with
  | zero :: c :: rest =>
    if Text.digitValue? zero = some 0 && baseLetter? base = some c.toLower then
      if rest.head? = some '_' then rest.tail else rest
    else s
  | _ => s

/-- Whether a text is short enough to be converted. -/
def isConvertible (base count : Nat) : Bool :=
  count ≤ mostDigits || (baseLetter? base).isSome

/-- The size of a whole number, behind its sign. -/
def wholeSize? (base : Nat) (s : List Char) : Option Nat :=
  let groups := Text.cut '_' (withoutPrefix base s)
  let s := groups.flatten
  if groups.any List.isEmpty || !isConvertible base s.length then none
  else
    match s.mapM baseDigit? with
    | some digits => if digits.all (· < base) then some (Text.numeral base digits) else none
    | none => none

/-- The whole number that a text stands for in a base. -/
def readWhole? (base : Nat) (s : List Char) : Option Int :=
  match Text.trimBy Text.isSpacing s with
  | '-' :: rest => (wholeSize? base rest).map fun n => -(n : Int)
  | '+' :: rest => (wholeSize? base rest).map fun n => (n : Int)
  | s => (wholeSize? base s).map fun n => (n : Int)

end ToolHost.Decimal
