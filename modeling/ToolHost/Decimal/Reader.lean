import ToolHost.Decimal.Binary
import ToolHost.Text.Blank
import ToolHost.Text.Digit

/-!
# Reading numbers

The text of a number: white space around it, a sign, digits of any script with a point among them,
an exponent, and the names of infinity and of not-a-number in any case. An underscore may stand
between two digits.
-/
namespace ToolHost.Decimal

/-- A run of digits, with single underscores between digits: the values of the digits, and the
rest. `inside` tells whether a digit stands before the text. -/
def digitsFrom (inside : Bool) : List Char → List Nat × List Char
  | [] => ([], [])
  | '_' :: c :: rest =>
    match if inside then Text.digitValue? c else none with
    | none => ([], '_' :: c :: rest)
    | some d =>
      let (ds, tail) := digitsFrom true rest
      (d :: ds, tail)
  | c :: rest =>
    match Text.digitValue? c with
    | none => ([], c :: rest)
    | some d =>
      let (ds, tail) := digitsFrom true rest
      (d :: ds, tail)

/-- A run of digits at the start of a text, and the rest of the text. -/
def digitRun (s : List Char) : List Nat × List Char := digitsFrom false s

/-- The nearest number to `digits · 10 ^ exponent`. Exponents beyond any number are not
computed with. -/
def Binary.ofDecimal (digits : Nat) (exponent : Int) : Binary :=
  let length : Int := (Nat.repr digits).length
  if digits = 0 || exponent + length < -400 then .zero
  else if exponent + length > 400 then .infinity
  else .ofQuotient (digits * tenTo exponent.toNat) (tenTo (-exponent).toNat)

/-- Splits off a sign; true is minus. -/
def sign : List Char → Bool × List Char
  | '-' :: rest => (true, rest)
  | '+' :: rest => (false, rest)
  | s => (false, s)

/-- An exponent, behind its letter. -/
def exponent? (s : List Char) : Option Int :=
  let (negative, s) := sign s
  match digitRun s with
  | ([], _) => none
  | (ds, []) => some (if negative then -(Text.numeral 10 ds : Int) else Text.numeral 10 ds)
  | _ => none

/-- The size of a number. -/
def size? (s : List Char) : Option Binary :=
  let name := String.ofList (s.map Char.toLower)
  if name = "inf" || name = "infinity" then some .infinity
  else if name = "nan" then some .nan
  else
    let (whole, rest) := digitRun s
    let (places, rest) :=
      match rest with
      | '.' :: more => digitRun more
      | _ => ([], rest)
    if whole.isEmpty && places.isEmpty then none
    else
      let number (e : Int) :=
        Binary.ofDecimal (Text.numeral 10 (whole ++ places)) (e - places.length)
      match rest with
      | [] => some (number 0)
      | c :: more => if c = 'e' || c = 'E' then (exponent? more).map number else none

/-- The number a text stands for. -/
def Binary.read? (s : String) : Option Binary :=
  let (negative, rest) := sign (Text.trimBy Text.isSpacing s.toList)
  (size? rest).map fun x => if negative then x.neg else x

end ToolHost.Decimal
