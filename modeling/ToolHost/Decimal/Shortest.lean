import ToolHost.Decimal.Binary

/-!
# Shortest decimals

A floating point number is written with the fewest digits that read back as the same number, and
of those with the ones nearest to it. How the digits are laid out is a record of its own.
-/
namespace ToolHost.Decimal

/-- A positive decimal `digits · 10 ^ exponent`. -/
structure Scaled where
  digits : Nat
  exponent : Int
  deriving DecidableEq, Repr

/-- The sizes that read back as a given number: between two bounds over a common denominator, the
bounds included or not. -/
structure Interval where
  low : Nat
  value : Nat
  high : Nat
  den : Nat
  closed : Bool

/-- The sizes that round to `m · 2 ^ q`. Below a power of two the next number is half as far. -/
def Binary.interval (x : Binary) : Interval :=
  let (m, q) := x.significand
  let up := twoTo q.toNat
  let below := if m = twoTo 52 && q > -1074 then 1 else 2
  ⟨(4 * m - below) * up, 4 * m * up, (4 * m + 2) * up, 4 * twoTo (-q).toNat, m % 2 = 0⟩

namespace Interval

/-- The two sides of a comparison of a decimal with a bound, as naturals. -/
def sides (i : Interval) (d : Scaled) (bound : Nat) : Nat × Nat :=
  (d.digits * tenTo d.exponent.toNat * i.den, bound * tenTo (-d.exponent).toNat)

def contains (i : Interval) (d : Scaled) : Bool :=
  let (a, low) := i.sides d i.low
  let (_, high) := i.sides d i.high
  if i.closed then low ≤ a && a ≤ high else low < a && a < high

/-- The decimal of the given exponent just below the value. -/
def floorAt (i : Interval) (exponent : Int) : Scaled :=
  ⟨i.value * tenTo (-exponent).toNat / (i.den * tenTo exponent.toNat), exponent⟩

/-- Twice the distance of a decimal below the value, against one unit of its last place. -/
def remainder (i : Interval) (exponent : Int) : Nat × Nat :=
  let unit := i.den * tenTo exponent.toNat
  (2 * (i.value * tenTo (-exponent).toNat % unit), unit)

/-- The decimal of the given exponent that lies in the interval and nearest to the value. -/
def nearest? (i : Interval) (exponent : Int) : Option Scaled :=
  let below := i.floorAt exponent
  let above : Scaled := ⟨below.digits + 1, exponent⟩
  let (twice, unit) := i.remainder exponent
  let preferBelow := twice < unit || (twice = unit && below.digits % 2 = 0)
  match i.contains below && below.digits != 0, i.contains above with
  | true, true => some (if preferBelow then below else above)
  | true, false => some below
  | false, true => some above
  | false, false => none

/-- The exponent of the first digit of the value. -/
def leading (i : Interval) : Int :=
  if i.den ≤ i.value then ((Nat.toDigits 10 (i.value / i.den)).length : Int) - 1
  else
    let zeros := (Nat.toDigits 10 (i.den / i.value)).length
    if i.den ≤ i.value * tenTo (zeros - 1) then -((zeros : Int) - 1) else -(zeros : Int)

/-- The first hit on the grids of `count`, `count + 1`, … digits. -/
def search (i : Interval) (count : Nat) : Nat → Option Scaled
  | 0 => none
  | tries + 1 =>
    match i.nearest? (i.leading - count + 1) with
    | some d => some d
    | none => i.search (count + 1) tries

end Interval

/-- A decimal without zeros at its end. -/
def Scaled.trimmed (d : Scaled) : Scaled :=
  let zeros := ((Nat.toDigits 10 d.digits).reverse.takeWhile (· == '0')).length
  if d.digits = 0 then d else ⟨d.digits / tenTo zeros, d.exponent + zeros⟩

/-- The shortest decimal that reads back as the size of a number; none for zero and what is not
finite. Seventeen digits always suffice. -/
def Binary.shortest? (x : Binary) : Option Scaled :=
  if x.isFinite && !x.isZero then (x.interval.search 1 17).map Scaled.trimmed else none

/-- How digits are laid out. -/
structure Layout where
  /-- The least exponent of the first digit that is written positionally. -/
  least : Int
  /-- The greatest one. -/
  greatest : Int
  /-- What a positional number without places ends with. -/
  integral : String
  /-- What stands before the exponent. -/
  mark : String
  /-- The sign of an exponent that is not negative. -/
  plus : String
  /-- The least number of digits of the exponent. -/
  exponentWidth : Nat
  infinity : String
  nan : String

def Layout.exponent (l : Layout) (e : Int) : String :=
  let digits := (Nat.repr e.natAbs).toList
  let padded := List.replicate (l.exponentWidth - digits.length) '0' ++ digits
  l.mark ++ (if e < 0 then "-" else l.plus) ++ String.ofList padded

/-- A positive decimal in the layout. -/
def Layout.write (l : Layout) (d : Scaled) : String :=
  let digits := (Nat.repr d.digits).toList
  let count : Int := digits.length
  let first := d.exponent + count - 1
  if first < l.least || l.greatest < first then
    let places := if digits.length ≤ 1 then [] else '.' :: digits.drop 1
    String.ofList (digits.take 1 ++ places) ++ l.exponent first
  else if first < 0 then
    String.ofList ('0' :: '.' :: List.replicate (-first - 1).toNat '0' ++ digits)
  else if d.exponent < 0 then
    let whole := (first + 1).toNat
    String.ofList (digits.take whole ++ '.' :: digits.drop whole)
  else
    String.ofList (digits ++ List.replicate d.exponent.toNat '0') ++ l.integral

/-- A number in the layout. -/
def Layout.render (l : Layout) (x : Binary) : String :=
  let sign := if x.isNegative then "-" else ""
  if x.isNaN then l.nan
  else if !x.isFinite then sign ++ l.infinity
  else
    match x.shortest? with
    | none => sign ++ "0" ++ l.integral
    | some d => sign ++ l.write d

end ToolHost.Decimal
