/-!
# Floating point numbers as exact values

A finite number of 64 bits is `m · 2 ^ q` with natural `m` and a sign. Numbers are kept by their
bits, which tells the two zeros apart and makes a not-a-number equal to itself.
-/
namespace ToolHost.Decimal

/-- The power `2 ^ n`. -/
def twoTo (n : Nat) : Nat := Nat.pow 2 n

/-- The power `10 ^ n`. -/
def tenTo (n : Nat) : Nat := Nat.pow 10 n

/-- A floating point number of 64 bits. -/
structure Binary where
  bits : UInt64
  deriving DecidableEq, Repr, Inhabited

namespace Binary

/-- The one not-a-number in use. -/
def nan : Binary := ⟨0x7FF8000000000000⟩

def infinity : Binary := ⟨0x7FF0000000000000⟩

def zero : Binary := ⟨0⟩

def ofFloat (x : Float) : Binary := if x.isNaN then nan else ⟨x.toBits⟩

def toFloat (x : Binary) : Float := Float.ofBits x.bits

def isNegative (x : Binary) : Bool := x.bits.toNat ≥ twoTo 63

def neg (x : Binary) : Binary := if x = nan then nan else ⟨x.bits ^^^ 0x8000000000000000⟩

/-- The eleven bits of the exponent. -/
def exponentField (x : Binary) : Nat := x.bits.toNat / twoTo 52 % twoTo 11

/-- The fifty-two bits of the fraction. -/
def fractionField (x : Binary) : Nat := x.bits.toNat % twoTo 52

def isFinite (x : Binary) : Bool := x.exponentField < 2047

def isNaN (x : Binary) : Bool := x.exponentField = 2047 && x.fractionField ≠ 0

/-- `m` and `q` of the size `m · 2 ^ q` of a finite number. -/
def significand (x : Binary) : Nat × Int :=
  if x.exponentField = 0 then (x.fractionField, -1074)
  else (x.fractionField + twoTo 52, x.exponentField - 1075)

def isZero (x : Binary) : Bool := x.isFinite && x.significand.1 = 0

/-- The size of a finite number as a fraction of naturals. -/
def magnitude (x : Binary) : Nat × Nat :=
  let (m, q) := x.significand
  (m * twoTo q.toNat, twoTo (-q).toNat)

/-- The number of least size above or below which a quotient of naturals comes to lie: the nearest
number, a tie going to the even significand. -/
def ofQuotient (num den : Nat) : Binary :=
  if num = 0 then zero
  else
    -- The exponent at which the quotient has 53 bits, or the least one there is.
    let estimate : Int := (num.log2 : Int) - den.log2 - 53
    let scaled (q : Int) : Nat × Nat := (num * twoTo (-q).toNat, den * twoTo q.toNat)
    let fits (q : Int) : Bool := (scaled q).1 < twoTo 53 * (scaled q).2
    let q := max (-1074) (if fits estimate then estimate else estimate + 1)
    let (n, d) := scaled q
    let whole := n / d
    let rest := n % d
    let m := if 2 * rest > d || (2 * rest = d && whole % 2 = 1) then whole + 1 else whole
    let (m, q) := if m = twoTo 53 then (twoTo 52, q + 1) else (m, q)
    if q > 971 then infinity
    else if m < twoTo 52 then ⟨m.toUInt64⟩
    else ⟨((q + 1075).toNat * twoTo 52 + (m - twoTo 52)).toUInt64⟩

def ofInt (i : Int) : Binary :=
  let x := ofQuotient i.natAbs 1
  if i < 0 then x.neg else x

/-- Whether a finite number is the given integer. -/
def isInt (x : Binary) (i : Int) : Bool :=
  let (num, den) := x.magnitude
  x.isFinite && num = i.natAbs * den && (num = 0 || x.isNegative == decide (i < 0))

end Binary

end ToolHost.Decimal
