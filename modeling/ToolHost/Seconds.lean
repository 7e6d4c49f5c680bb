import ToolHost.Decimal.Fixed

/-!
# Seconds

Points and lengths of time in seconds. They are floating point numbers, so a sum is rounded: of two
times that should be the same one may be the earlier.
-/
namespace ToolHost

open Decimal (Binary)

/-- A point or a length of time. -/
abbrev Seconds := Binary

namespace Seconds

/-- The time some length after another. -/
def after (start length : Seconds) : Seconds := .ofFloat (start.toFloat + length.toFloat)

def isBefore (a b : Seconds) : Bool := a.toFloat < b.toFloat

/-- Whether a length is more than none. -/
def isPositive (length : Seconds) : Bool := Binary.zero.toFloat < length.toFloat

/-- What cannot be told apart from now: a billionth of a second. -/
def resolution : Seconds := .ofQuotient 1 1000000000

/-- Whether a time has come. -/
def isDue (time now : Seconds) : Bool := time.isBefore (now.after resolution)

/-- The later one of two times. -/
def latest (a b : Seconds) : Seconds := if a.isBefore b then b else a

/-- A time in whole milliseconds; a half goes to the even neighbour. -/
def milliseconds (time : Seconds) : Nat :=
  let (num, den) := (Binary.ofFloat (time.toFloat * 1000)).magnitude
  Decimal.roundQuotient num den

end Seconds

end ToolHost
