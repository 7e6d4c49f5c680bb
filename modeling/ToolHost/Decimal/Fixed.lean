import ToolHost.Decimal.Binary

/-!
# Decimals of fixed places

A number rounded to a given count of places; an exact half goes to the even neighbour.
-/
namespace ToolHost.Decimal

/-- A quotient rounded to the nearest natural, a half to the even one. -/
def roundQuotient (num den : Nat) : Nat :=
  let whole := num / den
  let rest := num % den
  if 2 * rest > den || (2 * rest = den && whole % 2 = 1) then whole + 1 else whole

theorem roundQuotient_near (num den : Nat) (h : 0 < den) :
    2 * num ≤ 2 * (roundQuotient num den * den) + den ∧
      2 * (roundQuotient num den * den) ≤ 2 * num + den := by
  have hd := Nat.div_add_mod num den
  have hr := Nat.mod_lt num h
  simp only [roundQuotient]
  generalize num / den = w at *
  generalize num % den = r at *
  subst hd
  split
  · next hc =>
    simp only [Bool.or_eq_true, decide_eq_true_eq, Bool.and_eq_true] at hc
    rw [Nat.add_mul, Nat.one_mul, Nat.mul_comm w den]
    omega
  · next hc =>
    simp only [Bool.or_eq_true, decide_eq_true_eq, Bool.and_eq_true, not_or] at hc
    rw [Nat.mul_comm w den]
    omega

/-- A number with the given count of places. -/
def Binary.fixed (x : Binary) (places : Nat) : String :=
  let sign := if x.isNegative then "-" else ""
  if x.isNaN then "nan"
  else if !x.isFinite then sign ++ "inf"
  else
    let (num, den) := x.magnitude
    let n := roundQuotient (num * tenTo places) den
    let digits := (Nat.repr n).toList
    let digits := List.replicate (places + 1 - digits.length) '0' ++ digits
    let whole := digits.length - places
    sign ++ String.ofList
      (digits.take whole ++ if places = 0 then [] else '.' :: digits.drop whole)

end ToolHost.Decimal
