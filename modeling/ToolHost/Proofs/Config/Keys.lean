import ToolHost.Value
import Mathlib.Tactic

/-!
# The keys of mappings

Two scalars are the same key if they stand for the same number, for the same moment, or are the same
in every respect. So every scalar has one key that it is, and what stands at a key after something
was put there can be said for keys of all kinds. For floating point numbers this rests on their
sizes: no two of one sign have the same size.
-/
namespace ToolHost

namespace Decimal.Binary

variable {x y : Binary} {i : Int}

/-- The size of a finite number, in units of the least one, which is `2 ^ (-1074)`. -/
def units (x : Binary) : Nat :=
  if x.exponentField = 0 then x.fractionField
  else (x.fractionField + twoTo 52) * twoTo (x.exponentField - 1)

/-- How many of these units are a whole one. -/
def one : Nat := twoTo 1074

theorem twoTo_pos (n : Nat) : 0 < twoTo n := Nat.pow_pos (by decide)

theorem twoTo_add (m n : Nat) : twoTo (m + n) = twoTo m * twoTo n := Nat.pow_add ..

theorem fractionField_lt (x : Binary) : x.fractionField < twoTo 52 :=
  Nat.mod_lt _ (twoTo_pos 52)

theorem magnitude_units (x : Binary) : x.magnitude.1 * one = x.units * x.magnitude.2 := by
  have shift (m e : Nat) (q : Int) (hq : (e : Int) = q + 1074) :
      m * twoTo q.toNat * one = m * twoTo e * twoTo (-q).toNat := by
    rw [one, Nat.mul_assoc, Nat.mul_assoc, ← twoTo_add, ← twoTo_add]
    congr 2
    omega
  by_cases he : x.exponentField = 0
  · have hzero : twoTo 0 = 1 := rfl
    simpa [magnitude, significand, units, he, hzero] using
      shift x.fractionField 0 (-1074) (by omega)
  · simpa [magnitude, significand, units, he] using
      shift (x.fractionField + twoTo 52) (x.exponentField - 1) (x.exponentField - 1075) (by omega)

/-- Numbers of the same size have the same exponent and the same fraction. -/
theorem fields_of_units (h : x.units = y.units) :
    x.exponentField = y.exponentField ∧ x.fractionField = y.fractionField := by
  -- Of two exponents the greater one belongs to the greater number.
  have grows {a b : Binary} (hlt : a.exponentField < b.exponentField) : a.units < b.units := by
    have hb : twoTo 52 * twoTo (b.exponentField - 1) ≤ b.units := by
      rw [units, if_neg (by omega)]
      exact Nat.mul_le_mul_right _ (Nat.le_add_left _ _)
    refine Nat.lt_of_lt_of_le ?_ hb
    rw [units]
    split
    · exact Nat.lt_of_lt_of_le a.fractionField_lt (Nat.le_mul_of_pos_right _ (twoTo_pos _))
    · obtain ⟨d, hd⟩ : ∃ d, b.exponentField - 1 = a.exponentField - 1 + 1 + d :=
        ⟨b.exponentField - 1 - a.exponentField, by omega⟩
      have ha := a.fractionField_lt
      calc (a.fractionField + twoTo 52) * twoTo (a.exponentField - 1)
          < (twoTo 52 * 2) * twoTo (a.exponentField - 1) :=
            Nat.mul_lt_mul_of_pos_right (by omega) (twoTo_pos _)
        _ = twoTo 52 * twoTo (a.exponentField - 1 + 1) := by
            rw [twoTo_add _ 1, Nat.mul_assoc, Nat.mul_comm 2]
            rfl
        _ ≤ twoTo 52 * twoTo (b.exponentField - 1) := by
            rw [hd, twoTo_add _ d]
            exact Nat.mul_le_mul_left _ (Nat.le_mul_of_pos_right _ (twoTo_pos d))
  rcases Nat.lt_trichotomy x.exponentField y.exponentField with hlt | heq | hlt
  · exact absurd h (Nat.ne_of_lt (grows hlt))
  · refine ⟨heq, ?_⟩
    rw [units, units, ← heq] at h
    split at h
    · exact h
    · have := Nat.eq_of_mul_eq_mul_right (twoTo_pos _) h
      omega
  · exact absurd h (Nat.ne_of_gt (grows hlt))

/-- A number is its sign and its size. -/
theorem eq_of_units (sign : x.isNegative = y.isNegative) (h : x.units = y.units) : x = y := by
  obtain ⟨he, hf⟩ := fields_of_units h
  have hx := x.bits.toNat_lt
  have hy := y.bits.toNat_lt
  simp only [exponentField, fractionField, isNegative, twoTo, Nat.pow_eq, ge_iff_le,
    decide_eq_decide] at he hf sign
  obtain ⟨bx⟩ := x
  obtain ⟨bz⟩ := y
  congr 1
  exact UInt64.toNat_inj.mp (by simp only at *; omega)

theorem isZero_iff : x.isZero = true ↔ x.isFinite = true ∧ x.units = 0 := by
  by_cases he : x.exponentField = 0
  · simp [isZero, significand, units, he]
  · have hpos := twoTo_pos 52
    have hgrown := twoTo_pos (x.exponentField - 1)
    simp only [isZero, significand, units, he, if_false, Bool.and_eq_true, decide_eq_true_eq,
      Nat.mul_eq_zero]
    omega

/-- A number is an integer if it has the integer's size and, unless it is zero, its sign. -/
theorem isInt_iff : x.isInt i = true ↔ x.isFinite = true ∧ x.units = i.natAbs * one ∧
    (x.units = 0 ∨ x.isNegative = decide (i < 0)) := by
  have hden : 0 < x.magnitude.2 := twoTo_pos _
  have hone : 0 < one := twoTo_pos _
  have hmag := x.magnitude_units
  have hsize : x.magnitude.1 = i.natAbs * x.magnitude.2 ↔ x.units = i.natAbs * one := by
    constructor
    · intro h
      rw [h] at hmag
      exact Nat.eq_of_mul_eq_mul_right hden (by rw [← hmag]; ring)
    · intro h
      rw [h] at hmag
      exact Nat.eq_of_mul_eq_mul_right hone (by rw [hmag]; ring)
  have hzero : x.magnitude.1 = 0 ↔ x.units = 0 := by
    constructor
    · intro h
      rw [h, Nat.zero_mul] at hmag
      exact (Nat.mul_eq_zero.mp hmag.symm).resolve_right (by omega)
    · intro h
      rw [h, Nat.zero_mul] at hmag
      exact (Nat.mul_eq_zero.mp hmag).resolve_right (by omega)
  rw [isInt]
  simp only [Bool.and_eq_true, Bool.or_eq_true, decide_eq_true_eq, beq_iff_eq, hsize, hzero,
    and_assoc]

/-- The integer of a sign and a size. -/
def signed (isNegative : Bool) (n : Nat) : Int := if isNegative then -n else n

/-- The integer that a number is, if it is one. -/
def toInt? (x : Binary) : Option Int :=
  if x.isFinite && x.units % one = 0 then some (signed x.isNegative (x.units / one)) else none

theorem toInt?_eq_some : x.toInt? = some i ↔ x.isInt i = true := by
  have hone : 0 < one := twoTo_pos _
  rw [isInt_iff, toInt?]
  constructor
  · intro h
    obtain ⟨hwhole, hi⟩ := Option.ite_none_right_eq_some.mp h
    simp only [Bool.and_eq_true, decide_eq_true_eq] at hwhole
    have hunits : x.units = x.units / one * one :=
      (Nat.div_mul_cancel (Nat.dvd_of_mod_eq_zero hwhole.2)).symm
    generalize x.units / one = n at hunits hi
    obtain rfl := Option.some.inj hi
    refine ⟨hwhole.1, ?_, ?_⟩
    · cases x.isNegative <;> simpa [signed] using hunits
    · rcases Nat.eq_zero_or_pos n with rfl | hpos
      · exact .inl (by simpa using hunits)
      · exact .inr (by cases x.isNegative <;> simp [signed]; omega)
  · rintro ⟨hfinite, hunits, hsign⟩
    have hdiv : x.units / one = i.natAbs := by rw [hunits, Nat.mul_div_cancel _ hone]
    have hmod : x.units % one = 0 := by rw [hunits, Nat.mul_mod_left]
    rw [if_pos (by simp [hfinite, hmod]), hdiv, Option.some_inj, signed]
    rcases hsign with hz | hsign
    · have hi := Nat.mul_eq_zero.mp (hunits ▸ hz)
      split <;> omega
    · rw [hsign]
      by_cases hi : i < 0
      · simp only [hi, decide_true, if_true]
        omega
      · simp only [hi, decide_false, Bool.false_eq_true, if_false]
        omega

/-- Numbers that are integers are told apart by these, but for the two zeros. -/
theorem eq_or_zero_of_toInt? (hx : x.toInt? = some i) (hy : y.toInt? = some i) :
    x = y ∨ x.isZero = true ∧ y.isZero = true := by
  obtain ⟨hxfinite, hxunits, hxsign⟩ := isInt_iff.mp (toInt?_eq_some.mp hx)
  obtain ⟨hyfinite, hyunits, hysign⟩ := isInt_iff.mp (toInt?_eq_some.mp hy)
  have hunits : x.units = y.units := hxunits.trans hyunits.symm
  by_cases hz : x.units = 0
  · exact .inr ⟨isZero_iff.mpr ⟨hxfinite, hz⟩, isZero_iff.mpr ⟨hyfinite, hunits ▸ hz⟩⟩
  · have hsign := (hxsign.resolve_left hz).trans (hysign.resolve_left (hunits ▸ hz)).symm
    exact .inl (eq_of_units hsign hunits)

theorem toInt?_of_isZero (h : x.isZero = true) : x.toInt? = some 0 := by
  obtain ⟨hfinite, hz⟩ := isZero_iff.mp h
  exact toInt?_eq_some.mpr (isInt_iff.mpr ⟨hfinite, by simpa using hz, .inl hz⟩)

end Decimal.Binary

/-- What a scalar is as a key. -/
inductive Key
  | number (i : Int)
  | moment (microseconds : Int)
  | itself (s : Scalar)

namespace Scalar

/-- The key that a scalar is. -/
def key : Scalar → Key
  | bool b => .number (if b then 1 else 0)
  | int i => .number i
  | float x => (x.toInt?).elim (.itself (.float x)) .number
  | stamp t => (t.moment?).elim (.itself (.stamp t)) .moment
  | s => .itself s

theorem key_float_eq_number {x : Decimal.Binary} {i : Int} :
    (float x).key = .number i ↔ x.isInt i = true := by
  rw [← Decimal.Binary.toInt?_eq_some, key]
  cases x.toInt? <;> simp

theorem same_floats (x y : Decimal.Binary) :
    (float x).same (float y) = true ↔ (float x).key = (float y).key := by
  rw [same, key, key]
  cases hx : x.toInt? with
  | none =>
    have hzero : x.isZero = false := by
      by_contra hz
      rw [Decimal.Binary.toInt?_of_isZero (by simpa using hz)] at hx
      cases hx
    cases hy : y.toInt? with
    | none => simp [hzero]
    | some j => simpa [hzero] using fun h => by simp [← h, hx] at hy
  | some i =>
    cases hy : y.toInt? with
    | none =>
      have hzero : y.isZero = false := by
        by_contra hz
        rw [Decimal.Binary.toInt?_of_isZero (by simpa using hz)] at hy
        cases hy
      simpa [hzero] using fun h => by simp [h, hy] at hx
    | some j =>
      simp only [Option.elim_some, Key.number.injEq, Bool.or_eq_true, decide_eq_true_eq,
        Bool.and_eq_true]
      constructor
      · rintro (rfl | ⟨hxzero, hyzero⟩)
        · exact Option.some.inj (hx.symm.trans hy)
        · rw [Decimal.Binary.toInt?_of_isZero hxzero] at hx
          rw [Decimal.Binary.toInt?_of_isZero hyzero] at hy
          exact Option.some.inj (hx.symm.trans hy)
      · rintro rfl
        exact Decimal.Binary.eq_or_zero_of_toInt? hx hy

theorem same_stamps (t u : Stamp) :
    (stamp t).same (stamp u) = true ↔ (stamp t).key = (stamp u).key := by
  rw [same, Stamp.same, key, key]
  cases ht : t.moment? <;> cases hu : u.moment? <;> simp
  · rintro rfl
    simp [ht] at hu
  · rintro rfl
    simp [ht] at hu

theorem key_float_cases (x : Decimal.Binary) :
    (float x).key = .itself (float x) ∨ ∃ i, (float x).key = .number i := by
  rw [key]
  cases x.toInt? <;> simp

theorem key_stamp_cases (t : Stamp) :
    (stamp t).key = .itself (stamp t) ∨ ∃ m, (stamp t).key = .moment m := by
  rw [key]
  cases t.moment? <;> simp

/-- A truth value or an integer is the same key as every scalar that is its number. -/
theorem same_of_asInt? {a : Scalar} {i : Int} (ha : a.asInt? = some i) (b : Scalar) :
    (a.same b = true ↔ b.key = .number i) ∧ (b.same a = true ↔ b.key = .number i) := by
  cases a with
  | bool | int =>
    cases b with
    | float x => simp_all [same, key_float_eq_number]
    | stamp t => rcases key_stamp_cases t with h | ⟨m, h⟩ <;> simp_all [same, asInt?]
    | _ => simp_all [same, asInt?, key, eq_comm]
  | _ => cases ha

/-- A floating point number is the same key as no scalar that is no number. -/
theorem float_not_same (x : Decimal.Binary) {b : Scalar} (hb : b.asInt? = none)
    (hfloat : ∀ y, b ≠ float y) :
    ((float x).same b = true ↔ (float x).key = b.key) ∧
      (b.same (float x) = true ↔ b.key = (float x).key) := by
  cases b with
  | bool | int => cases hb
  | float y => exact absurd rfl (hfloat y)
  | stamp t =>
    rcases key_float_cases x with hx | ⟨i, hx⟩ <;> rcases key_stamp_cases t with ht | ⟨m, ht⟩ <;>
      simp [same, asInt?, hx, ht]
  | null | text | octets =>
    rcases key_float_cases x with hx | ⟨i, hx⟩ <;> rw [hx] <;> simp [same, asInt?, key]

/-- A moment is the same key as no scalar of another kind. -/
theorem stamp_not_same (t : Stamp) {b : Scalar} (hb : b.key = .itself b)
    (hstamp : ∀ u, b ≠ stamp u) (hfloat : ∀ y, b ≠ float y) :
    ((stamp t).same b = true ↔ (stamp t).key = b.key) ∧
      (b.same (stamp t) = true ↔ b.key = (stamp t).key) := by
  cases b with
  | bool | int => cases hb
  | float y => exact absurd rfl (hfloat y)
  | stamp u => exact absurd rfl (hstamp u)
  | null | text | octets =>
    rcases key_stamp_cases t with ht | ⟨m, ht⟩ <;> rw [ht] <;> simp [same, asInt?, key]

/-- Two scalars are the same key if they are one key. -/
theorem same_iff (a b : Scalar) : a.same b = true ↔ a.key = b.key := by
  cases a with
  | bool | int => exact (same_of_asInt? rfl b).1.trans eq_comm
  | float x =>
    cases b with
    | bool | int => exact (same_of_asInt? rfl (.float x)).2
    | float y => exact same_floats x y
    | _ => exact (float_not_same x rfl (by simp)).1
  | stamp t =>
    cases b with
    | bool | int => exact (same_of_asInt? rfl (.stamp t)).2
    | float y => exact (float_not_same y rfl (by simp)).2
    | stamp u => exact same_stamps t u
    | _ => exact (stamp_not_same t rfl (by simp) (by simp)).1
  | null | text | octets =>
    cases b with
    | bool | int => exact (same_of_asInt? rfl _).2
    | float y => exact (float_not_same y rfl (by simp)).2
    | stamp u => exact (stamp_not_same u rfl (by simp) (by simp)).2
    | _ => simp [same, asInt?, key]

theorem same_comm (a b : Scalar) : a.same b = b.same a :=
  Bool.eq_iff_iff.mpr ((same_iff a b).trans (eq_comm.trans (same_iff b a).symm))

/-- Scalars that are the same key are the same key as the same others. -/
theorem same_congr {a b : Scalar} (h : a.same b = true) (c : Scalar) : a.same c = b.same c := by
  rw [Bool.eq_iff_iff, same_iff, same_iff, (same_iff a b).mp h]

end Scalar

namespace Entries

/-- What stands at a key after something was put at another one or at the same. -/
theorem get?_put (entries : Entries) (key : Scalar) (v : Value) (k : Scalar) :
    (entries.put key v).get? k = if key.same k then some v else entries.get? k := by
  induction entries with
  | nil => by_cases h : key.same k <;> simp [put, get?, h]
  | cons e entries ih =>
    obtain ⟨old, w⟩ := e
    rw [put]
    by_cases hsame : old.same key
    · rw [if_pos hsame]
      by_cases h : old.same k <;> simp [get?, h, ← Scalar.same_congr hsame]
    · rw [if_neg hsame]
      simp only [get?, List.find?_cons] at ih ⊢
      by_cases h : old.same k
      · have hkey : key.same k = false := by
          rw [Scalar.same_comm, ← Scalar.same_congr h]
          simpa using hsame
        simp [h, hkey]
      · simpa [h] using ih

end Entries

end ToolHost
