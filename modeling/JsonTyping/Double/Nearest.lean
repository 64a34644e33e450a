import JsonTyping.Double.Basic
import JsonTyping.Numeral.Digits

/-!
# Rounding to the nearest double

`nearestRank num den` is the rank of the double nearest to the nonnegative rational `num / den`,
a tie going to the even rank. It first finds the rank of the largest double that is not above the
rational and then looks on which side of the middle of the gap the rational lies. A rank that
reaches `rankBound` means that the number is too large for a finite double.

Integers of 64 bits never overflow (`nearestRank_lt_rankBound`), so `Double.ofInt` is total on
them.
-/

namespace JsonTyping

/-- The rank of the largest double that is at most `units` units. -/
def floorRank (units : Nat) : Nat :=
  let spacing := units.log2 - 52
  spacing * ranksPerBlock + units >>> spacing

/--
Whether a number is rounded up: `excess` is twice its distance from the rank below, `gap` the
distance between the ranks. In the middle the even rank wins.
-/
def roundsUp (below excess gap : Nat) : Bool :=
  gap < excess || (excess == gap && below % 2 == 1)

/-- The rank of the double nearest to `num / den`, a tie going to the even rank. -/
def nearestRank (num den : Nat) : Nat :=
  let scaled := num * unitsPerOne
  let below := floorRank (scaled / den)
  let excess := 2 * (scaled - magnitudeOfRank below * den)
  let gap := (magnitudeOfRank (below + 1) - magnitudeOfRank below) * den
  below + (roundsUp below excess gap).toNat

theorem nearestRank_le_succ_floorRank (num den : Nat) :
    nearestRank num den ≤ floorRank (num * unitsPerOne / den) + 1 :=
  Nat.add_le_add_left (Bool.toNat_le _) _

theorem shiftRight_log2_lt (n : Nat) : n >>> (n.log2 - 52) < 2 * ranksPerBlock := by
  have pow : 2 * ranksPerBlock = 2 ^ 53 := by decide
  rw [Nat.shiftRight_eq_div_pow, pow]
  refine (Nat.div_lt_iff_lt_mul (Nat.two_pow_pos _)).2 ?_
  rw [← Nat.pow_add]
  exact Nat.lt_of_lt_of_le Nat.lt_log2_self (Nat.pow_le_pow_right (by decide) (by omega))

theorem floorRank_le (units : Nat) :
    floorRank units ≤ (units.log2 - 52) * ranksPerBlock + 2 * ranksPerBlock :=
  Nat.add_le_add_left (Nat.le_of_lt (shiftRight_log2_lt units)) _

theorem log2_mul_unitsPerOne_lt {n : Nat} (h : n < 1 <<< 65) :
    (n * unitsPerOne).log2 < 65 + unitExponent := by
  by_cases zero : n * unitsPerOne = 0
  · rw [zero, Nat.log2_zero]
    exact Nat.add_pos_left (by decide) _
  · refine (Nat.log2_lt zero).2 ?_
    rw [Nat.pow_add, ← Nat.one_shiftLeft unitExponent, ← Nat.one_shiftLeft 65]
    exact Nat.mul_lt_mul_of_pos_right h unitsPerOne_pos

/-- Rounding a 64-bit magnitude stays finite. -/
theorem nearestRank_lt_rankBound {n : Nat} (h : n < 1 <<< 65) : nearestRank n 1 < rankBound := by
  have le := nearestRank_le_succ_floorRank n 1
  rw [Nat.div_one] at le
  have le' := floorRank_le (n * unitsPerOne)
  have small := log2_mul_unitsPerOne_lt h
  rw [unitExponent_eq] at small
  have : ((n * unitsPerOne).log2 - 52) * ranksPerBlock ≤ 1086 * ranksPerBlock :=
    Nat.mul_le_mul_right _ (by omega)
  have : 1086 * ranksPerBlock + 2 * ranksPerBlock + 1 < rankBound := by decide
  omega

namespace Double

/-- The double nearest to `± num / den`, or none if that is too large to be finite. -/
def nearest? (negative : Bool) (num den : Nat) : Option Double :=
  if h : nearestRank num den < rankBound then some ⟨negative, nearestRank num den, h⟩ else none

/-- The double nearest to an integer of at most 64 bits. -/
def ofInt (n : Int) (small : n.natAbs < 1 <<< 65) : Double :=
  ⟨n < 0, nearestRank n.natAbs 1, nearestRank_lt_rankBound small⟩

end Double

/-- A decimal number: a sign, the digits as a whole number, and a power of ten. -/
structure Decimal where
  negative : Bool
  digits : Nat
  exponent : Int
deriving DecidableEq, Repr

namespace Decimal

/--
The double nearest to a decimal, or none if that is too large to be finite. Exponents that decide
the outcome alone are settled first, so that no power of ten is larger than the digits call for.
-/
def toDouble? (d : Decimal) : Option Double :=
  if d.digits = 0 then
    some (.zero d.negative)
  else if d.exponent > 400 then
    none
  else if (d.digits.log2 : Int) + 3 * d.exponent < -1200 then
    some (.zero d.negative)
  else
    Double.nearest? d.negative (d.digits * tenTo d.exponent.toNat) (tenTo (-d.exponent).toNat)

end Decimal

end JsonTyping
