/-!
# Finite binary64 numbers

A finite double is a sign and a *rank*: the number of nonnegative doubles below its magnitude.
The rank fixes the magnitude, because the nonnegative doubles are equally spaced inside each
block of ranks and the spacing doubles from one block to the next (the first two blocks
share one spacing, which is how the smallest numbers lose precision gradually).

Every magnitude is a whole number of *units* of size `2 ^ (-1074)`, so the exact value of a double
is the integer `Double.units` and nothing here needs rationals. The order of doubles is the order
of their signed ranks (`Double.position`), in which the two zeros coincide; that the two orders
agree rests on `magnitudeOfRank_strictMono`.
-/

namespace JsonTyping

/-- How many ranks share one spacing: two to the power 52. -/
def ranksPerBlock : Nat := 0x10000000000000

/-- The rank just above the largest finite double. -/
def rankBound : Nat := 2047 * ranksPerBlock

/-- The smallest positive double is one half to this power. -/
@[irreducible] def unitExponent : Nat := 1074

/-- A unit is the smallest positive double; so many units make one. -/
def unitsPerOne : Nat := 1 <<< unitExponent

/-- The magnitude of the double of rank `r`, counted in units. -/
def magnitudeOfRank (r : Nat) : Nat :=
  let spacing := r / ranksPerBlock - 1
  (r - spacing * ranksPerBlock) <<< spacing

/-- A finite IEEE double: its sign and the rank of its magnitude. -/
structure Double where
  /-- Whether the sign bit is set; both zeros exist. -/
  negative : Bool
  /-- How many nonnegative doubles lie below the magnitude. -/
  rank : Nat
  /-- Infinity and the numbers beyond it are excluded. -/
  rank_lt : rank < rankBound
deriving DecidableEq

namespace Double

/-- The zero of a sign. -/
def zero (negative : Bool) : Double := ⟨negative, 0, by decide⟩

instance : Inhabited Double := ⟨zero false⟩

/-- The exact value of a double, counted in units. -/
def units (d : Double) : Int :=
  if d.negative then -(magnitudeOfRank d.rank : Int) else magnitudeOfRank d.rank

/-- The place of a double on the number line; both zeros stand at `0`. -/
def position (d : Double) : Int :=
  if d.negative then -(d.rank : Int) else d.rank

/-- Doubles are equal as numbers: the two zeros are equal to each other. -/
instance : BEq Double := ⟨fun a b ↦ a.position == b.position⟩

/-- Doubles are ordered as numbers. -/
def order (a b : Double) : Ordering := compare a.position b.position

/-- The integer that a double is, if it has no fractional part. -/
def whole? (d : Double) : Option Int :=
  if d.units % unitsPerOne = 0 then some (d.units / unitsPerOne) else none

@[simp]
theorem beq_iff_position_eq {a b : Double} : (a == b) = true ↔ a.position = b.position := by
  change (a.position == b.position) = true ↔ _
  simp

end Double

theorem unitExponent_eq : unitExponent = 1074 := by rw [unitExponent]

theorem unitsPerOne_pos : 0 < unitsPerOne := by
  rw [unitsPerOne, Nat.one_shiftLeft]
  exact Nat.two_pow_pos _

/-- The first block of ranks counts units one by one. -/
theorem magnitudeOfRank_of_lt {r : Nat} (h : r < ranksPerBlock) : magnitudeOfRank r = r := by
  have block : r / ranksPerBlock - 1 = 0 := by rw [Nat.div_eq_of_lt h]
  rw [magnitudeOfRank, block, Nat.zero_mul, Nat.sub_zero, Nat.shiftLeft_zero]

end JsonTyping
