import JsonTyping.Number
import Mathlib.Algebra.Ring.Int.Defs
import Mathlib.Algebra.Ring.Nat
import Mathlib.Data.Bool.Basic
import Mathlib.Order.Monotone.Basic

/-!
# Doubles as numbers

Inside one block of ranks the spacing of magnitudes is a power of two, and the end of a block is the
start of the next one, in either of the two spacings (`magnitudeOfRank_add`). So a greater rank has
a greater magnitude (`magnitudeOfRank_strictMono`), and the order of doubles is the order of the
numbers that they are (`Double.order_eq_compare_units`).

Of the rank that a number is rounded to, no more is needed than that no double is nearer
(`nearestRank_nearest`): together with the order of magnitudes this makes rounding monotone
(`nearestRank_mono`). For integers it can be said which double it is. It is an integer again, with
the same number of binary digits as long as there are no more than 53 of them
(`Integer.units_toDouble`).
-/

namespace JsonTyping

/-! ### Magnitudes -/

theorem unitsPerOne_eq_two_pow : unitsPerOne = 2 ^ unitExponent := by
  rw [unitsPerOne, Nat.one_shiftLeft]

/-- The magnitudes of one block, its end included, are the multiples of a power of two. The blocks
are numbered by this power, and the first of them reaches down to zero. -/
theorem magnitudeOfRank_add {spacing m : Nat} (low : spacing = 0 ∨ ranksPerBlock ≤ m)
    (high : m ≤ 2 * ranksPerBlock) :
    magnitudeOfRank (spacing * ranksPerBlock + m) = m * 2 ^ spacing := by
  have pos : 0 < ranksPerBlock := by decide
  rcases Nat.lt_or_ge m ranksPerBlock with first | block
  · obtain rfl : spacing = 0 := low.resolve_right (Nat.not_le.2 first)
    rw [Nat.zero_mul, Nat.zero_add, magnitudeOfRank_of_lt first, Nat.pow_zero, Nat.mul_one]
  rcases Nat.lt_or_eq_of_le high with inside | rfl
  · have number : (spacing * ranksPerBlock + m) / ranksPerBlock - 1 = spacing := by
      rw [Nat.mul_comm, Nat.mul_add_div pos, Nat.div_eq_of_lt_le (k := 1) (by omega) (by omega)]
      rfl
    rw [magnitudeOfRank, number, Nat.add_sub_cancel_left, Nat.shiftLeft_eq]
  · -- the end of the block has twice the spacing
    have number : (spacing * ranksPerBlock + 2 * ranksPerBlock) / ranksPerBlock - 1 =
        spacing + 1 := by
      rw [← Nat.add_mul, Nat.mul_div_cancel _ pos]
      rfl
    have offset : spacing * ranksPerBlock + 2 * ranksPerBlock - (spacing + 1) * ranksPerBlock =
        ranksPerBlock := by
      rw [Nat.add_mul]
      omega
    rw [magnitudeOfRank, number, offset, Nat.shiftLeft_eq, Nat.pow_succ', ← Nat.mul_assoc,
      Nat.mul_comm ranksPerBlock]

/-- Every rank lies in a block and is not its end. -/
theorem exists_eq_mul_add (r : Nat) :
    ∃ spacing m, r = spacing * ranksPerBlock + m ∧ (spacing = 0 ∨ ranksPerBlock ≤ m) ∧
      m < 2 * ranksPerBlock := by
  have pos : 0 < ranksPerBlock := by decide
  have split := Nat.div_add_mod' r ranksPerBlock
  have small := Nat.mod_lt r pos
  rcases block : r / ranksPerBlock with - | spacing
  · rw [block] at split
    exact ⟨0, r, by omega, .inl rfl, by omega⟩
  · rw [block, Nat.add_mul] at split
    exact ⟨spacing, ranksPerBlock + r % ranksPerBlock, by omega, .inr (by omega), by omega⟩

/-- The magnitude of a double grows with its rank. -/
theorem magnitudeOfRank_strictMono : StrictMono magnitudeOfRank := by
  refine strictMono_nat_of_lt_succ fun r ↦ ?_
  obtain ⟨spacing, m, rfl, low, high⟩ := exists_eq_mul_add r
  rw [Nat.add_assoc, magnitudeOfRank_add low (Nat.le_of_lt high),
    magnitudeOfRank_add (low.imp_right Nat.le_succ_of_le) high]
  exact Nat.mul_lt_mul_of_pos_right (Nat.lt_succ_self m) (Nat.two_pow_pos spacing)

theorem magnitudeOfRank_zero : magnitudeOfRank 0 = 0 := magnitudeOfRank_of_lt (by decide)

/-- Comparing two integers is a matter of which is the smaller one. -/
theorem compare_eq_compare {a b c d : Int} (lt : a < b ↔ c < d) (gt : b < a ↔ d < c) :
    compare a b = compare c d := by
  rcases Int.lt_trichotomy c d with less | equal | greater
  · rw [Int.compare_eq_lt.2 less, Int.compare_eq_lt.2 (lt.2 less)]
  · have same : a = b := by omega
    rw [Int.compare_eq_eq.2 same, Int.compare_eq_eq.2 equal]
  · rw [Int.compare_eq_gt.2 greater, Int.compare_eq_gt.2 (gt.2 greater)]

namespace Double

theorem position_lt_iff {d e : Double} : d.position < e.position ↔ d.units < e.units := by
  have below : magnitudeOfRank d.rank < magnitudeOfRank e.rank ↔ d.rank < e.rank :=
    magnitudeOfRank_strictMono.lt_iff_lt
  have above : magnitudeOfRank e.rank < magnitudeOfRank d.rank ↔ e.rank < d.rank :=
    magnitudeOfRank_strictMono.lt_iff_lt
  have zero {r : Nat} : 0 < magnitudeOfRank r ↔ 0 < r := by
    rw [← magnitudeOfRank_strictMono.lt_iff_lt (b := r), magnitudeOfRank_zero]
  have := zero (r := d.rank)
  have := zero (r := e.rank)
  rw [position, position, units, units]
  split <;> split <;> omega

/-- The order of doubles is that of the numbers that they are. -/
theorem order_eq_compare_units (d e : Double) : d.order e = compare d.units e.units :=
  compare_eq_compare position_lt_iff position_lt_iff

end Double

/-! ### Rounding -/

theorem roundsUp_iff {below excess gap : Nat} :
    roundsUp below excess gap = true ↔ gap < excess ∨ excess = gap ∧ below % 2 = 1 := by
  simp [roundsUp]

/-- The multiple of a step that is nearest to a number, of two equally near ones the even
multiple. -/
def nearestMultiple (step n : Nat) : Nat :=
  (n / step + (roundsUp (n / step) (2 * (n % step)) step).toNat) * step

theorem nearestMultiple_of_dvd {step n : Nat} (pos : 0 < step) (h : step ∣ n) :
    nearestMultiple step n = n := by
  have exact : roundsUp (n / step) (2 * (n % step)) step = false := by
    rw [Bool.eq_false_iff, ne_eq, roundsUp_iff, Nat.mod_eq_zero_of_dvd h]
    omega
  rw [nearestMultiple, exact, Bool.toNat_false, Nat.add_zero, Nat.div_mul_cancel h]

/-- Rounding does not depend on the unit. -/
theorem nearestMultiple_mul {scale : Nat} (pos : 0 < scale) (step n : Nat) :
    nearestMultiple (step * scale) (n * scale) = nearestMultiple step n * scale := by
  have excess : 2 * (n * scale % (step * scale)) = 2 * (n % step) * scale := by
    rw [Nat.mul_mod_mul_right, Nat.mul_assoc]
  have same : roundsUp (n / step) (2 * (n % step) * scale) (step * scale) =
      roundsUp (n / step) (2 * (n % step)) step := by
    rw [Bool.eq_iff_iff, roundsUp_iff, roundsUp_iff, Nat.mul_lt_mul_right pos,
      Nat.mul_left_inj (Nat.ne_of_gt pos)]
  rw [nearestMultiple, nearestMultiple, Nat.mul_div_mul_right _ _ pos, excess, same, Nat.mul_assoc]

/-- The largest double below a number of units is a multiple of a power of two, and the next one up
is the next multiple. -/
theorem magnitudeOfRank_floorRank (units : Nat) (up : Bool) :
    magnitudeOfRank (floorRank units + up.toNat) =
      (units / 2 ^ (units.log2 - 52) + up.toNat) * 2 ^ (units.log2 - 52) := by
  have high : units >>> (units.log2 - 52) < 2 * ranksPerBlock := shiftRight_log2_lt units
  have low : units.log2 - 52 = 0 ∨ ranksPerBlock ≤ units >>> (units.log2 - 52) := by
    rcases Nat.eq_zero_or_pos (units.log2 - 52) with zero | pos
    · exact .inl zero
    · have start : ranksPerBlock * 2 ^ (units.log2 - 52) = 2 ^ units.log2 := by
        have block : ranksPerBlock = 2 ^ 52 := by decide
        rw [block, ← Nat.pow_add]
        congr 1
        omega
      rw [Nat.shiftRight_eq_div_pow, Nat.le_div_iff_mul_le (Nat.two_pow_pos _), start]
      refine .inr (Nat.log2_self_le fun zero ↦ ?_)
      simp [zero] at pos
  have le : up.toNat ≤ 1 := Bool.toNat_le up
  rw [floorRank, Nat.add_assoc, magnitudeOfRank_add (low.imp_right (by omega)) (by omega),
    Nat.shiftRight_eq_div_pow]

theorem floorRank_mod_two (units : Nat) :
    floorRank units % 2 = units / 2 ^ (units.log2 - 52) % 2 := by
  have even : ranksPerBlock = 2 * 2 ^ 51 := by decide
  rw [floorRank, even, Nat.mul_left_comm, Nat.mul_add_mod, Nat.shiftRight_eq_div_pow]

/-- Whether a number of units is rounded up depends on where it lies between two multiples. -/
theorem roundsUp_floorRank (units : Nat) :
    roundsUp (floorRank units) (2 * (units - magnitudeOfRank (floorRank units)))
        (magnitudeOfRank (floorRank units + 1) - magnitudeOfRank (floorRank units)) =
      roundsUp (units / 2 ^ (units.log2 - 52)) (2 * (units % 2 ^ (units.log2 - 52)))
        (2 ^ (units.log2 - 52)) := by
  have floor := magnitudeOfRank_floorRank units
  have parity := floorRank_mod_two units
  generalize 2 ^ (units.log2 - 52) = step at floor parity ⊢
  have below : magnitudeOfRank (floorRank units) = units / step * step := by simpa using floor false
  have above : magnitudeOfRank (floorRank units + 1) = (units / step + 1) * step := by
    simpa using floor true
  have excess : units - units / step * step = units % step := by
    have := Nat.div_add_mod' units step
    omega
  have gap : (units / step + 1) * step - units / step * step = step := by
    rw [Nat.add_mul, Nat.one_mul, Nat.add_sub_cancel_left]
  rw [above, below, excess, gap, Bool.eq_iff_iff, roundsUp_iff, roundsUp_iff, parity]

/-- The magnitude of the nearest rank is the nearest multiple of the spacing there. -/
theorem magnitudeOfRank_nearestRank (n : Nat) :
    magnitudeOfRank (nearestRank n 1) =
      nearestMultiple (2 ^ ((n * unitsPerOne).log2 - 52)) (n * unitsPerOne) := by
  simp only [nearestRank, Nat.div_one, Nat.mul_one]
  rw [roundsUp_floorRank, magnitudeOfRank_floorRank, nearestMultiple]

theorem log2_mul_unitsPerOne {n : Nat} (pos : 0 < n) :
    (n * unitsPerOne).log2 = n.log2 + unitExponent := by
  have nonzero : n * unitsPerOne ≠ 0 := Nat.ne_of_gt (Nat.mul_pos pos unitsPerOne_pos)
  rw [Nat.log2_eq_iff nonzero, unitsPerOne_eq_two_pow, Nat.add_right_comm, Nat.pow_add, Nat.pow_add]
  exact ⟨Nat.mul_le_mul_right _ (Nat.log2_self_le (Nat.ne_of_gt pos)),
    Nat.mul_lt_mul_of_pos_right Nat.lt_log2_self (Nat.two_pow_pos _)⟩

/-- A number cut to 53 binary digits: the nearest of those that have no more digits before their
zeros at the end, and of two equally near ones the one whose last digit is even. -/
def roundedMagnitude (n : Nat) : Nat := nearestMultiple (2 ^ (n.log2 - 52)) n

/-- The double nearest to a whole number is a whole number. -/
theorem magnitudeOfRank_nearestRank_eq (n : Nat) :
    magnitudeOfRank (nearestRank n 1) = roundedMagnitude n * unitsPerOne := by
  rw [magnitudeOfRank_nearestRank, roundedMagnitude]
  rcases Nat.eq_zero_or_pos n with rfl | pos
  · rw [Nat.zero_mul, nearestMultiple_of_dvd (Nat.two_pow_pos _) (Nat.dvd_zero _),
      Nat.zero_mul]
  rw [log2_mul_unitsPerOne pos]
  rcases Nat.lt_or_ge n.log2 52 with short | long
  · -- all digits are kept, and the spacing divides one
    have divides : 2 ^ (n.log2 + unitExponent - 52) ∣ n * unitsPerOne := by
      have le : n.log2 + unitExponent - 52 ≤ unitExponent := by omega
      rw [unitsPerOne_eq_two_pow]
      exact Nat.dvd_trans (Nat.pow_dvd_pow 2 le) (Nat.dvd_mul_left _ _)
    have whole : 2 ^ (n.log2 - 52) ∣ n := by
      rw [Nat.sub_eq_zero_of_le (Nat.le_of_lt short)]
      exact Nat.one_dvd n
    rw [nearestMultiple_of_dvd (Nat.two_pow_pos _) divides,
      nearestMultiple_of_dvd (Nat.two_pow_pos _) whole]
  · have step : 2 ^ (n.log2 + unitExponent - 52) = 2 ^ (n.log2 - 52) * unitsPerOne := by
      rw [Nat.sub_add_comm long, Nat.pow_add, unitsPerOne_eq_two_pow]
    rw [step, nearestMultiple_mul unitsPerOne_pos]

/-! ### Order -/

theorem magnitudeOfRank_floorRank_le (units : Nat) : magnitudeOfRank (floorRank units) ≤ units := by
  have floor := magnitudeOfRank_floorRank units false
  rw [Bool.toNat_false, Nat.add_zero, Nat.add_zero] at floor
  rw [floor]
  exact Nat.div_mul_le_self units _

theorem lt_magnitudeOfRank_floorRank (units : Nat) :
    units < magnitudeOfRank (floorRank units + 1) := by
  have floor := magnitudeOfRank_floorRank units true
  rw [Bool.toNat_true] at floor
  rw [floor, Nat.mul_comm]
  exact Nat.lt_mul_div_succ units (Nat.two_pow_pos _)

/-- No double is nearer to a number than the one that it is rounded to. -/
theorem nearestRank_nearest {den : Nat} (pos : 0 < den) (n r : Nat) :
    Int.natAbs ((n * unitsPerOne : Nat) - (magnitudeOfRank (nearestRank n den) * den : Nat)) ≤
      Int.natAbs ((n * unitsPerOne : Nat) - (magnitudeOfRank r * den : Nat)) := by
  rw [nearestRank]
  generalize n * unitsPerOne = units
  have low := magnitudeOfRank_floorRank_le (units / den)
  have high := lt_magnitudeOfRank_floorRank (units / den)
  generalize floorRank (units / den) = below at low high ⊢
  have low : magnitudeOfRank below * den ≤ units := Nat.mul_le_of_le_div _ _ _ low
  have high : units < magnitudeOfRank (below + 1) * den := (Nat.div_lt_iff_lt_mul pos).1 high
  have outside : magnitudeOfRank r * den ≤ magnitudeOfRank below * den ∨
      magnitudeOfRank (below + 1) * den ≤ magnitudeOfRank r * den :=
    (Nat.lt_or_ge below r).symm.imp
      (fun le ↦ Nat.mul_le_mul_right den (magnitudeOfRank_strictMono.monotone le))
      (fun lt ↦ Nat.mul_le_mul_right den (magnitudeOfRank_strictMono.monotone lt))
  simp only [Nat.sub_mul]
  rcases up : roundsUp below (2 * (units - magnitudeOfRank below * den))
      (magnitudeOfRank (below + 1) * den - magnitudeOfRank below * den) with - | -
  · rw [Bool.eq_false_iff, ne_eq, roundsUp_iff] at up
    rw [Bool.toNat_false, Nat.add_zero]
    generalize magnitudeOfRank below * den = floor, magnitudeOfRank (below + 1) * den = ceiling,
      magnitudeOfRank r * den = other at low high outside up ⊢
    omega
  · rw [roundsUp_iff] at up
    rw [Bool.toNat_true]
    generalize magnitudeOfRank below * den = floor, magnitudeOfRank (below + 1) * den = ceiling,
      magnitudeOfRank r * den = other at low high outside up ⊢
    omega

theorem nearestRank_mono {m n den : Nat} (pos : 0 < den) (h : m ≤ n) :
    nearestRank m den ≤ nearestRank n den := by
  rcases Nat.eq_or_lt_of_le h with rfl | lt
  · exact Nat.le_refl _
  refine Nat.not_lt.1 fun crossed ↦ ?_
  have nearM := nearestRank_nearest pos m (nearestRank n den)
  have nearN := nearestRank_nearest pos n (nearestRank m den)
  have apart :
      magnitudeOfRank (nearestRank n den) * den < magnitudeOfRank (nearestRank m den) * den :=
    Nat.mul_lt_mul_of_pos_right (magnitudeOfRank_strictMono crossed) pos
  have scaled : m * unitsPerOne < n * unitsPerOne := Nat.mul_lt_mul_of_pos_right lt unitsPerOne_pos
  omega

theorem roundedMagnitude_mono {m n : Nat} (h : m ≤ n) :
    roundedMagnitude m ≤ roundedMagnitude n := by
  have magnitudes := magnitudeOfRank_strictMono.monotone (nearestRank_mono Nat.one_pos h)
  rw [magnitudeOfRank_nearestRank_eq, magnitudeOfRank_nearestRank_eq] at magnitudes
  exact Nat.le_of_mul_le_mul_right magnitudes unitsPerOne_pos

namespace Integer

/-- An integer cut to 53 binary digits. -/
def rounded (n : Integer) : Int :=
  if n.val < 0 then -(roundedMagnitude n.val.natAbs : Int) else roundedMagnitude n.val.natAbs

/-- The double nearest to an integer is the integer cut to 53 binary digits. -/
theorem units_toDouble (n : Integer) : n.toDouble.units = n.rounded * unitsPerOne := by
  rw [toDouble, Double.ofInt, Double.units, rounded]
  by_cases negative : n.val < 0
  · simp [negative, magnitudeOfRank_nearestRank_eq]
  · simp [negative, magnitudeOfRank_nearestRank_eq]

theorem rounded_mono {m n : Integer} (h : m.val ≤ n.val) : m.rounded ≤ n.rounded := by
  rw [rounded, rounded]
  split <;> split
  · have := roundedMagnitude_mono (m := n.val.natAbs) (n := m.val.natAbs) (by omega)
    omega
  · omega
  · omega
  · have := roundedMagnitude_mono (m := m.val.natAbs) (n := n.val.natAbs) (by omega)
    omega

/-- Doubles that are nearest to integers compare as the integers do once they are cut to 53
digits. -/
theorem order_toDouble (m n : Integer) :
    m.toDouble.order n.toDouble = compare m.rounded n.rounded := by
  have pos : (0 : Int) < unitsPerOne := Int.natCast_pos.2 unitsPerOne_pos
  rw [Double.order_eq_compare_units, units_toDouble, units_toDouble]
  exact compare_eq_compare (Int.mul_lt_mul_right pos) (Int.mul_lt_mul_right pos)

end Integer

end JsonTyping
