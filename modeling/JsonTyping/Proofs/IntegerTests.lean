import JsonTyping.Predicate
import JsonTyping.Proofs.Rounding

/-!
# Tests of integers

An integer of a document lies in the signed or in the unsigned 64-bit range, but the tests of
numbers read it as one of the signed range. An integer beyond that range is not an integer to them.
The tests of parity then know nothing of it (`Integer.parity_outcome`). The bounds fall back on the
nearest doubles, and as rounding is monotone, what they say is true unless the two sides are rounded
to one double: then the two count as equal (`Integer.bounds_outcome`).
-/

namespace JsonTyping

/-! ### Bounds -/

namespace Predicate

variable {n bound : Number}

theorem above_test_iff : (above bound).test (.number n) = true ↔ n.order bound = .gt := by
  simp [test, Value.order?, Value.number?]

theorem atLeast_test_iff : (atLeast bound).test (.number n) = true ↔ n.order bound ≠ .lt := by
  rcases h : n.order bound with - | - | - <;> simp [test, Value.order?, Value.number?, h]

theorem below_test_iff : (below bound).test (.number n) = true ↔ n.order bound = .lt := by
  simp [test, Value.order?, Value.number?]

theorem atMost_test_iff : (atMost bound).test (.number n) = true ↔ n.order bound ≠ .gt := by
  rcases h : n.order bound with - | - | - <;> simp [test, Value.order?, Value.number?, h]

end Predicate

namespace Integer

/-- Whether the four bounds say of an integer how it lies to another one. -/
structure BoundsExact (n bound : Integer) : Prop where
  above : (Predicate.above (.integer bound)).test (.number (.integer n)) = true ↔ bound.val < n.val
  atLeast :
    (Predicate.atLeast (.integer bound)).test (.number (.integer n)) = true ↔ bound.val ≤ n.val
  below : (Predicate.below (.integer bound)).test (.number (.integer n)) = true ↔ n.val < bound.val
  atMost :
    (Predicate.atMost (.integer bound)).test (.number (.integer n)) = true ↔ n.val ≤ bound.val

/-- Whether an integer passes the two bounds that let equal numbers pass, and not the two others. -/
structure CountsAsEqual (n bound : Integer) : Prop where
  above : (Predicate.above (.integer bound)).test (.number (.integer n)) = false
  atLeast : (Predicate.atLeast (.integer bound)).test (.number (.integer n)) = true
  below : (Predicate.below (.integer bound)).test (.number (.integer n)) = false
  atMost : (Predicate.atMost (.integer bound)).test (.number (.integer n)) = true

variable {n bound : Integer}

theorem signed?_of_lt (h : n.val < 2 ^ 63) : n.signed? = some n.val := by
  rw [signed?, if_pos (by omega)]

theorem signed?_of_le (h : 2 ^ 63 ≤ n.val) : n.signed? = none := by
  rw [signed?, if_neg (by omega)]

/-- Integers of the signed range are compared as they are. -/
theorem order_of_signed (h : n.val < 2 ^ 63 ∧ bound.val < 2 ^ 63) :
    (Number.integer n).order (.integer bound) = compare n.val bound.val := by
  simp only [Number.order, Number.signed?, signed?_of_lt h.1, signed?_of_lt h.2]

/-- Beyond that range on either side, integers are compared once they are cut to 53 digits. -/
theorem order_of_unsigned (h : ¬(n.val < 2 ^ 63 ∧ bound.val < 2 ^ 63)) :
    (Number.integer n).order (.integer bound) = compare n.rounded bound.rounded := by
  rw [← order_toDouble]
  rcases Int.lt_or_le n.val (2 ^ 63) with small | large
  · have large : 2 ^ 63 ≤ bound.val := by omega
    simp only [Number.order, Number.signed?, signed?_of_lt small, signed?_of_le large,
      Number.toDouble]
  · simp only [Number.order, Number.signed?, signed?_of_le large, Number.toDouble]

/-- What differs after rounding differs in the same way before. -/
theorem compare_rounded (h : n.rounded ≠ bound.rounded) :
    compare n.rounded bound.rounded = compare n.val bound.val := by
  have up (le : n.val ≤ bound.val) : n.rounded ≤ bound.rounded := rounded_mono le
  have down (le : bound.val ≤ n.val) : bound.rounded ≤ n.rounded := rounded_mono le
  exact compare_eq_compare (by omega) (by omega)

theorem boundsExact_of_order
    (h : (Number.integer n).order (.integer bound) = compare n.val bound.val) :
    n.BoundsExact bound where
  above := by rw [Predicate.above_test_iff, h, Int.compare_eq_gt]
  atLeast := by rw [Predicate.atLeast_test_iff, h, ne_eq, Int.compare_eq_lt, Int.not_lt]
  below := by rw [Predicate.below_test_iff, h, Int.compare_eq_lt]
  atMost := by rw [Predicate.atMost_test_iff, h, ne_eq, Int.compare_eq_gt, Int.not_lt]

theorem countsAsEqual_of_order (h : (Number.integer n).order (.integer bound) = .eq) :
    n.CountsAsEqual bound where
  above := by rw [Bool.eq_false_iff, ne_eq, Predicate.above_test_iff, h]; decide
  atLeast := by rw [Predicate.atLeast_test_iff, h]; decide
  below := by rw [Bool.eq_false_iff, ne_eq, Predicate.below_test_iff, h]; decide
  atMost := by rw [Predicate.atMost_test_iff, h]; decide

/-- An integer that counts as equal to another one and is not is told wrongly. -/
theorem CountsAsEqual.val_eq (equal : n.CountsAsEqual bound) (exact : n.BoundsExact bound) :
    n.val = bound.val := by
  have := exact.atLeast.1 equal.atLeast
  have := exact.atMost.1 equal.atMost
  omega

/-- **Which integers the bounds can tell apart.** They say how an integer lies to another one if
both are of the signed range, if the two are equal, and if they differ when they are cut to 53
binary digits; and in no other case. In the other cases the integer counts as equal to the bound,
which it is not. -/
theorem bounds_outcome (n bound : Integer) :
    (n.BoundsExact bound ↔
      n.val < 2 ^ 63 ∧ bound.val < 2 ^ 63 ∨ n.val = bound.val ∨ n.rounded ≠ bound.rounded) ∧
    (¬ n.BoundsExact bound → n.CountsAsEqual bound) := by
  by_cases signed : n.val < 2 ^ 63 ∧ bound.val < 2 ^ 63
  · have exact := boundsExact_of_order (order_of_signed signed)
    exact ⟨iff_of_true exact (.inl signed), fun wrong ↦ absurd exact wrong⟩
  have order := order_of_unsigned signed
  by_cases rounded : n.rounded = bound.rounded
  · have equal : n.CountsAsEqual bound :=
      countsAsEqual_of_order (order.trans (Int.compare_eq_eq.2 rounded))
    refine ⟨⟨fun exact ↦ .inr (.inl (equal.val_eq exact)), fun told ↦ ?_⟩, fun _ ↦ equal⟩
    obtain same : n.val = bound.val :=
      (told.resolve_left signed).resolve_right fun differ ↦ differ rounded
    refine boundsExact_of_order (order.trans ?_)
    rw [Int.compare_eq_eq.2 rounded, Int.compare_eq_eq.2 same]
  · have exact := boundsExact_of_order (order.trans (compare_rounded rounded))
    exact ⟨iff_of_true exact (.inr (.inr rounded)), fun wrong ↦ absurd exact wrong⟩

/-- The first integer after the signed range and its neighbours on both sides are rounded to one
double, so a greater integer is not above the bound and a smaller one is not below it. -/
theorem bounds_blur_neighbours :
    (0x8000000000000000 : Int) < 0x8000000000000001 ∧
    (Predicate.above (.integer (.ofUInt64 0x8000000000000000))).test
      (.number (.integer (.ofUInt64 0x8000000000000001))) = false ∧
    (0x7fffffffffffffff : Int) < 0x8000000000000000 ∧
    (Predicate.below (.integer (.ofUInt64 0x8000000000000000))).test
      (.number (.integer (.ofUInt64 0x7fffffffffffffff))) = false := by
  decide +kernel

/-! ### Parity -/

/-- Whether one of the two tests of parity holds of an integer and the other does not, and its
remainder says which. -/
structure ParityExact (n : Integer) : Prop where
  one : Predicate.odd.test (.number (.integer n)) = !Predicate.even.test (.number (.integer n))
  odd : Predicate.odd.test (.number (.integer n)) = true ↔ n.val % 2 = 1

theorem parityExact_of_signed (h : n.val < 2 ^ 63) : n.ParityExact := by
  have odd : Predicate.odd.test (.number (.integer n)) = (n.val % 2 != 0) := by
    simp [Predicate.test, Value.signed?, Value.number?, Number.signed?, signed?_of_lt h]
  have even : Predicate.even.test (.number (.integer n)) = (n.val % 2 == 0) := by
    simp [Predicate.test, Value.signed?, Value.number?, Number.signed?, signed?_of_lt h]
  constructor
  · rw [odd, even]
    rfl
  · rw [odd, bne_iff_ne]
    omega

theorem no_parity_of_unsigned (h : 2 ^ 63 ≤ n.val) :
    Predicate.odd.test (.number (.integer n)) = false ∧
    Predicate.even.test (.number (.integer n)) = false := by
  constructor <;>
    simp [Predicate.test, Value.signed?, Value.number?, Number.signed?, signed?_of_le h]

theorem accepts_integer_iff {v : Value} :
    Primitive.integer.accepts v = true ↔ ∃ n : Integer, v = .number (.integer n) := by
  constructor
  · intro accepted
    cases v with
    | number m =>
      cases m with
      | integer n => exact ⟨n, rfl⟩
      | double => cases accepted
    | null | bool | string | array | object => cases accepted
  · rintro ⟨n, rfl⟩
    rfl

/-- **Which integers have a parity.** Of a value of the kind of integers the tests of parity say
what its remainder by two is exactly if it lies in the signed range. Beyond it neither of them
holds. -/
theorem parity_outcome {v : Value} (integer : Primitive.integer.accepts v = true) :
    ∃ n : Integer, v = .number (.integer n) ∧ (n.ParityExact ↔ n.val < 2 ^ 63) ∧
      (2 ^ 63 ≤ n.val → Predicate.odd.test v = false ∧ Predicate.even.test v = false) := by
  obtain ⟨n, rfl⟩ := accepts_integer_iff.1 integer
  refine ⟨n, rfl, ⟨fun exact ↦ ?_, parityExact_of_signed⟩, no_parity_of_unsigned⟩
  refine Int.not_le.1 fun large ↦ ?_
  obtain ⟨notOdd, notEven⟩ := no_parity_of_unsigned large
  have one := exact.one
  rw [notOdd, notEven] at one
  cases one

/-- A negative odd number is odd and not even. -/
theorem parity_outcome_negative :
    Primitive.integer.accepts (.number (.integer ⟨-3, by decide, by decide⟩)) = true ∧
    Predicate.odd.test (.number (.integer ⟨-3, by decide, by decide⟩)) = true ∧
    Predicate.even.test (.number (.integer ⟨-3, by decide, by decide⟩)) = false := by
  obtain ⟨n, same, exact, -⟩ :=
    parity_outcome (v := .number (.integer ⟨-3, by decide, by decide⟩)) rfl
  cases same
  have parity := exact.2 (by decide)
  have odd := parity.odd.2 (by decide)
  exact ⟨rfl, odd, by simpa [odd] using parity.one⟩

/-- An odd integer beyond the signed range is neither odd nor even to the tests. -/
theorem no_parity_of_word :
    Primitive.integer.accepts (.number (.integer (.ofUInt64 0x8000000000000001))) = true ∧
    (Integer.ofUInt64 0x8000000000000001).val % 2 = 1 ∧
    Predicate.odd.test (.number (.integer (.ofUInt64 0x8000000000000001))) = false ∧
    Predicate.even.test (.number (.integer (.ofUInt64 0x8000000000000001))) = false :=
  ⟨rfl, by decide, by decide, by decide⟩

end Integer

end JsonTyping
