import JsonTyping.Proofs.Settling
import Mathlib.Algebra.Field.Rat
import Mathlib.Data.Int.CharZero

/-!
# Conversions to integers

The conversion to integers knows the signed range only, whatever it converts. Of the doubles it
takes those that are whole numbers of that range, but for the least of them, which it misses since
it compares magnitudes with the end of the range (`Double.conversion_outcome`). Numerals it reads
digit by digit, up to the first step out of the range; what is left by then can only make the
magnitude greater, so a numeral is read if and only if its number lies in the range
(`IntegerNumeral.readMagnitude_eq`). The text of an integer beyond the signed range is therefore not
read again, although such an integer itself is let through (`Integer.text_outcome`).
-/

namespace JsonTyping

/-! ### Doubles -/

namespace Double

variable {d : Double}

/-- The number that a double is. -/
def value (d : Double) : ℚ := d.units / unitsPerOne

theorem value_eq_intCast_iff {n : Int} : d.value = n ↔ d.units = n * unitsPerOne := by
  have nonzero : (unitsPerOne : ℚ) ≠ 0 := Nat.cast_ne_zero.2 (Nat.ne_of_gt unitsPerOne_pos)
  rw [value, div_eq_iff nonzero]
  norm_cast

theorem whole?_eq_some_iff {n : Int} : d.whole? = some n ↔ d.value = n := by
  have nonzero : (unitsPerOne : Int) ≠ 0 := Int.natCast_ne_zero.2 (Nat.ne_of_gt unitsPerOne_pos)
  rw [value_eq_intCast_iff, whole?]
  constructor
  · intro found
    split at found
    case isTrue whole =>
      cases found
      exact (Int.ediv_mul_cancel (Int.dvd_of_emod_eq_zero whole)).symm
    case isFalse => cases found
  · intro same
    rw [same, if_pos (Int.mul_emod_left _ _), Int.mul_ediv_cancel _ nonzero]

theorem integerOfDouble?_eq_some_iff {v : Value} :
    Conversion.integerOfDouble? d = some v ↔ ∃ n : Integer, v = .number (.integer n) ∧
      d.value = n.val ∧ -2 ^ 63 < n.val ∧ n.val < 2 ^ 63 := by
  simp only [Conversion.integerOfDouble?, Option.bind_eq_bind, Option.bind_eq_some_iff,
    Option.ite_none_right_eq_some, whole?_eq_some_iff, Value.ofInt?_eq_some_iff]
  constructor
  · rintro ⟨m, whole, inside, n, rfl, rfl⟩
    exact ⟨n, rfl, whole, by omega⟩
  · rintro ⟨n, rfl, whole, inside⟩
    exact ⟨n.val, whole, by omega, n, rfl, rfl⟩

theorem toInteger_eq_ok_iff {output : Option Value} :
    Transform.toInteger.apply (.number (.double d)) = .ok output ↔
      ∃ n : Integer, output = some (.number (.integer n)) ∧
        d.value = n.val ∧ -2 ^ 63 < n.val ∧ n.val < 2 ^ 63 := by
  have converted {w : Value} : Conversion.integer (.number (.double d)) = .ok w ↔
      Conversion.integerOfDouble? d = some w := by
    rw [Conversion.integer]
    cases Conversion.integerOfDouble? d <;> simp
  simp only [Transform.toInteger, Transform.ofConversion_apply_eq_ok_iff, converted,
    integerOfDouble?_eq_some_iff]
  constructor
  · rintro ⟨w, ⟨n, rfl, whole⟩, rfl⟩
    exact ⟨n, rfl, whole⟩
  · rintro ⟨n, rfl, whole⟩
    exact ⟨_, ⟨n, rfl, whole⟩, rfl⟩

/-- All that is refused is said to have a fractional part. -/
theorem toInteger_eq_error
    (h : ∀ output, Transform.toInteger.apply (.number (.double d)) ≠ .ok output) :
    Transform.toInteger.apply (.number (.double d)) =
      .error (d.text ++ " has a fractional part") := by
  rcases found : Conversion.integerOfDouble? d with - | w
  · have refused : Conversion.integer (.number (.double d)) = .error (.fractional (.double d)) := by
      rw [Conversion.integer, found]
    exact Transform.ofConversion_apply_eq_error_iff.2 ⟨_, refused, rfl⟩
  · have converted : Conversion.integer (.number (.double d)) = .ok w := by
      rw [Conversion.integer, found]
    exact absurd (Transform.ofConversion_apply_eq_ok_iff.2 ⟨w, converted, rfl⟩) (h (some w))

/-- Whether the outcome of the conversion to integers is the number that a double is, if this is a
whole number of the signed range, and no outcome otherwise. -/
def ConvertsExactly (d : Double) : Prop :=
  ∀ output, Transform.toInteger.apply (.number (.double d)) = .ok output ↔
    ∃ n : Integer, output = some (.number (.integer n)) ∧
      d.value = n.val ∧ -2 ^ 63 ≤ n.val ∧ n.val ≤ 2 ^ 63 - 1

/-- **Which doubles the conversion to integers takes for what they are.** It does so with every
double, whole or not, other than the least number of the signed range. That one is refused as if it
had a fractional part. -/
theorem conversion_outcome (d : Double) :
    (d.ConvertsExactly ↔ d.value ≠ -2 ^ 63) ∧
    (d.value = -2 ^ 63 →
      Transform.toInteger.apply (.number (.double d)) =
        .error (d.text ++ " has a fractional part")) := by
  have cast : (-2 ^ 63 : ℚ) = (-2 ^ 63 : Int) := by push_cast; rfl
  rw [cast]
  have refused (same : d.value = (-2 ^ 63 : Int)) (output : Option Value) :
      Transform.toInteger.apply (.number (.double d)) ≠ .ok output := by
    intro came
    obtain ⟨n, rfl, whole, above, -⟩ := toInteger_eq_ok_iff.1 came
    exact Int.ne_of_gt above (Int.cast_inj.1 (whole.symm.trans same))
  refine ⟨⟨fun exact same ↦ ?_, fun other output ↦ ?_⟩,
    fun same ↦ toInteger_eq_error (refused same)⟩
  · -- the least number is in the range, so it would have to come out
    let least : Integer := ⟨-2 ^ 63, by decide, by decide⟩
    exact refused same _ ((exact _).2 ⟨least, rfl, same, by decide, by decide⟩)
  · -- of any other whole number the strict bound and the one that is not strict say the same
    rw [toInteger_eq_ok_iff]
    refine exists_congr fun n ↦ and_congr_right fun _ ↦ and_congr_right fun whole ↦ ?_
    rw [whole, ne_eq, Int.cast_inj] at other
    omega

/-- The least number of the signed range is a whole number and is refused. -/
theorem least_signed_refused :
    let d : Double := ⟨true, 1086 * ranksPerBlock, by decide⟩
    d.value = (-2 ^ 63 : Int) ∧
    Transform.toInteger.apply (.number (.double d)) =
      .error "-9.223372036854776e+18 has a fractional part" := by
  intro d
  have refused : Conversion.integerOfDouble? d = none := by decide +kernel
  refine ⟨value_eq_intCast_iff.2 (by decide +kernel), ?_⟩
  refine Transform.ofConversion_apply_eq_error_iff.2
    ⟨.fractional (.double d), ?_, by decide +kernel⟩
  rw [Conversion.integer, refused]

end Double

/-! ### Numerals -/

namespace IntegerNumeral

variable {negative : Bool} {digits : List Char} {m : Nat}

/-- The number of a sign and a magnitude. -/
def withSign (negative : Bool) (m : Nat) : Int := if negative then -m else m

/-- The first magnitude that is out of the signed range, for either sign. -/
def limit (negative : Bool) : Nat := 2 ^ 63 + negative.toNat

/-- The end of the range that a numeral of a sign overflows. -/
def overflow (negative : Bool) : IntegerNumeralError := if negative then .tooSmall else .tooLarge

theorem withSign_false (m : Nat) : withSign false m = m := rfl

theorem withSign_true (m : Nat) : withSign true m = -m := rfl

theorem limit_false : limit false = 2 ^ 63 := rfl

theorem limit_true : limit true = 2 ^ 63 + 1 := rfl

theorem withSign_lt_iff :
    withSign negative m < -0x8000000000000000 ↔ negative = true ∧ limit negative ≤ m := by
  cases negative with
  | false => simp [withSign_false]
  | true =>
    simp [withSign_true, limit_true]
    omega

theorem le_withSign_iff :
    0x8000000000000000 ≤ withSign negative m ↔ negative = false ∧ limit negative ≤ m := by
  cases negative with
  | false => simp [withSign_false, limit_false]
  | true =>
    simp [withSign_true]
    omega

/-- One more digit is taken if the number stays in the range. -/
theorem readDigits_cons {c : Char} {rest : List Char} (digit : c.isDigit = true) :
    readDigits negative (withSign negative m) (c :: rest) =
      if 10 * m + digitValue c < limit negative then
        readDigits negative (withSign negative (10 * m + digitValue c)) rest
      else
        .error (overflow negative) := by
  have next : (if negative then 10 * withSign negative m - digitValue c
      else 10 * withSign negative m + digitValue c) =
      withSign negative (10 * m + digitValue c) := by
    rw [withSign, withSign]
    split <;> omega
  rw [readDigits, if_pos digit]
  simp only [next, withSign_lt_iff, le_withSign_iff]
  by_cases fits : 10 * m + digitValue c < limit negative
  · simp [fits, Nat.not_le.2 fits]
  · cases negative <;> simp [fits, Nat.not_lt.1 fits, overflow]

/-- A number in the range is continued to the one of all digits, if this one is in the range too: as
no digit makes the magnitude smaller, what is out of the range stays there. -/
theorem readDigits_eq (all : ∀ c ∈ digits, c.isDigit = true) (inside : m < limit negative) :
    readDigits negative (withSign negative m) digits =
      if Nat.ofDigitChars 10 digits m < limit negative then
        .ok (withSign negative (Nat.ofDigitChars 10 digits m))
      else
        .error (overflow negative) := by
  induction digits generalizing m with
  | nil => rw [Nat.ofDigitChars_nil, if_pos inside, readDigits]
  | cons c rest ih =>
    have step : Nat.ofDigitChars 10 (c :: rest) m =
        Nat.ofDigitChars 10 rest (10 * m + digitValue c) := Nat.ofDigitChars_cons
    have le : 10 * m + digitValue c ≤ Nat.ofDigitChars 10 rest (10 * m + digitValue c) := by
      rw [Nat.ofDigitChars_eq_ofDigitChars_zero]
      exact Nat.le_add_right_of_le (Nat.le_mul_of_pos_left _ (Nat.pow_pos (by decide)))
    obtain ⟨digit, all⟩ := List.forall_mem_cons.1 all
    rw [readDigits_cons digit, step]
    by_cases next : 10 * m + digitValue c < limit negative
    · rw [if_pos next, ih all next]
    · rw [if_neg next, if_neg fun fits ↦ next (Nat.lt_of_le_of_lt le fits)]

/-- Digits are read if their number is in the range, with the sign in front of them. -/
theorem readMagnitude_eq (all : ∀ c ∈ digits, c.isDigit = true) (nonempty : digits ≠ []) :
    readMagnitude negative digits =
      if valueOfDigits digits < limit negative then .ok (withSign negative (valueOfDigits digits))
      else .error (overflow negative) := by
  have start : (0 : Int) = withSign negative 0 := by cases negative <;> rfl
  have inside : 0 < limit negative := Nat.add_pos_left (by decide) _
  cases digits with
  | nil => exact absurd rfl nonempty
  | cons c rest =>
    rw [readMagnitude.eq_2 _ _ nonempty, start, readDigits_eq all inside]
    rfl

/-- Digits need no sign. -/
theorem read_eq_readMagnitude (all : ∀ c ∈ digits, c.isDigit = true) (nonempty : digits ≠ []) :
    read digits = readMagnitude false digits := by
  cases digits with
  | nil => exact absurd rfl nonempty
  | cons c rest =>
    have digit : c.isDigit = true := all c List.mem_cons_self
    rw [read.eq_4 _ nonempty]
    all_goals
      rintro _ eq
      cases eq
      cases digit

end IntegerNumeral

namespace Integer

/-- The text of an integer has digits in it, and a sign at most. -/
theorem mem_text {n : Integer} {c : Char} (mem : c ∈ n.text.toList) :
    c = '-' ∨ c.isDigit = true := by
  rw [text, String.toList_ofList] at mem
  split at mem
  case isTrue =>
    exact (List.mem_cons.1 mem).imp_right (Nat.isDigit_of_mem_toDigits (by decide) (by decide))
  case isFalse => exact .inr (Nat.isDigit_of_mem_toDigits (by decide) (by decide) mem)

/-- There is no white space in the text of an integer. -/
theorem trim_text (n : Integer) : trim n.text.toList = n.text.toList := by
  refine trim_eq_self fun c mem ↦ ?_
  rcases mem_text mem with rfl | digit
  · decide
  · exact isBlank_of_isDigit digit

/-- The text of an integer is a numeral of it, which is too large beyond the signed range. -/
theorem read_text (n : Integer) :
    IntegerNumeral.read n.text.toList = if n.val < 2 ^ 63 then .ok n.val else .error .tooLarge := by
  have digits : ∀ c ∈ Nat.toDigits 10 n.val.natAbs, c.isDigit = true :=
    fun _ ↦ Nat.isDigit_of_mem_toDigits (by decide) (by decide)
  have nonempty : Nat.toDigits 10 n.val.natAbs ≠ [] := Nat.toDigits_ne_nil
  rw [text, String.toList_ofList]
  rcases Int.lt_or_le n.val 0 with minus | plus
  · have inside : n.val.natAbs < IntegerNumeral.limit true := by
      have := n.lower
      rw [IntegerNumeral.limit_true]
      omega
    rw [if_pos minus, IntegerNumeral.read, IntegerNumeral.readMagnitude_eq digits nonempty,
      valueOfDigits_toDigits, if_pos inside, IntegerNumeral.withSign_true, if_pos (by omega),
      Int.ofNat_natAbs_of_nonpos (Int.le_of_lt minus), Int.neg_neg]
  · have inside : n.val.natAbs < IntegerNumeral.limit false ↔ n.val < 2 ^ 63 := by
      rw [IntegerNumeral.limit_false]
      omega
    rw [if_neg (Int.not_lt.2 plus), IntegerNumeral.read_eq_readMagnitude digits nonempty,
      IntegerNumeral.readMagnitude_eq digits nonempty, valueOfDigits_toDigits,
      IntegerNumeral.withSign_false, Int.natAbs_of_nonneg plus]
    exact if_congr inside rfl rfl

theorem toInteger_text_of_lt {n : Integer} (h : n.val < 2 ^ 63) :
    Transform.toInteger.apply (.string n.text) = .ok (some (.number (.integer n))) := by
  refine Transform.ofConversion_apply_eq_ok_iff.2 ⟨_, ?_, rfl⟩
  have found : Value.ofInt? n.val = some (.number (.integer n)) :=
    Value.ofInt?_eq_some_iff.2 ⟨n, rfl, rfl⟩
  simp only [Conversion.integer, trim_text, read_text, if_pos h, found]

theorem toInteger_text_of_le {n : Integer} (h : 2 ^ 63 ≤ n.val) :
    Transform.toInteger.apply (.string n.text) =
      .error "number too large to fit in target type" := by
  refine Transform.ofConversion_apply_eq_error_iff.2 ⟨.integerNumeral .tooLarge, ?_, rfl⟩
  simp only [Conversion.integer, trim_text, read_text, if_neg (Int.not_lt.2 h)]

/-- **Which integers survive as texts.** The text of an integer of the signed range is converted
back to this integer. That of a greater one is refused. -/
theorem text_outcome (n : Integer) :
    ∃ s, Transform.toText.apply (.number (.integer n)) = .ok (some (.string s)) ∧
      (Transform.toInteger.apply (.string s) = .ok (some (.number (.integer n))) ↔ n.val < 2 ^ 63) ∧
      (2 ^ 63 ≤ n.val →
        Transform.toInteger.apply (.string s) =
          .error "number too large to fit in target type") := by
  refine ⟨n.text, rfl, ⟨fun back ↦ ?_, toInteger_text_of_lt⟩, toInteger_text_of_le⟩
  refine Int.not_le.1 fun large ↦ ?_
  rw [toInteger_text_of_le large] at back
  cases back

/-- The first integer beyond the signed range is let through as a number and refused as a text. -/
theorem word_lost_as_text :
    Transform.toInteger.apply (.number (.integer (.ofUInt64 0x8000000000000000))) =
      .ok (some (.number (.integer (.ofUInt64 0x8000000000000000)))) ∧
    Transform.toText.apply (.number (.integer (.ofUInt64 0x8000000000000000))) =
      .ok (some (.string "9223372036854775808")) ∧
    Transform.toInteger.apply (.string "9223372036854775808") =
      .error "number too large to fit in target type" :=
  ⟨rfl, rfl, rfl⟩

end Integer

end JsonTyping
