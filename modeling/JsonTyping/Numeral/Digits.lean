/-!
# Decimal digits

The value of a run of decimal digits, and the digits of a natural number. Only the ten ASCII
digits count here; `Nat.toDigits 10` is the written form of a natural number.
-/

namespace JsonTyping

/-- The value of a digit, for characters that are digits. -/
def digitValue (c : Char) : Nat := c.toNat - '0'.toNat

/-- The number that a run of digits denotes, the empty run denoting zero. -/
def valueOfDigits (digits : List Char) : Nat :=
  digits.foldl (fun value c ↦ 10 * value + digitValue c) 0

/-- Ten to a power. -/
def tenTo (n : Nat) : Nat := Nat.pow 10 n

/-- The digits of a number, filled with zeros on the left up to a width. -/
def paddedDigits (width n : Nat) : List Char :=
  let digits := Nat.toDigits 10 n
  List.replicate (width - digits.length) '0' ++ digits

/-- The value of a hexadecimal digit of either case. -/
def hexDigit? (c : Char) : Option Nat :=
  if c.isDigit then some (digitValue c)
  else if 'a' ≤ c ∧ c ≤ 'f' then some (c.toNat - 'a'.toNat + 10)
  else if 'A' ≤ c ∧ c ≤ 'F' then some (c.toNat - 'A'.toNat + 10)
  else none

theorem valueOfDigits_toDigits (n : Nat) : valueOfDigits (Nat.toDigits 10 n) = n :=
  Nat.ofDigitChars_ten_toDigits

/-! ### Padded digits -/

section PaddedDigits

variable {width n : Nat} {c : Char}

theorem isDigit_of_mem_paddedDigits (mem : c ∈ paddedDigits width n) : c.isDigit = true := by
  rcases List.mem_append.1 mem with zero | digit
  · rw [List.eq_of_mem_replicate zero]
    decide
  · exact Nat.isDigit_of_mem_toDigits (by decide) (by decide) digit

theorem paddedDigits_ne_nil (width n : Nat) : paddedDigits width n ≠ [] :=
  List.append_ne_nil_of_right_ne_nil _ Nat.toDigits_ne_nil

/-- Zeros on the left do not matter. -/
theorem valueOfDigits_paddedDigits (width n : Nat) : valueOfDigits (paddedDigits width n) = n := by
  have fold : valueOfDigits (paddedDigits width n) = Nat.ofDigitChars 10 (paddedDigits width n) 0 :=
    rfl
  rw [fold, paddedDigits, Nat.ofDigitChars_append, Nat.ofDigitChars_replicate_zero, Nat.mul_zero,
    Nat.ofDigitChars_ten_toDigits]

theorem le_length_paddedDigits (width n : Nat) : width ≤ (paddedDigits width n).length := by
  rw [paddedDigits, List.length_append, List.length_replicate]
  omega

/-- A number that fits the width is written with exactly so many digits. -/
theorem length_paddedDigits (positive : 0 < width) (fits : n < tenTo width) :
    (paddedDigits width n).length = width := by
  have short : (Nat.toDigits 10 n).length ≤ width :=
    (Nat.length_toDigits_le_iff (by decide) positive).2 fits
  rw [paddedDigits, List.length_append, List.length_replicate]
  omega

end PaddedDigits

end JsonTyping
