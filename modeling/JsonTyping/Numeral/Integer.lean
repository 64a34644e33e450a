import JsonTyping.Numeral.Digits

/-!
# Integer numerals

An integer numeral is an optional sign and at least one digit, denoting a number of the signed
64-bit range. It is read from left to right and the first offence is reported, so a character
that is no digit wins over an overflow further on, and the other way round.
-/

namespace JsonTyping

/-- Why a text is no integer numeral. -/
inductive IntegerNumeralError where
  | empty
  | invalidDigit
  | tooLarge
  | tooSmall
deriving DecidableEq, Repr

/-- The wording of an integer numeral error. -/
def IntegerNumeralError.message : IntegerNumeralError → String
  | .empty => "cannot parse integer from empty string"
  | .invalidDigit => "invalid digit found in string"
  | .tooLarge => "number too large to fit in target type"
  | .tooSmall => "number too small to fit in target type"

namespace IntegerNumeral

/-- Continues a number of the given sign with more digits. -/
def readDigits (negative : Bool) (value : Int) : List Char → Except IntegerNumeralError Int
  | [] => .ok value
  | c :: rest =>
    if c.isDigit then
      let next := if negative then 10 * value - digitValue c else 10 * value + digitValue c
      if next < -0x8000000000000000 then .error .tooSmall
      else if 0x8000000000000000 ≤ next then .error .tooLarge
      else readDigits negative next rest
    else
      .error .invalidDigit

/-- Continues a signed numeral after its sign, where a digit has to follow. -/
def readMagnitude (negative : Bool) : List Char → Except IntegerNumeralError Int
  | [] => .error .invalidDigit
  | digits => readDigits negative 0 digits

/-- The number that an integer numeral denotes. -/
def read : List Char → Except IntegerNumeralError Int
  | [] => .error .empty
  | '-' :: rest => readMagnitude true rest
  | '+' :: rest => readMagnitude false rest
  | digits => readMagnitude false digits

end IntegerNumeral

end JsonTyping
