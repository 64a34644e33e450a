import JsonTyping.Double.Nearest
import JsonTyping.Numeral.Digits

/-!
# Floating-point numerals

A floating-point numeral is an optional sign followed by digits with an optional point and an
optional power of ten, or by a word for infinity or for an undefined result. Digits are needed on
one side of the point at least. A numeral denotes the nearest double; one that is too large, and
one that is a word, denotes no finite number.
-/

namespace JsonTyping

/-- Why a text is no floating-point numeral. -/
inductive FloatNumeralError where
  | empty
  | invalid
deriving DecidableEq, Repr

/-- The wording of a floating-point numeral error. -/
def FloatNumeralError.message : FloatNumeralError → String
  | .empty => "cannot parse float from empty string"
  | .invalid => "invalid float literal"

namespace FloatNumeral

/-- A sign at the front, if there is one, and what follows it. -/
def splitSign : List Char → Bool × List Char
  | '-' :: rest => (true, rest)
  | '+' :: rest => (false, rest)
  | cs => (false, cs)

/-- The power of ten at the end of a numeral, where nothing at all means no power. -/
def readExponent? : List Char → Option Int
  | [] => some 0
  | mark :: rest =>
    let (negative, digits) := splitSign rest
    if (mark = 'e' ∨ mark = 'E') ∧ digits ≠ [] ∧ digits.all Char.isDigit then
      some (if negative then -(valueOfDigits digits : Int) else valueOfDigits digits)
    else
      none

/-- The fraction of a numeral with its point, if there is one, and what follows it. -/
def splitFraction : List Char → List Char × List Char
  | '.' :: rest => (rest.takeWhile Char.isDigit, rest.dropWhile Char.isDigit)
  | cs => ([], cs)

/-- The decimal that a numeral without a sign denotes. -/
def readDecimal? (negative : Bool) (cs : List Char) : Option Decimal :=
  let whole := cs.takeWhile Char.isDigit
  let (fraction, rest) := splitFraction (cs.dropWhile Char.isDigit)
  if whole = [] ∧ fraction = [] then none
  else
    (readExponent? rest).map fun exponent ↦
      ⟨negative, valueOfDigits (whole ++ fraction), exponent - fraction.length⟩

/-- Whether a text is, in any case, a word for a number that is not finite. -/
def isNonFiniteWord (cs : List Char) : Bool :=
  ["inf", "infinity", "nan"].contains (String.ofList (cs.map Char.toLower))

/-- The finite double that a numeral denotes, if it denotes one. -/
def read (cs : List Char) : Except FloatNumeralError (Option Double) :=
  let (negative, magnitude) := splitSign cs
  if cs = [] then .error .empty
  else if isNonFiniteWord magnitude then .ok none
  else
    match readDecimal? negative magnitude with
    | some decimal => .ok decimal.toDouble?
    | none => .error .invalid

end FloatNumeral

end JsonTyping
