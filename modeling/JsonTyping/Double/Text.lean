import JsonTyping.Double.Shortest

/-!
# The text of a double

A double is written with its shortest digits. The layout is positional while the leading digit's
power of ten lies in a window around one, and scientific outside it; positional text always has a
fraction, scientific text has one only if there is a second digit.
-/

namespace JsonTyping

/-- How digits and a power of ten are laid out. -/
structure NumeralLayout where
  /-- The smallest leading power of ten that is written positionally. -/
  leastPositional : Int
  /-- The largest leading power of ten that is written positionally. -/
  greatestPositional : Int

/-- Numbers from a hundred-thousandth up to ten quadrillion are written positionally. -/
def NumeralLayout.standard : NumeralLayout := ⟨-5, 15⟩

namespace NumeralLayout

/-- Digits around a decimal point, with a fraction in every case. -/
def positional (digits : List Char) (exponent : Int) : List Char :=
  if exponent < 0 then
    '0' :: '.' :: (List.replicate (-exponent - 1).toNat '0' ++ digits)
  else
    let width := exponent.toNat + 1
    let fraction := digits.drop width
    digits.take width ++ List.replicate (width - digits.length) '0' ++
      '.' :: if fraction.isEmpty then ['0'] else fraction

/-- One digit, the others after a point, and the signed power of ten. -/
def scientific (digits : List Char) (exponent : Int) : List Char :=
  let fraction := digits.drop 1
  let sign := if exponent < 0 then '-' else '+'
  digits.take 1 ++ (if fraction.isEmpty then [] else '.' :: fraction) ++
    'e' :: sign :: Nat.toDigits 10 exponent.natAbs

/-- Lays out significant digits whose first has the given power of ten. -/
def write (layout : NumeralLayout) (digits : List Char) (exponent : Int) : List Char :=
  if layout.leastPositional ≤ exponent ∧ exponent ≤ layout.greatestPositional then
    positional digits exponent
  else
    scientific digits exponent

end NumeralLayout

/-- The text of a double: its sign and its shortest digits. -/
def Double.text (d : Double) : String :=
  let (digits, exponent) := shortest d.rank
  let magnitude := NumeralLayout.standard.write digits exponent
  String.ofList (if d.negative then '-' :: magnitude else magnitude)

end JsonTyping
