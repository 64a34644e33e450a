import JsonTyping.Double.Basic
import JsonTyping.Numeral.Digits

/-!
# The shortest decimal that reads back

Every double owns the interval of reals that round to it: the points nearer to it than to its two
neighbours, with the ends included exactly when its rank is even, since a tie goes to the even
rank. `shortest r` is the point of that interval that is written with the fewest significant
digits, of several such points the one nearest to the double, and of two equally near the even
one.

A grid of decimals with a fixed number of significant digits meets the interval only if one of the
double's two neighbours on the grid lies in it, so two points per grid are enough. All of it is
exact arithmetic on natural numbers: lengths are counted in half units and multiplied by `10 ^ 400`,
which makes every quantity involved whole.
-/

namespace JsonTyping

namespace Shortest

/-- Powers of ten down to this one are whole numbers after scaling. -/
def decimalPlaces : Nat := 400

/-- The middle of the gap between the doubles of ranks `r` and `r + 1`, scaled. -/
def midpoint (r : Nat) : Nat :=
  (magnitudeOfRank r + magnitudeOfRank (r + 1)) * tenTo decimalPlaces

/-- The double of rank `r`, scaled. -/
def centre (r : Nat) : Nat := 2 * magnitudeOfRank r * tenTo decimalPlaces

/-- The scaled point reads back as the double of rank `r`, which is not zero. -/
def readsBack (r point : Nat) : Bool :=
  if r % 2 = 0 then midpoint (r - 1) ≤ point ∧ point ≤ midpoint r
  else midpoint (r - 1) < point ∧ point < midpoint r

/-- The power of ten of the leading digit of the double of rank `r`. -/
def leadingExponent (r : Nat) : Int :=
  (Nat.toDigits 10 (centre r / (2 * unitsPerOne))).length - 1 - decimalPlaces

/--
The point with `count` significant digits that reads back as the double of rank `r` and is nearest
to it, as digits and the power of ten of the last digit.
-/
def onGrid? (r count : Nat) : Option (Nat × Int) :=
  let exponent := leadingExponent r - (count - 1)
  let step := tenTo (exponent + decimalPlaces).toNat * (2 * unitsPerOne)
  let below := centre r / step
  let hits := [below, below + 1].filter fun digits ↦ readsBack r (digits * step)
  match hits with
  | [] => none
  | [digits] => some (digits, exponent)
  | _ =>
    match compare (2 * (centre r - below * step)) step with
    | .lt => some (below, exponent)
    | .gt => some (below + 1, exponent)
    | .eq => some (below + below % 2, exponent)

end Shortest

/--
The shortest decimal that reads back as the double of rank `r`: its significant digits, without
zeros at the end, and the power of ten of the first. Zero has no significant digit.
-/
def shortest (r : Nat) : List Char × Int :=
  if r = 0 then ([], 0)
  else
    let counts := (List.range 17).map (· + 1)
    let (digits, exponent) := (counts.findSome? (Shortest.onGrid? r)).getD (0, 0)
    let written := Nat.toDigits 10 digits
    (written.reverse.dropWhile (· == '0') |>.reverse, exponent + (written.length - 1))

end JsonTyping
