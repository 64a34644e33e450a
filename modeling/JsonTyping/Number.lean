import JsonTyping.Double.Nearest
import JsonTyping.Double.Text
import JsonTyping.Numeral.Integer

/-!
# Numbers of a JSON document

A number is an integer of the signed or the unsigned 64-bit range, or a finite double. The two
forms are kept apart: `1` and `1.0` are different numbers, although a comparison of sizes finds
neither larger.

Two integers of the signed range are compared exactly. Every other pair is compared after both
sides are rounded to doubles.
-/

namespace JsonTyping

/-- An integer of the signed or the unsigned 64-bit range. -/
structure Integer where
  val : Int
  lower : -0x8000000000000000 ≤ val
  upper : val < 0x10000000000000000
deriving DecidableEq

namespace Integer

/-- An integer, if it lies in the range. -/
def ofInt? (n : Int) : Option Integer :=
  if h : -0x8000000000000000 ≤ n ∧ n < 0x10000000000000000 then some ⟨n, h.1, h.2⟩ else none

theorem ofInt?_eq_some_iff {m : Int} {n : Integer} : ofInt? m = some n ↔ n.val = m := by
  rw [ofInt?]
  constructor
  · intro found
    split at found
    · cases found
      rfl
    · cases found
  · rintro rfl
    rw [dif_pos ⟨n.lower, n.upper⟩]

/-- An unsigned word as an integer. -/
def ofUInt64 (n : UInt64) : Integer :=
  ⟨n.toNat, by omega, by have := n.toNat_lt; omega⟩

/-- The integer as a number of the signed 64-bit range, if it lies there. -/
def signed? (n : Integer) : Option Int :=
  if n.val < 0x8000000000000000 then some n.val else none

/-- The nearest double. -/
def toDouble (n : Integer) : Double :=
  Double.ofInt n.val (by have := n.lower; have := n.upper; omega)

/-- The decimal text of an integer, with a sign if it is negative. -/
def text (n : Integer) : String :=
  let digits := Nat.toDigits 10 n.val.natAbs
  String.ofList (if n.val < 0 then '-' :: digits else digits)

end Integer

/-- A JSON number. -/
inductive Number where
  | integer (n : Integer)
  | double (d : Double)
deriving DecidableEq

namespace Number

/-- Numbers are equal if they have one form and one value. -/
instance : BEq Number where
  beq
    | .integer a, .integer b => a.val == b.val
    | .double a, .double b => a == b
    | _, _ => false

/-- The number as an integer of the signed 64-bit range, if it is one. -/
def signed? : Number → Option Int
  | .integer n => n.signed?
  | .double _ => none

/-- The nearest double. -/
def toDouble : Number → Double
  | .integer n => n.toDouble
  | .double d => d

/-- Compares exactly in the signed 64-bit range and by nearest doubles elsewhere. -/
def order (a b : Number) : Ordering :=
  match a.signed?, b.signed? with
  | some m, some n => compare m n
  | _, _ => a.toDouble.order b.toDouble

/-- The text of a number. -/
def text : Number → String
  | .integer n => n.text
  | .double d => d.text

end Number

end JsonTyping
