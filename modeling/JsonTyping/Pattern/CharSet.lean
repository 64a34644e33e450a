import JsonTyping.Text.Blank
import JsonTyping.Text.CaseFolding
import JsonTyping.Text.Category
import JsonTyping.Text.Property
import JsonTyping.Text.Segmentation

/-!
# Sets of characters in patterns

A character set is listed by ranges of code points in increasing order that neither overlap nor
touch. Every set has one such list, so that equality of sets is equality of lists and the number of
ranges is a measure of the set. Surrogates are no characters and lie in no set.
-/

namespace JsonTyping

/-- A set of characters, to be built by the operations below. -/
structure CharSet where
  ranges : CharRanges
deriving DecidableEq

namespace CharSet

/-! ### Sets and ranges -/

/-- The parts of a range of code points that are characters. -/
def cutSurrogates (range : Nat × Nat) : CharRanges :=
  [(range.1, min range.2 0xD7FF), (max range.1 0xE000, min range.2 0x10FFFF)].filter
    fun (low, high) ↦ low ≤ high

/-- Puts a range in front of ranges that start no earlier, joining those that it reaches. -/
def join (low high : Nat) : CharRanges → CharRanges
  | [] => [(low, high)]
  | (low', high') :: rest =>
    if low' ≤ high + 1 then join low (max high high') rest
    else (low, high) :: join low' high' rest

/-- The set of the characters in some ranges, which may overlap and come in any order. -/
def ofRanges (ranges : CharRanges) : CharSet :=
  match (ranges.flatMap cutSurrogates).mergeSort (fun a b ↦ a.1 ≤ b.1) with
  | [] => ⟨[]⟩
  | (low, high) :: rest => ⟨join low high rest⟩

/-- Whether a code point is in a set. -/
def has (set : CharSet) (code : Nat) : Bool :=
  set.ranges.any fun (low, high) ↦ low ≤ code && code ≤ high

/-- Whether a character is in a set. -/
def contains (set : CharSet) (c : Char) : Bool := set.ranges.contains c

/-- The empty set. -/
def none : CharSet := ⟨[]⟩

/-- All characters between two, both included. -/
def range (low high : Char) : CharSet := ofRanges [(low.toNat, high.toNat)]

/-- The set of one character. -/
def single (c : Char) : CharSet := range c c

/-- The set of the listed characters. -/
def ofChars (cs : List Char) : CharSet := ofRanges (cs.map fun c ↦ (c.toNat, c.toNat))

/-- The characters of some categories. -/
def ofCategories (categories : List Category) : CharSet :=
  ofRanges (categories.flatMap Category.ranges)

/-! ### Operations -/

/-- The characters of two sets. -/
def union (a b : CharSet) : CharSet := ofRanges (a.ranges ++ b.ranges)

/-- The code points from one on that lie outside of increasing ranges. -/
def gaps (start : Nat) : CharRanges → CharRanges
  | [] => [(start, 0x10FFFF)]
  | (low, high) :: rest =>
    if start < low then (start, low - 1) :: gaps (high + 1) rest else gaps (high + 1) rest

/-- The characters that are not in a set. -/
def complement (set : CharSet) : CharSet := ofRanges (gaps 0 set.ranges)

/-- The characters that are in both sets. -/
def inter (a b : CharSet) : CharSet := complement (union (complement a) (complement b))

/-- The characters of the first set that are not in the second. -/
def difference (a b : CharSet) : CharSet := inter a (complement b)

/-- The characters that are in one of the sets only. -/
def symmetricDifference (a b : CharSet) : CharSet := union (difference a b) (difference b a)

/--
Adds the characters that fold to the same character as one in the set, where foldings list each
character together with the one that it folds to.
-/
def closeUnder (foldings : List (Nat × Nat)) (set : CharSet) : CharSet :=
  let folds := foldings.filter fun (source, target) ↦ set.has source || set.has target
  let targets := ofRanges (folds.map fun (_, target) ↦ (target, target))
  let sources := foldings.filter fun (_, target) ↦ targets.has target
  ofRanges (set.ranges ++ targets.ranges ++ sources.map fun (source, _) ↦ (source, source))

/-- Whether all characters of a set are in ASCII. -/
def isAscii (set : CharSet) : Bool := set.ranges.all fun (_, high) ↦ high < 0x80

/-- The only character of a set that has just one. -/
def only? (set : CharSet) : Option Char :=
  match set.ranges with
  | [(low, high)] => if low = high then some (Char.ofNat low) else Option.none
  | _ => Option.none

/-! ### Classes -/

/-- The decimal digits of all scripts. -/
def digit : CharSet := ofRanges Category.decimalNumber.ranges

/-- White space. -/
def space : CharSet := ofRanges blankRanges

/-- The characters that are letters in a wide sense. -/
def alphabetic : CharSet :=
  ofRanges ((Category.letterNumber :: Category.letters).flatMap Category.ranges ++
    otherAlphabeticRanges)

/-- The characters of words: letters, marks, digits, low lines and joiners. -/
def word : CharSet :=
  ofRanges (alphabetic.ranges ++ joinerRanges ++
    (.decimalNumber :: .connectorPunctuation :: Category.marks).flatMap Category.ranges)

/-- The ASCII letters. -/
def asciiLetter : CharSet := union (range 'a' 'z') (range 'A' 'Z')

/-- The ASCII digits. -/
def asciiDigit : CharSet := range '0' '9'

/-- The hexadecimal digits of ASCII. -/
def asciiHexDigit : CharSet := union asciiDigit (union (range 'a' 'f') (range 'A' 'F'))

/-- The white space of ASCII. -/
def asciiSpace : CharSet := ofChars ['\t', '\n', '\x0b', '\x0c', '\r', ' ']

/-- The word characters of ASCII. -/
def asciiWord : CharSet := union (union asciiLetter asciiDigit) (single '_')

/-- The ASCII class with a name, if there is one. -/
def named? : String → Option CharSet
  | "alnum" => some (union asciiLetter asciiDigit)
  | "alpha" => some asciiLetter
  | "ascii" => some (range '\x00' '\x7f')
  | "blank" => some (ofChars ['\t', ' '])
  | "cntrl" => some (union (range '\x00' '\x1f') (single '\x7f'))
  | "digit" => some asciiDigit
  | "graph" => some (range '!' '~')
  | "lower" => some (range 'a' 'z')
  | "print" => some (range ' ' '~')
  | "punct" => some (difference (range '!' '~') (union asciiLetter asciiDigit))
  | "space" => some asciiSpace
  | "upper" => some (range 'A' 'Z')
  | "word" => some asciiWord
  | "xdigit" => some asciiHexDigit
  | _ => Option.none

end CharSet

end JsonTyping
