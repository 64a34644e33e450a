import JsonTyping.Pattern.CharSet

/-!
# Sets of characters as ranges of bytes

Automata read text byte by byte. A set of characters becomes a list of sequences of byte ranges, in
increasing order: a text of one character is in the set if its bytes lie in the ranges of one of
the sequences. To that end ranges of characters are cut where the number of bytes changes, and
where all but the first bytes of the remaining range would not be free.
-/

namespace JsonTyping.Pattern

/-- A range of bytes, both ends included. -/
abbrev ByteRange := Nat × Nat

/-- The bytes of a code point. -/
def bytesOf (code : Nat) : List Nat :=
  if code < 0x80 then [code]
  else if code < 0x800 then [0xC0 + code / 0x40, 0x80 + code % 0x40]
  else if code < 0x10000 then [0xE0 + code / 0x1000, 0x80 + code / 0x40 % 0x40, 0x80 + code % 0x40]
  else
    [0xF0 + code / 0x40000, 0x80 + code / 0x1000 % 0x40, 0x80 + code / 0x40 % 0x40,
      0x80 + code % 0x40]

/-- Cuts a range of code points where the number of bytes changes. -/
def cutByLength (range : Nat × Nat) : CharRanges :=
  let cuts : CharRanges := [(0, 0x7F), (0x80, 0x7FF), (0x800, 0xFFFF), (0x10000, 0x10FFFF)]
  (cuts.map fun (low, high) ↦ (max low range.1, min high range.2)).filter
    fun (low, high) ↦ low ≤ high

/-- Cuts off what does not fill whole blocks at both ends of a range that spans several blocks. -/
def cutByBlock (block : Nat) (range : Nat × Nat) : CharRanges :=
  let (low, high) := range
  if low / block = high / block then [range]
  else
    let start := (low + block - 1) / block * block
    let stop := (high + 1) / block * block
    [(low, start), (start, stop), (stop, high + 1)].filterMap fun (low, stop) ↦
      if low < stop then some (low, stop - 1) else none

/-- The sequences of byte ranges of a range of code points. -/
def encodeRange (range : Nat × Nat) : List (List ByteRange) :=
  (cutByLength range).flatMap fun piece ↦
    let pieces :=
      if piece.2 < 0x80 then [piece]
      else
        ((cutByBlock 0x40 piece).flatMap (cutByBlock 0x1000)).flatMap (cutByBlock 0x40000)
    pieces.map fun (low, high) ↦ (bytesOf low).zip (bytesOf high)

/-- The sequences of byte ranges of a set. -/
def encode (set : CharSet) : List (List ByteRange) := set.ranges.flatMap encodeRange

end JsonTyping.Pattern
