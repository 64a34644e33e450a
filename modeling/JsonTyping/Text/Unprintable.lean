import JsonTyping.Text.Category
import JsonTyping.Text.Property
import JsonTyping.Text.Recent

/-!
# Characters that diagnostics write by number

Control, format, private-use and unassigned characters, separators other than the plain space, the
marks that attach to the character before them, and letters that fill a place without being seen.
None of them can be told apart on a page, so diagnostic text gives their code points.
-/

namespace JsonTyping

/-- Letters of Korean that stand for no sound and are not seen. -/
def fillerRanges : CharRanges :=
  [(0x115F, 0x1160), (0x3164, 0x3164), (0xFFA0, 0xFFA0)]

/-- Voicing marks of half width, which attach to the character before them and yet stand alone. -/
def standaloneMarkRanges : CharRanges := [(0xFF9E, 0xFF9F)]

/-- Whether a character is drawn with the one before it. -/
def isAttached (c : Char) : Bool :=
  [Category.nonspacingMark, .enclosingMark].any (·.contains c) || recentMarkRanges.contains c ||
    (otherGraphemeExtendRanges.contains c && !standaloneMarkRanges.contains c)

/-- Whether a character is in use, recently or for longer. -/
def isAssigned (c : Char) : Bool :=
  !isUnassigned c || recentLetterRanges.contains c || recentDigitRanges.contains c ||
    recentSignRanges.contains c

/-- Whether diagnostic text writes a character by number. -/
def isUnprintable (c : Char) : Bool :=
  if 0x20 ≤ c.toNat ∧ c.toNat < 0x7F then false
  else
    (Category.unwritten ++ Category.separators).any (·.contains c) || isAttached c ||
      fillerRanges.contains c || !isAssigned c

end JsonTyping
