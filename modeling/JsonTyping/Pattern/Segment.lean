import JsonTyping.Pattern.Derived
import JsonTyping.Text.Script
import JsonTyping.Text.Segmentation

/-!
# Classes of characters in segmented text

Texts are divided into what readers see as characters, into words and into sentences. For each of
these divisions every character belongs to one class; the classes of characters that play no part
have no name here.
-/

namespace JsonTyping.Pattern

/-- A class of characters: its names and its characters. -/
abbrev NamedSet := List String × CharSet

namespace Segment

/-! ### Common classes -/

/-- The first half of a line break of two characters. -/
def carriageReturn : CharSet := .single '\r'

/-- A line break, or the second half of one. -/
def lineFeed : CharSet := .single '\n'

/-- The sign that joins emoji. -/
def joiner : CharSet := .ofRanges [(0x200D, 0x200D)]

/-- Both signs that tell whether letters are joined. -/
def joiners : CharSet := .ofRanges joinerRanges

/-- Marks that span the characters after them. -/
def prepended : CharSet := .ofRanges prependedMarkRanges

/-- Letters that stand for countries in pairs. -/
def regionalIndicator : CharSet := .ofRanges regionalIndicatorRanges

/-- What goes with the character before it, whether or not it takes room. -/
def extended : CharSet := .union .graphemeExtend (.ofCategories [.spacingMark])

/-- Format characters that play no part of their own. -/
def plainFormat : CharSet :=
  CharSet.difference (.ofCategories [.format]) (joiners.union .tag)

/-- Marks that span digits after them; the one that spans letters is left out. -/
def digitSpanning : CharSet := prepended.difference (.ofRanges [(0x70F, 0x70F)])

/-! ### Characters as seen -/

/-- What goes with the character before it. -/
def graphemeExtension : CharSet := .union .graphemeExtend (.ofRanges emojiModifierRanges)

/-- What goes with the character after it. -/
def graphemePrepend : CharSet := prepended.union (.ofRanges attachedLetterRanges)

/-- What stands alone between other characters. -/
def graphemeControl : CharSet :=
  let unassigned := CharSet.complement (.ofCategories Category.all)
  (CharSet.union (.ofCategories [.control, .format, .lineSeparator, .paragraphSeparator])
      (unassigned.inter .defaultIgnorable)).difference <|
    ((carriageReturn.union lineFeed).union joiners).union (graphemePrepend.union .tag)

/-- Marks with room of their own that go with the character before them. -/
def graphemeSpacing : CharSet :=
  ((CharSet.ofCategories [.spacingMark]).difference
    (graphemeExtension.union (.ofRanges unspacedMarkRanges))).union
    (.ofRanges [(0xE33, 0xE33), (0xEB3, 0xEB3)])

/-- The code points of Korean syllables, which come in rows of 28. -/
def syllableRows : List Nat := (List.range 399).map fun row ↦ 0xAC00 + 28 * row

/-- The classes of characters as readers see them. -/
def graphemes : List NamedSet := [
  (["CR"], carriageReturn),
  (["LF"], lineFeed),
  (["Control", "CN"], graphemeControl),
  (["Extend", "EX"], graphemeExtension),
  (["Prepend", "PP"], graphemePrepend),
  (["SpacingMark", "SM"], graphemeSpacing),
  (["L"], .ofRanges initialJamoRanges),
  (["V"], .ofRanges vowelJamoRanges),
  (["T"], .ofRanges finalJamoRanges),
  (["LV"], .ofRanges (syllableRows.map fun first ↦ (first, first))),
  (["LVT"], .ofRanges (syllableRows.map fun first ↦ (first + 1, first + 27))),
  (["Regional_Indicator", "RI"], regionalIndicator),
  (["ZWJ"], joiner)]

/-! ### Words -/

/-- What goes with the character before it. -/
def wordExtension : CharSet := extended.union (.ofRanges emojiModifierRanges)

/-- Letters of words, of scripts that put spaces between words and have no class of their own. -/
def wordLetter : CharSet :=
  (CharSet.alphabetic.difference <| .ofRanges <|
    wordExtension.ranges ++ ideographRanges ++ katakanaRanges ++ hebrewLetterRanges ++
      Script.hiragana.ranges ++ complexContextRanges).union (.ofRanges wordLetterRanges)

/-- Digits and what goes with them. -/
def wordNumeric : CharSet :=
  (CharSet.digit.union digitSpanning).union (.ofRanges [(0x66B, 0x66B), (0x19DA, 0x19DA)])

/-- The classes of characters in words. -/
def words : List NamedSet := [
  (["CR"], carriageReturn),
  (["LF"], lineFeed),
  (["Newline", "NL"], .ofRanges [(0xB, 0xC), (0x85, 0x85), (0x2028, 0x2029)]),
  (["Extend"], wordExtension),
  (["ZWJ"], joiner),
  (["Format", "FO"], plainFormat.difference (prepended.union (.ofRanges [(0x200B, 0x200B)]))),
  (["Katakana", "KA"], .ofRanges katakanaRanges),
  (["Hebrew_Letter", "HL"], .ofRanges hebrewLetterRanges),
  (["ALetter", "LE"], wordLetter),
  (["Single_Quote", "SQ"], .ofRanges [(0x27, 0x27)]),
  (["Double_Quote", "DQ"], .ofRanges [(0x22, 0x22)]),
  (["MidNumLet", "MB"], .ofRanges midWordRanges),
  (["MidLetter", "ML"], .ofRanges midLetterRanges),
  (["MidNum", "MN"], .ofRanges midNumberRanges),
  (["Numeric", "NU"], wordNumeric),
  (["ExtendNumLet", "EX"], .ofCategoriesAnd [.connectorPunctuation] [(0x202F, 0x202F)]),
  (["Regional_Indicator", "RI"], regionalIndicator),
  (["WSegSpace"], CharSet.difference (.ofCategories [.spaceSeparator])
    (.ofRanges [(0xA0, 0xA0), (0x2007, 0x2007), (0x202F, 0x202F)]))]

/-! ### Sentences -/

/-- Full stops that may also stand inside a sentence. -/
def fullStop : CharSet :=
  .ofRanges [(0x2E, 0x2E), (0x2024, 0x2024), (0xFE52, 0xFE52), (0xFF0E, 0xFF0E)]

/-- Letters of lower case. -/
def sentenceLower : CharSet :=
  CharSet.lowercase.difference (CharSet.union .graphemeExtend
    (.ofRanges [(0x10D0, 0x10FA), (0x10FD, 0x10FF)]))

/-- Letters of upper case or title case. -/
def sentenceUpper : CharSet :=
  (CharSet.union .titlecase .uppercase).difference
    (.ofRanges [(0x1C90, 0x1CBA), (0x1CBD, 0x1CBF)])

/-- What goes with the character before it. -/
def sentenceExtension : CharSet := extended.union joiner

/-- The classes of characters in sentences. -/
def sentences : List NamedSet := [
  (["CR"], carriageReturn),
  (["LF"], lineFeed),
  (["Extend", "EX"], sentenceExtension),
  (["Sep", "SE"], .ofRanges [(0x85, 0x85), (0x2028, 0x2029)]),
  (["Format", "FO"], plainFormat.difference digitSpanning),
  (["Sp"], .ofRanges sentenceSpaceRanges),
  (["Lower", "LO"], sentenceLower),
  (["Upper", "UP"], sentenceUpper),
  (["OLetter", "LE"],
    (CharSet.alphabetic.difference
      ((sentenceLower.union sentenceUpper).union sentenceExtension)).union
      (.ofRanges [(0x5F3, 0x5F3)])),
  (["Numeric", "NU"], wordNumeric.union (.ofRanges [(0x66C, 0x66C)])),
  (["ATerm", "AT"], fullStop),
  (["SContinue", "SC"], .ofRanges sentenceContinueRanges),
  (["STerm", "ST"], CharSet.difference (.ofRanges sentenceTerminalRanges) fullStop),
  (["Close", "CL"],
    .ofCategoriesAnd
      [.openPunctuation, .closePunctuation, .initialPunctuation, .finalPunctuation]
      sentenceCloseRanges)]

end Segment

end JsonTyping.Pattern
