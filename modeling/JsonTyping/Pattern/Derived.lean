import JsonTyping.Pattern.CharSet

/-!
# Derived properties of characters

Many properties are made of general categories and a table of further characters. Each is given
here by the rule that derives it.
-/

namespace JsonTyping.CharSet

/-- The characters of some categories and some further ones. -/
def ofCategoriesAnd (categories : List Category) (others : CharRanges) : CharSet :=
  ofRanges (categories.flatMap Category.ranges ++ others)

/-! ### Case -/

/-- The characters of upper case. -/
def uppercase : CharSet := ofCategoriesAnd [.uppercaseLetter] otherUppercaseRanges

/-- The characters of lower case. -/
def lowercase : CharSet := ofCategoriesAnd [.lowercaseLetter] otherLowercaseRanges

/-- The letters of title case. -/
def titlecase : CharSet := ofCategories [.titlecaseLetter]

/-- The characters that have case. -/
def cased : CharSet := titlecase.union (uppercase.union lowercase)

/-- The characters that stand between letters without ending a word of one case. -/
def caseIgnorable : CharSet :=
  ofCategoriesAnd [.nonspacingMark, .enclosingMark, .format, .modifierLetter, .modifierSymbol]
    (midLetterRanges ++ midWordRanges ++ [(0x27, 0x27)])

/-- The characters that fold to another one. -/
def foldingSources : CharSet := ofRanges (foldings.map fun (source, _) ↦ (source, source))

/-- The characters that some conversion of case changes. -/
def changesWhenCasemapped : CharSet :=
  ofRanges (foldingSources.ranges ++ unfoldedCaseRanges ++
    foldings.map fun (_, target) ↦ (target, target))

/-- The characters that conversion to lower case changes. -/
def changesWhenLowercased : CharSet := changesWhenCasemapped.inter (uppercase.union titlecase)

/-- The characters that conversion to upper case changes. -/
def changesWhenUppercased : CharSet := changesWhenCasemapped.inter (lowercase.union titlecase)

/--
The characters that conversion to title case changes: those that have a form of upper case, but for
letters of title case and Georgian, which has none, and with digraphs that are upper case entirely.
-/
def changesWhenTitlecased : CharSet :=
  (changesWhenUppercased.difference (titlecase.union (ofRanges [(0x10D0, 0x10FF)]))).union
    (ofRanges [(0x1C4, 0x1C4), (0x1C7, 0x1C7), (0x1CA, 0x1CA), (0x1F1, 0x1F1)])

/-- The characters that full case folding changes. -/
def changesWhenCasefolded : CharSet :=
  (foldingSources.difference (ofRanges decomposedFoldingRanges)).union (ofRanges fullFoldingRanges)

/-! ### What is seen -/

/-- Mathematical signs. -/
def math : CharSet := ofCategoriesAnd [.mathSymbol] otherMathRanges

/-- The tags that marks on emoji are written with. -/
def tag : CharSet := ofRanges [(0xE0020, 0xE007F)]

/-- Characters that are not seen where they are not supported. -/
def defaultIgnorable : CharSet :=
  (ofCategoriesAnd [.format] (otherDefaultIgnorableRanges ++ variationSelectorRanges)).difference
    (ofRanges (blankRanges ++ prependedMarkRanges ++ [(0xFFF9, 0xFFFB), (0x13430, 0x1343F)]))

/-- Characters that are drawn with the one before them. -/
def graphemeExtend : CharSet :=
  ofCategoriesAnd [.nonspacingMark, .enclosingMark] otherGraphemeExtendRanges

/-- Characters that are drawn by themselves. -/
def graphemeBase : CharSet :=
  (ofCategories Category.all).difference <| graphemeExtend.union <|
    ofCategories (.lineSeparator :: .paragraphSeparator :: Category.unwritten)

/-- Code points that will never be characters in use. -/
def noncharacter : CharSet :=
  ofRanges ((0xFDD0, 0xFDEF) :: (List.range 17).map fun plane ↦
    (0x10000 * plane + 0xFFFE, 0x10000 * plane + 0xFFFF))

/-! ### Names in programs -/

/-- Characters with a fixed meaning in patterns, which no name contains. -/
def patternReserved : CharSet := ofRanges (patternSyntaxRanges ++ patternBlankRanges)

/-- Characters that may begin names. -/
def idStart : CharSet :=
  (ofCategoriesAnd (.letterNumber :: Category.letters) otherIdStartRanges).difference
    patternReserved

/-- Characters that may continue names. -/
def idContinue : CharSet :=
  (idStart.union (ofCategoriesAnd
    [.nonspacingMark, .spacingMark, .decimalNumber, .connectorPunctuation]
    otherIdContinueRanges)).difference patternReserved

/-- Characters that may continue names but whose compatible form may not. -/
def unstableContinue : CharSet :=
  ofRanges
    [(0x37A, 0x37A), (0x309B, 0x309C), (0xFC5E, 0xFC63), (0xFDFA, 0xFDFB), (0xFE70, 0xFE70),
      (0xFE72, 0xFE72), (0xFE74, 0xFE74), (0xFE76, 0xFE76), (0xFE78, 0xFE78), (0xFE7A, 0xFE7A),
      (0xFE7C, 0xFE7C), (0xFE7E, 0xFE7E)]

/-- Characters that may begin names but whose compatible form may not. -/
def unstableStart : CharSet :=
  unstableContinue.union (ofRanges [(0xE33, 0xE33), (0xEB3, 0xEB3), (0xFF9E, 0xFF9F)])

/-- Characters that may begin names whose compatible forms are names too. -/
def xidStart : CharSet := idStart.difference unstableStart

/-- Characters that may continue names whose compatible forms are names too. -/
def xidContinue : CharSet := idContinue.difference unstableContinue

end JsonTyping.CharSet
