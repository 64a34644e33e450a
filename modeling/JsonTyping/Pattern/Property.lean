import JsonTyping.Pattern.Flags
import JsonTyping.Pattern.Segment
import JsonTyping.Text.Age
import JsonTyping.Text.SharedScript

/-!
# Properties of characters in patterns

The escapes `\p` and `\P` name a property: one letter, or in braces a general category, a script
or another property, or what a value is a value of together with the value. Names are compared in a
normal form, in which spelling variants agree.
-/

namespace JsonTyping.Pattern.Property

/-! ### Names -/

/--
A name as names are compared: in lower case, without spaces, low lines, hyphens and characters
beyond ASCII, and without the word `is` in front of it, unless only a `c` is left.
-/
def normalForm (name : List Char) : List Char :=
  let simplify (cs : List Char) : List Char :=
    (cs.filter fun c ↦ c.toNat < 0x80 && c != ' ' && c != '_' && c != '-').map Char.toLower
  match name with
  | i :: s :: rest =>
    if i.toLower = 'i' ∧ s.toLower = 's' then
      let form := simplify rest
      if form = ['c'] then ['i', 's', 'c'] else form
    else
      simplify name
  | _ => simplify name

/-- Whether one of the spellings of a name has a normal form. -/
def isNamed (form : List Char) (names : List String) : Bool :=
  names.any (normalForm ·.toList = form)

/-! ### Sets with names -/

/-- The sets of the general categories and of groups of them, with their names. -/
def categories : List NamedSet := [
  (["Lu", "Uppercase_Letter"], .ofCategories [.uppercaseLetter]),
  (["Ll", "Lowercase_Letter"], .ofCategories [.lowercaseLetter]),
  (["Lt", "Titlecase_Letter"], .ofCategories [.titlecaseLetter]),
  (["LC", "Cased_Letter"], .ofCategories Category.casedLetters),
  (["Lm", "Modifier_Letter"], .ofCategories [.modifierLetter]),
  (["Lo", "Other_Letter"], .ofCategories [.otherLetter]),
  (["L", "Letter"], .ofCategories Category.letters),
  (["Mn", "Nonspacing_Mark"], .ofCategories [.nonspacingMark]),
  (["Mc", "Spacing_Mark"], .ofCategories [.spacingMark]),
  (["Me", "Enclosing_Mark"], .ofCategories [.enclosingMark]),
  (["M", "Mark", "Combining_Mark"], .ofCategories Category.marks),
  (["Nd", "Decimal_Number", "digit"], .digit),
  (["Nl", "Letter_Number"], .ofCategories [.letterNumber]),
  (["No", "Other_Number"], .ofCategories [.otherNumber]),
  (["N", "Number"], .ofCategories Category.numbers),
  (["Pc", "Connector_Punctuation"], .ofCategories [.connectorPunctuation]),
  (["Pd", "Dash_Punctuation"], .ofCategories [.dashPunctuation]),
  (["Ps", "Open_Punctuation"], .ofCategories [.openPunctuation]),
  (["Pe", "Close_Punctuation"], .ofCategories [.closePunctuation]),
  (["Pi", "Initial_Punctuation"], .ofCategories [.initialPunctuation]),
  (["Pf", "Final_Punctuation"], .ofCategories [.finalPunctuation]),
  (["Po", "Other_Punctuation"], .ofCategories [.otherPunctuation]),
  (["P", "Punctuation", "punct"], .ofCategories Category.punctuation),
  (["Sm", "Math_Symbol"], .ofCategories [.mathSymbol]),
  (["Sc", "Currency_Symbol"], .ofCategories [.currencySymbol]),
  (["Sk", "Modifier_Symbol"], .ofCategories [.modifierSymbol]),
  (["So", "Other_Symbol"], .ofCategories [.otherSymbol]),
  (["S", "Symbol"], .ofCategories Category.symbols),
  (["Zs", "Space_Separator"], .ofCategories [.spaceSeparator]),
  (["Zl", "Line_Separator"], .ofCategories [.lineSeparator]),
  (["Zp", "Paragraph_Separator"], .ofCategories [.paragraphSeparator]),
  (["Z", "Separator"], .ofCategories Category.separators),
  (["Cc", "Control", "cntrl"], .ofCategories [.control]),
  (["Cf", "Format"], .ofCategories [.format]),
  (["Co", "Private_Use"], .ofCategories [.privateUse]),
  (["Cn", "Unassigned"], .complement (.ofCategories Category.all)),
  (["C", "Other"],
    .union (.ofCategories Category.unwritten) (.complement (.ofCategories Category.all))),
  (["Any"], .complement .none),
  (["Assigned"], .ofCategories Category.all),
  (["ASCII"], .range '\x00' '\x7f')]

/-- The sets of further properties, with their names. -/
def others : List NamedSet := [
  (["ASCII_Hex_Digit", "AHex"], .asciiHexDigit),
  (["Alphabetic", "Alpha"], .alphabetic),
  (["Bidi_Control", "Bidi_C"], .ofRanges bidiControlRanges),
  (["Bidi_Mirrored", "Bidi_M"], .ofRanges bidiMirroredRanges),
  (["Case_Ignorable", "CI"], .caseIgnorable),
  (["Cased"], .cased),
  (["Changes_When_Casefolded", "CWCF"], .changesWhenCasefolded),
  (["Changes_When_Casemapped", "CWCM"], .changesWhenCasemapped),
  (["Changes_When_Lowercased", "CWL"], .changesWhenLowercased),
  (["Changes_When_Titlecased", "CWT"], .changesWhenTitlecased),
  (["Changes_When_Uppercased", "CWU"], .changesWhenUppercased),
  (["Dash"], .ofRanges dashRanges),
  (["Default_Ignorable_Code_Point", "DI"], .defaultIgnorable),
  (["Deprecated", "Dep"], .ofRanges deprecatedRanges),
  (["Diacritic", "Dia"], .ofRanges diacriticRanges),
  (["Emoji"], .ofRanges emojiRanges),
  (["Emoji_Component", "EComp"], .ofRanges emojiComponentRanges),
  (["Emoji_Modifier", "EMod"], .ofRanges emojiModifierRanges),
  (["Emoji_Modifier_Base", "EBase"], .ofRanges emojiModifierBaseRanges),
  (["Emoji_Presentation", "EPres"], .ofRanges emojiPresentationRanges),
  (["Extended_Pictographic", "ExtPict"], .ofRanges pictographRanges),
  (["Extender", "Ext"], .ofRanges extenderRanges),
  (["Grapheme_Base", "Gr_Base"], .graphemeBase),
  (["Grapheme_Extend", "Gr_Ext"], .graphemeExtend),
  (["Grapheme_Link", "Gr_Link"], .ofRanges graphemeLinkRanges),
  (["Hex_Digit", "Hex"], .ofRanges hexDigitRanges),
  (["Hyphen"], .ofRanges hyphenRanges),
  (["IDS_Binary_Operator", "IDSB"], .ofRanges binaryCompositionRanges),
  (["IDS_Trinary_Operator", "IDST"], .ofRanges ternaryCompositionRanges),
  (["IDS_Unary_Operator", "IDSU"], .ofRanges unaryCompositionRanges),
  (["ID_Compat_Math_Continue"], .ofRanges (mathIdStartRanges ++ mathIdContinueRanges)),
  (["ID_Compat_Math_Start"], .ofRanges mathIdStartRanges),
  (["ID_Continue", "IDC"], .idContinue),
  (["ID_Start", "IDS"], .idStart),
  (["Ideographic", "Ideo"], .ofRanges ideographRanges),
  (["Join_Control", "Join_C"], .ofRanges joinerRanges),
  (["Logical_Order_Exception", "LOE"], .ofRanges logicalOrderExceptionRanges),
  (["Lowercase", "Lower"], .lowercase),
  (["Math"], .math),
  (["Modifier_Combining_Mark", "MCM"], .ofRanges modifierCombiningMarkRanges),
  (["Noncharacter_Code_Point", "NChar"], .noncharacter),
  (["Other_Alphabetic", "OAlpha"], .ofRanges otherAlphabeticRanges),
  (["Other_Default_Ignorable_Code_Point", "ODI"], .ofRanges otherDefaultIgnorableRanges),
  (["Other_Grapheme_Extend", "OGr_Ext"], .ofRanges otherGraphemeExtendRanges),
  (["Other_ID_Continue", "OIDC"], .ofRanges otherIdContinueRanges),
  (["Other_ID_Start", "OIDS"], .ofRanges otherIdStartRanges),
  (["Other_Lowercase", "OLower"], .ofRanges otherLowercaseRanges),
  (["Other_Math", "OMath"], .ofRanges otherMathRanges),
  (["Other_Uppercase", "OUpper"], .ofRanges otherUppercaseRanges),
  (["Pattern_Syntax", "Pat_Syn"], .ofRanges patternSyntaxRanges),
  (["Pattern_White_Space", "Pat_WS"], .ofRanges patternBlankRanges),
  (["Prepended_Concatenation_Mark", "PCM"], .ofRanges prependedMarkRanges),
  (["Quotation_Mark", "QMark"], .ofRanges quotationMarkRanges),
  (["Radical"], .ofRanges radicalRanges),
  (["Regional_Indicator", "RI"], .ofRanges regionalIndicatorRanges),
  (["Sentence_Terminal", "STerm"], .ofRanges sentenceTerminalRanges),
  (["Soft_Dotted", "SD"], .ofRanges softDottedRanges),
  (["Terminal_Punctuation", "Term"], .ofRanges terminalPunctuationRanges),
  (["Unified_Ideograph", "UIdeo"], .ofRanges unifiedIdeographRanges),
  (["Uppercase", "Upper"], .uppercase),
  (["Variation_Selector", "VS"], .ofRanges variationSelectorRanges),
  (["White_Space", "WSpace", "space"], .space),
  (["XID_Continue", "XIDC"], .xidContinue),
  (["XID_Start", "XIDS"], .xidStart)]

/-- The set with a name among some. -/
def find? (sets : List NamedSet) (name : List Char) : Option CharSet :=
  let form := normalForm name
  (sets.find? fun (names, _) ↦ isNamed form names).map Prod.snd

/-- The set of a property that is neither category nor script, by its name. -/
def other? : List Char → Option CharSet := find? others

/-- The set of a general category by its name. -/
def category? : List Char → Option CharSet := find? categories

/-- The script with a name. -/
def script? (name : List Char) : Option Script :=
  let form := normalForm name
  Script.all.find? (isNamed form ·.names)

/-- The characters that belong to a script. -/
def ofScript (script : Script) : CharSet := .ofRanges script.ranges

/-- The characters that are used in a script, whether they belong to it or not. -/
def usedIn (script : Script) : CharSet :=
  let shared := CharSet.ofRanges (Script.sharings.flatMap Script.Sharing.ranges)
  let sharings := Script.sharings.filter fun sharing ↦
    sharing.scripts.any (·.names = script.names)
  ((ofScript script).difference shared).union (.ofRanges (sharings.flatMap Script.Sharing.ranges))

/-- The characters that were in use when a version was current, by the name of the version. -/
def age? (name : List Char) : Option CharSet :=
  let form := normalForm name
  let before := Version.all.takeWhile fun version ↦ !isNamed form version.names
  match Version.all.drop before.length with
  | version :: _ => some (.ofRanges ((before ++ [version]).flatMap Version.added))
  | [] => none

/-- The set that a name stands for without a value. -/
def named? (name : List Char) : Option CharSet :=
  (other? name <|> category? name) <|> (script? name).map ofScript

/-- The set that a value stands for under the name of what it is a value of. -/
def valued? (name value : List Char) : Option CharSet :=
  let form := normalForm name
  if isNamed form ["General_Category", "gc"] then category? value
  else if isNamed form ["Script", "sc"] then (script? value).map ofScript
  else if isNamed form ["Script_Extensions", "scx"] then (script? value).map usedIn
  else if isNamed form ["Age"] then age? value
  else if isNamed form ["Grapheme_Cluster_Break", "GCB"] then find? Segment.graphemes value
  else if isNamed form ["Word_Break", "WB"] then find? Segment.words value
  else if isNamed form ["Sentence_Break", "SB"] then find? Segment.sentences value
  else none

/-! ### Reading -/

/-- The text before a mark and the text after it, if the mark occurs. -/
def splitAt? (mark : List Char) : List Char → Option (List Char × List Char)
  | [] => none
  | c :: rest =>
    if mark.isPrefixOf (c :: rest) then some ([], (c :: rest).drop mark.length)
    else (splitAt? mark rest).map fun (before, after) ↦ (c :: before, after)

/-- The set that a text in braces stands for, and whether the text asks for its complement. -/
def ofBraces? (text : List Char) : Option (CharSet × Bool) :=
  match splitAt? ['!', '='] text with
  | some (name, value) => (valued? name value).map (·, true)
  | none =>
    match splitAt? [':'] text <|> splitAt? ['='] text with
    | some (name, value) => (valued? name value).map (·, false)
    | none => (named? text).map (·, false)

/-- Reads a property after its letter, which says whether the complement is meant. -/
def read? (flags : Flags) (negated : Bool) (cs : List Char) : Option (CharSet × List Char) := do
  let ((set, unequal), rest) ←
    match flags.skip cs with
    | '\x7b' :: rest => do
      let (inside, rest) ← flags.readBraced? rest
      some (← ofBraces? inside, rest)
    | c :: rest => do some ((← named? [c], false), rest)
    | [] => none
  if !flags.unicode then none
  else
    let set := flags.adapt set
    some (if negated != unequal then set.complement else set, rest)

end JsonTyping.Pattern.Property
