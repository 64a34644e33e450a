import JsonTyping.Pattern.Expr

/-!
# Flags of patterns

Flags say how the characters of a pattern are meant: whether case counts, where lines end, what
the dot stands for, and which characters are digits, white space and parts of words. They are
written by letters, those after a minus sign being switched off.
-/

namespace JsonTyping.Pattern

/-- The switches that groups and `(?flags)` set. -/
structure Flags where
  ignoreCase : Bool
  multiLine : Bool
  dotMatchesBreak : Bool
  unicode : Bool
  carriageReturns : Bool
  /-- Whether white space and comments are skipped. -/
  verbose : Bool
  /-- Whether repetitions prefer the shorter match, and those marked otherwise the longer one. -/
  swapGreed : Bool

namespace Flags

/-- The flags at the start of a pattern. -/
def initial : Flags := ⟨false, false, false, true, false, false, false⟩

/-- Sets the flag with a letter, if there is one. -/
def set? (flags : Flags) (letter : Char) (value : Bool) : Option Flags :=
  match letter with
  | 'i' => some { flags with ignoreCase := value }
  | 'm' => some { flags with multiLine := value }
  | 's' => some { flags with dotMatchesBreak := value }
  | 'u' => some { flags with unicode := value }
  | 'R' => some { flags with carriageReturns := value }
  | 'x' => some { flags with verbose := value }
  | 'U' => some { flags with swapGreed := value }
  | _ => none

/-- A set under the flags: widened to both cases if case is ignored. -/
def adapt (flags : Flags) (set : CharSet) : CharSet :=
  if flags.ignoreCase then
    set.closeUnder (if flags.unicode then foldings else asciiFoldings)
  else
    set

/-- The complement of a set; without Unicode it would reach into the middle of characters. -/
def complement? (flags : Flags) (set : CharSet) : Option CharSet :=
  if flags.unicode then some set.complement else none

/-- What the dot stands for. -/
def dot? (flags : Flags) : Option CharSet :=
  flags.complement? <|
    if flags.dotMatchesBreak then .none
    else if flags.carriageReturns then .ofChars ['\n', '\r']
    else .single '\n'

/-- What the circumflex asserts. -/
def startAnchor (flags : Flags) : Assertion :=
  if !flags.multiLine then .textStart
  else if flags.carriageReturns then .lineStartAnyBreak
  else .lineStart

/-- What the dollar sign asserts. -/
def endAnchor (flags : Flags) : Assertion :=
  if !flags.multiLine then .textEnd
  else if flags.carriageReturns then .lineEndAnyBreak
  else .lineEnd

/-! ### Visible characters -/

/--
Reads characters as long as they satisfy a test, from inside a comment or not. If white space and
comments are skipped, then the rest begins with neither.
-/
def span (flags : Flags) (test : Char → Bool) : Bool → List Char → List Char × List Char
  | _, [] => ([], [])
  | true, c :: rest => flags.span test (c != '\n') rest
  | false, c :: rest =>
    if flags.verbose && c == '#' then flags.span test true rest
    else if flags.verbose && isBlank c then flags.span test false rest
    else if test c then
      let (found, rest) := flags.span test false rest
      (c :: found, rest)
    else
      ([], c :: rest)

/-- Reads visible characters as long as they satisfy a test. -/
def readWhile (flags : Flags) (test : Char → Bool) (cs : List Char) : List Char × List Char :=
  flags.span test false cs

/-- Drops white space and comments at the front, if they are skipped. -/
def skip (flags : Flags) (cs : List Char) : List Char :=
  (flags.readWhile (fun _ ↦ false) cs).2

/-- Reads visible characters up to a closing brace, which has to be there. -/
def readBraced? (flags : Flags) (cs : List Char) : Option (List Char × List Char) :=
  match flags.readWhile (· != '\x7d') cs with
  | (inside, _ :: rest) => some (inside, rest)
  | (_, []) => none

/-- The first character that is not white space, leaving out the sign that begins a comment. -/
def firstMark? : Bool → List Char → Option Char
  | _, [] => none
  | inComment, c :: rest =>
    if isBlank c then firstMark? inComment rest
    else if c = '#' ∧ ¬inComment then firstMark? true rest
    else some c

/-- The character that decides what a hyphen in front of it means. -/
def lookAhead? (flags : Flags) (cs : List Char) : Option Char :=
  if flags.verbose then firstMark? false cs <|> cs.head? else cs.head?

/-! ### Reading flags -/

/--
Reads flags up to a colon or a closing parenthesis and also returns that character and the letters
read, the last one first. No letter and no minus may occur twice, and a minus needs a letter after
it.
-/
def read? (flags : Flags) (seen : List Char) :
    List Char → Option (Flags × List Char × Char × List Char)
  | [] => none
  | c :: rest =>
    if c = ':' ∨ c = ')' then
      if seen.head? = some '-' then none else some (flags, seen, c, rest)
    else if seen.contains c then none
    else if c = '-' then read? flags (c :: seen) rest
    else do read? (← flags.set? c (!seen.contains '-')) (c :: seen) rest

end Flags

end JsonTyping.Pattern
