import JsonTyping.Numeral.Digits
import JsonTyping.Pattern.Property

/-!
# Escapes in patterns

A backslash gives the next character another meaning: it makes a sign stand for itself, and a
letter for a control character, a class of characters, a property, a code point or an assertion.
Letters without a meaning, and digits, which would refer to groups, may not be escaped; neither may
signs outside ASCII.
-/

namespace JsonTyping.Pattern

/-- What a backslash and the characters after it stand for. -/
inductive Escape where
  | literal (c : Char)
  | set (s : CharSet)
  | assertion (a : Assertion)

namespace Escape

/-! ### Code points -/

/-- The number that hexadecimal digits denote. -/
def hexValue? (cs : List Char) : Option Nat :=
  cs.foldl (fun value c ↦ do some (16 * (← value) + (← hexDigit? c))) (some 0)

/-- The character whose code point hexadecimal digits give. -/
def ofHex? (digits : List Char) : Option Char := do
  if digits = [] then none
  else
    let code ← hexValue? digits
    if code.isValidChar then some (Char.ofNat code) else none

/-- Reads so many visible characters. -/
def readVisible? (flags : Flags) : Nat → List Char → Option (List Char × List Char)
  | 0, cs => some ([], cs)
  | _ + 1, [] => none
  | count + 1, c :: rest => do
    let (cs, rest) ← readVisible? flags count (flags.skip rest)
    some (c :: cs, rest)

/--
Reads a code point: in braces, or with a fixed number of digits. Two digits denote a byte, which is
a character of its own in ASCII only, unless they are meant as a code point.
-/
def readHex? (flags : Flags) (width : Nat) (cs : List Char) : Option (Escape × List Char) := do
  match flags.skip cs with
  | '\x7b' :: rest => do
    let (digits, rest) ← flags.readBraced? rest
    some (literal (← ofHex? digits), rest)
  | cs => do
    let (digits, rest) ← readVisible? flags width cs
    let c ← ofHex? digits
    if width = 2 ∧ 0x80 ≤ c.toNat ∧ ¬flags.unicode then none else some (literal c, rest)

/-! ### Assertions -/

/-- Reads what may follow a word boundary in braces: which side of a word it is. -/
def readBoundary? (flags : Flags) (cs : List Char) : Option (Escape × List Char) :=
  match cs with
  | '\x7b' :: inside =>
    match flags.skip inside with
    | [] => none
    | c :: rest =>
      if c.isAlpha || c == '-' then do
        let (name, rest) ← flags.readBraced? (c :: rest)
        let kind ← match String.ofList name with
          | "start" => some Assertion.wordStart
          | "end" => some Assertion.wordEnd
          | "start-half" => some Assertion.wordStartHalf
          | "end-half" => some Assertion.wordEndHalf
          | _ => none
        some (assertion (kind flags.unicode), rest)
      else
        some (assertion (.wordBoundary flags.unicode), cs)
  | cs => some (assertion (.wordBoundary flags.unicode), cs)

/-! ### Letters and signs -/

/-- A class of characters written by a letter. -/
def letterClass? (flags : Flags) : Char → Option CharSet
  | 'd' => some (if flags.unicode then .digit else .asciiDigit)
  | 's' => some (if flags.unicode then .space else .asciiSpace)
  | 'w' => some (if flags.unicode then .word else .asciiWord)
  | 'D' => flags.complement? .digit
  | 'S' => flags.complement? .space
  | 'W' => flags.complement? .word
  | _ => none

/-- A control character written by a letter. -/
def control? : Char → Option Char
  | 'a' => some '\x07'
  | 'f' => some '\x0c'
  | 't' => some '\t'
  | 'n' => some '\n'
  | 'r' => some '\r'
  | 'v' => some '\x0b'
  | _ => none

/-- Whether a character other than letters and digits may be escaped to stand for itself. -/
def isEscapable (c : Char) : Bool :=
  c.toNat < 0x80 && !c.isAlphanum && c != '<' && c != '>'

/-- Reads an escape after its backslash. -/
def read? (flags : Flags) : List Char → Option (Escape × List Char)
  | [] => none
  | 'x' :: rest => readHex? flags 2 rest
  | 'u' :: rest => readHex? flags 4 rest
  | 'U' :: rest => readHex? flags 8 rest
  | 'A' :: rest => some (assertion .textStart, rest)
  | 'z' :: rest => some (assertion .textEnd, rest)
  | 'b' :: rest => readBoundary? flags rest
  | 'B' :: rest => some (assertion (.noWordBoundary flags.unicode), rest)
  | 'p' :: rest => do
    let (s, rest) ← Property.read? flags false rest
    some (set s, rest)
  | 'P' :: rest => do
    let (s, rest) ← Property.read? flags true rest
    some (set s, rest)
  | '<' :: rest => some (assertion (.wordStart flags.unicode), rest)
  | '>' :: rest => some (assertion (.wordEnd flags.unicode), rest)
  | c :: rest =>
    if isEscapable c then some (literal c, rest)
    else match control? c with
      | some control => some (literal control, rest)
      | none => do some (set (← letterClass? flags c), rest)

end Escape

end JsonTyping.Pattern
