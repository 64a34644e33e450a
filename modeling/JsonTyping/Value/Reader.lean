import JsonTyping.Numeral.Float
import JsonTyping.Value.Basic

/-!
# Reading JSON text

`Value.ofText?` reads a text that holds one JSON value and nothing else but white space. A number
without fraction and exponent is an integer if it fits 64 bits, signed or unsigned; a zero with a
minus sign and every other number is the nearest double, and a number too large for a double is
refused. Of entries with the same key the last value counts, in the place of the first.

Each reader takes a text and returns what it read together with the rest of the text. The readers
for nested values spend one unit of fuel per value, item or entry; since each of these takes at
least one character, the length of the text is fuel enough.
-/

namespace JsonTyping

namespace Reader

/-- The white space that JSON allows between tokens. -/
def isGap (c : Char) : Bool := c == ' ' || c == '\t' || c == '\n' || c == '\r'

/-- Drops white space at the front. -/
def skipGap (cs : List Char) : List Char := cs.dropWhile isGap

/-- The number that four hexadecimal digits denote. -/
def fourHex? (a b c d : Char) : Option Nat := do
  let a ← hexDigit? a
  let b ← hexDigit? b
  let c ← hexDigit? c
  let d ← hexDigit? d
  some (((a * 16 + b) * 16 + c) * 16 + d)

/-- The character of a single-letter escape. -/
def escaped? : Char → Option Char
  | '"' => some '"'
  | '\\' => some '\\'
  | '/' => some '/'
  | 'b' => some '\x08'
  | 'f' => some '\x0c'
  | 'n' => some '\n'
  | 'r' => some '\r'
  | 't' => some '\t'
  | _ => none

/-- Whether a code point is the first half of a surrogate pair. -/
def isHighSurrogate (code : Nat) : Bool := 0xD800 ≤ code && code < 0xDC00

/-- Whether a code point is the second half of a surrogate pair. -/
def isLowSurrogate (code : Nat) : Bool := 0xDC00 ≤ code && code < 0xE000

/-- Reads the rest of a string after its opening quotation mark; `read` holds what came before. -/
def readString? (read : List Char) : List Char → Option (String × List Char)
  | [] => none
  | '"' :: rest => some (String.ofList read.reverse, rest)
  | '\\' :: 'u' :: a :: b :: c :: d :: '\\' :: 'u' :: a' :: b' :: c' :: d' :: rest => do
    let code ← fourHex? a b c d
    if isHighSurrogate code then
      let low ← fourHex? a' b' c' d'
      if isLowSurrogate low then
        let char := Char.ofNat (0x10000 + (code - 0xD800) * 0x400 + (low - 0xDC00))
        readString? (char :: read) rest
      else
        none
    else if isLowSurrogate code then none
    else readString? (Char.ofNat code :: read) ('\\' :: 'u' :: a' :: b' :: c' :: d' :: rest)
  | '\\' :: 'u' :: a :: b :: c :: d :: rest => do
    let code ← fourHex? a b c d
    if isHighSurrogate code || isLowSurrogate code then none
    else readString? (Char.ofNat code :: read) rest
  | '\\' :: c :: rest => do readString? ((← escaped? c) :: read) rest
  | c :: rest => if c.toNat < 0x20 then none else readString? (c :: read) rest
termination_by cs => cs.length

/-- Whether digits have the form of a whole part: no zero in front of another digit. -/
def isWholePart : List Char → Bool
  | [] => false
  | ['0'] => true
  | c :: _ => c != '0'

/-- Whether a fraction, if there is one, has a digit. -/
def hasDigitsAfterPoint : List Char → Bool
  | '.' :: c :: _ => c.isDigit
  | ['.'] => false
  | _ => true

/-- The number that the written form of a number denotes. -/
def number? (negative : Bool) (magnitude : List Char) : Option Number :=
  let whole := magnitude.takeWhile Char.isDigit
  if isWholePart whole && hasDigitsAfterPoint (magnitude.drop whole.length) then
    let absolute := valueOfDigits whole
    let value : Int := if negative then -(absolute : Int) else absolute
    let isIntegral := magnitude.length == whole.length && !(negative && absolute == 0)
    match if isIntegral then Integer.ofInt? value else none with
    | some n => some (.integer n)
    | none => do
      let decimal ← FloatNumeral.readDecimal? negative magnitude
      some (.double (← decimal.toDouble?))
  else
    none

/-- Whether a character occurs in numbers. -/
def isNumberChar (c : Char) : Bool :=
  c.isDigit || c == '.' || c == 'e' || c == 'E' || c == '+' || c == '-'

/-- Reads a number, as far as the characters of numbers go. -/
def readNumber? (cs : List Char) : Option (Number × List Char) := do
  let written := cs.takeWhile isNumberChar
  let number ← match written with
    | '-' :: magnitude => number? true magnitude
    | magnitude => number? false magnitude
  some (number, cs.dropWhile isNumberChar)

mutual

/-- Reads one value from the front of a text. -/
def readValue? : Nat → List Char → Option (Value × List Char)
  | 0, _ => none
  | fuel + 1, cs =>
    match skipGap cs with
    | 'n' :: 'u' :: 'l' :: 'l' :: rest => some (.null, rest)
    | 't' :: 'r' :: 'u' :: 'e' :: rest => some (.bool true, rest)
    | 'f' :: 'a' :: 'l' :: 's' :: 'e' :: rest => some (.bool false, rest)
    | '"' :: rest => do
      let (s, rest) ← readString? [] rest
      some (.string s, rest)
    | '[' :: rest =>
      match skipGap rest with
      | ']' :: rest => some (.array [], rest)
      | rest => do
        let (items, rest) ← readItems? fuel rest
        some (.array items, rest)
    | '\x7b' :: rest =>
      match skipGap rest with
      | '\x7d' :: rest => some (.object [], rest)
      | rest => do
        let (entries, rest) ← readEntries? fuel rest
        some (.object (Entries.ofList entries), rest)
    | cs => do
      let (n, rest) ← readNumber? cs
      some (.number n, rest)

/-- Reads the items of an array up to its closing bracket. -/
def readItems? : Nat → List Char → Option (List Value × List Char)
  | 0, _ => none
  | fuel + 1, cs => do
    let (item, rest) ← readValue? fuel cs
    match skipGap rest with
    | ',' :: rest =>
      let (items, rest) ← readItems? fuel rest
      some (item :: items, rest)
    | ']' :: rest => some ([item], rest)
    | _ => none

/-- Reads the entries of an object up to its closing brace. -/
def readEntries? : Nat → List Char → Option (List (String × Value) × List Char)
  | 0, _ => none
  | fuel + 1, cs =>
    match skipGap cs with
    | '"' :: rest => do
      let (key, rest) ← readString? [] rest
      match skipGap rest with
      | ':' :: rest =>
        let (value, rest) ← readValue? fuel rest
        match skipGap rest with
        | ',' :: rest =>
          let (entries, rest) ← readEntries? fuel rest
          some ((key, value) :: entries, rest)
        | '\x7d' :: rest => some ([(key, value)], rest)
        | _ => none
      | _ => none
    | _ => none

end

end Reader

/-- The value that a JSON text holds, if it holds exactly one. -/
def Value.ofText? (s : String) : Option Value := do
  let cs := s.toList
  let (value, rest) ← Reader.readValue? (2 * cs.length + 2) cs
  if Reader.skipGap rest = [] then some value else none

end JsonTyping
