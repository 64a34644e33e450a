import JsonTyping.Calendar.Timestamp
import JsonTyping.Numeral.Float
import JsonTyping.Text.Blank
import JsonTyping.Text.Diagnostic
import JsonTyping.Value.Text

/-!
# Conversions of loosely typed values

Each conversion turns the values that can be read as one kind into values of that kind, or says
why it refuses (`Refusal`). Numerals, truth words, dates and times are read without the white
space around them. Dates, times and timestamps come out in one normal form each, whatever form
they were read from.

Where a text may be written in several forms, the forms are tried in order, and a refusal gives
the reason why the last of them does not fit.
-/

namespace JsonTyping

/-- Why a conversion refuses a value. -/
inductive Refusal where
  /-- No value of this sort can be converted to the target. -/
  | unsupported (value : Value) (target : String)
  /-- The number is no integer of the signed 64-bit range. -/
  | fractional (n : Number)
  | integerNumeral (error : IntegerNumeralError)
  | floatNumeral (error : FloatNumeralError)
  /-- The numeral denotes no finite double. -/
  | notFinite (value : Value)
  | notBoolean (s : String)
  | layout (error : LayoutError)
  | notWholeSeconds (n : Number)
  | secondsOutOfRange (seconds : Int)

/-- The sort of a value, with its article where it has one. -/
def Value.sort : Value → String
  | .null => "null"
  | .bool _ => "a boolean"
  | .number _ => "a number"
  | .string _ => "a string"
  | .array _ => "an array"
  | .object _ => "an object"

/-- The wording of a refusal. -/
def Refusal.message : Refusal → String
  | unsupported value target => "cannot convert " ++ value.sort ++ " to " ++ target
  | fractional n => n.text ++ " has a fractional part"
  | integerNumeral error => error.message
  | floatNumeral error => error.message
  | notFinite value => value.text ++ " is not a finite number"
  | notBoolean s => diagnostic s ++ " is not a recognized boolean"
  | layout error => error.message
  | notWholeSeconds n => n.text ++ " is not a whole number of seconds"
  | secondsOutOfRange seconds => toString seconds ++ " is out of range"

namespace Conversion

/-! ### Scalars -/

/-- Scalars as text; null is the empty text. -/
def string : Value → Except Refusal Value
  | .string s => .ok (.string s)
  | .null => .ok (.string "")
  | .bool b => .ok (.string (if b then "true" else "false"))
  | .number n => .ok (.string n.text)
  | v => .error (.unsupported v "a string")

/-- The integer that a double is, if its absolute value is below the bound of the signed range. -/
def integerOfDouble? (d : Double) : Option Value := do
  let n ← d.whole?
  if -0x8000000000000000 < n ∧ n < 0x8000000000000000 then Value.ofInt? n else none

/-- Integers from integers, whole doubles and integer numerals. -/
def integer : Value → Except Refusal Value
  | .number (.integer n) => .ok (.number (.integer n))
  | .number (.double d) =>
    match integerOfDouble? d with
    | some v => .ok v
    | none => .error (.fractional (.double d))
  | .string s =>
    match IntegerNumeral.read (trim s.toList) with
    | .ok n =>
      match Value.ofInt? n with
      | some v => .ok v
      | none => .error (.integerNumeral .tooLarge)
    | .error e => .error (.integerNumeral e)
  | v => .error (.unsupported v "an integer")

/-- Doubles from numbers and floating-point numerals. -/
def float : Value → Except Refusal Value
  | .number n => .ok (.number (.double n.toDouble))
  | .string s =>
    match FloatNumeral.read (trim s.toList) with
    | .ok (some d) => .ok (.number (.double d))
    | .ok none => .error (.notFinite (.string s))
    | .error e => .error (.floatNumeral e)
  | v => .error (.unsupported v "a float")

/-- The words for true. -/
def trueWords : List String := ["1", "on", "t", "true", "y", "yes"]

/-- The words for false. -/
def falseWords : List String := ["0", "off", "f", "false", "n", "no"]

/--
The truth value that a word stands for, in any case. Lowering the ASCII letters is enough, since
no other character has a lower case that occurs in the words.
-/
def truthOfWord? (s : String) : Option Bool :=
  let word := String.ofList ((trim s.toList).map Char.toLower)
  if trueWords.contains word then some true
  else if falseWords.contains word then some false
  else none

/-- Truth values from words and from the integers one and zero. -/
def boolean : Value → Except Refusal Value
  | .bool b => .ok (.bool b)
  | .number n =>
    if n.signed? = some 1 then .ok (.bool true)
    else if n.signed? = some 0 then .ok (.bool false)
    else .error (.unsupported (.number n) "a boolean")
  | .string s =>
    match truthOfWord? s with
    | some b => .ok (.bool b)
    | none => .error (.notBoolean s)
  | v => .error (.unsupported v "a boolean")

/-! ### Dates and times -/

/-- The date of a text: a date, a timestamp by its own clock, or a date with a time. -/
def readDate (cs : List Char) : Except LayoutError Date :=
  match Layout.date.readDate cs with
  | .ok d => .ok d
  | .error _ =>
    match Timestamp.read? cs with
    | some t => .ok t.date
    | none => do .ok (← Layout.dateSpaceTime.readDateClock cs).1

/-- Dates in their normal form. -/
def date : Value → Except Refusal Value
  | .string s =>
    match readDate (trim s.toList) with
    | .ok d => .ok (.string (String.ofList d.text))
    | .error e => .error (.layout e)
  | v => .error (.unsupported v "a date")

/-- The moment of a text: a timestamp, or a date and a time of universal time. -/
def readTimestamp (cs : List Char) : Except LayoutError Timestamp :=
  match Timestamp.read? cs with
  | some t =>
    match t.toUniversal? with
    | some t => .ok t
    | none => .error .outOfRange
  | none =>
    match Layout.dateSpaceTime.readDateClock cs with
    | .ok (date, clock) => .ok ⟨date, clock, 0⟩
    | .error _ => do
      let (date, clock) ← Layout.dateLetterTime.readDateClock cs
      .ok ⟨date, clock, 0⟩

/-- Timestamps of universal time, from texts and from seconds since the start of 1970. -/
def timestamp : Value → Except Refusal Value
  | .number n =>
    match n.signed? with
    | none => .error (.notWholeSeconds n)
    | some seconds =>
      match Timestamp.ofSeconds? seconds with
      | some t => .ok (.string (String.ofList t.universalText))
      | none => .error (.secondsOutOfRange seconds)
  | .string s =>
    match readTimestamp (trim s.toList) with
    | .ok t => .ok (.string (String.ofList t.universalText))
    | .error e => .error (.layout e)
  | v => .error (.unsupported v "a timestamp")

/-- The time of a text: with seconds, without them, or with a fraction. -/
def readClock (cs : List Char) : Except LayoutError Clock :=
  match Layout.time.readClock cs with
  | .ok c => .ok c
  | .error _ =>
    match Layout.hourMinute.readClock cs with
    | .ok c => .ok c
    | .error _ => Layout.timeWithFraction.readClock cs

/-- Times of day to the second. -/
def time : Value → Except Refusal Value
  | .string s =>
    match readClock (trim s.toList) with
    | .ok c => .ok (.string (String.ofList c.text))
    | .error e => .error (.layout e)
  | v => .error (.unsupported v "a time")

/-! ### Containers -/

/-- Arrays as they are, null as no item, and any other value as the only item. -/
def array : Value → Except Refusal Value
  | .null => .ok (.array [])
  | .array xs => .ok (.array xs)
  | v => .ok (.array [v])

/-- Objects as they are, and null as no entry. -/
def hash : Value → Except Refusal Value
  | .null => .ok (.object [])
  | .object es => .ok (.object es)
  | v => .error (.unsupported v "a hash")

end Conversion

end JsonTyping
