import JsonTyping.Calendar.Clock
import JsonTyping.Calendar.Date
import JsonTyping.Text.Blank

/-!
# Layouts of dates and times

A layout says which numbers and separators a date or time is written with. Reading goes through
the items from left to right and stops at the first offence; whether the numbers name a date that
exists is asked only after the whole text has been read.

A number may follow white space and may have fewer digits than its width, and the width of a year
does not count after a sign. Reading is therefore more lenient than writing, which always gives
the full width (`Date.text`, `Clock.text`).
-/

namespace JsonTyping

/-- Why a text does not fit a layout. -/
inductive LayoutError where
  | outOfRange
  | invalid
  | tooShort
  | tooLong
deriving DecidableEq, Repr

/-- The wording of a layout error. -/
def LayoutError.message : LayoutError → String
  | .outOfRange => "input is out of range"
  | .invalid => "input contains invalid characters"
  | .tooShort => "premature end of input"
  | .tooLong => "trailing input"

/-- One part of a layout. -/
inductive LayoutItem where
  | year
  | month
  | day
  | hour
  | minute
  | second
  /-- A point and the digits after it, or nothing. -/
  | fraction
  /-- A character that has to be there. -/
  | literal (c : Char)
  /-- Any amount of white space. -/
  | blank
deriving DecidableEq

/-- The numbers read so far; what a layout does not mention stays at the start of its range. -/
structure LayoutReading where
  year : Int
  month : Nat
  day : Nat
  hour : Nat
  minute : Nat
  second : Nat
  fraction : Nat

namespace LayoutReading

/-- The reading before the first item. -/
def start : LayoutReading := ⟨1970, 1, 1, 0, 0, 0, 0⟩

/-- The date of a reading, which has to exist. -/
def date (r : LayoutReading) : Except LayoutError Date :=
  match Date.ofParts? r.year r.month r.day with
  | some d => .ok d
  | none => .error .outOfRange

/-- The time of a reading. -/
def clock (r : LayoutReading) : Except LayoutError Clock :=
  match Clock.ofParts? r.hour r.minute r.second r.fraction with
  | some c => .ok c
  | none => .error .outOfRange

end LayoutReading

namespace Layout

/-- Splits off the digits at the front, at least one and at most so many. -/
def splitDigits (width : Nat) (cs : List Char) : Except LayoutError (List Char × List Char) :=
  match cs with
  | [] => .error .tooShort
  | c :: _ =>
    if c.isDigit then
      let digits := (cs.take width).takeWhile Char.isDigit
      .ok (digits, cs.drop digits.length)
    else
      .error .invalid

/-- Reads a number of at most so many digits that lies in a range, after any white space. -/
def readNumber (width low high : Nat) (cs : List Char) : Except LayoutError (Nat × List Char) := do
  let (digits, rest) ← splitDigits width (trimFront cs)
  let n := valueOfDigits digits
  if low ≤ n ∧ n ≤ high then .ok (n, rest) else .error .outOfRange

/-- Reads a year, which has any number of digits after a sign and at most four without one. -/
def readYear (cs : List Char) : Except LayoutError (Int × List Char) := do
  let signed (negative : Bool) (cs : List Char) (width : Nat) := do
    let (digits, rest) ← splitDigits width cs
    let year : Int := if negative then -(valueOfDigits digits : Int) else valueOfDigits digits
    if -0x80000000 ≤ year ∧ year < 0x80000000 then .ok (year, rest) else .error .outOfRange
  match trimFront cs with
  | '-' :: rest => signed true rest rest.length
  | '+' :: rest => signed false rest rest.length
  | cs => signed false cs 4

/-- The billionths that the digits after a point denote; digits beyond the ninth are dropped. -/
def billionths (digits : List Char) : Nat :=
  let kept := digits.take 9
  valueOfDigits kept * tenTo (9 - kept.length)

/-- Reads a point and the digits after it, or nothing if there is no point. -/
def readFraction : List Char → Except LayoutError (Nat × List Char)
  | '.' :: cs => do
    let (digits, rest) ← splitDigits cs.length cs
    .ok (billionths digits, rest)
  | cs => .ok (0, cs)

/-- Reads one item. -/
def readItem (item : LayoutItem) (cs : List Char) (r : LayoutReading) :
    Except LayoutError (LayoutReading × List Char) :=
  match item with
  | .year => do
    let (year, rest) ← readYear cs
    .ok ({ r with year }, rest)
  | .month => do
    let (month, rest) ← readNumber 2 1 12 cs
    .ok ({ r with month }, rest)
  | .day => do
    let (day, rest) ← readNumber 2 1 31 cs
    .ok ({ r with day }, rest)
  | .hour => do
    let (hour, rest) ← readNumber 2 0 23 cs
    .ok ({ r with hour }, rest)
  | .minute => do
    let (minute, rest) ← readNumber 2 0 59 cs
    .ok ({ r with minute }, rest)
  | .second => do
    let (second, rest) ← readNumber 2 0 60 cs
    .ok ({ r with second }, rest)
  | .fraction => do
    let (fraction, rest) ← readFraction cs
    .ok ({ r with fraction }, rest)
  | .literal c =>
    match cs with
    | [] => .error .tooShort
    | d :: rest => if d = c then .ok (r, rest) else .error .invalid
  | .blank => .ok (r, trimFront cs)

/-- Reads a text that has to end with the last item. -/
def readItems : List LayoutItem → List Char → LayoutReading → Except LayoutError LayoutReading
  | [], [], r => .ok r
  | [], _ :: _, _ => .error .tooLong
  | item :: items, cs, r => do
    let (r, rest) ← readItem item cs r
    readItems items rest r

end Layout

/-- A layout of a date or time. -/
abbrev Layout := List LayoutItem

namespace Layout

/-- Year, month and day with hyphens between them. -/
def date : Layout := [.year, .literal '-', .month, .literal '-', .day]

/-- Hour and minute with a colon between them. -/
def hourMinute : Layout := [.hour, .literal ':', .minute]

/-- Hour, minute and second with colons between them. -/
def time : Layout := hourMinute ++ [.literal ':', .second]

/-- A time with a fraction of a second. -/
def timeWithFraction : Layout := time ++ [.fraction]

/-- A date and a time after a space. -/
def dateSpaceTime : Layout := date ++ .blank :: time

/-- A date and a time after the letter `T`. -/
def dateLetterTime : Layout := date ++ .literal 'T' :: time

/-- Reads the numbers of a layout from a text. -/
def read (layout : Layout) (cs : List Char) : Except LayoutError LayoutReading :=
  readItems layout cs .start

/-- Reads the date of a text. -/
def readDate (layout : Layout) (cs : List Char) : Except LayoutError Date := do
  (← layout.read cs).date

/-- Reads the time of a text. -/
def readClock (layout : Layout) (cs : List Char) : Except LayoutError Clock := do
  (← layout.read cs).clock

/-- Reads the date and the time of a text. -/
def readDateClock (layout : Layout) (cs : List Char) : Except LayoutError (Date × Clock) := do
  let r ← layout.read cs
  .ok (← r.date, ← r.clock)

end Layout

end JsonTyping
