import JsonTyping.Calendar.Layout

/-!
# Timestamps

A timestamp is a date and a time of day together with the offset of its clock from universal time.
Its standard text, `YYYY-MM-DDTHH:MM:SS` with an optional fraction and then `Z` or a signed offset,
is read position by position: unlike a layout it leaves no room for white space or missing digits.

Timestamps are written in universal time with the letter `Z`. Moving a clock to universal time
shifts whole minutes only, so a leap second and the fraction stay as they are.
-/

namespace JsonTyping

/-- A date and a time on a clock that is so many minutes ahead of universal time. -/
structure Timestamp where
  date : Date
  clock : Clock
  offset : Int
deriving DecidableEq

namespace Timestamp

/-! ### Reading -/

/-- The number that digits denote, if all characters are digits. -/
def digits? (cs : List Char) : Option Nat :=
  if cs.all Char.isDigit then some (valueOfDigits cs) else none

/-- The offset at the end of a timestamp, in minutes; it is shorter than a day. -/
def readOffset? : List Char → Option Int
  | ['Z'] => some 0
  | ['z'] => some 0
  | [sign, a, b, ':', c, d] => do
    let hours ← digits? [a, b]
    let minutes ← digits? [c, d]
    if minutes < 60 ∧ hours < 24 then
      let offset := hours * 60 + minutes
      if sign = '+' then some offset
      else if sign = '-' ∨ sign = '\u2212' then some (-offset)
      else none
    else
      none
  | _ => none

/-- The time of day of a timestamp with the fraction and the offset after it. -/
def readClock? (hour minute second : Nat) (rest : List Char) : Option (Clock × Int) := do
  let (fraction, rest) ← (Layout.readFraction rest).toOption
  let clock ← Clock.ofParts? hour minute second fraction
  some (clock, ← readOffset? rest)

/-- The timestamp that a text denotes. -/
def read? : List Char → Option Timestamp
  | y :: y' :: y'' :: y''' :: '-' :: m :: m' :: '-' :: d :: d' :: mark ::
      h :: h' :: ':' :: n :: n' :: ':' :: s :: s' :: rest => do
    let date ← Date.ofParts? (← digits? [y, y', y'', y''']) (← digits? [m, m']) (← digits? [d, d'])
    if mark = 'T' ∨ mark = 't' ∨ mark = ' ' then
      let (clock, offset) ← readClock? (← digits? [h, h']) (← digits? [n, n']) (← digits? [s, s'])
        rest
      some ⟨date, clock, offset⟩
    else
      none
  | _ => none

/-! ### Universal time -/

/-- The clock that shows so many minutes after midnight, with the seconds of another clock. -/
def clockAt (minutes : Nat) (c : Clock) : Clock :=
  ⟨minutes / 60 % 24, minutes % 60, c.second, c.fraction, Nat.mod_lt _ (by decide),
    Nat.mod_lt _ (by decide), c.second_le, c.fraction_lt⟩

/-- The same moment on the clock of universal time, if its date is in range. -/
def toUniversal? (t : Timestamp) : Option Timestamp :=
  let minutes := (t.clock.hour * 60 + t.clock.minute : Nat) - t.offset
  let clock := clockAt (minutes % 1440).toNat t.clock
  if minutes < 0 then t.date.previous?.map fun date ↦ ⟨date, clock, 0⟩
  else if minutes < 1440 then some ⟨t.date, clock, 0⟩
  else t.date.next?.map fun date ↦ ⟨date, clock, 0⟩

/-- The moment so many seconds after the start of 1970 in universal time, if it is in range. -/
def ofSeconds? (seconds : Int) : Option Timestamp := do
  let date ← Date.ofDayNumber? (seconds / 86400)
  let rest := (seconds % 86400).toNat
  let clock ← Clock.ofParts? (rest / 3600) (rest / 60 % 60) (rest % 60) 0
  some ⟨date, clock, 0⟩

/-- The text of a timestamp of universal time. -/
def universalText (t : Timestamp) : List Char :=
  t.date.text ++ 'T' :: t.clock.text ++ t.clock.fractionText ++ ['Z']

end Timestamp

end JsonTyping
