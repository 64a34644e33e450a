import JsonTyping.Numeral.Digits

/-!
# Times of day

A time of day has whole hours, minutes and seconds and a fraction in billionths. The second `60`
is a leap second; it may stand in any minute.
-/

namespace JsonTyping

/-- A time of day. -/
structure Clock where
  hour : Nat
  minute : Nat
  second : Nat
  /-- Billionths of a second after the whole second. -/
  fraction : Nat
  hour_lt : hour < 24
  minute_lt : minute < 60
  second_le : second ≤ 60
  fraction_lt : fraction < 1000000000
deriving DecidableEq

namespace Clock

/-- The time of day with the given parts, if there is one. -/
def ofParts? (hour minute second fraction : Nat) : Option Clock :=
  if h : hour < 24 ∧ minute < 60 ∧ second ≤ 60 ∧ fraction < 1000000000 then
    some ⟨hour, minute, second, fraction, h.1, h.2.1, h.2.2.1, h.2.2.2⟩
  else
    none

/-- The text of a time to the second. -/
def text (c : Clock) : List Char :=
  paddedDigits 2 c.hour ++ ':' :: paddedDigits 2 c.minute ++ ':' :: paddedDigits 2 c.second

/-- The text of the fraction with its point: thousandths, millionths or billionths, as needed. -/
def fractionText (c : Clock) : List Char :=
  if c.fraction = 0 then []
  else if c.fraction % 1000000 = 0 then '.' :: paddedDigits 3 (c.fraction / 1000000)
  else if c.fraction % 1000 = 0 then '.' :: paddedDigits 6 (c.fraction / 1000)
  else '.' :: paddedDigits 9 c.fraction

@[simp]
theorem ofParts?_self (c : Clock) : ofParts? c.hour c.minute c.second c.fraction = some c := by
  simp only [ofParts?, c.hour_lt, c.minute_lt, c.second_le, c.fraction_lt, and_self, dite_true]

end Clock

end JsonTyping
