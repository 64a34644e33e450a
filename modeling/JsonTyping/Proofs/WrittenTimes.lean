import JsonTyping.Calendar.Timestamp
import Mathlib.Data.List.Basic

/-!
# Reading dates and times as they are written

Layouts and timestamps are read more leniently than they are written, and what is written is only
one of the texts that are read. It is read back as it was: dates in every year
(`Date.readDate_text`), times to the second (`Clock.readClock_text`), and timestamps of universal
time as long as the year is written without a sign (`Timestamp.read?_universalText`). Four digits is
all the room that a timestamp has for a year. In any other year its text has a digit in the place of
the first hyphen (`Timestamp.read?_universalText_eq_none`), and the layouts do not take it either,
since they end before the letter that it ends with.

Layouts are read item by item. All that has to be known of one number is where it ends
(`Layout.readNumber_paddedDigits`), so each lemma on a layout leaves open which items and which text
come next.
-/

namespace JsonTyping

namespace Layout

variable {digits rest : List Char} {items : Layout} {r r' : LayoutReading}

/-! ### Numbers -/

/-- Whether no digit comes next, so that a number in front of the text ends there. -/
def EndsNumber (rest : List Char) : Prop := ∀ c, rest.head? = some c → c.isDigit = false

theorem endsNumber_nil : EndsNumber [] := nofun

theorem endsNumber_cons {c : Char} (rest : List Char) (h : c.isDigit = false) :
    EndsNumber (c :: rest) := by
  rintro _ ⟨⟩
  exact h

theorem takeWhile_take_append {width : Nat} (all : ∀ c ∈ digits, c.isDigit = true)
    (fits : digits.length ≤ width) (ends : EndsNumber rest) :
    ((digits ++ rest).take width).takeWhile Char.isDigit = digits := by
  have further : (rest.take (width - digits.length)).takeWhile Char.isDigit = [] := by
    rcases rest with - | ⟨c, rest⟩
    · simp
    · rcases width - digits.length with - | room
      · rfl
      · rw [List.take_succ_cons, List.takeWhile_cons_of_neg (by simp [ends c rfl])]
  rw [List.take_append, List.take_of_length_le fits, List.takeWhile_append_of_pos all, further,
    List.append_nil]

/-- Digits are split off up to the end of the number. -/
theorem splitDigits_append {width : Nat} (all : ∀ c ∈ digits, c.isDigit = true)
    (nonempty : digits ≠ []) (fits : digits.length ≤ width) (ends : EndsNumber rest) :
    splitDigits width (digits ++ rest) = .ok (digits, rest) := by
  have taken := takeWhile_take_append all fits ends
  cases digits with
  | nil => exact absurd rfl nonempty
  | cons c digits =>
    rw [List.cons_append, splitDigits, if_pos (all c List.mem_cons_self), ← List.cons_append, taken]
    exact congrArg (fun rest ↦ Except.ok (c :: digits, rest)) List.drop_left

theorem splitDigits_paddedDigits {width padding n : Nat} (ends : EndsNumber rest)
    (fits : (paddedDigits padding n).length ≤ width) :
    splitDigits width (paddedDigits padding n ++ rest) = .ok (paddedDigits padding n, rest) :=
  splitDigits_append (fun _ ↦ isDigit_of_mem_paddedDigits) (paddedDigits_ne_nil padding n) fits ends

/-- There is no white space in front of digits. -/
theorem trimFront_paddedDigits (width n : Nat) (rest : List Char) :
    trimFront (paddedDigits width n ++ rest) = paddedDigits width n ++ rest := by
  rcases eq : paddedDigits width n with - | ⟨c, digits⟩
  · exact absurd eq (paddedDigits_ne_nil width n)
  · have digit : c.isDigit = true := isDigit_of_mem_paddedDigits (eq ▸ List.mem_cons_self)
    exact trimFront_cons_of_not_blank _ (isBlank_of_isDigit digit)

theorem readNumber_paddedDigits {width low high n : Nat} (positive : 0 < width)
    (fits : n < tenTo width) (inside : low ≤ n ∧ n ≤ high) (ends : EndsNumber rest) :
    readNumber width low high (paddedDigits width n ++ rest) = .ok (n, rest) := by
  have length := length_paddedDigits positive fits
  rw [readNumber, trimFront_paddedDigits, splitDigits_paddedDigits ends (Nat.le_of_eq length)]
  show (if low ≤ valueOfDigits _ ∧ valueOfDigits _ ≤ high then Except.ok (valueOfDigits _, rest)
    else Except.error LayoutError.outOfRange) = _
  rw [valueOfDigits_paddedDigits, if_pos inside]

/-! ### Years -/

/-- Reads a year of at most so many digits after its sign. -/
def readSigned (negative : Bool) (width : Nat) (cs : List Char) :
    Except LayoutError (Int × List Char) := do
  let (digits, rest) ← splitDigits width cs
  let year : Int := if negative then -(valueOfDigits digits : Int) else valueOfDigits digits
  if -0x80000000 ≤ year ∧ year < 0x80000000 then .ok (year, rest) else .error .outOfRange

theorem readYear_minus (cs : List Char) : readYear ('-' :: cs) = readSigned true cs.length cs := rfl

theorem readYear_plus (cs : List Char) : readYear ('+' :: cs) = readSigned false cs.length cs := rfl

theorem readYear_digit {c : Char} (cs : List Char) (digit : c.isDigit = true) :
    readYear (c :: cs) = readSigned false 4 (c :: cs) := by
  rw [readYear, trimFront_cons_of_not_blank cs (isBlank_of_isDigit digit)]
  split
  case h_1 eq =>
    cases eq
    cases digit
  case h_2 eq =>
    cases eq
    cases digit
  case h_3 => rfl

theorem readSigned_paddedDigits {negative : Bool} {width n : Nat} {year : Int}
    (value : (if negative then -(n : Int) else n) = year)
    (inside : -0x80000000 ≤ year ∧ year < 0x80000000)
    (fits : (paddedDigits 4 n).length ≤ width) (ends : EndsNumber rest) :
    readSigned negative width (paddedDigits 4 n ++ rest) = .ok (year, rest) := by
  rw [readSigned, splitDigits_paddedDigits ends fits]
  simp only [bind, Except.bind, valueOfDigits_paddedDigits, value, if_pos inside]

/-- A year is read as it is written, with a sign or without. -/
theorem readYear_yearText {year : Int} (inside : -0x80000000 ≤ year ∧ year < 0x80000000)
    (ends : EndsNumber rest) : readYear (Date.yearText year ++ rest) = .ok (year, rest) := by
  have room (n : Nat) : (paddedDigits 4 n).length ≤ (paddedDigits 4 n ++ rest).length := by
    rw [List.length_append]
    exact Nat.le_add_right _ _
  rw [Date.yearText]
  split
  case isTrue plain =>
    have length : (paddedDigits 4 year.toNat).length = 4 :=
      length_paddedDigits (by decide) (show year.toNat < 10000 by omega)
    have value : (if false then -(year.toNat : Int) else year.toNat) = year :=
      Int.toNat_of_nonneg plain.1
    rw [← readSigned_paddedDigits value inside (Nat.le_of_eq length) ends]
    rcases eq : paddedDigits 4 year.toNat with - | ⟨c, digits⟩
    · exact absurd eq (paddedDigits_ne_nil 4 _)
    · exact readYear_digit _ (isDigit_of_mem_paddedDigits (eq ▸ List.mem_cons_self))
  case isFalse signed =>
    by_cases negative : year < 0
    · have value : (if true then -(year.natAbs : Int) else year.natAbs) = year := by
        rw [if_pos rfl]
        omega
      rw [if_pos negative, List.cons_append, readYear_minus]
      exact readSigned_paddedDigits value inside (room _) ends
    · have value : (if false then -(year.natAbs : Int) else year.natAbs) = year :=
        Int.natAbs_of_nonneg (Int.not_lt.1 negative)
      rw [if_neg negative, List.cons_append, readYear_plus]
      exact readSigned_paddedDigits value inside (room _) ends

/-! ### Items -/

/-- A layout goes on where an item ends. -/
theorem readItems_cons {item : LayoutItem} {cs : List Char}
    (read : readItem item cs r = .ok (r', rest)) :
    readItems (item :: items) cs r = readItems items rest r' := by
  rw [readItems, read]
  rfl

theorem readItems_literal (c : Char) :
    readItems (.literal c :: items) (c :: rest) r = readItems items rest r :=
  readItems_cons (by rw [readItem, if_pos rfl])

theorem readItem_year {year : Int} (inside : -0x80000000 ≤ year ∧ year < 0x80000000)
    (ends : EndsNumber rest) :
    readItem .year (Date.yearText year ++ rest) r = .ok ({ r with year := year }, rest) := by
  rw [readItem, readYear_yearText inside ends]
  rfl

/-- A number of two digits is read into its place. -/
theorem readItems_number (item : LayoutItem) {low high n : Nat}
    (put : LayoutReading → Nat → LayoutReading)
    (reads : ∀ cs r, readItem item cs r = do
      let (n, rest) ← readNumber 2 low high cs
      .ok (put r n, rest))
    (short : high < tenTo 2) (inside : low ≤ n ∧ n ≤ high) (ends : EndsNumber rest) :
    readItems (item :: items) (paddedDigits 2 n ++ rest) r = readItems items rest (put r n) := by
  refine readItems_cons ?_
  rw [reads, readNumber_paddedDigits (by decide) (Nat.lt_of_le_of_lt inside.2 short) inside ends]
  rfl

/-- A date is read as it is written. -/
theorem readItems_date (d : Date) (ends : EndsNumber rest) :
    readItems (date ++ items) (d.text ++ rest) r =
      readItems items rest { r with year := d.year, month := d.month, day := d.day } := by
  have hyphen (cs : List Char) : EndsNumber ('-' :: cs) := endsNumber_cons cs rfl
  have year : -0x80000000 ≤ d.year ∧ d.year < 0x80000000 := by
    have := d.year_mem
    omega
  simp only [date, Date.text, List.cons_append, List.nil_append, List.append_assoc]
  rw [readItems_cons (readItem_year year (hyphen _)), readItems_literal,
    readItems_number .month (fun r month ↦ { r with month }) (fun _ _ ↦ rfl) (by decide) d.month_mem
      (hyphen _), readItems_literal,
    readItems_number .day (fun r day ↦ { r with day }) (fun _ _ ↦ rfl) (by decide)
      ⟨d.day_mem.1, d.day_le⟩ ends]

/-- A time is read as it is written, to the second. -/
theorem readItems_time (c : Clock) (ends : EndsNumber rest) :
    readItems (time ++ items) (c.text ++ rest) r =
      readItems items rest { r with hour := c.hour, minute := c.minute, second := c.second } := by
  have colon (cs : List Char) : EndsNumber (':' :: cs) := endsNumber_cons cs rfl
  simp only [time, hourMinute, Clock.text, List.cons_append, List.nil_append, List.append_assoc]
  rw [readItems_number .hour (fun r hour ↦ { r with hour }) (fun _ _ ↦ rfl) (by decide)
      ⟨Nat.zero_le _, Nat.le_of_lt_succ c.hour_lt⟩ (colon _), readItems_literal,
    readItems_number .minute (fun r minute ↦ { r with minute }) (fun _ _ ↦ rfl) (by decide)
      ⟨Nat.zero_le _, Nat.le_of_lt_succ c.minute_lt⟩ (colon _), readItems_literal,
    readItems_number .second (fun r second ↦ { r with second }) (fun _ _ ↦ rfl) (by decide)
      ⟨Nat.zero_le _, c.second_le⟩ ends]

end Layout

/-! ### Dates and times -/

theorem forall_mem_paddedDigits_not_blank (width n : Nat) :
    ∀ c ∈ paddedDigits width n, isBlank c = false :=
  fun _ mem ↦ isBlank_of_isDigit (isDigit_of_mem_paddedDigits mem)

theorem Date.forall_mem_text_not_blank (d : Date) : ∀ c ∈ d.text, isBlank c = false := by
  have digits := forall_mem_paddedDigits_not_blank
  have year : ∀ c ∈ yearText d.year, isBlank c = false := by
    rw [yearText]
    split
    · exact digits 4 _
    · refine List.forall_mem_cons.2 ⟨?_, digits 4 _⟩
      split <;> decide
  simp only [text, List.forall_mem_append, List.forall_mem_cons]
  exact ⟨⟨year, by decide, digits 2 _⟩, by decide, digits 2 _⟩

theorem Date.readDate_text (d : Date) : Layout.date.readDate d.text = .ok d := by
  have read : Layout.date.read d.text =
      .ok { LayoutReading.start with year := d.year, month := d.month, day := d.day } := by
    rw [Layout.read, ← List.append_nil Layout.date, ← List.append_nil d.text,
      Layout.readItems_date d Layout.endsNumber_nil]
    rfl
  rw [Layout.readDate, read]
  simp only [bind, Except.bind, LayoutReading.date, ofParts?_self]

namespace Clock

/-- The time without its fraction. -/
def wholeSecond (c : Clock) : Clock := { c with fraction := 0, fraction_lt := by decide }

theorem readClock_text (c : Clock) : Layout.time.readClock c.text = .ok c.wholeSecond := by
  have read : Layout.time.read c.text =
      .ok { LayoutReading.start with hour := c.hour, minute := c.minute, second := c.second } := by
    rw [Layout.read, ← List.append_nil Layout.time, ← List.append_nil c.text,
      Layout.readItems_time c Layout.endsNumber_nil]
    rfl
  have parts : ofParts? c.hour c.minute c.second 0 = some c.wholeSecond :=
    ofParts?_self c.wholeSecond
  rw [Layout.readClock, read]
  simp only [bind, Except.bind, LayoutReading.clock, LayoutReading.start, parts]

theorem text_wholeSecond (c : Clock) : c.wholeSecond.text = c.text := rfl

theorem forall_mem_text_not_blank (c : Clock) : ∀ d ∈ c.text, isBlank d = false := by
  have digits := forall_mem_paddedDigits_not_blank
  simp only [text, List.forall_mem_append, List.forall_mem_cons]
  exact ⟨⟨digits 2 _, by decide, digits 2 _⟩, by decide, digits 2 _⟩

/-! ### Fractions -/

variable {width n : Nat}

theorem billionths_paddedDigits (positive : 0 < width) (fits : n < tenTo width)
    (small : width ≤ 9) :
    Layout.billionths (paddedDigits width n) = n * tenTo (9 - width) := by
  have length := length_paddedDigits positive fits
  have kept : (paddedDigits width n).take 9 = paddedDigits width n :=
    List.take_of_length_le (by omega)
  rw [Layout.billionths, kept, valueOfDigits_paddedDigits, length]

theorem readFraction_paddedDigits {rest : List Char} (positive : 0 < width) (fits : n < tenTo width)
    (small : width ≤ 9) (ends : Layout.EndsNumber rest) :
    Layout.readFraction ('.' :: paddedDigits width n ++ rest) =
      .ok (n * tenTo (9 - width), rest) := by
  have room : (paddedDigits width n).length ≤ (paddedDigits width n ++ rest).length := by
    rw [List.length_append]
    exact Nat.le_add_right _ _
  rw [List.cons_append, Layout.readFraction, Layout.splitDigits_paddedDigits ends room]
  simp only [bind, Except.bind, billionths_paddedDigits positive fits small]

/-- A fraction is read as it is written, with as many digits as it needs. -/
theorem readFraction_fractionText (c : Clock) (rest : List Char) :
    Layout.readFraction (c.fractionText ++ 'Z' :: rest) = .ok (c.fraction, 'Z' :: rest) := by
  have ends : Layout.EndsNumber ('Z' :: rest) := Layout.endsNumber_cons rest rfl
  have := c.fraction_lt
  rw [fractionText]
  split_ifs with none thousandths millionths
  · rw [none]
    rfl
  · have whole : c.fraction / 1000000 * tenTo (9 - 3) = c.fraction :=
      Nat.div_mul_cancel (Nat.dvd_of_mod_eq_zero thousandths)
    have fits : c.fraction / 1000000 < tenTo 3 := show _ < 1000 by omega
    rw [readFraction_paddedDigits (by decide) fits (by decide) ends, whole]
  · have whole : c.fraction / 1000 * tenTo (9 - 6) = c.fraction :=
      Nat.div_mul_cancel (Nat.dvd_of_mod_eq_zero millionths)
    have fits : c.fraction / 1000 < tenTo 6 := show _ < 1000000 by omega
    rw [readFraction_paddedDigits (by decide) fits (by decide) ends, whole]
  · have whole : c.fraction * tenTo (9 - 9) = c.fraction := Nat.mul_one _
    rw [readFraction_paddedDigits (by decide) c.fraction_lt (by decide) ends, whole]

/-- A fraction is written with a point and digits, or not at all. -/
theorem fractionText_eq_nil_or (c : Clock) :
    c.fractionText = [] ∨ ∃ width n, c.fractionText = '.' :: paddedDigits width n := by
  rw [fractionText]
  split_ifs
  · exact .inl rfl
  all_goals exact .inr ⟨_, _, rfl⟩

end Clock

/-! ### Timestamps -/

namespace Timestamp

theorem digits?_paddedDigits (width n : Nat) : digits? (paddedDigits width n) = some n := by
  have all : (paddedDigits width n).all Char.isDigit = true :=
    List.all_eq_true.2 fun _ ↦ isDigit_of_mem_paddedDigits
  rw [digits?, if_pos all, valueOfDigits_paddedDigits]

/-- Two digits are written for a number below a hundred. -/
theorem exists_twoDigits {n : Nat} (fits : n < 100) :
    ∃ a b, paddedDigits 2 n = [a, b] ∧ digits? [a, b] = some n := by
  obtain ⟨a, b, eq⟩ := List.length_eq_two.1 (length_paddedDigits (by decide) fits)
  exact ⟨a, b, eq, eq ▸ digits?_paddedDigits 2 n⟩

theorem exists_fourDigits {n : Nat} (fits : n < 10000) :
    ∃ a b c d, paddedDigits 4 n = [a, b, c, d] ∧ digits? [a, b, c, d] = some n := by
  obtain ⟨a, b, c, d, eq⟩ := List.length_eq_four.1 (length_paddedDigits (by decide) fits)
  exact ⟨a, b, c, d, eq, eq ▸ digits?_paddedDigits 4 n⟩

variable {t : Timestamp}

theorem readClock?_fractionText (c : Clock) :
    readClock? c.hour c.minute c.second (c.fractionText ++ ['Z']) = some (c, 0) := by
  rw [readClock?, Clock.readFraction_fractionText]
  simp only [Except.toOption, bind, Option.bind, Clock.ofParts?_self, readOffset?]

/-- A timestamp is read as it is written if its year has four digits. -/
theorem read?_universalText (plain : 0 ≤ t.date.year ∧ t.date.year ≤ 9999) :
    read? t.universalText = some { t with offset := 0 } := by
  have month := t.date.month_mem
  have day := t.date.day_le
  have hour := t.clock.hour_lt
  have minute := t.clock.minute_lt
  have second := t.clock.second_le
  obtain ⟨y₁, y₂, y₃, y₄, yearText, year⟩ :=
    exists_fourDigits (show t.date.year.toNat < 10000 by omega)
  obtain ⟨m₁, m₂, monthText, month⟩ := exists_twoDigits (show t.date.month < 100 by omega)
  obtain ⟨d₁, d₂, dayText, day⟩ := exists_twoDigits (show t.date.day < 100 by omega)
  obtain ⟨h₁, h₂, hourText, hour⟩ := exists_twoDigits (show t.clock.hour < 100 by omega)
  obtain ⟨n₁, n₂, minuteText, minute⟩ := exists_twoDigits (show t.clock.minute < 100 by omega)
  obtain ⟨s₁, s₂, secondText, second⟩ := exists_twoDigits (show t.clock.second < 100 by omega)
  have text : t.universalText = y₁ :: y₂ :: y₃ :: y₄ :: '-' :: m₁ :: m₂ :: '-' :: d₁ :: d₂ :: 'T' ::
      h₁ :: h₂ :: ':' :: n₁ :: n₂ :: ':' :: s₁ :: s₂ :: (t.clock.fractionText ++ ['Z']) := by
    simp only [universalText, Date.text, Date.yearText, if_pos plain, Clock.text, yearText,
      monthText, dayText, hourText, minuteText, secondText, List.cons_append, List.nil_append]
  rw [text]
  simp only [read?, year, month, day, hour, minute, second, Int.toNat_of_nonneg plain.1,
    Date.ofParts?_self, readClock?_fractionText, bind, Option.bind, true_or, if_true]

theorem read?_eq_none {cs : List Char} {c : Char} (fifth : cs[4]? = some c) (other : c ≠ '-') :
    read? cs = none := by
  rw [read?]
  -- the other form has a hyphen in this place
  intros
  subst_vars
  exact other (Option.some.inj fifth).symm

/-- The sign of a year of four digits or more moves the first hyphen. -/
theorem read?_universalText_eq_none (signed : ¬(0 ≤ t.date.year ∧ t.date.year ≤ 9999)) :
    read? t.universalText = none := by
  let digits := paddedDigits 4 t.date.year.natAbs
  have long : 4 ≤ digits.length := le_length_paddedDigits 4 _
  have fifth : t.universalText[4]? = some digits[3] := by
    simp only [universalText, Date.text, Date.yearText, if_neg signed, List.cons_append,
      List.append_assoc, List.getElem?_cons_succ]
    rw [List.getElem?_append_left long, List.getElem?_eq_getElem long]
  refine read?_eq_none fifth fun hyphen ↦ ?_
  have digit : digits[3].isDigit = true := isDigit_of_mem_paddedDigits (List.getElem_mem _)
  rw [hyphen] at digit
  cases digit

/-- The clock of universal time is not moved. -/
theorem toUniversal?_of_offset_eq_zero (zero : t.offset = 0) : t.toUniversal? = some t := by
  obtain ⟨date, clock, offset⟩ := t
  have hour := clock.hour_lt
  have minute := clock.minute_lt
  have same : clockAt (clock.hour * 60 + clock.minute) clock = clock := by
    rw [clockAt]
    congr 1 <;> omega
  change offset = 0 at zero
  subst zero
  simp only [toUniversal?, Int.sub_zero]
  rw [if_neg (by omega), if_pos (by omega), Int.emod_eq_of_lt (by omega) (by omega),
    Int.toNat_natCast, same]

/-! ### Timestamps as texts of a layout -/

theorem universalText_eq (t : Timestamp) : t.universalText =
    t.date.text ++ 'T' :: (t.clock.text ++ (t.clock.fractionText ++ ['Z'])) := by
  simp only [universalText, List.append_assoc, List.cons_append]

theorem forall_mem_universalText_not_blank (t : Timestamp) :
    ∀ c ∈ t.universalText, isBlank c = false := by
  have fraction : ∀ c ∈ t.clock.fractionText, isBlank c = false := by
    rcases t.clock.fractionText_eq_nil_or with none | ⟨width, n, some⟩
    · rw [none]
      exact nofun
    · rw [some]
      exact List.forall_mem_cons.2 ⟨by decide, forall_mem_paddedDigits_not_blank _ _⟩
  simp only [universalText_eq, List.forall_mem_append, List.forall_mem_cons]
  exact ⟨t.date.forall_mem_text_not_blank, by decide, t.clock.forall_mem_text_not_blank, fraction,
    by decide, nofun⟩

/-- There is something behind the seconds, and it is no digit. -/
theorem exists_fractionText_append (c : Clock) :
    ∃ d rest, c.fractionText ++ ['Z'] = d :: rest ∧ d.isDigit = false := by
  rcases c.fractionText_eq_nil_or with none | ⟨width, n, some⟩
  · exact ⟨'Z', [], by rw [none]; rfl, by decide⟩
  · exact ⟨'.', _, by rw [some]; rfl, by decide⟩

/-- The letter in front of the time is no white space. -/
theorem dateSpaceTime_readDateClock_universalText (t : Timestamp) :
    Layout.dateSpaceTime.readDateClock t.universalText = .error .invalid := by
  have ends (cs : List Char) : Layout.EndsNumber ('T' :: cs) := Layout.endsNumber_cons cs rfl
  have read : Layout.dateSpaceTime.read t.universalText = .error .invalid := by
    rw [Layout.read, Layout.dateSpaceTime, universalText_eq, Layout.readItems_date _ (ends _)]
    rfl
  rw [Layout.readDateClock, read]
  rfl

/-- The letter behind the time is too much. -/
theorem dateLetterTime_readDateClock_universalText (t : Timestamp) :
    Layout.dateLetterTime.readDateClock t.universalText = .error .tooLong := by
  have ends (cs : List Char) : Layout.EndsNumber ('T' :: cs) := Layout.endsNumber_cons cs rfl
  have read : Layout.dateLetterTime.read t.universalText = .error .tooLong := by
    obtain ⟨d, rest, eq, other⟩ := exists_fractionText_append t.clock
    rw [Layout.read, Layout.dateLetterTime, universalText_eq, Layout.readItems_date _ (ends _),
      Layout.readItems_literal, ← List.append_nil Layout.time, eq,
      Layout.readItems_time _ (Layout.endsNumber_cons rest other), Layout.readItems]
  rw [Layout.readDateClock, read]
  rfl

end Timestamp

end JsonTyping
