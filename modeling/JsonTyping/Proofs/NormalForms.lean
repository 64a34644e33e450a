import JsonTyping.Proofs.Settling
import JsonTyping.Proofs.WrittenTimes

/-!
# Normal forms of dates and times

Dates, times and timestamps are converted to one text each, whichever text they were read from.
Dates and times in this form are converted to themselves, and so are timestamps as long as the year
of universal time has four digits (`Transform.normalForms_settled`). A timestamp near the ends of
these years is moved out of them if its own clock is ahead or behind, and seconds may lie far
outside. Such a timestamp is written with a signed year, which no timestamp is read with, so that
its text is refused where the value that it came from was converted.

This is also the only way in which a conversion can miss the kind that it converts to. So the type
of values that are converted to a kind fails for want of a conversion only, unless the kind is that
of timestamps and the year has a sign (`Standard.landsInKind_iff`).
-/

namespace JsonTyping

/-! ### Years in texts -/

/-- The year that a text begins with, in four digits or with a sign. -/
def yearOfText? (cs : List Char) : Option Int := (Layout.readYear cs).toOption.map Prod.fst

/-- Whether a value is a text that begins with a year which needs no sign. -/
def Value.HasPlainYear (v : Value) : Prop :=
  ∃ s year, v = .string s ∧ yearOfText? s.toList = some year ∧ 0 ≤ year ∧ year ≤ 9999

namespace Timestamp

theorem yearOfText?_universalText (t : Timestamp) :
    yearOfText? t.universalText = some t.date.year := by
  have inside : -0x80000000 ≤ t.date.year ∧ t.date.year < 0x80000000 := by
    have := t.date.year_mem
    omega
  simp only [yearOfText?, universalText_eq, Date.text, List.append_assoc, List.cons_append]
  rw [Layout.readYear_yearText inside (Layout.endsNumber_cons _ rfl)]
  rfl

/-- The text of a timestamp of universal time, as a value. -/
def toValue (t : Timestamp) : Value := .string (String.ofList t.universalText)

theorem hasPlainYear_iff {t : Timestamp} :
    t.toValue.HasPlainYear ↔ 0 ≤ t.date.year ∧ t.date.year ≤ 9999 := by
  have year := t.yearOfText?_universalText
  constructor
  · rintro ⟨s, _, same, found, plain⟩
    cases same
    rw [String.toList_ofList, year] at found
    cases found
    exact plain
  · intro plain
    exact ⟨_, _, rfl, by rw [String.toList_ofList, year], plain⟩

end Timestamp

/-! ### Conversions -/

namespace Conversion

variable {v w : Value}

theorem exists_of_date_eq_ok (came : date v = .ok w) :
    ∃ d : Date, w = .string (String.ofList d.text) := by
  cases v with
  | string s =>
    rw [date] at came
    split at came <;> cases came
    exact ⟨_, rfl⟩
  | null | bool | number | array | object => cases came

theorem date_date (came : date v = .ok w) : date w = .ok w := by
  obtain ⟨d, rfl⟩ := exists_of_date_eq_ok came
  simp only [date, String.toList_ofList, trim_eq_self d.forall_mem_text_not_blank, readDate,
    d.readDate_text]

theorem exists_of_time_eq_ok (came : time v = .ok w) :
    ∃ c : Clock, w = .string (String.ofList c.text) := by
  cases v with
  | string s =>
    rw [time] at came
    split at came <;> cases came
    exact ⟨_, rfl⟩
  | null | bool | number | array | object => cases came

theorem time_time (came : time v = .ok w) : time w = .ok w := by
  obtain ⟨c, rfl⟩ := exists_of_time_eq_ok came
  simp only [time, String.toList_ofList, trim_eq_self c.forall_mem_text_not_blank, readClock,
    c.readClock_text, c.text_wholeSecond]

theorem exists_of_timestamp_eq_ok (came : timestamp v = .ok w) :
    ∃ t : Timestamp, w = t.toValue := by
  cases v with
  | number n =>
    rw [timestamp] at came
    split at came
    · cases came
    · split at came <;> cases came
      exact ⟨_, rfl⟩
  | string s =>
    rw [timestamp] at came
    split at came <;> cases came
    exact ⟨_, rfl⟩
  | null | bool | array | object => cases came

/-- A year without a sign is read again, and then nothing has to be moved. -/
theorem timestamp_toValue {t : Timestamp} (plain : t.toValue.HasPlainYear) :
    timestamp t.toValue = .ok t.toValue := by
  have read := Timestamp.read?_universalText (Timestamp.hasPlainYear_iff.1 plain)
  have stays : ({ t with offset := 0 } : Timestamp).toUniversal? = some { t with offset := 0 } :=
    Timestamp.toUniversal?_of_offset_eq_zero rfl
  simp only [timestamp, Timestamp.toValue, String.toList_ofList, readTimestamp,
    trim_eq_self t.forall_mem_universalText_not_blank, read, stays]
  rfl

/-- A year with a sign is not read, and of the layouts that are tried instead the last one ends too
soon. -/
theorem timestamp_toValue_of_signed {t : Timestamp} (signed : ¬t.toValue.HasPlainYear) :
    timestamp t.toValue = .error (.layout .tooLong) := by
  have missed := Timestamp.read?_universalText_eq_none (mt Timestamp.hasPlainYear_iff.2 signed)
  simp only [timestamp, Timestamp.toValue, String.toList_ofList, readTimestamp,
    trim_eq_self t.forall_mem_universalText_not_blank, missed,
    t.dateSpaceTime_readDateClock_universalText, t.dateLetterTime_readDateClock_universalText]
  rfl

end Conversion

/-- **Dates and times in normal form stay.** What comes out of a conversion to a date or to a time
is converted to itself. What comes out of a conversion to a timestamp is converted to itself if its
year has no sign, and refused otherwise. -/
theorem Transform.normalForms_settled (v w : Value) :
    (toDate.apply v = .ok (some w) → toDate.apply w = .ok (some w)) ∧
    (toTime.apply v = .ok (some w) → toTime.apply w = .ok (some w)) ∧
    (toDateTime.apply v = .ok (some w) →
      (w.HasPlainYear → toDateTime.apply w = .ok (some w)) ∧
      (¬w.HasPlainYear → toDateTime.apply w = .error "trailing input")) := by
  refine ⟨(settles_ofConversion _ fun _ _ ↦ Conversion.date_date).settled v w,
    (settles_ofConversion _ fun _ _ ↦ Conversion.time_time).settled v w, fun came ↦ ?_⟩
  obtain ⟨_, converted, same⟩ := ofConversion_apply_eq_ok_iff.1 came
  cases same
  obtain ⟨t, rfl⟩ := Conversion.exists_of_timestamp_eq_ok converted
  constructor
  · intro plain
    exact ofConversion_apply_eq_ok_iff.2 ⟨_, Conversion.timestamp_toValue plain, rfl⟩
  · intro signed
    exact ofConversion_apply_eq_error_iff.2 ⟨_, Conversion.timestamp_toValue_of_signed signed, rfl⟩

/-- A date is taken from a timestamp by its own clock, and a time keeps its leap second and loses
the fraction. The timestamp is moved back by half an hour; the other one is moved out of the year
`0`. -/
theorem Transform.normalForms_settled_leap_seconds :
    toDate.apply (.string "2024-02-29") = .ok (some (.string "2024-02-29")) ∧
    toTime.apply (.string "07:05:60") = .ok (some (.string "07:05:60")) ∧
    toDateTime.apply (.string "2016-12-31T23:29:60.250Z") =
      .ok (some (.string "2016-12-31T23:29:60.250Z")) ∧
    toDateTime.apply (.string "-0001-12-31T23:59:00Z") = .error "trailing input" := by
  refine ⟨(normalForms_settled (.string " 2024-02-29T23:30:00-01:00") _).1 rfl,
    (normalForms_settled (.string "7:5:60.25") _).2.1 rfl,
    ((normalForms_settled (.string "2016-12-31 23:59:60.25+00:30") _).2.2 rfl).1
      ⟨_, 2016, rfl, rfl, by decide, by decide⟩,
    ((normalForms_settled (.string "0000-01-01T00:00:00+00:01") _).2.2 rfl).2 ?_⟩
  rintro ⟨s, year, same, found, plain⟩
  cases same
  cases found
  exact absurd plain.1 (by decide)

/-! ### Converted kinds -/

namespace Primitive

theorem accepts_date_text (d : Date) : date.accepts (.string (String.ofList d.text)) = true := by
  rw [accepts, String.toList_ofList, d.readDate_text]
  rfl

theorem accepts_time_text (c : Clock) : time.accepts (.string (String.ofList c.text)) = true := by
  rw [accepts, String.toList_ofList, c.readClock_text]
  rfl

theorem accepts_dateTime_toValue_iff {t : Timestamp} :
    dateTime.accepts t.toValue = true ↔ t.toValue.HasPlainYear := by
  rw [Timestamp.toValue, accepts, String.toList_ofList, ← Timestamp.toValue]
  by_cases plain : t.toValue.HasPlainYear
  · simp [plain, Timestamp.read?_universalText (Timestamp.hasPlainYear_iff.1 plain)]
  · simp [plain, Timestamp.read?_universalText_eq_none (mt Timestamp.hasPlainYear_iff.2 plain)]

end Primitive

namespace Ty

variable {p : Primitive} {step : Transform} {v w : Value} {reason : String}

theorem run_coerce_nominal (p : Primitive) (step : Transform) :
    ((nominal p).coerce step).run = (Check.nominal p).coerced [step] := by
  have inner : (nominal p).run = .nominal p := run_nominal [] p
  exact inner ▸ run_coerced (nominal p) [] [step]

theorem check_of_refused (refused : step.apply v = .error reason) :
    ((nominal p).coerce step).check v = .error ⟨v, .coercion v reason⟩ := by
  simp only [check, run_coerce_nominal, Check.coerced, Transform.applyAll, refused]

/-- The kind sees what comes out of the transform, and nothing else. -/
theorem check_of_converted (converted : step.apply v = .ok (some w)) :
    ((nominal p).coerce step).check v =
      if p.accepts w then .ok w else .error ((Predicate.kind p).failure w) := by
  simp only [check, run_coerce_nominal, Check.coerced, Transform.applyAll, converted, Check.nominal]
  split_ifs with accepted
  · have kept : Rule.enforce [.kind p] w = .ok (some w) :=
      Rule.enforce_of_forall (by simpa [Predicate.test] using accepted)
    rw [kept]
  · have broken : Rule.enforce [.kind p] w = .error ((Predicate.kind p).failure w) :=
      Rule.enforce_of_find?_eq_some (by simpa [Predicate.test] using accepted)
    rw [broken]

end Ty

namespace Standard

variable {p : Primitive} {step : Transform} {t : Ty} {v w : Value}

/-- The transforms of the coercible types are conversions, but for the one to null. -/
theorem exists_eq_ofConversion (stock : coercion? p = some step) (other : p ≠ .nil) :
    ∃ name convert, step = .ofConversion name convert := by
  cases p with
  | any => cases stock
  | nil => exact absurd rfl other
  | bool | integer | float | string | date | dateTime | time | array | hash =>
    exact ⟨_, _, (Option.some.inj stock).symm⟩

/-- What is converted to a kind is of the kind, but for timestamps whose year has a sign. -/
theorem accepts_iff_of_converted (stock : coercion? p = some step) (other : p ≠ .nil)
    (converted : step.apply v = .ok (some w)) :
    p.accepts w = true ↔ (p = .dateTime → w.HasPlainYear) := by
  have conversion {name : String} {convert : Value → Except Refusal Value}
      (came : (Transform.ofConversion name convert).apply v = .ok (some w)) :
      convert v = .ok w := by
    obtain ⟨_, eq, same⟩ := Transform.ofConversion_apply_eq_ok_iff.1 came
    rwa [Option.some.inj same]
  cases p with
  | any => cases stock
  | nil => exact absurd rfl other
  | bool =>
    cases stock
    obtain ⟨b, rfl⟩ := Conversion.exists_of_boolean_eq_ok (conversion converted)
    exact iff_of_true rfl nofun
  | integer =>
    cases stock
    obtain ⟨n, rfl⟩ := Conversion.exists_of_integer_eq_ok (conversion converted)
    exact iff_of_true rfl nofun
  | float =>
    cases stock
    obtain ⟨d, rfl⟩ := Conversion.exists_of_float_eq_ok (conversion converted)
    exact iff_of_true rfl nofun
  | string =>
    cases stock
    obtain ⟨s, rfl⟩ := Conversion.exists_of_string_eq_ok (conversion converted)
    exact iff_of_true rfl nofun
  | date =>
    cases stock
    obtain ⟨d, rfl⟩ := Conversion.exists_of_date_eq_ok (conversion converted)
    exact iff_of_true (Primitive.accepts_date_text d) nofun
  | dateTime =>
    cases stock
    obtain ⟨t, rfl⟩ := Conversion.exists_of_timestamp_eq_ok (conversion converted)
    exact Primitive.accepts_dateTime_toValue_iff.trans
      ⟨fun plain _ ↦ plain, fun plain ↦ plain rfl⟩
  | time =>
    cases stock
    obtain ⟨c, rfl⟩ := Conversion.exists_of_time_eq_ok (conversion converted)
    exact iff_of_true (Primitive.accepts_time_text c) nofun
  | array =>
    cases stock
    obtain ⟨xs, rfl⟩ := Conversion.exists_of_array_eq_ok (conversion converted)
    exact iff_of_true rfl nofun
  | hash =>
    cases stock
    obtain ⟨es, rfl⟩ := Conversion.exists_of_hash_eq_ok (conversion converted)
    exact iff_of_true rfl nofun

/-- What is said of a transform to a kind, and of the type that runs it first, on a value. -/
structure LandsInKind (p : Primitive) (step : Transform) (t : Ty) (v : Value) : Prop where
  /-- What the transform yields is of the kind. -/
  lands : ∀ w, step.apply v = .ok (some w) → p.accepts w = true
  /-- The type fails only if the transform refuses the value, and then for this reason. -/
  refused : ∀ failure, t.check v = .error failure →
    ∃ reason, step.apply v = .error reason ∧ failure = ⟨v, .coercion v reason⟩

/-- **Which conversions land in their kinds.** On every value the transform of a coercible type
yields a value of the kind, if any, and the type fails for want of a conversion only. It is not so
of timestamps whose year has a sign, which the type converts and then finds to be no timestamps.
(There is no conversion to the kind of everything, and the one to null leaves most values as they
are.) -/
theorem landsInKind_iff (stock : coercion? p = some step) (type : coercible? p = some t)
    (other : p ≠ .nil) (v : Value) :
    (LandsInKind p step t v ↔
      ∀ w, step.apply v = .ok (some w) → p = .dateTime → w.HasPlainYear) ∧
    ∀ w, step.apply v = .ok (some w) → p = .dateTime → ¬w.HasPlainYear →
      t.check v = .error ((Predicate.kind .dateTime).failure w) := by
  have made : (Ty.nominal p).coerce step = t := by
    rw [coercible?, stock] at type
    exact Option.some.inj type
  subst made
  refine ⟨⟨fun landed w converted ↦ ?_,
    fun plain ↦ ⟨fun w converted ↦ ?_, fun failure failed ↦ ?_⟩⟩,
    fun w converted dateTime signed ↦ ?_⟩
  · exact (accepts_iff_of_converted stock other converted).1 (landed.lands w converted)
  · exact (accepts_iff_of_converted stock other converted).2 (plain w converted)
  · rcases applied : step.apply v with reason | - | w
    · rw [Ty.check_of_refused applied] at failed
      exact ⟨reason, rfl, (Except.error.inj failed).symm⟩
    · -- a conversion does not end without a value
      obtain ⟨name, convert, rfl⟩ := exists_eq_ofConversion stock other
      obtain ⟨w, -, same⟩ := Transform.ofConversion_apply_eq_ok_iff.1 applied
      cases same
    · have accepted := (accepts_iff_of_converted stock other applied).2 (plain w applied)
      rw [Ty.check_of_converted applied, if_pos accepted] at failed
      cases failed
  · have missed : ¬p.accepts w = true := fun accepted ↦
      signed ((accepts_iff_of_converted stock other converted).1 accepted dateTime)
    rw [Ty.check_of_converted converted, if_neg missed, dateTime]

/-- A timestamp of the year `0` that is moved by half an hour stays in the year or leaves it. -/
theorem landsInKind_first_year :
    LandsInKind .dateTime .toDateTime ((Ty.nominal .dateTime).coerce .toDateTime)
      (.string "0000-01-01 00:00:60.5-00:30") ∧
    ((Ty.nominal .dateTime).coerce .toDateTime).check (.string "0000-01-01 00:00:60.5+00:30") =
      .error ((Predicate.kind .dateTime).failure (.string "-0001-12-31T23:30:60.500Z")) := by
  have later : Transform.toDateTime.apply (.string "0000-01-01 00:00:60.5-00:30") =
      .ok (some (.string "0000-01-01T00:30:60.500Z")) := rfl
  have earlier : Transform.toDateTime.apply (.string "0000-01-01 00:00:60.5+00:30") =
      .ok (some (.string "-0001-12-31T23:30:60.500Z")) := rfl
  have stock : coercion? .dateTime = some .toDateTime := rfl
  have type : coercible? .dateTime = some ((Ty.nominal .dateTime).coerce .toDateTime) := rfl
  constructor
  · refine (landsInKind_iff stock type (by decide) _).1.2 fun w converted _ ↦ ?_
    cases later.symm.trans converted
    exact ⟨_, 0, rfl, rfl, by decide, by decide⟩
  · refine (landsInKind_iff stock type (by decide) _).2 _ earlier rfl ?_
    rintro ⟨s, year, same, found, plain⟩
    cases same
    cases found
    exact absurd plain.1 (by decide)

/-- A timestamp of the last hour of the year `9999` is one, but not by the coercible type. -/
theorem late_timestamp_misses_kind :
    (strict .dateTime).accepts (.string "9999-12-31T23:59:59-01:00") = true ∧
    Transform.toDateTime.apply (.string "9999-12-31T23:59:59-01:00") =
      .ok (some (.string "+10000-01-01T00:59:59Z")) ∧
    Primitive.dateTime.accepts (.string "+10000-01-01T00:59:59Z") = false ∧
    ((Ty.nominal .dateTime).coerce .toDateTime).check (.string "9999-12-31T23:59:59-01:00") =
      .error ((Predicate.kind .dateTime).failure (.string "+10000-01-01T00:59:59Z")) ∧
    ¬LandsInKind .dateTime .toDateTime ((Ty.nominal .dateTime).coerce .toDateTime)
      (.string "9999-12-31T23:59:59-01:00") := by
  have converted : Transform.toDateTime.apply (.string "9999-12-31T23:59:59-01:00") =
      .ok (some (.string "+10000-01-01T00:59:59Z")) := rfl
  have missed : Primitive.dateTime.accepts (.string "+10000-01-01T00:59:59Z") = false := rfl
  refine ⟨rfl, converted, missed, ?_, fun landed ↦ ?_⟩
  · rw [Ty.check_of_converted converted, if_neg (Bool.eq_false_iff.1 missed)]
  · cases missed.symm.trans (landed.lands _ converted)

end Standard

end JsonTyping
