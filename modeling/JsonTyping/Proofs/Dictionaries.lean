import JsonTyping.Proofs.Containers

/-!
# Entries of dictionaries

A dictionary runs one check on the key of an entry and then, if the first comes to a text, another
one on the value. So there are several ways for an entry to fail and several for it to be written,
which `Check.EntryReport` and `Check.EntryWritten` list without reference to how a dictionary goes
about it. An entry may fail and be written all the same, with what is left of it; an entry whose key
comes to no value does neither (`not_report_and_not_written`).

Both relations determine what they relate an entry to, and `dictionaryEntry` computes it
(`dictionaryEntry_snd_eq_some_iff`, `dictionaryEntry_fst_eq_some_iff`). So it can be decided whether
there is something to report or to write.
-/

namespace JsonTyping.Check

/-- What can be wrong with a key: its check fails, or yields something other than a text. -/
inductive KeyError (keys : Check) (name : String) : TypeError → Prop
  | failed {failure : Failure} : keys (some (.string name)) = .error failure →
      KeyError keys name failure.error
  | noText {other : Value} : keys (some (.string name)) = .ok (some other) →
      (∀ text, other ≠ .string text) →
      KeyError keys name (.coercion other "map keys must be strings")

/-- What can be reported of an entry, under the key that was given: that the key is wrong, or the
error of the value if the key comes to a text. -/
inductive EntryReport (keys values : Check) (entry : String × Value) : MemberFailure → Prop
  | key {error : TypeError} : KeyError keys entry.1 error →
      EntryReport keys values entry (.key entry.1, error)
  | value {name : String} {failure : Failure} :
      keys (some (.string entry.1)) = .ok (some (.string name)) →
      values (some entry.2) = .error failure →
      EntryReport keys values entry (.key entry.1, failure.error)

/-- What can be written of an entry: the entry as it is if the key is wrong, and otherwise, under
the text that the key comes to, what the value comes to or what is left of it. -/
inductive EntryWritten (keys values : Check) (entry : String × Value) : String × Value → Prop
  | untouched {error : TypeError} : KeyError keys entry.1 error →
      EntryWritten keys values entry entry
  | converted {name : String} {output : Value} :
      keys (some (.string entry.1)) = .ok (some (.string name)) →
      values (some entry.2) = .ok (some output) → EntryWritten keys values entry (name, output)
  | left {name : String} {failure : Failure} :
      keys (some (.string entry.1)) = .ok (some (.string name)) →
      values (some entry.2) = .error failure →
      EntryWritten keys values entry (name, failure.partialValue)

variable {keys values : Check} {name : String} {entry : String × Value}

/-! ### Keys -/

theorem coerceKey_eq_error_iff {error : TypeError} :
    coerceKey keys name = .error error ↔ KeyError keys name error := by
  rw [coerceKey]
  constructor
  · intro wrong
    rcases came : keys (some (.string name)) with failure | - | other
    · rw [came] at wrong
      cases wrong
      exact .failed came
    · rw [came] at wrong
      cases wrong
    · rw [came] at wrong
      cases other with
      | string text => cases wrong
      | null | bool | number | array | object =>
        cases wrong
        exact .noText came (by rintro _ ⟨⟩)
  · rintro (failed | @⟨other, came, noText⟩)
    · rw [failed]
    · rw [came]
      cases other with
      | string text => exact absurd rfl (noText text)
      | null | bool | number | array | object => rfl

theorem coerceKey_eq_ok_some_iff {text : String} :
    coerceKey keys name = .ok (some text) ↔
      keys (some (.string name)) = .ok (some (.string text)) := by
  rw [coerceKey]
  rcases keys (some (.string name)) with failure | - | other
  · simp
  · simp
  · cases other with
    | string | null | bool | number | array | object => simp

/-! ### Entries -/

theorem dictionaryEntry_snd_eq_some_iff {f : MemberFailure} :
    (dictionaryEntry keys values entry).2 = some f ↔ EntryReport keys values entry f := by
  rw [dictionaryEntry]
  constructor
  · intro reported
    rcases named : coerceKey keys entry.1 with error | - | name
    · rw [named] at reported
      cases reported
      exact .key (coerceKey_eq_error_iff.1 named)
    · rw [named] at reported
      cases reported
    · rw [named] at reported
      rcases came : values (some entry.2) with failure | output
      · simp only [came] at reported
        cases reported
        exact .value (coerceKey_eq_ok_some_iff.1 named) came
      · simp only [came] at reported
        cases reported
  · rintro (wrong | ⟨named, failed⟩)
    · rw [coerceKey_eq_error_iff.2 wrong]
    · rw [coerceKey_eq_ok_some_iff.2 named]
      simp only [failed]

theorem dictionaryEntry_fst_eq_some_iff {pair : String × Value} :
    (dictionaryEntry keys values entry).1 = some pair ↔ EntryWritten keys values entry pair := by
  rw [dictionaryEntry]
  constructor
  · intro written
    rcases named : coerceKey keys entry.1 with error | - | name
    · rw [named] at written
      cases written
      exact .untouched (coerceKey_eq_error_iff.1 named)
    · rw [named] at written
      cases written
    · rw [named] at written
      rcases came : values (some entry.2) with failure | - | output
      · simp only [came] at written
        cases written
        exact .left (coerceKey_eq_ok_some_iff.1 named) came
      · simp only [came] at written
        cases written
      · simp only [came] at written
        cases written
        exact .converted (coerceKey_eq_ok_some_iff.1 named) came
  · rintro (wrong | ⟨named, came⟩ | ⟨named, failed⟩)
    · rw [coerceKey_eq_error_iff.2 wrong]
    · rw [coerceKey_eq_ok_some_iff.2 named]
      simp only [came]
      rfl
    · rw [coerceKey_eq_ok_some_iff.2 named]
      simp only [failed]

variable (keys values entry)

instance : Decidable (∃ f, EntryReport keys values entry f) :=
  decidable_of_iff ((dictionaryEntry keys values entry).2.isSome = true) <| by
    simp only [Option.isSome_iff_exists, dictionaryEntry_snd_eq_some_iff]

instance : Decidable (∃ pair, EntryWritten keys values entry pair) :=
  decidable_of_iff ((dictionaryEntry keys values entry).1.isSome = true) <| by
    simp only [Option.isSome_iff_exists, dictionaryEntry_fst_eq_some_iff]

/-- Of an entry whose key comes to no value there is nothing to report and nothing to write,
whatever its value. -/
theorem not_report_and_not_written (dropped : keys (some (.string entry.1)) = .ok none) :
    (¬∃ f, EntryReport keys values entry f) ∧ ¬∃ pair, EntryWritten keys values entry pair := by
  have right : ∀ error, ¬KeyError keys entry.1 error := by
    rintro error (failed | ⟨came, -⟩)
    · cases dropped.symm.trans failed
    · cases dropped.symm.trans came
  constructor
  · rintro ⟨f, wrong | ⟨named, -⟩⟩
    · exact right _ wrong
    · cases dropped.symm.trans named
  · rintro ⟨pair, wrong | ⟨named, -⟩ | ⟨named, -⟩⟩
    · exact right _ wrong
    · cases dropped.symm.trans named
    · cases dropped.symm.trans named

end JsonTyping.Check
