import JsonTyping.Proofs.Containers
import JsonTyping.Ty.Building
import Mathlib.Data.List.Nodup
import Mathlib.Data.List.Perm.Subperm

/-!
# Keys that come to one

A dictionary converts keys, and nothing keeps it from converting two of them to one. Its output is
built by insertion, so of the entries that come to one key the last one is kept, in the place of the
first (`Entries.get?_ofList`), and the others are gone without a report.

So a dictionary that accepts an object keeps all entries whose keys and values it converts exactly
if it converts no two keys to one (`dictionary_keeps_iff`). This rests on a fact about insertion
alone: as many entries come out as were put in exactly if no key is repeated
(`Entries.length_ofList_eq_iff`).
-/

namespace JsonTyping

namespace Entries

variable {α : Type}

/-! ### Insertion one after the other -/

theorem get?_insertAll (key : String) (es added : Entries α) :
    (es.insertAll added).get? key = (get? key added.reverse).or (es.get? key) := by
  induction added generalizing es with
  | nil => rfl
  | cons e added ih =>
    have first : es.insertAll (e :: added) = (es.insert e.1 e.2).insertAll added := rfl
    have last : (es.insert e.1 e.2).get? key = (get? key [e]).or (es.get? key) := by
      by_cases same : e.1 = key
      · rw [← same, get?_insert_self, get?, if_pos rfl, Option.some_or]
      · rw [get?_insert_of_ne _ _ (Ne.symm same), get?, if_neg same, get?, Option.none_or]
    rw [first, ih, last, List.reverse_cons, get?_append, Option.or_assoc]

/-- Of the values that are given for a key the last one counts. -/
theorem get?_ofList (key : String) (pairs : Entries α) :
    (ofList pairs).get? key = get? key pairs.reverse := by
  rw [ofList, get?_insertAll, get?, Option.or_none]

theorem mem_keys_ofList_iff {key : String} {pairs : Entries α} :
    key ∈ (ofList pairs).keys ↔ key ∈ pairs.keys := by
  have absent : key ∉ (ofList pairs).keys ↔ key ∉ pairs.keys := by
    rw [← get?_eq_none_iff, get?_ofList, get?_eq_none_iff, keys, keys, List.map_reverse,
      List.mem_reverse]
  exact not_iff_not.1 absent

/-- No entry is lost exactly if no key is given twice. -/
theorem length_ofList_eq_iff {pairs : Entries α} :
    (ofList pairs).length = pairs.length ↔ pairs.keys.Nodup := by
  constructor
  · intro same
    -- what is left has the same keys, once each, so with as many of them it is a rearrangement
    have below : (ofList pairs).keys.Subperm pairs.keys :=
      (nodup_keys_ofList pairs).subperm fun _ mem ↦ mem_keys_ofList_iff.1 mem
    have perm : (ofList pairs).keys.Perm pairs.keys :=
      below.perm_of_length_le (by simp only [keys, List.length_map, same, Nat.le_refl])
    exact perm.nodup_iff.1 (nodup_keys_ofList pairs)
  · intro nodup
    rw [ofList_eq_self nodup]

end Entries

namespace Check

/-! ### Converted entries -/

variable {keys values : Check} {entry : String × Value} {entries : Entries Value}

/-- What an entry is converted to: its key has to yield a text, and its value a value. -/
def converted? (keys values : Check) (entry : String × Value) : Option (String × Value) :=
  match keys (some (.string entry.1)), values (some entry.2) with
  | .ok (some (.string key)), .ok (some value) => some (key, value)
  | _, _ => none

theorem converted?_eq_some_iff {pair : String × Value} :
    converted? keys values entry = some pair ↔
      keys (some (.string entry.1)) = .ok (some (.string pair.1)) ∧
        values (some entry.2) = .ok (some pair.2) := by
  rw [converted?]
  split
  · rename_i key value coerced came
    rw [coerced, came]
    simp [Prod.ext_iff]
  · rename_i others
    exact ⟨nofun, fun ⟨coerced, came⟩ ↦ (others _ _ coerced came).elim⟩

/-- An entry of which nothing is reported is put in as it is converted, or not at all. -/
theorem dictionaryEntry_fst_eq (quiet : (dictionaryEntry keys values entry).2 = none) :
    (dictionaryEntry keys values entry).1 = converted? keys values entry := by
  rcases dictionaryEntry_snd_eq_none_iff.1 quiet with dropped | ⟨key, output, coerced, came⟩
  · rw [dictionaryEntry, coerceKey, converted?, dropped]
  · rw [dictionaryEntry, coerceKey, converted?, coerced, came]
    cases output <;> rfl

/-- A dictionary that succeeds puts in the entries that are converted, one after the other. -/
theorem eq_of_dictionary_eq_ok {output : Option Value}
    (came : keys.dictionary values (some (.object entries)) = .ok output) :
    output = some (.object (Entries.ofList (entries.filterMap (converted? keys values)))) := by
  obtain ⟨noFailure, assembled⟩ := Outcome.ofMembers_eq_ok_iff.1 came
  have quiet := List.filterMap_eq_nil_iff.1 noFailure
  have converted : (entries.map (dictionaryEntry keys values)).filterMap Prod.fst =
      entries.filterMap (converted? keys values) := by
    rw [List.filterMap_map]
    exact List.filterMap_congr fun entry mem ↦
      dictionaryEntry_fst_eq (quiet _ (List.mem_map_of_mem mem))
  rw [assembled, converted]

end Check

namespace Ty

/-- The entries of an object whose keys come to texts and whose values come to values, as they are
converted. -/
def convertedEntries (key value : Ty) (entries : Entries Value) : Entries Value :=
  entries.filterMap (Check.converted? key.run value.run)

variable {key value : Ty} {entries : Entries Value}

theorem mem_convertedEntries_iff {pair : String × Value} :
    pair ∈ convertedEntries key value entries ↔
      ∃ entry ∈ entries, key.run (some (.string entry.1)) = .ok (some (.string pair.1)) ∧
        value.run (some entry.2) = .ok (some pair.2) := by
  simp only [convertedEntries, List.mem_filterMap, Check.converted?_eq_some_iff]

theorem eq_of_check_dictionary {output : Value}
    (accepted : (dictionary key value).check (.object entries) = .ok output) :
    output = .object (Entries.ofList (convertedEntries key value entries)) := by
  have ran : (dictionary key value).run = key.run.dictionary value.run :=
    run_dictionary key value []
  have came := check_eq_ok_iff.1 accepted
  rw [ran] at came
  exact Option.some.inj (Check.eq_of_dictionary_eq_ok came)

/-- **When a dictionary loses no entry.** An accepted object becomes an object in which every key is
bound to the last value that comes to it. All entries with a converted key and a converted value are
in it, and it has as many entries as these, exactly if no two of them come to one key. -/
theorem dictionary_keeps_iff {output : Value}
    (accepted : (dictionary key value).check (.object entries) = .ok output) :
    ∃ out, output = .object out ∧
      (∀ name, Entries.get? name out =
        Entries.get? name (convertedEntries key value entries).reverse) ∧
      (((∀ entry ∈ entries, ∀ name result,
          key.run (some (.string entry.1)) = .ok (some (.string name)) →
          value.run (some entry.2) = .ok (some result) → Entries.get? name out = some result) ∧
        out.length = (convertedEntries key value entries).length) ↔
        (Entries.keys (convertedEntries key value entries)).Nodup) := by
  refine ⟨_, eq_of_check_dictionary accepted, fun name ↦ Entries.get?_ofList name _, ?_⟩
  rw [Entries.length_ofList_eq_iff]
  refine ⟨And.right, fun nodup ↦ ⟨fun entry mem name result named came ↦ ?_, nodup⟩⟩
  have listed : (name, result) ∈ convertedEntries key value entries :=
    mem_convertedEntries_iff.2 ⟨entry, mem, named, came⟩
  rw [Entries.ofList_eq_self nodup]
  exact Entries.get?_of_mem nodup listed

/-- Names of sizes, of which there are short forms. -/
def sizeName : Ty :=
  ofKind (.enum
    (ofKind (.constrained (nominal .string) [.includedIn [.string "small", .string "large"]]))
    [(.string "small", .string "s"), (.string "large", .string "l")])

/-- A short form and a name of another size come to different keys, and both entries are kept. -/
theorem dictionary_keeps_sizes :
    (dictionary sizeName (nominal .integer)).check
      (.object [("s", .ofUInt64 1), ("large", .ofUInt64 2)]) =
        .ok (.object [("small", .ofUInt64 1), ("large", .ofUInt64 2)]) ∧
    (Entries.keys (convertedEntries sizeName (nominal .integer)
      [("s", .ofUInt64 1), ("large", .ofUInt64 2)])).Nodup ∧
    ∃ out, Value.object [("small", .ofUInt64 1), ("large", .ofUInt64 2)] = .object out ∧
      out.length = (convertedEntries sizeName (nominal .integer)
        [("s", .ofUInt64 1), ("large", .ofUInt64 2)]).length := by
  have accepted : (dictionary sizeName (nominal .integer)).check
      (.object [("s", .ofUInt64 1), ("large", .ofUInt64 2)]) =
        .ok (.object [("small", .ofUInt64 1), ("large", .ofUInt64 2)]) := rfl
  have distinct : (Entries.keys (convertedEntries sizeName (nominal .integer)
      [("s", .ofUInt64 1), ("large", .ofUInt64 2)])).Nodup := by decide
  obtain ⟨out, eq, -, keeps⟩ := dictionary_keeps_iff accepted
  exact ⟨accepted, distinct, out, eq, (keeps.2 distinct).2⟩

/-- A short form and the name of the same size come to one key. The first entry is lost, although
its key comes to a text and its value to a value. -/
theorem dictionary_loses_size :
    (nominal .string).enumerate
      [(.string "small", .string "s"), (.string "large", .string "l")] = .ok sizeName ∧
    sizeName.run (some (.string "s")) = .ok (some (.string "small")) ∧
    (nominal .integer).run (some (.ofUInt64 1)) = .ok (some (.ofUInt64 1)) ∧
    (dictionary sizeName (nominal .integer)).check
      (.object [("s", .ofUInt64 1), ("small", .ofUInt64 2)]) =
        .ok (.object [("small", .ofUInt64 2)]) ∧
    (Entries.get? "small" [("small", Value.ofUInt64 2)] == some (Value.ofUInt64 1)) = false :=
  ⟨rfl, rfl, rfl, rfl, rfl⟩

end Ty

end JsonTyping
