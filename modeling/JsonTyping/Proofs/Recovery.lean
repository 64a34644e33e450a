import JsonTyping.Proofs.Laxness
import JsonTyping.Proofs.Members

/-!
# Recovery, member by member

A lax type takes what is left of a failure. For a container there are two readings of that: the
container may be made lax, so that it fails as a whole and what it has assembled is taken, or each
of its members may be made lax, so that none of them fails and the container has no reason to. For
arrays and schemas the two come to the same (`toLax_distributes`).

The reason is that what is left of a container is put together from what is left of its members, in
one and the same way whether there is something to report or not (`Check.remainder?_array`,
`Check.remainder?_schema`). In particular a key that is missing is reported but leaves nothing
behind, so that laxness forgets that it is required.
-/

namespace JsonTyping

namespace Check

/-- What is left of an array is what is left of its items. -/
theorem remainder?_array (check : Check) (items : List Value) :
    (check.array (some (.array items))).remainder? =
      some (.array (items.filterMap fun x ↦ (check (some x)).remainder?)) := by
  rw [array_items, Outcome.remainder?_ofMembers]

/-- What is left of an object is what is left of its declared keys, and what is kept of the
others. -/
theorem remainder?_schema {α : Type} (check : α → Check) (fields : List (Field α))
    (unknownKeys : UnknownKeys) (entries : Entries Value) :
    (schema (fields.map (Field.map check)) unknownKeys (some (.object entries))).remainder? =
      some (.object
        ((fields.filterMap fun field ↦
            (check field.type (entries.get? field.name)).remainder?.map fun value ↦
              (field.name, value)) ++
          keptEntries (undeclared (fields.map Field.name) entries) unknownKeys)) := by
  rw [schema_object, ofFields, Outcome.remainder?_ofMembers, assemble, List.filterMap_map]
  rfl

end Check

namespace Ty

/-- The lax version yields what is left by the stripped type. -/
theorem run_toLax {t : Ty} (strict : t.isLax = false) (input : Option Value) :
    t.toLax.run input = .ok (t.strip.run input).remainder? := by
  rw [toLax_of_strict strict, withKind, run_lax]
  rfl

theorem value?_run_toLax {t : Ty} (strict : t.isLax = false) (input : Option Value) :
    (t.toLax.run input).value? = (t.strip.run input).remainder? := by
  rw [run_toLax strict]
  rfl

/-- **Laxness goes inward.** The lax version of an array type yields what the lax version of its
member yields for the items, in order, without those that come to no value. The lax version of a
schema yields what the lax versions of the declared keys yield for the values under them or for
undefined input, in the order of declaration and without those that come to no value, required or
not; and then the other entries where these are preserved. Neither the member nor the types of the
keys may be lax already. -/
theorem toLax_distributes :
    (∀ t : Ty, t.isLax = false → ∀ items : List Value,
      t.array.toLax.run (some (.array items)) =
        .ok (some (.array (items.filterMap fun x ↦ (t.toLax.run (some x)).value?)))) ∧
    ∀ (fields : List (Field Ty)) (unknownKeys : UnknownKeys) (notes : Annotations),
      (∀ field ∈ fields, field.type.isLax = false) → ∀ entries : Entries Value,
        (toLax ⟨.schema fields unknownKeys, notes⟩).run (some (.object entries)) =
          .ok (some (.object
            ((fields.filterMap fun field ↦
                (field.type.toLax.run (entries.get? field.name)).value?.map fun value ↦
                  (field.name, value)) ++
              if unknownKeys = .preserve then Check.undeclared (fields.map Field.name) entries
              else []))) := by
  refine ⟨fun t strict items ↦ ?_, fun fields unknownKeys notes strict entries ↦ ?_⟩
  · have stripped : t.array.strip.run = t.strip.run.array := run_array t.strip []
    rw [run_toLax rfl, stripped, Check.remainder?_array,
      List.filterMap_congr fun x _ ↦ value?_run_toLax strict (some x)]
  · have yielded : ∀ field ∈ fields,
        ((field.type.toLax.run (entries.get? field.name)).value?.map fun value ↦
            (field.name, value)) =
          ((run ∘ strip) field.type (entries.get? field.name)).remainder?.map fun value ↦
            (field.name, value) := fun field mem ↦ by
      rw [value?_run_toLax (strict field mem)]
      rfl
    rw [run_toLax rfl, strip_schema, run_schema, List.map_map, List.filterMap_congr yielded,
      ← Check.keptEntries_eq]
    exact congrArg Except.ok (Check.remainder?_schema (run ∘ strip) fields unknownKeys entries)

/-- A person: a name that is not too short and an age, both required, and whatever else there is. -/
def person : Ty :=
  ofFields [⟨"name", longWord, true⟩, ⟨"age", nominal .integer, true⟩] .preserve

/-- Of three names the first is filtered, the second is no text, and the third is too short; the
last two are left. Of the person the empty name is left out although one is required, the age is
left although it is no integer, and the note is kept. -/
theorem toLax_distributes_person :
    longWord.isLax = false ∧
    (∀ field ∈ person.fields?.getD [], field.type.isLax = false) ∧
    longWord.array.toLax.run (some (.array [.string "", .null, .string "x"])) =
      .ok (some (.array [.null, .string "x"])) ∧
    person.toLax.run
        (some (.object [("note", .null), ("age", .string "five"), ("name", .string "")])) =
      .ok (some (.object [("age", .string "five"), ("note", .null)])) := by
  have strict : longWord.isLax = false := rfl
  have fields : ∀ field ∈ person.fields?.getD [], field.type.isLax = false := by decide
  obtain ⟨arrays, schemas⟩ := toLax_distributes
  exact ⟨strict, fields, arrays longWord strict _, schemas _ .preserve [] fields _⟩

end Ty

end JsonTyping
