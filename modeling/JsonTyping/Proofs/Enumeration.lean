import JsonTyping.Proofs.Labels
import JsonTyping.Proofs.Narrowing

/-!
# Enums of a type

Restricting a type to the labels of a mapping does two things at its two ends. The labels become a
predicate, which goes to the end of the spine, inside of transforms, defaults and enums that are
there already; and the raw values are turned into labels at the outside, before all of these
(`enumerate_eq_ok_iff`).

What comes in between may change a label, or yield a default. Still only labels come out, because
the predicate on an unsheltered type with fixed defaults is enforced on what the type yields,
wherever it stands (`run_of_enumerate`). So membership of the output takes no look at the spine any
more.
-/

namespace JsonTyping

theorem Predicate.includedIn_test_iff {vs : List Value} {v : Value} :
    (includedIn vs).test v = true ↔ ∃ w ∈ vs, (w == v) = true := List.any_eq_true

namespace Ty

variable {t e : Ty} {mapping : EnumMapping}

/-- An enum of a type is the type narrowed to the labels, with an invertible mapping on top. -/
theorem enumerate_eq_ok_iff :
    t.enumerate mapping = .ok e ↔
      mapping.Invertible ∧ ∃ u, Narrows [.includedIn mapping.labels] t u ∧
        e = ofKind (.enum u mapping) := by
  constructor
  · intro built
    obtain ⟨u, narrowed, mapped⟩ := exists_eq_ok_of_bind built
    obtain ⟨invertible, eq⟩ := ofMapping_eq_ok_iff.1 mapped
    exact ⟨invertible, u, .of_constrain narrowed, eq⟩
  · rintro ⟨invertible, u, narrows, eq⟩
    rw [enumerate, narrows.constrain_eq]
    exact ofMapping_eq_ok_iff.2 ⟨invertible, eq⟩

/-- An enum of an unsheltered type with fixed defaults turns raw values into labels, runs the type,
and lets labels pass. -/
theorem run_of_enumerate (unsheltered : t.Unsheltered) (fixed : t.FixesDefaults)
    (built : t.enumerate mapping = .ok e) (input : Option Value) :
    e.run input =
      t.run.constrained [.includedIn mapping.labels] (input.map mapping.toLabel) := by
  obtain ⟨-, u, narrows, rfl⟩ := enumerate_eq_ok_iff.1 built
  rw [ofKind, run_enum, narrows.run_eq unsheltered fixed]
  rfl

theorem run_of_enumerate_eq_ok_some_iff (unsheltered : t.Unsheltered) (fixed : t.FixesDefaults)
    (built : t.enumerate mapping = .ok e) {input : Option Value} {output : Value} :
    e.run input = .ok (some output) ↔
      t.run (input.map mapping.toLabel) = .ok (some output) ∧
        ∃ label ∈ mapping.labels, (label == output) = true := by
  rw [run_of_enumerate unsheltered fixed built, Check.constrained_eq_ok_some_iff,
    List.forall_mem_singleton, Predicate.includedIn_test_iff]

/-- **Only labels come out of an enum.** Let an enum be made of an unsheltered type with fixed
defaults. Whatever comes in, be it undefined, what comes out equals a label. A value comes out for a
value exactly if the type yields it for the translated value and it equals a label. And a raw value
that is no label has the outcome of its label, be it a failure. -/
theorem enumerate_outcome (unsheltered : t.Unsheltered) (fixed : t.FixesDefaults)
    (built : t.enumerate mapping = .ok e) :
    (∀ input output, e.run input = .ok (some output) →
      ∃ label ∈ mapping.labels, (label == output) = true) ∧
    (∀ v output, e.run (some v) = .ok (some output) ↔
      t.run (some (mapping.toLabel v)) = .ok (some output) ∧
        ∃ label ∈ mapping.labels, (label == output) = true) ∧
    ∀ pair ∈ mapping, ∀ v, (pair.2 == v) = true →
      (∀ label ∈ mapping.labels, (label == v) = false) → e.run (some v) = e.run (some pair.1) := by
  refine ⟨fun input output came ↦ ?_, fun v output ↦ ?_, fun pair mem v same new ↦ ?_⟩
  · exact ((run_of_enumerate_eq_ok_some_iff unsheltered fixed built).1 came).2
  · exact run_of_enumerate_eq_ok_some_iff unsheltered fixed built
  · have invertible := (enumerate_eq_ok_iff.1 built).1
    have translated : mapping.toLabel v = mapping.toLabel pair.1 := by
      rw [EnumMapping.toLabel_of_raw invertible mem same new,
        EnumMapping.toLabel_of_label (List.mem_map_of_mem mem) BEq.rfl]
    rw [run_of_enumerate unsheltered fixed built, run_of_enumerate unsheltered fixed built,
      Option.map_some, Option.map_some, translated]

/-- How much something matters: an integer or its numeral, and one if nothing is said. -/
def weight : Ty :=
  ofKind (.defaulted ((nominal .integer).coerce .toInteger) (.ofUInt64 1))

/-- Two of the weights, which can be written out. -/
def weights : EnumMapping :=
  [(.ofUInt64 1, .string "low"), (.ofUInt64 2, .string "high")]

/-- The enum of the two weights; the labels are inside of the default and the transform. -/
def namedWeight : Ty :=
  ofKind (.enum
    (ofKind (.defaulted
      (ofKind (.coerced
        (ofKind (.constrained (nominal .integer) [.includedIn [.ofUInt64 1, .ofUInt64 2]]))
        [.toInteger]))
      (.ofUInt64 1)))
    weights)

/-- A name comes to its weight as the weight itself does, and so does a numeral, which is neither
label nor raw value. A third weight is an outcome of the type and not of the enum. -/
theorem enumerate_outcome_weights :
    weight.Unsheltered ∧ weight.FixesDefaults ∧ weight.enumerate weights = .ok namedWeight ∧
    namedWeight.run (some (.string "high")) = .ok (some (.ofUInt64 2)) ∧
    namedWeight.run (some (.string "2")) = .ok (some (.ofUInt64 2)) ∧
    weight.run (some (.string "3")) = .ok (some (.ofUInt64 3)) ∧
    namedWeight.run (some (.string "3")) ≠ .ok (some (.ofUInt64 3)) := by
  have unsheltered : weight.Unsheltered := by decide
  have fixed : weight.FixesDefaults := .defaulted _ rfl (Bare.fixesDefaults (by decide))
  have built : weight.enumerate weights = .ok namedWeight := rfl
  obtain ⟨labels, values, raws⟩ := enumerate_outcome unsheltered fixed built
  refine ⟨unsheltered, fixed, built, ?_, (values _ _).2 ⟨rfl, by decide⟩, rfl, fun came ↦ ?_⟩
  · rw [raws (.ofUInt64 2, .string "high") (by simp [weights]) _ rfl (by decide)]
    exact (values _ _).2 ⟨rfl, by decide⟩
  · exact absurd (labels _ _ came) (by decide)

end Ty

end JsonTyping
