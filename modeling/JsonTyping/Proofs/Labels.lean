import JsonTyping.Proofs.Equivalence
import JsonTyping.Ty.Building
import Mathlib.Data.List.Pairwise

/-!
# Labels and raw values

The labels of an enum have to differ from each other, and so have the raw values. A mapping like
that is `EnumMapping.Invertible`, and an enum is built over it and over no other. What is reported
of another mapping is its first pair that repeats a label or a raw value of the pairs before it;
`EnumMapping.FirstConflict` tells which pair this is, and with which error.

In an invertible mapping a raw value belongs to one pair only, so a search for it finds the label of
that pair (`labelFor?_of_mem`). Nothing is asked of a label and a raw value, though, and a value
that is to become a label is looked for among the labels first. So a raw value that is the label of
another pair stays what it is, and that is the one case in which it does not become its label
(`Ty.toLabel_outcome`).
-/

namespace JsonTyping

namespace EnumMapping

/-- Whether two pairs have different labels and different raw values. -/
def Apart (p q : Value × Value) : Prop := (p.1 == q.1) = false ∧ (p.2 == q.2) = false

/-- Whether no label occurs twice and no raw value occurs twice. -/
def Invertible (mapping : EnumMapping) : Prop := mapping.Pairwise Apart

/-- Whether the raw value of a pair is the label of another pair. -/
def Shadowed (mapping : EnumMapping) (pair : Value × Value) : Prop :=
  ∃ label ∈ mapping.labels, (label == pair.2) = true ∧ (label == pair.1) = false

/-- What is wrong with a mapping first. The pairs before the one at fault are invertible, so none of
them is at fault itself. If the pair has the label of an earlier one, the label is reported; and if
it only has the raw value of an earlier one, the raw value is reported, with the label of the
earliest pair that it belongs to and with the label of the pair at fault. -/
inductive FirstConflict (mapping : EnumMapping) : DefinitionError → Prop
  | label (before after : EnumMapping) {label raw : Value} :
      mapping = before ++ (label, raw) :: after → before.Invertible →
      (∃ pair ∈ before, (pair.1 == label) = true) →
        FirstConflict mapping (.duplicateLabel label)
  | raw (before after fore aft : EnumMapping) {first other label raw : Value} :
      mapping = before ++ (label, raw) :: after → before.Invertible →
      (∀ pair ∈ before, (pair.1 == label) = false) →
      before = fore ++ (first, other) :: aft → (other == raw) = true →
      (∀ pair ∈ fore, (pair.2 == raw) = false) →
        FirstConflict mapping (.sharedRawValue raw first label)

instance (p q : Value × Value) : Decidable (Apart p q) := inferInstanceAs (Decidable (_ ∧ _))

instance (mapping : EnumMapping) : Decidable mapping.Invertible :=
  inferInstanceAs (Decidable (List.Pairwise Apart mapping))

instance (mapping : EnumMapping) (pair : Value × Value) : Decidable (mapping.Shadowed pair) :=
  inferInstanceAs (Decidable (∃ label ∈ mapping.labels, _))

variable {mapping earlier before rest : EnumMapping} {pair : Value × Value} {v : Value}

/-! ### Lookup -/

theorem Apart.symm {p q : Value × Value} (h : Apart p q) : Apart q p :=
  ⟨BEq.comm.trans h.1, BEq.comm.trans h.2⟩

/-- The pairs of an invertible mapping can be told apart by their raw values. -/
theorem Invertible.eq_of_raw (invertible : mapping.Invertible) {p q : Value × Value}
    (hp : p ∈ mapping) (hq : q ∈ mapping) (same : (p.2 == q.2) = true) : p = q := by
  have : Std.Symm Apart := ⟨fun _ _ ↦ Apart.symm⟩
  by_contra ne
  have apart : Apart p q := List.Pairwise.forall invertible hp hq ne
  cases apart.2.symm.trans same

/-- A raw value is found with the pair that it belongs to. -/
theorem labelFor?_of_mem (invertible : mapping.Invertible) (mem : pair ∈ mapping)
    (same : (pair.2 == v) = true) : mapping.labelFor? v = some pair.1 := by
  rcases found : mapping.find? (fun other ↦ other.2 == v) with - | other
  · exact absurd same (List.find?_eq_none.1 found pair mem)
  · have matched : (other.2 == v) = true := by simpa using List.find?_some found
    have one : other = pair :=
      invertible.eq_of_raw (List.mem_of_find?_eq_some found) mem (BEq.trans matched (BEq.symm same))
    rw [labelFor?, found, one]
    rfl

theorem labelFor?_eq_none (new : ∀ pair ∈ mapping, (pair.2 == v) = false) :
    mapping.labelFor? v = none := by
  rw [labelFor?, List.find?_eq_none.2 fun pair mem ↦ Bool.eq_false_iff.1 (new pair mem)]
  rfl

theorem any_label_iff :
    (mapping.any fun pair ↦ pair.1 == v) = true ↔
      ∃ label ∈ mapping.labels, (label == v) = true := by
  simp [labels]

theorem isLabel_or_new (mapping : EnumMapping) (v : Value) :
    (∃ label ∈ mapping.labels, (label == v) = true) ∨
      ∀ label ∈ mapping.labels, (label == v) = false := by
  by_cases isLabel : ∃ label ∈ mapping.labels, (label == v) = true
  · exact .inl isLabel
  · exact .inr fun label mem ↦ Bool.eq_false_iff.2 fun same ↦ isLabel ⟨label, mem, same⟩

/-- What is a label stays. -/
theorem toLabel_of_label {label : Value} (mem : label ∈ mapping.labels)
    (same : (label == v) = true) : mapping.toLabel v = v := by
  rw [toLabel, if_pos (any_label_iff.2 ⟨label, mem, same⟩)]

/-- What is no label is looked for among the raw values. -/
theorem toLabel_of_new (new : ∀ label ∈ mapping.labels, (label == v) = false) :
    mapping.toLabel v = (mapping.labelFor? v).getD v := by
  have noLabel : ¬(mapping.any fun pair ↦ pair.1 == v) = true := by
    rw [any_label_iff]
    rintro ⟨label, isLabel, same⟩
    cases (new label isLabel).symm.trans same
  rw [toLabel, if_neg noLabel]

/-- A raw value that is no label becomes the label that it belongs to. -/
theorem toLabel_of_raw (invertible : mapping.Invertible) (mem : pair ∈ mapping)
    (same : (pair.2 == v) = true) (new : ∀ label ∈ mapping.labels, (label == v) = false) :
    mapping.toLabel v = pair.1 := by
  rw [toLabel_of_new new, labelFor?_of_mem invertible mem same]
  rfl

/-- What is not a label yet stays or becomes one. -/
theorem toLabel_eq_self_or_mem (mapping : EnumMapping) (v : Value) :
    mapping.toLabel v = v ∨ mapping.toLabel v ∈ mapping.labels := by
  rw [toLabel]
  split
  · exact .inl rfl
  · rcases found : mapping.labelFor? v with - | label
    · exact .inl rfl
    · obtain ⟨pair, pairFound, rfl⟩ := Option.map_eq_some_iff.1 found
      exact .inr (List.mem_map_of_mem (List.mem_of_find?_eq_some pairFound))

/-- Translating a second time changes nothing, whatever the mapping. -/
theorem toLabel_toLabel (mapping : EnumMapping) (v : Value) :
    mapping.toLabel (mapping.toLabel v) = mapping.toLabel v := by
  rcases toLabel_eq_self_or_mem mapping v with same | mem
  · rw [same, same]
  · exact toLabel_of_label mem BEq.rfl

/-! ### Conflicts -/

/-- A pair that goes with the earlier ones is one of them from then on. -/
theorem conflict?_of_apart (apart : ∀ p ∈ earlier, Apart p pair) :
    conflict? earlier (pair :: rest) = conflict? (earlier ++ [pair]) rest := by
  have newLabel : ¬(earlier.any fun p ↦ p.1 == pair.1) = true := by
    simpa using fun p mem ↦ (apart p mem).1
  have newRaw : (earlier.find? fun p ↦ p.2 == pair.2) = none :=
    List.find?_eq_none.2 fun p mem ↦ Bool.eq_false_iff.1 (apart p mem).2
  rw [conflict?, if_neg newLabel, newRaw]

/-- The search gets past pairs that go with each other. -/
theorem conflict?_append (invertible : Invertible (earlier ++ before)) :
    conflict? earlier (before ++ rest) = conflict? (earlier ++ before) rest := by
  induction before generalizing earlier with
  | nil => rw [List.append_nil, List.nil_append]
  | cons pair before ih =>
    have apart : ∀ p ∈ earlier, Apart p pair := fun p mem ↦
      (List.pairwise_append.1 invertible).2.2 p mem pair List.mem_cons_self
    have regrouped : earlier ++ [pair] ++ before = earlier ++ pair :: before := by simp
    rw [List.cons_append, conflict?_of_apart apart, ih (regrouped ▸ invertible), regrouped]

/-- The search comes to the first pair that does not go with the pairs before it. -/
theorem conflict?_of_invertible (invertible : before.Invertible) (rest : EnumMapping) :
    conflict? [] (before ++ rest) = conflict? before rest :=
  conflict?_append invertible

theorem FirstConflict.conflict?_eq {error : DefinitionError} (h : mapping.FirstConflict error) :
    conflict? [] mapping = some error := by
  cases h with
  | label before after split invertible repeated =>
    rw [split, conflict?_of_invertible invertible, conflict?,
      if_pos (List.any_eq_true.2 repeated)]
  | @raw before after fore aft first other label raw split invertible new place same unseen =>
    have newLabel : ¬(before.any fun p ↦ p.1 == label) = true := by simpa using new
    have found : (before.find? fun p ↦ p.2 == raw) = some (first, other) :=
      List.find?_eq_some_iff_append.2 ⟨same, fore, aft, place, by simpa using unseen⟩
    rw [split, conflict?_of_invertible invertible, conflict?, if_neg newLabel, found]

/-- If some pairs go with each other, then all the pairs after them do too or there is a first one
that does not. -/
theorem invertible_or_firstConflict (invertible : earlier.Invertible) (rest : EnumMapping) :
    Invertible (earlier ++ rest) ∨ ∃ error, FirstConflict (earlier ++ rest) error := by
  -- the induction is on the search, which ends in one of the first three ways
  fun_induction conflict? earlier rest with
  | case1 earlier =>
    rw [List.append_nil]
    exact .inl invertible
  | case2 earlier label raw rest repeated =>
    exact .inr ⟨_, .label earlier rest rfl invertible (List.any_eq_true.1 repeated)⟩
  | case3 earlier label raw rest new first other found =>
    obtain ⟨same, fore, aft, place, unseen⟩ := List.find?_eq_some_iff_append.1 found
    exact .inr ⟨_, .raw earlier rest fore aft rfl invertible (by simpa using new) place same
      (by simpa using unseen)⟩
  | case4 earlier label raw rest new unseen ih =>
    have apart : ∀ p ∈ earlier, Apart p (label, raw) := fun p mem ↦
      ⟨by simpa using fun h ↦ new (List.any_eq_true.2 ⟨p, mem, h⟩),
        Bool.eq_false_iff.2 (List.find?_eq_none.1 unseen p mem)⟩
    have longer : Invertible (earlier ++ [(label, raw)]) := by
      refine List.pairwise_append.2 ⟨invertible, List.pairwise_singleton _ _, fun p mem q eq ↦ ?_⟩
      rw [List.mem_singleton.1 eq]
      exact apart p mem
    rw [← List.append_cons] at ih
    exact ih longer

theorem conflict?_eq_none_iff : conflict? [] mapping = none ↔ mapping.Invertible := by
  constructor
  · intro none
    rcases invertible_or_firstConflict .nil mapping with invertible | ⟨error, conflict⟩
    · exact invertible
    · cases none.symm.trans conflict.conflict?_eq
  · intro invertible
    rw [← List.append_nil mapping, conflict?_of_invertible invertible]
    rfl

/-- The search finds what is wrong first. -/
theorem conflict?_eq_some_iff {error : DefinitionError} :
    conflict? [] mapping = some error ↔ mapping.FirstConflict error := by
  refine ⟨fun found ↦ ?_, FirstConflict.conflict?_eq⟩
  rcases invertible_or_firstConflict .nil mapping with invertible | ⟨error', conflict⟩
  · cases (conflict?_eq_none_iff.2 invertible).symm.trans found
  · cases conflict.conflict?_eq.symm.trans found
    exact conflict

end EnumMapping

namespace Ty

variable {t e : Ty} {mapping : EnumMapping}

/-! ### Enums -/

theorem ofMapping_eq_ok_iff :
    t.ofMapping mapping = .ok e ↔ mapping.Invertible ∧ e = ofKind (.enum t mapping) := by
  rw [← EnumMapping.conflict?_eq_none_iff, ofMapping]
  rcases EnumMapping.conflict? [] mapping with - | error <;> simp [eq_comm]

theorem ofMapping_eq_error_iff {error : DefinitionError} :
    t.ofMapping mapping = .error error ↔ mapping.FirstConflict error := by
  rw [← EnumMapping.conflict?_eq_some_iff, ofMapping]
  rcases EnumMapping.conflict? [] mapping with - | error <;> simp

/-- **What an enum can be built over.** It can be built exactly over the mappings in which no label
and no raw value occurs twice, and it then has the mapping as it is; and it is refused exactly with
the first conflict of the mapping. In a mapping that is not refused, a value that equals a raw value
is looked up as the label of that pair, and any other value is not found. Translating to labels a
second time changes nothing. -/
theorem ofMapping_outcome (t : Ty) (mapping : EnumMapping) :
    (∀ e, t.ofMapping mapping = .ok e ↔ mapping.Invertible ∧ e = ofKind (.enum t mapping)) ∧
    (∀ error, t.ofMapping mapping = .error error ↔ mapping.FirstConflict error) ∧
    (∀ e, t.ofMapping mapping = .ok e → ∀ v,
      (∀ pair ∈ mapping, (pair.2 == v) = true → mapping.labelFor? v = some pair.1) ∧
      ((∀ pair ∈ mapping, (pair.2 == v) = false) → mapping.labelFor? v = none)) ∧
    ∀ v, mapping.toLabel (mapping.toLabel v) = mapping.toLabel v := by
  refine ⟨fun e ↦ ofMapping_eq_ok_iff, fun error ↦ ofMapping_eq_error_iff, fun e built v ↦ ?_,
    EnumMapping.toLabel_toLabel mapping⟩
  have invertible := (ofMapping_eq_ok_iff.1 built).1
  exact ⟨fun pair mem ↦ EnumMapping.labelFor?_of_mem invertible mem, EnumMapping.labelFor?_eq_none⟩

/-- Points on a line; the last two stand for one object, whose entries are in another order. -/
def points : EnumMapping :=
  [(.string "origin", .null),
    (.string "left", .object [("x", .bool false), ("y", .null)]),
    (.string "west", .object [("y", .null), ("x", .bool false)])]

/-- The points are refused because of the third, and the first two are not; among these the object
is looked up in either order. -/
theorem ofMapping_outcome_points :
    (nominal .string).ofMapping points =
      .error (.sharedRawValue (.object [("y", .null), ("x", .bool false)]) (.string "left")
        (.string "west")) ∧
    (nominal .string).ofMapping (points.take 2) =
      .ok (ofKind (.enum (nominal .string) (points.take 2))) ∧
    EnumMapping.labelFor? (points.take 2) (.object [("y", .null), ("x", .bool false)]) =
      some (.string "left") := by
  obtain ⟨-, refused, -, -⟩ := ofMapping_outcome (nominal .string) points
  obtain ⟨built, -, found, -⟩ := ofMapping_outcome (nominal .string) (points.take 2)
  have two := (built _).2 ⟨by decide, rfl⟩
  refine ⟨(refused _).2 ?_, two,
    (found _ two _).1 _ (List.mem_cons_of_mem _ List.mem_cons_self) rfl⟩
  exact .raw (points.take 2) [] (points.take 1) [] rfl (by decide) (by decide) rfl rfl (by decide)

/-- **Which values an enum translates.** A label stays. A raw value becomes the label that it
belongs to, unless it is the label of another pair; labels come first, so it then stays too, and is
not the label that it belongs to. -/
theorem toLabel_outcome (built : t.ofMapping mapping = .ok e) :
    e.kind = .enum t mapping ∧ ∀ pair ∈ mapping,
      mapping.toLabel pair.1 = pair.1 ∧
      (¬ mapping.Shadowed pair → (mapping.toLabel pair.2 == pair.1) = true) ∧
      (mapping.Shadowed pair →
        mapping.toLabel pair.2 = pair.2 ∧ (mapping.toLabel pair.2 == pair.1) = false) := by
  obtain ⟨invertible, rfl⟩ := ofMapping_eq_ok_iff.1 built
  refine ⟨rfl, fun pair mem ↦ ⟨?_, fun free ↦ ?_, fun shadowed ↦ ?_⟩⟩
  · exact EnumMapping.toLabel_of_label (List.mem_map_of_mem mem) BEq.rfl
  · rcases mapping.isLabel_or_new pair.2 with ⟨label, labelMem, same⟩ | new
    · -- the raw value is a label, which can only be the one that it belongs to
      have own : (label == pair.1) = true := by
        by_contra other
        exact free ⟨label, labelMem, same, Bool.eq_false_iff.2 other⟩
      rw [EnumMapping.toLabel_of_label labelMem same]
      exact BEq.trans (BEq.symm same) own
    · rw [EnumMapping.toLabel_of_raw invertible mem BEq.rfl new]
      exact BEq.rfl
  · obtain ⟨label, labelMem, same, other⟩ := shadowed
    rw [EnumMapping.toLabel_of_label labelMem same, ← BEq.congr_left same]
    exact ⟨rfl, other⟩

/-- Two labels, the second of which is what the first stands for. -/
def chained : EnumMapping := [(.string "a", .string "b"), (.string "b", .string "c")]

/-- The raw value of the first label is the second label and stays; that of the second is
translated. -/
theorem toLabel_outcome_chained :
    (nominal .string).ofMapping chained = .ok (ofKind (.enum (nominal .string) chained)) ∧
    chained.Shadowed (.string "a", .string "b") ∧ ¬ chained.Shadowed (.string "b", .string "c") ∧
    chained.toLabel (.string "a") = .string "a" ∧
    chained.toLabel (.string "b") = .string "b" ∧
    (chained.toLabel (.string "c") == .string "b") = true := by
  have built : (nominal .string).ofMapping chained =
      .ok (ofKind (.enum (nominal .string) chained)) := rfl
  have shadowed : chained.Shadowed (.string "a", .string "b") := by decide
  have free : ¬ chained.Shadowed (.string "b", .string "c") := by decide
  obtain ⟨-, pairs⟩ := toLabel_outcome built
  obtain ⟨label, -, stays⟩ := pairs (.string "a", .string "b") List.mem_cons_self
  obtain ⟨-, translated, -⟩ :=
    pairs (.string "b", .string "c") (List.mem_cons_of_mem _ List.mem_cons_self)
  exact ⟨built, shadowed, free, label, (stays shadowed).1, translated free⟩

/-- The mapping is accepted and the second label is the raw value of the first, but it is not
translated to the first. -/
theorem toLabel_keeps_chained :
    (nominal .string).ofMapping chained = .ok (ofKind (.enum (nominal .string) chained)) ∧
    (.string "a", .string "b") ∈ chained ∧
    chained.labelFor? (.string "b") = some (.string "a") ∧
    (chained.toLabel (.string "b") == .string "a") = false :=
  ⟨rfl, List.mem_cons_self, rfl, rfl⟩

end Ty

end JsonTyping
