import JsonTyping.Proofs.Alikeness
import JsonTyping.Proofs.Nodes

/-!
# Equal types are interchangeable

Equality of types looks past annotations, past the order of declared keys, and past everything in
defaults and in arguments of predicates that equality of values looks past. Two equal types may
therefore yield values that differ, but for the same input both succeed or both fail, and what is
left of the two outcomes is equal (`run_alike`).

On the way inward the inputs of the two runs are not only equal but identical, so that transforms,
which need not respect equality, cannot drive them apart. This is why the labels of enums have to be
of a form in which equal values are identical (`Value.isAtom`): a raw value is replaced by its
label. On the way outward the values are equal, and a rule cannot tell them apart.

Transforms go by their names, and predicates from outside by names and arguments. `Ty.TrustedNames`
says what these names are trusted with. That is not all that equality leaves to trust: patterns go
by their texts, and whoever compiles a pattern may set options that the text does not show. Two
types that ask for such patterns are equal and hold of different texts
(`anchors_not_interchangeable`). So `Ty.Trusted` asks of patterns with the same text that they occur
in the same texts. Patterns that the library compiles do (`TrustedNames.trusted`).
-/

namespace JsonTyping

/-! ### Atoms -/

/-- Whether a value is null, a truth value, an integer or a text. -/
def Value.isAtom : Value → Bool
  | null | bool _ | number (.integer _) | string _ => true
  | number (.double _) | array _ | object _ => false

/-- Equal atoms are identical. -/
theorem Value.eq_of_isAtom {v w : Value} (atom : v.isAtom = true) (h : (v == w) = true) :
    v = w := by
  cases same_of_equal h with
  | null | bool | string => rfl
  | @number m n same =>
    cases m with
    | integer m => rw [Number.eq_of_integer_beq same]
    | double d => cases atom
  | array | object => cases atom

namespace Ty

/-! ### Equality of one layer -/

/-- Whether two declared keys have the same name, are both required or not, and are of equal
types. -/
def FieldEq (field field' : Field Ty) : Prop :=
  field.name = field'.name ∧ field.required = field'.required ∧ (field.type == field'.type) = true

/-- Whether two layers are of the same sort and equal in all their parts. -/
inductive SameLayer : Kind Ty → Kind Ty → Prop
  | nominal (p : Primitive) : SameLayer (.nominal p) (.nominal p)
  | constrained {t u : Ty} {rule rule' : Rule} : (t == u) = true →
      List.Forall₂ (fun p q ↦ (p == q) = true) rule rule' →
      SameLayer (.constrained t rule) (.constrained u rule')
  | coerced {t u : Ty} {steps steps' : List Transform} : (t == u) = true →
      List.Forall₂ (fun a b ↦ (a == b) = true) steps steps' →
      SameLayer (.coerced t steps) (.coerced u steps')
  | defaulted {t u : Ty} {v w : Value} : (t == u) = true → (v == w) = true →
      SameLayer (.defaulted t v) (.defaulted u w)
  | lax {t u : Ty} : (t == u) = true → SameLayer (.lax t) (.lax u)
  | sum {t t' u u' : Ty} : (t == u) = true → (t' == u') = true →
      SameLayer (.sum t t') (.sum u u')
  | enum {t u : Ty} {mapping mapping' : EnumMapping} : (t == u) = true →
      List.Forall₂ (fun a b ↦ (a == b) = true) mapping mapping' →
      SameLayer (.enum t mapping) (.enum u mapping')
  | array {t u : Ty} : (t == u) = true → SameLayer (.array t) (.array u)
  | schema {fields fields' : List (Field Ty)} (unknownKeys : UnknownKeys) :
      Pairs FieldEq fields fields' →
      SameLayer (.schema fields unknownKeys) (.schema fields' unknownKeys)
  | dictionary {t t' u u' : Ty} : (t == u) = true → (t' == u') = true →
      SameLayer (.dictionary t t') (.dictionary u u')

/-- Declared keys that are matched up can be paired. -/
theorem pairs_of_matchUp_fields {fields fields' : List (Field Ty)}
    (h : matchUp ((fields.map (Field.map equal)).map Field.equals) fields' = true) :
    Pairs FieldEq fields fields' := by
  rw [List.map_map] at h
  refine (pairs_of_matchUp h).imp_of_mem fun field _ field' _ test ↦ ?_
  obtain ⟨declared, types⟩ := Bool.and_eq_true_iff.1 test
  obtain ⟨names, required⟩ := Bool.and_eq_true_iff.1 declared
  exact ⟨(beq_iff_eq.1 names).symm, (beq_iff_eq.1 required).symm, types⟩

theorem sameLayer_of_beq {k k' : Kind Ty} {notes notes' : Annotations}
    (h : ((⟨k, notes⟩ : Ty) == ⟨k', notes'⟩) = true) : SameLayer k k' := by
  replace h : (k.map equal).equals k' = true := (equal_mk k notes ⟨k', notes'⟩).symm.trans h
  cases k with
  | nominal p =>
    cases k' with
    | nominal q => exact beq_iff_eq.1 h ▸ .nominal p
    | _ => cases h
  | constrained t rule =>
    cases k' with
    | constrained =>
      obtain ⟨wrapped, rules⟩ := Bool.and_eq_true_iff.1 h
      exact .constrained wrapped (forall₂_of_beq rules)
    | _ => cases h
  | coerced t steps =>
    cases k' with
    | coerced =>
      obtain ⟨wrapped, steps⟩ := Bool.and_eq_true_iff.1 h
      exact .coerced wrapped (forall₂_of_beq steps)
    | _ => cases h
  | defaulted t value =>
    cases k' with
    | defaulted =>
      obtain ⟨wrapped, values⟩ := Bool.and_eq_true_iff.1 h
      exact .defaulted wrapped values
    | _ => cases h
  | lax t =>
    cases k' with
    | lax => exact .lax h
    | _ => cases h
  | sum left right =>
    cases k' with
    | sum =>
      obtain ⟨left, right⟩ := Bool.and_eq_true_iff.1 h
      exact .sum left right
    | _ => cases h
  | enum t mapping =>
    cases k' with
    | enum =>
      obtain ⟨wrapped, mappings⟩ := Bool.and_eq_true_iff.1 h
      exact .enum wrapped (forall₂_of_beq mappings)
    | _ => cases h
  | array member =>
    cases k' with
    | array => exact .array h
    | _ => cases h
  | schema fields unknownKeys =>
    cases k' with
    | schema =>
      obtain ⟨fields, policies⟩ := Bool.and_eq_true_iff.1 h
      exact beq_iff_eq.1 policies ▸ .schema unknownKeys (pairs_of_matchUp_fields fields)
    | _ => cases h
  | dictionary key value =>
    cases k' with
    | dictionary =>
      obtain ⟨keys, values⟩ := Bool.and_eq_true_iff.1 h
      exact .dictionary keys values
    | _ => cases h

/-! ### Trust -/

/-- The predicates in the rules of a type. -/
def predicates (t : Ty) : List Predicate := t.nodes.flatMap fun s ↦ s.rule?.getD []

/-- The transforms that a type sends values through. -/
def transforms (t : Ty) : List Transform :=
  t.nodes.flatMap fun s ↦
    match s.kind with
    | .coerced _ steps => steps
    | _ => []

/-- The labels of the enums in a type. -/
def labels (t : Ty) : List Value := t.nodes.flatMap fun s ↦ EnumMapping.labels (s.mapping?.getD [])

/-- What has to be so for names to stand for what they name in two types: transforms of one name are
one function, predicates from outside that are equal are one test, and this test does not tell equal
values apart. Labels are atoms. -/
structure TrustedNames (t u : Ty) : Prop where
  transforms : ∀ a ∈ t.transforms, ∀ b ∈ u.transforms, a.name = b.name → a.apply = b.apply
  customs : ∀ p ∈ t.predicates, ∀ q ∈ u.predicates, p.isCustom = true → (p == q) = true →
    p.test = q.test
  answers : ∀ p ∈ t.predicates, p.isCustom = true → ∀ v w, (v == w) = true → p.test v = p.test w
  labels : ∀ label ∈ t.labels, label.isAtom = true

/-- What equality leaves to trust besides names: patterns with one text occur in the same texts. -/
structure Trusted (t u : Ty) : Prop extends TrustedNames t u where
  patterns : ∀ a b, .format a ∈ t.predicates → .format b ∈ u.predicates → a.source = b.source →
    a.occursIn = b.occursIn

variable {t u p q : Ty}

/-- Texts tell patterns apart that were compiled with the same flags. -/
theorem TrustedNames.trusted {flags : Pattern.Flags} (h : TrustedNames t u)
    (left : ∀ a, .format a ∈ t.predicates → Pattern.compile? flags a.source = some a)
    (right : ∀ a, .format a ∈ u.predicates → Pattern.compile? flags a.source = some a) :
    Trusted t u where
  toTrustedNames := h
  patterns a b ha hb same :=
    congrArg Pattern.occursIn (Pattern.eq_of_compile? (left a ha) (right b hb) same)

/-- What is listed of a part is listed of the type. -/
theorem flatMap_nodes_subset {α : Type} (own : Ty → List α) (part : p ∈ t.kind.parts) :
    p.nodes.flatMap own ⊆ t.nodes.flatMap own := by
  intro a mem
  obtain ⟨s, node, listed⟩ := List.mem_flatMap.1 mem
  refine List.mem_flatMap.2 ⟨s, ?_, listed⟩
  rw [nodes_eq_cons]
  exact List.mem_cons_of_mem _ (List.mem_flatMap.2 ⟨p, part, node⟩)

theorem subset_flatMap_nodes {α : Type} (own : Ty → List α) (t : Ty) :
    own t ⊆ t.nodes.flatMap own := by
  intro a mem
  refine List.mem_flatMap.2 ⟨t, ?_, mem⟩
  rw [nodes_eq_cons]
  exact List.mem_cons_self

/-- Types whose names can be trusted have parts whose names can be trusted. -/
theorem Trusted.part (h : Trusted t u) (hp : p ∈ t.kind.parts) (hq : q ∈ u.kind.parts) :
    Trusted p q where
  transforms a ha b hb :=
    h.transforms a (flatMap_nodes_subset _ hp ha) b (flatMap_nodes_subset _ hq hb)
  customs r hr s hs := h.customs r (flatMap_nodes_subset _ hp hr) s (flatMap_nodes_subset _ hq hs)
  answers r hr := h.answers r (flatMap_nodes_subset _ hp hr)
  labels label hl := h.labels label (flatMap_nodes_subset _ hp hl)
  patterns a b ha hb := h.patterns a b (flatMap_nodes_subset _ hp ha) (flatMap_nodes_subset _ hq hb)

theorem Trusted.single (h : Trusted t u) (hp : t.kind.parts = [p]) (hq : u.kind.parts = [q]) :
    Trusted p q :=
  h.part (hp ▸ List.mem_cons_self) (hq ▸ List.mem_cons_self)

theorem Trusted.pair {p' q' : Ty} (h : Trusted t u) (hp : t.kind.parts = [p, p'])
    (hq : u.kind.parts = [q, q']) : Trusted p q ∧ Trusted p' q' :=
  ⟨h.part (hp ▸ List.mem_cons_self) (hq ▸ List.mem_cons_self),
    h.part (hp ▸ List.mem_cons_of_mem _ List.mem_cons_self)
      (hq ▸ List.mem_cons_of_mem _ List.mem_cons_self)⟩

section Layers

variable {notes notes' : Annotations}

/-- Equal predicates that can be trusted hold of equal values alike. -/
theorem Trusted.agree {rule rule' : Rule}
    (h : Trusted ⟨.constrained t rule, notes⟩ ⟨.constrained u rule', notes'⟩)
    (same : List.Forall₂ (fun p q ↦ (p == q) = true) rule rule') :
    List.Forall₂ Predicate.Agrees rule rule' := by
  refine forall₂_imp_of_mem same fun p hp q hq equal v w values ↦ ?_
  have hp' := subset_flatMap_nodes (fun s ↦ s.rule?.getD []) ⟨.constrained t rule, notes⟩ hp
  have hq' := subset_flatMap_nodes (fun s ↦ s.rule?.getD []) ⟨.constrained u rule', notes'⟩ hq
  -- tests of the library need no trust, but for the way that patterns were compiled
  cases custom : p.isCustom with
  | false =>
    have test : p.test = q.test := by
      refine Predicate.test_eq_of_beq custom (fun a b isA isB ↦ ?_) equal
      exact h.patterns a b (isA ▸ hp') (isB ▸ hq')
    rw [Predicate.test_congr custom values, test]
  | true => rw [h.answers p hp' custom v w values, h.customs p hp' q hq' custom equal]

theorem Trusted.applyAll_eq {steps steps' : List Transform}
    (h : Trusted ⟨.coerced t steps, notes⟩ ⟨.coerced u steps', notes'⟩)
    (same : List.Forall₂ (fun a b ↦ (a == b) = true) steps steps') :
    Transform.applyAll steps = Transform.applyAll steps' := by
  refine Transform.applyAll_congr (forall₂_imp_of_mem same fun a ha b hb equal ↦ ?_)
  have ha' : a ∈ Ty.transforms ⟨.coerced t steps, notes⟩ := subset_flatMap_nodes _ _ ha
  have hb' : b ∈ Ty.transforms ⟨.coerced u steps', notes'⟩ := subset_flatMap_nodes _ _ hb
  exact h.transforms a ha' b hb' (beq_iff_eq.1 equal)

theorem Trusted.toLabel_eq {mapping mapping' : EnumMapping}
    (h : Trusted ⟨.enum t mapping, notes⟩ ⟨.enum u mapping', notes'⟩)
    (same : List.Forall₂ (fun a b ↦ (a == b) = true) mapping mapping') :
    mapping.toLabel = mapping'.toLabel := by
  refine EnumMapping.toLabel_congr (forall₂_imp_of_mem same fun a ha b _ equal ↦ ?_)
  obtain ⟨label, raw⟩ := Bool.and_eq_true_iff.1 equal
  have listed : a.1 ∈ Ty.labels ⟨.enum t mapping, notes⟩ :=
    subset_flatMap_nodes (fun s ↦ EnumMapping.labels (s.mapping?.getD [])) _
      (List.mem_map_of_mem ha)
  exact ⟨Value.eq_of_isAtom (h.labels a.1 listed) label, raw⟩

end Layers

/-! ### Runs of equal types -/

/-- **Equal types are interchangeable.** If two types are equal and what goes by names and texts in
them can be trusted, then for every input both yield equal values, or both yield no value, or both
fail with equal partial values. -/
theorem run_alike (h : (t == u) = true) (trusted : Trusted t u) (input : Option Value) :
    (t.run input).Alike (u.run input) := by
  suffices alike : t.run.Alike u.run from alike input
  clear input
  -- on the first type; the second one has the same layer on top, over parts that are equal
  induction t using Ty.induction generalizing u with
  | nominal p notes =>
    obtain ⟨k, notes'⟩ := u
    cases sameLayer_of_beq h
    rw [run_nominal, run_nominal]
    exact fun input ↦ .refl _
  | constrained wrapped rule notes ih =>
    obtain ⟨k, notes'⟩ := u
    cases sameLayer_of_beq h with
    | constrained same rules =>
      have inner := ih same (trusted.single rfl rfl)
      rw [run_constrained, run_constrained]
      exact inner.constrained (trusted.agree rules)
  | coerced wrapped steps notes ih =>
    obtain ⟨k, notes'⟩ := u
    cases sameLayer_of_beq h with
    | coerced same steps =>
      have inner := ih same (trusted.single rfl rfl)
      rw [run_coerced, run_coerced]
      exact inner.coerced (trusted.applyAll_eq steps)
  | defaulted wrapped value notes ih =>
    obtain ⟨k, notes'⟩ := u
    cases sameLayer_of_beq h with
    | defaulted same values =>
      have inner := ih same (trusted.single rfl rfl)
      rw [run_defaulted, run_defaulted]
      exact inner.defaulted values
  | lax wrapped notes ih =>
    obtain ⟨k, notes'⟩ := u
    cases sameLayer_of_beq h with
    | lax same =>
      have inner := ih same (trusted.single rfl rfl)
      rw [run_lax, run_lax]
      exact inner.lax
  | sum left right notes ihLeft ihRight =>
    obtain ⟨k, notes'⟩ := u
    cases sameLayer_of_beq h with
    | sum same same' =>
      obtain ⟨trustedLeft, trustedRight⟩ := trusted.pair rfl rfl
      rw [run_sum, run_sum]
      exact (ihLeft same trustedLeft).sum (ihRight same' trustedRight)
  | enum wrapped mapping notes ih =>
    obtain ⟨k, notes'⟩ := u
    cases sameLayer_of_beq h with
    | enum same mappings =>
      have inner := ih same (trusted.single rfl rfl)
      rw [run_enum, run_enum]
      exact inner.enum (trusted.toLabel_eq mappings)
  | array member notes ih =>
    obtain ⟨k, notes'⟩ := u
    cases sameLayer_of_beq h with
    | array same =>
      have inner := ih same (trusted.single rfl rfl)
      rw [run_array, run_array]
      exact inner.array
  | schema fields unknownKeys notes ih =>
    obtain ⟨k, notes'⟩ := u
    cases sameLayer_of_beq h with
    | schema _ paired =>
      rw [run_schema, run_schema]
      refine Check.alike_schema (paired.imp_of_mem fun field mem field' mem' same ↦ ?_) unknownKeys
      obtain ⟨names, required, types⟩ := same
      exact ⟨names, required, ih field mem types
        (trusted.part (List.mem_map_of_mem mem) (List.mem_map_of_mem mem'))⟩
  | dictionary key value notes ihKey ihValue =>
    obtain ⟨k, notes'⟩ := u
    cases sameLayer_of_beq h with
    | dictionary same same' =>
      obtain ⟨trustedKey, trustedValue⟩ := trusted.pair rfl rfl
      rw [run_dictionary, run_dictionary]
      exact (ihKey same trustedKey).dictionary (ihValue same' trustedValue)

/-- A test from outside: whether a value has at most three parts. What else is set does not
matter. -/
def brief (settings : Entries Value) : Predicate :=
  .custom "brief?" [.object settings] fun v ↦ v.size?.any (· ≤ 3)

/-- A pattern that occurs in texts of small letters only. -/
def smallLetters : Pattern := ⟨"^[a-z]*$", fun text ↦ text.toList.all Char.isLower⟩

/-- A parcel: a size with a label, a weight that is zero if it is missing, and a brief code in small
letters. -/
def parcel : Ty :=
  ofFields
    [⟨"size", ofKind (.enum (nominal .integer) [(.string "small", .ofUInt64 1)]), true⟩,
      ⟨"weight", ofKind (.defaulted ((nominal .float).coerce .toFloat)
        (.number (.double (.zero false)))), true⟩,
      ⟨"code", ofKind (.constrained (nominal .string)
        [.format smallLetters, brief [("trim", .bool true), ("note", .null)]]), true⟩]
    .ignore

/-- A parcel with its keys and the settings of the test in another order, a weight of negative zero
if it is missing, and a note on top. -/
def parcelAgain : Ty :=
  (ofFields
    [⟨"code", ofKind (.constrained (nominal .string)
        [.format smallLetters, brief [("note", .null), ("trim", .bool true)]]), true⟩,
      ⟨"weight", ofKind (.defaulted ((nominal .float).coerce .toFloat)
        (.number (.double (.zero true)))), true⟩,
      ⟨"size", ofKind (.enum (nominal .integer) [(.string "small", .ofUInt64 1)]), true⟩]
    .ignore).annotate "note" (.string "again")

/-- A parcel without a weight, and with a code that is too long. -/
def crate : Value := .object [("code", .string "crate"), ("size", .ofUInt64 1)]

theorem trusted_parcel : parcel.Trusted parcelAgain := by
  have step : parcel.transforms = [.toFloat] := rfl
  have step' : parcelAgain.transforms = [.toFloat] := rfl
  have tests : parcel.predicates =
      [.format smallLetters, brief [("trim", .bool true), ("note", .null)]] := rfl
  have tests' : parcelAgain.predicates =
      [.format smallLetters, brief [("note", .null), ("trim", .bool true)]] := rfl
  have label : parcel.labels = [.string "small"] := rfl
  refine ⟨⟨fun a ha b hb _ ↦ ?_, fun p hp q hq custom equal ↦ ?_, fun p hp custom v w same ↦ ?_,
    fun l hl ↦ ?_⟩, fun a b ha hb _ ↦ ?_⟩
  · rw [step, List.mem_singleton] at ha
    rw [step', List.mem_singleton] at hb
    rw [ha, hb]
  · rw [tests, List.mem_pair] at hp
    rw [tests', List.mem_pair] at hq
    obtain rfl | rfl := hp
    · cases custom
    · obtain rfl | rfl := hq
      · cases equal
      · rfl
  · rw [tests, List.mem_pair] at hp
    obtain rfl | rfl := hp
    · cases custom
    · exact congrArg (Option.any (· ≤ 3)) (Value.size?_congr same)
  · rw [label, List.mem_singleton] at hl
    rw [hl]
    rfl
  · rw [tests, List.mem_pair] at ha
    rw [tests', List.mem_pair] at hb
    obtain same | other := ha
    · obtain same' | other' := hb
      · rw [Predicate.format.inj same, Predicate.format.inj same']
      · cases other'
    · cases other

/-- A code that is too long fails both types of parcels. The partial values differ in the order of
keys and in the sign of the weight, and they are equal. -/
theorem run_alike_parcel :
    (parcel == parcelAgain) = true ∧ parcel.Trusted parcelAgain ∧
    ∃ failure failure',
      parcel.run (some crate) = .error failure ∧ parcelAgain.run (some crate) = .error failure' ∧
      failure.partialValue = .object [("size", .string "small"),
        ("weight", .number (.double (.zero false))), ("code", .string "crate")] ∧
      failure'.partialValue = .object [("code", .string "crate"),
        ("weight", .number (.double (.zero true))), ("size", .string "small")] ∧
      (failure.partialValue == failure'.partialValue) = true := by
  have equal : (parcel == parcelAgain) = true := by rfl
  have alike := run_alike equal trusted_parcel (some crate)
  refine ⟨equal, trusted_parcel, _, _, rfl, rfl, rfl, rfl, ?_⟩
  cases alike with
  | failure same => exact same

/-- The type of texts in which a pattern occurs. -/
def containing (pattern : Pattern) : Ty :=
  ofKind (.constrained (nominal .string) [.format pattern])

theorem run_containing (pattern : Pattern) (s : String) :
    (containing pattern).run (some (.string s)) = Rule.enforce [.format pattern] (.string s) := by
  rw [containing, ofKind, run_constrained]
  rfl

theorem containing_beq {a b : Pattern} (same : a.source = b.source) :
    (containing a == containing b) = true := by
  have rules : (Predicate.format a == Predicate.format b) = true :=
    Predicate.beq_iff.2 ⟨rfl, rfl, by rw [Predicate.args, Predicate.args, same, beq_self_eq_true]⟩
  rw [containing, containing, ofKind, ofKind, constrained_beq, BEq.rfl, Bool.true_and]
  exact beq_of_forall₂ (.cons rules .nil)

/-- Nothing in these types goes by a name. -/
theorem trustedNames_containing (a b : Pattern) : (containing a).TrustedNames (containing b) where
  transforms _ ha := nomatch ha
  customs p hp _ _ custom := by
    cases List.mem_singleton.1 hp
    cases custom
  answers p hp custom := by
    cases List.mem_singleton.1 hp
    cases custom
  labels _ hl := nomatch hl

/-- Two anchors are compiled once to ask for an empty text and once to ask for an empty line. The
two types are equal, and nothing in them goes by names. Of a line break only one of them holds. -/
theorem anchors_not_interchangeable :
    ∃ emptyText emptyLine : Pattern,
      Pattern.ofText? "^$" = some emptyText ∧
      Pattern.compile? { Pattern.Flags.initial with multiLine := true } "^$" = some emptyLine ∧
      (containing emptyText == containing emptyLine) = true ∧
      (containing emptyText).TrustedNames (containing emptyLine) ∧
      (containing emptyLine).run (some (.string "\n")) = .ok (some (.string "\n")) ∧
      (containing emptyText).run (some (.string "\n")) =
        .error ((Predicate.format emptyText).failure (.string "\n")) ∧
      ¬((containing emptyText).run (some (.string "\n"))).Alike
        ((containing emptyLine).run (some (.string "\n"))) := by
  obtain ⟨emptyText, compiled, source, fails⟩ : ∃ p, Pattern.ofText? "^$" = some p ∧
      p.source = "^$" ∧ p.occursIn "\n" = false := ⟨_, rfl, rfl, rfl⟩
  obtain ⟨emptyLine, compiled', source', holds⟩ :
      ∃ p, Pattern.compile? { Pattern.Flags.initial with multiLine := true } "^$" = some p ∧
        p.source = "^$" ∧ p.occursIn "\n" = true := ⟨_, rfl, rfl, rfl⟩
  have equal : (containing emptyText == containing emptyLine) = true :=
    containing_beq (source.trans source'.symm)
  have passed : (containing emptyLine).run (some (.string "\n")) = .ok (some (.string "\n")) := by
    rw [run_containing]
    exact Rule.enforce_of_forall (List.forall_mem_singleton.2 holds)
  have refused : (containing emptyText).run (some (.string "\n")) =
      .error ((Predicate.format emptyText).failure (.string "\n")) := by
    rw [run_containing]
    show Rule.enforce ([] ++ .format emptyText :: []) _ = _
    exact Rule.enforce_append_cons (List.forall_mem_nil _) fails
  refine ⟨emptyText, emptyLine, compiled, compiled', equal,
    trustedNames_containing emptyText emptyLine, passed, refused, fun alike ↦ ?_⟩
  rw [refused, passed] at alike
  cases alike

end Ty

end JsonTyping
