import JsonTyping.Ast.Basic
import JsonTyping.Proofs.Interchange
import Mathlib.Data.List.Sort
import Mathlib.Data.String.Basic

/-!
# Equal types and equal composition trees

Types and composition trees have equalities of their own, and there are two things that only one of
them looks at. Trees keep the order of declared keys, which does not matter to equality of types.
And types keep apart the predicates of the library and those from outside, of which a tree shows no
more than names and arguments.

Nothing else is different. Types with equal trees are equal unless a predicate from outside goes by
the name of one of the library (`Ty.OwnNames`). Equal types have trees that are equal once the
declared keys of every schema have been sorted (`Ast.sortKeys`): no schema declares a name twice, so
there is one way only to put its keys in the order of their names.
-/

namespace JsonTyping

/-! ### Declared keys by name -/

section SortByName

variable {α β : Type} {xs ys : List (Field α)}

/-- Declared keys in the order of their names. -/
def sortByName (fields : List (Field α)) : List (Field α) :=
  fields.insertionSort fun f g ↦ f.name ≤ g.name

theorem sortByName_perm (fields : List (Field α)) : (sortByName fields).Perm fields :=
  List.perm_insertionSort _ fields

theorem pairwise_sortByName (fields : List (Field α)) :
    (sortByName fields).Pairwise fun f g ↦ f.name ≤ g.name := by
  have : Std.Total fun f g : Field α ↦ f.name ≤ g.name := ⟨fun f g ↦ le_total f.name g.name⟩
  have : IsTrans (Field α) fun f g ↦ f.name ≤ g.name := ⟨fun _ _ _ ↦ le_trans⟩
  exact List.pairwise_insertionSort _ fields

/-- There is one way only to sort keys with distinct names. -/
theorem eq_sortByName (perm : xs.Perm ys) (sorted : xs.Pairwise fun f g ↦ f.name ≤ g.name)
    (distinct : (xs.map Field.name).Nodup) : xs = sortByName ys := by
  have same : xs.Perm (sortByName ys) := perm.trans (sortByName_perm ys).symm
  refine List.Perm.eq_of_pairwise (fun f g hf hg le ge ↦ ?_) sorted (pairwise_sortByName ys) same
  exact List.inj_on_of_nodup_map distinct hf (same.symm.subset hg) (le_antisymm le ge)

/-- Keys that can be paired by name correspond one by one when they are sorted. -/
theorem Pairs.forall₂_sortByName {r : Field α → Field β → Prop} {ys : List (Field β)}
    (h : Pairs r xs ys) (names : ∀ f g, r f g → f.name = g.name)
    (distinct : (xs.map Field.name).Nodup) :
    List.Forall₂ r (sortByName xs) (sortByName ys) := by
  obtain ⟨zs, paired, same⟩ := h.perm_left (sortByName_perm xs)
  have keys : (sortByName xs).map Field.name = zs.map Field.name := by
    rw [← List.forall₂_eq_eq_eq, List.forall₂_map_left_iff, List.forall₂_map_right_iff]
    exact paired.imp names
  have sorted : (zs.map Field.name).Pairwise (· ≤ ·) :=
    keys ▸ List.pairwise_map.2 (pairwise_sortByName xs)
  have distinct' : (zs.map Field.name).Nodup :=
    keys ▸ ((sortByName_perm xs).map Field.name).nodup_iff.2 distinct
  rw [← eq_sortByName same (List.pairwise_map.1 sorted) distinct']
  exact paired

end SortByName

namespace Ast

/-! ### Sorting the keys of a tree -/

mutual

/-- The tree with the declared keys of every schema in the order of their names. -/
def sortKeys : Ast → Ast
  | nominal p => nominal p
  | constrained wrapped rule => constrained (sortKeys wrapped) rule
  | coerced wrapped steps => coerced (sortKeys wrapped) steps
  | defaulted wrapped value => defaulted (sortKeys wrapped) value
  | lax wrapped => lax (sortKeys wrapped)
  | sum left right => sum (sortKeys left) (sortKeys right)
  | enum wrapped mapping => enum (sortKeys wrapped) mapping
  | array member => array (sortKeys member)
  | schema fields unknownKeys => schema (sortByName (sortKeysOfFields fields)) unknownKeys
  | dictionary key value => dictionary (sortKeys key) (sortKeys value)
  | annotated node annotations => annotated (sortKeys node) annotations

/-- The declared keys in their order, over trees that are sorted. -/
def sortKeysOfFields : List (Field Ast) → List (Field Ast)
  | [] => []
  | ⟨name, type, required⟩ :: fields => ⟨name, sortKeys type, required⟩ :: sortKeysOfFields fields

end

theorem sortKeysOfFields_eq_map (fields : List (Field Ast)) :
    sortKeysOfFields fields = fields.map (Field.map sortKeys) := by
  induction fields with
  | nil => rfl
  | cons field fields ih => exact congrArg (Field.map sortKeys field :: ·) ih

/-! ### Equality of trees -/

/-- Whether two declared keys have the same name, are both required or not, and are of equal
trees. -/
def FieldEq (field field' : Field Ast) : Prop :=
  field.name = field'.name ∧ field.required = field'.required ∧ (field.type == field'.type) = true

theorem equalFields_iff {fields fields' : List (Field Ast)} :
    equalFields fields fields' = true ↔ List.Forall₂ FieldEq fields fields' := by
  induction fields generalizing fields' with
  | nil =>
    cases fields' with
    | nil => exact ⟨fun _ ↦ .nil, fun _ ↦ rfl⟩
    | cons field' fields' => exact ⟨nofun, nofun⟩
  | cons field fields ih =>
    cases fields' with
    | nil => exact ⟨nofun, nofun⟩
    | cons field' fields' =>
      show (field.name == field'.name && field.required == field'.required &&
        field.type == field'.type && equalFields fields fields') = true ↔ _
      rw [List.forall₂_cons, FieldEq, Bool.and_eq_true, Bool.and_eq_true, Bool.and_eq_true,
        beq_iff_eq, beq_iff_eq, ih]
      simp only [and_assoc]

end Ast

/-! ### Predicates -/

namespace Predicate

variable {p q : Predicate}

theorem toAst_beq (h : (p == q) = true) : (p.toAst == q.toAst) = true := by
  obtain ⟨named, args⟩ := Bool.and_eq_true_iff.1 h
  obtain ⟨-, names⟩ := Bool.and_eq_true_iff.1 named
  exact Bool.and_eq_true_iff.2 ⟨names, args⟩

/-- Predicates with equal names and arguments are equal if the same of them come from outside. -/
theorem beq_of_toAst_beq (h : (p.toAst == q.toAst) = true) (origin : p.isCustom = q.isCustom) :
    (p == q) = true := by
  obtain ⟨names, args⟩ := Bool.and_eq_true_iff.1 h
  exact Bool.and_eq_true_iff.2 ⟨Bool.and_eq_true_iff.2 ⟨beq_iff_eq.2 origin, names⟩, args⟩

end Predicate

namespace Ty

/-! ### From trees to types -/

/-- Whether no predicate from outside in a type goes by the name of a predicate of the library. -/
def OwnNames (t : Ty) : Prop :=
  t.Everywhere fun s ↦ ∀ p ∈ s.rule?.getD [], p.isCustom = true →
    ∀ q : Predicate, q.isCustom = false → p.name ≠ q.name

variable {t u : Ty}

/-- Predicates of one name both come from outside or both do not. -/
theorem isCustom_eq_of_name_eq {rule rule' : Rule} {notes notes' : Annotations}
    (own : OwnNames ⟨.constrained t rule, notes⟩) (own' : OwnNames ⟨.constrained u rule', notes'⟩)
    {a b : Predicate} (ha : a ∈ rule) (hb : b ∈ rule') (names : a.name = b.name) :
    a.isCustom = b.isCustom := by
  cases origin : a.isCustom with
  | true =>
    cases origin' : b.isCustom with
    | true => rfl
    | false => exact absurd names (own.self a ha origin b origin')
  | false =>
    cases origin' : b.isCustom with
    | true => exact absurd names.symm (own'.self b hb origin' a origin)
    | false => rfl

/-- Rules of types whose names are their own are equal if they show the same predicates. -/
theorem rule_beq_of_toAst_beq {rule rule' : Rule} {notes notes' : Annotations}
    (own : OwnNames ⟨.constrained t rule, notes⟩) (own' : OwnNames ⟨.constrained u rule', notes'⟩)
    (h : (rule.map Predicate.toAst == rule'.map Predicate.toAst) = true) :
    (rule == rule') = true := by
  refine beq_of_forall₂ (forall₂_imp_of_mem (map_beq_map_iff.1 h) fun a ha b hb same ↦ ?_)
  have names : a.name = b.name := beq_iff_eq.1 (Bool.and_eq_true_iff.1 same).1
  exact Predicate.beq_of_toAst_beq same (isCustom_eq_of_name_eq own own' ha hb names)

/-- Declared keys that correspond one by one are matched up. -/
theorem matchUp_fields_of_forall₂ {fields fields' : List (Field Ty)}
    (h : List.Forall₂ FieldEq fields fields') :
    matchUp ((fields.map (Field.map equal)).map Field.equals) fields' = true := by
  rw [List.map_map]
  refine matchUp_map_of_forall₂ (h.imp fun field field' ⟨names, required, types⟩ ↦ ?_)
  exact Bool.and_eq_true_iff.2
    ⟨Bool.and_eq_true_iff.2 ⟨beq_iff_eq.2 names.symm, beq_iff_eq.2 required.symm⟩, types⟩

/-- Types with equal trees are equal, for each layer shows in its tree all that equality looks
at. -/
theorem beq_of_toAst_beq (own : t.OwnNames) (own' : u.OwnNames)
    (h : (t.toAst == u.toAst) = true) : (t == u) = true := by
  induction t using Ty.induction generalizing u with
  | nominal p notes =>
    obtain ⟨k, notes'⟩ := u
    cases k with
    | nominal q => exact h
    | _ => cases h
  | constrained wrapped rule notes ih =>
    obtain ⟨k, notes'⟩ := u
    rw [toAst_mk, toAst_mk] at h
    cases k with
    | constrained wrapped' rule' =>
      obtain ⟨inner, rules⟩ := Bool.and_eq_true_iff.1 h
      have same : (wrapped == wrapped') = true := ih (own.single rfl) (own'.single rfl) inner
      exact (equal_mk _ _ _).trans
        (Bool.and_eq_true_iff.2 ⟨same, rule_beq_of_toAst_beq own own' rules⟩)
    | _ => cases h
  | coerced wrapped steps notes ih =>
    obtain ⟨k, notes'⟩ := u
    rw [toAst_mk, toAst_mk] at h
    cases k with
    | coerced wrapped' steps' =>
      obtain ⟨inner, names⟩ := Bool.and_eq_true_iff.1 h
      have same : (wrapped == wrapped') = true := ih (own.single rfl) (own'.single rfl) inner
      have named : List.Forall₂ (fun a b ↦ (a.name == b.name) = true) steps steps' :=
        map_beq_map_iff.1 names
      exact (equal_mk _ _ _).trans (Bool.and_eq_true_iff.2 ⟨same, beq_of_forall₂ named⟩)
    | _ => cases h
  | defaulted wrapped value notes ih =>
    obtain ⟨k, notes'⟩ := u
    rw [toAst_mk, toAst_mk] at h
    cases k with
    | defaulted wrapped' value' =>
      obtain ⟨inner, values⟩ := Bool.and_eq_true_iff.1 h
      have same : (wrapped == wrapped') = true := ih (own.single rfl) (own'.single rfl) inner
      exact (equal_mk _ _ _).trans (Bool.and_eq_true_iff.2 ⟨same, values⟩)
    | _ => cases h
  | lax wrapped notes ih =>
    obtain ⟨k, notes'⟩ := u
    rw [toAst_mk, toAst_mk] at h
    cases k with
    | lax wrapped' =>
      have same : (wrapped == wrapped') = true := ih (own.single rfl) (own'.single rfl) h
      exact (equal_mk _ _ _).trans same
    | _ => cases h
  | sum left right notes ihLeft ihRight =>
    obtain ⟨k, notes'⟩ := u
    rw [toAst_mk, toAst_mk] at h
    cases k with
    | sum left' right' =>
      obtain ⟨lefts, rights⟩ := Bool.and_eq_true_iff.1 h
      obtain ⟨ownLeft, ownRight⟩ := own.pair rfl
      obtain ⟨ownLeft', ownRight'⟩ := own'.pair rfl
      exact (equal_mk _ _ _).trans (Bool.and_eq_true_iff.2
        ⟨ihLeft ownLeft ownLeft' lefts, ihRight ownRight ownRight' rights⟩)
    | _ => cases h
  | enum wrapped mapping notes ih =>
    obtain ⟨k, notes'⟩ := u
    rw [toAst_mk, toAst_mk] at h
    cases k with
    | enum wrapped' mapping' =>
      obtain ⟨inner, mappings⟩ := Bool.and_eq_true_iff.1 h
      have same : (wrapped == wrapped') = true := ih (own.single rfl) (own'.single rfl) inner
      exact (equal_mk _ _ _).trans (Bool.and_eq_true_iff.2 ⟨same, mappings⟩)
    | _ => cases h
  | array member notes ih =>
    obtain ⟨k, notes'⟩ := u
    rw [toAst_mk, toAst_mk] at h
    cases k with
    | array member' =>
      have same : (member == member') = true := ih (own.single rfl) (own'.single rfl) h
      exact (equal_mk _ _ _).trans same
    | _ => cases h
  | schema fields unknownKeys notes ih =>
    obtain ⟨k, notes'⟩ := u
    rw [toAst_mk, toAst_mk] at h
    cases k with
    | schema fields' unknownKeys' =>
      obtain ⟨keys, policies⟩ := Bool.and_eq_true_iff.1 h
      replace keys := Ast.equalFields_iff.1 keys
      rw [List.forall₂_map_left_iff, List.forall₂_map_right_iff] at keys
      have same : List.Forall₂ FieldEq fields fields' :=
        forall₂_imp_of_mem keys fun field mem field' mem' ⟨names, required, trees⟩ ↦
          ⟨names, required, ih field mem (own.field mem) (own'.field mem') trees⟩
      exact (equal_mk _ _ _).trans
        (Bool.and_eq_true_iff.2 ⟨matchUp_fields_of_forall₂ same, policies⟩)
    | _ => cases h
  | dictionary key value notes ihKey ihValue =>
    obtain ⟨k, notes'⟩ := u
    rw [toAst_mk, toAst_mk] at h
    cases k with
    | dictionary key' value' =>
      obtain ⟨keys, values⟩ := Bool.and_eq_true_iff.1 h
      obtain ⟨ownKey, ownValue⟩ := own.pair rfl
      obtain ⟨ownKey', ownValue'⟩ := own'.pair rfl
      exact (equal_mk _ _ _).trans (Bool.and_eq_true_iff.2
        ⟨ihKey ownKey ownKey' keys, ihValue ownValue ownValue' values⟩)
    | _ => cases h

/-! ### From types to trees -/

/-- Equal types have equal trees, once their keys are sorted. -/
theorem sortKeys_beq_of_beq (distinct : t.DistinctNames) (h : (t == u) = true) :
    (t.toAst.sortKeys == u.toAst.sortKeys) = true := by
  induction t using Ty.induction generalizing u with
  | nominal p notes =>
    obtain ⟨k, notes'⟩ := u
    cases sameLayer_of_beq h
    exact beq_self_eq_true p
  | constrained wrapped rule notes ih =>
    obtain ⟨k, notes'⟩ := u
    rw [toAst_mk, toAst_mk]
    cases sameLayer_of_beq h with
    | constrained same rules =>
      have shown := map_beq_map_iff.2 (rules.imp fun _ _ ↦ Predicate.toAst_beq)
      exact Bool.and_eq_true_iff.2 ⟨ih (distinct.single rfl) same, shown⟩
  | coerced wrapped steps notes ih =>
    obtain ⟨k, notes'⟩ := u
    rw [toAst_mk, toAst_mk]
    cases sameLayer_of_beq h with
    | coerced same steps =>
      exact Bool.and_eq_true_iff.2 ⟨ih (distinct.single rfl) same, map_beq_map_iff.2 steps⟩
  | defaulted wrapped value notes ih =>
    obtain ⟨k, notes'⟩ := u
    rw [toAst_mk, toAst_mk]
    cases sameLayer_of_beq h with
    | defaulted same values =>
      exact Bool.and_eq_true_iff.2 ⟨ih (distinct.single rfl) same, values⟩
  | lax wrapped notes ih =>
    obtain ⟨k, notes'⟩ := u
    rw [toAst_mk, toAst_mk]
    cases sameLayer_of_beq h with
    | lax same => exact ih (distinct.single rfl) same
  | sum left right notes ihLeft ihRight =>
    obtain ⟨k, notes'⟩ := u
    rw [toAst_mk, toAst_mk]
    cases sameLayer_of_beq h with
    | sum lefts rights =>
      obtain ⟨distinctLeft, distinctRight⟩ := distinct.pair rfl
      exact Bool.and_eq_true_iff.2 ⟨ihLeft distinctLeft lefts, ihRight distinctRight rights⟩
  | enum wrapped mapping notes ih =>
    obtain ⟨k, notes'⟩ := u
    rw [toAst_mk, toAst_mk]
    cases sameLayer_of_beq h with
    | enum same mappings =>
      exact Bool.and_eq_true_iff.2 ⟨ih (distinct.single rfl) same, beq_of_forall₂ mappings⟩
  | array member notes ih =>
    obtain ⟨k, notes'⟩ := u
    rw [toAst_mk, toAst_mk]
    cases sameLayer_of_beq h with
    | array same => exact ih (distinct.single rfl) same
  | schema fields unknownKeys notes ih =>
    obtain ⟨k, notes'⟩ := u
    rw [toAst_mk, toAst_mk]
    cases sameLayer_of_beq h with
    | @schema _ fields' _ paired =>
      refine Bool.and_eq_true_iff.2 ⟨Ast.equalFields_iff.2 ?_, beq_self_eq_true unknownKeys⟩
      rw [Ast.sortKeysOfFields_eq_map, Ast.sortKeysOfFields_eq_map, List.map_map, List.map_map]
      -- the keys are paired by name, and what is below them is equal once it is sorted
      let sorted : Field Ty → Field Ast := Field.map Ast.sortKeys ∘ Field.map toAst
      have trees : Pairs (fun f g ↦ Ast.FieldEq (sorted f) (sorted g)) fields fields' :=
        paired.imp_of_mem fun field mem _ _ ⟨names, required, types⟩ ↦
          ⟨names, required, ih field mem (distinct.field mem) types⟩
      refine (trees.map fun _ _ ↦ id).forall₂_sortByName (fun _ _ same ↦ same.1) ?_
      rw [List.map_map]
      exact distinct.self
  | dictionary key value notes ihKey ihValue =>
    obtain ⟨k, notes'⟩ := u
    rw [toAst_mk, toAst_mk]
    cases sameLayer_of_beq h with
    | dictionary keys values =>
      obtain ⟨distinctKey, distinctValue⟩ := distinct.pair rfl
      exact Bool.and_eq_true_iff.2 ⟨ihKey distinctKey keys, ihValue distinctValue values⟩

/-- **Composition trees are faithful.** If no predicate from outside goes by the name of one of the
library, types with equal trees are equal. If no schema declares a name twice, equal types have
trees that are equal once the declared keys in them are sorted. -/
theorem toAst_faithful (t u : Ty) :
    (t.OwnNames → u.OwnNames → (t.toAst == u.toAst) = true → (t == u) = true) ∧
    (t.DistinctNames → (t == u) = true → (t.toAst.sortKeys == u.toAst.sortKeys) = true) :=
  ⟨beq_of_toAst_beq, sortKeys_beq_of_beq⟩

/-- The test of briefness has a name of its own. -/
theorem ownNames_of_predicates_eq {pattern : Pattern} {settings : Entries Value}
    (only : t.predicates = [.format pattern, brief settings]) : t.OwnNames := by
  refine List.forall_mem_flatMap.1 fun p mem custom q origin ↦ ?_
  have either : p = .format pattern ∨ p = brief settings := List.mem_pair.1 (only ▸ mem)
  obtain rfl | rfl := either
  · cases custom
  · cases q with
    | custom => cases origin
    | _ => simp [brief, Predicate.name]

/-- A note on a parcel does not show in its tree. Parcels with their keys in another order have
another tree, and the same one when the keys are sorted. -/
theorem toAst_faithful_parcel :
    (parcel.OwnNames ∧ (parcel.annotate "note" (.string "fragile")).OwnNames ∧
      (parcel.toAst == (parcel.annotate "note" (.string "fragile")).toAst) = true ∧
      (parcel == parcel.annotate "note" (.string "fragile")) = true) ∧
    parcel.DistinctNames ∧ (parcel == parcelAgain) = true ∧
      (parcel.toAst == parcelAgain.toAst) = false ∧
      (parcel.toAst.sortKeys == parcelAgain.toAst.sortKeys) = true := by
  have own : parcel.OwnNames := ownNames_of_predicates_eq rfl
  have own' : (parcel.annotate "note" (.string "fragile")).OwnNames := ownNames_of_predicates_eq rfl
  have equal : (parcel == parcelAgain) = true := by rfl
  have distinct : parcel.DistinctNames := by decide
  refine ⟨⟨own, own', by rfl, ?_⟩, distinct, equal, by rfl, ?_⟩
  · exact (toAst_faithful parcel (parcel.annotate "note" (.string "fragile"))).1 own own' (by rfl)
  · exact (toAst_faithful parcel parcelAgain).2 distinct equal

/-- A predicate from outside that borrows a name looks like its namesake in the tree. -/
example :
    let borrowed := ofKind (.constrained (nominal .string) [.custom "filled?" [] fun _ ↦ true])
    let filled := ofKind (.constrained (nominal .string) [.filled])
    (borrowed.toAst == filled.toAst) = true ∧ (borrowed == filled) = false := by
  exact ⟨rfl, rfl⟩

end Ty

end JsonTyping
