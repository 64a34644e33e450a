import JsonTyping.Ast.Basic
import JsonTyping.Proofs.Laxness

/-!
# Annotations

Annotations are carried along and never looked at. What this comes to is said with the type that is
left when all annotations are taken out, at every depth (`Ty.unannotated`): types differ in their
annotations only if the same type is left of them.

The facts are of two sorts. A fold whose layers do not look at annotations is the same for what is
left (`fold_unannotated`), which settles runs, equality and composition trees at once. And every
operation that makes types commutes with taking annotations out, however it treats the annotations
that it finds: it may keep them, hand them to another layer or drop them. An operation that can
refuse does so for the same reason, because a refusal rests on a run.
-/

namespace JsonTyping

/-! ### Parts of layers -/

/-- Functions that agree on the parts of a layer make the same layer of it. -/
theorem Kind.map_congr {α β : Type} {f g : α → β} {k : Kind α}
    (agree : ∀ p ∈ k.parts, f p = g p) : k.map f = k.map g := by
  cases k with
  | nominal => rfl
  | constrained p | coerced p | defaulted p | lax p | enum p | array p =>
    rw [map, map, agree p List.mem_cons_self]
  | sum p q | dictionary p q =>
    rw [map, map, agree p List.mem_cons_self, agree q (List.mem_cons_of_mem _ List.mem_cons_self)]
  | schema fields unknownKeys =>
    have same : ∀ field ∈ fields, field.map f = field.map g := fun field mem ↦ by
      rw [Field.map, Field.map, agree field.type (List.mem_map_of_mem mem)]
    rw [map, map, List.map_congr_left same]

/-- What holds of a type if it holds of its parts holds of all types; the layers are not told
apart. -/
theorem Ty.induction_parts {P : Ty → Prop} (step : ∀ t : Ty, (∀ p ∈ t.kind.parts, P p) → P t)
    (t : Ty) : P t := by
  induction t using Ty.induction with
  | nominal => exact step _ fun p mem ↦ by cases mem
  | constrained _ _ _ ih | coerced _ _ _ ih | defaulted _ _ _ ih | lax _ _ ih | enum _ _ _ ih
  | array _ _ ih => exact step _ (List.forall_mem_singleton.2 ih)
  | sum _ _ _ ih ih' | dictionary _ _ _ ih ih' =>
    exact step _ (List.forall_mem_cons.2 ⟨ih, List.forall_mem_singleton.2 ih'⟩)
  | schema _ _ _ ih => exact step _ (List.forall_mem_map.2 ih)

/-! ### Trees without annotations -/

namespace Ast

mutual

/-- The tree with the inner node in the place of every annotated node. -/
def unannotated : Ast → Ast
  | nominal p => nominal p
  | constrained wrapped rule => constrained (unannotated wrapped) rule
  | coerced wrapped steps => coerced (unannotated wrapped) steps
  | defaulted wrapped value => defaulted (unannotated wrapped) value
  | lax wrapped => lax (unannotated wrapped)
  | sum left right => sum (unannotated left) (unannotated right)
  | enum wrapped mapping => enum (unannotated wrapped) mapping
  | array member => array (unannotated member)
  | schema fields unknownKeys => schema (unannotatedFields fields) unknownKeys
  | dictionary key value => dictionary (unannotated key) (unannotated value)
  | annotated node _ => unannotated node

/-- The declared keys over trees without annotations. -/
def unannotatedFields : List (Field Ast) → List (Field Ast)
  | [] => []
  | ⟨name, type, required⟩ :: fields =>
    ⟨name, unannotated type, required⟩ :: unannotatedFields fields

end

theorem unannotatedFields_eq_map (fields : List (Field Ast)) :
    unannotatedFields fields = fields.map (Field.map unannotated) := by
  induction fields with
  | nil => rfl
  | cons field fields ih => exact congrArg (Field.map unannotated field :: ·) ih

theorem unannotated_annotate (node : Ast) (annotations : Annotations) :
    (node.annotate annotations).unannotated = node.unannotated := by
  rw [annotate]
  split <;> rfl

/-- The node of a layer has no annotations of its own. -/
theorem unannotated_toAst (k : Kind Ast) : k.toAst.unannotated = (k.map unannotated).toAst := by
  cases k with
  | schema fields unknownKeys =>
    exact congrArg (schema · unknownKeys) (unannotatedFields_eq_map fields)
  | nominal | constrained | coerced | defaulted | lax | sum | enum | array | dictionary => rfl

end Ast

namespace Ty

/-- The tree with annotations is the tree without them once its annotations are taken out. -/
theorem unannotated_toAnnotatedAst (t : Ty) : t.toAnnotatedAst.unannotated = t.toAst := by
  induction t using Ty.induction_parts with
  | step t ih =>
    obtain ⟨k, notes⟩ := t
    rw [toAnnotatedAst_mk, Ast.unannotated_annotate, Ast.unannotated_toAst, Kind.map_map, toAst_mk]
    exact congrArg Kind.toAst (Kind.map_congr ih)

/-! ### Types without annotations -/

/-- The type without annotations, on itself and on everything that it is made of. -/
def unannotated (t : Ty) : Ty := t.fold fun k _ ↦ ofKind k

theorem unannotated_mk (k : Kind Ty) (notes : Annotations) :
    unannotated ⟨k, notes⟩ = ofKind (k.map unannotated) := fold_mk _ k notes

/-- It does not matter which annotations are on top. -/
theorem unannotated_mk_kind (t : Ty) (notes : Annotations) :
    unannotated ⟨t.kind, notes⟩ = ofKind t.unannotated.kind := by
  obtain ⟨k, notes'⟩ := t
  rw [unannotated_mk, unannotated_mk]
  rfl

/-- What is worked out without a look at annotations is the same without annotations. -/
theorem fold_unannotated {α : Type} (layer : Kind α → α) (t : Ty) :
    t.unannotated.fold (fun k _ ↦ layer k) = t.fold fun k _ ↦ layer k := by
  induction t using Ty.induction_parts with
  | step t ih =>
    obtain ⟨k, notes⟩ := t
    rw [unannotated_mk, ofKind, fold_mk, fold_mk, Kind.map_map]
    exact congrArg layer (Kind.map_congr ih)

theorem run_unannotated (t : Ty) : t.unannotated.run = t.run := fold_unannotated Kind.check t

theorem toAst_unannotated (t : Ty) : t.unannotated.toAst = t.toAst := fold_unannotated Kind.toAst t

theorem equal_unannotated (t : Ty) : t.unannotated.equal = t.equal :=
  fold_unannotated (fun (k : Kind (Ty → Bool)) (other : Ty) ↦ k.equals other.kind) t

theorem check_unannotated (t : Ty) (v : Value) : t.unannotated.check v = t.check v := by
  rw [check, check, run_unannotated]

section Layers

variable (t left right : Ty) (notes : Annotations)

@[simp]
theorem unannotated_nominal (p : Primitive) : unannotated ⟨.nominal p, notes⟩ = nominal p := rfl

@[simp]
theorem unannotated_constrained (rule : Rule) :
    unannotated ⟨.constrained t rule, notes⟩ = ⟨.constrained t.unannotated rule, []⟩ := rfl

@[simp]
theorem unannotated_coerced (steps : List Transform) :
    unannotated ⟨.coerced t steps, notes⟩ = ⟨.coerced t.unannotated steps, []⟩ := rfl

@[simp]
theorem unannotated_defaulted (value : Value) :
    unannotated ⟨.defaulted t value, notes⟩ = ⟨.defaulted t.unannotated value, []⟩ := rfl

@[simp]
theorem unannotated_lax : unannotated ⟨.lax t, notes⟩ = ⟨.lax t.unannotated, []⟩ := rfl

@[simp]
theorem unannotated_sum :
    unannotated ⟨.sum left right, notes⟩ = ⟨.sum left.unannotated right.unannotated, []⟩ := rfl

@[simp]
theorem unannotated_enum (mapping : EnumMapping) :
    unannotated ⟨.enum t mapping, notes⟩ = ⟨.enum t.unannotated mapping, []⟩ := rfl

@[simp]
theorem unannotated_array : unannotated ⟨.array t, notes⟩ = ⟨.array t.unannotated, []⟩ := rfl

@[simp]
theorem unannotated_schema (fields : List (Field Ty)) (unknownKeys : UnknownKeys) :
    unannotated ⟨.schema fields unknownKeys, notes⟩ =
      ⟨.schema (fields.map (Field.map unannotated)) unknownKeys, []⟩ := unannotated_mk _ _

@[simp]
theorem unannotated_dictionary :
    unannotated ⟨.dictionary left right, notes⟩ =
      ⟨.dictionary left.unannotated right.unannotated, []⟩ := rfl

end Layers

/-! ### Operations -/

section Operations

variable (t : Ty)

theorem isEnum_unannotated : t.unannotated.isEnum = t.isEnum := by
  obtain ⟨k, notes⟩ := t
  cases k <;> rfl

theorem isLax_unannotated : t.unannotated.isLax = t.isLax := by
  obtain ⟨k, notes⟩ := t
  cases k <;> rfl

theorem isNil_unannotated : t.unannotated.isNil = t.isNil := by
  obtain ⟨k, notes⟩ := t
  cases k <;> rfl

theorem unannotated_coerce (step : Transform) :
    (t.coerce step).unannotated = t.unannotated.coerce step := by
  obtain ⟨k, notes⟩ := t
  cases k <;> rfl

/-- A default is accepted or refused by a run, in which annotations do not matter. -/
theorem unannotated_withDefault (value : Value) :
    (t.withDefault value).map unannotated = t.unannotated.withDefault value := by
  rw [withDefault, withDefault, isEnum_unannotated, check_unannotated]
  cases t.isEnum with
  | true => rfl
  | false => rcases t.check value with failure | output <;> rfl

theorem unannotated_constrain (ps : List Predicate) :
    (constrain ps t).map unannotated = constrain ps t.unannotated := by
  fun_induction constrain ps t with
  | case1 => rfl
  | case2 wrapped _ _ ih | case4 wrapped _ ih | case5 wrapped _ _ ih =>
    simp only [unannotated_coerced, unannotated_lax, unannotated_enum, constrain, ← ih]
    rcases constrain ps wrapped with error | narrowed <;> rfl
  | case3 wrapped value notes ih =>
    -- the default is put on again and can be refused now; the layer keeps the notes that it had
    rw [unannotated_defaulted, constrain, ← ih]
    rcases constrain ps wrapped with error | narrowed
    · rfl
    · have accepted := unannotated_withDefault narrowed value
      simp only [Except.map, bind, Except.bind, ← accepted]
      rcases narrowed.withDefault value with error | defaulted
      · rfl
      · exact congrArg Except.ok (unannotated_mk_kind defaulted notes)
  | case6 left right _ isNil ih =>
    rw [unannotated_sum, constrain, if_pos ((isNil_unannotated left).trans isNil), ← ih]
    rcases constrain ps right with error | narrowed <;> rfl
  | case7 left right _ notNil =>
    rw [unannotated_sum, constrain, if_neg (by rwa [isNil_unannotated])]
    rfl
  | case8 t =>
    -- a rule is put on top; the other layers are ruled out by the cases before
    obtain ⟨k, notes⟩ := t
    cases k with
    | nominal | array | schema | dictionary => rfl
    | constrained | coerced | defaulted | lax | enum | sum => simp_all

theorem unannotated_enumerate (mapping : EnumMapping) :
    (t.enumerate mapping).map unannotated = t.unannotated.enumerate mapping := by
  rw [enumerate, enumerate, ← unannotated_constrain]
  rcases constrain [.includedIn mapping.labels] t with error | narrowed
  · rfl
  · simp only [Except.map, bind, Except.bind, ofMapping]
    rcases EnumMapping.conflict? [] mapping with - | error <;> rfl

theorem unannotated_strip : t.strip.unannotated = t.unannotated.strip := by
  induction t using Ty.induction with
  | nominal => rfl
  | constrained _ _ _ ih | coerced _ _ _ ih | defaulted _ _ _ ih | lax _ _ ih | enum _ _ _ ih
  | array _ _ ih => simp [ih]
  | sum _ _ _ ih ih' | dictionary _ _ _ ih ih' => simp [ih, ih']
  | schema fields unknownKeys _ ih =>
    have declared : ∀ field ∈ fields, (field.map strip).map unannotated =
        (field.map unannotated).map strip := fun field mem ↦ by
      simp only [Field.map, ih field mem]
    rw [strip_schema, unannotated_schema, unannotated_schema, strip_schema, List.map_map,
      List.map_map]
    exact congrArg (fun fields ↦ ofKind (.schema fields unknownKeys))
      (List.map_congr_left declared)

theorem unannotated_toLax : t.toLax.unannotated = t.unannotated.toLax := by
  cases lax : t.isLax with
  | true => rw [toLax_of_isLax lax, toLax_of_isLax ((isLax_unannotated t).trans lax)]
  | false =>
    rw [toLax_of_strict lax, toLax_of_strict ((isLax_unannotated t).trans lax), withKind,
      unannotated_lax, unannotated_strip]
    obtain ⟨k, notes⟩ := t
    rw [unannotated_mk]
    rfl

theorem unannotated_withUnknownKeys (unknownKeys : UnknownKeys) :
    (t.withUnknownKeys unknownKeys).unannotated = t.unannotated.withUnknownKeys unknownKeys := by
  induction t using Ty.induction with
  | constrained _ _ _ ih | coerced _ _ _ ih | defaulted _ _ _ ih | lax _ _ ih | enum _ _ _ ih =>
    simp only [withUnknownKeys] at ih
    simp [withUnknownKeys, mapCore, ih]
  | nominal | sum | array | schema | dictionary => simp [withUnknownKeys, mapCore, nominal, ofKind]

end Operations

/-! ### Types that differ in their annotations -/

/-- Whether two types differ in nothing but annotations, on themselves or on what they are made
of. -/
def SameUnannotated (t u : Ty) : Prop := t.unannotated = u.unannotated

/-- Whether two attempts to make a type fail for the same reason, or make types that differ in
nothing but annotations. -/
inductive SameDefinition : Except DefinitionError Ty → Except DefinitionError Ty → Prop
  | refused (error : DefinitionError) : SameDefinition (.error error) (.error error)
  | made {t u : Ty} : t.SameUnannotated u → SameDefinition (.ok t) (.ok u)

theorem sameDefinition_of_map_eq {x y : Except DefinitionError Ty}
    (same : x.map unannotated = y.map unannotated) : SameDefinition x y := by
  rcases x with error | t
  · rcases y with error' | u
    · cases same
      exact .refused error
    · cases same
  · rcases y with error | u
    · cases same
    · exact .made (Except.ok.inj same)

section Interference

variable {t u : Ty}

/-- An operation that commutes with taking annotations out respects what is left. -/
theorem SameUnannotated.map (same : t.SameUnannotated u) {make : Ty → Ty}
    (commutes : ∀ t, (make t).unannotated = make t.unannotated) :
    (make t).SameUnannotated (make u) := by
  rw [SameUnannotated, commutes, commutes, same]

/-- So does an operation that can refuse. -/
theorem SameUnannotated.sameDefinition (same : t.SameUnannotated u)
    {make : Ty → Except DefinitionError Ty}
    (commutes : ∀ t, (make t).map unannotated = make t.unannotated) :
    SameDefinition (make t) (make u) :=
  sameDefinition_of_map_eq (by rw [commutes, commutes, same])

theorem SameUnannotated.beq (same : t.SameUnannotated u) : (t == u) = true := by
  have tests : t.equal = u.equal := by rw [← equal_unannotated, same, equal_unannotated]
  exact (congrFun tests u).trans (equal_self u)

/-- **Annotations do not interfere.** Types that differ in nothing but annotations are equal, they
have the same composition tree, which is the annotated tree with the annotations taken out, and they
have the same outcome for every input. An operation applied to both refuses for the same reason, or
makes types that again differ in nothing but annotations. -/
theorem annotations_do_not_interfere (same : t.SameUnannotated u) :
    (t == u) = true ∧ t.toAst = u.toAst ∧ t.toAnnotatedAst.unannotated = t.toAst ∧
    (∀ input, t.run input = u.run input) ∧
    (∀ ps, SameDefinition (constrain ps t) (constrain ps u)) ∧
    (∀ step, (t.coerce step).SameUnannotated (u.coerce step)) ∧
    (∀ value, SameDefinition (t.withDefault value) (u.withDefault value)) ∧
    t.toLax.SameUnannotated u.toLax ∧ t.optional.SameUnannotated u.optional ∧
    t.array.SameUnannotated u.array ∧
    (∀ mapping, SameDefinition (t.enumerate mapping) (u.enumerate mapping)) ∧
    ∀ unknownKeys,
      (t.withUnknownKeys unknownKeys).SameUnannotated (u.withUnknownKeys unknownKeys) := by
  have trees : t.toAst = u.toAst := by rw [← toAst_unannotated, same, toAst_unannotated]
  have runs : t.run = u.run := by rw [← run_unannotated, same, run_unannotated]
  exact ⟨same.beq, trees, unannotated_toAnnotatedAst t, congrFun runs,
    fun ps ↦ same.sameDefinition fun s ↦ unannotated_constrain s ps,
    fun step ↦ same.map fun s ↦ unannotated_coerce s step,
    fun value ↦ same.sameDefinition fun s ↦ unannotated_withDefault s value,
    same.map unannotated_toLax, same.map fun _ ↦ rfl, same.map fun _ ↦ rfl,
    fun mapping ↦ same.sameDefinition fun s ↦ unannotated_enumerate s mapping,
    fun unknownKeys ↦ same.map fun s ↦ unannotated_withUnknownKeys s unknownKeys⟩

end Interference

/-- A nickname with a note on top and another one on the text inside of the default. -/
def notedNickname : Ty :=
  (ofKind (.defaulted (word.annotate "trim" (.bool false)) (.string "anon"))).annotate "label"
    (.string "Nickname")

/-- The notes show in the annotated tree. They do not show when a least length is put on both types,
be it one that the default has or one that it does not have. -/
theorem annotations_do_not_interfere_nickname :
    notedNickname.SameUnannotated nickname ∧
    (notedNickname.toAnnotatedAst == nickname.toAnnotatedAst) = false ∧
    (notedNickname == nickname) = true ∧
    (constrain [.minSize 2] notedNickname).isOk = true ∧
    SameDefinition (constrain [.minSize 2] notedNickname) (constrain [.minSize 2] nickname) ∧
    (constrain [.minSize 5] notedNickname).isOk = false ∧
    SameDefinition (constrain [.minSize 5] notedNickname) (constrain [.minSize 5] nickname) := by
  have same : notedNickname.SameUnannotated nickname := rfl
  obtain ⟨equal, -, -, -, narrowed, -⟩ := annotations_do_not_interfere same
  exact ⟨same, rfl, equal, rfl, narrowed [.minSize 2], rfl, narrowed [.minSize 5]⟩

end Ty

end JsonTyping
