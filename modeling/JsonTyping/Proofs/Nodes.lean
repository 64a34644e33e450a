import JsonTyping.Proofs.Spine

/-!
# The types in a type

`Ty.nodes` lists a type and all the types that it is made of, however deep, and `Ty.Everywhere`
says that something holds of each of them. A condition on the form of types ("no lax layer
anywhere", "only such layers") is stated with it; on a given type such a condition is decided by
going through the list.

A proof by induction on types takes such a condition apart with `everywhere_iff`: it is about the
type itself and, once more, about its parts.

One condition of this sort is met by all types that can be built: `Ty.DistinctNames`, that no schema
declares a name twice.
-/

namespace JsonTyping.Ty

/-! ### Nodes -/

mutual

/-- The types in a type, each in front of those that it is made of. -/
def nodes : Ty → List Ty
  | t@⟨.nominal _, _⟩ => [t]
  | t@⟨.constrained wrapped _, _⟩ => t :: nodes wrapped
  | t@⟨.coerced wrapped _, _⟩ => t :: nodes wrapped
  | t@⟨.defaulted wrapped _, _⟩ => t :: nodes wrapped
  | t@⟨.lax wrapped, _⟩ => t :: nodes wrapped
  | t@⟨.sum left right, _⟩ => t :: (nodes left ++ nodes right)
  | t@⟨.enum wrapped _, _⟩ => t :: nodes wrapped
  | t@⟨.array member, _⟩ => t :: nodes member
  | t@⟨.schema fields _, _⟩ => t :: fieldNodes fields
  | t@⟨.dictionary key value, _⟩ => t :: (nodes key ++ nodes value)

/-- The types in the types of declared keys. -/
def fieldNodes : List (Field Ty) → List Ty
  | [] => []
  | ⟨_, type, _⟩ :: fields => nodes type ++ fieldNodes fields

end

theorem fieldNodes_eq_flatMap (fields : List (Field Ty)) :
    fieldNodes fields = (fields.map Field.type).flatMap nodes := by
  induction fields with
  | nil => rfl
  | cons field fields ih => simp [fieldNodes, ih]

/-- The type comes first, and then the nodes of one part after the other. -/
theorem nodes_eq_cons (t : Ty) : t.nodes = t :: t.kind.parts.flatMap nodes := by
  obtain ⟨k, notes⟩ := t
  cases k <;> simp [nodes, Kind.parts, fieldNodes_eq_flatMap]

/-! ### What holds of all nodes -/

/-- Whether something holds of a type and of all the types that it is made of. -/
def Everywhere (P : Ty → Prop) (t : Ty) : Prop := ∀ s ∈ t.nodes, P s

instance (P : Ty → Prop) [DecidablePred P] (t : Ty) : Decidable (t.Everywhere P) :=
  inferInstanceAs (Decidable (∀ s ∈ t.nodes, P s))

section Everywhere

variable {P : Ty → Prop} {t p : Ty}

theorem everywhere_iff : t.Everywhere P ↔ P t ∧ ∀ p ∈ t.kind.parts, p.Everywhere P := by
  rw [Everywhere, nodes_eq_cons]
  simp only [List.forall_mem_cons, List.forall_mem_flatMap, Everywhere]

theorem Everywhere.self (h : t.Everywhere P) : P t := (everywhere_iff.1 h).1

theorem Everywhere.part (h : t.Everywhere P) (part : p ∈ t.kind.parts) : p.Everywhere P :=
  (everywhere_iff.1 h).2 p part

theorem Everywhere.single (h : t.Everywhere P) (parts : t.kind.parts = [p]) : p.Everywhere P := by
  refine h.part ?_
  rw [parts]
  exact List.mem_singleton_self p

theorem Everywhere.pair {q : Ty} (h : t.Everywhere P) (parts : t.kind.parts = [p, q]) :
    p.Everywhere P ∧ q.Everywhere P := by
  have both := (everywhere_iff.1 h).2
  rw [parts] at both
  exact ⟨both p List.mem_cons_self, both q (List.mem_cons_of_mem _ List.mem_cons_self)⟩

theorem everywhere_nominal {kind : Primitive} (own : P (nominal kind)) :
    (nominal kind).Everywhere P :=
  everywhere_iff.2 ⟨own, fun q part ↦ by cases part⟩

theorem everywhere_of_single (own : P t) (parts : t.kind.parts = [p]) (h : p.Everywhere P) :
    t.Everywhere P := by
  refine everywhere_iff.2 ⟨own, ?_⟩
  rw [parts]
  exact List.forall_mem_singleton.2 h

theorem everywhere_of_pair {q : Ty} (own : P t) (parts : t.kind.parts = [p, q])
    (h : p.Everywhere P) (h' : q.Everywhere P) : t.Everywhere P := by
  refine everywhere_iff.2 ⟨own, ?_⟩
  rw [parts]
  exact List.forall_mem_cons.2 ⟨h, List.forall_mem_singleton.2 h'⟩

theorem everywhere_schema {fields : List (Field Ty)} {unknownKeys : UnknownKeys}
    {notes : Annotations} (own : P ⟨.schema fields unknownKeys, notes⟩)
    (h : ∀ field ∈ fields, field.type.Everywhere P) :
    Everywhere P ⟨.schema fields unknownKeys, notes⟩ :=
  everywhere_iff.2 ⟨own, List.forall_mem_map.2 h⟩

theorem Everywhere.field {fields : List (Field Ty)} {unknownKeys : UnknownKeys}
    {notes : Annotations} {field : Field Ty} (h : Everywhere P ⟨.schema fields unknownKeys, notes⟩)
    (mem : field ∈ fields) : field.type.Everywhere P :=
  h.part (List.mem_map_of_mem mem)

end Everywhere

/-! ### Declared names -/

/-- The names that a schema declares; other layers declare none. -/
def names (t : Ty) : List String :=
  match t.kind with
  | .schema fields _ => fields.map Field.name
  | _ => []

/-- Whether no schema in the type declares a name twice. -/
def DistinctNames (t : Ty) : Prop := t.Everywhere fun s ↦ s.names.Nodup

instance (t : Ty) : Decidable t.DistinctNames :=
  inferInstanceAs (Decidable (t.Everywhere fun s ↦ s.names.Nodup))

end JsonTyping.Ty
