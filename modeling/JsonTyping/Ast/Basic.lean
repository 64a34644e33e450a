import JsonTyping.Ty.Basic

/-!
# Composition trees

A composition tree records how a type was put together, with the functions in it replaced by their
names: transforms by the names of their steps, predicates by name and arguments. Everything keeps
its order, so types with equal trees were built in the same way. Annotations show up as nodes of
their own, if at all.
-/

namespace JsonTyping

/-- A predicate by its name and arguments. -/
structure PredicateAst where
  name : String
  args : List Value

/-- Predicates are equal by name and arguments. -/
instance : BEq PredicateAst := ⟨fun a b ↦ a.name == b.name && a.args == b.args⟩

/-- A composition tree. -/
inductive Ast where
  | nominal (p : Primitive)
  | constrained (wrapped : Ast) (rule : List PredicateAst)
  | coerced (wrapped : Ast) (steps : List String)
  | defaulted (wrapped : Ast) (value : Value)
  | lax (wrapped : Ast)
  | sum (left right : Ast)
  | enum (wrapped : Ast) (mapping : List (Value × Value))
  | array (member : Ast)
  | schema (fields : List (Field Ast)) (unknownKeys : UnknownKeys)
  | dictionary (key value : Ast)
  /-- A node with annotations. -/
  | annotated (node : Ast) (annotations : List (String × Value))

namespace Ast

/-- The written name of a sort of node. -/
def tag : Ast → String
  | nominal _ => "nominal"
  | constrained .. => "constrained"
  | coerced .. => "constructor"
  | defaulted .. => "default"
  | lax _ => "lax"
  | sum .. => "sum"
  | enum .. => "enum"
  | array _ => "array"
  | schema .. => "schema"
  | dictionary .. => "map"
  | annotated .. => "annotated"

/-- The nodes directly below a node. -/
def children : Ast → List Ast
  | nominal _ => []
  | constrained wrapped _ | coerced wrapped _ | defaulted wrapped _ | lax wrapped
  | enum wrapped _ => [wrapped]
  | sum left right => [left, right]
  | array member => [member]
  | schema fields _ => fields.map Field.type
  | dictionary key value => [key, value]
  | annotated node _ => [node]

/-- What holds of a tree if it holds of the trees directly below its root holds of all trees. -/
theorem induction {P : Ast → Prop} (step : ∀ a : Ast, (∀ c ∈ a.children, P c) → P a) (a : Ast) :
    P a :=
  go a
where
  go : (a : Ast) → P a
    | nominal _ => step _ fun _ mem ↦ by cases mem
    | constrained wrapped _ | coerced wrapped _ | defaulted wrapped _ | lax wrapped
    | enum wrapped _ => step _ fun _ mem ↦ List.mem_singleton.1 mem ▸ go wrapped
    | sum left right => step _ <| List.forall_mem_cons.2
      ⟨go left, List.forall_mem_singleton.2 (go right)⟩
    | array member => step _ fun _ mem ↦ List.mem_singleton.1 mem ▸ go member
    | schema fields _ => step _ (goFields fields)
    | dictionary key value => step _ <| List.forall_mem_cons.2
      ⟨go key, List.forall_mem_singleton.2 (go value)⟩
    | annotated node _ => step _ fun _ mem ↦ List.mem_singleton.1 mem ▸ go node
  goFields : (fields : List (Field Ast)) → ∀ c ∈ fields.map Field.type, P c
    | [], _, mem => by cases mem
    | ⟨_, type, _⟩ :: fields, c, mem => by
      cases mem with
      | head => exact go type
      | tail _ mem => exact goFields fields c mem

/-- The names of the nodes met by going down to the first child again and again. -/
def spine : Ast → List String
  | nominal _ => ["nominal"]
  | constrained wrapped _ => "constrained" :: spine wrapped
  | coerced wrapped _ => "constructor" :: spine wrapped
  | defaulted wrapped _ => "default" :: spine wrapped
  | lax wrapped => "lax" :: spine wrapped
  | sum left _ => "sum" :: spine left
  | enum wrapped _ => "enum" :: spine wrapped
  | array member => "array" :: spine member
  | schema [] _ => ["schema"]
  | schema (⟨_, type, _⟩ :: _) _ => "schema" :: spine type
  | dictionary key _ => "map" :: spine key
  | annotated node _ => "annotated" :: spine node

/-! ### Equality -/

mutual

/-- Whether two trees are equal, the order of object entries and of annotations aside. -/
def equal : Ast → Ast → Bool
  | nominal p, nominal q => p == q
  | constrained wrapped rule, constrained other rule' => equal wrapped other && rule == rule'
  | coerced wrapped steps, coerced other steps' => equal wrapped other && steps == steps'
  | defaulted wrapped value, defaulted other value' => equal wrapped other && value == value'
  | lax wrapped, lax other => equal wrapped other
  | sum left right, sum left' right' => equal left left' && equal right right'
  | enum wrapped mapping, enum other mapping' => equal wrapped other && mapping == mapping'
  | array member, array other => equal member other
  | schema fields unknownKeys, schema others unknownKeys' =>
    equalFields fields others && unknownKeys == unknownKeys'
  | dictionary key value, dictionary key' value' => equal key key' && equal value value'
  | annotated node annotations, annotated other annotations' =>
    equal node other && Value.equalEntries annotations annotations'
  | _, _ => false

/-- Whether two lists of declared keys are equal one by one. -/
def equalFields : List (Field Ast) → List (Field Ast) → Bool
  | [], [] => true
  | ⟨name, type, required⟩ :: fields, ⟨name', type', required'⟩ :: others =>
    name == name' && required == required' && equal type type' && equalFields fields others
  | _, _ => false

end

instance : BEq Ast := ⟨equal⟩

end Ast

/-! ### The tree of a type -/

/-- A predicate with its test left out. -/
def Predicate.toAst (p : Predicate) : PredicateAst := ⟨p.name, p.args⟩

/-- The node of a layer over the trees of its parts. -/
def Kind.toAst : Kind Ast → Ast
  | nominal p => .nominal p
  | constrained wrapped rule => .constrained wrapped (rule.map Predicate.toAst)
  | coerced wrapped steps => .coerced wrapped (steps.map Transform.name)
  | defaulted wrapped value => .defaulted wrapped value
  | lax wrapped => .lax wrapped
  | sum left right => .sum left right
  | enum wrapped mapping => .enum wrapped mapping
  | array member => .array member
  | schema fields unknownKeys => .schema fields unknownKeys
  | dictionary key value => .dictionary key value

/-- A node under its annotations, if there are any. -/
def Ast.annotate (node : Ast) (annotations : Annotations) : Ast :=
  if annotations.isEmpty then node else .annotated node annotations

namespace Ty

/-- The composition tree without annotations. -/
def toAst (t : Ty) : Ast := t.fold fun k _ ↦ k.toAst

/-- The composition tree with annotations. -/
def toAnnotatedAst (t : Ty) : Ast := t.fold fun k annotations ↦ k.toAst.annotate annotations

theorem toAst_mk (k : Kind Ty) (annotations : Annotations) :
    toAst ⟨k, annotations⟩ = (k.map toAst).toAst := fold_mk _ k annotations

theorem toAnnotatedAst_mk (k : Kind Ty) (annotations : Annotations) :
    toAnnotatedAst ⟨k, annotations⟩ = (k.map toAnnotatedAst).toAst.annotate annotations :=
  fold_mk _ k annotations

end Ty

end JsonTyping
