import JsonTyping.Ast.Basic

/-!
# Composition trees as JSON

A node is written as an object that gives the name of its sort under `tag` and then its parts.
Reading needs every part and ignores entries that are none. It accepts a little more than writing
produces: below the root a sort may be given by its number, and a name that is one of a fixed list
may be the only key of an object that holds nothing.

Arrays of the parts, in the order of writing, could stand in the place of the objects for nodes,
declared keys, predicates and options. Nothing writes these arrays, and reading them is left out.
-/

namespace JsonTyping

/-- The written name of a policy for unknown keys. -/
def UnknownKeys.name : UnknownKeys → String
  | ignore => "ignore"
  | reject => "reject"
  | preserve => "preserve"

/-- The policy with a written name. -/
def UnknownKeys.ofName? : String → Option UnknownKeys
  | "ignore" => some ignore
  | "reject" => some reject
  | "preserve" => some preserve
  | _ => none

/-! ### Writing -/

/-- A predicate as an object. -/
def PredicateAst.encode (p : PredicateAst) : Value :=
  .object [("predicate", .string p.name), ("args", .array p.args)]

namespace Ast

/-- The pairs of a mapping as arrays of two. -/
def encodePairs (mapping : List (Value × Value)) : Value :=
  .array (mapping.map fun (label, raw) ↦ .array [label, raw])

mutual

/-- A tree as a JSON value. -/
def encode : Ast → Value
  | nominal p => .object [("tag", .string "nominal"), ("primitive", .string p.name)]
  | constrained wrapped rule =>
    .object [("tag", .string "constrained"), ("wrapped", encode wrapped),
      ("rule", .array (rule.map PredicateAst.encode))]
  | coerced wrapped steps =>
    .object [("tag", .string "constructor"), ("wrapped", encode wrapped),
      ("steps", .array (steps.map Value.string))]
  | defaulted wrapped value =>
    .object [("tag", .string "default"), ("wrapped", encode wrapped), ("value", value)]
  | lax wrapped => .object [("tag", .string "lax"), ("wrapped", encode wrapped)]
  | sum left right =>
    .object [("tag", .string "sum"), ("left", encode left), ("right", encode right)]
  | enum wrapped mapping =>
    .object [("tag", .string "enum"), ("wrapped", encode wrapped),
      ("mapping", encodePairs mapping)]
  | array member => .object [("tag", .string "array"), ("member", encode member)]
  | schema fields unknownKeys =>
    .object [("tag", .string "schema"), ("keys", .array (encodeFields fields)),
      ("unknown_keys", .string unknownKeys.name)]
  | dictionary key value =>
    .object [("tag", .string "map"), ("key", encode key), ("value", encode value)]
  | annotated node annotations =>
    .object [("tag", .string "annotated"), ("node", encode node), ("meta", .object annotations)]

/-- Declared keys as JSON values. -/
def encodeFields : List (Field Ast) → List Value
  | [] => []
  | ⟨name, type, required⟩ :: fields =>
    .object [("name", .string name), ("required", .bool required), ("type", encode type)] ::
      encodeFields fields

end

end Ast

/-! ### Reading parts -/

namespace Entries

theorem sizeOf_get?_lt {key : String} {v : Value} {es : Entries Value}
    (h : es.get? key = some v) : sizeOf v < sizeOf es := by
  induction es with
  | nil => simp [get?] at h
  | cons e es ih =>
    obtain ⟨k, w⟩ := e
    simp only [get?] at h
    split at h
    · cases h
      simp only [List.cons.sizeOf_spec, Prod.mk.sizeOf_spec]
      omega
    · have := ih h
      simp only [List.cons.sizeOf_spec]
      omega

/-- Reads the value under a key; the reader learns where the value was found. -/
def read? {β : Type} (es : Entries Value) (key : String)
    (reader : (v : Value) → es.get? key = some v → Option β) : Option β :=
  match h : es.get? key with
  | some v => reader v h
  | none => none

end Entries

namespace Value

/-- The items of an array. -/
def items? : Value → Option (List Value)
  | array xs => some xs
  | _ => none

/-- The entries of an object. -/
def entries? : Value → Option (Entries Value)
  | object es => some es
  | _ => none

/-- The truth value of a truth value. -/
def bool? : Value → Option Bool
  | bool b => some b
  | _ => none

/-- The string under a key. -/
def stringAt? (es : Entries Value) (key : String) : Option String := (es.get? key).bind string?

/-- The items under a key. -/
def itemsAt? (es : Entries Value) (key : String) : Option (List Value) := (es.get? key).bind items?

/-- A name from a fixed list: a string, or the only key of an object that holds nothing there. -/
def fixedName? (isNothing : Value → Bool) : Value → Option String
  | string s => some s
  | object [(key, v)] => if isNothing v then some key else none
  | _ => none

/-- Null and the empty object hold nothing. -/
def isVoid : Value → Bool
  | null => true
  | object [] => true
  | _ => false

/-- A pair of values. -/
def pair? : Value → Option (Value × Value)
  | array [a, b] => some (a, b)
  | _ => none

end Value

/-- Reads a predicate. -/
def PredicateAst.decode? (v : Value) : Option PredicateAst := do
  let es ← v.entries?
  some ⟨← Value.stringAt? es "predicate", ← Value.itemsAt? es "args"⟩

namespace Ast

/-- The names of the sorts of nodes, in the order of their numbers. -/
def tags : List String :=
  ["nominal", "constrained", "constructor", "default", "lax", "sum", "enum", "array", "schema",
    "map", "annotated"]

/-- The sort of a node; only below the root may it be given by its number. -/
def tagAt? (isRoot : Bool) (es : Entries Value) : Option String :=
  match es.get? "tag" with
  | some (.string s) => some s
  | some (.number (.integer n)) => if isRoot || n.val < 0 then none else tags[n.val.toNat]?
  | _ => none

/-- The primitive kind of a node. -/
def primitiveAt? (es : Entries Value) : Option Primitive := do
  Primitive.ofName? (← (← es.get? "primitive").fixedName? Value.isVoid)

/-- The policy for unknown keys of a node. -/
def unknownKeysAt? (es : Entries Value) : Option UnknownKeys := do
  UnknownKeys.ofName? (← (← es.get? "unknown_keys").fixedName? Value.isVoid)

/-! ### Reading trees -/

mutual

/-- Reads a tree. -/
def decodeNode? (isRoot : Bool) : Value → Option Ast
  | .object es => do
    match ← tagAt? isRoot es with
    | "nominal" => some (nominal (← primitiveAt? es))
    | "constrained" =>
      let wrapped ← Entries.read? es "wrapped" fun v _ ↦ decodeNode? false v
      some (constrained wrapped (← (← Value.itemsAt? es "rule").mapM PredicateAst.decode?))
    | "constructor" =>
      let wrapped ← Entries.read? es "wrapped" fun v _ ↦ decodeNode? false v
      some (coerced wrapped (← (← Value.itemsAt? es "steps").mapM Value.string?))
    | "default" =>
      let wrapped ← Entries.read? es "wrapped" fun v _ ↦ decodeNode? false v
      some (defaulted wrapped (← Entries.get? "value" es))
    | "lax" => some (lax (← Entries.read? es "wrapped" fun v _ ↦ decodeNode? false v))
    | "sum" =>
      let left ← Entries.read? es "left" fun v _ ↦ decodeNode? false v
      some (sum left (← Entries.read? es "right" fun v _ ↦ decodeNode? false v))
    | "enum" =>
      let wrapped ← Entries.read? es "wrapped" fun v _ ↦ decodeNode? false v
      some (enum wrapped (← (← Value.itemsAt? es "mapping").mapM Value.pair?))
    | "array" => some (array (← Entries.read? es "member" fun v _ ↦ decodeNode? false v))
    | "schema" =>
      let fields ← Entries.read? es "keys" fun v _ ↦ decodeFields? v
      some (schema fields (← unknownKeysAt? es))
    | "map" =>
      let key ← Entries.read? es "key" fun v _ ↦ decodeNode? false v
      some (dictionary key (← Entries.read? es "value" fun v _ ↦ decodeNode? false v))
    | "annotated" =>
      let node ← Entries.read? es "node" fun v _ ↦ decodeNode? false v
      some (annotated node (← (← Entries.get? "meta" es).entries?))
    | _ => none
  | _ => none
termination_by v => sizeOf v
decreasing_by
  all_goals
    have := Entries.sizeOf_get?_lt ‹_›
    simp only [Value.object.sizeOf_spec]
    omega

/-- Reads declared keys. -/
def decodeFields? : Value → Option (List (Field Ast))
  | .array items => decodeItems? items
  | _ => none
termination_by v => sizeOf v

/-- Reads declared keys one by one. -/
def decodeItems? : List Value → Option (List (Field Ast))
  | [] => some []
  | .object es :: items => do
    let name ← Value.stringAt? es "name"
    let required ← (← Entries.get? "required" es).bool?
    let type ← Entries.read? es "type" fun v _ ↦ decodeNode? false v
    some (⟨name, type, required⟩ :: (← decodeItems? items))
  | _ => none
termination_by items => sizeOf items
decreasing_by
  · have := Entries.sizeOf_get?_lt ‹_›
    simp only [List.cons.sizeOf_spec, Value.object.sizeOf_spec]
    omega
  · simp only [List.cons.sizeOf_spec]
    omega

end

/-- Reads a tree from its written form. -/
def decode? (v : Value) : Option Ast := decodeNode? true v

end Ast

/-! ### Schema options -/

/-- The options of a schema as an object. -/
def UnknownKeys.encodeOptions (u : UnknownKeys) : Value :=
  .object [("unknown_keys", .string u.name)]

/-- Reads the options of a schema; a policy that is not given is to drop unknown keys. -/
def UnknownKeys.decodeOptions? (v : Value) : Option UnknownKeys := do
  match (← v.entries?).get? "unknown_keys" with
  | none => some .ignore
  | some policy => UnknownKeys.ofName? (← policy.fixedName? fun v ↦ v == .null)

end JsonTyping
