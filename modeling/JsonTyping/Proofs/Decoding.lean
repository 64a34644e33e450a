import JsonTyping.Ast.Encoding

/-!
# Reading back composition trees

A tree can be read back from its written form, and nothing in it is lost or moved
(`decode?_encode`).

Every node is written as an object with its sort in front and its parts under names of their own, so
reading goes by name: what a part looks like does not matter, even if it is a value that holds such
names itself. Below the root a reader is a little more liberal, and what is read there must be the
same tree. So the statement that is proved by induction is about readers at the root and below it
alike (`decodeNode?_encode`).
-/

namespace JsonTyping

/-! ### Reading parts -/

/-- A reader that does not care where a value was found. -/
@[simp]
theorem Entries.read?_eq_bind {β : Type} (es : Entries Value) (key : String)
    (reader : Value → Option β) :
    es.read? key (fun v _ ↦ reader v) = (es.get? key).bind reader := by
  rw [read?]
  split
  · rename_i v found
    rw [found]
    rfl
  · rename_i missing
    rw [missing]
    rfl

/-- A list is read back if its elements are. -/
theorem mapM_map_eq_some {α β : Type} {write : α → β} {read : β → Option α} {xs : List α}
    (back : ∀ x ∈ xs, read (write x) = some x) : (xs.map write).mapM read = some xs := by
  induction xs with
  | nil => rfl
  | cons x xs ih =>
    obtain ⟨first, others⟩ := List.forall_mem_cons.1 back
    rw [List.map_cons, List.mapM_cons, first, ih others]
    rfl

theorem UnknownKeys.ofName?_name (u : UnknownKeys) : ofName? u.name = some u := by
  cases u <;> rfl

theorem PredicateAst.decode?_encode_eq (p : PredicateAst) : decode? p.encode = some p := rfl

namespace Ast

/-- Declared keys are read back if their types are. -/
theorem decodeFields?_encodeFields {fields : List (Field Ast)}
    (back : ∀ c ∈ fields.map Field.type, decodeNode? false c.encode = some c) :
    decodeFields? (.array (encodeFields fields)) = some fields := by
  rw [decodeFields?]
  induction fields with
  | nil => rw [encodeFields, decodeItems?]
  | cons field fields ih =>
    obtain ⟨first, others⟩ := List.forall_mem_cons.1 back
    rw [encodeFields, decodeItems?, ih others, Entries.read?_eq_bind]
    simp [Value.stringAt?, Value.string?, Value.bool?, Entries.get?, first]

/-! ### Reading trees -/

/-- The sort stands in front. -/
theorem exists_encode_eq (a : Ast) :
    ∃ parts, a.encode = .object (("tag", .string a.tag) :: parts) := by
  cases a <;> exact ⟨_, rfl⟩

theorem tagAt?_cons (isRoot : Bool) (tag : String) (parts : Entries Value) :
    tagAt? isRoot (("tag", .string tag) :: parts) = some tag := rfl

/-- A tree is read back at the root and below it. -/
theorem decodeNode?_encode (isRoot : Bool) (a : Ast) : decodeNode? isRoot a.encode = some a := by
  induction a using Ast.induction generalizing isRoot with
  | step a ih =>
    replace ih : ∀ c ∈ a.children, decodeNode? false c.encode = some c := fun c mem ↦ ih c mem false
    cases a with
    | nominal p =>
      have kind : Primitive.ofName? p.name = some p := Primitive.ofName?_name p
      simp only [encode, decodeNode?, tagAt?_cons, Entries.read?_eq_bind, bind, Option.bind_some]
      simp [primitiveAt?, Value.fixedName?, Entries.get?, kind]
    | constrained wrapped rule =>
      have inner : decodeNode? false wrapped.encode = some wrapped := ih wrapped List.mem_cons_self
      have predicates : (rule.map PredicateAst.encode).mapM PredicateAst.decode? = some rule :=
        mapM_map_eq_some fun p _ ↦ p.decode?_encode_eq
      simp only [encode, decodeNode?, tagAt?_cons, Entries.read?_eq_bind, bind, Option.bind_some]
      simp [Value.itemsAt?, Value.items?, Entries.get?, inner, predicates]
    | coerced wrapped steps =>
      have inner : decodeNode? false wrapped.encode = some wrapped := ih wrapped List.mem_cons_self
      have names : (steps.map Value.string).mapM Value.string? = some steps :=
        mapM_map_eq_some fun _ _ ↦ rfl
      simp only [encode, decodeNode?, tagAt?_cons, Entries.read?_eq_bind, bind, Option.bind_some]
      simp [Value.itemsAt?, Value.items?, Entries.get?, inner, names]
    | enum wrapped mapping =>
      have inner : decodeNode? false wrapped.encode = some wrapped := ih wrapped List.mem_cons_self
      have pairs : (mapping.map fun pair ↦ Value.array [pair.1, pair.2]).mapM Value.pair? =
          some mapping := mapM_map_eq_some fun _ _ ↦ rfl
      simp only [encode, decodeNode?, tagAt?_cons, Entries.read?_eq_bind, bind, Option.bind_some]
      simp [encodePairs, Value.itemsAt?, Value.items?, Entries.get?, inner, pairs]
    | schema fields unknownKeys =>
      have declared := decodeFields?_encodeFields ih
      have policy := unknownKeys.ofName?_name
      simp only [encode, decodeNode?, tagAt?_cons, Entries.read?_eq_bind, bind, Option.bind_some]
      simp [unknownKeysAt?, Value.fixedName?, Entries.get?, declared, policy]
    | defaulted inner | lax inner | array inner | annotated inner =>
      have only : decodeNode? false inner.encode = some inner := ih inner List.mem_cons_self
      simp only [encode, decodeNode?, tagAt?_cons, Entries.read?_eq_bind, bind, Option.bind_some]
      simp [Value.entries?, Entries.get?, only]
    | sum left right | dictionary left right =>
      obtain ⟨first, others⟩ := List.forall_mem_cons.1 ih
      have second : decodeNode? false right.encode = some right := others right List.mem_cons_self
      simp only [encode, decodeNode?, tagAt?_cons, Entries.read?_eq_bind, bind, Option.bind_some]
      simp [Entries.get?, first, second]

/-- **Trees can be read back.** What a tree is written as begins with the sort of its root, and is
read as that tree. So whatever can be read is read as the same tree once it is written again. -/
theorem decode?_encode :
    (∀ a : Ast, (∃ parts, a.encode = .object (("tag", .string a.tag) :: parts)) ∧
      decode? a.encode = some a) ∧
    ∀ v : Value, ((decode? v).map encode).bind decode? = decode? v := by
  have back : ∀ a : Ast, decode? a.encode = some a := fun a ↦ decodeNode?_encode true a
  refine ⟨fun a ↦ ⟨a.exists_encode_eq, back a⟩, fun v ↦ ?_⟩
  rcases decode? v with - | a
  · rfl
  · exact back a

end Ast

end JsonTyping
