import JsonTyping.Ast.Basic
import JsonTyping.Proofs.Laxness
import Mathlib.Data.List.Basic

/-!
# Erasing rules and laxness

The composition tree of a lax type is that of the type, with the nodes for rules and for laxness
taken out and one node for laxness put on top (`toAst_toLax`). Taking nodes out is described here on
trees (`Ast.erase`), without reference to types; `toAst_strip` says that types are stripped in the
same way.

What a tree keeps is read off its list of nodes: erasing leaves out nodes of the two sorts and
touches nothing that another node holds by itself (`Ast.nodes_erase`). A tree without such nodes
stays as it is, so that erasing twice is erasing once.
-/

namespace JsonTyping

namespace Ast

/-! ### Nodes of a tree -/

mutual

/-- The nodes of a tree, each in front of those below it. -/
def nodes : Ast → List Ast
  | nominal p => [nominal p]
  | constrained wrapped rule => constrained wrapped rule :: nodes wrapped
  | coerced wrapped steps => coerced wrapped steps :: nodes wrapped
  | defaulted wrapped value => defaulted wrapped value :: nodes wrapped
  | lax wrapped => lax wrapped :: nodes wrapped
  | sum left right => sum left right :: (nodes left ++ nodes right)
  | enum wrapped mapping => enum wrapped mapping :: nodes wrapped
  | array member => array member :: nodes member
  | schema fields unknownKeys => schema fields unknownKeys :: fieldNodes fields
  | dictionary key value => dictionary key value :: (nodes key ++ nodes value)
  | annotated node annotations => annotated node annotations :: nodes node

/-- The nodes of the types of declared keys. -/
def fieldNodes : List (Field Ast) → List Ast
  | [] => []
  | ⟨_, type, _⟩ :: fields => nodes type ++ fieldNodes fields

end

theorem fieldNodes_eq_flatMap (fields : List (Field Ast)) :
    fieldNodes fields = (fields.map Field.type).flatMap nodes := by
  induction fields with
  | nil => rfl
  | cons field fields ih => simp [fieldNodes, ih]

/-- The root comes first, and then the nodes of one tree below it after the other. -/
theorem nodes_eq_cons (a : Ast) : a.nodes = a :: a.children.flatMap nodes := by
  cases a <;> simp [nodes, children, fieldNodes_eq_flatMap]

theorem mem_nodes_self (a : Ast) : a ∈ a.nodes := by
  rw [nodes_eq_cons]
  exact List.mem_cons_self

theorem mem_nodes_of_mem_children {a c node : Ast} (child : c ∈ a.children)
    (mem : node ∈ c.nodes) : node ∈ a.nodes := by
  rw [nodes_eq_cons]
  exact List.mem_cons_of_mem _ (List.mem_flatMap.2 ⟨c, child, mem⟩)

/-- What a node holds by itself: the node with a fixed leaf in place of every tree below it. -/
def own : Ast → Ast
  | nominal p => nominal p
  | constrained _ rule => constrained leaf rule
  | coerced _ steps => coerced leaf steps
  | defaulted _ value => defaulted leaf value
  | lax _ => lax leaf
  | sum _ _ => sum leaf leaf
  | enum _ mapping => enum leaf mapping
  | array _ => array leaf
  | schema fields unknownKeys => schema (fields.map (Field.map fun _ ↦ leaf)) unknownKeys
  | dictionary _ _ => dictionary leaf leaf
  | annotated _ annotations => annotated leaf annotations
where
  leaf : Ast := nominal .any

/-! ### Erasing -/

/-- Whether a node is neither a rule nor laxness. -/
def isKept : Ast → Bool
  | constrained .. | lax _ => false
  | _ => true

theorem isKept_own (a : Ast) : a.own.isKept = a.isKept := by
  cases a <;> rfl

mutual

/-- Takes the nodes for rules and for laxness out of a tree. -/
def erase : Ast → Ast
  | nominal p => nominal p
  | constrained wrapped _ => erase wrapped
  | coerced wrapped steps => coerced (erase wrapped) steps
  | defaulted wrapped value => defaulted (erase wrapped) value
  | lax wrapped => erase wrapped
  | sum left right => sum (erase left) (erase right)
  | enum wrapped mapping => enum (erase wrapped) mapping
  | array member => array (erase member)
  | schema fields unknownKeys => schema (eraseFields fields) unknownKeys
  | dictionary key value => dictionary (erase key) (erase value)
  | annotated node annotations => annotated (erase node) annotations

/-- Takes the nodes for rules and for laxness out of the types of declared keys. -/
def eraseFields : List (Field Ast) → List (Field Ast)
  | [] => []
  | ⟨name, type, required⟩ :: fields => ⟨name, erase type, required⟩ :: eraseFields fields

end

theorem eraseFields_eq_map (fields : List (Field Ast)) :
    eraseFields fields = fields.map (Field.map erase) := by
  induction fields with
  | nil => rfl
  | cons field fields ih => simp [eraseFields, Field.map, ih]

/-- A node that is not kept gives way to the one tree below it. -/
theorem exists_children_eq_singleton {a : Ast} (erased : a.isKept = false) :
    ∃ c, a.children = [c] ∧ a.erase = c.erase := by
  cases a with
  | constrained wrapped | lax wrapped => exact ⟨wrapped, rfl, rfl⟩
  | nominal | coerced | defaulted | sum | enum | array | schema | dictionary | annotated =>
    cases erased

theorem own_erase {a : Ast} (kept : a.isKept = true) : a.erase.own = a.own := by
  cases a with
  | schema fields unknownKeys =>
    simp [erase, own, eraseFields_eq_map, Field.map, Function.comp_def]
  | constrained | lax => cases kept
  | nominal | coerced | defaulted | sum | enum | array | dictionary | annotated => rfl

theorem children_erase {a : Ast} (kept : a.isKept = true) :
    a.erase.children = a.children.map erase := by
  cases a with
  | schema fields unknownKeys =>
    simp [erase, children, eraseFields_eq_map, Field.map, Function.comp_def]
  | constrained | lax => cases kept
  | nominal | coerced | defaulted | sum | enum | array | dictionary | annotated => rfl

/-- Erasing leaves out nodes, and all other nodes hold by themselves what they held before, in the
same order. -/
theorem nodes_erase (a : Ast) : a.erase.nodes.map own = (a.nodes.filter isKept).map own := by
  induction a using Ast.induction with
  | step a ih =>
    -- an erased root gives way to the one tree below it; any other is compared node by node
    rw [nodes_eq_cons a]
    cases kept : a.isKept with
    | false =>
      obtain ⟨c, one, eq⟩ := exists_children_eq_singleton kept
      rw [List.filter_cons_of_neg (by simp [kept]), eq, one, List.flatMap_singleton]
      exact ih c (one ▸ List.mem_singleton_self c)
    | true =>
      rw [nodes_eq_cons a.erase, children_erase kept, List.filter_cons_of_pos kept,
        List.map_cons, List.map_cons, own_erase kept, List.filter_flatMap, List.map_flatMap,
        List.map_flatMap, List.flatMap_map]
      exact congrArg _ (List.flatMap_congr ih)

/-- No rule and no laxness is left. -/
theorem isKept_of_mem_nodes_erase {a node : Ast} (mem : node ∈ a.erase.nodes) :
    node.isKept = true := by
  have listed : node.own ∈ (a.nodes.filter isKept).map own :=
    nodes_erase a ▸ List.mem_map_of_mem mem
  obtain ⟨other, kept, same⟩ := List.mem_map.1 listed
  rw [← isKept_own, ← same, isKept_own]
  exact (List.mem_filter.1 kept).2

/-- A tree without rules and laxness stays as it is. -/
theorem erase_eq_self {a : Ast} (kept : ∀ node ∈ a.nodes, node.isKept = true) : a.erase = a := by
  induction a using Ast.induction with
  | step a ih =>
    have below : ∀ c ∈ a.children, c.erase = c := fun c child ↦
      ih c child fun node mem ↦ kept node (mem_nodes_of_mem_children child mem)
    have root : a.isKept = true := kept a (mem_nodes_self a)
    cases a with
    | nominal => rfl
    | constrained | lax => cases root
    | coerced wrapped | defaulted wrapped | enum wrapped | array wrapped | annotated wrapped =>
      rw [erase, below wrapped List.mem_cons_self]
    | sum left right | dictionary left right =>
      have both : left.erase = left ∧ right.erase = right := by simpa [children] using below
      rw [erase, both.1, both.2]
    | schema fields unknownKeys =>
      have same : ∀ field ∈ fields, Field.map erase field = id field := fun field mem ↦ by
        rw [Field.map, below field.type (List.mem_map_of_mem mem)]
        rfl
      rw [erase, eraseFields_eq_map, List.map_congr_left same, List.map_id]

theorem erase_erase (a : Ast) : a.erase.erase = a.erase :=
  erase_eq_self fun _ ↦ isKept_of_mem_nodes_erase

end Ast

namespace Ty

/-- Types are stripped as trees are erased. -/
theorem toAst_strip (t : Ty) : t.strip.toAst = t.toAst.erase := by
  induction t using Ty.induction with
  | nominal => rfl
  | constrained _ _ _ ih | lax _ _ ih =>
    simp only [strip_constrained, strip_lax, toAst_mk, Kind.map, Kind.toAst, Ast.erase, ih]
  | coerced _ _ _ ih | defaulted _ _ _ ih | enum _ _ _ ih | array _ _ ih =>
    simp only [strip_coerced, strip_defaulted, strip_enum, strip_array, toAst_mk, Kind.map,
      Kind.toAst, Ast.erase, ih]
  | sum _ _ _ left right | dictionary _ _ _ left right =>
    simp only [strip_sum, strip_dictionary, toAst_mk, Kind.map, Kind.toAst, Ast.erase, left, right]
  | schema fields unknownKeys notes ih =>
    have declared : ∀ field ∈ fields,
        (field.map strip).map toAst = (field.map toAst).map Ast.erase := fun field mem ↦ by
      rw [Field.map, Field.map, Field.map, Field.map, ih field mem]
    simp only [strip_schema, toAst_mk, Kind.map, Kind.toAst, Ast.erase, Ast.eraseFields_eq_map,
      List.map_map]
    exact congrArg (Ast.schema · unknownKeys) (List.map_congr_left declared)

/-- **What becomes of a tree when its type is made lax.** Unless the type is lax already, its tree
gets laxness on top and is erased below. Erasing leaves out the nodes for rules and for laxness; all
other nodes stay in their order, each with the primitive kind, steps, default, labels, names, marks
and policy that it holds; and what is erased stays so. -/
theorem toAst_toLax {t : Ty} (strict : t.isLax = false) :
    t.toLax.toAst = .lax t.toAst.erase ∧
    t.toAst.erase.nodes.map Ast.own = (t.toAst.nodes.filter Ast.isKept).map Ast.own ∧
    (∀ node ∈ t.toAst.erase.nodes, node.isKept = true) ∧
    t.toAst.erase.erase = t.toAst.erase := by
  refine ⟨?_, t.toAst.nodes_erase, fun _ ↦ Ast.isKept_of_mem_nodes_erase, t.toAst.erase_erase⟩
  rw [toLax_of_strict strict, withKind, toAst_mk, Kind.map, toAst_strip]
  rfl

/-- A profile: a nickname, and marks under labels that must not be empty. -/
def profile : Ty :=
  ofFields
    [⟨"nickname", longNickname, true⟩,
      ⟨"marks", dictionary (ofKind (.constrained (nominal .string) [.filled]))
        (ofKind (.lax (ofKind (.constrained (nominal .integer) [.odd])))).optional, false⟩]
    .reject

/-- Three rules and the laxness of the marks are gone from the tree of the lax profile, at every
depth; the transform, the default, the names and the policy are there. -/
theorem toAst_toLax_profile :
    profile.isLax = false ∧
    profile.toLax.toAst = .lax (.schema
      [⟨"nickname", .defaulted (.coerced (.nominal .string) ["empty_to_undefined"])
          (.string "anon"), true⟩,
        ⟨"marks", .dictionary (.nominal .string) (.sum (.nominal .nil) (.nominal .integer)), false⟩]
      .reject) := by
  have strict : profile.isLax = false := rfl
  obtain ⟨eq, -⟩ := toAst_toLax strict
  exact ⟨strict, eq⟩

end Ty

end JsonTyping
