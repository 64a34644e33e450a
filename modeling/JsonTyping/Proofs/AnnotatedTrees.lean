import JsonTyping.Proofs.Erasure

/-!
# Predicates in annotated trees

Predicates that are put on a type are meant to show up in one place of its composition tree, in a
rule that gets longer or in a new rule around a tree, and to leave everything else there:
`Ast.Gains` says that of two trees. It leaves no annotation out, because every node but the one in
question holds by itself what it held (`Ast.Gains.notes_eq`).

On their way in the predicates pass layers that are put together again under their old annotations.
In an optional type they go to the branch that is not null, and the type is then made optional anew,
with a new null. So the predicates show up in one place of the tree in which these nulls have no
annotations (`Ty.renewNils`), and the annotations of the old nulls (`Ty.nilNotes`) are lost; all
others are kept. The tree of the type itself gains the predicates, and nothing else happens to it,
exactly if there are no annotations to lose (`Ty.constrain_gains_iff`).
-/

namespace JsonTyping

namespace Ast

/-! ### Trees that gain predicates -/

/-- Whether one tree is another one with predicates added in one place. -/
inductive Gains (ps : List PredicateAst) : Ast → Ast → Prop
  /-- A rule gets longer. -/
  | extended (wrapped : Ast) (rule : List PredicateAst) :
      Gains ps (.constrained wrapped rule) (.constrained wrapped (rule ++ ps))
  /-- A tree gets a rule around it. -/
  | around (a : Ast) : Gains ps a (.constrained a ps)
  /-- One of the trees below a node gains the predicates. The node holds by itself what it held, and
  the other trees below it are the same. -/
  | inside {a b c d : Ast} (before after : List Ast) : b.own = a.own →
      a.children = before ++ c :: after → b.children = before ++ d :: after →
      Gains ps c d → Gains ps a b

/-- The annotations that a node is about. -/
def annotations? : Ast → Option Annotations
  | annotated _ annotations => some annotations
  | _ => none

/-- The annotations in a tree, in the order of the nodes. -/
def notes (a : Ast) : List Annotations := a.nodes.filterMap annotations?

theorem annotations?_own (a : Ast) : a.own.annotations? = a.annotations? := by
  cases a <;> rfl

/-- The annotations of the root come first, and then those in one tree below it after the other. -/
theorem notes_eq (a : Ast) : a.notes = a.annotations?.toList ++ a.children.flatMap notes := by
  rw [notes, nodes_eq_cons, List.filterMap_cons, List.filterMap_flatMap]
  cases a.annotations? <;> rfl

variable {ps : List PredicateAst} {a b : Ast}

/-- No annotation is lost, added or moved to another place in the order. -/
theorem Gains.notes_eq (h : Gains ps a b) : b.notes = a.notes := by
  induction h with
  | extended wrapped rule =>
    rw [Ast.notes_eq, Ast.notes_eq]
    rfl
  | around a =>
    rw [Ast.notes_eq]
    exact List.append_nil _
  | @inside a b c d before after own left right _ ih =>
    have root : b.annotations? = a.annotations? := by rw [← annotations?_own, own, annotations?_own]
    rw [Ast.notes_eq b, Ast.notes_eq a, root, left, right]
    simp only [List.flatMap_append, List.flatMap_cons, ih]

/-- A tree that gains predicates does so under annotations. -/
theorem Gains.annotate (h : Gains ps a b) (annotations : Annotations) :
    Gains ps (a.annotate annotations) (b.annotate annotations) := by
  rw [Ast.annotate, Ast.annotate]
  split
  · exact h
  · exact .inside [] [] rfl rfl rfl h

end Ast

/-! ### Annotations of types and of their trees -/

theorem Kind.parts_map {α β : Type} (f : α → β) (k : Kind α) : (k.map f).parts = k.parts.map f := by
  cases k with
  | schema fields unknownKeys => simp [map, parts, Field.map, Function.comp_def]
  | nominal | constrained | coerced | defaulted | lax | sum | enum | array | dictionary => rfl

theorem Kind.notes_toAst (k : Kind Ast) : k.toAst.notes = k.parts.flatMap Ast.notes := by
  rw [Ast.notes_eq]
  cases k <;> rfl

namespace Ty

/-- The annotations of a type by itself, if there are any. -/
def ownNotes (t : Ty) : List Annotations :=
  if t.annotations.isEmpty then [] else [t.annotations]

/-- The annotations in a tree are those of the type and of its parts. -/
theorem notes_toAnnotatedAst (t : Ty) :
    t.toAnnotatedAst.notes = t.ownNotes ++ t.kind.parts.flatMap fun p ↦ p.toAnnotatedAst.notes := by
  obtain ⟨k, annotations⟩ := t
  have node : (k.map toAnnotatedAst).toAst.notes =
      k.parts.flatMap fun p ↦ p.toAnnotatedAst.notes := by
    rw [Kind.notes_toAst, Kind.parts_map, List.flatMap_map]
  rw [toAnnotatedAst_mk, Ast.annotate, ownNotes]
  split
  · exact node
  · rw [Ast.notes_eq]
    exact congrArg (annotations :: ·) ((List.append_nil _).trans node)

/-! ### Nulls on the way of predicates -/

/-- The type with a new null in every optional type that predicates pass on their way in. -/
def renewNils : Ty → Ty
  | ⟨.coerced wrapped steps, notes⟩ => ⟨.coerced (renewNils wrapped) steps, notes⟩
  | ⟨.defaulted wrapped value, notes⟩ => ⟨.defaulted (renewNils wrapped) value, notes⟩
  | ⟨.lax wrapped, notes⟩ => ⟨.lax (renewNils wrapped), notes⟩
  | ⟨.enum wrapped mapping, notes⟩ => ⟨.enum (renewNils wrapped) mapping, notes⟩
  | ⟨.sum left right, notes⟩ =>
    if left.isNil then ⟨.sum (nominal .nil) (renewNils right), notes⟩ else ⟨.sum left right, notes⟩
  | t => t

/-- The annotations of the nulls that are renewed, from the outside in. -/
def nilNotes : Ty → List Annotations
  | ⟨.coerced wrapped _, _⟩ => nilNotes wrapped
  | ⟨.defaulted wrapped _, _⟩ => nilNotes wrapped
  | ⟨.lax wrapped, _⟩ => nilNotes wrapped
  | ⟨.enum wrapped _, _⟩ => nilNotes wrapped
  | ⟨.sum left right, _⟩ => if left.isNil then left.ownNotes ++ nilNotes right else []
  | _ => []

variable {t u : Ty} {ps : List Predicate}

/-- Nulls without annotations are as good as new ones. -/
theorem renewNils_eq_self (none : t.nilNotes = []) : t.renewNils = t := by
  induction t using Ty.induction with
  | coerced _ _ _ ih | defaulted _ _ _ ih | lax _ _ ih | enum _ _ _ ih => rw [renewNils, ih none]
  | sum left right notes _ ih =>
    cases isNil : left.isNil with
    | false => rw [renewNils, if_neg (by simp [isNil])]
    | true =>
      rw [nilNotes, if_pos isNil, List.append_eq_nil_iff] at none
      obtain ⟨notes', rfl⟩ := exists_eq_of_isNil isNil
      have plain : notes' = [] := by
        cases notes' with
        | nil => rfl
        | cons => cases none.1
      rw [renewNils, if_pos isNil, ih none.2, plain]
      rfl
  | nominal | constrained | array | schema | dictionary => rfl

/-- The annotations of renewed nulls are lost, and no others. -/
theorem perm_notes_renewNils (t : Ty) :
    (t.nilNotes ++ t.renewNils.toAnnotatedAst.notes).Perm t.toAnnotatedAst.notes := by
  induction t using Ty.induction with
  | coerced _ _ _ ih | defaulted _ _ _ ih | lax _ _ ih | enum _ _ _ ih =>
    rw [renewNils, notes_toAnnotatedAst, notes_toAnnotatedAst]
    simp only [Kind.parts, List.flatMap_singleton]
    exact (List.perm_append_comm_assoc _ _ _).trans (ih.append_left _)
  | sum left right notes _ ih =>
    cases isNil : left.isNil with
    | false =>
      rw [nilNotes, renewNils, if_neg (by simp [isNil]), if_neg (by simp [isNil])]
      exact .refl _
    | true =>
      -- those of the sum itself come first in both trees, and then those of the null
      have own : left.toAnnotatedAst.notes = left.ownNotes := by
        obtain ⟨notes', rfl⟩ := exists_eq_of_isNil isNil
        rw [notes_toAnnotatedAst]
        exact List.append_nil _
      rw [nilNotes, renewNils, if_pos isNil, if_pos isNil, notes_toAnnotatedAst,
        notes_toAnnotatedAst ⟨.sum left right, notes⟩]
      simp only [Kind.parts, List.flatMap_cons, List.flatMap_nil, List.append_nil, own]
      show (left.ownNotes ++ right.nilNotes ++
          (ownNotes ⟨.sum left right, notes⟩ ++ right.renewNils.toAnnotatedAst.notes)).Perm
        (ownNotes ⟨.sum left right, notes⟩ ++ (left.ownNotes ++ right.toAnnotatedAst.notes))
      refine (List.perm_append_comm_assoc _ _ _).trans (.append_left _ ?_)
      rw [List.append_assoc]
      exact ih.append_left _
  | nominal | constrained | array | schema | dictionary => exact .refl _

/-- The predicates show up in one place of the tree with the renewed nulls. -/
theorem Narrows.gains_renewNils (h : Narrows ps t u) :
    Ast.Gains (ps.map Predicate.toAst) t.renewNils.toAnnotatedAst u.toAnnotatedAst := by
  induction h with
  | constrained wrapped rule notes =>
    refine Ast.Gains.annotate ?_ notes
    show Ast.Gains _ (.constrained wrapped.toAnnotatedAst (rule.map Predicate.toAst))
      (.constrained wrapped.toAnnotatedAst ((rule ++ ps).map Predicate.toAst))
    rw [List.map_append]
    exact .extended _ _
  | coerced _ notes _ ih | defaulted notes _ _ _ ih | lax notes _ ih | enum _ notes _ ih =>
    refine Ast.Gains.annotate ?_ notes
    exact .inside [] [] rfl rfl rfl ih
  | optional notes isNil _ ih =>
    rw [renewNils, if_pos isNil]
    refine Ast.Gains.annotate ?_ notes
    exact .inside [.nominal .nil] [] rfl rfl rfl ih
  | @core t plain notOptional =>
    have same : t.renewNils = t := by
      obtain ⟨k, notes⟩ := t
      cases k with
      | constrained | coerced | defaulted | lax | enum => cases plain
      | nominal | array | schema | dictionary => rfl
      | sum left right =>
        have notNil : left.isNil = false := notOptional
        rw [renewNils, if_neg (by simp [notNil])]
    rw [same]
    exact .around _

/-- **What predicates do to an annotated tree.** They show up in one place of the tree with the
renewed nulls, and the annotations of the nulls that are renewed are lost, but no others. So the
tree of the type gains the predicates in one place, and is kept everywhere else, exactly if none of
these nulls is annotated. -/
theorem constrain_gains_iff (built : constrain ps t = .ok u) :
    Ast.Gains (ps.map Predicate.toAst) t.renewNils.toAnnotatedAst u.toAnnotatedAst ∧
    (t.nilNotes ++ u.toAnnotatedAst.notes).Perm t.toAnnotatedAst.notes ∧
    (Ast.Gains (ps.map Predicate.toAst) t.toAnnotatedAst u.toAnnotatedAst ↔ t.nilNotes = []) := by
  have gains := (Narrows.of_constrain built).gains_renewNils
  have lost : (t.nilNotes ++ u.toAnnotatedAst.notes).Perm t.toAnnotatedAst.notes := by
    rw [gains.notes_eq]
    exact t.perm_notes_renewNils
  refine ⟨gains, lost, fun kept ↦ ?_, fun none ↦ ?_⟩
  · -- as many annotations are there as before, so that none can have been lost
    rw [← kept.notes_eq] at lost
    have count := lost.length_eq
    rw [List.length_append] at count
    exact List.eq_nil_of_length_eq_zero (by omega)
  · rwa [renewNils_eq_self none] at gains

/-- A nickname that may be null, annotated outside of the null and inside of it. -/
def signature (nickname : Ty) : Ty :=
  (nickname.annotate "unit" (.string "word")).optional.annotate "label" (.string "signature")

/-- The least length shows up in the tree of the optional nickname, inside of two annotations. -/
theorem constrain_gains_signature :
    constrain [.filled, .minSize 2] (signature nickname) = .ok (signature longNickname) ∧
    Ast.Gains ([.filled, .minSize 2].map Predicate.toAst) (signature nickname).toAnnotatedAst
      (signature longNickname).toAnnotatedAst ∧
    (signature longNickname).toAnnotatedAst.notes =
      [[("label", .string "signature")], [("unit", .string "word")]] := by
  have built : constrain [.filled, .minSize 2] (signature nickname) =
      .ok (signature longNickname) := rfl
  exact ⟨built, (constrain_gains_iff built).2.2.2 rfl, rfl⟩

/-- A text that may be null, with a reason for the null. -/
def remark : Ty := sum ((nominal .nil).annotate "reason" (.string "unknown")) (nominal .string)

/-- The reason is lost when the text must not be empty, so that the tree changes in two places. -/
theorem filled_remark_loses_reason :
    constrain [.filled] remark = .ok (ruled .string .filled).optional ∧
    remark.toAnnotatedAst.notes = [[("reason", .string "unknown")]] ∧
    (ruled .string .filled).optional.toAnnotatedAst.notes = [] ∧
    ¬Ast.Gains ([.filled].map Predicate.toAst) remark.toAnnotatedAst
      (ruled .string .filled).optional.toAnnotatedAst := by
  refine ⟨rfl, rfl, rfl, fun gains ↦ ?_⟩
  cases gains.notes_eq

end Ty

end JsonTyping
