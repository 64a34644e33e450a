import JsonTyping.Proofs.Containers
import JsonTyping.Proofs.Filtering
import JsonTyping.Ty.Introspection

/-!
# The primitive kind of what a type yields

`Ty.primitive` reads a primitive kind off a type without running it: decorations do not change the
kind, a sum has the kind of its branches if they agree, and containers have kinds of their own. That
the values a type yields are of this kind (`primitive_accepts`) is a matter of its *surface*, the
types that are reached through decorations and through branches of sums. What lies in a container is
out of reach, and so are the inputs: transforms and labels may turn them into anything, but the last
word on a value is with the types further in.

There are two ways around this last word, and the surface must be free of both. A lax type passes on
what its failures leave, and a default is yielded without being checked once more.
-/

namespace JsonTyping

/-! ### What layers yield -/

/-- A container yields what was assembled. -/
theorem Outcome.eq_of_ofMembers_eq_ok {assembled v : Value} {failures : List MemberFailure}
    (came : ofMembers assembled failures = .ok (some v)) : v = assembled :=
  Option.some.inj (ofMembers_eq_ok_iff.1 came).2

namespace Check

/-- Whether something holds of every value that a check yields. -/
def Yields (check : Check) (P : Value → Prop) : Prop :=
  ∀ input v, check input = .ok (some v) → P v

variable {check left right : Check} {P Q : Value → Prop}

theorem Yields.imp (h : check.Yields P) (imp : ∀ v, P v → Q v) : check.Yields Q :=
  fun input v came ↦ imp v (h input v came)

theorem yields_nominal (p : Primitive) : (nominal p).Yields fun v ↦ p.accepts v = true := by
  rintro (- | w) v came
  · cases came
  · obtain ⟨same, holds⟩ := Rule.enforce_eq_ok_iff.1 came
    have accepted : p.accepts w = true := holds (.kind p) List.mem_cons_self
    rwa [Option.some.inj same]

theorem Yields.constrained (h : check.Yields P) (rule : Rule) :
    (check.constrained rule).Yields P :=
  fun input v came ↦ h input v (constrained_eq_ok_some_iff.1 came).1

/-- A check has the last word after transforms. -/
theorem Yields.coerced (h : check.Yields P) (steps : List Transform) :
    (check.coerced steps).Yields P := by
  rintro (- | w) v came
  · exact h none v came
  · rcases applied : Transform.applyAll steps w with failure | - | next
    · simp [Check.coerced, applied] at came
    · simp [Check.coerced, applied] at came
    · have inner : check (some next) = .ok (some v) := by simpa [Check.coerced, applied] using came
      exact h (some next) v inner

theorem Yields.defaulted (h : check.Yields P) {value : Value} (default : P value) :
    (check.defaulted value).Yields P := by
  rintro (- | w) v came
  · have same : value = v := Option.some.inj (Except.ok.inj came)
    exact same ▸ default
  · rcases inner : check (some w) with failure | - | u
    · simp [Check.defaulted, inner] at came
    · have same : value = v := by simpa [Check.defaulted, inner] using came
      exact same ▸ default
    · have same : u = v := by simpa [Check.defaulted, inner] using came
      exact h (some w) v (same ▸ inner)

theorem Yields.sum (h : left.Yields P) (h' : right.Yields P) : (left.sum right).Yields P := by
  intro input v came
  rcases sum_eq_ok_iff.1 came with first | ⟨-, second⟩
  · exact h input v first
  · exact h' input v second

/-- A check has the last word after labels. -/
theorem Yields.enum (h : check.Yields P) (mapping : EnumMapping) : (check.enum mapping).Yields P :=
  fun input ↦ h (input.map mapping.toLabel)

theorem yields_array : check.array.Yields fun v ↦ Primitive.array.accepts v = true := by
  rintro (- | w) v came
  · cases came
  · cases w with
    | array items =>
      rw [Outcome.eq_of_ofMembers_eq_ok came]
      rfl
    | null | bool | number | string | object => cases came

theorem yields_schema (fields : List (Field Check)) (unknownKeys : UnknownKeys) :
    (schema fields unknownKeys).Yields fun v ↦ Primitive.hash.accepts v = true := by
  rintro (- | w) v came
  · cases came
  · cases w with
    | object entries =>
      rw [Outcome.eq_of_ofMembers_eq_ok came]
      rfl
    | null | bool | number | string | array => cases came

theorem yields_dictionary :
    (left.dictionary right).Yields fun v ↦ Primitive.hash.accepts v = true := by
  rintro (- | w) v came
  · cases came
  · cases w with
    | object entries =>
      rw [Outcome.eq_of_ofMembers_eq_ok came]
      rfl
    | null | bool | number | string | array => cases came

end Check

namespace Ty

/-! ### The surface of a type -/

/-- The types reached through decorations and branches of sums, from the outside in. -/
def surface : Ty → List Ty
  | t@⟨.constrained wrapped _, _⟩ => t :: surface wrapped
  | t@⟨.coerced wrapped _, _⟩ => t :: surface wrapped
  | t@⟨.defaulted wrapped _, _⟩ => t :: surface wrapped
  | t@⟨.lax wrapped, _⟩ => t :: surface wrapped
  | t@⟨.sum left right, _⟩ => t :: (surface left ++ surface right)
  | t@⟨.enum wrapped _, _⟩ => t :: surface wrapped
  | t => [t]

/-- Whether all that a type yields could have come out of its parts: it is not lax, and if it is a
default, the type under it leaves the value unchanged. -/
def Delegates (t : Ty) : Prop :=
  match t.kind with
  | .lax _ => False
  | .defaulted wrapped value => wrapped.check value = .ok value
  | _ => True

/-- **The primitive kind of a type is right about what the type yields.** If no type on the surface
is lax, and every default there comes out of the type under it unchanged, then every value that the
type yields, whatever the input, is of the primitive kind of the type. -/
theorem primitive_accepts {t : Ty} (delegates : ∀ s ∈ t.surface, s.Delegates)
    {input : Option Value} {v : Value} (came : t.run input = .ok (some v)) :
    t.primitive.accepts v = true := by
  suffices yields : t.run.Yields fun v ↦ t.primitive.accepts v = true from yields input v came
  clear came
  -- the surface goes on where the primitive kind is that of a part, so each part delegates as well
  induction t using Ty.induction with
  | nominal p =>
    rw [run_nominal]
    exact Check.yields_nominal p
  | constrained wrapped rule _ ih =>
    have inner := ih fun s mem ↦ delegates s (List.mem_cons_of_mem _ mem)
    rw [run_constrained]
    exact inner.constrained rule
  | coerced wrapped steps _ ih =>
    have inner := ih fun s mem ↦ delegates s (List.mem_cons_of_mem _ mem)
    rw [run_coerced]
    exact inner.coerced steps
  | defaulted wrapped value _ ih =>
    have inner := ih fun s mem ↦ delegates s (List.mem_cons_of_mem _ mem)
    have unchanged : wrapped.check value = .ok value := delegates _ List.mem_cons_self
    rw [run_defaulted]
    exact inner.defaulted (inner (some value) value (check_eq_ok_iff.1 unchanged))
  | lax => exact (delegates _ List.mem_cons_self).elim
  | sum left right notes ihLeft ihRight =>
    have first := ihLeft fun s mem ↦
      delegates s (List.mem_cons_of_mem _ (List.mem_append_left _ mem))
    have second := ihRight fun s mem ↦
      delegates s (List.mem_cons_of_mem _ (List.mem_append_right _ mem))
    have kind : primitive ⟨.sum left right, notes⟩ =
        if left.primitive = right.primitive then left.primitive else .any := primitive_mk _ _
    rw [run_sum, kind]
    split
    · rename_i same
      exact first.sum (same ▸ second)
    · exact (first.imp fun _ _ ↦ rfl).sum (second.imp fun _ _ ↦ rfl)
  | enum wrapped mapping _ ih =>
    have inner := ih fun s mem ↦ delegates s (List.mem_cons_of_mem _ mem)
    rw [run_enum]
    exact inner.enum mapping
  | array member =>
    rw [run_array]
    exact Check.yields_array
  | schema fields unknownKeys =>
    rw [run_schema]
    exact Check.yields_schema _ unknownKeys
  | dictionary key value =>
    rw [run_dictionary]
    exact Check.yields_dictionary

/-- The label of a size. -/
def sizeLabel : Ty := ruled .string (.includedIn [.string "small", .string "large"])

/-- A size: a label, which is small if it is missing and may be given by a number, or some text that
is not empty. -/
def size : Ty :=
  sum
    (ofKind (.enum (ofKind (.defaulted sizeLabel (.string "small")))
      [(.string "small", .ofUInt64 1), (.string "large", .ofUInt64 2)]))
    ((nominal .string).coerce .emptyToUndefined)

/-- Sizes are texts: a number is one only as the label that it stands for, and nothing at all is one
by the default. -/
theorem primitive_accepts_size :
    (∀ s ∈ size.surface, s.Delegates) ∧ size.primitive = .string ∧
    size.run (some (.ofUInt64 2)) = .ok (some (.string "large")) ∧
    size.run none = .ok (some (.string "small")) ∧
    Primitive.string.accepts (.string "large") = true ∧
    Primitive.string.accepts (.string "small") = true := by
  have delegates : ∀ s ∈ size.surface, s.Delegates := by
    have small : sizeLabel.check (.string "small") = .ok (.string "small") := rfl
    simpa [size, sizeLabel, ruled, coerce, Ty.sum, nominal, ofKind, surface, Delegates] using small
  have label : size.run (some (.ofUInt64 2)) = .ok (some (.string "large")) := rfl
  have default : size.run none = .ok (some (.string "small")) := rfl
  exact ⟨delegates, rfl, label, default, primitive_accepts delegates label,
    primitive_accepts delegates default⟩

end Ty

end JsonTyping
