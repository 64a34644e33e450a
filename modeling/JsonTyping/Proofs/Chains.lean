import JsonTyping.Ty.Building

/-!
# Chains of transforms

A type with transforms keeps them in one list, and `Transform.applyAll` sends a value through the
whole list before the type is run. A transform that is put in front of such a type goes to the front
of the list; in front of any other type it becomes a layer of its own. The two look different and
run alike.

What both of them do is said by `Check.BehindStep`, with one clause for each outcome of the
transform, and by `Check.BehindChain` for a list of transforms, in which a value is either carried
to the end (`Transform.Carries`) or comes to a transform that yields nothing for it. The second
follows from the first by adding one transform to the front at a time (`Check.BehindStep.chain`).
There is only one check that is behind a chain (`Check.BehindChain.unique`), so that transforms in
one list run as transforms in layers. `Ty.coerce_outcome` says all of this of any type.
-/

namespace JsonTyping

/-- Whether transforms carry one value to another: the first is handed the value, and each other one
is handed what the one before it yields. -/
inductive Transform.Carries : List Transform → Value → Value → Prop
  | nil (v : Value) : Carries [] v v
  | cons {step : Transform} {steps : List Transform} {v next w : Value} :
      step.apply v = .ok (some next) → Carries steps next w → Carries (step :: steps) v w

namespace Check

/-- What is said of a check that stands behind a transform: how the outer check, with the transform,
goes back to the inner one. -/
structure BehindStep (step : Transform) (inner outer : Check) : Prop where
  /-- Undefined input does not go through the transform. -/
  undefined : outer none = inner none
  /-- What the transform yields is checked in the place of the input. -/
  yields : ∀ v w, step.apply v = .ok (some w) → outer (some v) = inner (some w)
  /-- Where the transform yields nothing, nothing comes out. -/
  filters : ∀ v, step.apply v = .ok none → outer (some v) = .ok none
  /-- Where the transform refuses, the failure is about the input. -/
  refuses : ∀ v reason, step.apply v = .error reason →
    outer (some v) = .error ⟨v, .coercion v reason⟩

/-- What is said of a check that stands behind a chain of transforms, of which the first runs
first. -/
structure BehindChain (steps : List Transform) (inner outer : Check) : Prop where
  /-- Undefined input does not go through the transforms. -/
  undefined : outer none = inner none
  /-- A value that is carried to the end is checked there. -/
  passes : ∀ v w, Transform.Carries steps v w → outer (some v) = inner (some w)
  /-- A value that is carried to a transform and no further decides the outcome there, whatever the
  later transforms are: nothing comes out, or a failure about the value that was handed to the
  transform. -/
  stops : ∀ passed step rest v u, steps = passed ++ step :: rest → Transform.Carries passed v u →
    (step.apply u = .ok none → outer (some v) = .ok none) ∧
    ∀ reason, step.apply u = .error reason → outer (some v) = .error ⟨u, .coercion u reason⟩
  /-- There is no other way for a value. -/
  passes_or_stops : ∀ v, (∃ w, Transform.Carries steps v w) ∨
    ∃ passed step rest u, steps = passed ++ step :: rest ∧ Transform.Carries passed v u ∧
      (step.apply u = .ok none ∨ ∃ reason, step.apply u = .error reason)

variable {step : Transform} {steps : List Transform} {inner mid outer outer' : Check}

/-! ### One transform -/

theorem coerced_nil (check : Check) : check.coerced [] = check := by
  funext input
  cases input <;> rfl

/-- The loop over a list of transforms runs the first of them before the loop over the rest. -/
theorem behindStep_coerced_cons (check : Check) (step : Transform) (steps : List Transform) :
    BehindStep step (check.coerced steps) (check.coerced (step :: steps)) where
  undefined := rfl
  yields v w yielded := by
    rw [coerced, Transform.applyAll, yielded]
    rfl
  filters v dropped := by rw [coerced, Transform.applyAll, dropped]
  refuses v reason refused := by rw [coerced, Transform.applyAll, refused]

/-! ### Chains -/

/-- No transforms change nothing. -/
theorem behindChain_nil (check : Check) : BehindChain [] check check where
  undefined := rfl
  passes v w carried := by
    cases carried
    rfl
  stops passed step rest v u split := absurd split (by simp)
  passes_or_stops v := .inl ⟨v, .nil v⟩

/-- A transform in front of a check that is behind a chain makes the chain longer at the front. -/
theorem BehindStep.chain (first : BehindStep step mid outer)
    (others : BehindChain steps inner mid) : BehindChain (step :: steps) inner outer where
  undefined := first.undefined.trans others.undefined
  passes v w carried := by
    cases carried with
    | cons yielded carried =>
      rw [first.yields v _ yielded]
      exact others.passes _ w carried
  stops passed s rest v u split carried := by
    cases carried with
    | nil =>
      -- no transform was passed, so the value has come to the new one
      obtain ⟨rfl, -⟩ := List.cons.inj split
      exact ⟨first.filters v, first.refuses v⟩
    | cons yielded carried =>
      obtain ⟨rfl, later⟩ := List.cons.inj split
      rw [first.yields v _ yielded]
      exact others.stops _ s rest _ u later carried
  passes_or_stops v := by
    rcases applied : step.apply v with reason | - | next
    · exact .inr ⟨[], step, steps, v, rfl, .nil v, .inr ⟨reason, applied⟩⟩
    · exact .inr ⟨[], step, steps, v, rfl, .nil v, .inl applied⟩
    · rcases others.passes_or_stops next with
        ⟨w, carried⟩ | ⟨passed, s, rest, u, rfl, carried, stops⟩
      · exact .inl ⟨w, .cons applied carried⟩
      · exact .inr ⟨step :: passed, s, rest, u, rfl, .cons applied carried, stops⟩

/-- The clauses leave nothing open about the outer check. -/
theorem BehindChain.unique (h : BehindChain steps inner outer)
    (h' : BehindChain steps inner outer') : outer = outer' := by
  funext input
  rcases input with - | v
  · rw [h.undefined, h'.undefined]
  · rcases h.passes_or_stops v with
      ⟨w, carried⟩ | ⟨passed, step, rest, u, split, carried, filters | ⟨reason, refuses⟩⟩
    · rw [h.passes v w carried, h'.passes v w carried]
    · have stops := h.stops passed step rest v u split carried
      have stops' := h'.stops passed step rest v u split carried
      rw [stops.1 filters, stops'.1 filters]
    · have stops := h.stops passed step rest v u split carried
      have stops' := h'.stops passed step rest v u split carried
      rw [stops.2 reason refuses, stops'.2 reason refuses]

end Check

namespace Ty

/-! ### Types -/

/-- A type behind a transform as a layer of its own, whatever the type is. -/
def coerceNested (t : Ty) (step : Transform) : Ty := ofKind (.coerced t [step])

theorem behindStep_coerceNested (t : Ty) (step : Transform) :
    Check.BehindStep step t.run (t.coerceNested step).run := by
  have alone := Check.behindStep_coerced_cons t.run step []
  rwa [Check.coerced_nil, ← run_coerced t [] [step]] at alone

/-- A transform does the same in the list of transforms that a type has as in front of it. -/
theorem behindStep_coerce (t : Ty) (step : Transform) :
    Check.BehindStep step t.run (t.coerce step).run := by
  obtain ⟨k, notes⟩ := t
  rw [coerce]
  split
  · rename_i wrapped steps eq
    cases eq
    show Check.BehindStep step (run ⟨.coerced wrapped steps, notes⟩)
      (run ⟨.coerced wrapped (step :: steps), notes⟩)
    rw [run_coerced, run_coerced]
    exact Check.behindStep_coerced_cons wrapped.run step steps
  · exact behindStep_coerceNested ⟨k, notes⟩ step

/-- Transforms that are put in front of a type one after the other run in the opposite order,
whichever way they are put there. -/
theorem behindChain_foldl {put : Ty → Transform → Ty}
    (behind : ∀ t step, Check.BehindStep step t.run (put t step).run) (t : Ty)
    (steps : List Transform) :
    Check.BehindChain steps.reverse t.run (steps.foldl put t).run := by
  rw [List.foldl_eq_foldr_reverse]
  generalize steps.reverse = chain
  induction chain with
  | nil => exact Check.behindChain_nil t.run
  | cons newest chain ih => exact (behind _ newest).chain ih

/-- **What transforms in front of a type do.** A transform in front of a type, which may have
transforms already, is run on defined input, and the type is run on what it yields. So transforms
that are put in front of a type one after the other run as if each were a layer of its own: the
newest runs first, each is handed what the one before it yields, the first that yields nothing or
refuses ends the run, and a failure is about the value that was handed to the transform that
refuses. -/
theorem coerce_outcome (t : Ty) :
    (∀ step, Check.BehindStep step t.run (t.coerce step).run) ∧
    ∀ steps : List Transform,
      (steps.foldl coerce t).run = (steps.foldl coerceNested t).run ∧
      Check.BehindChain steps.reverse t.run (steps.foldl coerce t).run := by
  have flat := behindChain_foldl behindStep_coerce t
  have nested := behindChain_foldl behindStep_coerceNested t
  exact ⟨t.behindStep_coerce, fun steps ↦ ⟨(flat steps).unique (nested steps), flat steps⟩⟩

/-- The older transform refuses the text that the newer one has made of the truth value. -/
example :
    ([.toInteger, .toText].foldl coerce (nominal .integer)).run (some (.bool true)) =
      .error ⟨.string "true", .coercion (.string "true") "invalid digit found in string"⟩ := rfl

end Ty

end JsonTyping
