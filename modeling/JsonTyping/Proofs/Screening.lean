import JsonTyping.Ast.Basic
import JsonTyping.Proofs.Relaxation

/-!
# Screening

Predicates can do one thing to a run, wherever in a type they are put: a value that came out before
is refused, and what is left is that same value. Failures stay as they were, with all that they
report, and so do missing values. `Check.Screens` is the relation that is carried through the layers
to show this (`Narrows.screens`). It holds of every type, also of one in which laxness or a default
keeps the predicates from enforcing anything.

Two consequences go in different directions. Laxness takes what is left of a refusal, so a lax type
runs as before (`run_constrain_of_isLax`). And what a narrowed type accepts is accepted by the type
itself, with the same value (`Narrows.check_eq_ok`). So when predicates are added in two steps, a
default that gets past the second step would have got past the first one too, and one step for all
predicates does the same (`constrain_append`). For the same reason it does not matter whether a
default is put on a type before the predicates or after them (`constrain_withDefault_comm`).
-/

namespace JsonTyping

namespace Check

/-- Whether a check does what another one does, except that it may refuse a value there. The value
is then what is left. -/
def Screens (narrow wide : Check) : Prop :=
  ∀ input, narrow input = wide input ∨
    ∃ v error, wide input = .ok (some v) ∧ narrow input = .error ⟨v, error⟩

variable {narrow wide : Check}

theorem screens_refl (check : Check) : check.Screens check := fun _ ↦ .inl rfl

/-- What is left is the same, refused or not. -/
theorem Screens.remainder?_eq (h : narrow.Screens wide) (input : Option Value) :
    (narrow input).remainder? = (wide input).remainder? := by
  rcases h input with same | ⟨v, error, came, refused⟩
  · rw [same]
  · rw [came, refused]
    rfl

/-- What gets through came out of the other check. -/
theorem Screens.extends (h : narrow.Screens wide) : wide.Extends narrow := by
  intro input output passed
  rcases h input with same | ⟨v, error, -, refused⟩
  · rw [← same, passed]
  · cases refused.symm.trans passed

/-! ### Layers -/

/-- A rule refuses values and leaves them as they are. -/
theorem screens_constrained (check : Check) (rule : Rule) :
    (check.constrained rule).Screens check := by
  intro input
  rcases came : check input with failure | - | v
  · exact .inl (constrained_of_error came)
  · exact .inl (constrained_of_ok_none came)
  · rw [constrained_of_ok_some came]
    rcases broken : rule.find? (fun p ↦ !p.test v) with - | p
    · exact .inl (Rule.enforce_of_find?_eq_none broken)
    · exact .inr ⟨v, _, rfl, Rule.enforce_of_find?_eq_some broken⟩

theorem Screens.coerced (h : narrow.Screens wide) (steps : List Transform) :
    (narrow.coerced steps).Screens (wide.coerced steps) := by
  intro input
  cases input with
  | none => exact h none
  | some v =>
    rcases applied : Transform.applyAll steps v with failure | - | w
    · exact .inl (by simp only [Check.coerced, applied])
    · exact .inl (by simp only [Check.coerced, applied])
    · simp only [Check.coerced, applied]
      exact h (some w)

/-- A default stands for missing values only, and these are the same on both sides. -/
theorem Screens.defaulted (h : narrow.Screens wide) (value : Value) :
    (narrow.defaulted value).Screens (wide.defaulted value) := by
  intro input
  cases input with
  | none => exact .inl rfl
  | some v =>
    rcases h (some v) with same | ⟨w, error, came, refused⟩
    · exact .inl (by simp only [Check.defaulted, same])
    · refine .inr ⟨w, error, ?_, ?_⟩
      · simp only [Check.defaulted, came]
      · simp only [Check.defaulted, refused]

/-- Laxness makes no difference between a value and a refusal that leaves it. -/
theorem Screens.lax_eq (h : narrow.Screens wide) : narrow.lax = wide.lax :=
  funext fun input ↦ congrArg Except.ok (h.remainder?_eq input)

theorem Screens.enum (h : narrow.Screens wide) (mapping : EnumMapping) :
    (narrow.enum mapping).Screens (wide.enum mapping) := fun input ↦ h (input.map mapping.toLabel)

/-- The value that is left of a sum is that of the right branch. -/
theorem Screens.sum (left : Check) (h : narrow.Screens wide) :
    (left.sum narrow).Screens (left.sum wide) := by
  intro input
  rcases first : left input with failure | output
  · rcases h input with same | ⟨v, error, came, refused⟩
    · exact .inl (by simp only [Check.sum, first, same])
    · refine .inr ⟨v, .sum failure.error error, ?_, ?_⟩
      · simp only [Check.sum, first, came]
      · simp only [Check.sum, first, refused]
  · exact .inl (by simp only [Check.sum, first])

end Check

namespace Ty

variable {s t u : Ty} {ps qs : List Predicate}

/-! ### Runs of narrowed types -/

/-- A narrowed type screens what the type yields, whatever the type is. -/
theorem Narrows.screens (h : Narrows ps t u) : u.run.Screens t.run := by
  induction h with
  | constrained wrapped rule notes =>
    rw [run_constrained, run_constrained, Check.constrained_append]
    exact Check.screens_constrained _ ps
  | coerced steps notes _ ih =>
    rw [run_coerced, run_coerced]
    exact ih.coerced steps
  | @defaulted _ _ value _ notes _ _ _ ih =>
    rw [run_defaulted, run_defaulted]
    exact ih.defaulted value
  | lax notes _ ih =>
    rw [run_lax, run_lax, ih.lax_eq]
    exact Check.screens_refl _
  | enum mapping notes _ ih =>
    rw [run_enum, run_enum]
    exact ih.enum mapping
  | optional notes isNil _ ih =>
    obtain ⟨notes', rfl⟩ := exists_eq_of_isNil isNil
    rw [nominal, ofKind, run_sum, run_sum, run_nominal, run_nominal]
    exact ih.sum (.nominal .nil)
  | @core t =>
    rw [ofKind, run_constrained]
    exact Check.screens_constrained t.run ps

/-- **Predicates on a lax type change nothing.** They go inside of the laxness, and whatever they
refuse there comes out as what is left. -/
theorem run_constrain_of_isLax (lax : t.isLax = true) (built : constrain ps t = .ok u)
    (input : Option Value) : u.run input = t.run input := by
  cases Narrows.of_constrain built with
  | lax notes narrows => rw [run_lax, run_lax, narrows.screens.lax_eq]
  | constrained | coerced | defaulted | enum | optional => cases lax
  | core plain => cases (no_decoration_of_plain plain).2.1.symm.trans lax

/-- The least length is put inside of laxness, default and transform. A nickname that is too short
for it comes out all the same. -/
theorem run_constrain_of_isLax_nickname :
    nickname.toLax.isLax = true ∧
    constrain [.filled, .minSize 2] nickname.toLax = .ok (ofKind (.lax longNickname)) ∧
    longNickname.accepts (.string "x") = false ∧
    nickname.toLax.run (some (.string "x")) = .ok (some (.string "x")) ∧
    run (ofKind (.lax longNickname)) (some (.string "x")) = .ok (some (.string "x")) := by
  have lax : nickname.toLax.isLax = true := rfl
  have built :
      constrain [.filled, .minSize 2] nickname.toLax = .ok (ofKind (.lax longNickname)) := rfl
  have came : nickname.toLax.run (some (.string "x")) = .ok (some (.string "x")) := rfl
  exact ⟨lax, built, rfl, came, (run_constrain_of_isLax lax built _).trans came⟩

/-! ### Narrowing in two steps -/

/-- A narrowed type accepts less, and makes the same of what it accepts. -/
theorem Narrows.check_eq_ok (h : Narrows ps t u) {v output : Value}
    (accepted : u.check v = .ok output) : t.check v = .ok output :=
  check_eq_ok_iff.2 (h.screens.extends _ _ (check_eq_ok_iff.1 accepted))

theorem Narrows.isEnum_eq (h : Narrows ps t u) : u.isEnum = t.isEnum := by
  cases h with
  | constrained | coerced | defaulted | lax | enum | optional => rfl
  | core plain => exact (no_decoration_of_plain plain).2.2.symm

/-- Predicates that are put on a type at once can be put on it in two steps. -/
theorem Narrows.split (h : Narrows (ps ++ qs) t u) : ∃ s, Narrows ps t s ∧ Narrows qs s u := by
  induction h with
  | constrained wrapped rule notes =>
    refine ⟨_, .constrained wrapped rule notes, ?_⟩
    rw [← List.append_assoc]
    exact .constrained wrapped (rule ++ ps) notes
  | coerced steps notes _ ih =>
    obtain ⟨s, first, second⟩ := ih
    exact ⟨_, first.coerced steps notes, second.coerced steps notes⟩
  | defaulted notes _ noEnum checked ih =>
    obtain ⟨s, first, second⟩ := ih
    -- after the first step the default is accepted because it is after both
    have accepted := second.check_eq_ok checked
    exact ⟨_, first.defaulted notes (second.isEnum_eq ▸ noEnum) accepted,
      second.defaulted notes noEnum checked⟩
  | lax notes _ ih =>
    obtain ⟨s, first, second⟩ := ih
    exact ⟨_, first.lax notes, second.lax notes⟩
  | enum mapping notes _ ih =>
    obtain ⟨s, first, second⟩ := ih
    exact ⟨_, first.enum mapping notes, second.enum mapping notes⟩
  | optional notes isNil _ ih =>
    obtain ⟨s, first, second⟩ := ih
    exact ⟨_, .optional notes isNil first, .optional notes rfl second⟩
  | @core t plain notOptional =>
    exact ⟨_, .core plain notOptional, .constrained t ps []⟩

/-- Predicates that are put on a type in two steps can be put on it at once. -/
theorem Narrows.append (h : Narrows ps t s) (h' : Narrows qs s u) : Narrows (ps ++ qs) t u := by
  -- the second step finds the layer that the first one left, and its place for predicates
  induction h generalizing u with
  | constrained wrapped rule notes =>
    cases h' with
    | constrained =>
      rw [List.append_assoc]
      exact .constrained wrapped rule notes
    | core plain => cases plain
  | coerced steps notes _ ih =>
    cases h' with
    | coerced _ _ second => exact (ih second).coerced steps notes
    | core plain => cases plain
  | defaulted notes _ _ _ ih =>
    cases h' with
    | defaulted _ second noEnum checked => exact (ih second).defaulted notes noEnum checked
    | core plain => cases plain
  | lax notes _ ih =>
    cases h' with
    | lax _ second => exact (ih second).lax notes
    | core plain => cases plain
  | enum mapping notes _ ih =>
    cases h' with
    | enum _ _ second => exact (ih second).enum mapping notes
    | core plain => cases plain
  | optional notes isNil _ ih =>
    cases h' with
    | optional _ _ second => exact .optional notes isNil (ih second)
    | core _ notOptional => cases notOptional
  | core plain notOptional =>
    cases h' with
    | constrained => exact .core plain notOptional
    | core plain' => cases plain'

/-- **Predicates add up.** Adding predicates in two steps succeeds exactly if adding all of them in
one step does, and the two results are one type, with one composition tree. -/
theorem constrain_append (ps qs : List Predicate) (t : Ty) :
    ((∃ s u, constrain ps t = .ok s ∧ constrain qs s = .ok u) ↔
      ∃ u, constrain (ps ++ qs) t = .ok u) ∧
    ∀ s u u', constrain ps t = .ok s → constrain qs s = .ok u → constrain (ps ++ qs) t = .ok u' →
      u = u' ∧ u.toAst = u'.toAst := by
  simp only [constrain_eq_ok_iff]
  refine ⟨⟨fun ⟨s, u, first, second⟩ ↦ ⟨u, first.append second⟩, fun ⟨u, both⟩ ↦ ?_⟩,
    fun s u u' first second both ↦ ?_⟩
  · obtain ⟨s, first, second⟩ := both.split
    exact ⟨s, u, first, second⟩
  · have joined : Narrows (ps ++ qs) t u := first.append second
    have same : u = u' := Except.ok.inj (joined.constrain_eq.symm.trans both.constrain_eq)
    exact ⟨same, congrArg toAst same⟩

/-- The nickname with the two parts of its rule one after the other. -/
example : (constrain [.filled] nickname >>= constrain [.minSize 2]) = .ok longNickname := rfl

/-! ### Narrowing and defaults -/

/-- Narrowing a type with a default narrows the type and puts the default on it. -/
theorem narrows_defaulted_iff {value : Value} :
    Narrows ps (ofKind (.defaulted t value)) u ↔
      ∃ s, Narrows ps t s ∧ s.withDefault value = .ok u := by
  constructor
  · intro h
    cases h with
    | defaulted _ narrows noEnum checked =>
      exact ⟨_, narrows, withDefault_eq_ok_iff.2 ⟨noEnum, ⟨_, checked⟩, rfl⟩⟩
    | core plain => cases plain
  · rintro ⟨s, narrows, defaulted⟩
    obtain ⟨noEnum, ⟨output, checked⟩, rfl⟩ := withDefault_eq_ok_iff.1 defaulted
    exact .defaulted [] narrows noEnum checked

/-- A default that may be put on a narrowed type may be put on the type. -/
theorem Narrows.withDefault_eq_ok (h : Narrows ps t s) {value : Value}
    (defaulted : s.withDefault value = .ok u) :
    t.withDefault value = .ok (ofKind (.defaulted t value)) := by
  obtain ⟨noEnum, ⟨output, checked⟩, -⟩ := withDefault_eq_ok_iff.1 defaulted
  exact withDefault_eq_ok_iff.2 ⟨h.isEnum_eq ▸ noEnum, ⟨output, h.check_eq_ok checked⟩, rfl⟩

/-- **A default and predicates can be put on a type in either order.** The one order succeeds
exactly if the other does, and they make one type, with one composition tree. -/
theorem constrain_withDefault_comm (ps : List Predicate) (value : Value) (t : Ty) :
    ((∃ d u, t.withDefault value = .ok d ∧ constrain ps d = .ok u) ↔
      ∃ s u, constrain ps t = .ok s ∧ s.withDefault value = .ok u) ∧
    ∀ d u s u', t.withDefault value = .ok d → constrain ps d = .ok u → constrain ps t = .ok s →
      s.withDefault value = .ok u' → u = u' ∧ u.toAst = u'.toAst := by
  have exchanged : ∀ {d u}, t.withDefault value = .ok d → constrain ps d = .ok u →
      ∃ s, constrain ps t = .ok s ∧ s.withDefault value = .ok u := by
    intro d u defaulted built
    obtain ⟨-, -, rfl⟩ := withDefault_eq_ok_iff.1 defaulted
    obtain ⟨s, narrows, last⟩ := narrows_defaulted_iff.1 (.of_constrain built)
    exact ⟨s, narrows.constrain_eq, last⟩
  refine ⟨⟨fun ⟨d, u, first, last⟩ ↦ ?_, fun ⟨s, u, first, last⟩ ↦ ?_⟩,
    fun d u s u' first last first' last' ↦ ?_⟩
  · obtain ⟨s, narrowed, defaulted⟩ := exchanged first last
    exact ⟨s, u, narrowed, defaulted⟩
  · have narrows : Narrows ps t s := .of_constrain first
    have both : Narrows ps (ofKind (.defaulted t value)) u :=
      narrows_defaulted_iff.2 ⟨s, narrows, last⟩
    exact ⟨_, u, narrows.withDefault_eq_ok last, both.constrain_eq⟩
  · obtain ⟨s', narrowed, defaulted⟩ := exchanged first last
    cases first'.symm.trans narrowed
    have same : u = u' := Except.ok.inj (defaulted.symm.trans last')
    exact ⟨same, congrArg toAst same⟩

/-- The nickname can be made in both orders. A default that is too short for the rule can be put on
the text, but then the predicates are refused, as the default is when the predicates come first. -/
theorem constrain_withDefault_comm_nickname :
    word.withDefault (.string "anon") = .ok nickname ∧
    constrain [.filled, .minSize 2] nickname = .ok longNickname ∧
    (∃ s u, constrain [.filled, .minSize 2] word = .ok s ∧ s.withDefault (.string "anon") = .ok u) ∧
    (word.withDefault (.string "x")).toOption.isSome = true ∧
    ¬∃ d u, word.withDefault (.string "x") = .ok d ∧ constrain [.filled, .minSize 2] d = .ok u := by
  have defaulted : word.withDefault (.string "anon") = .ok nickname := rfl
  have narrowed : constrain [.filled, .minSize 2] nickname = .ok longNickname := rfl
  obtain ⟨long, -⟩ := constrain_withDefault_comm [.filled, .minSize 2] (.string "anon") word
  obtain ⟨short, -⟩ := constrain_withDefault_comm [.filled, .minSize 2] (.string "x") word
  refine ⟨defaulted, narrowed, long.1 ⟨_, _, defaulted, narrowed⟩, rfl, fun made ↦ ?_⟩
  obtain ⟨s, u, first, last⟩ := short.1 made
  have only : constrain [.filled, .minSize 2] word = .ok longWord := rfl
  cases only.symm.trans first
  obtain ⟨-, ⟨output, checked⟩, -⟩ := withDefault_eq_ok_iff.1 last
  cases checked

end Ty

end JsonTyping
