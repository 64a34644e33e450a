import JsonTyping.Proofs.Built

/-!
# Defaults in built types

A default is checked when it is put on a type, and again whenever the type under it is narrowed. A
change of the policy for unknown keys goes past defaults without a check, so it is the one operation
that can leave a default behind which its type refuses.

`defaultsHold_iff_keepsDefaults` says exactly how far the invariant reaches: under any discipline in
building, all defaults outside of lax layers are accepted by the types under them if and only if
every change of policy keeps the defaults on the spine of its type. Without any discipline, a
default is still accepted under some policy.

The step is `everyDefault_of_build`; it is stated for any property of defaults that a successful
check gives.
-/

namespace JsonTyping.Ty

/-! ### Properties of all defaults -/

/-- Whether a property holds of every default outside of lax layers and the type under it. -/
def EveryDefault (P : Ty → Value → Prop) (t : Ty) : Prop :=
  ∀ s : Ty, s.ExposedIn t → ∀ wrapped value, s.kind = .defaulted wrapped value → P wrapped value

/-- Whether every default outside of lax layers is accepted by the type under it. -/
def DefaultsHold (t : Ty) : Prop :=
  t.EveryDefault fun wrapped value ↦ ∃ output, wrapped.check value = .ok output

/-- Whether the defaults on the spine of a type are accepted after a change of policy. -/
def KeepsDefaults (unknownKeys : UnknownKeys) (t : Ty) : Prop :=
  ∀ s ∈ t.spine, ∀ wrapped value, s.kind = .defaulted wrapped value →
    ∃ output, (wrapped.withUnknownKeys unknownKeys).check value = .ok output

variable {P : Ty → Value → Prop} {t : Ty}

/-- The property is about the outermost layer and about its parts. -/
theorem everyDefault_iff :
    t.EveryDefault P ↔
      (∀ wrapped value, t.kind = .defaulted wrapped value → P wrapped value) ∧
        (t.isLax = false → ∀ p ∈ t.kind.parts, p.EveryDefault P) := by
  constructor
  · intro h
    exact ⟨h t .self, fun strict p part s exposed ↦ h s (.part strict part exposed)⟩
  · rintro ⟨outermost, inner⟩ s exposed
    cases exposed with
    | self => exact outermost
    | part strict part exposed => exact inner strict _ part s exposed

theorem everyDefault_of_isLax (lax : t.isLax = true) : t.EveryDefault P := by
  refine everyDefault_iff.2 ⟨fun wrapped value eq ↦ ?_, fun strict ↦ ?_⟩
  · rw [isLax, eq] at lax
    cases lax
  · rw [lax] at strict
    cases strict

/-- A layer that is no default needs the property of its parts only. -/
theorem everyDefault_of_parts (noDefault : t.isDefaulted = false)
    (parts : ∀ p ∈ t.kind.parts, p.EveryDefault P) : t.EveryDefault P := by
  refine everyDefault_iff.2 ⟨fun wrapped value eq ↦ ?_, fun _ ↦ parts⟩
  rw [isDefaulted, eq] at noDefault
  cases noDefault

theorem EveryDefault.part {p : Ty} (h : t.EveryDefault P) (strict : t.isLax = false)
    (part : p ∈ t.kind.parts) : p.EveryDefault P :=
  (everyDefault_iff.1 h).2 strict p part

theorem EveryDefault.wrapped {wrapped : Ty} (h : t.EveryDefault P) (strict : t.isLax = false)
    (decorates : t.kind.wrapped? = some wrapped) : wrapped.EveryDefault P := by
  refine h.part strict ?_
  rw [Kind.parts_of_wrapped? decorates]
  exact List.mem_singleton_self wrapped

/-- A decoration may be put in front of a type if the property holds of it, should it be a
default. -/
theorem EveryDefault.decorate {wrapped : Ty} (h : wrapped.EveryDefault P)
    (decorates : t.kind.wrapped? = some wrapped)
    (own : ∀ inner value, t.kind = .defaulted inner value → P inner value) : t.EveryDefault P := by
  refine everyDefault_iff.2 ⟨own, fun _ p part ↦ ?_⟩
  rw [Kind.parts_of_wrapped? decorates, List.mem_singleton] at part
  exact part ▸ h

theorem everyDefault_nominal (p : Primitive) : (nominal p).EveryDefault P :=
  everyDefault_of_parts rfl fun _ part ↦ by cases part

/-! ### One application of a builder -/

/-- Narrowing checks every default that it goes past. -/
theorem Narrows.everyDefault {ps : List Predicate} {u : Ty} (narrows : Narrows ps t u)
    (checked : ∀ wrapped value output, wrapped.check value = .ok output → P wrapped value)
    (h : t.EveryDefault P) : u.EveryDefault P := by
  induction narrows with
  | constrained wrapped rule notes => exact (h.wrapped rfl rfl).decorate rfl (by rintro _ _ ⟨⟩)
  | coerced _ _ _ ih | enum _ _ _ ih =>
    exact (ih (h.wrapped rfl rfl)).decorate rfl (by rintro _ _ ⟨⟩)
  | defaulted _ _ _ accepted ih =>
    refine (ih (h.wrapped rfl rfl)).decorate rfl ?_
    rintro _ _ ⟨⟩
    exact checked _ _ _ accepted
  | lax => exact everyDefault_of_isLax rfl
  | optional _ _ _ ih =>
    refine everyDefault_of_parts rfl fun p part ↦ ?_
    rcases List.mem_cons.1 part with rfl | part
    · exact everyDefault_nominal .nil
    · rw [List.mem_singleton.1 part]
      exact ih (h.part rfl (List.mem_cons_of_mem _ List.mem_cons_self))
  | core => exact h.decorate rfl (by rintro _ _ ⟨⟩)

/-- A change of policy touches the defaults on the spine and no others. -/
theorem EveryDefault.withUnknownKeys (h : t.EveryDefault P) {unknownKeys : UnknownKeys}
    (spine : ∀ s ∈ t.spine, ∀ wrapped value, s.kind = .defaulted wrapped value →
      P (wrapped.withUnknownKeys unknownKeys) value) :
    (t.withUnknownKeys unknownKeys).EveryDefault P := by
  induction t using Ty.induction with
  | nominal | sum | array | dictionary => exact h
  | schema => exact everyDefault_of_parts rfl fun p part ↦ h.part rfl part
  | lax => exact everyDefault_of_isLax rfl
  | constrained wrapped _ _ ih | coerced wrapped _ _ ih | enum wrapped _ _ ih =>
    have inner := ih (h.wrapped rfl rfl) fun s mem ↦ spine s (List.mem_cons_of_mem _ mem)
    exact inner.decorate rfl (by rintro _ _ ⟨⟩)
  | defaulted wrapped value _ ih =>
    have inner := ih (h.wrapped rfl rfl) fun s mem ↦ spine s (List.mem_cons_of_mem _ mem)
    refine inner.decorate rfl ?_
    rintro _ _ ⟨⟩
    exact spine _ List.mem_cons_self _ _ rfl

/-- One application of a builder keeps a property of all defaults that a successful check gives, as
long as a change of policy keeps it on the spine. -/
theorem everyDefault_of_build {b : Builder} {types : List Ty} (built : b.build types = some t)
    (checked : ∀ wrapped value output, wrapped.check value = .ok output → P wrapped value)
    (given : ∀ s ∈ types, s.EveryDefault P)
    (keeps : ∀ s unknownKeys, types = [s] → b.policy? = some unknownKeys →
      ∀ r ∈ s.spine, ∀ wrapped value, r.kind = .defaulted wrapped value →
        P (wrapped.withUnknownKeys unknownKeys) value) :
    t.EveryDefault P := by
  cases Builder.makes_of_build built with
  | plain plain parts =>
    refine everyDefault_iff.2 ⟨fun wrapped value eq ↦ ?_, fun _ p part ↦ ?_⟩
    · rw [eq] at plain
      cases plain
    · rcases parts p part with mem | rfl
      · exact given p mem
      · exact everyDefault_nominal .nil
  | @merged s other _ _ _ _ _ first second eq eq' declared kind =>
    refine everyDefault_of_parts (by rw [isDefaulted, kind]) fun p part ↦ ?_
    rw [kind] at part
    obtain ⟨field, mem, rfl⟩ := List.mem_map.1 part
    rcases declared field mem with mem | mem
    · refine (given s first).part (by rw [isLax, eq]) ?_
      rw [eq]
      exact List.mem_map_of_mem mem
    · refine (given other second).part (by rw [isLax, eq']) ?_
      rw [eq']
      exact List.mem_map_of_mem mem
  | narrowed one _ narrows shape =>
    subst one
    have inner := narrows.everyDefault checked (given _ List.mem_cons_self)
    rcases shape with rfl | ⟨mapping, rfl⟩
    · exact inner
    · exact inner.decorate rfl (by rintro _ _ ⟨⟩)
  | @coerced s wrapped steps one eq shape =>
    subst one
    have outer := given s List.mem_cons_self
    have inner : wrapped.EveryDefault P := by
      rcases shape with rfl | ⟨rest, eq'⟩
      · exact outer
      · exact outer.wrapped (by rw [isLax, eq']) (by rw [eq']; rfl)
    refine inner.decorate (by rw [eq]; rfl) fun _ _ eq' ↦ ?_
    cases eq.symm.trans eq'
  | defaulted one accepted eq =>
    subst one
    refine (given _ List.mem_cons_self).decorate (by rw [eq]; rfl) fun _ _ eq' ↦ ?_
    cases eq.symm.trans eq'
    exact checked _ _ _ accepted
  | lax lax => exact everyDefault_of_isLax lax
  | policy one changes eq =>
    subst one eq
    exact (given _ List.mem_cons_self).withUnknownKeys (keeps _ _ rfl changes)
  | annotated one eq =>
    subst one
    have same := everyDefault_iff.1 (given _ List.mem_cons_self)
    rw [isLax, ← eq] at same
    exact everyDefault_iff.2 same

/-! ### Any sequence of applications -/

variable {allowed : Builder → List Ty → Prop}

/-- If all changes of policy keep the defaults of the types that they are made on, all defaults of
built types are accepted. -/
theorem Built.defaultsHold (built : t.Built allowed)
    (keeps : ∀ b s unknownKeys, Built allowed s → b.policy? = some unknownKeys → allowed b [s] →
      s.KeepsDefaults unknownKeys) : t.DefaultsHold := by
  induction built with
  | intro b types given ok built ih =>
    refine everyDefault_of_build built (fun _ _ output h ↦ ⟨output, h⟩) ih ?_
    rintro s unknownKeys rfl changes
    exact keeps b s unknownKeys (given s List.mem_cons_self) changes ok

/-- A change of policy that leaves all defaults accepted has kept those on the spine. -/
theorem DefaultsHold.keepsDefaults {unknownKeys : UnknownKeys}
    (h : (t.withUnknownKeys unknownKeys).DefaultsHold) : t.KeepsDefaults unknownKeys := by
  rintro ⟨k, notes⟩ mem wrapped value ⟨⟩
  refine h (withUnknownKeys ⟨.defaulted wrapped value, notes⟩ unknownKeys) ?_ _ _ rfl
  refine exposedIn_of_mem_spine ?_
  rw [spine_withUnknownKeys]
  exact List.mem_map_of_mem mem

/-- Whatever is done to a built type, each of its defaults is accepted under some policy. -/
theorem Built.everyDefault_under_policy (built : t.Built allowed) :
    t.EveryDefault fun wrapped value ↦
      ∃ unknownKeys output, (wrapped.withUnknownKeys unknownKeys).check value = .ok output := by
  induction built with
  | intro b types given ok built ih =>
    refine everyDefault_of_build built (fun wrapped value output h ↦ ?_) ih ?_
    · obtain ⟨unknownKeys, eq⟩ := exists_withUnknownKeys_eq_self wrapped
      exact ⟨unknownKeys, output, by rw [eq, h]⟩
    · rintro s unknownKeys rfl - r mem wrapped value eq
      obtain ⟨old, output, h⟩ :=
        ih s List.mem_cons_self r (exposedIn_of_mem_spine mem) wrapped value eq
      exact ⟨old, output, by rw [withUnknownKeys_withUnknownKeys, h]⟩

/-- **How far defaults are safe.** Under a discipline in building, every default outside of lax
layers is accepted by the type under it exactly if every change of policy for unknown keys is made
on a type whose spine has defaults that are accepted after the change. Under no discipline at all, a
default is still accepted under some policy. -/
theorem defaultsHold_iff_keepsDefaults (allowed : Builder → List Ty → Prop) :
    ((∀ t, Built allowed t → t.DefaultsHold) ↔
      ∀ b t unknownKeys, Built allowed t → b.policy? = some unknownKeys → allowed b [t] →
        t.KeepsDefaults unknownKeys) ∧
    ∀ t, Built allowed t → t.EveryDefault fun wrapped value ↦
      ∃ unknownKeys output, (wrapped.withUnknownKeys unknownKeys).check value = .ok output := by
  refine ⟨⟨fun holds b t unknownKeys built changes ok ↦ ?_, fun keeps t built ↦ ?_⟩,
    fun t built ↦ built.everyDefault_under_policy⟩
  · have one : ∀ s ∈ [t], Built allowed s := by
      intro s mem
      rw [List.mem_singleton.1 mem]
      exact built
    exact (holds _ (.intro b [t] one ok (Builder.build_of_policy? changes t))).keepsDefaults
  · exact built.defaultsHold keeps

/-- The settings without declared keys, with a default that sets one, made strict afterwards. -/
def strictSettings : Ty :=
  (ofKind (.defaulted (schema []) (.object [("x", .bool true)]))).strict

/-- The default of the strict settings is refused by the settings. -/
theorem strictSettings_refuses_default :
    Built (fun _ _ ↦ True) strictSettings ∧
    strictSettings.kind =
      .defaulted (ofKind (.schema [] .reject)) (.object [("x", .bool true)]) ∧
    (ofKind (.schema [] .reject)).check (.object [("x", .bool true)]) =
      .error ⟨.object [], .aggregate [(.key "x", .unknownKey "x")]⟩ ∧
    ¬ strictSettings.DefaultsHold := by
  have settings : Built (fun _ _ ↦ True) (schema []) :=
    .intro (.schema []) [] (fun _ mem ↦ by cases mem) trivial rfl
  have defaulted : Built (fun _ _ ↦ True)
      (ofKind (.defaulted (schema []) (.object [("x", .bool true)]))) := by
    refine .intro (.withDefault (.object [("x", .bool true)])) [schema []] ?_ trivial rfl
    intro s mem
    rw [List.mem_singleton.1 mem]
    exact settings
  refine ⟨.intro .strict [_] (fun s mem ↦ ?_) trivial rfl, rfl, rfl, fun holds ↦ ?_⟩
  · rw [List.mem_singleton.1 mem]
    exact defaulted
  · obtain ⟨output, accepted⟩ := holds strictSettings .self _ _ rfl
    cases accepted

/-! ### A default over a rule -/

/-- **What a default can get past a rule.** A default is checked by running the type on it, and is
then put in as it was given. So the predicates hold of what the type makes of the default; and they
hold of everything that comes out, except that the default itself may come out, for undefined input
or for input that the type filters, when the type does not leave it unchanged. -/
theorem withDefault_outcome {base d : Ty} {ps : List Predicate} {value : Value}
    (bare : base.Bare) (narrowed : constrain ps base = .ok t)
    (built : t.withDefault value = .ok d) :
    (∃ output, t.check value = .ok output ∧ ∀ p ∈ ps, p.test output = true) ∧
    ∀ input v, d.run input = .ok (some v) →
      (∀ p ∈ ps, p.test v = true) ∨
        v = value ∧ (input = none ∨ t.run input = .ok none) ∧ t.check value ≠ .ok value := by
  have eq := (Narrows.of_constrain narrowed).run_eq bare.unsheltered bare.fixesDefaults
  have keeps : ∀ {input v}, t.run input = .ok (some v) → ∀ p ∈ ps, p.test v = true := by
    intro input v came
    rw [eq] at came
    exact (Check.constrained_eq_ok_some_iff.1 came).2
  obtain ⟨-, ⟨output, checked⟩, rfl⟩ := withDefault_eq_ok_iff.1 built
  refine ⟨⟨output, checked, keeps (check_eq_ok_iff.1 checked)⟩, fun input v came ↦ ?_⟩
  -- wherever the default is put in, it is right or the type changes it
  have fixed : (∀ p ∈ ps, p.test value = true) ∨ t.check value ≠ .ok value := by
    by_cases fixed : t.check value = .ok value
    · exact .inl (keeps (check_eq_ok_iff.1 fixed))
    · exact .inr fixed
  rw [ofKind, run_defaulted] at came
  cases input with
  | none =>
    cases came
    exact fixed.imp_right fun changed ↦ ⟨rfl, .inl rfl, changed⟩
  | some w =>
    rcases h : t.run (some w) with failure | - | u
    · simp [Check.defaulted, h] at came
    · simp only [Check.defaulted, h] at came
      cases came
      exact fixed.imp_right fun changed ↦ ⟨rfl, .inr rfl, changed⟩
    · simp only [Check.defaulted, h] at came
      cases came
      exact .inl (keeps h)

/-- The nickname with a least length again: the default comes through, and so it keeps the rule even
where the empty text is filtered. -/
theorem withDefault_outcome_nickname :
    word.Bare ∧ constrain [.filled, .minSize 2] word = .ok longWord ∧
    longWord.withDefault (.string "anon") = .ok longNickname ∧
    longNickname.run (some (.string "")) = .ok (some (.string "anon")) ∧
    ∀ p ∈ [Predicate.filled, .minSize 2], p.test (.string "anon") = true := by
  have bare : word.Bare := by decide
  have narrowed : constrain [.filled, .minSize 2] word = .ok longWord := rfl
  have built : longWord.withDefault (.string "anon") = .ok longNickname := rfl
  have came : longNickname.run (some (.string "")) = .ok (some (.string "anon")) := rfl
  refine ⟨bare, narrowed, built, came, ?_⟩
  obtain ⟨-, outputs⟩ := withDefault_outcome bare narrowed built
  rcases outputs _ _ came with holds | ⟨-, -, changed⟩
  · exact holds
  · exact absurd rfl changed

/-- The integers above two, with the numeral of five as a default: the type converts the numeral
and so accepts it, and then the numeral itself comes out, which is above nothing. -/
theorem numeral_default_bypasses_rule :
    ((nominal .integer).coerce .toInteger).Bare ∧
    ∃ t d, constrain [.above (.integer (.ofUInt64 2))] ((nominal .integer).coerce .toInteger) =
        .ok t ∧
      t.withDefault (.string "5") = .ok d ∧
      d.run none = .ok (some (.string "5")) ∧
      (Predicate.above (.integer (.ofUInt64 2))).test (.string "5") = false :=
  ⟨by decide, _, _, rfl, rfl, rfl, rfl⟩

end JsonTyping.Ty
