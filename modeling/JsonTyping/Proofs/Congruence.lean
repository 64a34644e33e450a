import JsonTyping.Proofs.Equivalence

/-!
# Predicates and equality

Equal values need not be identical: the entries of objects may stand in another order, and zero may
have another sign. No predicate of the library can tell them apart (`Predicate.test_congr`), because
everything that a predicate looks at is the same for equal values: the kind, the size, the text, the
place on the number line, and what a value includes.

Predicates in turn are equal by name and arguments, and the arguments need not be identical either.
Equal predicates of the library hold of the same values (`Predicate.test_eq_of_beq`), if patterns
with the same text occur in the same texts. For predicates from outside both facts are matters of
trust.
-/

namespace JsonTyping

theorem forall₂_of_beq {α : Type} [BEq α] {xs ys : List α} (h : (xs == ys) = true) :
    List.Forall₂ (fun x y ↦ (x == y) = true) xs ys := by
  induction xs generalizing ys with
  | nil =>
    cases ys with
    | nil => exact .nil
    | cons y ys => cases h
  | cons x xs ih =>
    cases ys with
    | nil => cases h
    | cons y ys =>
      obtain ⟨first, rest⟩ := Bool.and_eq_true_iff.1 h
      exact .cons first (ih rest)

theorem beq_of_forall₂ {α : Type} [BEq α] {xs ys : List α}
    (h : List.Forall₂ (fun x y ↦ (x == y) = true) xs ys) : (xs == ys) = true := by
  induction h with
  | nil => rfl
  | cons first _ ih => exact Bool.and_eq_true_iff.2 ⟨first, ih⟩

theorem map_beq_map_iff {α β γ : Type} [BEq γ] {f : α → γ} {g : β → γ} {xs : List α}
    {ys : List β} : (xs.map f == ys.map g) = true ↔
      List.Forall₂ (fun x y ↦ (f x == g y) = true) xs ys := by
  have elements : List.Forall₂ (fun z w ↦ (z == w) = true) (xs.map f) (ys.map g) ↔
      List.Forall₂ (fun x y ↦ (f x == g y) = true) xs ys := by
    rw [List.forall₂_map_left_iff, List.forall₂_map_right_iff]
  exact ⟨fun h ↦ elements.1 (forall₂_of_beq h), fun h ↦ beq_of_forall₂ (elements.2 h)⟩

/-! ### Numbers -/

namespace Number

variable {a b m n : Number}

theorem signed?_congr (h : (m == n) = true) : m.signed? = n.signed? := by
  have places := beq_iff_place_eq.1 h
  cases m with
  | integer m =>
    cases n with
    | integer n => rw [signed?, signed?, Integer.signed?, Integer.signed?, Sum.inl.inj places]
    | double n => cases places
  | double m =>
    cases n with
    | integer n => cases places
    | double n => rfl

/-- Equal integers are identical. -/
theorem eq_of_integer_beq {n : Integer} (h : (integer n == m) = true) : integer n = m := by
  have places := beq_iff_place_eq.1 h
  cases m with
  | integer m =>
    obtain ⟨val, lower, upper⟩ := n
    cases Sum.inl.inj places
    rfl
  | double d => cases places

theorem position_toDouble_congr (h : (m == n) = true) :
    m.toDouble.position = n.toDouble.position := by
  cases m with
  | integer m => rw [eq_of_integer_beq h]
  | double d =>
    have places := beq_iff_place_eq.1 h
    cases n with
    | integer n => cases places
    | double e => exact Sum.inr.inj places

theorem order_congr (h : (a == b) = true) (h' : (m == n) = true) : a.order m = b.order n := by
  rw [order, order, signed?_congr h, signed?_congr h', Double.order, Double.order,
    position_toDouble_congr h, position_toDouble_congr h']

end Number

/-! ### Values -/

namespace Value

variable {v w part part' : Value} {xs ys : List Value}

theorem accepts_congr (p : Primitive) (h : (v == w) = true) : p.accepts v = p.accepts w := by
  cases same_of_equal h with
  | null | bool | string => rfl
  | @number m n same =>
    have places := Number.beq_iff_place_eq.1 same
    cases m with
    | integer m =>
      cases n with
      | integer n => cases p <;> rfl
      | double n => cases places
    | double m =>
      cases n with
      | integer n => cases places
      | double n => cases p <;> rfl
  | array | object => cases p <;> rfl

theorem order?_congr {m n : Number} (h : (v == w) = true) (h' : (m == n) = true) :
    v.order? m = w.order? n := by
  cases same_of_equal h with
  | number same => exact congrArg some (Number.order_congr same h')
  | null | bool | string | array | object => rfl

theorem signed?_congr (h : (v == w) = true) : v.signed? = w.signed? := by
  cases same_of_equal h with
  | number same => exact Number.signed?_congr same
  | null | bool | string | array | object => rfl

theorem string?_congr (h : (v == w) = true) : v.string? = w.string? := by
  cases same_of_equal h <;> rfl

theorem size?_congr (h : (v == w) = true) : v.size? = w.size? := by
  cases same_of_equal h with
  | array items => exact congrArg some items.length_eq
  | object entries => exact congrArg some entries.length_eq
  | null | bool | number | string => rfl

theorem isEmpty_congr (h : (v == w) = true) : v.isEmpty = w.isEmpty := by
  cases same_of_equal h with
  | array items => cases items <;> rfl
  | @object es fs entries =>
    have same := entries.length_eq
    cases es <;> cases fs <;> first | rfl | cases same
  | null | bool | number | string => rfl

theorem any_beq_congr (items : List.Forall₂ (fun x y ↦ (x == y) = true) xs ys)
    (h : (v == w) = true) : (xs.any fun x ↦ x == v) = ys.any fun y ↦ y == w := by
  induction items with
  | nil => rfl
  | cons first _ ih =>
    rw [List.any_cons, List.any_cons, ih, BEq.congr_left first, BEq.congr_right h]

theorem contains_congr {es fs : Entries Value} (entries : Pairs EntryEq es fs) (key : String) :
    es.contains key = fs.contains key := by
  rw [Bool.eq_iff_iff, Entries.contains_iff, Entries.contains_iff]
  exact entries.mem_map_iff fun e f same ↦ same.1

theorem includes?_congr (h : (v == w) = true) (h' : (part == part') = true) :
    v.includes? part = w.includes? part' := by
  cases same_of_equal h with
  | array items => exact congrArg some (any_beq_congr items h')
  | string s =>
    cases same_of_equal h' with
    | string | null | bool | number | array | object => rfl
  | object entries =>
    cases same_of_equal h' with
    | string key => exact congrArg some (contains_congr (object_beq_iff.1 h) key)
    | null | bool | number | array | object => rfl
  | null | bool | number => rfl

end Value

/-! ### Predicates -/

namespace Predicate

variable {p q : Predicate} {v w : Value}

theorem beq_iff :
    (p == q) = true ↔ p.isCustom = q.isCustom ∧ p.name = q.name ∧ (p.args == q.args) = true := by
  show (p.isCustom == q.isCustom && p.name == q.name && p.args == q.args) = true ↔ _
  simp only [Bool.and_eq_true, beq_iff_eq, and_assoc]

/-- A predicate of the library holds of equal values alike. -/
theorem test_congr (library : p.isCustom = false) (h : (v == w) = true) : p.test v = p.test w := by
  cases p with
  | kind p => exact Value.accepts_congr p h
  | equals | identical | isTrue | isFalse => exact BEq.congr_left h
  | above | atLeast | below | atMost => simp only [test, Value.order?_congr h BEq.rfl]
  | size | minSize | maxSize => simp only [test, Value.size?_congr h]
  | filled | empty => simp only [test, Value.isEmpty_congr h]
  | format | uuidV4 => simp only [test, Value.string?_congr h]
  | includedIn vs | excludedFrom vs =>
    have same := Value.any_beq_congr (List.forall₂_same.2 fun (x : Value) (_ : x ∈ vs) ↦ BEq.rfl) h
    simp only [test, same]
  | includes | excludes => simp only [test, Value.includes?_congr h BEq.rfl]
  | odd | even => simp only [test, Value.signed?_congr h]
  | custom => cases library

/-- The names of the predicates of the library, in the order of the constructors. -/
def libraryNames : List String :=
  ["type?", "eql?", "is?", "gt?", "gteq?", "lt?", "lteq?", "size?", "min_size?", "max_size?",
    "filled?", "empty?", "format?", "included_in?", "excluded_from?", "includes?", "excludes?",
    "odd?", "even?", "true?", "false?", "uuid_v4?"]

/-- The name of a predicate of the library tells which constructor it has. -/
theorem idxOf_name (library : p.isCustom = false) : libraryNames.idxOf p.name = p.ctorIdx := by
  cases p with
  | custom => cases library
  | _ => rfl

/-- Equal predicates of the library are one test. Of patterns, whose arguments do not show how they
were compiled, this has to be known. -/
theorem test_eq_of_beq (library : p.isCustom = false)
    (patterns : ∀ a b, p = .format a → q = .format b → a.source = b.source →
      a.occursIn = b.occursIn)
    (h : (p == q) = true) : p.test = q.test := by
  obtain ⟨sort, names, arguments⟩ := beq_iff.1 h
  have constructors : p.ctorIdx = q.ctorIdx := by
    rw [← idxOf_name library, names, idxOf_name (sort ▸ library)]
  funext v
  -- there is one case for each constructor, because the others have different numbers
  cases p <;> cases q <;> try cases constructors
  case kind.kind k l =>
    have same : some k = some l := by
      have written : k.name = l.name := by simpa [args] using arguments
      rw [← Primitive.ofName?_name k, written, Primitive.ofName?_name]
    rw [Option.some.inj same]
  case equals.equals w u | identical.identical w u =>
    have same : (w == u) = true := by simpa [args] using arguments
    exact BEq.congr_right same
  case above.above m n | atLeast.atLeast m n | below.below m n | atMost.atMost m n =>
    have same : (m == n) = true := by simpa [args] using arguments
    simp only [test, Value.order?_congr BEq.rfl same]
  case size.size m n | minSize.minSize m n | maxSize.maxSize m n =>
    have same : m = n := by simpa [args] using arguments
    rw [same]
  case format.format pattern pattern' =>
    have sources : pattern.source = pattern'.source := by simpa [args] using arguments
    simp only [test, patterns pattern pattern' rfl rfl sources]
  case includedIn.includedIn vs ws | excludedFrom.excludedFrom vs ws =>
    have same : (Value.array vs == Value.array ws) = true := by simpa [args] using arguments
    simp only [test, Value.any_beq_congr (Value.array_beq_iff.1 same) (BEq.rfl (a := v))]
  case includes.includes w u | excludes.excludes w u =>
    have same : (w == u) = true := by simpa [args] using arguments
    simp only [test, Value.includes?_congr BEq.rfl same]
  case custom.custom => cases library
  all_goals rfl

end Predicate

end JsonTyping
