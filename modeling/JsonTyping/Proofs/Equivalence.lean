import JsonTyping.Proofs.Equality
import JsonTyping.Proofs.Pairing

/-!
# Equality of values is an equivalence

That equality is symmetric and transitive is not seen from its definition, because the entries of
objects are matched up by a greedy search, from the left. `Value.Same` says for one layer what the
test finds out, with a pairing of entries in the place of the search; `same_of_equal` and
`equal_of_same` lead from one to the other.

The way back needs equality to be difunctional on the values in the entries. So this is what is
proved first, by induction on a bound on the size of four values at a time (`zigzagBelow`). Symmetry
and transitivity are special cases of it.
-/

namespace JsonTyping

/-! ### Numbers -/

/-- What equality looks at in a number: its form and its value. -/
def Number.place : Number → Int ⊕ Int
  | .integer n => .inl n.val
  | .double d => .inr d.position

theorem Number.beq_iff_place_eq {m n : Number} : (m == n) = true ↔ m.place = n.place := by
  cases m with
  | integer m =>
    cases n with
    | integer n =>
      show (m.val == n.val) = true ↔ _
      simp [place]
    | double n =>
      show false = true ↔ _
      simp [place]
  | double m =>
    cases n with
    | integer n =>
      show false = true ↔ _
      simp [place]
    | double n =>
      show (m == n) = true ↔ _
      simp [place]

instance : EquivBEq Number where
  symm h := by
    rw [Number.beq_iff_place_eq] at h ⊢
    exact h.symm
  trans h h' := by
    rw [Number.beq_iff_place_eq] at h h' ⊢
    exact h.trans h'

namespace Value

/-! ### One layer of equality -/

/-- Whether two values have the same outermost layer over equal parts; the entries of objects may
stand in any order. -/
inductive Same : Value → Value → Prop
  | null : Same .null .null
  | bool (b : Bool) : Same (.bool b) (.bool b)
  | number {m n : Number} : (m == n) = true → Same (.number m) (.number n)
  | string (s : String) : Same (.string s) (.string s)
  | array {xs ys : List Value} : List.Forall₂ (fun x y ↦ equal x y = true) xs ys →
      Same (.array xs) (.array ys)
  | object {es fs : Entries Value} : Pairs (fun e f ↦ isMatch e f = true) es fs →
      Same (.object es) (.object fs)

variable {v v' w w' : Value}

theorem equalItems_iff {xs ys : List Value} :
    equalItems xs ys = true ↔ List.Forall₂ (fun x y ↦ equal x y = true) xs ys := by
  induction xs generalizing ys with
  | nil => cases ys <;> simp [equalItems]
  | cons x xs ih => cases ys <;> simp [equalItems, ih]

theorem isMatch_iff {e f : String × Value} :
    isMatch e f = true ↔ f.1 = e.1 ∧ equal e.2 f.2 = true := by
  rw [isMatch, Bool.and_eq_true, beq_iff_eq]

theorem same_of_equal : equal v w = true → Same v w := by
  fun_cases equal v w with
  | case1 => exact fun _ ↦ .null
  | case2 a b =>
    intro h
    rw [beq_iff_eq.1 h]
    exact .bool b
  | case3 m n => exact .number
  | case4 s t =>
    intro h
    rw [beq_iff_eq.1 h]
    exact .string t
  | case5 xs ys => exact fun h ↦ .array (equalItems_iff.1 h)
  | case6 es fs =>
    rw [equalEntries_eq_matchUp]
    exact fun h ↦ .object (pairs_of_matchUp h)
  | case7 =>
    intro h
    cases h

/-- Of objects, the values in the entries have to be known to be difunctional. -/
theorem equal_of_same (h : Same v w)
    (difunctional : ∀ es fs, v = .object es → w = .object fs →
      DifunctionalOn (fun e f ↦ isMatch e f = true) es fs) : equal v w = true := by
  cases h with
  | null => rfl
  | bool b => exact beq_self_eq_true b
  | number same => exact same
  | string s => exact beq_self_eq_true s
  | array items => exact equalItems_iff.2 items
  | object entries =>
    rw [equal, equalEntries_eq_matchUp]
    exact entries.matchUp_eq_true (difunctional _ _ rfl rfl)

/-! ### Equality is difunctional -/

/-- Whether values that are equal to a common one are equal to the same values, up to a size. -/
def ZigzagBelow (bound : Nat) : Prop :=
  ∀ v v' w w' : Value, sizeOf v < bound → sizeOf v' < bound → sizeOf w < bound →
    sizeOf w' < bound → equal v w = true → equal v w' = true → equal v' w' = true →
    equal v' w = true

theorem sizeOf_lt_of_mem_items {x : Value} {xs : List Value} (mem : x ∈ xs) :
    sizeOf x < sizeOf (array xs) := by
  have inList := List.sizeOf_lt_of_mem mem
  rw [array.sizeOf_spec]
  omega

theorem sizeOf_lt_of_mem_entries {e : String × Value} {es : Entries Value} (mem : e ∈ es) :
    sizeOf e.2 < sizeOf (object es) := by
  have inList := List.sizeOf_lt_of_mem mem
  rw [Prod.mk.sizeOf_spec] at inList
  rw [object.sizeOf_spec]
  omega

/-- What is left to show of entries is about the values in them, for their keys are the same. -/
theorem isMatch_zigzag {e e' f f' : String × Value} (h : isMatch e f = true)
    (h' : isMatch e f' = true) (h'' : isMatch e' f' = true)
    (values : equal e.2 f.2 = true → equal e.2 f'.2 = true → equal e'.2 f'.2 = true →
      equal e'.2 f.2 = true) : isMatch e' f = true := by
  obtain ⟨key, value⟩ := isMatch_iff.1 h
  obtain ⟨key', value'⟩ := isMatch_iff.1 h'
  obtain ⟨key'', value''⟩ := isMatch_iff.1 h''
  exact isMatch_iff.2 ⟨key.trans (key'.symm.trans key''), values value value' value''⟩

theorem zigzagBelow (bound : Nat) : ZigzagBelow bound := by
  induction bound with
  | zero => exact fun v _ _ _ small ↦ absurd small (Nat.not_lt_zero _)
  | succ bound ih =>
    intro v v' w w' hv hv' hw hw' h h' h''
    have item : ∀ {xs : List Value}, sizeOf (array xs) < bound + 1 → ∀ x ∈ xs, sizeOf x < bound :=
      fun small x mem ↦ Nat.lt_of_lt_of_le (sizeOf_lt_of_mem_items mem) (Nat.le_of_lt_succ small)
    have entry : ∀ {es : Entries Value}, sizeOf (object es) < bound + 1 →
        ∀ e ∈ es, sizeOf e.2 < bound :=
      fun small e mem ↦ Nat.lt_of_lt_of_le (sizeOf_lt_of_mem_entries mem) (Nat.le_of_lt_succ small)
    refine equal_of_same ?_ ?_
    · cases same_of_equal h with
      | null =>
        cases same_of_equal h'
        cases same_of_equal h''
        exact .null
      | bool b =>
        cases same_of_equal h'
        cases same_of_equal h''
        exact .bool b
      | string s =>
        cases same_of_equal h'
        cases same_of_equal h''
        exact .string s
      | number same =>
        cases same_of_equal h' with
        | number same' =>
          cases same_of_equal h'' with
          | number same'' =>
            exact .number (BEq.trans same'' (BEq.trans (BEq.symm same') same))
      | array items =>
        cases same_of_equal h' with
        | array items' =>
          cases same_of_equal h'' with
          | array items'' =>
            refine .array (forall₂_zigzag items items' items'' fun x hx x' hx' y hy y' hy' ↦ ?_)
            exact ih x x' y y' (item hv x hx) (item hv' x' hx') (item hw y hy) (item hw' y' hy')
      | object entries =>
        cases same_of_equal h' with
        | object entries' =>
          cases same_of_equal h'' with
          | object entries'' =>
            refine .object (entries.zigzag entries' entries'' ?_)
            intro e he e' he' f hf f' hf' first second third
            exact isMatch_zigzag first second third
              (ih _ _ _ _ (entry hv e he) (entry hv' e' he') (entry hw f hf) (entry hw' f' hf'))
    · -- the entries of two of the values are smaller too, so the search through them succeeds
      rintro es fs rfl rfl e he e' he' f hf f' hf' first second third
      exact isMatch_zigzag first second third
        (ih _ _ _ _ (entry hv' e he) (entry hv' e' he') (entry hw f hf) (entry hw f' hf'))

/-- Values that are equal to a common one are equal to the same values. -/
theorem equal_of_zigzag (h : equal v w = true) (h' : equal v w' = true)
    (h'' : equal v' w' = true) : equal v' w = true := by
  have below := zigzagBelow (sizeOf v + sizeOf v' + sizeOf w + sizeOf w' + 1)
  exact below v v' w w' (by omega) (by omega) (by omega) (by omega) h h' h''

instance : EquivBEq Value where
  symm {a b} h := equal_of_zigzag (v := a) (equal_self a) h (equal_self b)
  trans {_ b _} h h' := equal_of_zigzag (v := b) h' (equal_self b) h

/-! ### Equality by forms -/

@[simp]
theorem number_beq (m n : Number) : (number m == number n) = (m == n) := rfl

@[simp]
theorem string_beq (s t : String) : (string s == string t) = (s == t) := rfl

@[simp]
theorem ofUInt64_beq_iff {m n : UInt64} : (ofUInt64 m == ofUInt64 n) = true ↔ m = n := by
  rw [ofUInt64, ofUInt64, number_beq, Number.beq_iff_place_eq]
  constructor
  · intro places
    have values : (m.toNat : Int) = n.toNat := Sum.inl.inj places
    exact UInt64.toNat_inj.1 (Int.ofNat_inj.1 values)
  · rintro rfl
    rfl

theorem array_beq_iff {xs ys : List Value} :
    (array xs == array ys) = true ↔ List.Forall₂ (fun x y ↦ (x == y) = true) xs ys :=
  equalItems_iff

/-- Whether two entries have the same key and equal values. -/
def EntryEq (e f : String × Value) : Prop := e.1 = f.1 ∧ (e.2 == f.2) = true

theorem keys_eq_of_forall₂ {es fs : Entries Value} (h : List.Forall₂ EntryEq es fs) :
    es.keys = fs.keys := by
  induction h with
  | nil => rfl
  | cons first _ ih => rw [Entries.keys_cons, Entries.keys_cons, first.1, ih]

/-- Objects are equal if their entries can be paired. -/
theorem object_beq_iff {es fs : Entries Value} :
    (object es == object fs) = true ↔ Pairs EntryEq es fs := by
  have same : (fun e f ↦ isMatch e f = true) = EntryEq := by
    funext e f
    exact propext (isMatch_iff.trans (and_congr eq_comm Iff.rfl))
  constructor
  · intro h
    cases same_of_equal h with
    | object entries => exact same ▸ entries
  · intro h
    refine equal_of_same (.object (same ▸ h)) ?_
    intro es fs _ _ e _ e' _ f _ f' _ first second third
    exact isMatch_zigzag first second third equal_of_zigzag

theorem string_of_beq {s : String} (h : (v == string s) = true) : v = string s := by
  cases same_of_equal h
  rfl

end Value

end JsonTyping
