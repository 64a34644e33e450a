/-!
# Matching up two lists

Two lists are equal up to order when the elements of one can be paired with those of the other.
Here the first list is given as tests, one for each of its elements, and every test takes the
first element of the other list that satisfies it.
-/

namespace JsonTyping

/-- Whether every test can take an element of its own so that no element is left. -/
def matchUp {α : Type} : List (α → Bool) → List α → Bool
  | [], xs => xs.isEmpty
  | test :: tests, xs => xs.any test && matchUp tests (xs.eraseP test)

/-- A list can be matched up with itself if every element passes its own test. -/
theorem matchUp_map_self {α : Type} {test : α → α → Bool} {xs : List α}
    (self : ∀ x ∈ xs, test x x = true) : matchUp (xs.map test) xs = true := by
  induction xs with
  | nil => rfl
  | cons x xs ih =>
    have first : test x x = true := self x List.mem_cons_self
    have rest := ih fun y mem ↦ self y (List.mem_cons_of_mem _ mem)
    rw [List.map_cons, matchUp, List.any_cons, List.eraseP_cons_of_pos first, first, rest]
    rfl

end JsonTyping
