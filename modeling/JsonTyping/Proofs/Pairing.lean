import JsonTyping.Matching
import Mathlib.Data.List.Perm.Basic

/-!
# Pairing up two lists

`matchUp` goes through one list and takes for each element the first partner that is left in the
other list. `Pairs` says what that is meant to find out: that the elements of the two lists can be
paired, in whatever order, so that a relation holds of every pair.

The greedy search never finds a pairing where there is none (`pairs_of_matchUp`). That it finds one
wherever there is one needs a property of the relation (`Pairs.matchUp_eq_true`): a partner that was
taken too early can be exchanged for the partner that is left, because elements with one partner in
common have all partners in common. Relations of this sort are called difunctional; equivalences
are.
-/

namespace JsonTyping

variable {α β γ δ : Type} {r : α → β → Prop} {x : α} {y : β} {xs xs' : List α} {ys ys' : List β}

/-- Whether the elements of two lists can be paired so that a relation holds of every pair. -/
def Pairs (r : α → β → Prop) (xs : List α) (ys : List β) : Prop :=
  ∃ zs, List.Forall₂ r xs zs ∧ zs.Perm ys

/-! ### Pairings as a relation on lists -/

theorem forall₂_imp_of_mem {r' : α → β → Prop} (h : List.Forall₂ r xs ys)
    (imp : ∀ x ∈ xs, ∀ y ∈ ys, r x y → r' x y) : List.Forall₂ r' xs ys := by
  induction h with
  | nil => exact .nil
  | cons first _ ih =>
    exact .cons (imp _ List.mem_cons_self _ List.mem_cons_self first)
      (ih fun x mem y mem' ↦ imp x (List.mem_cons_of_mem _ mem) y (List.mem_cons_of_mem _ mem'))

namespace Pairs

theorem of_forall₂ (h : List.Forall₂ r xs ys) : Pairs r xs ys := ⟨ys, h, .refl ys⟩

theorem perm_right (h : Pairs r xs ys) (perm : ys.Perm ys') : Pairs r xs ys' := by
  obtain ⟨zs, paired, same⟩ := h
  exact ⟨zs, paired, same.trans perm⟩

theorem perm_left (h : Pairs r xs ys) (perm : xs'.Perm xs) : Pairs r xs' ys := by
  obtain ⟨zs, paired, same⟩ := h
  obtain ⟨ws, paired', same'⟩ := List.perm_comp_forall₂ perm paired
  exact ⟨ws, paired', same'.trans same⟩

theorem cons (hxy : r x y) (h : Pairs r xs ys) : Pairs r (x :: xs) (y :: ys) := by
  obtain ⟨zs, paired, same⟩ := h
  exact ⟨y :: zs, .cons hxy paired, same.cons y⟩

theorem flip (h : Pairs r xs ys) : Pairs (fun y x ↦ r x y) ys xs := by
  obtain ⟨zs, paired, same⟩ := h
  exact (of_forall₂ paired.flip).perm_left same.symm

theorem comp {s : β → γ → Prop} {zs : List γ} (h : Pairs r xs ys) (h' : Pairs s ys zs) :
    Pairs (fun x z ↦ ∃ y, r x y ∧ s y z) xs zs := by
  obtain ⟨us, paired, same⟩ := h
  obtain ⟨vs, paired', same'⟩ := h'.perm_left same
  refine ⟨vs, ?_, same'⟩
  clear same same' h'
  induction paired generalizing vs with
  | nil =>
    cases paired'
    exact .nil
  | cons first _ ih =>
    cases paired' with
    | cons first' rest' => exact .cons ⟨_, first, first'⟩ (ih _ rest')

/-- The relation matters for the elements of the lists only. -/
theorem imp_of_mem {r' : α → β → Prop} (h : Pairs r xs ys)
    (imp : ∀ x ∈ xs, ∀ y ∈ ys, r x y → r' x y) : Pairs r' xs ys := by
  obtain ⟨zs, paired, same⟩ := h
  exact ⟨zs, forall₂_imp_of_mem paired fun x mem y mem' ↦ imp x mem y (same.subset mem'), same⟩

/-- The first element has a partner, and the others are paired with what is left. -/
theorem exists_of_cons (h : Pairs r (x :: xs) ys) :
    ∃ y ys', r x y ∧ Pairs r xs ys' ∧ (y :: ys').Perm ys := by
  obtain ⟨zs, paired, same⟩ := h
  obtain ⟨y, ws, hxy, paired', rfl⟩ := List.forall₂_cons_left_iff.1 paired
  exact ⟨y, ws, hxy, of_forall₂ paired', same⟩

theorem exists_mem (h : Pairs r xs ys) (mem : x ∈ xs) : ∃ y ∈ ys, r x y := by
  obtain ⟨before, after, rfl⟩ := List.append_of_mem mem
  obtain ⟨y, ys', hxy, -, same⟩ := (h.perm_left List.perm_middle.symm).exists_of_cons
  exact ⟨y, same.subset List.mem_cons_self, hxy⟩

theorem length_eq (h : Pairs r xs ys) : xs.length = ys.length := by
  obtain ⟨zs, paired, same⟩ := h
  exact paired.length_eq.trans same.length_eq

/-! What holds of the elements of paired lists -/

theorem forall_iff {P : α → Prop} {Q : β → Prop} (h : Pairs r xs ys)
    (iff : ∀ x y, r x y → (P x ↔ Q y)) : (∀ x ∈ xs, P x) ↔ ∀ y ∈ ys, Q y := by
  constructor
  · intro all y mem
    obtain ⟨x, mem', hxy⟩ := h.flip.exists_mem mem
    exact (iff x y hxy).1 (all x mem')
  · intro all x mem
    obtain ⟨y, mem', hxy⟩ := h.exists_mem mem
    exact (iff x y hxy).2 (all y mem')

theorem map {s : γ → δ → Prop} {f : α → γ} {g : β → δ} (h : Pairs r xs ys)
    (fg : ∀ x y, r x y → s (f x) (g y)) : Pairs s (xs.map f) (ys.map g) := by
  obtain ⟨zs, paired, same⟩ := h
  refine ⟨zs.map g, ?_, same.map g⟩
  exact List.forall₂_map_left_iff.2 (List.forall₂_map_right_iff.2 (paired.imp fg))

/-- What is the same for the elements of each pair occurs in both lists or in none. -/
theorem mem_map_iff {f : α → γ} {g : β → γ} (h : Pairs r xs ys) (fg : ∀ x y, r x y → f x = g y)
    {z : γ} : z ∈ xs.map f ↔ z ∈ ys.map g := by
  obtain ⟨zs, paired, same⟩ := h.map fg
  rw [List.forall₂_eq_eq_eq] at paired
  rw [paired]
  exact same.mem_iff

theorem filterMap {s : γ → δ → Prop} {f : α → Option γ} {g : β → Option δ} (h : Pairs r xs ys)
    (fg : ∀ x y, r x y → Option.Rel s (f x) (g y)) : Pairs s (xs.filterMap f) (ys.filterMap g) := by
  obtain ⟨zs, paired, same⟩ := h
  exact ⟨zs.filterMap g, List.rel_filterMap (fun x y ↦ fg x y) paired, same.filterMap g⟩

theorem append (h : Pairs r xs ys) (h' : Pairs r xs' ys') : Pairs r (xs ++ xs') (ys ++ ys') := by
  obtain ⟨zs, paired, same⟩ := h
  obtain ⟨zs', paired', same'⟩ := h'
  exact ⟨zs ++ zs', List.rel_append paired paired', same.append same'⟩

/-- Lists that are paired with a third one are paired with the same lists, if that is so of their
elements. -/
theorem zigzag (h : Pairs r xs ys) (h' : Pairs r xs ys') (h'' : Pairs r xs' ys')
    (elements : ∀ x ∈ xs, ∀ x' ∈ xs', ∀ y ∈ ys, ∀ y' ∈ ys', r x y → r x y' → r x' y' → r x' y) :
    Pairs r xs' ys := by
  have first := h.imp_of_mem fun x hx _ _ hxy ↦ And.intro hx hxy
  have second := (h'.imp_of_mem fun _ _ y hy hxy ↦ And.intro hy hxy).flip
  refine (h''.comp (second.comp first)).imp_of_mem ?_
  rintro x' hx' y hy ⟨y', third, x, ⟨hy', second⟩, hx, first⟩
  exact elements x hx x' hx' y hy y' hy' first second third

end Pairs

/-- The same for lists that correspond element by element. -/
theorem forall₂_zigzag (h : List.Forall₂ r xs ys) (h' : List.Forall₂ r xs ys')
    (h'' : List.Forall₂ r xs' ys')
    (elements : ∀ x ∈ xs, ∀ x' ∈ xs', ∀ y ∈ ys, ∀ y' ∈ ys', r x y → r x y' → r x' y' → r x' y) :
    List.Forall₂ r xs' ys := by
  induction h generalizing xs' ys' with
  | nil =>
    cases h'
    cases h''
    exact .nil
  | cons first _ ih =>
    cases h' with
    | cons second rest' =>
      cases h'' with
      | cons third rest'' =>
        have head := elements _ List.mem_cons_self _ List.mem_cons_self _ List.mem_cons_self _
          List.mem_cons_self first second third
        refine .cons head (ih rest' rest'' fun x hx x' hx' y hy y' hy' ↦ ?_)
        exact elements x (List.mem_cons_of_mem _ hx) x' (List.mem_cons_of_mem _ hx')
          y (List.mem_cons_of_mem _ hy) y' (List.mem_cons_of_mem _ hy')

/-! ### Greedy search -/

/-- Whether elements with one partner in common have all partners in common, among two lists. -/
def DifunctionalOn (r : α → β → Prop) (xs : List α) (ys : List β) : Prop :=
  ∀ x ∈ xs, ∀ x' ∈ xs, ∀ y ∈ ys, ∀ y' ∈ ys, r x y → r x y' → r x' y' → r x' y

/-- Any partner will do for the first element: whose partner is taken away gets the one that is left
over. -/
theorem Pairs.of_cons (h : Pairs r (x :: xs) ys) (difunctional : DifunctionalOn r (x :: xs) ys)
    (hxy : r x y) (perm : (y :: ys').Perm ys) : Pairs r xs ys' := by
  obtain ⟨z, zs, hxz, paired, same⟩ := h.exists_of_cons
  have both : (y :: ys').Perm (z :: zs) := perm.trans same.symm
  rcases List.mem_cons.1 (both.subset List.mem_cons_self) with rfl | mem
  · exact paired.perm_right both.cons_inv.symm
  · obtain ⟨before, after, rfl⟩ := List.append_of_mem mem
    obtain ⟨x', xs', hxy', paired', same'⟩ :=
      (paired.perm_right List.perm_middle).flip.exists_of_cons
    have hxz' : r x' z :=
      difunctional x List.mem_cons_self x'
        (List.mem_cons_of_mem _ (same'.subset List.mem_cons_self))
        z (same.subset List.mem_cons_self) y (perm.subset List.mem_cons_self) hxz hxy hxy'
    have left : (z :: (before ++ after)).Perm ys' := by
      have swapped : (y :: ys').Perm (y :: z :: (before ++ after)) :=
        both.trans ((List.perm_middle.cons z).trans (.swap y z _))
      exact swapped.cons_inv.symm
    exact ((paired'.flip.cons hxz').perm_left same'.symm).perm_right left

variable {test : α → β → Bool}

theorem pairs_of_matchUp (h : matchUp (xs.map test) ys = true) :
    Pairs (fun x y ↦ test x y = true) xs ys := by
  induction xs generalizing ys with
  | nil =>
    have empty : ys = [] := List.isEmpty_iff.1 h
    exact .of_forall₂ (empty ▸ .nil)
  | cons x xs ih =>
    obtain ⟨found, rest⟩ := Bool.and_eq_true_iff.1 h
    obtain ⟨y, mem, hxy⟩ := List.any_eq_true.1 found
    obtain ⟨z, before, after, -, hxz, rfl, erased⟩ := List.exists_of_eraseP mem hxy
    rw [erased] at rest
    have paired := Pairs.cons (r := fun x y ↦ test x y = true) hxz (ih rest)
    exact paired.perm_right List.perm_middle.symm

/-- A greedy search succeeds at once if the lists correspond element by element. -/
theorem matchUp_map_of_forall₂ (h : List.Forall₂ (fun x y ↦ test x y = true) xs ys) :
    matchUp (xs.map test) ys = true := by
  induction h with
  | nil => rfl
  | @cons x y xs ys first _ ih =>
    rw [List.map_cons, matchUp, List.any_cons, List.eraseP_cons_of_pos first, first, ih]
    rfl

/-- A greedy search succeeds if the lists can be paired by a difunctional relation. -/
theorem Pairs.matchUp_eq_true (h : Pairs (fun x y ↦ test x y = true) xs ys)
    (difunctional : DifunctionalOn (fun x y ↦ test x y = true) xs ys) :
    matchUp (xs.map test) ys = true := by
  induction xs generalizing ys with
  | nil =>
    have empty : ys = [] := List.length_eq_zero_iff.1 h.length_eq.symm
    rw [empty]
    rfl
  | cons x xs ih =>
    obtain ⟨y, mem, hxy⟩ := h.exists_mem List.mem_cons_self
    obtain ⟨z, before, after, -, hxz, rfl, erased⟩ := List.exists_of_eraseP mem hxy
    have paired := h.of_cons difunctional hxz List.perm_middle.symm
    have rest : matchUp (xs.map test) (before ++ after) = true := by
      refine ih paired fun u hu u' hu' v hv v' hv' ↦ ?_
      have sub : before ++ after ⊆ before ++ z :: after :=
        (List.Sublist.append_left (List.sublist_cons_self z after) before).subset
      exact difunctional u (List.mem_cons_of_mem _ hu) u' (List.mem_cons_of_mem _ hu')
        v (sub hv) v' (sub hv')
    rw [List.map_cons, matchUp, erased, rest, Bool.and_true]
    exact List.any_eq_true.2 ⟨y, mem, hxy⟩

end JsonTyping
