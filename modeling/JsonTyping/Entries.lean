/-!
# Ordered entries

Keys with values in the order in which the keys were first given. Putting a value under a key that
is already there replaces the value and keeps the place, so entries that are built by insertion
never hold a key twice (`nodup_keys_insert`).

Lookup is described by `get?_insert_self` and `get?_insert_of_ne`, the order by
`keys_insert_of_mem` and `keys_insert_of_not_mem`.
-/

namespace JsonTyping

/-- Keys with values, in order. -/
abbrev Entries (α : Type) := List (String × α)

namespace Entries

variable {α β : Type}

/-- The keys, in order. -/
def keys (es : Entries α) : List String := es.map Prod.fst

/-- The value under a key. -/
def get? (key : String) : Entries α → Option α
  | [] => none
  | (k, value) :: es => if k = key then some value else get? key es

/-- Whether a key is present. -/
def contains (es : Entries α) (key : String) : Bool := (es.get? key).isSome

/-- Puts a value under a key: in place if the key is present, at the end otherwise. -/
def insert (key : String) (value : α) : Entries α → Entries α
  | [] => [(key, value)]
  | (k, old) :: es => if k = key then (key, value) :: es else (k, old) :: insert key value es

/-- Puts entries into others one after the other. -/
def insertAll (es added : Entries α) : Entries α :=
  added.foldl (fun entries (key, value) ↦ entries.insert key value) es

/-- Collects entries from a list in which a later value replaces an earlier one of its key. -/
def ofList (pairs : List (String × α)) : Entries α := insertAll [] pairs

@[simp]
theorem keys_nil : keys ([] : Entries α) = [] := rfl

@[simp]
theorem keys_cons (e : String × α) (es : Entries α) : keys (e :: es) = e.1 :: keys es := rfl

theorem get?_eq_none_iff {key : String} {es : Entries α} :
    es.get? key = none ↔ key ∉ es.keys := by
  induction es with
  | nil => simp [get?]
  | cons e es ih =>
    by_cases h : e.1 = key
    · simp [get?, h]
    · simp [get?, h, ih, Ne.symm h]

theorem contains_iff {key : String} {es : Entries α} :
    es.contains key = true ↔ key ∈ es.keys := by
  rw [contains, Option.isSome_iff_ne_none, ne_eq, get?_eq_none_iff, Decidable.not_not]

theorem get?_insert_self (key : String) (value : α) (es : Entries α) :
    (es.insert key value).get? key = some value := by
  induction es with
  | nil => simp [insert, get?]
  | cons e es ih => by_cases h : e.1 = key <;> simp [insert, get?, h, ih]

theorem get?_insert_of_ne {key other : String} (value : α) (es : Entries α) (ne : other ≠ key) :
    (es.insert key value).get? other = es.get? other := by
  induction es with
  | nil => simp [insert, get?, Ne.symm ne]
  | cons e es ih =>
    by_cases h : e.1 = key
    · simp [insert, get?, h, Ne.symm ne]
    · simp [insert, get?, h, ih]

theorem keys_insert_of_mem {key : String} (value : α) {es : Entries α} (mem : key ∈ es.keys) :
    (es.insert key value).keys = es.keys := by
  induction es with
  | nil => simp at mem
  | cons e es ih =>
    by_cases h : e.1 = key
    · simp [insert, h]
    · simp only [keys_cons, List.mem_cons, Ne.symm h, false_or] at mem
      simp [insert, h, ih mem]

/-- Entries with a new key are put at the end. -/
theorem insert_of_not_mem {key : String} (value : α) {es : Entries α} (new : key ∉ es.keys) :
    es.insert key value = es ++ [(key, value)] := by
  induction es with
  | nil => rfl
  | cons e es ih =>
    simp only [keys_cons, List.mem_cons, not_or] at new
    simp [insert, Ne.symm new.1, ih new.2]

theorem keys_insert_of_not_mem {key : String} (value : α) {es : Entries α} (new : key ∉ es.keys) :
    (es.insert key value).keys = es.keys ++ [key] := by
  simp [insert_of_not_mem value new, keys]

theorem nodup_keys_insert {key : String} (value : α) {es : Entries α} (nodup : es.keys.Nodup) :
    (es.insert key value).keys.Nodup := by
  by_cases mem : key ∈ es.keys
  · rwa [keys_insert_of_mem value mem]
  · rw [keys_insert_of_not_mem value mem, List.nodup_append]
    refine ⟨nodup, by simp, fun a ha b hb ↦ ?_⟩
    rw [List.mem_singleton] at hb
    rintro rfl
    exact mem (hb ▸ ha)

theorem nodup_keys_insertAll {es : Entries α} (added : Entries α) (nodup : es.keys.Nodup) :
    (es.insertAll added).keys.Nodup := by
  induction added generalizing es with
  | nil => exact nodup
  | cons e added ih => exact ih (nodup_keys_insert e.2 nodup)

theorem mem_of_mem_insert {key : String} {value : α} {e : String × α} {es : Entries α}
    (mem : e ∈ es.insert key value) : e = (key, value) ∨ e ∈ es := by
  induction es with
  | nil => exact .inl (List.mem_singleton.1 mem)
  | cons first es ih =>
    rw [insert] at mem
    split at mem
    · exact (List.mem_cons.1 mem).imp_right (List.mem_cons_of_mem _)
    · rcases List.mem_cons.1 mem with rfl | mem
      · exact .inr List.mem_cons_self
      · exact (ih mem).imp_right (List.mem_cons_of_mem _)

theorem mem_or_mem_of_mem_insertAll {e : String × α} {es added : Entries α}
    (mem : e ∈ es.insertAll added) : e ∈ es ∨ e ∈ added := by
  induction added generalizing es with
  | nil => exact .inl mem
  | cons first added ih =>
    rcases ih mem with mem | mem
    · rcases mem_of_mem_insert mem with rfl | mem
      · exact .inr List.mem_cons_self
      · exact .inl mem
    · exact .inr (List.mem_cons_of_mem _ mem)

/-- Entries with new keys are put at the end in their order. -/
theorem insertAll_eq_append {es added : Entries α} (nodup : (keys (es ++ added)).Nodup) :
    es.insertAll added = es ++ added := by
  induction added generalizing es with
  | nil => simp [insertAll]
  | cons e added ih =>
    have new : e.1 ∉ es.keys := by
      intro mem
      simp only [keys, List.map_append, List.map_cons] at nodup mem
      exact (List.nodup_append.1 nodup).2.2 _ mem _ List.mem_cons_self rfl
    have first : es.insertAll (e :: added) = insertAll (es ++ [e]) added :=
      congrArg (insertAll · added) (insert_of_not_mem e.2 new)
    rw [first, ih (by simpa using nodup), List.append_assoc, List.singleton_append]

/-- Entries without repeated keys stay as they are. -/
theorem ofList_eq_self {es : Entries α} (nodup : es.keys.Nodup) : ofList es = es :=
  insertAll_eq_append nodup

theorem nodup_keys_ofList (pairs : List (String × α)) : (ofList pairs).keys.Nodup :=
  nodup_keys_insertAll pairs List.nodup_nil

theorem mem_of_mem_ofList {e : String × α} {pairs : List (String × α)} (mem : e ∈ ofList pairs) :
    e ∈ pairs :=
  (mem_or_mem_of_mem_insertAll mem).resolve_left List.not_mem_nil

/-! ### Lookup in parts -/

theorem get?_append (key : String) (es fs : Entries α) :
    get? key (es ++ fs) = (es.get? key).or (fs.get? key) := by
  induction es with
  | nil => rfl
  | cons e es ih =>
    by_cases h : e.1 = key
    · simp [get?, h]
    · simp only [List.cons_append, get?, if_neg h, ih]

theorem mem_of_get?_eq_some {key : String} {value : α} {es : Entries α}
    (found : es.get? key = some value) : (key, value) ∈ es := by
  induction es with
  | nil => cases found
  | cons e es ih =>
    rw [get?] at found
    split at found
    · rename_i same
      have eq : e = (key, value) := Prod.ext same (Option.some.inj found)
      exact eq ▸ List.mem_cons_self
    · exact List.mem_cons_of_mem _ (ih found)

/-- A filter does not matter to a key whose entries it lets through. -/
theorem get?_filter {key : String} {keep : String × α → Bool} (es : Entries α)
    (kept : ∀ value, keep (key, value) = true) : get? key (es.filter keep) = es.get? key := by
  induction es with
  | nil => rfl
  | cons e es ih =>
    by_cases same : e.1 = key
    · have pass : keep e = true := by
        subst same
        exact kept e.2
      rw [List.filter_cons_of_pos pass, get?, get?, if_pos same, if_pos same]
    · rw [List.filter_cons]
      split
      · rw [get?, get?, if_neg same, if_neg same, ih]
      · rw [get?, if_neg same, ih]

/-- Where keys are not repeated, an entry is found under its key. -/
theorem get?_of_mem {e : String × α} {es : Entries α} (nodup : es.keys.Nodup) (mem : e ∈ es) :
    es.get? e.1 = some e.2 := by
  induction es with
  | nil => cases mem
  | cons first es ih =>
    obtain ⟨new, rest⟩ := List.nodup_cons.1 nodup
    rcases List.mem_cons.1 mem with rfl | mem
    · simp [get?]
    · have ne : first.1 ≠ e.1 := fun eq ↦ new (eq ▸ List.mem_map_of_mem mem)
      simp only [get?, if_neg ne, ih rest mem]

end Entries

end JsonTyping
