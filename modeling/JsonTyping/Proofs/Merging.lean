import JsonTyping.Proofs.Collisions
import JsonTyping.Proofs.Members
import JsonTyping.Proofs.Names

/-!
# Merged schemas

Merging puts the declared keys of one schema into those of another one, as entries are put into
entries: under a name that is there already the declaration is replaced in its place, and under a
new one it comes last. So the merged schema has under each name the declaration of the second
schema, or else that of the first (`Schema.field?_merge`), and its names are those of the first in
their order, followed by the new ones in theirs (`Schema.names_merge`). As names are distinct, order
and lookup are all there is to a schema, and the laws of merging are laws of the two
(`Entries.eq_of_get?`).

The same goes for what schemas do. A schema that drops what it does not declare accepts an object if
the declaration under each name is settled on it, and it yields under each name what the declaration
there yields. So merging is known from the second schema and from what the first one declares beside
it (`Schema.merge_laws`).
-/

namespace JsonTyping

/-! ### Entries put into others -/

namespace Entries

variable {α β : Type} {es fs gs : Entries α}

theorem get?_reverse (nodup : es.keys.Nodup) (key : String) :
    get? key es.reverse = es.get? key := by
  have keys_reverse : keys es.reverse = es.keys.reverse := List.map_reverse
  cases found : es.get? key with
  | none =>
    rw [get?_eq_none_iff] at found ⊢
    rwa [keys_reverse, List.mem_reverse]
  | some value =>
    have mem : (key, value) ∈ es.reverse := List.mem_reverse.2 (mem_of_get?_eq_some found)
    exact get?_of_mem (keys_reverse ▸ List.nodup_reverse.2 nodup) mem

/-- An entry that is put in counts before those that were there. -/
theorem get?_insertAll_of_nodup (es : Entries α) (nodup : fs.keys.Nodup) (key : String) :
    (es.insertAll fs).get? key = (fs.get? key).or (es.get? key) := by
  rw [get?_insertAll, get?_reverse nodup]

/-- The keys that were there stay in their order, and new ones follow in theirs. -/
theorem keys_insertAll (es : Entries α) (nodup : fs.keys.Nodup) :
    (es.insertAll fs).keys = es.keys ++ fs.keys.filter (· ∉ es.keys) := by
  induction fs generalizing es with
  | nil => exact (List.append_nil _).symm
  | cons e fs ih =>
    obtain ⟨single, rest⟩ := List.nodup_cons.1 nodup
    have first : es.insertAll (e :: fs) = (es.insert e.1 e.2).insertAll fs := rfl
    rw [first, ih _ rest, keys_cons]
    by_cases mem : e.1 ∈ es.keys
    · rw [keys_insert_of_mem _ mem, List.filter_cons_of_neg (by simpa using mem)]
    · -- the key comes last for now, and no later key is the same
      have others : ∀ key ∈ keys fs, decide (key ∉ es.keys ++ [e.1]) = decide (key ∉ es.keys) := by
        intro key listed
        have ne : key ≠ e.1 := fun eq ↦ single (eq ▸ listed)
        simp [ne]
      rw [keys_insert_of_not_mem _ mem, List.filter_cons_of_pos (by simpa using mem),
        List.filter_congr others, List.append_assoc, List.singleton_append]

/-- Entries without repeated keys are known from the order of the keys and from lookups. -/
theorem eq_of_get? (nodup : es.keys.Nodup) (order : es.keys = fs.keys)
    (same : ∀ key, get? key es = get? key fs) : es = fs := by
  induction es generalizing fs with
  | nil => exact (List.map_eq_nil_iff.1 order.symm).symm
  | cons e es ih =>
    cases fs with
    | nil => cases order
    | cons f fs =>
      obtain ⟨new, rest⟩ := List.nodup_cons.1 nodup
      have first : e.1 = f.1 := (List.cons.inj order).1
      have order : keys es = keys fs := (List.cons.inj order).2
      have value : e.2 = f.2 := by
        have found := same e.1
        rwa [get?, get?, if_pos rfl, if_pos first.symm, Option.some_inj] at found
      have others : ∀ key, get? key es = get? key fs := by
        intro key
        by_cases eq : e.1 = key
        · -- the first key is found in front only, so there is nothing to read off the lookups
          have absent : key ∉ keys es := eq ▸ new
          rw [get?_eq_none_iff.2 absent, get?_eq_none_iff.2 (order ▸ absent)]
        · have found := same key
          rwa [get?, get?, if_neg eq, if_neg (first ▸ eq)] at found
      rw [Prod.ext first value, ih rest order others]

theorem insertAll_assoc (es : Entries α) (nodup : es.keys.Nodup) (nodup' : fs.keys.Nodup)
    (nodup'' : gs.keys.Nodup) :
    (es.insertAll fs).insertAll gs = es.insertAll (fs.insertAll gs) := by
  have inner : (fs.insertAll gs).keys.Nodup := nodup_keys_insertAll gs nodup'
  refine eq_of_get? (nodup_keys_insertAll gs (nodup_keys_insertAll fs nodup)) ?_ fun key ↦ ?_
  · -- what is new to the first two together is what is new to each of them
    have new : ∀ key ∈ gs.keys, decide (key ∉ es.keys ++ fs.keys.filter (· ∉ es.keys)) =
        (decide (key ∉ es.keys) && decide (key ∉ fs.keys)) := by
      intro key _
      by_cases mem : key ∈ es.keys <;> simp [mem]
    rw [keys_insertAll _ nodup'', keys_insertAll _ nodup', keys_insertAll _ inner,
      keys_insertAll _ nodup'', List.filter_append, List.filter_filter, List.filter_congr new,
      List.append_assoc]
  · rw [get?_insertAll_of_nodup _ nodup'', get?_insertAll_of_nodup _ nodup',
      get?_insertAll_of_nodup _ inner, get?_insertAll_of_nodup _ nodup'', Option.or_assoc]

theorem insertAll_self (nodup : es.keys.Nodup) : es.insertAll es = es := by
  refine eq_of_get? (nodup_keys_insertAll es nodup) ?_ fun key ↦ ?_
  · rw [keys_insertAll es nodup, List.filter_eq_nil_iff.2 (by simp), List.append_nil]
  · rw [get?_insertAll_of_nodup es nodup, Option.or_self]

theorem keys_mapMaybe_eq_keys_filter (f : α → Option β) (es : Entries α) :
    (es.mapMaybe f).keys = keys (es.filter fun e ↦ (f e.2).isSome) := by
  induction es with
  | nil => rfl
  | cons e es ih =>
    cases made : f e.2 with
    | none => rw [mapMaybe_cons_none made, ih, List.filter_cons_of_neg (by simp [made])]
    | some value =>
      rw [mapMaybe_cons_some made, keys_cons, ih, List.filter_cons_of_pos (by simp [made])]
      rfl

/-- The keys that are left are those that are bound, in their order. -/
theorem keys_mapMaybe (f : α → Option β) (nodup : es.keys.Nodup) :
    (es.mapMaybe f).keys = es.keys.filter fun key ↦ ((es.mapMaybe f).get? key).isSome := by
  have found : ∀ e ∈ es, (f e.2).isSome = ((es.mapMaybe f).get? e.1).isSome := by
    intro e mem
    rw [get?_mapMaybe f nodup, get?_of_mem nodup mem, Option.bind_some]
  rw [keys_mapMaybe_eq_keys_filter, List.filter_congr found, keys, keys, List.filter_map]
  rfl

end Entries

/-! ### Declarations as entries -/

namespace Ty

theorem fields_byName (fields : List (Field Ty)) : (byName fields).map Prod.snd = fields :=
  List.map_map.trans (List.map_id fields)

theorem byName_declare (field : Field Ty) (fields : List (Field Ty)) :
    byName (declare field fields) = (byName fields).insert field.name field := by
  induction fields with
  | nil => rfl
  | cons other fields ih =>
    by_cases same : other.name = field.name
    · simp [declare, byName, Entries.insert, same]
    · rw [declare, if_neg same]
      simp only [byName, List.map_cons, Entries.insert, if_neg same] at ih ⊢
      rw [ih]

/-- To declare keys is to put them in under their names. -/
theorem byName_declareAll (fields added : List (Field Ty)) :
    byName (declareAll fields added) = (byName fields).insertAll (byName added) := by
  induction added generalizing fields with
  | nil => rfl
  | cons field added ih =>
    have first : declareAll fields (field :: added) = declareAll (declare field fields) added := rfl
    rw [first, ih, byName_declare]
    rfl

end Ty

/-! ### Schemas -/

/-- Declared keys of distinct names, with a policy for the others. -/
@[ext]
structure Schema where
  fields : List (Field Ty)
  unknownKeys : UnknownKeys
  nodup_names : (fields.map Field.name).Nodup

namespace Schema

variable (a b c : Schema)

/-- The layer of a type that a schema is. -/
def kind : Kind Ty := .schema a.fields a.unknownKeys

/-- The type of the objects of a schema. -/
def toTy : Ty := .ofKind a.kind

/-- The declared names, in order. -/
def names : List String := a.fields.map Field.name

/-- The declaration under a name. -/
def field? (name : String) : Option (Field Ty) := (byName a.fields).get? name

/-- The schema with the keys of a second one declared on top of its own. -/
def merge : Schema where
  fields := Ty.declareAll a.fields b.fields
  unknownKeys := a.unknownKeys
  nodup_names := Ty.nodup_names_declareAll b.fields a.nodup_names

/-- The schema without the keys that a second one declares. -/
def without : Schema where
  fields := a.fields.filter fun field ↦ field.name ∉ b.names
  unknownKeys := a.unknownKeys
  nodup_names := a.nodup_names.sublist (List.filter_sublist.map Field.name)

/-- The schema that drops the keys that it does not declare. -/
def ignoring : Schema := { a with unknownKeys := .ignore }

/-- Types that are schemas are merged as these. -/
theorem merge?_kind (notes notes' : Annotations) :
    Ty.merge? ⟨a.kind, notes⟩ ⟨b.kind, notes'⟩ = some ⟨(a.merge b).kind, notes⟩ :=
  rfl

/-- A schema in a built type declares distinct names. -/
theorem exists_of_built {allowed : Builder → List Ty → Prop} {t : Ty} {fields : List (Field Ty)}
    {unknownKeys : UnknownKeys} (built : Ty.Built allowed t)
    (layer : t.kind = .schema fields unknownKeys) : ∃ a : Schema, a.kind = t.kind := by
  have own : t.names.Nodup := built.distinctNames.self
  rw [Ty.names, layer] at own
  exact ⟨⟨fields, unknownKeys, own⟩, layer.symm⟩

/-! ### Order and lookup -/

theorem nodup_keys_byName : (byName a.fields).keys.Nodup := by
  rw [keys_byName]
  exact a.nodup_names

theorem field?_eq_none_iff {name : String} : a.field? name = none ↔ name ∉ a.names := by
  rw [field?, Entries.get?_eq_none_iff, keys_byName]
  rfl

theorem field?_merge (name : String) :
    (a.merge b).field? name = (b.field? name).or (a.field? name) := by
  rw [field?, merge, Ty.byName_declareAll, Entries.get?_insertAll_of_nodup _ b.nodup_keys_byName]
  rfl

theorem names_merge : (a.merge b).names = a.names ++ b.names.filter (· ∉ a.names) := by
  rw [names, merge, ← keys_byName, Ty.byName_declareAll,
    Entries.keys_insertAll _ b.nodup_keys_byName, keys_byName, keys_byName]
  rfl

theorem field?_without (name : String) :
    (a.without b).field? name = if name ∈ b.names then none else a.field? name := by
  have kept : byName (a.without b).fields =
      (byName a.fields).filter fun entry ↦ entry.1 ∉ b.names := by
    rw [byName, byName, List.filter_map]
    rfl
  split
  · rename_i mem
    refine (field?_eq_none_iff _).2 fun listed ↦ ?_
    obtain ⟨field, found, rfl⟩ := List.mem_map.1 listed
    exact of_decide_eq_true (List.mem_filter.1 found).2 mem
  · rename_i new
    rw [field?, kept]
    exact Entries.get?_filter _ fun _ ↦ decide_eq_true new

/-- The declarations of a merged schema are those of the second one and the rest of the first. -/
theorem field?_merge_eq_ite (name : String) :
    (a.merge b).field? name =
      if name ∈ b.names then b.field? name else (a.without b).field? name := by
  rw [field?_merge, field?_without]
  by_cases mem : name ∈ b.names
  · have bound : b.field? name ≠ none := mt (field?_eq_none_iff b).1 (not_not.2 mem)
    obtain ⟨field, found⟩ := Option.ne_none_iff_exists'.1 bound
    rw [if_pos mem, found, Option.some_or]
  · rw [if_neg mem, if_neg mem, (field?_eq_none_iff b).2 mem, Option.none_or]

theorem merge_assoc : (a.merge b).merge c = a.merge (b.merge c) := by
  have entries := Entries.insertAll_assoc (byName a.fields) a.nodup_keys_byName
    b.nodup_keys_byName c.nodup_keys_byName
  refine Schema.ext ?_ rfl
  rw [← Ty.fields_byName (merge _ _).fields, ← Ty.fields_byName (merge a _).fields]
  simp only [merge, Ty.byName_declareAll, entries]

theorem merge_self : a.merge a = a := by
  have entries := Entries.insertAll_self a.nodup_keys_byName
  refine Schema.ext ?_ rfl
  rw [← Ty.fields_byName (merge _ _).fields, merge, Ty.byName_declareAll, entries, Ty.fields_byName]

/-! ### Outcomes on an object -/

variable (entries : Entries Value)

/-- What the declared keys yield for an object. -/
def yield : Entries Value :=
  (byName a.fields).mapMaybe fun field ↦ (Check.offer entries field).value?

theorem get?_yield (key : String) :
    (a.yield entries).get? key =
      (a.field? key).bind fun field ↦ (Check.offer entries field).value? :=
  Entries.get?_mapMaybe _ a.nodup_keys_byName key

theorem keys_yield :
    (a.yield entries).keys = a.names.filter fun key ↦ ((a.yield entries).get? key).isSome := by
  rw [yield, Entries.keys_mapMaybe _ a.nodup_keys_byName, keys_byName]
  rfl

/-- A schema that drops other keys accepts an object if the declaration under each name is settled.
-/
theorem accepts_ignoring_iff :
    a.ignoring.toTy.accepts (.object entries) = true ↔
      ∀ key, ∀ field ∈ a.field? key, Check.isSettled entries field = true := by
  have accepts := Ty.accepts_schema_iff a.fields .ignore [] entries
  refine accepts.trans ⟨?_, fun settled ↦ ⟨fun field mem ↦ ?_, nofun⟩⟩
  · rintro ⟨settled, -⟩ key field found
    obtain ⟨_, mem, eq⟩ := List.mem_map.1 (Entries.mem_of_get?_eq_some found)
    cases eq
    exact settled field mem
  · have listed : (field.name, field) ∈ byName a.fields := List.mem_map_of_mem mem
    exact settled field.name field (Entries.get?_of_mem a.nodup_keys_byName listed)

theorem check_ignoring {output : Value}
    (checked : a.ignoring.toTy.check (.object entries) = .ok output) :
    output = .object (a.yield entries) := by
  have outcome := Ty.schemaOutcome_run a.fields .ignore [] entries
  have came := outcome.output_eq _ (Ty.check_eq_ok_iff.1 checked)
  rw [Option.some_inj.1 came, if_neg nofun, List.append_nil, yield, Entries.mapMaybe, byName,
    List.filterMap_map]
  rfl

/-- A schema that drops other keys yields what its declared keys yield. -/
theorem check_of_accepts (accepts : a.ignoring.toTy.accepts (.object entries) = true) :
    a.ignoring.toTy.check (.object entries) = .ok (.object (a.yield entries)) := by
  obtain ⟨output, came⟩ := Ty.accepts_iff.1 accepts
  have checked := Ty.check_eq_ok_iff.2 came
  rwa [← a.check_ignoring entries checked]

/-! ### Merged schemas on an object -/

/-- The merged schema accepts what both the second one and the rest of the first one accept. -/
theorem accepts_merge_iff :
    (a.merge b).ignoring.toTy.accepts (.object entries) = true ↔
      (a.without b).ignoring.toTy.accepts (.object entries) = true ∧
        b.ignoring.toTy.accepts (.object entries) = true := by
  rw [accepts_ignoring_iff, accepts_ignoring_iff, accepts_ignoring_iff, ← forall_and]
  refine forall_congr' fun key ↦ ?_
  rw [field?_merge_eq_ite]
  by_cases mem : key ∈ b.names
  · rw [field?_without, if_pos mem, if_pos mem]
    exact (and_iff_right nofun).symm
  · rw [(field?_eq_none_iff b).2 mem, if_neg mem]
    exact (and_iff_left nofun).symm

/-- The merged schema yields under the names of the second one what that one yields, and under
others what the rest of the first one yields. -/
theorem get?_yield_merge (key : String) :
    ((a.merge b).yield entries).get? key =
      if key ∈ b.names then (b.yield entries).get? key
      else ((a.without b).yield entries).get? key := by
  rw [get?_yield, get?_yield, get?_yield, field?_merge_eq_ite]
  split <;> rfl

/-- What is said of a merged schema on an object, next to the second schema and to the first one
without the keys of that one. All of them drop the keys that they do not declare. -/
structure MergeOutcome : Prop where
  /-- The merged schema accepts the object exactly if both of the others do. -/
  accepts_iff : (a.merge b).ignoring.toTy.accepts (.object entries) = true ↔
    (a.without b).ignoring.toTy.accepts (.object entries) = true ∧
      b.ignoring.toTy.accepts (.object entries) = true
  /-- Its output binds each key of the second schema as the output of that one does, and each other
  key as the output of the rest of the first one does. The keys of the first schema come first, in
  its order, and then the new ones in the order of the second. -/
  output : ∀ output, (a.merge b).ignoring.toTy.check (.object entries) = .ok output →
    ∃ merged rest second : Entries Value, output = .object merged ∧
      (a.without b).ignoring.toTy.check (.object entries) = .ok (.object rest) ∧
      b.ignoring.toTy.check (.object entries) = .ok (.object second) ∧
      (∀ key, merged.get? key = if key ∈ b.names then second.get? key else rest.get? key) ∧
      merged.keys = (a.names ++ b.names.filter (· ∉ a.names)).filter fun key ↦
        (merged.get? key).isSome

theorem mergeOutcome : MergeOutcome a b entries where
  accepts_iff := a.accepts_merge_iff b entries
  output output checked := by
    have accepted : (a.merge b).ignoring.toTy.accepts (.object entries) = true :=
      Ty.accepts_iff.2 ⟨output, Ty.check_eq_ok_iff.1 checked⟩
    obtain ⟨rest, second⟩ := (a.accepts_merge_iff b entries).1 accepted
    refine ⟨_, _, _, check_ignoring _ entries checked, check_of_accepts _ entries rest,
      check_of_accepts _ entries second, a.get?_yield_merge b entries, ?_⟩
    rw [← names_merge]
    exact keys_yield _ entries

/-- **Laws of merging.** Types that are schemas are merged as schemas. Merging is associative, order
and policy included, and a schema merged with itself is the schema. And on every object a merged
schema is as described by its parts, if none of them minds other keys. -/
theorem merge_laws :
    (∀ notes notes', Ty.merge? ⟨a.kind, notes⟩ ⟨b.kind, notes'⟩ = some ⟨(a.merge b).kind, notes⟩) ∧
    (a.merge b).merge c = a.merge (b.merge c) ∧
    a.merge a = a ∧
    ∀ entries, MergeOutcome a b entries :=
  ⟨a.merge?_kind b, a.merge_assoc b c, a.merge_self, a.mergeOutcome b⟩

end Schema

end JsonTyping
