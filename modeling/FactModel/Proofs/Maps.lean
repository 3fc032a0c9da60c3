import FactModel.OrderedMap
import Mathlib.Data.List.Nodup

/-!
Reading ordered maps: what a lookup finds is what the entries hold, and a map whose keys are the
ids of its elements is as good as the list of its elements.
-/

namespace FactModel

universe u

theorem lookup_eq_some_iff {α : Type u} {pairs : List (String × α)}
    (distinct : (pairs.map Prod.fst).Nodup) (key : String) (value : α) :
    pairs.lookup key = some value ↔ (key, value) ∈ pairs := by
  induction pairs with
  | nil => simp
  | cons pair rest ih =>
    obtain ⟨first, old⟩ := pair
    rw [List.map_cons, List.nodup_cons] at distinct
    rw [lookup_pair_cons, List.mem_cons, Prod.mk.injEq]
    by_cases same : key = first
    · subst same
      have absent : (key, value) ∉ rest := fun member =>
        distinct.1 (List.mem_map.mpr ⟨(key, value), member, rfl⟩)
      simp [absent, eq_comm]
    · simp [same, ih distinct.2]

theorem lookup_zip {α : Type u} {keys : List String} {values : List α}
    (distinct : keys.Nodup) (length : values.length = keys.length) :
    keys.map (fun key => (keys.zip values).lookup key) = values.map some := by
  induction keys generalizing values with
  | nil => simp [List.length_eq_zero_iff.mp length]
  | cons key rest ih =>
    cases values with
    | nil => cases length
    | cons value others =>
      rw [List.nodup_cons] at distinct
      have later : rest.map (fun other => ((key, value) :: rest.zip others).lookup other) =
          rest.map fun other => (rest.zip others).lookup other := by
        apply List.map_congr_left
        intro other member
        have apart : other ≠ key := fun same => distinct.1 (same ▸ member)
        rw [lookup_pair_cons, if_neg apart]
      have first : ((key, value) :: rest.zip others).lookup key = some value := by
        rw [lookup_pair_cons, if_pos rfl]
      simp only [List.zip_cons_cons, List.map_cons]
      rw [first, later, ih distinct.2 (Nat.succ.inj length)]

namespace OrderedMap

variable {α : Type u}

theorem find?_eq_some_iff (m : OrderedMap α) (key : String) (value : α) :
    m.find? key = some value ↔ (key, value) ∈ m.entries :=
  lookup_eq_some_iff m.nodup key value

theorem find?_isSome_iff (m : OrderedMap α) (key : String) :
    (m.find? key).isSome = true ↔ key ∈ m.keys := by
  simp only [Option.isSome_iff_exists, find?_eq_some_iff, keys, List.mem_map, Prod.exists,
    exists_and_right, exists_eq_right]

theorem contains_iff (m : OrderedMap α) (key : String) :
    m.contains key = true ↔ key ∈ m.keys := m.find?_isSome_iff key

theorem find?_eq_none_iff (m : OrderedMap α) (key : String) :
    m.find? key = none ↔ key ∉ m.keys := by
  rw [← find?_isSome_iff, Option.not_isSome_iff_eq_none]

theorem mem_values_of_find? {m : OrderedMap α} {key : String} {value : α}
    (found : m.find? key = some value) : value ∈ m.values :=
  List.mem_map.mpr ⟨(key, value), (m.find?_eq_some_iff key value).mp found, rfl⟩

theorem mem_keys_of_find? {m : OrderedMap α} {key : String} {value : α}
    (found : m.find? key = some value) : key ∈ m.keys :=
  List.mem_map.mpr ⟨(key, value), (m.find?_eq_some_iff key value).mp found, rfl⟩

theorem exists_find?_of_mem_values {m : OrderedMap α} {value : α} (member : value ∈ m.values) :
    ∃ key, m.find? key = some value := by
  obtain ⟨pair, held, rfl⟩ := List.mem_map.mp member
  exact ⟨pair.1, (m.find?_eq_some_iff pair.1 pair.2).mpr held⟩

theorem exists_find?_of_mem_keys {m : OrderedMap α} {key : String} (held : key ∈ m.keys) :
    ∃ value, m.find? key = some value :=
  Option.isSome_iff_exists.mp ((m.find?_isSome_iff key).mpr held)

theorem entries_foldl_insert (m : OrderedMap α) (pairs : List (String × α))
    (distinct : (m.keys ++ pairs.map Prod.fst).Nodup) :
    (pairs.foldl (fun m pair => m.insert pair.1 pair.2) m).entries = m.entries ++ pairs := by
  have append : ∀ (key : String) (value : α) (old : List (String × α)),
      key ∉ old.map Prod.fst → putPair key value old = old ++ [(key, value)] := by
    intro key value old fresh
    induction old with
    | nil => rfl
    | cons pair rest ih =>
      rw [List.map_cons, List.mem_cons, not_or] at fresh
      rw [putPair, if_neg (Ne.symm fresh.1), ih fresh.2, List.cons_append]
  induction pairs generalizing m with
  | nil => simp
  | cons pair rest ih =>
    have fresh : pair.1 ∉ m.keys := by
      intro member
      have apart := (List.nodup_append.mp distinct).2.2
      exact apart pair.1 member pair.1 List.mem_cons_self rfl
    have entries : (m.insert pair.1 pair.2).entries = m.entries ++ [pair] :=
      append pair.1 pair.2 m.entries fresh
    have keys : (m.insert pair.1 pair.2).keys = m.keys ++ [pair.1] := by
      rw [keys_insert, if_neg fresh]
    rw [List.foldl_cons, ih, entries, List.append_assoc, List.singleton_append]
    rw [keys, List.append_assoc, List.singleton_append]
    exact distinct

theorem entries_ofList {pairs : List (String × α)} (distinct : (pairs.map Prod.fst).Nodup) :
    (ofList pairs).entries = pairs := by
  have nothing : (empty : OrderedMap α).keys = [] := rfl
  rw [ofList, entries_foldl_insert empty pairs (by rwa [nothing, List.nil_append])]
  rfl

theorem find?_ofList {pairs : List (String × α)} (distinct : (pairs.map Prod.fst).Nodup)
    (key : String) : (ofList pairs).find? key = pairs.lookup key := by
  rw [find?, entries_ofList distinct]

/-! Lookups in a map that was changed -/

theorem lookup_map {β : Type u} (f : String → α → β) (pairs : List (String × α)) (key : String) :
    (pairs.map fun pair => (pair.1, f pair.1 pair.2)).lookup key =
      (pairs.lookup key).map (f key) := by
  induction pairs with
  | nil => rfl
  | cons pair rest ih =>
    obtain ⟨first, value⟩ := pair
    rw [List.map_cons, lookup_pair_cons, lookup_pair_cons, ih]
    by_cases same : key = first
    · subst same
      simp
    · simp [same]

theorem find?_mapValues {β : Type u} (m : OrderedMap α) (f : String → α → β) (key : String) :
    (m.mapValues f).find? key = (m.find? key).map (f key) := lookup_map f m.entries key

@[simp] theorem mapValues_self (m : OrderedMap α) : (m.mapValues fun _ value => value) = m :=
  ext_entries (by simp [mapValues])

theorem mapValues_mapValues {β γ : Type u} (m : OrderedMap α) (f : String → α → β)
    (g : String → β → γ) :
    (m.mapValues f).mapValues g = m.mapValues fun key value => g key (f key value) :=
  ext_entries (by simp [mapValues])

theorem find?_modify (m : OrderedMap α) (key other : String) (f : α → α) :
    (m.modify key f).find? other =
      if other = key then (m.find? other).map f else m.find? other := by
  rw [modify, find?_mapValues]
  by_cases same : other = key
  · simp [same]
  · simp [same]

theorem map_find?_modify {β : Type*} (m : OrderedMap α) (key other : String) {f : α → α} {g : α → β}
    (same : ∀ value, g (f value) = g value) :
    ((m.modify key f).find? other).map g = (m.find? other).map g := by
  rw [find?_modify]
  split
  · rw [Option.map_map]
    congr 1
    exact funext same
  · rfl

theorem find?_erase (m : OrderedMap α) (key other : String) :
    (m.erase key).find? other = if other = key then none else m.find? other := by
  have pruned : ∀ pairs : List (String × α),
      (pairs.filter fun pair => pair.1 ≠ key).lookup other =
        if other = key then none else pairs.lookup other := by
    intro pairs
    induction pairs with
    | nil => simp
    | cons pair rest ih =>
      obtain ⟨first, value⟩ := pair
      by_cases here : first = key
      · rw [List.filter_cons_of_neg (by simpa using here), ih, lookup_pair_cons]
        by_cases same : other = key
        · simp [same]
        · simp [same, here]
      · rw [List.filter_cons_of_pos (by simpa using here), lookup_pair_cons, ih, lookup_pair_cons]
        by_cases same : other = key
        · simp [same, Ne.symm here]
        · simp [same]
  exact pruned m.entries

theorem find?_erase_eq_some {m : OrderedMap α} {key other : String} {found : α} :
    (m.erase key).find? other = some found ↔ other ≠ key ∧ m.find? other = some found := by
  rw [find?_erase]
  by_cases same : other = key
  · simp [same]
  · simp [same]

theorem find?_foldl_erase (m : OrderedMap α) (keys : List String) (key : String) :
    (keys.foldl OrderedMap.erase m).find? key = if key ∈ keys then none else m.find? key := by
  induction keys generalizing m with
  | nil => rfl
  | cons first rest ih =>
    rw [List.foldl_cons, ih, find?_erase]
    by_cases later : key ∈ rest
    · simp [later]
    · simp [later]

theorem insert_insert (m : OrderedMap α) (key : String) (first second : α) :
    (m.insert key first).insert key second = m.insert key second := by
  apply ext_entries
  show putPair key second (putPair key first m.entries) = putPair key second m.entries
  induction m.entries with
  | nil => simp [putPair]
  | cons pair rest ih =>
    by_cases here : pair.1 = key
    · simp [putPair, here]
    · simp [putPair, here, ih]

theorem find?_insert_eq_some {m : OrderedMap α} {key other : String} {value found : α} :
    (m.insert key value).find? other = some found ↔
      (other = key ∧ found = value) ∨ (other ≠ key ∧ m.find? other = some found) := by
  rw [find?_insert]
  by_cases same : other = key
  · simp [same, eq_comm]
  · simp [same]

theorem map_find?_keys (m : OrderedMap α) :
    m.keys.map (fun key => (key, m.find? key)) =
      m.entries.map fun pair => (pair.1, some pair.2) := by
  rw [keys, List.map_map]
  refine List.map_congr_left fun pair held => ?_
  have found := (m.find?_eq_some_iff pair.1 pair.2).mpr held
  rw [Function.comp_apply, found]

theorem ext_find? {m n : OrderedMap α} (sameKeys : m.keys = n.keys)
    (same : ∀ key, m.find? key = n.find? key) : m = n := by
  have entries := map_find?_keys m
  simp only [sameKeys, same, map_find?_keys n] at entries
  have separate : Function.Injective fun pair : String × α => (pair.1, some pair.2) := by
    rintro ⟨_, _⟩ ⟨_, _⟩ equal
    simpa using equal
  exact ext_entries (List.map_injective_iff.mpr separate entries.symm)

theorem mapValues_insert {β : Type u} (m : OrderedMap α) (key : String) (value : α)
    (f : String → α → β) :
    (m.insert key value).mapValues f = (m.mapValues f).insert key (f key value) := by
  refine ext_find? (by simp [keys_insert]) fun other => ?_
  rw [find?_mapValues, find?_insert, find?_insert, find?_mapValues]
  by_cases same : other = key
  · simp [same]
  · simp [same]

/-- Writing back a changed value is changing it in place. -/
theorem insert_eq_modify {m : OrderedMap α} {key : String} {value : α}
    (found : m.find? key = some value) (f : α → α) :
    m.insert key (f value) = m.modify key f := by
  refine ext_find? ?_ fun other => ?_
  · rw [keys_insert, if_pos (mem_keys_of_find? found), keys_modify]
  · rw [find?_insert, find?_modify]
    by_cases same : other = key
    · subst same
      simp [found]
    · simp [same]

theorem modify_eq_self {m : OrderedMap α} {key : String} {value : α}
    (found : m.find? key = some value) {f : α → α} (same : f value = value) :
    m.modify key f = m := by
  refine ext_find? (keys_modify ..) fun other => ?_
  rw [find?_modify]
  by_cases here : other = key
  · rw [here, if_pos rfl, found, Option.map_some, same]
  · rw [if_neg here]

theorem keys_erase (m : OrderedMap α) (key : String) :
    (m.erase key).keys = m.keys.filter fun other => other ≠ key := by
  simp [keys, erase, List.filter_map, Function.comp_def]

/-- A map of one key more, without that key. -/
theorem erase_eq_of_fresh {m n : OrderedMap α} {key : String} (fresh : key ∉ n.keys)
    (keys : m.keys = n.keys ++ [key])
    (same : ∀ other, other ≠ key → m.find? other = n.find? other) : m.erase key = n := by
  refine ext_find? ?_ fun other => ?_
  · have others : n.keys.filter (fun other => other ≠ key) = n.keys :=
      List.filter_eq_self.mpr fun other held => by
        simpa using fun here : other = key => fresh (here ▸ held)
    rw [keys_erase, keys, List.filter_append, others]
    simp
  · rw [find?_erase]
    by_cases here : other = key
    · rw [here, if_pos rfl, (n.find?_eq_none_iff key).mpr fresh]
    · rw [if_neg here, same other here]

theorem erase_insert {m : OrderedMap α} {key : String} (fresh : key ∉ m.keys) (value : α) :
    (m.insert key value).erase key = m := by
  refine erase_eq_of_fresh fresh ?_ fun other apart => ?_
  · rw [keys_insert, if_neg fresh]
  · rw [find?_insert, if_neg apart]

theorem contains_eq_isSome (m : OrderedMap α) (key : String) :
    m.contains key = (m.find? key).isSome := rfl

theorem mem_keys_insert {m : OrderedMap α} {key other : String} {value : α} :
    other ∈ (m.insert key value).keys ↔ other ∈ m.keys ∨ other = key := by
  rw [keys_insert]
  split
  · rename_i held
    constructor
    · exact .inl
    · rintro (member | rfl)
      · exact member
      · exact held
  · simp

theorem keys_subset_insert (m : OrderedMap α) (key : String) (value : α) :
    m.keys ⊆ (m.insert key value).keys := fun _ held => mem_keys_insert.mpr (.inl held)

theorem mem_keys_foldl_insert {ι : Type*} (key : ι → String) (value : ι → α) (items : List ι)
    (m : OrderedMap α) (k : String) :
    k ∈ (items.foldl (fun m i => m.insert (key i) (value i)) m).keys ↔
      k ∈ m.keys ∨ k ∈ items.map key := by
  induction items generalizing m with
  | nil => simp
  | cons i rest ih =>
    rw [List.foldl_cons, ih, mem_keys_insert, List.map_cons, List.mem_cons, or_assoc]

theorem mem_keys_ofList (pairs : List (String × α)) (key : String) :
    key ∈ (ofList pairs).keys ↔ key ∈ pairs.map Prod.fst := by
  have nothing : key ∉ (empty : OrderedMap α).keys := List.not_mem_nil
  exact (mem_keys_foldl_insert Prod.fst Prod.snd pairs empty key).trans (or_iff_right nothing)

theorem keys_erase_subset (m : OrderedMap α) (key : String) : (m.erase key).keys ⊆ m.keys := by
  rw [keys_erase]
  exact List.filter_subset_self _

theorem mem_keys_erase {m : OrderedMap α} {key other : String} :
    other ∈ (m.erase key).keys ↔ other ∈ m.keys ∧ other ≠ key := by
  rw [← find?_isSome_iff, find?_erase, ← find?_isSome_iff]
  by_cases same : other = key
  · simp [same]
  · simp [same]

def KeyedBy (m : OrderedMap α) (id : α → String) : Prop := ∀ pair ∈ m.entries, id pair.2 = pair.1

instance (m : OrderedMap α) (id : α → String) : Decidable (m.KeyedBy id) :=
  inferInstanceAs (Decidable (∀ pair ∈ m.entries, id pair.2 = pair.1))

namespace KeyedBy

variable {m : OrderedMap α} {id : α → String}

theorem id_of_find? (keyed : m.KeyedBy id) {key : String} {value : α}
    (found : m.find? key = some value) : id value = key :=
  keyed (key, value) ((m.find?_eq_some_iff key value).mp found)

theorem find?_id (keyed : m.KeyedBy id) {value : α} (member : value ∈ m.values) :
    m.find? (id value) = some value := by
  obtain ⟨pair, held, rfl⟩ := List.mem_map.mp member
  rw [keyed pair held, find?_eq_some_iff]
  exact held

theorem map_id_values (keyed : m.KeyedBy id) : m.values.map id = m.keys := by
  rw [values, keys, List.map_map]
  exact List.map_congr_left keyed

theorem nodup_ids (keyed : m.KeyedBy id) : (m.values.map id).Nodup := by
  rw [keyed.map_id_values]
  exact m.nodup

theorem eq_of_id (keyed : m.KeyedBy id) {a b : α} (ha : a ∈ m.values) (hb : b ∈ m.values)
    (same : id a = id b) : a = b := by
  have found := keyed.find?_id ha
  rw [same, keyed.find?_id hb] at found
  exact (Option.some.inj found).symm

theorem of_find? (found : ∀ key value, m.find? key = some value → id value = key) :
    m.KeyedBy id := fun pair held =>
  found pair.1 pair.2 ((m.find?_eq_some_iff pair.1 pair.2).mpr held)

theorem empty : (∅ : OrderedMap α).KeyedBy id := fun _ held => nomatch held

theorem insert (keyed : m.KeyedBy id) (value : α) : (m.insert (id value) value).KeyedBy id := by
  refine of_find? fun key other found => ?_
  rw [find?_insert] at found
  split at found
  · cases found
    exact (‹key = id value›).symm
  · exact keyed.id_of_find? found

theorem erase (keyed : m.KeyedBy id) (key : String) : (m.erase key).KeyedBy id :=
  fun pair held => keyed pair (List.mem_of_mem_filter held)

theorem foldl_erase (keyed : m.KeyedBy id) (keys : List String) :
    (keys.foldl OrderedMap.erase m).KeyedBy id := by
  induction keys generalizing m with
  | nil => exact keyed
  | cons key rest ih => exact ih (keyed.erase key)

theorem mapValues (keyed : m.KeyedBy id) {f : String → α → α}
    (same : ∀ key value, id (f key value) = id value) : (m.mapValues f).KeyedBy id := by
  intro pair held
  obtain ⟨old, listed, rfl⟩ := List.mem_map.mp held
  exact (same old.1 old.2).trans (keyed old listed)

theorem modify (keyed : m.KeyedBy id) (key : String) {f : α → α}
    (same : ∀ value, id (f value) = id value) : (m.modify key f).KeyedBy id := by
  refine keyed.mapValues fun other value => ?_
  split
  · exact same value
  · rfl

end KeyedBy

end OrderedMap

end FactModel
