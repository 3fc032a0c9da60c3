/-!
Maps from text keys that keep the order of first insertion. Writing to a key that is present
keeps its place; a new key goes to the end.
-/

namespace FactModel

universe u v

/-- The pairs with the value of `key` replaced, or with a new pair at the end. -/
def putPair {α : Type u} (key : String) (value : α) : List (String × α) → List (String × α)
  | [] => [(key, value)]
  | pair :: rest => if pair.1 = key then (key, value) :: rest else pair :: putPair key value rest

theorem keys_putPair {α : Type u} (key : String) (value : α) (pairs : List (String × α)) :
    (putPair key value pairs).map Prod.fst =
      if key ∈ pairs.map Prod.fst then pairs.map Prod.fst else pairs.map Prod.fst ++ [key] := by
  induction pairs with
  | nil => simp [putPair]
  | cons pair rest ih =>
    by_cases h : pair.1 = key
    · simp [putPair, h]
    · simp only [putPair, h, if_false, List.map_cons, ih, List.mem_cons, Ne.symm h, false_or]
      split <;> simp

theorem lookup_pair_cons {α : Type u} (key other : String) (value : α) (rest : List (String × α)) :
    ((key, value) :: rest).lookup other = if other = key then some value else rest.lookup other := by
  by_cases h : other = key
  · simp [h]
  · simp [List.lookup_cons, beq_eq_false_iff_ne.2 h, h]

theorem lookup_putPair {α : Type u} (key other : String) (value : α) (pairs : List (String × α)) :
    (putPair key value pairs).lookup other =
      if other = key then some value else pairs.lookup other := by
  induction pairs with
  | nil => simp [putPair, lookup_pair_cons]
  | cons pair rest ih =>
    obtain ⟨first, old⟩ := pair
    by_cases h : first = key
    · subst h
      by_cases h' : other = first <;> simp [putPair, lookup_pair_cons, h']
    · by_cases h' : other = first
      · subst h'
        simp [putPair, h]
      · simp [putPair, h, lookup_pair_cons, h', ih]

structure OrderedMap (α : Type u) where
  entries : List (String × α)
  nodup : (entries.map Prod.fst).Nodup

namespace OrderedMap

variable {α : Type u} {β : Type v}

def empty : OrderedMap α := ⟨[], by simp⟩

instance : EmptyCollection (OrderedMap α) := ⟨empty⟩

instance : Inhabited (OrderedMap α) := ⟨empty⟩

theorem ext_entries {m n : OrderedMap α} (h : m.entries = n.entries) : m = n := by
  cases m; cases n; cases h; rfl

instance [DecidableEq α] : DecidableEq (OrderedMap α) := fun m n =>
  if h : m.entries = n.entries then isTrue (ext_entries h)
  else isFalse fun same => h (same ▸ rfl)

def keys (m : OrderedMap α) : List String := m.entries.map Prod.fst

def values (m : OrderedMap α) : List α := m.entries.map Prod.snd

def size (m : OrderedMap α) : Nat := m.entries.length

def find? (m : OrderedMap α) (key : String) : Option α := m.entries.lookup key

def contains (m : OrderedMap α) (key : String) : Bool := (m.find? key).isSome

def insert (m : OrderedMap α) (key : String) (value : α) : OrderedMap α where
  entries := putPair key value m.entries
  nodup := by
    have distinct := m.nodup
    rw [keys_putPair]
    split
    · exact distinct
    · rename_i fresh
      rw [List.nodup_append]
      refine ⟨distinct, by simp, ?_⟩
      intro a ha b hb same
      rw [List.mem_singleton] at hb
      exact fresh (hb ▸ same ▸ ha)

def erase (m : OrderedMap α) (key : String) : OrderedMap α where
  entries := m.entries.filter fun pair => pair.1 ≠ key
  nodup := m.nodup.sublist (List.Sublist.map _ List.filter_sublist)

def mapValues (m : OrderedMap α) (f : String → α → β) : OrderedMap β where
  entries := m.entries.map fun pair => (pair.1, f pair.1 pair.2)
  nodup := by simpa [List.map_map, Function.comp_def] using m.nodup

def modify (m : OrderedMap α) (key : String) (f : α → α) : OrderedMap α :=
  m.mapValues fun k value => if k = key then f value else value

/-- Later pairs overwrite earlier ones of the same key. -/
def ofList (pairs : List (String × α)) : OrderedMap α :=
  pairs.foldl (fun m pair => m.insert pair.1 pair.2) empty

@[simp] theorem find?_empty (key : String) : (empty : OrderedMap α).find? key = none := rfl

theorem find?_insert (m : OrderedMap α) (key other : String) (value : α) :
    (m.insert key value).find? other = if other = key then some value else m.find? other :=
  lookup_putPair key other value m.entries

theorem keys_insert (m : OrderedMap α) (key : String) (value : α) :
    (m.insert key value).keys = if key ∈ m.keys then m.keys else m.keys ++ [key] :=
  keys_putPair key value m.entries

@[simp] theorem keys_mapValues (m : OrderedMap α) (f : String → α → β) :
    (m.mapValues f).keys = m.keys := by
  simp [keys, mapValues, Function.comp_def]

@[simp] theorem keys_modify (m : OrderedMap α) (key : String) (f : α → α) :
    (m.modify key f).keys = m.keys := keys_mapValues m _

end OrderedMap

end FactModel
