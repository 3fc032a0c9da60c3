import FactModel.Value

/-!
The shape of free values: induction over what is nested in a value, the parts of a value, how deep
its brackets go and how long its integers are.
-/

namespace FactModel

namespace Value

/-- Induction that gives what is nested in a value by membership. -/
@[elab_as_elim, induction_eliminator]
theorem ind {motive : Value → Prop} (null : motive null) (bool : ∀ b, motive (bool b))
    (int : ∀ n, motive (int n)) (float : ∀ x, motive (float x)) (str : ∀ s, motive (str s))
    (arr : ∀ items, (∀ v ∈ items, motive v) → motive (arr items))
    (obj : ∀ fields, (∀ pair ∈ fields, motive pair.2) → motive (obj fields)) (v : Value) :
    motive v :=
  @Value.rec motive (fun items => ∀ v ∈ items, motive v)
    (fun fields => ∀ pair ∈ fields, motive pair.2) (fun pair => motive pair.2)
    null bool int float str arr obj
    (fun _ member => nomatch member)
    (fun _ _ first rest => List.forall_mem_cons.mpr ⟨first, rest⟩)
    (fun _ member => nomatch member)
    (fun _ _ first rest => List.forall_mem_cons.mpr ⟨first, rest⟩)
    (fun _ _ value => value) v

/-! Recursion over items and fields, as maps -/

theorem canonicalItems_eq (items : List Value) : canonicalItems items = items.map canonical := by
  induction items with
  | nil => rfl
  | cons v rest ih => rw [canonicalItems, ih, List.map_cons]

theorem canonicalFields_eq (fields : List (String × Value)) :
    canonicalFields fields = fields.map fun pair => (pair.1, pair.2.canonical) := by
  induction fields with
  | nil => rfl
  | cons pair rest ih => rw [canonicalFields, ih, List.map_cons]

theorem dumpItems_eq (items : List Value) : dumpItems items = items.map dump := by
  induction items with
  | nil => rfl
  | cons v rest ih => rw [dumpItems, ih, List.map_cons]

theorem dumpFields_eq (fields : List (String × Value)) :
    dumpFields fields = fields.map fun pair => (pair.1, pair.2.dump) := by
  induction fields with
  | nil => rfl
  | cons pair rest ih => rw [dumpFields, ih, List.map_cons]

theorem prettyItems_eq (depth : Nat) (items : List Value) :
    prettyItems depth items = items.map (pretty depth) := by
  induction items with
  | nil => rfl
  | cons v rest ih => rw [prettyItems, ih, List.map_cons]

theorem prettyFields_eq (depth : Nat) (fields : List (String × Value)) :
    prettyFields depth fields = fields.map fun pair =>
      Text.encode pair.1.toList ++ ':' :: ' ' :: pair.2.pretty depth := by
  induction fields with
  | nil => rfl
  | cons pair rest ih => rw [prettyFields, ih, List.map_cons]

theorem settledItems_eq (items : List Value) : settledItems items = items.map settled := by
  induction items with
  | nil => rfl
  | cons v rest ih => rw [settledItems, ih, List.map_cons]

/-! Parts -/

/-- What stands in a value, at any depth, the value itself included. -/
inductive Part (part : Value) : Value → Prop where
  | self : Part part part
  | item {v : Value} {items : List Value} (member : v ∈ items) (inside : Part part v) :
      Part part (arr items)
  | field {key : String} {v : Value} {fields : List (String × Value)} (member : (key, v) ∈ fields)
      (inside : Part part v) : Part part (obj fields)

section Parts

variable {part : Value}

@[simp] theorem part_null : Part part null ↔ part = null :=
  ⟨fun inside => by cases inside; rfl, fun same => same ▸ .self⟩

@[simp] theorem part_bool {b : Bool} : Part part (bool b) ↔ part = bool b :=
  ⟨fun inside => by cases inside; rfl, fun same => same ▸ .self⟩

@[simp] theorem part_int {n : Int} : Part part (int n) ↔ part = int n :=
  ⟨fun inside => by cases inside; rfl, fun same => same ▸ .self⟩

@[simp] theorem part_float {x : Binary64} : Part part (float x) ↔ part = float x :=
  ⟨fun inside => by cases inside; rfl, fun same => same ▸ .self⟩

@[simp] theorem part_str {s : String} : Part part (str s) ↔ part = str s :=
  ⟨fun inside => by cases inside; rfl, fun same => same ▸ .self⟩

@[simp] theorem part_arr {items : List Value} :
    Part part (arr items) ↔ part = arr items ∨ ∃ v ∈ items, Part part v := by
  constructor
  · rintro (_ | ⟨member, inside⟩ | _)
    · exact .inl rfl
    · exact .inr ⟨_, member, inside⟩
  · rintro (rfl | ⟨v, member, inside⟩)
    · exact .self
    · exact .item member inside

@[simp] theorem part_obj {fields : List (String × Value)} :
    Part part (obj fields) ↔ part = obj fields ∨ ∃ field ∈ fields, Part part field.2 := by
  constructor
  · rintro (_ | _ | ⟨member, inside⟩)
    · exact .inl rfl
    · exact .inr ⟨_, member, inside⟩
  · rintro (rfl | ⟨field, member, inside⟩)
    · exact .self
    · exact .field member inside

end Parts

mutual

/-- Whether a test holds of a value and of everything in it. -/
def all (p : Value → Bool) : Value → Bool
  | arr items => p (arr items) && allItems p items
  | obj fields => p (obj fields) && allFields p fields
  | v => p v

def allItems (p : Value → Bool) : List Value → Bool
  | [] => true
  | v :: rest => v.all p && allItems p rest

def allFields (p : Value → Bool) : List (String × Value) → Bool
  | [] => true
  | (_, v) :: rest => v.all p && allFields p rest

end

theorem allItems_iff {p : Value → Bool} {items : List Value} :
    allItems p items = true ↔ ∀ v ∈ items, v.all p = true := by
  induction items with
  | nil => simp [allItems]
  | cons v rest ih => rw [allItems, Bool.and_eq_true, ih, List.forall_mem_cons]

theorem allFields_iff {p : Value → Bool} {fields : List (String × Value)} :
    allFields p fields = true ↔ ∀ field ∈ fields, field.2.all p = true := by
  induction fields with
  | nil => simp [allFields]
  | cons field rest ih => rw [allFields, Bool.and_eq_true, ih, List.forall_mem_cons]

theorem all_iff (p : Value → Bool) (v : Value) :
    v.all p = true ↔ ∀ part, Part part v → p part = true := by
  induction v with
  | arr items ih =>
    rw [all, Bool.and_eq_true, allItems_iff]
    simp only [part_arr, forall_eq_or_imp, forall_exists_index, and_imp]
    refine and_congr_right fun _ => ⟨fun every part v member inside => ?_, fun every v member => ?_⟩
    · exact (ih v member).mp (every v member) part inside
    · exact (ih v member).mpr fun part inside => every part v member inside
  | obj fields ih =>
    rw [all, Bool.and_eq_true, allFields_iff]
    simp only [part_obj, forall_eq_or_imp, forall_exists_index, and_imp]
    refine and_congr_right fun _ =>
      ⟨fun every part field member inside => ?_, fun every field member => ?_⟩
    · exact (ih field member).mp (every field member) part inside
    · exact (ih field member).mpr fun part inside => every part field member inside
  | _ => simp [all]

/-- All floats in a value are finite. -/
def Finite (v : Value) : Prop := ∀ x, Part (float x) v → x.isFinite = true

/-- No object in a value holds a key twice. -/
def KeysApart (v : Value) : Prop := ∀ fields, Part (obj fields) v → (fields.map Prod.fst).Nodup

instance (v : Value) : Decidable v.Finite :=
  decidable_of_iff (v.all fun part => match part with | float x => x.isFinite | _ => true) <| by
    rw [all_iff]
    refine ⟨fun every x inside => every (float x) inside, fun finite part inside => ?_⟩
    cases part with
    | float x => exact finite x inside
    | _ => rfl

instance (v : Value) : Decidable v.KeysApart :=
  decidable_of_iff (v.all fun part => match part with
    | obj fields => decide (fields.map Prod.fst).Nodup
    | _ => true) <| by
    rw [all_iff]
    refine ⟨fun every fields inside => of_decide_eq_true (every (obj fields) inside),
      fun apart part inside => ?_⟩
    cases part with
    | obj fields => exact decide_eq_true (apart fields inside)
    | _ => rfl

theorem Finite.item {items : List Value} (finite : (arr items).Finite) {v : Value}
    (member : v ∈ items) : v.Finite := fun x inside => finite x (.item member inside)

theorem Finite.field {fields : List (String × Value)} (finite : (obj fields).Finite)
    {key : String} {v : Value} (member : (key, v) ∈ fields) : v.Finite :=
  fun x inside => finite x (.field member inside)

theorem KeysApart.item {items : List Value} (apart : (arr items).KeysApart) {v : Value}
    (member : v ∈ items) : v.KeysApart := fun fields inside => apart fields (.item member inside)

theorem KeysApart.field {fields : List (String × Value)} (apart : (obj fields).KeysApart)
    {key : String} {v : Value} (member : (key, v) ∈ fields) : v.KeysApart :=
  fun others inside => apart others (.field member inside)

/-! How deep and how long -/

mutual

/-- How many brackets that hold something stand around the innermost value. -/
def nesting : Value → Nat
  | arr items => nestingItems items
  | obj fields => nestingFields fields
  | _ => 0

def nestingItems : List Value → Nat
  | [] => 0
  | v :: rest => max (v.nesting + 1) (nestingItems rest)

def nestingFields : List (String × Value) → Nat
  | [] => 0
  | (_, v) :: rest => max (v.nesting + 1) (nestingFields rest)

end

mutual

/-- The greatest number of digits of an integer. -/
def longest : Value → Nat
  | int n => (Nat.toDigits 10 n.natAbs).length
  | arr items => longestItems items
  | obj fields => longestFields fields
  | _ => 0

def longestItems : List Value → Nat
  | [] => 0
  | v :: rest => max v.longest (longestItems rest)

def longestFields : List (String × Value) → Nat
  | [] => 0
  | (_, v) :: rest => max v.longest (longestFields rest)

end

theorem nestingItems_le_iff {items : List Value} {depth : Nat} :
    nestingItems items ≤ depth + 1 ↔ ∀ v ∈ items, v.nesting ≤ depth := by
  induction items with
  | nil => simp [nestingItems]
  | cons v rest ih =>
    rw [nestingItems, Nat.max_le, ih, Nat.add_le_add_iff_right, List.forall_mem_cons]

theorem nestingFields_le_iff {fields : List (String × Value)} {depth : Nat} :
    nestingFields fields ≤ depth + 1 ↔ ∀ field ∈ fields, field.2.nesting ≤ depth := by
  induction fields with
  | nil => simp [nestingFields]
  | cons field rest ih =>
    rw [nestingFields, Nat.max_le, ih, Nat.add_le_add_iff_right, List.forall_mem_cons]

theorem longestItems_le_iff {items : List Value} {digits : Nat} :
    longestItems items ≤ digits ↔ ∀ v ∈ items, v.longest ≤ digits := by
  induction items with
  | nil => simp [longestItems]
  | cons v rest ih => rw [longestItems, Nat.max_le, ih, List.forall_mem_cons]

theorem longestFields_le_iff {fields : List (String × Value)} {digits : Nat} :
    longestFields fields ≤ digits ↔ ∀ field ∈ fields, field.2.longest ≤ digits := by
  induction fields with
  | nil => simp [longestFields]
  | cons field rest ih => rw [longestFields, Nat.max_le, ih, List.forall_mem_cons]

theorem nestingItems_pos {items : List Value} (filled : items ≠ []) : 0 < nestingItems items := by
  cases items with
  | nil => exact absurd rfl filled
  | cons v rest => exact Nat.lt_of_lt_of_le v.nesting.succ_pos (Nat.le_max_left _ _)

theorem nestingFields_pos {fields : List (String × Value)} (filled : fields ≠ []) :
    0 < nestingFields fields := by
  cases fields with
  | nil => exact absurd rfl filled
  | cons field rest => exact Nat.lt_of_lt_of_le field.2.nesting.succ_pos (Nat.le_max_left _ _)

end Value

end FactModel
