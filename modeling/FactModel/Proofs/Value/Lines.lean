import FactModel.Proofs.Lists
import FactModel.Proofs.Maps
import FactModel.Proofs.Value.ReadBack
import Mathlib.Data.String.Basic

/-!
Values on one line, with sorted keys. The line of a value reads back as the value with the fields of
every object in the order of their keys, so lines are equal only where that makes values equal.
-/

namespace FactModel

namespace Value

/-! Pairs sorted by their keys -/

section Sorted

variable {α β : Type} {pairs others : List (String × α)}

theorem perm_sortPairs (pairs : List (String × α)) : (sortPairs pairs).Perm pairs :=
  List.mergeSort_perm pairs _

theorem pairwise_sortPairs (pairs : List (String × α)) :
    (sortPairs pairs).Pairwise fun a b => a.1 ≤ b.1 := by
  have sorted : (sortPairs pairs).Pairwise fun a b => decide (a.1 ≤ b.1) = true :=
    List.pairwise_mergeSort (fun a b c => by simpa using le_trans)
      (fun a b => by simpa using le_total a.1 b.1) pairs
  exact sorted.imp fun le => of_decide_eq_true le

theorem sortPairs_map (f : α → β) (pairs : List (String × α)) :
    sortPairs (pairs.map fun pair => (pair.1, f pair.2)) =
      (sortPairs pairs).map fun pair => (pair.1, f pair.2) :=
  (List.map_mergeSort (f := fun pair : String × α => (pair.1, f pair.2)) fun _ _ _ _ => rfl).symm

theorem sortPairs_sortPairs (pairs : List (String × α)) :
    sortPairs (sortPairs pairs) = sortPairs pairs := by
  refine List.mergeSort_of_pairwise ((pairwise_sortPairs pairs).imp fun le => ?_)
  exact decide_eq_true le

theorem nodup_sortPairs (distinct : (pairs.map Prod.fst).Nodup) :
    ((sortPairs pairs).map Prod.fst).Nodup :=
  ((perm_sortPairs pairs).map Prod.fst).nodup_iff.mpr distinct

theorem lookup_sortPairs (distinct : (pairs.map Prod.fst).Nodup) (key : String) :
    (sortPairs pairs).lookup key = pairs.lookup key := by
  apply Option.ext
  intro value
  rw [lookup_eq_some_iff distinct, lookup_eq_some_iff (nodup_sortPairs distinct),
    (perm_sortPairs pairs).mem_iff]

/-- Sorted pairs tell no more than what each key holds. -/
theorem sortPairs_eq_iff (distinct : (pairs.map Prod.fst).Nodup)
    (apart : (others.map Prod.fst).Nodup) :
    sortPairs pairs = sortPairs others ↔ ∀ key, pairs.lookup key = others.lookup key := by
  constructor
  · intro same key
    rw [← lookup_sortPairs distinct, same, lookup_sortPairs apart]
  · intro same
    have members : ∀ pair, pair ∈ pairs ↔ pair ∈ others := by
      rintro ⟨key, value⟩
      rw [← lookup_eq_some_iff distinct, same, lookup_eq_some_iff apart]
    have permuted : (sortPairs pairs).Perm (sortPairs others) :=
      (perm_sortPairs pairs).trans
        (((List.perm_ext_iff_of_nodup (distinct.of_map Prod.fst) (apart.of_map Prod.fst)).mpr
          members).trans (perm_sortPairs others).symm)
    refine permuted.eq_of_pairwise ?_ (pairwise_sortPairs pairs) (pairwise_sortPairs others)
    intro a b left right below above
    have key : a.1 = b.1 := le_antisymm below above
    have held := (lookup_eq_some_iff distinct a.1 a.2).mpr ((perm_sortPairs pairs).mem_iff.mp left)
    have found := (lookup_eq_some_iff apart b.1 b.2).mpr ((perm_sortPairs others).mem_iff.mp right)
    rw [key, same, found] at held
    exact Prod.ext key (Option.some.inj held).symm

end Sorted

/-! Reading a line -/

mutual

/-- What a line tells of a value: the fields of an object by their keys, and whether a float is a
number. -/
def tidy : Value → Value
  | float x => float (merged x)
  | arr items => arr (tidyItems items)
  | obj fields => obj (sortPairs (tidyFields fields))
  | v => v

def tidyItems : List Value → List Value
  | [] => []
  | v :: rest => v.tidy :: tidyItems rest

def tidyFields : List (String × Value) → List (String × Value)
  | [] => []
  | (key, v) :: rest => (key, v.tidy) :: tidyFields rest

end

theorem tidyItems_eq (items : List Value) : tidyItems items = items.map tidy := by
  induction items with
  | nil => rfl
  | cons v rest ih => rw [tidyItems, ih, List.map_cons]

theorem tidyFields_eq (fields : List (String × Value)) :
    tidyFields fields = fields.map fun pair => (pair.1, pair.2.tidy) := by
  induction fields with
  | nil => rfl
  | cons pair rest ih => rw [tidyFields, ih, List.map_cons]

theorem dump_arr (items : List Value) :
    (arr items).dump = '[' :: separated (items.map dump) ++ [']'] := by
  rw [dump, dumpItems_eq]

theorem dump_obj (fields : List (String × Value)) : (obj fields).dump =
    '\x7b' :: separated ((sortPairs fields).map fun pair =>
      fieldText Text.encodeAsciiChar pair.1 pair.2.dump) ++ ['\x7d'] := by
  rw [dump, dumpFields_eq, sortPairs_map, List.map_map]
  simp [Text.encodeAscii, fieldText, Function.comp_def]

variable {digits depth : Nat}

/-- A line reads back as what it tells, if the reader goes deep and far enough. -/
theorem reads_dump {v : Value} (few : 15 < digits) (shallow : v.nesting ≤ depth)
    (short : v.longest ≤ digits) : Reads digits depth v.dump (some v.tidy) := by
  have none : Blank [] := fun _ member => nomatch member
  have blank : Blank [' '] := by decide
  induction v generalizing depth with
  | null => simpa [dump, tidy] using reads_null
  | bool b => simpa [tidy] using reads_bool b
  | int n =>
    have read : Reads digits depth (intText n)
        (if (int n).longest ≤ digits then some (int n) else Option.none) := reads_int n
    rw [if_pos short] at read
    simpa [dump, tidy] using read
  | float x => simpa [dump, tidy] using reads_documentFloat few x
  | str s =>
    simpa [dump, tidy, Text.encodeAscii] using reads_quoted readable_encodeAsciiChar s
  | arr items ih =>
    rw [dump_arr, tidy, tidyItems_eq]
    by_cases filled : items = []
    · subst filled
      exact reads_empty_arr
    · rw [nesting] at shallow
      rw [longest, longestItems_le_iff] at short
      obtain ⟨inner, rfl⟩ := Nat.exists_eq_succ_of_ne_zero
        (Nat.lt_of_lt_of_le (nestingItems_pos filled) shallow).ne'
      rw [nestingItems_le_iff] at shallow
      have reads : ∀ v ∈ items, Reads digits inner v.dump (some v.tidy) :=
        fun v member => ih v member (shallow v member) (short v member)
      have all : items.mapM (fun v => some v.tidy) = some (items.map tidy) :=
        mapM_eq_some fun _ _ => rfl
      have read := reads_arr none blank none filled reads
      rw [all] at read
      exact read
  | obj fields ih =>
    rw [dump_obj, tidy, tidyFields_eq]
    by_cases filled : fields = []
    · subst filled
      simpa [sortPairs, separated] using reads_empty_obj
    · rw [nesting] at shallow
      rw [longest, longestFields_le_iff] at short
      obtain ⟨inner, rfl⟩ := Nat.exists_eq_succ_of_ne_zero
        (Nat.lt_of_lt_of_le (nestingFields_pos filled) shallow).ne'
      rw [nestingFields_le_iff] at shallow
      have reads : ∀ field ∈ sortPairs fields,
          Reads digits inner field.2.dump (some field.2.tidy) := fun field member =>
        have held := (perm_sortPairs fields).mem_iff.mp member
        ih field held (shallow field held) (short field held)
      have all : (sortPairs fields).mapM
          (fun field => (some field.2.tidy).map fun v => (field.1, v)) =
            some ((sortPairs fields).map fun field => (field.1, field.2.tidy)) :=
        mapM_eq_some fun _ _ => rfl
      have sorted : sortPairs fields ≠ [] := fun empty =>
        filled ((perm_sortPairs fields).symm.trans (.of_eq empty)).eq_nil
      have read := reads_obj none blank none sorted readable_encodeAsciiChar Prod.fst reads
      rw [all] at read
      rw [sortPairs_map]
      exact read

theorem tidy_eq_of_dump_eq {v w : Value} (same : v.dump = w.dump) : v.tidy = w.tidy := by
  have left : Reads (max 16 (max v.longest w.longest)) (max v.nesting w.nesting) v.dump
      (some v.tidy) := reads_dump (by omega) (by omega) (by omega)
  have right : Reads (max 16 (max v.longest w.longest)) (max v.nesting w.nesting) w.dump
      (some w.tidy) := reads_dump (by omega) (by omega) (by omega)
  have first := left.run (Nat.le_refl _) .nil
  have second := right.run (Nat.le_refl _) .nil
  rw [same, second] at first
  exact (congrArg Prod.fst (Option.some.inj first)).symm

/-- A line tells nothing else. -/
theorem dump_tidy (v : Value) : v.tidy.dump = v.dump := by
  induction v with
  | null => simp only [tidy]
  | bool b => simp only [tidy]
  | int n => simp only [tidy]
  | float x =>
    have word : documentFloat.text Binary64.nan = "NaN".toList := rfl
    rw [tidy, dump, dump, merged]
    split
    · rename_i notNumber
      rw [word, DecimalLayout.text, if_pos notNumber]
      rfl
    · rfl
  | str s => simp only [tidy]
  | arr items ih =>
    rw [tidy, tidyItems_eq, dump_arr, dump_arr, List.map_map]
    congr 3
    exact List.map_congr_left ih
  | obj fields ih =>
    rw [tidy, tidyFields_eq, dump_obj, dump_obj, sortPairs_sortPairs, sortPairs_map, List.map_map]
    congr 3
    refine List.map_congr_left fun field member => ?_
    have same := ih field ((perm_sortPairs fields).mem_iff.mp member)
    simp only [Function.comp_apply, same]

theorem dump_eq_dump_iff (v w : Value) : v.dump = w.dump ↔ v.tidy = w.tidy := by
  refine ⟨tidy_eq_of_dump_eq, fun same => ?_⟩
  rw [← dump_tidy v, same, dump_tidy]

end Value

end FactModel
