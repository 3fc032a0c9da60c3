import FactModel.Proofs.Value.Lines

/-!
Values are encoded alike exactly when they are equal as documents: numbers by what they stand for,
arrays item by item and objects key by key, in whatever order.
-/

namespace FactModel

namespace Value

/-- What a number stands for. A float that holds an integer is that integer, a negative zero too;
all floats that are not numbers stand for the same. -/
inductive Number where
  | whole (n : Int)
  | other (x : Binary64)

/-- The number that a float stands for. -/
def Number.ofFloat (x : Binary64) : Number :=
  match x.toInt? with
  | some n => whole n
  | none => other (merged x)

def number? : Value → Option Number
  | int n => some (.whole n)
  | float x => some (.ofFloat x)
  | _ => none

/-- Equality of values as documents. Values of different kinds are never alike; an integer and a
float are of one kind. -/
inductive Alike : Value → Value → Prop where
  | null : Alike null null
  | bool (b : Bool) : Alike (bool b) (bool b)
  | number {v w : Value} {n : Number} (left : v.number? = some n) (right : w.number? = some n) :
      Alike v w
  | str (s : String) : Alike (str s) (str s)
  | arr {items others : List Value} (length : items.length = others.length)
      (each : ∀ (i : Nat) v w, items[i]? = some v → others[i]? = some w → Alike v w) :
      Alike (arr items) (arr others)
  | obj {fields others : List (String × Value)}
      (keys : ∀ key, (fields.lookup key).isSome = (others.lookup key).isSome)
      (each : ∀ key v w, fields.lookup key = some v → others.lookup key = some w → Alike v w) :
      Alike (obj fields) (obj others)

/-! The value that is written -/

/-- What an encoding tells of a value. -/
def told (v : Value) : Value := v.canonical.tidy

def Number.told : Number → Value
  | whole n => int n
  | other x => float x

theorem encode_eq_iff_told (v w : Value) : v.encode = w.encode ↔ v.told = w.told := by
  rw [encode, encode, String.ofList_inj, dump_eq_dump_iff]
  rfl

@[simp] theorem told_null : null.told = null := by simp [told, canonical, tidy]

@[simp] theorem told_bool (b : Bool) : (bool b).told = bool b := by simp [told, canonical, tidy]

@[simp] theorem told_int (n : Int) : (int n).told = int n := by simp [told, canonical, tidy]

@[simp] theorem told_str (s : String) : (str s).told = str s := by simp [told, canonical, tidy]

@[simp] theorem told_arr (items : List Value) : (arr items).told = arr (items.map told) := by
  rw [told, canonical, canonicalItems_eq, tidy, tidyItems_eq, List.map_map]
  rfl

@[simp] theorem told_obj (fields : List (String × Value)) :
    (obj fields).told = obj (sortPairs (fields.map fun pair => (pair.1, pair.2.told))) := by
  rw [told, canonical, canonicalFields_eq, tidy, tidyFields_eq, List.map_map]
  rfl

theorem told_float (x : Binary64) : (float x).told = (Number.ofFloat x).told := by
  unfold told canonical Number.ofFloat
  cases x.toInt? <;> simp [tidy, Number.told]

theorem Number.told_injective {n m : Number} (same : n.told = m.told) : n = m := by
  cases n <;> cases m <;> simp_all [told]

/-- A value stands for a number exactly when it is written as the number. -/
theorem number?_eq_some_iff (v : Value) (n : Number) : v.number? = some n ↔ v.told = n.told := by
  cases v with
  | int m =>
    have same : (int m).told = (Number.whole m).told := told_int m
    rw [same, number?, Option.some.injEq]
    exact ⟨congrArg _, Number.told_injective⟩
  | float x =>
    rw [told_float, number?, Option.some.injEq]
    exact ⟨congrArg _, Number.told_injective⟩
  | _ => cases n <;> simp [number?, Number.told]

theorem number?_eq_of_told {v w : Value} (same : v.told = w.told) : v.number? = w.number? := by
  apply Option.ext
  intro n
  rw [number?_eq_some_iff, number?_eq_some_iff, same]

/-! Equality of what is written -/

theorem nodup_told {fields : List (String × Value)} (apart : (obj fields).KeysApart) :
    ((fields.map fun pair => (pair.1, pair.2.told)).map Prod.fst).Nodup := by
  rw [List.map_map]
  exact apart fields .self

theorem told_obj_eq_iff {fields others : List (String × Value)} (apart : (obj fields).KeysApart)
    (distinct : (obj others).KeysApart) : (obj fields).told = (obj others).told ↔
      ∀ key, (fields.lookup key).map told = (others.lookup key).map told := by
  rw [told_obj, told_obj, obj.injEq, sortPairs_eq_iff (nodup_told apart) (nodup_told distinct)]
  refine forall_congr' fun key => ?_
  rw [OrderedMap.lookup_map fun _ => told, OrderedMap.lookup_map fun _ => told]

theorem told_arr_eq_iff {items others : List Value} : (arr items).told = (arr others).told ↔
    ∀ i : Nat, (items[i]?).map told = (others[i]?).map told := by
  rw [told_arr, told_arr, arr.injEq]
  constructor
  · intro same i
    rw [← List.getElem?_map, ← List.getElem?_map, same]
  · intro same
    apply List.ext_getElem?
    intro i
    rw [List.getElem?_map, List.getElem?_map, same i]

theorem Alike.told_eq {v w : Value} (alike : Alike v w) (apart : v.KeysApart)
    (distinct : w.KeysApart) : v.told = w.told := by
  induction alike with
  | null => rfl
  | bool b => rfl
  | number left right =>
    rw [number?_eq_some_iff] at left right
    rw [left, right]
  | str s => rfl
  | @arr items others length each ih =>
    rw [told_arr_eq_iff]
    intro i
    cases left : items[i]? with
    | none =>
      rw [List.getElem?_eq_none_iff, length, ← List.getElem?_eq_none_iff] at left
      rw [left]
    | some v =>
      have inside : i < others.length := length ▸ (List.getElem?_eq_some_iff.mp left).1
      have right := List.getElem?_eq_getElem inside
      have same := ih i v _ left right (apart.item (List.mem_of_getElem? left))
        (distinct.item (List.mem_of_getElem? right))
      rw [right, Option.map_some, Option.map_some, same]
  | @obj fields others keys each ih =>
    rw [told_obj_eq_iff apart distinct]
    intro key
    have held := keys key
    cases left : fields.lookup key with
    | none =>
      rw [left, Option.isSome_none, eq_comm, Option.isSome_eq_false_iff, Option.isNone_iff_eq_none]
        at held
      rw [held]
    | some v =>
      rw [left, Option.isSome_some, eq_comm, Option.isSome_iff_exists] at held
      obtain ⟨w, right⟩ := held
      have first := (lookup_eq_some_iff (apart fields .self) key v).mp left
      have second := (lookup_eq_some_iff (distinct others .self) key w).mp right
      rw [right, Option.map_some, Option.map_some,
        ih key v w left right (apart.field first) (distinct.field second)]

theorem alike_of_told {v w : Value} (same : v.told = w.told) (apart : v.KeysApart)
    (distinct : w.KeysApart) : Alike v w := by
  induction v generalizing w with
  | null =>
    cases w with
    | null => exact .null
    | float x => cases number?_eq_of_told same
    | _ => simp at same
  | bool b =>
    cases w with
    | bool c =>
      cases (told_bool b).symm.trans (same.trans (told_bool c))
      exact .bool b
    | float x => cases number?_eq_of_told same
    | _ => simp at same
  | int n => exact .number rfl (number?_eq_of_told same).symm
  | float x => exact .number rfl (number?_eq_of_told same).symm
  | str s =>
    cases w with
    | str t =>
      cases (told_str s).symm.trans (same.trans (told_str t))
      exact .str s
    | float x => cases number?_eq_of_told same
    | _ => simp at same
  | arr items ih =>
    cases w with
    | arr others =>
      have length : items.length = others.length := by
        rw [told_arr, told_arr, arr.injEq] at same
        simpa using congrArg List.length same
      rw [told_arr_eq_iff] at same
      refine .arr length fun i v w left right => ?_
      have each := same i
      rw [left, right, Option.map_some, Option.map_some, Option.some.injEq] at each
      have first := List.mem_of_getElem? left
      have second := List.mem_of_getElem? right
      exact ih v first each (apart.item first) (distinct.item second)
    | float x => cases number?_eq_of_told same
    | _ => simp at same
  | obj fields ih =>
    cases w with
    | obj others =>
      rw [told_obj_eq_iff apart distinct] at same
      refine .obj (fun key => ?_) fun key v w left right => ?_
      · have each := congrArg Option.isSome (same key)
        rwa [Option.isSome_map, Option.isSome_map] at each
      · have each := same key
        rw [left, right, Option.map_some, Option.map_some, Option.some.injEq] at each
        have first := (lookup_eq_some_iff (apart fields .self) key v).mp left
        have second := (lookup_eq_some_iff (distinct others .self) key w).mp right
        exact ih (key, v) first each (apart.field first) (distinct.field second)
    | float x => cases number?_eq_of_told same
    | _ => simp at same

theorem Alike.refl {v : Value} (apart : v.KeysApart) : Alike v v := alike_of_told rfl apart apart

/-- Encodings decide equality of values as documents. -/
theorem encode_eq_encode_iff_alike {v w : Value} (apart : v.KeysApart) (distinct : w.KeysApart) :
    v.encode = w.encode ↔ Alike v w := by
  rw [encode_eq_iff_told]
  exact ⟨fun same => alike_of_told same apart distinct, fun alike => alike.told_eq apart distinct⟩

/-- The order of keys and the sign of a zero are not told apart, a truth value and a number are. -/
theorem encode_points :
    (obj [("y", float (.zero true)), ("x", arr [bool true, str "1"])]).KeysApart ∧
      (obj [("x", arr [bool true, str "1"]), ("y", int 0)]).KeysApart ∧
      (obj [("x", arr [int 1, str "1"]), ("y", int 0)]).KeysApart ∧
      (obj [("y", float (.zero true)), ("x", arr [bool true, str "1"])]).encode =
        (obj [("x", arr [bool true, str "1"]), ("y", int 0)]).encode ∧
      (obj [("x", arr [bool true, str "1"]), ("y", int 0)]).encode ≠
        (obj [("x", arr [int 1, str "1"]), ("y", int 0)]).encode := by
  refine ⟨by decide, by decide, by decide, ?_, ?_⟩
  · refine (encode_eq_encode_iff_alike (by decide) (by decide)).mpr
      (.obj (fun key => ?_) fun key v w left right => ?_)
    · simp only [lookup_pair_cons, List.lookup_nil]
      split <;> split <;> rfl
    · simp only [lookup_pair_cons, List.lookup_nil] at left right
      split at left
      · rename_i first
        subst first
        cases left
        cases right
        have zero : (Binary64.zero true).toInt? = some 0 := by decide +kernel
        exact .number (n := .whole 0) (by simp only [number?, Number.ofFloat, zero]) rfl
      · split at left
        · cases left
          rw [if_pos ‹_›, Option.some.injEq] at right
          subst right
          exact .refl (by decide)
        · cases left
  · rw [ne_eq, encode_eq_encode_iff_alike (by decide) (by decide)]
    intro alike
    cases alike with
    | number left right => cases left
    | obj keys each =>
      have items := each "x" _ _ rfl rfl
      cases items with
      | number left right => cases left
      | arr length each =>
        have first := each 0 _ _ rfl rfl
        cases first with
        | number left right => cases left

end Value

end FactModel
