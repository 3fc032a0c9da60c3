import FactModel.Proofs.Lists
import Mathlib.Data.List.Induction
import Mathlib.Data.List.Perm.Subperm

/-!
Items by their positions in a list, and which of them are the same as an earlier one.
-/

namespace FactModel

variable {α κ : Type}

/-- The items at the chosen positions. -/
def itemsAt (chosen : Nat → Bool) (items : List α) : List α :=
  (items.zipIdx.filter fun place => chosen place.2).map Prod.fst

theorem itemsAt_concat (chosen : Nat → Bool) (items : List α) (a : α) :
    itemsAt chosen (items ++ [a]) =
      itemsAt chosen items ++ if chosen items.length then [a] else [] := by
  unfold itemsAt
  rw [List.zipIdx_append, List.filter_append, List.map_append]
  cases last : chosen items.length <;> simp [last]

theorem itemsAt_congr {chosen other : Nat → Bool} {items : List α}
    (same : ∀ i < items.length, chosen i = other i) :
    itemsAt chosen items = itemsAt other items := by
  induction items using List.reverseRecOn with
  | nil => rfl
  | append_singleton items a ih =>
    simp only [List.length_append, List.length_singleton, Nat.lt_succ_iff] at same
    rw [itemsAt_concat, itemsAt_concat, ih fun i less => same i (Nat.le_of_lt less),
      same _ (Nat.le_refl _)]

theorem length_itemsAt (chosen : Nat → Bool) (items : List α) :
    (itemsAt chosen items).length = ((List.range items.length).filter chosen).length := by
  induction items using List.reverseRecOn with
  | nil => rfl
  | append_singleton items a ih =>
    rw [itemsAt_concat, List.length_append, List.length_append, List.length_singleton,
      List.range_succ, List.filter_append, List.length_append, ih]
    cases last : chosen items.length <;> simp [last]

theorem itemsAt_subset (chosen : Nat → Bool) (items : List α) : itemsAt chosen items ⊆ items := by
  have within := (List.filter_sublist (l := items.zipIdx) (p := fun place => chosen place.2)).map
    Prod.fst
  rw [List.zipIdx_map_fst] at within
  exact within.subset

/-- Whatever positions are listed, no more items are left out than that. -/
theorem length_le_itemsAt (positions : List Nat) (items : List α) :
    items.length ≤ (itemsAt (fun i => !positions.contains i) items).length + positions.length := by
  have split := List.length_eq_length_filter_add (l := List.range items.length)
    fun i => !positions.contains i
  have within : (List.range items.length).filter (fun i => !!positions.contains i) ⊆ positions :=
    fun i listed => by simpa using (List.mem_filter.mp listed).2
  have fewer := (List.subperm_of_subset (List.nodup_range.filter _) within).length_le
  rw [List.length_range] at split
  rw [length_itemsAt]
  omega

/-! Items that are the same as an earlier one -/

variable (same : α → α → Prop) [DecidableRel same]

/-- The item at a position is the same as an earlier one. -/
def repeatsAt (items : List α) (i : Nat) : Bool :=
  items[i]?.any fun a => (items.take i).any fun b => same a b

/-- The items that are the same as no earlier one. -/
def firsts (items : List α) : List α := itemsAt (fun i => !repeatsAt same items i) items

theorem repeatsAt_concat (items : List α) (a : α) :
    repeatsAt same (items ++ [a]) items.length = items.any fun b => same a b := by
  simp [repeatsAt]

theorem repeatsAt_of_lt {items : List α} (a : α) {i : Nat} (less : i < items.length) :
    repeatsAt same (items ++ [a]) i = repeatsAt same items i := by
  rw [repeatsAt, repeatsAt, List.getElem?_append_left less,
    List.take_append_of_le_length (Nat.le_of_lt less)]

theorem firsts_concat (items : List α) (a : α) :
    firsts same (items ++ [a]) =
      firsts same items ++ if items.any fun b => same a b then [] else [a] := by
  have before : ∀ i < items.length,
      (!repeatsAt same (items ++ [a]) i) = !repeatsAt same items i :=
    fun i less => congrArg Bool.not (repeatsAt_of_lt same a less)
  rw [firsts, itemsAt_concat, itemsAt_congr before, repeatsAt_concat, firsts]
  cases items.any fun b => same a b <;> rfl

variable {same}

/-- Where items of one key are the same, the first of each key is kept. -/
theorem map_firsts [BEq κ] [LawfulBEq κ] {key : α → κ} (told : ∀ a b, same a b ↔ key a = key b)
    (items : List α) : (firsts same items).map key = (items.map key).eraseDups := by
  induction items using List.reverseRecOn with
  | nil => rfl
  | append_singleton items a ih =>
    have known : (items.any fun b => same a b) = (items.map key).eraseDups.contains (key a) := by
      rw [Bool.eq_iff_iff, List.any_eq_true, List.contains_iff_mem, List.mem_eraseDups,
        List.mem_map]
      simp only [decide_eq_true_eq, told]
      exact exists_congr fun b => and_congr_right fun _ => eq_comm
    rw [firsts_concat, List.map_append, ih, List.map_append, List.map_singleton, eraseDups_concat,
      known]
    cases (items.map key).eraseDups.contains (key a) <;> simp

/-! What a scan has seen -/

theorem mem_or_mem_cons_of_mem {a b : κ} {seen rest : List κ} (known : a ∈ seen) :
    b ∈ seen ∨ b ∈ a :: rest ↔ b ∈ seen ∨ b ∈ rest := by
  rw [List.mem_cons]
  constructor
  · rintro (old | rfl | later)
    · exact .inl old
    · exact .inl known
    · exact .inr later
  · exact .imp_right .inr

theorem mem_cons_or_mem {a b : κ} {seen rest : List κ} :
    b ∈ a :: seen ∨ b ∈ rest ↔ b ∈ seen ∨ b ∈ a :: rest := by
  rw [List.mem_cons, List.mem_cons, or_assoc, or_left_comm]

end FactModel
