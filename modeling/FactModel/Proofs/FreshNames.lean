import FactModel.Relational.Name
import Mathlib.Data.List.Nodup
import Mathlib.Data.List.Perm.Subperm
import Mathlib.Data.Nat.Init

/-!
Searches for a free name among numbered candidates. Where the candidates are distinct a search ends
by itself, at the first one that is free. So the name that is claimed is this one, names claimed one
after the other are distinct, and names that are distinct already stay as they are.
-/

namespace FactModel

/-- A search goes on from number to number while the candidates are used, and ends at a free one. -/
inductive Search (used : List String) (candidates : Nat → String) : Nat → Nat → Prop
  | here {k : Nat} (free : candidates k ∉ used) : Search used candidates k k
  | next {k n : Nat} (taken : candidates k ∈ used) (later : Search used candidates (k + 1) n) :
      Search used candidates k n

namespace Search

variable {used : List String} {candidates : Nat → String} {k n : Nat}

theorem le (search : Search used candidates k n) : k ≤ n := by
  induction search with
  | here => exact Nat.le_refl _
  | next _ _ below => exact Nat.le_of_succ_le below

theorem free (search : Search used candidates k n) : candidates n ∉ used := by
  induction search with
  | here free => exact free
  | next _ _ ih => exact ih

theorem taken (search : Search used candidates k n) {i : Nat} (above : k ≤ i) (below : i < n) :
    candidates i ∈ used := by
  induction search with
  | here => exact absurd below (Nat.not_lt.mpr above)
  | next held _ ih =>
    rcases Nat.eq_or_lt_of_le above with rfl | later
    · exact held
    · exact ih later below

theorem exists_of_free (low : k ≤ n) (free : candidates n ∉ used) :
    ∃ first ≤ n, Search used candidates k first := by
  -- from the free candidate back to the start
  refine Nat.decreasingInduction' (fun i below _ later => ?_) low ⟨n, Nat.le_refl n, .here free⟩
  obtain ⟨first, within, search⟩ := later
  by_cases held : candidates i ∈ used
  · exact ⟨first, within, .next held search⟩
  · exact ⟨i, Nat.le_of_lt below, .here held⟩

/-- Among one candidate more than there are used names, one is free. -/
theorem exists_free_of_injective (used : List String) (candidates : Nat → String)
    (distinct : ∀ i j, k ≤ i → k ≤ j → candidates i = candidates j → i = j) :
    ∃ j, k ≤ j ∧ j ≤ k + used.length ∧ candidates j ∉ used := by
  by_contra none
  push Not at none
  -- the candidates are distinct, and too many to be used all
  let names := (List.range' k (used.length + 1)).map candidates
  have apart : names.Nodup := by
    refine (List.nodup_map_iff_inj_on List.nodup_range').mpr ?_
    intro i hi j hj same
    rw [List.mem_range'_1] at hi hj
    exact distinct i j hi.1 hj.1 same
  have within : names ⊆ used := by
    intro taken member
    obtain ⟨i, hi, rfl⟩ := List.mem_map.mp member
    rw [List.mem_range'_1] at hi
    exact none i hi.1 (by omega)
  have short := (List.subperm_of_subset apart within).length_le
  simp only [names, List.length_map, List.length_range'] at short
  omega

/-- A search ends, after no more candidates than there are used names. -/
theorem exists_of_injective (used : List String) (candidates : Nat → String)
    (distinct : ∀ i j, k ≤ i → k ≤ j → candidates i = candidates j → i = j) :
    ∃ first ≤ k + used.length, Search used candidates k first := by
  obtain ⟨j, low, high, free⟩ := exists_free_of_injective used candidates distinct
  obtain ⟨first, within, search⟩ := exists_of_free low free
  exact ⟨first, Nat.le_trans within high, search⟩

end Search

namespace Name

theorem toString_injective {j k : Nat} (same : toString j = toString k) : j = k := by
  have value : ∀ n : Nat, Nat.ofDigitChars 10 (toString n).toList 0 = n := by
    intro n
    simp [Nat.toString_eq_repr]
  rw [← value j, same, value k]

theorem candidate_of_two_le (name : String) {k : Nat} (two : 2 ≤ k) :
    candidate name k = name ++ "_" ++ toString k := if_neg (by omega)

theorem candidate_injective (name : String) {j k : Nat} (hj : 1 ≤ j) (hk : 1 ≤ k)
    (same : candidate name j = candidate name k) : j = k := by
  have longer : ∀ n : Nat, name ≠ name ++ "_" ++ toString n := by
    intro n equal
    have lengths := congrArg String.length equal
    have mark : "_".length = 1 := rfl
    simp only [String.length_append, mark] at lengths
    omega
  unfold candidate at same
  split at same <;> split at same
  · omega
  · exact absurd same (longer k)
  · exact absurd same.symm (longer j)
  · have texts := congrArg String.toList same
    simp only [String.toList_append] at texts
    exact toString_injective (String.toList_inj.mp (List.append_cancel_left texts))

theorem firstFree_of_search {used : List String} {name : String} {fuel k n : Nat}
    (search : Search used (candidate name) k n) (enough : n ≤ k + fuel) :
    firstFree used name fuel k = candidate name n := by
  induction search generalizing fuel with
  | here free => cases fuel <;> simp [firstFree, free]
  | next taken later ih =>
    have further := later.le
    cases fuel with
    | zero => omega
    | succ fuel =>
      simp only [firstFree, List.contains_eq_mem, taken, decide_true, if_true]
      exact ih (by omega)

/-- The claimed name is the candidate that a search for a free one ends at. -/
theorem exists_search_claim (used : List String) (name : String) :
    ∃ k, Search used (candidate name) 1 k ∧ claim used name = candidate name k := by
  obtain ⟨k, within, search⟩ :=
    Search.exists_of_injective used (candidate name) fun _ _ => candidate_injective name
  exact ⟨k, search, firstFree_of_search search (by omega)⟩

theorem claim_fresh (used : List String) (name : String) : claim used name ∉ used := by
  obtain ⟨k, search, found⟩ := exists_search_claim used name
  rw [found]
  exact search.free

theorem claim_eq_self {used : List String} {name : String} (fresh : name ∉ used) :
    claim used name = name := by
  obtain ⟨k, search, found⟩ := exists_search_claim used name
  cases search with
  | here => exact found
  | next taken => exact absurd taken fresh

/-- A name that is taken gets the least number from 2 on that makes it free. -/
theorem exists_claim_eq {used : List String} {name : String} (taken : name ∈ used) :
    ∃ k, 2 ≤ k ∧ claim used name = name ++ "_" ++ toString k ∧
      name ++ "_" ++ toString k ∉ used ∧
      ∀ i, 2 ≤ i → i < k → name ++ "_" ++ toString i ∈ used := by
  obtain ⟨k, search, found⟩ := exists_search_claim used name
  cases search with
  | here free => exact absurd taken free
  | next _ later =>
    refine ⟨k, later.le, ?_, ?_, fun i least below => ?_⟩
    · rw [found, candidate_of_two_le name later.le]
    · rw [← candidate_of_two_le name later.le]
      exact later.free
    · rw [← candidate_of_two_le name least]
      exact later.taken least below

/-- How a name is claimed: as it is wanted if it is free; if it is taken, the name with the number
is wanted next. Nothing bounds the numbers. -/
inductive Claims (used : List String) (name : String) : String → Nat → String → Prop
  | free {wanted : String} {number : Nat} (free : wanted ∉ used) :
      Claims used name wanted number wanted
  | taken {wanted claimed : String} {number : Nat} (taken : wanted ∈ used)
      (later : Claims used name (name ++ "_" ++ toString number) (number + 1) claimed) :
      Claims used name wanted number claimed

theorem Claims.unique {used : List String} {name wanted claimed other : String} {number : Nat}
    (claims : Claims used name wanted number claimed)
    (too : Claims used name wanted number other) : claimed = other := by
  induction claims with
  | free free =>
    cases too with
    | free => rfl
    | taken taken => exact absurd taken free
  | taken taken _ ih =>
    cases too with
    | free free => exact absurd taken free
    | taken _ later => exact ih later

theorem claims_of_search {used : List String} {name : String} {k n : Nat} (one : 1 ≤ k)
    (search : Search used (candidate name) k n) :
    Claims used name (candidate name k) (k + 1) (candidate name n) := by
  induction search with
  | here free => exact .free free
  | @next k n taken _ ih =>
    have second := ih (by omega)
    rw [candidate_of_two_le name (by omega : 2 ≤ k + 1)] at second
    exact .taken taken second

/-- A claim ends, however many names are used. -/
theorem claims_iff (used : List String) (name claimed : String) :
    Claims used name name 2 claimed ↔ claimed = claim used name := by
  obtain ⟨k, search, found⟩ := exists_search_claim used name
  have claims : Claims used name name 2 (claim used name) :=
    found ▸ claims_of_search (Nat.le_refl 1) search
  exact ⟨fun other => other.unique claims, fun same => same ▸ claims⟩

theorem claimAll_fresh (used names : List String) :
    ∀ name ∈ claimAll used names, name ∉ used := by
  induction names generalizing used with
  | nil => simp [claimAll]
  | cons name rest ih =>
    intro claimed member
    rcases List.mem_cons.mp member with rfl | member
    · exact claim_fresh used name
    · exact fun taken => ih _ claimed member (List.mem_cons_of_mem _ taken)

theorem claimAll_nodup (used names : List String) : (claimAll used names).Nodup := by
  induction names generalizing used with
  | nil => exact List.nodup_nil
  | cons name rest ih =>
    refine List.nodup_cons.mpr ⟨?_, ih _⟩
    exact fun member => claimAll_fresh _ rest _ member List.mem_cons_self

theorem claimAll_append (used first second : List String) :
    claimAll used (first ++ second) =
      claimAll used first ++ claimAll ((claimAll used first).reverse ++ used) second := by
  induction first generalizing used with
  | nil => rfl
  | cons name rest ih => simp [claimAll, ih]

theorem claimAll_eq_self {used names : List String} (distinct : names.Nodup)
    (free : ∀ name ∈ names, name ∉ used) : claimAll used names = names := by
  induction names generalizing used with
  | nil => rfl
  | cons name rest ih =>
    rw [List.nodup_cons] at distinct
    have first := claim_eq_self (free name List.mem_cons_self)
    have later : claimAll (name :: used) rest = rest := by
      refine ih distinct.2 fun other member => ?_
      rw [List.mem_cons, not_or]
      exact ⟨fun same => distinct.1 (same ▸ member), free other (List.mem_cons_of_mem _ member)⟩
    simp only [claimAll, first, later]

end Name

end FactModel
