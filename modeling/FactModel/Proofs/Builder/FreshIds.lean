import FactModel.Builder
import FactModel.Proofs.FreshNames

/-!
New ids of a builder: the search for a free number ends at the first one, since there are fewer
ids than numbers to try.
-/

namespace FactModel

namespace Edit

theorem numbered_injective (kind : String) {m n : Nat}
    (same : numbered kind m = numbered kind n) : m = n := by
  have texts := congrArg String.toList same
  simp only [numbered, String.toList_append] at texts
  exact Name.toString_injective (String.toList_inj.mp (List.append_cancel_left texts))

theorem freeNumber_of_search {taken : List String} {kind : String} {fuel k n : Nat}
    (search : Search taken (numbered kind) k n) (enough : n ≤ k + fuel) :
    freeNumber taken kind fuel k = n := by
  induction search generalizing fuel with
  | here free => cases fuel <;> simp [freeNumber, free]
  | next held later ih =>
    have further := later.le
    cases fuel with
    | zero => omega
    | succ fuel =>
      simp only [freeNumber, List.contains_eq_mem, held, decide_true, if_true]
      exact ih (by omega)

/-- The number found is the one that a search from `k` on ends at. -/
theorem search_freeNumber (taken : List String) (kind : String) (k : Nat) :
    Search taken (numbered kind) k (freeNumber taken kind taken.length k) := by
  have distinct : ∀ i j, k ≤ i → k ≤ j → numbered kind i = numbered kind j → i = j :=
    fun _ _ _ _ => numbered_injective kind
  obtain ⟨n, within, search⟩ := Search.exists_of_injective taken (numbered kind) distinct
  rw [freeNumber_of_search search within]
  exact search

end Edit

end FactModel
