import FactModel.Ddl

/-!
Distinct names within one scope. A name that is taken gets the least number from 2 on that
makes it free.
-/

namespace FactModel

namespace Name

def candidate (name : String) (k : Nat) : String :=
  if k ≤ 1 then name else name ++ "_" ++ toString k

/-- The first free candidate from the `k`th on, after at most `fuel` that are taken. -/
def firstFree (used : List String) (name : String) : Nat → Nat → String
  | 0, k => candidate name k
  | fuel + 1, k =>
    if used.contains (candidate name k) then firstFree used name fuel (k + 1)
    else candidate name k

/-- No more candidates are taken than names are used. -/
def claim (used : List String) (name : String) : String := firstFree used name used.length 1

def claimAll (used : List String) : List String → List String
  | [] => []
  | name :: rest =>
    let free := claim used name
    free :: claimAll (free :: used) rest

@[simp] theorem length_claimAll (used names : List String) :
    (claimAll used names).length = names.length := by
  induction names generalizing used with
  | nil => rfl
  | cons name rest ih => simp [claimAll, ih]

end Name

end FactModel
