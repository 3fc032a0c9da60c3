import FactModel.Proofs.Relational.RoleColumns
import Mathlib.Data.List.Basic

/-!
Placing the columns of roles in a table: each role gets a group of its own, whose columns are
those of the role up to their names, and the names are claimed in one scope.
-/

namespace FactModel

/-- The columns are the old ones under other names. -/
def Renamed (old new : List Column) : Prop :=
  List.Forall₂ (fun before after => after = { before with name := after.name }) old new

theorem Renamed.map_eq {old new : List Column} (renamed : Renamed old new) {α : Type}
    (f : Column → α) (blind : ∀ c name, f { c with name := name } = f c) :
    new.map f = old.map f := by
  induction renamed with
  | nil => rfl
  | cons same _ ih => rw [List.map_cons, List.map_cons, ih, same, blind]

theorem Renamed.ne_nil {old new : List Column} (renamed : Renamed old new) (some : old ≠ []) :
    new ≠ [] := by
  intro none
  rw [none] at renamed
  exact some (List.forall₂_nil_right_iff.mp renamed)

theorem renamed_zip (names : List String) (columns : List Column)
    (length : names.length = columns.length) :
    Renamed columns ((names.zip columns).map fun pair => { pair.2 with name := pair.1 }) := by
  induction columns generalizing names with
  | nil => simp [Renamed]
  | cons column rest ih =>
    cases names with
    | nil => cases length
    | cons name others => exact .cons rfl (ih others (Nat.succ.inj length))

namespace RoleGroup

/-- The group holds the columns of a role under other names. -/
structure Holds (role : String × RoleColumns) (g : RoleGroup) : Prop where
  predicator : g.predicator = role.1
  reference : g.reference = role.2.reference
  columns : Renamed role.2.columns g.columns

theorem Holds.sources_eq {role : String × RoleColumns} {g : RoleGroup} (holds : Holds role g)
    {sources : List String} (stem : role.2.StemFrom sources) (c : Column)
    (member : c ∈ g.columns) : c.sourcePredicatorIds = sources := by
  have same := holds.columns.map_eq (·.sourcePredicatorIds) fun _ _ => rfl
  have listed := List.mem_map_of_mem (f := (·.sourcePredicatorIds)) member
  rw [same] at listed
  obtain ⟨old, held, equal⟩ := List.mem_map.mp listed
  rw [← equal, (stem old held).1]

theorem place_holds (used : List String) (roles : List (String × RoleColumns)) :
    List.Forall₂ Holds roles (place used roles) := by
  induction roles generalizing used with
  | nil => exact .nil
  | cons role rest ih =>
    refine .cons ⟨rfl, rfl, ?_⟩ (ih _)
    exact renamed_zip _ _ (by simp)

theorem exists_role_of_mem {used : List String} {roles : List (String × RoleColumns)}
    {g : RoleGroup} (member : g ∈ place used roles) : ∃ role ∈ roles, Holds role g :=
  exists_of_forall₂ (place_holds used roles) member

theorem exists_group_of_mem {role : String × RoleColumns} {roles : List (String × RoleColumns)}
    (used : List String) (member : role ∈ roles) : ∃ g ∈ place used roles, Holds role g :=
  exists_of_forall₂ (place_holds used roles).flip member

theorem map_columns_place (used : List String) (roles : List (String × RoleColumns)) {α : Type}
    (f : Column → α) (blind : ∀ c name, f { c with name := name } = f c) :
    ((place used roles).flatMap (·.columns)).map f = (roles.flatMap (·.2.columns)).map f := by
  induction roles generalizing used with
  | nil => rfl
  | cons role rest ih =>
    have first := (renamed_zip (Name.claimAll used (role.2.columns.map (·.name))) role.2.columns
      (by simp)).map_eq f blind
    rw [place, List.flatMap_cons, List.flatMap_cons, List.map_append, List.map_append, ih]
    exact congrArg (· ++ _) first

theorem map_predicator_place (used : List String) (roles : List (String × RoleColumns)) :
    (place used roles).map (·.predicator) = roles.map (·.1) := by
  induction roles generalizing used with
  | nil => rfl
  | cons role rest ih => simp [place, ih]

theorem names_place (used : List String) (roles : List (String × RoleColumns)) :
    (place used roles).flatMap names =
      Name.claimAll used (roles.flatMap fun role => role.2.columns.map (·.name)) := by
  induction roles generalizing used with
  | nil => rfl
  | cons role rest ih =>
    obtain ⟨predicator, role⟩ := role
    have lengths : (Name.claimAll used (role.columns.map (·.name))).length ≤
        role.columns.length := by simp
    have first : names ⟨predicator, ((Name.claimAll used (role.columns.map (·.name))).zip
        role.columns).map fun pair => { pair.2 with name := pair.1 }, role.reference⟩ =
        Name.claimAll used (role.columns.map (·.name)) := by
      simp only [names, List.map_map, Function.comp_def]
      exact List.map_fst_zip lengths
    rw [place, List.flatMap_cons, first, ih, List.flatMap_cons, Name.claimAll_append]

theorem place_append (used : List String) (first second : List (String × RoleColumns)) :
    ∃ taken, place used (first ++ second) = place used first ++ place taken second := by
  induction first generalizing used with
  | nil => exact ⟨used, rfl⟩
  | cons role rest ih =>
    obtain ⟨taken, split⟩ := ih
      ((Name.claimAll used (role.2.columns.map (·.name))).reverse ++ used)
    exact ⟨taken, by rw [List.cons_append, place, split, place, List.cons_append]⟩

end RoleGroup

namespace TablePlan

theorem namesOf_of_mem {groups : List RoleGroup} (distinct : (groups.map (·.predicator)).Nodup)
    {g : RoleGroup} (member : g ∈ groups) : namesOf groups g.predicator = g.names := by
  rw [namesOf, find?_of_nodup_map distinct member]

theorem flatMap_namesOf {front rest : List RoleGroup}
    (distinct : ((front ++ rest).map (·.predicator)).Nodup) :
    (front.map (·.predicator)).flatMap (namesOf (front ++ rest)) =
      front.flatMap RoleGroup.names := by
  rw [List.flatMap_map]
  refine List.flatMap_congr fun g member => ?_
  exact namesOf_of_mem distinct (List.mem_append_left _ member)

end TablePlan

end FactModel
