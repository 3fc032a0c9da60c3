import FactModel.Proofs.Relational.EntityTables
import FactModel.Proofs.Relational.KeyReferrals

/-!
Planned keys against the keys of tables. Both are worked out from the same roles, the planned key
while entities are still being resolved, the key of the table afterwards.
-/

namespace FactModel

namespace Derivation

variable {d : Derivation} {e : Entity}

theorem Contributes.used {answers : Entity → Key → Prop} {role : String}
    {columns : List Column} (given : d.Contributes answers e role columns) (some : columns ≠ []) :
    d.schema.roleUse e.id role ≠ .nothing := by
  obtain ⟨key, same, _⟩ := given
  intro unused
  rw [roleColumns, unused] at same
  exact some same

/-- Columns do not follow from the keys of the table only where a cycle was cut. -/
theorem Contributes.known_or_cut {t : KeyTable} {role : String} {columns : List Column}
    (given : d.Contributes (d.Answers t) e role columns) :
    d.Contributes t.Knows e role columns ∨ ∃ target,
      (d.schema.roleUse e.id role).entity? = some target ∧ d.Cyclic target ∧
        columns = (d.roleColumns (fun _ => d.dialect.surrogateKey) e role).columns := by
  obtain ⟨key, same, answers⟩ := given
  cases refers : (d.schema.roleUse e.id role).entity? with
  | none => exact .inl ⟨key, same, by simp [refers]⟩
  | some target =>
    rcases answers target refers with known | ⟨rfl, cyclic⟩
    · refine .inl ⟨key, same, fun other also => ?_⟩
      rw [refers, Option.some.injEq] at also
      exact also ▸ known
    · exact .inr ⟨target, rfl, cyclic, same⟩

theorem Contributes.names_planned (keyed : d.schema.Keyed)
    (single : ∀ target ∈ d.schema.entities.values, d.Cyclic target →
      (d.plan.key target).columns.length = 1) {role : String} {columns : List Column}
    (given : d.Contributes (d.Answers d.settled) e role columns) :
    columns.map (·.name) = (d.plan.roleColumns d.plan.key e role).columns.map (·.name) := by
  rcases given.known_or_cut with known | ⟨target, refers, cyclic, rfl⟩
  · rw [known.eq_planned keyed]
    rfl
  · exact RoleUse.names_columns_single d.dialect d.tables refers rfl
      (single target (Schema.entity_of_roleUse keyed refers) cyclic)

theorem keyRoleColumns_ne_nil (keyed : d.schema.Keyed) (member : e ∈ d.schema.entities.values)
    (natural : (d.plan.key e).origin = .natural) : d.plan.keyRoleColumns e ≠ [] := by
  obtain ⟨groups, _, some, given⟩ := groups_of_natural keyed member natural
  intro none
  rw [TablePlan.keyRoleColumns, TablePlan.naturalRoles_of_natural natural,
    List.flatMap_eq_nil_iff] at none
  refine some (List.flatten_eq_nil_iff.mpr fun group held => ?_)
  by_contra filled
  obtain ⟨role, listed, contributes⟩ := exists_of_forall₂ given held
  exact RoleUse.columns_ne_nil d.dialect d.tables (plan_key_proper keyed)
    (contributes.used filled) (none role listed)

theorem plan_wellKeyed (keyed : d.schema.Keyed) : d.plan.WellKeyed := by
  refine ⟨plan_key_proper keyed, fun e member surrogate => ?_,
    fun e member natural => keyRoleColumns_ne_nil keyed member natural⟩
  rcases plan_key_cases keyed member with ⟨_, other, _⟩ | ⟨_, _, other⟩ | same
  · rw [other] at surrogate
    cases surrogate
  · rw [other] at surrogate
    cases surrogate
  · exact same

theorem tableKey_of_informed (keyed : d.schema.Keyed) (natural : (d.plan.key e).origin = .natural)
    (informed : d.Informed d.settled e (d.plan.key e)) : d.plan.tableKey e = d.plan.key e := by
  obtain ⟨groups, same, given⟩ := informed
  have columns : List.Forall₂ (fun role group =>
      (d.plan.roleColumns d.plan.key e role).columns = id group) (d.keyRoles e) groups :=
    given.imp fun _ _ contributes => (contributes.eq_planned keyed).symm
  have groups := map_eq_map_of_forall₂ columns
  rw [List.map_id] at groups
  rw [TablePlan.tableKey_of_natural natural, same, TablePlan.keyRoleColumns,
    TablePlan.naturalRoles_of_natural natural, List.flatMap_def, ← groups]
  rfl

/-- Where every entity that is identified through itself has a key of one column, the columns of
keys have the same names in the tables as in the plan. -/
theorem names_tableKey (keyed : d.schema.Keyed) (member : e ∈ d.schema.entities.values)
    (single : ∀ target ∈ d.schema.entities.values, d.Cyclic target →
      (d.plan.key target).columns.length = 1) :
    (d.plan.tableKey e).names = (d.plan.key e).names := by
  by_cases natural : (d.plan.key e).origin = .natural
  · obtain ⟨groups, same, _, given⟩ := groups_of_natural keyed member natural
    have names := map_eq_map_of_forall₂
      (given.imp fun role group contributes => (contributes.names_planned keyed single).symm)
    rw [TablePlan.tableKey_of_natural natural, same, Key.names_mk, Key.names_mk,
      map_name_naturalColumns, map_name_naturalColumns, TablePlan.keyRoleColumns,
      TablePlan.naturalRoles_of_natural natural, List.map_flatMap, List.map_flatten,
      List.flatMap_def, ← names]
    rfl
  · rw [TablePlan.tableKey_of_not_natural natural]

end Derivation

end FactModel
