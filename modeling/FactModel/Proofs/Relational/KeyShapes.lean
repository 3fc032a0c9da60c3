import FactModel.Proofs.Relational.PlannedKeys

/-!
The shapes of planned keys. Every key has columns under names of their own. Where identification
is not cyclic, a natural key is made of the columns that its roles have in the tables.
-/

namespace FactModel

namespace Key

def names (key : Key) : List String := key.columns.map (·.name)

def types (key : Key) : List String := key.columns.map (·.dataType)

/-- The key has columns, under names of their own. -/
structure Proper (key : Key) : Prop where
  some : key.columns ≠ []
  distinct : key.names.Nodup

@[simp] theorem names_mk (columns : List KeyColumn) (origin : KeyOrigin) :
    names ⟨columns, origin⟩ = columns.map (·.name) := rfl

@[simp] theorem types_mk (columns : List KeyColumn) (origin : KeyOrigin) :
    types ⟨columns, origin⟩ = columns.map (·.dataType) := rfl

theorem surrogate_proper (d : Dialect) : d.surrogateKey.Proper := ⟨by simp [Dialect.surrogateKey],
  List.nodup_singleton _⟩

end Key

namespace Derivation

theorem map_name_naturalColumns (columns : List Column) :
    (naturalColumns columns).map (·.name) = Name.claimAll [] (columns.map (·.name)) := by
  have lengths : (Name.claimAll [] (columns.map (·.name))).length ≤ columns.length := by simp
  simp only [naturalColumns, List.map_map, Function.comp_def]
  exact List.map_fst_zip lengths

theorem map_dataType_naturalColumns (columns : List Column) :
    (naturalColumns columns).map (·.dataType) = columns.map (·.dataType) := by
  have lengths : columns.length ≤ (Name.claimAll [] (columns.map (·.name))).length := by simp
  have second := congrArg (List.map (·.dataType)) (List.map_snd_zip lengths)
  simpa only [naturalColumns, List.map_map, Function.comp_def] using second

theorem natural_proper {columns : List Column} (some : columns ≠ []) :
    Key.Proper ⟨naturalColumns columns, .natural⟩ := by
  refine ⟨fun none => some ?_, ?_⟩
  · have names := congrArg (List.map (·.name)) none
    rw [map_name_naturalColumns] at names
    have length := congrArg List.length names
    simpa using length
  · rw [Key.names_mk, map_name_naturalColumns]
    exact Name.claimAll_nodup _ _

variable {d : Derivation}

theorem Justified.proper {t : KeyTable} {e : Entity} {key : Key} (justified : d.Justified t e key)
    (proper : ∀ id other, t.known.find? id = some other → other.Proper) : key.Proper := by
  cases justified with
  | natural groups _ some => exact natural_proper some
  | inherited _ _ _ parent other _ _ _ _ found _ =>
    have old := proper _ _ found
    exact ⟨old.some, old.distinct⟩
  | surrogate _ _ _ _ => exact Key.surrogate_proper d.dialect

/-- What is passed on from known keys to a justified one holds of every key that was learnt. -/
theorem Built.forall_key {P : Key → Prop} {t : KeyTable} (built : d.Built t)
    (step : ∀ {t e key}, d.Justified t e key →
      (∀ id other, t.known.find? id = some other → P other) → P key)
    (id : String) (key : Key) (found : t.known.find? id = some key) : P key := by
  induction built generalizing id key with
  | empty => cases found
  | cut _ _ ih => exact ih id key found
  | learn _ _ _ justified ih =>
    rw [KeyTable.find?_learn] at found
    split at found
    · cases found
      exact step justified ih
    · exact ih id key found

theorem plan_key_forall (keyed : d.schema.Keyed) {P : Key → Prop}
    (surrogate : P d.dialect.surrogateKey)
    (step : ∀ {t e key}, d.Justified t e key →
      (∀ id other, t.known.find? id = some other → P other) → P key)
    (e : Entity) : P (d.plan.key e) := by
  cases found : d.settled.known.find? e.id with
  | some key =>
    have same : d.plan.key e = key := by
      have kept : d.plan.keys.find? e.id = some key := found
      rw [TablePlan.key, kept, Option.getD_some]
    rw [same]
    exact (settled_built keyed).forall_key step _ _ found
  | none =>
    have same : d.plan.key e = d.dialect.surrogateKey := by
      have missing : d.plan.keys.find? e.id = none := found
      rw [TablePlan.key, missing, Option.getD_none]
      rfl
    rw [same]
    exact surrogate

theorem plan_key_proper (keyed : d.schema.Keyed) (e : Entity) : (d.plan.key e).Proper :=
  plan_key_forall keyed (Key.surrogate_proper d.dialect) Justified.proper e

theorem plan_key_cases (keyed : d.schema.Keyed) {e : Entity}
    (member : e ∈ d.schema.entities.values) :
    (∃ groups, d.plan.key e = ⟨naturalColumns groups.flatten, .natural⟩ ∧ groups.flatten ≠ [] ∧
      List.Forall₂ (d.Contributes (d.Answers d.settled) e) (d.keyRoles e) groups) ∨
    (∃ parent ∈ d.parents e,
      d.plan.key e = ⟨(d.plan.key parent).columns, .inherited parent.id⟩) ∨
    d.plan.key e = d.dialect.surrogateKey := by
  generalize planned : d.plan.key e = key
  have justified := plan_justified keyed member
  rw [planned] at justified
  cases justified with
  | natural groups given some => exact .inl ⟨groups, rfl, some, given⟩
  | inherited _ before after parent other _ _ split _ found _ =>
    have listed : parent ∈ d.parents e := by
      rw [split]
      exact List.mem_append_right _ List.mem_cons_self
    rw [settled_known keyed (d.mem_parents listed), Option.some.injEq] at found
    exact .inr (.inl ⟨parent, listed, by rw [found]⟩)
  | surrogate _ _ _ _ => exact .inr (.inr rfl)

theorem groups_of_natural (keyed : d.schema.Keyed) {e : Entity}
    (member : e ∈ d.schema.entities.values) (natural : (d.plan.key e).origin = .natural) :
    ∃ groups, d.plan.key e = ⟨naturalColumns groups.flatten, .natural⟩ ∧ groups.flatten ≠ [] ∧
      List.Forall₂ (d.Contributes (d.Answers d.settled) e) (d.keyRoles e) groups := by
  rcases plan_key_cases keyed member with given | ⟨_, _, inherited⟩ | surrogate
  · exact given
  · rw [inherited] at natural
    cases natural
  · rw [surrogate] at natural
    cases natural

theorem keyRoles_ne_nil (keyed : d.schema.Keyed) {e : Entity}
    (member : e ∈ d.schema.entities.values) (natural : (d.plan.key e).origin = .natural) :
    d.keyRoles e ≠ [] := by
  intro none
  obtain ⟨groups, _, some, given⟩ := groups_of_natural keyed member natural
  rw [none, List.forall₂_nil_left_iff] at given
  exact some (by rw [given, List.flatten_nil])

theorem unidentified?_eq_none (keyed : d.schema.Keyed) : d.unidentified? = none := by
  refine List.find?_eq_none.mpr fun e member lost => ?_
  simp only [isUnidentified, Bool.and_eq_true, Option.isNone_iff_eq_none] at lost
  refine keyRoles_ne_nil keyed member (Key.isNatural_iff.mp lost.1) ?_
  have missing : d.schema.primaryIdentifier? e = none := lost.2
  rw [keyRoles, missing]

theorem result_eq_ok (keyed : d.schema.Keyed) : d.result = .ok d.sqlSchema := by
  rw [result, unidentified?_eq_none keyed]

/-! Natural keys and the columns in the tables -/

/-- The columns of a role depend on the key of the entity that it refers to, on no other. -/
theorem roleColumns_congr {keyOf other : Entity → Key} {e : Entity} {role : String}
    (agree : ∀ target, (d.schema.roleUse e.id role).entity? = some target →
      keyOf target = other target) :
    d.roleColumns keyOf e role = d.roleColumns other e role := by
  unfold roleColumns
  cases use : d.schema.roleUse e.id role with
  | nothing => rfl
  | flag f r => rfl
  | value r partner target =>
    cases target with
    | entity target =>
      have same := agree target (by rw [use, RoleUse.entity?])
      simp only [RoleUse.columns, referenceColumns, same]
    | _ => rfl

theorem Contributes.eq_planned (keyed : d.schema.Keyed) {e : Entity} {role : String}
    {columns : List Column} (given : d.Contributes d.settled.Knows e role columns) :
    columns = (d.roleColumns d.plan.key e role).columns := by
  obtain ⟨key, same, answers⟩ := given
  rw [same]
  refine congrArg RoleColumns.columns (roleColumns_congr fun target refers => ?_)
  have known := settled_known keyed (Schema.entity_of_roleUse keyed refers)
  exact Option.some.inj ((answers target refers).symm.trans known)

end Derivation

end FactModel
