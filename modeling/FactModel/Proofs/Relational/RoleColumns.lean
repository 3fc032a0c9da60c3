import FactModel.Proofs.Relational.KeyShapes

/-!
The columns of one role: as many as the key that it refers to has, of the types of that key, and
marked with the predicators that they stem from.
-/

namespace FactModel

/-- The type of the values in a column: numbered rows are numbered by integers. -/
def Column.storedType (d : Dialect) (c : Column) : String :=
  if c.autoIncrement then d.sqlType .integer else c.dataType

/-- The columns of a role stem from the given predicators and do not number rows. -/
def RoleColumns.StemFrom (role : RoleColumns) (sources : List String) : Prop :=
  ∀ c ∈ role.columns, c.sourcePredicatorIds = sources ∧ c.autoIncrement = false

theorem RoleColumns.StemFrom.storedTypes {role : RoleColumns} {sources : List String}
    (stem : role.StemFrom sources) (d : Dialect) :
    role.columns.map (·.storedType d) = role.columns.map (·.dataType) := by
  refine List.map_congr_left fun c member => ?_
  have plain := (stem c member).2
  rw [Column.storedType, plain, if_neg Bool.false_ne_true]

/-- The columns refer to the key of an entity, one to each of its columns. -/
structure RoleColumns.RefersTo (role : RoleColumns) (table : String) (key : Key) : Prop where
  reference : role.reference = some ⟨table, key.names⟩
  types : role.columns.map (·.dataType) = key.types

section References

variable (d : Dialect) (tables : OrderedMap String) (keyOf : Entity → Key) (role : String)
  (nullable : Bool) (sources : List String)

theorem referenceColumns_entity (e : Entity) :
    (referenceColumns d tables keyOf role (.entity e) nullable sources).RefersTo
      ((tables.find? e.id).getD "") (keyOf e) := by
  refine ⟨rfl, ?_⟩
  simp only [referenceColumns, keyColumns, List.map_map, Function.comp_def, Key.types]

theorem referenceColumns_cases (target : ObjectType) :
    (∃ e, target = .entity e) ∨
    ∃ c : Column, referenceColumns d tables keyOf role target nullable sources = ⟨[c], none⟩ ∧
      c.sourcePredicatorIds = sources ∧ c.autoIncrement = false := by
  cases target with
  | entity e => exact .inl ⟨e, rfl⟩
  | _ => exact .inr ⟨_, rfl, rfl, rfl⟩

variable (target : ObjectType)

theorem referenceColumns_stem :
    (referenceColumns d tables keyOf role target nullable sources).StemFrom sources := by
  rcases referenceColumns_cases d tables keyOf role nullable sources target with
    ⟨e, rfl⟩ | ⟨column, only, stem⟩
  · intro c member
    obtain ⟨column, _, rfl⟩ := List.mem_map.mp member
    exact ⟨rfl, rfl⟩
  · intro c member
    rw [only, List.mem_singleton] at member
    rw [member]
    exact stem

variable {target}

theorem referenceColumns_of_reference {reference : Reference}
    (refers : (referenceColumns d tables keyOf role target nullable sources).reference =
      some reference) : ∃ e, target = .entity e := by
  rcases referenceColumns_cases d tables keyOf role nullable sources target with
    entity | ⟨column, only, _⟩
  · exact entity
  · rw [only] at refers
    cases refers

variable {keyOf}

theorem referenceColumns_ne_nil (proper : ∀ e, (keyOf e).Proper) :
    (referenceColumns d tables keyOf role target nullable sources).columns ≠ [] := by
  rcases referenceColumns_cases d tables keyOf role nullable sources target with
    ⟨e, rfl⟩ | ⟨column, only, _⟩
  · exact fun none => (proper e).some (List.map_eq_nil_iff.mp none)
  · rw [only]
    exact List.cons_ne_nil _ _

theorem names_keyColumns_single (base table : String) {key : Key} (target : String)
    (single : key.columns.length = 1) :
    (keyColumns base table key target nullable sources).map (·.name) = [base] := by
  obtain ⟨column, only⟩ := List.length_eq_one_iff.mp single
  simp [keyColumns, only]

end References

namespace RoleUse

def sources : RoleUse → List String
  | nothing => []
  | flag _ role => [role.id]
  | value role partner _ => [role.id, partner.id]

variable (d : Dialect) (tables : OrderedMap String) (keyOf : Entity → Key)

theorem columns_stem (use : RoleUse) : (use.columns d tables keyOf).StemFrom use.sources := by
  cases use with
  | nothing => simp [columns, RoleColumns.empty, RoleColumns.StemFrom]
  | flag f role => simp [columns, sources, RoleColumns.StemFrom]
  | value role partner target => exact referenceColumns_stem _ _ _ _ _ _ _

theorem columns_entity {use : RoleUse} {target : Entity} (refers : use.entity? = some target) :
    (use.columns d tables keyOf).RefersTo ((tables.find? target.id).getD "") (keyOf target) := by
  obtain ⟨role, partner, rfl⟩ := entity?_eq_some refers
  exact referenceColumns_entity d tables keyOf partner.name role.isOptional [role.id, partner.id]
    target

/-- References to keys of one column have the same name, whatever those columns are called. -/
theorem names_columns_single {keyOf other : Entity → Key} {use : RoleUse} {target : Entity}
    (refers : use.entity? = some target) (single : (keyOf target).columns.length = 1)
    (alone : (other target).columns.length = 1) :
    (use.columns d tables keyOf).columns.map (·.name) =
      (use.columns d tables other).columns.map (·.name) := by
  obtain ⟨role, partner, rfl⟩ := entity?_eq_some refers
  exact (names_keyColumns_single _ _ _ _ _ single).trans
    (names_keyColumns_single _ _ _ _ _ alone).symm

theorem entity_of_reference {use : RoleUse} {reference : Reference}
    (refers : (use.columns d tables keyOf).reference = some reference) :
    ∃ target, use.entity? = some target := by
  cases use with
  | nothing => cases refers
  | flag f role => cases refers
  | value role partner o =>
    obtain ⟨e, rfl⟩ := referenceColumns_of_reference _ _ _ _ _ _ refers
    exact ⟨e, rfl⟩

variable {keyOf}

theorem columns_ne_nil (proper : ∀ e, (keyOf e).Proper) {use : RoleUse} (used : use ≠ .nothing) :
    (use.columns d tables keyOf).columns ≠ [] := by
  cases use with
  | nothing => exact absurd rfl used
  | flag f role => exact List.cons_ne_nil _ _
  | value role partner target => exact referenceColumns_ne_nil _ _ _ _ _ proper

end RoleUse

end FactModel
