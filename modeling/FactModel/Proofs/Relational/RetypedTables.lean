import FactModel.Proofs.Relational.FactTables
import FactModel.Proofs.Relational.ForeignKeys
import FactModel.Proofs.Relational.Retyping

/-!
Tables in another dialect. What a table says besides the types of its columns and the terms of its
checks stays, except that more parents may have keys of the same types.
-/

namespace FactModel

def Column.untyped (c : Column) : Column := { c with dataType := "" }

def Check.unexpressed (c : Check) : Check := { c with expression := "" }

/-- A table without the types of its columns and the terms of its checks. -/
def Table.outline (t : Table) : Table :=
  { t with
    columns := t.columns.map Column.untyped
    checks := t.checks.map Check.unexpressed }

variable {f : String → String}

@[simp] theorem Column.untyped_retype (c : Column) : (c.retype f).untyped = c.untyped := rfl

@[simp] theorem Column.map_untyped_retype (columns : List Column) :
    (columns.map (Column.retype f)).map Column.untyped = columns.map Column.untyped := by
  rw [List.map_map]
  rfl

theorem map_name_of_untyped {columns others : List Column}
    (same : others.map Column.untyped = columns.map Column.untyped) :
    others.map (·.name) = columns.map (·.name) := by
  have names := congrArg (List.map (·.name)) same
  simpa only [List.map_map, Function.comp_def, Column.untyped] using names

namespace RoleGroup

def retype (f : String → String) (g : RoleGroup) : RoleGroup :=
  { g with columns := g.columns.map (Column.retype f) }

@[simp] theorem retype_names (g : RoleGroup) : (g.retype f).names = g.names :=
  Column.map_name_retype g.columns

@[simp] theorem foreignKey?_retype (table : String) (onDelete : ForeignKeyAction) (g : RoleGroup) :
    (g.retype f).foreignKey? table onDelete = g.foreignKey? table onDelete := by
  have reference : (g.retype f).reference = g.reference := rfl
  have isEmpty : (g.retype f).columns.isEmpty = g.columns.isEmpty := List.isEmpty_map
  unfold foreignKey?
  rw [retype_names, reference, isEmpty]

theorem place_retype (used : List String) (roles : List (String × RoleColumns)) :
    place used (roles.map fun role => (role.1, role.2.retype f)) =
      (place used roles).map (retype f) := by
  induction roles generalizing used with
  | nil => rfl
  | cons role rest ih =>
    obtain ⟨predicator, role⟩ := role
    have names : (role.retype f).columns.map (·.name) = role.columns.map (·.name) :=
      Column.map_name_retype role.columns
    rw [List.map_cons, place, place, List.map_cons]
    dsimp only
    rw [names, ih]
    simp only [retype, RoleColumns.retype, List.zip_map_right, List.map_map]
    rfl

end RoleGroup

namespace TablePlan

/-- The plan of another dialect, whose keys have other types. -/
def retype (p : TablePlan) (y : Dialect) (f : String → String) : TablePlan :=
  { p with
    dialect := y
    keys := p.keys.mapValues fun _ key => key.retype f }

theorem namesOf_retype (groups : List RoleGroup) :
    namesOf (groups.map (RoleGroup.retype f)) = namesOf groups := by
  funext predicator
  unfold namesOf
  rw [List.find?_map]
  have same : ((fun g : RoleGroup => g.predicator == predicator) ∘ RoleGroup.retype f) =
      fun g => g.predicator == predicator := rfl
  rw [same]
  cases groups.find? fun g => g.predicator == predicator with
  | none => rfl
  | some g => exact g.retype_names

/-! Checks look at the names of columns and at what these hold -/

theorem checksFrom_untyped (p : TablePlan) (table : String) (used : List String)
    (columns : List Column) :
    p.checksFrom table used (columns.map Column.untyped) = p.checksFrom table used columns := by
  induction columns generalizing used with
  | nil => rfl
  | cons column rest ih =>
    have label : p.schema.columnLabel? column.untyped = p.schema.columnLabel? column := rfl
    rw [List.map_cons, checksFrom, checksFrom, label]
    simp only [ih]
    rfl

theorem checksFrom_retype (p : TablePlan) (y : Dialect) (table : String) (used : List String)
    (columns : List Column) :
    ((p.retype y f).checksFrom table used columns).map Check.unexpressed =
      (p.checksFrom table used columns).map Check.unexpressed := by
  have schema : (p.retype y f).schema = p.schema := rfl
  induction columns generalizing used with
  | nil => rfl
  | cons column rest ih =>
    rw [checksFrom, checksFrom, schema]
    split
    · exact ih used
    · dsimp only
      rw [List.map_append, List.map_append, ih, List.map_append, List.map_append, List.map_map,
        List.map_map]
      rfl

theorem checks_retype (p : TablePlan) (y : Dialect) (table : String) {columns others : List Column}
    (same : others.map Column.untyped = columns.map Column.untyped) :
    ((p.retype y f).checks table others).map Check.unexpressed =
      (p.checks table columns).map Check.unexpressed := by
  rw [checks, checksFrom_retype, ← checksFrom_untyped, same, checksFrom_untyped, checks]

variable {p : TablePlan} {y : Dialect} (types : ∀ t, f (p.dialect.sqlType t) = y.sqlType t)
include types

theorem key_retype (e : Entity) : (p.retype y f).key e = (p.key e).retype f := by
  have dialect : (p.retype y f).dialect = y := rfl
  have found : (p.retype y f).keys.find? e.id = (p.keys.find? e.id).map (Key.retype f) :=
    OrderedMap.find?_mapValues ..
  rw [key, key, found, dialect, surrogateKey_retype types]
  cases p.keys.find? e.id <;> rfl

theorem leadColumns_retype (e : Entity) :
    ((p.retype y f).leadColumns e).map Column.untyped = (p.leadColumns e).map Column.untyped := by
  unfold leadColumns
  rw [key_retype types]
  dsimp only
  rw [Key.retype_origin]
  cases (p.key e).origin with
  | natural => rfl
  | surrogate => rfl
  | inherited parent =>
    dsimp only
    rw [Key.map_name_retype, Key.retype, List.zip_map_right, List.map_map, List.map_map,
      List.map_map]
    rfl

theorem naturalRoles_retype (e : Entity) : (p.retype y f).naturalRoles e = p.naturalRoles e := by
  unfold naturalRoles
  rw [key_retype types, Key.retype_isNatural]
  rfl

theorem entityGroups_retype (e : Entity) :
    (p.retype y f).entityGroups e = (p.entityGroups e).map (RoleGroup.retype f) := by
  have key : (p.retype y f).key = fun e => (p.key e).retype f := funext (key_retype types)
  have columns : ∀ role, (p.retype y f).roleColumns (p.retype y f).key e role =
      (p.roleColumns p.key e role).retype f := by
    intro role
    rw [key]
    exact Derivation.roleColumns_retype types p.key e role
  have played : (p.retype y f).played e = p.played e := rfl
  unfold entityGroups
  dsimp only
  rw [naturalRoles_retype types, played, map_name_of_untyped (leadColumns_retype types e),
    ← RoleGroup.place_retype, List.map_map]
  simp only [columns]
  rfl

theorem primaryKeyOf_retype (e : Entity) (groups : List RoleGroup) :
    (p.retype y f).primaryKeyOf e (groups.map (RoleGroup.retype f)) = p.primaryKeyOf e groups := by
  unfold primaryKeyOf
  rw [key_retype types]
  dsimp only
  rw [Key.retype_origin, naturalRoles_retype types, Key.map_name_retype, namesOf_retype]

theorem primaryKey_retype (e : Entity) : (p.retype y f).primaryKey e = p.primaryKey e := by
  rw [primaryKey, entityGroups_retype types, primaryKeyOf_retype types, primaryKey]

theorem uniqueLists_retype (e : Entity) (groups : List RoleGroup) (primaryKey : List String) :
    (p.retype y f).uniqueLists e (groups.map (RoleGroup.retype f)) primaryKey =
      p.uniqueLists e groups primaryKey := by
  have schema : (p.retype y f).schema = p.schema := rfl
  unfold uniqueLists
  rw [key_retype types, Key.retype_isNatural, schema, namesOf_retype]

omit types in
theorem untyped_columns_retype (groups : List RoleGroup) :
    ((groups.map (RoleGroup.retype f)).flatMap (·.columns)).map Column.untyped =
      (groups.flatMap (·.columns)).map Column.untyped := by
  rw [List.flatMap_map, List.map_flatMap, List.map_flatMap]
  refine List.flatMap_congr fun g _ => ?_
  exact Column.map_untyped_retype g.columns

omit types in
theorem untyped_marked (p : TablePlan) (e : Entity) (columns : List Column) :
    (columns.map (p.marked e)).map Column.untyped =
      (columns.map Column.untyped).map (p.marked e) := by
  rw [List.map_map, List.map_map]
  refine List.map_congr_left fun c _ => ?_
  have name : c.untyped.name = c.name := rfl
  unfold Function.comp marked
  rw [name]
  split <;> rfl

theorem marked_retype (e : Entity) : (p.retype y f).marked e = p.marked e := by
  funext c
  rw [marked, key_retype types, Key.retype_isNatural, primaryKey_retype types, marked]

theorem columns_entityTable_retype (e : Entity) :
    ((p.retype y f).entityTable e).columns.map Column.untyped =
      (p.entityTable e).columns.map Column.untyped := by
  have columns : ((p.retype y f).leadColumns e ++
        ((p.retype y f).entityGroups e).flatMap (·.columns)).map Column.untyped =
      (p.leadColumns e ++ (p.entityGroups e).flatMap (·.columns)).map Column.untyped := by
    rw [List.map_append, List.map_append, leadColumns_retype types, entityGroups_retype types,
      untyped_columns_retype]
  rw [columns_entityTable, columns_entityTable, untyped_marked, untyped_marked, columns,
    marked_retype types]

/-! Foreign keys -/

/-- A parent whose key has the types of a child has them in the other dialect too. -/
theorem mismatch?_retype {e parent : Entity} {primaryKey : List String}
    (fits : p.mismatch? e parent primaryKey = none) :
    (p.retype y f).mismatch? e parent primaryKey = none := by
  rw [mismatch?_eq_none] at fits ⊢
  rw [key_retype types, key_retype types, Key.types, Key.types, Key.map_dataType_retype,
    Key.map_dataType_retype, Key.length_columns_retype]
  exact ⟨fits.1, congrArg (List.map f) fits.2⟩

theorem specializationKey_retype (table : String) (primaryKey : List String) (parent : Entity) :
    (p.retype y f).specializationKey table primaryKey parent =
      p.specializationKey table primaryKey parent := by
  unfold specializationKey
  rw [key_retype types, Key.map_name_retype]
  rfl

theorem specializationKeys_retype (e : Entity) (primaryKey : List String) :
    (p.specializationKeys e primaryKey).Sublist
      ((p.retype y f).specializationKeys e primaryKey) := by
  have schema : (p.retype y f).schema = p.schema := rfl
  have tableName : (p.retype y f).tableName = p.tableName := rfl
  unfold specializationKeys
  rw [schema, tableName]
  generalize e.specializationOf.eraseDups.filterMap p.schema.entities.find? = parents
  induction parents with
  | nil => exact List.Sublist.slnil
  | cons parent rest ih =>
    rw [List.filterMap_cons, List.filterMap_cons, specializationKey_retype types]
    cases fits : p.mismatch? e parent primaryKey with
    | none =>
      rw [mismatch?_retype types fits]
      exact ih.cons_cons _
    | some why =>
      dsimp only
      split
      · exact ih
      · exact ih.cons _

theorem roleKeys_retype (e : Entity) (table : String) (onDelete : ForeignKeyAction) :
    ((p.retype y f).entityGroups e).filterMap (RoleGroup.foreignKey? table onDelete) =
      (p.entityGroups e).filterMap (RoleGroup.foreignKey? table onDelete) := by
  rw [entityGroups_retype types, List.filterMap_map]
  congr 1
  funext g
  exact RoleGroup.foreignKey?_retype table onDelete g

/-! Tables -/

theorem outline_entityTable_retype (e : Entity) :
    { ((p.retype y f).entityTable e).outline with
      foreignKeys := (p.entityTable e).foreignKeys } = (p.entityTable e).outline := by
  have columns := columns_entityTable_retype types e
  have checks : ((p.retype y f).entityTable e).checks.map Check.unexpressed =
      (p.entityTable e).checks.map Check.unexpressed := p.checks_retype y _ columns
  have primaryKey : ((p.retype y f).entityTable e).primaryKey = (p.entityTable e).primaryKey :=
    primaryKey_retype types e
  have unique : ((p.retype y f).entityTable e).uniqueConstraints =
      (p.entityTable e).uniqueConstraints := by
    show (p.retype y f).uniqueLists e ((p.retype y f).entityGroups e) ((p.retype y f).primaryKey e) =
      p.uniqueLists e (p.entityGroups e) (p.primaryKey e)
    rw [primaryKey_retype types, entityGroups_retype types, uniqueLists_retype types]
  unfold Table.outline
  rw [columns, checks, primaryKey, unique]
  rfl

omit types in
theorem foreignKeys_entityTable (p : TablePlan) (e : Entity) : (p.entityTable e).foreignKeys =
    (p.entityGroups e).filterMap (RoleGroup.foreignKey? (p.tableName e.id) .restrict) ++
      p.specializationKeys e (p.primaryKey e) := rfl

theorem factGroups_retype (kind : TableKind) (ft : FactType) :
    (p.retype y f).factGroups ft kind = (p.factGroups ft kind).map (RoleGroup.retype f) := by
  have key : (p.retype y f).key = fun e => (p.key e).retype f := funext (key_retype types)
  have roles : (p.retype y f).factRoles ft = p.factRoles ft := rfl
  have placed : ∀ pair, (p.retype y f).placedFactRole kind pair =
      ((p.placedFactRole kind pair).1, (p.placedFactRole kind pair).2.retype f) := by
    intro pair
    unfold placedFactRole
    rw [key]
    exact Prod.ext rfl (referenceColumns_retype types ..)
  have lead : ((p.retype y f).factLead kind).map (·.name) = (p.factLead kind).map (·.name) := by
    unfold factLead
    split <;> rfl
  rw [factGroups_eq, factGroups_eq, lead, roles, ← RoleGroup.place_retype, List.map_map]
  congr 1
  exact List.map_congr_left fun pair _ => placed pair

omit types in
theorem primaryKey_factTable (p : TablePlan) (kind : TableKind) (ft : FactType) :
    (p.factTable kind ft).primaryKey =
      if kind = .junction then (p.factTable kind ft).columns.map (·.name)
      else [surrogateName] := rfl

theorem outline_factTable_retype (kind : TableKind) (ft : FactType) :
    ((p.retype y f).factTable kind ft).outline = (p.factTable kind ft).outline := by
  have columns : ((p.retype y f).factTable kind ft).columns.map Column.untyped =
      (p.factTable kind ft).columns.map Column.untyped := by
    rw [columns_factTable, columns_factTable, List.map_append, List.map_append,
      factGroups_retype types, untyped_columns_retype]
    unfold factLead
    split <;> rfl
  have names := map_name_of_untyped columns
  have checks : ((p.retype y f).factTable kind ft).checks.map Check.unexpressed =
      (p.factTable kind ft).checks.map Check.unexpressed := p.checks_retype y _ columns
  have primaryKey : ((p.retype y f).factTable kind ft).primaryKey =
      (p.factTable kind ft).primaryKey := by
    rw [primaryKey_factTable, primaryKey_factTable, names]
  have foreignKeys : ((p.retype y f).factTable kind ft).foreignKeys =
      (p.factTable kind ft).foreignKeys := by
    show ((p.retype y f).factGroups ft kind).filterMap _ = (p.factGroups ft kind).filterMap _
    rw [factGroups_retype types, List.filterMap_map]
    congr 1
    funext g
    exact RoleGroup.foreignKey?_retype ..
  unfold Table.outline
  rw [columns, checks, primaryKey, foreignKeys]
  rfl

end TablePlan

end FactModel
