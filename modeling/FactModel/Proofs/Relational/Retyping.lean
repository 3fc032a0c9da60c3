import FactModel.Proofs.Relational.KeyRequests

/-!
Keys in another dialect. The names of types are carried along and never looked at while keys are
resolved, so a derivation in another dialect resolves the same keys with other types.
-/

namespace FactModel

/-- The type of a dialect for what is stored in a type of another one. -/
def Dialect.translate (x y : Dialect) (type : String) : String :=
  if type = x.sqlType .integer then y.sqlType .integer
  else if type = x.sqlType .decimal then y.sqlType .decimal
  else if type = x.sqlType .boolean then y.sqlType .boolean
  else if type = x.sqlType .date then y.sqlType .date
  else if type = x.sqlType .dateTime then y.sqlType .dateTime
  else y.sqlType .string

/-- Only SQLite stores several types of data in one. -/
theorem Dialect.translate_sqlType {x : Dialect} (typed : x ≠ .sqlite) (y : Dialect) (t : DataType) :
    x.translate y (x.sqlType t) = y.sqlType t := by
  cases x with
  | sqlite => exact absurd rfl typed
  | _ => cases t <;> cases y <;> simp [translate, sqlType]

def KeyColumn.retype (f : String → String) (c : KeyColumn) : KeyColumn :=
  { c with dataType := f c.dataType }

def Column.retype (f : String → String) (c : Column) : Column :=
  { c with dataType := f c.dataType }

def Key.retype (f : String → String) (k : Key) : Key :=
  { k with columns := k.columns.map (KeyColumn.retype f) }

def RoleColumns.retype (f : String → String) (r : RoleColumns) : RoleColumns :=
  { r with columns := r.columns.map (Column.retype f) }

def KeyTable.retype (f : String → String) (t : KeyTable) : KeyTable :=
  { t with known := t.known.mapValues fun _ key => key.retype f }

variable {f : String → String}

namespace Key

@[simp] theorem retype_isIdentifying (k : Key) : (k.retype f).isIdentifying = k.isIdentifying := rfl

@[simp] theorem retype_isNatural (k : Key) : (k.retype f).isNatural = k.isNatural := rfl

@[simp] theorem retype_origin (k : Key) : (k.retype f).origin = k.origin := rfl

@[simp] theorem length_columns_retype (k : Key) :
    (k.retype f).columns.length = k.columns.length := List.length_map _

@[simp] theorem map_name_retype (k : Key) :
    (k.retype f).columns.map (·.name) = k.columns.map (·.name) := by
  simp [retype, KeyColumn.retype, Function.comp_def]

@[simp] theorem map_dataType_retype (k : Key) :
    (k.retype f).columns.map (·.dataType) = (k.columns.map (·.dataType)).map f := by
  simp [retype, KeyColumn.retype, Function.comp_def]

end Key

@[simp] theorem Column.map_name_retype (columns : List Column) :
    (columns.map (Column.retype f)).map (·.name) = columns.map (·.name) := by
  simp [Column.retype, Function.comp_def]

theorem keyColumns_retype (base table : String) (key : Key) (target : String) (nullable : Bool)
    (sources : List String) : keyColumns base table (key.retype f) target nullable sources =
      (keyColumns base table key target nullable sources).map (Column.retype f) := by
  simp [keyColumns, Key.retype, KeyColumn.retype, Column.retype, Function.comp_def]

theorem naturalColumns_retype (columns : List Column) :
    Derivation.naturalColumns (columns.map (Column.retype f)) =
      (Derivation.naturalColumns columns).map (KeyColumn.retype f) := by
  rw [Derivation.naturalColumns, Column.map_name_retype, Derivation.naturalColumns,
    List.zip_map_right, List.map_map, List.map_map]
  rfl

theorem KeyTable.find?_retype (t : KeyTable) (id : String) :
    (t.retype f).known.find? id = (t.known.find? id).map (Key.retype f) :=
  OrderedMap.find?_mapValues ..

theorem KeyTable.retype_learn (t : KeyTable) (id : String) (key : Key) :
    (t.learn id key).retype f = (t.retype f).learn id (key.retype f) := by
  rw [retype, learn, learn, retype, OrderedMap.mapValues_insert]

section Retyped

variable {x y : Dialect} (types : ∀ t, f (x.sqlType t) = y.sqlType t)
include types

theorem surrogateKey_retype : y.surrogateKey = x.surrogateKey.retype f := by
  simp [Dialect.surrogateKey, Key.retype, KeyColumn.retype, types]

theorem referenceColumns_retype (tables : OrderedMap String) (keyOf : Entity → Key) (role : String)
    (target : ObjectType) (nullable : Bool) (sources : List String) :
    referenceColumns y tables (fun e => (keyOf e).retype f) role target nullable sources =
      (referenceColumns x tables keyOf role target nullable sources).retype f := by
  cases target with
  | entity e => simp [referenceColumns, RoleColumns.retype, keyColumns_retype]
  | _ => simp [referenceColumns, RoleColumns.retype, Column.retype, types]

theorem RoleUse.columns_retype (tables : OrderedMap String) (keyOf : Entity → Key) (use : RoleUse) :
    use.columns y tables (fun e => (keyOf e).retype f) =
      (use.columns x tables keyOf).retype f := by
  cases use with
  | nothing => rfl
  | flag => simp [columns, RoleColumns.retype, Column.retype, types]
  | value role partner target => exact referenceColumns_retype types ..

end Retyped

namespace Derivation

/-- The derivation of the same schema for another dialect. -/
def inDialect (d : Derivation) (y : Dialect) : Derivation := { d with dialect := y }

variable {d : Derivation} {y : Dialect} (types : ∀ t, f (d.dialect.sqlType t) = y.sqlType t)
include types

theorem roleColumns_retype (keyOf : Entity → Key) (e : Entity) (role : String) :
    (d.inDialect y).roleColumns (fun e => (keyOf e).retype f) e role =
      (d.roleColumns keyOf e role).retype f := RoleUse.columns_retype types ..

/-- Requests that are answered alike, up to types. -/
def Retypes (f : String → String) (ask ask' : Entity → KeyTable → Key × KeyTable) : Prop :=
  ∀ e t, ask' e (t.retype f) = ((ask e t).1.retype f, (ask e t).2.retype f)

omit types in
theorem askParents_retype {ask ask' : Entity → KeyTable → Key × KeyTable}
    (answers : Retypes f ask ask') (parents : List Entity) (t : KeyTable) :
    askParents ask' parents (t.retype f) =
      ((askParents ask parents t).1.map (Key.retype f), (askParents ask parents t).2.retype f) := by
  induction parents generalizing t with
  | nil => rfl
  | cons parent rest ih =>
    unfold askParents
    rw [answers]
    dsimp only
    rw [Key.retype_isIdentifying]
    split
    · rfl
    · exact ih _

theorem askRoles_retype {ask ask' : Entity → KeyTable → Key × KeyTable}
    (answers : Retypes f ask ask') (e : Entity) (roles : List String) (t : KeyTable) :
    (d.inDialect y).askRoles ask' e roles (t.retype f) =
      ((d.askRoles ask e roles t).1.map (List.map (Column.retype f)),
        (d.askRoles ask e roles t).2.retype f) := by
  induction roles generalizing t with
  | nil => rfl
  | cons role rest ih =>
    have schema : (d.inDialect y).schema = d.schema := rfl
    have dialect : (d.inDialect y).dialect = y := rfl
    unfold askRoles
    rw [schema]
    cases (d.schema.roleUse e.id role).entity? with
    | none =>
      dsimp only
      rw [ih, dialect, surrogateKey_retype types, roleColumns_retype types]
      rfl
    | some target =>
      dsimp only
      rw [answers]
      dsimp only
      rw [ih, roleColumns_retype types fun _ => (ask target t).1]
      rfl

theorem keyOfRequests_retype {ask ask' : Entity → KeyTable → Key × KeyTable}
    (answers : Retypes f ask ask') (e : Entity) (t : KeyTable) :
    (d.inDialect y).keyOfRequests ask' e (t.retype f) =
      ((d.keyOfRequests ask e t).1.retype f, (d.keyOfRequests ask e t).2.retype f) := by
  have keyRoles : (d.inDialect y).keyRoles e = d.keyRoles e := rfl
  have parents : (d.inDialect y).parents e = d.parents e := rfl
  have dialect : (d.inDialect y).dialect = y := rfl
  unfold keyOfRequests
  rw [keyRoles, parents, askRoles_retype types answers]
  dsimp only
  rw [← List.map_flatten, List.isEmpty_map]
  split
  · rw [askParents_retype answers, dialect, surrogateKey_retype types]
    dsimp only
    cases (askParents ask (d.parents e) (d.askRoles ask e (d.keyRoles e) t).2).1 <;> rfl
  · rw [naturalColumns_retype]
    rfl

/-- Resolving a key in another dialect yields the same key in other types. -/
theorem resolveKey_retype (pending : List String) :
    Retypes f (d.resolveKey pending) ((d.inDialect y).resolveKey pending) := by
  -- the keys that are asked for are resolved with one entity less to go
  induction length : pending.length using Nat.strongRecOn generalizing pending with
  | _ size ih =>
    intro e t
    have retyped := KeyTable.find?_retype (f := f) t e.id
    cases known : t.known.find? e.id with
    | some key =>
      rw [known] at retyped
      rw [resolveKey_known known, resolveKey_known retyped]
    | none =>
      rw [known] at retyped
      by_cases idle : e.id ∈ pending
      · have fewer : (pending.erase e.id).length < size := by
          have positive := List.length_pos_of_mem idle
          rw [List.length_erase_of_mem idle]
          omega
        rw [resolveKey_new known idle, resolveKey_new retyped idle,
          keyOfRequests_retype types (ih _ fewer _ rfl)]
        dsimp only
        rw [KeyTable.retype_learn]
      · rw [resolveKey_cut known idle, resolveKey_cut retyped idle]
        exact Prod.ext (surrogateKey_retype types) rfl

theorem meet_retype (t : KeyTable) (demand : Demand) :
    (d.inDialect y).meet (t.retype f) demand = (d.meet t demand).retype f := by
  have asked : ∀ e, (d.inDialect y).ask e (t.retype f) = (d.ask e t).retype f := fun e =>
    congrArg Prod.snd (resolveKey_retype types d.entityIds e t)
  cases demand with
  | key e => exact asked e
  | parent _ p => exact asked p
  | lostParent => rfl
  | lostRole => rfl

theorem keys_retype : (d.inDialect y).keys = d.keys.mapValues fun _ key => key.retype f := by
  have demands : (d.inDialect y).demands = d.demands := rfl
  have run : ∀ (demands : List Demand) (t : KeyTable),
      demands.foldl (d.inDialect y).meet (t.retype f) = (demands.foldl d.meet t).retype f := by
    intro demands
    induction demands with
    | nil => exact fun _ => rfl
    | cons demand rest ih =>
      intro t
      rw [List.foldl_cons, meet_retype types, ih, List.foldl_cons]
  rw [keys, demands]
  exact congrArg KeyTable.known (run d.demands .empty)

end Derivation

end FactModel
