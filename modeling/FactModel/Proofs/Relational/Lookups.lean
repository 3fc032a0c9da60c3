import FactModel.Proofs.Relational.TableNames

/-!
The lookups of a derivation. The names of the tables of entities and fact types, and the primary
identifier of an entity with a natural key, are taken to be there. Read with lookups that fail,
the derivation is the same: a keyed schema has all that it asks for, wherever its references lead.
-/

namespace FactModel

def referenceColumns? (d : Dialect) (tables : OrderedMap String) (keyOf : Entity → Key)
    (role : String) (target : ObjectType) (nullable : Bool) (sources : List String) :
    Option RoleColumns :=
  match target with
  | .entity e => do
    let key := keyOf e
    let table ← tables.find? e.id
    return ⟨keyColumns (Ddl.identifier role) table key e.id nullable sources,
      some ⟨table, key.columns.map (·.name)⟩⟩
  | target => some (referenceColumns d tables keyOf role target nullable sources)

def RoleUse.columns? (d : Dialect) (tables : OrderedMap String) (keyOf : Entity → Key) :
    RoleUse → Option RoleColumns
  | value role partner target =>
    referenceColumns? d tables keyOf partner.name target role.isOptional [role.id, partner.id]
  | use => some (use.columns d tables keyOf)

namespace Derivation

def roleColumns? (d : Derivation) (keyOf : Entity → Key) (e : Entity) (predicator : String) :
    Option RoleColumns :=
  (d.schema.roleUse e.id predicator).columns? d.dialect d.tables keyOf

/-- Adds the columns of a key role, for which `ask?` asks the entity that it refers to. -/
def addRole? (d : Derivation) (ask? : Entity → KeyTable → Option (Key × KeyTable)) (e : Entity)
    (state : List Column × KeyTable) (predicator : String) : Option (List Column × KeyTable) :=
  match (d.schema.roleUse e.id predicator).entity? with
  | some target => do
    let (key, known) ← ask? target state.2
    let role ← d.roleColumns? (fun _ => key) e predicator
    return (state.1 ++ role.columns, known)
  | none => do
    let role ← d.roleColumns? (fun _ => d.dialect.surrogateKey) e predicator
    return (state.1 ++ role.columns, state.2)

/-- Asks a parent for a key to pass on, unless one before it had one. -/
def askParent? (ask? : Entity → KeyTable → Option (Key × KeyTable))
    (state : Option Key × KeyTable) (parent : Entity) : Option (Option Key × KeyTable) :=
  match state.1 with
  | some _ => some state
  | none => do
    let (key, known) ← ask? parent state.2
    return (if key.isIdentifying then some ⟨key.columns, .inherited parent.id⟩ else none, known)

def resolveKey? (d : Derivation) (pending : List String) (e : Entity) (known : KeyTable) :
    Option (Key × KeyTable) :=
  match known.known.find? e.id with
  | some key => some (key, known)
  | none =>
    if _h : e.id ∈ pending then do
      let ask? := fun target known => d.resolveKey? (pending.erase e.id) target known
      let (columns, known) ← (d.keyRoles e).foldlM (d.addRole? ask? e) ([], known)
      let (key, known) ←
        if columns.isEmpty then do
          let (key, known) ← (d.parents e).foldlM (askParent? ask?) (none, known)
          pure (key.getD d.dialect.surrogateKey, known)
        else pure (⟨naturalColumns columns, .natural⟩, known)
      return (key, known.learn e.id key)
    else some (d.dialect.surrogateKey, known.cut e.id)
termination_by pending.length
decreasing_by
  all_goals
    have := List.length_pos_of_mem _h
    rw [List.length_erase_of_mem _h]
    omega

def meet? (d : Derivation) (known : KeyTable) (demand : Demand) : Option KeyTable :=
  match demand.entity? with
  | some e => (d.resolveKey? d.entityIds e known).map (·.2)
  | none => some known

def plan? (d : Derivation) : Option TablePlan := do
  let known ← d.demands.foldlM d.meet? .empty
  return { d with keys := known.known }

end Derivation

namespace TablePlan

/-- An entity with a natural key has to have the identifier that the key stems from. -/
def naturalRoles? (p : TablePlan) (e : Entity) : Option (List String) :=
  if (p.key e).isNatural then do
    let primary ← p.schema.primaryIdentifier? e
    return primary.predicatorIds.eraseDups
  else some []

def entityGroups? (p : TablePlan) (e : Entity) : Option (List RoleGroup) := do
  let natural ← p.naturalRoles? e
  let roles ← (natural ++ p.played e).eraseDups.mapM fun predicator => do
    return (predicator, ← p.roleColumns? p.key e predicator)
  return RoleGroup.place ((p.leadColumns e).map (·.name)) roles

/-- The foreign key to a parent, whose name is asked for even where the keys do not match. -/
def specializationKey? (p : TablePlan) (table : String) (e : Entity) (primaryKey : List String)
    (parent : Entity) : Option (Option ForeignKey) := do
  let name ← p.tables.find? parent.id
  return match p.mismatch? e parent primaryKey with
    | some _ => none
    | none => some
      { name := s!"fk_{table}_{name}"
        columns := primaryKey
        refTable := name
        refColumns := (p.key parent).columns.map (·.name)
        onDelete := some .cascade
        onUpdate := some .cascade }

def entityTable? (p : TablePlan) (e : Entity) : Option Table := do
  let name ← p.tables.find? e.id
  let groups ← p.entityGroups? e
  let primaryKey := p.primaryKeyOf e groups
  let columns := p.leadColumns e ++ groups.flatMap (·.columns)
  let columns := if (p.key e).isNatural then markKey primaryKey columns else columns
  let parents := e.specializationOf.eraseDups.filterMap p.schema.entities.find?
  let inherited ← parents.mapM (p.specializationKey? name e primaryKey)
  return {
    name := name
    kind := .entity
    sourceId := some e.id
    columns := columns
    primaryKey := primaryKey
    uniqueConstraints := p.uniqueLists e groups primaryKey
    foreignKeys := groups.filterMap (RoleGroup.foreignKey? name .restrict) ++
      inherited.filterMap id
    checks := p.checks name columns }

def factGroups? (p : TablePlan) (f : FactType) (kind : TableKind) : Option (List RoleGroup) := do
  let used := if kind = .junction then [] else [surrogateName]
  let roles ← (p.factRoles f).mapM fun pair => do
    let nullable := kind != .junction && pair.1.isOptional
    return (pair.1.id,
      ← referenceColumns? p.dialect p.tables p.key pair.1.name pair.2 nullable [pair.1.id])
  return RoleGroup.place used roles

def factTable? (p : TablePlan) (kind : TableKind) (f : FactType) : Option Table := do
  let name ← p.tables.find? f.id
  let groups ← p.factGroups? f kind
  let roleColumns := groups.flatMap (·.columns)
  let columns :=
    if kind = .junction then roleColumns else p.dialect.surrogateColumn :: roleColumns
  let onDelete := if kind = .junction then .cascade else .restrict
  return {
    name := name
    kind := kind
    sourceId := some f.id
    columns := columns
    primaryKey := if kind = .junction then columns.map (·.name) else [surrogateName]
    uniqueConstraints := []
    foreignKeys := groups.filterMap (RoleGroup.foreignKey? name onDelete)
    checks := p.checks name columns }

def tableList? (p : TablePlan) : Option (List Table) := do
  let entities ← p.schema.entities.values.mapM p.entityTable?
  let objectified ← p.schema.objectifiedFactTypes.mapM (p.factTable? .objectified)
  let junctions ← p.schema.junctions.mapM (p.factTable? .junction)
  return entities ++ objectified ++ junctions

end TablePlan

/-- The relational schema of an information schema, where no lookup fails. -/
def Schema.toSql? (s : Schema) (d : Dialect) : Option SqlSchema := do
  let plan ← (Derivation.ofSchema s d).plan?
  let tables ← plan.tableList?
  return ⟨d, tables, indexesOf tables⟩

theorem referenceColumns?_eq_some {dialect : Dialect} {tables : OrderedMap String}
    {keyOf : Entity → Key} {role : String} {target : ObjectType} {nullable : Bool}
    {sources : List String} (named : ∀ e, target = .entity e → e.id ∈ tables.keys) :
    referenceColumns? dialect tables keyOf role target nullable sources =
      some (referenceColumns dialect tables keyOf role target nullable sources) := by
  cases target with
  | entity e =>
    obtain ⟨name, found⟩ :=
      Option.isSome_iff_exists.mp ((tables.find?_isSome_iff e.id).mpr (named e rfl))
    simp [referenceColumns?, referenceColumns, found]
  | _ => rfl

namespace Derivation

/-- Every element that has a table has a name for it. -/
structure Named (d : Derivation) : Prop where
  entities : ∀ e ∈ d.schema.entities.values, e.id ∈ d.tables.keys
  objectified : ∀ f ∈ d.schema.objectifiedFactTypes, f.id ∈ d.tables.keys
  junctions : ∀ f ∈ d.schema.junctions, f.id ∈ d.tables.keys

variable {d : Derivation}

theorem roleColumns?_eq_some (keyed : d.schema.Keyed) (named : d.Named) (keyOf : Entity → Key)
    (e : Entity) (predicator : String) :
    d.roleColumns? keyOf e predicator = some (d.roleColumns keyOf e predicator) := by
  unfold roleColumns? roleColumns
  cases use : d.schema.roleUse e.id predicator with
  | value role partner target =>
    refine referenceColumns?_eq_some fun other same => named.entities other ?_
    exact Schema.entity_of_roleUse keyed (by rw [use, same, RoleUse.entity?])
  | _ => rfl

section Requests

variable {ask? : Entity → KeyTable → Option (Key × KeyTable)}
  {ask : Entity → KeyTable → Key × KeyTable}

theorem foldlM_addRole? (keyed : d.schema.Keyed) (named : d.Named)
    (answers : ∀ target t, ask? target t = some (ask target t)) (e : Entity)
    (roles : List String) (columns : List Column) (t : KeyTable) :
    roles.foldlM (d.addRole? ask? e) (columns, t) =
      some (columns ++ (d.askRoles ask e roles t).1.flatten, (d.askRoles ask e roles t).2) := by
  induction roles generalizing columns t with
  | nil => simp [askRoles]
  | cons role rest ih =>
    rw [List.foldlM_cons, addRole?, askRoles]
    cases (d.schema.roleUse e.id role).entity? <;>
      simp [answers, roleColumns?_eq_some keyed named, ih]

theorem foldlM_askParent? (answers : ∀ target t, ask? target t = some (ask target t))
    (parents : List Entity) (t : KeyTable) :
    parents.foldlM (askParent? ask?) (none, t) = some (askParents ask parents t) := by
  have settled : ∀ (rest : List Entity) (key : Key) (t : KeyTable),
      rest.foldlM (askParent? ask?) (some key, t) = some (some key, t) := by
    intro rest key t
    induction rest with
    | nil => rfl
    | cons parent rest ih => exact ih
  induction parents generalizing t with
  | nil => rfl
  | cons parent rest ih =>
    rw [List.foldlM_cons, askParent?, askParents]
    by_cases identifying : (ask parent t).1.isIdentifying = true
    · simp [answers, identifying, settled]
    · simp [answers, identifying, ih]

end Requests

theorem resolveKey?_eq_some (keyed : d.schema.Keyed) (named : d.Named) (pending : List String)
    (e : Entity) (t : KeyTable) :
    d.resolveKey? pending e t = some (d.resolveKey pending e t) := by
  induction length : pending.length using Nat.strongRecOn generalizing pending e t with
  | _ size ih =>
    cases known : t.known.find? e.id with
    | some key => rw [resolveKey?, resolveKey_known known, known]
    | none =>
      by_cases idle : e.id ∈ pending
      · have shorter : (pending.erase e.id).length < size := by
          have positive := List.length_pos_of_mem idle
          rw [List.length_erase_of_mem idle]
          omega
        have answers := fun target t => ih _ shorter (pending.erase e.id) target t rfl
        rw [resolveKey?, resolveKey_new known idle, known]
        simp only [idle, dif_pos, foldlM_addRole? keyed named answers, List.nil_append,
          foldlM_askParent? answers, keyOfRequests, Option.bind_eq_bind, Option.bind_some]
        split <;> rfl
      · rw [resolveKey?, resolveKey_cut known idle, known]
        simp [idle]

theorem plan?_eq_some (keyed : d.schema.Keyed) (named : d.Named) : d.plan? = some d.plan := by
  have asked : d.demands.foldlM d.meet? .empty = some d.settled := by
    refine foldlM_eq_some (fun _ => True) (fun t _ demand _ => ⟨?_, trivial⟩) trivial
    cases demand <;> simp [meet?, meet, Demand.entity?, ask, resolveKey?_eq_some keyed named]
  rw [plan?, asked]
  rfl

end Derivation

namespace TablePlan

variable {p : TablePlan}

theorem find?_tableName {id : String} (held : id ∈ p.tables.keys) :
    p.tables.find? id = some (p.tableName id) := by
  obtain ⟨name, found⟩ := Option.isSome_iff_exists.mp ((p.tables.find?_isSome_iff id).mpr held)
  rw [tableName, found, Option.getD_some]

theorem naturalRoles?_eq_some {e : Entity} (identified : Derivation.isUnidentified p e = false) :
    p.naturalRoles? e = some (p.naturalRoles e) := by
  unfold naturalRoles? naturalRoles
  split
  · rename_i natural
    rw [Derivation.isUnidentified, natural, Bool.true_and] at identified
    rw [Derivation.keyRoles]
    cases primary : p.schema.primaryIdentifier? e with
    | some c => rfl
    | none =>
      rw [primary] at identified
      cases identified
  · rfl

theorem entityGroups?_eq_some (keyed : p.schema.Keyed) (named : p.Named) {e : Entity}
    (identified : Derivation.isUnidentified p e = false) :
    p.entityGroups? e = some (p.entityGroups e) := by
  have roles : (p.naturalRoles e ++ p.played e).eraseDups.mapM
      (fun predicator => do return (predicator, ← p.roleColumns? p.key e predicator)) =
      some ((p.naturalRoles e ++ p.played e).eraseDups.map fun predicator =>
        (predicator, p.roleColumns p.key e predicator)) :=
    mapM_eq_some fun predicator _ => by
      rw [Derivation.roleColumns?_eq_some keyed named]
      rfl
  rw [entityGroups?, naturalRoles?_eq_some identified]
  simp only [Option.bind_eq_bind, Option.bind_some] at roles ⊢
  rw [roles]
  rfl

theorem mapM_specializationKey? (named : p.Named) (table : String) (e : Entity)
    (primaryKey : List String) {parents : List Entity}
    (listed : ∀ parent ∈ parents, parent ∈ p.schema.entities.values) :
    parents.mapM (p.specializationKey? table e primaryKey) =
      some (parents.map fun parent => match p.mismatch? e parent primaryKey with
        | some _ => none
        | none => some (p.specializationKey table primaryKey parent)) := by
  refine mapM_eq_some fun parent member => ?_
  rw [specializationKey?, find?_tableName (named.entities parent (listed parent member))]
  rfl

theorem entityTable?_eq_some (keyed : p.schema.Keyed) (named : p.Named) {e : Entity}
    (member : e ∈ p.schema.entities.values)
    (identified : Derivation.isUnidentified p e = false) :
    p.entityTable? e = some (p.entityTable e) := by
  have listed : ∀ parent ∈ e.specializationOf.eraseDups.filterMap p.schema.entities.find?,
      parent ∈ p.schema.entities.values := by
    intro parent inside
    obtain ⟨id, _, found⟩ := List.mem_filterMap.mp inside
    exact OrderedMap.mem_values_of_find? found
  rw [entityTable?, find?_tableName (named.entities e member),
    entityGroups?_eq_some keyed named identified]
  simp only [Option.bind_eq_bind, Option.bind_some, mapM_specializationKey? named _ e _ listed,
    List.filterMap_map]
  rfl

theorem factGroups?_eq_some (keyed : p.schema.Keyed) (named : p.Named) (f : FactType)
    (kind : TableKind) : p.factGroups? f kind = some (p.factGroups f kind) := by
  have answered : ∀ pair ∈ p.factRoles f, ∀ nullable,
      referenceColumns? p.dialect p.tables p.key pair.1.name pair.2 nullable [pair.1.id] =
        some (referenceColumns p.dialect p.tables p.key pair.1.name pair.2 nullable
          [pair.1.id]) := by
    intro pair inside nullable
    obtain ⟨role, _, found⟩ := List.mem_filterMap.mp inside
    obtain ⟨target, resolved, rfl⟩ := Option.map_eq_some_iff.mp found
    refine referenceColumns?_eq_some fun e same => named.entities e ?_
    exact (Schema.entity_of_object? keyed (by rw [resolved, ← same])).1
  have roles : (p.factRoles f).mapM (fun pair => do
      return (pair.1.id, ← referenceColumns? p.dialect p.tables p.key pair.1.name pair.2
        (kind != .junction && pair.1.isOptional) [pair.1.id])) =
      some ((p.factRoles f).map fun pair =>
        (pair.1.id, referenceColumns p.dialect p.tables p.key pair.1.name pair.2
          (kind != .junction && pair.1.isOptional) [pair.1.id])) :=
    mapM_eq_some fun pair inside => by
      rw [answered pair inside]
      rfl
  rw [factGroups?, roles]
  rfl

theorem factTable?_eq_some (keyed : p.schema.Keyed) (named : p.Named) (kind : TableKind)
    {f : FactType} (held : f.id ∈ p.tables.keys) :
    p.factTable? kind f = some (p.factTable kind f) := by
  rw [factTable?, find?_tableName held, factGroups?_eq_some keyed named]
  rfl

theorem tableList?_eq_some (keyed : p.schema.Keyed) (named : p.Named)
    (identified : ∀ e ∈ p.schema.entities.values, Derivation.isUnidentified p e = false) :
    p.tableList? = some p.tableList := by
  rw [tableList?,
    mapM_eq_some fun e member => entityTable?_eq_some keyed named member (identified e member),
    mapM_eq_some fun f member => factTable?_eq_some keyed named _ (named.objectified f member),
    mapM_eq_some fun f member => factTable?_eq_some keyed named _ (named.junctions f member)]
  rfl

end TablePlan

namespace Schema

variable {s : Schema}

theorem mem_keys_tableNames (s : Schema) (id : String) :
    id ∈ s.tableNames.keys ↔ id ∈ s.tableIds := by
  have length : s.tableIds.length ≤ (Name.claimAll []
      (s.tableElements.map fun element => Ddl.identifier element.2)).length := by simp [tableIds]
  have keys := List.map_fst_zip length
  rw [tableNames, OrderedMap.mem_keys_ofList]
  rw [tableIds] at keys ⊢
  rw [keys]

theorem named (s : Schema) (d : Dialect) : (Derivation.ofSchema s d).Named := by
  have named := fun id => (mem_keys_tableNames s id).mpr
  simp only [tableIds_eq, List.mem_append] at named
  exact {
    entities := fun e member => named e.id (.inl (.inl (List.mem_map_of_mem member)))
    objectified := fun f member => named f.id (.inl (.inr (List.mem_map_of_mem member)))
    junctions := fun f member => named f.id (.inr (List.mem_map_of_mem member)) }

theorem toSql?_eq_some (keyed : s.Keyed) (d : Dialect) : s.toSql? d = some (s.toSql d) := by
  have none := List.find?_eq_none.mp (Derivation.unidentified?_eq_none (d := .ofSchema s d) keyed)
  have tables : (Derivation.ofSchema s d).plan.tableList? =
      some (Derivation.ofSchema s d).plan.tableList :=
    TablePlan.tableList?_eq_some keyed (s.named d) fun e member =>
      Bool.eq_false_iff.mpr (none e member)
  rw [toSql?, Derivation.plan?_eq_some keyed (s.named d), Option.bind_eq_bind, Option.bind_some,
    tables]
  rfl

/-- People of one id, only one of whom is identified. -/
def twins : Schema where
  id := "twins"
  name := "Twins"
  version := "1"
  entities := .ofList [
    ("person", ⟨"person", "First", ["key"], [], none, false⟩),
    ("other", ⟨"person", "Second", [], [], none, false⟩)]
  labelTypes := .ofList [("code", ⟨"code", "Code", .string, none, none, none, none⟩)]
  factTypes := .ofList [("coded", ⟨"coded", "coded", ["of", "value"], false, none⟩)]
  predicators := .ofList [
    ("of", ⟨"of", "of", "coded", 0, "person", false⟩),
    ("value", ⟨"value", "code", "coded", 1, "code", false⟩)]
  uniqueConstraints := .ofList [("key", ⟨"key", "key", ["of"], true, true⟩)]

-- lookups do fail where mappings are not keyed by ids
example : twins.toSql? .sqlite = none := by decide +kernel

end Schema

end FactModel
