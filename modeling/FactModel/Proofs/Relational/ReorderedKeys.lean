import FactModel.Proofs.Relational.PlainKeys
import FactModel.Proofs.Schema.Same

/-!
Keys and the order of elements. Schemas that are the same up to the order of their elements place
their fact types alike, and where no entity is identified through itself they have the same keys,
in whatever order these are asked for.
-/

namespace FactModel

namespace OrderedMap

variable {α : Type} {m n : OrderedMap α}

theorem Same.mem_values (same : m.Same n) (value : α) : value ∈ m.values ↔ value ∈ n.values := by
  constructor
  · intro held
    obtain ⟨key, found⟩ := exists_find?_of_mem_values held
    exact mem_values_of_find? ((same key).symm.trans found)
  · intro held
    obtain ⟨key, found⟩ := exists_find?_of_mem_values held
    exact mem_values_of_find? ((same key).trans found)

theorem Same.any_values (same : m.Same n) (p : α → Bool) : m.values.any p = n.values.any p := by
  rw [Bool.eq_iff_iff, List.any_eq_true, List.any_eq_true]
  exact exists_congr fun value => and_congr_left fun _ => same.mem_values value

theorem Same.keyedBy (same : m.Same n) {id : α → String} (keyed : m.KeyedBy id) : n.KeyedBy id :=
  .of_find? fun key _ found => keyed.id_of_find? ((same key).trans found)

/-- Entries in another order are looked up alike. -/
theorem same_of_perm (perm : m.entries.Perm n.entries) : m.Same n := by
  intro key
  refine Option.ext fun value => ?_
  rw [find?_eq_some_iff, find?_eq_some_iff, perm.mem_iff]

end OrderedMap

namespace Schema

variable {s t : Schema}

namespace Same

theorem of_perm {entities : OrderedMap Entity} (perm : s.entities.entries.Perm entities.entries) :
    s.Same { s with entities := entities } := by
  constructor
  case entities => exact OrderedMap.same_of_perm perm
  all_goals first | rfl | exact fun _ => rfl

theorem keyed (same : s.Same t) (keyed : s.Keyed) : t.Keyed where
  entities := same.entities.keyedBy keyed.entities
  labelTypes := same.labelTypes.keyedBy keyed.labelTypes
  powerTypes := same.powerTypes.keyedBy keyed.powerTypes
  sequenceTypes := same.sequenceTypes.keyedBy keyed.sequenceTypes
  factTypes := same.factTypes.keyedBy keyed.factTypes
  predicators := same.predicators.keyedBy keyed.predicators
  uniqueConstraints := same.uniqueConstraints.keyedBy keyed.uniqueConstraints
  totalRoleConstraints := same.totalRoleConstraints.keyedBy keyed.totalRoleConstraints
  setConstraints := same.setConstraints.keyedBy keyed.setConstraints
  cardinalityConstraints := same.cardinalityConstraints.keyedBy keyed.cardinalityConstraints
  frequencyConstraints := same.frequencyConstraints.keyedBy keyed.frequencyConstraints
  enumerationConstraints := same.enumerationConstraints.keyedBy keyed.enumerationConstraints
  customConstraints := same.customConstraints.keyedBy keyed.customConstraints

theorem object? (same : s.Same t) (id : String) : s.object? id = t.object? id := by
  simp only [Schema.object?, same.entities id, same.labelTypes id, same.powerTypes id,
    same.sequenceTypes id]

/-! Where fact types go -/

theorem isObjectified (same : s.Same t) (f : FactType) : s.isObjectified f = t.isObjectified f := by
  simp only [Schema.isObjectified, same.entities.any_values, same.factTypes.contains]

theorem hosts (same : s.Same t) (p q : Predicator) : s.hosts p q = t.hosts p q := by
  simp only [Schema.hosts, isUniqueAlone, same.entities.contains,
    same.uniqueConstraints.any_values]

theorem hostOf? (same : s.Same t) (f : FactType) : s.hostOf? f = t.hostOf? f := by
  have found : s.predicators.find? = t.predicators.find? := funext same.predicators
  simp only [Schema.hostOf?, binaryRoles?, roles, same.isObjectified, same.hosts, found]

theorem roleUse (same : s.Same t) (keyed : s.Keyed) (entity predicator : String) :
    s.roleUse entity predicator = t.roleUse entity predicator := by
  unfold Schema.roleUse
  rw [same.predicators]
  cases t.predicators.find? predicator with
  | none => rfl
  | some role =>
    dsimp only
    rw [same.factTypes]
    cases fact : t.factTypes.find? role.factTypeId with
    | none => rfl
    | some f =>
      have here : f ∈ t.factTypes.values := OrderedMap.mem_values_of_find? fact
      have there : f ∈ s.factTypes.values := (same.factTypes.mem_values f).mpr here
      dsimp only
      simp only [same.isObjectified, host_eq_hostOf keyed there,
        host_eq_hostOf (same.keyed keyed) here, same.hostOf?, same.object?]

end Same

end Schema

/-! Columns of keys -/

/-- What a key takes from a column. -/
def Column.keyColumn (c : Column) : KeyColumn := ⟨c.name, c.dataType⟩

theorem RoleUse.keyColumns_columns (d : Dialect) (tables others : OrderedMap String)
    (keyOf : Entity → Key) (use : RoleUse) :
    (use.columns d tables keyOf).columns.map Column.keyColumn =
      (use.columns d others keyOf).columns.map Column.keyColumn := by
  cases use with
  | nothing => rfl
  | flag f role => rfl
  | value role partner target =>
    cases target with
    | entity e => simp [columns, referenceColumns, keyColumns, Column.keyColumn]
    | _ => rfl

namespace Derivation

theorem naturalColumns_congr {columns others : List Column}
    (same : columns.map Column.keyColumn = others.map Column.keyColumn) :
    naturalColumns columns = naturalColumns others := by
  have names : ∀ columns : List Column,
      columns.map (·.name) = (columns.map Column.keyColumn).map (·.name) := by
    simp [Column.keyColumn, Function.comp_def]
  have zipped : ∀ (names : List String) (columns : List Column),
      (names.zip columns).map (fun pair => (⟨pair.1, pair.2.dataType⟩ : KeyColumn)) =
        (names.zip (columns.map Column.keyColumn)).map fun pair => ⟨pair.1, pair.2.dataType⟩ := by
    intro names columns
    rw [List.zip_map_right, List.map_map]
    rfl
  rw [naturalColumns, naturalColumns, zipped, zipped _ others, names, names others, same]

end Derivation

namespace Schema

variable {s t : Schema}

namespace Same

theorem keyRoles (same : s.Same t) (d : Dialect) (e : Entity) :
    (Derivation.ofSchema s d).keyRoles e = (Derivation.ofSchema t d).keyRoles e := by
  simp only [Derivation.keyRoles, Derivation.ofSchema, same.primaryIdentifier?]

theorem parents (same : s.Same t) (d : Dialect) (e : Entity) :
    (Derivation.ofSchema s d).parents e = (Derivation.ofSchema t d).parents e := by
  have found : s.entities.find? = t.entities.find? := funext same.entities
  simp only [Derivation.parents, Derivation.ofSchema, found]

theorem dependsOn (same : s.Same t) (keyed : s.Keyed) (d : Dialect) :
    (Derivation.ofSchema s d).DependsOn = (Derivation.ofSchema t d).DependsOn := by
  funext e f
  have uses : (Derivation.ofSchema s d).schema.roleUse = (Derivation.ofSchema t d).schema.roleUse :=
    funext₂ fun entity predicator => same.roleUse keyed entity predicator
  simp only [Derivation.DependsOn, same.keyRoles, same.parents, uses]

theorem acyclic (same : s.Same t) (keyed : s.Keyed) {d : Dialect} (acyclic : s.Acyclic d) :
    t.Acyclic d := by
  intro e member cyclic
  rw [Derivation.Cyclic, ← same.dependsOn keyed] at cyclic
  exact acyclic e ((same.entities.mem_values e).mpr member) cyclic

/-- The tables that columns refer to may have other names, which no key takes up. -/
theorem keyFrom (same : s.Same t) (keyed : s.Keyed) (d : Dialect) (keyOf : Entity → Key)
    (e : Entity) :
    (Derivation.ofSchema s d).keyFrom keyOf e = (Derivation.ofSchema t d).keyFrom keyOf e := by
  have columns :
      (((Derivation.ofSchema s d).keyRoles e).flatMap fun role =>
        ((Derivation.ofSchema s d).roleColumns keyOf e role).columns).map Column.keyColumn =
      (((Derivation.ofSchema t d).keyRoles e).flatMap fun role =>
        ((Derivation.ofSchema t d).roleColumns keyOf e role).columns).map Column.keyColumn := by
    rw [List.map_flatMap, List.map_flatMap, same.keyRoles]
    refine List.flatMap_congr fun role _ => ?_
    have use : (Derivation.ofSchema s d).schema.roleUse e.id role =
        (Derivation.ofSchema t d).schema.roleUse e.id role := same.roleUse keyed e.id role
    rw [Derivation.roleColumns, Derivation.roleColumns, use]
    exact RoleUse.keyColumns_columns ..
  have empty := congrArg List.isEmpty columns
  rw [List.isEmpty_map, List.isEmpty_map] at empty
  simp only [Derivation.keyFrom, empty, Derivation.naturalColumns_congr columns, same.parents]
  rfl

theorem plan_key (same : s.Same t) (keyed : s.Keyed) {d : Dialect} (acyclic : s.Acyclic d)
    {e : Entity} (member : e ∈ s.entities.values) : (t.plan d).key e = (s.plan d).key e := by
  refine Derivation.acyclic_induction (d := .ofSchema s d) keyed acyclic
    (P := fun e => (t.plan d).key e = (s.plan d).key e) (fun e listed known => ?_) member
  have there : e ∈ t.entities.values := (same.entities.mem_values e).mp listed
  calc (t.plan d).key e
      = (Derivation.ofSchema t d).keyFrom (t.plan d).key e :=
        (Derivation.keyFrom_plan (d := .ofSchema t d) (same.keyed keyed)
          (same.acyclic keyed acyclic) there).symm
    _ = (Derivation.ofSchema s d).keyFrom (t.plan d).key e := (same.keyFrom keyed d _ e).symm
    _ = (Derivation.ofSchema s d).keyFrom (s.plan d).key e := Derivation.keyFrom_congr known
    _ = (s.plan d).key e := Derivation.keyFrom_plan (d := .ofSchema s d) keyed acyclic listed

end Same

/-- Where no entity is identified through itself, requests for keys in any order are answered with
the keys of the plain recursion, which goes no deeper than there are entities. They are the keys of
the tables, and those of every schema with the same elements in another order. -/
theorem keys_recursive (keyed : s.Keyed) {d : Dialect} (acyclic : s.Acyclic d) :
    (∀ depth, s.entities.values.length < depth →
      (∀ requests : List Entity, (∀ e ∈ requests, e ∈ s.entities.values) →
        ((Derivation.ofSchema s d).answers requests .empty).map some =
          requests.map ((Derivation.ofSchema s d).plainKey depth)) ∧
      ∀ e ∈ s.entities.values,
        (Derivation.ofSchema s d).plainKey depth e = some ((s.plan d).key e)) ∧
      ∀ t, s.Same t →
        (∀ e ∈ s.entities.values, (t.plan d).key e = (s.plan d).key e) ∧
        ∀ requests : List Entity, (∀ e ∈ requests, e ∈ s.entities.values) →
          (Derivation.ofSchema t d).answers requests .empty =
            (Derivation.ofSchema s d).answers requests .empty := by
  have asked : ∀ requests : List Entity, (∀ e ∈ requests, e ∈ s.entities.values) →
      (Derivation.ofSchema s d).answers requests .empty = requests.map (s.plan d).key :=
    fun requests within =>
      Derivation.answers_eq_plan (d := .ofSchema s d) keyed acyclic within .empty
  refine ⟨fun depth deep => ?_, fun t same => ⟨fun e member => ?_, fun requests within => ?_⟩⟩
  · have plain : ∀ e ∈ s.entities.values,
        (Derivation.ofSchema s d).plainKey depth e = some ((s.plan d).key e) :=
      fun e member => Derivation.plainKey_eq_plan (d := .ofSchema s d) keyed acyclic member deep
    refine ⟨fun requests within => ?_, plain⟩
    rw [asked requests within, List.map_map]
    exact List.map_congr_left fun e listed => (plain e (within e listed)).symm
  · exact same.plan_key keyed acyclic member
  · have there : ∀ e ∈ requests, e ∈ t.entities.values :=
      fun e listed => (same.entities.mem_values e).mp (within e listed)
    have reordered := Derivation.answers_eq_plan (d := .ofSchema t d) (same.keyed keyed)
      (same.acyclic keyed acyclic) there .empty
    rw [asked requests within, reordered]
    exact List.map_congr_left fun e listed => same.plan_key keyed acyclic (within e listed)

def order : Entity := ⟨"order", "Order", ["key"], [], none, false⟩

def customer : Entity := ⟨"customer", "Customer", ["codes"], [], none, false⟩

def gift : Entity := ⟨"gift", "Gift", [], [], none, false⟩

/-- Of its two parents the second has a key to pass on. -/
def express : Entity := ⟨"express", "Express", [], ["gift", "order"], none, false⟩

def expressOrders : Schema :=
  { orders with
    entities := .ofList [
      ("express", express), ("gift", gift), ("order", order), ("customer", customer)] }

def reversedOrders : Schema :=
  { expressOrders with
    entities := .ofList [
      ("customer", customer), ("order", order), ("gift", gift), ("express", express)] }

/-- The key of an express order is that of an order, which holds that of its customer. -/
theorem keys_recursive_expressOrders :
    expressOrders.Keyed ∧ expressOrders.Acyclic .mySQL ∧ expressOrders.Same reversedOrders ∧
      ((Derivation.ofSchema expressOrders .mySQL).answers [order, express, order] .empty).map some =
        [order, express, order].map ((Derivation.ofSchema expressOrders .mySQL).plainKey 5) ∧
      (Derivation.ofSchema expressOrders .mySQL).plainKey 5 express =
        some ⟨[⟨"customer", "VARCHAR(255)"⟩, ⟨"number", "INT"⟩], .inherited "order"⟩ ∧
      (reversedOrders.plan .mySQL).key express = (expressOrders.plan .mySQL).key express := by
  have keyed : expressOrders.Keyed := by constructor <;> decide +kernel
  have acyclic : expressOrders.Acyclic .mySQL :=
    Derivation.acyclic_of_rank (Derivation.ofSchema expressOrders .mySQL) keyed
      (fun e => if e.id = "express" then 2 else if e.id = "order" then 1 else 0) (by decide +kernel)
  have same : expressOrders.Same reversedOrders := .of_perm (List.reverse_perm _).symm
  have listed : ∀ e ∈ [order, express, order], e ∈ expressOrders.entities.values := by
    simp [expressOrders, OrderedMap.values, OrderedMap.entries_ofList]
  obtain ⟨plain, reordered⟩ := keys_recursive keyed acyclic
  obtain ⟨asked, planned⟩ := plain 5 (by decide +kernel)
  refine ⟨keyed, acyclic, same, asked _ listed, ?_, ?_⟩
  · rw [planned express (listed _ (by simp))]
    exact congrArg some (by decide +kernel)
  · exact (reordered _ same).1 express (listed _ (by simp))

end Schema

end FactModel
