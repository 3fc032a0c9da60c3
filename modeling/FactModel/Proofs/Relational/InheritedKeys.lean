import FactModel.Proofs.Relational.ForeignKeys
import FactModel.Proofs.Relational.TableKeys
import FactModel.Proofs.Relational.TableNames
import Mathlib.Logic.Relation

/-!
Keys that are passed down. An entity that takes over the key of a parent has it in front of its
own table, with a reference to the table of the parent. The key was natural where it came from.
-/

namespace FactModel

/-- A column of a key that was taken over. -/
def KeyColumn.inherited (c : KeyColumn) : Column :=
  { name := c.name, dataType := c.dataType, nullable := false, primaryKey := true }

namespace TablePlan

variable {p : TablePlan} {e parent root : Entity}

/-- An entity takes over the key of another one. -/
def Inherits (p : TablePlan) (e parent : Entity) : Prop :=
  parent ∈ p.schema.entities.values ∧ (p.key e).origin = .inherited parent.id

/-- The key of an entity is the natural key of another one, or of its own, that was passed down. -/
structure StemsFrom (p : TablePlan) (e root : Entity) : Prop where
  passed : Relation.ReflTransGen p.Inherits e root
  natural : (p.key root).origin = .natural
  columns : (p.key e).columns = (p.key root).columns

theorem StemsFrom.of_natural (natural : (p.key e).origin = .natural) : p.StemsFrom e e :=
  ⟨.refl, natural, rfl⟩

theorem StemsFrom.inherit (stems : p.StemsFrom parent root) (inherits : p.Inherits e parent)
    (columns : (p.key e).columns = (p.key parent).columns) : p.StemsFrom e root :=
  ⟨.head inherits stems.passed, stems.natural, columns.trans stems.columns⟩

/-! Tables with a key that was taken over -/

theorem leadColumns_of_inherited {id : String} (inherited : (p.key e).origin = .inherited id)
    (proper : (p.key e).Proper) :
    p.leadColumns e = (p.key e).columns.map KeyColumn.inherited := by
  have names : Name.claimAll [] ((p.key e).columns.map (·.name)) =
      (p.key e).columns.map (·.name) := Name.claimAll_eq_self proper.distinct (by simp)
  rw [leadColumns, inherited]
  dsimp only
  rw [names]
  apply List.ext_getElem
  · simp
  · simp [KeyColumn.inherited]

theorem columns_of_inherited {id : String} (inherited : (p.key e).origin = .inherited id)
    (proper : (p.key e).Proper) :
    (p.key e).columns.map KeyColumn.inherited <+: (p.entityTable e).columns := by
  have plain : (p.key e).isNatural = false := by simp [Key.isNatural, inherited]
  have same : ∀ c, p.marked e c = c := fun c => by simp [marked, plain]
  rw [columns_entityTable, List.map_id'' same, leadColumns_of_inherited inherited proper]
  apply List.prefix_append

end TablePlan

namespace Derivation

variable {d : Derivation} {e : Entity}

theorem named_of_mem_parents (keyed : d.schema.Keyed) {parent : Entity}
    (listed : parent ∈ d.parents e) : parent.id ∈ e.specializationOf := by
  obtain ⟨resolved, _⟩ := List.mem_filter.mp listed
  obtain ⟨id, named, found⟩ := List.mem_filterMap.mp resolved
  rw [keyed.entities.id_of_find? found]
  exact List.mem_eraseDups.mp named

theorem key_of_known (keyed : d.schema.Keyed) (member : e ∈ d.schema.entities.values)
    {t : KeyTable} (settles : t.Extends d.settled) {key : Key}
    (known : t.known.find? e.id = some key) : d.plan.key e = key :=
  Option.some.inj ((settled_known keyed member).symm.trans (settles _ _ known))

/-- Whenever a key is learnt, it is natural or the parent's key was learnt before. -/
theorem stemsFrom_of_built (keyed : d.schema.Keyed) {t : KeyTable} (built : d.Built t)
    (settles : t.Extends d.settled) (member : e ∈ d.schema.entities.values) {key : Key}
    (known : t.known.find? e.id = some key) (identifying : key.isIdentifying = true) :
    ∃ root ∈ d.schema.entities.values, d.plan.StemsFrom e root := by
  induction built generalizing e key with
  | empty => cases known
  | cut id _ ih => exact ih settles member known identifying
  | @learn before other new _ held unknown justified ih =>
    have earlier := (KeyTable.Extends.learn unknown new).trans settles
    have planned := key_of_known keyed member settles known
    rw [KeyTable.find?_learn] at known
    split at known
    · rename_i same
      obtain rfl := Option.some.inj known
      obtain rfl := keyed.entities.eq_of_id member held same
      cases justified with
      | natural groups given some => exact ⟨e, member, .of_natural (by rw [planned])⟩
      | surrogate groups given none declined => cases identifying
      | inherited groups front back parent key given none split declined found own =>
        have listed : parent ∈ d.parents e := by simp [split]
        have above := d.mem_parents listed
        obtain ⟨root, there, stems⟩ := ih earlier above found own
        refine ⟨root, there, stems.inherit ⟨above, by rw [planned]⟩ ?_⟩
        rw [planned, key_of_known keyed above earlier found]
    · exact ih earlier member known identifying

/-- An inherited key is that of a parent, which has it from an entity with a natural key. -/
theorem inherits_of_plan (keyed : d.schema.Keyed) (member : e ∈ d.schema.entities.values)
    {id : String} (inherited : (d.plan.key e).origin = .inherited id) :
    ∃ parent ∈ d.parents e, parent.id = id ∧ (d.plan.key e).columns = (d.plan.key parent).columns ∧
      ∃ root, d.plan.StemsFrom parent root := by
  generalize planned : d.plan.key e = key at inherited
  have justified := plan_justified keyed member
  rw [planned] at justified
  cases justified with
  | natural => cases inherited
  | surrogate => cases inherited
  | inherited groups front back parent key given none split declined found own =>
    obtain rfl := KeyOrigin.inherited.inj inherited
    have listed : parent ∈ d.parents e := by simp [split]
    have above := d.mem_parents listed
    obtain ⟨root, _, stems⟩ :=
      stemsFrom_of_built keyed (settled_built keyed) (.refl _) above found own
    refine ⟨parent, listed, rfl, ?_, root, stems⟩
    rw [key_of_known keyed above (.refl _) found]

end Derivation

/-- A table begins with the key of another one as its primary key, and refers to it with that. -/
structure SqlSchema.PassesKey (sql : SqlSchema) (key : Key) (target t : Table) : Prop where
  columns : key.columns.map KeyColumn.inherited <+: t.columns
  primaryKey : t.primaryKey = key.names
  reference : ∃ k ∈ t.foreignKeys, k.columns = t.primaryKey ∧ k.refColumns = key.names ∧
    sql.table? k.refTable = some target ∧ k.onDelete = some .cascade ∧ k.onUpdate = some .cascade

namespace Schema

variable {s : Schema}

theorem passesKey_of_parent (keyed : s.Keyed) (apart : s.TableIdsApart) (d : Dialect) {e : Entity}
    (member : e ∈ s.entities.values) {parent : Entity}
    (listed : parent ∈ (Derivation.ofSchema s d).parents e) {id : String}
    (inherited : ((s.plan d).key e).origin = .inherited id)
    (columns : ((s.plan d).key e).columns = ((s.plan d).key parent).columns) :
    (s.toSql d).PassesKey ((s.plan d).key parent) ((s.plan d).entityTable parent)
      ((s.plan d).entityTable e) := by
  have keys : (s.plan d).WellKeyed := Derivation.plan_wellKeyed keyed
  have same : ((s.plan d).key e).names = ((s.plan d).key parent).names := by
    simp only [Key.names, columns]
  have types : ((s.plan d).key e).types = ((s.plan d).key parent).types := by
    simp only [Key.types, columns]
  have primary : (s.plan d).primaryKey e = ((s.plan d).key parent).names :=
    (TablePlan.lead_is_key keys member (by simp [inherited])).2.2.1.trans same
  have fits : (s.plan d).mismatch? e parent ((s.plan d).primaryKey e) = none := by
    apply TablePlan.mismatch?_eq_none.mpr
    exact ⟨by simp [primary, Key.names], types.symm⟩
  constructor
  · rw [← columns]
    exact TablePlan.columns_of_inherited inherited (keys.proper e)
  · exact primary
  · refine ⟨_, TablePlan.specializationKey_mem listed fits, rfl, rfl, ?_, rfl, rfl⟩
    exact table?_entity keyed apart (Derivation.mem_parents _ listed) d

/-- The table of an entity with an inherited key begins with the key of a parent, and refers with
it to the table of the parent. The entities that keys are taken over from lead to one to which the
key is natural. -/
theorem inherited_key_refers (keyed : s.Keyed) (apart : s.TableIdsApart) (d : Dialect) {e : Entity}
    (member : e ∈ s.entities.values) {id : String}
    (inherited : ((s.plan d).key e).origin = .inherited id) :
    ∃ sql parent t target root, s.relational d = .ok sql ∧
      s.entities.find? id = some parent ∧ id ∈ e.specializationOf ∧
      sql.tables.filter (fun t => t.sourceId == some e.id) = [t] ∧
      sql.tables.filter (fun t => t.sourceId == some id) = [target] ∧
      sql.PassesKey ((s.plan d).key parent) target t ∧
      Relation.TransGen (s.plan d).Inherits e root ∧
      ((s.plan d).key root).origin = .natural ∧
      ((s.plan d).key root).columns = ((s.plan d).key e).columns := by
  obtain ⟨parent, listed, rfl, columns, root, stems⟩ :=
    Derivation.inherits_of_plan (d := .ofSchema s d) keyed member inherited
  have above : parent ∈ s.entities.values := Derivation.mem_parents _ listed
  have only : ∀ e ∈ s.entities.values,
      (s.toSql d).tables.filter (fun t => t.sourceId == some e.id) = [(s.plan d).entityTable e] :=
    fun e held => filter_of_nodup_map (nodup_sources_toSql keyed apart d) (entityTable_mem held d)
  refine ⟨s.toSql d, parent, _, _, root, relational_eq_ok keyed d, keyed.entities.find?_id above,
    ?_, only e member, only parent above, ?_, ?_, stems.natural, ?_⟩
  · exact Derivation.named_of_mem_parents keyed listed
  · exact passesKey_of_parent keyed apart d member listed inherited columns
  · exact .head' ⟨above, inherited⟩ stems.passed
  · exact (columns.trans stems.columns).symm

/-- Persons have codes. Students are persons, and the other way round. -/
def enrolment : Schema :=
  { id := "enrolment", name := "Enrolment", version := "1"
    entities := .ofList [
      ("student", ⟨"student", "Student", [], ["person"], none, false⟩),
      ("person", ⟨"person", "Person", ["codes"], ["student"], none, false⟩)]
    labelTypes := .ofList [("code", ⟨"code", "Code", .string, none, none, none, none⟩)]
    factTypes := .ofList [("coded", ⟨"coded", "coded", ["of", "value"], false, none⟩)]
    predicators := .ofList [
      ("of", ⟨"of", "of", "coded", 0, "person", false⟩),
      ("value", ⟨"value", "code", "coded", 1, "code", false⟩)]
    uniqueConstraints := .ofList [("codes", ⟨"codes", "codes", ["of"], true, true⟩)] }

theorem inherited_key_refers_enrolment :
    enrolment.Keyed ∧ enrolment.TableIdsApart ∧
    ((enrolment.plan .mySQL).key ⟨"student", "Student", [], ["person"], none, false⟩).origin =
      .inherited "person" ∧
    ∃ sql parent t target, enrolment.relational .mySQL = .ok sql ∧
      enrolment.entities.find? "person" = some parent ∧
      sql.tables.filter (fun t => t.sourceId == some "student") = [t] ∧
      sql.tables.filter (fun t => t.sourceId == some "person") = [target] ∧
      sql.PassesKey ((enrolment.plan .mySQL).key parent) target t := by
  have keyed : enrolment.Keyed := by constructor <;> decide +kernel
  have apart : enrolment.TableIdsApart := by decide +kernel
  have inherited :
      ((enrolment.plan .mySQL).key ⟨"student", "Student", [], ["person"], none, false⟩).origin =
        .inherited "person" := by decide +kernel
  obtain ⟨sql, parent, t, target, root, derived, found, _, own, above, passes, _⟩ :=
    inherited_key_refers keyed apart .mySQL List.mem_cons_self inherited
  exact ⟨keyed, apart, inherited, sql, parent, t, target, derived, found, own, above, passes⟩

end Schema

end FactModel
