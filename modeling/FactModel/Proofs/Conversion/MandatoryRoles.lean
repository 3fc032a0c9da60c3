import FactModel.Proofs.Conversion.Edges
import FactModel.Proofs.Conversion.Keyed
import FactModel.Proofs.Relational.Nullability
import FactModel.Proofs.Relational.TableKeys
import FactModel.Proofs.Relational.TableNames

/-!
Mandatory roles. Edges make optional roles, and only a drawn constraint makes a role mandatory, so
that the columns of a role may be null where no constraint demands the role and the primary key
does not hold them.
-/

namespace FactModel

namespace GraphConstraint

/-- The constraint demands a role: the one that it applies to, or the first that it lists where it
applies to none or to a blank id. -/
def Mandates (a : GraphConstraint) (role : String) : Prop :=
  a.kind = "mandatory" ∧ role ≠ "" ∧
    (a.appliesTo.head? = some role ∨
      (a.appliesTo.head? = none ∨ a.appliesTo.head? = some "") ∧
        (a.predicatorIds.getD []).head? = some role)

theorem mandatoryPredicator?_iff (a : GraphConstraint) {role : String} (named : role ≠ "") :
    a.mandatoryPredicator? = some role ↔
      a.appliesTo.head? = some role ∨
        (a.appliesTo.head? = none ∨ a.appliesTo.head? = some "") ∧
          (a.predicatorIds.getD []).head? = some role := by
  unfold mandatoryPredicator? target?
  cases a.appliesTo.head? with
  | none => simp
  | some first =>
    by_cases blank : first = ""
    · subst blank
      simp [Ne.symm named]
    · simp [blank]

theorem mandates_iff {a : GraphConstraint} {role : String} :
    a.Mandates role ↔ a.kind = "mandatory" ∧ role ≠ "" ∧ a.mandatoryPredicator? = some role := by
  unfold Mandates
  refine and_congr_right fun _ => and_congr_right fun named => ?_
  rw [mandatoryPredicator?_iff a named]

end GraphConstraint

namespace Schema

variable {s : Schema} {key : String} {r : Predicator}

/-! Roles that edges make -/

theorem map_isOptional_addRoles (edges : List PlacedEdge) (facts : List String) (key : String) :
    ((facts.foldl (fun s fact => s.addRoles edges fact) s).predicators.find? key).map
      (·.isOptional) = (s.predicators.find? key).map (·.isOptional) := by
  induction facts generalizing s with
  | nil => rfl
  | cons fact rest ih =>
    rw [List.foldl_cons, ih, addRoles_eq]
    exact map_find?_placeFrom _ _ _ _ fun _ _ => rfl

theorem optional_addPredicators (empty : s.predicators = ∅) {edges : List PlacedEdge}
    (found : (s.addPredicators edges).predicators.find? key = some r) : r.isOptional = true := by
  rw [addPredicators_eq] at found
  have same := (map_isOptional_addRoles edges _ key).symm.trans
    (congrArg (Option.map (·.isOptional)) found)
  obtain ⟨old, held, equal⟩ := Option.map_eq_some_iff.mp same
  refine equal.symm.trans ?_
  rcases OrderedMap.exists_of_find?_putAll held with before | ⟨p, _, _, made⟩
  · rw [empty] at before
    cases before
  · cases made
    rfl

theorem predicators_addSpecialization (e : GraphEdge) :
    (s.addSpecialization e).predicators = s.predicators := by
  unfold addSpecialization
  split <;> rfl

/-! Roles that constraints demand -/

theorem predicators_addUnique (a : GraphConstraint) :
    (s.addUnique a).predicators = s.predicators := by
  unfold addUnique
  split
  · rfl
  · exact (Relinked.attachIdentifier _ a.id a.isPrimary).predicators

theorem predicators_addConstraint {a : GraphConstraint} (other : a.kind ≠ "mandatory") :
    (s.addConstraint a).predicators = s.predicators := by
  unfold addConstraint
  split
  · exact predicators_addUnique a
  split
  · rfl
  · rfl
  split
  · rfl
  split
  · rfl
  split
  · rfl
  split
  · rfl
  split <;> rfl

theorem addConstraint_of_mandatory {a : GraphConstraint} (kind : a.kind = "mandatory") :
    s.addConstraint a = s.addMandatory a := by
  simp [addConstraint, kind]

theorem mandatoryRole?_eq_some {a : GraphConstraint} {role : String} (named : role ≠ "")
    (listed : a.mandatoryPredicator? = some role) :
    s.mandatoryRole? a = s.predicators.find? role := by
  simp [mandatoryRole?, listed, named]

theorem named_of_mandatoryRole? {a : GraphConstraint} {role : String}
    (listed : a.mandatoryPredicator? = some role) (found : s.mandatoryRole? a = some r) :
    role ≠ "" := by
  rintro rfl
  simp [mandatoryRole?, listed] at found

theorem isOptional_addMandatory {a : GraphConstraint} (kind : a.kind = "mandatory")
    (found : (s.addMandatory a).predicators.find? key = some r) :
    ∃ old, s.predicators.find? key = some old ∧
      (r.isOptional = true ↔ old.isOptional = true ∧ ¬ a.Mandates key) := by
  unfold addMandatory at found
  split at found
  · rename_i role player listed resolved
    have named := named_of_mandatoryRole? listed resolved
    dsimp only at found
    rw [OrderedMap.find?_modify] at found
    by_cases here : key = role
    · rw [if_pos here] at found
      obtain ⟨old, held, rfl⟩ := Option.map_eq_some_iff.mp found
      have demanded : a.Mandates key := GraphConstraint.mandates_iff.mpr
        ⟨kind, here ▸ named, here ▸ listed⟩
      exact ⟨old, held, by simp [demanded]⟩
    · rw [if_neg here] at found
      refine ⟨r, found, (and_iff_left fun demanded => ?_).symm⟩
      have other := (GraphConstraint.mandates_iff.mp demanded).2.2
      exact here (Option.some.inj (other.symm.trans listed))
  · rename_i missing
    refine ⟨r, found, (and_iff_left fun demanded => ?_).symm⟩
    obtain ⟨_, named, listed⟩ := GraphConstraint.mandates_iff.mp demanded
    exact missing key r listed ((mandatoryRole?_eq_some named listed).trans found)

theorem isOptional_addConstraint {a : GraphConstraint}
    (found : (s.addConstraint a).predicators.find? key = some r) :
    ∃ old, s.predicators.find? key = some old ∧
      (r.isOptional = true ↔ old.isOptional = true ∧ ¬ a.Mandates key) := by
  by_cases kind : a.kind = "mandatory"
  · rw [addConstraint_of_mandatory kind] at found
    exact isOptional_addMandatory kind found
  · rw [predicators_addConstraint kind] at found
    exact ⟨r, found, (and_iff_left fun demanded => kind demanded.1).symm⟩

/-- A role stays optional as long as no constraint demands it. -/
theorem isOptional_addConstraints {constraints : List GraphConstraint}
    (found : (constraints.foldl addConstraint s).predicators.find? key = some r) :
    ∃ old, s.predicators.find? key = some old ∧
      (r.isOptional = true ↔ old.isOptional = true ∧ ∀ a ∈ constraints, ¬ a.Mandates key) := by
  induction constraints generalizing s with
  | nil => exact ⟨r, found, by simp⟩
  | cons a rest ih =>
    obtain ⟨middle, between, later⟩ := ih found
    obtain ⟨old, held, first⟩ := isOptional_addConstraint between
    refine ⟨old, held, ?_⟩
    rw [later, first, List.forall_mem_cons, and_assoc]

end Schema

namespace Graph

variable {g : Graph} {o : ConversionOptions} {s : Schema}

theorem optional_edgeSchema {key : String} {r : Predicator}
    (found : (g.edgeSchema o).predicators.find? key = some r) : r.isOptional = true := by
  have specialized : ∀ (edges : List GraphEdge) (t : Schema),
      (edges.foldl Schema.addSpecialization t).predicators = t.predicators := by
    intro edges
    induction edges with
    | nil => exact fun _ => rfl
    | cons e rest ih => exact fun t => (ih _).trans (Schema.predicators_addSpecialization e)
  have empty : (g.nodeSchema o).predicators = ∅ := by rw [nodeSchema_eq]
  rw [edgeSchema, specialized] at found
  exact Schema.optional_addPredicators empty found

theorem isOptional_of_toSchema (converted : g.toSchema o = .ok s) {key : String} {r : Predicator}
    (found : s.predicators.find? key = some r) :
    r.isOptional = true ↔ ∀ a ∈ g.constraints, ¬ a.Mandates key := by
  unfold toSchema at converted
  split at converted
  · cases converted
  · cases converted
    obtain ⟨old, held, optional⟩ := Schema.isOptional_addConstraints found
    rw [optional, and_iff_right (optional_edgeSchema held)]

/-- In the tables of a converted drawing a column of a role is nullable exactly if no constraint
demands the role and the primary key does not hold the column; in a junction table no column is
nullable. -/
theorem nullable_iff_not_mandated (g : Graph) (o : ConversionOptions) (lenient : o.strict = false)
    (d : Dialect) :
    ∃ s sql, g.toSchema o = .ok s ∧ s.relational d = .ok sql ∧
      ∀ t ∈ sql.tables, ∀ c ∈ t.columns,
        (t.kind = .junction → c.nullable = false) ∧
        (t.kind ≠ .junction → ∀ role, c.sourcePredicatorIds.head? = some role →
          (c.nullable = true ↔
            (¬ ∃ a ∈ g.constraints, a.Mandates role) ∧ c.name ∉ t.primaryKey)) := by
  obtain ⟨s, converted⟩ : ∃ s, g.toSchema o = .ok s := ⟨_, by rw [toSchema, lenient]⟩
  have keyed := keyed_of_toSchema converted
  have keys : (s.plan d).WellKeyed := Derivation.plan_wellKeyed keyed
  have demanded : ∀ {key r}, s.predicators.find? key = some r →
      (r.isOptional = true ↔ ¬ ∃ a ∈ g.constraints, a.Mandates r.id) := by
    intro key r found
    rw [isOptional_of_toSchema converted found, keyed.predicators.id_of_find? found]
    simp only [not_exists, not_and]
  refine ⟨s, s.toSql d, converted, Schema.relational_eq_ok keyed d, ?_⟩
  intro t member c held
  rcases Schema.mem_tables_toSql.mp member with ⟨e, listed, rfl⟩ | ⟨f, listed, rfl⟩ |
    ⟨f, listed, rfl⟩
  · refine ⟨fun other => (nomatch other), fun _ role stems => ?_⟩
    obtain ⟨key, r, found, rfl, nullable⟩ := TablePlan.nullable_entityTable keys listed held stems
    rw [nullable, demanded found]
  · refine ⟨fun other => (nomatch other), fun _ role stems => ?_⟩
    obtain ⟨r, listed, rfl, nullable⟩ := TablePlan.nullable_objectified held stems
    rw [nullable, demanded (keyed.id_mem_predicators listed).2]
  · exact ⟨fun _ => TablePlan.nullable_junction held, fun other => absurd rfl other⟩

/-- People who wear badges that tell them apart, and may smoke or work, know each other and are
posted at doors. That they work is demanded by a constraint that applies to a blank id and lists the
role. -/
def staffing : Graph where
  nodes := [
    ⟨"person", .entity, "Person", none, none, none, none⟩,
    ⟨"posting", .objectified, "Posting", none, none, none, some "posted"⟩,
    ⟨"badge", .labelType, "Badge", some "int", none, none, none⟩,
    ⟨"wears", .factType, "wears", none, none, none, none⟩,
    ⟨"smokes", .factType, "smokes", none, none, none, none⟩,
    ⟨"works", .factType, "works", none, none, none, none⟩,
    ⟨"posted", .factType, "posted", none, none, none, none⟩,
    ⟨"knows", .factType, "knows", none, none, none, none⟩]
  edges := [
    ⟨"smoker", .predicator, "person", "smokes", "", none⟩,
    ⟨"worker", .predicator, "person", "works", "", none⟩,
    ⟨"wearer", .predicator, "person", "wears", "", none⟩,
    ⟨"worn", .predicator, "badge", "wears", "", none⟩,
    ⟨"sent", .predicator, "posted", "person", "sent", none⟩,
    ⟨"door", .predicator, "badge", "posted", "door", none⟩,
    ⟨"knower", .predicator, "person", "knows", "knower", none⟩,
    ⟨"known", .predicator, "person", "knows", "known", none⟩]
  constraints := [
    ⟨"key", "uniqueness", none, ["wearer"], none, none, none, none, none⟩,
    ⟨"busy", "mandatory", none, [""], some ["worker"], none, none, none, none⟩,
    ⟨"manned", "mandatory", none, ["sent"], none, none, none, none, none⟩]

theorem mandates_staffing_iff (role : String) :
    (∃ a ∈ staffing.constraints, a.Mandates role) ↔ role = "worker" ∨ role = "sent" := by
  simp only [staffing, GraphConstraint.Mandates, List.mem_cons, List.not_mem_nil, or_false,
    exists_eq_or_imp, exists_eq_left]
  constructor
  · rintro (⟨other, _⟩ | ⟨_, named, applied | ⟨_, first⟩⟩ | ⟨_, _, applied | ⟨none, _⟩⟩)
    · exact absurd other (by decide)
    · exact absurd (Option.some.inj applied).symm named
    · exact .inl (Option.some.inj first).symm
    · exact .inr (Option.some.inj applied).symm
    · simp at none
  · rintro (rfl | rfl)
    · exact .inr (.inl ⟨trivial, by decide, .inr ⟨.inr rfl, rfl⟩⟩)
    · exact .inr (.inr ⟨trivial, by decide, .inl rfl⟩)

/-- Workers and the sent are demanded, wearers are the key, and smokers and doors may be left
open. -/
theorem nullable_iff_not_mandated_staffing :
    ∃ s sql person posting posted knows, staffing.toSchema ⟨"staffing", "1", false⟩ = .ok s ∧
      s.relational .mySQL = .ok sql ∧ sql.tables = [person, posting, posted, knows] ∧
      [person.kind, posting.kind, posted.kind, knows.kind] =
        [.entity, .entity, .objectified, .junction] ∧
      person.primaryKey = ["unnamed_role"] ∧
      person.columns.map (fun c => (c.name, c.sourcePredicatorIds)) =
        [("unnamed_role", ["wearer", "worn"]), ("smokes", ["smoker"]), ("works", ["worker"])] ∧
      (∀ c ∈ person.columns, c.nullable = true ↔ c.name = "smokes") ∧
      posted.columns.map (fun c => (c.name, c.sourcePredicatorIds)) =
        [("id", []), ("sent", ["sent"]), ("door", ["door"])] ∧
      (∀ c ∈ posted.columns, c.name ≠ "id" → (c.nullable = true ↔ c.name = "door")) ∧
      knows.columns.map (·.name) = ["knower", "known"] ∧
      ∀ c ∈ knows.columns, c.nullable = false := by
  obtain ⟨s, sql, converted, derived, nullable⟩ :=
    nullable_iff_not_mandated staffing ⟨"staffing", "1", false⟩ rfl .mySQL
  have made := Except.ok.inj (derived.symm.trans
    (Schema.relational_eq_ok (keyed_of_toSchema converted) .mySQL))
  obtain rfl : staffing.constraints.foldl Schema.addConstraint
      (staffing.edgeSchema ⟨"staffing", "1", false⟩) = s := Except.ok.inj converted
  have tables : sql.tables.map (fun t => (t.kind, t.primaryKey,
      t.columns.map fun c => (c.name, c.sourcePredicatorIds))) = [
      (.entity, ["unnamed_role"], [("unnamed_role", ["wearer", "worn"]), ("smokes", ["smoker"]),
        ("works", ["worker"])]),
      (.entity, ["id"], [("id", [])]),
      (.objectified, ["id"], [("id", []), ("sent", ["sent"]), ("door", ["door"])]),
      (.junction, ["knower", "known"], [("knower", ["knower"]), ("known", ["known"])])] := by
    have drawn : (staffing.placedEdges (staffing.nodeSchema ⟨"staffing", "1", false⟩)).Pairwise
        fun a b => a.precedes b = true := by decide +kernel
    rw [made]
    simp only [edgeSchema, Schema.addPredicators, Schema.addRoles,
      PlacedEdge.ordered_of_pairwise drawn]
    decide +kernel
  obtain ⟨person, _, listed, people, tables⟩ := List.map_eq_cons_iff.mp tables
  obtain ⟨posting, _, rfl, postings, tables⟩ := List.map_eq_cons_iff.mp tables
  obtain ⟨posted, _, rfl, doors, tables⟩ := List.map_eq_cons_iff.mp tables
  obtain ⟨knows, rest, rfl, pairs, tables⟩ := List.map_eq_cons_iff.mp tables
  obtain rfl : rest = [] := List.map_eq_nil_iff.mp tables
  simp only [Prod.mk.injEq] at people postings doors pairs
  have rule : ∀ t ∈ sql.tables, t.kind ≠ .junction → ∀ c ∈ t.columns, ∀ role,
      c.sourcePredicatorIds.head? = some role →
        (c.nullable = true ↔ ¬ (role = "worker" ∨ role = "sent") ∧ c.name ∉ t.primaryKey) := by
    intro t member other c held role first
    rw [(nullable t member c held).2 other role first, mandates_staffing_iff]
  refine ⟨_, sql, person, posting, posted, knows, converted, derived, listed, ?_, people.2.1,
    people.2.2, fun c held => ?_, doors.2.2, fun c held other => ?_, ?_, fun c held => ?_⟩
  · rw [people.1, postings.1, doors.1, pairs.1]
  · have rule := rule person (by simp [listed]) (by simp [people.1]) c held
    have known := List.mem_map_of_mem (f := fun c => (c.name, c.sourcePredicatorIds)) held
    simp only [people.2.2, List.mem_cons, Prod.mk.injEq, List.not_mem_nil, or_false] at known
    rcases known with ⟨name, sources⟩ | ⟨name, sources⟩ | ⟨name, sources⟩
    · simp [rule "wearer" (by simp [sources]), name, people.2.1]
    · simp [rule "smoker" (by simp [sources]), name, people.2.1]
    · simp [rule "worker" (by simp [sources]), name]
  · have rule := rule posted (by simp [listed]) (by simp [doors.1]) c held
    have known := List.mem_map_of_mem (f := fun c => (c.name, c.sourcePredicatorIds)) held
    simp only [doors.2.2, List.mem_cons, Prod.mk.injEq, List.not_mem_nil, or_false] at known
    rcases known with ⟨name, _⟩ | ⟨name, sources⟩ | ⟨name, sources⟩
    · exact absurd name other
    · simp [rule "sent" (by simp [sources]), name]
    · simp [rule "door" (by simp [sources]), name, doors.2.1]
  · have names := congrArg (List.map Prod.fst) pairs.2.2
    rw [List.map_map] at names
    exact names
  · exact (nullable knows (by simp [listed]) c held).1 pairs.1

end Graph

end FactModel
