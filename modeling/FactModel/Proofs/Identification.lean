import FactModel.Proofs.Builder.IdentifierRoles
import FactModel.Proofs.Conversion.Identification

/-!
Identifiers of converted and of edited schemas: which constraints identify an entity, which one is
primary, and whose roles they use.
-/

namespace FactModel

open GraphConstraint Schema

/-- Conversion ranks the constraints of an entity by the wishes drawn with them, and editing never
leaves an entity with two primary identifiers. -/
theorem identifiers_ranked :
    (∀ (g : Graph) (o : ConversionOptions), o.strict = false → (g.constraints.map (·.id)).Nodup →
      ∃ s, g.toSchema o = .ok s ∧ s.IdentifiedAsDrawn g.constraints) ∧
    ∀ (b after : Builder) (id name version : String),
      b.schema = { id := id, name := name, version := version } → b.Edits after →
      ∀ key e, after.schema.entities.find? key = some e →
        after.schema.RankedOnce e.identifiers := by
  constructor
  · exact fun g o lenient distinct => g.identifiedAsDrawn_toSchema o lenient distinct
  · exact fun b after id name version start edits => (Builder.identifiedOnce_of_edits start edits).2

/-- People rent cars and wear badges. Of their keys the badge with the role that wears it is asked
for last. -/
def rentals : Graph where
  nodes := [
    ⟨"person", .entity, "Person", none, none, none, none⟩,
    ⟨"car", .entity, "Car", none, none, none, none⟩,
    ⟨"badge", .labelType, "Badge", some "int", none, none, none⟩,
    ⟨"rents", .factType, "rents", none, none, none, none⟩,
    ⟨"wears", .factType, "wears", none, none, none, none⟩]
  edges := [
    ⟨"renter", .predicator, "person", "rents", "", none⟩,
    ⟨"rented", .predicator, "car", "rents", "", none⟩,
    ⟨"wearer", .predicator, "person", "wears", "", none⟩,
    ⟨"worn", .predicator, "badge", "wears", "", none⟩]
  constraints := [
    ⟨"pair", "uniqueness", none, ["renter", "rented"], none, none, none, none, none⟩,
    ⟨"badge", "uniqueness", none, ["wearer"], none, none, none, some true, none⟩,
    ⟨"one", "uniqueness", none, ["renter"], none, none, none, some false, none⟩,
    ⟨"both", "uniqueness", none, ["wearer", "worn"], none, none, none, some true, none⟩,
    ⟨"keeper", "uniqueness", none, ["rented"], none, none, none, none, none⟩,
    ⟨"again", "uniqueness", none, ["renter"], none, none, none, none, none⟩]

theorem converted_rentals {s : Schema}
    (converted : rentals.toSchema ⟨"rentals", "1", false⟩ = .ok s) :
    s.uniqueConstraints.values.map (fun c => (c.id, c.isPrimary, c.isPreferred)) =
        [("pair", false, false), ("badge", false, false), ("one", false, false),
          ("both", true, true), ("keeper", true, true), ("again", false, false)] ∧
      "person" ∈ s.entities.keys ∧
      (s.identifying "person" rentals.constraints).map (fun a => (a.id, a.uniquePredicators)) =
        [("pair", ["renter", "rented"]), ("badge", ["wearer"]), ("one", ["renter"]),
          ("both", ["wearer", "worn"]), ("again", ["renter"])] ∧
      s.player? "rented" = some "car" := by
  obtain rfl : rentals.constraints.foldl addConstraint
      (rentals.edgeSchema ⟨"rentals", "1", false⟩) = s := Except.ok.inj converted
  have drawn : (rentals.placedEdges (rentals.nodeSchema ⟨"rentals", "1", false⟩)).Pairwise
      fun a b => a.precedes b = true := by decide +kernel
  simp only [Graph.edgeSchema, addPredicators, addRoles, PlacedEdge.ordered_of_pairwise drawn]
  decide +kernel

/-- A person rents a car and smokes; the pair is the identifier until smoking is to be. -/
def garage : Builder := ⟨{ id := "garage", name := "garage", version := "1.0" }, ∅, [], []⟩

def garageRequests : List (String × Fields) := [
  ("add_entity", [("name", .str "Person")]),
  ("add_entity", [("name", .str "Car")]),
  ("add_binary_fact_type", [("name", .str "rents"), ("first_object_id", .str "entity_1"),
    ("second_object_id", .str "entity_2")]),
  ("add_unary_fact_type", [("object_id", .str "entity_1"), ("name", .str "smokes")]),
  ("add_unique", [("predicator_ids", .arr [.str "role_1", .str "role_2"])]),
  ("add_unique", [("predicator_ids", .arr [.str "role_3"]), ("is_primary", .bool true)])]

theorem identifiers_ranked_rentals :
    (∃ s, rentals.toSchema ⟨"rentals", "1", false⟩ = .ok s ∧
      s.IdentifiedAsDrawn rentals.constraints ∧
      s.uniqueConstraints.values.map (fun c => (c.id, c.isPrimary, c.isPreferred)) =
        [("pair", false, false), ("badge", false, false), ("one", false, false),
          ("both", true, true), ("keeper", true, true), ("again", false, false)]) ∧
    ∃ e, (garage.runAll garageRequests).schema.entities.find? "entity_1" = some e ∧
      e.identifiers = ["unique_1", "unique_2"] ∧
      (garage.runAll garageRequests).schema.RankedOnce e.identifiers := by
  constructor
  · obtain ⟨s, converted, ranked⟩ :=
      identifiers_ranked.1 rentals ⟨"rentals", "1", false⟩ rfl (by decide)
    exact ⟨s, converted, ranked, (converted_rentals converted).1⟩
  · refine ⟨_, rfl, rfl, ?_⟩
    exact identifiers_ranked.2 garage _ _ _ _ rfl (.admitted .none (by decide +kernel))
      "entity_1" _ rfl

/-! Roles of other objects -/

/-- The check reports that an identifier of an entity uses a role of another object. -/
def Schema.ReportsForeign (s : Schema) (key id role object : String) : Prop :=
  ∃ name, .identifierForeign key name id role object ∈ s.issues

/-- A role after the first one of an identifier is played by another object than its entity. -/
def Schema.UsesForeign (s : Schema) (key id role object : String) : Prop :=
  ∃ e c, s.entities.find? key = some e ∧ id ∈ e.identifiers ∧
    s.uniqueConstraints.find? id = some c ∧ role ∈ c.predicatorIds.tail ∧
    s.player? role = some object ∧ object ≠ key

theorem Schema.reportsForeign_iff {s : Schema} (keyed : s.Keyed)
    (own : s.OwnRoles fun ids => ids.head?.toList) {key id role object : String} :
    s.ReportsForeign key id role object ↔ s.UsesForeign key id role object := by
  constructor
  · rintro ⟨name, reported⟩
    cases mem_issues_iff.mp reported with
    | @identifierForeign _ listed _ e c r entity identifier unique inside found foreign =>
      have plays : s.player? role = some r.objectId := congrArg (Option.map _) found
      refine ⟨e, c, entity, ?_, ?_, ?_, plays, foreign⟩
      · exact keyed.uniqueConstraints.id_of_find? unique ▸ identifier
      · rwa [keyed.uniqueConstraints.id_of_find? unique]
      · cases ids : c.predicatorIds with
        | nil =>
          rw [ids] at inside
          cases inside
        | cons first rest =>
          rw [ids] at inside
          refine (List.mem_cons.mp inside).resolve_left fun same => foreign ?_
          refine own key e entity listed identifier c unique role ?_ r.objectId plays
          simp [ids, same]
  · rintro ⟨e, c, entity, identifier, unique, inside, plays, foreign⟩
    obtain ⟨r, found, rfl⟩ := Option.map_eq_some_iff.mp plays
    have same := keyed.uniqueConstraints.id_of_find? unique
    have defect := Defect.identifierForeign entity identifier unique (List.mem_of_mem_tail inside)
      found foreign
    rw [same] at defect
    exact ⟨e.name, mem_issues_iff.mpr defect⟩

/-- The first role of an identifier of a converted drawing is played by its entity. -/
theorem Schema.IdentifiedAsDrawn.ownFirst {s : Schema} {constraints : List GraphConstraint}
    (drawn : s.IdentifiedAsDrawn constraints) : s.OwnRoles fun ids => ids.head?.toList := by
  intro key e entity id listed c unique role first object plays
  rw [drawn.listed key e entity] at listed
  obtain ⟨a, identifies, rfl⟩ := List.mem_map.mp listed
  obtain ⟨d, holds⟩ := drawn.held key (OrderedMap.mem_keys_of_find? entity) a identifies
  obtain rfl := Option.some.inj (unique.symm.trans holds.held)
  have leads := (List.mem_filter.mp identifies).2
  simp only [GraphConstraint.identifies, Bool.and_eq_true, beq_iff_eq] at leads
  rw [← holds.predicators, Option.mem_toList.mp first, Option.bind_some, plays] at leads
  exact Option.some.inj leads.2

theorem Schema.usesForeign_iff_drawn {s : Schema} {constraints : List GraphConstraint}
    (drawn : s.IdentifiedAsDrawn constraints) {key id role object : String} :
    s.UsesForeign key id role object ↔
      key ∈ s.entities.keys ∧ ∃ a ∈ s.identifying key constraints, a.id = id ∧
        role ∈ a.uniquePredicators.tail ∧ s.player? role = some object ∧ object ≠ key := by
  constructor
  · rintro ⟨e, c, entity, listed, unique, inside, rest⟩
    have known := OrderedMap.mem_keys_of_find? entity
    rw [drawn.listed key e entity] at listed
    obtain ⟨a, identifies, rfl⟩ := List.mem_map.mp listed
    obtain ⟨d, holds⟩ := drawn.held key known a identifies
    obtain rfl := Option.some.inj (unique.symm.trans holds.held)
    exact ⟨known, a, identifies, rfl, holds.predicators ▸ inside, rest⟩
  · rintro ⟨known, a, identifies, rfl, inside, rest⟩
    obtain ⟨e, entity⟩ := OrderedMap.exists_find?_of_mem_keys known
    obtain ⟨c, holds⟩ := drawn.held key known a identifies
    refine ⟨e, c, entity, ?_, holds.held, holds.predicators ▸ inside, rest⟩
    rw [drawn.listed key e entity]
    exact List.mem_map_of_mem identifies

/-- A constraint identifies the object of its first role. The check reports exactly its other roles
that are played by other objects, so none where every constraint is over roles of one object. -/
theorem foreign_roles_reported (g : Graph) (o : ConversionOptions) (b after : Builder)
    (schema name version : String) :
    (o.strict = false → (g.constraints.map (·.id)).Nodup →
      ∃ s, g.toSchema o = .ok s ∧ ∀ key id role object, s.ReportsForeign key id role object ↔
        key ∈ s.entities.keys ∧ ∃ a ∈ s.identifying key g.constraints, a.id = id ∧
          role ∈ a.uniquePredicators.tail ∧ s.player? role = some object ∧ object ≠ key) ∧
    (b.schema = { id := schema, name := name, version := version } →
      (b.Edits after → ∀ key id role object, after.schema.ReportsForeign key id role object ↔
        after.schema.UsesForeign key id role object) ∧
      (b.NarrowEdits after → ∀ key id role object,
        ¬ after.schema.ReportsForeign key id role object)) := by
  refine ⟨fun lenient distinct => ?_, fun start => ⟨?_, ?_⟩⟩
  · obtain ⟨s, converted, drawn⟩ := g.identifiedAsDrawn_toSchema o lenient distinct
    refine ⟨s, converted, fun key id role object => ?_⟩
    rw [reportsForeign_iff (Graph.keyed_of_toSchema converted) drawn.ownFirst,
      usesForeign_iff_drawn drawn]
  · intro edits key id role object
    have kept := Builder.ownFirst_of_edits start edits
    exact reportsForeign_iff kept.keyed kept.own
  · rintro edits key id role object ⟨name, reported⟩
    have kept := Builder.ownRoles_of_narrowEdits start edits
    cases mem_issues_iff.mp reported with
    | @identifierForeign _ listed _ e c r entity identifier unique inside found foreign =>
      exact foreign (kept.own key e entity listed identifier c unique role inside _
        (congrArg (Option.map _) found))

/-- People who know people, each pair of them once. -/
def acquaintances : List (String × Fields) := [
  ("add_entity", [("name", .str "Person")]),
  ("add_binary_fact_type", [("name", .str "knows"), ("first_object_id", .str "entity_1"),
    ("second_object_id", .str "entity_1")]),
  ("add_unique", [("predicator_ids", .arr [.str "role_1", .str "role_2"])])]

theorem usesForeign_garage : (garage.runAll garageRequests).schema.UsesForeign "entity_1"
    "unique_1" "role_2" "entity_2" :=
  ⟨_, _, rfl, List.mem_cons_self, rfl, List.mem_cons_self, rfl, by decide⟩

/-- The pair of a renter and a car uses the role of the car, in a drawing and in an edited schema;
a pair of people does not. -/
theorem foreign_roles_reported_rentals :
    (∃ s, rentals.toSchema ⟨"rentals", "1", false⟩ = .ok s ∧
      s.ReportsForeign "person" "pair" "rented" "car") ∧
    (garage.runAll garageRequests).schema.ReportsForeign "entity_1" "unique_1" "role_2" "entity_2" ∧
    ∀ key id role object,
      ¬ (garage.runAll acquaintances).schema.ReportsForeign key id role object := by
  have drawing := foreign_roles_reported rentals ⟨"rentals", "1", false⟩ garage
    (garage.runAll garageRequests) "garage" "garage" "1.0"
  have pairs := foreign_roles_reported rentals ⟨"rentals", "1", false⟩ garage
    (garage.runAll acquaintances) "garage" "garage" "1.0"
  refine ⟨?_, ?_, ?_⟩
  · obtain ⟨s, converted, reported⟩ := drawing.1 rfl (by decide)
    obtain ⟨_, known, identifying, plays⟩ := converted_rentals converted
    refine ⟨s, converted, (reported _ _ _ _).mpr ⟨known, ?_⟩⟩
    have pair : ("pair", ["renter", "rented"]) ∈
        (s.identifying "person" rentals.constraints).map fun a => (a.id, a.uniquePredicators) := by
      rw [identifying]
      exact List.mem_cons_self
    obtain ⟨a, identifies, same⟩ := List.mem_map.mp pair
    rw [Prod.mk.injEq] at same
    refine ⟨a, identifies, same.1, ?_, plays, by decide⟩
    rw [same.2]
    exact List.mem_cons_self
  · exact ((drawing.2 rfl).1 (.admitted .none (by decide +kernel)) _ _ _ _).mpr usesForeign_garage
  · exact (pairs.2 rfl).2 (.admitted .none (by decide +kernel) (by decide +kernel))

/-- Not every identifier is over roles of its own entity: the person's pair is not. -/
theorem not_every_identifier_own :
    ¬ ∀ (b after : Builder) (schema name version : String),
      b.schema = { id := schema, name := name, version := version } → b.Edits after →
      ∀ key id role object, ¬ after.schema.ReportsForeign key id role object := by
  intro claim
  have edits : garage.Edits (garage.runAll garageRequests) := .admitted .none (by decide +kernel)
  have kept := Builder.ownFirst_of_edits rfl edits
  exact claim garage _ _ _ _ rfl edits _ _ _ _
    ((reportsForeign_iff kept.keyed kept.own).mpr usesForeign_garage)

end FactModel
