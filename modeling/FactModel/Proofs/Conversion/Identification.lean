import FactModel.Proofs.Conversion.DrawnRoles
import FactModel.Proofs.Conversion.Keyed
import FactModel.Proofs.Schema.Identification

/-!
The identifiers of a converted drawing. The uniqueness constraints of an entity are its identifiers
in the order in which they are drawn, and the wishes drawn with them say which one is primary.
-/

namespace FactModel

namespace GraphConstraint

/-- A uniqueness constraint whose first predicator is played by an object. -/
def identifies (player? : String → Option String) (object : String) (a : GraphConstraint) : Bool :=
  a.kind == "uniqueness" && a.uniquePredicators.head?.bind player? == some object

/-- What a uniqueness constraint is drawn for. -/
def unique (a : GraphConstraint) : UniqueConstraint :=
  ⟨a.id, a.named UniqueConstraint.defaultName, a.uniquePredicators, a.isPrimary.getD false,
    a.isPrimary.getD false⟩

/-- A constraint identifies one object. -/
theorem object_of_identifies {player? : String → Option String} {object other : String}
    {a : GraphConstraint} (identifies : a.identifies player? object = true)
    (too : a.identifies player? other = true) : object = other := by
  simp only [GraphConstraint.identifies, Bool.and_eq_true, beq_iff_eq] at identifies too
  exact Option.some.inj (identifies.2.symm.trans too.2)

/-- The constraint to be primary: the last one that asks for it, or else the first one without a
wish. -/
def primaryAmong (constraints : List GraphConstraint) : Option GraphConstraint :=
  (constraints.reverse.find? fun a => a.isPrimary == some true).or
    (constraints.find? fun a => a.isPrimary == none)

variable {constraints : List GraphConstraint} {a : GraphConstraint}

theorem primaryAmong_append (constraints : List GraphConstraint) (a : GraphConstraint) :
    primaryAmong (constraints ++ [a]) =
      match a.isPrimary with
      | some true => some a
      | some false => primaryAmong constraints
      | none => (primaryAmong constraints).or (some a) := by
  unfold primaryAmong
  rw [List.reverse_append, List.reverse_singleton, List.singleton_append, List.find?_cons,
    List.find?_append]
  rcases wish : a.isPrimary with _ | (_ | _) <;> simp [wish]

/-- A constraint that does not ask to be primary takes the place of no other. -/
theorem primaryAmong_append_eq_some {b : GraphConstraint} (apart : b ≠ a)
    (unasked : a.isPrimary ≠ some true) :
    primaryAmong (constraints ++ [a]) = some b ↔ primaryAmong constraints = some b := by
  rw [primaryAmong_append]
  rcases wish : a.isPrimary with _ | (_ | _)
  · simp only [Option.or_eq_some_iff, Option.some.injEq, Ne.symm apart, and_false, or_false]
  · rfl
  · exact absurd wish unasked

theorem mem_of_primaryAmong (primary : primaryAmong constraints = some a) : a ∈ constraints := by
  rcases Option.or_eq_some_iff.mp primary with asked | ⟨_, first⟩
  · exact List.mem_reverse.mp (List.mem_of_find?_eq_some asked)
  · exact List.mem_of_find?_eq_some first

end GraphConstraint

open GraphConstraint

theorem GraphNode.identifiers_of_entity? {n : GraphNode} {e : Entity} (made : n.entity? = some e) :
    e.identifiers = [] := by
  unfold entity? at made
  split at made
  · cases made
    rfl
  · cases made
    rfl
  · cases made

namespace Schema

/-- The drawn constraints that identify an entity, in the order in which they are drawn. -/
def identifying (s : Schema) (key : String) (constraints : List GraphConstraint) :
    List GraphConstraint := constraints.filter (·.identifies s.player? key)

/-- A drawn constraint is held as an identifier of an entity: it has the predicators that are
drawn, and it is primary and preferred, or neither, as the constraints of the entity ask for. -/
structure HoldsDrawn (s : Schema) (drawn : List GraphConstraint) (a : GraphConstraint)
    (c : UniqueConstraint) : Prop where
  held : s.uniqueConstraints.find? a.id = some c
  predicators : c.predicatorIds = a.uniquePredicators
  primary : c.isPrimary = true ↔ primaryAmong drawn = some a
  preferred : c.isPreferred = c.isPrimary

/-- The identifiers of the entities are the constraints drawn for them. -/
structure IdentifiedAsDrawn (s : Schema) (constraints : List GraphConstraint) : Prop where
  listed : ∀ key e, s.entities.find? key = some e →
    e.identifiers = (s.identifying key constraints).map (·.id)
  held : ∀ key ∈ s.entities.keys, ∀ a ∈ s.identifying key constraints,
    ∃ c, s.HoldsDrawn (s.identifying key constraints) a c

variable {s t : Schema} {done : List GraphConstraint} {a : GraphConstraint} {key : String}

theorem player?_of_rolesKept (kept : s.RolesKept t) : t.player? = s.player? := by
  funext role
  have same := congrArg (Option.map (·.objectId)) (kept.roles role)
  rwa [Option.map_map, Option.map_map] at same

theorem identifying_append (s : Schema) (key : String) (done : List GraphConstraint)
    (a : GraphConstraint) : s.identifying key (done ++ [a]) =
      s.identifying key done ++ if a.identifies s.player? key then [a] else [] := by
  unfold identifying
  rw [List.filter_append, List.filter_singleton]
  cases a.identifies s.player? key <;> rfl

theorem identifying_append_of_not (done : List GraphConstraint)
    (other : a.identifies s.player? key = false) :
    s.identifying key (done ++ [a]) = s.identifying key done := by
  rw [identifying_append, other]
  exact List.append_nil _

theorem identifying_append_of_identifies (done : List GraphConstraint)
    (own : a.identifies s.player? key = true) :
    s.identifying key (done ++ [a]) = s.identifying key done ++ [a] := by
  rw [identifying_append, if_pos own]

theorem addUnique_of_empty (empty : a.uniquePredicators = []) : s.addUnique a = s := by
  simp [addUnique, empty]

theorem addUnique_eq (some_role : a.uniquePredicators ≠ []) :
    s.addUnique a = ((s.putUnique a.unique).attachIdentifier a.id a.isPrimary).1 := by
  rw [addUnique, if_neg (by simpa using some_role)]
  rfl

theorem addConstraint_of_uniqueness (kind : a.kind = "uniqueness") :
    s.addConstraint a = s.addUnique a := by rw [addConstraint, if_pos kind]

/-- Constraints of other kinds leave entities and uniqueness constraints alone. -/
theorem addConstraint_of_other (other : a.kind ≠ "uniqueness") :
    (s.addConstraint a).entities = s.entities ∧
      (s.addConstraint a).uniqueConstraints = s.uniqueConstraints := by
  rw [addConstraint, if_neg other]
  split
  · unfold addMandatory
    split
    · exact ⟨rfl, rfl⟩
    · exact ⟨rfl, rfl⟩
  split
  · exact ⟨rfl, rfl⟩
  · exact ⟨rfl, rfl⟩
  split
  · exact ⟨rfl, rfl⟩
  split
  · exact ⟨rfl, rfl⟩
  split
  · exact ⟨rfl, rfl⟩
  split
  · exact ⟨rfl, rfl⟩
  split
  · exact ⟨rfl, rfl⟩
  · exact ⟨rfl, rfl⟩

namespace IdentifiedAsDrawn

/-- A constraint that identifies no entity changes no identifier. -/
theorem of_apart (drawn : s.IdentifiedAsDrawn done) (players : t.player? = s.player?)
    (entities : t.entities = s.entities)
    (apart : ∀ key ∈ s.entities.keys, a.identifies s.player? key = false)
    (kept : ∀ b ∈ done, t.uniqueConstraints.find? b.id = s.uniqueConstraints.find? b.id) :
    t.IdentifiedAsDrawn (done ++ [a]) := by
  have same : ∀ key ∈ s.entities.keys,
      t.identifying key (done ++ [a]) = s.identifying key done := by
    intro key known
    have none := identifying_append_of_not done (apart key known)
    rwa [identifying, ← players] at none
  constructor
  · intro key e found
    rw [entities] at found
    rw [same key (OrderedMap.mem_keys_of_find? found)]
    exact drawn.listed key e found
  · intro key known b listed
    rw [entities] at known
    rw [same key known] at listed ⊢
    obtain ⟨c, holds⟩ := drawn.held key known b listed
    have before : b ∈ done := List.mem_of_mem_filter listed
    exact ⟨c, (kept b before).trans holds.held, holds.predicators, holds.primary, holds.preferred⟩

/-! A constraint that identifies an entity -/

section Attached

variable {e : Entity} (drawn : s.IdentifiedAsDrawn done)
  (distinct : ((done ++ [a]).map (·.id)).Nodup)
  (found : s.entities.find? key = some e)

include distinct in
theorem fresh_of_nodup : ∀ b ∈ done, b.id ≠ a.id := by
  intro b before same
  rw [List.map_append, List.nodup_append] at distinct
  exact distinct.2.2 b.id (List.mem_map_of_mem before) a.id (by simp) same

include drawn distinct found in
theorem not_mem_identifiers : a.id ∉ e.identifiers := by
  rw [drawn.listed key e found]
  intro listed
  obtain ⟨b, inside, same⟩ := List.mem_map.mp listed
  exact fresh_of_nodup distinct b (List.mem_of_mem_filter inside) same

include drawn distinct found in
/-- Before the new constraint is ranked, an identifier is primary exactly if the wishes before it ask
for one. -/
theorem primaryIdentifier?_eq_none_iff (unasked : a.isPrimary = none) :
    (s.putUnique a.unique).primaryIdentifier? (e.identifiedBy a.id) = none ↔
      primaryAmong (s.identifying key done) = none := by
  have known := OrderedMap.mem_keys_of_find? found
  have apart : ∀ b ∈ s.identifying key done, b.id ≠ a.id := fun b listed =>
    fresh_of_nodup distinct b (List.mem_of_mem_filter listed)
  rw [primaryIdentifier?_eq_none, Entity.identifiedBy, drawn.listed key e found]
  constructor
  · intro none
    cases primary : primaryAmong (s.identifying key done) with
    | none => rfl
    | some b =>
      have listed := mem_of_primaryAmong primary
      obtain ⟨d, holds⟩ := drawn.held key known b listed
      have unset := none b.id (List.mem_append_left _ (List.mem_map_of_mem listed)) d
        ((find?_putUnique_of_ne a.unique (apart b listed)).trans holds.held)
      rw [holds.primary.mpr primary] at unset
      cases unset
  · intro none id listed d held
    rcases List.mem_append.mp listed with before | new
    · obtain ⟨b, inside, rfl⟩ := List.mem_map.mp before
      rw [find?_putUnique_of_ne a.unique (apart b inside)] at held
      obtain ⟨d', holds⟩ := drawn.held key known b inside
      obtain rfl : d' = d := Option.some.inj (holds.held.symm.trans held)
      refine eq_false_of_ne_true fun primary => ?_
      rw [holds.primary.mp primary] at none
      cases none
    · obtain rfl := List.mem_singleton.mp new
      obtain rfl := Option.some.inj ((find?_putUnique s a.unique).symm.trans held)
      simp [unique, unasked]

include drawn distinct found in
/-- The new constraint becomes primary where the drawn wishes ask for it. -/
theorem promotes_iff : (s.putUnique a.unique).Promotes (e.identifiedBy a.id) a.isPrimary ↔
      primaryAmong (s.identifying key done ++ [a]) = some a := by
  have absent : primaryAmong (s.identifying key done) ≠ some a := fun primary =>
    fresh_of_nodup distinct a (List.mem_of_mem_filter (mem_of_primaryAmong primary)) rfl
  have first := primaryIdentifier?_eq_none_iff drawn distinct found
  rw [primaryAmong_append]
  rcases asked : a.isPrimary with _ | (_ | _)
  · refine (first asked).trans ?_
    dsimp only
    cases before : primaryAmong (s.identifying key done) with
    | none => exact iff_of_true rfl rfl
    | some b =>
      rw [before] at absent
      exact iff_of_false (Option.some_ne_none b) absent
  · exact iff_of_false Bool.false_ne_true absent
  · exact iff_of_true rfl rfl

include drawn distinct found in
/-- The constraints before are held as what the wishes together with the new one ask for. -/
theorem holdsDrawn_of_before
    (attached : (s.putUnique a.unique).Attached t key a.id e a.isPrimary) {b : GraphConstraint}
    (listed : b ∈ s.identifying key done) :
    ∃ d, t.HoldsDrawn (s.identifying key done ++ [a]) b d := by
  obtain ⟨d, holds⟩ := drawn.held key (OrderedMap.mem_keys_of_find? found) b listed
  have apart := fresh_of_nodup distinct b (List.mem_of_mem_filter listed)
  have other : b ≠ a := fun same => apart (congrArg (·.id) same)
  have old := (find?_putUnique_of_ne a.unique apart).trans holds.held
  by_cases asked : a.isPrimary = some true
  · have inside : b.id ∈ e.identifiers := by
      rw [drawn.listed key e found]
      exact List.mem_map_of_mem listed
    refine ⟨d.ranked false, ?_, holds.predicators, iff_of_false nofun fun primary => ?_, rfl⟩
    · rw [attached.demoted asked b.id inside apart, old]
      rfl
    · rw [primaryAmong_append, asked, Option.some.injEq] at primary
      exact other primary.symm
  · refine ⟨d, ?_, holds.predicators, ?_, holds.preferred⟩
    · rw [attached.apart b.id apart fun wish => absurd wish asked, old]
    · rw [primaryAmong_append_eq_some other asked]
      exact holds.primary

include drawn distinct found in
theorem holdsDrawn_of_new (attached : (s.putUnique a.unique).Attached t key a.id e a.isPrimary) :
    ∃ d, t.HoldsDrawn (s.identifying key done ++ [a]) a d := by
  have new : (s.putUnique a.unique).uniqueConstraints.find? a.id = some a.unique :=
    find?_putUnique s a.unique
  have rule := promotes_iff drawn distinct found
  by_cases promotes : primaryAmong (s.identifying key done ++ [a]) = some a
  · refine ⟨a.unique.ranked true, ?_, rfl, iff_of_true rfl promotes, rfl⟩
    rw [attached.promoted (rule.mpr promotes), new]
    rfl
  · have unset : a.unique.isPrimary = false := by
      rcases asked : a.isPrimary with _ | (_ | _)
      · simp [unique, asked]
      · simp [unique, asked]
      · rw [primaryAmong_append, asked] at promotes
        exact absurd rfl promotes
    refine ⟨a.unique, ?_, rfl, iff_of_false (by simp [unset]) promotes, rfl⟩
    rw [attached.unpromoted fun wished => promotes (rule.mp wished), new]

include drawn distinct found in
/-- The constraints of other entities stay as they are held. -/
theorem holdsDrawn_of_elsewhere
    (attached : (s.putUnique a.unique).Attached t key a.id e a.isPrimary) {other : String}
    (apart : other ≠ key) (known : other ∈ s.entities.keys) {b : GraphConstraint}
    (listed : b ∈ s.identifying other done) :
    ∃ d, t.HoldsDrawn (s.identifying other done) b d := by
  obtain ⟨d, holds⟩ := drawn.held other known b listed
  have fresh := fresh_of_nodup distinct b (List.mem_of_mem_filter listed)
  have before : (done.map (·.id)).Nodup := by
    rw [List.map_append, List.nodup_append] at distinct
    exact distinct.1
  have unlisted : b.id ∉ e.identifiers := by
    rw [drawn.listed key e found]
    intro inside
    obtain ⟨b', identifies, equal⟩ := List.mem_map.mp inside
    obtain ⟨drawnThere, there⟩ := List.mem_filter.mp identifies
    obtain ⟨drawnHere, here⟩ := List.mem_filter.mp listed
    obtain rfl := List.inj_on_of_nodup_map before drawnThere drawnHere equal
    exact apart (object_of_identifies here there)
  refine ⟨d, ?_, holds.predicators, holds.primary, holds.preferred⟩
  rw [attached.apart b.id fresh fun _ => unlisted]
  exact (find?_putUnique_of_ne a.unique fresh).trans holds.held

include drawn distinct found in
theorem attached (own : a.identifies s.player? key = true) (players : t.player? = s.player?)
    (keys : t.entities.keys = s.entities.keys)
    (attached : (s.putUnique a.unique).Attached t key a.id e a.isPrimary) :
    t.IdentifiedAsDrawn (done ++ [a]) := by
  have same : ∀ other, t.identifying other (done ++ [a]) = s.identifying other (done ++ [a]) := by
    intro other
    rw [identifying, players]
    rfl
  have here := identifying_append_of_identifies done own
  have elsewhere : ∀ other, other ≠ key →
      s.identifying other (done ++ [a]) = s.identifying other done := by
    intro other apart
    exact identifying_append_of_not done
      (eq_false_of_ne_true fun foreign => apart (object_of_identifies foreign own))
  constructor
  · intro other d held
    rw [same]
    by_cases apart : other = key
    · subst apart
      obtain rfl := Option.some.inj (attached.entity.symm.trans held)
      rw [here, List.map_append, ← drawn.listed other e found]
      rfl
    · rw [elsewhere other apart]
      exact drawn.listed other d ((attached.otherEntities other apart).symm.trans held)
  · intro other known b listed
    rw [same] at listed ⊢
    by_cases apart : other = key
    · subst apart
      rw [here] at listed ⊢
      rcases List.mem_append.mp listed with before | new
      · exact holdsDrawn_of_before drawn distinct found attached before
      · obtain rfl := List.mem_singleton.mp new
        exact holdsDrawn_of_new drawn distinct found attached
    · rw [elsewhere other apart] at listed ⊢
      exact holdsDrawn_of_elsewhere drawn distinct found attached apart (keys ▸ known) listed

end Attached

/-! One drawn constraint after the other -/

theorem addUnique (drawn : s.IdentifiedAsDrawn done) (kind : a.kind = "uniqueness")
    (distinct : ((done ++ [a]).map (·.id)).Nodup) :
    (s.addUnique a).IdentifiedAsDrawn (done ++ [a]) := by
  have players : (s.addUnique a).player? = s.player? := player?_of_rolesKept (.addUnique s a)
  have fresh := fresh_of_nodup distinct
  by_cases empty : a.uniquePredicators = []
  · rw [addUnique_of_empty empty]
    refine drawn.of_apart rfl rfl (fun key _ => ?_) fun _ _ => rfl
    simp [identifies, empty]
  rw [addUnique_eq empty] at players ⊢
  have leads : ∀ key, a.identifies s.player? key = true ↔
      a.unique.predicatorIds.head?.bind s.player? = some key := by
    intro key
    simp [identifies, kind, unique]
  have new : (s.putUnique a.unique).uniqueConstraints.find? a.id = some a.unique :=
    find?_putUnique s a.unique
  cases owner : (s.putUnique a.unique).owner? a.unique with
  | none =>
    rw [attachIdentifier_of_no_owner new owner] at players ⊢
    refine drawn.of_apart players rfl (fun key known => eq_false_of_ne_true fun own => ?_)
      fun b before => find?_putUnique_of_ne a.unique (fresh b before)
    have owns := owner?_eq_some (s := s.putUnique a.unique) |>.mpr ⟨(leads key).mp own, known⟩
    rw [owner] at owns
    cases owns
  | some key =>
    obtain ⟨player, known⟩ := owner?_eq_some.mp owner
    obtain ⟨e, found⟩ := OrderedMap.exists_find?_of_mem_keys known
    have unlisted := not_mem_identifiers drawn distinct found
    have keys := (Relinked.attachIdentifier (s.putUnique a.unique) a.id a.isPrimary).keys_entities
    exact drawn.attached distinct found ((leads key).mpr player) players keys
      (attached_of_owner new rfl owner found unlisted a.isPrimary)

theorem addConstraint (drawn : s.IdentifiedAsDrawn done)
    (distinct : ((done ++ [a]).map (·.id)).Nodup) :
    (s.addConstraint a).IdentifiedAsDrawn (done ++ [a]) := by
  by_cases kind : a.kind = "uniqueness"
  · rw [addConstraint_of_uniqueness kind]
    exact drawn.addUnique kind distinct
  · obtain ⟨entities, uniqueConstraints⟩ := addConstraint_of_other (s := s) kind
    refine drawn.of_apart (player?_of_rolesKept (.addConstraint s a)) entities (fun key _ => ?_)
      fun b _ => by rw [uniqueConstraints]
    simp [identifies, kind]

theorem addConstraints (drawn : s.IdentifiedAsDrawn done) {constraints : List GraphConstraint}
    (distinct : ((done ++ constraints).map (·.id)).Nodup) :
    (constraints.foldl Schema.addConstraint s).IdentifiedAsDrawn (done ++ constraints) := by
  induction constraints generalizing s done with
  | nil => rwa [List.append_nil]
  | cons a rest ih =>
    rw [List.append_cons] at distinct ⊢
    refine ih (drawn.addConstraint ?_) distinct
    rw [List.map_append] at distinct
    exact (List.nodup_append.mp distinct).1

end IdentifiedAsDrawn

/-! Entities before the constraints -/

theorem entities_addPredicators (edges : List PlacedEdge) :
    (s.addPredicators edges).entities = s.entities := by
  have kept : ∀ (facts : List String) (t : Schema),
      (facts.foldl (fun s fact => s.addRoles edges fact) t).entities = t.entities := by
    intro facts
    induction facts with
    | nil => exact fun _ => rfl
    | cons fact rest ih => exact fun t => ih (t.addRoles edges fact)
  rw [addPredicators_eq, kept]

theorem map_identifiers_addSpecializations (s : Schema) (edges : List GraphEdge) (key : String) :
    ((edges.foldl addSpecialization s).entities.find? key).map (·.identifiers) =
      (s.entities.find? key).map (·.identifiers) := by
  induction edges generalizing s with
  | nil => rfl
  | cons edge rest ih =>
    rw [List.foldl_cons, ih]
    unfold addSpecialization
    split
    · exact OrderedMap.map_find?_modify s.entities edge.source key fun _ => rfl
    · rfl

end Schema

namespace Graph

variable (g : Graph) (o : ConversionOptions)

/-- Nodes and edges make entities without identifiers. -/
theorem identifiers_edgeSchema {key : String} {e : Entity}
    (found : (g.edgeSchema o).entities.find? key = some e) : e.identifiers = [] := by
  have kept := Schema.map_identifiers_addSpecializations
    ((g.nodeSchema o).addPredicators (g.placed o)) g.edges key
  rw [Schema.entities_addPredicators] at kept
  obtain ⟨plain, drawn, same⟩ :=
    Option.map_eq_some_iff.mp (kept.symm.trans (congrArg (Option.map (·.identifiers)) found))
  rw [nodeSchema_eq] at drawn
  rcases OrderedMap.exists_of_find?_putAll drawn with nothing | ⟨n, _, _, made⟩
  · cases nothing
  · exact same.symm.trans (GraphNode.identifiers_of_entity? made)

/-- The identifiers of the entities of a converted drawing are the constraints drawn for them. -/
theorem identifiedAsDrawn_toSchema (lenient : o.strict = false)
    (distinct : (g.constraints.map (·.id)).Nodup) :
    ∃ s, g.toSchema o = .ok s ∧ s.IdentifiedAsDrawn g.constraints := by
  have start : (g.edgeSchema o).IdentifiedAsDrawn [] :=
    ⟨fun _ _ found => g.identifiers_edgeSchema o found, fun _ _ _ none => nomatch none⟩
  have each : (([] ++ g.constraints).map GraphConstraint.id).Nodup := distinct
  refine ⟨_, ?_, start.addConstraints each⟩
  rw [toSchema, lenient]

end Graph

end FactModel
