import FactModel.Proofs.Builder.Removal
import FactModel.Proofs.Builder.Arranged
import FactModel.Proofs.Schema.Identification

/-!
Identifiers while a schema is edited. Entities come without identifiers; a new uniqueness
constraint is the only one that is listed and ranked, and a removed constraint the only one that is
taken out.
-/

namespace FactModel

namespace Schema

/-- What editing does to identifiers: it leaves them alone, adds one, or removes one. -/
inductive Reidentified (s t : Schema) : Prop
  | kept (unique : t.uniqueConstraints = s.uniqueConstraints)
      (entities : ∀ key e, t.entities.find? key = some e →
        e.identifiers = [] ∨ ∃ d, s.entities.find? key = some d ∧ e.identifiers = d.identifiers)
  | added (c : UniqueConstraint) (primary : Option Bool) (fresh : c.id ∉ s.ids)
      (unranked : c.isPrimary = false ∧ c.isPreferred = false)
      (roles : ∀ role ∈ c.predicatorIds, role ∈ s.predicators.keys)
      (made : t = ((s.putUnique c).attachIdentifier c.id primary).1)
  | removed (id : String)
      (others : ∀ other, t.uniqueConstraints.find? other = s.uniqueConstraints.find? other ∨
        other = id ∧ t.uniqueConstraints.find? other = none)
      (entities : ∀ key e, t.entities.find? key = some e →
        ∃ d, s.entities.find? key = some d ∧ e.identifiers = d.identifiers.erase id)

variable {s t : Schema}

namespace Reidentified

theorem of_same (unique : t.uniqueConstraints = s.uniqueConstraints)
    (entities : t.entities = s.entities) : s.Reidentified t := by
  refine .kept unique fun key e found => .inr ⟨e, ?_, rfl⟩
  rwa [← entities]

theorem of_insert {key : String} {e : Entity} (unique : t.uniqueConstraints = s.uniqueConstraints)
    (entities : t.entities = s.entities.insert key e)
    (same : e.identifiers = [] ∨
      ∃ d, s.entities.find? key = some d ∧ e.identifiers = d.identifiers) :
    s.Reidentified t := by
  refine .kept unique fun other d found => ?_
  rw [entities] at found
  rcases OrderedMap.find?_insert_eq_some.mp found with ⟨rfl, rfl⟩ | ⟨_, old⟩
  · exact same
  · exact .inr ⟨d, old, rfl⟩

theorem withoutObject (s : Schema) (id : String) : s.Reidentified (s.withoutObject id) := by
  obtain ⟨_, _, same⟩ := dropRoles_eq (s.eraseObject id) (s.played id)
  rw [Schema.withoutObject, same]
  refine .kept rfl fun key e found => ?_
  exact .inr ⟨e, (OrderedMap.find?_erase_eq_some.mp found).2, rfl⟩

theorem eraseFactType (s : Schema) (id : String) (f : FactType) :
    s.Reidentified (s.eraseFactType id f) := by
  refine .kept rfl fun key e found => ?_
  obtain ⟨d, old, rfl⟩ := Option.map_eq_some_iff.mp
    ((OrderedMap.find?_mapValues ..).symm.trans found)
  refine .inr ⟨d, old, ?_⟩
  split
  · rfl
  · rfl

theorem withoutConstraint (s : Schema) (id : String) (category : ConstraintCategory) :
    s.Reidentified (s.withoutConstraint id category) := by
  refine .removed id (fun other => ?_) fun key e found => ?_
  · obtain ⟨_, _, eq⟩ := withoutConstraint_eq s id category
    rw [eq]
    cases category with
    | uniqueness =>
      have erased := OrderedMap.find?_erase s.uniqueConstraints id other
      by_cases here : other = id
      · exact .inr ⟨here, erased.trans (if_pos here)⟩
      · exact .inl (erased.trans (if_neg here))
    | _ => exact .inl rfl
  · rw [find?_entities_withoutConstraint] at found
    obtain ⟨d, old, rfl⟩ := Option.map_eq_some_iff.mp found
    exact ⟨d, old, rfl⟩

end Reidentified

end Schema

open Schema

variable {s t : Schema} {given : Option (Reading String)}

theorem Change.reidentified_or_put (change : Change given s t) : s.Reidentified t ∨
    ∃ c primary, Edit.Picked given s c.id ∧ (c.isPrimary = false ∧ c.isPreferred = false) ∧
      (∀ role ∈ c.predicatorIds, role ∈ s.predicators.keys) ∧
      t = ((s.putUnique c).attachIdentifier c.id primary).1 := by
  cases change with
  | uniqueness c primary some_role roles picked unranked =>
    refine .inr ⟨c, primary, picked, unranked, fun role listed => ?_, rfl⟩
    exact (s.predicators.find?_isSome_iff role).mp (roles role listed)
  | entity => exact .inl (.of_insert rfl rfl (.inl rfl))
  | factType id name ids objects roles =>
    rw [putRoles_eq]
    exact .inl (.of_same rfl rfl)
  | specialization child parent e parents found =>
    exact .inl (.of_insert rfl rfl (.inr ⟨e, found, rfl⟩))
  | objectification => exact .inl (.of_insert rfl rfl (.inl rfl))
  | objectRemoval id => exact .inl (.withoutObject s id)
  | factTypeRemoval id f => exact .inl (.eraseFactType s id f)
  | constraintRemoval id category => exact .inl (.withoutConstraint s id category)
  | _ => exact .inl (.of_same rfl rfl)

theorem Change.reidentified (change : Change given s t)
    (unused : ∀ id, given = some (.ok id) → id ∉ s.ids) : s.Reidentified t := by
  rcases change.reidentified_or_put with known | ⟨c, primary, picked, unranked, roles, made⟩
  · exact known
  · exact .added c primary (picked.elim (unused c.id) id) unranked roles made

namespace Schema

def IsPrimary (s : Schema) (id : String) : Prop :=
  ∃ c, s.uniqueConstraints.find? id = some c ∧ c.isPrimary = true

/-- Different ids of existing constraints, of which at most one is primary; those that are preferred
are those that are primary. -/
structure RankedOnce (s : Schema) (ids : List String) : Prop where
  distinct : ids.Nodup
  known : ∀ id ∈ ids, ∃ c, s.uniqueConstraints.find? id = some c ∧ c.id = id ∧
    c.isPreferred = c.isPrimary
  single : ∀ id ∈ ids, ∀ other ∈ ids, s.IsPrimary id → s.IsPrimary other → id = other

/-- At most one identifier of each entity is primary. -/
def IdentifiedOnce (s : Schema) : Prop :=
  ∀ key e, s.entities.find? key = some e → s.RankedOnce e.identifiers

theorem find?_uniqueConstraints_of_fresh {id : String} (fresh : id ∉ s.ids) :
    s.uniqueConstraints.find? id = none := by
  rw [OrderedMap.find?_eq_none_iff]
  exact not_mem_constraintIds fresh .uniqueness

namespace RankedOnce

variable {ids : List String}

theorem nil (s : Schema) : s.RankedOnce [] := ⟨List.nodup_nil, nofun, nofun⟩

theorem not_mem_of_fresh (once : s.RankedOnce ids) {id : String} (fresh : id ∉ s.ids) :
    id ∉ ids := by
  intro listed
  obtain ⟨c, held, _⟩ := once.known id listed
  rw [find?_uniqueConstraints_of_fresh fresh] at held
  cases held

/-- Fewer ids, of constraints that stay as they are or are demoted. -/
theorem of_fewer (once : s.RankedOnce ids) {fewer : List String} (sublist : fewer.Sublist ids)
    (kept : ∀ id ∈ fewer, t.uniqueConstraints.find? id = s.uniqueConstraints.find? id ∨
      t.uniqueConstraints.find? id = (s.uniqueConstraints.find? id).map (·.ranked false)) :
    t.RankedOnce fewer := by
  have before : ∀ id ∈ fewer, t.IsPrimary id → s.IsPrimary id := by
    rintro id listed ⟨c, held, primary⟩
    rcases kept id listed with same | demoted
    · exact ⟨c, same.symm.trans held, primary⟩
    · rw [demoted] at held
      obtain ⟨d, _, rfl⟩ := Option.map_eq_some_iff.mp held
      cases primary
  constructor
  · exact once.distinct.sublist sublist
  · intro id listed
    obtain ⟨c, held, own, preferred⟩ := once.known id (sublist.subset listed)
    rcases kept id listed with same | demoted
    · exact ⟨c, same.trans held, own, preferred⟩
    · refine ⟨c.ranked false, ?_, own, rfl⟩
      rw [demoted, held]
      rfl
  · intro id listed other too primary primary'
    exact once.single id (sublist.subset listed) other (sublist.subset too)
      (before id listed primary) (before other too primary')

/-- A new identifier becomes the only primary one, or it stays unranked. -/
theorem outcome_of_attached {c : UniqueConstraint} {key : String} {e : Entity}
    {primary : Option Bool} (apart : ∀ id ∈ e.identifiers, id ≠ c.id)
    (attached : (s.putUnique c).Attached t key c.id e primary) :
    (t.uniqueConstraints.find? c.id = some (c.ranked true) ∧
        ∀ id ∈ e.identifiers, ¬ t.IsPrimary id) ∨
      t.uniqueConstraints.find? c.id = some c := by
  by_cases promotes : (s.putUnique c).Promotes (e.identifiedBy c.id) primary
  · refine .inl ⟨?_, ?_⟩
    · rw [attached.promoted promotes, find?_putUnique]
      rfl
    · rintro id listed ⟨d, held, first⟩
      rw [attached.unranked_of_promotes promotes listed (apart id listed) held] at first
      cases first
  · exact .inr ((attached.unpromoted promotes).trans (find?_putUnique s c))

/-- One identifier more, which is new and not ranked before it is attached. -/
theorem attached {c : UniqueConstraint} {key : String} {e : Entity} {primary : Option Bool}
    (once : s.RankedOnce e.identifiers) (fresh : c.id ∉ s.ids)
    (unranked : c.isPrimary = false ∧ c.isPreferred = false)
    (attached : (s.putUnique c).Attached t key c.id e primary) :
    t.RankedOnce (e.identifiedBy c.id).identifiers := by
  have unlisted := once.not_mem_of_fresh fresh
  have apart : ∀ id ∈ e.identifiers, id ≠ c.id := fun id listed same => unlisted (same ▸ listed)
  have before : t.RankedOnce e.identifiers := by
    refine once.of_fewer (List.Sublist.refl _) fun id listed => ?_
    have same := find?_putUnique_of_ne (s := s) c (apart id listed)
    exact same ▸ attached.of_ne (apart id listed)
  have outcome := outcome_of_attached apart attached
  have members : ∀ id, id ∈ (e.identifiedBy c.id).identifiers → id ∈ e.identifiers ∨ id = c.id :=
    fun id listed => (List.mem_append.mp listed).imp_right List.mem_singleton.mp
  constructor
  · exact List.nodup_append.mpr ⟨before.distinct, List.nodup_singleton _,
      fun id listed other single => List.mem_singleton.mp single ▸ apart id listed⟩
  · intro id listed
    rcases members id listed with listed | rfl
    · exact before.known id listed
    · rcases outcome with ⟨promoted, _⟩ | kept
      · exact ⟨c.ranked true, promoted, rfl, rfl⟩
      · exact ⟨c, kept, rfl, unranked.2.trans unranked.1.symm⟩
  · intro id listed other too first second
    rcases outcome with ⟨_, rivals⟩ | kept
    · have only : ∀ i ∈ (e.identifiedBy c.id).identifiers, t.IsPrimary i → i = c.id :=
        fun i listed primary => (members i listed).resolve_left fun old => rivals i old primary
      exact (only id listed first).trans (only other too second).symm
    · have newest : ∀ i, t.IsPrimary i → i ≠ c.id := by
        rintro i ⟨d, held, primary⟩ rfl
        rw [kept] at held
        cases held
        rw [unranked.1] at primary
        cases primary
      exact before.single id ((members id listed).resolve_right (newest id first)) other
        ((members other too).resolve_right (newest other second)) first second

end RankedOnce

theorem IdentifiedOnce.attached {c : UniqueConstraint} {primary : Option Bool}
    (once : s.IdentifiedOnce) (fresh : c.id ∉ s.ids)
    (unranked : c.isPrimary = false ∧ c.isPreferred = false) :
    ((s.putUnique c).attachIdentifier c.id primary).1.IdentifiedOnce := by
  have new := find?_putUnique s c
  have apart : ∀ {key e}, s.entities.find? key = some e → ∀ id ∈ e.identifiers, id ≠ c.id :=
    fun found id listed same => (once _ _ found).not_mem_of_fresh fresh (same ▸ listed)
  cases owner : (s.putUnique c).owner? c with
  | none =>
    rw [attachIdentifier_of_no_owner new owner]
    intro key e found
    refine (once key e found).of_fewer (List.Sublist.refl _) fun id listed => .inl ?_
    exact find?_putUnique_of_ne c (apart found id listed)
  | some key =>
    obtain ⟨e, found⟩ := OrderedMap.exists_find?_of_mem_keys (owner?_eq_some.mp owner).2
    have listed := (once key e found).not_mem_of_fresh fresh
    have attached := attached_of_owner new rfl owner found listed primary
    intro other d held
    by_cases here : other = key
    · subst here
      obtain rfl := Option.some.inj (attached.entity.symm.trans held)
      exact (once other e found).attached fresh unranked attached
    · have before := (attached.otherEntities other here).symm.trans held
      refine (once other d before).of_fewer (List.Sublist.refl _) fun id listed => ?_
      have same := find?_putUnique_of_ne (s := s) c (apart before id listed)
      exact same ▸ attached.of_ne (apart before id listed)

theorem IdentifiedOnce.reidentified (once : s.IdentifiedOnce) (change : s.Reidentified t) :
    t.IdentifiedOnce := by
  cases change with
  | kept unique entities =>
    intro key e found
    rcases entities key e found with none | ⟨d, before, same⟩
    · rw [none]
      exact .nil t
    · rw [same]
      exact (once key d before).of_fewer (List.Sublist.refl _) fun id _ => .inl (by rw [unique])
  | added c primary fresh unranked _ made =>
    rw [made]
    exact once.attached fresh unranked
  | removed id others entities =>
    intro key e found
    obtain ⟨d, before, same⟩ := entities key e found
    rw [same]
    refine (once key d before).of_fewer List.erase_sublist fun other listed => .inl ?_
    have apart := ((once key d before).distinct.mem_erase_iff.mp listed).1
    exact (others other).resolve_right fun here => apart here.1

end Schema

theorem Builder.identifiedOnce_of_edits {b after : Builder} {id name version : String}
    (start : b.schema = { id := id, name := name, version := version })
    (edits : b.Edits after) : after.schema.Keyed ∧ after.schema.IdentifiedOnce := by
  induction edits with
  | none =>
    rw [start]
    exact ⟨.of_empty id name version, fun _ _ found => nomatch found⟩
  | request _ unused run ih =>
    obtain ⟨keyed, once⟩ := ih
    have change := change_of_run keyed.predicators run
    exact ⟨change.keyed keyed, once.reidentified (change.reidentified unused)⟩

end FactModel
