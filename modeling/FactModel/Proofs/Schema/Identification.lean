import FactModel.Proofs.Schema.InPlace

/-!
How a uniqueness constraint becomes an identifier: it goes to the end of the identifiers of the
entity that plays its first predicator, and where it is to be primary, it takes the place of the
primary identifiers before it.
-/

namespace FactModel

/-- The constraint as the primary and preferred identifier, or as neither. -/
def UniqueConstraint.ranked (c : UniqueConstraint) (primary : Bool) : UniqueConstraint :=
  { c with isPrimary := primary, isPreferred := primary }

/-- The entity with one more identifier, at the end. -/
def Entity.identifiedBy (e : Entity) (id : String) : Entity :=
  { e with identifiers := e.identifiers ++ [id] }

namespace Schema

def putUnique (s : Schema) (c : UniqueConstraint) : Schema :=
  { s with uniqueConstraints := s.uniqueConstraints.insert c.id c }

/-- The object that plays a role. -/
def player? (s : Schema) (role : String) : Option String :=
  (s.predicators.find? role).map (·.objectId)

variable {s : Schema} {c : UniqueConstraint} {e : Entity} {key id : String}

theorem find?_putUnique (s : Schema) (c : UniqueConstraint) :
    (s.putUnique c).uniqueConstraints.find? c.id = some c :=
  (OrderedMap.find?_insert ..).trans (if_pos rfl)

theorem find?_putUnique_of_ne (c : UniqueConstraint) (apart : id ≠ c.id) :
    (s.putUnique c).uniqueConstraints.find? id = s.uniqueConstraints.find? id :=
  (OrderedMap.find?_insert ..).trans (if_neg apart)

theorem owner?_eq_some : s.owner? c = some key ↔
    c.predicatorIds.head?.bind s.player? = some key ∧ key ∈ s.entities.keys := by
  have owner : s.owner? c = (c.predicatorIds.head?.bind s.player?).bind fun object =>
      if s.entities.contains object then some object else none := by
    unfold owner? player?
    cases c.predicatorIds.head? with
    | none => rfl
    | some first =>
      rw [Option.bind_some]
      cases found : s.predicators.find? first <;> simp [found]
  rw [owner]
  cases c.predicatorIds.head?.bind s.player? with
  | none => simp
  | some object =>
    simp only [Option.bind_some, Option.some.injEq, OrderedMap.contains_iff]
    constructor
    · intro found
      split at found
      · cases found
        exact ⟨rfl, ‹_›⟩
      · cases found
    · rintro ⟨rfl, held⟩
      exact if_pos held

theorem find?_setPrimary (s : Schema) (key : String) (primary : Bool) (id : String) :
    (s.setPrimary key primary).uniqueConstraints.find? id =
      if id = key then (s.uniqueConstraints.find? id).map (·.ranked primary)
      else s.uniqueConstraints.find? id := OrderedMap.find?_modify ..

theorem demoteIdentifiers_eq (s : Schema) (e : Entity) : s.demoteIdentifiers e =
    { s with uniqueConstraints := (s.demoteIdentifiers e).uniqueConstraints } := by
  unfold demoteIdentifiers
  induction e.identifiers generalizing s with
  | nil => rfl
  | cons first rest ih => exact ih _

theorem find?_demoteIdentifiers (s : Schema) (e : Entity) (id : String) :
    (s.demoteIdentifiers e).uniqueConstraints.find? id =
      if id ∈ e.identifiers then (s.uniqueConstraints.find? id).map (·.ranked false)
      else s.uniqueConstraints.find? id := by
  unfold demoteIdentifiers
  induction e.identifiers generalizing s with
  | nil => rfl
  | cons first rest ih =>
    rw [List.foldl_cons, ih, find?_setPrimary]
    by_cases later : id ∈ rest
    · by_cases here : id = first
      · simp [here, Function.comp_def, UniqueConstraint.ranked]
      · simp [here]
    · simp [later]

theorem primaryIdentifier?_eq_none : s.primaryIdentifier? e = none ↔
    ∀ id ∈ e.identifiers, ∀ c, s.uniqueConstraints.find? id = some c → c.isPrimary = false := by
  simp only [primaryIdentifier?, identifiersOf, List.find?_eq_none, List.mem_filterMap,
    forall_exists_index, and_imp, Bool.not_eq_true]
  exact ⟨fun none id listed c found => none c id listed found,
    fun none c id listed found => none id listed c found⟩

/-- The wish about the newest identifier of an entity makes it primary: it is asked for, or nothing
is said and none is primary yet. -/
def Promotes (s : Schema) (e : Entity) : Option Bool → Prop
  | some primary => primary = true
  | none => s.primaryIdentifier? e = none

/-- What changes where a constraint becomes the last identifier of an entity. -/
structure Attached (s t : Schema) (key id : String) (e : Entity) (primary : Option Bool) :
    Prop where
  entity : t.entities.find? key = some (e.identifiedBy id)
  otherEntities : ∀ other, other ≠ key → t.entities.find? other = s.entities.find? other
  promoted : s.Promotes (e.identifiedBy id) primary →
    t.uniqueConstraints.find? id = (s.uniqueConstraints.find? id).map (·.ranked true)
  unpromoted : ¬ s.Promotes (e.identifiedBy id) primary →
    t.uniqueConstraints.find? id = s.uniqueConstraints.find? id
  demoted : primary = some true → ∀ other ∈ e.identifiers, other ≠ id →
    t.uniqueConstraints.find? other = (s.uniqueConstraints.find? other).map (·.ranked false)
  apart : ∀ other, other ≠ id → (primary = some true → other ∉ e.identifiers) →
    t.uniqueConstraints.find? other = s.uniqueConstraints.find? other

theorem find?_listIdentifier_of_new (entity : s.entities.find? key = some e)
    (new : id ∉ e.identifiers) (other : String) :
    (s.listIdentifier key id).entities.find? other =
      if other = key then some (e.identifiedBy id) else s.entities.find? other := by
  have unlisted : e.identifiers.contains id = false := by simpa using new
  refine (OrderedMap.find?_modify ..).trans ?_
  by_cases here : other = key
  · subst here
    simp only [entity, if_true, Option.map_some, unlisted, Bool.false_eq_true, if_false]
    rfl
  · rw [if_neg here, if_neg here]

theorem attachIdentifier_of_owner (held : s.uniqueConstraints.find? id = some c) (own : c.id = id)
    (owner : s.owner? c = some key) (entity : s.entities.find? key = some e)
    (new : id ∉ e.identifiers) (primary : Option Bool) :
    (s.attachIdentifier id primary).1 =
      match primary with
      | some true =>
        ((s.listIdentifier key id).demoteIdentifiers (e.identifiedBy id)).setPrimary id true
      | some false => s.listIdentifier key id
      | none =>
        if (s.primaryIdentifier? (e.identifiedBy id)).isNone then
          (s.listIdentifier key id).setPrimary id true
        else s.listIdentifier key id := by
  have here := (find?_listIdentifier_of_new entity new key).trans (if_pos rfl)
  unfold attachIdentifier
  simp only [held, owner, own, here]
  rcases primary with _ | (_ | _)
  · exact apply_ite Prod.fst _ _ _
  · rfl
  · rfl

/-- The identifiers before are demoted, then the newest one is promoted. -/
theorem find?_demoteIdentifiers_setPrimary (s : Schema) (e : Entity) (id other : String) :
    ((s.demoteIdentifiers (e.identifiedBy id)).setPrimary id true).uniqueConstraints.find? other =
      if other = id then (s.uniqueConstraints.find? other).map (·.ranked true)
      else if other ∈ e.identifiers then (s.uniqueConstraints.find? other).map (·.ranked false)
      else s.uniqueConstraints.find? other := by
  rw [find?_setPrimary, find?_demoteIdentifiers]
  by_cases here : other = id
  · simp only [here, Entity.identifiedBy, List.mem_append, List.mem_singleton, or_true, if_true,
      Option.map_map]
    rfl
  · simp [here, Entity.identifiedBy]

theorem attached_of_owner (held : s.uniqueConstraints.find? id = some c) (own : c.id = id)
    (owner : s.owner? c = some key) (entity : s.entities.find? key = some e)
    (new : id ∉ e.identifiers) (primary : Option Bool) :
    s.Attached (s.attachIdentifier id primary).1 key id e primary := by
  have listed := find?_listIdentifier_of_new entity new
  have here := (listed key).trans (if_pos rfl)
  have elsewhere := fun other (apart : other ≠ key) => (listed other).trans (if_neg apart)
  rw [attachIdentifier_of_owner held own owner entity new]
  rcases primary with _ | (_ | _)
  · have ranked := find?_setPrimary (s.listIdentifier key id) id true
    dsimp only
    split
    · rename_i first
      have promotes : s.Promotes (e.identifiedBy id) none := Option.isNone_iff_eq_none.mp first
      refine ⟨here, elsewhere, fun _ => (ranked id).trans (if_pos rfl), absurd promotes, nofun, ?_⟩
      exact fun other apart _ => (ranked other).trans (if_neg apart)
    · rename_i later
      have keeps : ¬ s.Promotes (e.identifiedBy id) none :=
        fun first => later (Option.isNone_iff_eq_none.mpr first)
      exact ⟨here, elsewhere, fun promotes => absurd promotes keeps, fun _ => rfl, nofun,
        fun _ _ _ => rfl⟩
  · exact ⟨here, elsewhere, nofun, fun _ => rfl, nofun, fun _ _ _ => rfl⟩
  · have ranked := find?_demoteIdentifiers_setPrimary (s.listIdentifier key id) e id
    have entities := congrArg Schema.entities
      (demoteIdentifiers_eq (s.listIdentifier key id) (e.identifiedBy id))
    constructor
    · exact (congrArg (·.find? key) entities).trans here
    · exact fun other apart => (congrArg (·.find? other) entities).trans (elsewhere other apart)
    · exact fun _ => (ranked id).trans (if_pos rfl)
    · exact fun keeps => absurd rfl keeps
    · intro _ other listed apart
      exact (ranked other).trans ((if_neg apart).trans (if_pos listed))
    · intro other apart unlisted
      exact (ranked other).trans ((if_neg apart).trans (if_neg (unlisted rfl)))

/-- Another constraint stays as it is, or it is demoted. -/
theorem Attached.of_ne {t : Schema} {primary : Option Bool}
    (attached : s.Attached t key id e primary)
    {other : String} (apart : other ≠ id) :
    t.uniqueConstraints.find? other = s.uniqueConstraints.find? other ∨
      t.uniqueConstraints.find? other = (s.uniqueConstraints.find? other).map (·.ranked false) := by
  by_cases demoted : primary = some true ∧ other ∈ e.identifiers
  · exact .inr (attached.demoted demoted.1 other demoted.2 apart)
  · exact .inl (attached.apart other apart fun asked listed => demoted ⟨asked, listed⟩)

/-- A constraint that is made primary has no rival among the identifiers before it. -/
theorem Attached.unranked_of_promotes {t : Schema} {primary : Option Bool}
    (attached : s.Attached t key id e primary) (promotes : s.Promotes (e.identifiedBy id) primary)
    {other : String} (listed : other ∈ e.identifiers) (apart : other ≠ id) {d : UniqueConstraint}
    (found : t.uniqueConstraints.find? other = some d) : d.isPrimary = false := by
  rcases primary with _ | (_ | _)
  · rw [attached.apart other apart nofun] at found
    exact primaryIdentifier?_eq_none.mp promotes other (List.mem_append_left _ listed) d found
  · cases promotes
  · rw [attached.demoted rfl other listed apart] at found
    obtain ⟨_, _, rfl⟩ := Option.map_eq_some_iff.mp found
    rfl

theorem attachIdentifier_of_no_owner (held : s.uniqueConstraints.find? id = some c)
    (none : s.owner? c = none) (primary : Option Bool) :
    (s.attachIdentifier id primary).1 = s := by
  simp only [attachIdentifier, held, none]

end Schema

end FactModel
