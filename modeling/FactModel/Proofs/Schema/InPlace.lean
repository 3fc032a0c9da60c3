import FactModel.Proofs.Schema.Keyed

/-!
Elements that change in place and keep their ids: entities and uniqueness constraints where
identifiers are listed and made primary, predicators where roles get their positions.
-/

namespace FactModel

namespace Schema

variable {s t u : Schema}

theorem Keyed.of_empty (id name version : String) :
    Keyed { id := id, name := name, version := version } := by
  constructor <;> exact .empty

/-- Entities and uniqueness constraints that changed in place, and keep their ids. -/
def Relinked (s t : Schema) : Prop :=
  ∃ (f : String → Entity → Entity) (g : String → UniqueConstraint → UniqueConstraint),
    (∀ key e, (f key e).id = e.id) ∧ (∀ key c, (g key c).id = c.id) ∧
    t = { s with
      entities := s.entities.mapValues f
      uniqueConstraints := s.uniqueConstraints.mapValues g }

namespace Relinked

theorem refl (s : Schema) : s.Relinked s :=
  ⟨fun _ e => e, fun _ c => c, fun _ _ => rfl, fun _ _ => rfl, by simp⟩

theorem trans (first : s.Relinked t) (second : t.Relinked u) : s.Relinked u := by
  obtain ⟨f, g, sameEntity, sameUnique, rfl⟩ := first
  obtain ⟨f', g', sameEntity', sameUnique', rfl⟩ := second
  refine ⟨fun key e => f' key (f key e), fun key c => g' key (g key c), ?_, ?_, ?_⟩
  · exact fun key e => (sameEntity' key _).trans (sameEntity key e)
  · exact fun key c => (sameUnique' key _).trans (sameUnique key c)
  · simp only [OrderedMap.mapValues_mapValues]

theorem of_entities (s : Schema) {f : String → Entity → Entity}
    (same : ∀ key e, (f key e).id = e.id) :
    s.Relinked { s with entities := s.entities.mapValues f } :=
  ⟨f, fun _ c => c, same, fun _ _ => rfl, by simp⟩

theorem of_uniqueConstraints (s : Schema) {g : String → UniqueConstraint → UniqueConstraint}
    (same : ∀ key c, (g key c).id = c.id) :
    s.Relinked { s with uniqueConstraints := s.uniqueConstraints.mapValues g } :=
  ⟨fun _ e => e, g, fun _ _ => rfl, same, by simp⟩

theorem setPrimary (s : Schema) (key : String) (primary : Bool) :
    s.Relinked (s.setPrimary key primary) := by
  refine of_uniqueConstraints s fun other c => ?_
  split <;> rfl

theorem listIdentifier (s : Schema) (entity constraint : String) :
    s.Relinked (s.listIdentifier entity constraint) := by
  refine of_entities s fun other e => ?_
  by_cases named : other = entity <;> by_cases known : e.identifiers.contains constraint = true <;>
    simp only [named, known, if_true] <;> rfl

theorem demoteIdentifiers (s : Schema) (e : Entity) : s.Relinked (s.demoteIdentifiers e) := by
  unfold Schema.demoteIdentifiers
  induction e.identifiers generalizing s with
  | nil => exact refl s
  | cons id rest ih => exact (setPrimary s id false).trans (ih _)

theorem attachIdentifier (s : Schema) (key : String) (primary : Option Bool) :
    s.Relinked (s.attachIdentifier key primary).1 := by
  unfold Schema.attachIdentifier
  split
  · exact refl s
  · rename_i c _
    split
    · exact refl s
    · rename_i owner _
      have listed := listIdentifier s owner c.id
      dsimp only
      split
      · exact listed
      · rename_i e _
        split
        · exact listed.trans ((demoteIdentifiers _ e).trans (setPrimary _ key true))
        · exact listed
        · split
          · exact listed.trans (setPrimary _ key true)
          · exact listed

theorem keyed (relinked : s.Relinked t) (keyed : s.Keyed) : t.Keyed := by
  obtain ⟨f, g, sameEntity, sameUnique, rfl⟩ := relinked
  exact { keyed with
    entities := keyed.entities.mapValues sameEntity
    uniqueConstraints := keyed.uniqueConstraints.mapValues sameUnique }

theorem hasObject (relinked : s.Relinked t) (id : String) : t.hasObject id = s.hasObject id := by
  obtain ⟨f, g, _, _, rfl⟩ := relinked
  simp [Schema.hasObject, OrderedMap.contains, OrderedMap.find?_mapValues]

theorem factTypes (relinked : s.Relinked t) : t.factTypes = s.factTypes := by
  obtain ⟨f, g, _, _, rfl⟩ := relinked
  rfl

theorem keys_entities (relinked : s.Relinked t) : t.entities.keys = s.entities.keys := by
  obtain ⟨f, g, _, _, rfl⟩ := relinked
  exact OrderedMap.keys_mapValues ..

theorem keys_uniqueConstraints (relinked : s.Relinked t) :
    t.uniqueConstraints.keys = s.uniqueConstraints.keys := by
  obtain ⟨f, g, _, _, rfl⟩ := relinked
  exact OrderedMap.keys_mapValues ..

theorem exists_uniqueConstraint (relinked : s.Relinked t) {key : String} {c : UniqueConstraint}
    (held : s.uniqueConstraints.find? key = some c) :
    ∃ d, t.uniqueConstraints.find? key = some d ∧ d.id = c.id := by
  obtain ⟨f, g, _, same, rfl⟩ := relinked
  refine ⟨g key c, ?_, same key c⟩
  rw [OrderedMap.find?_mapValues, held, Option.map_some]

theorem predicators (relinked : s.Relinked t) : t.predicators = s.predicators := by
  obtain ⟨f, g, _, _, rfl⟩ := relinked
  rfl

theorem totalRoleConstraints (relinked : s.Relinked t) :
    t.totalRoleConstraints = s.totalRoleConstraints := by
  obtain ⟨f, g, _, _, rfl⟩ := relinked
  rfl

end Relinked

/-! Positions of the roles of a fact type -/

/-- The fact type of a role and its player. -/
def side (r : Predicator) : String × String := (r.factTypeId, r.objectId)

/-- The predicators with consecutive positions from `n` on. -/
def placeFrom (m : OrderedMap Predicator) (ids : List String) (n : Nat) : OrderedMap Predicator :=
  (ids.zipIdx n).foldl (fun m pair => m.modify pair.1 fun p => { p with position := pair.2 }) m

theorem setPositions_eq (ids : List String) :
    s.setPositions ids = { s with predicators := placeFrom s.predicators ids 0 } := rfl

theorem placeFrom_cons (m : OrderedMap Predicator) (id : String) (rest : List String) (n : Nat) :
    placeFrom m (id :: rest) n =
      placeFrom (m.modify id fun p => { p with position := n }) rest (n + 1) := rfl

theorem keys_placeFrom (m : OrderedMap Predicator) (ids : List String) (n : Nat) :
    (placeFrom m ids n).keys = m.keys := by
  induction ids generalizing m n with
  | nil => rfl
  | cons id rest ih => rw [placeFrom_cons, ih, OrderedMap.keys_modify]

theorem keyed_placeFrom {m : OrderedMap Predicator} (keyed : m.KeyedBy Predicator.id)
    (ids : List String) (n : Nat) : (placeFrom m ids n).KeyedBy Predicator.id := by
  induction ids generalizing m n with
  | nil => exact keyed
  | cons id rest ih =>
    rw [placeFrom_cons]
    apply ih
    exact keyed.modify id fun _ => rfl

theorem find?_placeFrom_of_not_mem (m : OrderedMap Predicator) {ids : List String} (n : Nat)
    {key : String} (other : key ∉ ids) : (placeFrom m ids n).find? key = m.find? key := by
  induction ids generalizing m n with
  | nil => rfl
  | cons id rest ih =>
    rw [List.mem_cons, not_or] at other
    rw [placeFrom_cons, ih _ _ other.2, OrderedMap.find?_modify, if_neg other.1]

theorem find?_placeFrom (m : OrderedMap Predicator) {ids : List String} (distinct : ids.Nodup)
    (n : Nat) {key : String} {i : Nat} (here : ids[i]? = some key) :
    (placeFrom m ids n).find? key =
      (m.find? key).map fun p => { p with position := (n + i : Nat) } := by
  induction ids generalizing m n i with
  | nil => simp at here
  | cons id rest ih =>
    rw [List.nodup_cons] at distinct
    rw [placeFrom_cons]
    cases i with
    | zero =>
      obtain rfl : id = key := by simpa using here
      rw [find?_placeFrom_of_not_mem _ _ distinct.1, OrderedMap.find?_modify, if_pos rfl]
      rfl
    | succ i =>
      have later : rest[i]? = some key := by simpa using here
      have apart : key ≠ id := fun same => distinct.1 (same ▸ List.mem_of_getElem? later)
      rw [ih _ distinct.2 _ later, OrderedMap.find?_modify, if_neg apart]
      congr 2
      rw [Nat.add_assoc, Nat.add_comm 1 i]

theorem map_find?_placeFrom {β : Type} {g : Predicator → β} (m : OrderedMap Predicator)
    (ids : List String) (n : Nat) (key : String)
    (same : ∀ r (position : Int), g { r with position := position } = g r) :
    ((placeFrom m ids n).find? key).map g = (m.find? key).map g := by
  induction ids generalizing m n with
  | nil => rfl
  | cons id rest ih =>
    rw [placeFrom_cons, ih]
    exact OrderedMap.map_find?_modify m id key fun r => same r n

end Schema

end FactModel
