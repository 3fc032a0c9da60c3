import FactModel.Proofs.Builder.KeyedRuns
import FactModel.Proofs.Lists
import FactModel.Proofs.Schema.Arranged

/-!
Editing keeps fact types and their roles together.
-/

namespace FactModel

namespace Schema

variable {s t : Schema}

theorem Arranged.relaxRole (arranged : s.Arranged) (key : String) :
    (s.relaxRole key).Arranged := by
  unfold Schema.relaxRole
  split
  · exact arranged
  · exact arranged.relax key true

theorem Arranged.withoutConstraint (arranged : s.Arranged) (id : String)
    (category : ConstraintCategory) : (s.withoutConstraint id category).Arranged := by
  have erased : (s.eraseConstraint id category).Arranged := by
    cases category <;> exact arranged.of_same (fun _ => rfl) (fun _ => rfl) fun _ found => found
  have unlisted := (Relinked.unlistIdentifier _ id).arranged erased
  unfold Schema.withoutConstraint
  split
  · exact unlisted.relaxRole _
  · exact unlisted

/-! A new fact type -/

theorem object?_id (keyed : s.Keyed) {id : String} {o : ObjectType}
    (found : s.object? id = some o) : o.id = id := by
  unfold object? at found
  cases entity : s.entities.find? id with
  | some e =>
    simp only [entity, Option.map_some, Option.orElse_some, Option.some.injEq] at found
    exact found ▸ keyed.entities.id_of_find? entity
  | none =>
    cases label : s.labelTypes.find? id with
    | some l =>
      simp [Option.orElse, entity, label] at found
      exact found ▸ keyed.labelTypes.id_of_find? label
    | none =>
      cases power : s.powerTypes.find? id with
      | some p =>
        simp [Option.orElse, entity, label, power] at found
        exact found ▸ keyed.powerTypes.id_of_find? power
      | none =>
        cases sequence : s.sequenceTypes.find? id with
        | some q =>
          simp [Option.orElse, entity, label, power, sequence] at found
          exact found ▸ keyed.sequenceTypes.id_of_find? sequence
        | none => simp [Option.orElse, entity, label, power, sequence] at found

theorem InOrder.addFactType (inOrder : s.InOrder) {id name : String} (fresh : id ∉ s.ids)
    {objects : List ObjectType} {roles : List Predicator}
    (new : NewRoles id s 0 objects roles) :
    InOrder { s.putRoles roles with
      factTypes := s.factTypes.insert id ⟨id, name, roles.map (·.id), false, none⟩ } := by
  constructor
  · intro other f held
    rcases OrderedMap.find?_insert_eq_some.mp held with ⟨_, rfl⟩ | ⟨_, old⟩
    · exact new.distinct
    · exact inOrder.distinct other f old
  · intro other f i key held here
    rcases OrderedMap.find?_insert_eq_some.mp held with ⟨rfl, rfl⟩ | ⟨_, old⟩
    · rw [List.getElem?_map] at here
      obtain ⟨r, place, rfl⟩ := Option.map_eq_some_iff.mp here
      have member := List.mem_of_getElem? place
      have position := new.position_eq place
      rw [Nat.zero_add] at position
      exact ⟨r, new.find?_eq member, new.owner r member, position⟩
    · obtain ⟨r, role, owner, position⟩ := inOrder.placed other f i key old here
      exact ⟨r, new.find?_putRoles_iff.mpr (.inr role), owner, position⟩
  · intro key r held
    rcases new.find?_putRoles_iff.mp held with ⟨member, rfl⟩ | old
    · have owner := new.owner r member
      exact ⟨_, OrderedMap.find?_insert_eq_some.mpr (.inl ⟨owner, rfl⟩),
        List.mem_map_of_mem member⟩
    · obtain ⟨f, owner, listed⟩ := inOrder.listed key r old
      have apart : r.factTypeId ≠ id := by
        rintro rfl
        exact fresh (mem_ids_of_mem_factTypes (OrderedMap.mem_keys_of_find? owner))
      exact ⟨f, OrderedMap.find?_insert_eq_some.mpr (.inr ⟨apart, owner⟩), listed⟩

theorem Arranged.addFactType (arranged : s.Arranged) (keyed : s.Keyed) {id name : String}
    (fresh : id ∉ s.ids) {ids : List GivenId} {objects : List ObjectType}
    {roles : List Predicator}
    (found : List.Forall₂ (fun id o => s.object? id.shown = some o) ids objects)
    (new : NewRoles id s 0 objects roles) :
    Arranged { s.putRoles roles with
      factTypes := s.factTypes.insert id ⟨id, name, roles.map (·.id), false, none⟩ } := by
  have objectsKept : ∀ key, ((s.putRoles roles).object? key).isSome = (s.object? key).isSome := by
    rw [putRoles_eq]
    exact fun _ => rfl
  refine ⟨arranged.toInOrder.addFactType fresh new, fun key r held => ?_⟩
  show ((s.putRoles roles).object? r.objectId).isSome = true
  rw [objectsKept]
  rcases new.find?_putRoles_iff.mp held with ⟨member, rfl⟩ | old
  · obtain ⟨o, listed, same⟩ := new.player r member
    obtain ⟨given, _, here⟩ := exists_of_forall₂ found listed
    rw [same, object?_id keyed here, here]
    rfl
  · exact arranged.played key r old

/-! A fact type that goes -/

theorem Arranged.eraseFactType (arranged : s.Arranged) {id : String} {f : FactType}
    (found : s.factTypes.find? id = some f) : (s.eraseFactType id f).Arranged := by
  have kept : ∀ key r, (s.eraseFactType id f).predicators.find? key = some r ↔
      s.predicators.find? key = some r ∧ r.factTypeId ≠ id := by
    intro key r
    show (f.predicators.foldl OrderedMap.erase s.predicators).find? key = some r ↔ _
    rw [OrderedMap.find?_foldl_erase]
    constructor
    · intro held
      split at held
      · cases held
      · rename_i unlisted
        exact ⟨held, fun owner => unlisted ((arranged.mem_iff found held).mpr owner)⟩
    · rintro ⟨held, apart⟩
      rw [if_neg fun listed => apart ((arranged.mem_iff found held).mp listed), held]
  have others : ∀ other g, (s.eraseFactType id f).factTypes.find? other = some g ↔
      s.factTypes.find? other = some g ∧ other ≠ id := by
    intro other g
    show (s.factTypes.erase id).find? other = some g ↔ _
    rw [OrderedMap.find?_erase]
    by_cases same : other = id
    · simp [same]
    · simp [same]
  constructor
  · constructor
    · intro other g held
      exact arranged.distinct other g ((others other g).mp held).1
    · intro other g i key held here
      obtain ⟨old, apart⟩ := (others other g).mp held
      obtain ⟨r, role, owner, position⟩ := arranged.placed other g i key old here
      exact ⟨r, (kept key r).mpr ⟨role, owner ▸ apart⟩, owner, position⟩
    · intro key r held
      obtain ⟨old, apart⟩ := (kept key r).mp held
      obtain ⟨g, owner, listed⟩ := arranged.listed key r old
      exact ⟨g, (others _ g).mpr ⟨owner, apart⟩, listed⟩
  · intro key r held
    have entities : s.entities.keys ⊆ (s.eraseFactType id f).entities.keys := by
      simp [Schema.eraseFactType]
    refine object?_isSome_mono entities ?_ ?_ ?_ _ (arranged.played key r ((kept key r).mp held).1)
    all_goals exact List.Subset.refl _

/-! An object that goes -/

theorem InOrder.find?_dropRole_of_apart (inOrder : s.InOrder) {r q : Predicator} {f : FactType}
    {key : String} (fact : s.factTypes.find? r.factTypeId = some f)
    (listed : r.id ∈ f.predicators) (found : s.predicators.find? key = some q)
    (apart : q.factTypeId ≠ r.factTypeId) :
    (s.dropRole r).predicators.find? key = some q := by
  have unlisted : key ∉ f.predicators := fun member =>
    apart ((inOrder.mem_iff fact found).mp member)
  have other : key ≠ r.id := by
    rintro rfl
    exact unlisted listed
  rw [dropRole_of_listed fact listed]
  dsimp only
  rw [find?_placeFrom_of_not_mem _ _ fun member => unlisted (List.mem_of_mem_erase member),
    OrderedMap.find?_erase, if_neg other, found]

/-- The other roles of the fact type move up into the place of the role. -/
theorem InOrder.find?_dropRole_of_place (inOrder : s.InOrder) {r : Predicator} {f : FactType}
    {i : Nat} {key : String} (fact : s.factTypes.find? r.factTypeId = some f)
    (listed : r.id ∈ f.predicators) (here : (f.predicators.erase r.id)[i]? = some key) :
    ∃ q, (s.dropRole r).predicators.find? key = some q ∧ q.factTypeId = r.factTypeId ∧
      q.position = (i : Int) := by
  have distinct := inOrder.distinct _ f fact
  obtain ⟨other, before⟩ := distinct.mem_erase_iff.mp (List.mem_of_getElem? here)
  obtain ⟨j, there⟩ := List.getElem?_of_mem before
  obtain ⟨q, held, owner, _⟩ := inOrder.placed _ f j key fact there
  refine ⟨{ q with position := (i : Int) }, ?_, owner, rfl⟩
  rw [dropRole_of_listed fact listed]
  dsimp only
  rw [find?_placeFrom _ (distinct.erase r.id) 0 here, OrderedMap.find?_erase, if_neg other, held,
    Nat.zero_add]
  rfl

theorem InOrder.dropRole (inOrder : s.InOrder) {r r' : Predicator}
    (found : s.predicators.find? r.id = some r') (owner : r'.factTypeId = r.factTypeId) :
    (s.dropRole r).InOrder := by
  obtain ⟨f, fact, listed⟩ := inOrder.listed r.id r' found
  rw [owner] at fact
  have facts : (s.dropRole r).factTypes = s.factTypes.insert r.factTypeId
      { f with predicators := f.predicators.erase r.id } := by rw [dropRole_of_listed fact listed]
  have distinct := inOrder.distinct _ f fact
  constructor
  · intro id g held
    rw [facts] at held
    rcases OrderedMap.find?_insert_eq_some.mp held with ⟨_, rfl⟩ | ⟨_, old⟩
    · exact distinct.erase r.id
    · exact inOrder.distinct id g old
  · intro id g i key held here
    rw [facts] at held
    rcases OrderedMap.find?_insert_eq_some.mp held with ⟨rfl, rfl⟩ | ⟨apart, old⟩
    · exact inOrder.find?_dropRole_of_place fact listed here
    · obtain ⟨q, role, mine, position⟩ := inOrder.placed id g i key old here
      exact ⟨q, inOrder.find?_dropRole_of_apart fact listed role (mine ▸ apart), mine, position⟩
  · intro key q held
    have same := map_find?_dropRole (g := side) (fun _ _ => rfl) s r key
    rw [held] at same
    split at same
    · cases same
    rename_i other
    obtain ⟨old, before, equal⟩ := Option.map_eq_some_iff.mp same.symm
    simp only [side, Prod.mk.injEq] at equal
    obtain ⟨g, fact', member⟩ := inOrder.listed key old before
    rw [equal.1] at fact'
    rw [facts, OrderedMap.find?_insert]
    by_cases mine : q.factTypeId = r.factTypeId
    · rw [mine, fact] at fact'
      cases fact'
      exact ⟨_, if_pos mine, distinct.mem_erase_iff.mpr ⟨other, member⟩⟩
    · exact ⟨g, (if_neg mine).trans fact', member⟩

theorem InOrder.dropRoles (inOrder : s.InOrder) {roles : List Predicator}
    (distinct : (roles.map (·.id)).Nodup)
    (held : ∀ r ∈ roles, (s.predicators.find? r.id).map side = some (side r)) :
    (s.dropRoles roles).InOrder := by
  induction roles generalizing s with
  | nil => exact inOrder
  | cons r rest ih =>
    rw [List.map_cons, List.nodup_cons] at distinct
    rw [List.forall_mem_cons] at held
    obtain ⟨r', found, same⟩ := Option.map_eq_some_iff.mp held.1
    simp only [side, Prod.mk.injEq] at same
    refine ih (inOrder.dropRole found same.1) distinct.2 fun other later => ?_
    have apart : other.id ≠ r.id := fun same => distinct.1 (same ▸ List.mem_map_of_mem later)
    rw [map_find?_dropRole fun _ _ => rfl, if_neg apart]
    exact held.2 other later

theorem Arranged.withoutObject (arranged : s.Arranged) (keyed : s.Keyed) (id : String) :
    (s.withoutObject id).Arranged := by
  have erased : (s.eraseObject id).InOrder :=
    ⟨arranged.distinct, arranged.placed, arranged.listed⟩
  have distinct : ((s.played id).map (·.id)).Nodup :=
    keyed.predicators.nodup_ids.sublist (List.Sublist.map _ List.filter_sublist)
  constructor
  · refine erased.dropRoles distinct fun r member => ?_
    have found := keyed.predicators.find?_id (List.mem_of_mem_filter member)
    show (s.predicators.find? r.id).map side = _
    rw [found]
    rfl
  · intro key r held
    have same := side_dropRoles (s.eraseObject id) (s.played id) key
    rw [Schema.withoutObject] at held
    rw [held] at same
    split at same
    · cases same
    · rename_i kept
      obtain ⟨old, before, equal⟩ := Option.map_eq_some_iff.mp same.symm
      simp only [side, Prod.mk.injEq] at equal
      have before : s.predicators.find? key = some old := before
      have other : old.objectId ≠ id := by
        intro plays
        have member : old ∈ s.played id := List.mem_filter.mpr
          ⟨OrderedMap.mem_values_of_find? before, by simpa using plays⟩
        exact kept (List.mem_map.mpr ⟨old, member, keyed.predicators.id_of_find? before⟩)
      rw [Schema.withoutObject, object?_dropRoles, ← equal.2, object?_isSome_iff]
      have player := arranged.played key old before
      rw [object?_isSome_iff] at player
      simp only [hasObject, eraseObject, OrderedMap.contains, OrderedMap.find?_erase,
        if_neg other] at player ⊢
      exact player

end Schema

open Schema

variable {s t : Schema} {given : Option (Reading String)}

theorem Change.arranged (change : Change given s t) (keyed : s.Keyed) (arranged : s.Arranged)
    (unused : ∀ id, given = some (.ok id) → id ∉ s.ids) : t.Arranged := by
  have same : ∀ id, (s.object? id).isSome = true → (s.object? id).isSome = true :=
    fun _ found => found
  have entitiesGrow : ∀ (id : String) (e : Entity),
      Arranged { s with entities := s.entities.insert id e } := fun id e =>
    arranged.of_same (fun _ => rfl) (fun _ => rfl) <|
      object?_isSome_mono (OrderedMap.keys_subset_insert ..) (List.Subset.refl _)
        (List.Subset.refl _) (List.Subset.refl _)
  cases change with
  | nothing => exact arranged
  | entity => exact entitiesGrow _ _
  | labelType =>
    exact arranged.of_same (fun _ => rfl) (fun _ => rfl) <|
      object?_isSome_mono (List.Subset.refl _) (OrderedMap.keys_subset_insert ..)
        (List.Subset.refl _) (List.Subset.refl _)
  | powerType =>
    exact arranged.of_same (fun _ => rfl) (fun _ => rfl) <|
      object?_isSome_mono (List.Subset.refl _) (List.Subset.refl _)
        (OrderedMap.keys_subset_insert ..) (List.Subset.refl _)
  | sequenceType =>
    exact arranged.of_same (fun _ => rfl) (fun _ => rfl) <|
      object?_isSome_mono (List.Subset.refl _) (List.Subset.refl _) (List.Subset.refl _)
        (OrderedMap.keys_subset_insert ..)
  | factType id name ids objects roles picked found new =>
    have fresh : id ∉ s.ids := by
      rcases picked with chosen | fresh
      · exact unused id chosen
      · exact fresh
    exact arranged.addFactType keyed fresh found new
  | specialization => exact entitiesGrow _ _
  | objectification factType id name =>
    refine (entitiesGrow id _).of_same (fun other => ?_) (fun _ => rfl) fun _ found => found
    exact OrderedMap.map_find?_modify s.factTypes factType other fun _ => rfl
  | uniqueness c primary =>
    refine (Relinked.attachIdentifier _ c.id primary).arranged ?_
    exact arranged.of_same (fun _ => rfl) (fun _ => rfl) same
  | totalRole c =>
    exact (arranged.relax c.predicatorId false).of_same (fun _ => rfl) (fun _ => rfl) same
  | set => exact arranged.of_same (fun _ => rfl) (fun _ => rfl) same
  | cardinality => exact arranged.of_same (fun _ => rfl) (fun _ => rfl) same
  | frequency => exact arranged.of_same (fun _ => rfl) (fun _ => rfl) same
  | enumeration => exact arranged.of_same (fun _ => rfl) (fun _ => rfl) same
  | custom => exact arranged.of_same (fun _ => rfl) (fun _ => rfl) same
  | objectRemoval id => exact arranged.withoutObject keyed id
  | factTypeRemoval id f found => exact arranged.eraseFactType found
  | constraintRemoval id category => exact arranged.withoutConstraint id category

namespace Builder

/-- Requests that succeed one after the other, where an id that is given is the id of no element
at that time. -/
inductive Edits (b : Builder) : Builder → Prop
  | none : Edits b b
  | request {before after : Builder} {name : String} {f : Fields} {v : Value}
      (edits : Edits b before)
      (unused : ∀ id, f.given? "id" = some (.ok id) → id ∉ before.schema.ids)
      (run : before.run name f = (.ok v, after)) : Edits b after

/-- The requests succeed, and an id that one of them gives is the id of no element then. -/
def admits (b : Builder) : List (String × Fields) → Bool
  | [] => true
  | (name, f) :: rest =>
    (match f.given? "id" with
      | some (.ok given) => !b.schema.ids.contains given
      | _ => true) &&
    (b.run name f).1.isOk && admits (b.run name f).2 rest

theorem of_admits {name : String} {f : Fields} {rest : List (String × Fields)} {b : Builder}
    (admits : b.admits ((name, f) :: rest) = true) :
    (∀ id, f.given? "id" = some (.ok id) → id ∉ b.schema.ids) ∧
      (∃ v, b.run name f = (.ok v, (b.run name f).2)) ∧ (b.run name f).2.admits rest = true := by
  rw [Builder.admits, Bool.and_eq_true, Bool.and_eq_true] at admits
  obtain ⟨⟨unused, succeeds⟩, later⟩ := admits
  refine ⟨fun key given held => ?_, ?_, later⟩
  · simp only [given, List.contains_eq_mem, held, decide_true, Bool.not_true] at unused
    cases unused
  · rcases outcome : b.run name f with ⟨error | v, after⟩
    · rw [outcome] at succeeds
      exact nomatch succeeds
    · exact ⟨v, rfl⟩

theorem Edits.admitted {b before : Builder} {requests : List (String × Fields)}
    (edits : b.Edits before) (admits : before.admits requests = true) :
    b.Edits (before.runAll requests) := by
  induction requests generalizing before with
  | nil => exact edits
  | cons request rest ih =>
    obtain ⟨unused, ⟨v, run⟩, later⟩ := of_admits admits
    exact ih (edits.request unused run) later

/-- Editing an empty schema keeps fact types and roles together. -/
theorem arranged_of_edits {b after : Builder} {id name version : String}
    (start : b.schema = { id := id, name := name, version := version })
    (edits : b.Edits after) : after.schema.Keyed ∧ after.schema.Arranged := by
  induction edits with
  | none =>
    rw [start]
    exact ⟨.of_empty id name version, .of_empty id name version⟩
  | request _ unused run ih =>
    obtain ⟨keyed, arranged⟩ := ih
    have change := change_of_run keyed.predicators run
    exact ⟨change.keyed keyed, change.arranged keyed arranged unused⟩

/-- Parts that are made of parts under a number; the numbers are dropped again. -/
def assembly : Builder := ⟨{ id := "parts", name := "parts", version := "1.0" }, ∅, [], []⟩

def assemblyRequests : List (String × Fields) := [
  ("add_entity", [("name", .str "Part")]),
  ("add_label_type", [("name", .str "Number")]),
  ("add_fact_type", [
    ("object_ids", .arr [.str "entity_1", .str "label_1", .str "entity_1"]),
    ("id", .str "assembly")]),
  ("remove_object", [("object_id", .str "label_1")])]

theorem arranged_of_edits_assembly :
    (assembly.runAll assemblyRequests).schema.Keyed ∧
      (assembly.runAll assemblyRequests).schema.Arranged :=
  arranged_of_edits rfl (Edits.none.admitted (by decide +kernel))

end Builder

end FactModel
