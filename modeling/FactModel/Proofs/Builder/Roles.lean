import FactModel.Builder
import FactModel.Proofs.Schema.InPlace

/-!
Roles that come and go: new roles with ids of their own, one after the other, and roles that are
dropped together with their place in a fact type.
-/

namespace FactModel

namespace Schema

def putRole (s : Schema) (r : Predicator) : Schema :=
  { s with predicators := s.predicators.insert r.id r }

def putRoles (s : Schema) (roles : List Predicator) : Schema := roles.foldl putRole s

def dropRole (s : Schema) (r : Predicator) : Schema :=
  { s with predicators := s.predicators.erase r.id }.unlistRole r

def dropRoles (s : Schema) (roles : List Predicator) : Schema := roles.foldl dropRole s

/-- From a position on, one new role for each object, whose id no element has before. -/
inductive NewRoles (factType : String) :
    Schema → Nat → List ObjectType → List Predicator → Prop
  | none (s : Schema) (position : Nat) : NewRoles factType s position [] []
  | more {s : Schema} {position : Nat} {object : ObjectType} {rest : List ObjectType}
      {r : Predicator} {roles : List Predicator} (owner : r.factTypeId = factType)
      (place : r.position = position) (player : r.objectId = object.id) (fresh : r.id ∉ s.ids)
      (others : NewRoles factType (s.putRole r) (position + 1) rest roles) :
      NewRoles factType s position (object :: rest) (r :: roles)

variable {s : Schema}

theorem mem_ids_of_mem_objects {id : String} (member : id ∈ s.objects.keys) : id ∈ s.ids := by
  rw [objects, OrderedMap.mem_keys_ofList] at member
  simp only [List.map_append, List.map_map, List.mem_append] at member
  simp only [ids, List.mem_append]
  exact .inl (.inl (.inl member))

theorem mem_ids_of_mem_predicators {id : String} (member : id ∈ s.predicators.keys) :
    id ∈ s.ids := by
  simp only [ids, List.mem_append]
  exact .inl (.inr member)

theorem mem_ids_of_mem_factTypes {id : String} (member : id ∈ s.factTypes.keys) :
    id ∈ s.ids := by
  simp only [ids, List.mem_append]
  exact .inl (.inl (.inr member))

theorem mem_ids_of_mem_constraintIds {id : String} (category : ConstraintCategory)
    (member : id ∈ s.constraintIds category) : id ∈ s.ids := by
  refine List.mem_append_right _ (List.mem_flatMap.mpr ⟨category, ?_, member⟩)
  cases category <;> simp [ConstraintCategory.all]

theorem not_mem_constraintIds {id : String} (fresh : id ∉ s.ids) (category : ConstraintCategory) :
    id ∉ s.constraintIds category := fun member =>
  fresh (mem_ids_of_mem_constraintIds category member)

theorem mem_ids_putRole (r : Predicator) (id : String) :
    id ∈ (s.putRole r).ids ↔ id ∈ s.ids ∨ id = r.id := by
  have others : (s.putRole r).constraintIds = s.constraintIds := rfl
  simp only [ids, others, List.mem_append]
  simp only [putRole, OrderedMap.mem_keys_insert]
  tauto

theorem putRoles_eq (roles : List Predicator) :
    s.putRoles roles =
      { s with predicators := roles.foldl (fun m r => m.insert r.id r) s.predicators } := by
  induction roles generalizing s with
  | nil => rfl
  | cons r rest ih =>
    show (s.putRole r).putRoles rest = _
    rw [ih]
    rfl

theorem totalRoleConstraints_putRoles (roles : List Predicator) :
    (s.putRoles roles).totalRoleConstraints = s.totalRoleConstraints := by rw [putRoles_eq]

theorem find?_putRole (r : Predicator) (id : String) :
    (s.putRole r).predicators.find? id =
      if id = r.id then some r else s.predicators.find? id := OrderedMap.find?_insert ..

theorem find?_putRoles_of_not_mem {roles : List Predicator} {id : String}
    (other : ∀ r ∈ roles, r.id ≠ id) :
    (s.putRoles roles).predicators.find? id = s.predicators.find? id := by
  induction roles generalizing s with
  | nil => rfl
  | cons r rest ih =>
    rw [List.forall_mem_cons] at other
    show ((s.putRole r).putRoles rest).predicators.find? id = _
    rw [ih other.2, find?_putRole, if_neg (Ne.symm other.1)]

theorem find?_putRoles_cases {roles : List Predicator} {key : String} {r : Predicator}
    (found : (s.putRoles roles).predicators.find? key = some r) :
    r ∈ roles ∨ s.predicators.find? key = some r := by
  induction roles generalizing s with
  | nil => exact .inr found
  | cons first rest ih =>
    rcases ih (s := s.putRole first) found with later | before
    · exact .inl (List.mem_cons_of_mem _ later)
    · rw [find?_putRole] at before
      split at before
      · cases before
        exact .inl List.mem_cons_self
      · exact .inr before

theorem keys_relaxRole (s : Schema) (role : String) :
    (s.relaxRole role).predicators.keys = s.predicators.keys := by
  unfold relaxRole
  split
  · rfl
  · exact OrderedMap.keys_modify ..

theorem keyed_putRoles (keyed : s.predicators.KeyedBy Predicator.id) (roles : List Predicator) :
    (s.putRoles roles).predicators.KeyedBy Predicator.id := by
  induction roles generalizing s with
  | nil => exact keyed
  | cons r rest ih => exact ih (keyed.insert r)

namespace NewRoles

variable {factType : String} {position : Nat} {objects : List ObjectType}
  {roles : List Predicator}

theorem fresh (new : NewRoles factType s position objects roles) :
    ∀ r ∈ roles, r.id ∉ s.ids := by
  induction new with
  | none => simp
  | more owner place player fresh others ih =>
    rintro r (_ | ⟨_, later⟩)
    · exact fresh
    · exact fun held => ih r later ((mem_ids_putRole _ _).mpr (.inl held))

theorem distinct (new : NewRoles factType s position objects roles) :
    (roles.map Predicator.id).Nodup := by
  induction new with
  | none => exact List.nodup_nil
  | more owner place player fresh others ih =>
    rw [List.map_cons, List.nodup_cons]
    refine ⟨?_, ih⟩
    intro again
    obtain ⟨r, later, same⟩ := List.mem_map.mp again
    exact others.fresh r later ((mem_ids_putRole _ _).mpr (.inr same))

theorem owner (new : NewRoles factType s position objects roles) :
    ∀ r ∈ roles, r.factTypeId = factType := by
  induction new with
  | none => simp
  | more owner place player fresh others ih => exact List.forall_mem_cons.mpr ⟨owner, ih⟩

theorem player (new : NewRoles factType s position objects roles) :
    ∀ r ∈ roles, ∃ o ∈ objects, r.objectId = o.id := by
  induction new with
  | none => simp
  | more owner place player fresh others ih =>
    rintro r (_ | ⟨_, later⟩)
    · exact ⟨_, List.mem_cons_self, player⟩
    · obtain ⟨o, listed, same⟩ := ih r later
      exact ⟨o, List.mem_cons_of_mem _ listed, same⟩

theorem position_eq (new : NewRoles factType s position objects roles) {i : Nat}
    {r : Predicator} (here : roles[i]? = some r) : r.position = ((position + i : Nat) : Int) := by
  induction new generalizing i with
  | none => simp at here
  | more owner place player fresh others ih =>
    cases i with
    | zero =>
      cases here
      exact place
    | succ i =>
      rw [ih (by simpa using here), Nat.add_assoc, Nat.add_comm 1 i]

theorem find?_eq (new : NewRoles factType s position objects roles) {r : Predicator}
    (member : r ∈ roles) : (s.putRoles roles).predicators.find? r.id = some r := by
  induction new with
  | none => cases member
  | @more s position object rest first roles owner place player fresh others ih =>
    rcases List.mem_cons.mp member with rfl | later
    · have apart : ∀ other ∈ roles, other.id ≠ r.id := by
        intro other listed same
        exact others.fresh other listed ((mem_ids_putRole _ _).mpr (.inr same))
      show ((s.putRole r).putRoles roles).predicators.find? r.id = _
      rw [find?_putRoles_of_not_mem apart, find?_putRole, if_pos rfl]
    · exact ih later

theorem not_mem_predicators (new : NewRoles factType s position objects roles) {r : Predicator}
    (member : r ∈ roles) : s.predicators.find? r.id = Option.none := by
  rw [OrderedMap.find?_eq_none_iff]
  exact fun held => new.fresh r member (mem_ids_of_mem_predicators held)

theorem find?_putRoles_iff (new : NewRoles factType s position objects roles) {key : String}
    {r : Predicator} : (s.putRoles roles).predicators.find? key = some r ↔
      (r ∈ roles ∧ r.id = key) ∨ s.predicators.find? key = some r := by
  by_cases made : ∃ other ∈ roles, other.id = key
  · obtain ⟨other, member, rfl⟩ := made
    rw [new.find?_eq member, new.not_mem_predicators member]
    constructor
    · rintro ⟨rfl⟩
      exact .inl ⟨member, rfl⟩
    · rintro (⟨listed, same⟩ | old)
      · rw [← new.find?_eq member, ← same, new.find?_eq listed]
      · cases old
  · have other : ∀ r ∈ roles, r.id ≠ key := fun r member same => made ⟨r, member, same⟩
    rw [find?_putRoles_of_not_mem other]
    exact (or_iff_right fun new => other r new.1 new.2).symm

end NewRoles

/-! Roles that are dropped -/

theorem unlistRole_cases (s : Schema) (r : Predicator) :
    (∃ f, s.factTypes.find? r.factTypeId = some f ∧ r.id ∈ f.predicators ∧
      s.unlistRole r =
        { s with
          factTypes := s.factTypes.insert r.factTypeId
            { f with predicators := f.predicators.erase r.id }
          predicators := placeFrom s.predicators (f.predicators.erase r.id) 0 }) ∨
    s.unlistRole r = s := by
  unfold unlistRole
  cases found : s.factTypes.find? r.factTypeId with
  | none => exact .inr rfl
  | some f =>
    by_cases listed : r.id ∈ f.predicators
    · refine .inl ⟨f, rfl, listed, ?_⟩
      simp only [List.contains_eq_mem, listed, decide_true, if_true, setPositions_eq]
    · right
      simp [listed]

theorem dropRole_of_listed {r : Predicator} {f : FactType}
    (fact : s.factTypes.find? r.factTypeId = some f) (listed : r.id ∈ f.predicators) :
    s.dropRole r =
      { s with
        factTypes := s.factTypes.insert r.factTypeId
          { f with predicators := f.predicators.erase r.id }
        predicators := placeFrom (s.predicators.erase r.id) (f.predicators.erase r.id) 0 } := by
  rw [dropRole]
  simp [unlistRole, fact, listed, setPositions_eq]

theorem keys_dropRole (r : Predicator) :
    (s.dropRole r).predicators.keys = (s.predicators.erase r.id).keys := by
  rcases unlistRole_cases { s with predicators := s.predicators.erase r.id } r with
    ⟨f, _, _, dropped⟩ | dropped
  · rw [dropRole, dropped]
    exact keys_placeFrom ..
  · rw [dropRole, dropped]

theorem map_find?_dropRole {β : Type} {g : Predicator → β}
    (kept : ∀ r (position : Int), g { r with position := position } = g r) (s : Schema)
    (r : Predicator) (key : String) :
    ((s.dropRole r).predicators.find? key).map g =
      if key = r.id then none else (s.predicators.find? key).map g := by
  have erased : ((s.predicators.erase r.id).find? key).map g =
      if key = r.id then none else (s.predicators.find? key).map g := by
    rw [OrderedMap.find?_erase]
    split <;> rfl
  rw [dropRole]
  rcases unlistRole_cases { s with predicators := s.predicators.erase r.id } r with
    ⟨f, _, _, dropped⟩ | dropped
  · rw [dropped, ← erased]
    exact map_find?_placeFrom _ _ _ _ kept
  · rw [dropped]
    exact erased

/-- Roles that stay keep everything but their position. -/
theorem map_find?_dropRoles {β : Type} {g : Predicator → β}
    (kept : ∀ r (position : Int), g { r with position := position } = g r) (s : Schema)
    (roles : List Predicator) (key : String) :
    ((s.dropRoles roles).predicators.find? key).map g =
      if key ∈ roles.map (·.id) then none else (s.predicators.find? key).map g := by
  induction roles generalizing s with
  | nil => simp [dropRoles]
  | cons r rest ih =>
    show (((s.dropRole r).dropRoles rest).predicators.find? key).map g = _
    rw [ih, map_find?_dropRole kept]
    by_cases here : key = r.id
    · simp [here]
    · simp [here]

theorem side_dropRoles (s : Schema) (roles : List Predicator) (key : String) :
    ((s.dropRoles roles).predicators.find? key).map side =
      if key ∈ roles.map (·.id) then none else (s.predicators.find? key).map side :=
  map_find?_dropRoles (fun _ _ => rfl) s roles key

theorem find?_dropRole (s : Schema) (r : Predicator) (key : String) :
    (s.dropRole r).factTypes.find? key = (s.factTypes.find? key).map fun f =>
      if r.factTypeId = key then { f with predicators := f.predicators.erase r.id } else f := by
  by_cases own : r.factTypeId = key
  · subst own
    cases fact : s.factTypes.find? r.factTypeId with
    | none => simp [dropRole, unlistRole, fact]
    | some f =>
      by_cases listed : r.id ∈ f.predicators
      · simp [dropRole_of_listed fact listed, OrderedMap.find?_insert]
      · simp [dropRole, unlistRole, fact, listed, List.erase_of_not_mem listed]
  · rw [dropRole]
    rcases unlistRole_cases { s with predicators := s.predicators.erase r.id } r with
      ⟨f, _, _, dropped⟩ | dropped
    · simp [dropped, OrderedMap.find?_insert, own, Ne.symm own]
    · simp [dropped, own]

/-- Each role is taken out of the list of its own fact type. -/
theorem find?_dropRoles (s : Schema) (roles : List Predicator) (key : String) :
    (s.dropRoles roles).factTypes.find? key = (s.factTypes.find? key).map fun f =>
      { f with predicators :=
          f.predicators.diff ((roles.filter fun r => r.factTypeId = key).map (·.id)) } := by
  induction roles generalizing s with
  | nil => simp [dropRoles]
  | cons r rest ih =>
    show ((s.dropRole r).dropRoles rest).factTypes.find? key = _
    rw [ih, find?_dropRole, Option.map_map]
    by_cases own : r.factTypeId = key
    · simp [own, Function.comp_def, List.diff_cons]
    · simp [own, Function.comp_def]

theorem dropRole_eq (s : Schema) (r : Predicator) :
    ∃ facts held, s.dropRole r = { s with factTypes := facts, predicators := held } := by
  rw [dropRole]
  rcases unlistRole_cases { s with predicators := s.predicators.erase r.id } r with
    ⟨f, _, _, dropped⟩ | dropped
  · exact ⟨_, _, dropped⟩
  · exact ⟨_, _, dropped⟩

/-- Nothing but fact types and roles changes. -/
theorem dropRoles_eq (s : Schema) (roles : List Predicator) :
    ∃ facts held, s.dropRoles roles = { s with factTypes := facts, predicators := held } := by
  induction roles generalizing s with
  | nil => exact ⟨_, _, rfl⟩
  | cons r rest ih =>
    obtain ⟨_, _, first⟩ := dropRole_eq s r
    obtain ⟨facts, held, others⟩ := ih (s.dropRole r)
    refine ⟨facts, held, others.trans ?_⟩
    rw [first]

theorem object?_dropRoles (s : Schema) (roles : List Predicator) (id : String) :
    (s.dropRoles roles).object? id = s.object? id := by
  obtain ⟨_, _, same⟩ := dropRoles_eq s roles
  rw [same]
  rfl

end Schema

end FactModel
