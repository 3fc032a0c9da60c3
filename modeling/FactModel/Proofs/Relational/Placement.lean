import FactModel.Relational.Placement
import FactModel.Proofs.Schema.Keyed

/-!
Where the fact types of a keyed schema go: which of two roles hosts, and what a role contributes
to the table of the entity that plays it.
-/

namespace FactModel

theorem RoleUse.entity?_eq_some {use : RoleUse} {target : Entity}
    (refers : use.entity? = some target) :
    ∃ role partner, use = .value role partner (.entity target) := by
  unfold entity? at refers
  split at refers
  · cases refers
    exact ⟨_, _, rfl⟩
  · cases refers

namespace Schema

variable {s : Schema}

theorem isObjectified_iff {f : FactType} (known : f.id ∈ s.factTypes.keys) :
    s.isObjectified f = true ↔
      f.isObjectified = true ∨ ∃ e ∈ s.entities.values, e.objectifiedFactTypeId = some f.id := by
  have contained := (s.factTypes.contains_iff f.id).mpr known
  simp only [isObjectified, Bool.or_eq_true, List.any_eq_true]
  refine or_congr_right (exists_congr fun e => and_congr_right fun _ => ?_)
  cases e.objectifiedFactTypeId with
  | none => simp
  | some id =>
    simp only [Bool.and_eq_true, beq_iff_eq, Option.some.injEq]
    exact ⟨fun h => h.1, fun same => ⟨same, same ▸ contained⟩⟩

theorem hostOf_eq_some {f : FactType} {p q : Predicator} (host : s.hostOf? f = some (p, q)) :
    s.isObjectified f = false ∧ f.arity = 2 ∧ (s.roles f = [p, q] ∨ s.roles f = [q, p]) ∧
      s.hosts p q = true := by
  unfold hostOf? at host
  cases binary : s.binaryRoles? f with
  | none => simp [binary] at host
  | some pair =>
    obtain ⟨first, second⟩ := pair
    have shape : s.isObjectified f = false ∧ f.arity = 2 ∧ s.roles f = [first, second] := by
      unfold binaryRoles? at binary
      split at binary
      · cases binary
      · rename_i plain
        simp only [Bool.or_eq_true, bne_iff_ne, not_or, Decidable.not_not,
          Bool.not_eq_true] at plain
        refine ⟨plain.1, plain.2, ?_⟩
        split at binary
        · cases binary
          assumption
        · cases binary
    obtain ⟨plain, arity, roles⟩ := shape
    simp only [binary] at host
    split at host
    · cases host
      exact ⟨plain, arity, .inl roles, ‹_›⟩
    · split at host
      · cases host
        exact ⟨plain, arity, .inr roles, ‹_›⟩
      · cases host

/-- In a keyed schema no other fact type decides how a fact type is hosted. -/
theorem host_eq_hostOf (keyed : s.Keyed) {f : FactType} (member : f ∈ s.factTypes.values) :
    s.host? f = s.hostOf? f := by
  unfold host?
  cases decided : s.factTypes.values.find? fun g => g.id == f.id && (s.binaryRoles? g).isSome with
  | some g =>
    have same := List.find?_some decided
    simp only [Bool.and_eq_true, beq_iff_eq] at same
    have equal := keyed.factTypes.eq_of_id (List.mem_of_find?_eq_some decided) member same.1
    rw [equal, Option.bind_some]
  | none =>
    have plain := List.find?_eq_none.mp decided f member
    simp only [beq_self_eq_true, Bool.true_and, Option.isSome_iff_ne_none, ne_eq,
      Decidable.not_not] at plain
    simp [hostOf?, plain]

theorem roleUse_cases (entity predicator : String) :
    s.roleUse entity predicator = .nothing ∨
    (∃ f role, s.roleUse entity predicator = .flag f role ∧
      s.predicators.find? predicator = some role ∧ role.objectId = entity ∧
      s.factTypes.find? role.factTypeId = some f ∧ s.isObjectified f = false ∧
      f.isUnary = true) ∨
    (∃ f p role partner target, s.roleUse entity predicator = .value role partner target ∧
      s.predicators.find? predicator = some role ∧ role.objectId = entity ∧
      s.factTypes.find? role.factTypeId = some f ∧ s.isObjectified f = false ∧
      f.isUnary = false ∧ s.host? f = some (p, partner) ∧ p.id = role.id ∧
      s.object? partner.objectId = some target) := by
  unfold roleUse
  cases found : s.predicators.find? predicator with
  | none => exact .inl rfl
  | some role =>
    dsimp only
    split
    · exact .inl rfl
    · rename_i played
      rw [bne_iff_ne, ne_eq, Decidable.not_not] at played
      cases fact : s.factTypes.find? role.factTypeId with
      | none => exact .inl rfl
      | some f =>
        dsimp only
        split
        · exact .inl rfl
        · rename_i plain
          rw [Bool.not_eq_true] at plain
          split
          · exact .inr (.inl ⟨f, role, rfl, rfl, played, fact, plain, ‹_›⟩)
          · rename_i several
            rw [Bool.not_eq_true] at several
            cases host : s.host? f with
            | none => exact .inl rfl
            | some pair =>
              obtain ⟨p, partner⟩ := pair
              dsimp only
              split
              · exact .inl rfl
              · rename_i same
                rw [bne_iff_ne, ne_eq, Decidable.not_not] at same
                cases target : s.object? partner.objectId with
                | none => exact .inl rfl
                | some o =>
                  exact .inr (.inr ⟨f, p, role, partner, o, rfl, rfl, played, fact, plain,
                    several, host, same, target⟩)

theorem entity_of_roleUse (keyed : s.Keyed) {entity predicator : String} {target : Entity}
    (refers : (s.roleUse entity predicator).entity? = some target) :
    target ∈ s.entities.values := by
  obtain ⟨r, q, use⟩ := RoleUse.entity?_eq_some refers
  rcases s.roleUse_cases entity predicator with other | ⟨_, _, other, _⟩ |
    ⟨_, _, _, _, o, other, _, _, _, _, _, _, _, found⟩
  · cases use.symm.trans other
  · cases use.symm.trans other
  · cases use.symm.trans other
    exact (entity_of_object? keyed found).1

theorem played_of_roleUse (keyed : s.Keyed) {entity predicator : String}
    (used : s.roleUse entity predicator ≠ .nothing) :
    ∃ role ∈ s.predicators.values, role.objectId = entity ∧ role.id = predicator := by
  rcases s.roleUse_cases entity predicator with use | ⟨_, role, _, found, played, _⟩ |
    ⟨_, _, role, _, _, _, found, played, _⟩
  · exact absurd use used
  · exact ⟨role, OrderedMap.mem_values_of_find? found, played,
      keyed.predicators.id_of_find? found⟩
  · exact ⟨role, OrderedMap.mem_values_of_find? found, played,
      keyed.predicators.id_of_find? found⟩

theorem needsJunction_iff (keyed : s.Keyed) {f : FactType} (member : f ∈ s.factTypes.values) :
    s.needsJunction f = true ↔
      s.isObjectified f = false ∧ f.arity = (s.roles f).length ∧ 2 ≤ (s.roles f).length ∧
        (2 < (s.roles f).length ∨ s.hostOf? f = none) := by
  rw [needsJunction, host_eq_hostOf keyed member]
  simp [and_assoc]

end Schema

end FactModel
