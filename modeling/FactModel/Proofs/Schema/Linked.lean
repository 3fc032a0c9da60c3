import FactModel.Proofs.Relational.Placement

/-!
Schemas whose predicators are linked both ways: they lead to an object type and to a fact type,
and the fact type lists them.
-/

namespace FactModel

namespace Schema

/-- Predicators resolve, and every fact type lists its own predicators, each once. -/
structure Linked (s : Schema) : Prop where
  players : ∀ r ∈ s.predicators.values, (s.object? r.objectId).isSome = true
  owners : ∀ r ∈ s.predicators.values, r.factTypeId ∈ s.factTypes.keys
  distinct : ∀ f ∈ s.factTypes.values, f.predicators.Nodup
  belongs : ∀ f ∈ s.factTypes.values, ∀ id ∈ f.predicators,
    ∃ r ∈ s.predicators.values, r.id = id ∧ r.factTypeId = f.id
  complete : ∀ f ∈ s.factTypes.values, ∀ r ∈ s.predicators.values,
    r.factTypeId = f.id → r.id ∈ f.predicators

variable {s : Schema} {f : FactType}

theorem Linked.factTypeId_eq (linked : s.Linked) (keyed : s.Keyed)
    (member : f ∈ s.factTypes.values) {r : Predicator} (held : r ∈ s.predicators.values)
    (listed : r.id ∈ f.predicators) : r.factTypeId = f.id := by
  obtain ⟨other, there, same, owner⟩ := linked.belongs f member r.id listed
  rw [keyed.predicators.eq_of_id held there same.symm, owner]

theorem Linked.eq_of_listed (linked : s.Linked) (keyed : s.Keyed) {g : FactType}
    (member : f ∈ s.factTypes.values) (other : g ∈ s.factTypes.values) {id : String}
    (here : id ∈ f.predicators) (there : id ∈ g.predicators) : g = f := by
  obtain ⟨r, held, rfl, owner⟩ := linked.belongs g other id there
  exact keyed.factTypes.eq_of_id other member
    (owner.symm.trans (linked.factTypeId_eq keyed member held here))

theorem Linked.find?_factType (linked : s.Linked) (keyed : s.Keyed)
    (member : f ∈ s.factTypes.values) {r : Predicator} (role : r ∈ s.roles f) :
    s.factTypes.find? r.factTypeId = some f := by
  obtain ⟨listed, found⟩ := keyed.id_mem_predicators role
  rw [linked.factTypeId_eq keyed member (OrderedMap.mem_values_of_find? found) listed]
  exact keyed.factTypes.find?_id member

theorem Linked.map_id_roles (linked : s.Linked) (keyed : s.Keyed)
    (member : f ∈ s.factTypes.values) : (s.roles f).map (·.id) = f.predicators := by
  have found : ∀ id ∈ f.predicators, ∃ r, s.predicators.find? id = some r ∧ r.id = id := by
    intro id listed
    obtain ⟨r, held, rfl, _⟩ := linked.belongs f member id listed
    exact ⟨r, keyed.predicators.find?_id held, rfl⟩
  unfold roles
  generalize f.predicators = ids at found ⊢
  induction ids with
  | nil => rfl
  | cons id rest ih =>
    obtain ⟨r, here, same⟩ := found id List.mem_cons_self
    rw [List.filterMap_cons_some here, List.map_cons, same,
      ih fun other inside => found other (List.mem_cons_of_mem _ inside)]

theorem Linked.length_roles (linked : s.Linked) (keyed : s.Keyed)
    (member : f ∈ s.factTypes.values) : (s.roles f).length = f.arity := by
  rw [FactType.arity, ← linked.map_id_roles keyed member, List.length_map]

theorem Linked.object?_isSome (linked : s.Linked) (keyed : s.Keyed) {r : Predicator}
    (role : r ∈ s.roles f) : ∃ o, s.object? r.objectId = some o :=
  Option.isSome_iff_exists.mp
    (linked.players r (OrderedMap.mem_values_of_find? (keyed.id_mem_predicators role).2))

/-- A fact type without a table of its own that has two roles or more is hosted. -/
theorem Linked.needsJunction_iff (linked : s.Linked) (keyed : s.Keyed)
    (member : f ∈ s.factTypes.values) : s.needsJunction f = true ↔
      s.isObjectified f = false ∧ (2 < f.arity ∨ f.arity = 2 ∧ s.host? f = none) := by
  rw [Schema.needsJunction_iff keyed member, linked.length_roles keyed member,
    host_eq_hostOf keyed member]
  constructor
  · rintro ⟨plain, _, several, more | unhosted⟩
    · exact ⟨plain, .inl more⟩
    · refine ⟨plain, ?_⟩
      rcases Nat.eq_or_lt_of_le several with two | more
      · exact .inr ⟨two.symm, unhosted⟩
      · exact .inl more
  · rintro ⟨plain, more | ⟨two, unhosted⟩⟩
    · exact ⟨plain, rfl, Nat.le_of_lt more, .inl more⟩
    · exact ⟨plain, rfl, Nat.le_of_eq two.symm, .inr unhosted⟩

/-! What a host says about a fact type, and the use of its roles -/

/-- The roles of a hosted fact type, and the entity that hosts it. -/
structure Hosted (s : Schema) (f : FactType) (p q : Predicator) : Prop where
  plain : s.isObjectified f = false
  arity : f.arity = 2
  host : p ∈ s.roles f
  partner : q ∈ s.roles f
  entity : ∃ e ∈ s.entities.values, e.id = p.objectId

theorem hosted_of_host (keyed : s.Keyed) (member : f ∈ s.factTypes.values) {p q : Predicator}
    (host : s.host? f = some (p, q)) : s.Hosted f p q := by
  rw [host_eq_hostOf keyed member] at host
  obtain ⟨plain, arity, roles, hosts⟩ := hostOf_eq_some host
  rw [Schema.hosts, Bool.and_eq_true] at hosts
  obtain ⟨e, found⟩ := Option.isSome_iff_exists.mp hosts.1
  have entity : ∃ e ∈ s.entities.values, e.id = p.objectId :=
    ⟨e, OrderedMap.mem_values_of_find? found, keyed.entities.id_of_find? found⟩
  rcases roles with roles | roles
  · exact ⟨plain, arity, by simp [roles], by simp [roles], entity⟩
  · exact ⟨plain, arity, by simp [roles], by simp [roles], entity⟩

theorem Linked.roleUse_of_host (linked : s.Linked) (keyed : s.Keyed)
    (member : f ∈ s.factTypes.values) {p q : Predicator} (host : s.host? f = some (p, q)) :
    ∃ target, s.roleUse p.objectId p.id = .value p q target := by
  have hosted := hosted_of_host keyed member host
  obtain ⟨target, resolved⟩ := linked.object?_isSome keyed hosted.partner
  have found := (keyed.id_mem_predicators hosted.host).2
  have several : f.isUnary = false := by simp [FactType.isUnary, hosted.arity]
  refine ⟨target, ?_⟩
  simp [roleUse, found, linked.find?_factType keyed member hosted.host, hosted.plain, several,
    host, resolved]

theorem Linked.roleUse_of_unary (linked : s.Linked) (keyed : s.Keyed)
    (member : f ∈ s.factTypes.values) (plain : s.isObjectified f = false)
    (unary : f.isUnary = true) {r : Predicator} (role : r ∈ s.roles f) :
    s.roleUse r.objectId r.id = .flag f r := by
  have found := (keyed.id_mem_predicators role).2
  simp [roleUse, found, linked.find?_factType keyed member role, plain, unary]

end Schema

end FactModel
