import FactModel.Proofs.FreshNames
import FactModel.Proofs.Relational.JustifiedKeys
import FactModel.Proofs.Lists

/-!
The keys of a plan. After all requests every entity has a key, and each key follows from the keys
of the plan, except for references that a cycle of identification cut short.
-/

namespace FactModel

/-- The entity whose key a demand asks for. -/
def Demand.entity? : Demand → Option Entity
  | .key e => some e
  | .parent _ p => some p
  | _ => none

namespace Derivation

variable {d : Derivation}

/-- The key table once everything is asked for. -/
def settled (d : Derivation) : KeyTable := d.demands.foldl d.meet .empty

theorem mem_entityIds {e : Entity} (member : e ∈ d.schema.entities.values) : e.id ∈ d.entityIds :=
  List.mem_eraseDups.mpr (List.mem_map_of_mem member)

/-- No entity is being resolved when the derivation asks for a key. -/
theorem request_of_mem {e : Entity} (member : e ∈ d.schema.entities.values) :
    d.Request d.entityIds e :=
  ⟨nodup_eraseDups _, member, fun _ listed outside => absurd (mem_entityIds listed) outside⟩

theorem ask_responds (keyed : d.schema.Keyed) {e : Entity}
    (member : e ∈ d.schema.entities.values) :
    d.Responds d.entityIds (d.resolveKey d.entityIds) e :=
  resolveKey_responds keyed (request_of_mem member)

theorem mem_entityDemands {e : Entity} (listed : e ∈ d.schema.entities.values)
    (keyed : d.schema.Keyed) {demand : Demand} (member : demand ∈ d.entityDemands e)
    {target : Entity} (asks : demand.entity? = some target) :
    target ∈ d.schema.entities.values := by
  simp only [entityDemands, List.cons_append, List.mem_cons, List.mem_append, List.mem_map,
    List.mem_filterMap] at member
  rcases member with rfl | ⟨other, ⟨role, _, refers⟩, rfl⟩ | ⟨parent, _, rfl⟩
  · cases asks
    exact listed
  · cases asks
    split at refers
    · exact Schema.entity_of_roleUse keyed refers
    · cases refers
  · unfold parentDemand at asks
    split at asks
    · rename_i found
      cases asks
      exact OrderedMap.mem_values_of_find? found
    · cases asks

theorem mem_factDemands (keyed : d.schema.Keyed) {f : FactType} {demand : Demand}
    (member : demand ∈ d.factDemands f) {target : Entity}
    (asks : demand.entity? = some target) : target ∈ d.schema.entities.values := by
  obtain ⟨role, _, made⟩ := List.mem_filterMap.mp member
  unfold roleDemand? at made
  split at made
  · rename_i found
    cases made
    cases asks
    exact (Schema.entity_of_object? keyed found).1
  · cases made
  · cases made
    cases asks

theorem mem_demands (keyed : d.schema.Keyed) {demand : Demand} (member : demand ∈ d.demands)
    {target : Entity} (asks : demand.entity? = some target) :
    target ∈ d.schema.entities.values := by
  simp only [demands, List.mem_append, List.mem_flatMap] at member
  rcases member with (⟨e, listed, member⟩ | ⟨f, _, member⟩) | ⟨f, _, member⟩
  · exact mem_entityDemands listed keyed member asks
  · exact mem_factDemands keyed member asks
  · exact mem_factDemands keyed member asks

theorem meet_grows (keyed : d.schema.Keyed) {demand : Demand} (member : demand ∈ d.demands)
    (t : KeyTable) : d.Grows d.entityIds t (d.meet t demand) := by
  cases demand with
  | key e => exact (ask_responds keyed (mem_demands keyed member rfl) t).1
  | parent child p => exact (ask_responds keyed (mem_demands keyed member rfl) t).1
  | lostParent child parent => exact .refl _ t
  | lostRole role table => exact .refl _ t

theorem foldl_meet_grows (keyed : d.schema.Keyed) {demands : List Demand}
    (within : demands ⊆ d.demands) (t : KeyTable) :
    d.Grows d.entityIds t (demands.foldl d.meet t) := by
  induction demands generalizing t with
  | nil => exact .refl _ t
  | cons demand rest ih =>
    rw [List.cons_subset] at within
    exact (meet_grows keyed within.1 t).trans (ih within.2 _)

theorem settled_built (keyed : d.schema.Keyed) : d.Built d.settled :=
  (foldl_meet_grows keyed (List.Subset.refl _) .empty).built .empty

theorem settled_known (keyed : d.schema.Keyed) {e : Entity}
    (member : e ∈ d.schema.entities.values) :
    d.settled.known.find? e.id = some (d.plan.key e) := by
  have demanded : Demand.key e ∈ d.demands := by
    simp only [demands, List.mem_append, List.mem_flatMap]
    exact .inl (.inl ⟨e, member, List.mem_cons_self⟩)
  obtain ⟨before, after, split⟩ := List.append_of_mem demanded
  have later : d.Grows d.entityIds (d.ask e (before.foldl d.meet .empty)) d.settled := by
    have within : after ⊆ d.demands := by
      rw [split]
      exact fun demand member => List.mem_append_right _ (List.mem_cons_of_mem _ member)
    have grows := foldl_meet_grows keyed within (d.ask e (before.foldl d.meet .empty))
    rwa [settled, split, List.foldl_append, List.foldl_cons, meet]
  have known := resolveKey_knows (d := d) (mem_entityIds member) (before.foldl d.meet .empty)
  have kept := later.keeps _ _ known
  have found : d.plan.keys.find? e.id = some _ := kept
  rw [kept, TablePlan.key, found, Option.getD_some]

theorem plan_justified (keyed : d.schema.Keyed) {e : Entity}
    (member : e ∈ d.schema.entities.values) : d.Justified d.settled e (d.plan.key e) :=
  (settled_built keyed).justified keyed member (settled_known keyed member)

end Derivation

end FactModel
