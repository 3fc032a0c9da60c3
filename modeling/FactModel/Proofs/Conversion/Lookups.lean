import FactModel.Conversion
import FactModel.Proofs.Schema.InPlace
import FactModel.Proofs.Lists

/-!
The lookups of a conversion. Where roles get their positions, the fact type and the predicators
are taken to be there. Read with lookups that fail, the conversion is the same: what a placed edge
needs was put there by the nodes and by the edges before.
-/

namespace FactModel

namespace OrderedMap

variable {α : Type} {m : OrderedMap α}

/-- Writes back a changed value, if there is one to change. -/
def modify? (m : OrderedMap α) (key : String) (f : α → α) : Option (OrderedMap α) := do
  let value ← m.find? key
  return m.insert key (f value)

theorem modify?_eq_some {key : String} (held : key ∈ m.keys) (f : α → α) :
    m.modify? key f = some (m.modify key f) := by
  obtain ⟨value, found⟩ := Option.isSome_iff_exists.mp ((m.find?_isSome_iff key).mpr held)
  rw [modify?, found]
  exact congrArg some (insert_eq_modify found f)

end OrderedMap

namespace Schema

def setPositions? (s : Schema) (ids : List String) : Option Schema := do
  let place := fun (m : OrderedMap Predicator) (pair : String × Nat) =>
    m.modify? pair.1 fun p => { p with position := pair.2 }
  let placed ← ids.zipIdx.foldlM place s.predicators
  return { s with predicators := placed }

def addRoles? (s : Schema) (edges : List PlacedEdge) (fact : String) : Option Schema := do
  let ids := (PlacedEdge.ordered edges fact).map (·.edge.id)
  let facts ← s.factTypes.modify? fact fun f => { f with predicators := ids }
  { s with factTypes := facts }.setPositions? ids

def addPredicators? (s : Schema) (edges : List PlacedEdge) : Option Schema :=
  let add := fun (m : OrderedMap Predicator) (p : PlacedEdge) => m.insert p.edge.id p.predicator
  let s := { s with predicators := edges.foldl add s.predicators }
  (edges.map (·.factType)).eraseDups.foldlM (fun s fact => s.addRoles? edges fact) s

/-- The fact types and the predicators of placed edges are there. -/
structure Holds (s : Schema) (edges : List PlacedEdge) : Prop where
  factTypes : ∀ p ∈ edges, p.factType ∈ s.factTypes.keys
  predicators : ∀ p ∈ edges, p.edge.id ∈ s.predicators.keys

variable {s : Schema} {edges : List PlacedEdge}

theorem setPositions?_eq_some {ids : List String} (held : ids ⊆ s.predicators.keys) :
    s.setPositions? ids = some (s.setPositions ids) := by
  have placed : ids.zipIdx.foldlM (fun m pair => m.modify? pair.1 fun p =>
      { p with position := pair.2 }) s.predicators = some (placeFrom s.predicators ids 0) := by
    refine foldlM_eq_some (fun m => ids ⊆ m.keys) (fun m inside pair listed => ?_) held
    have here := inside (List.fst_mem_of_mem_zipIdx listed)
    exact ⟨OrderedMap.modify?_eq_some here _, by rwa [OrderedMap.keys_modify]⟩
  rw [setPositions?, placed]
  rfl

theorem keys_addRoles (s : Schema) (edges : List PlacedEdge) (fact : String) :
    (s.addRoles edges fact).factTypes.keys = s.factTypes.keys ∧
      (s.addRoles edges fact).predicators.keys = s.predicators.keys := by
  constructor
  · exact OrderedMap.keys_modify ..
  · exact keys_placeFrom ..

theorem Holds.addRoles (holds : s.Holds edges) (fact : String) :
    (s.addRoles edges fact).Holds edges := by
  obtain ⟨facts, predicators⟩ := keys_addRoles s edges fact
  exact ⟨by rw [facts]; exact holds.factTypes, by rw [predicators]; exact holds.predicators⟩

theorem addRoles?_eq_some (holds : s.Holds edges) {p : PlacedEdge} (member : p ∈ edges) :
    s.addRoles? edges p.factType = some (s.addRoles edges p.factType) := by
  have placed : (PlacedEdge.ordered edges p.factType).map (·.edge.id) ⊆ s.predicators.keys := by
    intro id listed
    obtain ⟨q, inside, rfl⟩ := List.mem_map.mp listed
    exact holds.predicators q (List.mem_of_mem_filter (List.mem_mergeSort.mp inside))
  rw [addRoles?, OrderedMap.modify?_eq_some (holds.factTypes p member)]
  exact setPositions?_eq_some placed

theorem addPredicators?_eq_some (known : ∀ p ∈ edges, p.factType ∈ s.factTypes.keys) :
    s.addPredicators? edges = some (s.addPredicators edges) := by
  refine foldlM_eq_some (fun t : Schema => t.Holds edges) ?_ ⟨known, fun p member => ?_⟩
  · intro t holds fact listed
    obtain ⟨p, member, rfl⟩ := List.mem_map.mp (List.mem_eraseDups.mp listed)
    exact ⟨addRoles?_eq_some holds member, holds.addRoles _⟩
  · exact (OrderedMap.mem_keys_foldl_insert (·.edge.id) (·.predicator) edges s.predicators _).mpr
      (.inr (List.mem_map_of_mem member))

end Schema

namespace Graph

def edgeSchema? (g : Graph) (o : ConversionOptions) : Option Schema := do
  let s := g.nodeSchema o
  let s ← s.addPredicators? (g.placedEdges s)
  return g.edges.foldl Schema.addSpecialization s

/-- The conversion that goes on after an uneven constraint, with lookups that fail where nothing
is found. -/
def toSchema? (g : Graph) (o : ConversionOptions) : Option Schema := do
  let s ← g.edgeSchema? o
  return g.constraints.foldl Schema.addConstraint s

theorem mem_placedEdges {g : Graph} {s : Schema} {p : PlacedEdge} (placed : p ∈ g.placedEdges s) :
    p.factType ∈ s.factTypes.keys := by
  obtain ⟨e, _, found⟩ := List.mem_filterMap.mp placed
  unfold placeEdge at found
  split at found
  · cases found
  · split at found
    · rename_i resolved
      cases found
      rw [Bool.and_eq_true] at resolved
      exact (s.factTypes.contains_iff _).mp resolved.1
    · cases found

theorem toSchema?_eq_some (g : Graph) (o : ConversionOptions) :
    g.toSchema? o = some (g.constraints.foldl Schema.addConstraint (g.edgeSchema o)) := by
  rw [toSchema?, edgeSchema?, Schema.addPredicators?_eq_some fun p => mem_placedEdges]
  rfl

end Graph

end FactModel
