import FactModel.Proofs.Conversion.DrawnRoles
import FactModel.Proofs.Schema.Same

/-!
A drawing that says all that matters about order converts to the same schema in whatever order it
was drawn.
-/

namespace FactModel

/-- In whatever order, at most one item is one list. -/
theorem eq_of_perm_of_subsingleton {ι : Type} {items others : List ι} (perm : items.Perm others)
    (distinct : items.Nodup) (one : ∀ a ∈ items, ∀ b ∈ items, a = b) : items = others := by
  match items with
  | [] => exact (List.nil_perm.mp perm).symm
  | [a] => exact List.singleton_perm.mp perm
  | a :: b :: rest =>
    have same := one a List.mem_cons_self b (List.mem_cons_of_mem _ List.mem_cons_self)
    subst same
    simp at distinct

theorem OrderedMap.same_putAll {α ι : Type} {key : ι → String} {value? : ι → Option α}
    {items others : List ι} (distinct : (items.map key).Nodup) (perm : items.Perm others) :
    ((empty : OrderedMap α).putAll key value? items).Same (empty.putAll key value? others) := by
  intro k
  refine Option.ext fun value => ?_
  rw [find?_putAll_empty distinct, find?_putAll_empty ((perm.map key).nodup_iff.mp distinct)]
  simp only [perm.mem_iff]

namespace PlacedEdge

variable {edges others : List PlacedEdge} {fact : String}

theorem position_eq_of_precedes {a b : PlacedEdge} (forward : a.precedes b = true)
    (backward : b.precedes a = true) : a.edge.position = b.edge.position := by
  unfold precedes at forward backward
  cases here : a.edge.position <;> cases there : b.edge.position <;>
    simp only [here, there, decide_eq_true_eq, Bool.false_eq_true] at forward backward ⊢
  rw [Int.le_antisymm forward backward]

theorem ordered_eq (perm : edges.Perm others)
    (apart : ∀ a ∈ edges, ∀ b ∈ edges, a.factType = fact → b.factType = fact →
      a.edge.position = b.edge.position → a = b) :
    ordered edges fact = ordered others fact := by
  refine List.Perm.eq_of_pairwise ?_ (pairwise_ordered edges fact) (pairwise_ordered others fact) ?_
  · intro a b first second forward backward
    obtain ⟨inA, factA⟩ := mem_ordered.mp first
    obtain ⟨inB, factB⟩ := mem_ordered.mp second
    exact apart a inA b (perm.mem_iff.mpr inB) factA factB (position_eq_of_precedes forward backward)
  · exact (ordered_perm edges fact).trans ((perm.filter _).trans (ordered_perm others fact).symm)

end PlacedEdge

namespace Schema

variable {s t : Schema} {edges others : List PlacedEdge}

theorem Same.addPredicators (same : s.Same t) (perm : edges.Perm others)
    (distinct : (edges.map (·.edge.id)).Nodup) (order : rolesOf edges = rolesOf others)
    (empty : s.predicators = ∅) (empty' : t.predicators = ∅)
    (without : ∀ id f, s.factTypes.find? id = some f → f.predicators = []) :
    (s.addPredicators edges).Same (t.addPredicators others) := by
  have distinct' := (perm.map (·.edge.id)).nodup_iff.mp distinct
  have without' : ∀ id f, t.factTypes.find? id = some f → f.predicators = [] := fun id f found =>
    without id f ((same.factTypes id).trans found)
  have seats : seated edges = seated others := by
    funext p
    rw [seated, seated, order]
  have facts : (s.addPredicators edges).factTypes.Same (t.addPredicators others).factTypes := by
    intro id
    rw [find?_factTypes_addPredicators without, find?_factTypes_addPredicators without', order,
      same.factTypes]
  have roles : (s.addPredicators edges).predicators.Same (t.addPredicators others).predicators := by
    intro key
    refine Option.ext fun r => ?_
    rw [find?_predicators_addPredicators distinct empty,
      find?_predicators_addPredicators distinct' empty', seats]
    simp only [perm.mem_iff]
  rw [addPredicators_frame s, addPredicators_frame t]
  exact { same with factTypes := facts, predicators := roles }

end Schema

def GraphEdge.Touches (e : GraphEdge) (id : String) : Prop := e.source = id ∨ e.target = id

instance (e : GraphEdge) (id : String) : Decidable (e.Touches id) :=
  inferInstanceAs (Decidable (e.source = id ∨ e.target = id))

namespace Graph

/-- Drawn in another order; specializations follow each other as before. -/
structure Reordered (g h : Graph) : Prop where
  nodes : g.nodes.Perm h.nodes
  edges : g.edges.Perm h.edges
  specializations : (g.edges.filter fun e => e.kind == .specialization) =
    h.edges.filter fun e => e.kind == .specialization
  constraints : g.constraints = h.constraints

/-- Ids are distinct, no two roles are drawn at one position of a fact type, where having none is
one more, and no fact type is objectified twice. -/
structure Explicit (g : Graph) : Prop where
  nodes : (g.nodes.map (·.id)).Nodup
  edges : (g.edges.map (·.id)).Nodup
  apart : ∀ f ∈ g.nodes, f.kind = .factType → ∀ a ∈ g.edges, ∀ b ∈ g.edges,
    a.kind = .predicator → b.kind = .predicator → a.Touches f.id → b.Touches f.id →
    a.position = b.position → a.id = b.id
  objectified : ∀ f ∈ g.nodes, f.kind = .factType → ∀ a ∈ g.nodes, ∀ b ∈ g.nodes,
    a.standsFor? = some f.id → b.standsFor? = some f.id → a.id = b.id

variable {g h : Graph} {o : ConversionOptions}

theorem nodeKind?_eq_some_iff (distinct : (g.nodes.map (·.id)).Nodup) {id : String}
    {kind : NodeKind} : g.nodeKind? id = some kind ↔ ∃ n ∈ g.nodes, n.id = id ∧ n.kind = kind := by
  rw [nodeKind?, Option.map_eq_some_iff]
  constructor
  · rintro ⟨n, found, same⟩
    exact ⟨n, List.mem_reverse.mp (List.mem_of_find?_eq_some found),
      by simpa using List.find?_some found, same⟩
  · rintro ⟨n, member, rfl, same⟩
    have backwards : (g.nodes.reverse.map (·.id)).Nodup := by
      rw [List.map_reverse]
      exact List.nodup_reverse.mpr distinct
    exact ⟨n, find?_of_nodup_map backwards (List.mem_reverse.mpr member), same⟩

theorem Explicit.nodup_placed (explicit : g.Explicit) (o : ConversionOptions) :
    ((g.placed o).map (·.edge.id)).Nodup :=
  g.nodup_placedEdges _ (explicit.edges.sublist (List.filter_sublist.map _))

namespace Reordered

variable (reordered : g.Reordered h) (explicit : g.Explicit)
include reordered explicit

theorem nodeKind?_eq : g.nodeKind? = h.nodeKind? := by
  funext id
  refine Option.ext fun kind => ?_
  rw [nodeKind?_eq_some_iff explicit.nodes,
    nodeKind?_eq_some_iff ((reordered.nodes.map _).nodup_iff.mp explicit.nodes)]
  simp only [reordered.nodes.mem_iff]

theorem same_nodeSchema : (g.nodeSchema o).Same (h.nodeSchema o) := by
  have put : ∀ {α : Type} (value? : GraphNode → Option α),
      (OrderedMap.empty.putAll (·.id) value? g.nodes).Same
        (OrderedMap.empty.putAll (·.id) value? h.nodes) :=
    fun value? => OrderedMap.same_putAll explicit.nodes reordered.nodes
  rw [nodeSchema_eq, nodeSchema_eq]
  refine ⟨rfl, rfl, rfl, put _, put _, put _, put _, fun id => ?_, fun _ => rfl, fun _ => rfl,
    fun _ => rfl, fun _ => rfl, fun _ => rfl, fun _ => rfl, fun _ => rfl, fun _ => rfl⟩
  rw [OrderedMap.find?_foldl_objectify, OrderedMap.find?_foldl_objectify,
    ← put GraphNode.factType? id]
  refine Option.map_congr fun f found => ?_
  obtain nothing | ⟨n, member, rfl, made⟩ := OrderedMap.exists_of_find?_putAll found
  · cases nothing
  have isFact := (GraphNode.factType?_eq_some made).1
  have objectifiers : (g.nodes.filter fun a => a.standsFor? == some n.id) =
      h.nodes.filter fun a => a.standsFor? == some n.id := by
    refine eq_of_perm_of_subsingleton (reordered.nodes.filter _)
      (explicit.nodes.of_map.filter _) fun a first b second => ?_
    obtain ⟨inA, namesA⟩ := List.mem_filter.mp first
    obtain ⟨inB, namesB⟩ := List.mem_filter.mp second
    have same := explicit.objectified n member isFact a inA b inB (by simpa using namesA)
      (by simpa using namesB)
    exact List.inj_on_of_nodup_map explicit.nodes inA inB same
  rw [objectifiers]

theorem perm_placed : (g.placed o).Perm (h.placed o) := by
  have same : (g.nodeSchema o).Same (h.nodeSchema o) := reordered.same_nodeSchema explicit
  have place : g.placeEdge (g.nodeSchema o) = h.placeEdge (h.nodeSchema o) := by
    funext e
    have ends : g.ends? e = h.ends? e := by
      rw [ends?, ends?, reordered.nodeKind?_eq explicit]
    unfold placeEdge
    rw [ends]
    simp only [same.factTypes.contains, same.hasObject]
  rw [placed, placed, placedEdges, placedEdges, place]
  exact (reordered.edges.filter _).filterMap _

theorem rolesOf_placed : Schema.rolesOf (g.placed o) = Schema.rolesOf (h.placed o) := by
  funext fact
  have perm : (g.placed o).Perm (h.placed o) := reordered.perm_placed explicit
  refine congrArg (List.map (·.edge.id)) (PlacedEdge.ordered_eq perm ?_)
  intro a inA b inB factA factB same
  have joinsA := mem_placedEdges_iff.mp inA
  have joinsB := mem_placedEdges_iff.mp inB
  have touches : ∀ {e : GraphEdge} {x : String}, g.Joins e fact x → e.Touches fact := by
    intro e x joins
    rcases joins.ends with ⟨here, _⟩ | ⟨here, _⟩
    · exact .inl here
    · exact .inr here
  subst factA
  rw [factB] at joinsB
  obtain ⟨n, member, named, isFact⟩ := (nodeKind?_eq_some_iff explicit.nodes).mp joinsA.factType
  have ids := explicit.apart n member isFact _ joinsA.drawn _ joinsB.drawn joinsA.predicator
    joinsB.predicator (named ▸ touches joinsA) (named ▸ touches joinsB) same
  exact List.inj_on_of_nodup_map (explicit.nodup_placed o) inA inB ids

theorem same_edgeSchema : (g.edgeSchema o).Same (h.edgeSchema o) := by
  have specialize : ∀ (s : Schema) (edges : List GraphEdge), edges.foldl Schema.addSpecialization s =
      (edges.filter fun e => e.kind == .specialization).foldl Schema.addSpecialization s := by
    intro s edges
    rw [List.foldl_filter]
    congr 1
    funext s e
    unfold Schema.addSpecialization
    split <;> simp [*]
  rw [edgeSchema, edgeSchema, specialize _ g.edges, specialize _ h.edges,
    reordered.specializations]
  refine .foldl (fun e same => same.addSpecialization e) ?_ _
  exact (reordered.same_nodeSchema explicit).addPredicators (reordered.perm_placed explicit)
    (explicit.nodup_placed o) (reordered.rolesOf_placed explicit)
    (g.predicators_eq_empty o) (h.predicators_eq_empty o)
    fun _ _ found => g.predicators_nodeSchema o found

end Reordered

/-- Explicit drawings convert to the same schema, or fail alike, in whatever order they are
drawn. -/
theorem same_of_reordered (reordered : g.Reordered h) (explicit : g.Explicit)
    (o : ConversionOptions) :
    (∃ s t, g.toSchema o = .ok s ∧ h.toSchema o = .ok t ∧ s.Same t) ∨
      ∃ e, g.toSchema o = .error e ∧ h.toSchema o = .error e := by
  have uneven : g.unevenConstraint? = h.unevenConstraint? := by
    rw [unevenConstraint?, unevenConstraint?, reordered.constraints]
  unfold toSchema
  rw [← uneven, ← reordered.constraints]
  split
  · rename_i e _ _
    exact .inr ⟨e, rfl, rfl⟩
  · refine .inl ⟨_, _, rfl, rfl, ?_⟩
    exact .foldl (fun a same => same.addConstraint a) (reordered.same_edgeSchema explicit) _

/-- Staff are hired under a contract; the second role is drawn first. -/
def contracts : Graph where
  nodes := [
    ⟨"contract", .objectified, "Contract", none, none, none, some "hires"⟩,
    ⟨"person", .entity, "Person", none, none, none, none⟩,
    ⟨"staff", .entity, "Staff", none, none, none, none⟩,
    ⟨"company", .entity, "Company", none, none, none, none⟩,
    ⟨"hires", .factType, "hires", none, none, none, none⟩]
  edges := [
    ⟨"hired", .predicator, "staff", "hires", "", some 1⟩,
    ⟨"employer", .predicator, "hires", "company", "", some 0⟩,
    ⟨"kind", .specialization, "staff", "person", "", none⟩]
  constraints := [⟨"key", "uniqueness", none, [], some ["hired"], none, none, some true, none⟩]

def contractsBackwards : Graph :=
  { contracts with nodes := contracts.nodes.reverse, edges := contracts.edges.reverse }

theorem same_of_reordered_contracts :
    contracts.Reordered contractsBackwards ∧ contracts.Explicit ∧
    ∃ s t, contracts.toSchema ⟨"staff", "1.0", true⟩ = .ok s ∧
      contractsBackwards.toSchema ⟨"staff", "1.0", true⟩ = .ok t ∧ s.Same t ∧
      (s.factTypes.find? "hires").map (·.predicators) = some ["employer", "hired"] ∧
      (s.entities.find? "staff").map (fun e => (e.identifiers, e.specializationOf)) =
        some (["key"], ["person"]) := by
  have reordered : contracts.Reordered contractsBackwards :=
    ⟨(List.reverse_perm _).symm, (List.reverse_perm _).symm, rfl, rfl⟩
  have explicit : contracts.Explicit :=
    ⟨by decide, by decide, by decide, by decide⟩
  obtain ⟨s, t, drawn, redrawn, same⟩ | ⟨e, failed, _⟩ :=
    same_of_reordered reordered explicit ⟨"staff", "1.0", true⟩
  · obtain rfl : contractsBackwards.constraints.foldl Schema.addConstraint
        (contractsBackwards.edgeSchema ⟨"staff", "1.0", true⟩) = t := Except.ok.inj redrawn
    -- backwards the roles are drawn in their order
    have placed : (contractsBackwards.placedEdges (contractsBackwards.nodeSchema
        ⟨"staff", "1.0", true⟩)).Pairwise fun a b => a.precedes b = true := by decide +kernel
    refine ⟨reordered, explicit, s, _, drawn, redrawn, same, ?_⟩
    rw [same.factTypes, same.entities]
    simp only [edgeSchema, Schema.addPredicators, Schema.addRoles,
      PlacedEdge.ordered_of_pairwise placed]
    decide +kernel
  · cases failed

end Graph

end FactModel
