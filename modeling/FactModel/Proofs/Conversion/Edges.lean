import FactModel.Proofs.Conversion.Lookups
import FactModel.Proofs.Conversion.Nodes
import FactModel.Proofs.Schema.Arranged

/-!
What the edges of a drawing make: one role for each edge that joins a fact type to an object, at
the place that the edge has among those of its fact type.
-/

namespace FactModel

namespace PlacedEdge

theorem precedes_trans (a b c : PlacedEdge) (first : a.precedes b = true)
    (second : b.precedes c = true) : a.precedes c = true := by
  unfold precedes at first second ⊢
  generalize a.edge.position = p at first ⊢
  generalize b.edge.position = q at first second
  generalize c.edge.position = r at second ⊢
  cases p with
  | none =>
    cases q with
    | none => exact second
    | some q => cases first
  | some p =>
    cases r with
    | none => rfl
    | some r =>
      cases q with
      | none => cases second
      | some q =>
        simp only [decide_eq_true_eq] at first second ⊢
        exact Int.le_trans first second

theorem precedes_total (a b : PlacedEdge) : (a.precedes b || b.precedes a) = true := by
  unfold precedes
  cases a.edge.position <;> cases b.edge.position <;> simp
  exact Int.le_total _ _

variable {edges : List PlacedEdge} {fact : String}

theorem mem_ordered {p : PlacedEdge} : p ∈ ordered edges fact ↔ p ∈ edges ∧ p.factType = fact := by
  rw [ordered, List.mem_mergeSort, List.mem_filter, beq_iff_eq]

theorem pairwise_ordered (edges : List PlacedEdge) (fact : String) :
    (ordered edges fact).Pairwise fun a b => a.precedes b = true :=
  List.pairwise_mergeSort precedes_trans precedes_total _

theorem ordered_perm (edges : List PlacedEdge) (fact : String) :
    (ordered edges fact).Perm (edges.filter fun p => p.factType == fact) :=
  List.mergeSort_perm _ _

/-- Edges that are drawn in order stay as they are drawn. -/
theorem ordered_of_pairwise (drawn : edges.Pairwise fun a b => a.precedes b = true) :
    ordered edges fact = edges.filter fun p => p.factType == fact :=
  List.mergeSort_of_pairwise (drawn.filter _)

theorem nodup_ordered (distinct : (edges.map (·.edge.id)).Nodup) (fact : String) :
    ((ordered edges fact).map (·.edge.id)).Nodup :=
  ((ordered_perm edges fact).map _).nodup_iff.mpr (distinct.sublist (List.filter_sublist.map _))

end PlacedEdge

namespace Schema

open PlacedEdge

/-- The roles of a fact type, in order. -/
def rolesOf (edges : List PlacedEdge) (fact : String) : List String :=
  (ordered edges fact).map (·.edge.id)

/-- The role of an edge, at its place among the edges of its fact type. -/
def seated (edges : List PlacedEdge) (p : PlacedEdge) : Predicator :=
  { p.predicator with position := (rolesOf edges p.factType).idxOf p.edge.id }

variable {s : Schema} {edges : List PlacedEdge}

theorem addRoles_eq (edges : List PlacedEdge) (fact : String) : s.addRoles edges fact =
    { s with
      factTypes := s.factTypes.modify fact fun f => { f with predicators := rolesOf edges fact }
      predicators := placeFrom s.predicators (rolesOf edges fact) 0 } := rfl

theorem find?_factTypes_addRoles (facts : List String) (id : String) :
    (facts.foldl (fun s fact => s.addRoles edges fact) s).factTypes.find? id =
      (s.factTypes.find? id).map fun f =>
        if id ∈ facts then { f with predicators := rolesOf edges id } else f := by
  induction facts generalizing s with
  | nil => simp
  | cons fact rest ih =>
    rw [List.foldl_cons, ih, addRoles_eq]
    dsimp only
    rw [OrderedMap.find?_modify]
    by_cases here : id = fact
    · subst here
      simp [Option.map_map, Function.comp_def]
    · simp [here]

theorem nodup_rolesOf (distinct : (edges.map (·.edge.id)).Nodup) (fact : String) :
    (rolesOf edges fact).Nodup := nodup_ordered distinct fact

theorem mem_rolesOf (distinct : (edges.map (·.edge.id)).Nodup) {p : PlacedEdge} (member : p ∈ edges)
    {fact : String} : p.edge.id ∈ rolesOf edges fact ↔ p.factType = fact := by
  constructor
  · intro listed
    obtain ⟨q, held, same⟩ := List.mem_map.mp listed
    obtain ⟨inside, owner⟩ := mem_ordered.mp held
    rw [← List.inj_on_of_nodup_map distinct inside member same, owner]
  · rintro rfl
    exact List.mem_map_of_mem (mem_ordered.mpr ⟨member, rfl⟩)

theorem find?_predicators_addRoles (distinct : (edges.map (·.edge.id)).Nodup) {p : PlacedEdge}
    (member : p ∈ edges) {facts : List String} (once : facts.Nodup) :
    (facts.foldl (fun s fact => s.addRoles edges fact) s).predicators.find? p.edge.id =
      (s.predicators.find? p.edge.id).map fun r =>
        if p.factType ∈ facts then
          { r with position := (rolesOf edges p.factType).idxOf p.edge.id }
        else r := by
  induction facts generalizing s with
  | nil => simp
  | cons fact rest ih =>
    rw [List.nodup_cons] at once
    rw [List.foldl_cons, ih once.2, addRoles_eq]
    dsimp only
    by_cases here : p.factType = fact
    · have listed := (mem_rolesOf distinct member).mpr here
      have placed := find?_placeFrom s.predicators (nodup_rolesOf distinct fact) 0
        (List.getElem?_idxOf listed)
      rw [placed]
      subst here
      simp [once.1, Option.map_map, Function.comp_def]
    · have other := fun listed => here ((mem_rolesOf distinct member).mp listed)
      rw [find?_placeFrom_of_not_mem _ _ other]
      simp [here]

/-! All roles of a drawing -/

theorem addPredicators_eq (edges : List PlacedEdge) : s.addPredicators edges =
    (edges.map (·.factType)).eraseDups.foldl (fun s fact => s.addRoles edges fact)
      { s with predicators := s.predicators.putAll (·.edge.id) (some ∘ PlacedEdge.predicator) edges } :=
  rfl

theorem find?_factTypes_addPredicators
    (without : ∀ id f, s.factTypes.find? id = some f → f.predicators = []) (id : String) :
    (s.addPredicators edges).factTypes.find? id =
      (s.factTypes.find? id).map fun f => { f with predicators := rolesOf edges id } := by
  rw [addPredicators_eq, find?_factTypes_addRoles]
  refine Option.map_congr fun f found => ?_
  split
  · rfl
  · rename_i other
    have nothing : rolesOf edges id = [] := by
      refine List.eq_nil_iff_forall_not_mem.mpr fun key listed => other ?_
      obtain ⟨p, held, _⟩ := List.mem_map.mp listed
      obtain ⟨member, rfl⟩ := mem_ordered.mp held
      exact List.mem_eraseDups.mpr (List.mem_map_of_mem member)
    rw [nothing, ← without id f found]

theorem find?_predicators_addPredicators (distinct : (edges.map (·.edge.id)).Nodup)
    (empty : s.predicators = ∅) {key : String} {r : Predicator} :
    (s.addPredicators edges).predicators.find? key = some r ↔
      ∃ p ∈ edges, p.edge.id = key ∧ seated edges p = r := by
  have seats : ∀ p ∈ edges,
      (s.addPredicators edges).predicators.find? p.edge.id = some (seated edges p) := by
    intro p member
    have here : p.factType ∈ (edges.map (·.factType)).eraseDups :=
      List.mem_eraseDups.mpr (List.mem_map_of_mem member)
    have made : (some ∘ predicator) p = some p.predicator := rfl
    rw [addPredicators_eq, find?_predicators_addRoles distinct member (nodup_eraseDups _)]
    dsimp only
    rw [empty, OrderedMap.find?_putAll distinct member made, Option.map_some, if_pos here, seated]
  constructor
  · intro found
    have keys : ∀ (facts : List String) (t : Schema),
        (facts.foldl (fun s fact => s.addRoles edges fact) t).predicators.keys =
          t.predicators.keys := by
      intro facts
      induction facts with
      | nil => exact fun _ => rfl
      | cons fact rest ih => exact fun t => (ih _).trans (keys_addRoles t edges fact).2
    have held := OrderedMap.mem_keys_of_find? found
    rw [addPredicators_eq, keys, empty, OrderedMap.mem_keys_putAll] at held
    obtain nothing | ⟨p, member, rfl, _⟩ := held
    · cases nothing
    · exact ⟨p, member, rfl, Option.some.inj ((seats p member).symm.trans found)⟩
  · rintro ⟨p, member, rfl, rfl⟩
    exact seats p member

/-- Only fact types and roles change. -/
theorem addPredicators_frame (s : Schema) (edges : List PlacedEdge) : s.addPredicators edges =
    { s with
      factTypes := (s.addPredicators edges).factTypes
      predicators := (s.addPredicators edges).predicators } := by
  have frame : ∀ (facts : List String) (t : Schema),
      facts.foldl (fun s fact => s.addRoles edges fact) t =
        { t with
          factTypes := (facts.foldl (fun s fact => s.addRoles edges fact) t).factTypes
          predicators := (facts.foldl (fun s fact => s.addRoles edges fact) t).predicators } := by
    intro facts
    induction facts with
    | nil => exact fun _ => rfl
    | cons fact rest ih => exact fun t => ih (t.addRoles edges fact)
  exact frame _ _

theorem hasObject_addPredicators (edges : List PlacedEdge) (id : String) :
    (s.addPredicators edges).hasObject id = s.hasObject id := by
  rw [addPredicators_frame]
  rfl

/-- The roles of edges between fact types and objects fit together. -/
theorem arranged_addPredicators (distinct : (edges.map (·.edge.id)).Nodup)
    (empty : s.predicators = ∅)
    (without : ∀ id f, s.factTypes.find? id = some f → f.predicators = [])
    (known : ∀ p ∈ edges, p.factType ∈ s.factTypes.keys ∧ s.hasObject p.object = true) :
    (s.addPredicators edges).Arranged := by
  have lists : ∀ {id f}, (s.addPredicators edges).factTypes.find? id = some f →
      f.predicators = rolesOf edges id := by
    intro id f found
    rw [find?_factTypes_addPredicators without] at found
    obtain ⟨plain, _, rfl⟩ := Option.map_eq_some_iff.mp found
    rfl
  constructor
  · constructor
    · intro id f found
      rw [lists found]
      exact nodup_rolesOf distinct id
    · intro id f i key found here
      rw [lists found] at here
      obtain ⟨p, held, rfl⟩ := List.mem_map.mp (List.mem_of_getElem? here)
      obtain ⟨member, rfl⟩ := mem_ordered.mp held
      have role := (find?_predicators_addPredicators distinct empty).mpr ⟨p, member, rfl, rfl⟩
      refine ⟨seated edges p, role, rfl, ?_⟩
      obtain ⟨bound, same⟩ := List.getElem?_eq_some_iff.mp here
      have place := (nodup_rolesOf distinct p.factType).idxOf_getElem i bound
      rw [same] at place
      exact congrArg Int.ofNat place
    · intro key r found
      obtain ⟨p, member, rfl, rfl⟩ := (find?_predicators_addPredicators distinct empty).mp found
      obtain ⟨f, held⟩ := Option.isSome_iff_exists.mp
        ((s.factTypes.find?_isSome_iff _).mpr (known p member).1)
      refine ⟨{ f with predicators := rolesOf edges p.factType }, ?_, ?_⟩
      · show (s.addPredicators edges).factTypes.find? p.factType = _
        rw [find?_factTypes_addPredicators without, held, Option.map_some]
      · exact (mem_rolesOf distinct member).mpr rfl
  · intro key r found
    obtain ⟨p, member, rfl, rfl⟩ := (find?_predicators_addPredicators distinct empty).mp found
    rw [object?_isSome_iff, hasObject_addPredicators]
    exact (known p member).2

end Schema

end FactModel
