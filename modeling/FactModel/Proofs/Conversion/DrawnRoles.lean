import FactModel.Proofs.Conversion.Edges

/-!
The roles of a converted drawing: the edges that join a fact type to an object, in the order that
their positions ask for. What comes after the edges changes a role in whether it is optional only.
-/

namespace FactModel

/-! Specializations and constraints leave roles where they are -/

def Predicator.relaxed (r : Predicator) : Predicator := { r with isOptional := true }

namespace Schema

/-- The same fact types and objects, and the same roles up to whether they are optional. -/
structure RolesKept (s t : Schema) : Prop where
  factTypes : t.factTypes = s.factTypes
  roles : ∀ key, (t.predicators.find? key).map Predicator.relaxed =
    (s.predicators.find? key).map Predicator.relaxed
  objects : ∀ id, t.hasObject id = s.hasObject id

variable {s t u : Schema}

namespace RolesKept

theorem refl (s : Schema) : s.RolesKept s := ⟨rfl, fun _ => rfl, fun _ => rfl⟩

theorem trans (first : s.RolesKept t) (second : t.RolesKept u) : s.RolesKept u where
  factTypes := second.factTypes.trans first.factTypes
  roles key := (second.roles key).trans (first.roles key)
  objects id := (second.objects id).trans (first.objects id)

theorem foldl {ι : Type} {f : Schema → ι → Schema}
    (step : ∀ (s : Schema) i, s.RolesKept (f s i)) (s : Schema) (items : List ι) :
    s.RolesKept (items.foldl f s) := by
  induction items generalizing s with
  | nil => exact refl s
  | cons i rest ih => exact (step s i).trans (ih _)

theorem of_relinked (relinked : s.Relinked t) : s.RolesKept t where
  factTypes := relinked.factTypes
  roles key := by rw [relinked.predicators]
  objects := relinked.hasObject

theorem addSpecialization (s : Schema) (e : GraphEdge) : s.RolesKept (s.addSpecialization e) := by
  unfold Schema.addSpecialization
  split
  · refine of_relinked (.of_entities s fun key child => ?_)
    split <;> rfl
  · exact refl s

theorem addUnique (s : Schema) (a : GraphConstraint) : s.RolesKept (s.addUnique a) := by
  unfold Schema.addUnique
  split
  · exact refl s
  · refine .trans ?_ (of_relinked (.attachIdentifier _ a.id a.isPrimary))
    exact ⟨rfl, fun _ => rfl, fun _ => rfl⟩

theorem addMandatory (s : Schema) (a : GraphConstraint) : s.RolesKept (s.addMandatory a) := by
  unfold Schema.addMandatory
  split
  · refine ⟨rfl, fun other => ?_, fun _ => rfl⟩
    exact OrderedMap.map_find?_modify s.predicators _ other fun _ => rfl
  · exact refl s

theorem addConstraint (s : Schema) (a : GraphConstraint) : s.RolesKept (s.addConstraint a) := by
  unfold Schema.addConstraint
  split
  · exact addUnique s a
  split
  · exact addMandatory s a
  split
  · exact ⟨rfl, fun _ => rfl, fun _ => rfl⟩
  · exact refl s
  split
  · exact ⟨rfl, fun _ => rfl, fun _ => rfl⟩
  split
  · exact ⟨rfl, fun _ => rfl, fun _ => rfl⟩
  split
  · exact ⟨rfl, fun _ => rfl, fun _ => rfl⟩
  split
  · exact ⟨rfl, fun _ => rfl, fun _ => rfl⟩
  split
  · exact ⟨rfl, fun _ => rfl, fun _ => rfl⟩
  · exact refl s

theorem arranged (kept : s.RolesKept t) (arranged : s.Arranged) : t.Arranged := by
  have seats : ∀ r : Predicator, seat r = seat r.relaxed := fun _ => rfl
  refine arranged.of_same (fun id => by rw [kept.factTypes]) (fun key => ?_) fun id found => ?_
  · have same := congrArg (Option.map seat) (kept.roles key)
    simpa only [Option.map_map, Function.comp_def, ← seats] using same
  · rwa [object?_isSome_iff, kept.objects, ← object?_isSome_iff]

end RolesKept

end Schema

/-! Edges that become roles -/

namespace Graph

/-- A predicator edge between a fact type and an object. What an id is the id of is said by the
last node that has it; an object is one of any node of the id. -/
structure Joins (g : Graph) (e : GraphEdge) (fact object : String) : Prop where
  drawn : e ∈ g.edges
  predicator : e.kind = .predicator
  ends : e.source = fact ∧ e.target = object ∨ e.target = fact ∧ e.source = object
  factType : g.nodeKind? fact = some .factType
  single : g.nodeKind? object ≠ some .factType
  object : ∃ n ∈ g.nodes, n.id = object ∧ n.kind.isObject = true

variable {g : Graph} {o : ConversionOptions} {s : Schema} {e : GraphEdge} {fact object : String}

theorem ends?_eq_some : g.ends? e = some (fact, object) ↔
    (e.source = fact ∧ e.target = object ∨ e.target = fact ∧ e.source = object) ∧
      g.nodeKind? fact = some .factType ∧ g.nodeKind? object ≠ some .factType := by
  unfold ends?
  dsimp only
  constructor
  · intro found
    split at found
    · rename_i source target
      cases found
      exact ⟨.inl ⟨rfl, rfl⟩, by simpa using source, by simpa using target⟩
    · rename_i source target
      cases found
      exact ⟨.inr ⟨rfl, rfl⟩, by simpa using target, by simpa using source⟩
    · cases found
  · rintro ⟨⟨rfl, rfl⟩ | ⟨rfl, rfl⟩, isFact, other⟩
    · simp [isFact, beq_eq_false_iff_ne.mpr other]
    · simp [isFact, beq_eq_false_iff_ne.mpr other]

theorem placeEdge_eq_some {p : PlacedEdge} : (g.placeEdge s e).toOption = some p ↔
    g.ends? e = some (p.factType, p.object) ∧ s.factTypes.contains p.factType = true ∧
      s.hasObject p.object = true ∧ p.edge = e := by
  unfold placeEdge
  constructor
  · intro found
    split at found
    · cases found
    · rename_i fact object joined
      split at found
      · rename_i known
        rw [Bool.and_eq_true] at known
        cases found
        exact ⟨joined, known.1, known.2, rfl⟩
      · cases found
  · rintro ⟨joined, isFact, isObject, rfl⟩
    simp only [joined, isFact, isObject, Bool.and_true, if_true]
    rfl

theorem mem_factTypes_of_nodeKind? (isFact : g.nodeKind? fact = some .factType) :
    fact ∈ (g.nodeSchema o).factTypes.keys := by
  obtain ⟨n, found, kind⟩ := Option.map_eq_some_iff.mp isFact
  have same : n.id = fact := by simpa using List.find?_some found
  exact (g.mem_factTypes_nodeSchema o fact).mpr
    ⟨n, List.mem_reverse.mp (List.mem_of_find?_eq_some found), same, kind⟩

theorem Joins.placeEdge (joins : g.Joins e fact object) :
    (g.placeEdge (g.nodeSchema o) e).toOption = some ⟨e, fact, object⟩ := by
  have ends := ends?_eq_some.mpr ⟨joins.ends, joins.factType, joins.single⟩
  refine placeEdge_eq_some.mpr ⟨ends, ?_, ?_, rfl⟩
  · exact (OrderedMap.contains_iff _ _).mpr (mem_factTypes_of_nodeKind? joins.factType)
  · exact (g.hasObject_nodeSchema o _).mpr joins.object

theorem mem_placedEdges_iff {p : PlacedEdge} :
    p ∈ g.placedEdges (g.nodeSchema o) ↔ g.Joins p.edge p.factType p.object := by
  rw [placedEdges, List.mem_filterMap]
  constructor
  · rintro ⟨e, listed, placed⟩
    obtain ⟨joined, _, isObject, rfl⟩ := placeEdge_eq_some.mp placed
    obtain ⟨ends, isFact, other⟩ := ends?_eq_some.mp joined
    obtain ⟨drawn, kind⟩ := List.mem_filter.mp listed
    have object := (g.hasObject_nodeSchema o _).mp isObject
    exact ⟨drawn, by simpa using kind, ends, isFact, other, object⟩
  · intro joins
    exact ⟨p.edge, List.mem_filter.mpr ⟨joins.drawn, by simp [joins.predicator]⟩, joins.placeEdge⟩

theorem placedEdges_sublist (g : Graph) (s : Schema) :
    ((g.placedEdges s).map (·.edge)).Sublist (g.edges.filter fun e => e.kind == .predicator) := by
  unfold placedEdges
  induction g.edges.filter fun e => e.kind == .predicator with
  | nil => exact List.Sublist.slnil
  | cons e rest ih =>
    cases placed : (g.placeEdge s e).toOption with
    | none =>
      simp only [List.filterMap_cons, placed]
      exact ih.cons e
    | some p =>
      obtain ⟨_, _, _, rfl⟩ := placeEdge_eq_some.mp placed
      simp only [List.filterMap_cons, placed, List.map_cons]
      exact ih.cons_cons p.edge

theorem nodup_placedEdges (s : Schema)
    (distinct : ((g.edges.filter fun e => e.kind == .predicator).map (·.id)).Nodup) :
    ((g.placedEdges s).map (·.edge.id)).Nodup := by
  have inside := (g.placedEdges_sublist s).map (·.id)
  rw [List.map_map] at inside
  exact distinct.sublist inside

end Graph

/-! The order of roles -/

/-- An explicit position leads a greater one and none. -/
def Leads (p q : Option Int) : Prop := ∃ i ∈ p, ∀ j ∈ q, i < j

/-- Ascending positions that are consecutive stand at the places they name. -/
theorem eq_add_of_ascending {positions : List (Option Int)}
    (ascending : positions.Pairwise fun p q => Leads p q ∨ q = none) {base limit : Int}
    (explicit : ∀ i, some i ∈ positions ↔ base ≤ i ∧ i < limit) {n : Nat} {i : Int}
    (here : positions[n]? = some (some i)) : i = base + n := by
  induction positions generalizing base n with
  | nil => simp at here
  | cons first rest ih =>
    obtain ⟨leads, ascends⟩ := List.pairwise_cons.mp ascending
    -- the first position is explicit, since it leads an explicit one or is one
    obtain ⟨k, rfl⟩ : ∃ k, first = some k := by
      cases n with
      | zero => exact ⟨i, by simpa using here⟩
      | succ n =>
        have later : some i ∈ rest := List.mem_of_getElem? (by simpa using here)
        rcases leads _ later with ⟨k, same, _⟩ | none
        · exact ⟨k, same⟩
        · cases none
    have above : ∀ j, some j ∈ rest → k < j := by
      intro j later
      rcases leads _ later with ⟨k', same, less⟩ | none
      · cases same
        exact less j rfl
      · cases none
    have bounds := (explicit k).mp List.mem_cons_self
    have least : k = base := by
      rcases List.mem_cons.mp ((explicit base).mpr ⟨Int.le_refl base, by omega⟩) with same | later
      · exact (Option.some.inj same).symm
      · have := above base later
        omega
    subst least
    cases n with
    | zero =>
      have same : k = i := by simpa using here
      omega
    | succ n =>
      have remaining : ∀ j, some j ∈ rest ↔ k + 1 ≤ j ∧ j < limit := by
        intro j
        have all := explicit j
        rw [List.mem_cons, Option.some.injEq] at all
        constructor
        · intro later
          have := above j later
          have := all.mp (.inr later)
          omega
        · intro inside
          rcases all.mpr ⟨by omega, inside.2⟩ with same | later
          · omega
          · exact later
      have := ih ascends remaining (by simpa using here)
      omega

namespace PlacedEdge

variable {edges : List PlacedEdge} {fact : String} {a b : PlacedEdge}

theorem precedes_of_leads (leads : Leads a.edge.position b.edge.position) :
    a.precedes b = true ∧ b.precedes a = false := by
  obtain ⟨i, here, less⟩ := leads
  rw [Option.mem_def] at here
  unfold precedes
  cases there : b.edge.position with
  | none => simp [here]
  | some j =>
    have := less j there
    simp only [here, decide_eq_true_eq, decide_eq_false_iff_not]
    omega

theorem leads_of_precedes (precedes : a.precedes b = true)
    (apart : a.edge.position = b.edge.position → b.edge.position = none) :
    Leads a.edge.position b.edge.position ∨ b.edge.position = none := by
  cases there : b.edge.position with
  | none => exact .inr rfl
  | some j =>
    left
    unfold PlacedEdge.precedes at precedes
    cases here : a.edge.position with
    | none => simp [here, there] at precedes
    | some i =>
      have upTo : i ≤ j := by simpa [here, there] using precedes
      have other : i ≠ j := by
        rintro rfl
        have none := apart (here.trans there.symm)
        rw [there] at none
        cases none
      refine ⟨i, rfl, fun k same => ?_⟩
      cases same
      omega

theorem precedes_of_tied (tied : a.edge.position = b.edge.position) : a.precedes b = true := by
  unfold precedes
  rw [tied]
  cases b.edge.position <;> simp

theorem pair_sublist_of_leads (first : a ∈ ordered edges fact) (second : b ∈ ordered edges fact)
    (leads : Leads a.edge.position b.edge.position) : [a, b].Sublist (ordered edges fact) := by
  obtain ⟨forward, backward⟩ := precedes_of_leads leads
  have apart : a ≠ b := by
    rintro rfl
    rw [forward] at backward
    cases backward
  exact pair_sublist_of_pairwise (pairwise_ordered edges fact) first second (by simp [backward]) apart

theorem pair_sublist_of_tied (drawn : [a, b].Sublist edges) (first : a.factType = fact)
    (second : b.factType = fact) (tied : a.edge.position = b.edge.position) :
    [a, b].Sublist (ordered edges fact) := by
  refine List.pair_sublist_mergeSort precedes_trans precedes_total (precedes_of_tied tied) ?_
  have kept := drawn.filter fun p => p.factType == fact
  simpa [first, second] using kept

end PlacedEdge

/-! The roles of a converted drawing -/

namespace Graph

/-- The roles of a schema are the edges of a drawing that join. -/
structure RolesDrawn (g : Graph) (s : Schema) : Prop where
  edge : ∀ key r, s.predicators.find? key = some r →
    ∃ e, g.Joins e r.factTypeId r.objectId ∧ e.id = key ∧ r.id = key ∧
      r.name = labelOr Predicator.defaultName e.label
  role : ∀ e fact object, g.Joins e fact object →
    ∃ r, s.predicators.find? e.id = some r ∧ r.factTypeId = fact ∧ r.objectId = object

/-- Fact types list their roles in the order of the positions that are drawn; where these do not
tell, in the order of the edges. -/
structure RolesOrdered (g : Graph) (s : Schema) : Prop where
  led : ∀ {a b fact x y f}, g.Joins a fact x → g.Joins b fact y →
    s.factTypes.find? fact = some f → Leads a.position b.position →
    [a.id, b.id].Sublist f.predicators
  tied : ∀ {a b fact x y f}, g.Joins a fact x → g.Joins b fact y →
    s.factTypes.find? fact = some f → a.position = b.position → [a, b].Sublist g.edges →
    [a.id, b.id].Sublist f.predicators
  /-- The explicit positions of a fact type are those of its roles where they are the first
  numbers, each of one edge. -/
  exact : ∀ {fact} {limit : Int},
    (∀ i, (∃ e x, g.Joins e fact x ∧ e.position = some i) ↔ 0 ≤ i ∧ i < limit) →
    (∀ a b x y i, g.Joins a fact x → g.Joins b fact y → a.position = some i →
      b.position = some i → a = b) →
    ∀ e x r i, g.Joins e fact x → s.predicators.find? e.id = some r → e.position = some i →
      r.position = i

variable {g : Graph} {o : ConversionOptions} {s : Schema}

open Schema PlacedEdge

/-- The edges that join, with the ends they join. -/
abbrev placed (g : Graph) (o : ConversionOptions) : List PlacedEdge :=
  g.placedEdges (g.nodeSchema o)

def roleSchema (g : Graph) (o : ConversionOptions) : Schema :=
  (g.nodeSchema o).addPredicators (g.placed o)

theorem rolesKept_edgeSchema (g : Graph) (o : ConversionOptions) :
    (g.roleSchema o).RolesKept (g.edgeSchema o) :=
  .foldl RolesKept.addSpecialization _ g.edges

theorem rolesKept_of_toSchema (converted : g.toSchema o = .ok s) : (g.roleSchema o).RolesKept s := by
  unfold toSchema at converted
  split at converted
  · cases converted
  · cases converted
    exact (g.rolesKept_edgeSchema o).trans (.foldl RolesKept.addConstraint _ g.constraints)

theorem predicators_eq_empty (g : Graph) (o : ConversionOptions) :
    (g.nodeSchema o).predicators = ∅ := by rw [nodeSchema_eq]

theorem arranged_roleSchema (distinct : ((g.placed o).map (·.edge.id)).Nodup) :
    (g.roleSchema o).Arranged := by
  refine arranged_addPredicators distinct (g.predicators_eq_empty o)
    (fun _ _ found => g.predicators_nodeSchema o found) fun p listed => ?_
  have joins := mem_placedEdges_iff.mp listed
  exact ⟨mem_placedEdges listed, (g.hasObject_nodeSchema o _).mpr joins.object⟩

/-- Explicit positions that differ ascend. -/
theorem ascending_of_once (distinct : ((g.placed o).map (·.edge.id)).Nodup) {fact : String}
    (once : ∀ a b x y i, g.Joins a fact x → g.Joins b fact y → a.position = some i →
      b.position = some i → a = b) :
    ((ordered (g.placed o) fact).map (·.edge.position)).Pairwise
      fun p q => Leads p q ∨ q = none := by
  have joins : ∀ {a}, a ∈ ordered (g.placed o) fact → g.Joins a.edge fact a.object := by
    intro a listed
    obtain ⟨member, rfl⟩ := mem_ordered.mp listed
    exact mem_placedEdges_iff.mp member
  have apart := List.pairwise_map.mp (nodup_ordered distinct fact)
  refine List.pairwise_map.mpr (((pairwise_ordered _ fact).and apart).imp_of_mem ?_)
  intro a b first second ⟨precedes, other⟩
  refine leads_of_precedes precedes fun tied => ?_
  by_contra explicit
  obtain ⟨i, there⟩ := Option.ne_none_iff_exists'.mp explicit
  have same := once _ _ _ _ i (joins first) (joins second) (tied.trans there) there
  exact other (congrArg GraphEdge.id same)

section Kept

variable (kept : (g.roleSchema o).RolesKept s)
include kept

theorem rolesOf_of_kept {id : String} {f : FactType} (found : s.factTypes.find? id = some f) :
    f.predicators = rolesOf (g.placed o) id := by
  rw [kept.factTypes, roleSchema, find?_factTypes_addPredicators
    fun _ _ found => g.predicators_nodeSchema o found] at found
  obtain ⟨_, _, rfl⟩ := Option.map_eq_some_iff.mp found
  rfl

theorem seated_of_kept (distinct : ((g.placed o).map (·.edge.id)).Nodup) {key : String}
    {r : Predicator} (found : s.predicators.find? key = some r) :
    ∃ p ∈ g.placed o, p.edge.id = key ∧ seated (g.placed o) p = r.relaxed := by
  have same := kept.roles key
  rw [found, Option.map_some] at same
  obtain ⟨old, held, equal⟩ := Option.map_eq_some_iff.mp same.symm
  obtain ⟨p, member, named, rfl⟩ :=
    (find?_predicators_addPredicators distinct (g.predicators_eq_empty o)).mp held
  exact ⟨p, member, named, equal⟩

theorem exists_of_kept (distinct : ((g.placed o).map (·.edge.id)).Nodup) {p : PlacedEdge}
    (member : p ∈ g.placed o) :
    ∃ r, s.predicators.find? p.edge.id = some r ∧ r.relaxed = seated (g.placed o) p := by
  have same := kept.roles p.edge.id
  have held := (find?_predicators_addPredicators distinct (g.predicators_eq_empty o)).mpr
    ⟨p, member, rfl, rfl⟩
  rw [roleSchema, held, Option.map_some] at same
  exact Option.map_eq_some_iff.mp same

theorem rolesDrawn_of_kept (distinct : ((g.placed o).map (·.edge.id)).Nodup) : g.RolesDrawn s where
  edge key r found := by
    obtain ⟨p, member, named, seat⟩ := seated_of_kept kept distinct found
    have joins := mem_placedEdges_iff.mp member
    have fact : p.factType = r.factTypeId := congrArg Predicator.factTypeId seat
    have object : p.object = r.objectId := congrArg Predicator.objectId seat
    have id : p.edge.id = r.id := congrArg Predicator.id seat
    have name := congrArg Predicator.name seat
    exact ⟨p.edge, fact ▸ object ▸ joins, named, id.symm.trans named, name.symm⟩
  role e fact object joins := by
    have member : ⟨e, fact, object⟩ ∈ g.placed o := mem_placedEdges_iff.mpr joins
    obtain ⟨r, found, seat⟩ := exists_of_kept kept distinct member
    exact ⟨r, found, congrArg Predicator.factTypeId seat, congrArg Predicator.objectId seat⟩

theorem position_of_kept (distinct : ((g.placed o).map (·.edge.id)).Nodup) {p : PlacedEdge}
    (member : p ∈ g.placed o) {n : Nat} (here : (ordered (g.placed o) p.factType)[n]? = some p)
    {r : Predicator} (found : s.predicators.find? p.edge.id = some r) : r.position = n := by
  obtain ⟨r', held, seat⟩ := exists_of_kept kept distinct member
  rw [found] at held
  cases held
  have named : (rolesOf (g.placed o) p.factType)[n]? = some p.edge.id := by
    rw [rolesOf, List.getElem?_map, here, Option.map_some]
  obtain ⟨bound, same⟩ := List.getElem?_eq_some_iff.mp named
  have index := (nodup_rolesOf distinct p.factType).idxOf_getElem n bound
  rw [same] at index
  have seated : r.position = (rolesOf (g.placed o) p.factType).idxOf p.edge.id :=
    congrArg Predicator.position seat
  rw [seated, index]

theorem rolesOrdered_of_kept (distinct : ((g.placed o).map (·.edge.id)).Nodup) :
    g.RolesOrdered s where
  led {a b fact x y f} first second found leads := by
    rw [rolesOf_of_kept kept found]
    have before : [⟨a, fact, x⟩, ⟨b, fact, y⟩].Sublist (ordered (g.placed o) fact) :=
      pair_sublist_of_leads (mem_ordered.mpr ⟨mem_placedEdges_iff.mpr first, rfl⟩)
        (mem_ordered.mpr ⟨mem_placedEdges_iff.mpr second, rfl⟩) leads
    exact before.map (·.edge.id)
  tied {a b fact x y f} first second found tied drawn := by
    rw [rolesOf_of_kept kept found]
    have edges := (drawn.filter fun e => e.kind == .predicator).filterMap
      fun e => (g.placeEdge (g.nodeSchema o) e).toOption
    have both : [⟨a, fact, x⟩, ⟨b, fact, y⟩].Sublist (g.placed o) := by
      simpa [placed, placedEdges, first.predicator, second.predicator, first.placeEdge,
        second.placeEdge] using edges
    exact (pair_sublist_of_tied both rfl rfl tied).map (·.edge.id)
  exact {fact limit} explicit once e x r i joins found position := by
    have member : ⟨e, fact, x⟩ ∈ g.placed o := mem_placedEdges_iff.mpr joins
    obtain ⟨n, here⟩ := List.getElem?_of_mem (mem_ordered.mpr ⟨member, rfl⟩)
    have place := position_of_kept kept distinct member here found
    have ascending := ascending_of_once distinct once
    have all : ∀ i, some i ∈ (ordered (g.placed o) fact).map (·.edge.position) ↔
        0 ≤ i ∧ i < limit := by
      intro i
      rw [← explicit, List.mem_map]
      constructor
      · rintro ⟨p, listed, same⟩
        obtain ⟨inside, rfl⟩ := mem_ordered.mp listed
        exact ⟨p.edge, p.object, mem_placedEdges_iff.mp inside, same⟩
      · rintro ⟨e, x, joins, same⟩
        exact ⟨⟨e, fact, x⟩, mem_ordered.mpr ⟨mem_placedEdges_iff.mpr joins, rfl⟩, same⟩
    have listed : ((ordered (g.placed o) fact).map (·.edge.position))[n]? = some (some i) := by
      rw [List.getElem?_map, here, Option.map_some, position]
    have consecutive := eq_add_of_ascending ascending all listed
    omega

end Kept

/-- The roles of a converted drawing are the edges that join, in order, and no check of roles
reports anything. -/
theorem roles_of_toSchema (g : Graph) (o : ConversionOptions) (lenient : o.strict = false)
    (distinct : ((g.edges.filter fun e => e.kind == .predicator).map (·.id)).Nodup) :
    ∃ s, g.toSchema o = .ok s ∧ g.RolesDrawn s ∧ s.Arranged ∧ g.RolesOrdered s ∧
      ∀ issue ∈ s.issues, issue.report.code ∉ ["PRED_OBJECT_MISSING", "PRED_FACT_TYPE_MISSING",
        "FACT_PRED_MISSING", "FACT_PRED_FOREIGN"] := by
  obtain ⟨s, converted⟩ : ∃ s, g.toSchema o = .ok s :=
    ⟨_, by rw [toSchema, lenient]⟩
  have kept := rolesKept_of_toSchema converted
  have apart := g.nodup_placedEdges (g.nodeSchema o) distinct
  have arranged := kept.arranged (arranged_roleSchema apart)
  exact ⟨s, converted, rolesDrawn_of_kept kept apart, arranged, rolesOrdered_of_kept kept apart,
    fun issue reported => arranged.code_of_issue reported⟩

/-- A company hires people; the second role is drawn first, from the object to the fact type. -/
def hiring : Graph where
  nodes := [
    ⟨"person", .entity, "Person", none, none, none, none⟩,
    ⟨"company", .entity, "Company", none, none, none, none⟩,
    ⟨"hires", .factType, "hires", none, none, none, none⟩]
  edges := [
    ⟨"hired", .predicator, "person", "hires", "", some 1⟩,
    ⟨"employer", .predicator, "hires", "company", "", some 0⟩,
    ⟨"nothing", .predicator, "person", "company", "", none⟩]
  constraints := []

theorem roles_of_toSchema_hiring :
    ∃ s, hiring.toSchema ⟨"hiring", "1.0", false⟩ = .ok s ∧ hiring.RolesDrawn s ∧ s.Arranged ∧
      hiring.RolesOrdered s ∧ ∀ issue ∈ s.issues, issue.report.code ∉ ["PRED_OBJECT_MISSING",
        "PRED_FACT_TYPE_MISSING", "FACT_PRED_MISSING", "FACT_PRED_FOREIGN"] :=
  roles_of_toSchema hiring ⟨"hiring", "1.0", false⟩ rfl (by decide)

end Graph

end FactModel
