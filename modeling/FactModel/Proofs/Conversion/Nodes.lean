import FactModel.Conversion
import FactModel.Proofs.Schema.Keyed

/-!
What the nodes of a drawing make: each node at most one element of one kind under its own id, and
a node that stands for a fact type marks it as objectified.
-/

namespace FactModel

namespace OrderedMap

variable {α ι : Type}

/-- Writes what the items yield, each under its own key. -/
def putAll (m : OrderedMap α) (key : ι → String) (value? : ι → Option α) (items : List ι) :
    OrderedMap α :=
  items.foldl (fun m i => match value? i with
    | some value => m.insert (key i) value
    | none => m) m

variable {m : OrderedMap α} {key : ι → String} {value? : ι → Option α} {items : List ι} {k : String}

theorem mem_keys_putAll : k ∈ (m.putAll key value? items).keys ↔
    k ∈ m.keys ∨ ∃ i ∈ items, key i = k ∧ (value? i).isSome = true := by
  induction items generalizing m with
  | nil => simp [putAll]
  | cons i rest ih =>
    rw [putAll, List.foldl_cons]
    refine ih.trans ?_
    rw [List.exists_mem_cons_iff]
    cases value? i with
    | none => simp
    | some value => simp only [mem_keys_insert, Option.isSome_some, and_true, or_assoc, eq_comm]

theorem exists_of_find?_putAll {value : α}
    (found : (m.putAll key value? items).find? k = some value) :
    m.find? k = some value ∨ ∃ i ∈ items, key i = k ∧ value? i = some value := by
  induction items generalizing m with
  | nil => exact .inl found
  | cons i rest ih =>
    rw [putAll, List.foldl_cons] at found
    rcases ih found with before | ⟨j, later, same, made⟩
    · cases made : value? i with
      | none =>
        simp only [made] at before
        exact .inl before
      | some first =>
        simp only [made, find?_insert_eq_some] at before
        rcases before with ⟨rfl, rfl⟩ | ⟨_, old⟩
        · exact .inr ⟨i, List.mem_cons_self, rfl, made⟩
        · exact .inl old
    · exact .inr ⟨j, List.mem_cons_of_mem _ later, same, made⟩

theorem find?_putAll_of_not_mem (other : k ∉ items.map key) :
    (m.putAll key value? items).find? k = m.find? k := by
  induction items generalizing m with
  | nil => rfl
  | cons i rest ih =>
    rw [List.map_cons, List.mem_cons, not_or] at other
    rw [putAll, List.foldl_cons]
    refine (ih other.2).trans ?_
    cases value? i with
    | none => rfl
    | some value => exact (find?_insert ..).trans (if_neg other.1)

/-- Items with keys of their own do not overwrite each other. -/
theorem find?_putAll (distinct : (items.map key).Nodup) {i : ι} (member : i ∈ items) {value : α}
    (made : value? i = some value) : (m.putAll key value? items).find? (key i) = some value := by
  induction items generalizing m with
  | nil => cases member
  | cons first rest ih =>
    rw [List.map_cons, List.nodup_cons] at distinct
    rw [putAll, List.foldl_cons]
    rcases List.mem_cons.mp member with rfl | later
    · refine (find?_putAll_of_not_mem distinct.1).trans ?_
      simp only [made, find?_insert, if_true]
    · exact ih distinct.2 later

theorem find?_putAll_empty (distinct : (items.map key).Nodup) {value : α} :
    ((empty : OrderedMap α).putAll key value? items).find? k = some value ↔
      ∃ i ∈ items, key i = k ∧ value? i = some value := by
  constructor
  · intro found
    rcases exists_of_find?_putAll found with nothing | made
    · cases nothing
    · exact made
  · rintro ⟨i, member, rfl, made⟩
    exact find?_putAll distinct member made

end OrderedMap

namespace GraphNode

def entity? (n : GraphNode) : Option Entity :=
  match n.kind with
  | .entity => some (Schema.plainEntity n.id (labelOr "Unnamed Entity" n.label) none)
  | .objectified => some
    (Schema.plainEntity n.id (labelOr "Unnamed Objectified Fact" n.label) n.objectifiedFactId)
  | _ => none

def labelType? (n : GraphNode) : Option LabelType :=
  match n.kind with
  | .labelType => some
    ⟨n.id, labelOr "Unnamed Label" n.label, DataType.ofCanvas n.dataType, none, none, none, none⟩
  | _ => none

def powerType? (n : GraphNode) : Option PowerType :=
  match n.kind with
  | .powerType => some ⟨n.id, labelOr "Unnamed Power Type" n.label, n.memberEntityId.getD ""⟩
  | _ => none

def sequenceType? (n : GraphNode) : Option SequenceType :=
  match n.kind with
  | .sequenceType => some
    ⟨n.id, labelOr "Unnamed Sequence" n.label, n.memberEntityId.getD "", true, false⟩
  | _ => none

def factType? (n : GraphNode) : Option FactType :=
  match n.kind with
  | .factType => some ⟨n.id, labelOr "Unnamed Fact" n.label, [], false, none⟩
  | _ => none

/-- The fact type that an objectified node stands for. -/
def standsFor? (n : GraphNode) : Option String :=
  match n.kind, n.objectifiedFactId with
  | .objectified, some fact => if fact.isEmpty then none else some fact
  | _, _ => none

theorem factType?_eq_some {n : GraphNode} {f : FactType} (made : n.factType? = some f) :
    n.kind = .factType ∧ f.predicators = [] := by
  unfold factType? at made
  split at made
  · cases made
    exact ⟨‹_›, rfl⟩
  · cases made

theorem factType?_isSome_iff (n : GraphNode) : n.factType?.isSome = true ↔ n.kind = .factType := by
  cases kind : n.kind <;> simp [factType?, kind]

end GraphNode

def FactType.objectifiedBy (f : FactType) (n : GraphNode) : FactType :=
  { f with isObjectified := true, objectifiedAsId := some n.id }

def OrderedMap.objectify (m : OrderedMap FactType) (n : GraphNode) : OrderedMap FactType :=
  match n.standsFor? with
  | some fact => m.modify fact fun f => f.objectifiedBy n
  | none => m

/-- The kinds of nodes that are drawn for objects. -/
def NodeKind.isObject : NodeKind → Bool
  | factType => false
  | other _ => false
  | _ => true

namespace Schema

variable {s : Schema}

theorem foldl_addNode (s : Schema) (nodes : List GraphNode) :
    nodes.foldl addNode s = { s with
      entities := s.entities.putAll (·.id) GraphNode.entity? nodes
      labelTypes := s.labelTypes.putAll (·.id) GraphNode.labelType? nodes
      powerTypes := s.powerTypes.putAll (·.id) GraphNode.powerType? nodes
      sequenceTypes := s.sequenceTypes.putAll (·.id) GraphNode.sequenceType? nodes
      factTypes := s.factTypes.putAll (·.id) GraphNode.factType? nodes } := by
  induction nodes generalizing s with
  | nil => rfl
  | cons n rest ih =>
    rw [List.foldl_cons, ih]
    simp only [OrderedMap.putAll, List.foldl_cons]
    cases kind : n.kind <;>
      simp only [addNode, GraphNode.entity?, GraphNode.labelType?, GraphNode.powerType?,
        GraphNode.sequenceType?, GraphNode.factType?, kind]

theorem linkObjectified_eq (s : Schema) (n : GraphNode) :
    s.linkObjectified n = { s with factTypes := s.factTypes.objectify n } := by
  unfold linkObjectified OrderedMap.objectify GraphNode.standsFor?
  cases kind : n.kind with
  | objectified =>
    cases named : n.objectifiedFactId with
    | none => rfl
    | some fact =>
      by_cases blank : fact.isEmpty = true
      · simp only [blank, if_true]
      · simp only [blank]
        rfl
  | _ => rfl

theorem foldl_linkObjectified (s : Schema) (nodes : List GraphNode) :
    nodes.foldl linkObjectified s =
      { s with factTypes := nodes.foldl OrderedMap.objectify s.factTypes } := by
  induction nodes generalizing s with
  | nil => rfl
  | cons n rest ih => rw [List.foldl_cons, ih, linkObjectified_eq, List.foldl_cons]

end Schema

namespace OrderedMap

theorem find?_foldl_objectify (m : OrderedMap FactType) (nodes : List GraphNode) (id : String) :
    (nodes.foldl objectify m).find? id = (m.find? id).map fun f =>
      (nodes.filter fun n => n.standsFor? == some id).foldl FactType.objectifiedBy f := by
  induction nodes generalizing m with
  | nil => simp
  | cons n rest ih =>
    rw [List.foldl_cons, ih, objectify]
    cases standsFor : n.standsFor? with
    | none => rw [List.filter_cons_of_neg (by simp [standsFor])]
    | some fact =>
      dsimp only
      rw [find?_modify]
      by_cases here : id = fact
      · subst here
        rw [if_pos rfl, Option.map_map, List.filter_cons_of_pos (by simp [standsFor])]
        rfl
      · rw [if_neg here, List.filter_cons_of_neg (by simpa [standsFor] using Ne.symm here)]

end OrderedMap

namespace Graph

variable (g : Graph) (o : ConversionOptions)

theorem nodeSchema_eq : g.nodeSchema o =
    { id := o.name, name := o.name, version := o.version
      entities := OrderedMap.empty.putAll (·.id) GraphNode.entity? g.nodes
      labelTypes := OrderedMap.empty.putAll (·.id) GraphNode.labelType? g.nodes
      powerTypes := OrderedMap.empty.putAll (·.id) GraphNode.powerType? g.nodes
      sequenceTypes := OrderedMap.empty.putAll (·.id) GraphNode.sequenceType? g.nodes
      factTypes := g.nodes.foldl OrderedMap.objectify
        (OrderedMap.empty.putAll (·.id) GraphNode.factType? g.nodes) } := by
  rw [nodeSchema, Schema.foldl_addNode, Schema.foldl_linkObjectified]
  rfl

theorem hasObject_nodeSchema (id : String) : (g.nodeSchema o).hasObject id = true ↔
    ∃ n ∈ g.nodes, n.id = id ∧ n.kind.isObject = true := by
  have made : ∀ n : GraphNode, n.kind.isObject = true ↔ n.entity?.isSome = true ∨
      n.labelType?.isSome = true ∨ n.powerType?.isSome = true ∨ n.sequenceType?.isSome = true := by
    intro n
    cases kind : n.kind <;> simp [NodeKind.isObject, GraphNode.entity?, GraphNode.labelType?,
      GraphNode.powerType?, GraphNode.sequenceType?, kind]
  have nothing : ∀ α : Type, id ∉ (OrderedMap.empty : OrderedMap α).keys :=
    fun _ => List.not_mem_nil
  rw [nodeSchema_eq]
  simp only [Schema.hasObject, Bool.or_eq_true, OrderedMap.contains_iff,
    OrderedMap.mem_keys_putAll, nothing, false_or, made, ← exists_or, and_or_left, or_assoc]

theorem mem_factTypes_nodeSchema (id : String) : id ∈ (g.nodeSchema o).factTypes.keys ↔
    ∃ n ∈ g.nodes, n.id = id ∧ n.kind = .factType := by
  have nothing : id ∉ (OrderedMap.empty : OrderedMap FactType).keys := List.not_mem_nil
  rw [nodeSchema_eq, ← OrderedMap.find?_isSome_iff, OrderedMap.find?_foldl_objectify,
    Option.isSome_map, OrderedMap.find?_isSome_iff, OrderedMap.mem_keys_putAll, or_iff_right nothing]
  simp only [GraphNode.factType?_isSome_iff]

/-- The nodes make fact types without roles. -/
theorem predicators_nodeSchema {id : String} {f : FactType}
    (found : (g.nodeSchema o).factTypes.find? id = some f) : f.predicators = [] := by
  rw [nodeSchema_eq, OrderedMap.find?_foldl_objectify] at found
  obtain ⟨plain, held, rfl⟩ := Option.map_eq_some_iff.mp found
  have linked : ∀ (nodes : List GraphNode) (f : FactType),
      (nodes.foldl FactType.objectifiedBy f).predicators = f.predicators := by
    intro nodes
    induction nodes with
    | nil => exact fun _ => rfl
    | cons n rest ih => exact fun f => ih (f.objectifiedBy n)
  rw [linked]
  rcases OrderedMap.exists_of_find?_putAll held with nothing | ⟨n, _, _, made⟩
  · cases nothing
  · exact (GraphNode.factType?_eq_some made).2

end Graph

end FactModel
