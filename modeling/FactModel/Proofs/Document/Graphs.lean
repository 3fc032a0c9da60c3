import FactModel.Graph
import FactModel.Proofs.Document.Reading

/-!
A graph is read as it was written with the keys of the canvas.
-/

namespace FactModel

open Value

/-! Keys as the canvas spells them -/

@[simp] theorem KeyStyle.camelCase_names :
    camelCase "data_type" = "dataType" ∧ camelCase "member_entity_id" = "memberEntityId" ∧
      camelCase "objectified_fact_id" = "objectifiedFactId" ∧
      camelCase "source_node_id" = "sourceNodeId" ∧ camelCase "target_node_id" = "targetNodeId" ∧
      camelCase "applies_to" = "appliesTo" ∧ camelCase "predicator_ids" = "predicatorIds" ∧
      camelCase "source_predicator_ids" = "sourcePredicatorIds" ∧
      camelCase "target_predicator_ids" = "targetPredicatorIds" ∧
      camelCase "is_primary" = "isPrimary" := by decide +kernel

attribute [simp] KeyStyle.spell spellings kindSpellings

/-- A kind whose name is read as the kind: none is named like a known kind without being it. -/
def NodeKind.Plain (k : NodeKind) : Prop := NodeKind.ofName k.name = k

def EdgeKind.Plain (k : EdgeKind) : Prop := EdgeKind.ofName k.name = k

theorem GraphNode.read_toValue {n : GraphNode} (plain : n.kind.Plain) :
    GraphNode.read (n.toValue .camel) = .ok n := by
  have kind : NodeKind.ofName n.kind.name = n.kind := plain
  simp [read, toValue, lookup_pair_cons, kind]

theorem GraphEdge.read_toValue {e : GraphEdge} (plain : e.kind.Plain) :
    GraphEdge.read (e.toValue .camel) = .ok e := by
  have kind : EdgeKind.ofName e.kind.name = e.kind := plain
  simp [read, toValue, lookup_pair_cons, kind]

theorem Limit.read_toValue (l : Limit) : Limit.read l.toValue = .ok l := by
  cases l with
  | count n => rfl
  | infinity => simp [read, toValue, word?]; rfl

theorem ConstraintParameters.read_toValue {p : ConstraintParameters} (apart : p.toValue.KeysApart) :
    ConstraintParameters.read p.toValue = .ok p := by
  have free : (ofOption arr p.values).KeysApart := apart.field (show ("values", _) ∈ _ by simp)
  have values := readNullable_readAny free
  have most : readNullable Limit.read (ofOption Limit.toValue p.max) = .ok p.max :=
    readNullable_ofOption (fun l _ => l.read_toValue) fun l _ => by cases l <;> nofun
  simp [read, toValue, lookup_pair_cons, values, most]

theorem GraphConstraint.read_toValue {c : GraphConstraint} (apart : (c.toValue .camel).KeysApart) :
    GraphConstraint.read (c.toValue .camel) = .ok c := by
  have free : (ofOption ConstraintParameters.toValue c.parameters).KeysApart :=
    apart.field (show ("parameters", _) ∈ _ by simp)
  have parameters : readNullable ConstraintParameters.read
      (ofOption ConstraintParameters.toValue c.parameters) = .ok c.parameters := by
    refine readNullable_ofOption (fun p held => ?_) fun _ _ => nofun
    refine ConstraintParameters.read_toValue ?_
    rwa [Option.mem_def.mp held] at free
  simp [read, toValue, lookup_pair_cons, parameters]

namespace Graph

/-- A graph whose nodes and edges have kinds that are told by their names. -/
structure Plain (g : Graph) : Prop where
  nodes : ∀ n ∈ g.nodes, n.kind.Plain
  edges : ∀ e ∈ g.edges, e.kind.Plain

theorem read_toValue {g : Graph} (plain : g.Plain) (apart : (g.toValue .camel).KeysApart) :
    Graph.read (g.toValue .camel) = .ok g := by
  have drawn : (arr (g.constraints.map (GraphConstraint.toValue .camel))).KeysApart :=
    apart.field (show ("constraints", _) ∈ _ by simp)
  have nodes := readList_arr fun n member => GraphNode.read_toValue (plain.nodes n member)
  have edges := readList_arr fun e member => GraphEdge.read_toValue (plain.edges e member)
  have constraints := readList_arr fun c (member : c ∈ g.constraints) =>
    GraphConstraint.read_toValue (drawn.item (List.mem_map_of_mem member))
  simp [read, toValue, lookup_pair_cons, nodes, edges, constraints]

end Graph

end FactModel
