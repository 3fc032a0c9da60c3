import FactModel.Conversion
import FactModel.Proofs.Schema.InPlace

/-!
Every mapping of a converted schema is keyed by the ids of its elements, whatever was drawn.
-/

namespace FactModel

namespace Schema

variable {s : Schema}

namespace Keyed

theorem foldl {ι : Type} {f : Schema → ι → Schema} (step : ∀ s i, s.Keyed → (f s i).Keyed)
    (keyed : s.Keyed) (items : List ι) : (items.foldl f s).Keyed := by
  induction items generalizing s with
  | nil => exact keyed
  | cons i rest ih => exact ih (step s i keyed)

theorem addNode (keyed : s.Keyed) (n : GraphNode) : (s.addNode n).Keyed := by
  unfold Schema.addNode
  dsimp only
  split
  · exact { keyed with entities := keyed.entities.insert (plainEntity n.id _ none) }
  · exact { keyed with labelTypes := keyed.labelTypes.insert ⟨n.id, _, _, none, none, none, none⟩ }
  · exact { keyed with powerTypes := keyed.powerTypes.insert ⟨n.id, _, _⟩ }
  · exact { keyed with sequenceTypes := keyed.sequenceTypes.insert ⟨n.id, _, _, _, _⟩ }
  · exact { keyed with entities := keyed.entities.insert (plainEntity n.id _ _) }
  · exact { keyed with factTypes := keyed.factTypes.insert ⟨n.id, _, _, _, _⟩ }
  · exact keyed

theorem linkObjectified (keyed : s.Keyed) (n : GraphNode) : (s.linkObjectified n).Keyed := by
  unfold Schema.linkObjectified
  split
  · split
    · exact keyed
    · exact { keyed with factTypes := keyed.factTypes.modify _ fun _ => rfl }
  · exact keyed

theorem addRoles (keyed : s.Keyed) (edges : List PlacedEdge) (fact : String) :
    (s.addRoles edges fact).Keyed :=
  { keyed with
    factTypes := keyed.factTypes.modify fact fun _ => rfl
    predicators := keyed_placeFrom keyed.predicators _ 0 }

theorem addPredicators (keyed : s.Keyed) (edges : List PlacedEdge) :
    (s.addPredicators edges).Keyed := by
  have added : ∀ (edges : List PlacedEdge) (m : OrderedMap Predicator),
      m.KeyedBy Predicator.id →
      (edges.foldl (fun m p => m.insert p.edge.id p.predicator) m).KeyedBy Predicator.id := by
    intro edges m keyed
    induction edges generalizing m with
    | nil => exact keyed
    | cons p rest ih => exact ih _ (keyed.insert p.predicator)
  refine foldl (fun _ fact keyed => keyed.addRoles edges fact) ?_ _
  exact { keyed with predicators := added edges _ keyed.predicators }

theorem addSpecialization (keyed : s.Keyed) (e : GraphEdge) : (s.addSpecialization e).Keyed := by
  unfold Schema.addSpecialization
  split
  · exact { keyed with entities := keyed.entities.modify _ fun _ => rfl }
  · exact keyed

theorem addUnique (keyed : s.Keyed) (a : GraphConstraint) : (s.addUnique a).Keyed := by
  unfold Schema.addUnique
  split
  · exact keyed
  · refine (Relinked.attachIdentifier _ a.id a.isPrimary).keyed ?_
    exact { keyed with uniqueConstraints := keyed.uniqueConstraints.insert ⟨a.id, _, _, _, _⟩ }

theorem addMandatory (keyed : s.Keyed) (a : GraphConstraint) : (s.addMandatory a).Keyed := by
  unfold Schema.addMandatory
  split
  · exact { keyed with
      predicators := keyed.predicators.modify _ fun _ => rfl
      totalRoleConstraints := keyed.totalRoleConstraints.insert ⟨a.id, _, _, _⟩ }
  · exact keyed

theorem addConstraint (keyed : s.Keyed) (a : GraphConstraint) : (s.addConstraint a).Keyed := by
  unfold Schema.addConstraint
  split
  · exact keyed.addUnique a
  split
  · exact keyed.addMandatory a
  split
  · exact { keyed with setConstraints := keyed.setConstraints.insert ⟨a.id, _, _, _, _⟩ }
  · exact keyed
  split
  · exact { keyed with
      frequencyConstraints := keyed.frequencyConstraints.insert ⟨a.id, _, _, _⟩ }
  split
  · exact { keyed with
      enumerationConstraints := keyed.enumerationConstraints.insert ⟨a.id, _, _, _⟩ }
  split
  · exact { keyed with
      cardinalityConstraints := keyed.cardinalityConstraints.insert ⟨a.id, _, _, _⟩ }
  split
  · exact { keyed with
      cardinalityConstraints := keyed.cardinalityConstraints.insert ⟨a.id, _, _, _⟩ }
  split
  · exact { keyed with customConstraints := keyed.customConstraints.insert ⟨a.id, _, _, _, _, _⟩ }
  · exact keyed

end Keyed

end Schema

namespace Graph

variable (g : Graph) (o : ConversionOptions)

theorem keyed_nodeSchema : (g.nodeSchema o).Keyed := by
  refine .foldl (fun _ n keyed => keyed.linkObjectified n) ?_ _
  exact .foldl (fun _ n keyed => keyed.addNode n) (.of_empty _ _ _) _

theorem keyed_edgeSchema : (g.edgeSchema o).Keyed :=
  .foldl (fun _ e keyed => keyed.addSpecialization e) ((g.keyed_nodeSchema o).addPredicators _) _

variable {g o}

theorem keyed_of_toSchema {s : Schema} (converted : g.toSchema o = .ok s) : s.Keyed := by
  unfold toSchema at converted
  split at converted
  · cases converted
  · cases converted
    exact .foldl (fun _ a keyed => keyed.addConstraint a) (g.keyed_edgeSchema o) _

end Graph

end FactModel
