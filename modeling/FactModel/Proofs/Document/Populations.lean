import FactModel.Population
import FactModel.Proofs.Document.Reading

/-!
A population is read as it was written, if no instance is listed twice.
-/

namespace FactModel

open Value

namespace Population

/-- No instance of an object is listed twice. -/
def Distinct (p : Population) : Prop := ∀ values ∈ p.objects.values, (values.map encode).Nodup

theorem distinctFrom_eq {seen : List String} {values : List Value}
    (apart : (values.map encode).Nodup) (fresh : ∀ v ∈ values, v.encode ∉ seen) :
    distinctFrom seen values = values := by
  induction values generalizing seen with
  | nil => rfl
  | cons v rest ih =>
    rw [List.map_cons, List.nodup_cons] at apart
    have here : ¬ seen.contains v.encode = true := by
      simpa using fresh v List.mem_cons_self
    rw [distinctFrom, if_neg here, ih apart.2]
    intro w member held
    rcases List.mem_cons.mp held with same | old
    · exact apart.1 (same ▸ List.mem_map_of_mem member)
    · exact fresh w (List.mem_cons_of_mem v member) old

theorem ofInstances_eq {p : Population} (distinct : p.Distinct) :
    ofInstances p.schemaId p.objects p.facts = p := by
  have objects : (p.objects.mapValues fun _ values => Population.distinct values) = p.objects := by
    apply OrderedMap.ext_entries
    have each : p.objects.entries.map (fun pair => (pair.1, Population.distinct pair.2)) =
        p.objects.entries.map id := by
      refine List.map_congr_left fun pair member => ?_
      have values := distinct pair.2 (List.mem_map_of_mem member)
      rw [Population.distinct, distinctFrom_eq values fun _ _ => List.not_mem_nil]
      rfl
    exact each.trans (List.map_id _)
  rw [ofInstances, objects]

theorem readMap_tuple {t : Tuple} (apart : t.toValue.KeysApart) :
    readMap readAny t.toValue = .ok t := by
  have same : (t.mapValues fun _ => id) = t := OrderedMap.mapValues_self t
  have read : readMap readAny (obj (t.mapValues fun _ => id).entries) = .ok t := by
    refine readMap_mapValues fun v member => ?_
    obtain ⟨⟨key, _⟩, held, rfl⟩ := List.mem_map.mp member
    exact readAny_eq (apart.field held)
  rwa [same] at read

theorem read_toValue {p : Population} (distinct : p.Distinct) (apart : p.toValue.KeysApart) :
    Population.read p.toValue = .ok p := by
  have instances : (obj p.objectValues).KeysApart :=
    apart.field (show ("object_populations", _) ∈ _ by simp)
  have tuples : (obj p.factValues).KeysApart :=
    apart.field (show ("fact_populations", _) ∈ _ by simp)
  have objects : readMap (readList readAny) (obj p.objectValues) = .ok p.objects :=
    readMap_mapValues fun values member => by
      obtain ⟨⟨key, _⟩, held, rfl⟩ := List.mem_map.mp member
      exact readList_readAny (instances.field (List.mem_map.mpr ⟨_, held, rfl⟩))
  have facts : readMap (readList (readMap readAny)) (obj p.factValues) = .ok p.facts := by
    have read : ∀ all ∈ p.facts.values,
        readList (readMap readAny) (arr (all.map Tuple.toValue)) = .ok all := by
      intro all member
      obtain ⟨⟨key, _⟩, held, rfl⟩ := List.mem_map.mp member
      have inside := tuples.field (List.mem_map.mpr ⟨_, held, rfl⟩)
      exact readList_arr fun t listed => readMap_tuple (inside.item (List.mem_map_of_mem listed))
    exact readMap_mapValues read
  have whole := ofInstances_eq distinct
  simp [read, toValue, lookup_pair_cons, objects, facts, whole]

end Population

end FactModel
