import FactModel.Proofs.Schema.InPlace
import FactModel.Proofs.Schema.Issues

/-!
Fact types and their roles fit together: a fact type lists its roles by position, each once, and
no role is without a fact type or without an object that plays it.
-/

namespace FactModel

namespace Schema

/-- Fact types list their own roles by position, each once, and there are no other roles. -/
structure InOrder (s : Schema) : Prop where
  distinct : ∀ id f, s.factTypes.find? id = some f → f.predicators.Nodup
  placed : ∀ id f (i : Nat) key, s.factTypes.find? id = some f → f.predicators[i]? = some key →
    ∃ r, s.predicators.find? key = some r ∧ r.factTypeId = id ∧ r.position = (i : Int)
  listed : ∀ key r, s.predicators.find? key = some r →
    ∃ f, s.factTypes.find? r.factTypeId = some f ∧ key ∈ f.predicators

/-- In order, and every role is played by an object of the schema. -/
structure Arranged (s : Schema) : Prop extends s.InOrder where
  played : ∀ key r, s.predicators.find? key = some r → (s.object? r.objectId).isSome = true

variable {s t : Schema}

theorem Arranged.of_empty (id name version : String) :
    Arranged { id := id, name := name, version := version } where
  distinct _ _ found := nomatch found
  placed _ _ _ _ found := nomatch found
  listed _ _ found := nomatch found
  played _ _ found := nomatch found

theorem InOrder.mem_iff (inOrder : s.InOrder) {id key : String} {f : FactType} {r : Predicator}
    (fact : s.factTypes.find? id = some f) (role : s.predicators.find? key = some r) :
    key ∈ f.predicators ↔ r.factTypeId = id := by
  constructor
  · intro member
    obtain ⟨i, here⟩ := List.getElem?_of_mem member
    obtain ⟨r', found, owner, _⟩ := inOrder.placed id f i key fact here
    rw [role] at found
    cases found
    exact owner
  · rintro rfl
    obtain ⟨g, found, member⟩ := inOrder.listed key r role
    rw [fact] at found
    cases found
    exact member

/-- The checks of roles find nothing. -/
theorem Arranged.code_of_issue (arranged : s.Arranged) {issue : SchemaIssue}
    (reported : issue ∈ s.issues) : issue.report.code ∉ ["PRED_OBJECT_MISSING",
      "PRED_FACT_TYPE_MISSING", "FACT_PRED_MISSING", "FACT_PRED_FOREIGN"] := by
  cases mem_issues_iff.mp reported with
  | predicatorObject role missing =>
    have object := arranged.played _ _ role
    rw [object?_isSome_iff, missing] at object
    cases object
  | predicatorFactType role missing =>
    obtain ⟨f, owner, _⟩ := arranged.listed _ _ role
    exact absurd (OrderedMap.mem_keys_of_find? owner) missing
  | factPredicatorMissing fact listed missing =>
    obtain ⟨i, here⟩ := List.getElem?_of_mem listed
    obtain ⟨r, role, _⟩ := arranged.placed _ _ i _ fact here
    rw [missing] at role
    cases role
  | factPredicatorForeign fact listed role foreign =>
    exact absurd ((arranged.toInOrder.mem_iff fact role).mp listed) foreign
  | _ => simp [SchemaIssue.report]

/-! Edits that leave the places of roles alone -/

/-- The place of a role and its player. -/
def seat (r : Predicator) : String × Int × String := (r.factTypeId, r.position, r.objectId)

theorem Arranged.of_same (arranged : s.Arranged)
    (lists : ∀ id, (t.factTypes.find? id).map (·.predicators) =
      (s.factTypes.find? id).map (·.predicators))
    (seats : ∀ key, (t.predicators.find? key).map seat = (s.predicators.find? key).map seat)
    (objects : ∀ id, (s.object? id).isSome = true → (t.object? id).isSome = true) :
    t.Arranged := by
  have factType : ∀ id f, t.factTypes.find? id = some f →
      ∃ g, s.factTypes.find? id = some g ∧ g.predicators = f.predicators := by
    intro id f found
    have same := lists id
    rw [found] at same
    exact Option.map_eq_some_iff.mp same.symm
  have role : ∀ key r, t.predicators.find? key = some r →
      ∃ r', s.predicators.find? key = some r' ∧ seat r' = seat r := by
    intro key r found
    have same := seats key
    rw [found] at same
    exact Option.map_eq_some_iff.mp same.symm
  constructor
  · constructor
    · intro id f found
      obtain ⟨g, old, same⟩ := factType id f found
      exact same ▸ arranged.distinct id g old
    · intro id f i key found here
      obtain ⟨g, old, same⟩ := factType id f found
      obtain ⟨r, held, owner, position⟩ := arranged.placed id g i key old (same ▸ here)
      have now := seats key
      rw [held] at now
      obtain ⟨r', held', equal⟩ := Option.map_eq_some_iff.mp now
      simp only [seat, Prod.mk.injEq] at equal
      exact ⟨r', held', equal.1.trans owner, equal.2.1.trans position⟩
    · intro key r found
      obtain ⟨r', old, equal⟩ := role key r found
      simp only [seat, Prod.mk.injEq] at equal
      obtain ⟨g, held, member⟩ := arranged.listed key r' old
      have now := lists r'.factTypeId
      rw [held] at now
      obtain ⟨f, held', same⟩ := Option.map_eq_some_iff.mp now
      exact ⟨f, equal.1 ▸ held', same ▸ member⟩
  · intro key r found
    obtain ⟨r', old, equal⟩ := role key r found
    simp only [seat, Prod.mk.injEq] at equal
    exact equal.2.2 ▸ objects _ (arranged.played key r' old)

theorem object?_isSome_mono (entities : s.entities.keys ⊆ t.entities.keys)
    (labelTypes : s.labelTypes.keys ⊆ t.labelTypes.keys)
    (powerTypes : s.powerTypes.keys ⊆ t.powerTypes.keys)
    (sequenceTypes : s.sequenceTypes.keys ⊆ t.sequenceTypes.keys) (id : String)
    (found : (s.object? id).isSome = true) : (t.object? id).isSome = true := by
  rw [object?_isSome_iff] at found ⊢
  simp only [hasObject, Bool.or_eq_true, OrderedMap.contains_iff] at found ⊢
  rcases found with ((entity | label) | power) | sequence
  · exact .inl (.inl (.inl (entities entity)))
  · exact .inl (.inl (.inr (labelTypes label)))
  · exact .inl (.inr (powerTypes power))
  · exact .inr (sequenceTypes sequence)

theorem Relinked.arranged (relinked : s.Relinked t) (arranged : s.Arranged) : t.Arranged := by
  refine arranged.of_same (fun id => ?_) (fun key => ?_) fun id found => ?_
  · rw [relinked.factTypes]
  · rw [relinked.predicators]
  · rw [object?_isSome_iff] at found ⊢
    rw [relinked.hasObject, found]

theorem Arranged.relax (arranged : s.Arranged) (key : String) (isOptional : Bool) :
    Arranged { s with predicators := s.predicators.modify key fun r =>
      { r with isOptional := isOptional } } := by
  refine arranged.of_same (fun _ => rfl) (fun other => ?_) fun _ found => found
  exact OrderedMap.map_find?_modify s.predicators key other fun _ => rfl

end Schema

end FactModel
