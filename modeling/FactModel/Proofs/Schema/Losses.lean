import FactModel.Proofs.Schema.InPlace
import FactModel.Proofs.Schema.Issues

/-!
A schema without issues once some of its elements are taken out: what the check reports of it is
what the elements that stay had to do with the ones that are gone.
-/

namespace FactModel

/-- The ids of elements that are taken out of a schema. -/
structure Loss where
  objects : List String
  factTypes : List String
  predicators : List String

/-- All that a reference may stand for is taken out. -/
def Loss.Takes (l : Loss) (s : Schema) : ElementRef → Prop
  | .predicator id => id ∈ l.predicators
  | .object id => id ∈ l.objects
  | .factType id => id ∈ l.factTypes
  | .labelType id => id ∈ l.objects
  | .element id =>
    (s.hasObject id = true → id ∈ l.objects) ∧
      (id ∈ s.factTypes.keys → id ∈ l.factTypes) ∧
      (id ∈ s.predicators.keys → id ∈ l.predicators)

theorem Loss.not_takes_of_nothing {s : Schema} {r : ElementRef} (resolved : r.resolves s = true) :
    ¬ Loss.Takes ⟨[], [], []⟩ s r := by
  intro taken
  cases r with
  | element key =>
    obtain ⟨noObject, noFactType, noRole⟩ := taken
    simp only [ElementRef.resolves, Bool.or_eq_true, OrderedMap.contains_iff] at resolved
    rcases resolved with (object | factType) | role
    · exact absurd (noObject object) List.not_mem_nil
    · exact absurd (noFactType factType) List.not_mem_nil
    · exact absurd (noRole role) List.not_mem_nil
  | _ => cases taken

namespace Schema

/-- What refers to nothing once elements are taken out: references of constraints, and parents and
fact types of entities and roles that stay. -/
inductive Dangling (s : Schema) (l : Loss) : SchemaIssue → Prop
  | constraint {category : ConstraintCategory} {key : String} {r : ElementRef}
      (refers : s.Refers category key r) (taken : l.Takes s r) :
      Dangling s l (.constraintReference key category r.id)
  | parent {key parent : String} {e : Entity} (entity : s.entities.find? key = some e)
      (stays : key ∉ l.objects) (listed : parent ∈ e.specializationOf)
      (taken : parent ∈ l.objects) : Dangling s l (.parentMissing key e.name parent)
  | owner {key : String} {r : Predicator} (role : s.predicators.find? key = some r)
      (stays : key ∉ l.predicators) (taken : r.factTypeId ∈ l.factTypes) :
      Dangling s l (.predicatorFactType key r.factTypeId)

/-- The second schema is the first one without some elements, their roles among them. Constraints
may be missing too, but none that refers to what is taken out. -/
structure Without (s t : Schema) (l : Loss) : Prop where
  objects : ∀ id, t.hasObject id = true ↔ s.hasObject id = true ∧ id ∉ l.objects
  labelTypes : ∀ id, id ∈ t.labelTypes.keys ↔ id ∈ s.labelTypes.keys ∧ id ∉ l.objects
  factTypes : ∀ id, id ∈ t.factTypes.keys ↔ id ∈ s.factTypes.keys ∧ id ∉ l.factTypes
  sides : ∀ id, (t.predicators.find? id).map side =
    if id ∈ l.predicators then none else (s.predicators.find? id).map side
  played : ∀ id r, s.predicators.find? id = some r → r.objectId ∈ l.objects → id ∈ l.predicators
  lists : ∀ id f, t.factTypes.find? id = some f → ∃ g, s.factTypes.find? id = some g ∧
    ∀ role ∈ f.predicators, role ∈ g.predicators ∧ role ∉ l.predicators
  entities : ∀ id, id ∈ t.entities.keys ↔ id ∈ s.entities.keys ∧ id ∉ l.objects
  links : ∀ id e, t.entities.find? id = some e → ∃ d, s.entities.find? id = some d ∧
    d.name = e.name ∧ d.specializationOf = e.specializationOf ∧ e.identifiers ⊆ d.identifiers
  uniques : ∀ id c, t.uniqueConstraints.find? id = some c → s.uniqueConstraints.find? id = some c
  sets : ∀ id c, t.setConstraints.find? id = some c → s.setConstraints.find? id = some c
  refers : ∀ category key r, t.Refers category key r → s.Refers category key r
  refersBack : ∀ category key r, s.Refers category key r → r.resolves s = true → l.Takes s r →
    t.Refers category key r

theorem resolves_of_refers {s : Schema} (clean : s.issues = []) {category : ConstraintCategory}
    {key : String} {r : ElementRef} (refers : s.Refers category key r) : r.resolves s = true := by
  by_contra unresolved
  exact not_defect clean _ (.constraintReference refers (eq_false_of_ne_true unresolved))

theorem not_dangling_of_nothing {s : Schema} (clean : s.issues = []) (issue : SchemaIssue) :
    ¬ s.Dangling ⟨[], [], []⟩ issue := by
  intro dangling
  cases dangling with
  | constraint refers taken =>
    exact Loss.not_takes_of_nothing (resolves_of_refers clean refers) taken
  | parent _ _ _ taken => cases taken
  | owner _ _ taken => cases taken

namespace Without

variable {s t : Schema} {l : Loss} {issue : SchemaIssue}

theorem predicators (without : s.Without t l) (id : String) :
    id ∈ t.predicators.keys ↔ id ∈ s.predicators.keys ∧ id ∉ l.predicators := by
  have same := congrArg Option.isSome (without.sides id)
  rw [← OrderedMap.find?_isSome_iff, ← OrderedMap.find?_isSome_iff]
  by_cases lost : id ∈ l.predicators
  · simpa [lost] using same
  · simpa [lost] using same

theorem role (without : s.Without t l) {id : String} {r : Predicator}
    (found : t.predicators.find? id = some r) :
    id ∉ l.predicators ∧ ∃ q, s.predicators.find? id = some q ∧ q.factTypeId = r.factTypeId ∧
      q.objectId = r.objectId := by
  have same := without.sides id
  rw [found] at same
  split at same
  · cases same
  · rename_i stays
    obtain ⟨q, before, equal⟩ := Option.map_eq_some_iff.mp same.symm
    simp only [side, Prod.mk.injEq] at equal
    exact ⟨stays, q, before, equal⟩

theorem resolves_iff (without : s.Without t l) (r : ElementRef) :
    r.resolves t = true ↔ r.resolves s = true ∧ ¬ l.Takes s r := by
  cases r with
  | predicator id =>
    simp only [ElementRef.resolves, OrderedMap.contains_iff, Loss.Takes, without.predicators]
  | object id => exact without.objects id
  | factType id =>
    simp only [ElementRef.resolves, OrderedMap.contains_iff, Loss.Takes, without.factTypes]
  | labelType id =>
    simp only [ElementRef.resolves, OrderedMap.contains_iff, Loss.Takes, without.labelTypes]
  | element id =>
    simp only [ElementRef.resolves, Bool.or_eq_true, OrderedMap.contains_iff, Loss.Takes,
      without.objects, without.factTypes, without.predicators]
    tauto

theorem dangling_of_defect (without : s.Without t l) (clean : s.issues = [])
    (defect : t.Defect issue) : s.Dangling l issue := by
  cases defect with
  | predicatorObject role missing =>
    obtain ⟨stays, q, before, _, player⟩ := without.role role
    have object : s.hasObject q.objectId = true := by
      by_contra absent
      exact not_defect clean _ (.predicatorObject before (eq_false_of_ne_true absent))
    have lost : q.objectId ∈ l.objects := by
      by_contra kept
      have held := (without.objects q.objectId).mpr ⟨object, kept⟩
      rw [player, missing] at held
      cases held
    exact absurd (without.played _ q before lost) stays
  | predicatorFactType role missing =>
    obtain ⟨stays, q, before, owner, _⟩ := without.role role
    have held : q.factTypeId ∈ s.factTypes.keys := by
      by_contra absent
      exact not_defect clean _ (.predicatorFactType before absent)
    rw [← owner, without.factTypes, not_and_not_right] at missing
    rw [← owner]
    exact .owner before stays (missing held)
  | @factPredicatorMissing key id f fact listed missing =>
    obtain ⟨g, factBefore, lists⟩ := without.lists _ f fact
    obtain ⟨listedBefore, stays⟩ := lists id listed
    rw [OrderedMap.find?_eq_none_iff, without.predicators, not_and_not_right] at missing
    refine absurd (.factPredicatorMissing factBefore listedBefore ?_) (not_defect clean _)
    exact (s.predicators.find?_eq_none_iff id).mpr fun held => stays (missing held)
  | factPredicatorForeign fact listed role foreign =>
    obtain ⟨g, factBefore, lists⟩ := without.lists _ _ fact
    obtain ⟨_, q, before, owner, _⟩ := without.role role
    rw [← owner] at foreign
    obtain ⟨listedBefore, _⟩ := lists _ listed
    exact absurd (.factPredicatorForeign factBefore listedBefore before foreign)
      (not_defect clean _)
  | @constraintReference category key r refers missing =>
    have refersBefore := without.refers _ _ r refers
    have resolved := resolves_of_refers clean refersBefore
    refine .constraint refersBefore ?_
    by_contra kept
    have resolves := (without.resolves_iff r).mpr ⟨resolved, kept⟩
    rw [missing] at resolves
    cases resolves
  | identifierForeign entity identifier unique listed found foreign =>
    obtain ⟨d, entityBefore, _, _, identifiers⟩ := without.links _ _ entity
    obtain ⟨_, q, before, _, player⟩ := without.role found
    rw [← player] at foreign
    exact absurd (.identifierForeign entityBefore (identifiers identifier)
      (without.uniques _ _ unique) listed before foreign) (not_defect clean _)
  | @parentMissing key parent e entity listed missing =>
    obtain ⟨d, entityBefore, name, parents, _⟩ := without.links _ _ entity
    rw [← parents] at listed
    have held : parent ∈ s.entities.keys := by
      by_contra absent
      exact not_defect clean _ (.parentMissing entityBefore listed absent)
    rw [without.entities, not_and_not_right] at missing
    have stays := (without.entities key).mp (OrderedMap.mem_keys_of_find? entity)
    rw [← name]
    exact .parent entityBefore stays.2 listed (missing held)
  | emptySide set empty =>
    exact absurd (.emptySide (without.sets _ _ set) empty) (not_defect clean _)

theorem defect_of_dangling (without : s.Without t l) (clean : s.issues = [])
    (dangling : s.Dangling l issue) : t.Defect issue := by
  cases dangling with
  | @constraint category key r refers taken =>
    have resolved := resolves_of_refers clean refers
    refine .constraintReference (without.refersBack _ _ r refers resolved taken) ?_
    exact eq_false_of_ne_true fun held => ((without.resolves_iff r).mp held).2 taken
  | @parent key parent d entity stays listed taken =>
    have held := (without.entities key).mpr ⟨OrderedMap.mem_keys_of_find? entity, stays⟩
    obtain ⟨e, after⟩ := OrderedMap.exists_find?_of_mem_keys held
    obtain ⟨d', before, name, parents, _⟩ := without.links _ e after
    rw [entity] at before
    cases before
    rw [name]
    refine .parentMissing after (parents ▸ listed) ?_
    exact fun found => ((without.entities parent).mp found).2 taken
  | @owner key q role stays taken =>
    have held := (without.predicators key).mpr ⟨OrderedMap.mem_keys_of_find? role, stays⟩
    obtain ⟨r, after⟩ := OrderedMap.exists_find?_of_mem_keys held
    obtain ⟨_, q', before, owner, _⟩ := without.role after
    rw [role] at before
    cases before
    rw [owner] at taken ⊢
    exact .predicatorFactType after fun found => ((without.factTypes _).mp found).2 taken

/-- The check reports what is left dangling, and nothing else. -/
theorem mem_issues (without : s.Without t l) (clean : s.issues = []) :
    issue ∈ t.issues ↔ s.Dangling l issue := by
  rw [mem_issues_iff]
  exact ⟨without.dangling_of_defect clean, without.defect_of_dangling clean⟩

end Without

end Schema

end FactModel
