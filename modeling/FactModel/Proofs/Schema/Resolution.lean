import FactModel.Proofs.Schema.Issues

/-!
Where the elements of a schema hold ids of others, what each id is to lead to, and which of the
ids the check of a schema follows: all of them but those that make an entity stand for a fact type,
those of unknown identifiers, and the element types of powers and sequences.
-/

namespace FactModel

/-- The places that hold ids. -/
inductive IdField where
  | predicatorObject
  | predicatorFactType
  | factTypePredicators
  | factTypeEntity
  | entityIdentifiers
  | entityParents
  | entityFactType
  | powerElement
  | sequenceElement
  | constraint (category : ConstraintCategory)

/-- Whether the check of a schema reports an id of the field that does not resolve. -/
def IdField.checked : IdField → Bool
  | predicatorObject | predicatorFactType | factTypePredicators | entityParents | constraint _ =>
    true
  | factTypeEntity | entityIdentifiers | entityFactType | powerElement | sequenceElement => false

/-- An id together with what it is to lead to. -/
inductive Pointer where
  | plain (r : ElementRef)
  | entity (id : String)
  | uniqueness (id : String)
  /-- A predicator that belongs to the fact type. -/
  | role (factType id : String)

def Pointer.Resolves (s : Schema) : Pointer → Prop
  | plain r => r.resolves s = true
  | entity id => id ∈ s.entities.keys
  | uniqueness id => id ∈ s.uniqueConstraints.keys
  | role factType id => ∃ r, s.predicators.find? id = some r ∧ r.factTypeId = factType

namespace Schema

/-- Some element of a schema holds an id in a field. An empty element type is no id. -/
inductive HoldsId (s : Schema) : IdField → Pointer → Prop
  | predicatorObject {key : String} {r : Predicator} (role : s.predicators.find? key = some r) :
      HoldsId s .predicatorObject (.plain (.object r.objectId))
  | predicatorFactType {key : String} {r : Predicator} (role : s.predicators.find? key = some r) :
      HoldsId s .predicatorFactType (.plain (.factType r.factTypeId))
  | factTypePredicators {key id : String} {f : FactType} (fact : s.factTypes.find? key = some f)
      (listed : id ∈ f.predicators) : HoldsId s .factTypePredicators (.role key id)
  | factTypeEntity {key id : String} {f : FactType} (fact : s.factTypes.find? key = some f)
      (objectified : f.objectifiedAsId = some id) : HoldsId s .factTypeEntity (.entity id)
  | entityIdentifiers {key id : String} {e : Entity} (entity : s.entities.find? key = some e)
      (listed : id ∈ e.identifiers) : HoldsId s .entityIdentifiers (.uniqueness id)
  | entityParents {key id : String} {e : Entity} (entity : s.entities.find? key = some e)
      (listed : id ∈ e.specializationOf) : HoldsId s .entityParents (.entity id)
  | entityFactType {key id : String} {e : Entity} (entity : s.entities.find? key = some e)
      (objectifies : e.objectifiedFactTypeId = some id) :
      HoldsId s .entityFactType (.plain (.factType id))
  | powerElement {key : String} {p : PowerType} (power : s.powerTypes.find? key = some p)
      (given : p.elementTypeId ≠ "") : HoldsId s .powerElement (.plain (.object p.elementTypeId))
  | sequenceElement {key : String} {q : SequenceType}
      (sequence : s.sequenceTypes.find? key = some q) (given : q.elementTypeId ≠ "") :
      HoldsId s .sequenceElement (.plain (.object q.elementTypeId))
  | constraint {category : ConstraintCategory} {key : String} {r : ElementRef}
      (refers : s.Refers category key r) : HoldsId s (.constraint category) (.plain r)

/-- Every id that an element holds resolves. -/
def Resolved (s : Schema) : Prop := ∀ field pointer, s.HoldsId field pointer → pointer.Resolves s

/-- Identifiers of an entity use no roles of another object. -/
def IdentifiersOwn (s : Schema) : Prop :=
  ∀ key e, s.entities.find? key = some e → ∀ c ∈ s.identifiersOf e, ∀ id ∈ c.predicatorIds,
    ∀ r, s.predicators.find? id = some r → r.objectId = key

def SidesFilled (s : Schema) : Prop :=
  ∀ c ∈ s.setConstraints.values, c.sourcePredicatorIds ≠ [] ∧ c.targetPredicatorIds ≠ []

variable {s : Schema}

theorem resolves_of_clean (clean : s.issues = []) {field : IdField} {pointer : Pointer}
    (checked : field.checked = true) (holds : s.HoldsId field pointer) : pointer.Resolves s := by
  have sound := not_defect clean
  by_contra missing
  cases holds with
  | predicatorObject role =>
    exact sound _ (.predicatorObject role (eq_false_of_ne_true missing))
  | predicatorFactType role =>
    refine sound _ (.predicatorFactType role fun listed => missing ?_)
    exact (s.factTypes.contains_iff _).mpr listed
  | @factTypePredicators key id f fact listed =>
    cases found : s.predicators.find? id with
    | none => exact sound _ (.factPredicatorMissing fact listed found)
    | some r => exact sound _ (.factPredicatorForeign fact listed found fun own =>
        missing ⟨r, found, own⟩)
  | entityParents entity listed => exact sound _ (.parentMissing entity listed missing)
  | constraint refers => exact sound _ (.constraintReference refers (eq_false_of_ne_true missing))
  | factTypeEntity | entityIdentifiers | entityFactType | powerElement | sequenceElement =>
    cases checked

theorem identifiersOwn_of_clean (clean : s.issues = []) : s.IdentifiersOwn := by
  intro key e entity c identifier id listed r found
  obtain ⟨name, held, unique⟩ := List.mem_filterMap.mp identifier
  by_contra foreign
  exact not_defect clean _ (.identifierForeign entity held unique listed found foreign)

theorem sidesFilled_of_clean (clean : s.issues = []) : s.SidesFilled := by
  intro c held
  obtain ⟨key, set⟩ := OrderedMap.exists_find?_of_mem_values held
  exact not_or.mp fun empty => not_defect clean _ (.emptySide set empty)

theorem not_defect_of_resolved (resolved : ∀ field pointer,
      field.checked = true → s.HoldsId field pointer → pointer.Resolves s)
    (own : s.IdentifiersOwn) (filled : s.SidesFilled) (issue : SchemaIssue) :
    ¬ s.Defect issue := by
  intro defect
  cases defect with
  | predicatorObject role missing =>
    exact absurd (resolved _ _ rfl (.predicatorObject role)) (ne_true_of_eq_false missing)
  | predicatorFactType role missing =>
    exact missing ((s.factTypes.contains_iff _).mp (resolved _ _ rfl (.predicatorFactType role)))
  | factPredicatorMissing fact listed missing =>
    obtain ⟨r, found, _⟩ := resolved _ _ rfl (.factTypePredicators fact listed)
    rw [missing] at found
    cases found
  | factPredicatorForeign fact listed role foreign =>
    obtain ⟨r, found, owner⟩ := resolved _ _ rfl (.factTypePredicators fact listed)
    rw [role] at found
    cases found
    exact foreign owner
  | @constraintReference category key r refers missing =>
    exact absurd (resolved _ _ rfl (.constraint refers)) (ne_true_of_eq_false missing)
  | @identifierForeign key id role e c r entity identifier unique listed found foreign =>
    have held : c ∈ s.identifiersOf e := List.mem_filterMap.mpr ⟨id, identifier, unique⟩
    exact foreign (own key e entity c held role listed r found)
  | parentMissing entity listed missing =>
    exact missing (resolved _ _ rfl (.entityParents entity listed))
  | @emptySide key c set empty =>
    have sides := filled c (OrderedMap.mem_values_of_find? set)
    exact empty.elim sides.1 sides.2

/-- The check is silent exactly when the ids in the checked fields resolve, identifiers use roles
of their own entity, and set constraints have two sides. -/
theorem issues_eq_nil_iff_resolves : s.issues = [] ↔
    (∀ field pointer, field.checked = true → s.HoldsId field pointer → pointer.Resolves s) ∧
      s.IdentifiersOwn ∧ s.SidesFilled := by
  constructor
  · intro clean
    exact ⟨fun _ _ => resolves_of_clean clean, identifiersOwn_of_clean clean,
      sidesFilled_of_clean clean⟩
  · rintro ⟨resolved, own, filled⟩
    rw [List.eq_nil_iff_forall_not_mem]
    exact fun issue reported =>
      not_defect_of_resolved resolved own filled issue (mem_issues_iff.mp reported)

/-- A bill whose entity, fact type, power and sequence hold the id of nothing. -/
def ghosts : Schema :=
  { id := "bills", name := "Bills", version := "1"
    entities := .ofList [("bill", ⟨"bill", "Bill", ["ghost"], [], some "ghost", false⟩)]
    powerTypes := .ofList [("stack", ⟨"stack", "Stack", "ghost"⟩)]
    sequenceTypes := .ofList [("queue", ⟨"queue", "Queue", "ghost", true, false⟩)]
    factTypes := .ofList [("paid", ⟨"paid", "paid", ["payee"], true, some "ghost"⟩)]
    predicators := .ofList [("payee", ⟨"payee", "paid", "paid", 0, "bill", true⟩)] }

/-- Each field that the check passes over can hold an id that resolves to nothing. -/
theorem ghosts_unreported : ghosts.Keyed ∧ ghosts.issues = [] ∧
    (∀ field : IdField, field.checked = false →
      ∃ pointer, ghosts.HoldsId field pointer ∧ ¬ pointer.Resolves ghosts) ∧
    ¬ ∀ s : Schema, s.Keyed → s.issues = [] → s.Resolved := by
  have keyed : ghosts.Keyed := by constructor <;> decide +kernel
  have clean : ghosts.issues = [] := List.length_eq_zero_iff.mp (by decide +kernel)
  have dangling : ∀ field : IdField, field.checked = false →
      ∃ pointer, ghosts.HoldsId field pointer ∧ ¬ pointer.Resolves ghosts := by
    intro field unchecked
    have paid : ghosts.factTypes.find? "paid" =
        some ⟨"paid", "paid", ["payee"], true, some "ghost"⟩ := rfl
    have bill : ghosts.entities.find? "bill" =
        some ⟨"bill", "Bill", ["ghost"], [], some "ghost", false⟩ := rfl
    have noObject : ghosts.hasObject "ghost" ≠ true := by decide +kernel
    cases field with
    | factTypeEntity =>
      exact ⟨_, .factTypeEntity paid rfl, (by decide +kernel : "ghost" ∉ ghosts.entities.keys)⟩
    | entityIdentifiers =>
      exact ⟨_, .entityIdentifiers bill List.mem_cons_self,
        (by decide +kernel : "ghost" ∉ ghosts.uniqueConstraints.keys)⟩
    | entityFactType =>
      exact ⟨_, .entityFactType bill rfl,
        (by decide +kernel : ghosts.factTypes.contains "ghost" ≠ true)⟩
    | powerElement =>
      have stack : ghosts.powerTypes.find? "stack" = some ⟨"stack", "Stack", "ghost"⟩ := rfl
      exact ⟨_, .powerElement stack (by decide), noObject⟩
    | sequenceElement =>
      have queue : ghosts.sequenceTypes.find? "queue" =
          some ⟨"queue", "Queue", "ghost", true, false⟩ := rfl
      exact ⟨_, .sequenceElement queue (by decide), noObject⟩
    | predicatorObject | predicatorFactType | factTypePredicators | entityParents | constraint =>
      cases unchecked
  refine ⟨keyed, clean, dangling, fun complete => ?_⟩
  obtain ⟨pointer, holds, missing⟩ := dangling .factTypeEntity rfl
  exact missing (complete ghosts keyed clean _ _ holds)

end Schema

end FactModel
