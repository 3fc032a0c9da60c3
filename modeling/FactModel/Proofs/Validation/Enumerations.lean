import FactModel.Proofs.Validation.Unresolved
import FactModel.Proofs.Value.Encodings

/-!
Which values a validation rejects for an enumeration: a text is reported exactly when it is not
one of the allowed texts, and no other instance is reported under its name.
-/

namespace FactModel

/-- The violation says that the enumeration does not allow the value. -/
structure Violation.Rejects (x : Violation) (c : EnumerationConstraint) (v : Value) : Prop where
  constraintType : x.constraintType = ConstraintCategory.enumeration.name
  constraintId : x.constraintId = c.id
  message : x.message = s!"Value not in allowed enumeration: {c.name} (value: {v.shown})"

/-- The evaluators of a schema judge the population and report nothing of the category. -/
def Registry.Leaves (r : Registry) (s : Schema) (p : Population) (category : ConstraintCategory) :
    Prop :=
  ∀ c ∈ s.customConstraints.values, ∃ found, Validation.custom r s p c = .ok found ∧
    ∀ x ∈ found, x.constraintType ≠ category.name

/-- The evaluator that comes with the registry reports custom violations only. -/
theorem Registry.standard_leaves (s : Schema) (p : Population) {category : ConstraintCategory}
    (builtIn : category ≠ .custom) : Registry.standard.Leaves s p category := by
  intro c _
  have apart : ConstraintCategory.custom.name ≠ category.name := by
    revert builtIn
    cases category <;> decide
  have held : Registry.standard.find? c.kind = if c.kind = "no_empty" then some noEmpty else none :=
    OrderedMap.find?_insert _ _ _ _
  unfold Validation.custom
  rw [held]
  split
  · rename_i evaluator found
    split at found
    · obtain rfl := Option.some.inj found
      refine ⟨_, rfl, fun x member => ?_⟩
      obtain ⟨id, _, made⟩ := List.mem_filterMap.mp member
      split at made
      · cases made
      · obtain rfl := Option.some.inj made
        exact apart
    · cases found
  · exact ⟨[], rfl, fun _ member => nomatch member⟩

namespace Validation

variable {s : Schema} {p : Population} {r : Registry}

/-- A violation of a category that the evaluators leave alone comes from a built-in check. -/
theorem mem_report_of_leaves {category : ConstraintCategory} (leaves : r.Leaves s p category) :
    ∃ report, validate r s p = .ok report ∧ ∀ x, x.constraintType = category.name →
      (x ∈ report.violations ↔ x ∈ builtIn .plain s p) := by
  obtain ⟨judged, run⟩ := exists_mapM_eq_ok fun c held => (leaves c held).imp fun _ h => h.1
  refine ⟨_, validateWriting_eq_ok_iff.mpr ⟨judged, run, rfl⟩, fun x kind => ?_⟩
  rw [List.mem_append, or_iff_left]
  intro custom
  obtain ⟨found, listed, inside⟩ := List.mem_flatten.mp custom
  obtain ⟨c, held, judges⟩ := exists_of_mem_mapM run listed
  obtain ⟨same, evaluated, others⟩ := leaves c held
  rw [evaluated] at judges
  cases judges
  exact others x inside kind

theorem encode_notMem_iff {texts : List String} {text : String} :
    (Value.str text).encode ∉ encodings (texts.map .str) ↔ text ∉ texts := by
  simp [encodings, Value.encode_eq_str_iff]

theorem shown_of_message {name shown other : String}
    (same : s!"Value not in allowed enumeration: {name} (value: {shown})" =
      s!"Value not in allowed enumeration: {name} (value: {other})") : shown = other := by
  have texts := congrArg String.toList same
  simp only [String.toList_append, List.append_cancel_right_eq, List.append_cancel_left_eq] at texts
  exact String.toList_inj.mp texts

theorem mem_absentFrom_iff {values others : List Value} {v : Value} :
    v ∈ absentFrom values others ↔ v ∈ values ∧ v.encode ∉ encodings others := by
  simp [absentFrom]

/-- A text among the instances of a label is reported for an enumeration of texts exactly when it
is not one of them. -/
theorem rejects_iff (keyed : s.Keyed) {c : EnumerationConstraint}
    (held : c ∈ s.enumerationConstraints.values) (known : s.hasObject c.labelTypeId = true)
    {texts : List String} (allowed : c.allowedValues = texts.map .str) {text : String}
    (listed : .str text ∈ (p.instances? c.labelTypeId).getD []) :
    (∃ x ∈ builtIn .plain s p, x.Rejects c (.str text)) ↔ text ∉ texts := by
  have here : (BuiltInConstraint.enumeration c).At s c.id :=
    keyed.enumerationConstraints.find?_id held
  rw [← encode_notMem_iff, ← allowed]
  constructor
  · rintro ⟨x, member, rejects⟩
    obtain ⟨id, d, there, found⟩ := (BuiltInConstraint.mem_builtIn_iff .plain x).mp member
    obtain ⟨_, _, _, made⟩ := BuiltInConstraint.eq_violation_of_mem_check found
    have kind : d.category = .enumeration := by
      have name := rejects.constraintType
      rw [made] at name
      revert name
      show d.category.name = _ → _
      cases d.category <;> decide
    obtain rfl : id = c.id := by
      rw [← rejects.constraintId, made]
      rfl
    obtain rfl : d = .enumeration c := BuiltInConstraint.eq_of_at here there kind
    simp only [BuiltInConstraint.check, enumeration, known, if_true] at found
    obtain ⟨w, absent, rfl⟩ := List.mem_map.mp found
    have same := (Value.shown_eq_str_iff w text).mp (shown_of_message rejects.message)
    rw [← same]
    exact (mem_absentFrom_iff.mp absent).2
  · intro absent
    refine ⟨violation .enumeration c.id
      s!"Value not in allowed enumeration: {c.name} (value: {(Value.str text).shown})"
      [c.labelTypeId] [], ?_, rfl, rfl, rfl⟩
    refine (BuiltInConstraint.mem_builtIn_iff .plain _).mpr ⟨c.id, .enumeration c, here, ?_⟩
    simp only [BuiltInConstraint.check, enumeration, known, if_true]
    exact List.mem_map.mpr ⟨.str text, mem_absentFrom_iff.mpr ⟨listed, absent⟩, rfl⟩

end Validation

end FactModel
