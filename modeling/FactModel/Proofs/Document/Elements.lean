import FactModel.Proofs.Document.Reading
import FactModel.Schema.Document

/-!
Elements of a schema are read as they were written, where their fields hold what they are declared
to hold.
-/

namespace FactModel

open Value

theorem Entity.read_toValue (e : Entity) : Entity.read e.toValue = .ok e := by
  simp [read, toValue, optionalText, lookup_pair_cons]

/-- A label type whose type is one of the named ones and whose bounds are floats. -/
structure LabelType.Typed (l : LabelType) : Prop where
  dataType : ∀ name, l.dataType ≠ .other name
  minValue : ∀ n, l.minValue ≠ some (.int n)
  maxValue : ∀ n, l.maxValue ≠ some (.int n)

theorem DataType.ofName?_name_of_ne_other {d : DataType} (known : ∀ name, d ≠ .other name) :
    DataType.ofName? d.name = some d := by
  cases d with
  | other name => exact absurd rfl (known name)
  | _ => rfl

theorem RangeBound.read_toValue {b : RangeBound} (float : ∀ n, b ≠ .int n) :
    RangeBound.read b.toValue = .ok b := by
  cases b with
  | float x => rfl
  | int n => exact absurd rfl (float n)

theorem LabelType.read_toValue {l : LabelType} (typed : l.Typed) (apart : l.toValue.KeysApart) :
    LabelType.read l.toValue = .ok l := by
  have least : readNullable RangeBound.read (ofOption RangeBound.toValue l.minValue) =
      .ok l.minValue := readNullable_ofOption
    (fun b held => RangeBound.read_toValue fun n same => typed.minValue n (same ▸ held))
    fun b _ => by cases b <;> nofun
  have most : readNullable RangeBound.read (ofOption RangeBound.toValue l.maxValue) =
      .ok l.maxValue := readNullable_ofOption
    (fun b held => RangeBound.read_toValue fun n same => typed.maxValue n (same ▸ held))
    fun b _ => by cases b <;> nofun
  have free : (ofOption arr l.enumeration).KeysApart :=
    apart.field (show ("enumeration", _) ∈ _ by simp)
  have values := readNullable_readAny free
  simp [read, toValue, optionalText, lookup_pair_cons, least, most, values, DataType.read,
    DataType.ofName?_name_of_ne_other typed.dataType]

theorem PowerType.read_toValue (p : PowerType) : PowerType.read p.toValue = .ok p := by
  simp [read, toValue, lookup_pair_cons]

theorem SequenceType.read_toValue (q : SequenceType) : SequenceType.read q.toValue = .ok q := by
  simp [read, toValue, lookup_pair_cons]

theorem FactType.read_toValue (f : FactType) : FactType.read f.toValue = .ok f := by
  simp [read, toValue, optionalText, lookup_pair_cons]

theorem Predicator.read_toValue (p : Predicator) : Predicator.read p.toValue = .ok p := by
  simp [read, toValue, lookup_pair_cons]

theorem UniqueConstraint.read_toValue (c : UniqueConstraint) :
    UniqueConstraint.read c.toValue = .ok c := by
  simp [read, toValue, lookup_pair_cons]

theorem TotalRoleConstraint.read_toValue (c : TotalRoleConstraint) :
    TotalRoleConstraint.read c.toValue = .ok c := by
  simp [read, toValue, lookup_pair_cons]

theorem SetConstraint.read_toValue {c : SetConstraint} (known : ∀ name, c.kind ≠ .other name) :
    SetConstraint.read c.toValue = .ok c := by
  have kind : SetKind.ofName? c.kind.name = some c.kind := by
    cases same : c.kind with
    | other name => exact absurd same (known name)
    | _ => rfl
  simp [read, toValue, lookup_pair_cons, SetKind.read, kind]

theorem CardinalityConstraint.read_toValue (c : CardinalityConstraint) :
    CardinalityConstraint.read c.toValue = .ok c := by
  simp [read, toValue, optionalInt, lookup_pair_cons, Bounds.read]

theorem FrequencyConstraint.read_toValue (c : FrequencyConstraint) :
    FrequencyConstraint.read c.toValue = .ok c := by
  simp [read, toValue, optionalInt, lookup_pair_cons, Bounds.read]

theorem EnumerationConstraint.read_toValue {c : EnumerationConstraint}
    (apart : c.toValue.KeysApart) : EnumerationConstraint.read c.toValue = .ok c := by
  have free : (arr c.allowedValues).KeysApart :=
    apart.field (show ("allowed_values", _) ∈ _ by simp)
  have values := readList_readAny free
  simp [read, toValue, lookup_pair_cons, values]

theorem CustomConstraint.read_toValue {c : CustomConstraint} (apart : c.toValue.KeysApart) :
    CustomConstraint.read c.toValue = .ok c := by
  have free : (obj c.parameters).KeysApart := apart.field (show ("parameters", _) ∈ _ by simp)
  have parameters := readOpenMap_obj free
  simp [read, toValue, lookup_pair_cons, parameters]

end FactModel
