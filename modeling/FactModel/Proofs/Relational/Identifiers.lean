import FactModel.Proofs.FreshNames
import FactModel.Proofs.Relational.FactTables
import FactModel.Proofs.Text.Numerals

/-!
What stands in the columns of a derivation: names made of the characters of identifiers, and native
types of the dialect. Names that are claimed and names that are put together from others keep to
these characters.
-/

namespace FactModel

namespace Ddl

def IdentifierChar (c : Char) : Prop := ('a' ≤ c ∧ c ≤ 'z') ∨ Text.isDigit c = true ∨ c = '_'

instance (c : Char) : Decidable (IdentifierChar c) :=
  inferInstanceAs (Decidable (('a' ≤ c ∧ c ≤ 'z') ∨ Text.isDigit c = true ∨ c = '_'))

def IsIdentifier (name : String) : Prop := ∀ c ∈ name.toList, IdentifierChar c

instance (name : String) : Decidable (IsIdentifier name) :=
  List.decidableBAll IdentifierChar name.toList

theorem isIdentifier_ofList {cs : List Char} (all : ∀ c ∈ cs, IdentifierChar c) :
    IsIdentifier (String.ofList cs) := by
  rw [IsIdentifier, String.toList_ofList]
  exact all

theorem identifierChar_of_mem {c other : Char} (member : other ∈ identifierChar c) :
    IdentifierChar other := by
  unfold identifierChar at member
  dsimp only at member
  split at member
  · rename_i plain
    rw [List.mem_singleton.mp member]
    simpa [IdentifierChar, or_assoc] using plain
  · have plain : IdentifierChar 'k' ∧ IdentifierChar 'i' ∧ IdentifierChar '_' := by decide
    have among : other = 'k' ∨ other = 'i' ∨ other = '_' := by
      split at member
      · simp_all
      · split at member <;> simp_all
    rcases among with rfl | rfl | rfl
    · exact plain.1
    · exact plain.2.1
    · exact plain.2.2

theorem identifier_isIdentifier (name : String) : IsIdentifier (identifier name) := by
  unfold identifier
  split
  · decide
  · refine isIdentifier_ofList fun c member => ?_
    obtain ⟨_, _, inside⟩ := List.mem_flatMap.mp member
    exact identifierChar_of_mem inside

theorem IsIdentifier.append {name other : String} (first : IsIdentifier name)
    (second : IsIdentifier other) : IsIdentifier (name ++ other) := by
  rw [IsIdentifier, String.toList_append]
  exact List.forall_mem_append.mpr ⟨first, second⟩

theorem isIdentifier_toString (n : Nat) : IsIdentifier (toString n) := by
  rw [Nat.toString_eq_repr, Nat.repr_eq_ofList_toDigits]
  refine isIdentifier_ofList fun c member => ?_
  have digit := Nat.isDigit_of_mem_toDigits (by decide) (by decide) member
  refine .inr (.inl ?_)
  simpa [Text.isDigit, Char.isDigit, Char.le_def] using digit

/-- An identifier that is not empty. -/
structure IsName (name : String) : Prop where
  plain : IsIdentifier name
  filled : name ≠ ""

instance (name : String) : Decidable (IsName name) :=
  decidable_of_iff (IsIdentifier name ∧ name ≠ "")
    ⟨fun both => ⟨both.1, both.2⟩, fun named => ⟨named.plain, named.filled⟩⟩

theorem identifier_isName (name : String) : IsName (identifier name) := by
  refine ⟨identifier_isIdentifier name, ?_⟩
  unfold identifier
  split
  · decide
  · rename_i filled
    exact fun none => filled (String.ofList_eq_empty_iff.mp none)

theorem IsName.append {name other : String} (first : IsName name) (second : IsIdentifier other) :
    IsName (name ++ other) :=
  ⟨first.plain.append second, fun none => first.filled (String.append_eq_empty_iff.mp none).1⟩

end Ddl

namespace Name

open Ddl

theorem candidate_isName {name : String} (named : IsName name) (k : Nat) :
    IsName (candidate name k) := by
  have mark : IsIdentifier "_" := by decide
  unfold candidate
  split
  · exact named
  · exact (named.append mark).append (isIdentifier_toString k)

theorem claimAll_isName {used names : List String} (named : ∀ name ∈ names, IsName name) :
    ∀ claimed ∈ claimAll used names, IsName claimed := by
  induction names generalizing used with
  | nil => simp [claimAll]
  | cons name rest ih =>
    obtain ⟨here, later⟩ := List.forall_mem_cons.mp named
    refine List.forall_mem_cons.mpr ⟨?_, ih later⟩
    obtain ⟨k, _, claimed⟩ := exists_search_claim used name
    rw [claimed]
    exact candidate_isName here k

theorem isName_of_mem_zip {α : Type} {used names : List String} {items : List α}
    (named : ∀ name ∈ names, IsName name) {pair : String × α}
    (paired : pair ∈ (claimAll used names).zip items) : IsName pair.1 ∧ pair.2 ∈ items := by
  have listed := List.of_mem_zip paired
  exact ⟨claimAll_isName named pair.1 listed.1, listed.2⟩

end Name

def Dialect.HasType (d : Dialect) (text : String) : Prop :=
  text = d.autoIncrementType ∨ ∃ x, text = d.sqlType x

structure KeyColumn.Plain (d : Dialect) (c : KeyColumn) : Prop where
  name : Ddl.IsIdentifier c.name
  filled : c.name ≠ ""
  type : d.HasType c.dataType

def Key.Plain (d : Dialect) (key : Key) : Prop := ∀ c ∈ key.columns, c.Plain d

/-- The column can be written as it is. -/
structure Column.Plain (d : Dialect) (c : Column) : Prop where
  name : Ddl.IsIdentifier c.name
  filled : c.name ≠ ""
  type : d.HasType c.dataType
  default : c.default = none

theorem KeyColumn.Plain.isName {d : Dialect} {c : KeyColumn} (plain : c.Plain d) :
    Ddl.IsName c.name := ⟨plain.name, plain.filled⟩

theorem Column.Plain.isName {d : Dialect} {c : Column} (plain : c.Plain d) : Ddl.IsName c.name :=
  ⟨plain.name, plain.filled⟩

def RoleColumns.Plain (d : Dialect) (role : RoleColumns) : Prop := ∀ c ∈ role.columns, c.Plain d

theorem isName_surrogateName : Ddl.IsName surrogateName := by decide

theorem Dialect.surrogateKey_plain (d : Dialect) : d.surrogateKey.Plain d := by
  intro c member
  rw [List.mem_singleton.mp member]
  exact ⟨isName_surrogateName.plain, isName_surrogateName.filled, .inr ⟨.integer, rfl⟩⟩

theorem Dialect.surrogateColumn_plain (d : Dialect) : d.surrogateColumn.Plain d :=
  ⟨isName_surrogateName.plain, isName_surrogateName.filled, .inl rfl, rfl⟩

section Roles

variable {d : Dialect} {keyOf : Entity → Key}

theorem keyColumns_plain {base : String} (named : Ddl.IsName base) (table : String)
    {key : Key} (columns : key.Plain d) (target : String) (nullable : Bool)
    (sources : List String) :
    ∀ c ∈ keyColumns base table key target nullable sources, c.Plain d := by
  intro c member
  obtain ⟨column, held, rfl⟩ := List.mem_map.mp member
  have mark : Ddl.IsIdentifier "_" := by decide
  have name : Ddl.IsName
      (if key.columns.length == 1 then base else s!"{base}_{column.name}") := by
    split
    · exact named
    · exact (named.append mark).append (columns column held).name
  exact ⟨name.plain, name.filled, (columns column held).type, rfl⟩

theorem referenceColumns_plain {target : ObjectType}
    (keys : ∀ e, target = .entity e → (keyOf e).Plain d) (tables : OrderedMap String)
    (role : String) (nullable : Bool) (sources : List String) :
    (referenceColumns d tables keyOf role target nullable sources).Plain d := by
  cases target with
  | entity e => exact keyColumns_plain (Ddl.identifier_isName role) _ (keys e rfl) _ _ _
  | _ =>
    intro c member
    rw [List.mem_singleton.mp member]
    have name := Ddl.identifier_isName role
    exact ⟨name.plain, name.filled, .inr ⟨_, rfl⟩, rfl⟩

theorem RoleUse.columns_plain {use : RoleUse}
    (keys : ∀ e, use.entity? = some e → (keyOf e).Plain d) (tables : OrderedMap String) :
    (use.columns d tables keyOf).Plain d := by
  cases use with
  | nothing => exact fun _ member => nomatch member
  | flag f role =>
    intro c member
    rw [List.mem_singleton.mp member]
    have name := Ddl.identifier_isName f.name
    exact ⟨name.plain, name.filled, .inr ⟨.boolean, rfl⟩, rfl⟩
  | value role partner target =>
    refine referenceColumns_plain (fun e refers => keys e ?_) _ _ _ _
    rw [refers]
    rfl

theorem naturalColumns_plain {columns : List Column} (plain : ∀ c ∈ columns, c.Plain d) :
    ∀ c ∈ Derivation.naturalColumns columns, c.Plain d := by
  have names : ∀ name ∈ columns.map (·.name), Ddl.IsName name :=
    List.forall_mem_map.mpr fun c held => (plain c held).isName
  intro c member
  obtain ⟨pair, paired, rfl⟩ := List.mem_map.mp member
  have placed := Name.isName_of_mem_zip names paired
  exact ⟨placed.1.plain, placed.1.filled, (plain pair.2 placed.2).type⟩

theorem RoleGroup.place_plain {used : List String} {roles : List (String × RoleColumns)}
    (plain : ∀ role ∈ roles, role.2.Plain d) :
    ∀ g ∈ place used roles, ∀ c ∈ g.columns, c.Plain d := by
  induction roles generalizing used with
  | nil => exact fun _ member => nomatch member
  | cons role rest ih =>
    obtain ⟨here, later⟩ := List.forall_mem_cons.mp plain
    have names : ∀ name ∈ role.2.columns.map (·.name), Ddl.IsName name :=
      List.forall_mem_map.mpr fun c held => (here c held).isName
    refine List.forall_mem_cons.mpr ⟨?_, ih later⟩
    intro c member
    obtain ⟨pair, paired, rfl⟩ := List.mem_map.mp member
    have placed := Name.isName_of_mem_zip names paired
    have old := here pair.2 placed.2
    exact ⟨placed.1.plain, placed.1.filled, old.type, old.default⟩

end Roles

namespace Derivation

variable {d : Derivation}

theorem Contributes.plain {t : KeyTable} {e : Entity} {role : String} {columns : List Column}
    (given : d.Contributes (d.Answers t) e role columns)
    (known : ∀ id key, t.known.find? id = some key → key.Plain d.dialect) :
    ∀ c ∈ columns, c.Plain d.dialect := by
  obtain ⟨key, rfl, answered⟩ := given
  refine RoleUse.columns_plain (fun target refers => ?_) d.tables
  rcases answered target refers with found | ⟨rfl, _⟩
  · exact known _ _ found
  · exact d.dialect.surrogateKey_plain

theorem Justified.plain {t : KeyTable} {e : Entity} {key : Key} (justified : d.Justified t e key)
    (known : ∀ id other, t.known.find? id = some other → other.Plain d.dialect) :
    key.Plain d.dialect := by
  cases justified with
  | natural groups given _ =>
    refine naturalColumns_plain fun c member => ?_
    obtain ⟨group, listed, inside⟩ := List.mem_flatten.mp member
    obtain ⟨role, _, contributes⟩ := exists_of_forall₂ given listed
    exact contributes.plain known c inside
  | inherited _ _ _ parent other _ _ _ _ found _ =>
    exact fun c member => known _ other found c member
  | surrogate _ _ _ _ => exact d.dialect.surrogateKey_plain

theorem plan_key_plain (keyed : d.schema.Keyed) (e : Entity) :
    (d.plan.key e).Plain d.dialect :=
  plan_key_forall keyed d.dialect.surrogateKey_plain Justified.plain e

end Derivation

namespace TablePlan

variable {p : TablePlan}

theorem leadColumns_plain (keys : ∀ e, (p.key e).Plain p.dialect) (e : Entity) :
    ∀ c ∈ p.leadColumns e, c.Plain p.dialect := by
  have names : ∀ name ∈ (p.key e).columns.map (·.name), Ddl.IsName name :=
    List.forall_mem_map.mpr fun c held => (keys e c held).isName
  intro c member
  unfold leadColumns at member
  dsimp only at member
  split at member
  · cases member
  · obtain ⟨pair, paired, rfl⟩ := List.mem_map.mp member
    have placed := Name.isName_of_mem_zip names paired
    exact ⟨placed.1.plain, placed.1.filled, (keys e pair.2 placed.2).type, rfl⟩
  · rw [List.mem_singleton.mp member]
    exact p.dialect.surrogateColumn_plain

theorem marked_plain {e : Entity} {c : Column} (plain : c.Plain p.dialect) :
    (p.marked e c).Plain p.dialect := by
  unfold marked
  split
  · exact ⟨plain.name, plain.filled, plain.type, plain.default⟩
  · exact plain

theorem columns_plain (keys : ∀ e, (p.key e).Plain p.dialect) {t : Table}
    (member : t ∈ p.tableList) : ∀ c ∈ t.columns, c.Plain p.dialect := by
  have facts : ∀ kind f, ∀ c ∈ (p.factTable kind f).columns, c.Plain p.dialect := by
    intro kind f c held
    rw [columns_factTable] at held
    rcases List.mem_append.mp held with lead | group
    · unfold factLead at lead
      split at lead
      · cases lead
      · rw [List.mem_singleton.mp lead]
        exact p.dialect.surrogateColumn_plain
    · obtain ⟨g, listed, inside⟩ := List.mem_flatMap.mp group
      rw [factGroups_eq] at listed
      refine RoleGroup.place_plain ?_ g listed c inside
      exact List.forall_mem_map.mpr fun pair _ =>
        referenceColumns_plain (fun e _ => keys e) _ _ _ _
  rcases List.mem_append.mp member with front | junction
  · rcases List.mem_append.mp front with entity | objectified
    · obtain ⟨e, _, rfl⟩ := List.mem_map.mp entity
      intro c held
      rw [columns_entityTable] at held
      obtain ⟨old, present, rfl⟩ := List.mem_map.mp held
      refine marked_plain ?_
      rcases List.mem_append.mp present with lead | group
      · exact leadColumns_plain keys e old lead
      · obtain ⟨g, listed, inside⟩ := List.mem_flatMap.mp group
        rw [entityGroups_eq] at listed
        refine RoleGroup.place_plain ?_ g listed old inside
        exact List.forall_mem_map.mpr fun role _ =>
          RoleUse.columns_plain (fun e _ => keys e) _
    · obtain ⟨f, _, rfl⟩ := List.mem_map.mp objectified
      exact facts .objectified f
  · obtain ⟨f, _, rfl⟩ := List.mem_map.mp junction
    exact facts .junction f

end TablePlan

end FactModel
