import FactModel.Proofs.Builder.KeyedRuns

/-!
A request that fails changes nothing, whatever schema other requests have led to. The one
exception is a fact type with fewer wishes than roles: it leaves the roles before the gap.
-/

namespace FactModel

/-- A type that an operation declares for an argument. -/
inductive ArgumentType where
  | text
  | truth
  | integer
  | number
  | word (words : List String)
  | texts
  | truths
  | list
  | sequence
  | fields
  | optional (type : ArgumentType)

namespace ArgumentType

def isText : Value → Bool
  | .str _ => true
  | _ => false

def isTruth : Value → Bool
  | .bool _ => true
  | _ => false

def admits : ArgumentType → Value → Bool
  | text, v => isText v
  | truth, v => isTruth v
  | integer, .int _ => true
  | number, .int _ => true
  | number, .float _ => true
  | word words, .str s => words.contains s
  | texts, .arr items => items.all isText
  | texts, .str _ => true
  | truths, .arr items => items.all isTruth
  | list, .arr _ => true
  | sequence, .arr _ => true
  | sequence, .str _ => true
  | fields, .obj _ => true
  | optional _, .null => true
  | optional type, v => type.admits v
  | _, _ => false

end ArgumentType

namespace Operation

open ArgumentType

def dataTypes : List String := ["String", "Integer", "Decimal", "Boolean", "Date", "DateTime"]

def setKinds : List String := ["Subset", "Equality", "Exclusion"]

/-- The arguments of an operation with their types. -/
def signature : Operation → List (String × ArgumentType)
  | addEntity => [("name", .optional .text), ("id", .optional .text)]
  | addLabelType => [
    ("name", .optional .text),
    ("data_type", .word dataTypes),
    ("id", .optional .text),
    ("enumeration", .optional .list),
    ("min_value", .optional .number),
    ("max_value", .optional .number),
    ("pattern", .optional .text)]
  | addPowerType =>
    [("element_type_id", .text), ("name", .optional .text), ("id", .optional .text)]
  | addSequenceType => [
    ("element_type_id", .text),
    ("name", .optional .text),
    ("id", .optional .text),
    ("allows_duplicates", .truth)]
  | addFactType => [
    ("object_ids", .texts),
    ("name", .optional .text),
    ("role_names", .optional .texts),
    ("optional", .optional .truths),
    ("id", .optional .text)]
  | addUnaryFactType => [("object_id", .text), ("name", .text)]
  | addBinaryFactType => [
    ("name", .text),
    ("first_object_id", .text),
    ("second_object_id", .text),
    ("first_role", .text),
    ("second_role", .text)]
  | specialize => [("child_id", .text), ("parent_id", .text)]
  | objectify => [("fact_type_id", .text), ("name", .optional .text), ("id", .optional .text)]
  | addUnique => [
    ("predicator_ids", .texts),
    ("name", .optional .text),
    ("is_primary", .optional .truth),
    ("id", .optional .text)]
  | addMandatory => [("predicator_id", .text), ("name", .optional .text)]
  | addSetConstraint => [
    ("kind", .word setKinds),
    ("source_predicator_ids", .texts),
    ("target_predicator_ids", .texts),
    ("name", .optional .text)]
  | addCardinality => [
    ("predicator_id", .text),
    ("min", .optional .integer),
    ("max", .optional .integer),
    ("name", .optional .text)]
  | addFrequency => [
    ("fact_type_id", .text),
    ("min", .optional .integer),
    ("max", .optional .integer),
    ("name", .optional .text)]
  | addEnumeration =>
    [("label_type_id", .text), ("allowed_values", .sequence), ("name", .optional .text)]
  | addCustom => [
    ("kind", .text),
    ("applies_to", .texts),
    ("name", .optional .text),
    ("description", .text),
    ("parameters", .optional .fields)]
  | removeObject => [("object_id", .text)]
  | removeFactType => [("fact_type_id", .text)]
  | removeConstraint => [("constraint_id", .text)]
  | build => []

/-- Arguments have the types that the operation declares. -/
def declares (op : Operation) (f : Fields) : Bool :=
  op.signature.all fun argument =>
    match f.lookup argument.1 with
    | some v => argument.2.admits v
    | none => true

/-- Where an operation declares a type for an argument, the argument is absent or of the type. -/
theorem declared_of_mem {op : Operation} {f : Fields} (declared : op.declares f = true)
    {name : String} {type : ArgumentType} (member : (name, type) ∈ op.signature) :
    f.lookup name = none ∨ ∃ v, f.lookup name = some v ∧ type.admits v = true := by
  have admitted := List.all_eq_true.mp declared (name, type) member
  cases given : f.lookup name with
  | none => exact .inl rfl
  | some v =>
    simp only [given] at admitted
    exact .inr ⟨v, rfl, admitted⟩

theorem given_of_checked {op : Operation} {f : Fields} {name : String}
    (checked : op.checkArguments name f = .ok ()) {argument : String}
    (member : argument ∈ op.required) : ∃ v, f.lookup argument = some v := by
  unfold checkArguments at checked
  dsimp only at checked
  split at checked
  · cases checked
  · split at checked
    · rename_i complete
      rw [List.isEmpty_iff, List.filter_eq_nil_iff] at complete
      exact Option.isSome_iff_exists.mp (by simpa using complete argument member)
    · cases checked

end Operation

theorem ArgumentType.eq_str_of_text {v : Value} (admitted : text.admits v = true) :
    ∃ s, v = .str s := by
  cases v with
  | str s => exact ⟨s, rfl⟩
  | _ => cases admitted

/-! Wishes for roles, where items of the right type are listed -/

/-- The wishes are as many as `count` says, all of them readable, or there are none at all. -/
inductive Wished {α : Type} (wishes : RoleWishes α) : Option Nat → Prop
  | none (absent : ∀ position, wishes position = .ok none) : Wished wishes none
  | listed {count : Nat} {error : BuilderError} (some_wish : 0 < count)
      (kind : error = .missingRole ∨ error = .missingCharacter)
      (readable : ∀ position < count, ∃ a, wishes position = .ok (some (.ok a)))
      (missing : ∀ position, count ≤ position → wishes position = .error error) :
      Wished wishes (some count)

namespace Wished

variable {α : Type} {wishes : RoleWishes α} {count : Option Nat} {position : Nat}

theorem not_bad (wished : Wished wishes count) {ps : List Problem} :
    wishes position ≠ .ok (some (.bad ps)) := by
  intro bad
  cases wished with
  | none absent =>
    rw [absent] at bad
    cases bad
  | @listed count error _ _ readable missing =>
    by_cases inside : position < count
    · obtain ⟨a, read⟩ := readable position inside
      rw [read] at bad
      cases bad
    · rw [missing position (by omega)] at bad
      cases bad

/-- The first wish that is missing is the one after all that are listed. -/
theorem count_eq (wished : Wished wishes count) {error : BuilderError}
    (none : wishes position = .error error)
    (supplied : ∀ i < position, Supplied wishes i) :
    count = some position ∧ 0 < position ∧
      (error = .missingRole ∨ error = .missingCharacter) := by
  cases wished with
  | none absent =>
    rw [absent] at none
    cases none
  | @listed count error' some_wish kind readable missing =>
    have outside : count ≤ position := by
      by_contra inside
      obtain ⟨a, read⟩ := readable position (by omega)
      rw [read] at none
      cases none
    have not_past : ¬ count < position := by
      intro past
      obtain ⟨wish, given⟩ := supplied count past
      rw [missing count (Nat.le_refl _)] at given
      cases given
    obtain rfl : count = position := by omega
    rw [missing count (Nat.le_refl _)] at none
    cases none
    exact ⟨rfl, some_wish, kind⟩

theorem ofList {items : List (Reading α)} (some_wish : items ≠ [])
    (readable : ∀ r ∈ items, ∃ a, r = .ok a) :
    Wished (RoleWishes.ofList items) (some items.length) := by
  refine .listed (List.length_pos_of_ne_nil some_wish) (.inl rfl) (fun position inside => ?_)
    fun position outside => ?_
  · obtain ⟨a, read⟩ := readable items[position] (List.getElem_mem inside)
    refine ⟨a, ?_⟩
    rw [RoleWishes.ofList, List.getElem?_eq_getElem inside, read]
  · rw [RoleWishes.ofList, List.getElem?_eq_none outside]

end Wished

namespace Fields

/-- How many wishes an argument lists, if any. -/
def wishCount (f : Fields) (name : String) : Option Nat :=
  match (f.get name).members with
  | [] => none
  | items => some items.length

theorem wishes_of_empty {α : Type} {f : Fields} {name : String} {read : Value → Reading α}
    (empty : (f.get name).isEmpty = true) : f.wishes name read = .none := by
  unfold wishes
  split
  · rename_i item rest given
    rw [given] at empty
    cases empty
  · rename_i s given
    rw [given] at empty
    exact if_pos empty
  · exact if_pos empty

theorem wished_of_list {α : Type} {f : Fields} {name : String} {read : Value → Reading α}
    {items : List Value} (given : f.get name = .arr items)
    (readable : ∀ v ∈ items, ∃ a, read v = .ok a) :
    Wished (f.wishes name read) (f.wishCount name) := by
  cases items with
  | nil =>
    have counted : f.wishCount name = none := by
      simp [wishCount, given, Value.members, Value.members?]
    rw [counted, wishes_of_empty (by rw [given]; rfl)]
    exact .none fun _ => rfl
  | cons first rest =>
    have counted : f.wishCount name = some ((first :: rest).map read).length := by
      simp [wishCount, given, Value.members, Value.members?]
    have listed : f.wishes name read = .ofList ((first :: rest).map read) := by
      simp only [wishes, given]
    rw [counted, listed]
    refine .ofList (by simp) fun r member => ?_
    obtain ⟨v, held, rfl⟩ := List.mem_map.mp member
    exact readable v held

theorem wished_of_null {α : Type} {f : Fields} {name : String} {read : Value → Reading α}
    (given : f.get name = .null) : Wished (f.wishes name read) (f.wishCount name) := by
  have counted : f.wishCount name = none := by
    simp [wishCount, given, Value.members, Value.members?]
  rw [counted, wishes_of_empty (by rw [given]; rfl)]
  exact .none fun _ => rfl

theorem wished_of_text {f : Fields} {name s : String} (given : f.get name = .str s) :
    Wished (f.wishes name Value.readText) (f.wishCount name) := by
  cases characters : s.toList with
  | nil =>
    have empty : s = "" := String.toList_eq_nil_iff.mp characters
    have counted : f.wishCount name = none := by
      simp [wishCount, given, Value.members, Value.members?, empty]
    rw [counted, wishes_of_empty (by rw [given, empty]; rfl)]
    exact .none fun _ => rfl
  | cons c rest =>
    have some_text : s.isEmpty = false := by
      rw [Bool.eq_false_iff]
      intro empty
      rw [String.isEmpty_iff] at empty
      rw [empty] at characters
      cases characters
    have members : (Value.str s).members =
        (c :: rest).map fun c => Value.str (String.singleton c) := by
      simp only [Value.members, Value.members?, characters, Option.getD_some]
    have counted : f.wishCount name = some (rest.length + 1) := by
      simp [wishCount, given, members]
    have listed : ∀ position, f.wishes name Value.readText position =
        (Value.str s).members[position]?.elim (.error .missingCharacter) fun c =>
          .ok (some (Value.readText c)) := by
      intro position
      simp only [wishes, given, some_text, Bool.false_eq_true, if_false]
      cases (Value.str s).members[position]? <;> rfl
    rw [counted]
    refine .listed (Nat.succ_pos _) (.inr rfl) (fun position inside => ?_)
      fun position outside => ?_
    · have bound : position < (c :: rest).length := inside
      have read := listed position
      rw [members, List.getElem?_map, List.getElem?_eq_getElem bound] at read
      exact ⟨_, read⟩
    · rw [listed, members, List.getElem?_eq_none (by simpa using outside), Option.elim_none]

theorem wished_texts {f : Fields} {name : String}
    (declared : (ArgumentType.optional .texts).admits (f.get name) = true) :
    Wished (f.wishes name Value.readText) (f.wishCount name) := by
  cases given : f.get name with
  | null => exact wished_of_null given
  | str s => exact wished_of_text given
  | arr items =>
    refine wished_of_list given fun v held => ?_
    rw [given] at declared
    obtain ⟨s, rfl⟩ := ArgumentType.eq_str_of_text (List.all_eq_true.mp declared v held)
    exact ⟨s, rfl⟩
  | _ =>
    rw [given] at declared
    cases declared

theorem wished_truths {f : Fields} {name : String}
    (declared : (ArgumentType.optional .truths).admits (f.get name) = true) :
    Wished (f.wishes name Value.readBool) (f.wishCount name) := by
  cases given : f.get name with
  | null => exact wished_of_null given
  | arr items =>
    refine wished_of_list given fun v held => ?_
    rw [given] at declared
    have truth := List.all_eq_true.mp declared v held
    cases v with
    | bool b => exact ⟨b, rfl⟩
    | _ => cases truth
  | _ =>
    rw [given] at declared
    cases declared

theorem admits_get {op : Operation} {f : Fields} (declared : op.declares f = true)
    {name : String} {type : ArgumentType} (member : (name, .optional type) ∈ op.signature) :
    (ArgumentType.optional type).admits (f.get name) = true := by
  rcases Operation.declared_of_mem declared member with absent | ⟨v, given, admitted⟩
  · simp [get, absent, ArgumentType.admits]
  · simpa [get, given] using admitted

/-- A required text reads as a text. -/
theorem readText_get {op : Operation} {f : Fields} {name : String}
    (declared : op.declares f = true) (checked : op.checkArguments name f = .ok ())
    {argument : String} (member : (argument, .text) ∈ op.signature)
    (required : argument ∈ op.required) :
    ∃ s, (f.get argument).readText = .ok s := by
  obtain ⟨v, given⟩ := Operation.given_of_checked checked required
  rcases Operation.declared_of_mem declared member with absent | ⟨w, same, admitted⟩
  · rw [given] at absent
    cases absent
  · obtain ⟨s, rfl⟩ := ArgumentType.eq_str_of_text admitted
    exact ⟨s, by simp [get, same, Value.readText]⟩

theorem textOr_ok {op : Operation} {f : Fields} (declared : op.declares f = true)
    {name : String} (default : String) (member : (name, .text) ∈ op.signature) :
    ∃ s, f.textOr name default = .ok s := by
  rcases Operation.declared_of_mem declared member with absent | ⟨v, given, admitted⟩
  · exact ⟨default, by simp [textOr, absent]⟩
  · obtain ⟨s, rfl⟩ := ArgumentType.eq_str_of_text admitted
    exact ⟨s, by simp [textOr, given, Value.readText]⟩

theorem given_not_bad {op : Operation} {f : Fields} {name : String}
    (declared : op.declares f = true) (member : (name, .optional .text) ∈ op.signature)
    {ps : List Problem} : f.given? name ≠ some (.bad ps) := by
  intro bad
  have admitted := admits_get declared member
  unfold given? at bad
  cases given : f.get name with
  | str s =>
    rw [given] at bad
    split at bad <;> cases bad
  | null =>
    rw [given] at bad
    cases bad
  | _ =>
    rw [given] at admitted
    cases admitted

end Fields

/-! The one way in which a failure leaves something behind -/

/-- The roles of a fact type before the first one that a list of wishes, too short, says nothing
about. Their ids are new, and the fact type itself is not added. -/
inductive RolesLeft (f : Fields) (s : Schema) : Schema → Prop
  | before (factType : String) (objects front : List ObjectType) (roles : List Predicator)
      (found : List.Forall₂ (fun id o => s.object? id.shown = some o)
        (Operation.addFactType.players f) objects)
      (first : front <+: objects) (some_role : 0 < front.length)
      (short : front.length < objects.length)
      (gap : f.wishCount "role_names" = some front.length ∨
        f.wishCount "optional" = some front.length)
      (new : Schema.NewRoles factType s 0 front roles) :
      RolesLeft f s (s.putRoles roles)

theorem RolesLeft.exists_roles {f : Fields} {s t : Schema} (left : RolesLeft f s t) :
    ∃ factType objects roles, Schema.NewRoles factType s 0 objects roles ∧
      t = s.putRoles roles := by
  obtain ⟨factType, _, front, roles, _, _, _, _, _, new⟩ := left
  exact ⟨factType, front, roles, new, rfl⟩

namespace Operation

variable {f : Fields} {op : Operation} {s t : Schema} {error : BuilderError} {name : String}

/-- The wishes of an operation for as many roles as it adds. -/
theorem wished_of_declared (declared : op.declares f = true)
    (checked : op.checkArguments name f = .ok ()) (other : op ≠ addFactType) :
    (∃ count, Wished (op.roleNames f) count ∧ ∀ n, count = some n → (op.players f).length ≤ n) ∧
      Wished (op.roleOptions f) none := by
  have no_options : Wished (op.roleOptions f) none := by
    cases op with
    | addFactType => exact absurd rfl other
    | _ => exact .none fun _ => rfl
  refine ⟨?_, no_options⟩
  cases op with
  | addFactType => exact absurd rfl other
  | addUnaryFactType =>
    have member : ("name", ArgumentType.text) ∈ signature addUnaryFactType := by simp [signature]
    obtain ⟨s, read⟩ := Fields.readText_get declared checked member (by simp [required])
    refine ⟨some 1, .ofList (by simp) ?_, ?_⟩
    · simp [read]
    · rintro n ⟨rfl⟩
      simp [players]
  | addBinaryFactType =>
    have first : ("first_role", ArgumentType.text) ∈ signature addBinaryFactType := by
      simp [signature]
    have second : ("second_role", ArgumentType.text) ∈ signature addBinaryFactType := by
      simp [signature]
    obtain ⟨_, readFirst⟩ := Fields.textOr_ok declared "source" first
    obtain ⟨_, readSecond⟩ := Fields.textOr_ok declared "target" second
    refine ⟨some 2, .ofList (by simp) ?_, ?_⟩
    · simp [readFirst, readSecond]
    · rintro n ⟨rfl⟩
      simp [players]
  | _ =>
    refine ⟨none, .none fun _ => rfl, fun n some => ?_⟩
    cases some

/-- Where wishes of the right types do not yield a role, one of their lists has just ended. -/
theorem gap_of_blocked {names : RoleWishes String} {options : RoleWishes Bool}
    {count count' : Option Nat} (named : Wished names count) (optioned : Wished options count')
    {n : Nat} (supplied : ∀ i < n, Supplied names i ∧ Supplied options i)
    (blocked : Blocked names options n error) :
    (count = some n ∨ count' = some n) ∧ 0 < n ∧
      (error = .missingRole ∨ error = .missingCharacter) := by
  cases blocked with
  | name none =>
    obtain ⟨ended, some_role, kind⟩ := named.count_eq none fun i before => (supplied i before).1
    exact ⟨.inl ended, some_role, kind⟩
  | isOptional none =>
    obtain ⟨ended, some_role, kind⟩ := optioned.count_eq none fun i before => (supplied i before).2
    exact ⟨.inr ended, some_role, kind⟩
  | badName bad => exact absurd bad named.not_bad
  | badOptional bad => exact absurd bad optioned.not_bad

theorem schema_of_failure (declared : op.declares f = true)
    (checked : op.checkArguments name f = .ok ()) (failure : op.Failure f s error t) :
    t = s ∨ op = addFactType ∧ (error = .missingRole ∨ error = .missingCharacter) ∧
      RolesLeft f s t := by
  cases failure with
  | unchanged => exact .inl rfl
  | mandatory id ps operation badName =>
    subst operation
    exact absurd badName (Fields.given_not_bad declared (by simp [signature]))
  | roles halted =>
    obtain ⟨factType, objects, front, roles, found, first, short, new, supplied, blocked⟩ := halted
    by_cases general : op = addFactType
    · subst general
      have names : ("role_names", ArgumentType.optional .texts) ∈ signature addFactType := by
        simp [signature]
      have options : ("optional", ArgumentType.optional .truths) ∈ signature addFactType := by
        simp [signature]
      have named := Fields.wished_texts (Fields.admits_get declared names)
      have optioned := Fields.wished_truths (Fields.admits_get declared options)
      obtain ⟨gap, some_role, kind⟩ := gap_of_blocked named optioned supplied blocked
      exact .inr ⟨rfl, kind,
        .before factType objects front roles found first some_role short gap new⟩
    · obtain ⟨⟨count, named, enough⟩, optioned⟩ := wished_of_declared declared checked general
      obtain ⟨gap | none, _, _⟩ := gap_of_blocked named optioned supplied blocked
      · have all := enough _ gap
        rw [found.length_eq] at all
        omega
      · cases none

/-- Where there are wishes for roles, there is one for every role. -/
def suppliesRoles (f : Fields) : Prop :=
  ∀ list ∈ ["role_names", "optional"], ∀ count, f.wishCount list = some count →
    (addFactType.players f).length ≤ count

theorem not_suppliesRoles (left : RolesLeft f s t) : ¬ suppliesRoles f := by
  intro supplies
  obtain ⟨_, _, front, _, found, _, _, short, gap, _⟩ := left
  have length := found.length_eq
  rcases gap with gap | gap
  · have all := supplies "role_names" (by simp) _ gap
    omega
  · have all := supplies "optional" (by simp) _ gap
    omega

end Operation

namespace Builder

/-- A request that fails leaves the schema as it was, but for the roles that a fact type with too
few wishes has made before the gap. -/
theorem unchanged_or_rolesLeft {b before after : Builder} {id title version : String}
    (start : b.schema = { id := id, name := title, version := version })
    (reached : b.Reached before) {name : String} {op : Operation}
    (named : Operation.ofName? name = some op) {f : Fields} (declared : op.declares f = true)
    {error : BuilderError} (run : before.run name f = (.error error, after)) :
    (after.schema = before.schema ∨
      op = .addFactType ∧ (error = .missingRole ∨ error = .missingCharacter) ∧
        RolesLeft f before.schema after.schema) ∧
    (Operation.suppliesRoles f → after.schema = before.schema) := by
  have keyed := keyed_of_reached start reached
  have outcome : after.schema = before.schema ∨
      op = .addFactType ∧ (error = .missingRole ∨ error = .missingCharacter) ∧
        RolesLeft f before.schema after.schema := by
    rcases failure_of_run keyed.predicators run with same | ⟨op', named', checked, failure⟩
    · exact .inl same
    · rw [named] at named'
      cases named'
      exact Operation.schema_of_failure declared checked failure
  refine ⟨outcome, fun supplies => ?_⟩
  rcases outcome with same | ⟨_, _, left⟩
  · exact same
  · exact absurd supplies (Operation.not_suppliesRoles left)

/-- Two entities, and a fact type between them that names one role only. -/
def pairing : Builder :=
  runAll ⟨{ id := "pairs", name := "pairs", version := "1.0" }, ∅, [], []⟩ [
    ("add_entity", [("name", .str "Person")]),
    ("add_entity", [("name", .str "Car")])]

def halfNamed : Fields := [
  ("object_ids", .arr [.str "entity_1", .str "entity_2"]),
  ("role_names", .arr [.str "owner"])]

theorem run_halfNamed : pairing.run "add_fact_type" halfNamed =
    (.error .missingRole, (pairing.run "add_fact_type" halfNamed).2) := rfl

theorem predicators_halfNamed :
    pairing.schema.predicators.keys = [] ∧
      (pairing.run "add_fact_type" halfNamed).2.schema.predicators.keys = ["role_1"] := by
  decide +kernel

theorem unchanged_or_rolesLeft_pairing :
    RolesLeft halfNamed pairing.schema (pairing.run "add_fact_type" halfNamed).2.schema := by
  have outcome := unchanged_or_rolesLeft rfl (Reached.start.runAll _) rfl (by decide +kernel)
    run_halfNamed
  rcases outcome.1 with same | ⟨_, _, left⟩
  · have roles := predicators_halfNamed
    rw [same, roles.1] at roles
    exact nomatch roles.2
  · exact left

/-- The role that was named is left without its fact type. -/
theorem not_every_failure_unchanged :
    ¬ ∀ (b before after : Builder) (id title version : String)
      (_ : b.schema = { id := id, name := title, version := version }) (_ : b.Reached before)
      (name : String) (op : Operation) (_ : Operation.ofName? name = some op) (f : Fields)
      (_ : op.declares f = true) (error : BuilderError)
      (_ : before.run name f = (.error error, after)), after.schema = before.schema := by
  intro claim
  have same := claim _ _ _ _ _ _ rfl (Reached.start.runAll _) _ _ rfl _ (by decide +kernel) _
    run_halfNamed
  have roles := predicators_halfNamed
  rw [same, roles.1] at roles
  exact nomatch roles.2

end Builder

end FactModel
