import FactModel.Proofs.Maps
import FactModel.Proofs.Positions
import FactModel.Proofs.Validation.Satisfaction

/-!
Instances of objects, given all at once or inserted one after the other. Either way the first of
several values with one encoding is kept, in the order of insertion.
-/

namespace FactModel

def SameCode (v w : Value) : Prop := v.encode = w.encode

instance : DecidableRel SameCode := fun v w => inferInstanceAs (Decidable (v.encode = w.encode))

namespace Population

/-- A change of a population. -/
inductive Step where
  | addInstance (object : String) (added : Value)
  | addTuple (factType : String) (tuple : Tuple)
  | clear

def perform (p : Population) : Step → Population
  | .addInstance object added => p.addInstance object added
  | .addTuple factType tuple => p.addTuple factType tuple
  | .clear => p.clear

def run (p : Population) (steps : List Step) : Population := steps.foldl perform p

def addInstances (p : Population) (object : String) (values : List Value) : Population :=
  values.foldl (fun p v => p.addInstance object v) p

/-- The values that were inserted for an object since its population was last cleared. -/
def insertedBy (object : String) (values : List Value) : Step → List Value
  | .addInstance other added => if other = object then values ++ [added] else values
  | .addTuple _ _ => values
  | .clear => []

def inserted (object : String) (values : List Value) (steps : List Step) : List Value :=
  steps.foldl (insertedBy object) values

/-! Values with encodings of their own -/

theorem distinctFrom_concat (seen : List String) (values : List Value) (v : Value) :
    distinctFrom seen (values ++ [v]) = distinctFrom seen values ++
      if v.encode ∈ seen ∨ v.encode ∈ values.map Value.encode then [] else [v] := by
  induction values generalizing seen with
  | nil => by_cases known : v.encode ∈ seen <;> simp [distinctFrom, known]
  | cons w rest ih =>
    by_cases known : w.encode ∈ seen
    · simp only [List.cons_append, distinctFrom, List.contains_eq_mem, known, decide_true, if_true,
        ih, List.map_cons]
      rw [if_congr (mem_or_mem_cons_of_mem known) rfl rfl]
    · simp only [List.cons_append, distinctFrom, List.contains_eq_mem, known, decide_false,
        Bool.false_eq_true, if_false, ih, List.map_cons]
      rw [if_congr mem_cons_or_mem rfl rfl]

theorem distinct_concat_eq (values : List Value) (v : Value) :
    distinct (values ++ [v]) = distinct values ++
      if v.encode ∈ values.map Value.encode then [] else [v] := by
  simp only [distinct, distinctFrom_concat, List.not_mem_nil, false_or]

theorem distinct_eq_firsts (values : List Value) : distinct values = firsts SameCode values := by
  induction values using List.reverseRecOn with
  | nil => rfl
  | append_singleton values v ih =>
    have known : v.encode ∈ values.map Value.encode ↔
        values.any (fun w => SameCode v w) = true := by
      simp only [List.mem_map, List.any_eq_true, decide_eq_true_eq]
      exact exists_congr fun w => and_congr_right fun _ => eq_comm
    rw [firsts_concat, ← ih, distinct_concat_eq]
    simp only [known]

/-- A value is inserted into distinct values as if it had stood behind them. -/
theorem insert_distinct (values : List Value) (v : Value) :
    (if (distinct values).any fun w => w.encode == v.encode then distinct values
      else distinct values ++ [v]) = distinct (values ++ [v]) := by
  have known : ((distinct values).any fun w => w.encode == v.encode) = true ↔
      v.encode ∈ values.map Value.encode := by
    rw [← Validation.encodings, ← Validation.mem_encodings_distinct, Validation.mem_encodings,
      List.any_eq_true]
    simp only [beq_iff_eq]
  rw [distinct_concat_eq]
  by_cases listed : v.encode ∈ values.map Value.encode
  · rw [if_pos (known.mpr listed), if_pos listed, List.append_nil]
  · rw [if_neg (mt known.mp listed), if_neg listed]

/-! One value after the other -/

variable {p : Population} {object : String} {values : List Value}

theorem addInstance_eq (held : (p.instances? object).getD [] = distinct values) (v : Value) :
    p.addInstance object v =
      { p with objects := p.objects.insert object (distinct (values ++ [v])) } := by
  rw [← insert_distinct, ← held]
  rfl

theorem addInstances_eq (held : (p.instances? object).getD [] = distinct values)
    {added : List Value} (some : added ≠ []) :
    p.addInstances object added =
      { p with objects := p.objects.insert object (distinct (values ++ added)) } := by
  induction added generalizing p values with
  | nil => exact absurd rfl some
  | cons v rest ih =>
    rw [addInstances, List.foldl_cons, ← addInstances, addInstance_eq held]
    by_cases last : rest = []
    · subst last
      rfl
    · rw [ih (by rw [instances?, OrderedMap.find?_insert, if_pos rfl, Option.getD_some]) last,
        OrderedMap.insert_insert, List.append_assoc, List.singleton_append]

theorem foldl_addInstances {pairs : List (String × List Value)}
    (distinctKeys : (pairs.map Prod.fst).Nodup) (filled : ∀ pair ∈ pairs, pair.2 ≠ [])
    (fresh : ∀ pair ∈ pairs, p.instances? pair.1 = none) :
    pairs.foldl (fun p pair => p.addInstances pair.1 pair.2) p =
      { p with
        objects := pairs.foldl (fun m pair => m.insert pair.1 (distinct pair.2)) p.objects } := by
  induction pairs generalizing p with
  | nil => rfl
  | cons pair rest ih =>
    rw [List.map_cons, List.nodup_cons] at distinctKeys
    rw [List.forall_mem_cons] at filled fresh
    have none : (p.instances? pair.1).getD [] = distinct [] := by rw [fresh.1]; rfl
    rw [List.foldl_cons, List.foldl_cons, addInstances_eq none filled.1, List.nil_append]
    refine ih distinctKeys.2 filled.2 fun other listed => ?_
    have apart : other.1 ≠ pair.1 := fun same =>
      distinctKeys.1 (same ▸ List.mem_map_of_mem listed)
    rw [instances?, OrderedMap.find?_insert, if_neg apart]
    exact fresh.2 other listed

/-- Given all at once or one after the other, the instances are the same. -/
theorem ofInstances_eq_foldl (schemaId : Option String) {objects : OrderedMap (List Value)}
    (facts : OrderedMap (List Tuple)) (filled : ∀ values ∈ objects.values, values ≠ []) :
    ofInstances schemaId objects facts =
      objects.entries.foldl (fun p pair => p.addInstances pair.1 pair.2) ⟨schemaId, ∅, facts⟩ := by
  have each : ∀ pair ∈ objects.entries, pair.2 ≠ [] := fun pair held =>
    filled pair.2 (List.mem_map_of_mem held)
  rw [foldl_addInstances objects.nodup each fun _ _ => rfl, ofInstances]
  congr 1
  refine OrderedMap.ext_entries ?_
  have mapped := OrderedMap.entries_ofList (objects.mapValues fun _ values => distinct values).nodup
  rw [OrderedMap.ofList, OrderedMap.mapValues, List.foldl_map] at mapped
  exact mapped.symm

/-! Runs -/

theorem instances?_perform (held : (p.instances? object).getD [] = distinct values) (step : Step) :
    ((p.perform step).instances? object).getD [] = distinct (insertedBy object values step) := by
  cases step with
  | addInstance other v =>
    by_cases same : other = object
    · subst same
      rw [perform, addInstance_eq held, instances?, OrderedMap.find?_insert, if_pos rfl,
        Option.getD_some, insertedBy, if_pos rfl]
    · rw [insertedBy, if_neg same, ← held, perform, addInstance, instances?,
        OrderedMap.find?_insert, if_neg (Ne.symm same), instances?]
  | addTuple factType t => exact held
  | clear => rfl

theorem instances?_run (held : (p.instances? object).getD [] = distinct values)
    (steps : List Step) :
    ((p.run steps).instances? object).getD [] = distinct (inserted object values steps) := by
  induction steps generalizing p values with
  | nil => exact held
  | cons step rest ih => exact ih (instances?_perform held step)

theorem instances?_ofInstances (schemaId : Option String) (objects : OrderedMap (List Value))
    (facts : OrderedMap (List Tuple)) (object : String) :
    ((ofInstances schemaId objects facts).instances? object).getD [] =
      distinct ((objects.find? object).getD []) := by
  rw [ofInstances, instances?, OrderedMap.find?_mapValues]
  cases objects.find? object <;> rfl

/-- A population has the same instances whether they are given all at once or inserted one after
the other. After any run they have encodings of their own, and are the first of each encoding among
those given and inserted since the population was last cleared, in this order. -/
theorem instances_collected :
    (∀ (schemaId : Option String) (objects : OrderedMap (List Value))
      (facts : OrderedMap (List Tuple)), (∀ values ∈ objects.values, values ≠ []) →
      ofInstances schemaId objects facts =
        objects.entries.foldl (fun p pair => p.addInstances pair.1 pair.2)
          ⟨schemaId, ∅, facts⟩) ∧
    ∀ (schemaId : Option String) (objects : OrderedMap (List Value))
      (facts : OrderedMap (List Tuple)) (steps : List Step) (object : String),
      let p := (ofInstances schemaId objects facts).run steps
      let held := (p.instances? object).getD []
      (held.map Value.encode).Nodup ∧
        held = firsts SameCode (inserted object ((objects.find? object).getD []) steps) := by
  refine ⟨fun schemaId objects facts => ofInstances_eq_foldl schemaId facts, ?_⟩
  intro schemaId objects facts steps object p held
  have run : held = distinct (inserted object ((objects.find? object).getD []) steps) :=
    instances?_run (instances?_ofInstances schemaId objects facts object) steps
  constructor
  · rw [run]
    exact Validation.nodup_encodings_distinctFrom [] _
  · rw [run, distinct_eq_firsts]

/-- The number one, written as a float. -/
def floatOne : Value := .float ⟨0x3FF0000000000000⟩

def grades : OrderedMap (List Value) := .ofList [
  ("grade", [.int 1, floatOne, .bool true, .int 1]), ("mark", [.arr [floatOne], .arr [.int 1]])]

def insertedGrades : List Value := [.int 1, floatOne, .bool true, .int 1, .int 2, floatOne]

/-- A float may repeat a whole number, a truth value does not. -/
theorem instances_collected_grades :
    (∀ values ∈ grades.values, values ≠ []) ∧
      ofInstances none grades ∅ =
        grades.entries.foldl (fun p pair => p.addInstances pair.1 pair.2) empty ∧
      (((ofInstances none grades ∅).run [.addInstance "grade" (.int 2), .addTuple "given" ∅,
        .addInstance "grade" floatOne]).instances? "grade").getD [] =
          [.int 1, .bool true, .int 2] := by
  have filled : ∀ values ∈ grades.values, values ≠ [] := by
    simp [grades, OrderedMap.values, OrderedMap.entries_ofList]
  have chosen : ∀ i < insertedGrades.length,
      (!repeatsAt SameCode insertedGrades i) = [0, 2, 4].contains i := by decide +kernel
  have kept : firsts SameCode insertedGrades = [.int 1, .bool true, .int 2] :=
    (itemsAt_congr chosen).trans rfl
  refine ⟨filled, instances_collected.1 none grades ∅ filled, ?_⟩
  exact (instances_collected.2 none grades ∅ _ "grade").2.trans kept

end Population

end FactModel
