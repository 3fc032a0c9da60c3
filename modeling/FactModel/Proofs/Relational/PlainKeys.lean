import FactModel.Proofs.Relational.KeyAgreement

/-!
Keys by plain recursion, without a table of known keys and without a note of what is being resolved.
Where no entity is identified through itself, every sequence of requests is answered with these
keys, and the order of the entities does not matter.
-/

namespace FactModel

namespace Derivation

/-- The key that a parent passes on. -/
def passedOn (parent : Entity) (key : Key) : Option Key :=
  if key.isIdentifying then some ⟨key.columns, .inherited parent.id⟩ else none

/-- The key of an entity by recursion to a depth, without memory; none if the recursion goes
deeper. -/
def plainKey (d : Derivation) : Nat → Entity → Option Key
  | 0, _ => none
  | depth + 1, e => do
    let groups ← (d.keyRoles e).mapM fun role =>
      match (d.schema.roleUse e.id role).entity? with
      | some target => do
        let key ← d.plainKey depth target
        return (d.roleColumns (fun _ => key) e role).columns
      | none => return (d.roleColumns (fun _ => d.dialect.surrogateKey) e role).columns
    if groups.flatten.isEmpty then
      let inherited ← (d.parents e).findSomeM? fun parent => do
        let key ← d.plainKey depth parent
        return passedOn parent key
      return inherited.getD d.dialect.surrogateKey
    else return ⟨naturalColumns groups.flatten, .natural⟩

/-- The key of an entity from the keys of others: natural if its roles have columns, else that of
the first parent with a key to pass on. -/
def keyFrom (d : Derivation) (keyOf : Entity → Key) (e : Entity) : Key :=
  let columns := (d.keyRoles e).flatMap fun role => (d.roleColumns keyOf e role).columns
  if columns.isEmpty then
    let inherited := (d.parents e).findSome? fun parent => passedOn parent (keyOf parent)
    inherited.getD d.dialect.surrogateKey
  else ⟨naturalColumns columns, .natural⟩

/-- The answers to a sequence of requests for keys, each asked with what is known by then. -/
def answers (d : Derivation) : List Entity → KeyTable → List Key
  | [], _ => []
  | e :: rest, known =>
    let answer := d.resolveKey d.entityIds e known
    answer.1 :: d.answers rest answer.2

variable {d : Derivation} {keyOf : Entity → Key}

theorem columns_of_answer {e : Entity} {role : String} {key : Key}
    (answers : ∀ target, (d.schema.roleUse e.id role).entity? = some target → key = keyOf target) :
    (d.roleColumns (fun _ => key) e role).columns = (d.roleColumns keyOf e role).columns :=
  congrArg RoleColumns.columns (roleColumns_congr answers)

/-- Only the keys of the entities that an entity depends on matter to its key. -/
theorem keyFrom_congr {other : Entity → Key} {e : Entity}
    (agree : ∀ target, d.DependsOn e target → keyOf target = other target) :
    d.keyFrom keyOf e = d.keyFrom other e := by
  have columns : ((d.keyRoles e).flatMap fun role => (d.roleColumns keyOf e role).columns) =
      (d.keyRoles e).flatMap fun role => (d.roleColumns other e role).columns := by
    refine List.flatMap_congr fun role listed => congrArg RoleColumns.columns ?_
    exact roleColumns_congr fun target refers => agree target (.inl ⟨role, listed, refers⟩)
  have passed : (d.parents e).findSome? (fun parent => passedOn parent (keyOf parent)) =
      (d.parents e).findSome? fun parent => passedOn parent (other parent) := by
    refine findSome?_congr fun parent listed => ?_
    rw [agree parent (.inr listed)]
  rw [keyFrom, keyFrom, columns, passed]

/-- Where the recursion ends for all that an entity depends on, it ends for the entity. -/
theorem plainKey_eq_some {depth : Nat} {e : Entity}
    (known : ∀ target, d.DependsOn e target → d.plainKey depth target = some (keyOf target)) :
    d.plainKey (depth + 1) e = some (d.keyFrom keyOf e) := by
  rw [plainKey, mapM_eq_some (f := fun role => (d.roleColumns keyOf e role).columns),
    findSomeM?_eq_some (f := fun parent => passedOn parent (keyOf parent))]
  · simp only [keyFrom, List.flatMap_def, Option.bind_eq_bind, Option.bind_some]
    split
    · rfl
    · rfl
  · intro parent listed
    simp only [known parent (.inr listed)]
    rfl
  · intro role listed
    cases refers : (d.schema.roleUse e.id role).entity? with
    | none => exact congrArg some (columns_of_answer fun target other => by simp [refers] at other)
    | some target =>
      simp only [known target (.inl ⟨role, listed, refers⟩)]
      refine congrArg some (columns_of_answer fun other same => ?_)
      rw [refers, Option.some.injEq] at same
      rw [same]

/-- A key that follows from answers follows from those keys that all answers are. -/
theorem Justified.eq_keyFrom (keyed : d.schema.Keyed) {t : KeyTable}
    (answers : ∀ target ∈ d.schema.entities.values, ∀ key, d.Answers t target key →
      key = keyOf target) {e : Entity} {key : Key} (justified : d.Justified t e key) :
    key = d.keyFrom keyOf e := by
  have columns : ∀ groups, List.Forall₂ (d.Contributes (d.Answers t) e) (d.keyRoles e) groups →
      ((d.keyRoles e).flatMap fun role => (d.roleColumns keyOf e role).columns) =
        groups.flatten := by
    intro groups given
    have each : (d.keyRoles e).map (fun role => (d.roleColumns keyOf e role).columns) =
        groups.map id := by
      refine map_eq_map_of_forall₂ (given.imp ?_)
      rintro role group ⟨key, rfl, answered⟩
      refine (columns_of_answer fun target refers => ?_).symm
      exact answers target (Schema.entity_of_roleUse keyed refers) key (answered target refers)
    rw [List.flatMap_def, each, List.map_id]
  have declines : ∀ parent ∈ d.parents e, d.Declines t parent →
      passedOn parent (keyOf parent) = none := by
    rintro parent listed ⟨key, answered, plain⟩
    rw [answers parent (d.mem_parents listed) key answered] at plain
    simp [passedOn, plain]
  cases justified with
  | natural groups given some => simp [keyFrom, columns groups given, some]
  | inherited groups before after parent key given bare split declined found own =>
    have listed : parent ∈ d.parents e := by simp [split]
    have passed : passedOn parent (keyOf parent) = some ⟨key.columns, .inherited parent.id⟩ := by
      rw [← answers parent (d.mem_parents listed) key (.inl found), passedOn, if_pos own]
    have front : before.findSome? (fun parent => passedOn parent (keyOf parent)) = none := by
      refine List.findSome?_eq_none_iff.mpr fun other early => ?_
      exact declines other (by simp [split, early]) (declined other early)
    simp [keyFrom, columns groups given, bare, split, List.findSome?_append, front, passed]
  | surrogate groups given bare declined =>
    have nothing : (d.parents e).findSome? (fun parent => passedOn parent (keyOf parent)) =
        none :=
      List.findSome?_eq_none_iff.mpr fun parent listed =>
        declines parent listed (declined parent listed)
    simp [keyFrom, columns groups given, bare, nothing]

/-! Where no entity is identified through itself -/

theorem Answers.known {t : KeyTable} {target : Entity} {key : Key}
    (answer : d.Answers t target key) (straight : ¬ d.Cyclic target) :
    t.known.find? target.id = some key :=
  answer.resolve_right fun cut => straight cut.2

theorem idle_of_request (acyclic : ∀ e ∈ d.schema.entities.values, ¬ d.Cyclic e)
    {pending : List String} {e : Entity} (request : d.Request pending e) : e.id ∈ pending := by
  by_contra busy
  exact acyclic e request.member (request.busy e request.member busy)

section Acyclic

variable (keyed : d.schema.Keyed) (acyclic : ∀ e ∈ d.schema.entities.values, ¬ d.Cyclic e)
include keyed acyclic

/-- An entity has what the entities that it depends on pass on to it. -/
theorem acyclic_induction {P : Entity → Prop}
    (step : ∀ e ∈ d.schema.entities.values, (∀ target, d.DependsOn e target → P target) → P e)
    {e : Entity} (member : e ∈ d.schema.entities.values) : P e :=
  Request.induction keyed (P := fun _ e => P e)
    (fun _ e request known => step e request.member (known (idle_of_request acyclic request)))
    (request_of_mem member)

theorem keyFrom_plan {e : Entity} (member : e ∈ d.schema.entities.values) :
    d.keyFrom d.plan.key e = d.plan.key e := by
  refine ((plan_justified keyed member).eq_keyFrom keyed fun target listed key answer => ?_).symm
  have known := settled_known keyed listed
  rw [answer.known (acyclic target listed), Option.some.injEq] at known
  exact known

/-- The recursion goes no deeper than there are entities. -/
theorem plainKey_eq_plan {e : Entity} (member : e ∈ d.schema.entities.values) {depth : Nat}
    (deep : d.schema.entities.values.length < depth) :
    d.plainKey depth e = some (d.plan.key e) := by
  -- each level of the recursion leaves one entity less to come to
  have asked : ∀ depth, d.entityIds.length < depth → d.plainKey depth e = some (d.plan.key e) := by
    refine Request.induction keyed (P := fun pending e => ∀ depth, pending.length < depth →
      d.plainKey depth e = some (d.plan.key e)) (fun pending e request known depth deep => ?_)
      (request_of_mem member)
    have idle := idle_of_request acyclic request
    cases depth with
    | zero => cases deep
    | succ depth =>
      rw [plainKey_eq_some fun target depends => ?_, keyFrom_plan keyed acyclic request.member]
      refine known idle target depends depth ?_
      rw [List.length_erase_of_mem idle]
      have some := List.length_pos_of_mem idle
      omega
  refine asked depth ?_
  rwa [entityIds, eraseDups_eq_self keyed.entities.nodup_ids, List.length_map]

/-- Whatever was asked before, only keys of the plan are known. -/
theorem Built.known_eq_plan {t : KeyTable} (built : d.Built t) :
    ∀ e ∈ d.schema.entities.values, ∀ key, t.known.find? e.id = some key →
      key = d.plan.key e := by
  induction built with
  | empty => exact fun _ _ _ found => nomatch found
  | cut _ _ ih => exact ih
  | @learn t other new _ held _ justified ih =>
    intro e member key found
    rw [KeyTable.find?_learn] at found
    split at found
    · rename_i same
      obtain rfl := Option.some.inj found
      obtain rfl := keyed.entities.eq_of_id member held same
      rw [← keyFrom_plan keyed acyclic member]
      exact justified.eq_keyFrom keyed fun target listed key answer =>
        ih target listed key (answer.known (acyclic target listed))
    · exact ih e member key found

theorem answers_eq_plan {requests : List Entity}
    (within : ∀ e ∈ requests, e ∈ d.schema.entities.values) {t : KeyTable} (built : d.Built t) :
    d.answers requests t = requests.map d.plan.key := by
  induction requests generalizing t with
  | nil => rfl
  | cons e rest ih =>
    rw [List.forall_mem_cons] at within
    obtain ⟨grows, answer⟩ := ask_responds keyed within.1 t
    have later := grows.built built
    have first := later.known_eq_plan keyed acyclic e within.1 _
      (answer.known (acyclic e within.1))
    rw [answers, List.map_cons, first, ih within.2 later]

end Acyclic

end Derivation

end FactModel
