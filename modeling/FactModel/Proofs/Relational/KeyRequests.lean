import FactModel.Relational.Derivation
import FactModel.Proofs.Relational.Placement
import Mathlib.Data.List.Forall2
import Mathlib.Logic.Relation

/-!
Resolving a key by requests for other keys: for those of the entities that the roles of the
primary identifier refer to, and for those of the parents until one has a key to pass on.
-/

namespace FactModel

namespace Key

theorem isNatural_iff {key : Key} : key.isNatural = true ↔ key.origin = .natural := beq_iff_eq

theorem isIdentifying_of_natural {key : Key} (natural : key.isNatural = true) :
    key.isIdentifying = true := by
  rw [isIdentifying, isNatural_iff.mp natural]
  rfl

end Key

namespace KeyTable

def Extends (before after : KeyTable) : Prop :=
  ∀ id key, before.known.find? id = some key → after.known.find? id = some key

theorem Extends.refl (t : KeyTable) : t.Extends t := fun _ _ found => found

theorem Extends.trans {t u v : KeyTable} (first : t.Extends u) (second : u.Extends v) :
    t.Extends v := fun id key found => second id key (first id key found)

theorem Extends.learn {t : KeyTable} {id : String} (fresh : t.known.find? id = none) (key : Key) :
    t.Extends (t.learn id key) := by
  intro other known found
  have apart : other ≠ id := by
    rintro rfl
    cases fresh.symm.trans found
  simp only [KeyTable.learn, OrderedMap.find?_insert, apart, if_false, found]

def Knows (t : KeyTable) (e : Entity) (key : Key) : Prop := t.known.find? e.id = some key

theorem Extends.cut (t : KeyTable) (id : String) : t.Extends (t.cut id) := fun _ _ found => found

theorem find?_learn (t : KeyTable) (id other : String) (key : Key) :
    (t.learn id key).known.find? other =
      if other = id then some key else t.known.find? other :=
  OrderedMap.find?_insert t.known id other key

end KeyTable

namespace Derivation

variable (d : Derivation)

/-- The key of `e` is worked out from that of `f`: a role of the primary identifier of `e` refers
to `f`, or `e` specializes `f`. -/
def DependsOn (e f : Entity) : Prop :=
  (∃ role ∈ d.keyRoles e, (d.schema.roleUse e.id role).entity? = some f) ∨ f ∈ d.parents e

/-- The entity is identified through itself. -/
def Cyclic (e : Entity) : Prop := Relation.TransGen d.DependsOn e e

def dependencies (e : Entity) : List Entity :=
  (d.keyRoles e).filterMap (fun role => (d.schema.roleUse e.id role).entity?) ++ d.parents e

theorem dependsOn_iff (e f : Entity) : d.DependsOn e f ↔ f ∈ d.dependencies e := by
  rw [DependsOn, dependencies, List.mem_append, List.mem_filterMap]

theorem mem_parents {e parent : Entity} (member : parent ∈ d.parents e) :
    parent ∈ d.schema.entities.values := by
  obtain ⟨listed, _⟩ := List.mem_filter.mp member
  obtain ⟨id, _, found⟩ := List.mem_filterMap.mp listed
  exact OrderedMap.mem_values_of_find? found

theorem DependsOn.mem (keyed : d.schema.Keyed) {e f : Entity} (depends : d.DependsOn e f) :
    f ∈ d.schema.entities.values := by
  rcases depends with ⟨role, _, refers⟩ | parent
  · exact Schema.entity_of_roleUse keyed refers
  · exact d.mem_parents parent

theorem acyclic_of_rank (keyed : d.schema.Keyed) (rank : Entity → Nat)
    (lower : ∀ e ∈ d.schema.entities.values, ∀ f ∈ d.dependencies e, rank f < rank e) :
    ∀ e ∈ d.schema.entities.values, ¬ d.Cyclic e := by
  have falls : ∀ e ∈ d.schema.entities.values, ∀ f, Relation.TransGen d.DependsOn e f →
      f ∈ d.schema.entities.values ∧ rank f < rank e := by
    intro e member f path
    induction path with
    | single step => exact ⟨step.mem d keyed, lower e member _ ((d.dependsOn_iff _ _).mp step)⟩
    | tail _ step ih =>
      have below := lower _ ih.1 _ ((d.dependsOn_iff _ _).mp step)
      exact ⟨step.mem d keyed, by omega⟩
  exact fun e member path => Nat.lt_irrefl _ (falls e member e path).2

/-- The columns of a key role follow from an answer for the entity that it refers to. -/
def Contributes (answers : Entity → Key → Prop) (e : Entity) (role : String)
    (columns : List Column) : Prop :=
  ∃ key, columns = (d.roleColumns (fun _ => key) e role).columns ∧
    ∀ target, (d.schema.roleUse e.id role).entity? = some target → answers target key

variable {d}

theorem Contributes.mono {answers others : Entity → Key → Prop}
    (more : ∀ target key, answers target key → others target key) {e : Entity} {role : String}
    {columns : List Column} (given : d.Contributes answers e role columns) :
    d.Contributes others e role columns := by
  obtain ⟨key, same, answered⟩ := given
  exact ⟨key, same, fun target refers => more target key (answered target refers)⟩

/-- Asks for the targets of roles one after the other, and yields the columns of each role. -/
def askRoles (d : Derivation) (ask : Entity → KeyTable → Key × KeyTable) (e : Entity) :
    List String → KeyTable → List (List Column) × KeyTable
  | [], t => ([], t)
  | role :: rest, t =>
    match (d.schema.roleUse e.id role).entity? with
    | some target =>
      let answer := ask target t
      let later := askRoles d ask e rest answer.2
      ((d.roleColumns (fun _ => answer.1) e role).columns :: later.1, later.2)
    | none =>
      let later := askRoles d ask e rest t
      ((d.roleColumns (fun _ => d.dialect.surrogateKey) e role).columns :: later.1, later.2)

/-- Asks parents until one has a key to pass on. -/
def askParents (ask : Entity → KeyTable → Key × KeyTable) :
    List Entity → KeyTable → Option Key × KeyTable
  | [], t => (none, t)
  | parent :: rest, t =>
    let answer := ask parent t
    if answer.1.isIdentifying then (some ⟨answer.1.columns, .inherited parent.id⟩, answer.2)
    else askParents ask rest answer.2

def keyOfRequests (d : Derivation) (ask : Entity → KeyTable → Key × KeyTable) (e : Entity)
    (t : KeyTable) : Key × KeyTable :=
  let roles := d.askRoles ask e (d.keyRoles e) t
  if roles.1.flatten.isEmpty then
    let parents := askParents ask (d.parents e) roles.2
    (parents.1.getD d.dialect.surrogateKey, parents.2)
  else (⟨naturalColumns roles.1.flatten, .natural⟩, roles.2)

theorem foldl_askRoles (ask : Entity → KeyTable → Key × KeyTable) (e : Entity)
    (roles : List String) (columns : List Column) (t : KeyTable) :
    roles.foldl
      (fun state role =>
        match (d.schema.roleUse e.id role).entity? with
        | some target =>
          (state.1 ++ (d.roleColumns (fun _ => (ask target state.2).1) e role).columns,
            (ask target state.2).2)
        | none =>
          (state.1 ++ (d.roleColumns (fun _ => d.dialect.surrogateKey) e role).columns, state.2))
      (columns, t) =
      (columns ++ (d.askRoles ask e roles t).1.flatten, (d.askRoles ask e roles t).2) := by
  induction roles generalizing columns t with
  | nil => simp [askRoles]
  | cons role rest ih =>
    rw [List.foldl_cons, askRoles]
    cases (d.schema.roleUse e.id role).entity? <;> simp [ih]

theorem foldl_askParents (ask : Entity → KeyTable → Key × KeyTable) (parents : List Entity)
    (t : KeyTable) :
    parents.foldl
      (fun state parent =>
        match state.1 with
        | some _ => state
        | none =>
          (if (ask parent state.2).1.isIdentifying then
            some ⟨(ask parent state.2).1.columns, .inherited parent.id⟩ else none,
            (ask parent state.2).2))
      ((none : Option Key), t) = askParents ask parents t := by
  have settled : ∀ (rest : List Entity) (key : Key) (t : KeyTable),
      rest.foldl
        (fun state parent =>
          match state.1 with
          | some _ => state
          | none =>
            (if (ask parent state.2).1.isIdentifying then
              some ⟨(ask parent state.2).1.columns, .inherited parent.id⟩ else none,
              (ask parent state.2).2))
        (some key, t) = (some key, t) := by
    intro rest key t
    induction rest with
    | nil => rfl
    | cons parent rest ih => rw [List.foldl_cons, ih]
  induction parents generalizing t with
  | nil => rfl
  | cons parent rest ih =>
    rw [List.foldl_cons, askParents]
    by_cases identifying : (ask parent t).1.isIdentifying = true
    · simp only [identifying, if_true, settled]
    · simp only [identifying, if_false, Bool.false_eq_true, ih]

theorem resolveKey_known {pending : List String} {e : Entity} {t : KeyTable} {key : Key}
    (known : t.known.find? e.id = some key) : d.resolveKey pending e t = (key, t) := by
  rw [resolveKey, known]

theorem resolveKey_cut {pending : List String} {e : Entity} {t : KeyTable}
    (unknown : t.known.find? e.id = none) (busy : e.id ∉ pending) :
    d.resolveKey pending e t = (d.dialect.surrogateKey, t.cut e.id) := by
  rw [resolveKey, unknown]
  simp [busy]

theorem resolveKey_new {pending : List String} {e : Entity} {t : KeyTable}
    (unknown : t.known.find? e.id = none) (idle : e.id ∈ pending) :
    d.resolveKey pending e t =
      let found := d.keyOfRequests (d.resolveKey (pending.erase e.id)) e t
      (found.1, found.2.learn e.id found.1) := by
  have roles := foldl_askRoles (d := d) (d.resolveKey (pending.erase e.id)) e (d.keyRoles e) [] t
  have parents := foldl_askParents (d.resolveKey (pending.erase e.id)) (d.parents e)
    (d.askRoles (d.resolveKey (pending.erase e.id)) e (d.keyRoles e) t).2
  rw [resolveKey, unknown]
  simp only [idle, dif_pos, keyOfRequests]
  -- the recursion carries membership proofs that the requests do not mention
  erw [roles]
  simp only [List.nil_append]
  split
  · erw [parents]
  · rfl

theorem resolveKey_knows {pending : List String} {e : Entity} (idle : e.id ∈ pending)
    (t : KeyTable) : (d.resolveKey pending e t).2.Knows e (d.resolveKey pending e t).1 := by
  cases known : t.known.find? e.id with
  | some key =>
    rw [resolveKey_known known]
    exact known
  | none =>
    rw [resolveKey_new known idle, KeyTable.Knows, KeyTable.find?_learn, if_pos rfl]

theorem resolveKey_faithful {pending : List String} {e : Entity} {t : KeyTable} {key : Key}
    (known : (d.resolveKey pending e t).2.Knows e key) : (d.resolveKey pending e t).1 = key := by
  by_cases idle : e.id ∈ pending
  · exact Option.some.inj ((resolveKey_knows idle t).symm.trans known)
  · cases before : t.known.find? e.id with
    | some old =>
      rw [resolveKey_known before] at known ⊢
      exact Option.some.inj (before.symm.trans known)
    | none =>
      rw [resolveKey_cut before idle] at known
      cases before.symm.trans known

/-! Runs of requests -/

/-- What every request of a run leaves behind, the run leaves behind. -/
theorem askRoles_run {G : KeyTable → KeyTable → Prop} {R : KeyTable → Entity → Key → Prop}
    (refl : ∀ t, G t t) (trans : ∀ t u v, G t u → G u v → G t v)
    (mono : ∀ t u, G t u → ∀ target key, R t target key → R u target key)
    {ask : Entity → KeyTable → Key × KeyTable} {e : Entity} {roles : List String}
    (responds : ∀ role ∈ roles, ∀ target,
      (d.schema.roleUse e.id role).entity? = some target → ∀ t,
        G t (ask target t).2 ∧ R (ask target t).2 target (ask target t).1)
    (t : KeyTable) :
    G t (d.askRoles ask e roles t).2 ∧
      List.Forall₂ (d.Contributes (R (d.askRoles ask e roles t).2) e) roles
        (d.askRoles ask e roles t).1 := by
  induction roles generalizing t with
  | nil => exact ⟨refl t, .nil⟩
  | cons role rest ih =>
    have later := ih fun other member => responds other (List.mem_cons_of_mem _ member)
    unfold askRoles
    cases refers : (d.schema.roleUse e.id role).entity? with
    | none =>
      obtain ⟨grows, contributes⟩ := later t
      exact ⟨grows, .cons ⟨_, rfl, by simp [refers]⟩ contributes⟩
    | some target =>
      obtain ⟨asked, answer⟩ := responds role List.mem_cons_self target refers t
      obtain ⟨grows, contributes⟩ := later (ask target t).2
      refine ⟨trans _ _ _ asked grows, .cons ⟨_, rfl, ?_⟩ contributes⟩
      intro other same
      rw [refers, Option.some.injEq] at same
      exact same ▸ mono _ _ grows _ _ answer

/-- A request for the key of `e` while the entities outside `pending` are being resolved, each of
which leads to `e`. -/
structure Request (d : Derivation) (pending : List String) (e : Entity) : Prop where
  distinct : pending.Nodup
  member : e ∈ d.schema.entities.values
  busy : ∀ other ∈ d.schema.entities.values, other.id ∉ pending →
    Relation.TransGen d.DependsOn other e

theorem Request.next (keyed : d.schema.Keyed) {pending : List String} {e target : Entity}
    (request : d.Request pending e) (depends : d.DependsOn e target) :
    d.Request (pending.erase e.id) target := by
  refine ⟨request.distinct.erase _, depends.mem d keyed, fun other listed outside => ?_⟩
  by_cases same : other.id = e.id
  · rw [keyed.entities.eq_of_id listed request.member same]
    exact .single depends
  · refine (request.busy other listed ?_).tail depends
    exact fun inside => outside ((List.mem_erase_of_ne same).mpr inside)

/-- A request has what the requests that it makes pass on to it. -/
theorem Request.induction (keyed : d.schema.Keyed) {P : List String → Entity → Prop}
    (step : ∀ pending e, d.Request pending e →
      (e.id ∈ pending → ∀ target, d.DependsOn e target → P (pending.erase e.id) target) →
      P pending e) {pending : List String} {e : Entity} (request : d.Request pending e) :
    P pending e := by
  -- every request is made with one entity less to resolve
  induction length : pending.length using Nat.strongRecOn generalizing pending e with
  | _ size ih =>
    refine step pending e request fun idle target depends => ?_
    have fewer : (pending.erase e.id).length < size := by
      have positive := List.length_pos_of_mem idle
      rw [List.length_erase_of_mem idle]
      omega
    exact ih _ fewer (request.next keyed depends) rfl

end Derivation

end FactModel
