import FactModel.Proofs.Relational.KeyRequests

/-!
What the resolution of keys leaves behind. Every key in the table follows from answers to the
requests of its entity, and an answer is a key of the table too, unless it was given where a cycle
of identification was cut.
-/

namespace FactModel

namespace Derivation

variable (d : Derivation)

/-- A request for a key is answered by the table, or by the surrogate where a cycle is cut. -/
def Answers (t : KeyTable) (target : Entity) (key : Key) : Prop :=
  t.known.find? target.id = some key ∨ key = d.dialect.surrogateKey ∧ d.Cyclic target

/-- A parent was asked for its key and had none to pass on. -/
def Declines (t : KeyTable) (parent : Entity) : Prop :=
  ∃ key, d.Answers t parent key ∧ key.isIdentifying = false

/-- The key of an entity follows from the answers to what it asked. -/
inductive Justified (t : KeyTable) (e : Entity) : Key → Prop where
  | natural (groups : List (List Column)) :
      List.Forall₂ (d.Contributes (d.Answers t) e) (d.keyRoles e) groups → groups.flatten ≠ [] →
      Justified t e ⟨naturalColumns groups.flatten, .natural⟩
  | inherited (groups : List (List Column)) (before after : List Entity) (parent : Entity)
      (key : Key) :
      List.Forall₂ (d.Contributes (d.Answers t) e) (d.keyRoles e) groups → groups.flatten = [] →
      d.parents e = before ++ parent :: after → (∀ other ∈ before, d.Declines t other) →
      t.known.find? parent.id = some key → key.isIdentifying = true →
      Justified t e ⟨key.columns, .inherited parent.id⟩
  | surrogate (groups : List (List Column)) :
      List.Forall₂ (d.Contributes (d.Answers t) e) (d.keyRoles e) groups → groups.flatten = [] →
      (∀ parent ∈ d.parents e, d.Declines t parent) →
      Justified t e d.dialect.surrogateKey

/-- Key tables that come about by learning justified keys of entities, one after the other. -/
inductive Built : KeyTable → Prop where
  | empty : Built .empty
  | learn {t : KeyTable} {e : Entity} {key : Key} : Built t → e ∈ d.schema.entities.values →
      t.known.find? e.id = none → d.Justified t e key → Built (t.learn e.id key)
  | cut {t : KeyTable} (id : String) : Built t → Built (t.cut id)

variable {d}

theorem Answers.mono {t u : KeyTable} (more : t.Extends u) {target : Entity} {key : Key}
    (answer : d.Answers t target key) : d.Answers u target key :=
  answer.imp_left (more _ _)

theorem Declines.mono {t u : KeyTable} (more : t.Extends u) {parent : Entity}
    (declines : d.Declines t parent) : d.Declines u parent := by
  obtain ⟨key, answer, plain⟩ := declines
  exact ⟨key, answer.mono more, plain⟩

theorem Justified.mono {t u : KeyTable} (more : t.Extends u) {e : Entity} {key : Key}
    (justified : d.Justified t e key) : d.Justified u e key := by
  cases justified with
  | natural groups given some =>
    exact .natural groups (given.imp fun _ _ => .mono fun _ _ => .mono more) some
  | inherited groups before after parent key given none split declined found identifying =>
    exact .inherited groups before after parent key (given.imp fun _ _ => .mono fun _ _ => .mono more)
      none split (fun other member => (declined other member).mono more) (more _ _ found)
      identifying
  | surrogate groups given none declined =>
    exact .surrogate groups (given.imp fun _ _ => .mono fun _ _ => .mono more) none
      fun parent member => (declined parent member).mono more

theorem Built.justified (keyed : d.schema.Keyed) {t : KeyTable} (built : d.Built t) {e : Entity}
    (member : e ∈ d.schema.entities.values) {key : Key}
    (found : t.known.find? e.id = some key) : d.Justified t e key := by
  induction built with
  | empty => cases found
  | cut id _ ih => exact (ih found).mono (.cut _ id)
  | @learn t other new _ held unknown justified ih =>
    have keeps := KeyTable.Extends.learn unknown new
    rw [KeyTable.find?_learn] at found
    split at found
    · rename_i same
      cases found
      rw [keyed.entities.eq_of_id member held same]
      exact justified.mono keeps
    · exact (ih found).mono keeps

/-! What requests leave behind -/

/-- From `before` to `after` justified keys are added, and none outside `pending`. -/
structure Grows (d : Derivation) (pending : List String) (before after : KeyTable) : Prop where
  keeps : before.Extends after
  built : d.Built before → d.Built after
  untouched : ∀ id ∉ pending, before.known.find? id = none → after.known.find? id = none

theorem Grows.refl (pending : List String) (t : KeyTable) : d.Grows pending t t :=
  ⟨.refl t, id, fun _ _ unknown => unknown⟩

theorem Grows.trans {pending : List String} {t u v : KeyTable} (first : d.Grows pending t u)
    (second : d.Grows pending u v) : d.Grows pending t v :=
  ⟨first.keeps.trans second.keeps, fun built => second.built (first.built built),
    fun id outside unknown => second.untouched id outside (first.untouched id outside unknown)⟩

theorem Answers.known_of_identifying {t : KeyTable} {target : Entity} {key : Key}
    (answer : d.Answers t target key) (identifying : key.isIdentifying = true) :
    t.known.find? target.id = some key := by
  rcases answer with known | ⟨rfl, _⟩
  · exact known
  · cases identifying

def Responds (d : Derivation) (pending : List String) (ask : Entity → KeyTable → Key × KeyTable)
    (target : Entity) : Prop :=
  ∀ t, d.Grows pending t (ask target t).2 ∧ d.Answers (ask target t).2 target (ask target t).1

theorem askParents_grows {pending : List String} {ask : Entity → KeyTable → Key × KeyTable}
    {parents : List Entity} (responds : ∀ parent ∈ parents, d.Responds pending ask parent)
    (t : KeyTable) :
    d.Grows pending t (askParents ask parents t).2 ∧
      ((askParents ask parents t).1 = none ∧
        (∀ parent ∈ parents, d.Declines (askParents ask parents t).2 parent) ∨
      ∃ before after parent key, parents = before ++ parent :: after ∧
        (∀ other ∈ before, d.Declines (askParents ask parents t).2 other) ∧
        (askParents ask parents t).2.known.find? parent.id = some key ∧
        key.isIdentifying = true ∧
        (askParents ask parents t).1 = some ⟨key.columns, .inherited parent.id⟩) := by
  induction parents generalizing t with
  | nil => exact ⟨.refl pending t, .inl ⟨rfl, by simp⟩⟩
  | cons parent rest ih =>
    obtain ⟨asked, answer⟩ := responds parent List.mem_cons_self t
    unfold askParents
    by_cases identifying : (ask parent t).1.isIdentifying = true
    · simp only [identifying, if_true]
      exact ⟨asked, .inr ⟨[], rest, parent, _, rfl, by simp,
        answer.known_of_identifying identifying, identifying, rfl⟩⟩
    · simp only [identifying, if_false, Bool.false_eq_true]
      obtain ⟨grows, outcome⟩ :=
        ih (fun other member => responds other (List.mem_cons_of_mem _ member)) (ask parent t).2
      have declines : d.Declines (askParents ask rest (ask parent t).2).2 parent :=
        ⟨_, answer.mono grows.keeps, by simpa using identifying⟩
      refine ⟨asked.trans grows, ?_⟩
      rcases outcome with ⟨none, declined⟩ | ⟨before, after, chosen, key, split, declined, rest⟩
      · exact .inl ⟨none, List.forall_mem_cons.mpr ⟨declines, declined⟩⟩
      · exact .inr ⟨parent :: before, after, chosen, key, by rw [split, List.cons_append],
          List.forall_mem_cons.mpr ⟨declines, declined⟩, rest⟩

theorem keyOfRequests_justified {pending : List String}
    {ask : Entity → KeyTable → Key × KeyTable} {e : Entity}
    (responds : ∀ target, d.DependsOn e target → d.Responds pending ask target) (t : KeyTable) :
    d.Grows pending t (d.keyOfRequests ask e t).2 ∧
      d.Justified (d.keyOfRequests ask e t).2 e (d.keyOfRequests ask e t).1 := by
  have run := askRoles_run (G := d.Grows pending) (R := d.Answers) (.refl pending)
    (fun _ _ _ => .trans) (fun _ _ grows _ _ => Answers.mono grows.keeps)
    (fun role member target refers => responds target (.inl ⟨role, member, refers⟩)) t
  obtain ⟨roles, contributes⟩ := run
  obtain ⟨parents, outcome⟩ := askParents_grows
    (fun parent member => responds parent (.inr member)) (d.askRoles ask e (d.keyRoles e) t).2
  unfold keyOfRequests
  dsimp only
  split
  · rename_i none
    rw [List.isEmpty_iff] at none
    have given := contributes.imp fun _ _ =>
      Contributes.mono fun _ _ => Answers.mono parents.keeps
    refine ⟨roles.trans parents, ?_⟩
    rcases outcome with ⟨nothing, declined⟩ |
      ⟨before, after, parent, key, split, declined, found, identifying, chosen⟩
    · rw [nothing]
      exact .surrogate _ given none declined
    · rw [chosen]
      exact .inherited _ before after parent key given none split declined found identifying
  · rename_i some
    rw [List.isEmpty_iff] at some
    exact ⟨roles, .natural _ contributes some⟩

theorem Grows.learn {pending : List String} {t : KeyTable} {e : Entity} {key : Key}
    (member : e ∈ d.schema.entities.values) (idle : e.id ∈ pending)
    (unknown : t.known.find? e.id = none) (justified : d.Justified t e key) :
    d.Grows pending t (t.learn e.id key) := by
  refine ⟨.learn unknown key, fun built => built.learn member unknown justified, ?_⟩
  intro id outside missing
  rw [KeyTable.find?_learn, if_neg, missing]
  rintro rfl
  exact outside idle

theorem Grows.widen {pending fewer : List String} {t u : KeyTable} (within : fewer ⊆ pending)
    (grows : d.Grows fewer t u) : d.Grows pending t u :=
  ⟨grows.keeps, grows.built, fun id outside => grows.untouched id fun member =>
    outside (within member)⟩

theorem Grows.cut (pending : List String) (t : KeyTable) (id : String) :
    d.Grows pending t (t.cut id) :=
  ⟨.cut t id, .cut id, fun _ _ unknown => unknown⟩

/-- An entity met again while it is resolved is identified through itself; all others have their
key worked out. -/
theorem resolveKey_responds (keyed : d.schema.Keyed) {pending : List String} {e : Entity}
    (request : d.Request pending e) : d.Responds pending (d.resolveKey pending) e := by
  refine Request.induction keyed (P := fun pending e => d.Responds pending (d.resolveKey pending) e)
    (fun pending e request responds t => ?_) request
  cases known : t.known.find? e.id with
  | some key =>
    rw [resolveKey_known known]
    exact ⟨.refl pending t, .inl known⟩
  | none =>
    by_cases idle : e.id ∈ pending
    · obtain ⟨grows, justified⟩ := keyOfRequests_justified (responds idle) t
      have unknown := grows.untouched e.id request.distinct.not_mem_erase known
      rw [resolveKey_new known idle]
      refine ⟨(grows.widen List.erase_subset).trans
        (.learn request.member idle unknown justified), .inl ?_⟩
      rw [KeyTable.find?_learn, if_pos rfl]
    -- whoever is being resolved leads to the entity, so that it leads to itself
    · rw [resolveKey_cut known idle]
      exact ⟨.cut pending t e.id, .inr ⟨rfl, request.busy e request.member idle⟩⟩

end Derivation

end FactModel
