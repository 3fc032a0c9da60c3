import FactModel.Proofs.Relational.PlannedKeys

/-!
Who refers to a key that a cycle cut short. A natural key that does not follow from the keys of
the table was worked out while another entity waited for it, or refers to itself; either way some
entity refers to it once all keys are known.
-/

namespace FactModel

namespace Derivation

variable (d : Derivation)

/-- A role of some entity refers to the entity, or some entity inherits its key. -/
def Referred (t : KeyTable) (e : Entity) : Prop :=
  (∃ other ∈ d.schema.entities.values, ∃ role,
    (d.schema.roleUse other.id role).entity? = some e) ∨
  ∃ other ∈ d.schema.entities.values, ∃ columns, t.Knows other ⟨columns, .inherited e.id⟩

/-- The natural key follows from the keys of the table. -/
def Informed (t : KeyTable) (e : Entity) (key : Key) : Prop :=
  ∃ groups, key = ⟨naturalColumns groups.flatten, .natural⟩ ∧
    List.Forall₂ (d.Contributes t.Knows e) (d.keyRoles e) groups

/-- From `before` to `after`, new natural keys of entities that nobody refers to follow from the
table, except where an exception is made. -/
structure Leaves (except : Entity → Prop) (before after : KeyTable) : Prop where
  keeps : before.Extends after
  settles : ∀ e ∈ d.schema.entities.values, before.known.find? e.id = none → ∀ key,
    after.Knows e key → key.isNatural = true →
    except e ∨ d.Referred after e ∨ d.Informed after e key

variable {d}

theorem Referred.mono {t u : KeyTable} (more : t.Extends u) {e : Entity}
    (referred : d.Referred t e) : d.Referred u e :=
  referred.imp_right fun ⟨other, member, columns, knows⟩ =>
    ⟨other, member, columns, more _ _ knows⟩

theorem Informed.mono {t u : KeyTable} (more : t.Extends u) {e : Entity} {key : Key}
    (informed : d.Informed t e key) : d.Informed u e key := by
  obtain ⟨groups, same, given⟩ := informed
  exact ⟨groups, same, given.imp fun _ _ => .mono fun _ _ => more _ _⟩

theorem Leaves.refl (except : Entity → Prop) (t : KeyTable) : d.Leaves except t t :=
  ⟨.refl t, fun _ _ unknown _ knows _ => by cases unknown.symm.trans knows⟩

theorem Leaves.trans {P Q : Entity → Prop} {t u v : KeyTable} (first : d.Leaves P t u)
    (second : d.Leaves Q u v) : d.Leaves (fun e => P e ∨ Q e) t v := by
  refine ⟨first.keeps.trans second.keeps, fun e member unknown key knows natural => ?_⟩
  cases known : u.known.find? e.id with
  | none =>
    rcases second.settles e member known key knows natural with excepted | settled
    · exact .inl (.inr excepted)
    · exact .inr settled
  | some old =>
    have same : old = key := Option.some.inj ((second.keeps _ _ known).symm.trans knows)
    rcases first.settles e member unknown key (same ▸ known) natural with excepted | settled
    · exact .inl (.inl excepted)
    · exact .inr (settled.imp (.mono second.keeps) (.mono second.keeps))

theorem Leaves.resolve {P Q : Entity → Prop} {t u : KeyTable} (leaves : d.Leaves P t u)
    (resolved : ∀ e ∈ d.schema.entities.values, P e → ∀ key, u.Knows e key →
      key.isNatural = true → Q e ∨ d.Referred u e) : d.Leaves Q t u := by
  refine ⟨leaves.keeps, fun e member unknown key knows natural => ?_⟩
  rcases leaves.settles e member unknown key knows natural with excepted | settled
  · exact (resolved e member excepted key knows natural).imp_right .inl
  · exact .inr settled

theorem Leaves.followed {Q : Entity → Prop} {t u v : KeyTable}
    (first : d.Leaves (fun _ => False) t u) (second : d.Leaves Q u v) : d.Leaves Q t v := by
  refine (first.trans second).resolve fun e _ excepted _ _ _ => ?_
  rcases excepted with none | excepted
  · exact none.elim
  · exact .inl excepted

/-- Whoever is asked settles all keys on the way but its own. -/
def Settles (d : Derivation) (ask : Entity → KeyTable → Key × KeyTable) (target : Entity) : Prop :=
  ∀ t, d.Leaves (· = target) t (ask target t).2 ∧
    ∀ key, (ask target t).2.Knows target key → (ask target t).1 = key

variable {ask : Entity → KeyTable → Key × KeyTable}

theorem askRoles_leaves {e : Entity} (member : e ∈ d.schema.entities.values)
    (settles : ∀ target, d.DependsOn e target → d.Settles ask target) (t : KeyTable) :
    d.Leaves (fun _ => False) t (d.askRoles ask e (d.keyRoles e) t).2 := by
  have asked : ∀ role ∈ d.keyRoles e, ∀ target,
      (d.schema.roleUse e.id role).entity? = some target → ∀ t,
        d.Leaves (fun _ => False) t (ask target t).2 ∧ True := by
    intro role listed target refers t
    refine ⟨(settles target (.inl ⟨role, listed, refers⟩) t).1.resolve ?_, trivial⟩
    rintro _ _ rfl _ _ _
    exact .inr (.inl ⟨e, member, role, refers⟩)
  exact (askRoles_run (R := fun _ _ _ => True) (.refl _) (fun _ _ _ => .followed)
    (fun _ _ _ _ _ _ => trivial) asked t).1

/-- The parent whose key is passed on is left, for the entity that inherits it to refer to. -/
theorem askParents_leaves {parents : List Entity}
    (settles : ∀ parent ∈ parents, d.Settles ask parent) (t : KeyTable) :
    d.Leaves (fun e => ∃ columns, (askParents ask parents t).1 = some ⟨columns, .inherited e.id⟩)
      t (askParents ask parents t).2 := by
  induction parents generalizing t with
  | nil => exact .refl _ t
  | cons parent rest ih =>
    obtain ⟨asked, faithful⟩ := settles parent List.mem_cons_self t
    unfold askParents
    by_cases identifying : (ask parent t).1.isIdentifying = true
    · simp only [identifying, if_true]
      refine asked.resolve ?_
      rintro _ _ rfl _ _ _
      exact .inl ⟨_, rfl⟩
    · simp only [identifying, if_false, Bool.false_eq_true]
      have declined : d.Leaves (fun _ => False) t (ask parent t).2 := by
        refine asked.resolve ?_
        rintro _ _ rfl key knows natural
        rw [faithful key knows] at identifying
        exact absurd (Key.isIdentifying_of_natural natural) identifying
      exact declined.followed (ih (fun other member =>
        settles other (List.mem_cons_of_mem _ member)) (ask parent t).2)

theorem keyOfRequests_leaves {e : Entity} (member : e ∈ d.schema.entities.values)
    (settles : ∀ target, d.DependsOn e target → d.Settles ask target) (t : KeyTable) :
    d.Leaves (fun other => ∃ columns, (d.keyOfRequests ask e t).1 = ⟨columns, .inherited other.id⟩)
      t (d.keyOfRequests ask e t).2 := by
  have roles := askRoles_leaves member settles t
  have parents := askParents_leaves (fun parent member => settles parent (.inr member))
    (d.askRoles ask e (d.keyRoles e) t).2
  unfold keyOfRequests
  dsimp only
  split
  · refine (roles.followed parents).resolve ?_
    rintro other _ ⟨columns, chosen⟩ _ _ _
    exact .inl ⟨columns, by rw [chosen, Option.getD_some]⟩
  · exact roles.resolve (by simp)

theorem resolveKey_settles (keyed : d.schema.Keyed) {pending : List String} {e : Entity}
    (request : d.Request pending e) : d.Settles (d.resolveKey pending) e := by
  refine Request.induction keyed (P := fun pending e => d.Settles (d.resolveKey pending) e)
    (fun pending e request settles t => ⟨?_, fun _ => resolveKey_faithful⟩) request
  cases known : t.known.find? e.id with
  | some key =>
    rw [resolveKey_known known]
    exact .refl _ t
  | none =>
    by_cases idle : e.id ∈ pending
    · have leaves := keyOfRequests_leaves request.member (settles idle) t
      have responds := fun target (depends : d.DependsOn e target) =>
        resolveKey_responds keyed (request.next keyed depends)
      have unknown := (keyOfRequests_justified responds t).1.untouched e.id
        request.distinct.not_mem_erase known
      rw [resolveKey_new known idle]
      dsimp only
      generalize d.keyOfRequests (d.resolveKey (pending.erase e.id)) e t = found at leaves unknown ⊢
      have learns : d.Leaves (· = e) found.2 (found.2.learn e.id found.1) := by
        refine ⟨.learn unknown found.1, fun other member new key knows _ => .inl ?_⟩
        rw [KeyTable.Knows, KeyTable.find?_learn] at knows
        split at knows
        · exact keyed.entities.eq_of_id member request.member ‹_›
        · cases new.symm.trans knows
      refine (leaves.trans learns).resolve ?_
      -- a parent that was left is settled now: the new key refers to it
      rintro other _ (⟨columns, chosen⟩ | same) _ _ _
      · refine .inr (.inr ⟨e, request.member, columns, ?_⟩)
        rw [KeyTable.Knows, KeyTable.find?_learn, if_pos rfl, chosen]
      · exact .inl same
    · rw [resolveKey_cut known idle]
      exact ⟨.cut t e.id, fun _ _ unknown _ knows _ => by cases unknown.symm.trans knows⟩

theorem askParents_not_natural (parents : List Entity) (t : KeyTable) (key : Key)
    (chosen : (askParents ask parents t).1 = some key) : key.isNatural = false := by
  induction parents generalizing t with
  | nil => cases chosen
  | cons parent rest ih =>
    unfold askParents at chosen
    by_cases identifying : (ask parent t).1.isIdentifying = true
    · simp only [identifying, if_true, Option.some.injEq] at chosen
      rw [← chosen]
      rfl
    · simp only [identifying, if_false, Bool.false_eq_true] at chosen
      exact ih _ chosen

/-- Where the table answers for all key roles, a natural key follows from it. -/
theorem keyOfRequests_informed {e : Entity} {t : KeyTable}
    (asked : ∀ role ∈ d.keyRoles e, ∀ target,
      (d.schema.roleUse e.id role).entity? = some target → ∀ t,
        t.Extends (ask target t).2 ∧ (ask target t).2.Knows target (ask target t).1)
    (natural : (d.keyOfRequests ask e t).1.isNatural = true) :
    d.Informed (d.keyOfRequests ask e t).2 e (d.keyOfRequests ask e t).1 := by
  have contributes := (askRoles_run (R := KeyTable.Knows) KeyTable.Extends.refl
    (fun _ _ _ => .trans) (fun _ _ more _ _ => more _ _) asked t).2
  unfold keyOfRequests at natural ⊢
  dsimp only at natural ⊢
  split at natural
  · cases chosen : (askParents ask (d.parents e) (d.askRoles ask e (d.keyRoles e) t).2).1 with
    | none =>
      rw [chosen] at natural
      cases natural
    | some key =>
      rw [chosen, Option.getD_some, askParents_not_natural _ _ key chosen] at natural
      cases natural
  · rename_i some
    rw [if_neg some]
    exact ⟨_, rfl, contributes⟩

/-- Nobody waits for a first request, so that its key follows from the table unless the entity
refers to itself. -/
theorem ask_leaves (keyed : d.schema.Keyed) {e : Entity} (member : e ∈ d.schema.entities.values)
    (t : KeyTable) : d.Leaves (fun _ => False) t (d.ask e t) := by
  have request := request_of_mem member
  have idle := mem_entityIds member
  have leaves := (resolveKey_settles keyed request t).1
  refine ⟨leaves.keeps, fun other listed unknown key knows natural => .inr ?_⟩
  rcases leaves.settles other listed unknown key knows natural with rfl | settled
  -- unless a role asks for the entity itself, no request of its roles is cut
  · by_cases self : ∃ role, (d.schema.roleUse other.id role).entity? = some other
    · obtain ⟨role, refers⟩ := self
      exact .inl (.inl ⟨other, listed, role, refers⟩)
    · have responds := fun target (depends : d.DependsOn other target) =>
        resolveKey_responds keyed (request.next keyed depends)
      have asked : ∀ role ∈ d.keyRoles other, ∀ target,
          (d.schema.roleUse other.id role).entity? = some target → ∀ t,
            t.Extends (d.resolveKey (d.entityIds.erase other.id) target t).2 ∧
            (d.resolveKey (d.entityIds.erase other.id) target t).2.Knows target
              (d.resolveKey (d.entityIds.erase other.id) target t).1 := by
        intro role held target refers t
        have there := Schema.entity_of_roleUse keyed refers
        have apart : target.id ≠ other.id := by
          intro same
          rw [keyed.entities.eq_of_id there listed same] at refers
          exact self ⟨role, refers⟩
        exact ⟨(responds target (.inl ⟨role, held, refers⟩) t).1.keeps,
          resolveKey_knows ((List.mem_erase_of_ne apart).mpr (mem_entityIds there)) t⟩
      have fresh := (keyOfRequests_justified responds t).1.untouched other.id
        request.distinct.not_mem_erase unknown
      rw [ask, resolveKey_new unknown idle] at knows ⊢
      rw [KeyTable.Knows, KeyTable.find?_learn, if_pos rfl, Option.some.injEq] at knows
      rw [← knows] at natural ⊢
      exact .inr ((keyOfRequests_informed asked natural).mono (.learn fresh _))
  · exact settled

theorem meet_leaves (keyed : d.schema.Keyed) {demand : Demand} (member : demand ∈ d.demands)
    (t : KeyTable) : d.Leaves (fun _ => False) t (d.meet t demand) := by
  cases demand with
  | key e => exact ask_leaves keyed (mem_demands keyed member rfl) t
  | parent child p => exact ask_leaves keyed (mem_demands keyed member rfl) t
  | lostParent child parent => exact .refl _ t
  | lostRole role table => exact .refl _ t

theorem foldl_meet_leaves (keyed : d.schema.Keyed) {demands : List Demand}
    (within : demands ⊆ d.demands) (t : KeyTable) :
    d.Leaves (fun _ => False) t (demands.foldl d.meet t) := by
  induction demands generalizing t with
  | nil => exact .refl _ t
  | cons demand rest ih =>
    rw [List.cons_subset] at within
    exact (meet_leaves keyed within.1 t).followed (ih within.2 _)

/-- Once all keys are known, a natural key follows from them, or some entity refers to it. -/
theorem referred_or_informed (keyed : d.schema.Keyed) {e : Entity}
    (member : e ∈ d.schema.entities.values) (natural : (d.plan.key e).isNatural = true) :
    d.Referred d.settled e ∨ d.Informed d.settled e (d.plan.key e) := by
  have leaves := foldl_meet_leaves keyed (List.Subset.refl _) .empty
  rcases leaves.settles e member rfl _ (settled_known keyed member) natural with none | settled
  · exact none.elim
  · exact settled

end Derivation

end FactModel
