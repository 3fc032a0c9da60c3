import FactModel.Proofs.Builder.IdentifierRoles
import FactModel.Proofs.Builder.OptionalRoles

/-!
Constraints that are added and removed again. Nothing is left of one, but that identifiers stay
demoted that had to make room for it, and that its role is optional where no other constraint makes
it mandatory.
-/

namespace FactModel

namespace Schema

variable {s t : Schema}

/-! Identifiers are constraints -/

def IdentifiersKnown (s : Schema) : Prop :=
  ∀ key e, s.entities.find? key = some e → ∀ id ∈ e.identifiers, id ∈ s.uniqueConstraints.keys

namespace IdentifiersKnown

theorem unlisted (known : s.IdentifiersKnown) {id : String} (fresh : id ∉ s.ids) :
    ∀ key e, s.entities.find? key = some e → id ∉ e.identifiers := by
  intro key e found listed
  apply fresh
  exact mem_ids_of_mem_constraintIds .uniqueness (known key e found id listed)

theorem listed {owner id key : String} {e : Entity}
    (found : (s.listIdentifier owner id).entities.find? key = some e) {other : String}
    (listed : other ∈ e.identifiers) :
    other = id ∨ ∃ d, s.entities.find? key = some d ∧ other ∈ d.identifiers := by
  rw [listIdentifier, OrderedMap.find?_modify] at found
  by_cases here : key = owner
  · rw [if_pos here] at found
    obtain ⟨d, old, rfl⟩ := Option.map_eq_some_iff.mp found
    split at listed
    · exact .inr ⟨d, old, listed⟩
    · rcases List.mem_append.mp listed with before | new
      · exact .inr ⟨d, old, before⟩
      · exact .inl (List.mem_singleton.mp new)
  · rw [if_neg here] at found
    exact .inr ⟨e, found, listed⟩

theorem attached (known : s.IdentifiersKnown) (c : UniqueConstraint) (primary : Option Bool) :
    ((s.putUnique c).attachIdentifier c.id primary).1.IdentifiersKnown := by
  intro key e found id listed
  rw [(Relinked.attachIdentifier (s.putUnique c) c.id primary).keys_uniqueConstraints]
  have old : ∀ d, s.entities.find? key = some d → id ∈ d.identifiers →
      id ∈ (s.putUnique c).uniqueConstraints.keys := fun d before here =>
    OrderedMap.mem_keys_insert.mpr (.inl (known key d before id here))
  rcases entities_attachIdentifier (s.putUnique c) c.id primary with same | ⟨owner, d, held, made⟩
  · rw [same] at found
    exact old e found listed
  · rw [find?_putUnique, Option.some.injEq] at held
    rw [made, ← held] at found
    rcases IdentifiersKnown.listed found listed with rfl | ⟨d, before, here⟩
    · exact OrderedMap.mem_keys_insert.mpr (.inr rfl)
    · exact old d before here

theorem reidentified (known : s.IdentifiersKnown) (tidy : s.Tidy) (change : s.Reidentified t) :
    t.IdentifiersKnown := by
  cases change with
  | kept unique entities =>
    intro key e found id listed
    rw [unique]
    rcases entities key e found with none | ⟨d, before, same⟩
    · rw [none] at listed
      cases listed
    · exact known key d before id (same ▸ listed)
  | added c primary _ _ _ made =>
    rw [made]
    exact known.attached c primary
  | removed gone others entities =>
    intro key e found id listed
    obtain ⟨d, before, same⟩ := entities key e found
    rw [same, (tidy.identifiers key d before).mem_erase_iff] at listed
    rcases others id with kept | ⟨here, _⟩
    · rw [← OrderedMap.find?_isSome_iff, kept, OrderedMap.find?_isSome_iff]
      exact known key d before id listed.2
    · exact absurd here listed.1

end IdentifiersKnown

end Schema

open Schema

theorem Change.identifiersKnown {s t : Schema} {given : Option (Reading String)}
    (change : Change given s t) (known : s.IdentifiersKnown) (tidy : s.Tidy) :
    t.IdentifiersKnown := by
  rcases change.reidentified_or_put with left | ⟨c, primary, _, _, _, made⟩
  · exact known.reidentified tidy left
  · rw [made]
    exact known.attached c primary

namespace Builder

variable {b before after : Builder}

/-- Requests that succeed one after the other. -/
inductive Succeeds (b : Builder) : Builder → Prop
  | none : Succeeds b b
  | request {before after : Builder} {name : String} {f : Fields} {v : Value}
      (earlier : Succeeds b before) (run : before.run name f = (.ok v, after)) : Succeeds b after

theorem Edits.succeeds (edits : b.Edits after) : b.Succeeds after := by
  induction edits with
  | none => exact .none
  | request _ _ run ih => exact ih.request run

/-- What requests that succeed keep about constraints: roles under a mandatory one are not
optional, and identifiers are uniqueness constraints, each listed once by an entity. -/
structure Settled (b : Builder) : Prop where
  mandatory : b.MandatoryRoles
  tidy : b.schema.Tidy
  known : b.schema.IdentifiersKnown

theorem settled_of_succeeds {id name version : String}
    (start : b.schema = { id := id, name := name, version := version })
    (succeeds : b.Succeeds after) : after.Settled := by
  induction succeeds with
  | none =>
    refine ⟨.of_empty start, ?_, ?_⟩ <;> rw [start]
    · exact .of_empty id name version
    · exact fun _ _ found => nomatch found
  | request _ run ih =>
    obtain ⟨mandatory, tidy, known⟩ := ih
    have change := change_of_run mandatory.keyed.predicators run
    exact ⟨mandatory.next (.inl change) run, change.tidy tidy, change.identifiersKnown known tidy⟩

end Builder

/-! Constraints that come in -/

namespace Builder

variable {b after : Builder} {f : Fields} {op : Operation} {category : ConstraintCategory}

/-- A request for a constraint yields the constraint, under its id. -/
theorem added_of_run {name : String} (named : Operation.ofName? name = some op)
    (adds : op.adds? = some category) {v : Value} (run : b.run name f = (.ok v, after)) :
    ∃ id, v.field? "id" = some (.str id) ∧
      Added (f.given? "id") (f.wish? "is_primary") b.schema category id after.schema := by
  rcases outcome_of_run run with ⟨⟨_, failed⟩, _⟩ | ⟨op', done, named', _, same, outcome⟩
  · cases failed
  · rw [named, Option.some.injEq] at named'
    subst named'
    rcases outcome with ⟨w, yielded, performed⟩ | ⟨_, failed, _⟩
    · have plain : after.result f op w = w := by
        cases op with
        | specialize => cases adds
        | _ => rfl
      rw [plain, Except.ok.injEq] at yielded
      rw [same, yielded]
      have yields : (perform f op).Yields b.schema
          (fun v t => ∃ id, v.field? "id" = some (.str id) ∧
            Added (f.given? "id") (f.wish? "is_primary") b.schema category id t)
          fun _ _ => True :=
        yields_added adds (fun _ id _ yielded added => ⟨id, yielded, added⟩) (fun _ => trivial)
          fun _ _ _ _ _ => trivial
      exact yields.of_ok rfl performed
    · cases failed

theorem run_removeConstraint {id : String}
    (found : b.schema.constraintCategory? id = some category) :
    ∃ after, b.run "remove_constraint" [("constraint_id", .str id)] = (.ok .null, after) ∧
      after.schema = b.schema.withoutConstraint id category := by
  have yields : (perform [("constraint_id", .str id)] .removeConstraint).Yields b.schema
      (fun v t => v = .null ∧ t = b.schema.withoutConstraint id category) fun _ _ => False := by
    refine Edit.yields_bind (yields_removeConstraint (fun other held => ?_) ?_)
    · obtain rfl := Option.some.inj (found.symm.trans held)
      exact Edit.yields_pure ⟨rfl, rfl⟩
    · intro error absent
      have none := absent id rfl
      rw [found] at none
      cases none
  have outcome := yields b rfl
  rcases performed : (perform [("constraint_id", .str id)] .removeConstraint).apply b with
    ⟨error | v, done⟩
  · rw [performed] at outcome
    exact outcome.elim
  · rw [performed] at outcome
    obtain ⟨rfl, same⟩ := outcome
    have named : Operation.ofName? "remove_constraint" = some .removeConstraint := rfl
    have checked : Operation.removeConstraint.checkArguments "remove_constraint"
      [("constraint_id", .str id)] = .ok () := rfl
    refine ⟨b.keepAssigned done none, ?_, same⟩
    simp only [Builder.run, named, checked, performed]
    rfl

end Builder

/-! Constraints that go again -/

namespace Schema

variable {s : Schema} {id : String} {primary : Option Bool}

theorem constraintCategory?_eq {category : ConstraintCategory}
    (held : id ∈ s.constraintIds category)
    (only : ∀ other, id ∈ s.constraintIds other → other = category) :
    s.constraintCategory? id = some category := by
  cases found : s.constraintCategory? id with
  | none =>
    have listed : category ∈ ConstraintCategory.all := by cases category <;> decide
    exact absurd held (by simpa using List.find?_eq_none.mp found category listed)
  | some other => rw [only other (by simpa using List.find?_some found)]

theorem map_unlisted (unlisted : ∀ key e, s.entities.find? key = some e → id ∉ e.identifiers)
    (key : String) :
    (s.entities.find? key).map (fun e => { e with identifiers := e.identifiers.erase id }) =
      s.entities.find? key := by
  cases found : s.entities.find? key with
  | none => rfl
  | some e => rw [Option.map_some, List.erase_of_not_mem (unlisted key e found)]

theorem unlistIdentifier_eq_self
    (unlisted : ∀ key e, s.entities.find? key = some e → id ∉ e.identifiers) :
    s.unlistIdentifier id = s := by
  have same : (s.entities.mapValues fun _ e => { e with identifiers := e.identifiers.erase id }) =
      s.entities := by
    refine OrderedMap.ext_find? (OrderedMap.keys_mapValues ..) fun key => ?_
    rw [OrderedMap.find?_mapValues]
    exact map_unlisted unlisted key
  rw [unlistIdentifier, same]

theorem withoutConstraint_of_erased {t : Schema} {category : ConstraintCategory}
    (other : category ≠ .totalRole) (erased : t.eraseConstraint id category = s)
    (unlisted : ∀ key e, s.entities.find? key = some e → id ∉ e.identifiers) :
    t.withoutConstraint id category = s := by
  have unlists : t.withoutConstraint id category =
      (t.eraseConstraint id category).unlistIdentifier id := by
    cases category with
    | totalRole => exact absurd rfl other
    | _ => rfl
  rw [unlists, erased, unlistIdentifier_eq_self unlisted]

/-! Uniqueness constraints -/

/-- The schema with the identifiers demoted that the owner of a constraint has. -/
def demotedFor (s : Schema) (c : UniqueConstraint) : Schema :=
  match (s.owner? c).bind s.entities.find? with
  | some e => s.demoteIdentifiers e
  | none => s

section Attached

variable {t : Schema} {key : String} {e : Entity} {c : UniqueConstraint}

theorem Attached.unlisted_entities (attached : s.Attached t key id e primary)
    (keys : t.entities.keys = s.entities.keys) (found : s.entities.find? key = some e)
    (unlisted : ∀ key e, s.entities.find? key = some e → id ∉ e.identifiers) :
    (t.entities.mapValues fun _ e => { e with identifiers := e.identifiers.erase id }) =
      s.entities := by
  refine OrderedMap.ext_find? ((OrderedMap.keys_mapValues ..).trans keys) fun other => ?_
  rw [OrderedMap.find?_mapValues]
  by_cases here : other = key
  · subst here
    have dropped : (e.identifiers ++ [id]).erase id = e.identifiers := by
      rw [List.erase_append_right _ (unlisted other e found)]
      simp
    simp [attached.entity, found, Entity.identifiedBy, dropped]
  · rw [attached.otherEntities other here]
    exact map_unlisted unlisted other

theorem Attached.erased_uniqueConstraints
    (attached : (s.putUnique c).Attached t key c.id e primary)
    (keys : t.uniqueConstraints.keys = (s.putUnique c).uniqueConstraints.keys)
    (fresh : c.id ∉ s.uniqueConstraints.keys) :
    t.uniqueConstraints.erase c.id =
      (if primary = some true then s.demoteIdentifiers e else s).uniqueConstraints := by
  have appended : t.uniqueConstraints.keys = s.uniqueConstraints.keys ++ [c.id] := by
    rw [keys, putUnique, OrderedMap.keys_insert, if_neg fresh]
  by_cases asked : primary = some true
  · have same := (Relinked.demoteIdentifiers s e).keys_uniqueConstraints
    rw [if_pos asked]
    refine OrderedMap.erase_eq_of_fresh (same ▸ fresh) (same ▸ appended) fun other apart => ?_
    rw [find?_demoteIdentifiers, ← find?_putUnique_of_ne (s := s) c apart]
    split
    · rename_i listed
      exact attached.demoted asked other listed apart
    · rename_i unlisted
      exact attached.apart other apart fun _ => unlisted
  · rw [if_neg asked]
    refine OrderedMap.erase_eq_of_fresh fresh appended fun other apart => ?_
    rw [← find?_putUnique_of_ne (s := s) c apart]
    exact attached.apart other apart fun here => absurd here asked

end Attached

/-- An identifier leaves nothing behind, but the demotion of the others where it was to be
primary. -/
theorem withoutConstraint_attached (known : s.IdentifiersKnown) {c : UniqueConstraint}
    (fresh : c.id ∉ s.ids) (primary : Option Bool) :
    ((s.putUnique c).attachIdentifier c.id primary).1.withoutConstraint c.id .uniqueness =
      if primary = some true then s.demotedFor c else s := by
  have unlisted := known.unlisted fresh
  have unheld : c.id ∉ s.uniqueConstraints.keys := not_mem_constraintIds fresh .uniqueness
  cases owner : s.owner? c with
  | none =>
    rw [attachIdentifier_of_no_owner (find?_putUnique s c) owner]
    have alone : s.demotedFor c = s := by simp [demotedFor, owner]
    rw [alone, ite_self]
    refine withoutConstraint_of_erased (by decide) ?_ unlisted
    exact congrArg (fun m => { s with uniqueConstraints := m }) (OrderedMap.erase_insert unheld c)
  | some key =>
    obtain ⟨e, found⟩ := OrderedMap.exists_find?_of_mem_keys (owner?_eq_some.mp owner).2
    have demoted : s.demotedFor c = s.demoteIdentifiers e := by simp [demotedFor, owner, found]
    have relinked := Relinked.attachIdentifier (s.putUnique c) c.id primary
    have attached := attached_of_owner (find?_putUnique s c) rfl owner found
      (unlisted key e found) primary
    generalize ((s.putUnique c).attachIdentifier c.id primary).1 = t at relinked attached ⊢
    have entities := attached.unlisted_entities relinked.keys_entities found unlisted
    have uniques := attached.erased_uniqueConstraints relinked.keys_uniqueConstraints unheld
    obtain ⟨_, _, _, _, made⟩ := relinked
    calc t.withoutConstraint c.id .uniqueness
        = { t with
            entities := t.entities.mapValues fun _ e =>
              { e with identifiers := e.identifiers.erase c.id }
            uniqueConstraints := t.uniqueConstraints.erase c.id } := rfl
      _ = { s with
            uniqueConstraints :=
              (if primary = some true then s.demoteIdentifiers e else s).uniqueConstraints } := by
        rw [entities, uniques, made]
        rfl
      _ = if primary = some true then s.demotedFor c else s := by
        rw [demoted]
        split
        · exact (demoteIdentifiers_eq s e).symm
        · rfl

/-! Mandatory constraints -/

theorem setOptional_eq_self {role : String} {r : Predicator}
    (found : s.predicators.find? role = some r) : s.setOptional role r.isOptional = s :=
  congrArg (fun m => { s with predicators := m }) (OrderedMap.modify_eq_self found rfl)

theorem setOptional_setOptional (role : String) (first second : Bool) :
    (s.setOptional role first).setOptional role second = s.setOptional role second := by
  have same : (s.setOptional role first).predicators.modify role
      (fun r => { r with isOptional := second }) =
        s.predicators.modify role fun r => { r with isOptional := second } := by
    refine OrderedMap.ext_find? (by simp [setOptional]) fun other => ?_
    simp only [setOptional, OrderedMap.find?_modify]
    by_cases here : other = role
    · simp [here, Function.comp_def]
    · simp [here]
  exact congrArg (fun m => { s with predicators := m }) same

/-- A role is optional again where nothing makes it mandatory, and it stays as it is elsewhere. -/
theorem relaxRole_setOptional (role : String) (isOptional : Bool) :
    s.Mandates role ∧
        (s.setOptional role isOptional).relaxRole role = s.setOptional role isOptional ∨
      ¬ s.Mandates role ∧
        (s.setOptional role isOptional).relaxRole role = s.setOptional role true := by
  have mandates : s.Mandates role ↔ ((s.setOptional role isOptional).totalRoleConstraints.values.any
      fun c => c.predicatorId == role) = true := by
    simp [Mandates, setOptional]
  by_cases required : s.Mandates role
  · exact .inl ⟨required, if_pos (mandates.mp required)⟩
  · refine .inr ⟨required, (if_neg (mt mandates.mpr required)).trans ?_⟩
    exact setOptional_setOptional role isOptional true

/-- Once a mandatory constraint is gone, its role is optional unless another one demands it. -/
theorem withoutConstraint_mandatory (known : s.IdentifiersKnown) {c : TotalRoleConstraint}
    (fresh : c.id ∉ s.ids) :
    s.Mandates c.predicatorId ∧ (s.putMandatory c).withoutConstraint c.id .totalRole =
        s.setOptional c.predicatorId false ∨
      ¬ s.Mandates c.predicatorId ∧ (s.putMandatory c).withoutConstraint c.id .totalRole =
        s.setOptional c.predicatorId true := by
  have unheld : c.id ∉ s.totalRoleConstraints.keys := not_mem_constraintIds fresh .totalRole
  have held : (s.putMandatory c).totalRoleConstraints.find? c.id = some c :=
    (OrderedMap.find?_insert ..).trans (if_pos rfl)
  have erased : (s.putMandatory c).eraseConstraint c.id .totalRole =
      s.setOptional c.predicatorId false :=
    congrArg (fun m => { s.setOptional c.predicatorId false with totalRoleConstraints := m })
      (OrderedMap.erase_insert unheld c)
  have unlisted : (s.setOptional c.predicatorId false).unlistIdentifier c.id =
      s.setOptional c.predicatorId false := unlistIdentifier_eq_self (known.unlisted fresh)
  have relaxed : (s.putMandatory c).withoutConstraint c.id .totalRole =
      (s.setOptional c.predicatorId false).relaxRole c.predicatorId := by
    simp only [withoutConstraint, held, erased, unlisted]
  rw [relaxed]
  exact s.relaxRole_setOptional c.predicatorId false

/-- What there is once a constraint has come in and is gone again. Identifiers that the constraint
demoted stay demoted; a role that was neither optional nor under a mandatory constraint is then
optional. -/
def TakenBack (primary : Option Bool) (s within t : Schema) (id : String) :
    ConstraintCategory → Prop
  | .uniqueness => ∃ c, within.uniqueConstraints.find? id = some c ∧
    t = if primary = some true then s.demotedFor c else s
  | .totalRole => ∃ c r, within.totalRoleConstraints.find? id = some c ∧
    s.predicators.find? c.predicatorId = some r ∧
    (r.isOptional = true ∨ s.Mandates c.predicatorId → t = s) ∧
    (¬ s.Mandates c.predicatorId → t = s.setOptional c.predicatorId true)
  | _ => t = s

end Schema

namespace Added

variable {given : Option (Reading String)} {primary : Option Bool} {s t : Schema}
  {category : ConstraintCategory} {id : String}

theorem fresh (added : Added given primary s category id t)
    (unused : ∀ id, given = some (.ok id) → id ∉ s.ids) : id ∉ s.ids := by
  cases added with
  | uniqueness c _ _ picked => exact picked.elim (unused c.id) fun fresh => fresh
  | _ => assumption

theorem constraintIds (added : Added given primary s category id t) :
    id ∈ t.constraintIds category ∧
      ∀ other, other ≠ category → t.constraintIds other = s.constraintIds other := by
  cases added with
  | uniqueness c =>
    have relinked := Relinked.attachIdentifier (s.putUnique c) c.id primary
    constructor
    · rw [Schema.constraintIds, ← putUnique, relinked.keys_uniqueConstraints]
      exact OrderedMap.mem_keys_insert.mpr (.inr rfl)
    · obtain ⟨_, _, _, _, made⟩ := relinked
      intro other apart
      rw [← putUnique, made]
      cases other <;> first | rfl | exact absurd rfl apart
  | _ =>
    refine ⟨OrderedMap.mem_keys_insert.mpr (.inr rfl), fun other apart => ?_⟩
    cases other <;> first | rfl | exact absurd rfl apart

theorem constraintCategory?_eq (added : Added given primary s category id t) (fresh : id ∉ s.ids) :
    t.constraintCategory? id = some category := by
  obtain ⟨held, others⟩ := added.constraintIds
  refine Schema.constraintCategory?_eq held fun other here => ?_
  by_contra apart
  rw [others other apart] at here
  exact not_mem_constraintIds fresh other here

theorem takenBack (added : Added given primary s category id t) (fresh : id ∉ s.ids)
    (known : s.IdentifiersKnown)
    (required : ∀ role r, s.predicators.find? role = some r → s.Mandates role →
      r.isOptional = false) :
    TakenBack primary s t (t.withoutConstraint id category) id category := by
  have unlisted := known.unlisted fresh
  have unheld := not_mem_constraintIds fresh
  cases added with
  | uniqueness c =>
    rw [← putUnique]
    obtain ⟨d, held, _⟩ := (Relinked.attachIdentifier (s.putUnique c) c.id
      primary).exists_uniqueConstraint (find?_putUnique s c)
    have roles := (origin_of_added unlisted primary rfl).1 c.id
    rw [held, find?_putUnique, Option.map_some, Option.map_some, Option.some.injEq] at roles
    refine ⟨d, held, ?_⟩
    rw [withoutConstraint_attached known fresh primary, demotedFor, demotedFor, owner?, owner?,
      roles]
  | totalRole c r found =>
    refine ⟨c, r, (OrderedMap.find?_insert ..).trans (if_pos rfl), found, ?_⟩
    have kept := setOptional_eq_self found
    rcases withoutConstraint_mandatory known fresh with ⟨mandates, back⟩ | ⟨free, back⟩
    · have closed : r.isOptional = false := required c.predicatorId r found mandates
      rw [closed] at kept
      exact ⟨fun _ => back.trans kept, fun free => absurd mandates free⟩
    · refine ⟨fun before => ?_, fun _ => back⟩
      rw [before.resolve_right free] at kept
      exact back.trans kept
  | set c =>
    refine withoutConstraint_of_erased (by decide) ?_ unlisted
    exact congrArg (fun m => { s with setConstraints := m })
      (OrderedMap.erase_insert (unheld .set) c)
  | cardinality c =>
    refine withoutConstraint_of_erased (by decide) ?_ unlisted
    exact congrArg (fun m => { s with cardinalityConstraints := m })
      (OrderedMap.erase_insert (unheld .cardinality) c)
  | frequency c =>
    refine withoutConstraint_of_erased (by decide) ?_ unlisted
    exact congrArg (fun m => { s with frequencyConstraints := m })
      (OrderedMap.erase_insert (unheld .frequency) c)
  | enumeration c =>
    refine withoutConstraint_of_erased (by decide) ?_ unlisted
    exact congrArg (fun m => { s with enumerationConstraints := m })
      (OrderedMap.erase_insert (unheld .enumeration) c)
  | custom c =>
    refine withoutConstraint_of_erased (by decide) ?_ unlisted
    exact congrArg (fun m => { s with customConstraints := m })
      (OrderedMap.erase_insert (unheld .custom) c)

end Added

namespace Builder

variable {b before within : Builder} {name : String} {f : Fields} {op : Operation}
  {category : ConstraintCategory}

/-- A constraint that is added, after requests that succeeded, can be removed by its id, and then
the schema is as it was, but for identifiers that were demoted on request and for a role that was
not optional without a mandatory constraint and now is. -/
theorem constraint_taken_back {id title version : String}
    (start : b.schema = { id := id, name := title, version := version })
    (succeeds : b.Succeeds before) (named : Operation.ofName? name = some op)
    (adds : op.adds? = some category)
    (unused : ∀ key, f.given? "id" = some (.ok key) → key ∉ before.schema.ids) {v : Value}
    (run : before.run name f = (.ok v, within)) :
    ∃ key after, v.field? "id" = some (.str key) ∧ key ∉ before.schema.ids ∧
      within.run "remove_constraint" [("constraint_id", .str key)] = (.ok .null, after) ∧
      TakenBack (f.wish? "is_primary") before.schema within.schema after.schema key category := by
  obtain ⟨mandatory, _, known⟩ := settled_of_succeeds start succeeds
  obtain ⟨key, yielded, added⟩ := added_of_run named adds run
  have fresh := added.fresh unused
  obtain ⟨after, removed, same⟩ := run_removeConstraint (added.constraintCategory?_eq fresh)
  refine ⟨key, after, yielded, fresh, removed, ?_⟩
  rw [same]
  exact added.takenBack fresh known mandatory.required

/-- Students are identified by that they study, and are to be identified by it once more. -/
def studies : List (String × Fields) := [
  ("add_entity", [("name", .str "Student")]),
  ("add_unary_fact_type", [("object_id", .str "entity_1"), ("name", .str "studies")]),
  ("add_unique", [("predicator_ids", .arr [.str "role_1"])])]

def again : Fields := [("predicator_ids", .arr [.str "role_1"]), ("is_primary", .bool true)]

theorem run_again :
    (∀ key, again.given? "id" = some (.ok key) → key ∉ (school.runAll studies).schema.ids) ∧
    ∃ v, (school.runAll studies).run "add_unique" again =
      (.ok v, ((school.runAll studies).run "add_unique" again).2) := by
  have admits : (school.runAll studies).admits [("add_unique", again)] = true := by decide +kernel
  obtain ⟨unused, run, _⟩ := of_admits admits
  exact ⟨unused, run⟩

theorem constraint_taken_back_studies :
    ∃ v within key after, (school.runAll studies).run "add_unique" again = (.ok v, within) ∧
      v.field? "id" = some (.str key) ∧
      within.run "remove_constraint" [("constraint_id", .str key)] = (.ok .null, after) ∧
      TakenBack (some true) (school.runAll studies).schema within.schema after.schema key
        .uniqueness := by
  have edits : school.Edits (school.runAll studies) := .admitted .none (by decide +kernel)
  obtain ⟨unused, v, run⟩ := run_again
  obtain ⟨key, after, yielded, _, removed, back⟩ := constraint_taken_back (b := school) rfl
    edits.succeeds rfl rfl unused run
  exact ⟨v, _, key, after, run, yielded, removed, back⟩

/-- Adding and removing a constraint does not always cancel: the identifier before it has lost its
rank. -/
theorem not_every_constraint_cancels :
    ¬ ∀ (b before within after : Builder) (id title version name key : String) (f : Fields)
      (op : Operation) (category : ConstraintCategory) (v : Value),
      b.schema = { id := id, name := title, version := version } → b.Succeeds before →
      Operation.ofName? name = some op → op.adds? = some category →
      (∀ key, f.given? "id" = some (.ok key) → key ∉ before.schema.ids) →
      before.run name f = (.ok v, within) → v.field? "id" = some (.str key) →
      within.run "remove_constraint" [("constraint_id", .str key)] = (.ok .null, after) →
      after.schema = before.schema := by
  intro claim
  have edits : school.Edits (school.runAll studies) := .admitted .none (by decide +kernel)
  obtain ⟨unused, v, run⟩ := run_again
  obtain ⟨key, yielded, added⟩ := added_of_run rfl rfl run
  have fresh := added.fresh unused
  obtain ⟨after, removed, same⟩ := run_removeConstraint (added.constraintCategory?_eq fresh)
  have cancelled := claim school _ _ after _ _ _ _ key _ _ _ v rfl edits.succeeds rfl rfl unused run
    yielded removed
  have new : key = "unique_2" := by
    have keys : ((school.runAll studies).run "add_unique" again).2.schema.constraintIds
        .uniqueness = ["unique_1", "unique_2"] := by decide +kernel
    have old : "unique_1" ∈ (school.runAll studies).schema.ids := by decide +kernel
    have listed := added.constraintIds.1
    rw [keys] at listed
    rcases List.mem_cons.mp listed with rfl | rest
    · exact absurd old fresh
    · exact List.mem_singleton.mp rest
  have ranks : ((((school.runAll studies).run "add_unique" again).2.schema.withoutConstraint key
      .uniqueness).uniqueConstraints.find? "unique_1").map (·.isPrimary) =
        ((school.runAll studies).schema.uniqueConstraints.find? "unique_1").map (·.isPrimary) := by
    rw [← cancelled, same]
  rw [new] at ranks
  exact absurd ranks (by decide +kernel)

end Builder

end FactModel
