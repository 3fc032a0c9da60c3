import FactModel.Proofs.Builder.Identification
import FactModel.Proofs.Builder.RoleNumbers
import FactModel.Proofs.Schema.Resolution

/-!
The roles of identifiers while a schema is edited. A constraint becomes an identifier of the object
that plays its first role, whoever plays the others. No role is given to another player later on.
-/

namespace FactModel

namespace Schema

variable {s t : Schema}

/-! Where identifiers and their roles come from -/

theorem map_predicatorIds_of_attached {key id : String} {e : Entity} {primary : Option Bool}
    (attached : s.Attached t key id e primary) (other : String) :
    (t.uniqueConstraints.find? other).map (·.predicatorIds) =
      (s.uniqueConstraints.find? other).map (·.predicatorIds) := by
  by_cases here : other = id
  · subst here
    by_cases promotes : s.Promotes (e.identifiedBy other) primary
    · rw [attached.promoted promotes, Option.map_map]
      rfl
    · rw [attached.unpromoted promotes]
  · rcases attached.of_ne here with same | demoted
    · rw [same]
    · rw [demoted, Option.map_map]
      rfl

/-- The roles of an attached constraint stay what they are, and it is listed by its owner only. -/
theorem origin_of_added {c : UniqueConstraint} (fresh : ∀ key e,
      s.entities.find? key = some e → c.id ∉ e.identifiers) (primary : Option Bool)
    (made : t = ((s.putUnique c).attachIdentifier c.id primary).1) :
    (∀ id, (t.uniqueConstraints.find? id).map (·.predicatorIds) =
      ((s.putUnique c).uniqueConstraints.find? id).map (·.predicatorIds)) ∧
    ∀ key e, t.entities.find? key = some e → ∀ id ∈ e.identifiers,
      (∃ d, s.entities.find? key = some d ∧ id ∈ d.identifiers) ∨
        id = c.id ∧ c.predicatorIds.head?.bind s.player? = some key := by
  have new := find?_putUnique s c
  cases owner : (s.putUnique c).owner? c with
  | none =>
    rw [made, attachIdentifier_of_no_owner new owner]
    exact ⟨fun _ => rfl, fun key e found id listed => .inl ⟨e, found, listed⟩⟩
  | some key =>
    obtain ⟨leads, known⟩ := owner?_eq_some.mp owner
    obtain ⟨e, found⟩ := OrderedMap.exists_find?_of_mem_keys known
    have attached := attached_of_owner new rfl owner found (fresh key e found) primary
    rw [← made] at attached
    refine ⟨map_predicatorIds_of_attached attached, fun other d held id listed => ?_⟩
    by_cases here : other = key
    · subst here
      obtain rfl := Option.some.inj (attached.entity.symm.trans held)
      rcases List.mem_append.mp listed with old | single
      · exact .inl ⟨e, found, old⟩
      · exact .inr ⟨List.mem_singleton.mp single, leads⟩
    · exact .inl ⟨d, (attached.otherEntities other here).symm.trans held, listed⟩

theorem IdentifiedOnce.unlisted (once : s.IdentifiedOnce) {id : String} (fresh : id ∉ s.ids) :
    ∀ key e, s.entities.find? key = some e → id ∉ e.identifiers :=
  fun key e found => (once key e found).not_mem_of_fresh fresh

/-- A constraint has the roles that it had before, or it is new and its roles were there before. -/
theorem Reidentified.origin (change : s.Reidentified t) (once : s.IdentifiedOnce) {id : String}
    {c : UniqueConstraint} (found : t.uniqueConstraints.find? id = some c) :
    (∃ d, s.uniqueConstraints.find? id = some d ∧ c.predicatorIds = d.predicatorIds) ∨
      s.uniqueConstraints.find? id = none ∧
        ∀ role ∈ c.predicatorIds, role ∈ s.predicators.keys := by
  cases change with
  | kept unique => exact .inl ⟨c, unique ▸ found, rfl⟩
  | added c' primary fresh unranked roles made =>
    have same := (origin_of_added (once.unlisted fresh) primary made).1 id
    rw [found] at same
    obtain ⟨d, held, equal⟩ := Option.map_eq_some_iff.mp same.symm
    rcases OrderedMap.find?_insert_eq_some.mp held with ⟨rfl, rfl⟩ | ⟨_, old⟩
    · exact .inr ⟨find?_uniqueConstraints_of_fresh fresh,
        fun role listed => roles role (equal ▸ listed)⟩
    · exact .inl ⟨d, old, equal.symm⟩
  | removed _ others =>
    rcases others id with same | ⟨_, gone⟩
    · exact .inl ⟨c, same.symm.trans found, rfl⟩
    · rw [gone] at found
      cases found

/-- An identifier was listed before, or it is a new one of the object that plays its first role. -/
theorem Reidentified.listed (change : s.Reidentified t) (once : s.IdentifiedOnce) {key : String}
    {e : Entity} (found : t.entities.find? key = some e) {id : String}
    (listed : id ∈ e.identifiers) :
    (∃ d, s.entities.find? key = some d ∧ id ∈ d.identifiers) ∨
      s.uniqueConstraints.find? id = none ∧ ∀ c, t.uniqueConstraints.find? id = some c →
        c.predicatorIds.head?.bind s.player? = some key := by
  cases change with
  | kept _ entities =>
    rcases entities key e found with none | ⟨d, before, same⟩
    · rw [none] at listed
      cases listed
    · exact .inl ⟨d, before, same ▸ listed⟩
  | added c' primary fresh _ _ made =>
    obtain ⟨roles, lists⟩ := origin_of_added (once.unlisted fresh) primary made
    rcases lists key e found id listed with old | ⟨rfl, leads⟩
    · exact .inl old
    · refine .inr ⟨find?_uniqueConstraints_of_fresh fresh, fun c held => ?_⟩
      have same := roles c'.id
      rw [held, find?_putUnique, Option.map_some, Option.map_some, Option.some.injEq] at same
      rw [same, leads]
  | removed _ _ entities =>
    obtain ⟨d, before, same⟩ := entities key e found
    rw [same] at listed
    exact .inl ⟨d, before, List.mem_of_mem_erase listed⟩

end Schema

open Schema

/-! Players stay -/

/-- A role that stays keeps its player. -/
theorem Change.player?_eq {s t : Schema} {given : Option (Reading String)}
    (change : Change given s t)
    {role : String} (held : role ∈ s.predicators.keys) {object : String}
    (plays : t.player? role = some object) : s.player? role = some object := by
  obtain ⟨r, found, rfl⟩ := Option.map_eq_some_iff.mp plays
  have players := congrArg (Option.map Prod.snd) (change.side_eq held found)
  rwa [Option.map_map] at players

namespace Builder

/-- Every role that is held or listed by a uniqueness constraint has been counted. -/
structure RolesCounted (b : Builder) : Prop where
  held : ∀ role ∈ b.schema.predicators.keys, ∃ n ≤ b.roleCount, role = Edit.numbered "role" n
  listed : ∀ id c, b.schema.uniqueConstraints.find? id = some c → ∀ role ∈ c.predicatorIds,
    ∃ n ≤ b.roleCount, role = Edit.numbered "role" n

variable {b after : Builder}

theorem RolesCounted.next (counted : b.RolesCounted) (onward : b.Onward after)
    (change : b.schema.Reidentified after.schema) (once : b.schema.IdentifiedOnce) :
    after.RolesCounted := by
  refine ⟨onward.all_counted counted.held, fun id c found role listed => ?_⟩
  rcases change.origin once found with ⟨d, held, same⟩ | ⟨_, roles⟩
  · exact onward.counted (counted.listed id d held role (same ▸ listed))
  · exact onward.counted (counted.held role (roles role listed))

end Builder

/-! Identifiers of one object -/

/-- Of the roles of an identifier, those that are picked are played by its entity. -/
def Schema.OwnRoles (pick : List String → List String) (s : Schema) : Prop :=
  ∀ key e, s.entities.find? key = some e → ∀ id ∈ e.identifiers, ∀ c,
    s.uniqueConstraints.find? id = some c → ∀ role ∈ pick c.predicatorIds, ∀ object,
      s.player? role = some object → object = key

/-- The uniqueness constraints that are new list roles with one player. -/
def Schema.AddsNarrow (s t : Schema) : Prop :=
  ∀ entry ∈ t.uniqueConstraints.entries, entry.1 ∉ s.uniqueConstraints.keys →
    ∀ role ∈ entry.2.predicatorIds, ∀ other ∈ entry.2.predicatorIds,
      s.player? role = s.player? other

instance (s t : Schema) : Decidable (s.AddsNarrow t) :=
  inferInstanceAs (Decidable (∀ entry ∈ t.uniqueConstraints.entries,
    entry.1 ∉ s.uniqueConstraints.keys → ∀ role ∈ entry.2.predicatorIds,
      ∀ other ∈ entry.2.predicatorIds, s.player? role = s.player? other))

theorem Schema.AddsNarrow.player?_eq {s t : Schema} (narrow : s.AddsNarrow t) {id : String}
    {c : UniqueConstraint} (new : s.uniqueConstraints.find? id = none)
    (held : t.uniqueConstraints.find? id = some c) {role other : String}
    (listed : role ∈ c.predicatorIds) (too : other ∈ c.predicatorIds) :
    s.player? role = s.player? other := by
  have added := (s.uniqueConstraints.find?_eq_none_iff id).mp new
  exact narrow (id, c) ((OrderedMap.find?_eq_some_iff ..).mp held) added role listed other too

namespace Builder

variable {b after : Builder} {pick : List String → List String}

/-- What a run keeps about the roles of identifiers. -/
structure OwnRoles (pick : List String → List String) (b : Builder) : Prop where
  keyed : b.schema.Keyed
  once : b.schema.IdentifiedOnce
  counted : b.RolesCounted
  own : b.schema.OwnRoles pick

theorem OwnRoles.of_empty {id name version : String}
    (start : b.schema = { id := id, name := name, version := version }) : b.OwnRoles pick where
  keyed := start ▸ .of_empty id name version
  once := start ▸ fun _ _ found => nomatch found
  counted := by
    constructor <;> rw [start]
    · exact fun _ held => nomatch held
    · exact fun _ _ found => nomatch found
  own := start ▸ fun _ _ found => nomatch found

/-- One request keeps the picked roles of identifiers with their entity, if it does so for the
constraint that it adds. -/
theorem OwnRoles.next (before : b.OwnRoles pick) (picked : ∀ ids, pick ids ⊆ ids) {name : String}
    {f : Fields} {v : Value} (run : b.run name f = (.ok v, after))
    (unused : ∀ id, f.given? "id" = some (.ok id) → id ∉ b.schema.ids)
    (added : ∀ id c, b.schema.uniqueConstraints.find? id = none →
      after.schema.uniqueConstraints.find? id = some c → ∀ key,
      c.predicatorIds.head?.bind b.schema.player? = some key →
      ∀ role ∈ pick c.predicatorIds, ∀ object, b.schema.player? role = some object →
        object = key) : after.OwnRoles pick := by
  obtain ⟨keyed, once, counted, own⟩ := before
  have change := change_of_run keyed.predicators run
  have onward := onward_of_run run
  have reidentified := change.reidentified unused
  have countedAfter := counted.next onward reidentified once
  refine ⟨change.keyed keyed, once.reidentified reidentified, countedAfter, ?_⟩
  intro key e found id listed c held role chosen object plays
  have inside := picked _ chosen
  have counted : ∃ n ≤ b.roleCount, role = Edit.numbered "role" n := by
    rcases reidentified.origin once held with ⟨d, before, same⟩ | ⟨_, roles⟩
    · exact counted.listed id d before role (same ▸ inside)
    · exact counted.held role (roles role inside)
  have there : role ∈ after.schema.predicators.keys := by
    obtain ⟨r, found, _⟩ := Option.map_eq_some_iff.mp plays
    exact OrderedMap.mem_keys_of_find? found
  have played := change.player?_eq (onward.mem_keys counted there) plays
  rcases reidentified.listed once found listed with ⟨d, before, listed⟩ | ⟨new, leads⟩
  · rcases reidentified.origin once held with ⟨c', old, same⟩ | ⟨new, _⟩
    · exact own key d before id listed c' old role (same ▸ chosen) object played
    · obtain ⟨c', old, _⟩ := (once key d before).known id listed
      rw [new] at old
      cases old
  · exact added id c new held key (leads c held) role chosen object played

/-- The first role of an identifier, where it is still there, is played by its entity. -/
theorem ownFirst_of_edits {id name version : String}
    (start : b.schema = { id := id, name := name, version := version })
    (edits : b.Edits after) : after.OwnRoles fun ids => ids.head?.toList := by
  induction edits with
  | none => exact .of_empty start
  | request _ unused run ih =>
    refine ih.next (fun ids role first => ?_) run unused ?_
    · exact List.mem_of_mem_head? (Option.mem_toList.mp first)
    · intro id c _ _ key leads role first object plays
      rw [Option.mem_toList.mp first, Option.bind_some, plays] at leads
      exact Option.some.inj leads

/-- Edits where each uniqueness constraint that is added is over roles of one object. -/
inductive NarrowEdits (b : Builder) : Builder → Prop
  | none : NarrowEdits b b
  | request {before after : Builder} {name : String} {f : Fields} {v : Value}
      (edits : NarrowEdits b before)
      (unused : ∀ id, f.given? "id" = some (.ok id) → id ∉ before.schema.ids)
      (run : before.run name f = (.ok v, after))
      (narrow : before.schema.AddsNarrow after.schema) : NarrowEdits b after

theorem ownRoles_of_narrowEdits {id name version : String}
    (start : b.schema = { id := id, name := name, version := version })
    (edits : b.NarrowEdits after) : after.OwnRoles fun ids => ids := by
  induction edits with
  | none => exact .of_empty start
  | request _ unused run narrow ih =>
    refine ih.next (fun _ => List.Subset.refl _) run unused ?_
    intro id c new held key leads role listed object plays
    obtain ⟨first, head, leader⟩ := Option.bind_eq_some_iff.mp leads
    have same := narrow.player?_eq new held listed (List.mem_of_mem_head? head)
    exact Option.some.inj (plays.symm.trans (same.trans leader))

/-- The constraints that the requests add are over roles of one object. -/
def narrows (b : Builder) : List (String × Fields) → Bool
  | [] => true
  | (name, f) :: rest =>
    decide (b.schema.AddsNarrow (b.run name f).2.schema) && narrows (b.run name f).2 rest

theorem NarrowEdits.admitted {before : Builder} {requests : List (String × Fields)}
    (edits : b.NarrowEdits before) (admits : before.admits requests = true)
    (narrows : before.narrows requests = true) : b.NarrowEdits (before.runAll requests) := by
  induction requests generalizing before with
  | nil => exact edits
  | cons request rest ih =>
    rw [Builder.narrows, Bool.and_eq_true, decide_eq_true_eq] at narrows
    obtain ⟨unused, ⟨v, run⟩, later⟩ := of_admits admits
    exact ih (edits.request unused run narrows.1) later narrows.2

end Builder

end FactModel
