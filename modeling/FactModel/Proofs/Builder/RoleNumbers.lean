import FactModel.Proofs.Builder.Requests

/-!
Numbers of roles. A builder counts the roles that it makes and never counts back, so that the id of
a role that is gone is not given to another role.
-/

namespace FactModel

namespace Builder

def roleCount (b : Builder) : Nat := b.counter.last "role"

/-- A role whose number has been counted. -/
def Counted (b : Builder) (role : String) : Prop :=
  ∃ n ≤ b.roleCount, role = Edit.numbered "role" n

/-- The count of roles only grows, and roles that are new have numbers above the old count. -/
structure Onward (b after : Builder) : Prop where
  count : b.roleCount ≤ after.roleCount
  roles : ∀ id ∈ after.schema.predicators.keys, id ∈ b.schema.predicators.keys ∨
    ∃ n, b.roleCount < n ∧ n ≤ after.roleCount ∧ id = Edit.numbered "role" n

namespace Onward

variable {a b c : Builder}

theorem of_keys (count : a.roleCount ≤ b.roleCount)
    (keys : b.schema.predicators.keys ⊆ a.schema.predicators.keys) : a.Onward b :=
  ⟨count, fun _ held => .inl (keys held)⟩

theorem refl (b : Builder) : b.Onward b := of_keys (Nat.le_refl _) (List.Subset.refl _)

theorem trans (first : a.Onward b) (second : b.Onward c) : a.Onward c where
  count := Nat.le_trans first.count second.count
  roles id held := by
    rcases second.roles id held with before | ⟨n, above, below, rfl⟩
    · rcases first.roles id before with old | ⟨n, above, below, rfl⟩
      · exact .inl old
      · exact .inr ⟨n, above, Nat.le_trans below second.count, rfl⟩
    · exact .inr ⟨n, Nat.lt_of_le_of_lt first.count above, below, rfl⟩

/-- A role that was counted and is there was there before. -/
theorem mem_keys (onward : a.Onward b) {role : String} (counted : a.Counted role)
    (held : role ∈ b.schema.predicators.keys) : role ∈ a.schema.predicators.keys := by
  obtain ⟨n, below, rfl⟩ := counted
  rcases onward.roles _ held with old | ⟨m, above, _, same⟩
  · exact old
  · rw [Edit.numbered_injective "role" same] at below
    exact absurd above (Nat.not_lt.mpr below)

theorem counted (onward : a.Onward b) {role : String} (counted : a.Counted role) :
    b.Counted role := by
  obtain ⟨n, below, rfl⟩ := counted
  exact ⟨n, Nat.le_trans below onward.count, rfl⟩

theorem all_counted (onward : a.Onward b)
    (counted : ∀ role ∈ a.schema.predicators.keys, a.Counted role) :
    ∀ role ∈ b.schema.predicators.keys, b.Counted role := by
  intro role held
  rcases onward.roles role held with old | ⟨n, _, below, rfl⟩
  · exact onward.counted (counted role old)
  · exact ⟨n, below, rfl⟩

end Onward

end Builder

namespace Edit

open Builder

variable {α β : Type} {b : Builder}

/-- The edit yields a result and a builder as `done` says, or leaves a builder as `failed` says. -/
def Ends (e : Edit α) (b : Builder) (done : α → Builder → Prop) (failed : Builder → Prop) : Prop :=
  match e.apply b with
  | (.ok a, after) => done a after
  | (.error _, after) => failed after

/-- Whether the edit succeeds or fails, roles are counted onward. -/
def CountsOn (e : Edit α) : Prop := ∀ b, e.Ends b (fun _ after => b.Onward after) b.Onward

section Steps

variable {done : α → Builder → Prop} {failed : Builder → Prop}

theorem ends_bind {e : Edit α} {f : α → Edit β} {done : β → Builder → Prop}
    (first : e.Ends b (fun a c => (f a).Ends c done failed) failed) :
    (e >>= f).Ends b done failed := by
  unfold Ends at first ⊢
  rw [apply_bind]
  revert first
  rcases e.apply b with ⟨error | a, after⟩
  · exact id
  · exact id

theorem ends_pure {a : α} (holds : done a b) : Ends (pure a) b done failed := holds

theorem ends_throw {error : BuilderError} (holds : failed b) : Ends (throw error) b done failed :=
  holds

theorem Ends.imp {e : Edit α} {more : α → Builder → Prop} {worse : Builder → Prop}
    (ends : e.Ends b done failed) (results : ∀ a c, done a c → more a c)
    (errors : ∀ c, failed c → worse c) : e.Ends b more worse := by
  unfold Ends at ends ⊢
  revert ends
  rcases e.apply b with ⟨error | a, after⟩
  · exact errors after
  · exact results a after

theorem ends_roleWish {wishes : RoleWishes α} {default : α} {position : Nat}
    {done : Reading α → Builder → Prop} (wished : ∀ r, done r b) (none : failed b) :
    (roleWish wishes default position).Ends b done failed := by
  unfold roleWish
  cases wishes position with
  | ok wish => exact ends_pure (wished _)
  | error error => exact ends_throw none

theorem ends_check {r : Reading α} (read : ∀ a, r = .ok a → done a b) (bad : failed b) :
    (check r).Ends b done failed := by
  cases r with
  | ok a => exact ends_pure (read a rfl)
  | bad problems => exact ends_throw bad

/-- A new number of a kind is above the last one, and becomes the last one. -/
theorem ends_newId {kind : String} {done : String → Builder → Prop}
    (made : ∀ n, b.counter.last kind < n →
      done (numbered kind n) { b with counter := b.counter.insert kind n }) :
    (newId kind).Ends b done failed :=
  made _ (search_freeNumber b.schema.ids kind (b.counter.next kind)).le

end Steps

theorem last_insert (c : NameCounter) (kind other : String) (n : Nat) :
    NameCounter.last (c.insert kind n) other = if other = kind then n else c.last other := by
  unfold NameCounter.last
  rw [OrderedMap.find?_insert]
  split <;> rfl

theorem last_le_last_insert {c : NameCounter} {kind : String} {n : Nat} (above : c.last kind ≤ n)
    (other : String) : c.last other ≤ NameCounter.last (c.insert kind n) other := by
  rw [last_insert]
  split
  · subst kind
    exact above
  · exact Nat.le_refl _

theorem roleCount_insert {kind : String} {n : Nat} (above : b.counter.last kind ≤ n) :
    b.roleCount ≤ roleCount { b with counter := b.counter.insert kind n } :=
  last_le_last_insert above "role"

namespace CountsOn

theorem bind {e : Edit α} {f : α → Edit β} (first : e.CountsOn) (next : ∀ a, (f a).CountsOn) :
    (e >>= f).CountsOn := fun b =>
  ends_bind <| (first b).imp
    (fun a c here => (next a c).imp (fun _ _ => here.trans) fun _ => here.trans) fun _ => id

theorem pure (a : α) : CountsOn (Pure.pure a) := fun b => ends_pure (.refl b)

theorem throw (error : BuilderError) : CountsOn (α := α) (throw error) :=
  fun b => ends_throw (.refl b)

theorem current : current.CountsOn := fun b => Onward.refl b

theorem logged (message : String) : (logged message).CountsOn :=
  fun _ => Onward.of_keys (Nat.le_refl _) (List.Subset.refl _)

theorem update_of_subset {g : Schema → Schema}
    (keys : ∀ s, (g s).predicators.keys ⊆ s.predicators.keys) : (update g).CountsOn :=
  fun b => Onward.of_keys (Nat.le_refl _) (keys b.schema)

theorem update {g : Schema → Schema}
    (keys : ∀ s, (g s).predicators.keys = s.predicators.keys) : (update g).CountsOn :=
  update_of_subset fun s _ held => keys s ▸ held

theorem check (r : Reading α) : (check r).CountsOn := by
  cases r with
  | ok a => exact pure a
  | bad problems => exact throw _

theorem argument (given : Except ArgumentError α) : (argument given).CountsOn := by
  cases given with
  | ok a => exact pure a
  | error error => exact throw _

theorem lookUp (find? : String → Option α) (missing : BuilderError) (id : GivenId) :
    (lookUp find? missing id).CountsOn := by
  unfold Edit.lookUp
  cases id with
  | text id =>
    cases held : find? id with
    | some a => simp only [held]; exact pure a
    | none => simp only [held]; exact throw missing
  | other shown => exact throw missing
  | compound type shown => exact throw _

theorem newId (kind : String) : (newId kind).CountsOn := fun _ =>
  ends_newId fun _ above => .of_keys (roleCount_insert (Nat.le_of_lt above)) (List.Subset.refl _)

theorem autoName (label : String) : (autoName label).CountsOn :=
  fun _ => Onward.of_keys (roleCount_insert (Nat.le_succ _)) (List.Subset.refl _)

theorem chooseId (given : Option (Reading String)) (kind : String) :
    (chooseId given kind).CountsOn := by
  cases given with
  | some r => exact pure _
  | none => exact (newId kind).bind fun id => pure _

theorem chooseName (given : Option (Reading String)) (label : String) :
    (chooseName given label).CountsOn := by
  cases given with
  | some r => exact pure _
  | none => exact (autoName label).bind fun name => pure _

theorem requireObject (id : GivenId) : (requireObject id).CountsOn :=
  current.bind fun _ => lookUp _ _ id

theorem requirePredicator (id : GivenId) : (requirePredicator id).CountsOn :=
  current.bind fun _ => lookUp _ _ id

theorem requireFactType (id : GivenId) : (requireFactType id).CountsOn :=
  current.bind fun _ => lookUp _ _ id

theorem requireLabelType (id : GivenId) : (requireLabelType id).CountsOn :=
  current.bind fun _ => lookUp _ _ id

theorem requirePredicators (ids : List GivenId) : (requirePredicators ids).CountsOn := by
  induction ids with
  | nil => exact pure ()
  | cons id rest ih => exact (requirePredicator id).bind fun _ => ih

theorem mapM {f : α → Edit β} (each : ∀ a, (f a).CountsOn) (items : List α) :
    (items.mapM f).CountsOn := by
  induction items with
  | nil =>
    rw [List.mapM_nil]
    exact pure []
  | cons a rest ih =>
    rw [List.mapM_cons]
    exact (each a).bind fun _ => ih.bind fun _ => pure _

theorem roleWish {wishes : RoleWishes α} (default : α) (position : Nat) :
    (roleWish wishes default position).CountsOn := by
  unfold Builder.roleWish
  cases wishes position with
  | ok wish => exact pure _
  | error error => exact throw error

/-! Operations -/

/-- Making a role counts it, and then puts it under its number. -/
theorem addRoles (factType : String) (names : RoleWishes String) (optional : RoleWishes Bool)
    (position : Nat) (objects : List ObjectType) :
    (addRoles factType names optional position objects).CountsOn := by
  induction objects generalizing position with
  | nil => exact pure []
  | cons object rest ih =>
    refine bind (roleWish _ position) fun name b => ?_
    refine ends_bind (ends_newId fun n above => ?_)
    have count : roleCount { b with counter := b.counter.insert "role" n } = n :=
      (last_insert ..).trans (if_pos rfl)
    have grown : b.roleCount ≤ roleCount { b with counter := b.counter.insert "role" n } :=
      roleCount_insert (Nat.le_of_lt above)
    have counted : b.Onward { b with counter := b.counter.insert "role" n } :=
      .of_keys grown (List.Subset.refl _)
    refine ends_bind (ends_roleWish (fun isOptional => ?_) counted)
    refine ends_bind (ends_check (fun r read => ?_) counted)
    have own : r.id = numbered "role" n := by
      obtain ⟨make, _, first, _, rfl⟩ := Reading.seq_eq_ok read
      obtain ⟨_, _, rfl⟩ := Reading.map_eq_ok first
      rfl
    have put : b.Onward { b with
        schema := b.schema.putRole r
        counter := b.counter.insert "role" n } := by
      refine ⟨grown, fun id held => ?_⟩
      rcases OrderedMap.mem_keys_insert.mp held with old | rfl
      · exact .inl old
      · exact .inr ⟨n, above, Nat.le_of_eq count.symm, own⟩
    have later := bind (ih (position + 1)) (fun ids => pure (r.id :: ids))
    exact (later _).imp (fun _ _ => put.trans) fun _ => put.trans

theorem addFactType (objects : List GivenId) (name : Option (Reading String))
    (names : RoleWishes String) (optional : RoleWishes Bool) (id : Option (Reading String)) :
    (addFactType objects name names optional id).CountsOn := by
  refine bind (mapM requireObject objects) fun objects => ?_
  refine bind (chooseId id _) fun id => bind (chooseName name _) fun name => ?_
  refine bind (check _) fun f => bind (addRoles _ names optional 0 objects) fun ids => ?_
  exact bind (update fun _ => rfl) fun _ => bind (logged _) fun _ => pure _

theorem addEntity (name id : Option (Reading String)) : (addEntity name id).CountsOn := by
  refine bind (chooseId id _) fun id => bind (chooseName name _) fun name => ?_
  exact bind (check _) fun e => bind (update fun _ => rfl) fun _ => pure e

theorem addUnique (ids : List GivenId) (name : Option (Reading String)) (primary : Option Bool)
    (id : Option (Reading String)) : (addUnique ids name primary id).CountsOn := by
  unfold Builder.addUnique
  split
  · exact throw _
  refine bind (requirePredicators ids) fun _ => bind (chooseId id _) fun id => ?_
  refine bind (check _) fun c => bind (update fun s => ?_) fun _ => bind current fun _ => pure _
  exact congrArg OrderedMap.keys (Schema.Relinked.attachIdentifier _ c.id primary).predicators

theorem addMandatory (predicator : GivenId) (name : Option (Reading String)) :
    (addMandatory predicator name).CountsOn := by
  refine bind (requirePredicator predicator) fun p => bind (update fun s => ?_) fun _ => ?_
  · exact OrderedMap.keys_modify ..
  · refine bind (newId _) fun id => bind (check _) fun c => ?_
    exact bind (update fun _ => rfl) fun _ => pure c

theorem addCustom (kind : Reading String) (appliesTo : Value) (name : Option (Reading String))
    (description : Reading String) (parameters : Reading (List (String × Value))) :
    (addCustom kind appliesTo name description parameters).CountsOn := by
  refine bind (newId _) fun id => ?_
  cases name with
  | some name =>
    refine bind (pure name) fun _ => bind (argument _) fun _ => bind (check _) fun c => ?_
    exact bind (update fun _ => rfl) fun _ => pure c
  | none =>
    refine bind (argument _) fun _ => bind (pure _) fun _ => bind (argument _) fun _ => ?_
    exact bind (check _) fun c => bind (update fun _ => rfl) fun _ => pure c

theorem removeRoles (roles : List Predicator) : (removeRoles roles).CountsOn := by
  induction roles with
  | nil => exact pure ()
  | cons r rest ih =>
    refine bind current fun s => ?_
    split
    · exact throw _
    · refine bind (update_of_subset fun s id held => ?_) fun _ => ih
      exact (OrderedMap.mem_keys_erase.mp (Schema.keys_dropRole (s := s) r ▸ held)).1

theorem givenIds (v : Except ArgumentError (List Value)) : (givenIds v).CountsOn :=
  bind (argument v) fun _ => pure _

theorem perform (f : Fields) (op : Operation) : (perform f op).CountsOn := by
  cases op with
  | addEntity => exact bind (addEntity _ _) fun _ => pure _
  | addLabelType =>
    refine bind (bind (chooseId _ _) fun id => bind (chooseName _ _) fun name => ?_) fun _ => pure _
    exact bind (check _) fun l => bind (update fun _ => rfl) fun _ => pure l
  | addPowerType =>
    refine bind (bind (requireObject _) fun _ => ?_) fun _ => pure _
    refine bind (chooseId _ _) fun id => bind (chooseName _ _) fun name => ?_
    exact bind (check _) fun p => bind (update fun _ => rfl) fun _ => pure p
  | addSequenceType =>
    refine bind (bind (requireObject _) fun _ => ?_) fun _ => pure _
    refine bind (chooseId _ _) fun id => bind (chooseName _ _) fun name => ?_
    exact bind (check _) fun q => bind (update fun _ => rfl) fun _ => pure q
  | addFactType =>
    exact bind (givenIds _) fun _ => bind (addFactType _ _ _ _ _) fun _ => pure _
  | addUnaryFactType => exact bind (addFactType _ _ _ _ _) fun _ => pure _
  | addBinaryFactType => exact bind (addFactType _ _ _ _ _) fun _ => pure _
  | specialize =>
    refine bind (bind current fun s => bind (lookUp _ _ _) fun e => ?_) fun _ => pure _
    exact bind (lookUp _ _ _) fun _ => bind (update fun _ => rfl) fun _ => pure _
  | objectify =>
    refine bind (bind (requireFactType _) fun _ => bind (addEntity _ _) fun e => ?_) fun _ => pure _
    exact bind (update fun _ => rfl) fun _ => bind (update fun _ => rfl) fun _ => pure _
  | addUnique =>
    by_cases none : (f.get "predicator_ids").isEmpty = true
    · simp only [Builder.perform, none, if_true]
      exact bind (pure []) fun _ => bind (addUnique _ _ _ _) fun _ => pure _
    · simp only [Builder.perform, none]
      exact bind (givenIds _) fun _ => bind (addUnique _ _ _ _) fun _ => pure _
  | addMandatory => exact bind (addMandatory _ _) fun _ => pure _
  | addSetConstraint =>
    refine bind (givenIds _) fun source => bind (givenIds _) fun target => ?_
    refine bind (bind (requirePredicators _) fun _ => bind (newId _) fun id => ?_) fun _ => pure _
    exact bind (check _) fun c => bind (update fun _ => rfl) fun _ => pure c
  | addCardinality =>
    refine bind (bind (requirePredicator _) fun _ => bind (newId _) fun id => ?_) fun _ => pure _
    exact bind (check _) fun c => bind (update fun _ => rfl) fun _ => pure c
  | addFrequency =>
    refine bind (bind (requireFactType _) fun _ => bind (newId _) fun id => ?_) fun _ => pure _
    exact bind (check _) fun c => bind (update fun _ => rfl) fun _ => pure c
  | addEnumeration =>
    refine bind (bind (requireLabelType _) fun _ => bind (newId _) fun id => ?_) fun _ => pure _
    refine bind (argument _) fun values => bind (check _) fun c => ?_
    exact bind (update fun _ => rfl) fun _ => pure c
  | addCustom => exact bind (addCustom _ _ _ _ _) fun _ => pure _
  | removeObject =>
    refine bind (bind (requireObject _) fun _ => bind (update fun _ => rfl) fun _ => ?_)
      fun _ => pure _
    exact bind current fun s => bind (removeRoles _) fun _ => logged _
  | removeFactType =>
    refine bind (bind current fun s => ?_) fun _ => pure _
    split
    · exact throw _
    · exact bind (requireFactType _) fun g =>
        update_of_subset fun s => Schema.predicators_eraseFactType s _ g
  | removeConstraint =>
    refine bind (bind current fun s => bind (lookUp _ _ _) fun category => ?_) fun _ => pure _
    refine bind (update fun s => ?_) fun _ => ?_
    · cases category <;> rfl
    · split
      · exact update fun s => Schema.keys_relaxRole s _
      · exact pure ()
  | build => exact pure _

end CountsOn

end Edit

namespace Builder

variable {b after : Builder}

/-- Roles are counted onward, whether a request succeeds or fails. -/
theorem onward_of_run {name : String} {f : Fields} {outcome : Except BuilderError Value}
    (run : b.run name f = (outcome, after)) : b.Onward after := by
  unfold Builder.run at run
  split at run
  · cases run
    exact .refl b
  · rename_i op _
    split at run
    · cases run
      exact .refl b
    · have onward := Edit.CountsOn.perform f op b
      unfold Edit.Ends at onward
      split at run
      · rename_i error done performed
        rw [performed] at onward
        cases run
        exact ⟨onward.count, onward.roles⟩
      · rename_i w done performed
        rw [performed] at onward
        cases run
        exact ⟨onward.count, onward.roles⟩

end Builder

end FactModel
