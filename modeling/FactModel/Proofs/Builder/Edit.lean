import FactModel.Builder.Request
import FactModel.Proofs.Builder.FreshIds

/-!
What an edit makes of a schema. A statement about an edit starts from a schema and says what
holds of the result and the schema afterwards, and what holds of the error and the schema where
the edit fails. The counter and the log of the builder are left open.
-/

namespace FactModel

namespace Edit

variable {α β : Type}

/-- From the schema the edit yields a result and a schema as `done` says, or it fails with an
error and leaves a schema as `failed` says. -/
def Yields (e : Edit α) (s : Schema) (done : α → Schema → Prop)
    (failed : BuilderError → Schema → Prop) : Prop :=
  ∀ b : Builder, b.schema = s →
    match e.apply b with
    | (.ok a, after) => done a after.schema
    | (.error error, after) => failed error after.schema

namespace Yields

variable {e : Edit α} {s : Schema} {done : α → Schema → Prop}
  {failed : BuilderError → Schema → Prop}

theorem of_ok (yields : e.Yields s done failed) {b after : Builder} (start : b.schema = s)
    {a : α} (run : e.apply b = (.ok a, after)) : done a after.schema := by
  have outcome := yields b start
  rw [run] at outcome
  exact outcome

theorem of_error (yields : e.Yields s done failed) {b after : Builder}
    (start : b.schema = s) {error : BuilderError} (run : e.apply b = (.error error, after)) :
    failed error after.schema := by
  have outcome := yields b start
  rw [run] at outcome
  exact outcome

theorem imp {more : α → Schema → Prop} {worse : BuilderError → Schema → Prop}
    (yields : e.Yields s done failed) (results : ∀ a t, done a t → more a t)
    (errors : ∀ error t, failed error t → worse error t) : e.Yields s more worse := by
  intro b start
  have outcome := yields b start
  revert outcome
  rcases e.apply b with ⟨error | a, after⟩
  · exact errors error after.schema
  · exact results a after.schema

end Yields

theorem apply_bind (e : Edit α) (f : α → Edit β) (b : Builder) :
    (e >>= f).apply b =
      match e.apply b with
      | (.ok a, after) => (f a).apply after
      | (.error error, after) => (.error error, after) := by
  simp only [apply, ExceptT.run_bind, StateT.run_bind]
  rcases e.run.run b with ⟨error | a, after⟩ <;> rfl

/-! One rule for each step that edits are made of -/

section Steps

variable {s : Schema} {done : α → Schema → Prop} {failed : BuilderError → Schema → Prop}

theorem yields_bind {e : Edit α} {f : α → Edit β} {done : β → Schema → Prop}
    (first : e.Yields s (fun a t => (f a).Yields t done failed) failed) :
    (e >>= f).Yields s done failed := by
  intro b start
  have outcome := first b start
  rw [apply_bind]
  revert outcome
  rcases e.apply b with ⟨error | a, after⟩
  · exact id
  · exact fun next => next after rfl

theorem yields_pure {a : α} (holds : done a s) : Yields (pure a) s done failed := by
  rintro b rfl
  exact holds

theorem yields_throw {error : BuilderError} (holds : failed error s) :
    Yields (throw error) s done failed := by
  rintro b rfl
  exact holds

theorem yields_current {done : Schema → Schema → Prop} (holds : done s s) :
    current.Yields s done failed := by
  rintro b rfl
  exact holds

theorem yields_update {g : Schema → Schema} {done : Unit → Schema → Prop}
    (holds : done () (g s)) : (update g).Yields s done failed := by
  rintro b rfl
  exact holds

theorem yields_logged {message : String} {done : Unit → Schema → Prop} (holds : done () s) :
    (logged message).Yields s done failed := by
  rintro b rfl
  exact holds

theorem yields_check {r : Reading α} (read : ∀ a, r = .ok a → done a s)
    (bad : ∀ problems, r = .bad problems → failed (.invalid problems) s) :
    (check r).Yields s done failed := by
  cases r with
  | ok a => exact yields_pure (read a rfl)
  | bad problems => exact yields_throw (bad problems rfl)

theorem yields_argument {given : Except ArgumentError α} (read : ∀ a, given = .ok a → done a s)
    (bad : ∀ error, given = .error error → failed (.argument error) s) :
    (argument given).Yields s done failed := by
  cases given with
  | ok a => exact yields_pure (read a rfl)
  | error error => exact yields_throw (bad error rfl)

/-- A new id is a number of its kind, and the id of no element of any kind. -/
theorem yields_newId {kind : String} {done : String → Schema → Prop}
    (fresh : ∀ n, numbered kind n ∉ s.ids → done (numbered kind n) s) :
    (newId kind).Yields s done failed := by
  rintro b rfl
  exact fresh _ (search_freeNumber b.schema.ids kind (b.counter.next kind)).free

/-- The id of a new element is given, or it is the id of no element. -/
def Picked (given : Option (Reading String)) (s : Schema) (id : String) : Prop :=
  given = some (.ok id) ∨ id ∉ s.ids

theorem Picked.of_none {given : Option (Reading String)} {id : String}
    (picked : Picked none s id) : Picked given s id := by
  rcases picked with given | fresh
  · cases given
  · exact .inr fresh

/-- The id of a new element is given, or it is a number of its kind. -/
def GivenOrNumbered (given : Option (Reading String)) (kind id : String) : Prop :=
  given = some (.ok id) ∨ ∃ n, id = numbered kind n

theorem yields_chooseId {given : Option (Reading String)} {kind : String}
    {done : Reading String → Schema → Prop}
    (chosen : ∀ r, (∀ id, r = .ok id → Picked given s id ∧ GivenOrNumbered given kind id) →
      done r s) : (chooseId given kind).Yields s done failed := by
  cases given with
  | some r =>
    refine yields_pure (chosen _ fun id read => ?_)
    cases r with
    | ok a =>
      cases read
      exact ⟨.inl rfl, .inl rfl⟩
    | bad problems => cases read
  | none =>
    refine yields_bind (yields_newId fun n fresh => yields_pure (chosen _ ?_))
    rintro _ ⟨rfl⟩
    exact ⟨.inr fresh, .inr ⟨n, rfl⟩⟩

theorem yields_chooseName {given : Option (Reading String)} {label : String}
    {done : Reading String → Schema → Prop} (chosen : ∀ r, done r s) :
    (chooseName given label).Yields s done failed := by
  cases given with
  | some r => exact yields_pure (chosen _)
  | none =>
    rintro b rfl
    exact chosen _

/-- A text that is looked up is not found only where nothing is held under it. -/
theorem yields_lookUpText {find? : String → Option α} {missing : BuilderError} {given : GivenId}
    (found : ∀ a, find? given.shown = some a → done a s)
    (absent : ∀ error, (∀ id, given = .text id → find? id = none) → failed error s) :
    (lookUp find? missing given).Yields s done failed := by
  unfold lookUp
  cases given with
  | text id =>
    cases held : find? id with
    | some a =>
      simp only [held]
      exact yields_pure (found a held)
    | none =>
      simp only [held]
      refine yields_throw (absent _ ?_)
      rintro _ ⟨rfl⟩
      exact held
  | other shown => exact yields_throw (absent _ nofun)
  | compound type shown => exact yields_throw (absent _ nofun)

theorem yields_lookUp {find? : String → Option α} {missing : BuilderError} {given : GivenId}
    (found : ∀ a, find? given.shown = some a → done a s) (absent : ∀ error, failed error s) :
    (lookUp find? missing given).Yields s done failed :=
  yields_lookUpText found fun error _ => absent error

theorem yields_requireObject {given : GivenId} {done : ObjectType → Schema → Prop}
    (found : ∀ o, s.object? given.shown = some o → done o s) (absent : ∀ error, failed error s) :
    (requireObject given).Yields s done failed :=
  yields_bind (yields_current (yields_lookUp found absent))

theorem yields_requirePredicator {given : GivenId} {done : Predicator → Schema → Prop}
    (found : ∀ p, s.predicators.find? given.shown = some p → done p s)
    (absent : ∀ error, failed error s) : (requirePredicator given).Yields s done failed :=
  yields_bind (yields_current (yields_lookUp found absent))

theorem yields_requirePredicators {given : List GivenId} {done : Unit → Schema → Prop}
    (found : (∀ id ∈ given, ∃ p, s.predicators.find? id.shown = some p) → done () s)
    (absent : ∀ error, failed error s) : (requirePredicators given).Yields s done failed := by
  induction given with
  | nil => exact yields_pure (found fun _ none => nomatch none)
  | cons id rest ih =>
    refine yields_bind (yields_requirePredicator (fun p here => ih fun others => ?_) absent)
    exact found (List.forall_mem_cons.mpr ⟨⟨p, here⟩, others⟩)

theorem yields_requireFactType {given : GivenId} {done : FactType → Schema → Prop}
    (found : ∀ f, s.factTypes.find? given.shown = some f → done f s)
    (absent : ∀ error, failed error s) : (requireFactType given).Yields s done failed :=
  yields_bind (yields_current (yields_lookUp found absent))

theorem yields_requireLabelType {given : GivenId} {done : LabelType → Schema → Prop}
    (found : ∀ l, s.labelTypes.find? given.shown = some l → done l s)
    (absent : ∀ error, failed error s) : (requireLabelType given).Yields s done failed :=
  yields_bind (yields_current (yields_lookUp found absent))

end Steps

end Edit

end FactModel
