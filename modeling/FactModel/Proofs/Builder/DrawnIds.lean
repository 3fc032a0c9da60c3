import FactModel.Proofs.Builder.Arranged
import FactModel.Proofs.Builder.RoleNumbers

/-!
Ids that a builder draws. Whatever ids a schema has, the search for a new one ends, at the id of no
element. The numbers of a kind only grow, so that no id is drawn twice, whatever becomes of the
schema in between.
-/

namespace FactModel

namespace NameCounter

/-- How an id is drawn: number after number of the kind, until the id with the number is free.
Nothing bounds the numbers. -/
inductive Draws (kind : String) (taken : List String) :
    NameCounter → String → NameCounter → Prop
  | free {c : NameCounter} (free : Edit.numbered kind (c.next kind) ∉ taken) :
      Draws kind taken c (Edit.numbered kind (c.next kind)) (c.insert kind (c.next kind))
  | taken {c d : NameCounter} {id : String} (held : Edit.numbered kind (c.next kind) ∈ taken)
      (later : Draws kind taken (c.insert kind (c.next kind)) id d) : Draws kind taken c id d

variable {kind : String} {taken : List String} {c d e : NameCounter}

theorem Draws.unique {id other : String} (draws : Draws kind taken c id d)
    (too : Draws kind taken c other e) : id = other ∧ d = e := by
  induction draws with
  | free free =>
    cases too with
    | free => exact ⟨rfl, rfl⟩
    | taken held => exact absurd held free
  | taken held _ ih =>
    cases too with
    | free free => exact absurd held free
    | taken _ later => exact ih later

theorem draws_of_search {k n : Nat} (search : Search taken (Edit.numbered kind) k n)
    (next : c.next kind = k) :
    Draws kind taken c (Edit.numbered kind n) (c.insert kind n) := by
  -- the counter comes to the numbers of the search one after the other
  induction search generalizing c with
  | here free =>
    subst next
    exact .free free
  | next held _ ih =>
    subst next
    have counted : NameCounter.next (c.insert kind (c.next kind)) kind = c.next kind + 1 := by
      rw [NameCounter.next, Edit.last_insert, if_pos rfl]
    have drawn := ih counted
    rw [OrderedMap.insert_insert] at drawn
    exact .taken held drawn

end NameCounter

namespace Edit

variable {α : Type} {b : Builder} {c d : NameCounter} {ids : List (String × String)}

/-- A new id is the one that a search from the next number on ends at, and nothing changes but the
counter. -/
theorem exists_search_newId (b : Builder) (kind : String) : ∃ n,
    Search b.schema.ids (numbered kind) (b.counter.next kind) n ∧
    (newId kind).apply b = (.ok (numbered kind n), { b with counter := b.counter.insert kind n }) :=
  ⟨_, search_freeNumber b.schema.ids kind (b.counter.next kind), rfl⟩

/-- The new id and the counter after it are those that a draw ends with. -/
theorem newId_iff (b : Builder) (kind id : String) (c : NameCounter) :
    (newId kind).apply b = (.ok id, { b with counter := c }) ↔
      NameCounter.Draws kind b.schema.ids b.counter id c := by
  obtain ⟨n, search, run⟩ := exists_search_newId b kind
  have draws := NameCounter.draws_of_search search rfl
  rw [run]
  constructor
  · intro same
    simp only [Prod.mk.injEq, Except.ok.injEq, Builder.mk.injEq, true_and, and_true] at same
    obtain ⟨rfl, rfl⟩ := same
    exact draws
  · intro other
    obtain ⟨rfl, rfl⟩ := draws.unique other
    rfl

/-- A use of the counter, for an id or for a name, or a change of the schema in between. The
change may be to another schema altogether, as where builders share a counter. -/
inductive Use where
  | id (kind : String)
  | name (label : String)
  | edit (change : Schema → Schema)

/-- Uses the counter time after time, and yields the ids that are drawn, with their kinds. -/
def drawAll : List Use → Edit (List (String × String))
  | [] => return []
  | .id kind :: rest => do
    let id ← newId kind
    let ids ← drawAll rest
    return (kind, id) :: ids
  | .name label :: rest => do
    let _ ← autoName label
    drawAll rest
  | .edit change :: rest => do
    update change
    drawAll rest

/-- Ids with their kinds, no two the same, whose numbers a counter has yet to draw. -/
structure Drawn (c : NameCounter) (ids : List (String × String)) : Prop where
  distinct : ids.Nodup
  above : ∀ pair ∈ ids, ∃ n, c.last pair.1 < n ∧ pair.2 = numbered pair.1 n

namespace Drawn

theorem nil (c : NameCounter) : Drawn c [] := ⟨List.nodup_nil, fun _ none => nomatch none⟩

theorem of_grown (drawn : Drawn d ids) (grown : ∀ kind, c.last kind ≤ d.last kind) :
    Drawn c ids := by
  refine ⟨drawn.distinct, fun pair listed => ?_⟩
  obtain ⟨n, later, same⟩ := drawn.above pair listed
  exact ⟨n, Nat.lt_of_le_of_lt (grown pair.1) later, same⟩

theorem cons {kind : String} {n : Nat} (above : c.last kind < n)
    (drawn : Drawn (c.insert kind n) ids) : Drawn c ((kind, numbered kind n) :: ids) where
  distinct := by
    refine List.nodup_cons.mpr ⟨fun again => ?_, drawn.distinct⟩
    -- a later id of this kind has a number above `n`
    obtain ⟨m, later, same⟩ := drawn.above _ again
    rw [last_insert, if_pos rfl, numbered_injective kind same] at later
    exact Nat.lt_irrefl m later
  above := by
    refine List.forall_mem_cons.mpr ⟨⟨n, above, rfl⟩, ?_⟩
    exact (drawn.of_grown (last_le_last_insert (Nat.le_of_lt above))).above

end Drawn

/-- No use fails, and the ids have numbers that the counter had not drawn before. -/
theorem ends_drawAll (uses : List Use) (b : Builder) :
    (drawAll uses).Ends b (fun ids _ => Drawn b.counter ids) fun _ => False := by
  induction uses generalizing b with
  | nil => exact ends_pure (.nil b.counter)
  | cons use rest ih =>
    cases use with
    | id kind =>
      refine ends_bind (ends_newId fun n above => ends_bind ?_)
      exact (ih _).imp (fun ids _ drawn => ends_pure (drawn.cons above)) fun _ => id
    | name label =>
      have grown := last_le_last_insert (Nat.le_succ (b.counter.last label))
      exact ends_bind ((ih _).imp (fun ids _ drawn => drawn.of_grown grown) fun _ => id)
    | edit change => exact ends_bind (ih _)

theorem Ends.exists_ok {e : Edit α} {done : α → Builder → Prop}
    (ends : e.Ends b done fun _ => False) :
    ∃ a after, e.apply b = (.ok a, after) ∧ done a after := by
  unfold Ends at ends
  split at ends
  · exact ⟨_, _, ‹_›, ends⟩
  · exact ends.elim

end Edit

open Edit

/-- The claim of a name ends at the name itself where it is free, and otherwise at the least number
from 2 on that makes it free. The draw of an id ends at the id of no element, and through any
changes of a schema, a counter gives no id of a kind twice. -/
theorem names_and_ids_fresh :
    (∀ (used : List String) (name : String),
      (∀ claimed, Name.Claims used name name 2 claimed ↔ claimed = Name.claim used name) ∧
      (name ∉ used → Name.claim used name = name) ∧
      (name ∈ used → ∃ k, 2 ≤ k ∧ Name.claim used name = name ++ "_" ++ toString k ∧
        name ++ "_" ++ toString k ∉ used ∧
        ∀ i, 2 ≤ i → i < k → name ++ "_" ++ toString i ∈ used)) ∧
    (∀ (b : Builder) (kind : String),
      (∀ id counter, (newId kind).apply b = (.ok id, { b with counter }) ↔
        NameCounter.Draws kind b.schema.ids b.counter id counter) ∧
      ∃ id counter, (newId kind).apply b = (.ok id, { b with counter }) ∧
        id ∉ b.schema.objects.keys ∧ id ∉ b.schema.factTypes.keys ∧
        id ∉ b.schema.predicators.keys ∧ ∀ category, id ∉ b.schema.constraintIds category) ∧
    ∀ (b : Builder) (uses : List Use), ∃ ids after,
      (drawAll uses).apply b = (.ok ids, after) ∧ ids.Nodup := by
  refine ⟨fun used name => ⟨Name.claims_iff used name, Name.claim_eq_self,
    Name.exists_claim_eq⟩, fun b kind => ⟨newId_iff b kind, ?_⟩, fun b uses => ?_⟩
  · obtain ⟨n, search, run⟩ := exists_search_newId b kind
    have fresh := search.free
    refine ⟨numbered kind n, b.counter.insert kind n, run, ?_⟩
    exact ⟨mt Schema.mem_ids_of_mem_objects fresh, mt Schema.mem_ids_of_mem_factTypes fresh,
      mt Schema.mem_ids_of_mem_predicators fresh, Schema.not_mem_constraintIds fresh⟩
  · obtain ⟨ids, after, run, drawn⟩ := (ends_drawAll uses b).exists_ok
    exact ⟨ids, after, run, drawn.distinct⟩

/-- Ids of entities, drawn while an entity has the id that would come next, and once more when the
entities are gone. -/
def entityUses : List Use := [
  .id "entity",
  .edit fun s => { s with
    entities := s.entities.insert "entity_2" ⟨"entity_2", "Part", [], [], none, false⟩ },
  .id "entity",
  .name "entity",
  .edit fun s => { s with entities := ∅ },
  .id "entity",
  .id "role"]

theorem names_and_ids_fresh_entityUses :
    "id" ∈ ["id", "id_2", "id_4"] ∧ Name.claim ["id", "id_2", "id_4"] "id" = "id_3" ∧
    ∃ after, (drawAll entityUses).apply Builder.assembly =
      (.ok [("entity", "entity_1"), ("entity", "entity_3"), ("entity", "entity_5"),
        ("role", "role_1")], after) ∧
      [("entity", "entity_1"), ("entity", "entity_3"), ("entity", "entity_5"),
        ("role", "role_1")].Nodup := by
  have taken : "id" ∈ ["id", "id_2", "id_4"] := by decide
  obtain ⟨k, two, claimed, free, before⟩ :=
    (names_and_ids_fresh.1 ["id", "id_2", "id_4"] "id").2.2 taken
  have least : k = 3 := by
    by_contra other
    rcases Nat.lt_or_gt_of_ne other with below | above
    · have second : k = 2 := by omega
      exact free (second ▸ by decide)
    · exact absurd (before 3 (by decide) above) (by decide)
  obtain ⟨ids, after, run, distinct⟩ := names_and_ids_fresh.2.2 Builder.assembly entityUses
  have listed : ids = [("entity", "entity_1"), ("entity", "entity_3"), ("entity", "entity_5"),
      ("role", "role_1")] := by
    have drawn := congrArg Prod.fst run
    exact (Except.ok.inj drawn).symm
  subst least listed
  exact ⟨taken, claimed, after, run, distinct⟩

end FactModel
