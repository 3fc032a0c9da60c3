import FactModel.Document
import FactModel.Proofs.Document.Graphs
import FactModel.Proofs.Document.Populations
import FactModel.Proofs.Document.Schemas
import FactModel.Proofs.Value.Saved

/-!
Saving and loading. What was saved is loaded as it was, up to the nesting and the length of integers
that a reader of documents takes; what goes beyond is refused.
-/

namespace FactModel

/-- What a reader makes of the text of a record, whatever it is read as. -/
theorem loadDocument_saved {α : Type} {read : Value → Reading α} {fields : List (String × Value)}
    {a : α} (finite : (Value.obj fields).Finite) (reads : read (.obj fields) = .ok a) :
    loadDocument read (some (Value.obj fields).saved) =
      if (Value.obj fields).Within documentLimits then .ok a
      else .error (.invalid [⟨[], .document⟩]) := by
  obtain ⟨inner, text⟩ := Value.pretty_obj_eq 0 fields
  have stripped : Text.strip (Value.obj fields).saved = (Value.obj fields).saved := by
    have front : ∀ c ∈ ('{' :: (inner ++ ['}'])).head?, Text.isBlank c = false := by
      rintro c ⟨⟩
      decide
    have back : ∀ c ∈ ('{' :: (inner ++ ['}'])).getLast?, Text.isBlank c = false := by
      rw [← List.cons_append, List.getLast?_concat]
      rintro c ⟨⟩
      decide
    unfold Text.strip Value.saved
    rw [String.toList_ofList, text, Text.trim_eq_self front back]
  have filled : ¬ (Value.obj fields).saved.isEmpty = true := by
    intro empty
    have nothing : ((Value.obj fields).pretty 0) = [] := by
      simpa [Value.saved] using empty
    rw [text] at nothing
    cases nothing
  have digits : 15 < documentLimits.digits := by decide
  unfold loadDocument
  dsimp only
  rw [stripped, if_neg filled, Reading.ofDocument, Value.parse?_saved digits finite]
  split_ifs
  · simp only [reads]
  · rfl

/-- Loading what was saved gives the same again, and the same text when that is saved. What goes
beyond the limits of the reader is refused as no document. -/
structure Restored {α : Type} (read : Value → Reading α) (write : α → Value) (a : α) : Prop where
  loads : (write a).Within documentLimits → loadDocument read (some (write a).saved) = .ok a
  refuses : ¬ (write a).Within documentLimits →
    loadDocument read (some (write a).saved) = .error (.invalid [⟨[], .document⟩])
  saves : ∀ b, loadDocument read (some (write a).saved) = .ok b → (write b).saved = (write a).saved

theorem restored_of_read {α : Type} {read : Value → Reading α} {write : α → Value} {a : α}
    {fields : List (String × Value)} (record : write a = .obj fields) (finite : (write a).Finite)
    (reads : read (write a) = .ok a) : Restored read write a := by
  have load : loadDocument read (some (write a).saved) =
      if (write a).Within documentLimits then .ok a else .error (.invalid [⟨[], .document⟩]) := by
    rw [record] at finite reads ⊢
    exact loadDocument_saved finite reads
  refine ⟨fun within => load.trans (if_pos within), fun beyond => load.trans (if_neg beyond), ?_⟩
  intro b found
  rw [load] at found
  split_ifs at found
  cases found
  rfl

/-- A schema whose fields hold what they are declared to hold, with free values that are documents
and floats that are finite. -/
structure Schema.Storable (s : Schema) : Prop where
  typed : s.Typed
  apart : s.toValue.KeysApart
  finite : s.toValue.Finite

structure Graph.Storable (g : Graph) : Prop where
  plain : g.Plain
  apart : (g.toValue .camel).KeysApart
  finite : (g.toValue .camel).Finite

structure Population.Storable (p : Population) : Prop where
  distinct : p.Distinct
  apart : p.toValue.KeysApart
  finite : p.toValue.Finite

theorem Population.restored {p : Population} (storable : p.Storable) :
    Restored Population.read Population.toValue p :=
  restored_of_read rfl storable.finite (read_toValue storable.distinct storable.apart)

/-- Whatever is saved is loaded again as it was, up to the limits of the reader. -/
theorem saved_documents_restored {s : Schema} {g : Graph} {p : Population}
    (schema : s.Storable) (graph : g.Storable) (population : p.Storable) :
    Restored Schema.read Schema.toValue s ∧ Restored Graph.read (Graph.toValue .camel) g ∧
      Restored Population.read Population.toValue p :=
  ⟨restored_of_read rfl schema.finite (Schema.read_toValue schema.typed schema.apart),
    restored_of_read rfl graph.finite (Graph.read_toValue graph.plain graph.apart),
    Population.restored population⟩

def shelf : Schema where
  id := "shelf"
  name := "Shelf"
  version := "2.0"
  labelTypes := ⟨[("size", ⟨"size", "Size", .decimal, some [.int 3, .null],
    some (.float (.ofInt 1)), none, none⟩)], by simp⟩
  customConstraints := ⟨[("rule", ⟨"rule", "Rule", "no_empty", "", ["size"],
    [("on", .arr [.obj [("é", .bool true)]])]⟩)], by simp⟩

def drawing : Graph where
  nodes := [⟨"n1", .labelType, "Größe", some "Integer", some (-2), none, none⟩,
    ⟨"n2", .other "cloud", "", none, none, none, none⟩]
  edges := [⟨"e1", .predicator, "n1", "n2", "", some 0⟩]
  constraints := [⟨"c1", "cardinality", none, ["n1"], some ["e1"], none, none, some true,
    some ⟨some 0, some .infinity, some [.obj [("k", .float (.ofInt 1))]], none, none⟩⟩]

def sizes : Population where
  schemaId := some "shelf"
  objects := ⟨[("size", [.int 1, .str "1", .arr [.null]])], by simp⟩
  facts := ⟨[("fits", [⟨[("in", .str "\u0000"), ("out", .obj [])], by simp⟩])], by simp⟩

theorem samples_loaded : loadDocument Schema.read (some shelf.toValue.saved) = .ok shelf ∧
    loadDocument Graph.read (some (drawing.toValue .camel).saved) = .ok drawing ∧
      loadDocument Population.read (some sizes.toValue.saved) = .ok sizes := by
  have schema : shelf.Storable := by
    refine ⟨⟨?_, ?_⟩, by decide, by decide⟩
    · intro l member
      cases List.mem_singleton.mp member
      exact ⟨nofun, nofun, nofun⟩
    · exact fun _ member => nomatch member
  have graph : drawing.Storable := by
    refine ⟨⟨?_, ?_⟩, by decide, by decide⟩
    · simp [drawing, NodeKind.Plain, NodeKind.name, NodeKind.ofName]
    · simp [drawing, EdgeKind.Plain, EdgeKind.name, EdgeKind.ofName]
  have population : sizes.Storable := by
    refine ⟨?_, by decide, by decide⟩
    unfold Population.Distinct
    decide
  obtain ⟨first, second, third⟩ := saved_documents_restored schema graph population
  exact ⟨first.loads (by decide), second.loads (by decide), third.loads (by decide)⟩

/-- Brackets within brackets. -/
def nest : Nat → Value
  | 0 => .null
  | n + 1 => .arr [nest n]

def crate : Population := ⟨none, ⟨[("box", [nest 200])], by simp⟩, ∅⟩

/-- A population that nests too deep is saved, but not loaded. -/
theorem deep_population_refused : crate.Storable ∧
    loadDocument Population.read (some crate.toValue.saved) =
      .error (.invalid [⟨[], .document⟩]) := by
  have storable : crate.Storable := by
    refine ⟨?_, by decide +kernel, by decide +kernel⟩
    intro values member
    cases List.mem_singleton.mp member
    exact List.nodup_singleton _
  exact ⟨storable, (Population.restored storable).refuses (by decide +kernel)⟩

end FactModel
