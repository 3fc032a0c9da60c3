import FactModel.Proofs.Value.ReadBack

/-!
Saved texts read back. A reader takes the text of a value within its limits for that value, with
its fields in the same order, and refuses the text of any other.
-/

namespace FactModel

namespace Value

variable {digits depth : Nat}

/-- A value that a reader with these limits takes. -/
def Within (limits : Limits) (v : Value) : Prop :=
  v.nesting ≤ limits.depth ∧ v.longest ≤ limits.digits

instance (limits : Limits) (v : Value) : Decidable (v.Within limits) :=
  inferInstanceAs (Decidable (_ ∧ _))

/-- What a reader with these bounds makes of the text of a value. -/
def kept (digits depth : Nat) (v : Value) : Option Value :=
  if v.Within ⟨depth, digits⟩ then some v else none

theorem mapM_guard {α : Type} {p : α → Prop} [DecidablePred p] (items : List α) :
    (items.mapM fun a => if p a then some a else none) =
      if ∀ a ∈ items, p a then some items else none := by
  induction items with
  | nil => rfl
  | cons a rest ih =>
    rw [List.mapM_cons, ih]
    by_cases here : p a
    · by_cases later : ∀ b ∈ rest, p b
      · rw [if_pos here, if_pos later, if_pos (List.forall_mem_cons.mpr ⟨here, later⟩)]
        rfl
      · rw [if_pos here, if_neg later, if_neg fun all => later (List.forall_mem_cons.mp all).2]
        rfl
    · rw [if_neg here, if_neg fun all => here (List.forall_mem_cons.mp all).1]
      rfl

theorem blank_newline (depth : Nat) : Blank (newline depth) := by
  intro c member
  rcases List.mem_cons.mp member with rfl | member
  · rfl
  · rw [List.eq_of_mem_replicate member]
    rfl

theorem block_eq {step : Nat} {left right : Char} {parts : List (List Char)} (filled : parts ≠ []) :
    block step left right parts = left :: (newline (step + 1) ++
      (List.intercalate (',' :: newline (step + 1)) parts ++ (newline step ++ [right]))) := by
  unfold block
  split
  · exact absurd rfl filled
  · simp

theorem kept_arr (items : List Value) :
    (items.mapM (kept digits depth)).map arr = kept digits (depth + 1) (arr items) := by
  unfold kept
  rw [mapM_guard]
  have all : (∀ v ∈ items, v.Within ⟨depth, digits⟩) ↔ (arr items).Within ⟨depth + 1, digits⟩ := by
    unfold Within
    rw [nesting, longest, nestingItems_le_iff, longestItems_le_iff]
    exact forall₂_and
  by_cases within : ∀ v ∈ items, v.Within ⟨depth, digits⟩
  · rw [if_pos within, if_pos (all.mp within)]
    rfl
  · rw [if_neg within, if_neg (mt all.mpr within)]
    rfl

theorem kept_obj (fields : List (String × Value)) :
    (fields.mapM fun field => (kept digits depth field.2).map fun v => (field.1, v)).map obj =
      kept digits (depth + 1) (obj fields) := by
  have each : (fun field : String × Value =>
      (kept digits depth field.2).map fun v => (field.1, v)) = fun field => if field.2.Within ⟨depth, digits⟩ then some field else none := by
    funext field
    unfold kept
    split <;> rfl
  have all : (∀ field ∈ fields, field.2.Within ⟨depth, digits⟩) ↔
      (obj fields).Within ⟨depth + 1, digits⟩ := by
    unfold Within
    rw [nesting, longest, nestingFields_le_iff, longestFields_le_iff]
    exact forall₂_and
  rw [each, mapM_guard]
  unfold kept
  by_cases within : ∀ field ∈ fields, field.2.Within ⟨depth, digits⟩
  · rw [if_pos within, if_pos (all.mp within)]
    rfl
  · rw [if_neg within, if_neg (mt all.mpr within)]
    rfl

theorem kept_of_pos {v : Value} (deep : 0 < v.nesting) : kept digits 0 v = none := by
  unfold kept
  rw [if_neg fun within => Nat.not_le_of_lt deep within.1]

/-- A saved value is read as itself, as far as the reader goes. -/
theorem reads_pretty {v : Value} (finite : v.Finite) (few : 15 < digits) (step depth : Nat) :
    Reads digits depth (v.pretty step) (kept digits depth v) := by
  induction v generalizing step depth with
  | null => simpa [pretty, kept, Within, nesting, longest] using reads_null
  | bool b =>
    have same : (Value.bool b).pretty step = (Value.bool b).dump := by
      cases b <;> simp only [pretty, dump]
    simpa [same, kept, Within, nesting, longest] using reads_bool b
  | int n => simpa [pretty, kept, Within, nesting] using reads_int n
  | float x =>
    have read : Reads digits depth (savedFloat.text x) (some (float x)) :=
      reads_text (finite x .self) (by omega) (Int.ofNat_lt.mpr few)
    simpa [pretty, kept, Within, nesting, longest] using read
  | str s =>
    have read : Reads digits depth ('"' :: (s.toList.flatMap Text.encodeChar ++ ['"']))
        (some (str s)) := reads_quoted readable_encodeChar s
    simpa [pretty, kept, Within, nesting, longest, Text.encode] using read
  | arr items ih =>
    rw [pretty, prettyItems_eq]
    by_cases filled : items = []
    · subst filled
      simpa [block, kept, Within, nesting, nestingItems, longest, longestItems] using
        reads_empty_arr
    · have reads (inner : Nat) : ∀ v ∈ items,
          Reads digits inner (v.pretty (step + 1)) (kept digits inner v) :=
        fun v member => ih v member (finite.item member) (step + 1) inner
      have front := blank_newline (step + 1)
      rw [block_eq (by simpa using filled)]
      cases depth with
      | zero =>
        rw [kept_of_pos (by simpa only [nesting] using nestingItems_pos filled)]
        exact refuses_arr front filled fun v member => (reads 0 v member).starts
      | succ inner =>
        rw [← kept_arr]
        exact reads_arr front front (blank_newline step) filled (reads inner)
  | obj fields ih =>
    rw [pretty, prettyFields_eq]
    by_cases filled : fields = []
    · subst filled
      simpa [block, kept, Within, nesting, nestingFields, longest, longestFields] using
        reads_empty_obj
    · have reads (inner : Nat) : ∀ field ∈ fields,
          Reads digits inner (field.2.pretty (step + 1)) (kept digits inner field.2) :=
        fun field member => ih field member (finite.field member) (step + 1) inner
      have front := blank_newline (step + 1)
      have texts : (fields.map fun field =>
          Text.encode field.1.toList ++ ':' :: ' ' :: field.2.pretty (step + 1)) =
            fields.map fun field =>
              fieldText Text.encodeChar field.1 (field.2.pretty (step + 1)) := by
        simp [Text.encode, fieldText]
      rw [block_eq (by simpa using filled), texts]
      cases depth with
      | zero =>
        rw [kept_of_pos (by simpa only [nesting] using nestingFields_pos filled)]
        exact refuses_obj front filled
      | succ inner =>
        rw [← kept_obj]
        exact reads_obj front front (blank_newline step) filled readable_encodeChar Prod.fst
          (reads inner)

/-- The saved text of a value is read as the value, if it is within the limits, or else refused. -/
theorem parse?_saved {limits : Limits} {v : Value} (few : 15 < limits.digits) (finite : v.Finite) :
    parse? limits v.saved = if v.Within limits then some v else none := by
  have run : read limits.digits (2 * (v.pretty 0).length + 1) limits.depth (v.pretty 0 ++ []) =
      (kept limits.digits limits.depth v).map fun v => (v, []) :=
    (reads_pretty finite few 0 limits.depth).run (Nat.le_succ _) .nil
  rw [List.append_nil] at run
  unfold parse? saved
  rw [String.toList_ofList]
  dsimp only
  rw [run, kept]
  by_cases within : v.Within limits
  · rw [if_pos within]
    rfl
  · rw [if_neg within]
    rfl

theorem pretty_obj_eq (step : Nat) (fields : List (String × Value)) :
    ∃ inner, (obj fields).pretty step = '\x7b' :: (inner ++ ['\x7d']) := by
  rw [pretty]
  by_cases filled : prettyFields (step + 1) fields = []
  · exact ⟨[], by rw [filled, block]; rfl⟩
  · exact ⟨_, by rw [block_eq filled, ← List.append_assoc, ← List.append_assoc]⟩

end Value

end FactModel
