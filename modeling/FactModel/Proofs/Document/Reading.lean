import FactModel.KeyStyle
import FactModel.Proofs.Maps
import FactModel.Proofs.Value.Structure

/-!
Reading back what was written: texts, numbers, lists, maps and fields that may be null. A free value
comes back as it is unless one of its objects holds a key twice.
-/

namespace FactModel

attribute [simp] Fields.required Fields.requiredAs Fields.optional Fields.optionalAs Fields.nullable
  Fields.requiredEither Fields.optionalEither Fields.nullableEither Fields.tag Fields.locate?
  Fields.value? Value.readRecord Value.readWordOf

namespace Reading

variable {α β : Type}

@[simp] theorem map_ok (f : α → β) (a : α) : f <$> ok a = ok (f a) := rfl

@[simp] theorem seq_ok (f : α → β) (a : α) : (ok f <*> ok a : Reading β) = ok (f a) := rfl

@[simp] theorem within_ok (step : PathStep) (a : α) : (ok a).within step = ok a := rfl

theorem all_map {read : β → Reading α} {write : α → β} {items : List α}
    (reads : ∀ a ∈ items, read (write a) = ok a) (n : Nat) :
    all (fun _ v => read v) n (items.map write) = ok items := by
  induction items generalizing n with
  | nil => rfl
  | cons a rest ih =>
    rw [List.map_cons, all, reads a List.mem_cons_self,
      ih fun b member => reads b (List.mem_cons_of_mem a member)]
    rfl

end Reading

namespace Value

variable {α : Type} {read : Value → Reading α} {write : α → Value}

@[simp] theorem readText_str (s : String) : (str s).readText = .ok s := rfl

@[simp] theorem readInt_int (n : Int) : (int n).readInt = .ok n := rfl

@[simp] theorem readBool_bool (b : Bool) : (bool b).readBool = .ok b := rfl

theorem readList_arr {items : List α} (reads : ∀ a ∈ items, read (write a) = .ok a) :
    readList read (arr (items.map write)) = .ok items := Reading.all_map reads 0

@[simp] theorem readTexts_strings (texts : List String) : readTexts (strings texts) = .ok texts :=
  readList_arr fun _ _ => rfl

/-! Free values -/

theorem settledFields_eq {fields before : List (String × Value)}
    (distinct : ((before.reverse ++ fields).map Prod.fst).Nodup) :
    settledFields fields before =
      (fields.map fun field => (field.1, field.2.settled)).reverse ++ before := by
  induction fields generalizing before with
  | nil => rfl
  | cons field rest ih =>
    have fresh : (before.any fun pair => pair.1 == field.1) = false := by
      rw [List.any_eq_false]
      intro pair member same
      have key : pair.1 = field.1 := beq_iff_eq.mp same
      rw [List.map_append, List.nodup_append] at distinct
      have held : pair.1 ∈ before.reverse.map Prod.fst :=
        List.mem_map.mpr ⟨pair, List.mem_reverse.mpr member, rfl⟩
      exact distinct.2.2 pair.1 held field.1 List.mem_cons_self key
    rw [settledFields, if_neg (by simp [fresh]), ih]
    · simp
    · simpa using distinct

/-- A value that holds no key twice is read as it is. -/
theorem settled_eq {v : Value} (apart : v.KeysApart) : v.settled = v := by
  induction v with
  | arr items ih =>
    have same : items.map settled = items.map id :=
      List.map_congr_left fun v member => ih v member (apart.item member)
    rw [settled, settledItems_eq, same, List.map_id]
  | obj fields ih =>
    have same : (fields.map fun field => (field.1, field.2.settled)) = fields.map id :=
      List.map_congr_left fun field member => by rw [ih field member (apart.field member)]; rfl
    have inner : settledFields fields [] =
        (fields.map fun field => (field.1, field.2.settled)).reverse ++ [] :=
      settledFields_eq (apart fields .self)
    rw [settled, inner, same, List.map_id, List.append_nil, List.reverse_reverse]
  | _ => simp only [settled]

theorem readAny_eq {v : Value} (apart : v.KeysApart) : readAny v = .ok v := by
  rw [readAny, settled_eq apart]

theorem readList_readAny {items : List Value} (apart : (arr items).KeysApart) :
    readList readAny (arr items) = .ok items := by
  have read : readList readAny (arr (items.map id)) = .ok items :=
    readList_arr fun v member => readAny_eq (apart.item member)
  rwa [List.map_id] at read

theorem readOpenMap_obj {fields : List (String × Value)} (apart : (obj fields).KeysApart) :
    readOpenMap (obj fields) = .ok fields := by
  have same := settled_eq apart
  rw [settled, obj.injEq] at same
  rw [readOpenMap, same]

/-! Fields that may be null, and maps -/

theorem readNullable_ofOption {o : Option α} (reads : ∀ a ∈ o, read (write a) = .ok a)
    (apart : ∀ a ∈ o, write a ≠ null) : readNullable read (ofOption write o) = .ok o := by
  cases o with
  | none => rfl
  | some a =>
    have value := reads a rfl
    have other := apart a rfl
    rw [ofOption, readNullable]
    · rw [value]
      rfl
    · exact other

@[simp] theorem readNullable_text (text : Option String) :
    readNullable readText (ofOption str text) = .ok text :=
  readNullable_ofOption (fun _ _ => rfl) fun _ _ => nofun

@[simp] theorem readNullable_int (n : Option Int) : readNullable readInt (ofOption int n) = .ok n :=
  readNullable_ofOption (fun _ _ => rfl) fun _ _ => nofun

@[simp] theorem readNullable_bool (b : Option Bool) :
    readNullable readBool (ofOption bool b) = .ok b :=
  readNullable_ofOption (fun _ _ => rfl) fun _ _ => nofun

@[simp] theorem readNullable_texts (texts : Option (List String)) :
    readNullable readTexts (ofOption strings texts) = .ok texts :=
  readNullable_ofOption (fun texts _ => readTexts_strings texts) fun _ _ => nofun

/-- A list of free values that may be null. -/
theorem readNullable_readAny {items : Option (List Value)}
    (apart : (ofOption arr items).KeysApart) :
    readNullable (readList readAny) (ofOption arr items) = .ok items := by
  refine readNullable_ofOption (fun some held => readList_readAny ?_) fun _ _ => nofun
  rwa [Option.mem_def.mp held] at apart

theorem readPairs_map {entries : List (String × α)}
    (reads : ∀ entry ∈ entries, read (write entry.2) = .ok entry.2) :
    readPairs read (entries.map fun entry => (entry.1, write entry.2)) = .ok entries := by
  induction entries with
  | nil => rfl
  | cons entry rest ih =>
    rw [List.map_cons, readPairs, reads entry List.mem_cons_self,
      ih fun other member => reads other (List.mem_cons_of_mem entry member)]
    rfl

theorem readMap_mapValues {m : OrderedMap α} (reads : ∀ a ∈ m.values, read (write a) = .ok a) :
    readMap read (obj (m.mapValues fun _ => write).entries) = .ok m := by
  have pairs : readPairs read (m.entries.map fun entry => (entry.1, write entry.2)) =
      .ok m.entries :=
    readPairs_map fun entry member => reads entry.2 (List.mem_map_of_mem member)
  have whole : OrderedMap.ofList m.entries = m :=
    OrderedMap.ext_entries (OrderedMap.entries_ofList m.nodup)
  unfold readMap OrderedMap.mapValues
  dsimp only
  rw [pairs, Reading.map_ok, whole]

end Value

end FactModel
