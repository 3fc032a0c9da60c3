import Mathlib.Data.List.Forall2
import Mathlib.Data.List.Nodup

/-!
Lists without their repetitions, items that a projection tells apart, lists that are related
item by item, and runs over lists that may fail.
-/

namespace FactModel

variable {α : Type} [BEq α] [LawfulBEq α]

theorem nodup_eraseDups (items : List α) : items.eraseDups.Nodup := by
  induction length : items.length using Nat.strongRecOn generalizing items with
  | _ size ih =>
    cases items with
    | nil => exact List.nodup_nil
    | cons a rest =>
      have shorter : (rest.filter fun b => !b == a).length < size := by
        have bound := List.length_filter_le (fun b => !b == a) rest
        rw [← length, List.length_cons]
        omega
      rw [List.eraseDups_cons, List.nodup_cons]
      refine ⟨?_, ih _ shorter _ rfl⟩
      simp [List.mem_eraseDups]

theorem eraseDups_eq_self {items : List α} (distinct : items.Nodup) : items.eraseDups = items := by
  induction items with
  | nil => rfl
  | cons a rest ih =>
    rw [List.nodup_cons] at distinct
    have kept : (rest.filter fun b => !b == a) = rest := by
      refine List.filter_eq_self.mpr fun b member => ?_
      have apart : b ≠ a := fun same => distinct.1 (same ▸ member)
      simp [apart]
    rw [List.eraseDups_cons, kept, ih distinct.2]

theorem eraseDups_append_of_nodup {front rest : List α} (distinct : front.Nodup) :
    (front ++ rest).eraseDups = front ++ (rest.removeAll front).eraseDups := by
  rw [List.eraseDups_append, eraseDups_eq_self distinct]

theorem eraseDups_filter (p : α → Bool) (items : List α) :
    (items.filter p).eraseDups = items.eraseDups.filter p := by
  induction length : items.length using Nat.strongRecOn generalizing items with
  | _ size ih =>
    cases items with
    | nil => rfl
    | cons a rest =>
      have shorter : (rest.filter fun b => !b == a).length < size := by
        have bound := List.length_filter_le (fun b => !b == a) rest
        rw [← length, List.length_cons]
        omega
      have later := ih _ shorter _ rfl
      rw [List.filter_filter, List.filter_congr fun b _ => Bool.and_comm _ _,
        ← List.filter_filter] at later
      rw [List.eraseDups_cons]
      by_cases kept : p a = true
      · rw [List.filter_cons_of_pos kept, List.filter_cons_of_pos kept, List.eraseDups_cons, later]
      · have others : ((rest.filter p).filter fun b => !b == a) = rest.filter p := by
          refine List.filter_eq_self.mpr fun b member => ?_
          have apart : b ≠ a := fun same => kept (same ▸ (List.mem_filter.mp member).2)
          simp [apart]
        rw [List.filter_cons_of_neg kept, List.filter_cons_of_neg kept, ← later, others]

/-- Where different items lead to different values, repetitions can be dropped before or after. -/
theorem eraseDups_flatMap {κ : Type} [BEq κ] [LawfulBEq κ] {f : κ → List α}
    (distinct : ∀ a, (f a).Nodup) (apart : ∀ a b, a ≠ b → (f a).Disjoint (f b))
    (items : List κ) : (items.flatMap f).eraseDups = items.eraseDups.flatMap f := by
  induction length : items.length using Nat.strongRecOn generalizing items with
  | _ size ih =>
    cases items with
    | nil => rfl
    | cons a rest =>
      have shorter : (rest.filter fun b => !b == a).length < size := by
        have bound := List.length_filter_le (fun b => !b == a) rest
        rw [← length, List.length_cons]
        omega
      have others :
          (rest.flatMap f).removeAll (f a) = (rest.filter fun b => !b == a).flatMap f := by
        clear shorter length
        induction rest with
        | nil => rfl
        | cons b rest step =>
          rw [List.flatMap_cons, List.removeAll, List.filter_append, ← List.removeAll,
            ← List.removeAll, step]
          by_cases same : b = a
          · subst same
            have none : (f b).removeAll (f b) = [] := by
              simp [List.removeAll]
            rw [none, List.nil_append, List.filter_cons_of_neg (by simp)]
          · have all : (f b).removeAll (f a) = f b := by
              refine List.filter_eq_self.mpr fun value member => ?_
              have outside : value ∉ f a := fun inside => apart b a same member inside
              simpa using outside
            rw [all, List.filter_cons_of_pos (by simpa using same), List.flatMap_cons]
      rw [List.flatMap_cons, eraseDups_append_of_nodup (distinct a), others, ih _ shorter _ rfl,
        List.eraseDups_cons, List.flatMap_cons]

theorem eraseDups_concat (items : List α) (a : α) : (items ++ [a]).eraseDups =
    if items.eraseDups.contains a then items.eraseDups else items.eraseDups ++ [a] := by
  rw [List.eraseDups_append]
  by_cases listed : a ∈ items
  · rw [if_pos (by simpa [List.mem_eraseDups] using listed)]
    simp [List.removeAll, listed]
  · rw [if_neg (by simpa [List.mem_eraseDups] using listed)]
    simp [List.removeAll, listed, List.eraseDups_cons]

/-- Appending what is not there yet, unless it is dropped, lists the values once each. -/
theorem foldl_append_new {ι : Type} (drop : ι → Bool) (f : ι → α) (items : List ι)
    (front : List α) :
    items.foldl (fun listed item =>
      if drop item || listed.contains (f item) then listed else listed ++ [f item])
      front.eraseDups =
      (front ++ (items.filter fun item => !drop item).map f).eraseDups := by
  induction items generalizing front with
  | nil => simp
  | cons item rest ih =>
    rw [List.foldl_cons]
    cases dropped : drop item with
    | true =>
      rw [List.filter_cons_of_neg (by simp [dropped])]
      exact ih front
    | false =>
      rw [List.filter_cons_of_pos (by simp [dropped]), Bool.false_or, ← eraseDups_concat, ih,
        List.append_assoc]
      rfl

/-- Repetitions of one item at the end change nothing but whether it is there. -/
theorem sublist_eraseDups_append {front fewer more : List α} {c : α} (within : fewer.Sublist more)
    (all : ∀ a ∈ more, a = c) : (front ++ fewer).eraseDups.Sublist (front ++ more).eraseDups := by
  rw [List.eraseDups_append, List.eraseDups_append]
  refine (List.Sublist.refl _).append ?_
  have kept : (fewer.removeAll front).Sublist (more.removeAll front) := within.filter _
  have only : ∀ a ∈ (fewer.removeAll front).eraseDups, a = c := fun a listed =>
    all a (List.mem_of_mem_filter (kept.subset (List.mem_eraseDups.mp listed)))
  have distinct := nodup_eraseDups (fewer.removeAll front)
  match found : (fewer.removeAll front).eraseDups with
  | [] => exact List.nil_sublist _
  | [a] =>
    have listed : a ∈ (fewer.removeAll front).eraseDups := by simp [found]
    exact List.singleton_sublist.mpr
      (List.mem_eraseDups.mpr (kept.subset (List.mem_eraseDups.mp listed)))
  | a :: b :: rest =>
    rw [found] at only distinct
    have first := only a List.mem_cons_self
    have second := only b (List.mem_cons_of_mem _ List.mem_cons_self)
    simp [first, second] at distinct

theorem find?_of_nodup_map {ι : Type} {f : ι → α} {items : List ι} (distinct : (items.map f).Nodup)
    {item : ι} (member : item ∈ items) : items.find? (fun other => f other == f item) = some item := by
  induction items with
  | nil => cases member
  | cons first rest ih =>
    rw [List.map_cons, List.nodup_cons] at distinct
    rcases List.mem_cons.mp member with rfl | member
    · simp
    · have apart : f first ≠ f item := fun same =>
        distinct.1 (same ▸ List.mem_map_of_mem member)
      rw [List.find?_cons_of_neg (by simpa using apart), ih distinct.2 member]

theorem filter_of_nodup_map {ι : Type} {f : ι → α} {items : List ι}
    (distinct : (items.map f).Nodup) {item : ι} (member : item ∈ items) :
    items.filter (fun other => f other == f item) = [item] := by
  induction items with
  | nil => cases member
  | cons first rest ih =>
    rw [List.map_cons, List.nodup_cons] at distinct
    rcases List.mem_cons.mp member with rfl | member
    · have others : rest.filter (fun other => f other == f item) = [] := by
        refine List.filter_eq_nil_iff.mpr fun other inside => ?_
        have apart : f other ≠ f item := fun same =>
          distinct.1 (same ▸ List.mem_map_of_mem inside)
        simpa using apart
      rw [List.filter_cons_of_pos (by simp), others]
    · have apart : f first ≠ f item := fun same =>
        distinct.1 (same ▸ List.mem_map_of_mem member)
      rw [List.filter_cons_of_neg (by simpa using apart), ih distinct.2 member]

/-- In a sorted list what cannot come later comes first. -/
theorem pair_sublist_of_pairwise {ι : Type} {R : ι → ι → Prop} {items : List ι}
    (sorted : items.Pairwise R) {a b : ι} (first : a ∈ items) (second : b ∈ items)
    (backward : ¬ R b a) (apart : a ≠ b) : [a, b].Sublist items := by
  induction sorted with
  | nil => cases first
  | cons leads _ ih =>
    rcases List.mem_cons.mp first with rfl | inside
    · rcases List.mem_cons.mp second with rfl | later
      · exact absurd rfl apart
      · exact (List.singleton_sublist.mpr later).cons_cons a
    · rcases List.mem_cons.mp second with rfl | later
      · exact absurd (leads a inside) backward
      · exact (ih inside later).cons _

theorem exists_of_forall₂ {ι κ : Type} {R : ι → κ → Prop} {items : List ι} {others : List κ}
    (related : List.Forall₂ R items others) {other : κ} (member : other ∈ others) :
    ∃ item ∈ items, R item other := by
  induction related with
  | nil => cases member
  | cons here _ ih =>
    rcases List.mem_cons.mp member with rfl | member
    · exact ⟨_, List.mem_cons_self, here⟩
    · obtain ⟨item, listed, there⟩ := ih member
      exact ⟨item, List.mem_cons_of_mem _ listed, there⟩

theorem map_eq_map_of_forall₂ {ι κ ν : Type} {f : ι → ν} {g : κ → ν} {items : List ι}
    {others : List κ} (related : List.Forall₂ (fun item other => f item = g other) items others) :
    items.map f = others.map g := by
  rw [← List.forall₂_eq_eq_eq, List.forall₂_map_left_iff, List.forall₂_map_right_iff]
  exact related

theorem foldlM_eq_some {σ ι : Type} {step : σ → ι → σ} {step? : σ → ι → Option σ}
    (Inv : σ → Prop) {items : List ι}
    (runs : ∀ s, Inv s → ∀ i ∈ items, step? s i = some (step s i) ∧ Inv (step s i))
    {s : σ} (start : Inv s) : items.foldlM step? s = some (items.foldl step s) := by
  induction items generalizing s with
  | nil => rfl
  | cons i rest ih =>
    obtain ⟨here, next⟩ := runs s start i List.mem_cons_self
    rw [List.foldlM_cons, here, List.foldl_cons]
    exact ih (fun s inv j later => runs s inv j (List.mem_cons_of_mem _ later)) next

theorem mapM_eq_some {ι κ : Type} {f : ι → κ} {f? : ι → Option κ} {items : List ι}
    (runs : ∀ i ∈ items, f? i = some (f i)) : items.mapM f? = some (items.map f) := by
  induction items with
  | nil => rfl
  | cons i rest ih =>
    have later := ih fun j listed => runs j (List.mem_cons_of_mem _ listed)
    rw [List.mapM_cons, runs i List.mem_cons_self, later]
    rfl

theorem findSomeM?_eq_some {ι κ : Type} {f : ι → Option κ} {f? : ι → Option (Option κ)}
    {items : List ι} (runs : ∀ i ∈ items, f? i = some (f i)) :
    items.findSomeM? f? = some (items.findSome? f) := by
  induction items with
  | nil => rfl
  | cons i rest ih =>
    have later := ih fun j listed => runs j (List.mem_cons_of_mem _ listed)
    rw [List.findSomeM?, runs i List.mem_cons_self, List.findSome?_cons]
    cases f i with
    | none => exact later
    | some value => rfl

theorem findSome?_congr {ι κ : Type} {f g : ι → Option κ} {items : List ι}
    (agree : ∀ i ∈ items, f i = g i) : items.findSome? f = items.findSome? g := by
  induction items with
  | nil => rfl
  | cons i rest ih =>
    rw [List.findSome?_cons, List.findSome?_cons, agree i List.mem_cons_self,
      ih fun j listed => agree j (List.mem_cons_of_mem _ listed)]

theorem exists_mapM_eq_ok {ι κ ε : Type} {f : ι → Except ε κ} {items : List ι}
    (runs : ∀ i ∈ items, ∃ result, f i = .ok result) : ∃ results, items.mapM f = .ok results := by
  induction items with
  | nil => exact ⟨[], rfl⟩
  | cons i rest ih =>
    obtain ⟨result, here⟩ := runs i List.mem_cons_self
    obtain ⟨results, later⟩ := ih fun j listed => runs j (List.mem_cons_of_mem _ listed)
    exact ⟨result :: results, by rw [List.mapM_cons, here, later]; rfl⟩

theorem exists_of_mem_mapM {ι κ ε : Type} {f : ι → Except ε κ} {items : List ι}
    {results : List κ} (run : items.mapM f = .ok results) {result : κ} (member : result ∈ results) :
    ∃ i ∈ items, f i = .ok result := by
  induction items generalizing results with
  | nil =>
    cases run
    cases member
  | cons i rest ih =>
    rw [List.mapM_cons] at run
    cases first : f i with
    | error e =>
      rw [first] at run
      cases run
    | ok value =>
      cases later : rest.mapM f with
      | error e =>
        rw [first, later] at run
        cases run
      | ok values =>
        rw [first, later] at run
        cases run
        rcases List.mem_cons.mp member with rfl | member
        · exact ⟨i, List.mem_cons_self, first⟩
        · obtain ⟨other, listed, found⟩ := ih later member
          exact ⟨other, List.mem_cons_of_mem _ listed, found⟩

/-- Of items with keys of their own only one contributes, if those with other keys do not. -/
theorem flatMap_of_nodup_map {ι κ ν : Type} {f : ι → ν} {items : List ι}
    (distinct : (items.map f).Nodup) {item : ι} (member : item ∈ items) {g : ι → List κ}
    (others : ∀ other ∈ items, f other ≠ f item → g other = []) : items.flatMap g = g item := by
  induction items with
  | nil => cases member
  | cons first rest ih =>
    rw [List.map_cons, List.nodup_cons] at distinct
    obtain ⟨here, later⟩ := List.forall_mem_cons.mp others
    rw [List.flatMap_cons]
    rcases List.mem_cons.mp member with rfl | member
    · have none : rest.flatMap g = [] := by
        refine List.flatMap_eq_nil_iff.mpr fun other inside => later other inside fun same => ?_
        exact distinct.1 (same ▸ List.mem_map_of_mem inside)
      rw [none, List.append_nil]
    · have apart : f first ≠ f item := fun same => distinct.1 (same ▸ List.mem_map_of_mem member)
      rw [here apart, List.nil_append]
      exact ih distinct.2 member later

/-- Two rows that a mark divides are equal if they are divided alike, or if the front of one goes on
behind the mark as the back of the other does. -/
theorem append_cons_eq_iff {ι : Type} {mark : ι} {first second rest later : List ι} :
    first ++ mark :: rest = second ++ mark :: later ↔
      (first = second ∧ rest = later) ∨
      (∃ middle, second = first ++ mark :: middle ∧ rest = middle ++ mark :: later) ∨
      ∃ middle, first = second ++ mark :: middle ∧ later = middle ++ mark :: rest := by
  constructor
  · intro same
    rcases List.append_eq_append_iff.mp same with ⟨gap, front, back⟩ | ⟨gap, front, back⟩
    · cases gap with
      | nil => exact .inl ⟨by simpa using front.symm, (List.cons.inj back).2⟩
      | cons c middle =>
        obtain ⟨rfl, tail⟩ := List.cons.inj back
        exact .inr (.inl ⟨middle, front, tail⟩)
    · cases gap with
      | nil => exact .inl ⟨by simpa using front, (List.cons.inj back).2.symm⟩
      | cons c middle =>
        obtain ⟨rfl, tail⟩ := List.cons.inj back
        exact .inr (.inr ⟨middle, front, tail⟩)
  · rintro (⟨rfl, rfl⟩ | ⟨middle, rfl, rfl⟩ | ⟨middle, rfl, rfl⟩)
    · rfl
    · simp
    · simp

end FactModel
