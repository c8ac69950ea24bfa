import Mathlib.Data.List.Forall2

/-!
# Traversals and searches of lists

A traversal of a list that ends without a failure has a result for each item, in
the same order.  A search by the key of an item ends with an item of that key,
though perhaps another one.
-/

namespace EntityLink

variable {ε α β : Type}

theorem except_bind_ok_iff {first : Except ε α} {next : α → Except ε β}
    {result : β} :
    first >>= next = .ok result ↔
      ∃ value, first = .ok value ∧ next value = .ok result := by
  constructor
  · intro succeeded
    cases first with
    | error failure => cases succeeded
    | ok value => exact ⟨value, rfl, succeeded⟩
  · rintro ⟨value, rfl, succeeded⟩
    exact succeeded

/-- A computation that gives a result is that result. -/
theorem eq_ok_of_isSome [Inhabited α] {outcome : Except ε α}
    (succeeded : outcome.toOption.isSome = true) :
    outcome = .ok (outcome.toOption.getD default) := by
  cases outcome with
  | error failure => cases succeeded
  | ok value => rfl

theorem mapM_ok_iff_forall₂ {step : α → Except ε β} {items : List α}
    {results : List β} :
    items.mapM step = .ok results ↔
      List.Forall₂ (fun item result => step item = .ok result) items
        results := by
  induction items generalizing results with
  | nil =>
      rw [List.mapM_nil, List.forall₂_nil_left_iff]
      constructor
      · intro succeeded
        cases succeeded
        rfl
      · rintro rfl
        rfl
  | cons item items induction =>
      rw [List.mapM_cons, except_bind_ok_iff, List.forall₂_cons_left_iff]
      constructor
      · rintro ⟨first, firstSucceeded, later⟩
        obtain ⟨rest, restSucceeded, equality⟩ := except_bind_ok_iff.1 later
        cases equality
        exact ⟨first, rest, firstSucceeded, induction.1 restSucceeded, rfl⟩
      · rintro ⟨first, rest, firstSucceeded, restSucceeded, rfl⟩
        exact ⟨first, firstSucceeded,
          except_bind_ok_iff.2 ⟨rest, induction.2 restSucceeded, rfl⟩⟩

/-- Where every item of a list has a related result, the list has related
results. -/
theorem exists_forall₂ {relation : α → β → Prop} {items : List α}
    (related : ∀ item ∈ items, ∃ result, relation item result) :
    ∃ results, List.Forall₂ relation items results := by
  induction items with
  | nil => exact ⟨[], .nil⟩
  | cons item items induction =>
      obtain ⟨first, firstRelated⟩ := related item List.mem_cons_self
      obtain ⟨rest, restRelated⟩ :=
        induction fun later member =>
          related later (List.mem_cons_of_mem _ member)
      exact ⟨first :: rest, .cons firstRelated restRelated⟩

theorem exists_mapM_ok {step : α → Except ε β} {items : List α}
    (succeeds : ∀ item ∈ items, ∃ result, step item = .ok result) :
    ∃ results, items.mapM step = .ok results := by
  obtain ⟨results, related⟩ := exists_forall₂ succeeds
  exact ⟨results, mapM_ok_iff_forall₂.2 related⟩

/-- Relations that agree on the items of a list relate the same results to
them. -/
theorem forall₂_congr_of_mem {relation other : α → β → Prop} {items : List α}
    {results : List β}
    (same : ∀ item ∈ items, ∀ result, relation item result ↔
      other item result) :
    List.Forall₂ relation items results ↔ List.Forall₂ other items results := by
  induction items generalizing results with
  | nil => rw [List.forall₂_nil_left_iff, List.forall₂_nil_left_iff]
  | cons item items induction =>
      have later : ∀ results,
          List.Forall₂ relation items results ↔
            List.Forall₂ other items results :=
        fun _ => induction fun later member =>
          same later (List.mem_cons_of_mem _ member)
      simp only [List.forall₂_cons_left_iff,
        same item List.mem_cons_self, later]

theorem exists_item_of_mem_results {relation : α → β → Prop} {items : List α}
    {results : List β} (related : List.Forall₂ relation items results)
    {result : β} (member : result ∈ results) :
    ∃ item ∈ items, relation item result := by
  induction related with
  | nil => cases member
  | cons head _ induction =>
      rcases List.mem_cons.1 member with same | later
      · exact ⟨_, List.mem_cons_self, same ▸ head⟩
      · obtain ⟨item, itemMember, holds⟩ := induction later
        exact ⟨item, List.mem_cons_of_mem _ itemMember, holds⟩

/-- Pairs made of some items, each named after its item, are named in the order
of the items. -/
theorem fst_sublist_of_filterMap {γ : Type} {name : α → γ}
    {entry : α → Option (γ × β)}
    (named : ∀ item pair, entry item = some pair → pair.1 = name item)
    (items : List α) :
    ((items.filterMap entry).map Prod.fst).Sublist (items.map name) := by
  induction items with
  | nil => exact .slnil
  | cons item items induction =>
      rw [List.map_cons]
      cases made : entry item with
      | none =>
          rw [List.filterMap_cons_none made]
          exact induction.cons _
      | some pair =>
          rw [List.filterMap_cons_some made, List.map_cons,
            named item pair made]
          exact induction.cons_cons _

/-- What every related pair has in common, the lists have in common in order. -/
theorem map_eq_map_of_forall₂ {γ : Type} {relation : α → β → Prop}
    {left : α → γ} {right : β → γ}
    (same : ∀ item result, relation item result → right result = left item)
    {items : List α} {results : List β}
    (related : List.Forall₂ relation items results) :
    results.map right = items.map left := by
  induction related with
  | nil => rfl
  | cons head _ induction =>
      rw [List.map_cons, List.map_cons, same _ _ head, induction]

theorem exists_find?_key {κ : Type} [DecidableEq κ] (key : α → κ)
    {items : List α} {item : α} (member : item ∈ items) :
    ∃ other ∈ items, key other = key item ∧
      (items.find? fun candidate => key candidate == key item) =
        some other := by
  cases first : items.find? fun candidate => key candidate == key item with
  | none =>
      have unfound := List.find?_eq_none.1 first item member
      simp at unfound
  | some other =>
      have sameKey := List.find?_some first
      exact ⟨other, List.mem_of_find?_eq_some first,
        by simpa using sameKey, rfl⟩

end EntityLink
