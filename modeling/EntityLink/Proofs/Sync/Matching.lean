import EntityLink.Sync

/-!
# Which entities a list of identifiers stands for

A lookup without effects of its own finds for a list of identifiers the entities
of those that resolve.  `run_agrees_iff` shows that the one pass of
`Many.agrees` decides `Many.Matches`: the identifiers of the entities remain of
the holder's when some that do not resolve are deleted.  The pass takes an
identifier that comes next at its first occurrence; `Resolves.of_cons` says why
this loses nothing.
-/

namespace EntityLink

variable {Entity Key : Type}

/-- An identifier leads to an entity. -/
def Resolvable (find : Key → Option Entity) (id : Key) : Prop :=
  (find id).isSome

theorem not_resolvable_iff {find : Key → Option Entity} {id : Key} :
    ¬Resolvable find id ↔ find id = none := by
  simp [Resolvable]

/-- An entity that is found carries the identifier that was asked for. -/
def AnswersById (find : Key → Option Entity) (idOf : Entity → Option Key) :
    Prop :=
  ∀ id entity, find id = some entity → idOf entity = some id

namespace Many

namespace Resolves

theorem refl (resolves : Key → Prop) (ids : List Key) :
    Resolves resolves ids ids := by
  induction ids with
  | nil => exact .nil
  | cons id ids induction => exact .keep id induction

/-- An identifier that does not resolve need not be kept. -/
theorem of_cons {resolves : Key → Prop} {id : Key} {kept ids : List Key}
    (unresolved : ¬resolves id)
    (derivation : Resolves resolves (id :: kept) ids) :
    Resolves resolves kept ids := by
  generalize keptEquality : id :: kept = keptWithId at derivation
  induction derivation with
  | nil => cases keptEquality
  | keep _ rest =>
      cases keptEquality
      exact .delete unresolved rest
  | delete otherUnresolved _ induction =>
      exact .delete otherUnresolved (induction keptEquality)

/-- Nothing remains of nothing. -/
theorem eq_nil {resolves : Key → Prop} {kept : List Key}
    (derivation : Resolves resolves kept []) : kept = [] := by
  cases derivation
  rfl

end Resolves

private theorem run_findAll_cons (find : Key → Option Entity) (id : Key)
    (ids : List Key) :
    Id.run (findAll (m := Id) find (id :: ids)) =
      match find id with
      | none => Id.run (findAll (m := Id) find ids)
      | some entity => entity :: Id.run (findAll (m := Id) find ids) :=
  rfl

theorem run_findAll (find : Key → Option Entity) (ids : List Key) :
    Id.run (findAll (m := Id) find ids) = ids.filterMap find := by
  induction ids with
  | nil => rfl
  | cons id ids induction =>
      rw [run_findAll_cons, induction]
      cases found : find id with
      | none => rw [List.filterMap_cons_none found]
      | some entity => rw [List.filterMap_cons_some found]

/-- The identifiers of all entities remain when some that do not resolve are
deleted. -/
def Matches (find : Key → Option Entity) (idOf : Entity → Option Key)
    (entities : List Entity) (ids : List Key) : Prop :=
  ∃ kept, entities.map idOf = kept.map some ∧
    Resolves (Resolvable find) kept ids

/-- The entities that are found match the identifiers that were looked up. -/
theorem matches_filterMap_find {find : Key → Option Entity}
    {idOf : Entity → Option Key} (answers : AnswersById find idOf)
    (ids : List Key) :
    Matches find idOf (ids.filterMap find) ids := by
  induction ids with
  | nil => exact ⟨[], rfl, .nil⟩
  | cons id ids induction =>
      obtain ⟨kept, sameIds, derivation⟩ := induction
      cases found : find id with
      | none =>
          refine ⟨kept, ?_, .delete (not_resolvable_iff.2 found) derivation⟩
          rw [List.filterMap_cons_none found, sameIds]
      | some entity =>
          refine ⟨id :: kept, ?_, .keep id derivation⟩
          rw [List.filterMap_cons_some found, List.map_cons, List.map_cons,
            sameIds, answers id entity found]

theorem map_idOf_eq {idOf : Entity → Option Key} {entities : List Entity}
    (identified : ∀ entity ∈ entities, (idOf entity).isSome) :
    entities.map idOf = (entities.filterMap idOf).map some := by
  induction entities with
  | nil => rfl
  | cons entity entities induction =>
      obtain ⟨id, carried⟩ :=
        Option.isSome_iff_exists.1 (identified entity List.mem_cons_self)
      have laterIdentified : ∀ later ∈ entities, (idOf later).isSome := by
        intro later member
        exact identified later (List.mem_cons_of_mem _ member)
      rw [List.map_cons, List.filterMap_cons_some carried, List.map_cons,
        carried, induction laterIdentified]

/-- Entities that all carry identifiers match the list of these. -/
theorem matches_filterMap_idOf (find : Key → Option Entity)
    {idOf : Entity → Option Key} {entities : List Entity}
    (identified : ∀ entity ∈ entities, (idOf entity).isSome) :
    Matches find idOf entities (entities.filterMap idOf) :=
  ⟨entities.filterMap idOf, map_idOf_eq identified, .refl _ _⟩

namespace Matches

variable {find : Key → Option Entity} {idOf : Entity → Option Key}
  {entities : List Entity} {ids : List Key}

theorem identified (agreement : Matches find idOf entities ids) :
    ∀ entity ∈ entities, (idOf entity).isSome := by
  obtain ⟨kept, sameIds, _⟩ := agreement
  intro entity member
  have carried : idOf entity ∈ kept.map some :=
    sameIds ▸ List.mem_map_of_mem member
  obtain ⟨id, _, equality⟩ := List.mem_map.1 carried
  simp [← equality]

theorem entities_eq_nil (agreement : Matches find idOf entities []) :
    entities = [] := by
  obtain ⟨kept, sameIds, derivation⟩ := agreement
  have keptEmpty : kept = [] := derivation.eq_nil
  subst keptEmpty
  simpa using sameIds

end Matches

private theorem run_agrees_cons [DecidableEq Key] (find : Key → Option Entity)
    (pending : List (Option Key)) (id : Key) (ids : List Key) :
    Id.run (agrees (m := Id) find pending (id :: ids)) =
      if pending.head? = some (some id) then
        Id.run (agrees (m := Id) find pending.tail ids)
      else
        match find id with
        | some _ => false
        | none => Id.run (agrees (m := Id) find pending ids) := by
  rw [agrees]
  split
  · rfl
  · rfl

theorem run_agrees_iff_resolves [DecidableEq Key] (find : Key → Option Entity)
    (pending : List (Option Key)) (ids : List Key) :
    Id.run (agrees (m := Id) find pending ids) = true ↔
      ∃ kept, pending = kept.map some ∧
        Resolves (Resolvable find) kept ids := by
  induction ids generalizing pending with
  | nil =>
      constructor
      · intro agreed
        have pendingEmpty : pending = [] := by simpa [agrees] using agreed
        exact ⟨[], pendingEmpty, .nil⟩
      · rintro ⟨kept, rfl, derivation⟩
        simp [agrees, derivation.eq_nil]
  | cons id ids induction =>
      by_cases next : pending.head? = some (some id)
      · obtain ⟨rest, rfl⟩ : ∃ rest, pending = some id :: rest := by
          cases pending with
          | nil => simp at next
          | cons first rest => exact ⟨rest, by simpa using next⟩
        rw [run_agrees_cons, if_pos next, List.tail_cons, induction rest]
        constructor
        · rintro ⟨kept, rfl, derivation⟩
          exact ⟨id :: kept, rfl, .keep id derivation⟩
        · rintro ⟨kept, restEquality, derivation⟩
          cases kept with
          | nil => simp at restEquality
          | cons first kept =>
              obtain ⟨rfl, rfl⟩ : id = first ∧ rest = kept.map some := by
                simpa using restEquality
              cases derivation with
              | keep _ later => exact ⟨kept, rfl, later⟩
              | delete unresolved later =>
                  exact ⟨kept, rfl, later.of_cons unresolved⟩
      · rw [run_agrees_cons, if_neg next]
        cases found : find id with
        | none =>
            rw [induction pending]
            constructor
            · rintro ⟨kept, rfl, derivation⟩
              exact ⟨kept, rfl, .delete (not_resolvable_iff.2 found) derivation⟩
            · rintro ⟨kept, rfl, derivation⟩
              cases derivation with
              | keep _ later => simp at next
              | delete _ later => exact ⟨kept, rfl, later⟩
        | some entity =>
            constructor
            · intro impossible
              cases impossible
            · rintro ⟨kept, rfl, derivation⟩
              cases derivation with
              | keep _ later => simp at next
              | delete unresolved later =>
                  exact absurd (by simp [Resolvable, found]) unresolved

theorem run_agrees_iff [DecidableEq Key] (find : Key → Option Entity)
    (idOf : Entity → Option Key) (entities : List Entity) (ids : List Key) :
    Id.run (agrees (m := Id) find (entities.map idOf) ids) = true ↔
      Matches find idOf entities ids :=
  run_agrees_iff_resolves find (entities.map idOf) ids

end Many

end EntityLink
