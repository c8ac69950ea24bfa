import EntityLink.Proofs.Sync.Agreement

/-!
# The outcomes of a check

A check passes in one of the ways of `Reconciles`, or it fails because both
sides are set and do not agree.  `Disagrees` says when it fails and what it
reports then, so the two relations leave no third outcome.  For a relation to
one entity this settles everything: a check that passes keeps what was set and
comes to rest (`Single.checkInPlace_settles`).
-/

namespace EntityLink

variable {Entity Key : Type} {find : Key → Option Entity}
  {idOf : Entity → Option Key}

section InPlace

variable {σ : Type} {validate : σ → Id (Except (SideIds Key) σ)}
  {before after : σ}

theorem checkInPlace_passes_iff :
    Id.run (checkInPlace validate before) = (none, after) ↔
      Id.run (validate before) = .ok after := by
  rw [run_checkInPlace]
  cases Id.run (validate before) with
  | ok derived => simp
  | error ids => simp

theorem checkInPlace_fails_iff {ids : SideIds Key} :
    Id.run (checkInPlace validate before) = (some ids, after) ↔
      Id.run (validate before) = .error ids ∧ after = before := by
  rw [run_checkInPlace]
  cases Id.run (validate before) with
  | ok derived => simp
  | error reported => simp [eq_comm]

end InPlace

namespace Single

/-- Both sides are set, and the entity does not carry the identifier of the
holder.  A check reports what the entity carries, and what the holder has. -/
inductive Disagrees (idOf : Entity → Option Key) :
    Single Entity Key → SideIds Key → Prop where
  | different {entity : Entity} {id : Key} (differs : idOf entity ≠ some id) :
      Disagrees idOf ⟨some entity, some id⟩ (.single (idOf entity) id)

theorem run_validate_error_iff [DecidableEq Key] (find : Key → Option Entity)
    {sides : Single Entity Key} {ids : SideIds Key} :
    Id.run (validate (m := Id) find idOf sides) = .error ids ↔
      Disagrees idOf sides ids := by
  constructor
  · intro failed
    obtain ⟨entity, holder⟩ := sides
    cases entity with
    | none => cases holder <;> cases failed
    | some entity =>
        cases holder with
        | none => cases failed
        | some id =>
            by_cases same : idOf entity = some id
            · simp [validate, same] at failed
            · simp only [validate, if_neg same, Id.run_pure,
                Except.error.injEq] at failed
              exact failed ▸ .different same
  · rintro ⟨differs⟩
    simp [validate, differs]

namespace Reconciles

variable {before after : Single Entity Key}

theorem keeps_entity (reconciles : Reconciles find idOf before after)
    {entity : Entity} (set : before.entity = some entity) :
    after.entity = some entity := by
  cases reconciles with
  | unset => cases set
  | fromHolder => cases set
  | fromEntity => exact set
  | agreeing => exact set

theorem keeps_holder (reconciles : Reconciles find idOf before after) {id : Key}
    (set : before.holder = some id) : after.holder = some id := by
  cases reconciles with
  | unset => cases set
  | fromHolder => exact set
  | fromEntity => cases set
  | agreeing => exact set

theorem not_disagrees (reconciles : Reconciles find idOf before after)
    {ids : SideIds Key} :
    ¬Disagrees idOf before ids := by
  rintro ⟨differs⟩
  cases reconciles with
  | agreeing same => exact differs same

end Reconciles

end Single

namespace Many

/-- Both sides have elements, and the entities do not match the identifiers.  A
check reports what the entities carry, and what the holder has. -/
inductive Disagrees (find : Key → Option Entity) (idOf : Entity → Option Key) :
    Many Entity Key → SideIds Key → Prop where
  | unmatched {entities : List Entity} {ids : List Key}
      (someEntities : entities ≠ []) (someHolders : ids ≠ [])
      (noMatch : ¬Matches find idOf entities ids) :
      Disagrees find idOf ⟨some entities, some ids⟩
        (.many (entities.map idOf) ids)

theorem run_validate_error_iff [DecidableEq Key] {sides : Many Entity Key}
    {reported : SideIds Key} :
    Id.run (validate (m := Id) find idOf sides) = .error reported ↔
      Disagrees find idOf sides reported := by
  constructor
  · intro failed
    obtain ⟨entities, holders⟩ := sides
    cases entitiesShape : entities.getD [] with
    | nil =>
        cases holdersShape : holders.getD [] <;>
          simp [validate, entitiesShape, holdersShape] at failed
    | cons entity entities =>
        obtain rfl := eq_some_of_getD_eq_cons entitiesShape
        cases holdersShape : holders.getD [] with
        | nil => simp [validate, holdersShape] at failed
        | cons id ids =>
            obtain rfl := eq_some_of_getD_eq_cons holdersShape
            have someEntities := List.cons_ne_nil entity entities
            have someHolders := List.cons_ne_nil id ids
            rw [run_validate_of_elements find idOf someEntities someHolders]
              at failed
            split at failed
            next => cases failed
            next notAgreed =>
              cases failed
              rw [run_agrees_iff] at notAgreed
              exact .unmatched someEntities someHolders notAgreed
  · intro disagrees
    cases disagrees with
    | unmatched someEntities someHolders noMatch =>
        rw [run_validate_of_elements find idOf someEntities someHolders, if_neg]
        rwa [run_agrees_iff]

theorem Reconciles.not_disagrees {before after : Many Entity Key}
    (reconciles : Reconciles find idOf before after) {reported : SideIds Key} :
    ¬Disagrees find idOf before reported := by
  rintro ⟨someEntities, someHolders, noMatch⟩
  cases reconciles with
  | empty noEntities => exact someEntities noEntities
  | fromHolders noEntities => exact someEntities noEntities
  | fromEntities _ noHolders => exact someHolders noHolders
  | agreeing _ _ agreement => exact noMatch agreement

theorem Disagrees.isSome_holders {sides : Many Entity Key}
    {reported : SideIds Key} (disagrees : Disagrees find idOf sides reported) :
    sides.holders.isSome := by
  cases disagrees
  rfl

/-- An empty list of identifiers for an unset one brings about no disagreement
and ends none. -/
theorem disagrees_initHolders_iff {sides : Many Entity Key}
    {ids : SideIds Key} :
    Disagrees find idOf sides.initHolders ids ↔
      Disagrees find idOf sides ids := by
  obtain ⟨entities, holders⟩ := sides
  cases holders with
  | some held => exact Iff.rfl
  | none =>
      constructor
      · intro disagrees
        cases disagrees with
        | unmatched _ someHolders => exact absurd rfl someHolders
      · intro disagrees
        cases disagrees

end Many

/-- A check reports sides that are both set and do not agree, and leaves them.
Of any other sides it keeps what was set, and it leaves settled sides, of which
a second check changes nothing. -/
theorem Single.checkInPlace_settles [DecidableEq Key]
    (answers : AnswersById find idOf) (sides : Single Entity Key) :
    ∃ report after,
      Id.run (checkInPlace (validate (m := Id) find idOf) sides) =
          (report, after) ∧
        (∀ ids, report = some ids ↔ Disagrees idOf sides ids) ∧
        (report ≠ none → after = sides) ∧
        (report = none →
          (∀ entity, sides.entity = some entity → after.entity = some entity) ∧
          (∀ id, sides.holder = some id → after.holder = some id) ∧
          Settled find idOf after ∧
          Id.run (checkInPlace (validate (m := Id) find idOf) after) =
            (none, after)) := by
  cases outcome : Id.run (validate (m := Id) find idOf sides) with
  | error reported =>
      refine ⟨some reported, sides, checkInPlace_fails_iff.2 ⟨outcome, rfl⟩, ?_,
        fun _ => rfl, nofun⟩
      intro ids
      rw [← run_validate_error_iff find, outcome, Option.some.injEq,
        Except.error.injEq]
  | ok after =>
      have reconciles := run_validate_ok_iff.1 outcome
      refine ⟨none, after, checkInPlace_passes_iff.2 outcome, ?_, nofun,
        fun _ => ?_⟩
      · intro ids
        rw [← run_validate_error_iff find, outcome]
        exact iff_of_false nofun nofun
      · refine ⟨fun _ => reconciles.keeps_entity,
          fun _ => reconciles.keeps_holder, reconciles.settled answers, ?_⟩
        exact checkInPlace_passes_iff.2
          (run_validate_ok_iff.2 (reconciles.again answers))

/-- A member of a club, with a number or without one. -/
structure Member where
  number : Option Nat
  deriving DecidableEq

/-- Only numbers below ten have been given out. -/
def Member.lookup (number : Nat) : Option Member :=
  if number < 10 then some ⟨some number⟩ else none

theorem Member.answersById : AnswersById Member.lookup Member.number := by
  intro number member found
  simp only [Member.lookup] at found
  split at found
  · cases found
    rfl
  · cases found

/-- A number that was not given out stays beside an unset member. -/
theorem Single.checkInPlace_settles_notFound :
    AnswersById Member.lookup Member.number ∧
      Settled Member.lookup Member.number ⟨none, some 12⟩ ∧
      Id.run (checkInPlace (validate (m := Id) Member.lookup Member.number)
          ⟨none, some 12⟩) =
        (none, ⟨none, some 12⟩) := by
  obtain ⟨report, after, outcome, _, _, passes⟩ :=
    checkInPlace_settles Member.answersById ⟨none, some 12⟩
  obtain ⟨rfl, rfl⟩ : none = report ∧ ⟨none, some 12⟩ = after :=
    Prod.mk.inj outcome
  obtain ⟨_, _, settled, again⟩ := passes rfl
  exact ⟨Member.answersById, settled, again⟩

end EntityLink
