import EntityLink.Proofs.Sync.Matching

/-!
# What a check does to the sides of a relation

`Single.Reconciles` and `Many.Reconciles` list the ways in which a check can
pass, each with the sides it leaves; `run_validate_ok_iff` says that these are
the ways of `validate`.

Sides are *in step* if a check of them passes and stays silent about them for
good: a set entity has its identifier in the holder, and what the holder holds
beyond that does not resolve.  Both writers put a relation in step, and a check
keeps it there.
-/

namespace EntityLink

variable {Entity Key : Type}

namespace Single

/-- A check of the first sides passes and leaves the second ones. -/
inductive Reconciles (find : Key → Option Entity) (idOf : Entity → Option Key) :
    Single Entity Key → Single Entity Key → Prop where
  | unset : Reconciles find idOf ⟨none, none⟩ ⟨none, none⟩
  | fromHolder (id : Key) :
      Reconciles find idOf ⟨none, some id⟩ ⟨find id, some id⟩
  | fromEntity (entity : Entity) :
      Reconciles find idOf ⟨some entity, none⟩ ⟨some entity, idOf entity⟩
  | agreeing {entity : Entity} {id : Key} (same : idOf entity = some id) :
      Reconciles find idOf ⟨some entity, some id⟩ ⟨some entity, some id⟩

theorem run_validate_ok_iff [DecidableEq Key] {find : Key → Option Entity}
    {idOf : Entity → Option Key} {before after : Single Entity Key} :
    Id.run (validate (m := Id) find idOf before) = .ok after ↔
      Reconciles find idOf before after := by
  constructor
  · intro passed
    obtain ⟨entity, holder⟩ := before
    cases entity with
    | none =>
        cases holder with
        | none =>
            cases passed
            exact .unset
        | some id =>
            cases passed
            exact .fromHolder id
    | some entity =>
        cases holder with
        | none =>
            cases passed
            exact .fromEntity entity
        | some id =>
            by_cases same : idOf entity = some id
            · simp only [validate, if_pos same, Id.run_pure,
                Except.ok.injEq] at passed
              exact passed ▸ .agreeing same
            · simp [validate, if_neg same] at passed
  · intro reconciles
    cases reconciles with
    | unset => rfl
    | fromHolder => rfl
    | fromEntity => rfl
    | agreeing same => simp [validate, same]

theorem Reconciles.of_not_found {find : Key → Option Entity}
    {idOf : Entity → Option Key} {id : Key} (notFound : find id = none) :
    Reconciles find idOf ⟨none, some id⟩ ⟨none, some id⟩ := by
  have reconciles : Reconciles find idOf ⟨none, some id⟩ ⟨find id, some id⟩ :=
    .fromHolder id
  rwa [notFound] at reconciles

theorem Reconciles.of_unidentified {find : Key → Option Entity}
    {idOf : Entity → Option Key} {entity : Entity}
    (unidentified : idOf entity = none) :
    Reconciles find idOf ⟨some entity, none⟩ ⟨some entity, none⟩ := by
  have reconciles :
      Reconciles find idOf ⟨some entity, none⟩ ⟨some entity, idOf entity⟩ :=
    .fromEntity entity
  rwa [unidentified] at reconciles

/-- Sides at which checks come to rest: nothing is left to derive, or nothing
can be derived. -/
inductive Settled (find : Key → Option Entity) (idOf : Entity → Option Key) :
    Single Entity Key → Prop where
  | unset : Settled find idOf ⟨none, none⟩
  | agreeing {entity : Entity} {id : Key} (same : idOf entity = some id) :
      Settled find idOf ⟨some entity, some id⟩
  | unidentified {entity : Entity} (missing : idOf entity = none) :
      Settled find idOf ⟨some entity, none⟩
  | unresolved {id : Key} (notFound : find id = none) :
      Settled find idOf ⟨none, some id⟩

/-- What a check leaves is settled. -/
theorem Reconciles.settled {find : Key → Option Entity}
    {idOf : Entity → Option Key} (answers : AnswersById find idOf)
    {before after : Single Entity Key}
    (reconciles : Reconciles find idOf before after) :
    Settled find idOf after := by
  cases reconciles with
  | unset => exact .unset
  | fromHolder id =>
      cases found : find id with
      | none => exact .unresolved found
      | some entity => exact .agreeing (answers id entity found)
  | fromEntity entity =>
      cases carried : idOf entity with
      | none => exact .unidentified carried
      | some id => exact .agreeing carried
  | agreeing same => exact .agreeing same

/-- A check of settled sides changes nothing. -/
theorem Settled.reconciles {find : Key → Option Entity}
    {idOf : Entity → Option Key} {sides : Single Entity Key}
    (settled : Settled find idOf sides) :
    Reconciles find idOf sides sides := by
  cases settled with
  | unset => exact .unset
  | agreeing same => exact .agreeing same
  | unidentified missing => exact .of_unidentified missing
  | unresolved notFound => exact .of_not_found notFound

/-- A second check of the sides that a check left passes and leaves them as they
are. -/
theorem Reconciles.again {find : Key → Option Entity}
    {idOf : Entity → Option Key} (answers : AnswersById find idOf)
    {before after : Single Entity Key}
    (reconciles : Reconciles find idOf before after) :
    Reconciles find idOf after after :=
  (reconciles.settled answers).reconciles

/-- A set entity has its identifier in the holder; without one the holder leads
to none. -/
structure InStep (find : Key → Option Entity) (idOf : Entity → Option Key)
    (sides : Single Entity Key) : Prop where
  holder_of_entity : ∀ entity, sides.entity = some entity →
    ∃ id, idOf entity = some id ∧ sides.holder = some id
  unresolved_of_unset : sides.entity = none → ∀ id, sides.holder = some id →
    find id = none

theorem inStep_ofEntity (find : Key → Option Entity)
    {idOf : Entity → Option Key} {value : Option Entity}
    (identified : ∀ entity ∈ value, (idOf entity).isSome) :
    InStep find idOf (ofEntity idOf value) := by
  constructor
  · rintro entity rfl
    obtain ⟨id, carried⟩ := Option.isSome_iff_exists.1 (identified entity rfl)
    exact ⟨id, carried, carried⟩
  · rintro rfl id held
    cases held

theorem inStep_ofHolder {find : Key → Option Entity}
    {idOf : Entity → Option Key} (answers : AnswersById find idOf)
    (value : Option Key) :
    InStep find idOf (Id.run (ofHolder (m := Id) find value)) := by
  cases value with
  | none =>
      constructor
      · intro entity set
        cases set
      · intro _ id held
        cases held
  | some id =>
      constructor
      · intro entity found
        exact ⟨id, answers id entity found, rfl⟩
      · intro notFound other held
        cases held
        exact notFound

/-- A check of sides that are in step changes nothing. -/
theorem InStep.reconciles {find : Key → Option Entity}
    {idOf : Entity → Option Key} {sides : Single Entity Key}
    (inStep : InStep find idOf sides) :
    Reconciles find idOf sides sides := by
  obtain ⟨entity, holder⟩ := sides
  cases entity with
  | none =>
      cases holder with
      | none => exact .unset
      | some id =>
          exact .of_not_found (inStep.unresolved_of_unset rfl id rfl)
  | some entity =>
      obtain ⟨id, carried, held⟩ := inStep.holder_of_entity entity rfl
      cases held
      exact .agreeing carried

end Single

namespace Many

/-- A check of the first sides passes and leaves the second ones. -/
inductive Reconciles (find : Key → Option Entity) (idOf : Entity → Option Key) :
    Many Entity Key → Many Entity Key → Prop where
  | empty {sides : Many Entity Key} (noEntities : sides.entities.getD [] = [])
      (noHolders : sides.holders.getD [] = []) :
        Reconciles find idOf sides sides
  | fromHolders {entities : Option (List Entity)} {ids : List Key}
      (noEntities : entities.getD [] = []) (someHolders : ids ≠ []) :
      Reconciles find idOf ⟨entities, some ids⟩
        ⟨some (ids.filterMap find), some ids⟩
  | fromEntities {entities : List Entity} {holders : Option (List Key)}
      (someEntities : entities ≠ []) (noHolders : holders.getD [] = []) :
      Reconciles find idOf ⟨some entities, holders⟩
        ⟨some entities, some (entities.filterMap idOf)⟩
  | agreeing {entities : List Entity} {ids : List Key}
      (someEntities : entities ≠ []) (someHolders : ids ≠ [])
      (agreement : Matches find idOf entities ids) :
      Reconciles find idOf ⟨some entities, some ids⟩ ⟨some entities, some ids⟩

theorem eq_some_of_getD_eq_cons {α : Type} {side : Option (List α)} {first : α}
    {rest : List α} (elements : side.getD [] = first :: rest) :
    side = some (first :: rest) := by
  cases side with
  | none => cases elements
  | some items => exact congrArg some elements

/-- Two sides with elements are left as they are if they agree, and are reported
otherwise. -/
theorem run_validate_of_elements [DecidableEq Key] (find : Key → Option Entity)
    (idOf : Entity → Option Key) {entities : List Entity} {ids : List Key}
    (someEntities : entities ≠ []) (someHolders : ids ≠ []) :
    Id.run (validate (m := Id) find idOf ⟨some entities, some ids⟩) =
      if Id.run (agrees (m := Id) find (entities.map idOf) ids) then
        .ok ⟨some entities, some ids⟩
      else .error (.many (entities.map idOf) ids) := by
  obtain ⟨entity, laterEntities, rfl⟩ := List.exists_cons_of_ne_nil someEntities
  obtain ⟨id, laterIds, rfl⟩ := List.exists_cons_of_ne_nil someHolders
  rfl

theorem run_validate_ok_iff [DecidableEq Key] {find : Key → Option Entity}
    {idOf : Entity → Option Key} {before after : Many Entity Key} :
    Id.run (validate (m := Id) find idOf before) = .ok after ↔
      Reconciles find idOf before after := by
  constructor
  · intro passed
    obtain ⟨entities, holders⟩ := before
    cases entitiesShape : entities.getD [] with
    | nil =>
        cases holdersShape : holders.getD [] with
        | nil =>
            simp only [validate, entitiesShape, holdersShape, Id.run_pure,
              Except.ok.injEq] at passed
            exact passed ▸ .empty entitiesShape holdersShape
        | cons id ids =>
            obtain rfl := eq_some_of_getD_eq_cons holdersShape
            simp only [validate, entitiesShape, holdersShape, Id.run_bind,
              run_findAll, Id.run_pure, Except.ok.injEq] at passed
            exact passed ▸ .fromHolders entitiesShape (List.cons_ne_nil id ids)
    | cons entity entities =>
        obtain rfl := eq_some_of_getD_eq_cons entitiesShape
        cases holdersShape : holders.getD [] with
        | nil =>
            simp only [validate, entitiesShape, holdersShape, Id.run_pure,
              Except.ok.injEq] at passed
            exact passed ▸ .fromEntities (List.cons_ne_nil entity entities)
              holdersShape
        | cons id ids =>
            obtain rfl := eq_some_of_getD_eq_cons holdersShape
            have someEntities := List.cons_ne_nil entity entities
            have someHolders := List.cons_ne_nil id ids
            rw [run_validate_of_elements find idOf someEntities someHolders]
              at passed
            split at passed
            next agreed =>
              cases passed
              exact .agreeing someEntities someHolders
                ((run_agrees_iff find idOf _ _).1 agreed)
            next => cases passed
  · intro reconciles
    cases reconciles with
    | empty noEntities noHolders => simp [validate, noEntities, noHolders]
    | @fromHolders entities ids noEntities someHolders =>
        obtain ⟨id, rest, rfl⟩ := List.exists_cons_of_ne_nil someHolders
        simp [validate, noEntities, run_findAll]
    | @fromEntities entities holders someEntities noHolders =>
        obtain ⟨entity, rest, rfl⟩ := List.exists_cons_of_ne_nil someEntities
        simp [validate, noHolders]
    | @agreeing entities ids someEntities someHolders agreement =>
        rw [run_validate_of_elements find idOf someEntities someHolders,
          if_pos ((run_agrees_iff find idOf _ _).2 agreement)]

/-- What the entities are called is all that the holder names, but for
identifiers that do not resolve.  A side that is unset counts as empty. -/
def InStep (find : Key → Option Entity) (idOf : Entity → Option Key)
    (sides : Many Entity Key) : Prop :=
  Matches find idOf (sides.entities.getD []) (sides.holders.getD [])

theorem inStep_ofEntities (find : Key → Option Entity)
    {idOf : Entity → Option Key} {value : Option (List Entity)}
    (identified : ∀ entities ∈ value, ∀ entity ∈ entities,
      (idOf entity).isSome) :
    InStep find idOf (ofEntities idOf value) := by
  cases value with
  | none => exact ⟨[], rfl, .nil⟩
  | some entities => exact matches_filterMap_idOf find (identified entities rfl)

theorem inStep_ofHolders {find : Key → Option Entity}
    {idOf : Entity → Option Key} (answers : AnswersById find idOf)
    (value : Option (List Key)) :
    InStep find idOf (Id.run (ofHolders (m := Id) find value)) := by
  cases value with
  | none => exact ⟨[], rfl, .nil⟩
  | some ids =>
      simp only [ofHolders, Id.run_bind, run_findAll, Id.run_pure]
      exact matches_filterMap_find answers ids

theorem isSome_initHolders {sides : Many Entity Key} :
    sides.initHolders.holders.isSome := by
  obtain ⟨entities, holders⟩ := sides
  cases holders with
  | none => rfl
  | some ids => rfl

theorem initHolders_of_isSome {sides : Many Entity Key}
    (held : sides.holders.isSome) :
    sides.initHolders = sides := by
  obtain ⟨entities, holders⟩ := sides
  cases holders with
  | none => cases held
  | some ids => rfl

theorem Reconciles.isSome_holders {find : Key → Option Entity}
    {idOf : Entity → Option Key} {before after : Many Entity Key}
    (reconciles : Reconciles find idOf before after)
    (held : before.holders.isSome) :
    after.holders.isSome := by
  cases reconciles with
  | empty => exact held
  | fromHolders => rfl
  | fromEntities => rfl
  | agreeing => rfl

theorem InStep.initHolders {find : Key → Option Entity}
    {idOf : Entity → Option Key} {sides : Many Entity Key}
    (inStep : InStep find idOf sides) :
    InStep find idOf sides.initHolders := by
  obtain ⟨entities, holders⟩ := sides
  cases holders with
  | none => exact inStep
  | some ids => exact inStep

/-- A check of sides that are in step passes and keeps them in step. -/
theorem InStep.reconciles {find : Key → Option Entity}
    {idOf : Entity → Option Key} (answers : AnswersById find idOf)
    {sides : Many Entity Key} (inStep : InStep find idOf sides) :
    ∃ after, Reconciles find idOf sides after ∧ InStep find idOf after := by
  obtain ⟨entities, holders⟩ := sides
  cases holdersShape : holders.getD [] with
  | nil =>
      have agreement : Matches find idOf (entities.getD []) [] := by
        simpa only [InStep, holdersShape] using inStep
      exact ⟨_, .empty agreement.entities_eq_nil holdersShape, inStep⟩
  | cons id ids =>
      obtain rfl := eq_some_of_getD_eq_cons holdersShape
      cases entitiesShape : entities.getD [] with
      | nil =>
          exact ⟨_, .fromHolders entitiesShape (List.cons_ne_nil id ids),
            matches_filterMap_find answers (id :: ids)⟩
      | cons entity rest =>
          obtain rfl := eq_some_of_getD_eq_cons entitiesShape
          exact ⟨_, .agreeing (List.cons_ne_nil entity rest)
            (List.cons_ne_nil id ids) inStep, inStep⟩

theorem Reconciles.matches_of_self {find : Key → Option Entity}
    {idOf : Entity → Option Key} {entities : List Entity} {ids : List Key}
    (someEntities : entities ≠ []) (someHolders : ids ≠ [])
    (reconciles : Reconciles find idOf ⟨some entities, some ids⟩ ⟨some entities,
      some ids⟩) :
    Matches find idOf entities ids := by
  cases reconciles with
  | empty noEntities => exact absurd noEntities someEntities
  | fromHolders noEntities => exact absurd noEntities someEntities
  | fromEntities _ noHolders => exact absurd noHolders someHolders
  | agreeing _ _ agreement => exact agreement

/-- A check would derive a holder that leaves out some of the entities, but not
all of them. -/
structure LosesEntities (idOf : Entity → Option Key) (sides : Many Entity Key) :
    Prop where
  noHolders : sides.holders.getD [] = []
  someUnidentified : ∃ entity ∈ sides.entities.getD [], idOf entity = none
  someIdentified : ∃ entity ∈ sides.entities.getD [], (idOf entity).isSome

theorem losesEntities_initHolders_iff {idOf : Entity → Option Key}
    {sides : Many Entity Key} :
    LosesEntities idOf sides.initHolders ↔ LosesEntities idOf sides := by
  obtain ⟨entities, holders⟩ := sides
  cases holders with
  | some ids => exact Iff.rfl
  | none =>
      constructor
      · rintro ⟨_, someUnidentified, someIdentified⟩
        exact ⟨rfl, someUnidentified, someIdentified⟩
      · rintro ⟨_, someUnidentified, someIdentified⟩
        exact ⟨rfl, someUnidentified, someIdentified⟩

/-- If one entity leaves its identifier in a derived holder, all of them do. -/
theorem isSome_of_not_losesEntities {idOf : Entity → Option Key}
    {entities : List Entity} {holders : Option (List Key)}
    (noHolders : holders.getD [] = [])
    (keepsAll : ¬LosesEntities idOf ⟨some entities, holders⟩)
    (someDerived : entities.filterMap idOf ≠ []) :
    ∀ entity ∈ entities, (idOf entity).isSome := by
  intro entity member
  obtain ⟨id, derived⟩ := List.exists_mem_of_ne_nil _ someDerived
  obtain ⟨identified, identifiedMember, carried⟩ := List.mem_filterMap.1 derived
  cases carries : idOf entity with
  | some _ => rfl
  | none =>
      have identifiedCarries : (idOf identified).isSome := by simp [carried]
      exact absurd ⟨noHolders, ⟨entity, member, carries⟩,
        ⟨identified, identifiedMember, identifiedCarries⟩⟩ keepsAll

/-- A second check of the sides that a check left passes and leaves them as they
are, unless the first one derived a holder from entities only some of which
carry identifiers. -/
theorem Reconciles.again_iff {find : Key → Option Entity}
    {idOf : Entity → Option Key} (answers : AnswersById find idOf)
    {before after : Many Entity Key}
    (reconciles : Reconciles find idOf before after) :
    Reconciles find idOf after after ↔ ¬LosesEntities idOf before := by
  cases reconciles with
  | empty noEntities noHolders =>
      apply iff_of_true (.empty noEntities noHolders)
      rintro ⟨_, ⟨entity, member, _⟩, _⟩
      rw [noEntities] at member
      cases member
  | @fromHolders entities ids noEntities someHolders =>
      apply iff_of_true
      · by_cases noneFound : ids.filterMap find = []
        · have again : Reconciles find idOf ⟨some [], some ids⟩
              ⟨some (ids.filterMap find), some ids⟩ :=
                .fromHolders rfl someHolders
          simpa only [noneFound] using again
        · exact .agreeing noneFound someHolders
            (matches_filterMap_find answers ids)
      · rintro ⟨noHolders, _, _⟩
        exact someHolders noHolders
  | @fromEntities entities holders someEntities noHolders =>
      constructor
      · rintro again ⟨_, ⟨unidentified, unidentifiedMember, missing⟩,
          ⟨identified, identifiedMember, carries⟩⟩
        obtain ⟨id, carried⟩ := Option.isSome_iff_exists.1 carries
        have someDerived : entities.filterMap idOf ≠ [] :=
          List.ne_nil_of_mem
            (List.mem_filterMap.2 ⟨identified, identifiedMember, carried⟩)
        have agreement : Matches find idOf entities (entities.filterMap idOf) :=
          again.matches_of_self someEntities someDerived
        have carriesToo := agreement.identified unidentified unidentifiedMember
        simp [missing] at carriesToo
      · intro keepsAll
        by_cases noneDerived : entities.filterMap idOf = []
        · have again : Reconciles find idOf ⟨some entities, some []⟩
              ⟨some entities, some (entities.filterMap idOf)⟩ :=
                .fromEntities someEntities rfl
          simpa only [noneDerived] using again
        · have identified :=
            isSome_of_not_losesEntities noHolders keepsAll noneDerived
          exact .agreeing someEntities noneDerived
            (matches_filterMap_idOf find identified)
  | agreeing someEntities someHolders agreement =>
      apply iff_of_true (.agreeing someEntities someHolders agreement)
      rintro ⟨noHolders, _, _⟩
      exact someHolders noHolders

end Many

end EntityLink
