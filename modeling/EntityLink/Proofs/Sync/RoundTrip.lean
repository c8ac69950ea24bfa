import EntityLink.Proofs.Sync.Outcome

/-!
# Writing one side after the other

Each writer replaces both sides of a relation, so what they were before plays no
part.  From the side of the holder to the entities and back, the identifiers
that do not resolve get lost and all others stay, in order
(`filterMap_idOf_filterMap_find`).  From entities to the holder and back,
entities get lost unless the lookup recovers them under their own identifiers.
In between, a check has nothing to do.
-/

namespace EntityLink

variable {Entity Key : Type} {find : Key → Option Entity}
  {idOf : Entity → Option Key}

/-- An entity carries an identifier under which it is found. -/
def Recoverable (find : Key → Option Entity) (idOf : Entity → Option Key)
    (entity : Entity) : Prop :=
  ∃ id, idOf entity = some id ∧ find id = some entity

namespace Single

theorem run_ofHolder (find : Key → Option Entity) (value : Option Key) :
    Id.run (ofHolder (m := Id) find value) = ⟨value.bind find, value⟩ := by
  cases value with
  | none => rfl
  | some id => rfl

/-- A check of the sides after an identifier was stored changes nothing. -/
theorem reconciles_ofHolder (answers : AnswersById find idOf)
    (value : Option Key) :
    Reconciles find idOf ⟨value.bind find, value⟩ ⟨value.bind find, value⟩ := by
  have inStep := inStep_ofHolder answers value
  rw [run_ofHolder] at inStep
  exact inStep.reconciles

theorem bind_idOf_bind_find (answers : AnswersById find idOf)
    (value : Option Key) :
    (value.bind find).bind idOf = value.filter fun id => (find id).isSome := by
  cases value with
  | none => rfl
  | some id =>
      rw [Option.bind_some, Option.filter_some]
      cases found : find id with
      | none => rfl
      | some entity => exact answers id entity found

theorem bind_find_of_recoverable {entity : Entity}
    (recoverable : Recoverable find idOf entity) :
    (idOf entity).bind find = some entity := by
  obtain ⟨id, carried, found⟩ := recoverable
  rw [carried, Option.bind_some, found]

end Single

namespace Many

theorem run_ofHolders (find : Key → Option Entity) (value : Option (List Key)) :
    Id.run (ofHolders (m := Id) find value) =
      ⟨value.map (List.filterMap find), value⟩ := by
  cases value with
  | none => rfl
  | some ids =>
      rw [ofHolders, Id.run_bind, run_findAll]
      rfl

/-- A check of the sides after identifiers were stored changes nothing.  If none
of them resolves, it looks them up again. -/
theorem reconciles_ofHolders (answers : AnswersById find idOf)
    (value : Option (List Key)) :
    Reconciles find idOf ⟨value.map (List.filterMap find), value⟩
      ⟨value.map (List.filterMap find), value⟩ := by
  cases value with
  | none => exact .empty rfl rfl
  | some ids =>
      by_cases noHolders : ids = []
      · subst noHolders
        exact .empty rfl rfl
      · by_cases noneFound : ids.filterMap find = []
        · exact .fromHolders noneFound noHolders
        · exact .agreeing noneFound noHolders
            (matches_filterMap_find answers ids)

theorem filterMap_idOf_filterMap_find (answers : AnswersById find idOf)
    (ids : List Key) :
    (ids.filterMap find).filterMap idOf = ids.filter fun id =>
      (find id).isSome := by
  induction ids with
  | nil => rfl
  | cons id ids induction =>
      cases found : find id with
      | none =>
          rw [List.filterMap_cons_none found, induction,
            List.filter_cons_of_neg]
          simp [found]
      | some entity =>
          rw [List.filterMap_cons_some found,
            List.filterMap_cons_some (answers id entity found), induction,
            List.filter_cons_of_pos]
          simp [found]

theorem filterMap_find_of_recoverable {entities : List Entity}
    (recoverable : ∀ entity ∈ entities, Recoverable find idOf entity) :
    (entities.filterMap idOf).filterMap find = entities := by
  induction entities with
  | nil => rfl
  | cons entity entities induction =>
      obtain ⟨id, carried, found⟩ := recoverable entity List.mem_cons_self
      have later : ∀ other ∈ entities, Recoverable find idOf other := by
        intro other member
        exact recoverable other (List.mem_cons_of_mem _ member)
      rw [List.filterMap_cons_some carried, List.filterMap_cons_some found,
        induction later]

end Many

/-- After identifiers are stored, the entities are those that they lead to, a
check passes and changes nothing, and storing these entities leaves the
identifiers that resolve.  After entities are stored that are all found under
their own identifiers, storing the identifiers restores them. -/
theorem written_sides_restored [DecidableEq Key]
    (answers : AnswersById find idOf) :
    (∀ value : Option (List Key),
      let found := value.map (List.filterMap find)
      Id.run (Many.ofHolders (m := Id) find value) = ⟨found, value⟩ ∧
        Id.run
          (checkInPlace (Many.validate (m := Id) find idOf) ⟨found, value⟩) =
            (none, ⟨found, value⟩) ∧
        Many.ofEntities idOf found =
          ⟨found, value.map (List.filter fun id => (find id).isSome)⟩) ∧
    (∀ value : Option Key,
      let found := value.bind find
      Id.run (Single.ofHolder (m := Id) find value) = ⟨found, value⟩ ∧
        Id.run
          (checkInPlace (Single.validate (m := Id) find idOf) ⟨found, value⟩) =
            (none, ⟨found, value⟩) ∧
        Single.ofEntity idOf found =
          ⟨found, value.filter fun id => (find id).isSome⟩) ∧
    (∀ entities : List Entity,
      (∀ entity ∈ entities, Recoverable find idOf entity) →
      (Id.run (Many.ofHolders (m := Id) find
        (Many.ofEntities idOf (some entities)).holders)).entities =
          some entities) ∧
    (∀ entity : Entity, Recoverable find idOf entity →
      (Id.run (Single.ofHolder (m := Id) find
        (Single.ofEntity idOf (some entity)).holder)).entity =
          some entity) := by
  refine ⟨fun value => ⟨Many.run_ofHolders find value, ?_, ?_⟩,
    fun value => ⟨Single.run_ofHolder find value, ?_, ?_⟩,
    fun entities recoverable => ?_, fun entity recoverable => ?_⟩
  · rw [checkInPlace_passes_iff, Many.run_validate_ok_iff]
    exact Many.reconciles_ofHolders answers value
  · rw [Many.ofEntities, Option.map_map]
    congr 1
    apply Option.map_congr
    intro ids _
    exact Many.filterMap_idOf_filterMap_find answers ids
  · rw [checkInPlace_passes_iff, Single.run_validate_ok_iff]
    exact Single.reconciles_ofHolder answers value
  · rw [Single.ofEntity, Single.bind_idOf_bind_find answers]
  · rw [Many.run_ofHolders]
    exact congrArg some (Many.filterMap_find_of_recoverable recoverable)
  · rw [Single.run_ofHolder]
    exact Single.bind_find_of_recoverable recoverable

/-- A number that was not given out gets lost on the way back; one that comes
twice does not. -/
theorem written_sides_restored_members :
    AnswersById Member.lookup Member.number ∧
      Id.run (checkInPlace (Many.validate (m := Id) Member.lookup Member.number)
          ⟨some [⟨some 3⟩, ⟨some 3⟩], some [3, 12, 3]⟩) =
        (none, ⟨some [⟨some 3⟩, ⟨some 3⟩], some [3, 12, 3]⟩) ∧
      (Many.ofEntities Member.number (some [⟨some 3⟩, ⟨some 3⟩])).holders =
        some [3, 3] ∧
      (∀ member ∈ [Member.mk (some 3), ⟨some 3⟩],
        Recoverable Member.lookup Member.number member) ∧
      (Id.run (Many.ofHolders (m := Id) Member.lookup (some [3, 3]))).entities =
        some [⟨some 3⟩, ⟨some 3⟩] := by
  obtain ⟨fromHolders, _, restores, _⟩ :=
    written_sides_restored Member.answersById
  obtain ⟨_, checked, back⟩ := fromHolders (some [3, 12, 3])
  have recoverable : ∀ member ∈ [Member.mk (some 3), ⟨some 3⟩],
      Recoverable Member.lookup Member.number member := by
    intro member listed
    obtain rfl : member = ⟨some 3⟩ := by simpa using listed
    exact ⟨3, rfl, rfl⟩
  exact ⟨Member.answersById, checked, congrArg Many.holders back, recoverable,
    restores _ recoverable⟩

end EntityLink
