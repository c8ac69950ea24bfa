import EntityLink.Proofs.Sync.Reconciliation

/-!
# Checking two sides that both have elements

A check of entities beside identifiers derives nothing; it only passes or fails.
`checkInPlace_of_elements` says when it passes, in terms of the two lists alone:
the one pass of `agrees` never refuses sides that some choice of deletions would
bring together.
-/

namespace EntityLink

variable {Entity Key : Type}

/-- A check in place reports what a validation finds, and keeps the old sides
then. -/
theorem run_checkInPlace {σ : Type} {validate : σ → Id (Except (SideIds Key) σ)}
    {sides : σ} :
    Id.run (checkInPlace validate sides) =
      match Id.run (validate sides) with
      | .ok derived => (none, derived)
      | .error ids => (some ids, sides) := by
  rw [checkInPlace, Id.run_bind]
  cases Id.run (validate sides) with
  | ok derived => rfl
  | error ids => rfl

namespace Many

/-- Entities match identifiers if all of them carry one and these remain after
deletions. -/
theorem matches_iff {find : Key → Option Entity} {idOf : Entity → Option Key}
    {entities : List Entity} {ids : List Key} :
    Matches find idOf entities ids ↔
      (∀ entity ∈ entities, (idOf entity).isSome) ∧
        Resolves (Resolvable find) (entities.filterMap idOf) ids := by
  constructor
  · intro agreement
    have identified := agreement.identified
    obtain ⟨kept, sameIds, derivation⟩ := agreement
    rw [map_idOf_eq identified] at sameIds
    have carried : entities.filterMap idOf = kept :=
      List.map_inj_right (fun _ _ => Option.some.inj) |>.1 sameIds
    exact ⟨identified, carried ▸ derivation⟩
  · rintro ⟨identified, derivation⟩
    exact ⟨entities.filterMap idOf, map_idOf_eq identified, derivation⟩

/-- Of two sides with elements a check reports nothing exactly when every entity
carries an identifier and the identifiers of the entities remain of the holder's
after some that do not resolve are deleted.  Otherwise it reports the
identifiers of both sides.  The sides stay as they are in any case. -/
theorem checkInPlace_of_elements [DecidableEq Key] (find : Key → Option Entity)
    (idOf : Entity → Option Key) {entities : List Entity} {ids : List Key}
    (someEntities : entities ≠ []) (someHolders : ids ≠ []) :
    ∃ report,
      Id.run
        (checkInPlace (validate (m := Id) find idOf)
          ⟨some entities, some ids⟩) = (report, ⟨some entities, some ids⟩) ∧
        (report = none ↔
          (∀ entity ∈ entities, (idOf entity).isSome) ∧
            Resolves (Resolvable find) (entities.filterMap idOf) ids) ∧
        (report ≠ none → report = some (.many (entities.map idOf) ids)) := by
  rw [run_checkInPlace,
    run_validate_of_elements find idOf someEntities someHolders, ← matches_iff,
    ← run_agrees_iff]
  by_cases agreed :
    Id.run (agrees (m := Id) find (entities.map idOf) ids) = true
  · rw [if_pos agreed]
    exact ⟨none, rfl, iff_of_true rfl agreed, fun reported =>
      absurd rfl reported⟩
  · rw [if_neg agreed]
    exact ⟨_, rfl, iff_of_false nofun agreed, fun _ => rfl⟩

/-- Entities of which each is its own identifier, if it has one, and is found
below ten. -/
private def findSmall (id : Nat) : Option (Option Nat) :=
  if id < 10 then some (some id) else none

/-- An identifier that leads nowhere is kept once and deleted once, beside one
that comes twice. -/
theorem checkInPlace_of_elements_repeated :
    [some 12, some 5, some 5] ≠ [] ∧ [12, 12, 5, 17, 5] ≠ [] ∧
      Id.run (checkInPlace (validate (m := Id) findSmall id)
          ⟨some [some 12, some 5, some 5], some [12, 12, 5, 17, 5]⟩) =
        (none, ⟨some [some 12, some 5, some 5], some [12, 12, 5, 17, 5]⟩) := by
  have someEntities : [some 12, some 5, some 5] ≠ [] := by decide
  have someHolders : [12, 12, 5, 17, 5] ≠ [] := by decide
  obtain ⟨report, outcome, passes, _⟩ :=
    checkInPlace_of_elements findSmall id someEntities someHolders
  have unresolved (id : Nat) (large : findSmall id = none) :
      ¬Resolvable findSmall id :=
    not_resolvable_iff.2 large
  have derivation :
      Resolves (Resolvable findSmall) [12, 5, 5] [12, 12, 5, 17, 5] :=
    .keep 12 (.delete (unresolved 12 rfl)
      (.keep 5 (.delete (unresolved 17 rfl) (.keep 5 .nil))))
  obtain rfl := passes.2 ⟨by decide, derivation⟩
  exact ⟨someEntities, someHolders, outcome⟩

end Many

end EntityLink
