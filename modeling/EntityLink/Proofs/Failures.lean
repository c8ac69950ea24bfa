import EntityLink.Proofs.Traversal

/-!
# Failures of computations

`FailsOnly` says of what kind every failure of a computation is.  It passes from
steps to sequences and traversals, so it is shown of a long computation step by
step.
-/

namespace EntityLink

variable {ε α β : Type}

/-- The failure of a computation, if it fails. -/
def failure? : Except ε α → Option ε
  | .ok _ => none
  | .error failure => some failure

@[simp]
theorem failure?_ok (value : α) :
    failure? (.ok value : Except ε α) = none := rfl

@[simp]
theorem failure?_error (failure : ε) :
    failure? (.error failure : Except ε α) = some failure := rfl

theorem failure?_eq_some_iff {outcome : Except ε α} {failure : ε} :
    failure? outcome = some failure ↔ outcome = .error failure := by
  cases outcome <;> simp

/-- Every failure of a computation is of the given kind. -/
def FailsOnly (kind : ε → Prop) (outcome : Except ε α) : Prop :=
  ∀ failure, outcome = .error failure → kind failure

namespace FailsOnly

variable {kind : ε → Prop}

theorem ok (value : α) : FailsOnly kind (.ok value) := by
  intro failure failed
  cases failed

theorem error {failure : ε} (holds : kind failure) :
    FailsOnly kind (.error failure : Except ε α) := by
  intro other failed
  cases failed
  exact holds

theorem bind {first : Except ε α} {next : α → Except ε β}
    (firstFails : FailsOnly kind first)
    (nextFails : ∀ value, first = .ok value → FailsOnly kind (next value)) :
    FailsOnly kind (first >>= next) := by
  cases first with
  | error failure => exact .error (firstFails failure rfl)
  | ok value => exact nextFails value rfl

theorem mapM {step : α → Except ε β} {items : List α}
    (fails : ∀ item ∈ items, FailsOnly kind (step item)) :
    FailsOnly kind (items.mapM step) := by
  induction items with
  | nil => exact .ok []
  | cons item items induction =>
      rw [List.mapM_cons]
      refine .bind (fails item List.mem_cons_self) fun _ _ => ?_
      refine .bind (induction fun later member =>
        fails later (List.mem_cons_of_mem _ member)) fun _ _ => ?_
      exact .ok _

end FailsOnly

end EntityLink
