import EntityLink.Proofs.Store.Check

/-!
# Runs of operations on an order

An order that starts empty and is only changed by its own operations stays in
step: whoever stores customers with ids never sees a check fail, whatever came
before.  `inStep_perform` shows it for one operation from any order that is in
step, and a run repeats it.
-/

namespace EntityLink.Store.Order

/-- An operation that generated code offers on an order. -/
inductive Operation where
  | setCustomer (value : Option Customer)
  | setCustomerId (value : Option ObjectId)
  | setCoSigners (value : Option (List Customer))
  | setCoSignersId (value : Option (List ObjectId))
  | checkReferences
  deriving DecidableEq

/-- Every customer among the arguments of an operation carries an id. -/
def Operation.IsIdentified : Operation → Prop
  | .setCustomer value => ∀ customer ∈ value, customer.id.isSome
  | .setCoSigners value =>
      ∀ customers ∈ value, ∀ customer ∈ customers, customer.id.isSome
  | .setCustomerId _ | .setCoSignersId _ | .checkReferences => True

/-- What an operation reports and which order it leaves.  Only a check may
report something. -/
def perform (order : Order) :
    Operation → Option (Inconsistency ObjectId) × Order
  | .setCustomer value => (none, order.setCustomer value)
  | .setCustomerId value => (none, order.setCustomerId value)
  | .setCoSigners value => (none, order.setCoSigners value)
  | .setCoSignersId value => (none, order.setCoSignersId value)
  | .checkReferences => order.checkReferences

/-- What each operation of a run reports, and the order after it. -/
def steps (order : Order) :
    List Operation → List (Option (Inconsistency ObjectId) × Order)
  | [] => []
  | operation :: operations =>
      order.perform operation :: (order.perform operation).2.steps operations

/-- A set customer has its id beside it, and an id without a customer leads to
none.  The ids of the co-signers, an unset side counting as empty, are what
remains of the list of ids when some that lead to no customer are deleted. -/
structure InStep (order : Order) : Prop where
  customer_set : ∀ customer, order.customer = some customer →
    ∃ id, customer.id = some id ∧ order.customerId = some id
  customer_unset : order.customer = none → ∀ id, order.customerId = some id →
    Customer.find id = none
  coSigners : ∃ ids, (order.coSigners.getD []).map Customer.id = ids.map some ∧
    Many.Resolves (fun id => Customer.find id ≠ none) ids
      (order.coSignersId.getD [])

theorem inStep_iff {order : Order} :
    order.InStep ↔ order.customerSides.InStep Customer.find Customer.id ∧
      order.coSignersSides.InStep Customer.find Customer.id := by
  constructor
  · rintro ⟨customerSet, customerUnset, coSigners⟩
    rw [← resolvable_find] at coSigners
    exact ⟨⟨customerSet, customerUnset⟩, coSigners⟩
  · rintro ⟨⟨customerSet, customerUnset⟩, coSigners⟩
    refine ⟨customerSet, customerUnset, ?_⟩
    rw [← resolvable_find]
    exact coSigners

theorem inStep_empty : InStep {} := by
  refine ⟨?_, ?_, ⟨[], rfl, .nil⟩⟩
  · intro customer set
    cases set
  · intro _ id held
    cases held

/-- A check of an order that is in step passes and leaves it in step. -/
theorem InStep.checkReferences {order : Order} (inStep : order.InStep) :
    order.checkReferences.1 = none ∧ order.checkReferences.2.InStep := by
  obtain ⟨customerInStep, coSignersInStep⟩ := inStep_iff.1 inStep
  obtain ⟨coSigners, coSignersReconcile, coSignersStay⟩ :=
    coSignersInStep.initHolders.reconciles Customer.answersById
  have passed := checkReferences_ok_iff.2
    ⟨order.customerSides, coSigners, customerInStep.reconciles,
      coSignersReconcile, rfl⟩
  rw [passed]
  exact ⟨rfl, inStep_iff.2 ⟨customerInStep, coSignersStay⟩⟩

theorem inStep_perform {order : Order} (inStep : order.InStep)
    {operation : Operation} (identified : operation.IsIdentified) :
    (order.perform operation).1 = none ∧
      (order.perform operation).2.InStep := by
  obtain ⟨customerInStep, coSignersInStep⟩ := inStep_iff.1 inStep
  cases operation with
  | setCustomer value =>
      exact ⟨rfl, inStep_iff.2
        ⟨Single.inStep_ofEntity Customer.find identified, coSignersInStep⟩⟩
  | setCustomerId value =>
      exact ⟨rfl, inStep_iff.2
        ⟨Single.inStep_ofHolder Customer.answersById value, coSignersInStep⟩⟩
  | setCoSigners value =>
      exact ⟨rfl, inStep_iff.2
        ⟨customerInStep, Many.inStep_ofEntities Customer.find identified⟩⟩
  | setCoSignersId value =>
      exact ⟨rfl, inStep_iff.2
        ⟨customerInStep, Many.inStep_ofHolders Customer.answersById value⟩⟩
  | checkReferences => exact inStep.checkReferences

theorem steps_inStep_from {order : Order} (inStep : order.InStep)
    {operations : List Operation}
    (identified : ∀ operation ∈ operations, operation.IsIdentified) :
    ∀ step ∈ order.steps operations, step.1 = none ∧ step.2.InStep := by
  induction operations generalizing order with
  | nil =>
      intro step member
      cases member
  | cons operation operations induction =>
      have now :=
        inStep_perform inStep (identified operation List.mem_cons_self)
      have laterIdentified : ∀ later ∈ operations, later.IsIdentified := by
        intro later member
        exact identified later (List.mem_cons_of_mem _ member)
      intro step member
      rcases List.mem_cons.1 member with same | later
      · exact same ▸ now
      · exact induction now.2 laterIdentified step later

/-- No step of a run that starts with an empty order and stores only customers
with ids reports anything, and after each step the order is in step. -/
theorem steps_inStep {operations : List Operation}
    (identified : ∀ operation ∈ operations, operation.IsIdentified) :
    ∀ step ∈ steps {} operations, step.1 = none ∧ step.2.InStep :=
  steps_inStep_from inStep_empty identified

/-- A run with checks between writes of both sides, ids that lead to no customer
and a customer who is not found under the own id. -/
private def unresolvedRun : List Operation := [
  .setCoSignersId (some [numberedId 1, unknownId, unknownId, numberedId 3]),
  .checkReferences,
  .setCustomer (some { id := some unknownId, name := "unknown" }),
  .checkReferences,
  .setCoSigners (some [.numbered 5, .numbered 5]),
  .setCustomerId (some unknownId),
  .checkReferences]

theorem steps_inStep_unresolvedRun :
    (∀ operation ∈ unresolvedRun, operation.IsIdentified) ∧
      ∀ step ∈ steps {} unresolvedRun, step.1 = none ∧ step.2.InStep := by
  have identified : ∀ operation ∈ unresolvedRun, operation.IsIdentified := by
    simp [unresolvedRun, Operation.IsIdentified, Customer.numbered,
      Customer.ofId]
  exact ⟨identified, steps_inStep identified⟩

end EntityLink.Store.Order
