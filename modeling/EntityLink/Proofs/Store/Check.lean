import EntityLink.Proofs.Sync.Outcome
import EntityLink.Store.Order

/-!
# Checking an order

A check of an order can end in the three ways of `Checked`.  It passes if both
of its relations can be reconciled; `checkReferences_ok_iff` says which order it
leaves then.

A check that passed passes again and changes nothing more, with one exception.
From co-signers of whom only some carry ids it derives a list with the ids of
these, and to the next check this list and the co-signers do not agree.
-/

namespace EntityLink.Store

theorem Customer.answersById : AnswersById Customer.find Customer.id := by
  intro id customer found
  simp only [Customer.find] at found
  split at found
  · cases found
  · cases found
    rfl

theorem resolvable_find :
    Resolvable Customer.find = fun id => Customer.find id ≠ none := by
  funext id
  simp [Resolvable, Option.isSome_iff_ne_none]

namespace Order

@[simp]
theorem customerSides_withCustomerSides (order : Order)
    (sides : Single Customer ObjectId) :
    (order.withCustomerSides sides).customerSides = sides := rfl

@[simp]
theorem customerSides_withCoSignersSides (order : Order)
    (sides : Many Customer ObjectId) :
    (order.withCoSignersSides sides).customerSides = order.customerSides := rfl

@[simp]
theorem coSignersSides_withCoSignersSides (order : Order)
    (sides : Many Customer ObjectId) :
    (order.withCoSignersSides sides).coSignersSides = sides := rfl

theorem checkCustomer_ok_iff {order checked : Order} :
    order.checkCustomer = .ok checked ↔
      ∃ sides,
        Single.Reconciles Customer.find Customer.id order.customerSides sides ∧
        checked = order.withCustomerSides sides := by
  simp only [← Single.run_validate_ok_iff]
  unfold checkCustomer
  cases Id.run (order.customerSides.validate Customer.find Customer.id) with
  | error ids => simp
  | ok sides => simp [eq_comm]

theorem checkCoSigners_ok_iff {order checked : Order} :
    order.checkCoSigners = .ok checked ↔
      ∃ sides,
        Many.Reconciles Customer.find Customer.id order.coSignersSides sides ∧
        checked = order.withCoSignersSides sides := by
  simp only [← Many.run_validate_ok_iff]
  unfold checkCoSigners
  cases Id.run (order.coSignersSides.validate Customer.find Customer.id) with
  | error ids => simp
  | ok sides => simp [eq_comm]

theorem checkCustomer_error_iff {order : Order}
    {inconsistency : Inconsistency ObjectId} :
    order.checkCustomer = .error inconsistency ↔
      ∃ ids, Single.Disagrees Customer.id order.customerSides ids ∧
        inconsistency = ⟨customerRelation, ids⟩ := by
  simp only [← Single.run_validate_error_iff Customer.find]
  unfold checkCustomer
  cases Id.run (order.customerSides.validate Customer.find Customer.id) with
  | error ids => simp [eq_comm]
  | ok sides => simp

theorem checkCoSigners_error_iff {order : Order}
    {inconsistency : Inconsistency ObjectId} :
    order.checkCoSigners = .error inconsistency ↔
      ∃ ids, Many.Disagrees Customer.find Customer.id order.coSignersSides ids ∧
        inconsistency = ⟨coSignersRelation, ids⟩ := by
  simp only [← Many.run_validate_error_iff]
  unfold checkCoSigners
  cases Id.run (order.coSignersSides.validate Customer.find Customer.id) with
  | error ids => simp [eq_comm]
  | ok sides => simp

/-- How a check of an order can end: with a report or without one, and with the
order that it leaves.  Sides of the co-signers that do not agree are set, so the
check adds nothing to them. -/
inductive Checked (order : Order) :
    Option (Inconsistency ObjectId) → Order → Prop where
  | customer {ids : SideIds ObjectId}
      (disagrees : Single.Disagrees Customer.id order.customerSides ids) :
      Checked order (some ⟨customerRelation, ids⟩)
        (order.withCoSignersSides order.coSignersSides.initHolders)
  | coSigners {customer : Single Customer ObjectId} {ids : SideIds ObjectId}
      (reconciles : Single.Reconciles Customer.find Customer.id
        order.customerSides customer)
      (disagrees :
        Many.Disagrees Customer.find Customer.id order.coSignersSides ids) :
      Checked order (some ⟨coSignersRelation, ids⟩)
        ((order.withCoSignersSides
          order.coSignersSides.initHolders).withCustomerSides customer)
  | passed {customer : Single Customer ObjectId}
      {coSigners : Many Customer ObjectId} (customerReconciles :
        Single.Reconciles Customer.find Customer.id
          order.customerSides customer)
      (coSignersReconcile : Many.Reconciles Customer.find Customer.id
        order.coSignersSides.initHolders coSigners) :
      Checked order none
        ((order.withCustomerSides customer).withCoSignersSides coSigners)

theorem checked_of_checkReferences {order after : Order}
    {report : Option (Inconsistency ObjectId)}
    (ended : order.checkReferences = (report, after)) :
    Checked order report after := by
  unfold checkReferences at ended
  dsimp only at ended
  split at ended
  next inconsistency customerChecked =>
    obtain ⟨ids, disagrees, rfl⟩ := checkCustomer_error_iff.1 customerChecked
    obtain ⟨rfl, rfl⟩ := Prod.mk.inj ended
    exact .customer disagrees
  next afterCustomer customerChecked =>
    obtain ⟨customer, reconciles, rfl⟩ := checkCustomer_ok_iff.1 customerChecked
    split at ended
    next inconsistency coSignersChecked =>
      obtain ⟨ids, disagrees, rfl⟩ :=
        checkCoSigners_error_iff.1 coSignersChecked
      obtain ⟨rfl, rfl⟩ := Prod.mk.inj ended
      exact .coSigners reconciles (Many.disagrees_initHolders_iff.1 disagrees)
    next afterCoSigners coSignersChecked =>
      obtain ⟨coSigners, coSignersReconcile, rfl⟩ :=
        checkCoSigners_ok_iff.1 coSignersChecked
      obtain ⟨rfl, rfl⟩ := Prod.mk.inj ended
      exact .passed reconciles coSignersReconcile

/-- A check passes if it can reconcile the customer with the id and then, an
unset list of ids counting as empty, the co-signers with their ids. -/
theorem checkReferences_ok_iff {order checked : Order} :
    order.checkReferences = (none, checked) ↔
      ∃ customer coSigners,
        Single.Reconciles Customer.find Customer.id
          order.customerSides customer ∧
        Many.Reconciles Customer.find Customer.id
          order.coSignersSides.initHolders coSigners ∧
        checked =
          (order.withCustomerSides customer).withCoSignersSides coSigners := by
  let prepared := order.withCoSignersSides order.coSignersSides.initHolders
  constructor
  · intro passed
    cases checked_of_checkReferences passed with
    | passed customerReconciles coSignersReconcile =>
        exact ⟨_, _, customerReconciles, coSignersReconcile, rfl⟩
  · rintro ⟨customer, coSigners, customerReconciles, coSignersReconciles, rfl⟩
    have customerChecked :
        prepared.checkCustomer = .ok (prepared.withCustomerSides customer) :=
      checkCustomer_ok_iff.2 ⟨customer, customerReconciles, rfl⟩
    have coSignersChecked :
        (prepared.withCustomerSides customer).checkCoSigners =
          .ok ((prepared.withCustomerSides customer).withCoSignersSides
            coSigners) :=
      checkCoSigners_ok_iff.2 ⟨coSigners, coSignersReconciles, rfl⟩
    unfold checkReferences
    simp only [prepared] at customerChecked coSignersChecked
    simp only [customerChecked, coSignersChecked]
    rfl

/-- After a check that passed, another one passes and changes nothing, unless
the first one derived the ids of the co-signers while only some of these carried
one. -/
theorem checkReferences_again_iff {order checked : Order}
    (passed : order.checkReferences = (none, checked)) :
    checked.checkReferences = (none, checked) ↔
      ¬order.coSignersSides.LosesEntities Customer.id := by
  obtain ⟨customer, coSigners, customerReconciles, coSignersReconciles, rfl⟩ :=
    checkReferences_ok_iff.1 passed
  have initialized : coSigners.initHolders = coSigners :=
    Many.initHolders_of_isSome
      (coSignersReconciles.isSome_holders Many.isSome_initHolders)
  rw [← Many.losesEntities_initHolders_iff,
    ← coSignersReconciles.again_iff Customer.answersById,
    checkReferences_ok_iff]
  simp only [coSignersSides_withCoSignersSides,
    customerSides_withCoSignersSides, customerSides_withCustomerSides,
    initialized]
  constructor
  · rintro ⟨customerAgain, coSignersAgain, _, coSignersReconcile, unchanged⟩
    have sameCoSigners := congrArg coSignersSides unchanged
    simp only [coSignersSides_withCoSignersSides] at sameCoSigners
    exact sameCoSigners ▸ coSignersReconcile
  · intro coSignersReconcile
    exact ⟨customer, coSigners, customerReconciles.again Customer.answersById,
      coSignersReconcile, rfl⟩

/-- An order whose customer and second co-signer cannot be found. -/
private def partlyResolved : Order where
  customerId := some unknownId
  coSignersId := some [numberedId 1, unknownId]

theorem checkReferences_again_partlyResolved :
    ∃ checked, partlyResolved.checkReferences = (none, checked) ∧
      checked.checkReferences = (none, checked) := by
  have passed : partlyResolved.checkReferences =
      (none, { partlyResolved with coSigners := some [.numbered 1] }) := by rfl
  refine ⟨_, passed, (checkReferences_again_iff passed).2 ?_⟩
  rintro ⟨noIds, _, _⟩
  cases noIds

/-- An order with co-signers of whom only the second carries an id. -/
private def partlyIdentified : Order where
  coSigners := some [{ name := "anonymous" }, .numbered 5]

theorem checkReferences_not_stable :
    ¬∀ order checked : Order, order.checkReferences = (none, checked) →
      checked.checkReferences = (none, checked) := by
  intro stable
  have again := stable partlyIdentified
    { partlyIdentified with coSignersId := some [numberedId 5] } (by rfl)
  have outcome := congrArg (fun result => result.1.isSome) again
  exact absurd outcome (by decide)

end Order

end EntityLink.Store
