import EntityLink.Proofs.Store.Check

/-!
# When the check of an order fails

Neither the list of ids that a check adds nor what it derives for the customer
has a part in whether the co-signers agree.  So two conditions on the order
alone, `CustomerDiffers` and `CoSignersDiffer`, say whether a check fails and
what it reports, the first one taking precedence.
-/

namespace EntityLink.Store.Order

/-- The customer and the id are both set, and the customer carries another id or
none. -/
def CustomerDiffers (order : Order) : Prop :=
  ∃ customer id, order.customer = some customer ∧ order.customerId = some id ∧
    customer.id ≠ some id

/-- There are co-signers and ids of co-signers, and some co-signer carries no
id, or the ids of the co-signers are not what remains of the list of ids when
some that lead to no customer are deleted. -/
def CoSignersDiffer (order : Order) : Prop :=
  ∃ coSigners ids,
    order.coSigners = some coSigners ∧ order.coSignersId = some ids ∧
    coSigners ≠ [] ∧ ids ≠ [] ∧
    ((∃ coSigner ∈ coSigners, coSigner.id = none) ∨
      ¬Many.Resolves (fun id => Customer.find id ≠ none)
        (coSigners.filterMap Customer.id) ids)

theorem customerDiffers_iff {order : Order} :
    order.CustomerDiffers ↔
      ∃ ids, Single.Disagrees Customer.id order.customerSides ids := by
  constructor
  · rintro ⟨customer, id, customerSet, idSet, differs⟩
    rw [customerSides, customerSet, idSet]
    exact ⟨_, .different differs⟩
  · rintro ⟨ids, disagrees⟩
    generalize sidesEquality : order.customerSides = sides at disagrees
    cases disagrees with
    | different differs =>
        exact ⟨_, _, congrArg Single.entity sidesEquality,
          congrArg Single.holder sidesEquality, differs⟩

theorem not_matches_iff {coSigners : List Customer} {ids : List ObjectId} :
    ¬Many.Matches Customer.find Customer.id coSigners ids ↔
      (∃ coSigner ∈ coSigners, coSigner.id = none) ∨
        ¬Many.Resolves (fun id => Customer.find id ≠ none)
          (coSigners.filterMap Customer.id) ids := by
  rw [Many.matches_iff, resolvable_find, Classical.not_and_iff_not_or_not]
  simp

theorem coSignersDiffer_iff {order : Order} :
    order.CoSignersDiffer ↔
      ∃ ids,
        Many.Disagrees Customer.find Customer.id order.coSignersSides ids := by
  constructor
  · rintro ⟨coSigners, ids, coSignersSet, idsSet, someCoSigners,
      someIds, differ⟩
    rw [coSignersSides, coSignersSet, idsSet]
    exact ⟨_, .unmatched someCoSigners someIds (not_matches_iff.2 differ)⟩
  · rintro ⟨reported, disagrees⟩
    generalize sidesEquality : order.coSignersSides = sides at disagrees
    cases disagrees with
    | unmatched someCoSigners someIds noMatch =>
        exact ⟨_, _, congrArg Many.entities sidesEquality,
          congrArg Many.holders sidesEquality, someCoSigners, someIds,
          not_matches_iff.1 noMatch⟩

/-- A check reports something exactly when the customer differs or the
co-signers do; it names the customer if that one differs, and the co-signers
otherwise.  It leaves the fields of the relation that it names, and in any case
those of no relation. -/
theorem checkReferences_fails_iff (order : Order) :
    ∃ report checked, order.checkReferences = (report, checked) ∧
      (report ≠ none ↔ order.CustomerDiffers ∨ order.CoSignersDiffer) ∧
      (∀ inconsistency, report = some inconsistency →
        (order.CustomerDiffers →
          inconsistency.relation = customerRelation ∧
            inconsistency.relation.field = "customer") ∧
        (¬order.CustomerDiffers →
          inconsistency.relation = coSignersRelation ∧
            inconsistency.relation.field = "co_signers") ∧
        (inconsistency.relation.field = "customer" →
          checked.customer = order.customer ∧
            checked.customerId = order.customerId) ∧
        (inconsistency.relation.field = "co_signers" →
          checked.coSigners = order.coSigners ∧
            checked.coSignersId = order.coSignersId)) ∧
      checked.id = order.id ∧ checked.placed = order.placed ∧
      checked.draft = order.draft := by
  have different : customerRelation.field ≠ coSignersRelation.field := by
    decide
  obtain ⟨report, checked, outcome⟩ :
      ∃ report checked, order.checkReferences = (report, checked) :=
    ⟨_, _, rfl⟩
  refine ⟨report, checked, outcome, ?_⟩
  cases checked_of_checkReferences outcome with
  | customer disagrees =>
      have differs := customerDiffers_iff.2 ⟨_, disagrees⟩
      refine ⟨iff_of_true nofun (.inl differs), ?_, rfl, rfl, rfl⟩
      rintro inconsistency ⟨rfl⟩
      exact ⟨fun _ => ⟨rfl, rfl⟩, absurd differs, fun _ => ⟨rfl, rfl⟩,
        fun named => absurd named different⟩
  | coSigners reconciles disagrees =>
      have agrees : ¬order.CustomerDiffers := by
        rw [customerDiffers_iff]
        rintro ⟨ids, customerDisagrees⟩
        exact reconciles.not_disagrees customerDisagrees
      have unchanged := Many.initHolders_of_isSome disagrees.isSome_holders
      refine ⟨iff_of_true nofun (.inr (coSignersDiffer_iff.2 ⟨_, disagrees⟩)),
        ?_, rfl, rfl, rfl⟩
      rintro inconsistency ⟨rfl⟩
      refine ⟨fun differs => absurd differs agrees, fun _ => ⟨rfl, rfl⟩,
        fun named => absurd named.symm different, fun _ => ?_⟩
      rw [unchanged]
      exact ⟨rfl, rfl⟩
  | passed customerReconciles coSignersReconcile =>
      refine ⟨iff_of_false (fun reported => reported rfl) ?_, nofun,
        rfl, rfl, rfl⟩
      rw [customerDiffers_iff, coSignersDiffer_iff]
      rintro (⟨ids, disagrees⟩ | ⟨ids, disagrees⟩)
      · exact customerReconciles.not_disagrees disagrees
      · exact coSignersReconcile.not_disagrees
          (Many.disagrees_initHolders_iff.2 disagrees)

end EntityLink.Store.Order
