import EntityLink.Augmentation
import EntityLink.ModelSet
import EntityLink.Registry
import EntityLink.Store.Order

/-!
# The scanned classes of a store

The classes from which the code of `EntityLink.Store.Order` is generated, and
the registry that this code publishes.  The relations that an order checks, and
the fields that it keeps back, are those that are planned for its class
(`orderPlan_relations`).
-/

namespace EntityLink

/-- The relation that a planned constant describes. -/
def RelationPlan.relation (owner : String) (plan : RelationPlan) :
    Relation where
  owner
  field := plan.reference.name
  holder := plan.reference.holderName
  target := plan.reference.target
  targetId := plan.reference.targetIdField
  isWrapped := plan.reference.isWrapped

/-- The relations that the check routine of a class goes through. -/
def Augmentation.checkedRelations (augmentation : Augmentation) :
    List Relation :=
  augmentation.check.relations.filterMap fun constName =>
    (augmentation.planOfConst? constName).map
      (RelationPlan.relation augmentation.path)

namespace Store

private def baseClass : ClassDecl where
  path := "refsync::EntityBase"
  kind := .isAbstract

private def identifiedClass : ClassDecl where
  path := "refsync::Entity"
  superclass := some "refsync::EntityBase"
  kind := .isAbstract
  fields := [{ name := "id", type := .named "refsync::types::ObjectId" }]

private def customerClass : ClassDecl where
  path := "store::Customer"
  superclass := some "refsync::Entity"
  fields := [{ name := "name", type := .named "String" }]

private def orderClass : ClassDecl where
  path := "store::Order"
  superclass := some "refsync::Entity"
  entity := some {
    collection := some "orders"
    indexes := [{
      keys := [{ field := "placed", direction := .descending }],
      name := "by_placed" }] }
  fields := [
    { name := "customer", type := .named "store::Customer" },
    { name := "co_signers",
      type := .parameterized "Vec" [.named "store::Customer"] },
    { name := "placed",
      type := .primitive "i64", property := some "placed_at" },
    { name := "draft", type := .primitive "bool", isIgnored := true }]
  methods := [
    { name := "new", kind := .constructor,
      parameters := [.named "store::Customer"] }]

def classes : ClassIndex :=
  .ofList [baseClass, identifiedClass, customerClass, orderClass]

/-- What the class of orders gains. -/
def orderPlan : Option Augmentation := do
  let set ← (classes.buildModels {}).toOption
  let model ← set.models.get? "store::Order"
  classes.augment? model

/-- The plan for the class of orders is what `Order` carries out. -/
theorem orderPlan_relations :
    ∃ augmentation, orderPlan = some augmentation ∧
      augmentation.relations.map (RelationPlan.relation augmentation.path) =
        Order.relations ∧
      augmentation.checkedRelations = Order.relations ∧
      augmentation.check.lazyInit.map TypedField.name =
        [Order.coSignersRelation.holder] ∧
      augmentation.fieldsMarked .skipPersist = Order.skipPersist ∧
      augmentation.fieldsMarked .skipSerialize = Order.skipSerialize := by
  refine ⟨orderPlan.getD default, ?_⟩
  decide +kernel

def registry : Registry :=
  match classes.analyze {} with
  | .ok analysis => .ofAnalysis analysis
  | .error _ => {}

end Store

end EntityLink
