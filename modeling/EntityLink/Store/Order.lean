import EntityLink.ObjectId
import EntityLink.Sync

/-!
# Orders of a store

A class as generated code leaves it: an order refers to its customer and to its
co-signers, holds the ids of both, and checks both relations.  Every id leads to
a customer, but for one.
-/

namespace EntityLink.Store

/-- The id with a counter and no point in time. -/
def numberedId (counter : UInt64) : ObjectId :=
  .ofParts 0 counter

/-- The only id that leads to no customer. -/
def unknownId : ObjectId := numberedId 999

structure Customer where
  id : Option ObjectId := none
  name : String := ""
  deriving DecidableEq, Inhabited

namespace Customer

def ofId (id : ObjectId) : Customer where
  id := some id
  name := "customer " ++ id.hex

/-- The customer with a number. -/
def numbered (counter : UInt64) : Customer :=
  ofId (numberedId counter)

def find (id : ObjectId) : Option Customer :=
  if id = unknownId then none else some (ofId id)

end Customer

structure Order where
  id : Option ObjectId := none
  customer : Option Customer := none
  coSigners : Option (List Customer) := none
  placed : Int64 := 0
  draft : Bool := false
  customerId : Option ObjectId := none
  coSignersId : Option (List ObjectId) := none
  deriving DecidableEq, Inhabited

namespace Order

def customerRelation : Relation where
  owner := "store::Order"
  field := "customer"
  holder := "customer_id"
  target := "store::Customer"
  targetId := "id"

def coSignersRelation : Relation where
  owner := "store::Order"
  field := "co_signers"
  holder := "co_signers_id"
  target := "store::Customer"
  targetId := "id"
  isWrapped := true

def relations : List Relation := [customerRelation, coSignersRelation]

/-- The fields that are not stored. -/
def skipPersist : List String := relations.map Relation.field

/-- The fields that are not shown to others. -/
def skipSerialize : List String := relations.map Relation.holder

def customerSides (order : Order) : Single Customer ObjectId :=
  ⟨order.customer, order.customerId⟩

def withCustomerSides (order : Order) (sides : Single Customer ObjectId) :
    Order :=
  { order with customer := sides.entity, customerId := sides.holder }

def coSignersSides (order : Order) : Many Customer ObjectId :=
  ⟨order.coSigners, order.coSignersId⟩

def withCoSignersSides (order : Order) (sides : Many Customer ObjectId) :
    Order :=
  { order with coSigners := sides.entities, coSignersId := sides.holders }

def new (customer : Customer) : Order :=
  { customer := some customer }

def setCustomer (order : Order) (value : Option Customer) : Order :=
  order.withCustomerSides (.ofEntity Customer.id value)

def setCustomerId (order : Order) (value : Option ObjectId) : Order :=
  order.withCustomerSides (Id.run (Single.ofHolder Customer.find value))

def setCoSigners (order : Order) (value : Option (List Customer)) : Order :=
  order.withCoSignersSides (.ofEntities Customer.id value)

def setCoSignersId (order : Order) (value : Option (List ObjectId)) : Order :=
  order.withCoSignersSides (Id.run (Many.ofHolders Customer.find value))

def checkCustomer (order : Order) : Except (Inconsistency ObjectId) Order :=
  match Id.run (order.customerSides.validate Customer.find Customer.id) with
  | .error ids => .error ⟨customerRelation, ids⟩
  | .ok sides => .ok (order.withCustomerSides sides)

def checkCoSigners (order : Order) : Except (Inconsistency ObjectId) Order :=
  match Id.run (order.coSignersSides.validate Customer.find Customer.id) with
  | .error ids => .error ⟨coSignersRelation, ids⟩
  | .ok sides => .ok (order.withCoSignersSides sides)

/-- Checks both relations, after giving an unset list of ids its empty list.
What was done before a check failed stays done. -/
def checkReferences (order : Order) : Option (Inconsistency ObjectId) × Order :=
  let order := order.withCoSignersSides order.coSignersSides.initHolders
  match order.checkCustomer with
  | .error inconsistency => (some inconsistency, order)
  | .ok order =>
      match order.checkCoSigners with
      | .error inconsistency => (some inconsistency, order)
      | .ok order => (none, order)

/-- Finishes the construction of an order by its checks. -/
def checked (order : Order) : Except (Inconsistency ObjectId) Order :=
  match order.checkReferences with
  | (some inconsistency, _) => .error inconsistency
  | (none, order) => .ok order

/-- Constructs and checks the order of a customer. -/
def newChecked (customer : Customer) : Except (Inconsistency ObjectId) Order :=
  (new customer).checked

end Order

end EntityLink.Store
