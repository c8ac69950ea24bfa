import EntityLink.ObjectId.Json
import EntityLink.Store.Order

/-!
# Orders as JSON

The records in which orders and customers are written.  An unset side of a
relation is null.
-/

namespace EntityLink.Store

private def orNull {α : Type} (write : α → Json) (value : Option α) : Json :=
  (value.map write).getD .null

private def all {α : Type} (write : α → Json) (values : List α) : Json :=
  .array (values.map write)

def Customer.toJson (customer : Customer) : Json :=
  .object [("id", orNull ObjectId.toJson customer.id),
    ("name", .string customer.name)]

def Order.toJson (order : Order) : Json :=
  .object [
    ("id", orNull ObjectId.toJson order.id),
    ("customer", orNull Customer.toJson order.customer),
    ("customer_id", orNull ObjectId.toJson order.customerId),
    ("co_signers", orNull (all Customer.toJson) order.coSigners),
    ("co_signers_id", orNull (all ObjectId.toJson) order.coSignersId),
    ("placed", .integer order.placed.toInt),
    ("draft", .bool order.draft)]

end EntityLink.Store
