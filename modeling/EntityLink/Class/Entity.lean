/-!
# The entity marker

A class with an entity marker is stored in a database.  The marker may name the
client, the database and the collection, and lists the database indexes to
create.
-/

namespace EntityLink

/-- The order in which a database index lists a field. -/
inductive Direction where
  | ascending
  | descending
  deriving DecidableEq, Inhabited, Repr

def Direction.word : Direction → String
  | .ascending => "Asc"
  | .descending => "Desc"

def Direction.number : Direction → String
  | .ascending => "1"
  | .descending => "-1"

structure IndexKey where
  field : String
  direction : Direction := .ascending
  deriving DecidableEq, Inhabited, Repr

structure IndexSpec where
  keys : List IndexKey
  background : Bool := false
  unique : Bool := false
  /-- Empty for a name chosen by the database. -/
  name : String := ""
  sparse : Bool := false
  /-- Zero or negative for entries that never expire. -/
  expireAfterSeconds : Int64 := 0
  hidden : Bool := false
  deriving DecidableEq, Inhabited, Repr

namespace IndexSpec

def isCompound (spec : IndexSpec) : Bool :=
  spec.keys.length > 1

/-- Shows the keys of an index with their directions in words. -/
def display (spec : IndexSpec) : String :=
  let keys := ", ".intercalate (spec.keys.map fun key =>
    key.field ++ " " ++ key.direction.word)
  (if spec.unique then "UNIQUE (" else "(") ++ keys ++ ")"

/-- Shows the keys of an index with their directions in numbers. -/
def keyDocument (spec : IndexSpec) : String :=
  "\x7b" ++ ", ".intercalate
      (spec.keys.map fun key => key.field ++ ": " ++ key.direction.number) ++
    "\x7d"

end IndexSpec

/-- The mark of a class that is stored in a database. -/
structure EntityMarker where
  client : Option String := none
  database : Option String := none
  collection : Option String := none
  indexes : List IndexSpec := []
  deriving DecidableEq, Inhabited, Repr

end EntityLink
