import EntityLink.Class.Decl

/-!
# The catalog of stored classes

Where each entity class is stored and which database indexes belong to it.
-/

namespace EntityLink

/-- Where a class is stored. -/
structure CatalogEntry where
  path : String
  client : Option String := none
  database : Option String := none
  collection : String
  indexes : List IndexSpec := []
  deriving DecidableEq, Inhabited

/-- The catalog entry of a class.  Without a marker its collection is named like
the class. -/
def ClassDecl.catalogEntry (decl : ClassDecl) : CatalogEntry :=
  match decl.entity with
  | some marker => {
      path := decl.path
      client := marker.client
      database := marker.database
      collection := decl.collectionOf marker
      indexes := marker.indexes }
  | none => { path := decl.path, collection := decl.simpleName }

end EntityLink
