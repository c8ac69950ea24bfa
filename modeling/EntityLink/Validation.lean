import EntityLink.Class.Index
import EntityLink.Config
import EntityLink.ErrorTree

/-!
# Checks of the class index

What can be wrong with the classes of an index taken one by one: an identifier
marked where the base class has one already, a blank collection name, a database
index without keys or with a key that names no field.  `violations` collects
them all below the paths of the classes they are in.
-/

namespace EntityLink

/-- What can be wrong with a class. -/
inductive Violation where
  | secondIdentifier (field identifiedBase conventionalField : String)
  | blankCollection
  | indexWithoutKeys (spec : IndexSpec)
  | unknownKey (spec : IndexSpec) (field : String)
  deriving DecidableEq, Repr

def Violation.message : Violation → String
  | .secondIdentifier field identifiedBase conventionalField =>
      s!"field '{field}' is marked as identifier but " ++
        s!"'{identifiedBase}' already provides '{conventionalField}'"
  | .blankCollection => "collection name must not be empty"
  | .indexWithoutKeys spec => s!"index {spec.display} has no keys"
  | .unknownKey spec field =>
      s!"index {spec.display} names unknown field '{field}'"

namespace ClassIndex

variable (index : ClassIndex) (config : Config)

/-- Lists the fields marked as identifier in classes that have the conventional
one. -/
def duplicateIdentifiers : List (ClassDecl × FieldDecl) :=
  (index.knownSubclasses config.rootType config.identifiedBase).flatMap
      fun decl =>
        (decl.fields.filter FieldDecl.isId).map (decl, ·)

/-- Says whether a class has a field, of its own, from an ancestor, or the
conventional identifier. -/
def hasField (path name : String) : Bool :=
  (index.fieldInChain? config.rootType path name).isSome ||
    (name == config.conventionalId.field &&
      index.isSubclassOf config.rootType path config.identifiedBase)

/-- What is wrong with a database index of a class. -/
def specViolations (decl : ClassDecl) (spec : IndexSpec) : List Violation :=
  (if spec.keys.isEmpty then [.indexWithoutKeys spec] else []) ++
    (spec.keys.filter fun key => !index.hasField config decl.path key.field).map
      fun key => .unknownKey spec key.field

/-- What is wrong with the entity marker of a class. -/
def markerViolations (decl : ClassDecl) (marker : EntityMarker) :
    List Violation :=
  (if (marker.collection.map Text.isBlank).getD false then [.blankCollection]
      else []) ++
    marker.indexes.flatMap (index.specViolations config decl)

/-- Adds what is wrong with identifiers. -/
def identifierViolations (tree : ErrorTree) : ErrorTree :=
  (index.duplicateIdentifiers config).foldl (fun tree (decl, field) =>
    tree.addFor decl.path (Violation.secondIdentifier field.name
      config.identifiedBase config.conventionalId.field).message) tree

/-- Adds what is wrong with entity markers. -/
def entityViolations (tree : ErrorTree) : ErrorTree :=
  index.toList.foldl (fun tree decl =>
    match decl.entity with
    | none => tree
    | some marker =>
        tree.mergeFor decl.path
          (((index.markerViolations config decl marker).map
            Violation.message).foldl ErrorTree.add .empty)) tree

/-- Everything that is wrong with the classes of the index. -/
def violations : ErrorTree :=
  index.entityViolations config (index.identifierViolations config .empty)

end ClassIndex

end EntityLink
