import EntityLink.Keyed
import EntityLink.Resolution.Unwrapped

/-!
# Fields of a model

A field of a model is plain, refers to another entity, or holds the identifiers
of one.  A reference and its holder are the two sides of a relation: the
reference itself is not stored, the holder is.
-/

namespace EntityLink

/-- A field whose type is an entity, or an array or list of entities. -/
structure Reference where
  name : String
  type : TypeRef
  holderName : String
  holderType : TypeRef
  /-- The path of the entity. -/
  target : String
  targetIdField : String
  targetIdType : TypeRef
  /-- Refers to many entities rather than one. -/
  isWrapped : Bool
  wrappers : List Wrapper
  typeMappings : Dict String
  /-- The class or an ancestor declares a field for the holder. -/
  isHolderDeclared : Bool
  /-- The type with which an unset holder of a list starts. -/
  holderInit : Option TypeRef
  /-- The class that declares the field. -/
  declaredIn : String
  deriving DecidableEq, Inhabited

/-- A field that holds the identifiers of the entities that a reference refers
to. -/
structure Holder where
  name : String
  type : TypeRef
  ownerName : String
  ownerType : TypeRef
  target : String
  targetIdField : String
  isWrapped : Bool
  deriving DecidableEq, Inhabited

def Reference.holder (reference : Reference) : Holder where
  name := reference.holderName
  type := reference.holderType
  ownerName := reference.name
  ownerType := reference.type
  target := reference.target
  targetIdField := reference.targetIdField
  isWrapped := reference.isWrapped

inductive ModelField where
  | plain (name : String) (type : TypeRef)
  | reference (field : Reference)
  | holder (field : Holder)
  deriving DecidableEq, Inhabited

namespace ModelField

def name : ModelField → String
  | .plain name _ => name
  | .reference field => field.name
  | .holder field => field.name

def type : ModelField → TypeRef
  | .plain _ type => type
  | .reference field => field.type
  | .holder field => field.type

def reference? : ModelField → Option Reference
  | .reference field => some field
  | .plain _ _ | .holder _ => none

def holder? : ModelField → Option Holder
  | .holder field => some field
  | .plain _ _ | .reference _ => none

end ModelField

end EntityLink
