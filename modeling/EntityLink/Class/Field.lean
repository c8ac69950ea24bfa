import EntityLink.Keyed
import EntityLink.Text.Blank
import EntityLink.TypeRef

/-!
# Declared fields

A field as a class declares it, with the marks that say how it is stored.  A
field that refers to an entity may say in its `ReferenceOptions` where the
entity's identifiers go.
-/

namespace EntityLink

inductive Visibility where
  | isPublic
  | isProtected
  | isPackage
  | isPrivate
  deriving DecidableEq, Inhabited, Repr

/-- The container to use in place of one that cannot be created. -/
structure TypeMapping where
  type : String
  mapped : String
  deriving DecidableEq, Inhabited, Repr

structure ReferenceOptions where
  /-- The name of the holder field; a blank one counts as absent. -/
  storeIn : Option String := none
  typeMappings : List TypeMapping := []
  deriving DecidableEq, Inhabited, Repr

namespace ReferenceOptions

/-- The name chosen for the holder field, trimmed, if there is one. -/
def holderName? (options : ReferenceOptions) : Option String :=
  match options.storeIn with
  | some name => if Text.isBlank name then none else some (Text.trim name)
  | none => none

/-- The mappings as a table.  One with a blank side is left out; of two for a
container the later one counts. -/
def mappingTable (options : ReferenceOptions) : Dict String :=
  let complete := options.typeMappings.filter fun mapping =>
    !Text.isBlank mapping.type && !Text.isBlank mapping.mapped
  Dict.setAll .empty
    (complete.map fun mapping => (mapping.type, mapping.mapped))

end ReferenceOptions

structure FieldDecl where
  name : String
  type : TypeRef
  visibility : Visibility := .isPublic
  isStatic : Bool := false
  isId : Bool := false
  /-- Marked as not to be stored. -/
  isIgnored : Bool := false
  /-- The name under which the field is stored, if not its own. -/
  property : Option String := none
  reference : Option ReferenceOptions := none
  deriving DecidableEq, Inhabited, Repr

namespace FieldDecl

def isPublic (field : FieldDecl) : Bool :=
  field.visibility == .isPublic

/-- Says whether the field is part of what a class stores: neither static nor
ignored. -/
def isStored (field : FieldDecl) : Bool :=
  !field.isStatic && !field.isIgnored

end FieldDecl

end EntityLink
