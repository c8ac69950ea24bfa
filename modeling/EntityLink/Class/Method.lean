import EntityLink.TypeRef

/-!
# Declared methods

Methods and constructors of a class, known by name and parameter types.
-/

namespace EntityLink

inductive MethodKind where
  | ordinary
  | constructor
  deriving DecidableEq, Inhabited, Repr

structure MethodDecl where
  name : String
  kind : MethodKind := .ordinary
  parameters : List TypeRef := []
  returns : Option TypeRef := none
  isStatic : Bool := false
  /-- The name under which the property that the method reads is stored, if
  given. -/
  property : Option String := none
  deriving DecidableEq, Inhabited, Repr

end EntityLink
