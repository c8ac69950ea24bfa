import EntityLink.Class.Entity
import EntityLink.Class.Field
import EntityLink.Class.Method

/-!
# Declared classes

A class as the scan records it, and what can be said of it without looking at
other classes.
-/

namespace EntityLink

inductive ClassKind where
  | isConcrete
  | isAbstract
  | isInterface
  deriving DecidableEq, Inhabited, Repr

structure ClassDecl where
  path : String
  superclass : Option String := none
  interfaces : List String := []
  kind : ClassKind := .isConcrete
  entity : Option EntityMarker := none
  /-- The entity class whose properties the class shows, if it is a
  projection. -/
  projectionFor : Option String := none
  fields : List FieldDecl := []
  methods : List MethodDecl := []
  deriving DecidableEq, Inhabited, Repr

namespace ClassDecl

private def isPathSeparator (character : Char) : Bool :=
  character == '.' || character == ':'

/-- The last segment of the path that is not empty, or the path itself. -/
def simpleName (decl : ClassDecl) : String :=
  let trailing := decl.path.toList.reverse.dropWhile isPathSeparator
  match (trailing.takeWhile fun character =>
    !isPathSeparator character).reverse with
  | [] => decl.path
  | segment => String.ofList segment

def isInstantiable (decl : ClassDecl) : Bool :=
  decl.kind == .isConcrete

def isMarked (decl : ClassDecl) : Bool :=
  decl.entity.isSome

/-- Finds the first declared field of a name. -/
def field? (decl : ClassDecl) (name : String) : Option FieldDecl :=
  decl.fields.find? fun field => field.name == name

/-- Says whether the class declares an ordinary method of the given name and
parameter types. -/
def hasMethod (decl : ClassDecl) (name : String) (parameters : List TypeRef) :
    Bool :=
  decl.methods.any fun method =>
    method.kind == .ordinary && method.name == name &&
      method.parameters == parameters

def constructors (decl : ClassDecl) : List MethodDecl :=
  decl.methods.filter fun method => method.kind == .constructor

/-- Says whether everybody may use some field of the class's objects. -/
def hasPublicField (decl : ClassDecl) : Bool :=
  decl.fields.any fun field => field.isPublic && !field.isStatic

/-- The collection of a class with the given marker: the one that the marker
names, or one named like the class. -/
def collectionOf (decl : ClassDecl) (marker : EntityMarker) : String :=
  marker.collection.getD decl.simpleName

end ClassDecl

end EntityLink
