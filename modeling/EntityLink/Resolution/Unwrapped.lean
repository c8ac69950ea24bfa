import EntityLink.Config
import EntityLink.Keyed
import EntityLink.TypeRef

/-!
# Wrappers around a type

A reference may be wrapped: an array of entities or a list container of them.
`unwrap` strips the wrappers off a type, and `holderType?` rebuilds the type
around an identifier in place of the entity.  A container that is a list takes
one argument; with another number it is no wrapper.
-/

namespace EntityLink

/-- A layer around a type. -/
inductive Wrapper where
  | array
  | list (container : String)
  deriving DecidableEq, Inhabited, Repr

/-- What is left of a type without its wrappers. -/
inductive Core where
  /-- A class, perhaps an entity. -/
  | named (path : String)
  | primitive
  /-- A type parameter, a class with arguments that is no list, or a list with
  the wrong number of arguments. -/
  | unsupported
  deriving DecidableEq, Inhabited, Repr

/-- A type taken apart. -/
structure Unwrapped where
  core : Core
  /-- The wrappers around the core, the outermost first. -/
  wrappers : List Wrapper
  deriving DecidableEq, Inhabited, Repr

namespace Unwrapped

def isWrapped (unwrapped : Unwrapped) : Bool :=
  !unwrapped.wrappers.isEmpty

def path? (unwrapped : Unwrapped) : Option String :=
  match unwrapped.core with
  | .named path => some path
  | .primitive | .unsupported => none

/-- Adds a wrapper around all others. -/
def wrap (wrapper : Wrapper) (unwrapped : Unwrapped) : Unwrapped :=
  { unwrapped with wrappers := wrapper :: unwrapped.wrappers }

end Unwrapped

namespace TypeRef

/-- Strips arrays and lists off a type. -/
def unwrap (config : Config) : TypeRef → Unwrapped
  | .primitive _ => ⟨.primitive, []⟩
  | .named path => ⟨.named path, []⟩
  | .array component => (unwrap config component).wrap .array
  | .parameterized path [argument] =>
      if config.isList path then (unwrap config argument).wrap (.list path)
      else ⟨.unsupported, []⟩
  | .parameterized _ _ | .parameter _ => ⟨.unsupported, []⟩

/-- Rebuilds a type with an identifier type in place of the target class, each
list container replaced by its mapping if it has one; `none` if the target is
not the core. -/
def holderType? (config : Config) (target : String) (idType : TypeRef)
    (mappings : Dict String) :
    TypeRef → Option TypeRef
  | .named path => if path = target then some idType else none
  | .array component =>
      (holderType? config target idType mappings component).map .array
  | .parameterized path [argument] =>
      if config.isList path then
        (holderType? config target idType mappings argument).map fun inner =>
          .parameterized ((mappings.find? path).getD path) [inner]
      else none
  | .primitive _ | .parameterized _ _ | .parameter _ => none

end TypeRef

end EntityLink
