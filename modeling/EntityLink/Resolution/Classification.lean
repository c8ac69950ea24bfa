import EntityLink.Class.Index
import EntityLink.Config

/-!
# Entities among classes

Whether the class of a field is an entity is decided by its own superclass and
its own marker; superclasses further up do not count.
-/

namespace EntityLink

/-- What a class is to a field of its type. -/
inductive Classification where
  | notEntity
  /-- An entity that declares its own identifier. -/
  | entity
  /-- An entity with the conventional identifier. -/
  | identifiedEntity
  deriving DecidableEq, Inhabited, Repr

namespace Classification

def isEntity : Classification → Bool
  | .notEntity => false
  | .entity | .identifiedEntity => true

def hasConventionalId : Classification → Bool
  | .identifiedEntity => true
  | .notEntity | .entity => false

end Classification

/-- Classifies a class by its superclass and its marker. -/
def ClassDecl.classify (config : Config) (decl : ClassDecl) : Classification :=
  if decl.superclass = some config.identifiedBase then .identifiedEntity
  else if decl.superclass = some config.entityBase then .entity
  else if decl.isMarked then .entity
  else .notEntity

/-- Classifies a class by its path; one that was not scanned is no entity. -/
def ClassIndex.classify (index : ClassIndex) (config : Config) (path : String) :
    Classification :=
  match index.get? path with
  | some decl => decl.classify config
  | none => .notEntity

end EntityLink
