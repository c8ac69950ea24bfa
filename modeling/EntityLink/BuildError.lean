import EntityLink.Config
import EntityLink.ErrorTree
import EntityLink.TypeRef

/-!
# Why a build fails

The first fault that is found ends a build.  Each has the words in which it is
reported.
-/

namespace EntityLink

/-- Where a field that has to serve as a holder is declared. -/
inductive HolderPlace where
  /-- In the class of the reference. -/
  | own
  /-- In an ancestor of that class. -/
  | inherited (owner : String)
  deriving DecidableEq, Inhabited

def HolderPlace.phrase : HolderPlace → String
  | .own => "the holder field"
  | .inherited owner => s!"the holder inherited from '{owner}'"

/-- Why a holder cannot have its name. -/
inductive CollisionReason where
  | holderOf (other : String)
  | namesReference
  | declaredIgnored (place : HolderPlace)
  | declaredStatic (place : HolderPlace)
  | declaredAs (place : HolderPlace) (declared required : TypeRef)
  | slotTaken
  | ownerShadowed
  deriving DecidableEq, Inhabited

def CollisionReason.phrase : CollisionReason → String
  | .holderOf other => s!"already used as holder by '{other}'"
  | .namesReference => "names a reference field"
  | .declaredIgnored place => s!"{place.phrase} is marked ignore"
  | .declaredStatic place => s!"{place.phrase} is static"
  | .declaredAs place declared required =>
      s!"{place.phrase} is declared as '{declared.display}' but the holder " ++
        s!"requires '{required.display}'"
  | .slotTaken => "the holder slot is taken by another field"
  | .ownerShadowed => "the owning reference is shadowed by another field"

inductive BuildError where
  | nameCollision (owner field holder : String) (reason : CollisionReason)
  | missingIdField (owner field target : String)
  | unsupportedShape (owner field : String) (type : TypeRef)
  | mappingRequired (owner field container : String)
  | duplicateIdentifier (owner field : String)
  | classNotFound (path : String)
  | missingRelation (owner field : String)
  | invalidPath (text : String)
  | validation (violations : ErrorTree)
  | config (error : ConfigError)
  /-- The class index cannot be had. -/
  | indexUnavailable
  /-- The class index is not well formed or holds something that is not a
  class. -/
  | indexMalformed
  deriving DecidableEq, Inhabited

/-- Shows why a build failed; faults of documents are described by whoever reads
them. -/
def BuildError.message? : BuildError → Option String
  | .nameCollision owner field holder reason =>
      some s!"{owner}.{field}: holder name '{holder}' collides: {reason.phrase}"
  | .missingIdField owner field target =>
      some (s!"{owner}.{field}: referenced entity '{target}' has no " ++
        "identifier field")
  | .unsupportedShape owner field type =>
      some s!"{owner}.{field}: unsupported reference shape '{type.display}'"
  | .mappingRequired owner field container =>
      some (s!"{owner}.{field}: container '{container}' cannot be " ++
        "instantiated and needs an explicit type mapping")
  | .duplicateIdentifier owner field =>
      some (s!"{owner}.{field}: identifier marker is not allowed, the " ++
        "entity base already provides one")
  | .classNotFound path => some s!"class '{path}' not found"
  | .missingRelation owner field =>
      some (s!"{owner}.{field}: accessor refers to a relation that was not " ++
        "planned")
  | .invalidPath text =>
      some s!"invalid path or identifier '{text}' in generated code"
  | .validation violations => some s!"validation failed: {violations.display}"
  | .config (.invalid fault) => some s!"invalid config: {fault.message}"
  | .config .unavailable | .config .malformed | .indexUnavailable
  | .indexMalformed => none

end EntityLink
