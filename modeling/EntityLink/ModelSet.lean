import EntityLink.Model
import EntityLink.Resolution.Resolver

/-!
# The models of all entity classes

The entity classes are those that extend a base class, at whatever distance, and
those that carry the entity marker.  Every class in the lineage of one is
resolved once, in ascending order of paths; then the model of each entity class
is put together from its lineage.
-/

namespace EntityLink

/-- The models of all entity classes. -/
structure ModelSet where
  models : Keyed EntityModel EntityModel.path
  /-- The entity classes with a field that everybody may use, in ascending
  order. -/
  publicFieldClasses : List String
  deriving Inhabited

namespace ClassIndex

variable (index : ClassIndex) (config : Config)

/-- Says whether a class is stored: it carries the marker, or it extends a base
class without being one. -/
def isEntityClass (decl : ClassDecl) : Bool :=
  decl.isMarked ||
    (!config.isBase decl.path &&
      (index.isSubclassOf config.rootType decl.path config.entityBase ||
        index.isSubclassOf config.rootType decl.path config.identifiedBase))

/-- Lists the entity classes in ascending order of their paths. -/
def entityClasses : List ClassDecl :=
  index.toList.filter (index.isEntityClass config)

/-- Lists the classes in the lineage of some entity class, in ascending order of
their paths. -/
def lineageClasses : List ClassDecl :=
  let needed :=
    (index.entityClasses config).flatMap (index.lineage config.rootType)
  index.toList.filter fun decl => needed.any fun link => link.path == decl.path

/-- The fields that each class adds to a model, by its path. -/
abbrev ResolvedClasses : Type := List (String × List ModelField)

def resolveAll : Except BuildError ResolvedClasses :=
  (index.lineageClasses config).mapM fun decl => do
    return (decl.path, ← index.resolveClass config decl)

/-- Adds the fields of each class in a lineage to a model. -/
def addLineage (resolved : ResolvedClasses) (model : EntityModel) :
    List ClassDecl → Except BuildError EntityModel
  | [] => .ok model
  | link :: links =>
      match resolved.lookup link.path with
      | none => .error (.classNotFound link.path)
      | some fields => addLineage resolved (model.insertAll fields) links

def assemble (resolved : ResolvedClasses) (decl : ClassDecl) :
    Except BuildError EntityModel := do
  let model ←
    addLineage resolved (.empty decl.path) (index.lineage config.rootType decl)
  match model.unpaired? with
  | some fault => .error fault
  | none => return model

def buildModels : Except BuildError ModelSet := do
  let resolved ← index.resolveAll config
  let entities := index.entityClasses config
  let models ← entities.mapM (index.assemble config resolved)
  return {
    models := .ofList models
    publicFieldClasses :=
      (entities.filter ClassDecl.hasPublicField).map ClassDecl.path }

end ClassIndex

end EntityLink
