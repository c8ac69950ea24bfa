import EntityLink.Accessor
import EntityLink.ModelSet

/-!
# Stored names of properties

A property may be stored under another name: a field or getter can say so, and a
reference is stored under the name of its holder.  The table lists these names
for every entity class that has any, and for every projection of such a class.
-/

namespace EntityLink

/-- For each class the properties that are stored under another name, with that
name. -/
abbrev ReplacementMap : Type := Dict (Dict String)

namespace ClassDecl

/-- The names that the fields of a class give. -/
def fieldOverrides (decl : ClassDecl) : List (String × String) :=
  decl.fields.filterMap fun field => field.property.map (field.name, ·)

/-- The names that the getters of a class give. -/
def getterOverrides (config : Config) (decl : ClassDecl) :
    List (String × String) :=
  (decl.methods.filter fun method => !method.isStatic).filterMap
      fun method => do
    let property ← method.property
    let name ← Accessor.getterProperty? config.getterPrefix method.name
    return (name, property)

/-- The names that a class gives, a later one counting more than an earlier
one. -/
def overrides (config : Config) (decl : ClassDecl) : List (String × String) :=
  decl.fieldOverrides ++ decl.getterOverrides config

end ClassDecl

namespace ClassIndex

variable (index : ClassIndex) (config : Config)

/-- The names given along the lineage of a class; the nearest class counts
most. -/
def classMappings (path : String) : Dict String :=
  match index.get? path with
  | none => .empty
  | some decl =>
      Dict.setAll .empty ((index.lineage config.rootType decl).flatMap
        (ClassDecl.overrides config))

/-- The names for an entity class: those given along its lineage, and those of
its holders. -/
def modelMappings (model : EntityModel) : Dict String :=
  (index.classMappings config model.path).setAll
    (model.relations.map fun (reference, holder) =>
      (reference.name, holder.name))

/-- The names for all entity classes that have any. -/
def entityReplacements (models : Keyed EntityModel EntityModel.path) :
    ReplacementMap :=
  Dict.setAll .empty ((models.toList.map fun model =>
    (model.path, index.modelMappings config model)).filter fun entry =>
      !entry.2.isEmpty)

/-- The names for projections: those of the entity classes whose properties they
show. -/
def projectionReplacements (entities : ReplacementMap) :
    List (String × Dict String) :=
  index.toList.filterMap fun decl => do
    let target ← decl.projectionFor
    let mappings ← entities.find? target
    return (decl.path, mappings)

/-- The names for all entity classes and projections that have any. -/
def replacements (models : Keyed EntityModel EntityModel.path) :
    ReplacementMap :=
  let entities := index.entityReplacements config models
  entities.setAll (index.projectionReplacements entities)

end ClassIndex

end EntityLink
