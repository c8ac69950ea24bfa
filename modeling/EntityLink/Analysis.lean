import EntityLink.Catalog
import EntityLink.Replacement
import EntityLink.Validation

/-!
# Analysis of a class index

Everything that is known of the entity classes before code is written for them.
Settings are checked first, then identifiers, then the index as a whole, and
only then are models built.
-/

namespace EntityLink

/-- What is known of the entity classes of an index. -/
structure Analysis where
  models : Keyed EntityModel EntityModel.path
  publicFieldClasses : List String
  /-- The entity classes, in ascending order. -/
  reflection : List String
  replacements : ReplacementMap
  catalog : List CatalogEntry
  deriving Inhabited

/-- Finds what keeps an index from being analysed. -/
def ClassIndex.obstacle? (index : ClassIndex) (config : Config) :
    Option BuildError :=
  match config.fault? with
  | some fault => some (.config (.invalid fault))
  | none =>
      match index.duplicateIdentifiers config with
      | (decl, field) :: _ => some (.duplicateIdentifier decl.path field.name)
      | [] =>
          let violations := index.violations config
          if violations.isEmpty then none else some (.validation violations)

/-- Checks an index and builds everything that is known of its entity
classes. -/
def ClassIndex.analyze (index : ClassIndex) (config : Config) :
    Except BuildError Analysis := do
  match index.obstacle? config with
  | some obstacle => .error obstacle
  | none =>
      let set ← index.buildModels config
      let entities := index.entityClasses config
      return {
        models := set.models
        publicFieldClasses := set.publicFieldClasses
        reflection := entities.map ClassDecl.path
        replacements := index.replacements config set.models
        catalog := entities.map ClassDecl.catalogEntry }

end EntityLink
