import EntityLink.Text.Blank

/-!
# Settings

What the resolver has to be told about the scanned code base: its base classes,
its naming conventions, and the containers that count as lists.  Every setting
has a default.  `fault?` finds the first setting that is blank or contradicts
another one.
-/

namespace EntityLink

/-- The identifier that every subclass of the identified base has. -/
structure IdConvention where
  field : String := "id"
  type : String := "refsync::types::ObjectId"
  deriving DecidableEq, Inhabited, Repr

/-- A class with one type argument that counts as a list of it. -/
structure Container where
  path : String
  isInstantiable : Bool := true
  deriving DecidableEq, Inhabited, Repr

/-- The containers that count as lists unless the settings say otherwise. -/
def Container.usual : List Container :=
  ["Vec", "std::vec::Vec", "VecDeque", "std::collections::VecDeque",
    "LinkedList", "std::collections::LinkedList"].map fun path => { path }

structure Config where
  /-- The class whose subclasses are entities that declare their own
  identifier. -/
  entityBase : String := "refsync::EntityBase"
  /-- The class whose subclasses are entities with the conventional
  identifier. -/
  identifiedBase : String := "refsync::Entity"
  /-- The class at which every chain of superclasses ends. -/
  rootType : String := "object"
  conventionalId : IdConvention := {}
  /-- The name of the identifier field of an entity that marks none. -/
  fallbackIdField : String := "id"
  /-- What a holder's name adds to the name of its reference. -/
  holderSuffix : String := "_id"
  containers : List Container := Container.usual
  /-- What a getter's name has in front of the name of its property. -/
  getterPrefix : String := "get_"
  /-- The path by which generated code names the run-time library. -/
  runtimePath : String := "::refsync"
  deriving DecidableEq, Inhabited, Repr

/-- What can be wrong with settings. -/
inductive ConfigFault where
  | blankSetting (key : String)
  | equalBases (base : String)
  | blankContainer (isInstantiable : Bool)
  deriving DecidableEq, Inhabited, Repr

def ConfigFault.message : ConfigFault → String
  | .blankSetting key => s!"'{key}' must not be empty"
  | .equalBases base =>
      s!"'entity_base' and 'entity_with_id' must differ (both are '{base}')"
  | .blankContainer isInstantiable =>
      s!"container path must not be empty (instantiable = {isInstantiable})"

/-- Why there are no settings. -/
inductive ConfigError where
  /-- The settings document cannot be had. -/
  | unavailable
  /-- The settings document is not well formed or holds something that is not a
  setting. -/
  | malformed
  | invalid (fault : ConfigFault)
  deriving DecidableEq, Inhabited, Repr

namespace Config

/-- The settings that must not be blank, in the order in which they are
checked. -/
def requiredTexts (config : Config) : List (String × String) := [
  ("entity_base", config.entityBase),
  ("entity_with_id", config.identifiedBase),
  ("root_type", config.rootType),
  ("conventional_id.field", config.conventionalId.field),
  ("conventional_id.ty", config.conventionalId.type),
  ("fallback_id_field", config.fallbackIdField),
  ("holder_suffix", config.holderSuffix),
  ("runtime_crate", config.runtimePath)]

/-- Finds the first thing that is wrong with settings. -/
def fault? (config : Config) : Option ConfigFault :=
  match config.requiredTexts.find? fun setting => Text.isBlank setting.2 with
  | some setting => some (.blankSetting setting.1)
  | none =>
      if config.entityBase = config.identifiedBase then
        some (.equalBases config.entityBase)
      else (config.containers.find? fun container =>
        Text.isBlank container.path).map fun container =>
        .blankContainer container.isInstantiable

/-- Finds the first container with a path. -/
def container? (config : Config) (path : String) : Option Container :=
  config.containers.find? fun container => container.path == path

/-- Says whether a class counts as a list of its type argument. -/
def isList (config : Config) (path : String) : Bool :=
  (config.container? path).isSome

/-- Says whether a path is that of one of the two base classes. -/
def isBase (config : Config) (path : String) : Bool :=
  path == config.entityBase || path == config.identifiedBase

end Config

end EntityLink
