import EntityLink.Config
import EntityLink.Json
import EntityLink.Toml.Document

/-!
# Settings as JSON and as documents

Settings are read from a JSON record or from a settings document.  Both refuse a
member that is no setting.  A record may also be an array of its members in the
order given here; in a document such an array may be longer than the record, in
JSON it may not.
-/

namespace EntityLink

open Json (required defaulted)

/-- Reads the members of a record that may have no others. -/
def Json.closedMembers? (names : List String) (json : Json) :
    Option (List (Option Json)) :=
  if json.onlyMembers names then json.members? names else none

/-- Reads the members of a record that may have no others; surplus elements of
an array do not matter. -/
def Json.leadingMembers? (names : List String) (json : Json) :
    Option (List (Option Json)) :=
  (json.truncated names.length).closedMembers? names

/-- How the members of a record are read. -/
abbrev MemberReader : Type := List String → Json → Option (List (Option Json))

namespace IdConvention

def toJson (convention : IdConvention) : Json :=
  .record [("field", some (.string convention.field)),
    ("ty", some (.string convention.type))]

def ofJson? (members? : MemberReader) (json : Json) : Option IdConvention := do
  let usual : IdConvention := {}
  let [field, type] ← members? ["field", "ty"] json | none
  return {
    field := ← defaulted Json.string? usual.field field
    type := ← defaulted Json.string? usual.type type }

end IdConvention

namespace Container

def toJson (container : Container) : Json :=
  .record [
    ("path", some (.string container.path)),
    ("instantiable", some (.bool container.isInstantiable))]

def ofJson? (members? : MemberReader) (json : Json) : Option Container := do
  let [path, isInstantiable] ← members? ["path", "instantiable"] json | none
  return {
    path := ← required Json.string? path
    isInstantiable := ← defaulted Json.bool? true isInstantiable }

end Container

namespace Config

/-- Writes settings, defaults included. -/
def toJson (config : Config) : Json :=
  .record [
    ("entity_base", some (.string config.entityBase)),
    ("entity_with_id", some (.string config.identifiedBase)),
    ("root_type", some (.string config.rootType)),
    ("conventional_id", some config.conventionalId.toJson),
    ("fallback_id_field", some (.string config.fallbackIdField)),
    ("holder_suffix", some (.string config.holderSuffix)),
    ("containers", some (.array (config.containers.map Container.toJson))),
    ("getter_prefix", some (.string config.getterPrefix)),
    ("runtime_crate", some (.string config.runtimePath))]

/-- Reads settings with a reader of records, filling in defaults. -/
def ofMembers? (members? : MemberReader) (json : Json) : Option Config := do
  let usual : Config := {}
  let [entityBase, identifiedBase, rootType, conventionalId,
    fallbackIdField, holderSuffix, containers, getterPrefix, runtimePath] ←
    members? ["entity_base", "entity_with_id", "root_type", "conventional_id",
      "fallback_id_field", "holder_suffix", "containers", "getter_prefix",
      "runtime_crate"] json | none
  return {
    entityBase := ← defaulted Json.string? usual.entityBase entityBase
    identifiedBase := ←
      defaulted Json.string? usual.identifiedBase identifiedBase
    rootType := ← defaulted Json.string? usual.rootType rootType
    conventionalId :=
      ← defaulted (IdConvention.ofJson? members?) usual.conventionalId
        conventionalId
    fallbackIdField := ←
      defaulted Json.string? usual.fallbackIdField fallbackIdField
    holderSuffix := ← defaulted Json.string? usual.holderSuffix holderSuffix
    containers :=
      ← defaulted (Json.list? (Container.ofJson? members?))
        usual.containers containers
    getterPrefix := ← defaulted Json.string? usual.getterPrefix getterPrefix
    runtimePath := ← defaulted Json.string? usual.runtimePath runtimePath }

/-- Reads settings from JSON, without checking them. -/
def ofJson? (json : Json) : Option Config :=
  ofMembers? Json.closedMembers? json

/-- Reads and checks the settings of a document. -/
def ofDocument (text : String) : Except ConfigError Config :=
  match (Toml.parse? text).bind (ofMembers? Json.leadingMembers?) with
  | none => .error .malformed
  | some config =>
      match config.fault? with
      | some fault => .error (.invalid fault)
      | none => .ok config

end Config

end EntityLink
