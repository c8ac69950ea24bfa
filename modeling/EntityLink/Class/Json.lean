import EntityLink.Class.Index
import EntityLink.TypeRef.Json

/-!
# Classes as JSON

The records in which a class index is written and read.  A reader fills in what
a record leaves out; a writer leaves out absent options, empty lists, and index
flags and names at their defaults.  A record may also be an array of its members
in the order given here.
-/

namespace EntityLink

open Json (required optional defaulted omitIf)

namespace Direction

def toJson : Direction → Json
  | .ascending => .string "asc"
  | .descending => .string "desc"

def ofJson? (json : Json) : Option Direction := do
  match ← json.alternative? with
  | "asc" => some .ascending
  | "desc" => some .descending
  | _ => none

end Direction

namespace Visibility

def toJson : Visibility → Json
  | .isPublic => .string "public"
  | .isProtected => .string "protected"
  | .isPackage => .string "package"
  | .isPrivate => .string "private"

def ofJson? (json : Json) : Option Visibility := do
  match ← json.alternative? with
  | "public" => some .isPublic
  | "protected" => some .isProtected
  | "package" => some .isPackage
  | "private" => some .isPrivate
  | _ => none

end Visibility

namespace MethodKind

def toJson : MethodKind → Json
  | .ordinary => .string "method"
  | .constructor => .string "constructor"

def ofJson? (json : Json) : Option MethodKind := do
  match ← json.alternative? with
  | "method" => some .ordinary
  | "constructor" => some .constructor
  | _ => none

end MethodKind

namespace ClassKind

def toJson : ClassKind → Json
  | .isConcrete => .string "concrete"
  | .isAbstract => .string "abstract"
  | .isInterface => .string "interface"

def ofJson? (json : Json) : Option ClassKind := do
  match ← json.alternative? with
  | "concrete" => some .isConcrete
  | "abstract" => some .isAbstract
  | "interface" => some .isInterface
  | _ => none

end ClassKind

namespace IndexKey

def toJson (key : IndexKey) : Json :=
  .record [("field", some (.string key.field)),
    ("direction", some key.direction.toJson)]

def ofJson? (json : Json) : Option IndexKey := do
  let [field, direction] ← json.members? ["field", "direction"] | none
  return {
    field := ← required Json.string? field
    direction := ← defaulted Direction.ofJson? .ascending direction }

end IndexKey

namespace IndexSpec

def toJson (spec : IndexSpec) : Json :=
  .record [
    ("keys", some (.array (spec.keys.map IndexKey.toJson))),
    ("background", omitIf (!spec.background) (.bool spec.background)),
    ("unique", omitIf (!spec.unique) (.bool spec.unique)),
    ("name", omitIf spec.name.isEmpty (.string spec.name)),
    ("sparse", omitIf (!spec.sparse) (.bool spec.sparse)),
    ("expire_after_seconds", some (.integer spec.expireAfterSeconds.toInt)),
    ("hidden", omitIf (!spec.hidden) (.bool spec.hidden))]

def ofJson? (json : Json) : Option IndexSpec := do
  let [keys, background, unique, name, sparse, expireAfterSeconds, hidden] ←
    json.members? ["keys", "background", "unique", "name", "sparse",
      "expire_after_seconds", "hidden"] | none
  return {
    keys := ← required (Json.list? IndexKey.ofJson?) keys
    background := ← defaulted Json.bool? false background
    unique := ← defaulted Json.bool? false unique
    name := ← defaulted Json.string? "" name
    sparse := ← defaulted Json.bool? false sparse
    expireAfterSeconds := ← defaulted Json.int64? 0 expireAfterSeconds
    hidden := ← defaulted Json.bool? false hidden }

end IndexSpec

namespace EntityMarker

def toJson (marker : EntityMarker) : Json :=
  .record [
    ("client", marker.client.map .string),
    ("database", marker.database.map .string),
    ("collection", marker.collection.map .string),
    ("indexes", omitIf marker.indexes.isEmpty
      (.array (marker.indexes.map IndexSpec.toJson)))]

def ofJson? (json : Json) : Option EntityMarker := do
  let [client, database, collection, indexes] ←
    json.members? ["client", "database", "collection", "indexes"] | none
  return {
    client := ← optional Json.string? client
    database := ← optional Json.string? database
    collection := ← optional Json.string? collection
    indexes := ← defaulted (Json.list? IndexSpec.ofJson?) [] indexes }

end EntityMarker

namespace TypeMapping

def toJson (mapping : TypeMapping) : Json :=
  .record [("ty", some (.string mapping.type)),
    ("mapped", some (.string mapping.mapped))]

def ofJson? (json : Json) : Option TypeMapping := do
  let [type, mapped] ← json.members? ["ty", "mapped"] | none
  return {
    type := ← required Json.string? type,
    mapped := ← required Json.string? mapped }

end TypeMapping

namespace ReferenceOptions

def toJson (options : ReferenceOptions) : Json :=
  .record [
    ("store_in", options.storeIn.map .string),
    ("type_mappings", omitIf options.typeMappings.isEmpty
      (.array (options.typeMappings.map TypeMapping.toJson)))]

def ofJson? (json : Json) : Option ReferenceOptions := do
  let [storeIn, typeMappings] ←
    json.members? ["store_in", "type_mappings"] | none
  return {
    storeIn := ← optional Json.string? storeIn
    typeMappings := ←
      defaulted (Json.list? TypeMapping.ofJson?) [] typeMappings }

end ReferenceOptions

namespace FieldDecl

def toJson (field : FieldDecl) : Json :=
  .record [
    ("ident", some (.string field.name)),
    ("ty", some field.type.toJson),
    ("visibility", some field.visibility.toJson),
    ("is_static", some (.bool field.isStatic)),
    ("id", some (.bool field.isId)),
    ("ignore", some (.bool field.isIgnored)),
    ("property", field.property.map .string),
    ("reference", field.reference.map ReferenceOptions.toJson)]

def ofJson? (json : Json) : Option FieldDecl := do
  let [name, type, visibility, isStatic, isId, isIgnored, property, reference] ←
    json.members? ["ident", "ty", "visibility", "is_static", "id", "ignore",
      "property", "reference"] | none
  return {
    name := ← required Json.string? name
    type := ← required TypeRef.ofJson? type
    visibility := ← defaulted Visibility.ofJson? .isPublic visibility
    isStatic := ← defaulted Json.bool? false isStatic
    isId := ← defaulted Json.bool? false isId
    isIgnored := ← defaulted Json.bool? false isIgnored
    property := ← optional Json.string? property
    reference := ← optional ReferenceOptions.ofJson? reference }

end FieldDecl

namespace MethodDecl

def toJson (method : MethodDecl) : Json :=
  .record [
    ("ident", some (.string method.name)),
    ("kind", some method.kind.toJson),
    ("params", omitIf method.parameters.isEmpty
      (.array (method.parameters.map TypeRef.toJson))),
    ("returns", method.returns.map TypeRef.toJson), ("is_static",
      some (.bool method.isStatic)), ("property", method.property.map .string)]

def ofJson? (json : Json) : Option MethodDecl := do
  let [name, kind, parameters, returns, isStatic, property] ← json.members?
    ["ident", "kind", "params", "returns", "is_static", "property"] | none
  return {
    name := ← required Json.string? name
    kind := ← defaulted MethodKind.ofJson? .ordinary kind
    parameters := ← defaulted (Json.list? TypeRef.ofJson?) [] parameters
    returns := ← optional TypeRef.ofJson? returns
    isStatic := ← defaulted Json.bool? false isStatic
    property := ← optional Json.string? property }

end MethodDecl

namespace ClassDecl

def toJson (decl : ClassDecl) : Json :=
  .record [
    ("path", some (.string decl.path)),
    ("superclass", decl.superclass.map .string),
    ("interfaces",
      omitIf decl.interfaces.isEmpty (.array (decl.interfaces.map .string))),
    ("kind", some decl.kind.toJson),
    ("entity", decl.entity.map EntityMarker.toJson),
    ("projection_for", decl.projectionFor.map .string), ("fields",
      some (.array (decl.fields.map FieldDecl.toJson))), ("methods", omitIf
        decl.methods.isEmpty (.array (decl.methods.map MethodDecl.toJson)))]

def ofJson? (json : Json) : Option ClassDecl := do
  let [path, superclass, interfaces, kind, entity, projectionFor, fields,
    methods] ← json.members? ["path", "superclass", "interfaces", "kind",
    "entity", "projection_for", "fields", "methods"]
    | none
  return {
    path := ← required Json.string? path
    superclass := ← optional Json.string? superclass
    interfaces := ← defaulted (Json.list? Json.string?) [] interfaces
    kind := ← defaulted ClassKind.ofJson? .isConcrete kind
    entity := ← optional EntityMarker.ofJson? entity
    projectionFor := ← optional Json.string? projectionFor
    fields := ← defaulted (Json.list? FieldDecl.ofJson?) [] fields
    methods := ← defaulted (Json.list? MethodDecl.ofJson?) [] methods }

end ClassDecl

namespace ClassIndex

/-- Writes the classes in ascending order of their paths. -/
def toJson (index : ClassIndex) : Json :=
  .array (index.toList.map ClassDecl.toJson)

/-- Reads a list of classes; of several with one path the last counts. -/
def ofJson? (json : Json) : Option ClassIndex :=
  (json.list? ClassDecl.ofJson?).map .ofList

end ClassIndex

end EntityLink
