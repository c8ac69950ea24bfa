import EntityLink.Analysis
import EntityLink.Class.Json

/-!
# Analyses as JSON

The records in which models, catalogs and whole analyses are written.  An absent
option is null here.
-/

namespace EntityLink

def Json.ofOption (text : Option String) : Json :=
  (text.map Json.string).getD .null

def Json.ofStrings (texts : List String) : Json :=
  .array (texts.map .string)

def Json.ofDict (table : Dict String) : Json :=
  .object (table.toList.map fun (name, value) => (name, .string value))

def Wrapper.toJson : Wrapper → Json
  | .array => .string "array"
  | .list container => .object [("list", .string container)]

def Reference.members (reference : Reference) : List (String × Json) := [
  ("name", .string reference.name),
  ("ty", reference.type.toJson),
  ("holder_name", .string reference.holderName),
  ("holder_ty", reference.holderType.toJson),
  ("target", .string reference.target),
  ("target_id_field", .string reference.targetIdField),
  ("target_id_ty", reference.targetIdType.toJson),
  ("container_wrapped", .bool reference.isWrapped),
  ("wrappers", .array (reference.wrappers.map Wrapper.toJson)),
  ("type_mappings", .ofDict reference.typeMappings),
  ("holder_already_declared", .bool reference.isHolderDeclared),
  ("holder_init", (reference.holderInit.map TypeRef.toJson).getD .null),
  ("declared_in", .string reference.declaredIn)]

def Reference.toJson (reference : Reference) : Json :=
  .object reference.members

def Holder.members (holder : Holder) : List (String × Json) := [
  ("name", .string holder.name),
  ("ty", holder.type.toJson),
  ("owner_name", .string holder.ownerName),
  ("owner_ty", holder.ownerType.toJson),
  ("target", .string holder.target),
  ("target_id_field", .string holder.targetIdField),
  ("container_wrapped", .bool holder.isWrapped)]

def ModelField.toJson : ModelField → Json
  | .plain name type =>
      .object [("kind", .string "plain"), ("name", .string name),
        ("ty", type.toJson)]
  | .reference field =>
      .object (("kind", .string "referenced_entity") :: field.members)
  | .holder field =>
      .object (("kind", .string "reference_holder") :: field.members)

def EntityModel.toJson (model : EntityModel) : Json :=
  .object [
    ("class", .string model.path),
    ("fields",
      .object (model.fields.map fun field => (field.name, field.toJson)))]

def CatalogEntry.toJson (entry : CatalogEntry) : Json :=
  .object [
    ("path", .string entry.path),
    ("client", .ofOption entry.client),
    ("database", .ofOption entry.database),
    ("collection", .string entry.collection),
    ("indexes", .array (entry.indexes.map IndexSpec.toJson))]

def ReplacementMap.toJson (replacements : ReplacementMap) : Json :=
  .object (replacements.toList.map fun (path, mappings) =>
    (path, .ofDict mappings))

def Analysis.toJson (analysis : Analysis) : Json :=
  .object [
    ("models", .object (analysis.models.toList.map fun model =>
      (model.path, model.toJson))),
    ("public_field_classes", .ofStrings analysis.publicFieldClasses),
    ("reflection", .ofStrings analysis.reflection),
    ("replacements", analysis.replacements.toJson),
    ("catalog", .array (analysis.catalog.map CatalogEntry.toJson))]

end EntityLink
