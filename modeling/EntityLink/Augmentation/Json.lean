import EntityLink.Analysis.Json
import EntityLink.Augmentation

/-!
# Augmentations as JSON

The records in which augmentations are written.
-/

namespace EntityLink

def AccessorRole.toJson : AccessorRole → Json
  | .entityGetter => .string "entity_getter"
  | .entitySetter => .string "entity_setter"
  | .holderGetter => .string "holder_getter"
  | .holderSetter => .string "holder_setter"

def TypedField.toJson (field : TypedField) : Json :=
  .object [("name", .string field.name), ("ty", field.type.toJson)]

def SyntheticMethod.toJson (method : SyntheticMethod) : Json :=
  .object [
    ("name", .string method.name),
    ("role", method.role.toJson),
    ("relation", .string method.relation),
    ("params", .array (method.parameters.map TypeRef.toJson)),
    ("returns", (method.returns.map TypeRef.toJson).getD .null)]

def RelationPlan.toJson (plan : RelationPlan) : Json :=
  .object [("const_name", .string plan.constName),
    ("reference", plan.reference.toJson)]

def CheckRoutine.toJson (routine : CheckRoutine) : Json :=
  .object [
    ("name", .string routine.name),
    ("lazy_init", .array (routine.lazyInit.map TypedField.toJson)),
    ("relations", .ofStrings routine.relations)]

def Epilogue.toJson : Epilogue → Json
  | .implicit => .object [("kind", .string "implicit")]
  | .declared name parameters =>
      .object [
        ("kind", .string "declared"),
        ("ident", .string name),
        ("params", .array (parameters.map TypeRef.toJson))]

def Marker.toJson : Marker → Json
  | .skipPersist => .string "skip_persist"
  | .skipSerialize => .string "skip_serialize"

def FieldMarker.toJson (mark : FieldMarker) : Json :=
  .object [("field", .string mark.field), ("marker", mark.marker.toJson)]

def Augmentation.toJson (augmentation : Augmentation) : Json :=
  .object [
    ("class", .string augmentation.path),
    ("relations", .array (augmentation.relations.map RelationPlan.toJson)),
    ("fields", .array (augmentation.fields.map TypedField.toJson)),
    ("methods", .array (augmentation.methods.map SyntheticMethod.toJson)),
    ("validation", augmentation.check.toJson),
    ("epilogues", .array (augmentation.epilogues.map Epilogue.toJson)),
    ("markers", .array (augmentation.markers.map FieldMarker.toJson))]

end EntityLink
