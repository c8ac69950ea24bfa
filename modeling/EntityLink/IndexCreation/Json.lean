import EntityLink.Analysis.Json
import EntityLink.IndexCreation

/-!
# Calls of a driver as JSON

The records in which the calls that create database indexes are written.
Directions are written as a database takes them, and an absent option is null.
-/

namespace EntityLink

def IndexKey.toPair (key : IndexKey) : Json :=
  .ofStrings [key.field, key.direction.number]

def IndexKeys.toJson : IndexKeys → Json
  | .single key => .object [("single", key.toPair)]
  | .compound keys => .object [("compound", .array (keys.map IndexKey.toPair))]

def CreateOptions.toJson (options : CreateOptions) : Json :=
  .object [
    ("background", .bool options.background),
    ("unique", .bool options.unique),
    ("name", .ofOption options.name),
    ("sparse", .bool options.sparse),
    ("expire_after_seconds",
      (options.expireAfterSeconds.map fun seconds =>
        Json.integer seconds).getD .null),
    ("hidden", .bool options.hidden)]

def CreateCall.toJson (call : CreateCall) : Json :=
  .object [
    ("entity", .array [.string call.entity.path, .ofOption call.entity.client,
      .ofOption call.entity.database, .string call.entity.collection]),
    ("keys", call.keys.toJson),
    ("options", call.options.toJson)]

end EntityLink
