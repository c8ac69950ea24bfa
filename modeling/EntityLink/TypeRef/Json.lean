import EntityLink.Json
import EntityLink.TypeRef

/-!
# Types as JSON

A type is a record whose member `kind` names its shape and comes first.  Reading
is the inverse of writing: `ofJson?_toJson`.
-/

namespace EntityLink.TypeRef

mutual

def toJson : TypeRef → Json
  | .primitive name =>
      .record [("kind", some (.string "primitive")),
        ("name", some (.string name))]
  | .named path =>
      .record [("kind", some (.string "class")), ("path", some (.string path))]
  | .array component =>
      .record [("kind", some (.string "array")),
        ("component", some component.toJson)]
  | .parameterized path arguments =>
      .record [("kind", some (.string "parameterized")), ("path",
        some (.string path)), ("args", some (.array (allToJson arguments)))]
  | .parameter name =>
      .record [("kind", some (.string "variable")),
        ("name", some (.string name))]

def allToJson : List TypeRef → List Json
  | [] => []
  | type :: types => type.toJson :: allToJson types

end

/-- The names of the shapes, in their order. -/
def shapeNames : List String :=
  ["primitive", "class", "array", "parameterized", "variable"]

/-- Reads the name of a shape.  In a type inside another one, the place of the
name among the shapes will do. -/
def shapeName? (isInner : Bool) : Json → Option String
  | .string name => some name
  | .integer place =>
      if isInner && 0 ≤ place then shapeNames[place.toNat]? else none
  | _ => none

/-- Reads the shape of a type: the one member `kind`, or the first element of an
array. -/
def shape? (isInner : Bool) : Json → Option String
  | .object members =>
      match members.filter fun member => member.1 == "kind" with
      | [(_, value)] => shapeName? isInner value
      | _ => none
  | .array (first :: _) => shapeName? isInner first
  | _ => none

mutual

/-- Reads a type whose parts are known to be readable. -/
def read? (isInner : Bool) (json : Json) : Option TypeRef :=
  match shape? isInner json with
  | some "primitive" =>
      match json.members? ["kind", "name"] with
      | some [_, some name] => name.string?.map .primitive
      | _ => none
  | some "class" =>
      match json.members? ["kind", "path"] with
      | some [_, some path] => path.string?.map .named
      | _ => none
  | some "array" =>
      match _members : json.members? ["kind", "component"] with
      | some [_, some component] => (read? true component).map .array
      | _ => none
  | some "parameterized" =>
      match _members : json.members? ["kind", "path", "args"] with
      | some [_, some path, some (.array items)] => do
          return .parameterized (← path.string?) (← readAll? items)
      | _ => none
  | some "variable" =>
      match json.members? ["kind", "name"] with
      | some [_, some name] => name.string?.map .parameter
      | _ => none
  | _ => none
termination_by sizeOf json
decreasing_by
  · exact Json.sizeOf_lt_of_members? _members (by simp)
  · have : sizeOf (Json.array items) < sizeOf json :=
      Json.sizeOf_lt_of_members? _members (by simp)
    simp only [Json.array.sizeOf_spec] at this
    omega

def readAll? (items : List Json) : Option (List TypeRef) :=
  match items with
  | [] => some []
  | item :: items => do
      return (← read? true item) :: (← readAll? items)
termination_by sizeOf items

end

/-- Reads a type.  All of it has to be readable, members that nobody asks for
included. -/
def ofJson? (json : Json) : Option TypeRef :=
  if json.isReadable then read? false json else none

mutual

theorem isReadable_toJson (type : TypeRef) : type.toJson.isReadable = true := by
  cases type with
  | primitive | named | parameter =>
      simp [toJson, Json.record, Json.isReadable, Json.membersReadable]
  | array component =>
      simp [toJson, Json.record, Json.isReadable, Json.membersReadable,
        isReadable_toJson component]
  | parameterized path arguments =>
      simp [toJson, Json.record, Json.isReadable, Json.membersReadable,
        areReadable_allToJson arguments]

theorem areReadable_allToJson (types : List TypeRef) :
    Json.areReadable (allToJson types) = true := by
  cases types with
  | nil => rfl
  | cons type types =>
      simp [allToJson, Json.areReadable, isReadable_toJson type,
        areReadable_allToJson types]

end

mutual

private theorem read?_toJson (isInner : Bool) (type : TypeRef) :
    read? isInner type.toJson = some type := by
  cases type with
  | primitive name | named name | parameter name =>
      rw [read?]
      simp [toJson, shape?, shapeName?, Json.record, Json.members?,
        Json.string?, List.lookup_cons]
  | array component =>
      have written : (array component).toJson.members? ["kind", "component"] =
          some [some (.string "array"), some component.toJson] := by
        rw [toJson]
        exact Json.members?_record
          [("kind", some (.string "array")),
            ("component", some component.toJson)] (by simp)
      have shape : shape? isInner (array component).toJson = some "array" := by
        simp [toJson, shape?, shapeName?, Json.record]
      rw [read?]
      simp only [shape]
      split
      next found =>
        rw [written] at found
        simp only [Option.some.injEq, List.cons.injEq, and_true] at found
        rw [← found.2, read?_toJson true component]
        rfl
      next other => exact absurd written (other _ _)
  | parameterized path arguments =>
      have written : (parameterized path arguments).toJson.members?
            ["kind", "path", "args"] =
          some [some (.string "parameterized"), some (.string path),
            some (.array (allToJson arguments))] := by
        rw [toJson]
        exact Json.members?_record
          [("kind", some (.string "parameterized")),
            ("path", some (.string path)),
            ("args", some (.array (allToJson arguments)))] (by simp)
      have shape : shape? isInner (parameterized path arguments).toJson =
          some "parameterized" := by
        simp [toJson, shape?, shapeName?, Json.record]
      rw [read?]
      simp only [shape]
      split
      next found =>
        rw [written] at found
        simp only [Option.some.injEq, List.cons.injEq, Json.array.injEq,
          and_true] at found
        rw [← found.2.1, ← found.2.2, readAll?_allToJson arguments]
        rfl
      next other => exact absurd written (other _ _ _)

private theorem readAll?_allToJson (types : List TypeRef) :
    readAll? (allToJson types) = some types := by
  cases types with
  | nil => simp [allToJson, readAll?]
  | cons type types =>
      rw [allToJson, readAll?, read?_toJson true type, readAll?_allToJson types]
      rfl

end

theorem ofJson?_null : ofJson? .null = none := by
  simp [ofJson?, read?, shape?]

/-- A type that was written reads back. -/
@[simp]
theorem ofJson?_toJson (type : TypeRef) : ofJson? type.toJson = some type := by
  simp [ofJson?, isReadable_toJson, read?_toJson false]

end EntityLink.TypeRef
