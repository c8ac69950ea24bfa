import EntityLink.Class.Json

/-!
# Classes written and read back

Every record of a class scan reads back as the value that was written, whatever
its members: what a writer leaves out is what the reader fills in.  An entity
marker and the options of a reference are no such members.  They are written
even when they say nothing, because a class with an empty marker is not a class
without one.
-/

namespace EntityLink

open Json (optional)

@[simp]
theorem Direction.ofJson?_toJson (direction : Direction) :
    ofJson? direction.toJson = some direction := by
  cases direction with
  | ascending => rfl
  | descending => rfl

@[simp]
theorem Visibility.ofJson?_toJson (visibility : Visibility) :
    ofJson? visibility.toJson = some visibility := by
  cases visibility with
  | isPublic => rfl
  | isProtected => rfl
  | isPackage => rfl
  | isPrivate => rfl

@[simp]
theorem MethodKind.ofJson?_toJson (kind : MethodKind) :
    ofJson? kind.toJson = some kind := by
  cases kind with
  | ordinary => rfl
  | constructor => rfl

@[simp]
theorem ClassKind.ofJson?_toJson (kind : ClassKind) :
    ofJson? kind.toJson = some kind := by
  cases kind with
  | isConcrete => rfl
  | isAbstract => rfl
  | isInterface => rfl

@[simp]
theorem IndexKey.ofJson?_toJson (key : IndexKey) :
    ofJson? key.toJson = some key := by
  have members : key.toJson.members? ["field", "direction"] = _ :=
    Json.members?_of_eq_record rfl rfl (by decide)
  simp [ofJson?, members]

@[simp]
theorem IndexSpec.ofJson?_toJson (spec : IndexSpec) :
    ofJson? spec.toJson = some spec := by
  have members : spec.toJson.members? ["keys", "background", "unique", "name",
      "sparse", "expire_after_seconds", "hidden"] = _ :=
    Json.members?_of_eq_record rfl rfl (by decide)
  simp [ofJson?, members]

@[simp]
theorem EntityMarker.ofJson?_toJson (marker : EntityMarker) :
    ofJson? marker.toJson = some marker := by
  have members : marker.toJson.members?
      ["client", "database", "collection", "indexes"] = _ :=
    Json.members?_of_eq_record rfl rfl (by decide)
  simp [ofJson?, members]

@[simp]
theorem TypeMapping.ofJson?_toJson (mapping : TypeMapping) :
    ofJson? mapping.toJson = some mapping := by
  have members : mapping.toJson.members? ["ty", "mapped"] = _ :=
    Json.members?_of_eq_record rfl rfl (by decide)
  simp [ofJson?, members]

@[simp]
theorem ReferenceOptions.ofJson?_toJson (options : ReferenceOptions) :
    ofJson? options.toJson = some options := by
  have members : options.toJson.members? ["store_in", "type_mappings"] = _ :=
    Json.members?_of_eq_record rfl rfl (by decide)
  simp [ofJson?, members]

@[simp]
theorem FieldDecl.ofJson?_toJson (field : FieldDecl) :
    ofJson? field.toJson = some field := by
  have members : field.toJson.members? ["ident", "ty", "visibility",
      "is_static", "id", "ignore", "property", "reference"] = _ :=
    Json.members?_of_eq_record rfl rfl (by decide)
  have reference :=
    Json.optional_map ReferenceOptions.ofJson?_toJson rfl field.reference
  simp [ofJson?, members, reference]

@[simp]
theorem MethodDecl.ofJson?_toJson (method : MethodDecl) :
    ofJson? method.toJson = some method := by
  have members : method.toJson.members?
      ["ident", "kind", "params", "returns", "is_static", "property"] = _ :=
    Json.members?_of_eq_record rfl rfl (by decide)
  have returns :=
    Json.optional_map TypeRef.ofJson?_toJson TypeRef.ofJson?_null method.returns
  simp [ofJson?, members, returns]

@[simp]
theorem ClassDecl.ofJson?_toJson (decl : ClassDecl) :
    ofJson? decl.toJson = some decl := by
  have members : decl.toJson.members? ["path", "superclass", "interfaces",
      "kind", "entity", "projection_for", "fields", "methods"] = _ :=
    Json.members?_of_eq_record rfl rfl (by decide)
  have interfaces := Json.defaulted_list Json.string?_string decl.interfaces
  have entity := Json.optional_map EntityMarker.ofJson?_toJson rfl decl.entity
  simp [ofJson?, members, interfaces, entity]

theorem ClassIndex.ofJson?_toJson (index : ClassIndex) :
    ofJson? index.toJson = some index := by
  rw [ofJson?, toJson, Json.list?_map ClassDecl.ofJson?_toJson]
  exact congrArg some (Keyed.ext (Keyed.toList_ofList index.ascending))

theorem ClassDecl.members?_entity (decl : ClassDecl) :
    decl.toJson.members? ["entity"] =
      some [decl.entity.map EntityMarker.toJson] :=
  Json.members?_record_of_mem _ (by simp)
    [("entity", decl.entity.map EntityMarker.toJson)] (by simp)

theorem FieldDecl.members?_reference (field : FieldDecl) :
    field.toJson.members? ["reference"] =
      some [field.reference.map ReferenceOptions.toJson] :=
  Json.members?_record_of_mem _ (by simp)
    [("reference", field.reference.map ReferenceOptions.toJson)] (by simp)

/-- An index that was written reads back and is written in the same way again.
The markers of its classes and the options of its references are written
whenever they are there. -/
theorem ClassIndex.roundTrip (index : ClassIndex) :
    ofJson? index.toJson = some index ∧
      (ofJson? index.toJson).map toJson = some index.toJson ∧
      ∀ decl ∈ index.toList,
        decl.toJson.members? ["entity"] =
            some [decl.entity.map EntityMarker.toJson] ∧
          ∀ field ∈ decl.fields, field.toJson.members? ["reference"] =
            some [field.reference.map ReferenceOptions.toJson] := by
  have readBack := ofJson?_toJson index
  refine ⟨readBack, congrArg (Option.map toJson) readBack, ?_⟩
  intro decl _
  exact ⟨decl.members?_entity, fun field _ => field.members?_reference⟩

end EntityLink
