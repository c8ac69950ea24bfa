import EntityLink.BuildError
import EntityLink.Resolution.Classification
import EntityLink.Resolution.ModelField

/-!
# The fields that a class adds to a model

`resolveField` decides whether a declared field is a reference and derives its
holder.  `resolveClass` lists the fields of a class in model order: a holder
that the class declares itself keeps its declared place, any other one follows
its reference; static and ignored fields are left out.
-/

namespace EntityLink

namespace ClassIndex

variable (index : ClassIndex) (config : Config)

/-- Says whether a container can be created; for a scanned class the scan
decides, for another one the settings. -/
def isInstantiable (container : String) : Bool :=
  match index.get? container with
  | some decl => decl.isInstantiable
  | none =>
      ((config.container? container).map Container.isInstantiable).getD false

/-- The identifier field of an entity and its type: the conventional one, else
the first field that is marked, else the field with the fallback name. -/
def targetId? (target : ClassDecl) (classification : Classification) :
    Option (String × TypeRef) :=
  if classification.hasConventionalId then
    some (config.conventionalId.field, .named config.conventionalId.type)
  else
    ((target.fields.find? FieldDecl.isId).or
      (target.field? config.fallbackIdField)).map fun field =>
      (field.name, field.type)

/-- Finds the first list among wrappers that can neither be created nor is
mapped to another container. -/
def unmappedContainer? (mappings : Dict String) (wrappers : List Wrapper) :
    Option String :=
  wrappers.findSome? fun
    | .array => none
    | .list container =>
        if index.isInstantiable config container ||
          (mappings.find? container).isSome then none
        else some container

/-- The type with which an unset holder starts: for a list the holder's type,
else none. -/
def holderInit? (wrappers : List Wrapper) (holderType : TypeRef) :
    Option TypeRef :=
  match wrappers with
  | .list _ :: _ => some holderType
  | .array :: _ | [] => none

/-- Derives the reference that a field to an entity is. -/
def referenceTo (decl : ClassDecl) (field : FieldDecl) (target : ClassDecl)
    (classification : Classification) (wrappers : List Wrapper) :
    Except BuildError Reference :=
  let options := field.reference.getD {}
  let mappings := options.mappingTable
  match targetId? config target classification with
  | none => .error (.missingIdField decl.path field.name target.path)
  | some (idField, idType) =>
      match index.unmappedContainer? config mappings wrappers with
      | some container =>
          .error (.mappingRequired decl.path field.name container)
      | none =>
          match TypeRef.holderType? config target.path idType mappings
            field.type with
          | none => .error (.unsupportedShape decl.path field.name field.type)
          | some holderType => .ok {
              name := field.name
              type := field.type
              holderName :=
                options.holderName?.getD (field.name ++ config.holderSuffix)
              holderType
              target := target.path
              targetIdField := idField
              targetIdType := idType
              isWrapped := !wrappers.isEmpty
              wrappers
              typeMappings := mappings
              isHolderDeclared := false
              holderInit := holderInit? wrappers holderType
              declaredIn := decl.path }

/-- Decides whether a declared field is a reference; `none` means that it is
plain. -/
def resolveField (decl : ClassDecl) (field : FieldDecl) :
    Except BuildError (Option Reference) :=
  let unwrapped := field.type.unwrap config
  let unsupported := .error (.unsupportedShape decl.path field.name field.type)
  match unwrapped.core with
  | .primitive => .ok none
  | .unsupported => if field.reference.isSome then unsupported else .ok none
  | .named path =>
      match index.get? path with
      | none => .ok none
      | some target =>
          let classification := target.classify config
          if !classification.isEntity then .ok none
          else if unwrapped.wrappers.length > 1 then unsupported
          else (index.referenceTo config decl field target classification
            unwrapped.wrappers).map some

/-- Adds the references among the given fields to those found before.  No two
may have holders of one name. -/
def collectFrom (decl : ClassDecl) (found : List Reference) :
    List FieldDecl → Except BuildError (List Reference)
  | [] => .ok found
  | field :: fields => do
      match ← index.resolveField config decl field with
      | none => collectFrom decl found fields
      | some reference =>
          match found.find? fun other =>
            other.holderName == reference.holderName with
          | some other =>
              .error (.nameCollision decl.path field.name reference.holderName
                (.holderOf other.name))
          | none => collectFrom decl (found ++ [reference]) fields

/-- Lists the references that a class declares.  No holder may have the name of
a reference. -/
def collectReferences (decl : ClassDecl) :
    Except BuildError (List Reference) := do
  let references ←
    index.collectFrom config decl [] (decl.fields.filter FieldDecl.isStored)
  match references.find? fun reference =>
      references.any fun other => other.name == reference.holderName with
  | some reference =>
      .error (.nameCollision decl.path reference.name reference.holderName
        .namesReference)
  | none => .ok references

/-- A reference together with whether its class declares the holder itself. -/
structure BoundReference where
  reference : Reference
  declaresHolder : Bool

/-- Says whether a declared type will do for a holder: the derived type, or that
type with its containers not mapped. -/
def isHolderType (reference : Reference) (declared : TypeRef) : Bool :=
  declared == reference.holderType ||
    TypeRef.holderType? config reference.target reference.targetIdType .empty
        reference.type ==
      some declared

/-- Binds a reference to a field declared for its holder by the class or an
ancestor, if there is one, and takes over the declared type. -/
def bindHolder (decl : ClassDecl) (reference : Reference) :
    Except BuildError BoundReference :=
  match index.fieldInChain? config.rootType decl.path reference.holderName with
  | none => .ok ⟨reference, false⟩
  | some (owner, declared) =>
      let place := if owner.path = decl.path then HolderPlace.own
        else .inherited owner.path
      let collision (reason : CollisionReason) :
          Except BuildError BoundReference :=
        .error
          (.nameCollision decl.path reference.name reference.holderName reason)
      if declared.isIgnored then collision (.declaredIgnored place)
      else if declared.isStatic then collision (.declaredStatic place)
      else if !isHolderType config reference declared.type then
        collision (.declaredAs place declared.type reference.holderType)
      else .ok {
        reference := { reference with
          holderType := declared.type, isHolderDeclared := true }
        declaresHolder := owner.path == decl.path }

/-- The model fields that a declared field stands for. -/
def modelFieldsOf (bound : List BoundReference) (field : FieldDecl) :
    List ModelField :=
  match bound.find? fun link => link.reference.holderName == field.name with
  | some link => [.holder link.reference.holder]
  | none =>
      if !field.isStored then []
      else match bound.find? fun link => link.reference.name == field.name with
        | none => [.plain field.name field.type]
        | some link =>
            if link.declaresHolder then [.reference link.reference]
            else [.reference link.reference, .holder link.reference.holder]

/-- Lists the fields that a class adds to a model. -/
def resolveClass (decl : ClassDecl) : Except BuildError (List ModelField) := do
  let references ← index.collectReferences config decl
  let bound ← references.mapM (index.bindHolder config decl)
  return decl.fields.flatMap (modelFieldsOf bound)

end ClassIndex

end EntityLink
