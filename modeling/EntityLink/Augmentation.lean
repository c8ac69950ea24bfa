import EntityLink.Accessor
import EntityLink.Class.Index
import EntityLink.Model

/-!
# What a class gains

The members that are added to a class with relations, before they are written as
code: holder fields that nobody declares, four accessors for each relation
unless the class declares a method of the same name and parameters, a constant
for each relation, a routine that checks all relations, and a wrapper that runs
the routine after each way of construction.
-/

namespace EntityLink

/-- What an accessor does to which side of a relation. -/
inductive AccessorRole where
  | entityGetter
  | entitySetter
  | holderGetter
  | holderSetter
  deriving DecidableEq, Inhabited, Repr

structure TypedField where
  name : String
  type : TypeRef
  deriving DecidableEq, Inhabited, Repr

/-- An accessor to add. -/
structure SyntheticMethod where
  name : String
  role : AccessorRole
  /-- The name of the reference. -/
  relation : String
  parameters : List TypeRef
  returns : Option TypeRef
  deriving DecidableEq, Inhabited, Repr

structure RelationPlan where
  constName : String
  reference : Reference
  deriving DecidableEq, Inhabited

/-- The routine that checks all relations. -/
structure CheckRoutine where
  name : String
  /-- The holders of lists, which start with an empty list when unset. -/
  lazyInit : List TypedField
  /-- The constants of the relations, in the order of checks. -/
  relations : List String
  deriving DecidableEq, Inhabited

/-- A way of construction after which the routine runs. -/
inductive Epilogue where
  /-- From field values or defaults. -/
  | implicit
  /-- By a declared constructor. -/
  | declared (name : String) (parameters : List TypeRef)
  deriving DecidableEq, Inhabited

/-- How a field is treated when objects are written. -/
inductive Marker where
  | skipPersist
  | skipSerialize
  deriving DecidableEq, Inhabited, Repr

structure FieldMarker where
  field : String
  marker : Marker
  deriving DecidableEq, Inhabited

/-- Everything that a class gains. -/
structure Augmentation where
  path : String
  relations : List RelationPlan
  fields : List TypedField
  methods : List SyntheticMethod
  check : CheckRoutine
  epilogues : List Epilogue
  markers : List FieldMarker
  deriving DecidableEq, Inhabited

def CheckRoutine.usualName : String := "check_references"

namespace Epilogue

/-- The name of the wrapper of construction from field values. -/
def implicitName : String := "checked"

def wrapperName : Epilogue → String
  | .implicit => implicitName
  | .declared name _ => name ++ "_" ++ implicitName

def parameters : Epilogue → List TypeRef
  | .implicit => []
  | .declared _ parameters => parameters

end Epilogue

namespace Augmentation

def plan? (augmentation : Augmentation) (reference : String) :
    Option RelationPlan :=
  augmentation.relations.find? fun plan => plan.reference.name == reference

def planOfConst? (augmentation : Augmentation) (constName : String) :
    Option RelationPlan :=
  augmentation.relations.find? fun plan => plan.constName == constName

def method? (augmentation : Augmentation) (name : String) :
    Option SyntheticMethod :=
  augmentation.methods.find? fun method => method.name == name

def fieldsMarked (augmentation : Augmentation) (marker : Marker) :
    List String :=
  (augmentation.markers.filter fun mark => mark.marker == marker).map
    FieldMarker.field

/-- Lists the names of the constants, accessors and wrappers added to the
class. -/
def itemNames (augmentation : Augmentation) : List String :=
  augmentation.relations.map RelationPlan.constName ++
    ["SKIP_PERSIST", "SKIP_SERIALIZE"] ++
    augmentation.methods.map SyntheticMethod.name ++
    augmentation.epilogues.map Epilogue.wrapperName

end Augmentation

namespace ClassIndex

variable (index : ClassIndex) (path : String)

/-- Says whether a class declares an ordinary method with the given name and
parameters. -/
def declares (name : String) (parameters : List TypeRef) : Bool :=
  ((index.get? path).map fun decl => decl.hasMethod name parameters).getD false

/-- The four accessors of a relation: getter and setter of the reference, then
of the holder. -/
def accessorsOf (reference : Reference) (holder : Holder) :
    List SyntheticMethod := [
  { name := Accessor.getterName reference.name, role := .entityGetter,
    relation := reference.name, parameters := [],
    returns := some reference.type },
  { name := Accessor.setterName reference.name, role := .entitySetter,
    relation := reference.name, parameters := [reference.type],
    returns := none },
  { name := Accessor.getterName holder.name, role := .holderGetter,
    relation := reference.name, parameters := [], returns := some holder.type },
  { name := Accessor.setterName holder.name, role := .holderSetter,
    relation := reference.name, parameters := [holder.type], returns := none }]

/-- The wrappers of all ways of construction, except those that the class
declares itself. -/
def epilogues : List Epilogue :=
  let constructors := ((index.get? path).map ClassDecl.constructors).getD []
  (.implicit :: constructors.map fun method =>
    .declared method.name method.parameters).filter fun epilogue =>
    !index.declares path epilogue.wrapperName epilogue.parameters

/-- What the class of a model gains; nothing if the model has no relation. -/
def augment? (model : EntityModel) : Option Augmentation :=
  let relations := model.relations
  if relations.isEmpty then none
  else some {
    path := model.path
    relations := relations.map fun (reference, _) =>
      { constName := Accessor.relationConst reference.name, reference }
    fields :=
      (relations.filter fun relation => !relation.1.isHolderDeclared).map
        fun (_, holder) => { name := holder.name, type := holder.type }
    methods := (relations.flatMap fun (reference, holder) =>
      accessorsOf reference holder).filter fun method =>
      !index.declares model.path method.name method.parameters
    check := {
      name := CheckRoutine.usualName
      lazyInit := relations.filterMap fun (reference, holder) =>
        reference.holderInit.map fun type => { name := holder.name, type }
      relations := relations.map fun (reference, _) =>
        Accessor.relationConst reference.name }
    epilogues := index.epilogues model.path
    markers := relations.flatMap fun (reference, holder) =>
      [⟨reference.name, .skipPersist⟩, ⟨holder.name, .skipSerialize⟩] }

end ClassIndex

end EntityLink
