import EntityLink.Analysis
import EntityLink.Augmentation
import EntityLink.Code.Path

/-!
# Code for augmented classes

The members that a class gains, its check routine and the function that
publishes the registry, written as code.  References, holders and identifiers
are optional values there, and an array is a boxed slice.  All items of the
run-time library are named below one path.

Names and paths are checked where they come up, in the order in which the code
is put together, so the first bad one decides how generation fails.
-/

namespace EntityLink

namespace TypeRef

open Code

mutual

def code : TypeRef → Except GenerationFailure Tokens
  | .primitive name | .parameter name => do
      return [← identifier name]
  | .named path => Path.code path
  | .array component => do
      return absolute ["std", "boxed", "Box"] ++
        angle (square (← component.code))
  | .parameterized path arguments => do
      let path ← Path.code path
      return path ++ angle (commas (← codeAll arguments))

def codeAll : List TypeRef → Except GenerationFailure (List Tokens)
  | [] => .ok []
  | type :: types => do
      return (← type.code) :: (← codeAll types)

end

end TypeRef

namespace Emission

open Code

/-- The path of the run-time library: the one set for the process if it is a
path, else the one of the settings. -/
def runtimePath (override : Option String) (config : Config) :
    Except GenerationFailure Tokens :=
  match override.bind fun text => Path.parse? (Text.trim text) with
  | some path => .ok path
  | none =>
      match Path.parse? (Text.trim config.runtimePath) with
      | some path => .ok path
      | none => .error (.build (.invalidPath config.runtimePath))

/-- The path of the run-time library from its text. -/
def runtimePathOf (text : String) : Except GenerationFailure Tokens :=
  match Path.parse? (Text.trim text) with
  | some path => .ok path
  | none => .error (.build (.invalidPath text))

/-- The constant that describes a relation. -/
def relationConst (runtime : Tokens) (owner : String) (plan : RelationPlan) :
    Except GenerationFailure Tokens := do
  let name ← identifier plan.constName
  let reference := plan.reference
  let type := below runtime ["model", "RelationModel"]
  return words ["pub", "const"] ++ [name] ++ mark ':' ++ type ++ mark '=' ++
    below type ["new"] ++ round (commas [text owner, text reference.name,
      text reference.holderName, text reference.target,
      text reference.targetIdField]) ++
    (if reference.isWrapped then method "wrapped" [] else []) ++ mark ';'

def textsConst (name : String) (texts : List String) : Tokens :=
  words ["pub", "const", name] ++ mark ':' ++ mark '&' ++ [.mark '\'' true] ++
    word "static" ++
    square lastingText ++ mark '=' ++
    borrowed (square (commas (texts.map text))) ++ mark ';'

/-- The constants that list the marked fields. -/
def markers (augmentation : Augmentation) : Tokens :=
  textsConst "SKIP_PERSIST" (augmentation.fieldsMarked .skipPersist) ++
    textsConst "SKIP_SERIALIZE" (augmentation.fieldsMarked .skipSerialize)

/-- The function from the target of a relation to its identifier. -/
def idFunction (plan : RelationPlan) : Except GenerationFailure Tokens := do
  let target ← Path.code plan.reference.target
  let field ← identifier plan.reference.targetIdField
  return mark '|' ++ word "entity" ++ mark ':' ++ borrowed target ++ mark '|' ++
    word "entity" ++ mark '.' ++ [field] ++ method "clone" []

/-- The names and types from which the accessors of a relation are written. -/
structure AccessorParts where
  name : Token
  relation : Token
  field : Token
  holder : Token
  entityType : Tokens
  holderType : Tokens
  idOf : Tokens

def getter (name side : Token) (type : Tokens) : Tokens :=
  mark '#' ++ square (word "must_use") ++ words ["pub", "fn"] ++ [name] ++
    round (borrowed (word "self")) ++ symbol '-' '>' ++
    optionOf (borrowed type) ++
    curly (ownField side ++ method "as_ref" [])

/-- A setter of a side of a relation, which calls a function of the run-time
library. -/
def setter (parts : AccessorParts) (type call : Tokens) (last : List Tokens) :
    Tokens :=
  words ["pub", "fn"] ++ [parts.name] ++
    round (commas [borrowedToChange (word "self"),
      word "value" ++ mark ':' ++ optionOf type]) ++
    curly (call ++ round (commas ([
      borrowed (word "Self" ++ colons ++ [parts.relation]),
      borrowedToChange (ownField parts.field),
      borrowedToChange (ownField parts.holder),
      word "value"] ++ last)) ++ mark ';')

def accessor (runtime : Tokens) (augmentation : Augmentation)
    (synthetic : SyntheticMethod) :
    Except GenerationFailure Tokens := do
  match augmentation.plan? synthetic.relation with
  | none =>
      .error (.build (.missingRelation augmentation.path synthetic.relation))
  | some plan =>
      let reference := plan.reference
      let parts : AccessorParts := {
        name := ← identifier synthetic.name
        relation := ← identifier plan.constName
        field := ← identifier reference.name
        holder := ← identifier reference.holderName
        entityType := ← reference.type.code
        holderType := ← reference.holderType.code
        idOf := ← idFunction plan }
      match synthetic.role with
      | .entityGetter => return getter parts.name parts.field parts.entityType
      | .holderGetter => return getter parts.name parts.holder parts.holderType
      | .entitySetter =>
          let function := if reference.isWrapped then "set_entities"
            else "set_entity"
          return setter parts parts.entityType
            (below runtime ["sync", function]) [parts.idOf]
      | .holderSetter =>
          if reference.isWrapped then
            let target ← Path.code reference.target
            let idType ← reference.targetIdType.code
            return setter parts parts.holderType
              (below runtime ["sync", "set_holders"] ++ colons ++
                angle (commas [parts.entityType, parts.holderType, target,
                  idType])) []
          else
            return setter parts parts.holderType
              (below runtime ["sync", "set_holder"]) []

def checkError (runtime : Tokens) : Tokens :=
  below runtime ["error", "InconsistentReferenceError"]

/-- The names `p0`, `p1`, … of a number of parameters. -/
def parameterNames (count : Nat) : List Tokens :=
  (List.range count).map fun position => word s!"p{position}"

/-- A wrapper that runs the check routine after construction. -/
def epilogue (runtime : Tokens) (epilogue : Epilogue) :
    Except GenerationFailure Tokens := do
  let wrapper ← identifier epilogue.wrapperName
  let signature (parameters : Tokens) : Tokens :=
    words ["pub", "fn"] ++ [wrapper] ++ round parameters ++ symbol '-' '>' ++
      resultOf (word "Self") (checkError runtime)
  let construct := below runtime ["traits", "construct"]
  match epilogue with
  | .implicit =>
      return signature (word "self") ++ curly (construct ++ round (word "self"))
  | .declared name parameters =>
      let constructor ← identifier name
      let names := parameterNames parameters.length
      let types ← TypeRef.codeAll parameters
      let typed :=
        (names.zip types).map fun (name, type) => name ++ mark ':' ++ type
      return signature (commas typed) ++ curly (construct ++ round
        (word "Self" ++ colons ++ [constructor] ++ round (commas names)))

/-- The statement that gives an unset holder of a list its empty list. -/
def initStatement (runtime : Tokens) (field : TypedField) :
    Except GenerationFailure Tokens := do
  let holder ← identifier field.name
  return below runtime ["sync", "init_holder"] ++
    round (borrowedToChange (ownField holder)) ++
    mark ';'

/-- The statement that checks the relation with a constant; there is none
without its plan. -/
def checkStatement (runtime : Tokens) (augmentation : Augmentation)
    (constName : String) :
    Except GenerationFailure Tokens := do
  match augmentation.planOfConst? constName with
  | none => return []
  | some plan =>
      let reference := plan.reference
      let relation ← identifier constName
      let field ← identifier reference.name
      let holder ← identifier reference.holderName
      let idOf ← idFunction plan
      let function := if reference.isWrapped then "validate_many"
        else "validate_single"
      return below runtime ["sync", function] ++ round (commas [
        borrowed (word "Self" ++ colons ++ [relation]),
        borrowedToChange (ownField field),
        borrowedToChange (ownField holder),
        idOf]) ++ mark '?' ++ mark ';'

/-- The check routine of a class. -/
def checkRoutine (runtime : Tokens) (augmentation : Augmentation) :
    Except GenerationFailure Tokens := do
  let owner ← Path.code augmentation.path
  let routine ← identifier augmentation.check.name
  let inits ← augmentation.check.lazyInit.mapM (initStatement runtime)
  let checks ←
    augmentation.check.relations.mapM (checkStatement runtime augmentation)
  return word "impl" ++ below runtime ["traits", "ReferenceCheck"] ++
    word "for" ++ owner ++
    curly (word "fn" ++ [routine] ++ round (borrowedToChange (word "self")) ++
      symbol '-' '>' ++
      resultOf (round []) (checkError runtime) ++
      curly (inits.flatten ++ checks.flatten ++ word "Ok" ++ round (round [])))

/-- The members that a class gains, and its check routine. -/
def augmentation (runtime : Tokens) (augmentation : Augmentation) :
    Except GenerationFailure Tokens := do
  let owner ← Path.code augmentation.path
  let consts ←
    augmentation.relations.mapM (relationConst runtime augmentation.path)
  let methods ← augmentation.methods.mapM (accessor runtime augmentation)
  let epilogues ← augmentation.epilogues.mapM (epilogue runtime)
  let check ← checkRoutine runtime augmentation
  return word "impl" ++ owner ++
    curly (consts.flatten ++ markers augmentation ++
      methods.flatten ++ epilogues.flatten) ++ check

def fieldDeclaration (field : TypedField) :
    Except GenerationFailure Tokens := do
  let name ← identifier field.name
  let type ← field.type.code
  return word "pub" ++ [name] ++ mark ':' ++ optionOf type ++ mark ','

def fieldDeclarations (augmentation : Augmentation) :
    Except GenerationFailure Tokens := do
  return (← augmentation.fields.mapM fieldDeclaration).flatten

def truth (value : Bool) : Tokens := word (if value then "true" else "false")

/-- A number of sixty-four bits; the sign of a negative one is a token of its
own. -/
def number (value : Int64) : Tokens :=
  if value.toInt < 0 then mark '-' ++ literal s!"{value.toInt.natAbs}i64"
  else literal s!"{value.toInt}i64"

/-- The value that describes a key of a database index. -/
def indexKey (runtime : Tokens) (key : IndexKey) : Tokens :=
  below runtime ["index", "IndexKey", "new"] ++ round (commas [text key.field,
    below runtime ["index", "IndexDirection", key.direction.word]])

/-- The value that describes a database index. -/
def indexSpec (runtime : Tokens) (spec : IndexSpec) : Tokens :=
  let member (name : String) (value : Tokens) : Tokens :=
    word name ++ mark ':' ++ value ++ mark ','
  below runtime ["index", "IndexDef"] ++ curly (
    member "keys" (absolute ["std", "vec"] ++ mark '!' ++
      square (commas (spec.keys.map (indexKey runtime)))) ++
    member "background" (truth spec.background) ++
    member "unique" (truth spec.unique) ++
    member "name" (absolute ["std", "string", "String", "from"] ++
      round (text spec.name)) ++
    member "sparse" (truth spec.sparse) ++
    member "expire_after_seconds" (number spec.expireAfterSeconds) ++
    member "hidden" (truth spec.hidden))

/-- The call that records the stored names of a class. -/
def replacementsCall (path : String) (mappings : Dict String) : Tokens :=
  method "with_replacements" (commas [text path, borrowed (square (commas
    (mappings.toList.map fun (property, stored) =>
      round (commas [text property, text stored]))))])

/-- The call that records a catalog entry. -/
def entityCall (runtime : Tokens) (entry : CatalogEntry) : Tokens :=
  let optional (name : String) (value : Option String) : Tokens :=
    (value.map fun value => method name (text value)).getD []
  method "with_entity" (below runtime ["model", "EntityEntry", "new"] ++
    round (commas [text entry.path, text entry.collection]) ++
    optional "with_client" entry.client ++
    optional "with_database" entry.database ++
    entry.indexes.flatMap fun spec =>
      method "with_index" (indexSpec runtime spec))

/-- The function that publishes the registry. -/
def bootstrap (runtime : Tokens) (replacements : ReplacementMap)
    (catalog : List CatalogEntry) : Tokens :=
  let registry := below runtime ["registry", "Registry"]
  mark '#' ++ square (word "doc" ++ mark '=' ++
    literal ("r\" Publish the build-time registry snapshot. Call once at " ++
      "start-up.\"")) ++
  words ["pub", "fn", "bootstrap"] ++ round [] ++ symbol '-' '>' ++
    resultOf (absolute ["std", "sync", "Arc"] ++ angle registry)
      (below runtime ["error", "RegistryError"] ++ mark ',') ++
    curly (below runtime ["registry", "publish"] ++ round (
      below registry ["new"] ++ round [] ++
      replacements.toList.flatMap
        (fun (path, mappings) => replacementsCall path mappings) ++
      catalog.flatMap (entityCall runtime)))

end Emission

end EntityLink
