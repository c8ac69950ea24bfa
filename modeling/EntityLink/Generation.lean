import EntityLink.Class.Json
import EntityLink.Config.Json
import EntityLink.Emission
import EntityLink.Json.Reader

/-!
# Generation of code

From a class index and settings to the code of all entity classes.  Nothing is
generated unless every class succeeds.
-/

namespace EntityLink

/-- What generation yields. -/
structure Generated where
  analysis : Analysis
  augmentations : List Augmentation
  /-- The holder fields to declare in the classes that need any. -/
  fieldDeclarations : Dict Code.Tokens
  code : Code.Tokens
  deriving Inhabited

namespace ClassIndex

/-- The code of one class: the members that it gains, and the fields to
declare. -/
def classCode (runtime : Code.Tokens) (augmentation : Augmentation) :
    Except GenerationFailure (Code.Tokens × Code.Tokens) := do
  return (← Emission.augmentation runtime augmentation,
    ← Emission.fieldDeclarations augmentation)

/-- Generates the code of all entity classes, with a path of the run-time
library that may be set for the process. -/
def generate (index : ClassIndex) (config : Config) (override : Option String) :
    Except GenerationFailure Generated := do
  let analysis ← (index.analyze config).mapError .build
  let runtime ← Emission.runtimePath override config
  let augmentations := analysis.models.toList.filterMap index.augment?
  let codes ← augmentations.mapM (classCode runtime)
  let declarations :=
    ((augmentations.map Augmentation.path).zip (codes.map Prod.snd)).filter
      fun (_, tokens) => !tokens.isEmpty
  return {
    analysis
    augmentations
    fieldDeclarations := Dict.setAll .empty declarations
    code := (codes.map Prod.fst).flatten ++
      Emission.bootstrap runtime analysis.replacements analysis.catalog }

end ClassIndex

/-- Reads a class index from its text. -/
def ClassIndex.ofText (text : String) : Except BuildError ClassIndex :=
  match (Json.parse? text).bind ClassIndex.ofJson? with
  | some index => .ok index
  | none => .error .indexMalformed

/-- A document that a build asks for. -/
inductive Document where
  | missing
  | text (content : String)

/-- Reads the class index and the settings from their documents, the index
first.  Without a settings document the defaults hold. -/
def readDocuments (index : Document) (config : Option Document) :
    Except BuildError (ClassIndex × Config) := do
  let index ← match index with
    | .missing => .error .indexUnavailable
    | .text content => ClassIndex.ofText content
  let config ← match config with
    | none => .ok {}
    | some .missing => .error (.config .unavailable)
    | some (.text content) => (Config.ofDocument content).mapError .config
  return (index, config)

def generateFromDocuments (index : Document) (config : Option Document)
    (override : Option String) : Except GenerationFailure Generated := do
  let (index, config) ← (readDocuments index config).mapError .build
  index.generate config override

end EntityLink
