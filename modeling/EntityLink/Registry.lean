import EntityLink.Analysis

/-!
# The registry

What generated code publishes at start-up: stored names of properties and the
catalog of stored classes.  At most one registry is published at a time; readers
get the whole of it, and what they got stays as it is.

`Operation` lists what can be asked of the published registry, and `perform`
answers.  A `Session` also has the snapshots that were handed out, which outlive
the publication that they come from.
-/

namespace EntityLink

/-- Stored names of properties and stored classes. -/
structure Registry where
  replacements : ReplacementMap := .empty
  entities : List CatalogEntry := []
  deriving DecidableEq, Inhabited

namespace Registry

def withReplacements (registry : Registry) (path : String)
    (pairs : List (String × String)) : Registry :=
  let mappings := ((registry.replacements.find? path).getD .empty).setAll pairs
  { registry with replacements := registry.replacements.set path mappings }

def withEntity (registry : Registry) (entry : CatalogEntry) : Registry :=
  { registry with entities := registry.entities ++ [entry] }

/-- The name under which a property of a class is stored: its own unless
recorded otherwise. -/
def storedName (registry : Registry) (path property : String) : String :=
  ((registry.replacements.find? path).bind fun mappings =>
    mappings.find? property).getD property

/-- Lists the stored classes in the order in which they were recorded. -/
def entityClasses (registry : Registry) : List String :=
  registry.entities.map CatalogEntry.path

/-- The registry that the code generated for an analysis publishes. -/
def ofAnalysis (analysis : Analysis) : Registry where
  replacements := analysis.replacements
  entities := analysis.catalog

/-- Why the published registry does not answer. -/
inductive AccessError where
  | alreadyPublished
  | notPublished
  deriving DecidableEq, Inhabited, Repr

def AccessError.message : AccessError → String
  | .alreadyPublished => "registry has already been published"
  | .notPublished => "registry has not been published"

/-- The published registry, if there is one. -/
abbrev Slot : Type := Option Registry

/-- Publishes a registry unless one is published already. -/
def publish (registry : Registry) : Slot → Except AccessError Registry × Slot
  | none => (.ok registry, some registry)
  | some published => (.error .alreadyPublished, some published)

def snapshot : Slot → Except AccessError Registry
  | none => .error .notPublished
  | some published => .ok published

/-- What can be asked of the published registry. -/
inductive Operation where
  | publish (registry : Registry)
  | snapshot
  | isPublished
  | storedName (path property : String)
  | entityClasses
  | teardown
  deriving DecidableEq

/-- What the published registry answers. -/
inductive Answer where
  | registry (registry : Registry)
  | refused (error : AccessError)
  | truth (value : Bool)
  | name (text : String)
  | classes (paths : List String)
  | done
  deriving DecidableEq

private def Answer.ofResult {α : Type} (answer : α → Answer) :
    Except AccessError α → Answer
  | .ok value => answer value
  | .error error => .refused error

/-- Answers an operation and says what is published afterwards. -/
def perform (operation : Operation) (slot : Slot) : Answer × Slot :=
  match operation with
  | .publish registry =>
      let (result, slot) := publish registry slot
      (.ofResult .registry result, slot)
  | .snapshot => (.ofResult .registry (snapshot slot), slot)
  | .isPublished => (.truth slot.isSome, slot)
  | .storedName path property =>
      (.ofResult .name ((snapshot slot).map fun registry =>
        registry.storedName path property), slot)
  | .entityClasses =>
      (.ofResult .classes ((snapshot slot).map entityClasses), slot)
  | .teardown => (.done, none)

/-- The registry that an answer hands out. -/
def Answer.snapshot? : Answer → Option Registry
  | .registry value => some value
  | .refused _ | .truth _ | .name _ | .classes _ | .done => none

/-- The published registry, and all snapshots that were handed out, in their
order. -/
structure Session where
  slot : Slot := none
  snapshots : List Registry := []
  deriving DecidableEq, Inhabited

/-- Answers an operation and keeps the snapshot that the answer hands out. -/
def Session.perform (session : Session) (operation : Operation) :
    Answer × Session :=
  let (answer, slot) := Registry.perform operation session.slot
  (answer, { slot, snapshots := session.snapshots ++ answer.snapshot?.toList })

end Registry

end EntityLink
