/-!
# Keeping both sides of a relation in step

A relation has an entity side and a holder side, which holds the identifiers of
the entities.  Writing one side derives the other; validating derives a side
that is not set and otherwise checks that the sides agree.  Identifiers that
lead to no entity may stay in the holder: `Resolves` says which lists of
entities a list of identifiers stands for, and `agrees` decides it in one pass.

Entities are looked up by a function of the caller, which may have effects of
its own.
-/

namespace EntityLink

/-- A relation between a reference and its holder. -/
structure Relation where
  owner : String
  field : String
  holder : String
  target : String
  targetId : String
  isWrapped : Bool := false
  deriving DecidableEq, Inhabited, Repr

/-- The identifiers on both sides of a relation. -/
inductive SideIds (Id : Type) where
  | single (entity : Option Id) (holder : Id)
  | many (entities : List (Option Id)) (holders : List Id)
  deriving DecidableEq, Inhabited, Repr

/-- Two sides of a relation that do not agree. -/
structure Inconsistency (Id : Type) where
  relation : Relation
  ids : SideIds Id
  deriving DecidableEq, Inhabited, Repr

namespace Inconsistency

variable {Id : Type} (showId : Id → String)

private def showOption : Option Id → String
  | none => "None"
  | some id => "Some(" ++ showId id ++ ")"

private def showList {α : Type} (showItem : α → String) (items : List α) :
    String :=
  "[" ++ ", ".intercalate (items.map showItem) ++ "]"

def entityIds (inconsistency : Inconsistency Id) : String :=
  match inconsistency.ids with
  | .single entity _ => showOption showId entity
  | .many entities _ => showList (showOption showId) entities

def holderIds (inconsistency : Inconsistency Id) : String :=
  match inconsistency.ids with
  | .single _ holder => showId holder
  | .many _ holders => showList showId holders

/-- Shows on which relation the sides do not agree, and how. -/
def message (inconsistency : Inconsistency Id) : String :=
  let relation := inconsistency.relation
  let entityIds := inconsistency.entityIds showId
  let holderIds := inconsistency.holderIds showId
  s!"inconsistent reference {relation.owner}.{relation.field}: entity side " ++
    s!"has {entityIds}, holder '{relation.holder}' has {holderIds}"

end Inconsistency

variable {m : Type → Type} [Monad m] {Entity Id : Type}

structure Single (Entity Id : Type) where
  entity : Option Entity := none
  holder : Option Id := none
  deriving DecidableEq, Inhabited

namespace Single

/-- The sides after an entity was stored. -/
def ofEntity (idOf : Entity → Option Id) (value : Option Entity) :
    Single Entity Id :=
  ⟨value, value.bind idOf⟩

def ofHolder (find : Id → m (Option Entity)) (value : Option Id) :
    m (Single Entity Id) := do
  match value with
  | none => return ⟨none, none⟩
  | some id => return ⟨← find id, some id⟩

/-- Derives a side that is not set; two sides that are set have to agree. -/
def validate [DecidableEq Id] (find : Id → m (Option Entity))
    (idOf : Entity → Option Id) (sides : Single Entity Id) :
    m (Except (SideIds Id) (Single Entity Id)) := do
  match sides.entity, sides.holder with
  | none, none => return .ok sides
  | none, some id => return .ok ⟨← find id, some id⟩
  | some entity, none => return .ok ⟨some entity, idOf entity⟩
  | some entity, some id =>
      if idOf entity = some id then return .ok sides
      else return .error (.single (idOf entity) id)

end Single

structure Many (Entity Id : Type) where
  entities : Option (List Entity) := none
  holders : Option (List Id) := none
  deriving DecidableEq, Inhabited

namespace Many

/-- Finds the entities of a list of identifiers, passing over those that lead to
none. -/
def findAll (find : Id → m (Option Entity)) : List Id → m (List Entity)
  | [] => return []
  | id :: ids => do
      match ← find id with
      | none => findAll find ids
      | some entity => return entity :: (← findAll find ids)

/-- Pairs identifiers of entities with those of a holder from the left.  An
identifier of the holder that does not come next must lead to no entity. -/
def agrees [DecidableEq Id] (find : Id → m (Option Entity)) :
    List (Option Id) → List Id → m Bool
  | pending, [] => return pending.isEmpty
  | pending, id :: ids => do
      if pending.head? = some (some id) then agrees find pending.tail ids
      else
        match ← find id with
        | some _ => return false
        | none => agrees find pending ids

/-- A list of identifiers results from another one by deleting some that do not
resolve. -/
inductive Resolves (resolves : Id → Prop) : List Id → List Id → Prop where
  | nil : Resolves resolves [] []
  | keep (id : Id) {kept ids : List Id} (rest : Resolves resolves kept ids) :
      Resolves resolves (id :: kept) (id :: ids)
  | delete {id : Id} (unresolved : ¬resolves id) {kept ids : List Id}
      (rest : Resolves resolves kept ids) : Resolves resolves kept (id :: ids)

/-- The sides after entities were stored.  Entities without identifier leave no
trace in the holder. -/
def ofEntities (idOf : Entity → Option Id) (value : Option (List Entity)) :
    Many Entity Id :=
  ⟨value, value.map fun entities => entities.filterMap idOf⟩

def ofHolders (find : Id → m (Option Entity)) (value : Option (List Id)) :
    m (Many Entity Id) := do
  match value with
  | none => return ⟨none, none⟩
  | some ids => return ⟨some (← findAll find ids), some ids⟩

/-- Gives an unset holder its empty list. -/
def initHolders (sides : Many Entity Id) : Many Entity Id :=
  match sides.holders with
  | none => { sides with holders := some [] }
  | some _ => sides

/-- Derives a side that is unset or empty; two sides with elements have to
agree. -/
def validate [DecidableEq Id] (find : Id → m (Option Entity))
    (idOf : Entity → Option Id) (sides : Many Entity Id) :
    m (Except (SideIds Id) (Many Entity Id)) := do
  match sides.entities.getD [], sides.holders.getD [] with
  | [], [] => return .ok sides
  | [], id :: ids =>
      return .ok ⟨some (← findAll find (id :: ids)), sides.holders⟩
  | entity :: entities, [] =>
      return .ok ⟨sides.entities, some ((entity :: entities).filterMap idOf)⟩
  | entity :: entities, id :: ids =>
      let entityIds := (entity :: entities).map idOf
      if ← agrees find entityIds (id :: ids) then return .ok sides
      else return .error (.many entityIds (id :: ids))

end Many

/-- Validates sides in place: what there is to report, and the sides afterwards.
Sides that do not agree stay as they are. -/
def checkInPlace {σ : Type} (validate : σ → m (Except (SideIds Id) σ))
    (sides : σ) :
    m (Option (SideIds Id) × σ) := do
  match ← validate sides with
  | .ok sides => return (none, sides)
  | .error ids => return (some ids, sides)

end EntityLink
