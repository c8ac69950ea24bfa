import EntityLink.Registry

/-!
# Creation of database indexes

Each database index of a catalog is created by one call of a driver.  The driver
keeps a state of its own and may fail at any call, which ends the creation.
-/

namespace EntityLink

/-- The keys of an index as a driver takes them. -/
inductive IndexKeys where
  | single (key : IndexKey)
  | compound (keys : List IndexKey)
  deriving DecidableEq, Inhabited

/-- The keys of an index; there have to be some. -/
def IndexSpec.indexKeys? (spec : IndexSpec) : Option IndexKeys :=
  match spec.keys with
  | [] => none
  | [key] => some (.single key)
  | keys => some (.compound keys)

/-- The options of an index as a driver takes them, absent where the index
leaves them open. -/
structure CreateOptions where
  background : Bool
  unique : Bool
  name : Option String
  sparse : Bool
  expireAfterSeconds : Option Nat
  hidden : Bool
  deriving DecidableEq, Inhabited

def IndexSpec.options (spec : IndexSpec) : CreateOptions where
  background := spec.background
  unique := spec.unique
  name := if spec.name = "" then none else some spec.name
  sparse := spec.sparse
  expireAfterSeconds :=
    if 0 < spec.expireAfterSeconds then some spec.expireAfterSeconds.toInt.toNat
    else none
  hidden := spec.hidden

/-- A call that creates an index. -/
structure CreateCall where
  entity : CatalogEntry
  keys : IndexKeys
  options : CreateOptions
  deriving DecidableEq, Inhabited

/-- What carries out calls, with a state of type `σ` and errors of type `ε`. -/
abbrev Driver (σ ε : Type) : Type := CreateCall → σ → Except ε Unit × σ

/-- Why the creation of indexes ended. -/
inductive CreationError (ε : Type) where
  | emptyKeys (collection : String)
  | failed (collection : String) (spec : IndexSpec) (cause : ε)
  | registry (error : Registry.AccessError)
  deriving DecidableEq

def CreationError.message {ε : Type} (showCause : ε → String) :
    CreationError ε → String
  | .emptyKeys collection => s!"index on collection '{collection}' has no keys"
  | .failed collection spec cause =>
      let keys := spec.keyDocument
      let cause := showCause cause
      s!"failed to create index {keys} on collection '{collection}': {cause}"
  | .registry error => error.message

variable {σ ε : Type}

/-- Lists the indexes of a catalog in order, each with the class that it belongs
to. -/
def catalogIndexes (entities : List CatalogEntry) :
    List (CatalogEntry × IndexSpec) :=
  entities.flatMap fun entity => entity.indexes.map (entity, ·)

/-- Creates indexes one after the other, adding to the number of those created
before. -/
def createIndexes (driver : Driver σ ε) (created : Nat) :
    List (CatalogEntry × IndexSpec) → σ → Except (CreationError ε) Nat × σ
  | [], state => (.ok created, state)
  | (entity, spec) :: rest, state =>
      match spec.indexKeys? with
      | none => (.error (.emptyKeys entity.collection), state)
      | some keys =>
          match driver { entity, keys, options := spec.options } state with
          | (.error cause, state) =>
              (.error (.failed entity.collection spec cause), state)
          | (.ok _, state) => createIndexes driver (created + 1) rest state

/-- Creates all indexes of a catalog and counts them. -/
def ensureIndexes (driver : Driver σ ε) (entities : List CatalogEntry)
    (state : σ) : Except (CreationError ε) Nat × σ :=
  createIndexes driver 0 (catalogIndexes entities) state

/-- Creates all indexes of the published registry and counts them. -/
def ensurePublishedIndexes (driver : Driver σ ε) (slot : Registry.Slot)
    (state : σ) : Except (CreationError ε) Nat × σ :=
  match Registry.snapshot slot with
  | .error error => (.error (.registry error), state)
  | .ok registry => ensureIndexes driver registry.entities state

end EntityLink
