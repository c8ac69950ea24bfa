import EntityLink.Json

/-!
# Tables of a settings document

A document is a list of statements: headers that open a table, headers that add
an element to a list of tables, and assignments to a key of the open table.
Statements build up a tree of tables, in which nothing may be defined twice: a
key has one value, a table one header, and a table that an assignment created by
a dotted key takes no header.
-/

namespace EntityLink.Toml

/-- How a table of the document came about. -/
inductive Origin where
  /-- By a header of a table inside it. -/
  | passed
  /-- By a header of its own. -/
  | opened
  /-- By a dotted key of an assignment. -/
  | dotted
  deriving DecidableEq

/-- What stands under a key. -/
inductive Entry where
  | value (json : Json)
  | table (origin : Origin) (entries : List (String × Entry))
  /-- A list of tables, the last one first. -/
  | tables (elements : List (List (String × Entry)))

/-- The keys of a table with what stands under them. -/
abbrev Entries : Type := List (String × Entry)

/-- Replaces what stands under a key, or puts it at the end. -/
def Entries.put (entries : Entries) (key : String) (entry : Entry) : Entries :=
  if entries.any fun stored => stored.1 == key then
    entries.map fun stored => if stored.1 == key then (key, entry) else stored
  else entries ++ [(key, entry)]

/-- Changes the table that a path of header keys leads to.  Tables on the way
are created, and of a list of tables the last one is taken. -/
def Entries.within (change : Entries → Option Entries) (entries : Entries) :
    List String → Option Entries
  | [] => change entries
  | key :: path =>
      match entries.lookup key with
      | none => do
          return entries.put key (.table .passed (← within change [] path))
      | some (.table origin inner) => do
          return entries.put key (.table origin (← within change inner path))
      | some (.tables (last :: earlier)) => do
          return entries.put key
            (.tables ((← within change last path) :: earlier))
      | some _ => none

/-- Opens a table by its header. -/
def Entries.openTable (entries : Entries) (path : List String) :
    Option Entries := do
  let key ← path.getLast?
  entries.within (fun inner =>
    match inner.lookup key with
    | none => some (inner.put key (.table .opened []))
    | some (.table .passed entries) =>
        some (inner.put key (.table .opened entries))
    | some _ => none) path.dropLast

/-- Adds an element to a list of tables. -/
def Entries.openElement (entries : Entries) (path : List String) :
    Option Entries := do
  let key ← path.getLast?
  entries.within (fun inner =>
    match inner.lookup key with
    | none => some (inner.put key (.tables [[]]))
    | some (.tables elements) => some (inner.put key (.tables ([] :: elements)))
    | some _ => none) path.dropLast

/-- Assigns a value to a key of a table; a dotted key leads through tables of
its own. -/
def Entries.assign (value : Json) (entries : Entries) :
    List String → Option Entries
  | [] => none
  | [key] =>
      match entries.lookup key with
      | none => some (entries.put key (.value value))
      | some _ => none
  | key :: path =>
      match entries.lookup key with
      | none => do
          return entries.put key (.table .dotted (← assign value [] path))
      | some (.table .dotted inner) => do
          return entries.put key (.table .dotted (← assign value inner path))
      | some _ => none

mutual

/-- The value that stands under a key. -/
def Entry.toJson : Entry → Json
  | .value json => json
  | .table _ entries => .object (entriesToJson entries)
  | .tables elements => .array (elementsToJson elements).reverse

/-- The members of the object that a table stands for. -/
def entriesToJson : List (String × Entry) → List (String × Json)
  | [] => []
  | (key, entry) :: entries => (key, entry.toJson) :: entriesToJson entries

/-- The objects that a list of tables stands for. -/
def elementsToJson : List (List (String × Entry)) → List Json
  | [] => []
  | entries :: elements =>
      .object (entriesToJson entries) :: elementsToJson elements

end

end EntityLink.Toml
