import EntityLink.Class.Decl

/-!
# The class index and its hierarchy

All classes of a scan by their paths.  A class names its superclass, so classes
form chains; a chain may run into a class that was not scanned or back into
itself, and it never passes the *root type*, which counts as the superclass of
everything.

`ancestors` lists the scanned classes up the chain and is bounded by the number
of classes.  `superclassNames` collects all names up the chain, scanned or not,
and stops at the first that comes again.  `Extends` says the same as an
inductive relation.
-/

namespace EntityLink

/-- The scanned classes by their paths. -/
abbrev ClassIndex : Type := Keyed ClassDecl ClassDecl.path

structure ClassNotFound where
  path : String
  deriving DecidableEq, Inhabited, Repr

def ClassNotFound.message (error : ClassNotFound) : String :=
  s!"class '{error.path}' not found in index"

namespace ClassIndex

def fetch (index : ClassIndex) (path : String) :
    Except ClassNotFound ClassDecl :=
  match index.get? path with
  | some decl => .ok decl
  | none => .error ⟨path⟩

def superclass? (index : ClassIndex) (path : String) : Option String :=
  (index.get? path).bind ClassDecl.superclass

/-- Lists scanned classes up a chain from the given name on, as many as the
bound allows. -/
def ancestorsFrom (index : ClassIndex) (root : String) :
    Nat → Option String → List ClassDecl
  | 0, _ | _, none => []
  | bound + 1, some name =>
      if name = root then []
      else match index.get? name with
        | none => []
        | some decl => decl :: ancestorsFrom index root bound decl.superclass

/-- Lists the scanned superclasses of a class, the nearest first, up to the root
type or the first superclass that was not scanned. -/
def ancestors (index : ClassIndex) (root path : String) : List ClassDecl :=
  index.ancestorsFrom root index.size (index.superclass? path)

/-- Lists the scanned superclasses of a class, the nearest last, and the class
after them. -/
def lineage (index : ClassIndex) (root : String) (decl : ClassDecl) :
    List ClassDecl :=
  (index.ancestors root decl.path).reverse ++ [decl]

/-- Counts the scanned classes whose paths are not among the given names. -/
def countOutside (index : ClassIndex) (names : List String) : Nat :=
  (index.toList.filter fun decl => !names.contains decl.path).length

theorem countOutside_cons_lt {index : ClassIndex} {names : List String}
    {name : String} {decl : ClassDecl} (found : index.get? name = some decl)
    (outside : name ∉ names) :
    index.countOutside (name :: names) < index.countOutside names := by
  have ⟨member, path⟩ := Keyed.get?_eq_some_iff.1 found
  have narrowed :
      index.toList.filter (fun decl => !(name :: names).contains decl.path) =
      (index.toList.filter fun decl => !names.contains decl.path).filter
        fun decl => decl.path != name := by
    rw [List.filter_filter]
    refine List.filter_congr fun candidate _ => ?_
    rw [List.contains_cons, Bool.not_or]
    rfl
  rw [countOutside, countOutside, narrowed]
  refine List.length_filter_lt_length_iff_exists.2 ⟨decl, ?_, by simp [path]⟩
  simp [List.mem_filter, member, path, outside]

/-- Adds to the visited names those up a chain from the given name on, until the
root type, the end of the chain or a visited name. -/
def namesFrom (index : ClassIndex) (root : String) (visited : List String) :
    Option String → List String
  | none => visited
  | some name =>
      if _stop : name = root ∨ name ∈ visited then visited
      else match _found : index.get? name with
        | none => name :: visited
        | some decl => namesFrom index root (name :: visited) decl.superclass
termination_by index.countOutside visited
decreasing_by
  exact countOutside_cons_lt _found fun member => _stop (.inr member)

/-- All names up the chain of a class, including the first that was not
scanned. -/
def superclassNames (index : ClassIndex) (root path : String) : List String :=
  index.namesFrom root [] (index.superclass? path)

/-- Says whether a class extends another one directly or through others. -/
def isSubclassOf (index : ClassIndex) (root path base : String) : Bool :=
  path != base && (index.superclassNames root path).contains base

/-- Lists the scanned classes that extend a class directly or through others. -/
def knownSubclasses (index : ClassIndex) (root base : String) :
    List ClassDecl :=
  index.toList.filter fun decl => index.isSubclassOf root decl.path base

/-- Finds a field declared by a scanned class or by its nearest ancestor that
declares it, together with the class that does. -/
def fieldInChain? (index : ClassIndex) (root path name : String) :
    Option (ClassDecl × FieldDecl) := do
  let decl ← index.get? path
  (decl :: index.ancestors root path).findSome? fun link =>
    (link.field? name).map (link, ·)

/-- A class extends a name if superclass links lead from it to the name, each
link leaving a scanned class and none arriving at the root type. -/
inductive Extends (index : ClassIndex) (root : String) :
    String → String → Prop where
  | direct {path name : String} (link : index.superclass? path = some name)
      (notRoot : name ≠ root) : Extends index root path name
  | further {path middle name : String} (first : Extends index root path middle)
      (link : index.superclass? middle = some name) (notRoot : name ≠ root) :
      Extends index root path name

theorem Extends.trans {index : ClassIndex} {root first second third : String}
    (lower : Extends index root first second)
    (upper : Extends index root second third) :
    Extends index root first third := by
  induction upper with
  | direct link notRoot => exact .further lower link notRoot
  | further _ link notRoot induction => exact .further induction link notRoot

end ClassIndex

end EntityLink
