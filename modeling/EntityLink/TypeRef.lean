/-!
# Types of fields, parameters and results

A type as a class scan records it.  Types are compared in the order of their
five shapes and then part by part, and shown in one line.
-/

namespace EntityLink

/-- The type of a field, of a parameter or of a result. -/
inductive TypeRef where
  /-- A type of the language itself. -/
  | primitive (name : String)
  /-- A class, by its path. -/
  | named (path : String)
  | array (component : TypeRef)
  /-- A class with type arguments. -/
  | parameterized (path : String) (arguments : List TypeRef)
  /-- A type parameter. -/
  | parameter (name : String)
  deriving Inhabited, Repr

namespace TypeRef

mutual

def decideEq : (left right : TypeRef) → Decidable (left = right)
  | .primitive left, .primitive right =>
      decidable_of_iff (left = right) (by simp)
  | .named left, .named right => decidable_of_iff (left = right) (by simp)
  | .array left, .array right =>
      have := decideEq left right
      decidable_of_iff (left = right) (by simp)
  | .parameterized leftPath left, .parameterized rightPath right =>
      have := decideEqAll left right
      decidable_of_iff (leftPath = rightPath ∧ left = right) (by simp)
  | .parameter left, .parameter right =>
      decidable_of_iff (left = right) (by simp)
  | .primitive _, .named _ | .primitive _, .array _ | .primitive _,
    .parameterized _ _
  | .primitive _, .parameter _ | .named _, .primitive _ | .named _, .array _
  | .named _, .parameterized _ _ | .named _, .parameter _ | .array _,
    .primitive _
  | .array _, .named _ | .array _, .parameterized _ _ | .array _, .parameter _
  | .parameterized _ _, .primitive _ | .parameterized _ _, .named _
  | .parameterized _ _, .array _ | .parameterized _ _,
    .parameter _ | .parameter _, .primitive _
  | .parameter _, .named _ | .parameter _, .array _ | .parameter _,
    .parameterized _ _ =>
      isFalse nofun

def decideEqAll : (left right : List TypeRef) → Decidable (left = right)
  | [], [] => isTrue rfl
  | left :: lefts, right :: rights =>
      have := decideEq left right
      have := decideEqAll lefts rights
      decidable_of_iff (left = right ∧ lefts = rights) (by simp)
  | [], _ :: _ | _ :: _, [] => isFalse nofun

end

instance : DecidableEq TypeRef := decideEq

/-- The place of a type's shape in the order of types. -/
def rank : TypeRef → Nat
  | .primitive _ => 0
  | .named _ => 1
  | .array _ => 2
  | .parameterized _ _ => 3
  | .parameter _ => 4

mutual

/-- Compares two types by their shapes and then part by part. -/
def compare : TypeRef → TypeRef → Ordering
  | .primitive left, .primitive right => Ord.compare left right
  | .named left, .named right => Ord.compare left right
  | .array left, .array right => compare left right
  | .parameterized leftPath left, .parameterized rightPath right =>
      (Ord.compare leftPath rightPath).then (compareAll left right)
  | .parameter left, .parameter right => Ord.compare left right
  | left, right => Ord.compare left.rank right.rank

/-- Compares two lists of types from their first difference on. -/
def compareAll : List TypeRef → List TypeRef → Ordering
  | [], [] => .eq
  | [], _ :: _ => .lt
  | _ :: _, [] => .gt
  | left :: lefts, right :: rights =>
      (compare left right).then (compareAll lefts rights)

end

def sort (types : List TypeRef) : List TypeRef :=
  types.mergeSort fun left right => (compare left right).isLE

mutual

/-- Shows a type in one line: `[component]` for an array, `path<argument, …>`
with arguments. -/
def display : TypeRef → String
  | .primitive name | .parameter name => name
  | .named path => path
  | .array component => "[" ++ component.display ++ "]"
  | .parameterized path arguments =>
      path ++ "<" ++ ", ".intercalate (displayAll arguments) ++ ">"

def displayAll : List TypeRef → List String
  | [] => []
  | type :: types => type.display :: displayAll types

end

end TypeRef

end EntityLink
