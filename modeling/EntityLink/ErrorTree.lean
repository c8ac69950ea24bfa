/-!
# Trees of messages

Messages collected along routes.  A tree has messages of its own and, in
ascending order of their routes, child trees; `messagesAt` reads the messages at
a path of routes, `flatten` lists all of them with their paths written out.
-/

namespace EntityLink

/-- Messages, and child trees by ascending route. -/
inductive ErrorTree where
  | node (messages : List String) (children : List (String × ErrorTree))

namespace ErrorTree

def empty : ErrorTree := .node [] []

instance : Inhabited ErrorTree := ⟨empty⟩

def messages : ErrorTree → List String
  | .node messages _ => messages

def children : ErrorTree → List (String × ErrorTree)
  | .node _ children => children

def ofMessage (message : String) : ErrorTree := .node [message] []

/-- Adds a message to the tree's own. -/
def add (tree : ErrorTree) (message : String) : ErrorTree :=
  .node (tree.messages ++ [message]) tree.children

/-- Changes the child on a route, taking the empty tree where there is none. -/
def changeAt (route : String) (change : ErrorTree → ErrorTree) :
    List (String × ErrorTree) → List (String × ErrorTree)
  | [] => [(route, change empty)]
  | (name, child) :: rest =>
      if route < name then (route, change empty) :: (name, child) :: rest
      else if route = name then (name, change child) :: rest
      else (name, child) :: changeAt route change rest

/-- Changes the child on a route of the tree. -/
def changeChild (tree : ErrorTree) (route : String)
    (change : ErrorTree → ErrorTree) : ErrorTree :=
  .node tree.messages (changeAt route change tree.children)

def addFor (tree : ErrorTree) (route message : String) : ErrorTree :=
  tree.changeChild route (·.add message)

mutual

/-- Says whether a tree holds no message at all. -/
def isEmpty : ErrorTree → Bool
  | .node messages children => messages.isEmpty && areEmpty children

/-- Says whether the child trees of a list hold no message at all. -/
def areEmpty : List (String × ErrorTree) → Bool
  | [] => true
  | (_, child) :: rest => child.isEmpty && areEmpty rest

end

mutual

/-- Counts the messages of a tree. -/
def size : ErrorTree → Nat
  | .node messages children => messages.length + sizeAll children

/-- Counts the messages of the child trees of a list. -/
def sizeAll : List (String × ErrorTree) → Nat
  | [] => 0
  | (_, child) :: rest => child.size + sizeAll rest

end

mutual

/-- Adds all messages of another tree, each at the path it has there. -/
def absorb (tree : ErrorTree) : ErrorTree → ErrorTree
  | .node messages children =>
      absorbAll (.node (tree.messages ++ messages) tree.children) children

/-- Adds all messages of child trees, leaving out those without any. -/
def absorbAll (tree : ErrorTree) : List (String × ErrorTree) → ErrorTree
  | [] => tree
  | (route, child) :: rest =>
      absorbAll
        (if child.isEmpty then tree
        else tree.changeChild route fun existing => absorb existing child) rest

end

/-- Adds all messages of another tree below a route; a tree without any leaves
no trace. -/
def mergeFor (tree : ErrorTree) (route : String) (other : ErrorTree) :
    ErrorTree :=
  if other.isEmpty then tree else tree.changeChild route (·.absorb other)

/-- A route below a path of routes that is already written out. -/
def joinRoute (path route : String) : String :=
  if path = "" then route else path ++ "." ++ route

mutual

/-- Lists the messages of a tree, each with its path below the given one. -/
def flattenBelow (path : String) : ErrorTree → List (String × String)
  | .node messages children =>
      messages.map (path, ·) ++ flattenAll path children

/-- Lists the messages of child trees, each with its path below the given
one. -/
def flattenAll (path : String) :
    List (String × ErrorTree) → List (String × String)
  | [] => []
  | (route, child) :: rest =>
      flattenBelow (joinRoute path route) child ++ flattenAll path rest

end

/-- Lists all messages with their paths, a tree's own before those of its
children. -/
def flatten (tree : ErrorTree) : List (String × String) :=
  flattenBelow "" tree

/-- Shows all messages in one line, each after its path. -/
def display (tree : ErrorTree) : String :=
  "; ".intercalate (tree.flatten.map fun (path, message) =>
    if path = "" then message else path ++ ": " ++ message)

/-- Finds the child on a route. -/
def child? (tree : ErrorTree) (route : String) : Option ErrorTree :=
  tree.children.lookup route

/-- The messages at a path of routes. -/
def messagesAt (tree : ErrorTree) : List String → List String
  | [] => tree.messages
  | route :: path =>
      match tree.child? route with
      | none => []
      | some child => child.messagesAt path

mutual

def decideEq : (left right : ErrorTree) → Decidable (left = right)
  | .node leftMessages left, .node rightMessages right =>
      have := decideEqAll left right
      decidable_of_iff (leftMessages = rightMessages ∧ left = right) (by simp)

def decideEqAll :
    (left right : List (String × ErrorTree)) → Decidable (left = right)
  | [], [] => isTrue rfl
  | (leftRoute, left) :: lefts, (rightRoute, right) :: rights =>
      have := decideEq left right
      have := decideEqAll lefts rights
      decidable_of_iff
        ((leftRoute = rightRoute ∧ left = right) ∧ lefts = rights) (by simp)
  | [], _ :: _ | _ :: _, [] => isFalse nofun

end

instance : DecidableEq ErrorTree := decideEq

end ErrorTree

end EntityLink
