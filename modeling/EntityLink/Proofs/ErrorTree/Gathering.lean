import EntityLink.ErrorTree
import Mathlib.Data.List.Basic

/-!
# Messages gathered by route

Messages that come one after the other, each with a route, are gathered in a
tree that is one level deep.  `gather` is that tree as a whole: for each route
the messages that came with it, in the order in which they came.  Adding one
more message (`addFor_gather`) or all the messages of another tree without
children (`mergeFor_gather`) is as good as if they had come last, so a tree that
is built up in such steps need not be looked into.
-/

namespace EntityLink.ErrorTree

/-- The messages that come with a route, in order. -/
def messagesFor (items : List (String × String)) (route : String) :
    List String :=
  (items.filter fun item => item.1 == route).map Prod.snd

/-- The child that holds the messages of a route, if there are any. -/
def leaf? (items : List (String × String)) (route : String) :
    Option (String × ErrorTree) :=
  if messagesFor items route = [] then none
  else some (route, .node (messagesFor items route) [])

/-- The tree that gathers messages below the given routes. -/
def gather (routes : List String) (items : List (String × String)) :
    ErrorTree :=
  .node [] (routes.filterMap (leaf? items))

theorem messagesFor_append (items later : List (String × String))
    (route : String) :
    messagesFor (items ++ later) route = messagesFor items route ++
      messagesFor later route := by
  simp [messagesFor]

theorem messagesFor_of_route (route : String) (messages : List String) :
    messagesFor (messages.map (route, ·)) route = messages := by
  simp [messagesFor, List.filter_map, Function.comp_def]

theorem messagesFor_of_ne {route other : String} (apart : route ≠ other)
    (messages : List String) :
    messagesFor (messages.map (route, ·)) other = [] := by
  simp [messagesFor, apart]

/-- Where each item brings messages with its own route, those of a route are
brought by the items that have it. -/
theorem messagesFor_flatMap {α : Type} (route : α → String)
    (messages : α → List String) (items : List α) (sought : String) :
    messagesFor
        (items.flatMap fun item => (messages item).map (route item, ·)) sought =
      (items.filter fun item => route item == sought).flatMap messages := by
  induction items with
  | nil => rfl
  | cons item items induction =>
      rw [List.flatMap_cons, messagesFor_append, induction]
      by_cases here : route item = sought
      · rw [here, messagesFor_of_route,
          List.filter_cons_of_pos (by simp [here]), List.flatMap_cons]
      · rw [messagesFor_of_ne here, List.filter_cons_of_neg (by simp [here]),
          List.nil_append]

section Leaf

variable {items : List (String × String)} {route : String}

theorem leaf?_of_eq_nil (noMessage : messagesFor items route = []) :
    leaf? items route = none :=
  if_pos noMessage

theorem leaf?_of_ne_nil (someMessage : messagesFor items route ≠ []) :
    leaf? items route = some (route, .node (messagesFor items route) []) :=
  if_neg someMessage

theorem leaf?_append_of_ne {other : String} (apart : route ≠ other)
    (messages : List String) :
    leaf? (items ++ messages.map (route, ·)) other = leaf? items other := by
  rw [leaf?, leaf?, messagesFor_append, messagesFor_of_ne apart,
    List.append_nil]

end Leaf

theorem gather_nil (routes : List String) : gather routes [] = empty := by
  have noLeaf : routes.filterMap (leaf? []) = [] :=
    List.filterMap_eq_nil_iff.2 fun _ _ => leaf?_of_eq_nil rfl
  rw [gather, noLeaf, empty]

theorem name_of_mem_leaves {routes : List String}
    {items : List (String × String)} {child : String × ErrorTree}
    (member : child ∈ routes.filterMap (leaf? items)) :
    child.1 ∈ routes := by
  obtain ⟨route, routeMember, isLeaf⟩ := List.mem_filterMap.1 member
  rw [leaf?] at isLeaf
  split at isLeaf
  · cases isLeaf
  · cases isLeaf
    exact routeMember

theorem changeAt_of_lt {route : String} {children : List (String × ErrorTree)}
    (below : ∀ child ∈ children, route < child.1)
    (change : ErrorTree → ErrorTree) :
    changeAt route change children = (route, change empty) :: children := by
  cases children with
  | nil => rfl
  | cons child children =>
      rw [changeAt, if_pos (below child List.mem_cons_self)]

section Appending

variable (change : ErrorTree → ErrorTree) {added : List String}
  (appends : ∀ messages,
    change (.node messages []) = .node (messages ++ added) [])
  (someAdded : added ≠ []) (items : List (String × String))

include appends someAdded

theorem changeAt_leaves_first {route : String} {routes : List String}
    (less : ∀ other ∈ routes, route < other) :
    changeAt route change ((route :: routes).filterMap (leaf? items)) =
      (route :: routes).filterMap (leaf? (items ++ added.map (route, ·))) := by
  have others : routes.filterMap (leaf? (items ++ added.map (route, ·))) =
      routes.filterMap (leaf? items) := by
    refine List.filterMap_congr fun other member => leaf?_append_of_ne ?_ _
    exact fun same => String.lt_irrefl _ (same ▸ less other member)
  have messages : messagesFor (items ++ added.map (route, ·)) route =
      messagesFor items route ++ added := by
    rw [messagesFor_append, messagesFor_of_route]
  have gathered := leaf?_of_ne_nil
    (messages ▸
      List.append_ne_nil_of_right_ne_nil (messagesFor items route) someAdded)
  rw [List.filterMap_cons_some gathered, others, messages]
  by_cases noMessage : messagesFor items route = []
  · have below : ∀ child ∈ routes.filterMap (leaf? items), route < child.1 :=
      fun child member => less _ (name_of_mem_leaves member)
    rw [List.filterMap_cons_none (leaf?_of_eq_nil noMessage),
      changeAt_of_lt below, empty, appends, noMessage]
  · rw [List.filterMap_cons_some (leaf?_of_ne_nil noMessage), changeAt,
      if_neg (String.lt_irrefl route), if_pos rfl, appends]

/-- A change that appends some messages to a tree without children turns the
child of a route into what is gathered when these messages come last. -/
theorem changeAt_leaves {routes : List String}
    (ascending : routes.Pairwise (· < ·)) {route : String}
    (member : route ∈ routes) :
    changeAt route change (routes.filterMap (leaf? items)) =
      routes.filterMap (leaf? (items ++ added.map (route, ·))) := by
  induction routes with
  | nil => cases member
  | cons first routes induction =>
      have ⟨firstLess, laterAscending⟩ := List.pairwise_cons.1 ascending
      by_cases same : route = first
      · subst same
        exact changeAt_leaves_first change appends someAdded items firstLess
      · have later : route ∈ routes :=
          (List.mem_cons.1 member).resolve_left same
        have changed := induction laterAscending later
        have notLess : ¬route < first := String.lt_asymm (firstLess route later)
        have kept : leaf? (items ++ added.map (route, ·)) first =
            leaf? items first :=
          leaf?_append_of_ne same added
        by_cases noMessage : messagesFor items first = []
        · have noLeaf := leaf?_of_eq_nil noMessage
          rw [List.filterMap_cons_none noLeaf,
            List.filterMap_cons_none (kept.trans noLeaf), changed]
        · have isLeaf := leaf?_of_ne_nil noMessage
          rw [List.filterMap_cons_some isLeaf,
            List.filterMap_cons_some (kept.trans isLeaf), changeAt,
            if_neg notLess, if_neg same, changed]

end Appending

theorem absorb_leaf (earlier messages : List String) :
    (ErrorTree.node earlier []).absorb (.node messages []) =
      .node (earlier ++ messages) [] := by
  rw [absorb, absorbAll]
  rfl

section Ascending

variable {routes : List String} (ascending : routes.Pairwise (· < ·))
  {route : String} (member : route ∈ routes) (items : List (String × String))

include ascending member

theorem addFor_gather (message : String) :
    (gather routes items).addFor route message =
      gather routes (items ++ [(route, message)]) := by
  have added := changeAt_leaves (·.add message) (fun _ => rfl)
    (List.cons_ne_nil message []) items ascending member
  exact congrArg (ErrorTree.node []) added

theorem mergeFor_gather (messages : List String) :
    (gather routes items).mergeFor route (.node messages []) =
      gather routes (items ++ messages.map (route, ·)) := by
  cases messages with
  | nil => simp [mergeFor, isEmpty, areEmpty]
  | cons message messages =>
      rw [mergeFor, if_neg (by simp [isEmpty])]
      have absorbed :=
        changeAt_leaves (·.absorb (.node (message :: messages) []))
          (fun earlier => absorb_leaf earlier _) (List.cons_ne_nil _ _) items
          ascending member
      exact congrArg (ErrorTree.node []) absorbed

end Ascending

theorem foldl_gather {α : Type} {step : ErrorTree → α → ErrorTree}
    {brought : α → List (String × String)} {routes : List String}
    {steps : List α} (gathers : ∀ item ∈ steps, ∀ items,
      step (gather routes items) item = gather routes (items ++ brought item))
    (items : List (String × String)) :
    steps.foldl step (gather routes items) =
      gather routes (items ++ steps.flatMap brought) := by
  induction steps generalizing items with
  | nil => simp
  | cons item later induction =>
      have laterGathers :=
        fun other member => gathers other (List.mem_cons_of_mem item member)
      rw [List.foldl_cons, gathers item List.mem_cons_self,
        induction laterGathers, List.flatMap_cons, List.append_assoc]

theorem foldl_add (messages : List String) (earlier : List String) :
    messages.foldl add (.node earlier []) = .node (earlier ++ messages) [] := by
  induction messages generalizing earlier with
  | nil => simp
  | cons message messages induction =>
      rw [List.foldl_cons]
      simpa [add, ErrorTree.messages,
        ErrorTree.children] using induction (earlier ++ [message])

theorem flattenAll_leaves (routes : List String)
    (items : List (String × String)) :
    flattenAll "" (routes.filterMap (leaf? items)) =
      routes.flatMap fun route => (messagesFor items route).map (route, ·) := by
  induction routes with
  | nil => rfl
  | cons route routes induction =>
      rw [List.flatMap_cons]
      by_cases noMessage : messagesFor items route = []
      · rw [List.filterMap_cons_none (leaf?_of_eq_nil noMessage),
          induction, noMessage]
        rfl
      · rw [List.filterMap_cons_some (leaf?_of_ne_nil noMessage), flattenAll,
          induction, joinRoute, if_pos rfl, flattenBelow, flattenAll,
          List.append_nil]

theorem flatten_gather (routes : List String) (items : List (String × String)) :
    (gather routes items).flatten =
      routes.flatMap fun route => (messagesFor items route).map (route, ·) := by
  rw [flatten, gather, flattenBelow, flattenAll_leaves]
  rfl

end EntityLink.ErrorTree
