import EntityLink.Keyed
import EntityLink.Proofs.ErrorTree.Size
import Mathlib.Data.List.Sort

/-!
# The messages of a tree by their paths

The messages at a path are all that one can see of a tree.  Merging another tree
below a route appends that tree's messages behind those that stand there already
and leaves the messages of all other paths alone (`messagesAt_mergeFor`).  A
tree that is put together from nothing by the operations of this library has its
routes in ascending order and no child without a message (`Built`), and such
trees are equal when they show the same messages (`ext_messagesAt`).
-/

namespace EntityLink.ErrorTree

/-- A property of the lists of child trees that holds at every node of a
tree. -/
inductive Hereditary (holds : List (String × ErrorTree) → Prop) :
    ErrorTree → Prop where
  | node {messages : List String} {children : List (String × ErrorTree)}
      (here : holds children)
      (below : ∀ child ∈ children, Hereditary holds child.2) :
      Hereditary holds (.node messages children)

/-- The routes of child trees ascend. -/
def Ascending (children : List (String × ErrorTree)) : Prop :=
  children.Pairwise fun left right => left.1 < right.1

/-- Every child tree has a message. -/
def Filled (children : List (String × ErrorTree)) : Prop :=
  ∀ child ∈ children, child.2.isEmpty = false

/-- The routes of a tree ascend at every node. -/
def Ordered (tree : ErrorTree) : Prop :=
  Hereditary Ascending tree

/-- No tree below a tree is empty. -/
def Pruned (tree : ErrorTree) : Prop :=
  Hereditary Filled tree

/-- A tree that was put together from nothing. -/
inductive Built : ErrorTree → Prop where
  | empty : Built empty
  | ofMessage (message : String) : Built (ofMessage message)
  | add {tree : ErrorTree} (built : Built tree) (message : String) :
      Built (tree.add message)
  | addFor {tree : ErrorTree} (built : Built tree) (route message : String) :
      Built (tree.addFor route message)
  | mergeFor {tree other : ErrorTree} (built : Built tree)
      (otherBuilt : Built other) (route : String) :
      Built (tree.mergeFor route other)

theorem mem_changeAt {route : String} {change : ErrorTree → ErrorTree}
    {children : List (String × ErrorTree)} {child : String × ErrorTree}
    (member : child ∈ changeAt route change children) :
    child ∈ children ∨ child = (route, change empty) ∨
      ∃ old, (route, old) ∈ children ∧ child = (route, change old) := by
  induction children with
  | nil => exact .inr (.inl (List.mem_singleton.1 member))
  | cons first children induction =>
      obtain ⟨name, old⟩ := first
      rw [changeAt] at member
      split at member
      · rcases List.mem_cons.1 member with created | kept
        · exact .inr (.inl created)
        · exact .inl kept
      · split at member
        next same =>
          rcases List.mem_cons.1 member with changed | kept
          · exact .inr (.inr ⟨old, same ▸ List.mem_cons_self, same ▸ changed⟩)
          · exact .inl (List.mem_cons_of_mem _ kept)
        next =>
          rcases List.mem_cons.1 member with kept | later
          · exact .inl (kept ▸ List.mem_cons_self)
          · rcases induction later with kept | created
              | ⟨other, otherMember, changed⟩
            · exact .inl (List.mem_cons_of_mem _ kept)
            · exact .inr (.inl created)
            · exact .inr
                (.inr ⟨other, List.mem_cons_of_mem _ otherMember, changed⟩)

/-- A property of child trees that no change of a child to a tree with messages
takes away. -/
structure Kept (holds : List (String × ErrorTree) → Prop) : Prop where
  nil : holds []
  changeAt : ∀ (route : String) (change : ErrorTree → ErrorTree) (children),
    (∀ tree, (change tree).isEmpty = false) → holds children →
      holds (changeAt route change children)

theorem kept_ascending : Kept Ascending := by
  constructor
  case nil => exact .nil
  case changeAt =>
    intro route change children fills ascending
    induction children with
    | nil => exact List.pairwise_singleton _ _
    | cons first children induction =>
        obtain ⟨name, old⟩ := first
        obtain ⟨firstLess, laterAscending⟩ := List.pairwise_cons.1 ascending
        rw [ErrorTree.changeAt]
        split
        next less =>
          refine List.pairwise_cons.2 ⟨?_, ascending⟩
          intro child member
          rcases List.mem_cons.1 member with same | later
          · exact same ▸ less
          · exact String.lt_trans less (firstLess child later)
        next notLess =>
          split
          next => exact List.pairwise_cons.2 ⟨firstLess, laterAscending⟩
          next different =>
            refine List.pairwise_cons.2 ⟨?_, induction laterAscending⟩
            intro child member
            have nameLess : name < route :=
              Std.lt_of_le_of_ne (Std.not_lt.1 notLess) (Ne.symm different)
            rcases mem_changeAt member with kept | rfl | ⟨_, _, rfl⟩
            · exact firstLess child kept
            · exact nameLess
            · exact nameLess

theorem kept_filled : Kept Filled := by
  constructor
  case nil =>
    intro child member
    cases member
  case changeAt =>
    intro route change children fills filled child member
    rcases mem_changeAt member with kept | rfl | ⟨_, _, rfl⟩
    · exact filled child kept
    · exact fills _
    · exact fills _

/-- The messages of a tree's own do not matter to its child trees. -/
theorem Hereditary.of_children {holds : List (String × ErrorTree) → Prop}
    {tree : ErrorTree} (hereditary : Hereditary holds tree)
    (messages : List String) :
    Hereditary holds (.node messages tree.children) := by
  cases hereditary with
  | node here below => exact .node here below

namespace Kept

variable {holds : List (String × ErrorTree) → Prop}

theorem hereditary_leaf (kept : Kept holds) (messages : List String) :
    Hereditary holds (.node messages []) := by
  refine .node kept.nil ?_
  intro child member
  cases member

theorem hereditary_changeChild (kept : Kept holds) {tree : ErrorTree}
    {route : String} {change : ErrorTree → ErrorTree}
    (fills : ∀ child, (change child).isEmpty = false)
    (changes : ∀ child, Hereditary holds child →
      Hereditary holds (change child)) (hereditary : Hereditary holds tree) :
    Hereditary holds (tree.changeChild route change) := by
  cases hereditary with
  | node here below =>
      refine .node (kept.changeAt route change _ fills here) ?_
      intro child member
      rcases mem_changeAt member with unchanged | rfl | ⟨old, oldMember, rfl⟩
      · exact below child unchanged
      · exact changes empty (kept.hereditary_leaf [])
      · exact changes old (below (route, old) oldMember)

end Kept

theorem isEmpty_add (tree : ErrorTree) (message : String) :
    (tree.add message).isEmpty = false := by
  rw [← Bool.not_eq_true, isEmpty_iff, size_add]
  exact Nat.succ_ne_zero tree.size

theorem isEmpty_absorb (tree : ErrorTree) {other : ErrorTree}
    (filled : other.isEmpty = false) :
    (tree.absorb other).isEmpty = false := by
  rw [← Bool.not_eq_true, isEmpty_iff] at filled ⊢
  rw [size_absorb]
  omega

namespace Kept

variable {holds : List (String × ErrorTree) → Prop}

mutual

theorem hereditary_absorb (kept : Kept holds) {tree : ErrorTree}
    (hereditary : Hereditary holds tree) :
    (other : ErrorTree) → Hereditary holds (tree.absorb other)
  | .node messages children => by
      rw [absorb]
      exact hereditary_absorbAll kept (hereditary.of_children _) children

theorem hereditary_absorbAll (kept : Kept holds) {tree : ErrorTree}
    (hereditary : Hereditary holds tree) :
    (children : List (String × ErrorTree)) →
      Hereditary holds (absorbAll tree children)
  | [] => hereditary
  | (route, child) :: rest => by
      rw [absorbAll]
      apply hereditary_absorbAll kept
      split
      next => exact hereditary
      next filled =>
        refine kept.hereditary_changeChild ?_ ?_ hereditary
        · intro existing
          exact isEmpty_absorb existing (by simpa using filled)
        · intro existing existingHereditary
          exact hereditary_absorb kept existingHereditary child

end

theorem hereditary_mergeFor (kept : Kept holds) {tree : ErrorTree}
    (hereditary : Hereditary holds tree) (route : String) (other : ErrorTree) :
    Hereditary holds (tree.mergeFor route other) := by
  rw [mergeFor]
  split
  next => exact hereditary
  next filled =>
    refine kept.hereditary_changeChild ?_ ?_ hereditary
    · intro existing
      exact isEmpty_absorb existing (by simpa using filled)
    · intro existing existingHereditary
      exact kept.hereditary_absorb existingHereditary other

theorem hereditary_of_built (kept : Kept holds) {tree : ErrorTree}
    (built : Built tree) :
    Hereditary holds tree := by
  induction built with
  | empty => exact kept.hereditary_leaf []
  | ofMessage message => exact kept.hereditary_leaf [message]
  | add _ message induction => exact induction.of_children _
  | addFor _ route message induction =>
      refine kept.hereditary_changeChild
        (fun child => isEmpty_add child message) ?_ induction
      intro child hereditary
      exact hereditary.of_children _
  | mergeFor _ _ route induction _ =>
      exact kept.hereditary_mergeFor induction route _

end Kept

theorem Built.ordered {tree : ErrorTree} (built : Built tree) : tree.Ordered :=
  kept_ascending.hereditary_of_built built

theorem Built.pruned {tree : ErrorTree} (built : Built tree) : tree.Pruned :=
  kept_filled.hereditary_of_built built

theorem Ordered.mergeFor {tree : ErrorTree} (ordered : tree.Ordered)
    (route : String) (other : ErrorTree) :
    (tree.mergeFor route other).Ordered :=
  kept_ascending.hereditary_mergeFor ordered route other

theorem Ascending.nodup {children : List (String × ErrorTree)}
    (ascending : Ascending children) :
    (children.map Prod.fst).Nodup := by
  refine List.pairwise_map.2 (ascending.imp ?_)
  intro left right less same
  exact String.lt_irrefl _ (same ▸ less)

theorem Ordered.ascending {tree : ErrorTree} (ordered : tree.Ordered) :
    Ascending tree.children := by
  cases ordered with
  | node here => exact here

theorem Ordered.of_child? {tree child : ErrorTree} {route : String}
    (ordered : tree.Ordered) (found : tree.child? route = some child) :
    child.Ordered := by
  have member := (lookup_eq_some_iff_of_nodup ordered.ascending.nodup).1 found
  cases ordered with
  | node _ below => exact below _ member

theorem lookup_cons_of_ne {name route : String} (apart : name ≠ route)
    (child : ErrorTree) (children : List (String × ErrorTree)) :
    ((route, child) :: children).lookup name = children.lookup name := by
  have different : (name == route) = false := by simpa using apart
  rw [List.lookup_cons, different]

theorem lookup_eq_none_of_lt {children : List (String × ErrorTree)}
    {route : String} (below : ∀ child ∈ children, route < child.1) :
    children.lookup route = none := by
  rw [List.lookup_eq_none_iff]
  intro child member
  simpa using fun same : route = child.1 =>
    String.lt_irrefl _ (same ▸ below child member)

/-- The child on the route of a change is the changed one, and those on other
routes stay. -/
theorem lookup_changeAt {children : List (String × ErrorTree)}
    (ascending : Ascending children) (route : String)
    (change : ErrorTree → ErrorTree) (name : String) :
    (changeAt route change children).lookup name =
      if name = route then some (change ((children.lookup route).getD empty))
      else children.lookup name := by
  induction children with
  | nil =>
      by_cases same : name = route
      · simp [changeAt, same]
      · rw [changeAt, lookup_cons_of_ne same, if_neg same]
  | cons first children induction =>
      obtain ⟨firstRoute, child⟩ := first
      obtain ⟨firstLess, laterAscending⟩ := List.pairwise_cons.1 ascending
      rw [changeAt]
      split
      next less =>
        have below : ∀ later ∈ (firstRoute, child) :: children,
            route < later.1 := by
          intro later member
          rcases List.mem_cons.1 member with rfl | inRest
          · exact less
          · exact String.lt_trans less (firstLess later inRest)
        by_cases same : name = route
        · rw [same, List.lookup_cons_self, lookup_eq_none_of_lt below,
            if_pos rfl]
          rfl
        · rw [lookup_cons_of_ne same, if_neg same]
      next =>
        split
        next here =>
          subst here
          by_cases same : name = route
          · rw [same, List.lookup_cons_self, List.lookup_cons_self, if_pos rfl]
            rfl
          · rw [lookup_cons_of_ne same, lookup_cons_of_ne same, if_neg same]
        next different =>
          by_cases isFirst : name = firstRoute
          · rw [isFirst, List.lookup_cons_self, List.lookup_cons_self,
              if_neg (Ne.symm different)]
          · rw [lookup_cons_of_ne isFirst, lookup_cons_of_ne isFirst,
              induction laterAscending, lookup_cons_of_ne different]

theorem messagesAt_nil (tree : ErrorTree) :
    tree.messagesAt [] = tree.messages := by
  rw [messagesAt]

theorem messagesAt_empty (path : List String) : empty.messagesAt path = [] := by
  cases path with
  | nil => rfl
  | cons route path => rfl

theorem messagesAt_cons (tree : ErrorTree) (route : String)
    (path : List String) :
    tree.messagesAt (route :: path) =
      ((tree.child? route).getD empty).messagesAt path := by
  rw [messagesAt]
  cases tree.child? route with
  | none => exact (messagesAt_empty path).symm
  | some child => rfl

theorem messagesAt_changeChild_self {tree : ErrorTree} (ordered : tree.Ordered)
    (route : String) (change : ErrorTree → ErrorTree) (path : List String) :
    (tree.changeChild route change).messagesAt (route :: path) =
      (change ((tree.child? route).getD empty)).messagesAt path := by
  rw [messagesAt_cons, child?, changeChild, children,
    lookup_changeAt ordered.ascending, if_pos rfl]
  rfl

theorem messagesAt_changeChild_of_ne {tree : ErrorTree} (ordered : tree.Ordered)
    {route : String} (change : ErrorTree → ErrorTree) {path : List String}
    (elsewhere : path.head? ≠ some route) :
    (tree.changeChild route change).messagesAt path = tree.messagesAt path := by
  cases path with
  | nil => rfl
  | cons name path =>
      have different : name ≠ route := by simpa using elsewhere
      rw [messagesAt_cons, child?, changeChild,
        children, lookup_changeAt ordered.ascending, if_neg different,
        messagesAt_cons, child?]

theorem areEmpty_iff_forall {children : List (String × ErrorTree)} :
    areEmpty children = true ↔ ∀ child ∈ children, child.2.isEmpty = true := by
  induction children with
  | nil => simp [areEmpty]
  | cons child children induction => simp [areEmpty, induction]

theorem isEmpty_iff_children {tree : ErrorTree} :
    tree.isEmpty = true ↔
      tree.messages = [] ∧ ∀ child ∈ tree.children, child.2.isEmpty = true := by
  cases tree with
  | node messages children =>
      rw [isEmpty, Bool.and_eq_true, List.isEmpty_iff, areEmpty_iff_forall]
      rfl

theorem mem_children_of_child? {tree child : ErrorTree} {route : String}
    (found : tree.child? route = some child) :
    (route, child) ∈ tree.children := by
  obtain ⟨before, after, split, _⟩ := List.lookup_eq_some_iff.1 found
  rw [split]
  simp

theorem messagesAt_of_isEmpty {tree : ErrorTree}
    (noMessage : tree.isEmpty = true) (path : List String) :
    tree.messagesAt path = [] := by
  induction path generalizing tree with
  | nil => rw [messagesAt_nil, (isEmpty_iff_children.1 noMessage).1]
  | cons route path induction =>
      rw [messagesAt_cons]
      cases found : tree.child? route with
      | none => exact messagesAt_empty path
      | some child =>
          exact induction ((isEmpty_iff_children.1 noMessage).2 _
            (mem_children_of_child? found))

theorem Ordered.of_cons {route : String} {child : ErrorTree}
    {rest : List (String × ErrorTree)}
    (ordered : (node [] ((route, child) :: rest)).Ordered) :
    (∀ later ∈ rest, route < later.1) ∧ child.Ordered ∧
      (node [] rest).Ordered := by
  cases ordered with
  | node ascending below =>
      obtain ⟨routeLess, restAscending⟩ := List.pairwise_cons.1 ascending
      refine ⟨routeLess, below (route, child) List.mem_cons_self,
        .node restAscending ?_⟩
      intro later member
      exact below later (List.mem_cons_of_mem _ member)

theorem messagesAt_mergeFor_of_ne {tree : ErrorTree} (ordered : tree.Ordered)
    {route : String} (other : ErrorTree) {path : List String}
    (elsewhere : path.head? ≠ some route) :
    (tree.mergeFor route other).messagesAt path = tree.messagesAt path := by
  rw [mergeFor]
  split
  · rfl
  · exact messagesAt_changeChild_of_ne ordered _ elsewhere

/-- Where absorbing a tree appends its messages, merging it does so below the
route. -/
theorem messagesAt_mergeFor_of_absorb {tree other : ErrorTree}
    (ordered : tree.Ordered)
    (appends : ∀ existing : ErrorTree, existing.Ordered →
      ∀ path, (existing.absorb other).messagesAt path =
        existing.messagesAt path ++ other.messagesAt path)
    (route : String) (path : List String) :
    (tree.mergeFor route other).messagesAt (route :: path) =
      tree.messagesAt (route :: path) ++ other.messagesAt path := by
  rw [mergeFor]
  split
  next noMessage => rw [messagesAt_of_isEmpty noMessage, List.append_nil]
  next =>
    have existingOrdered : ((tree.child? route).getD empty).Ordered := by
      cases found : tree.child? route with
      | none => exact kept_ascending.hereditary_leaf []
      | some child => exact ordered.of_child? found
    rw [messagesAt_changeChild_self ordered, appends _ existingOrdered,
      messagesAt_cons]

mutual

/-- The messages of a tree that is absorbed stand behind those that were there
before. -/
theorem messagesAt_absorb {tree : ErrorTree} (ordered : tree.Ordered) :
    (other : ErrorTree) → other.Ordered → (path : List String) →
      (tree.absorb other).messagesAt path =
        tree.messagesAt path ++ other.messagesAt path
  | .node messages children, otherOrdered, path => by
      have childrenOrdered : (node [] children).Ordered :=
        otherOrdered.of_children []
      rw [absorb,
        messagesAt_absorbAll (ordered.of_children _) children childrenOrdered]
      cases path with
      | nil => simp [messagesAt_nil, ErrorTree.messages]
      | cons name path =>
          cases tree
          rfl

/-- Child trees are absorbed like a tree that has no messages beside theirs. -/
theorem messagesAt_absorbAll {tree : ErrorTree} (ordered : tree.Ordered) :
    (children : List (String × ErrorTree)) → (node [] children).Ordered →
      (path : List String) →
      (absorbAll tree children).messagesAt path =
        tree.messagesAt path ++ (node [] children).messagesAt path
  | [], _, path => by
      have nothing : (node [] []).messagesAt path = [] := messagesAt_empty path
      rw [absorbAll, nothing, List.append_nil]
  | (route, child) :: rest, childrenOrdered, path => by
      obtain ⟨routeLess, childOrdered, restOrdered⟩ := childrenOrdered.of_cons
      have step : absorbAll tree ((route, child) :: rest) =
          absorbAll (tree.mergeFor route child) rest := by
        rw [absorbAll, mergeFor]
      rw [step,
        messagesAt_absorbAll (ordered.mergeFor route child) rest restOrdered]
      by_cases here : path.head? = some route
      · obtain ⟨below, rfl⟩ := List.head?_eq_some_iff.1 here
        have appended := messagesAt_mergeFor_of_absorb ordered
          (fun existing existingOrdered =>
            messagesAt_absorb existingOrdered child childOrdered)
          route below
        have notInRest : (node [] rest).child? route = none :=
          lookup_eq_none_of_lt routeLess
        have inChild :
            (node [] ((route, child) :: rest)).child? route = some child :=
          List.lookup_cons_self
        rw [appended, messagesAt_cons (node [] rest), notInRest,
          messagesAt_cons (node [] ((route, child) :: rest)), inChild,
          Option.getD_none, messagesAt_empty, List.append_nil, Option.getD_some]
      · rw [messagesAt_mergeFor_of_ne ordered child here]
        cases path with
        | nil => rfl
        | cons name path =>
            have different : name ≠ route := by simpa using here
            have sameChild : (node [] ((route, child) :: rest)).child? name =
                (node [] rest).child? name :=
                  lookup_cons_of_ne different child rest
            rw [messagesAt_cons (node [] rest),
              messagesAt_cons (node [] ((route, child) :: rest)), sameChild]

end

theorem messagesAt_mergeFor {tree other : ErrorTree} (ordered : tree.Ordered)
    (otherOrdered : other.Ordered) (route : String) (path : List String) :
    (tree.mergeFor route other).messagesAt (route :: path) =
      tree.messagesAt (route :: path) ++ other.messagesAt path :=
  messagesAt_mergeFor_of_absorb ordered
    (fun _ existingOrdered =>
      messagesAt_absorb existingOrdered other otherOrdered) route path

theorem child?_eq_some_iff {tree child : ErrorTree} (ordered : tree.Ordered)
    {route : String} :
    tree.child? route = some child ↔ (route, child) ∈ tree.children :=
  lookup_eq_some_iff_of_nodup ordered.ascending.nodup

/-- A tree that is not empty shows a message somewhere. -/
theorem exists_messagesAt_ne_nil {tree : ErrorTree} (ordered : tree.Ordered)
    (filled : tree.isEmpty = false) : ∃ path, tree.messagesAt path ≠ [] := by
  induction ordered with
  | @node messages children here below induction =>
      by_cases noOwn : messages = []
      · rw [← Bool.not_eq_true, isEmpty_iff_children, not_and] at filled
        obtain ⟨route, child, member, childFilled⟩ :
            ∃ route child,
              (route, child) ∈ children ∧ child.isEmpty = false := by
          simpa [ErrorTree.children] using filled noOwn
        obtain ⟨path, shown⟩ := induction (route, child) member childFilled
        have ordered : (node messages children).Ordered := .node here below
        have found := (child?_eq_some_iff ordered).2 member
        refine ⟨route :: path, ?_⟩
        rw [messagesAt_cons, found]
        exact shown
      · exact ⟨[], noOwn⟩

/-- Where two trees show the same messages, a child of one that is not empty has
its like on the same route of the other. -/
theorem exists_child?_of_same {tree other child : ErrorTree} {route : String}
    (same : ∀ path, tree.messagesAt path = other.messagesAt path)
    (found : tree.child? route = some child) (ordered : child.Ordered)
    (filled : child.isEmpty = false) :
    ∃ like, other.child? route = some like ∧
      ∀ path, child.messagesAt path = like.messagesAt path := by
  have below : ∀ path,
      child.messagesAt path =
        ((other.child? route).getD empty).messagesAt path := by
    intro path
    rw [← messagesAt_cons, ← same, messagesAt_cons, found]
    rfl
  cases otherFound : other.child? route with
  | none =>
      obtain ⟨path, shown⟩ := exists_messagesAt_ne_nil ordered filled
      rw [below, otherFound] at shown
      exact absurd (messagesAt_empty path) shown
  | some like =>
      rw [otherFound] at below
      exact ⟨like, rfl, below⟩

/-- Trees without empty children are equal if they show the same messages. -/
theorem ext_messagesAt {tree other : ErrorTree} (ordered : tree.Ordered)
    (pruned : tree.Pruned) (otherOrdered : other.Ordered)
    (otherPruned : other.Pruned)
    (same : ∀ path, tree.messagesAt path = other.messagesAt path) :
    tree = other := by
  induction ordered generalizing other with
  | @node messages children here below induction =>
      have ordered : (node messages children).Ordered := .node here below
      obtain ⟨otherMessages, otherChildren⟩ := other
      obtain ⟨filled, childrenPruned⟩ := pruned
      obtain ⟨otherFilled, othersPruned⟩ := otherPruned
      have ownMessages : messages = otherMessages := same []
      have irreflexive : Std.Irrefl
          fun left right : String × ErrorTree => left.1 < right.1 :=
        ⟨fun child => String.lt_irrefl child.1⟩
      have antisymmetric : Std.Antisymm
          fun left right : String × ErrorTree => left.1 < right.1 :=
        ⟨fun _ _ less greater => absurd less (String.lt_asymm greater)⟩
      have sameChildren : children = otherChildren := by
        apply List.Pairwise.eq_of_mem_iff here otherOrdered.ascending
        rintro ⟨route, child⟩
        constructor
        · intro member
          have found := (child?_eq_some_iff ordered).2 member
          obtain ⟨like, likeFound, shown⟩ :=
            exists_child?_of_same same found (below _ member) (filled _ member)
          have likeMember := (child?_eq_some_iff otherOrdered).1 likeFound
          have equal : child = like := induction _
            member (childrenPruned _ member) (otherOrdered.of_child? likeFound)
            (othersPruned _ likeMember) shown
          rwa [equal]
        · intro member
          have found := (child?_eq_some_iff otherOrdered).2 member
          obtain ⟨like, likeFound, shown⟩ :=
            exists_child?_of_same (fun path => (same path).symm) found
              (otherOrdered.of_child? found) (otherFilled _ member)
          have likeMember := (child?_eq_some_iff ordered).1 likeFound
          have equal : like = child :=
            induction _ likeMember (childrenPruned _ likeMember)
              (otherOrdered.of_child? found) (othersPruned _ member) fun path =>
            (shown path).symm
          rwa [← equal]
      rw [ownMessages, sameChildren]

/-- What can be seen of trees: merging appends below its route and nowhere else,
the counts and the list agree, and trees that were put together from nothing are
what they show.  That routes ascend at every node is what a sorted map has by
itself, and merging keeps it. -/
theorem merging_exact :
    (∀ tree other : ErrorTree, tree.Ordered → other.Ordered → ∀ route,
      (tree.mergeFor route other).Ordered ∧
      (∀ path, (tree.mergeFor route other).messagesAt (route :: path) =
        tree.messagesAt (route :: path) ++ other.messagesAt path) ∧
      (∀ path, path.head? ≠ some route →
        (tree.mergeFor route other).messagesAt path = tree.messagesAt path) ∧
      (tree.mergeFor route other).size = tree.size + other.size) ∧
    (∀ tree : ErrorTree, (tree.isEmpty = true ↔ tree.size = 0) ∧
      (tree.isEmpty = true ↔ tree.flatten = []) ∧
      tree.flatten.length = tree.size) ∧
    (∀ tree, Built tree → tree.Ordered ∧ tree.Pruned) ∧
    ∀ tree other, Built tree → Built other →
      (tree = other ↔
        ∀ path, tree.messagesAt path = other.messagesAt path) := by
  refine ⟨?_, ?_, ?_, ?_⟩
  · intro tree other ordered otherOrdered route
    refine ⟨ordered.mergeFor route other,
      messagesAt_mergeFor ordered otherOrdered route, ?_,
      size_mergeFor tree route other⟩
    intro path elsewhere
    exact messagesAt_mergeFor_of_ne ordered other elsewhere
  · intro tree
    exact ⟨isEmpty_iff tree, isEmpty_iff_flatten_eq_nil tree,
      length_flattenBelow "" tree⟩
  · intro tree built
    exact ⟨built.ordered, built.pruned⟩
  · intro tree other built otherBuilt
    constructor
    · rintro rfl path
      rfl
    · exact ext_messagesAt built.ordered built.pruned otherBuilt.ordered
        otherBuilt.pruned

namespace Report

/-- What was found so far, an order among it. -/
def soFar : ErrorTree :=
  (ofMessage "2 classes").addFor "app::Order" "no identifier"

/-- What a closer look at the order finds. -/
def ofOrder : ErrorTree :=
  (((empty.addFor "fields" "blank name").mergeFor "methods" empty).add
    "twice").mergeFor "fields" (ofMessage "no type")

theorem built_soFar : Built soFar := .addFor (.ofMessage _) _ _

theorem built_ofOrder : Built ofOrder :=
  .mergeFor (.add (.mergeFor (.addFor .empty _ _) .empty _) _) (.ofMessage _) _

end Report

theorem merging_exact_report :
    Built Report.soFar ∧ Built Report.ofOrder ∧ Report.soFar.Ordered ∧
      Report.ofOrder.Pruned ∧
      (Report.soFar.mergeFor "app::Order" Report.ofOrder).messagesAt
          ["app::Order"] =
        ["no identifier", "twice"] ∧
      (Report.soFar.mergeFor "app::Order" Report.ofOrder).messagesAt
          ["app::Order", "fields"] =
        ["blank name", "no type"] ∧
      (Report.soFar.mergeFor "app::Order" Report.ofOrder).messagesAt [] =
        ["2 classes"] ∧
      (Report.soFar.mergeFor "app::Order" Report.ofOrder).size = 5 ∧
      Report.soFar ≠ Report.ofOrder := by
  obtain ⟨merges, _, built, shows⟩ := merging_exact
  obtain ⟨soFarOrdered, _⟩ := built _ Report.built_soFar
  obtain ⟨ofOrderOrdered, ofOrderPruned⟩ := built _ Report.built_ofOrder
  obtain ⟨_, below, elsewhere, counted⟩ :=
    merges _ _ soFarOrdered ofOrderOrdered "app::Order"
  refine ⟨Report.built_soFar, Report.built_ofOrder, soFarOrdered, ofOrderPruned,
    below [], below ["fields"], elsewhere [] (by decide), counted, ?_⟩
  intro same
  exact absurd ((shows _ _ Report.built_soFar Report.built_ofOrder).1 same [])
    (by decide)

end EntityLink.ErrorTree
