import EntityLink.ErrorTree
import Mathlib.Algebra.GroupWithZero.Nat

/-!
# The number of messages in a tree

No message is lost or made up when trees are put together: the numbers of
messages add up (`size_mergeFor`).  A tree is empty exactly when it has no
message (`isEmpty_iff`), and it lists as many as it has (`length_flattenBelow`).
-/

namespace EntityLink.ErrorTree

@[simp]
theorem size_empty : empty.size = 0 := rfl

theorem size_eq (tree : ErrorTree) :
    tree.size = tree.messages.length + sizeAll tree.children := by
  cases tree
  rfl

@[simp]
theorem size_add (tree : ErrorTree) (message : String) :
    (tree.add message).size = tree.size + 1 := by
  rw [size_eq tree, add, size, List.length_append, List.length_singleton]
  omega

mutual

theorem isEmpty_iff : (tree : ErrorTree) → (tree.isEmpty = true ↔ tree.size = 0)
  | .node messages children => by
      have children_iff := areEmpty_iff children
      rw [isEmpty, size, Bool.and_eq_true, children_iff, List.isEmpty_iff,
        ← List.length_eq_zero_iff]
      omega

theorem areEmpty_iff :
    (children : List (String × ErrorTree)) →
      (areEmpty children = true ↔ sizeAll children = 0)
  | [] => by simp [areEmpty, sizeAll]
  | (_, child) :: rest => by
      have child_iff := isEmpty_iff child
      have rest_iff := areEmpty_iff rest
      rw [areEmpty, sizeAll, Bool.and_eq_true, child_iff, rest_iff]
      omega

end

mutual

theorem length_flattenBelow (path : String) :
    (tree : ErrorTree) → (flattenBelow path tree).length = tree.size
  | .node messages children => by
      rw [flattenBelow, size, List.length_append, List.length_map,
        length_flattenAll]

theorem length_flattenAll (path : String) :
    (children : List (String × ErrorTree)) →
    (flattenAll path children).length = sizeAll children
  | [] => rfl
  | (route, child) :: rest => by
      rw [flattenAll, sizeAll, List.length_append, length_flattenBelow,
        length_flattenAll]

end

/-- An empty tree is one that lists no message. -/
theorem isEmpty_iff_flatten_eq_nil (tree : ErrorTree) :
    tree.isEmpty = true ↔ tree.flatten = [] := by
  rw [isEmpty_iff, ← List.length_eq_zero_iff, flatten, length_flattenBelow]

/-- A change that adds some messages to whatever child it meets adds as many to
the children. -/
theorem sizeAll_changeAt {change : ErrorTree → ErrorTree} {added : Nat}
    (grows : ∀ child, (change child).size = child.size + added) (route : String)
    (children : List (String × ErrorTree)) :
    sizeAll (changeAt route change children) = sizeAll children + added := by
  have created := grows empty
  rw [size_empty] at created
  induction children with
  | nil => simp [changeAt, sizeAll, created]
  | cons pair rest induction =>
      obtain ⟨name, child⟩ := pair
      rw [changeAt]
      split
      · rw [sizeAll, created, Nat.zero_add, Nat.add_comm]
      · split
        · rw [sizeAll, sizeAll, grows child]
          omega
        · rw [sizeAll, sizeAll, induction]
          omega

theorem size_changeChild {change : ErrorTree → ErrorTree} {added : Nat}
    (grows : ∀ child, (change child).size = child.size + added)
    (tree : ErrorTree) (route : String) :
    (tree.changeChild route change).size = tree.size + added := by
  rw [size_eq tree, changeChild, size, sizeAll_changeAt grows]
  omega

@[simp]
theorem size_addFor (tree : ErrorTree) (route message : String) :
    (tree.addFor route message).size = tree.size + 1 :=
  size_changeChild (fun child => size_add child message) tree route

mutual

theorem size_absorb :
    (tree other : ErrorTree) → (tree.absorb other).size = tree.size + other.size
  | tree, .node messages children => by
      rw [absorb, size_absorbAll, size, size, size_eq tree, List.length_append]
      omega

theorem size_absorbAll :
    (tree : ErrorTree) → (children : List (String × ErrorTree)) →
    (absorbAll tree children).size = tree.size + sizeAll children
  | tree, [] => rfl
  | tree, (route, child) :: rest => by
      rw [absorbAll, size_absorbAll, sizeAll]
      have childAdded :
          (if child.isEmpty = true then tree
            else tree.changeChild route fun existing =>
              absorb existing child).size = tree.size + child.size := by
        split
        next isEmpty => rw [(isEmpty_iff child).1 isEmpty, Nat.add_zero]
        next =>
          exact size_changeChild
            (fun existing => size_absorb existing child) tree route
      rw [childAdded]
      omega

end

/-- Merging adds up the messages, also where an empty tree leaves no trace. -/
@[simp]
theorem size_mergeFor (tree : ErrorTree) (route : String) (other : ErrorTree) :
    (tree.mergeFor route other).size = tree.size + other.size := by
  rw [mergeFor]
  split
  next isEmpty => rw [(isEmpty_iff other).1 isEmpty, Nat.add_zero]
  next =>
    exact size_changeChild
      (fun existing => size_absorb existing other) tree route

/-- Adding to a tree item by item adds up what each item adds. -/
theorem size_foldl {α : Type} {step : ErrorTree → α → ErrorTree}
    {added : α → Nat}
    (grows : ∀ tree item, (step tree item).size = tree.size + added item)
    (items : List α) (tree : ErrorTree) :
    (items.foldl step tree).size = tree.size + (items.map added).sum := by
  induction items generalizing tree with
  | nil => rfl
  | cons item items induction =>
      rw [List.foldl_cons, induction, grows, List.map_cons, List.sum_cons,
        Nat.add_assoc]

end EntityLink.ErrorTree
