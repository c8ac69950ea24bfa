import EntityLink.Proofs.Class.Chain
import EntityLink.Proofs.Class.Superclasses
import Mathlib.Data.List.Perm.Subperm

/-!
# Chains without circles

Where superclass links never lead back to a class, a chain meets no class twice.
It is no longer than the index is large, so a walk up the chain ends before its
bound does, and any larger bound gives the same ancestors
(`ancestorsFrom_superclass_of_size_le`).
-/

namespace EntityLink.ClassIndex

variable {index : ClassIndex} {root : String}

/-- Superclass links lead from no class back to it. -/
def Acyclic (index : ClassIndex) (root : String) : Prop :=
  ∀ path, ¬index.Extends root path path

theorem acyclic_iff :
    index.Acyclic root ↔
      ∀ decl ∈ index.toList,
        decl.path ∉ index.superclassNames root decl.path := by
  simp only [mem_superclassNames_iff]
  constructor
  · exact fun acyclic decl _ => acyclic decl.path
  · intro noneBack path reached
    obtain ⟨upper, link⟩ := exists_superclass_of_extends reached
    obtain ⟨decl, found, _⟩ := Option.bind_eq_some_iff.1 link
    obtain ⟨member, rfl⟩ := Keyed.get?_eq_some_iff.1 found
    exact noneBack decl member reached

instance : Decidable (index.Acyclic root) :=
  decidable_of_iff' _ acyclic_iff

/-- Each class of a walk extends those that come after it. -/
theorem pairwise_ancestorsFrom (bound : Nat) (start : Option String) :
    (index.ancestorsFrom root bound start).Pairwise fun lower upper =>
      index.Extends root lower.path upper.path := by
  fun_induction ancestorsFrom index root bound start with
  | case1 => exact .nil
  | case2 => exact .nil
  | case3 => exact .nil
  | case4 => exact .nil
  | case5 bound name _ decl found induction =>
      refine .cons (fun upper member => ?_) induction
      have superclass : index.superclass? decl.path = decl.superclass := by
        rw [superclass?, Keyed.key_of_get? found, found, Option.bind_some]
      refine extends_of_mem_ancestorsFrom ?_ member
      intro next link notRoot
      exact .direct (superclass.trans link) notRoot

theorem nodup_chain_paths (acyclic : index.Acyclic root) (decl : ClassDecl) :
    ((index.chain root decl).map ClassDecl.path).Nodup := by
  rw [List.Nodup, List.pairwise_map]
  have apart : ∀ lower upper : ClassDecl,
      index.Extends root lower.path upper.path →
      lower.path ≠ upper.path := by
    intro lower upper reached same
    exact acyclic upper.path (same ▸ reached)
  refine .cons (fun upper member => ?_)
    ((pairwise_ancestorsFrom _ _).imp (apart _ _))
  exact apart decl upper (extends_of_mem_ancestors member)

theorem length_chain_le_size (acyclic : index.Acyclic root) {decl : ClassDecl}
    (indexed : index.get? decl.path = some decl) :
    (index.chain root decl).length ≤ index.size := by
  have inKeys : (index.chain root decl).map ClassDecl.path ⊆ index.keys := by
    intro path member
    obtain ⟨link, linkMember, rfl⟩ := List.mem_map.1 member
    exact List.mem_map.2
      ⟨link, Keyed.mem_of_get? (get?_of_mem_chain indexed linkMember), rfl⟩
  have fewer :=
    (List.subperm_of_subset (nodup_chain_paths acyclic decl) inKeys).length_le
  simpa [Keyed.keys, Keyed.size] using fewer

/-- A walk that ends before its bound does is the same with any larger bound. -/
theorem ancestorsFrom_of_length_lt {bound larger : Nat}
    (enough : bound ≤ larger) {start : Option String}
    (short : (index.ancestorsFrom root bound start).length < bound) :
    index.ancestorsFrom root larger start =
      index.ancestorsFrom root bound start := by
  induction bound generalizing start larger with
  | zero => cases short
  | succ bound induction =>
      cases larger with
      | zero => cases enough
      | succ larger =>
          cases start with
          | none => rfl
          | some name =>
              by_cases isRoot : name = root
              · rw [isRoot, ancestorsFrom_root, ancestorsFrom_root]
              · rw [ancestorsFrom_succ isRoot] at short
                rw [ancestorsFrom_succ isRoot, ancestorsFrom_succ isRoot]
                cases found : index.get? name with
                | none => rfl
                | some decl =>
                    rw [found] at short
                    have shorter := Nat.lt_of_succ_lt_succ short
                    exact congrArg (decl :: ·)
                      (induction (Nat.le_of_succ_le_succ enough) shorter)

/-- Without circles the bound of a walk does not matter once it is as large as
the index. -/
theorem ancestorsFrom_superclass_of_size_le (acyclic : index.Acyclic root)
    (path : String) {bound : Nat} (enough : index.size ≤ bound) :
    index.ancestorsFrom root bound (index.superclass? path) =
      index.ancestors root path := by
  cases found : index.get? path with
  | none =>
      have noLink : index.superclass? path = none := by
        rw [superclass?, found, Option.bind_none]
      rw [ancestors, noLink]
      cases bound <;> cases index.size <;> rfl
  | some decl =>
      obtain rfl : decl.path = path := Keyed.key_of_get? found
      refine ancestorsFrom_of_length_lt enough ?_
      exact Nat.lt_of_lt_of_le (Nat.lt_succ_self _)
        (length_chain_le_size acyclic found)

end EntityLink.ClassIndex
