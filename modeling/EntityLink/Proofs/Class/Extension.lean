import EntityLink.Proofs.Class.Acyclic

/-!
# Classes that nothing mentions

A class whose path occurs nowhere in an index can be added to it without any
effect on the chains of the classes that are there already: no superclass link
leads to it.  The walk up a chain is bounded by the number of classes, which
grows, so the ancestors stay the same only where links run in no circle.
-/

namespace EntityLink

mutual

/-- The paths of the classes in a type, containers among them. -/
def TypeRef.paths : TypeRef → List String
  | .primitive _ | .parameter _ => []
  | .named path => [path]
  | .array component => component.paths
  | .parameterized path arguments => path :: TypeRef.pathsOfAll arguments

def TypeRef.pathsOfAll : List TypeRef → List String
  | [] => []
  | type :: types => type.paths ++ TypeRef.pathsOfAll types

end

namespace ClassIndex

/-- A path that occurs nowhere in an index: not as the path of a class, as a
superclass, as the class that a projection shows, or in the type of a field. -/
structure Unmentioned (index : ClassIndex) (path : String) : Prop where
  absent : index.get? path = none
  notExtended : ∀ decl ∈ index.toList, decl.superclass ≠ some path
  notShown : ∀ decl ∈ index.toList, decl.projectionFor ≠ some path
  notInType : ∀ decl ∈ index.toList, ∀ field ∈ decl.fields,
    path ∉ field.type.paths

variable {index : ClassIndex} {added : ClassDecl} {root path : String}

theorem get?_insert_of_ne (apart : path ≠ added.path) :
    (index.insert added).get? path = index.get? path := by
  rw [Keyed.get?_insert, if_neg apart.symm]

theorem superclass?_insert (apart : path ≠ added.path) :
    superclass? (index.insert added) path = index.superclass? path := by
  rw [superclass?, superclass?, get?_insert_of_ne apart]

/-- Where two indexes agree on all links but those of one class, and no link
leads to that one, a class extends the same names in both. -/
theorem extends_of_same_links {left right : ClassIndex} {outside name : String}
    (sameLinks : ∀ lower, lower ≠ outside →
      left.superclass? lower = right.superclass? lower)
    (staysInside : ∀ lower upper, lower ≠ outside →
      left.superclass? lower = some upper →
      upper ≠ outside)
    (apart : path ≠ outside) (reached : left.Extends root path name) :
    right.Extends root path name ∧ name ≠ outside := by
  induction reached with
  | direct link notRoot =>
      exact ⟨.direct ((sameLinks _ apart).symm.trans link) notRoot,
        staysInside _ _ apart link⟩
  | further _ link notRoot induction =>
      obtain ⟨reached, middleApart⟩ := induction
      exact ⟨.further reached ((sameLinks _ middleApart).symm.trans link)
        notRoot, staysInside _ _ middleApart link⟩

namespace Unmentioned

variable (unmentioned : index.Unmentioned added.path)

include unmentioned

theorem path_ne {decl : ClassDecl} (member : decl ∈ index.toList) :
    decl.path ≠ added.path := by
  intro same
  have found := Keyed.get?_of_mem member
  rw [same, unmentioned.absent] at found
  cases found

theorem superclass?_ne {name : String}
    (link : index.superclass? path = some name) : name ≠ added.path := by
  obtain ⟨decl, found, superclass⟩ := Option.bind_eq_some_iff.1 link
  rintro rfl
  exact unmentioned.notExtended decl (Keyed.mem_of_get? found) superclass

theorem extends_insert_iff (apart : path ≠ added.path) {name : String} :
    Extends (index.insert added) root path name ↔
      index.Extends root path name := by
  have sameLinks : ∀ lower, lower ≠ added.path →
      superclass? (index.insert added) lower = index.superclass? lower :=
    fun _ lowerApart => superclass?_insert lowerApart
  constructor
  · intro reached
    refine (extends_of_same_links sameLinks ?_ apart reached).1
    intro lower upper lowerApart link
    exact unmentioned.superclass?_ne
      ((sameLinks lower lowerApart).symm.trans link)
  · intro reached
    refine (extends_of_same_links ?_ ?_ apart reached).1
    · intro lower lowerApart
      exact (sameLinks lower lowerApart).symm
    · intro lower upper _ link
      exact unmentioned.superclass?_ne link

theorem isSubclassOf_insert (apart : path ≠ added.path) (base : String) :
    isSubclassOf (index.insert added) root path base =
      index.isSubclassOf root path base := by
  rw [Bool.eq_iff_iff, isSubclassOf_iff, isSubclassOf_iff,
    unmentioned.extends_insert_iff apart]

theorem ancestorsFrom_insert (bound : Nat)
    {start : Option String} (apart : start ≠ some added.path) :
    ancestorsFrom (index.insert added) root bound start =
      index.ancestorsFrom root bound start := by
  induction bound generalizing start with
  | zero => rfl
  | succ bound induction =>
      cases start with
      | none => rfl
      | some name =>
          have nameApart : name ≠ added.path := by
            rintro rfl
            exact apart rfl
          rw [ancestorsFrom, ancestorsFrom, get?_insert_of_ne nameApart]
          cases found : index.get? name with
          | none => rfl
          | some decl =>
              have notAdded :=
                unmentioned.notExtended decl (Keyed.mem_of_get? found)
              simp only [induction notAdded]

section Acyclic

variable (acyclic : index.Acyclic root)

include acyclic

theorem ancestors_insert (apart : path ≠ added.path) :
    ancestors (index.insert added) root path = index.ancestors root path := by
  have notAdded : index.superclass? path ≠ some added.path := by
    intro link
    exact unmentioned.superclass?_ne link rfl
  rw [ancestors, superclass?_insert apart,
    unmentioned.ancestorsFrom_insert _ notAdded]
  exact ancestorsFrom_superclass_of_size_le acyclic path
    (Keyed.size_le_size_insert index added)

theorem lineage_insert {decl : ClassDecl} (apart : decl.path ≠ added.path) :
    lineage (index.insert added) root decl = index.lineage root decl := by
  rw [lineage, lineage, unmentioned.ancestors_insert acyclic apart]

theorem fieldInChain?_insert (apart : path ≠ added.path) (name : String) :
    fieldInChain? (index.insert added) root path name =
      index.fieldInChain? root path name := by
  simp only [fieldInChain?, get?_insert_of_ne apart,
    unmentioned.ancestors_insert acyclic apart]

end Acyclic

end Unmentioned

end ClassIndex

end EntityLink
