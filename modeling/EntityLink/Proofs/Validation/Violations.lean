import EntityLink.Analysis
import EntityLink.Proofs.Class.Chain
import EntityLink.Proofs.Class.Superclasses
import EntityLink.Proofs.ErrorTree.Size

/-!
# What a valid index is

An index that stands in the way of no analysis has a usable configuration and no
violation in any class (`obstacle?_eq_none_iff`): the tree of violations has one
message for each of them, so it is empty only if there is none.
-/

namespace EntityLink.ClassIndex

variable {index : ClassIndex} {config : Config}

theorem size_identifierViolations (tree : ErrorTree) :
    (index.identifierViolations config tree).size =
      tree.size + (index.duplicateIdentifiers config).length := by
  rw [identifierViolations,
    ErrorTree.size_foldl (fun tree _ => ErrorTree.size_addFor tree _ _),
    List.map_const', List.sum_replicate_nat, Nat.mul_one]

/-- What is wrong with the entity marker of a class, if it has one. -/
def classViolations (index : ClassIndex) (config : Config) (decl : ClassDecl) :
    List Violation :=
  (decl.entity.map (index.markerViolations config decl)).getD []

theorem size_entityViolations (tree : ErrorTree) :
    (index.entityViolations config tree).size =
      tree.size + (index.toList.map fun decl =>
        (index.classViolations config decl).length).sum := by
  refine ErrorTree.size_foldl (fun tree decl => ?_) index.toList tree
  cases marked : decl.entity with
  | none => simp [classViolations, marked]
  | some marker =>
      have collected : (((index.markerViolations config decl marker).map
          Violation.message).foldl ErrorTree.add .empty).size =
            (index.markerViolations config decl marker).length := by
        rw [ErrorTree.size_foldl ErrorTree.size_add, List.map_const',
          List.sum_replicate_nat, List.length_map, ErrorTree.size_empty,
          Nat.zero_add, Nat.mul_one]
      simp [classViolations, marked, collected]

/-- The tree of violations has a message for each violation. -/
theorem size_violations :
    (index.violations config).size =
      (index.duplicateIdentifiers config).length +
        (index.toList.map fun decl =>
          (index.classViolations config decl).length).sum := by
  rw [violations, size_entityViolations, size_identifierViolations,
    ErrorTree.size_empty, Nat.zero_add]

theorem isEmpty_violations_iff :
    (index.violations config).isEmpty = true ↔
      index.duplicateIdentifiers config = [] ∧
        ∀ decl ∈ index.toList, index.classViolations config decl = [] := by
  rw [ErrorTree.isEmpty_iff, size_violations, Nat.add_eq_zero_iff,
    List.length_eq_zero_iff, List.sum_eq_zero_iff_forall_eq_nat,
    List.forall_mem_map]
  simp only [List.length_eq_zero_iff]

theorem obstacle?_eq_none_iff :
    index.obstacle? config = none ↔
      config.fault? = none ∧ index.duplicateIdentifiers config = [] ∧
        ∀ decl ∈ index.toList, index.classViolations config decl = [] := by
  unfold obstacle?
  cases config.fault? with
  | some fault => simp
  | none =>
      cases duplicates : index.duplicateIdentifiers config with
      | cons pair rest => simp
      | nil =>
          have valid : (index.violations config).isEmpty = true ↔
              ∀ decl ∈ index.toList,
                index.classViolations config decl = [] := by
            rw [isEmpty_violations_iff, duplicates]
            exact and_iff_right rfl
          simpa using valid

theorem specViolations_eq_nil_iff {decl : ClassDecl} {spec : IndexSpec} :
    index.specViolations config decl spec = [] ↔
      spec.keys ≠ [] ∧ ∀ key ∈ spec.keys, index.hasField config decl.path
        key.field = true := by
  simp [specViolations]

theorem markerViolations_eq_nil_iff {decl : ClassDecl} {marker : EntityMarker} :
    index.markerViolations config decl marker = [] ↔
      (marker.collection.map Text.isBlank).getD false = false ∧
        ∀ spec ∈ marker.indexes,
          index.specViolations config decl spec = [] := by
  simp [markerViolations]

/-- A field that a key of a database index may name: one that the class or an
ancestor declares, or the conventional identifier of a class that extends the
identified base. -/
inductive KeyField (index : ClassIndex) (config : Config) (path name : String) :
    Prop where
  | declared {owner : ClassDecl} {field : FieldDecl}
      (indexed : index.get? owner.path = some owner)
      (inherited : owner.path = path ∨
        index.Extends config.rootType path owner.path)
      (member : field ∈ owner.fields) (named : field.name = name)
  | conventional (named : name = config.conventionalId.field)
      (notBase : path ≠ config.identifiedBase)
      (identified : index.Extends config.rootType path config.identifiedBase)

theorem keyField_of_hasField {decl : ClassDecl}
    (indexed : index.get? decl.path = some decl) {name : String}
    (has : index.hasField config decl.path name = true) :
    index.KeyField config decl.path name := by
  rw [hasField, Bool.or_eq_true, Bool.and_eq_true, beq_iff_eq, isSubclassOf_iff,
    fieldInChain?_eq indexed] at has
  rcases has with declared | ⟨named, notBase, identified⟩
  · obtain ⟨⟨owner, field⟩, found⟩ := Option.isSome_iff_exists.1 declared
    obtain ⟨ownerMember, fieldMember, named⟩ := declarationIn?_eq_some found
    refine .declared (get?_of_mem_chain indexed ownerMember) ?_
      fieldMember named
    rcases List.mem_cons.1 ownerMember with rfl | ancestor
    · exact .inl rfl
    · exact .inr (extends_of_mem_ancestors ancestor)
  · exact .conventional named notBase identified

end EntityLink.ClassIndex
