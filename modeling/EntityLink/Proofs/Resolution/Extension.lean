import EntityLink.Proofs.Class.Extension
import EntityLink.Proofs.Resolution.Wrapping
import EntityLink.Resolution.Resolver

/-!
# Resolution and classes that nothing mentions

What a field stands for depends on the class that is left of its type without
the wrappers, on the containers of these wrappers, and on fields declared up the
chain.  A class that nothing mentions is none of them, so the fields of the
other classes are resolved as before, and fail as before.
-/

namespace EntityLink

namespace TypeRef

theorem mem_paths_rewrap {inner : TypeRef} {path : String}
    (member : path ∈ inner.paths) (wrappers : List Wrapper) :
    path ∈ (rewrap .empty inner wrappers).paths := by
  induction wrappers with
  | nil => exact member
  | cons wrapper wrappers induction =>
      cases wrapper with
      | array => exact induction
      | list container => simp [rewrap, paths, pathsOfAll, induction]

theorem container_mem_paths_rewrap {inner : TypeRef} {container : String}
    {wrappers : List Wrapper} (member : .list container ∈ wrappers) :
    container ∈ (rewrap .empty inner wrappers).paths := by
  induction wrappers with
  | nil => cases member
  | cons wrapper wrappers induction =>
      cases member with
      | head => exact List.mem_cons_self
      | tail _ later =>
          cases wrapper with
          | array => exact induction later
          | list other => simp [rewrap, paths, pathsOfAll, induction later]

end TypeRef

namespace ClassIndex

variable {index : ClassIndex} {added decl : ClassDecl} {config : Config}

theorem isInstantiable_insert {container : String}
    (apart : container ≠ added.path) :
    isInstantiable (index.insert added) config container =
      index.isInstantiable config container := by
  rw [isInstantiable, isInstantiable, get?_insert_of_ne apart]

theorem unmappedContainer?_insert {mappings : Dict String}
    {wrappers : List Wrapper}
    (apart : ∀ container, .list container ∈ wrappers → container ≠ added.path) :
    unmappedContainer? (index.insert added) config mappings wrappers =
      index.unmappedContainer? config mappings wrappers := by
  induction wrappers with
  | nil => rfl
  | cons wrapper wrappers induction =>
      have later := induction fun container member =>
        apart container (List.mem_cons_of_mem _ member)
      unfold unmappedContainer? at later ⊢
      rw [List.findSome?_cons, List.findSome?_cons, later]
      cases wrapper with
      | array => rfl
      | list container =>
          simp only [isInstantiable_insert (apart container List.mem_cons_self)]

/-- References are collected alike where their fields are resolved alike. -/
theorem collectFrom_congr {left right : ClassIndex} {fields : List FieldDecl}
    (same : ∀ field ∈ fields,
      left.resolveField config decl field =
        right.resolveField config decl field)
    (found : List Reference) :
    left.collectFrom config decl found fields =
      right.collectFrom config decl found fields := by
  induction fields generalizing found with
  | nil => rfl
  | cons field fields induction =>
      have later :=
        induction fun later member => same later (List.mem_cons_of_mem _ member)
      simp only [collectFrom, same field List.mem_cons_self, later]

namespace Unmentioned

variable (unmentioned : index.Unmentioned added.path)

include unmentioned

theorem resolveField_insert (member : decl ∈ index.toList) {field : FieldDecl}
    (fieldMember : field ∈ decl.fields) :
    resolveField (index.insert added) config decl field =
      index.resolveField config decl field := by
  have notInType := unmentioned.notInType decl member field fieldMember
  unfold resolveField
  dsimp only
  split
  · rfl
  · rfl
  next path core =>
    rw [TypeRef.eq_rewrap_of_core core] at notInType
    have apart : path ≠ added.path := by
      rintro rfl
      exact notInType (TypeRef.mem_paths_rewrap (by simp [TypeRef.paths]) _)
    have containersApart : ∀ container,
        .list container ∈ (field.type.unwrap config).wrappers →
        container ≠ added.path := by
      rintro container wrapper rfl
      exact notInType (TypeRef.container_mem_paths_rewrap wrapper)
    rw [get?_insert_of_ne apart]
    simp only [referenceTo, unmappedContainer?_insert containersApart]

section Acyclic

variable (acyclic : index.Acyclic config.rootType)

include acyclic

theorem bindHolder_insert (apart : decl.path ≠ added.path)
    (reference : Reference) :
    bindHolder (index.insert added) config decl reference =
      index.bindHolder config decl reference := by
  simp only [bindHolder, unmentioned.fieldInChain?_insert acyclic apart]

/-- A class is resolved as before, and fails as before. -/
theorem resolveClass_insert (member : decl ∈ index.toList) :
    resolveClass (index.insert added) config decl =
      index.resolveClass config decl := by
  have collected : collectReferences (index.insert added) config decl =
      index.collectReferences config decl := by
    have sameFields : ∀ field ∈ decl.fields.filter FieldDecl.isStored,
        resolveField (index.insert added) config decl field =
          index.resolveField config decl field := by
      intro field stored
      exact unmentioned.resolveField_insert member (List.mem_filter.1 stored).1
    rw [collectReferences, collectReferences, collectFrom_congr sameFields]
  have bound : bindHolder (index.insert added) config decl =
      index.bindHolder config decl :=
    funext (unmentioned.bindHolder_insert acyclic (unmentioned.path_ne member))
  rw [resolveClass, resolveClass, collected, bound]

end Acyclic

end Unmentioned

end ClassIndex

end EntityLink
