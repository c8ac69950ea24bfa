import EntityLink.Proofs.Class.Chain
import EntityLink.Proofs.Resolution.FieldOutcome
import EntityLink.Proofs.Traversal
import Mathlib.Data.List.Nodup

/-!
# Binding the references of a class to their holders

What is known of the references of a class once all of them have been found and
bound.  Each comes from a stored field of the class (`Declares`), no two share a
holder, and no holder has the name of a reference (`Bound`).  What a holder
takes over from a field that is already declared for it says `bindHolder_ok`.
-/

namespace EntityLink.ClassIndex

variable {index : ClassIndex} {config : Config} {decl : ClassDecl}

theorem collectFrom_ok {found : List Reference} {fields : List FieldDecl}
    {references : List Reference}
    (collected : index.collectFrom config decl found fields = .ok references)
    (foundDistinct : (found.map Reference.holderName).Nodup) :
    ∃ resolved, fields.mapM (index.resolveField config decl) = .ok resolved ∧
      references = found ++ resolved.filterMap id ∧
      (references.map Reference.holderName).Nodup := by
  induction fields generalizing found with
  | nil =>
      cases collected
      exact ⟨[], rfl, by simp, foundDistinct⟩
  | cons field fields induction =>
      rw [collectFrom, except_bind_ok_iff] at collected
      obtain ⟨outcome, fieldResolved, collected⟩ := collected
      cases outcome with
      | none =>
          obtain ⟨resolved, laterResolved, equality, distinct⟩ :=
            induction collected foundDistinct
          refine ⟨none :: resolved, ?_, by simpa using equality, distinct⟩
          rw [mapM_ok_iff_forall₂] at laterResolved ⊢
          exact .cons fieldResolved laterResolved
      | some reference =>
          dsimp only at collected
          split at collected
          · cases collected
          next unused =>
            have newDistinct :
                ((found ++ [reference]).map Reference.holderName).Nodup := by
              rw [List.map_append, List.nodup_append]
              refine ⟨foundDistinct, by simp, ?_⟩
              intro name member other otherMember same
              obtain ⟨earlier, earlierMember, rfl⟩ := List.mem_map.1 member
              have different :=
                List.find?_eq_none.1 unused earlier earlierMember
              simp only [List.map_cons, List.map_nil,
                List.mem_singleton] at otherMember
              simp [same, otherMember] at different
            obtain ⟨resolved, laterResolved, equality, distinct⟩ :=
              induction collected newDistinct
            refine ⟨some reference :: resolved, ?_,
              by simpa using equality, distinct⟩
            rw [mapM_ok_iff_forall₂] at laterResolved ⊢
            exact .cons fieldResolved laterResolved

/-- What is known of the references that a class declares. -/
structure Collected (index : ClassIndex) (config : Config) (decl : ClassDecl)
    (references : List Reference) : Prop where
  resolved : ∀ reference ∈ references, ∃ field ∈ decl.fields,
    field.isStored = true ∧
      index.resolveField config decl field = .ok (some reference)
  holderNames : (references.map Reference.holderName).Nodup
  disjoint : ∀ reference ∈ references, ∀ other ∈ references,
    other.name ≠ reference.holderName

theorem collectReferences_ok {references : List Reference}
    (collected : index.collectReferences config decl = .ok references) :
    Collected index config decl references := by
  rw [collectReferences, except_bind_ok_iff] at collected
  obtain ⟨candidates, candidatesCollected, collected⟩ := collected
  obtain ⟨resolved, fieldsResolved, equality, distinct⟩ :=
    collectFrom_ok candidatesCollected List.nodup_nil
  split at collected
  · cases collected
  next noneShared =>
    cases collected
    refine ⟨?_, distinct, ?_⟩
    · intro reference member
      rw [equality, List.nil_append] at member
      obtain ⟨outcome, outcomeMember, isReference⟩ :=
        List.mem_filterMap.1 member
      obtain ⟨field, fieldMember, fieldResolved⟩ :=
        exists_item_of_mem_results (mapM_ok_iff_forall₂.1 fieldsResolved)
          outcomeMember
      have ⟨declared, stored⟩ := List.mem_filter.1 fieldMember
      rw [id] at isReference
      exact ⟨field, declared, stored, isReference ▸ fieldResolved⟩
    · intro reference member other otherMember same
      have notShared := List.find?_eq_none.1 noneShared reference member
      exact notShared
        (List.any_eq_true.2 ⟨other, otherMember, by simpa using same⟩)

theorem bindHolder_ok {reference : Reference} {link : BoundReference}
    (bound : index.bindHolder config decl reference = .ok link) :
    (index.fieldInChain? config.rootType decl.path reference.holderName = none ∧
      link = ⟨reference, false⟩) ∨
    ∃ owner declared,
      index.fieldInChain? config.rootType decl.path reference.holderName =
        some (owner, declared) ∧
      declared.isIgnored = false ∧ declared.isStatic = false ∧
      isHolderType config reference declared.type = true ∧
      link = {
        reference := { reference with
          holderType := declared.type, isHolderDeclared := true }
        declaresHolder := owner.path == decl.path } := by
  unfold bindHolder at bound
  split at bound
  next missing =>
    cases bound
    exact .inl ⟨missing, rfl⟩
  next owner declared found =>
    dsimp only at bound
    split at bound
    · cases bound
    next notIgnored =>
      split at bound
      · cases bound
      next notStatic =>
        split at bound
        · cases bound
        next compatible =>
          cases bound
          exact .inr ⟨owner, declared, found, by simpa using notIgnored,
            by simpa using notStatic, by simpa using compatible, rfl⟩

/-- Binding leaves a reference what it was but for the type of its holder. -/
theorem reference_of_bindHolder {reference : Reference} {link : BoundReference}
    (bound : index.bindHolder config decl reference = .ok link) :
    link.reference = { reference with
      holderType := link.reference.holderType
      isHolderDeclared := link.reference.isHolderDeclared } := by
  rcases bindHolder_ok bound with ⟨_, rfl⟩ | ⟨owner, declared, _, _, _, _, rfl⟩
  · rfl
  · rfl

theorem names_of_bindHolder {reference : Reference} {link : BoundReference}
    (bound : index.bindHolder config decl reference = .ok link) :
    link.reference.name = reference.name ∧
      link.reference.holderName = reference.holderName := by
  rw [reference_of_bindHolder bound]
  exact ⟨rfl, rfl⟩

/-- Binding finds out whether the class declares a field for the holder
itself. -/
theorem declaresHolder_of_bindHolder
    (indexed : index.get? decl.path = some decl) {reference : Reference}
    {link : BoundReference}
    (bound : index.bindHolder config decl reference = .ok link) :
    link.declaresHolder = (decl.field? link.reference.holderName).isSome := by
  rw [(names_of_bindHolder bound).2]
  cases own : decl.field? reference.holderName with
  | some field =>
      have nearest := fieldInChain?_of_field? config.rootType indexed own
      rcases bindHolder_ok bound with ⟨missing, _⟩
        | ⟨owner, declared, found, _, _, _, rfl⟩
      · rw [nearest] at missing
        cases missing
      · rw [nearest] at found
        cases found
        simp
  | none =>
      rcases bindHolder_ok bound with ⟨_, rfl⟩
        | ⟨owner, declared, found, _, _, _, rfl⟩
      · rfl
      · rw [fieldInChain?_eq indexed] at found
        obtain ⟨ownerMember, declaredMember, named⟩ :=
          declarationIn?_eq_some found
        have inherited : owner.path ≠ decl.path := by
          intro samePath
          have ownerIndexed := get?_of_mem_chain indexed ownerMember
          obtain rfl : owner = decl :=
            eq_of_path_eq ownerIndexed indexed samePath
          have otherName := List.find?_eq_none.1 own declared declaredMember
          simp [named] at otherName
        simp [inherited]

/-- What is known of the references of a class and their holders. -/
structure Bound (index : ClassIndex) (config : Config) (decl : ClassDecl)
    (bound : List BoundReference) : Prop where
  /-- Each comes from a stored field. -/
  declared : ∀ link ∈ bound, ∃ field ∈ decl.fields,
    field.isStored = true ∧ field.name = link.reference.name
  declaredIn : ∀ link ∈ bound, link.reference.declaredIn = decl.path
  /-- No two share a holder. -/
  unique : ∀ link ∈ bound, ∀ other ∈ bound,
    other.reference.holderName = link.reference.holderName → other = link
  /-- No holder has the name of a reference. -/
  disjoint : ∀ link ∈ bound, ∀ other ∈ bound,
    other.reference.name ≠ link.reference.holderName
  holderDeclared : ∀ link ∈ bound, link.declaresHolder = true →
    ∃ field ∈ decl.fields, field.name = link.reference.holderName
  /-- A declared holder is stored and gives its type to the holder. -/
  adopted : ∀ link ∈ bound, ∀ owner declared,
    index.fieldInChain? config.rootType decl.path link.reference.holderName =
      some (owner, declared) →
    declared.isStored = true ∧ link.reference.holderType = declared.type ∧
      link.reference.isHolderDeclared = true

/-- A stored field of a class is a reference, whose holder is bound. -/
structure Declares (index : ClassIndex) (config : Config) (decl : ClassDecl)
    (field : FieldDecl) (found reference : Reference) (declaresHolder : Bool) :
    Prop where
  field_mem : field ∈ decl.fields
  stored : field.isStored = true
  resolved : index.resolveField config decl field = .ok (some found)
  bound : index.bindHolder config decl found = .ok ⟨reference, declaresHolder⟩

namespace Declares

variable {field : FieldDecl} {found reference : Reference}
  {declaresHolder : Bool}

theorem eq_found
    (declares :
      Declares index config decl field found reference declaresHolder) :
    reference = { found with
      holderType := reference.holderType,
        isHolderDeclared := reference.isHolderDeclared } :=
  reference_of_bindHolder declares.bound

theorem name_eq
    (declares :
      Declares index config decl field found reference declaresHolder) :
    reference.name = field.name := by
  rw [declares.eq_found, (derived_of_resolveField declares.resolved).name]

theorem type_eq
    (declares :
      Declares index config decl field found reference declaresHolder) :
    reference.type = field.type := by
  rw [declares.eq_found, (derived_of_resolveField declares.resolved).type]

theorem declaredIn_eq
    (declares :
      Declares index config decl field found reference declaresHolder) :
    reference.declaredIn = decl.path := by
  rw [declares.eq_found, (derived_of_resolveField declares.resolved).declaredIn]

/-- A field is one reference only. -/
theorem unique
    (declares : Declares index config decl field found reference declaresHolder)
    {otherFound other : Reference} {otherDeclaresHolder : Bool}
    (otherDeclares :
      Declares index config decl field otherFound other otherDeclaresHolder) :
    BoundReference.mk other otherDeclaresHolder =
      ⟨reference, declaresHolder⟩ := by
  have sameFound := otherDeclares.resolved
  rw [declares.resolved] at sameFound
  cases sameFound
  have sameLink := otherDeclares.bound
  rw [declares.bound] at sameLink
  cases sameLink
  rfl

end Declares

theorem exists_declares_of_mapM {references : List Reference}
    (collected : Collected index config decl references)
    {bound : List BoundReference}
    (holdersBound : references.mapM (index.bindHolder config decl) = .ok bound)
    {link : BoundReference} (member : link ∈ bound) :
    ∃ field found,
      Declares index config decl field found link.reference
        link.declaresHolder := by
  obtain ⟨found, foundMember, linkBound⟩ :=
    exists_item_of_mem_results (mapM_ok_iff_forall₂.1 holdersBound) member
  obtain ⟨field, fieldMember, stored, resolved⟩ :=
    collected.resolved found foundMember
  exact ⟨field, found, fieldMember, stored, resolved, linkBound⟩

theorem bound_of_mapM (indexed : index.get? decl.path = some decl)
    {references : List Reference}
    (collected : Collected index config decl references)
    {bound : List BoundReference}
    (holdersBound :
      references.mapM (index.bindHolder config decl) = .ok bound) :
    Bound index config decl bound := by
  have related := mapM_ok_iff_forall₂.1 holdersBound
  have holderNames :
      bound.map (fun link => link.reference.holderName) =
        references.map Reference.holderName := by
    refine map_eq_map_of_forall₂ ?_ related
    intro reference link linkBound
    exact (names_of_bindHolder linkBound).2
  constructor
  case declared =>
    intro link member
    obtain ⟨field, _, declares⟩ :=
      exists_declares_of_mapM collected holdersBound member
    exact ⟨field, declares.field_mem, declares.stored, declares.name_eq.symm⟩
  case declaredIn =>
    intro link member
    obtain ⟨_, _, declares⟩ :=
      exists_declares_of_mapM collected holdersBound member
    exact declares.declaredIn_eq
  case unique =>
    intro link member other otherMember same
    have distinct : (bound.map fun link => link.reference.holderName).Nodup :=
      holderNames ▸ collected.holderNames
    exact List.inj_on_of_nodup_map distinct otherMember member same
  case disjoint =>
    intro link member other otherMember same
    obtain ⟨reference, referenceMember, linkBound⟩ :=
      exists_item_of_mem_results related member
    obtain ⟨otherReference, otherReferenceMember, otherBound⟩ :=
      exists_item_of_mem_results related otherMember
    rw [(names_of_bindHolder linkBound).2,
      (names_of_bindHolder otherBound).1] at same
    exact collected.disjoint reference referenceMember otherReference
      otherReferenceMember same
  case holderDeclared =>
    intro link member declares
    obtain ⟨_, _, origin⟩ :=
      exists_declares_of_mapM collected holdersBound member
    rw [declaresHolder_of_bindHolder indexed origin.bound] at declares
    obtain ⟨field, found⟩ := Option.isSome_iff_exists.1 declares
    exact ⟨field, List.mem_of_find?_eq_some found,
      by simpa using List.find?_some found⟩
  case adopted =>
    intro link member owner declared found
    obtain ⟨reference, _, linkBound⟩ :=
      exists_item_of_mem_results related member
    rw [(names_of_bindHolder linkBound).2] at found
    rcases bindHolder_ok linkBound with ⟨missing, _⟩ |
      ⟨boundOwner, boundField, boundFound, notIgnored, notStatic, _, rfl⟩
    · rw [missing] at found
      cases found
    · rw [boundFound] at found
      cases found
      exact ⟨by simp [FieldDecl.isStored, notIgnored, notStatic], rfl, rfl⟩

end EntityLink.ClassIndex
