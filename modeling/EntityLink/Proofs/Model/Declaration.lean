import EntityLink.Proofs.Model.Pairing

/-!
# Where the references of a model are declared

A reference of a model was made from a stored field of some class in the chain.
Of what was found there, only the type of its holder has changed since, when the
holder was bound (`Declares.eq_found`).
-/

namespace EntityLink.ClassIndex

variable {index : ClassIndex} {config : Config} {decl : ClassDecl}
  {reference : Reference}

/-- The field of a declaration is the one that the reference was derived
from. -/
theorem Declares.derived {field : FieldDecl} {found : Reference}
    {declaresHolder : Bool}
    (declares :
      Declares index config decl field found reference declaresHolder) :
    ∃ target, (field.type.unwrap config).core = .named target.path ∧
      index.get? target.path = some target ∧
      (target.classify config).isEntity = true ∧
      (field.type.unwrap config).wrappers.length ≤ 1 ∧
      index.referenceTo config decl field target (target.classify config)
        (field.type.unwrap config).wrappers = .ok found :=
  resolveField_some declares.resolved

theorem exists_declares_of_resolveClass {fields : List ModelField}
    (resolved : index.resolveClass config decl = .ok fields)
    (member : .reference reference ∈ fields) :
    ∃ field found declaresHolder,
      Declares index config decl field found reference declaresHolder := by
  obtain ⟨references, bound, collected, holdersBound, rfl⟩ :=
    resolveClass_ok resolved
  cases entry_of_mem member with
  | @reference link first =>
      have linkMember : link ∈ bound := List.mem_of_find?_eq_some first
      obtain ⟨field, found, declares⟩ :=
        exists_declares_of_mapM (collectReferences_ok collected)
          holdersBound linkMember
      exact ⟨field, found, link.declaresHolder, declares⟩

theorem Assembled.exists_declares {model : EntityModel}
    (assembled : Assembled index config decl model)
    (member : .reference reference ∈ model.fields) :
    ∃ link ∈ index.chain config.rootType decl, ∃ field found declaresHolder,
      Declares index config link field found reference declaresHolder := by
  have added := (assembled.get?_eq reference.name).symm.trans
    (EntityModel.mem_fields_iff.1 member)
  obtain ⟨link, linkMember, linkAdds⟩ := List.exists_of_findSome?_eq_some added
  obtain ⟨fields, resolved, _⟩ := assembled.exists_fields linkMember
  rw [addition?_of_resolveClass resolved] at linkAdds
  exact ⟨link, linkMember,
    exists_declares_of_resolveClass resolved
      (EntityModel.lastNamed?_eq_some linkAdds).1⟩

/-- Every reference of a model that is built was declared by a class in the
lineage of the model's class. -/
theorem exists_declares_of_buildModels {set : ModelSet}
    (built : index.buildModels config = .ok set) {model : EntityModel}
    (member : model ∈ set.models.toList)
    (referenceMember : .reference reference ∈ model.fields) :
    ∃ link field found declaresHolder,
      Declares index config link field found reference declaresHolder := by
  obtain ⟨decl, _, assembled⟩ := exists_assembly built member
  obtain ⟨link, _, field, found, declaresHolder, declares⟩ :=
    assembled.exists_declares referenceMember
  exact ⟨link, field, found, declaresHolder, declares⟩

end EntityLink.ClassIndex
