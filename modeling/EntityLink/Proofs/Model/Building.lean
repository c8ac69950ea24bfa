import EntityLink.Proofs.Model.Assembly

/-!
# Building all models

When models are put together, every class in a lineage has been resolved, so the
only thing that can still go wrong is a field without its counterpart.  A set of
models is built if the model of each entity class can be assembled
(`exists_buildModels`), and it holds exactly these models (`get?_models_iff`).
-/

namespace EntityLink.ClassIndex

variable {index : ClassIndex} {config : Config}

/-- Every class in the lineage of an entity class has been resolved. -/
theorem exists_lookup_of_resolveAll {resolved : ResolvedClasses}
    (resolvedAll : index.resolveAll config = .ok resolved)
    {decl : ClassDecl} (member : decl ∈ index.entityClasses config)
    {link : ClassDecl}
    (linkMember : link ∈ index.lineage config.rootType decl) :
    ∃ fields, resolved.lookup link.path = some fields ∧
      index.resolveClass config link = .ok fields := by
  have linkIndexed : index.get? link.path = some link := by
    have indexed := get?_of_mem_toList (List.mem_filter.1 member).1
    rw [lineage_eq_reverse_chain, List.mem_reverse] at linkMember
    exact get?_of_mem_chain indexed linkMember
  have needed : link ∈ index.lineageClasses config := by
    refine List.mem_filter.2
      ⟨Keyed.mem_of_get? linkIndexed, List.any_eq_true.2 ⟨link, ?_, ?_⟩⟩
    · exact List.mem_flatMap.2 ⟨decl, member, linkMember⟩
    · simp
  obtain ⟨entry, entryMember, linkResolved⟩ :=
    exists_item_of_mem_results (mapM_ok_iff_forall₂.1 resolvedAll).flip needed
  obtain ⟨_, _, equality⟩ := except_bind_ok_iff.1 linkResolved
  cases equality
  cases found : resolved.lookup link.path with
  | none =>
      have unlisted := List.lookup_eq_none_iff.1 found _ entryMember
      simp at unlisted
  | some fields =>
      exact ⟨fields, rfl, resolveClass_of_lookup resolvedAll linkIndexed found⟩

theorem addLineage_of_lookup {resolved : ResolvedClasses}
    {links : List ClassDecl} {levels : List (List ModelField)}
    (found : List.Forall₂ (fun link fields => resolved.lookup link.path =
      some fields) links levels) (start : EntityModel) :
    addLineage resolved start links = .ok (start.insertLevels levels) := by
  induction found generalizing start with
  | nil => rfl
  | cons found _ induction =>
      rw [addLineage, found]
      exact induction _

/-- What can be assembled is assembled once the classes of all lineages have
been resolved. -/
theorem assemble_of_assembled {resolved : ResolvedClasses}
    (resolvedAll : index.resolveAll config = .ok resolved) {decl : ClassDecl}
    (member : decl ∈ index.entityClasses config) {model : EntityModel}
    (assembled : Assembled index config decl model) :
    index.assemble config resolved decl = .ok model := by
  obtain ⟨levels, related, rfl⟩ := assembled.levels
  have found : List.Forall₂ (fun link fields => resolved.lookup link.path =
      some fields) (index.lineage config.rootType decl) levels := by
    have lookups : ∀ link ∈ index.lineage config.rootType decl,
        ∃ fields, resolved.lookup link.path = some fields ∧
          index.resolveClass config link = .ok fields := by
      intro link linkMember
      exact exists_lookup_of_resolveAll resolvedAll member linkMember
    refine ((List.forall₂_and_left _ _).2 ⟨lookups, related⟩).imp ?_
    rintro link fields ⟨⟨others, othersFound, othersResolved⟩, fieldsResolved⟩
    rw [othersFound, Except.ok.inj (othersResolved.symm.trans fieldsResolved)]
  rw [assemble, addLineage_of_lookup found]
  simp only [bind, Except.bind, assembled.paired]
  rfl

/-- A set of models is built if the model of every entity class can be
assembled. -/
theorem exists_buildModels
    (assembles : ∀ decl ∈ index.entityClasses config,
      ∃ model, Assembled index config decl model) :
    ∃ set, index.buildModels config = .ok set := by
  have resolves : ∀ decl ∈ index.lineageClasses config,
      ∃ entry, (do return (decl.path, ← index.resolveClass config decl) :
        Except BuildError (String × List ModelField)) = .ok entry := by
    intro decl needed
    obtain ⟨member, listed⟩ := List.mem_filter.1 needed
    obtain ⟨link, linkMember, samePath⟩ := List.any_eq_true.1 listed
    obtain ⟨entity, entityMember, inLineage⟩ := List.mem_flatMap.1 linkMember
    obtain ⟨model, assembled⟩ := assembles entity entityMember
    rw [lineage_eq_reverse_chain, List.mem_reverse] at inLineage
    obtain rfl : link = decl :=
      eq_of_path_eq (assembled.indexed_of_mem inLineage)
        (get?_of_mem_toList member) (by simpa using samePath)
    obtain ⟨fields, resolved, _⟩ := assembled.exists_fields inLineage
    exact ⟨(link.path, fields), except_bind_ok_iff.2 ⟨fields, resolved, rfl⟩⟩
  obtain ⟨resolved, resolvedAll⟩ := exists_mapM_ok resolves
  obtain ⟨models, assembledAll⟩ := exists_mapM_ok fun decl member =>
    (assembles decl member).imp fun model assembled =>
      assemble_of_assembled resolvedAll member assembled
  exact ⟨_, except_bind_ok_iff.2 ⟨resolved, resolvedAll,
    except_bind_ok_iff.2 ⟨models, assembledAll, rfl⟩⟩⟩

theorem Assembled.unique {decl : ClassDecl} {model other : EntityModel}
    (assembled : Assembled index config decl model)
    (otherAssembled : Assembled index config decl other) : model = other := by
  obtain ⟨levels, related, rfl⟩ := assembled.levels
  obtain ⟨otherLevels, otherRelated, rfl⟩ := otherAssembled.levels
  have functional :
      Relator.RightUnique fun (link : ClassDecl) (fields : List ModelField) =>
        index.resolveClass config link = .ok fields :=
    fun _ _ _ resolved otherResolved =>
      Except.ok.inj (resolved.symm.trans otherResolved)
  rw [functional.forall₂ related otherRelated]

/-- The model of a class is the one that is assembled for it. -/
theorem get?_models_iff {set : ModelSet}
    (built : index.buildModels config = .ok set) {path : String}
    {model : EntityModel} :
    set.models.get? path = some model ↔
      ∃ decl ∈ index.entityClasses config, decl.path = path ∧
        Assembled index config decl model := by
  have related := assembled_of_buildModels built
  constructor
  · intro found
    obtain ⟨member, rfl⟩ := Keyed.get?_eq_some_iff.1 found
    obtain ⟨decl, declMember, assembled⟩ := exists_assembly built member
    exact ⟨decl, declMember, assembled.path.symm, assembled⟩
  · rintro ⟨decl, member, rfl, assembled⟩
    obtain ⟨other, otherMember, otherAssembled⟩ :=
      exists_item_of_mem_results related.flip member
    rw [assembled.unique otherAssembled, ← otherAssembled.path]
    exact Keyed.get?_of_mem otherMember

end EntityLink.ClassIndex
