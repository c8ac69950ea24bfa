import EntityLink.ModelSet
import EntityLink.Proofs.Resolution.ClassFields

/-!
# How models are put together

A field of a model is the last one of its name that was added, so it comes from
the nearest class of the chain that adds a field of that name
(`get?_insertLevels`).  `exists_assembly` says of every model of a set from
which classes and fields it was put together.
-/

namespace EntityLink

namespace EntityModel

theorem get?_eq_some_iff {model : EntityModel} {name : String}
    {field : ModelField} :
    model.get? name = some field ↔
      field ∈ model.fields ∧ field.name = name := by
  constructor
  · intro found
    exact ⟨List.mem_of_find?_eq_some found,
      by simpa using List.find?_some found⟩
  · rintro ⟨member, rfl⟩
    cases found : model.get? field.name with
    | none => simpa using List.find?_eq_none.1 found field member
    | some other =>
        have otherMember : other ∈ model.fields :=
          List.mem_of_find?_eq_some found
        have named : other.name = field.name := by
          simpa using List.find?_some found
        rw [List.inj_on_of_nodup_map model.distinct otherMember member named]

theorem mem_fields_iff {model : EntityModel} {field : ModelField} :
    field ∈ model.fields ↔ model.get? field.name = some field := by
  rw [get?_eq_some_iff]
  simp

private theorem find?_place (field : ModelField) (name : String)
    (fields : List ModelField) :
    (place field fields).find? (fun candidate => candidate.name == name) =
      if field.name = name then some field
      else fields.find? fun candidate => candidate.name == name := by
  induction fields with
  | nil => by_cases same : field.name = name <;> simp [place, same]
  | cons head tail induction =>
      rw [place]
      split
      next headNamed =>
        by_cases same : field.name = name
        · simp [same]
        · have headDifferent : ¬head.name = name := headNamed ▸ same
          simp [same, headDifferent]
      next headNamed =>
        by_cases headSame : head.name = name
        · have different : ¬field.name = name := fun same =>
            headNamed (headSame.trans same.symm)
          simp [headSame, different]
        · simp [headSame, induction]

theorem get?_insert (model : EntityModel) (field : ModelField) (name : String) :
    (model.insert field).get? name =
      if field.name = name then some field else model.get? name :=
  find?_place field name model.fields

/-- The last field of a name in a list. -/
def lastNamed? (name : String) (fields : List ModelField) : Option ModelField :=
  fields.reverse.find? fun field => field.name == name

theorem lastNamed?_eq_some {name : String} {fields : List ModelField}
    {field : ModelField} (found : lastNamed? name fields = some field) :
    field ∈ fields ∧ field.name = name :=
  ⟨List.mem_reverse.1 (List.mem_of_find?_eq_some found),
    by simpa using List.find?_some found⟩

theorem lastNamed?_eq_none {name : String} {fields : List ModelField} :
    lastNamed? name fields = none ↔ ∀ field ∈ fields, field.name ≠ name := by
  simp [lastNamed?]

theorem get?_insertAll (model : EntityModel) (fields : List ModelField)
    (name : String) :
    (model.insertAll fields).get? name =
      (lastNamed? name fields).or (model.get? name) := by
  induction fields generalizing model with
  | nil => rfl
  | cons field fields induction =>
      have step : model.insertAll (field :: fields) =
          (model.insert field).insertAll fields := rfl
      rw [step, induction, get?_insert, lastNamed?, lastNamed?,
        List.reverse_cons, List.find?_append, Option.or_assoc]
      congr 1
      by_cases same : field.name = name
      · simp [same]
      · simp [same]

/-- Adds the fields of one class after those of another. -/
def insertLevels (model : EntityModel) (levels : List (List ModelField)) :
    EntityModel :=
  levels.foldl insertAll model

theorem get?_insertLevels (model : EntityModel)
    (levels : List (List ModelField)) (name : String) :
    (model.insertLevels levels).get? name =
      (levels.reverse.findSome? (lastNamed? name)).or (model.get? name) := by
  induction levels generalizing model with
  | nil => rfl
  | cons level levels induction =>
      have step : model.insertLevels (level :: levels) =
          (model.insertAll level).insertLevels levels := rfl
      rw [step, induction, get?_insertAll, List.reverse_cons,
        List.findSome?_append, Option.or_assoc]
      simp

theorem path_insertLevels (model : EntityModel)
    (levels : List (List ModelField)) :
    (model.insertLevels levels).path = model.path := by
  have pathInsertAll : ∀ (model : EntityModel) (fields : List ModelField),
      (model.insertAll fields).path = model.path := by
    intro model fields
    induction fields generalizing model with
    | nil => rfl
    | cons field fields induction => exact induction (model.insert field)
  induction levels generalizing model with
  | nil => rfl
  | cons level levels induction =>
      exact (induction (model.insertAll level)).trans
        (pathInsertAll model level)

@[simp]
theorem get?_empty (path name : String) : (empty path).get? name = none := rfl

end EntityModel

namespace ClassIndex

variable {index : ClassIndex} {config : Config}

theorem get?_of_mem_toList {decl : ClassDecl} (member : decl ∈ index.toList) :
    index.get? decl.path = some decl :=
  Keyed.get?_of_mem member

/-- The fields resolved for a class of the index are found under its path. -/
theorem resolveClass_of_lookup {resolved : ResolvedClasses}
    (resolvedAll : index.resolveAll config = .ok resolved) {decl : ClassDecl}
    (indexed : index.get? decl.path = some decl) {fields : List ModelField}
    (found : resolved.lookup decl.path = some fields) :
    index.resolveClass config decl = .ok fields := by
  obtain ⟨before, after, split, _⟩ := List.lookup_eq_some_iff.1 found
  have member : (decl.path, fields) ∈ resolved := by
    rw [split]
    simp
  obtain ⟨other, otherMember, otherResolved⟩ :=
    exists_item_of_mem_results (mapM_ok_iff_forall₂.1 resolvedAll) member
  obtain ⟨otherFields, fieldsResolved, equality⟩ :=
    except_bind_ok_iff.1 otherResolved
  obtain ⟨paths, rfl⟩ := Prod.mk.inj (Except.ok.inj equality)
  have otherIndexed := get?_of_mem_toList (List.mem_filter.1 otherMember).1
  exact eq_of_path_eq otherIndexed indexed paths ▸ fieldsResolved

theorem addLineage_ok {resolved : ResolvedClasses} {links : List ClassDecl}
    {start model : EntityModel}
    (added : addLineage resolved start links = .ok model) :
    ∃ levels, List.Forall₂ (fun link fields => resolved.lookup link.path =
        some fields) links levels ∧
      model = start.insertLevels levels := by
  induction links generalizing start with
  | nil =>
      cases added
      exact ⟨[], .nil, rfl⟩
  | cons link links induction =>
      rw [addLineage] at added
      split at added
      · cases added
      next fields found =>
        obtain ⟨levels, related, equality⟩ := induction added
        exact ⟨fields :: levels, .cons found related, equality⟩

/-- How the model of a class comes about: the fields of each class of its
lineage are added, and every reference and every holder has its counterpart in
the end. -/
structure Assembled (index : ClassIndex) (config : Config) (decl : ClassDecl)
    (model : EntityModel) : Prop where
  indexed : index.get? decl.path = some decl
  path : model.path = decl.path
  levels : ∃ levels, List.Forall₂
      (fun link fields => index.resolveClass config link = .ok fields)
      (index.lineage config.rootType decl) levels ∧
    model = (EntityModel.empty decl.path).insertLevels levels
  paired : model.unpaired? = none

theorem assembled_of_assemble {resolved : ResolvedClasses}
    (resolvedAll : index.resolveAll config = .ok resolved) {decl : ClassDecl}
    (indexed : index.get? decl.path = some decl) {model : EntityModel}
    (assembled : index.assemble config resolved decl = .ok model) :
    Assembled index config decl model := by
  rw [assemble, except_bind_ok_iff] at assembled
  obtain ⟨lineageModel, added, assembled⟩ := assembled
  split at assembled
  · cases assembled
  next paired =>
    cases assembled
    obtain ⟨levels, related, rfl⟩ := addLineage_ok added
    have linkIndexed : ∀ link ∈ index.lineage config.rootType decl,
        index.get? link.path = some link := by
      intro link linkMember
      rw [lineage_eq_reverse_chain, List.mem_reverse] at linkMember
      exact get?_of_mem_chain indexed linkMember
    refine ⟨indexed, EntityModel.path_insertLevels _ _,
      ⟨levels, ?_, rfl⟩, paired⟩
    refine ((List.forall₂_and_left _ _).2 ⟨linkIndexed, related⟩).imp ?_
    rintro link fields ⟨linkIndexed, found⟩
    exact resolveClass_of_lookup resolvedAll linkIndexed found

/-- The models of a set are those of the entity classes, in the same order. -/
theorem assembled_of_buildModels {set : ModelSet}
    (built : index.buildModels config = .ok set) :
    List.Forall₂ (Assembled index config) (index.entityClasses config)
      set.models.toList := by
  rw [buildModels, except_bind_ok_iff] at built
  obtain ⟨resolved, resolvedAll, built⟩ := built
  obtain ⟨models, assembledAll, equality⟩ := except_bind_ok_iff.1 built
  cases equality
  have entitiesIndexed : ∀ decl ∈ index.entityClasses config,
      index.get? decl.path = some decl := by
    intro decl member
    exact get?_of_mem_toList (List.mem_filter.1 member).1
  have related : List.Forall₂ (Assembled index config)
      (index.entityClasses config) models := by
    refine ((List.forall₂_and_left _ _).2
      ⟨entitiesIndexed, mapM_ok_iff_forall₂.1 assembledAll⟩).imp ?_
    rintro decl model ⟨indexed, assembled⟩
    exact assembled_of_assemble resolvedAll indexed assembled
  have paths : models.map EntityModel.path =
      (index.entityClasses config).map ClassDecl.path :=
    map_eq_map_of_forall₂ (fun _ _ assembled => assembled.path) related
  have ascending : models.Pairwise fun left right =>
      left.path < right.path := by
    rw [← List.pairwise_map, paths, List.pairwise_map]
    exact index.ascending.filter _
  rw [Keyed.toList_ofList ascending]
  exact related

theorem exists_assembly {set : ModelSet}
    (built : index.buildModels config = .ok set) {model : EntityModel}
    (member : model ∈ set.models.toList) :
    ∃ decl ∈ index.entityClasses config, Assembled index config decl model :=
  exists_item_of_mem_results (assembled_of_buildModels built) member

/-- The field of a name that a class adds. -/
def addition? (index : ClassIndex) (config : Config) (name : String)
    (link : ClassDecl) : Option ModelField :=
  match index.resolveClass config link with
  | .ok fields => EntityModel.lastNamed? name fields
  | .error _ => none

theorem addition?_of_resolveClass {link : ClassDecl} {fields : List ModelField}
    (resolved : index.resolveClass config link = .ok fields) (name : String) :
    index.addition? config name link = EntityModel.lastNamed? name fields := by
  simp [addition?, resolved]

namespace Assembled

variable {decl : ClassDecl} {model : EntityModel}

theorem get?_eq (assembled : Assembled index config decl model)
    (name : String) :
    model.get? name =
      (index.chain config.rootType decl).findSome?
        (index.addition? config name) := by
  obtain ⟨levels, related, rfl⟩ := assembled.levels
  rw [EntityModel.get?_insertLevels, EntityModel.get?_empty, Option.or_none,
    ← List.reverse_reverse (index.chain config.rootType decl), ←
      lineage_eq_reverse_chain]
  have reversed := List.forall₂_reverse_iff.2 related
  generalize (index.lineage config.rootType decl).reverse = links at reversed
  generalize levels.reverse = levels at reversed
  induction reversed with
  | nil => rfl
  | cons resolved _ induction =>
      rw [List.findSome?_cons, List.findSome?_cons,
        addition?_of_resolveClass resolved, induction]

theorem indexed_of_mem (assembled : Assembled index config decl model)
    {link : ClassDecl} (member : link ∈ index.chain config.rootType decl) :
    index.get? link.path = some link :=
  get?_of_mem_chain assembled.indexed member

theorem exists_fields (assembled : Assembled index config decl model)
    {link : ClassDecl} (member : link ∈ index.chain config.rootType decl) :
    ∃ fields, index.resolveClass config link = .ok fields ∧
      ClassFields index config link fields := by
  obtain ⟨levels, related, _⟩ := assembled.levels
  have inLineage : link ∈ index.lineage config.rootType decl := by
    rwa [lineage_eq_reverse_chain, List.mem_reverse]
  obtain ⟨fields, _, resolved⟩ :=
    exists_item_of_mem_results related.flip inLineage
  exact ⟨fields, resolved,
    classFields_of_resolveClass (assembled.indexed_of_mem member) resolved⟩

end Assembled

end ClassIndex

end EntityLink
