import EntityLink.Proofs.Analysis.Replacements
import EntityLink.Proofs.Model.Building
import EntityLink.Proofs.Resolution.Extension
import EntityLink.Proofs.Validation.Violations

/-!
# What an analysis says of a class does not depend on classes elsewhere

An index is analysed as a whole, and each stage looks through all of its
classes.  Still, a class that nothing mentions makes no difference to what is
said of the others (`analyze_of_insert`): what goes wrong in a class, its model,
its stored names and its entry in the catalog depend only on the classes that it
leads to.
-/

namespace EntityLink

/-- Two analyses say the same of a class. -/
structure Analysis.AgreeOn (left right : Analysis) (path : String) : Prop where
  models : left.models.get? path = right.models.get? path
  replacements : left.replacements.find? path = right.replacements.find? path
  catalog : (left.catalog.filter fun entry => entry.path == path) =
    right.catalog.filter fun entry => entry.path == path
  reflection : path ∈ left.reflection ↔ path ∈ right.reflection
  publicFields : path ∈ left.publicFieldClasses ↔
    path ∈ right.publicFieldClasses

namespace ClassIndex

variable {index : ClassIndex} {added decl : ClassDecl} {config : Config}
  {path : String}

namespace Unmentioned

variable (unmentioned : index.Unmentioned added.path)

include unmentioned

theorem mem_toList_insert (member : decl ∈ index.toList) :
    decl ∈ (index.insert added).toList := by
  have found := get?_of_mem_toList member
  rw [← get?_insert_of_ne (unmentioned.path_ne member)] at found
  exact Keyed.mem_of_get? found

theorem isEntityClass_insert (apart : decl.path ≠ added.path) :
    isEntityClass (index.insert added) config decl =
      index.isEntityClass config decl := by
  rw [isEntityClass, isEntityClass, unmentioned.isSubclassOf_insert apart,
    unmentioned.isSubclassOf_insert apart]

theorem mem_entityClasses_insert_iff (apart : decl.path ≠ added.path) :
    decl ∈ entityClasses (index.insert added) config ↔
      decl ∈ index.entityClasses config := by
  have listed : decl ∈ (index.insert added).toList ↔ decl ∈ index.toList := by
    constructor
    · intro member
      have found := get?_of_mem_toList member
      rw [get?_insert_of_ne apart] at found
      exact Keyed.mem_of_get? found
    · exact unmentioned.mem_toList_insert
  rw [entityClasses, entityClasses, List.mem_filter, List.mem_filter, listed,
    unmentioned.isEntityClass_insert apart]

theorem mem_paths_entityClasses_insert_iff (config : Config)
    (selected : ClassDecl → Bool) (apart : path ≠ added.path) :
    path ∈ ((index.entityClasses config).filter selected).map ClassDecl.path ↔
      path ∈ ((entityClasses (index.insert added) config).filter selected).map
        ClassDecl.path := by
  simp only [List.mem_map, List.mem_filter]
  refine exists_congr fun decl => and_congr_left ?_
  rintro rfl
  rw [unmentioned.mem_entityClasses_insert_iff apart]

theorem filter_catalog_insert (apart : path ≠ added.path) :
    (((index.entityClasses config).map ClassDecl.catalogEntry).filter
        fun entry => entry.path == path) =
      ((entityClasses (index.insert added) config).map
        ClassDecl.catalogEntry).filter fun entry => entry.path == path := by
  rw [filter_catalog, filter_catalog, get?_insert_of_ne apart]
  cases found : index.get? path with
  | none => rfl
  | some decl =>
      obtain rfl : decl.path = path := Keyed.key_of_get? found
      rw [Option.filter_some, Option.filter_some,
        unmentioned.isEntityClass_insert apart]

theorem duplicateIdentifiers_of_insert
    (noDuplicate : duplicateIdentifiers (index.insert added) config = []) :
    index.duplicateIdentifiers config = [] := by
  unfold duplicateIdentifiers at noDuplicate ⊢
  rw [List.flatMap_eq_nil_iff] at noDuplicate ⊢
  intro decl known
  obtain ⟨member, isSubclass⟩ := List.mem_filter.1 known
  refine noDuplicate decl
    (List.mem_filter.2 ⟨unmentioned.mem_toList_insert member, ?_⟩)
  rw [unmentioned.isSubclassOf_insert (unmentioned.path_ne member)]
  exact isSubclass

section Acyclic

variable (acyclic : index.Acyclic config.rootType)

include acyclic

theorem hasField_insert (apart : path ≠ added.path) (name : String) :
    hasField (index.insert added) config path name =
      index.hasField config path name := by
  rw [hasField, hasField, unmentioned.fieldInChain?_insert acyclic apart,
    unmentioned.isSubclassOf_insert apart]

theorem classViolations_insert (apart : decl.path ≠ added.path) :
    classViolations (index.insert added) config decl =
      index.classViolations config decl := by
  have specs : specViolations (index.insert added) config decl =
      index.specViolations config decl := by
    funext spec
    simp only [specViolations, unmentioned.hasField_insert acyclic apart]
  have markers : markerViolations (index.insert added) config decl =
      index.markerViolations config decl := by
    funext marker
    rw [markerViolations, markerViolations, specs]
  rw [classViolations, classViolations, markers]

theorem obstacle?_of_insert
    (valid : obstacle? (index.insert added) config = none) :
    index.obstacle? config = none := by
  obtain ⟨noFault, noDuplicate, noViolation⟩ := obstacle?_eq_none_iff.1 valid
  refine obstacle?_eq_none_iff.2
    ⟨noFault, unmentioned.duplicateIdentifiers_of_insert noDuplicate,
      fun decl member => ?_⟩
  rw [← unmentioned.classViolations_insert acyclic (unmentioned.path_ne member)]
  exact noViolation decl (unmentioned.mem_toList_insert member)

theorem assembled_insert_iff (member : decl ∈ index.toList)
    {model : EntityModel} :
    Assembled (index.insert added) config decl model ↔
      Assembled index config decl model := by
  have apart := unmentioned.path_ne member
  have lookups : (index.insert added).get? decl.path = index.get? decl.path :=
    get?_insert_of_ne apart
  have lineages := unmentioned.lineage_insert acyclic apart
  have sameFields : ∀ link ∈ index.lineage config.rootType decl, ∀ fields,
      resolveClass (index.insert added) config link = .ok fields ↔
        index.resolveClass config link = .ok fields := by
    intro link linkMember fields
    rw [lineage_eq_reverse_chain, List.mem_reverse] at linkMember
    have linkIndexed := get?_of_mem_chain (get?_of_mem_toList member) linkMember
    rw [unmentioned.resolveClass_insert acyclic (Keyed.mem_of_get? linkIndexed)]
  constructor
  · rintro ⟨indexed, named, ⟨levels, related, inserted⟩, paired⟩
    rw [lineages, forall₂_congr_of_mem sameFields] at related
    exact ⟨lookups.symm.trans indexed, named,
      ⟨levels, related, inserted⟩, paired⟩
  · rintro ⟨indexed, named, ⟨levels, related, inserted⟩, paired⟩
    rw [← forall₂_congr_of_mem sameFields, ← lineages] at related
    exact ⟨lookups.trans indexed, named, ⟨levels, related, inserted⟩, paired⟩

theorem exists_buildModels_of_insert {extended : ModelSet}
    (built : buildModels (index.insert added) config = .ok extended) :
    ∃ set, index.buildModels config = .ok set := by
  refine exists_buildModels fun decl entity => ?_
  have member : decl ∈ index.toList := (List.mem_filter.1 entity).1
  have outer :=
    (unmentioned.mem_entityClasses_insert_iff
      (unmentioned.path_ne member)).2 entity
  obtain ⟨model, _, assembled⟩ :=
    exists_item_of_mem_results (assembled_of_buildModels built).flip outer
  exact ⟨model, (unmentioned.assembled_insert_iff acyclic member).1 assembled⟩

theorem get?_models_insert {set extended : ModelSet}
    (built : index.buildModels config = .ok set)
    (extendedBuilt : buildModels (index.insert added) config = .ok extended)
    (apart : path ≠ added.path) :
    set.models.get? path = extended.models.get? path := by
  apply Option.ext
  intro model
  rw [get?_models_iff built, get?_models_iff extendedBuilt]
  constructor
  · rintro ⟨decl, entity, rfl, assembled⟩
    have member : decl ∈ index.toList := (List.mem_filter.1 entity).1
    exact ⟨decl, (unmentioned.mem_entityClasses_insert_iff apart).2 entity, rfl,
      (unmentioned.assembled_insert_iff acyclic member).2 assembled⟩
  · rintro ⟨decl, outer, rfl, assembled⟩
    have entity := (unmentioned.mem_entityClasses_insert_iff apart).1 outer
    have member : decl ∈ index.toList := (List.mem_filter.1 entity).1
    exact ⟨decl, entity, rfl,
      (unmentioned.assembled_insert_iff acyclic member).1 assembled⟩

theorem classMappings_insert (apart : path ≠ added.path) :
    classMappings (index.insert added) config path =
      index.classMappings config path := by
  rw [classMappings, classMappings, get?_insert_of_ne apart]
  cases found : index.get? path with
  | none => rfl
  | some decl =>
      obtain rfl : decl.path = path := Keyed.key_of_get? found
      simp only [unmentioned.lineage_insert acyclic apart]

theorem modelMappings_insert {model : EntityModel}
    (apart : model.path ≠ added.path) :
    modelMappings (index.insert added) config model =
      index.modelMappings config model := by
  rw [modelMappings, modelMappings,
    unmentioned.classMappings_insert acyclic apart]

theorem find?_entityReplacements_insert
    {models extended : Keyed EntityModel EntityModel.path}
    (sameModel : models.get? path = extended.get? path)
    (apart : path ≠ added.path) :
    (index.entityReplacements config models).find? path =
      (entityReplacements (index.insert added) config extended).find? path := by
  rw [find?_entityReplacements_eq, find?_entityReplacements_eq, sameModel]
  cases found : extended.get? path with
  | none => rfl
  | some model =>
      obtain rfl : model.path = path := Keyed.key_of_get? found
      rw [Option.map_some, Option.map_some,
        unmentioned.modelMappings_insert acyclic apart]

theorem find?_replacements_insert
    {models extended : Keyed EntityModel EntityModel.path}
    (sameModels : ∀ path, path ≠ added.path →
      models.get? path = extended.get? path) (apart : path ≠ added.path) :
    (index.replacements config models).find? path =
      (replacements (index.insert added) config extended).find? path := by
  have tables : ∀ path, path ≠ added.path →
      (index.entityReplacements config models).find? path =
        (entityReplacements
          (index.insert added) config extended).find? path := by
    intro path apart
    exact unmentioned.find?_entityReplacements_insert acyclic
      (sameModels path apart) apart
  have shown : shown? (index.insert added) path = index.shown? path := by
    rw [shown?, shown?, get?_insert_of_ne apart]
  rw [find?_replacements, find?_replacements, tables path apart, shown]
  cases shows : index.shown? path with
  | none => rfl
  | some target =>
      have targetApart : target ≠ added.path := by
        obtain ⟨decl, found, projection⟩ := Option.bind_eq_some_iff.1 shows
        rintro rfl
        exact unmentioned.notShown decl (Keyed.mem_of_get? found) projection
      rw [Option.bind_some, Option.bind_some, tables target targetApart]

end Acyclic

end Unmentioned

/-- What is said of the classes of an index without circles stays the same when
a class is added that nothing mentions, and an index that can be analysed with
the class can be analysed without. -/
theorem analyze_of_insert (index : ClassIndex) (config : Config)
    (added : ClassDecl) (acyclic : index.Acyclic config.rootType)
    (unmentioned : index.Unmentioned added.path) {extended : Analysis}
    (analyzed : analyze (index.insert added) config = .ok extended) :
    ∃ analysis, index.analyze config = .ok analysis ∧
      ∀ path, path ≠ added.path → analysis.AgreeOn extended path := by
  obtain ⟨valid, extendedSet, extendedBuilt, rfl⟩ := analyze_ok analyzed
  obtain ⟨set, built⟩ :=
    unmentioned.exists_buildModels_of_insert acyclic extendedBuilt
  have analyzedInner :=
    analyze_of_buildModels (unmentioned.obstacle?_of_insert acyclic valid) built
  have sameModels : ∀ path, path ≠ added.path →
      set.models.get? path = extendedSet.models.get? path := by
    intro path apart
    exact unmentioned.get?_models_insert acyclic built extendedBuilt apart
  refine ⟨_, analyzedInner, ?_⟩
  intro path apart
  constructor
  case models => exact sameModels path apart
  case replacements =>
    exact unmentioned.find?_replacements_insert acyclic sameModels apart
  case catalog => exact unmentioned.filter_catalog_insert apart
  case reflection =>
    have listed := unmentioned.mem_paths_entityClasses_insert_iff config
      (fun _ => true) apart
    rwa [List.filter_true, List.filter_true] at listed
  case publicFields =>
    rw [publicFieldClasses_of_buildModels built,
      publicFieldClasses_of_buildModels extendedBuilt]
    exact unmentioned.mem_paths_entityClasses_insert_iff config
      ClassDecl.hasPublicField apart

end ClassIndex

namespace Fleet

def ship : ClassDecl where
  path := "app::Ship"
  superclass := some "refsync::Entity"
  fields := [{ name := "flag", type := .named "String" }]

def voyage : ClassDecl where
  path := "app::Voyage"
  superclass := some "refsync::Entity"
  fields := [{ name := "ship", type := .named "app::Ship" }]

def timetable : ClassDecl where
  path := "app::Timetable"
  projectionFor := some "app::Voyage"

def index : ClassIndex := .ofList [ship, voyage, timetable]

/-- Extends a class, refers to another one and shows it. -/
def ferry : ClassDecl where
  path := "app::Ferry"
  superclass := some "app::Ship"
  entity := some {}
  projectionFor := some "app::Voyage"
  fields := [
    { name := "crossings",
      type := .parameterized "Vec" [.named "app::Voyage"] }]

def extended : Analysis :=
  (ClassIndex.analyze (index.insert ferry) {}).toOption.getD default

theorem analyzed : ClassIndex.analyze (index.insert ferry) {} = .ok extended :=
  eq_ok_of_isSome (by decide +kernel)

theorem unmentioned : index.Unmentioned ferry.path where
  absent := by decide +kernel
  notExtended := by decide +kernel
  notShown := by decide +kernel
  notInType := by decide +kernel

end Fleet

/-- Ferries make no difference to what is said of voyages and of the timetable
that shows them. -/
theorem ClassIndex.analyze_of_insert_ferry :
    Fleet.index.Acyclic ({} : Config).rootType ∧
      Fleet.index.Unmentioned Fleet.ferry.path ∧
      ClassIndex.analyze (Fleet.index.insert Fleet.ferry) {} =
        .ok Fleet.extended ∧
      (Fleet.extended.models.get? "app::Voyage").isSome ∧
      (Fleet.extended.replacements.find? "app::Timetable").isSome ∧
      ∃ analysis, Fleet.index.analyze {} = .ok analysis ∧
        analysis.AgreeOn Fleet.extended "app::Voyage" ∧
        analysis.AgreeOn Fleet.extended "app::Timetable" := by
  have acyclic : Fleet.index.Acyclic ({} : Config).rootType := by decide +kernel
  have facts : (Fleet.extended.models.get? "app::Voyage").isSome ∧
      (Fleet.extended.replacements.find? "app::Timetable").isSome := by
    decide +kernel
  obtain ⟨analysis, innerAnalyzed, agree⟩ := ClassIndex.analyze_of_insert
    Fleet.index {} Fleet.ferry acyclic Fleet.unmentioned Fleet.analyzed
  exact ⟨acyclic, Fleet.unmentioned, Fleet.analyzed, facts.1, facts.2, analysis,
    innerAnalyzed, agree _ (by decide), agree _ (by decide)⟩

end EntityLink
