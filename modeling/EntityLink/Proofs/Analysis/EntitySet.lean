import EntityLink.Analysis
import EntityLink.Proofs.Class.Superclasses
import EntityLink.Proofs.Model.Declaration

/-!
# The set of entity classes

Models, reflection and catalog are about the same classes.  Whether the target
of a relation is among them is decided in another way than whether it is an
entity for a field: a field asks for the superclass of its class alone, while
the set of entity classes follows the chain of superclasses and leaves out the
base classes themselves.  `target_mem_models_iff` says where both agree.

`mem_models_iff` says the set: the marked classes and those from which a base
class is reached over links that avoid the root type.
-/

namespace EntityLink.ClassIndex

variable {index : ClassIndex} {config : Config}

/-- An analysis that succeeds found no obstacle and describes the models that
were built. -/
theorem analyze_ok {analysis : Analysis}
    (analyzed : index.analyze config = .ok analysis) :
    index.obstacle? config = none ∧ ∃ set, index.buildModels config = .ok set ∧
      analysis = {
        models := set.models
        publicFieldClasses := set.publicFieldClasses
        reflection := (index.entityClasses config).map ClassDecl.path
        replacements := index.replacements config set.models
        catalog :=
          (index.entityClasses config).map ClassDecl.catalogEntry } := by
  unfold analyze at analyzed
  split at analyzed
  · cases analyzed
  next noObstacle =>
    obtain ⟨set, built, equality⟩ := except_bind_ok_iff.1 analyzed
    exact ⟨noObstacle, set, built, (Except.ok.inj equality).symm⟩

theorem analyze_of_buildModels (valid : index.obstacle? config = none)
    {set : ModelSet} (built : index.buildModels config = .ok set) :
    index.analyze config = .ok {
      models := set.models
      publicFieldClasses := set.publicFieldClasses
      reflection := (index.entityClasses config).map ClassDecl.path
      replacements := index.replacements config set.models
      catalog := (index.entityClasses config).map ClassDecl.catalogEntry } := by
  rw [analyze, valid, built]
  rfl

theorem publicFieldClasses_of_buildModels {set : ModelSet}
    (built : index.buildModels config = .ok set) :
    set.publicFieldClasses =
      ((index.entityClasses config).filter ClassDecl.hasPublicField).map
        ClassDecl.path := by
  obtain ⟨_, _, built⟩ := except_bind_ok_iff.1 built
  obtain ⟨_, _, equality⟩ := except_bind_ok_iff.1 built
  cases equality
  rfl

theorem keys_of_buildModels {set : ModelSet}
    (built : index.buildModels config = .ok set) :
    set.models.keys = (index.entityClasses config).map ClassDecl.path :=
  map_eq_map_of_forall₂ (fun _ _ assembled => assembled.path)
    (assembled_of_buildModels built)

theorem path_catalogEntry (decl : ClassDecl) :
    decl.catalogEntry.path = decl.path := by
  unfold ClassDecl.catalogEntry
  split <;> rfl

/-- The entries of the catalog for a class. -/
theorem filter_catalog (path : String) :
    (((index.entityClasses config).map ClassDecl.catalogEntry).filter
        fun entry => entry.path == path) =
      (((index.get? path).filter (index.isEntityClass config)).map
        ClassDecl.catalogEntry).toList := by
  have samePath : ((fun entry => entry.path == path) ∘ ClassDecl.catalogEntry) =
      fun decl => decl.path == path :=
    funext fun decl => congrArg (· == path) (path_catalogEntry decl)
  have swapped :
      ((index.entityClasses config).filter fun decl => decl.path == path) =
      (index.get? path).toList.filter (index.isEntityClass config) := by
    rw [entityClasses, List.filter_comm, ← Keyed.filter_key_toList]
  rw [List.filter_map, samePath, swapped, Option.toList_map,
    Option.toList_filter]

/-- The classes of models, reflection and catalog are the same, in the same
order. -/
theorem classes_of_analyze {analysis : Analysis}
    (analyzed : index.analyze config = .ok analysis) :
    analysis.models.keys = (index.entityClasses config).map ClassDecl.path ∧
      analysis.reflection = analysis.models.keys ∧
      analysis.catalog.map CatalogEntry.path = analysis.models.keys := by
  obtain ⟨_, set, built, rfl⟩ := analyze_ok analyzed
  have keys := keys_of_buildModels built
  refine ⟨keys, keys.symm, ?_⟩
  rw [keys, List.map_map]
  exact List.map_congr_left fun decl _ => path_catalogEntry decl

theorem isEntity_classify_iff {decl : ClassDecl} :
    (decl.classify config).isEntity = true ↔
      (∃ base, config.isBase base = true ∧ decl.superclass = some base) ∨
        decl.isMarked = true := by
  unfold ClassDecl.classify
  split
  next identified =>
    simp only [Classification.isEntity, true_iff]
    exact .inl ⟨config.identifiedBase, by simp [Config.isBase], identified⟩
  next notIdentified =>
    split
    next based =>
      simp only [Classification.isEntity, true_iff]
      exact .inl ⟨config.entityBase, by simp [Config.isBase], based⟩
    next notBased =>
      have noBase : ¬∃ base,
          config.isBase base = true ∧ decl.superclass = some base := by
        rintro ⟨base, isBase, superclass⟩
        simp only [Config.isBase, Bool.or_eq_true, beq_iff_eq] at isBase
        rcases isBase with rfl | rfl
        · exact notBased superclass
        · exact notIdentified superclass
      cases marked : decl.isMarked <;> simp [Classification.isEntity, noBase]

theorem isEntityClass_iff {decl : ClassDecl} :
    index.isEntityClass config decl = true ↔
      decl.isMarked = true ∨
        config.isBase decl.path = false ∧
          ∃ base, config.isBase base = true ∧
          index.Extends config.rootType decl.path base := by
  have apart : config.isBase decl.path = false ↔
      decl.path ≠ config.entityBase ∧ decl.path ≠ config.identifiedBase := by
    simp [Config.isBase]
  simp only [isEntityClass, Bool.or_eq_true, Bool.and_eq_true,
    Bool.not_eq_true', isSubclassOf_iff]
  refine or_congr_right (and_congr_right fun notBase => ?_)
  obtain ⟨notEntityBase, notIdentifiedBase⟩ := apart.1 notBase
  constructor
  · rintro (⟨_, reached⟩ | ⟨_, reached⟩)
    · exact ⟨config.entityBase, by simp [Config.isBase], reached⟩
    · exact ⟨config.identifiedBase, by simp [Config.isBase], reached⟩
  · rintro ⟨base, isBase, reached⟩
    simp only [Config.isBase, Bool.or_eq_true, beq_iff_eq] at isBase
    rcases isBase with rfl | rfl
    · exact .inl ⟨notEntityBase, reached⟩
    · exact .inr ⟨notIdentifiedBase, reached⟩

/-- A class that is an entity for a field is one of the set unless it is a base
class or stands right below the root type; a marked class is one in any case. -/
theorem isEntityClass_iff_of_classify {decl : ClassDecl}
    (indexed : index.get? decl.path = some decl)
    (isEntity : (decl.classify config).isEntity = true) :
    index.isEntityClass config decl = true ↔
      decl.isMarked = true ∨
        config.isBase decl.path = false ∧
          decl.superclass ≠ some config.rootType := by
  have superclass : index.superclass? decl.path = decl.superclass := by
    simp [superclass?, indexed]
  rw [isEntityClass_iff]
  constructor
  · rintro (marked | ⟨notBase, base, _, reached⟩)
    · exact .inl marked
    · refine .inr ⟨notBase, fun atRoot => ?_⟩
      exact not_extends_of_superclass_root (superclass.trans atRoot) reached
  · rintro (marked | ⟨notBase, notAtRoot⟩)
    · exact .inl marked
    · rcases isEntity_classify_iff.1 isEntity with
        ⟨base, isBase, direct⟩ | marked
      · refine .inr
          ⟨notBase, base, isBase, .direct (superclass.trans direct) ?_⟩
        rintro rfl
        exact notAtRoot direct
      · exact .inl marked

theorem mem_entityClasses_paths_iff {decl : ClassDecl}
    (indexed : index.get? decl.path = some decl) :
    decl.path ∈ (index.entityClasses config).map ClassDecl.path ↔
      index.isEntityClass config decl = true := by
  rw [List.mem_map]
  constructor
  · rintro ⟨other, member, paths⟩
    obtain ⟨otherMember, isEntityClass⟩ := List.mem_filter.1 member
    rwa [eq_of_path_eq (get?_of_mem_toList otherMember) indexed paths]
      at isEntityClass
  · intro isEntityClass
    exact ⟨decl,
      List.mem_filter.2 ⟨Keyed.mem_of_get? indexed, isEntityClass⟩, rfl⟩

/-- Of the classes of an index exactly those have a model that are marked, or
that extend a base class without being one.  Models, reflection and catalog list
the same classes, each once and in ascending order; the classes with a public
field are among them. -/
theorem mem_models_iff (index : ClassIndex) (config : Config)
    {analysis : Analysis} (analyzed : index.analyze config = .ok analysis) :
    (∀ decl, index.get? decl.path = some decl →
        (decl.path ∈ analysis.models.keys ↔
          decl.isMarked = true ∨
            (decl.path ≠ config.entityBase ∧
                decl.path ≠ config.identifiedBase) ∧
              ∃ base,
                (base = config.entityBase ∨ base = config.identifiedBase) ∧
                index.Extends config.rootType decl.path base)) ∧
      (∀ path ∈ analysis.models.keys, ∃ decl, index.get? path = some decl) ∧
      analysis.reflection = analysis.models.keys ∧
      analysis.catalog.map CatalogEntry.path = analysis.models.keys ∧
      analysis.models.keys.Pairwise (· < ·) ∧
      analysis.models.keys.Nodup ∧
      analysis.publicFieldClasses.Sublist analysis.models.keys := by
  obtain ⟨keys, reflected, catalogued⟩ := classes_of_analyze analyzed
  refine ⟨?_, ?_, reflected, catalogued, analysis.models.pairwise_keys,
    analysis.models.nodup_keys, ?_⟩
  · intro decl indexed
    rw [keys, mem_entityClasses_paths_iff indexed, isEntityClass_iff]
    simp [Config.isBase]
  · intro path member
    rw [keys] at member
    obtain ⟨decl, declMember, rfl⟩ := List.mem_map.1 member
    exact ⟨decl, get?_of_mem_toList (List.mem_filter.1 declMember).1⟩
  · obtain ⟨_, set, built, rfl⟩ := analyze_ok analyzed
    rw [keys]
    exact publicFieldClasses_of_buildModels built ▸
      List.filter_sublist.map ClassDecl.path

/-- The target of a reference is a class of the index that is an entity for a
field. -/
theorem exists_target_of_related {set : ModelSet}
    (built : index.buildModels config = .ok set) {model : EntityModel}
    (member : model ∈ set.models.toList) {reference : Reference}
    {holder : Holder} (related : (reference, holder) ∈ model.relations) :
    ∃ target, index.get? reference.target = some target ∧
      target.path = reference.target ∧
      (target.classify config).isEntity = true := by
  obtain ⟨_, _, assembled⟩ := exists_assembly built member
  have referenceMember := (assembled.pairsUp.of_mem_relations related).1
  obtain ⟨link, field, found, declaresHolder, declares⟩ :=
    exists_declares_of_buildModels built member referenceMember
  obtain ⟨target, _, indexed, isEntity, _, referenced⟩ := declares.derived
  have sameTarget : reference.target = target.path := by
    rw [declares.eq_found]
    obtain ⟨idField, idType, holderType, _, _, _, rfl⟩ :=
      referenceTo_ok referenced
    rfl
  exact ⟨target, sameTarget ▸ indexed, sameTarget.symm, isEntity⟩

/-- Reflection and catalog list the classes that have models.  The target of a
relation is a class of the index, and it is among them exactly when it is
marked or else is no base class and does not stand right below the root
type. -/
theorem target_mem_models_iff (index : ClassIndex) (config : Config)
    {analysis : Analysis} (analyzed : index.analyze config = .ok analysis) :
    analysis.reflection = analysis.models.keys ∧
      analysis.catalog.map CatalogEntry.path = analysis.models.keys ∧
      ∀ model ∈ analysis.models.toList, ∀ reference holder,
        (reference, holder) ∈ model.relations →
        ∃ target, index.get? reference.target = some target ∧
          (reference.target ∈ analysis.models.keys ↔
            target.isMarked = true ∨
              config.isBase target.path = false ∧
                target.superclass ≠ some config.rootType) := by
  obtain ⟨keys, reflected, catalogued⟩ := classes_of_analyze analyzed
  obtain ⟨_, set, built, rfl⟩ := analyze_ok analyzed
  refine ⟨reflected, catalogued, ?_⟩
  intro model member reference holder related
  obtain ⟨target, indexed, path, isEntity⟩ :=
    exists_target_of_related built member related
  refine ⟨target, indexed, ?_⟩
  rw [← path] at indexed
  rw [keys, ← path, mem_entityClasses_paths_iff indexed,
    isEntityClass_iff_of_classify indexed isEntity]

end ClassIndex

namespace Ledger

/-- A base class that extends the other one. -/
def entity : ClassDecl where
  path := "refsync::Entity"
  superclass := some "refsync::EntityBase"
  fields := [{ name := "id", type := .named "Id" }]

def account : ClassDecl where
  path := "app::Account"
  superclass := some "refsync::Entity"

/-- Refers to an account and to any entity whatever. -/
def entry : ClassDecl where
  path := "app::Entry"
  superclass := some "refsync::Entity"
  fields := [
    { name := "account", type := .named "app::Account" },
    { name := "cause", type := .named "refsync::Entity" }]

def index : ClassIndex := .ofList [entity, account, entry]

def analysis : Analysis := (index.analyze {}).toOption.getD default

theorem analyzed : index.analyze {} = .ok analysis :=
  eq_ok_of_isSome (by decide +kernel)

def entryModel : EntityModel := (analysis.models.get? entry.path).getD default

def relation (name : String) : Reference × Holder :=
  (entryModel.relations.find? fun pair => pair.1.name == name).getD default

end Ledger

/-- The account of an entry has a model and is reflected. -/
theorem ClassIndex.target_mem_models_account :
    Ledger.index.analyze {} = .ok Ledger.analysis ∧
      Ledger.entryModel ∈ Ledger.analysis.models.toList ∧
      Ledger.relation "account" ∈ Ledger.entryModel.relations ∧
      (Ledger.relation "account").1.target ∈ Ledger.analysis.models.keys ∧
      (Ledger.relation "account").1.target ∈ Ledger.analysis.reflection := by
  have facts : Ledger.entryModel ∈ Ledger.analysis.models.toList ∧
      Ledger.relation "account" ∈ Ledger.entryModel.relations ∧
      Ledger.index.get? (Ledger.relation "account").1.target =
        some Ledger.account := by
    decide +kernel
  obtain ⟨member, related, targetFound⟩ := facts
  obtain ⟨reflected, _, targets⟩ :=
    target_mem_models_iff Ledger.index {} Ledger.analyzed
  obtain ⟨target, found, modelled⟩ := targets _ member _ _ related
  obtain rfl : Ledger.account = target :=
    Option.some.inj (targetFound.symm.trans found)
  have isModelled := modelled.2 (.inr ⟨by decide, by decide⟩)
  exact ⟨Ledger.analyzed, member, related, isModelled,
    reflected ▸ isModelled⟩

/-- The base class that the cause of an entry has for its type has no model. -/
theorem ClassIndex.target_mem_models_not_always :
    ¬∀ (index : ClassIndex) (config : Config) (analysis : Analysis),
      index.analyze config = .ok analysis → ∀ model ∈ analysis.models.toList,
        ∀ pair ∈ model.relations, pair.1.target ∈ analysis.models.keys := by
  intro always
  have facts : Ledger.entryModel ∈ Ledger.analysis.models.toList ∧
      Ledger.relation "cause" ∈ Ledger.entryModel.relations ∧
      (Ledger.relation "cause").1.target ∉ Ledger.analysis.models.keys := by
    decide +kernel
  obtain ⟨member, related, absent⟩ := facts
  exact absent
    (always Ledger.index {} Ledger.analysis Ledger.analyzed _ member _ related)

namespace Depot

def truck : ClassDecl where
  path := "app::Truck"
  superclass := some "app::Vehicle"

/-- A class below itself. -/
def ring : ClassDecl where
  path := "app::Ring"
  superclass := some "app::Ring"

/-- Two base classes, one below the other, a class two levels below them, one
that is marked below a class that was not scanned, and one below itself. -/
def index : ClassIndex := .ofList [
  Ledger.entity,
  { path := "app::Vehicle", superclass := some "refsync::Entity",
    kind := .isAbstract },
  truck,
  { path := "app::Permit", superclass := some "ext::Paper", entity := some {} },
  ring]

def analysis : Analysis := (index.analyze {}).toOption.getD default

theorem analyzed : index.analyze {} = .ok analysis :=
  eq_ok_of_isSome (by decide +kernel)

end Depot

/-- A class two levels below a base class has a model; the base class that
extends the other one and the class below itself have none. -/
theorem ClassIndex.mem_models_depot :
    Depot.index.analyze {} = .ok Depot.analysis ∧
      Depot.truck.path ∈ Depot.analysis.models.keys ∧
      Ledger.entity.path ∉ Depot.analysis.models.keys ∧
      Depot.ring.path ∉ Depot.analysis.models.keys := by
  obtain ⟨modelled, _⟩ := mem_models_iff Depot.index {} Depot.analyzed
  have indexed : Depot.index.get? Depot.truck.path = some Depot.truck ∧
      Depot.index.get? Ledger.entity.path = some Ledger.entity ∧
      Depot.index.get? Depot.ring.path = some Depot.ring := by
    decide +kernel
  refine ⟨Depot.analyzed, (modelled _ indexed.1).2 (.inr ?_), ?_, ?_⟩
  · have vehicle :
        Depot.index.Extends "object" Depot.truck.path "app::Vehicle" :=
      .direct (by decide +kernel) (by decide)
    exact ⟨by decide, "refsync::Entity", .inr rfl,
      .further vehicle (by decide +kernel) (by decide)⟩
  · intro member
    rcases (modelled _ indexed.2.1).1 member with marked | ⟨notBase, _⟩
    · cases marked
    · exact notBase.2 rfl
  · intro member
    rcases (modelled _ indexed.2.2).1 member with marked
      | ⟨_, base, isBase, reached⟩
    · cases marked
    · have unrelated :
          Depot.index.isSubclassOf "object" Depot.ring.path base = false := by
        rcases isBase with rfl | rfl
        · decide +kernel
        · decide +kernel
      have different : Depot.ring.path ≠ base := by
        rcases isBase with rfl | rfl
        · decide
        · decide
      exact absurd (isSubclassOf_iff.2 ⟨different, reached⟩) (by
        simp [unrelated])

end EntityLink
