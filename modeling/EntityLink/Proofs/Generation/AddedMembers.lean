import EntityLink.Proofs.Generation.Stages
import EntityLink.Proofs.Model.Declaration
import Mathlib.Data.List.Nodup

/-!
# The members that a class gains

What a class gains is listed in one pass over its relations, and the lists stay
in step with them: each accessor, holder field, list to start with and mark
belongs to one relation and is listed once (`augment?_adds`).  That no field is
both left unsaved and left unwritten depends on the names of references and
holders being apart.
-/

namespace EntityLink

theorem filter_key_of_nodup {α κ : Type} [BEq κ] [LawfulBEq κ] {key : α → κ}
    {items : List α} (distinct : (items.map key).Nodup) {item : α}
    (member : item ∈ items) :
    (items.filter fun other => key other == key item) = [item] := by
  have nodup : (items.filter fun other => key other == key item).Nodup :=
    distinct.of_map.filter _
  rw [← List.perm_singleton,
    List.perm_ext_iff_of_nodup nodup (List.nodup_singleton item)]
  intro other
  rw [List.mem_filter, List.mem_singleton, beq_iff_eq]
  constructor
  · rintro ⟨otherMember, sameKey⟩
    exact List.inj_on_of_nodup_map distinct otherMember member sameKey
  · rintro rfl
    exact ⟨member, rfl⟩

namespace EntityModel.PairsUp

variable {model : EntityModel}

theorem nodup_names (pairsUp : model.PairsUp) :
    ((model.fields.filterMap ModelField.reference?).map
      Reference.name).Nodup := by
  have names := pairsUp.nodup_reference_names
  rwa [pairsUp.relations, List.map_map] at names

theorem nodup_holderNames (pairsUp : model.PairsUp) :
    ((model.fields.filterMap ModelField.reference?).map
      Reference.holderName).Nodup := by
  rw [List.Nodup, List.pairwise_map]
  apply EntityModel.pairwise_reference_names.imp_of_mem
  intro first second firstMember secondMember different same
  have equal : first = second := pairsUp.holdersFound.eq_of_holderName
    (EntityModel.mem_references_iff.1 firstMember)
    (EntityModel.mem_references_iff.1 secondMember) same
  exact different (congrArg Reference.name equal)

end EntityModel.PairsUp

/-- A class declares an ordinary method with a name and parameters. -/
def ClassDecl.DeclaresMethod (decl : ClassDecl) (name : String)
    (parameters : List TypeRef) : Prop :=
  ∃ method ∈ decl.methods,
    method.kind = .ordinary ∧ method.name = name ∧
      method.parameters = parameters

theorem ClassDecl.hasMethod_iff {decl : ClassDecl} {name : String}
    {parameters : List TypeRef} :
    decl.hasMethod name parameters = true ↔
      decl.DeclaresMethod name parameters := by
  simp [hasMethod, DeclaresMethod, List.any_eq_true, and_assoc]

namespace AccessorRole

/-- The four roles, in the order in which a relation gets its accessors. -/
def all : List AccessorRole :=
  [.entityGetter, .entitySetter, .holderGetter, .holderSetter]

theorem mem_all (role : AccessorRole) : role ∈ all := by
  cases role <;> decide

theorem nodup_all : all.Nodup := by
  decide

/-- The side of a relation that an accessor gets or sets. -/
def side (role : AccessorRole) (reference : Reference) : TypedField :=
  match role with
  | .entityGetter | .entitySetter => ⟨reference.name, reference.type⟩
  | .holderGetter | .holderSetter =>
      ⟨reference.holderName, reference.holderType⟩

/-- The accessor in a role: a getter returns the type of its side, a setter
takes it. -/
def accessor (role : AccessorRole) (reference : Reference) : SyntheticMethod :=
  let side := role.side reference
  match role with
  | .entityGetter | .holderGetter =>
      { name := Accessor.getterName side.name, role, relation := reference.name,
        parameters := [], returns := some side.type }
  | .entitySetter | .holderSetter =>
      { name := Accessor.setterName side.name, role, relation := reference.name,
        parameters := [side.type], returns := none }

/-- The class of a relation declares the accessor in a role itself. -/
def IsDeclared (role : AccessorRole) (reference : Reference)
    (decl : ClassDecl) : Prop :=
  decl.DeclaresMethod (role.accessor reference).name
    (role.accessor reference).parameters

@[simp]
theorem accessor_role (role : AccessorRole) (reference : Reference) :
    (role.accessor reference).role = role := by
  cases role <;> rfl

@[simp]
theorem accessor_relation (role : AccessorRole) (reference : Reference) :
    (role.accessor reference).relation = reference.name := by
  cases role <;> rfl

end AccessorRole

namespace Augmentation

variable (model : EntityModel) (decl : ClassDecl) (augmentation : Augmentation)

def accessors (relation : String) (role : AccessorRole) :
    List SyntheticMethod :=
  augmentation.methods.filter fun method =>
    method.relation == relation && method.role == role

def marksOf (field : String) : List FieldMarker :=
  augmentation.markers.filter fun mark => mark.field == field

/-- Every relation has one accessor in each role, unless the class declares
it. -/
structure AddsAccessors : Prop where
  added : ∀ reference, .reference reference ∈ model.fields →
    ∀ role : AccessorRole,
    ¬role.IsDeclared reference decl →
    augmentation.accessors reference.name role = [role.accessor reference]
  declared : ∀ reference, .reference reference ∈ model.fields →
    ∀ role : AccessorRole,
    role.IsDeclared reference decl →
      augmentation.accessors reference.name role = []
  only : ∀ method ∈ augmentation.methods, ∃ reference,
    .reference reference ∈ model.fields ∧
      method = method.role.accessor reference

/-- Every holder gets a field, unless the class that declares the reference has
or inherits one. -/
structure AddsHolders (index : ClassIndex) (config : Config) : Prop where
  isDeclared : ∀ reference, .reference reference ∈ model.fields →
    (reference.isHolderDeclared = true ↔ ∃ owner declared,
      index.fieldInChain? config.rootType reference.declaredIn
          reference.holderName =
        some (owner, declared))
  mem_iff : ∀ field, field ∈ augmentation.fields ↔ ∃ reference,
    .reference reference ∈ model.fields ∧ reference.isHolderDeclared = false ∧
      field = ⟨reference.holderName, reference.holderType⟩
  once : (augmentation.fields.map TypedField.name).Nodup

/-- The holders of lists, and no others, start with an empty list of
identifiers. -/
structure StartsLists (config : Config) : Prop where
  mem_iff : ∀ field, field ∈ augmentation.check.lazyInit ↔
    ∃ reference container,
      .reference reference ∈ model.fields ∧ config.isList container = true ∧
        reference.type = .parameterized container [.named reference.target] ∧
        field = ⟨reference.holderName, .parameterized
          ((reference.typeMappings.find? container).getD container)
          [reference.targetIdType]⟩
  once : (augmentation.check.lazyInit.map TypedField.name).Nodup

/-- References are not saved and holders are not written, and nothing else is
marked. -/
structure MarksSides : Prop where
  persist : ∀ reference, .reference reference ∈ model.fields →
    augmentation.marksOf reference.name = [⟨reference.name, .skipPersist⟩]
  serialize : ∀ holder, .holder holder ∈ model.fields →
    augmentation.marksOf holder.name = [⟨holder.name, .skipSerialize⟩]
  only : ∀ mark ∈ augmentation.markers,
    (∃ reference, .reference reference ∈ model.fields ∧
        mark = ⟨reference.name, .skipPersist⟩) ∨
      ∃ holder, .holder holder ∈ model.fields ∧
        mark = ⟨holder.name, .skipSerialize⟩
  notBoth : ∀ field, ¬(⟨field, .skipPersist⟩ ∈ augmentation.markers ∧
    ⟨field, .skipSerialize⟩ ∈ augmentation.markers)

/-- Every way of construction has a wrapper, unless the class declares the
wrapper. -/
structure WrapsConstruction : Prop where
  implicit : ¬decl.DeclaresMethod "checked" [] →
    augmentation.epilogues.count .implicit = 1
  declared : ∀ name parameters,
    ¬decl.DeclaresMethod (name ++ "_checked") parameters →
    augmentation.epilogues.count (.declared name parameters) =
      decl.methods.countP fun method => method.kind == .constructor &&
        method.name == name && method.parameters == parameters
  notReplaced : ∀ epilogue ∈ augmentation.epilogues,
    ¬decl.DeclaresMethod epilogue.wrapperName epilogue.parameters

end Augmentation

namespace ClassIndex

variable {index : ClassIndex} {config : Config} {decl : ClassDecl}
  {model : EntityModel} {references : List Reference}
  {augmentation : Augmentation}

/-- The members that are added for a list of references. -/
structure AddedFor (index : ClassIndex) (path : String)
    (references : List Reference) (augmentation : Augmentation) : Prop where
  methods : augmentation.methods =
    (references.flatMap fun reference => AccessorRole.all.map fun role =>
      role.accessor reference).filter fun method =>
        !index.declares path method.name method.parameters
  fields : augmentation.fields =
    (references.filter fun reference => !reference.isHolderDeclared).map
      fun reference =>
        ⟨reference.holderName, reference.holderType⟩
  lazyInit : augmentation.check.lazyInit = references.filterMap fun reference =>
    reference.holderInit.map fun type => ⟨reference.holderName, type⟩
  markers : augmentation.markers = references.flatMap fun reference =>
    [⟨reference.name, .skipPersist⟩, ⟨reference.holderName, .skipSerialize⟩]
  epilogues : augmentation.epilogues = index.epilogues path

/-- Every reference of a model is declared by some class. -/
def DeclaresAll (index : ClassIndex) (config : Config) (model : EntityModel) :
    Prop :=
  ∀ reference, .reference reference ∈ model.fields →
    ∃ link field found declaresHolder,
      Declares index config link field found reference declaresHolder

theorem addedFor_of_augment? (pairsUp : model.PairsUp)
    (augmented : index.augment? model = some augmentation) :
    AddedFor index model.path (model.fields.filterMap ModelField.reference?)
      augmentation := by
  have augmentation_eq := augment?_eq_some augmented
  rw [pairsUp.relations] at augmentation_eq
  simp only [List.map_map, List.filter_map, List.flatMap_map,
    List.filterMap_map] at augmentation_eq
  rw [augmentation_eq]
  exact ⟨rfl, rfl, rfl, rfl, rfl⟩

theorem declares_iff {path : String} (indexed : index.get? path = some decl)
    {name : String} {parameters : List TypeRef} :
    index.declares path name parameters = true ↔
      decl.DeclaresMethod name parameters := by
  rw [declares, indexed]
  exact ClassDecl.hasMethod_iff

theorem AddedFor.accessors_eq {path : String}
    (added : AddedFor index path references augmentation)
    (distinct : (references.map Reference.name).Nodup) {reference : Reference}
    (member : reference ∈ references) (role : AccessorRole) :
    augmentation.accessors reference.name role =
      [role.accessor reference].filter fun method =>
        !index.declares path method.name method.parameters := by
  let methods :=
    references.flatMap fun reference => AccessorRole.all.map fun role =>
      role.accessor reference
  let key (method : SyntheticMethod) := (method.relation, method.role)
  have keys : methods.map key =
      (references.map Reference.name).product AccessorRole.all := by
    rw [List.map_flatMap, List.product, List.flatMap_map]
    rfl
  have keysDistinct : (methods.map key).Nodup := by
    rw [keys]
    exact distinct.product AccessorRole.nodup_all
  have isAccessor : role.accessor reference ∈ methods := by
    apply List.mem_flatMap.2
    exact ⟨reference, member, List.mem_map.2 ⟨role, role.mem_all, rfl⟩⟩
  have alone := filter_key_of_nodup keysDistinct isAccessor
  simp only [key, AccessorRole.accessor_relation,
    AccessorRole.accessor_role] at alone
  rw [Augmentation.accessors, added.methods, List.filter_comm, ← alone]
  rfl

theorem AddedFor.addsAccessors
    (added : AddedFor index model.path
      (model.fields.filterMap ModelField.reference?) augmentation)
    (pairsUp : model.PairsUp) (indexed : index.get? model.path = some decl) :
    augmentation.AddsAccessors model decl := by
  constructor
  case added =>
    intro reference member role notDeclared
    rw [added.accessors_eq pairsUp.nodup_names
      (EntityModel.mem_references_iff.2 member)]
    have kept := mt (declares_iff indexed).1 notDeclared
    simpa using kept
  case declared =>
    intro reference member role isDeclared
    rw [added.accessors_eq pairsUp.nodup_names
      (EntityModel.mem_references_iff.2 member)]
    have dropped := (declares_iff indexed).2 isDeclared
    simpa using dropped
  case only =>
    intro method member
    rw [added.methods] at member
    obtain ⟨reference, referenceMember, isAccessor⟩ :=
      List.mem_flatMap.1 (List.mem_of_mem_filter member)
    obtain ⟨role, _, rfl⟩ := List.mem_map.1 isAccessor
    refine ⟨reference, EntityModel.mem_references_iff.1 referenceMember, ?_⟩
    rw [AccessorRole.accessor_role]

theorem Declares.isHolderDeclared_iff {field : FieldDecl}
    {found reference : Reference} {declaresHolder : Bool}
    (declares :
      Declares index config decl field found reference declaresHolder) :
    reference.isHolderDeclared = true ↔ ∃ owner declared,
      index.fieldInChain? config.rootType reference.declaredIn
          reference.holderName =
        some (owner, declared) := by
  have holderName : reference.holderName = found.holderName := by
    rw [declares.eq_found]
  rw [declares.declaredIn_eq, holderName]
  rcases bindHolder_ok declares.bound with ⟨missing, equality⟩ |
    ⟨owner, declared, isFound, _, _, _, equality⟩
  · obtain ⟨_, _, _, _, _, referenced⟩ := declares.derived
    obtain ⟨_, _, _, _, _, _, made⟩ := referenceTo_ok referenced
    have same : reference = found := congrArg BoundReference.reference equality
    rw [missing, same, made]
    simp
  · have adopted : reference.isHolderDeclared = true :=
      congrArg (fun link => link.reference.isHolderDeclared) equality
    simp [adopted, isFound]

theorem AddedFor.addsHolders
    (added : AddedFor index model.path
      (model.fields.filterMap ModelField.reference?) augmentation)
    (pairsUp : model.PairsUp) (declared : DeclaresAll index config model) :
    augmentation.AddsHolders model index config := by
  constructor
  case isDeclared =>
    intro reference member
    obtain ⟨_, _, _, _, declares⟩ := declared reference member
    exact declares.isHolderDeclared_iff
  case mem_iff =>
    intro field
    rw [added.fields, List.mem_map]
    constructor
    · rintro ⟨reference, member, rfl⟩
      obtain ⟨member, notDeclared⟩ := List.mem_filter.1 member
      exact ⟨reference, EntityModel.mem_references_iff.1 member,
        by simpa using notDeclared, rfl⟩
    · rintro ⟨reference, member, notDeclared, rfl⟩
      have member := EntityModel.mem_references_iff.2 member
      exact ⟨reference,
        List.mem_filter.2 ⟨member, by simpa using notDeclared⟩, rfl⟩
  case once =>
    rw [added.fields, List.map_map]
    exact pairsUp.nodup_holderNames.sublist
      (List.filter_sublist.map Reference.holderName)

theorem Declares.holderInit_eq_some_iff {field : FieldDecl}
    {found reference : Reference} {declaresHolder : Bool}
    (declares : Declares index config decl field found reference declaresHolder)
    {type : TypeRef} :
    reference.holderInit = some type ↔
      ∃ container, config.isList container = true ∧
        reference.type = .parameterized container [.named reference.target] ∧
        type = .parameterized
          ((reference.typeMappings.find? container).getD container)
          [reference.targetIdType] := by
  rw [declares.eq_found]
  change found.holderInit = some type ↔
    ∃ container, config.isList container = true ∧
      found.type = .parameterized container [.named found.target] ∧
      type = .parameterized
        ((found.typeMappings.find? container).getD container)
        [found.targetIdType]
  cases (derived_of_resolveField declares.resolved).shape with
  | single isNamed _ _ _ noInit => simp [isNamed, noInit]
  | array isArray _ _ _ noInit => simp [isArray, noInit]
  | @list container isList isContainer holderType _ _ init _ =>
      rw [init, holderType, isContainer, Option.some.injEq]
      constructor
      · rintro rfl
        exact ⟨container, isList, rfl, rfl⟩
      · rintro ⟨other, _, same, rfl⟩
        cases same
        rfl

theorem AddedFor.startsLists
    (added : AddedFor index model.path
      (model.fields.filterMap ModelField.reference?) augmentation)
    (pairsUp : model.PairsUp) (declared : DeclaresAll index config model) :
    augmentation.StartsLists model config := by
  constructor
  case mem_iff =>
    intro field
    rw [added.lazyInit, List.mem_filterMap]
    constructor
    · rintro ⟨reference, member, started⟩
      obtain ⟨type, init, rfl⟩ := Option.map_eq_some_iff.1 started
      have member := EntityModel.mem_references_iff.1 member
      obtain ⟨_, _, _, _, declares⟩ := declared reference member
      obtain ⟨container, isList, type, rfl⟩ :=
        declares.holderInit_eq_some_iff.1 init
      exact ⟨reference, container, member, isList, type, rfl⟩
    · rintro ⟨reference, container, member, isList, type, rfl⟩
      obtain ⟨_, _, _, _, declares⟩ := declared reference member
      have init :=
        declares.holderInit_eq_some_iff.2 ⟨container, isList, type, rfl⟩
      refine ⟨reference, EntityModel.mem_references_iff.2 member, ?_⟩
      rw [init]
      rfl
  case once =>
    rw [added.lazyInit, List.Nodup, List.pairwise_map, List.pairwise_filterMap]
    apply (List.pairwise_map.1 pairsUp.nodup_holderNames).imp
    intro first second different field started other otherStarted
    obtain ⟨_, _, rfl⟩ := Option.map_eq_some_iff.1 started
    obtain ⟨_, _, rfl⟩ := Option.map_eq_some_iff.1 otherStarted
    exact different

theorem AddedFor.marksSides
    (added : AddedFor index model.path
      (model.fields.filterMap ModelField.reference?) augmentation)
    (pairsUp : model.PairsUp) :
    augmentation.MarksSides model := by
  have distinct : (augmentation.markers.map FieldMarker.field).Nodup := by
    have names := pairsUp.distinct
    rw [pairsUp.relations, List.flatMap_map] at names
    rw [added.markers, List.map_flatMap]
    exact names
  have marked : ∀ reference, .reference reference ∈ model.fields →
      ⟨reference.name, .skipPersist⟩ ∈ augmentation.markers ∧
        ⟨reference.holderName, .skipSerialize⟩ ∈ augmentation.markers := by
    intro reference member
    have member := EntityModel.mem_references_iff.2 member
    rw [added.markers]
    constructor
    · exact List.mem_flatMap.2 ⟨reference, member, by simp⟩
    · exact List.mem_flatMap.2 ⟨reference, member, by simp⟩
  constructor
  case persist =>
    intro reference member
    exact filter_key_of_nodup distinct (marked reference member).1
  case serialize =>
    intro holder member
    obtain ⟨reference, referenceMember, rfl, _⟩ :=
      pairsUp.reference_of_holder holder member
    exact filter_key_of_nodup distinct (marked reference referenceMember).2
  case only =>
    intro mark member
    rw [added.markers] at member
    obtain ⟨reference, referenceMember, isMark⟩ := List.mem_flatMap.1 member
    have referenceMember := EntityModel.mem_references_iff.1 referenceMember
    have found := pairsUp.holdersFound reference referenceMember
    have isMark : mark = ⟨reference.name, .skipPersist⟩ ∨
        mark = ⟨reference.holderName, .skipSerialize⟩ := by simpa using isMark
    rcases isMark with rfl | rfl
    · exact .inl ⟨reference, referenceMember, rfl⟩
    · exact .inr
        ⟨reference.holder, (EntityModel.get?_eq_some_iff.1 found).1, rfl⟩
  case notBoth =>
    rintro field ⟨persist, serialize⟩
    have same := List.inj_on_of_nodup_map distinct persist serialize rfl
    cases same

theorem wrapperName_declared (name : String) (parameters : List TypeRef) :
    (Epilogue.declared name parameters).wrapperName = name ++ "_checked" := by
  rw [Epilogue.wrapperName, String.append_assoc]
  rfl

/-- The ways in which objects of a class are constructed. -/
def constructions (decl : ClassDecl) : List Epilogue :=
  .implicit :: decl.constructors.map fun method =>
    .declared method.name method.parameters

theorem count_implicit_constructions (decl : ClassDecl) :
    (constructions decl).count .implicit = 1 := by
  rw [constructions, List.count_cons_self, List.count_eq_zero.2 (by simp)]

theorem count_declared_constructions (decl : ClassDecl) (name : String)
    (parameters : List TypeRef) :
    (constructions decl).count (.declared name parameters) =
      decl.methods.countP fun method => method.kind == .constructor &&
        method.name == name && method.parameters == parameters := by
  rw [constructions, List.count_cons_of_ne (by simp), List.count_eq_countP,
    List.countP_map, ClassDecl.constructors, List.countP_filter]
  apply List.countP_congr
  intro method _
  simp only [Function.comp_apply, Bool.and_eq_true, beq_iff_eq,
    Epilogue.declared.injEq]
  constructor
  · rintro ⟨⟨named, parameters⟩, kind⟩
    exact ⟨⟨kind, named⟩, parameters⟩
  · rintro ⟨⟨kind, named⟩, parameters⟩
    exact ⟨⟨named, parameters⟩, kind⟩

theorem AddedFor.wrapsConstruction {path : String}
    (added : AddedFor index path references augmentation)
    (indexed : index.get? path = some decl) :
    augmentation.WrapsConstruction decl := by
  let isWrapped (epilogue : Epilogue) : Bool :=
    !index.declares path epilogue.wrapperName epilogue.parameters
  have epilogues :
      augmentation.epilogues = (constructions decl).filter isWrapped := by
    rw [added.epilogues, ClassIndex.epilogues, indexed]
    rfl
  have isWrapped_iff : ∀ epilogue : Epilogue, isWrapped epilogue = true ↔
      ¬decl.DeclaresMethod epilogue.wrapperName epilogue.parameters := by
    intro epilogue
    rw [← declares_iff indexed, Bool.not_eq_true', Bool.not_eq_true]
  constructor
  case implicit =>
    intro notDeclared
    rw [epilogues, List.count_filter ((isWrapped_iff .implicit).2 notDeclared)]
    exact count_implicit_constructions decl
  case declared =>
    intro name parameters notDeclared
    rw [← wrapperName_declared name parameters] at notDeclared
    rw [epilogues, List.count_filter
      ((isWrapped_iff (.declared name parameters)).2 notDeclared)]
    exact count_declared_constructions decl name parameters
  case notReplaced =>
    intro epilogue member
    rw [epilogues] at member
    exact (isWrapped_iff epilogue).1 (List.mem_filter.1 member).2

theorem exists_augment? (pairsUp : model.PairsUp) {reference : Reference}
    (member : .reference reference ∈ model.fields) :
    ∃ augmentation, index.augment? model = some augmentation := by
  have related : model.relations.isEmpty = false := by
    rw [pairsUp.relations, List.isEmpty_map,
      List.isEmpty_eq_false_iff_exists_mem]
    exact ⟨reference, EntityModel.mem_references_iff.2 member⟩
  simp [augment?, related]

/-- What the class of a model with a reference gains, no more and no less. -/
theorem augment?_adds (index : ClassIndex) (config : Config) {set : ModelSet}
    (built : index.buildModels config = .ok set) {model : EntityModel}
    (member : model ∈ set.models.toList) {reference : Reference}
    (referenceMember : .reference reference ∈ model.fields) :
    ∃ decl augmentation, index.get? model.path = some decl ∧
      index.augment? model = some augmentation ∧
      augmentation.AddsAccessors model decl ∧
      augmentation.AddsHolders model index config ∧
      augmentation.StartsLists model config ∧
      augmentation.MarksSides model ∧
      augmentation.WrapsConstruction decl := by
  obtain ⟨decl, _, assembled⟩ := exists_assembly built member
  have pairsUp := assembled.pairsUp
  have indexed : index.get? model.path = some decl :=
    assembled.path ▸ assembled.indexed
  have declared : DeclaresAll index config model := by
    intro other otherMember
    exact exists_declares_of_buildModels built member otherMember
  obtain ⟨augmentation, augmented⟩ := exists_augment? pairsUp referenceMember
  have added := addedFor_of_augment? pairsUp augmented
  exact ⟨decl, augmentation, indexed, augmented,
    added.addsAccessors pairsUp indexed, added.addsHolders pairsUp declared,
    added.startsLists pairsUp declared, added.marksSides pairsUp,
    added.wrapsConstruction indexed⟩

end ClassIndex

namespace Studio

def musician : ClassDecl where
  path := "app::Musician"
  entity := some {}
  fields := [{ name := "id", type := .named "Id", isId := true }]

def release : ClassDecl where
  path := "app::Release"
  entity := some {}
  fields := [{ name := "artist", type := .named "app::Musician" }]

/-- Declares one of its holders, a getter and a wrapper. -/
def album : ClassDecl where
  path := "app::Album"
  superclass := some "app::Release"
  entity := some {}
  fields := [
    { name := "singers", type := .array (.named "app::Musician") },
    { name := "players",
      type := .parameterized "Vec" [.named "app::Musician"] },
    { name := "producer", type := .named "app::Musician" },
    { name := "producer_id", type := .named "Id" }]
  methods := [
    { name := "artist" },
    { name := "new", kind := .constructor },
    { name := "of", kind := .constructor, parameters := [.named "Id"] },
    { name := "of_checked", parameters := [.named "Id"] }]

def index : ClassIndex := .ofList [musician, release, album]

def models : ModelSet := (index.buildModels {}).toOption.getD default

def albumModel : EntityModel := (models.models.get? album.path).getD default

def reference (name : String) : Reference :=
  (albumModel.reference? name).getD default

end Studio

/-- The album declares the getter of its artist, but not the setter of its
players' holder. -/
theorem ClassIndex.augment?_adds_album :
    Studio.index.buildModels {} = .ok Studio.models ∧
      Studio.albumModel ∈ Studio.models.models.toList ∧
      .reference (Studio.reference "artist") ∈ Studio.albumModel.fields ∧
      ∃ augmentation,
        Studio.index.augment? Studio.albumModel = some augmentation ∧
        augmentation.accessors "artist" .entityGetter = [] ∧
        augmentation.accessors "players" .holderSetter =
          [{ name := "set_players_id", role := .holderSetter,
             relation := "players",
             parameters := [.parameterized "Vec" [.named "Id"]],
             returns := none }] ∧
        ⟨"producer_id", .named "Id"⟩ ∉ augmentation.fields ∧
        augmentation.epilogues.count (.declared "new" []) = 1 := by
  have built : Studio.index.buildModels {} = .ok Studio.models := rfl
  have facts : Studio.albumModel ∈ Studio.models.models.toList ∧
      Studio.index.get? Studio.albumModel.path = some Studio.album ∧
      .reference (Studio.reference "artist") ∈ Studio.albumModel.fields ∧
      .reference (Studio.reference "players") ∈ Studio.albumModel.fields := by
    decide +kernel
  obtain ⟨member, indexed, artist, players⟩ := facts
  obtain ⟨decl, augmentation, declIndexed, augmented, accessors, holders, _, _,
    wrapped⟩ :=
    augment?_adds Studio.index {} built member artist
  obtain rfl : decl = Studio.album :=
    Option.some.inj (declIndexed.symm.trans indexed)
  refine ⟨built, member, artist, augmentation, augmented, ?_, ?_, ?_, ?_⟩
  · refine accessors.declared _ artist .entityGetter
      (ClassDecl.hasMethod_iff.1 ?_)
    decide +kernel
  · refine accessors.added _ players .holderSetter
      (mt ClassDecl.hasMethod_iff.2 ?_)
    decide +kernel
  · intro added
    obtain ⟨other, otherMember, notDeclared, same⟩ :=
      (holders.mem_iff _).1 added
    have declared :
        ∀ other ∈ Studio.albumModel.fields.filterMap ModelField.reference?,
        other.isHolderDeclared = false → other.holderName ≠ "producer_id" := by
      decide +kernel
    have named := congrArg TypedField.name same
    exact declared other (EntityModel.mem_references_iff.2 otherMember)
      notDeclared named.symm
  · refine wrapped.declared "new" [] (mt ClassDecl.hasMethod_iff.2 ?_)
    decide +kernel

end EntityLink
