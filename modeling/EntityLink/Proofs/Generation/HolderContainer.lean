import EntityLink.Proofs.Generation.Stages

/-!
# Containers of holders

The holder of a list is a list as well.  Its container is that of the reference,
or the one to which the reference maps it, or the unmapped one again when a
field is declared for the holder (`HolderContainer`).  Only the container of the
reference is checked to be one that can be created, so the holder's container
may be abstract in two ways (`isRecordedAbstract_holderContainer_iff`).
-/

namespace EntityLink

namespace ClassIndex

variable {index : ClassIndex} {config : Config} {decl : ClassDecl}
  {reference : Reference}

/-- Says whether the scan records a class as abstract or as an interface. -/
def isRecordedAbstract (index : ClassIndex) (path : String) : Bool :=
  (index.get? path).any fun decl => !decl.isInstantiable

theorem not_isRecordedAbstract_of_isInstantiable {container : String}
    (instantiable : index.isInstantiable config container = true) :
    index.isRecordedAbstract container = false := by
  unfold isInstantiable at instantiable
  unfold isRecordedAbstract
  cases found : index.get? container with
  | none => rfl
  | some decl =>
      rw [found] at instantiable
      simpa using instantiable

/-- How the holder of a list comes to its container, given that of the
reference. -/
inductive HolderContainer (index : ClassIndex) (reference : Reference)
    (container : String) : String → Prop where
  /-- The container of the reference can be created and is not mapped. -/
  | same (unmapped : reference.typeMappings.find? container = none)
      (notAbstract : index.isRecordedAbstract container = false) :
      HolderContainer index reference container container
  | mapped {other : String}
      (mapping : reference.typeMappings.find? container = some other) :
      HolderContainer index reference container other
  /-- A field is declared for the holder with the container of the reference. -/
  | kept {other : String}
      (mapping : reference.typeMappings.find? container = some other)
      (declared : reference.isHolderDeclared = true) :
      HolderContainer index reference container container

/-- A container that can be created or is mapped gives the holder its own or the
mapped one. -/
theorem HolderContainer.of_creatable {container : String}
    (creatable : index.isInstantiable config container = true ∨
      (reference.typeMappings.find? container).isSome = true) :
    HolderContainer index reference container
      ((reference.typeMappings.find? container).getD container) := by
  cases mapping : reference.typeMappings.find? container with
  | some other => exact .mapped mapping
  | none =>
      have instantiable : index.isInstantiable config container = true := by
        simpa [mapping] using creatable
      exact .same mapping
        (not_isRecordedAbstract_of_isInstantiable instantiable)

/-- So does a field that is declared for the holder with the container not
mapped. -/
theorem HolderContainer.of_declared {container : String}
    (creatable : index.isInstantiable config container = true ∨
      (reference.typeMappings.find? container).isSome = true)
    (declared : reference.isHolderDeclared = true) :
    HolderContainer index reference container container := by
  cases mapping : reference.typeMappings.find? container with
  | some other => exact .kept mapping declared
  | none => simpa [mapping] using HolderContainer.of_creatable creatable

theorem Declares.holderContainer {field : FieldDecl} {found : Reference}
    {declaresHolder : Bool}
    (declares : Declares index config decl field found reference declaresHolder)
    {container : String} (listed : .list container ∈ reference.wrappers) :
    ∃ holderContainer,
      HolderContainer index reference container holderContainer ∧
      reference.holderType =
        .parameterized holderContainer [reference.targetIdType] := by
  have kept := declares.eq_found
  have derived := derived_of_resolveField declares.resolved
  have wrappersKept : reference.wrappers = found.wrappers := by rw [kept]
  have idTypeKept : reference.targetIdType = found.targetIdType := by rw [kept]
  have mappingsKept :
      reference.typeMappings = found.typeMappings := by rw [kept]
  rw [wrappersKept] at listed
  cases derived.shape with
  | single _ _ wrappers => simp [wrappers] at listed
  | array _ _ wrappers => simp [wrappers] at listed
  | @list other isList type holderType wrappers _ _ creatable =>
      rw [wrappers, List.mem_singleton] at listed
      cases listed
      rw [← mappingsKept] at creatable
      rw [← mappingsKept, ← idTypeKept] at holderType
      have ownContainer := HolderContainer.of_creatable creatable
      rcases bindHolder_ok declares.bound with ⟨_, equality⟩ |
        ⟨owner, declared, _, _, _, compatible, equality⟩
      · have holderTypeKept : reference.holderType = found.holderType :=
          congrArg (fun link => link.reference.holderType) equality
        exact ⟨_, ownContainer, holderTypeKept.trans holderType⟩
      · have holderTypeDeclared : reference.holderType = declared.type :=
          congrArg (fun link => link.reference.holderType) equality
        have isDeclared : reference.isHolderDeclared = true :=
          congrArg (fun link => link.reference.isHolderDeclared) equality
        rw [isHolderType, Bool.or_eq_true, beq_iff_eq, beq_iff_eq] at compatible
        rcases compatible with sameType | unmappedType
        · exact ⟨_, ownContainer,
            holderTypeDeclared.trans (sameType.trans holderType)⟩
        · rw [type, TypeRef.holderType?, if_pos isList, TypeRef.holderType?,
            if_pos rfl] at unmappedType
          refine ⟨container, .of_declared creatable isDeclared, ?_⟩
          rw [holderTypeDeclared, ← Option.some.inj unmappedType, idTypeKept]
          rfl

theorem HolderContainer.isRecordedAbstract_iff
    {container holderContainer : String}
    (holds : HolderContainer index reference container holderContainer) :
    index.isRecordedAbstract holderContainer = true ↔
      ∃ mapped, reference.typeMappings.find? container = some mapped ∧
        ((holderContainer = mapped ∧ index.isRecordedAbstract mapped = true) ∨
          (reference.isHolderDeclared = true ∧ holderContainer = container ∧
            index.isRecordedAbstract container = true)) := by
  constructor
  · intro isAbstract
    cases holds with
    | same _ notAbstract =>
        rw [notAbstract] at isAbstract
        cases isAbstract
    | mapped mapping => exact ⟨_, mapping, .inl ⟨rfl, isAbstract⟩⟩
    | kept mapping declared =>
        exact ⟨_, mapping, .inr ⟨declared, rfl, isAbstract⟩⟩
  · rintro ⟨mapped, _, ⟨rfl, isAbstract⟩ | ⟨_, rfl, isAbstract⟩⟩
    · exact isAbstract
    · exact isAbstract

end ClassIndex

/-- The field that an augmentation adds for the holder of a reference and the
accessors of the holder all have the type that the plan of the reference
names. -/
structure Augmentation.NamesHolder (augmentation : Augmentation)
    (reference : Reference) : Prop where
  planned : (augmentation.plan? reference.name).map RelationPlan.reference =
    some reference
  injected : reference.isHolderDeclared = false →
    ⟨reference.holderName, reference.holderType⟩ ∈ augmentation.fields
  field : ∀ field ∈ augmentation.fields, field.name = reference.holderName →
    field.type = reference.holderType
  getter : ∀ method ∈ augmentation.methods, method.relation = reference.name →
    method.role = .holderGetter → method.returns = some reference.holderType
  setter : ∀ method ∈ augmentation.methods, method.relation = reference.name →
    method.role = .holderSetter → method.parameters = [reference.holderType]

namespace ClassIndex

variable {index : ClassIndex} {config : Config} {override : Option String}

theorem namesHolder_of_augment? {model : EntityModel} (pairsUp : model.PairsUp)
    {augmentation : Augmentation}
    (augmented : index.augment? model = some augmentation)
    {reference : Reference} (member : .reference reference ∈ model.fields) :
    augmentation.NamesHolder reference := by
  have related : (reference, reference.holder) ∈ model.relations := by
    rw [pairsUp.relations]
    exact List.mem_map.2
      ⟨reference, EntityModel.mem_references_iff.2 member, rfl⟩
  have ofName : ∀ pair ∈ model.relations, pair.1.name = reference.name →
      pair = (reference, reference.holder) := by
    rintro ⟨other, holder⟩ pairMember named
    obtain ⟨otherMember, rfl⟩ := pairsUp.of_mem_relations pairMember
    rw [EntityModel.eq_of_reference_name otherMember member named]
  have ofHolderName : ∀ pair ∈ model.relations,
      pair.2.name = reference.holderName →
      pair = (reference, reference.holder) := by
    rintro ⟨other, holder⟩ pairMember named
    obtain ⟨otherMember, rfl⟩ := pairsUp.of_mem_relations pairMember
    rw [pairsUp.holdersFound.eq_of_holderName otherMember member named]
  rw [augment?_eq_some augmented]
  constructor
  case planned =>
    have planMember : ⟨Accessor.relationConst reference.name, reference⟩ ∈
        model.relations.map fun pair =>
          (⟨Accessor.relationConst pair.1.name, pair.1⟩ : RelationPlan) :=
      List.mem_map.2 ⟨_, related, rfl⟩
    obtain ⟨plan, otherMember, sameName, found⟩ :=
      exists_find?_key (fun plan => plan.reference.name) planMember
    obtain ⟨pair, pairMember, rfl⟩ := List.mem_map.1 otherMember
    rw [Augmentation.plan?, found, ofName pair pairMember sameName]
    rfl
  case injected =>
    intro notDeclared
    refine List.mem_map.2 ⟨_, List.mem_filter.2 ⟨related, ?_⟩, rfl⟩
    simp [notDeclared]
  case field =>
    intro field fieldMember named
    obtain ⟨pair, pairMember, rfl⟩ := List.mem_map.1 fieldMember
    rw [ofHolderName pair (List.mem_of_mem_filter pairMember) named]
    rfl
  case getter =>
    intro method methodMember named isGetter
    obtain ⟨pair, pairMember, relation, returns, _⟩ :=
      exists_accessor_of_mem (List.mem_of_mem_filter methodMember)
    rw [returns isGetter, ofName pair pairMember (relation.symm.trans named)]
    rfl
  case setter =>
    intro method methodMember named isSetter
    obtain ⟨pair, pairMember, relation, _, parameters⟩ :=
      exists_accessor_of_mem (List.mem_of_mem_filter methodMember)
    rw [parameters isSetter, ofName pair pairMember (relation.symm.trans named)]
    rfl

/-- A list of identifiers has the container of the list of entities unless the
reference maps that one.  Its container is then recorded as abstract exactly
when the mapping leads to an abstract class, or a field declared for the holder
has the abstract container that was to be mapped. -/
theorem isRecordedAbstract_holderContainer_iff (index : ClassIndex)
    (config : Config) (override : Option String) {result : Generated}
    (generated : index.generate config override = .ok result)
    {augmentation : Augmentation} (member : augmentation ∈ result.augmentations)
    {plan : RelationPlan} (planned : plan ∈ augmentation.relations)
    {container : String} (listed : .list container ∈ plan.reference.wrappers) :
    augmentation.NamesHolder plan.reference ∧
      ∃ holderContainer,
        plan.reference.holderType =
          .parameterized holderContainer [plan.reference.targetIdType] ∧
        (index.isRecordedAbstract holderContainer = true ↔
          ∃ mapped, plan.reference.typeMappings.find? container = some mapped ∧
            ((holderContainer = mapped ∧
                index.isRecordedAbstract mapped = true) ∨
              (plan.reference.isHolderDeclared = true ∧
                holderContainer = container ∧
                index.isRecordedAbstract container = true))) := by
  obtain ⟨set, built, _, model, modelMember, augmented, pairsUp⟩ :=
    exists_model_of_generate generated member
  have referenceMember : .reference plan.reference ∈ model.fields := by
    rw [augment?_eq_some augmented] at planned
    obtain ⟨⟨reference, holder⟩, related, rfl⟩ := List.mem_map.1 planned
    exact (pairsUp.of_mem_relations related).1
  refine ⟨namesHolder_of_augment? pairsUp augmented referenceMember, ?_⟩
  obtain ⟨_, _, _, _, declares⟩ :=
    exists_declares_of_buildModels built modelMember referenceMember
  obtain ⟨holderContainer, holds, holderType⟩ := declares.holderContainer listed
  exact ⟨holderContainer, holderType, holds.isRecordedAbstract_iff⟩

end ClassIndex

namespace Meeting

def guest : ClassDecl where
  path := "app::Guest"
  entity := some {}
  fields := [{ name := "id", type := .named "Id", isId := true }]

def group : ClassDecl where
  path := "app::Group"
  kind := .isInterface

/-- Both lists map the container that cannot be created; only the hosts have a
holder declared. -/
def meeting : ClassDecl where
  path := "app::Meeting"
  entity := some {}
  fields := [
    { name := "guests"
      type := .parameterized "app::Group" [.named "app::Guest"]
      reference := some { typeMappings := [⟨"app::Group", "Vec"⟩] } },
    { name := "hosts"
      type := .parameterized "app::Group" [.named "app::Guest"]
      reference := some { typeMappings := [⟨"app::Group", "Vec"⟩] } },
    { name := "hosts_id"
      type := .parameterized "app::Group" [.named "Id"] }]

def index : ClassIndex := .ofList [guest, group, meeting]

def config : Config := { containers := [{ path := "app::Group" }] }

def result : Generated := (index.generate config none).toOption.getD default

theorem generated : index.generate config none = .ok result :=
  eq_ok_of_isSome (by decide +kernel)

def augmentation : Augmentation := result.augmentations.head?.getD default

def plan (reference : String) : RelationPlan :=
  (augmentation.plan? reference).getD default

end Meeting

/-- The holder of the guests is a list that can be created; that of the hosts,
declared with the container that was to be mapped, is none. -/
theorem ClassIndex.isRecordedAbstract_holderContainer_guests :
    Meeting.index.generate Meeting.config none = .ok Meeting.result ∧
      Meeting.augmentation ∈ Meeting.result.augmentations ∧
      (Meeting.plan "guests" ∈ Meeting.augmentation.relations ∧
        .list "app::Group" ∈ (Meeting.plan "guests").reference.wrappers ∧
        ∃ holderContainer,
          (Meeting.plan "guests").reference.holderType =
            .parameterized holderContainer [.named "Id"] ∧
          Meeting.index.isRecordedAbstract holderContainer = false) ∧
      Meeting.plan "hosts" ∈ Meeting.augmentation.relations ∧
      .list "app::Group" ∈ (Meeting.plan "hosts").reference.wrappers ∧
      ∃ holderContainer,
        (Meeting.plan "hosts").reference.holderType =
          .parameterized holderContainer [.named "Id"] ∧
        Meeting.index.isRecordedAbstract holderContainer = true := by
  have member : Meeting.augmentation ∈ Meeting.result.augmentations := by
    decide +kernel
  have guests :
      Meeting.plan "guests" ∈ Meeting.augmentation.relations ∧
        .list "app::Group" ∈ (Meeting.plan "guests").reference.wrappers ∧
        (Meeting.plan "guests").reference.typeMappings.find? "app::Group" =
          some "Vec" ∧
        (Meeting.plan "guests").reference.isHolderDeclared = false ∧
        (Meeting.plan "guests").reference.targetIdType = .named "Id" := by
    decide +kernel
  have hosts :
      Meeting.plan "hosts" ∈ Meeting.augmentation.relations ∧
        .list "app::Group" ∈ (Meeting.plan "hosts").reference.wrappers ∧
        (Meeting.plan "hosts").reference.typeMappings.find? "app::Group" =
          some "Vec" ∧
        (Meeting.plan "hosts").reference.isHolderDeclared = true ∧
        (Meeting.plan "hosts").reference.targetIdType = .named "Id" ∧
        (Meeting.plan "hosts").reference.holderType =
          .parameterized "app::Group" [.named "Id"] := by
    decide +kernel
  refine ⟨Meeting.generated, member, ?guests, ?hosts⟩
  case guests =>
    obtain ⟨planned, listed, mapping, notDeclared, idType⟩ := guests
    obtain ⟨_, holderContainer, holderType, abstract_iff⟩ :=
      isRecordedAbstract_holderContainer_iff Meeting.index Meeting.config none
        Meeting.generated member planned listed
    refine ⟨planned, listed, holderContainer, idType ▸ holderType, ?_⟩
    rw [← Bool.not_eq_true, abstract_iff]
    rintro ⟨mapped, mapsTo, ⟨_, isAbstract⟩ | ⟨declared, _⟩⟩
    · cases mapping.symm.trans mapsTo
      exact absurd isAbstract (by decide +kernel)
    · rw [notDeclared] at declared
      cases declared
  case hosts =>
    obtain ⟨planned, listed, mapping, declared, idType, group⟩ := hosts
    obtain ⟨_, holderContainer, holderType, abstract_iff⟩ :=
      isRecordedAbstract_holderContainer_iff Meeting.index Meeting.config none
        Meeting.generated member planned listed
    rw [idType] at holderType
    cases group.symm.trans holderType
    refine ⟨planned, listed, "app::Group", holderType, abstract_iff.2 ?_⟩
    exact ⟨"Vec", mapping, .inr ⟨declared, rfl, by decide +kernel⟩⟩

namespace Reception

/-- Maps a list that can be created to one that cannot. -/
def reception : ClassDecl where
  path := "app::Meeting"
  entity := some {}
  fields := [
    { name := "guests"
      type := .parameterized "Vec" [.named "app::Guest"]
      reference := some { typeMappings := [⟨"Vec", "app::Group"⟩] } }]

def index : ClassIndex := .ofList [Meeting.guest, Meeting.group, reception]

def result : Generated := (index.generate {} none).toOption.getD default

theorem generated : index.generate {} none = .ok result :=
  eq_ok_of_isSome (by decide +kernel)

def augmentation : Augmentation := result.augmentations.head?.getD default

def plan : RelationPlan := (augmentation.plan? "guests").getD default

end Reception

/-- The mapping leads to a list that cannot be created. -/
theorem ClassIndex.isRecordedAbstract_holderContainer_not_never :
    ¬∀ (index : ClassIndex) (config : Config) (override : Option String)
        (result : Generated),
      index.generate config override = .ok result →
      ∀ augmentation ∈ result.augmentations,
        ∀ plan ∈ augmentation.relations, ∀ container,
        .list container ∈ plan.reference.wrappers →
        ∀ holderContainer arguments,
          plan.reference.holderType =
            .parameterized holderContainer arguments →
          index.isRecordedAbstract holderContainer = false := by
  intro always
  have facts :
      Reception.augmentation ∈ Reception.result.augmentations ∧
        Reception.plan ∈ Reception.augmentation.relations ∧
        .list "Vec" ∈ Reception.plan.reference.wrappers ∧
        Reception.plan.reference.holderType =
          .parameterized "app::Group" [.named "Id"] := by
    decide +kernel
  obtain ⟨member, planned, listed, holderType⟩ := facts
  have creatable := always Reception.index {} none Reception.result
    Reception.generated _ member _ planned _ listed _ _ holderType
  exact absurd creatable (by decide +kernel)

end EntityLink
