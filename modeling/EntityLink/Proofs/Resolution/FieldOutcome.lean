import EntityLink.Proofs.Resolution.Wrapping
import EntityLink.Proofs.Traversal
import EntityLink.Resolution.Resolver

/-!
# What a declared field turns out to be

The wrappers and the core of a field's type, its marker and what the index says
of the target decide between a plain field, a reference and a fault; `Outcome`
has one case for each way to get there.  A reference has one of three shapes
(`Shape`), and its holder has the same shape around the identifier of the
target.  A holder's type can be derived whenever the shape has been accepted, so
there is no case for one that cannot.
-/

namespace EntityLink

namespace ClassIndex

variable {index : ClassIndex} {config : Config} {decl : ClassDecl}
  {field : FieldDecl}

/-- What a field turns out to be, and why. -/
inductive Outcome (index : ClassIndex) (config : Config) (decl : ClassDecl)
    (field : FieldDecl) : Except BuildError (Option Reference) → Prop where
  | primitive (core : (field.type.unwrap config).core = .primitive) :
      Outcome index config decl field (.ok none)
  | notEntity {path : String}
      (core : (field.type.unwrap config).core = .named path)
      (notEntity : (index.classify config path).isEntity = false) :
      Outcome index config decl field (.ok none)
  | unmarked (core : (field.type.unwrap config).core = .unsupported)
      (marker : field.reference = none) :
        Outcome index config decl field (.ok none)
  | marked (core : (field.type.unwrap config).core = .unsupported)
      (marker : field.reference.isSome = true) :
      Outcome index config decl field
        (.error (.unsupportedShape decl.path field.name field.type))
  | nested {path : String}
      (core : (field.type.unwrap config).core = .named path)
      (isEntity : (index.classify config path).isEntity = true)
      (many : 1 < (field.type.unwrap config).wrappers.length) :
      Outcome index config decl field
        (.error (.unsupportedShape decl.path field.name field.type))
  | unidentified {target : ClassDecl}
      (core : (field.type.unwrap config).core = .named target.path)
      (isEntity : (index.classify config target.path).isEntity = true)
      (few : (field.type.unwrap config).wrappers.length ≤ 1)
      (noId : targetId? config target (target.classify config) = none) :
      Outcome index config decl field
        (.error (.missingIdField decl.path field.name target.path))
  | unmapped {path container : String}
      (core : (field.type.unwrap config).core = .named path)
      (isEntity : (index.classify config path).isEntity = true)
      (few : (field.type.unwrap config).wrappers.length ≤ 1)
      (unmapped : index.unmappedContainer? config (field.reference.getD
        {}).mappingTable (field.type.unwrap config).wrappers = some container) :
      Outcome index config decl field
        (.error (.mappingRequired decl.path field.name container))
  | reference {target : ClassDecl} {reference : Reference}
      (core : (field.type.unwrap config).core = .named target.path)
      (found : index.get? target.path = some target)
      (isEntity : (target.classify config).isEntity = true)
      (few : (field.type.unwrap config).wrappers.length ≤ 1)
      (referenced :
        index.referenceTo config decl field target (target.classify config)
          (field.type.unwrap config).wrappers = .ok reference) :
      Outcome index config decl field (.ok (some reference))

theorem outcome_referenceTo {target : ClassDecl}
    (core : (field.type.unwrap config).core = .named target.path)
    (found : index.get? target.path = some target)
    (isEntity : (target.classify config).isEntity = true)
    (few : (field.type.unwrap config).wrappers.length ≤ 1) :
    Outcome index config decl field
      ((index.referenceTo config decl field target (target.classify config)
        (field.type.unwrap config).wrappers).map some) := by
  cases result : index.referenceTo config decl field target
    (target.classify config) (field.type.unwrap config).wrappers with
  | ok reference => exact .reference core found isEntity few result
  | error fault =>
      have classified :
          (index.classify config target.path).isEntity = true := by
        rw [classify, found]
        exact isEntity
      unfold referenceTo at result
      dsimp only at result
      split at result
      next noId =>
        cases result
        exact .unidentified core classified few noId
      next =>
        split at result
        next container unmapped =>
          cases result
          exact .unmapped core classified few unmapped
        next =>
          rw [TypeRef.holderType?_eq, if_pos core] at result
          cases result

theorem outcome_resolveField (index : ClassIndex) (config : Config)
    (decl : ClassDecl) (field : FieldDecl) :
    Outcome index config decl field (index.resolveField config decl field) := by
  unfold resolveField
  dsimp only
  split
  next core => exact .primitive core
  next core =>
    cases marker : field.reference with
    | none => exact .unmarked core marker
    | some options => exact .marked core (by rw [marker]; rfl)
  next path core =>
    split
    next missing => exact .notEntity core (by rw [classify, missing]; rfl)
    next target found =>
      obtain rfl : target.path = path := Keyed.key_of_get? found
      have classified :
          index.classify config target.path = target.classify config := by
        rw [classify, found]
      split
      next notEntity =>
        exact .notEntity core (by simpa [classified] using notEntity)
      next isEntity =>
        have isEntity : (target.classify config).isEntity = true := by
          simpa using isEntity
        split
        next many => exact .nested core (classified ▸ isEntity) many
        next few =>
          exact outcome_referenceTo core found isEntity (Nat.le_of_not_lt few)

theorem resolveField_some {reference : Reference}
    (resolved : index.resolveField config decl field = .ok (some reference)) :
    ∃ target, (field.type.unwrap config).core = .named target.path ∧
      index.get? target.path = some target ∧
      (target.classify config).isEntity = true ∧
      (field.type.unwrap config).wrappers.length ≤ 1 ∧
      index.referenceTo config decl field target (target.classify config)
        (field.type.unwrap config).wrappers = .ok reference := by
  have outcome := outcome_resolveField index config decl field
  rw [resolved] at outcome
  cases outcome with
  | @reference target _ core found isEntity few referenced =>
      exact ⟨target, core, found, isEntity, few, referenced⟩

theorem referenceTo_ok {target : ClassDecl} {classification : Classification}
    {wrappers : List Wrapper} {reference : Reference}
    (resolved :
      index.referenceTo config decl field target classification wrappers =
        .ok reference) :
    ∃ idField idType holderType,
      targetId? config target classification = some (idField, idType) ∧
      index.unmappedContainer? config (field.reference.getD {}).mappingTable
        wrappers = none ∧
      TypeRef.holderType? config target.path idType
        (field.reference.getD {}).mappingTable field.type = some holderType ∧
      reference = {
        name := field.name
        type := field.type
        holderName :=
          (field.reference.getD {}).holderName?.getD
            (field.name ++ config.holderSuffix)
        holderType
        target := target.path
        targetIdField := idField
        targetIdType := idType
        isWrapped := !wrappers.isEmpty
        wrappers
        typeMappings := (field.reference.getD {}).mappingTable
        isHolderDeclared := false
        holderInit := holderInit? wrappers holderType
        declaredIn := decl.path } := by
  unfold referenceTo at resolved
  dsimp only at resolved
  split at resolved
  · cases resolved
  next idField idType idFound =>
    split at resolved
    · cases resolved
    next mapped =>
      split at resolved
      · cases resolved
      next holderType derived =>
        cases resolved
        exact ⟨idField, idType, holderType, idFound, mapped, derived, rfl⟩

/-- How the types of a reference and of its holder are made up of the target and
of its identifier's type. -/
inductive Shape (index : ClassIndex) (config : Config) (reference : Reference) :
    Prop where
  | single (type : reference.type = .named reference.target)
      (holderType : reference.holderType = reference.targetIdType)
      (wrappers : reference.wrappers = [])
      (notWrapped : reference.isWrapped = false)
      (noInit : reference.holderInit = none)
  | array (type : reference.type = .array (.named reference.target))
      (holderType : reference.holderType = .array reference.targetIdType)
      (wrappers : reference.wrappers = [.array])
      (wrapped : reference.isWrapped = true)
      (noInit : reference.holderInit = none)
  | list {container : String} (isList : config.isList container = true)
      (type : reference.type =
        .parameterized container [.named reference.target])
      (holderType : reference.holderType = .parameterized
        ((reference.typeMappings.find? container).getD container)
        [reference.targetIdType])
      (wrappers : reference.wrappers = [.list container])
      (wrapped : reference.isWrapped = true)
      (init : reference.holderInit = some reference.holderType)
      (creatable : index.isInstantiable config container = true ∨
        (reference.typeMappings.find? container).isSome = true)

/-- The reference that a field of a class is. -/
structure Derived (index : ClassIndex) (config : Config) (decl : ClassDecl)
    (field : FieldDecl) (reference : Reference) : Prop where
  name : reference.name = field.name
  type : reference.type = field.type
  declaredIn : reference.declaredIn = decl.path
  typeMappings : reference.typeMappings = (field.reference.getD {}).mappingTable
  /-- The target is a scanned entity with an identifier. -/
  target : ∃ target, index.get? reference.target = some target ∧
    (target.classify config).isEntity = true ∧
    targetId? config target (target.classify config) =
      some (reference.targetIdField, reference.targetIdType)
  shape : Shape index config reference

theorem creatable_of_unmappedContainer? {mappings : Dict String}
    {container : String}
    (mapped : index.unmappedContainer? config mappings [.list container] =
      none) :
    index.isInstantiable config container = true ∨
      (mappings.find? container).isSome = true := by
  simpa [unmappedContainer?, Decidable.or_iff_not_imp_left,
    Option.isSome_iff_ne_none] using mapped

theorem derived_of_resolveField {reference : Reference}
    (resolved : index.resolveField config decl field = .ok (some reference)) :
    Derived index config decl field reference := by
  obtain ⟨target, core, found, isEntity, few, referenced⟩ :=
    resolveField_some resolved
  obtain ⟨idField, idType, holderType, idFound, mapped, derived, rfl⟩ :=
    referenceTo_ok referenced
  have type := TypeRef.eq_rewrap_of_core core
  have listed := @TypeRef.isList_of_mem_wrappers config field.type
  rw [TypeRef.holderType?_eq, if_pos core, Option.some.injEq] at derived
  refine ⟨rfl, rfl, rfl, rfl, ⟨target, found, isEntity, idFound⟩, ?_⟩
  generalize (field.type.unwrap config).wrappers = wrappers at *
  match wrappers with
  | [] => exact .single type derived.symm rfl rfl rfl
  | [.array] => exact .array type derived.symm rfl rfl rfl
  | [.list container] =>
      exact .list (listed List.mem_cons_self) type derived.symm rfl rfl rfl
        (creatable_of_unmappedContainer? mapped)
  | _ :: _ :: _ => simp at few

end ClassIndex

namespace Choir

def singer : ClassDecl where
  path := "app::Singer"
  entity := some {}
  fields := [{ name := "id", type := .named "Id", isId := true }]

def ensemble : ClassDecl where
  path := "app::Ensemble"
  kind := .isInterface

/-- Maps the list that cannot be created. -/
def voices : FieldDecl where
  name := "voices"
  type := .parameterized "app::Ensemble" [.named "app::Singer"]
  reference := some { typeMappings := [⟨"app::Ensemble", "Vec"⟩] }

def rounds : FieldDecl where
  name := "rounds"
  type := .array (.parameterized "app::Ensemble" [.named "app::Singer"])

def choir : ClassDecl where
  path := "app::Choir"
  fields := [voices, rounds]

def index : ClassIndex := .ofList [singer, ensemble, choir]

def config : Config := { containers := [{ path := "app::Ensemble" }] }

def reference : Reference :=
  ((index.resolveField config choir voices).toOption.getD none).getD default

end Choir

end EntityLink
