import EntityLink.Proofs.Generation.Checks
import EntityLink.Proofs.Model.Building

/-!
# Stages that fit together

Two ways to fail are there for the case that one stage of a generation does not
find what another one was to prepare: the fields of a class when models are put
together, and the plan of a relation when code is written.  It never comes to
that (`generate_consistent`), also where superclass links run in a circle:
whatever stands in the lineage of an entity class has been resolved, and
whatever an accessor or the check routine names has been planned.
-/

namespace EntityLink

/-- A failure of one stage to find what another one prepares. -/
def BuildError.isInternal : BuildError → Bool
  | .classNotFound _ | .missingRelation _ _ => true
  | .nameCollision _ _ _ _ | .missingIdField _ _ _ | .unsupportedShape _ _ _
  | .mappingRequired _ _ _ | .duplicateIdentifier _ _ | .invalidPath _
  | .validation _ | .config _
  | .indexUnavailable | .indexMalformed => false

def GenerationFailure.isInternal : GenerationFailure → Bool
  | .build error => error.isInternal
  | .brokenOff _ => false

theorem not_isInternal_of_check {check : Check} {failure : GenerationFailure}
    (failed : check.failure? = some failure) : failure.isInternal = false := by
  cases check with
  | name text =>
      have failed := failure?_eq_some_iff.1 failed
      unfold Code.identifier at failed
      split at failed
      · cases failed
        rfl
      · split at failed
        · cases failed
          rfl
        · cases failed
  | path text =>
      have failed := failure?_eq_some_iff.1 failed
      unfold Code.Path.code at failed
      split at failed
      · cases failed
      · cases failed
        rfl

namespace ClassIndex

variable {index : ClassIndex} {config : Config} {decl : ClassDecl}

/-- A computation that fails for a fault of its input alone. -/
abbrev FailsExternally {α : Type} (outcome : Except BuildError α) : Prop :=
  FailsOnly (fun error => error.isInternal = false) outcome

theorem resolveField_failsExternally (field : FieldDecl) :
    FailsExternally (index.resolveField config decl field) := by
  have outcome := outcome_resolveField index config decl field
  generalize index.resolveField config decl field = result at outcome ⊢
  cases outcome with
  | primitive | notEntity | unmarked => exact .ok none
  | marked | nested | unidentified | unmapped => exact .error rfl
  | reference => exact .ok _

theorem collectFrom_failsExternally (found : List Reference)
    (fields : List FieldDecl) :
    FailsExternally (index.collectFrom config decl found fields) := by
  induction fields generalizing found with
  | nil => exact .ok found
  | cons field fields induction =>
      rw [collectFrom]
      refine (resolveField_failsExternally field).bind fun outcome _ => ?_
      cases outcome with
      | none => exact induction found
      | some reference =>
          dsimp only
          split
          · exact .error rfl
          · exact induction (found ++ [reference])

theorem bindHolder_failsExternally (reference : Reference) :
    FailsExternally (index.bindHolder config decl reference) := by
  unfold bindHolder
  split
  · exact .ok _
  · dsimp only
    split
    · exact .error rfl
    · split
      · exact .error rfl
      · split
        · exact .error rfl
        · exact .ok _

theorem resolveClass_failsExternally (decl : ClassDecl) :
    FailsExternally (index.resolveClass config decl) := by
  refine FailsOnly.bind ?_ fun references _ => ?_
  · refine (collectFrom_failsExternally [] _).bind fun references _ => ?_
    split
    · exact .error rfl
    · exact .ok references
  · refine FailsOnly.bind
      (.mapM fun reference _ => bindHolder_failsExternally reference) ?_
    exact fun bound _ => .ok _

theorem unpaired?_not_isInternal {model : EntityModel} {fault : BuildError}
    (unpaired : model.unpaired? = some fault) : fault.isInternal = false := by
  obtain ⟨field, _, fieldFault⟩ := List.exists_of_findSome?_eq_some unpaired
  unfold EntityModel.fieldFault? at fieldFault
  split at fieldFault
  · cases fieldFault
  · split at fieldFault
    · cases fieldFault
    · cases fieldFault
      rfl
  · split at fieldFault
    · cases fieldFault
    · cases fieldFault
      rfl

theorem assemble_failsExternally {resolved : ResolvedClasses}
    (resolvedAll : index.resolveAll config = .ok resolved)
    (member : decl ∈ index.entityClasses config) :
    FailsExternally (index.assemble config resolved decl) := by
  have lookups : ∀ link ∈ index.lineage config.rootType decl,
      ∃ fields, resolved.lookup link.path = some fields := by
    intro link linkMember
    obtain ⟨fields, found, _⟩ :=
      exists_lookup_of_resolveAll resolvedAll member linkMember
    exact ⟨fields, found⟩
  obtain ⟨levels, found⟩ := exists_forall₂ lookups
  rw [assemble, addLineage_of_lookup found]
  refine FailsOnly.bind (.ok _) fun model _ => ?_
  split
  next fault unpaired => exact .error (unpaired?_not_isInternal unpaired)
  · exact .ok model

theorem buildModels_failsExternally :
    FailsExternally (index.buildModels config) := by
  refine FailsOnly.bind (.mapM fun decl _ => ?_) fun resolved resolvedAll => ?_
  · exact (resolveClass_failsExternally decl).bind fun _ _ => .ok _
  · refine FailsOnly.bind (.mapM fun decl member => ?_) fun _ _ => .ok _
    exact assemble_failsExternally resolvedAll member

theorem obstacle?_not_isInternal {obstacle : BuildError}
    (found : index.obstacle? config = some obstacle) :
    obstacle.isInternal = false := by
  unfold obstacle? at found
  split at found
  · cases found
    rfl
  · split at found
    · cases found
      rfl
    · dsimp only at found
      split at found
      · cases found
      · cases found
        rfl

theorem analyze_failsExternally : FailsExternally (index.analyze config) := by
  unfold analyze
  split
  next obstacle found => exact .error (obstacle?_not_isInternal found)
  · exact buildModels_failsExternally.bind fun _ _ => .ok _

theorem generate_not_isInternal {override : Option String}
    {failure : GenerationFailure}
    (failed : index.generate config override = .error failure) :
    failure.isInternal = false := by
  rcases generate_error failed with ⟨error, notAnalyzed, rfl⟩ | rfl |
    ⟨_, _, _, check, _, _, _, _, checkFailed, _⟩
  · exact analyze_failsExternally error notAnalyzed
  · rfl
  · exact not_isInternal_of_check checkFailed

/-- No stage of a generation misses what another one was to prepare.  Every
class in a lineage has been resolved when models are put together, and what
accessors and check routines name has a plan. -/
theorem generate_consistent (index : ClassIndex) (config : Config)
    (override : Option String) :
    (∀ path, index.generate config override ≠
        .error (.build (.classNotFound path))) ∧
      (∀ owner field,
        index.generate config override ≠
          .error (.build (.missingRelation owner field))) ∧
      (∀ resolved, index.resolveAll config = .ok resolved →
        ∀ decl ∈ index.entityClasses config,
          ∀ link ∈ index.lineage config.rootType decl,
          ∃ fields, resolved.lookup link.path = some fields ∧
            index.resolveClass config link = .ok fields) ∧
      ∀ model augmentation, index.augment? model = some augmentation →
        augmentation.Aligned := by
  refine ⟨?_, ?_, ?_, ?_⟩
  · intro path failed
    cases generate_not_isInternal failed
  · intro owner field failed
    cases generate_not_isInternal failed
  · intro resolved resolvedAll decl member link linkMember
    exact exists_lookup_of_resolveAll resolvedAll member linkMember
  · intro model augmentation augmented
    exact aligned_of_augment? augmented

end ClassIndex

namespace Ring

def person : ClassDecl where
  path := "app::Person"
  entity := some {}
  fields := [{ name := "id", type := .named "Id", isId := true }]

def node : ClassDecl where
  path := "app::Node"
  superclass := some "app::Link"
  entity := some {}
  fields := [{ name := "owner", type := .named "app::Person" }]

/-- Extends the class that extends it. -/
def link : ClassDecl where
  path := "app::Link"
  superclass := some "app::Node"
  entity := some {}

def index : ClassIndex := .ofList [person, node, link]

def resolved : ClassIndex.ResolvedClasses :=
  (index.resolveAll {}).toOption.getD default

def models : ModelSet := (index.buildModels {}).toOption.getD default

def linkModel : EntityModel := (models.models.get? link.path).getD default

def augmentation : Augmentation := (index.augment? linkModel).getD default

end Ring

/-- A lineage that runs in a circle lists its classes over and over; all of them
are resolved, and the class without a reference of its own gets aligned members
for the one it has from the other. -/
theorem ClassIndex.generate_consistent_ring :
    Ring.index.resolveAll {} = .ok Ring.resolved ∧
      (Ring.index.lineage "object" Ring.link).map ClassDecl.path =
        ["app::Node", "app::Link", "app::Node", "app::Link"] ∧
      (∀ link ∈ Ring.index.lineage "object" Ring.link, ∃ fields,
        Ring.resolved.lookup link.path = some fields ∧
          Ring.index.resolveClass {} link = .ok fields) ∧
      Ring.augmentation.methods.length = 4 ∧ Ring.augmentation.Aligned := by
  have resolvedAll : Ring.index.resolveAll {} = .ok Ring.resolved :=
    eq_ok_of_isSome (by decide +kernel)
  have facts : Ring.link ∈ Ring.index.entityClasses {} ∧
      (Ring.index.lineage "object" Ring.link).map ClassDecl.path =
        ["app::Node", "app::Link", "app::Node", "app::Link"] ∧
      Ring.index.augment? Ring.linkModel = some Ring.augmentation ∧
      Ring.augmentation.methods.length = 4 := by
    decide +kernel
  obtain ⟨member, lineage, augmented, four⟩ := facts
  obtain ⟨_, _, found, aligned⟩ := generate_consistent Ring.index {} none
  exact ⟨resolvedAll, lineage, found _ resolvedAll _ member, four,
    aligned _ _ augmented⟩

end EntityLink
