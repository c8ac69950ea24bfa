import EntityLink.Generation
import EntityLink.Proofs.Analysis.EntitySet

/-!
# The stages of a generation

A generation that succeeds has gone through the analysis, the path of the
run-time library and the code of every augmentation.  Each augmentation belongs
to a model that pairs up, and its parts are read off the relations of that
model.
-/

namespace EntityLink

/-- Every accessor finds the plan of its relation, and every constant that the
check routine names finds one, too. -/
structure Augmentation.Aligned (augmentation : Augmentation) : Prop where
  accessor : ∀ method ∈ augmentation.methods,
    ∃ plan, augmentation.plan? method.relation = some plan
  constant : ∀ constName ∈ augmentation.check.relations,
    ∃ plan, augmentation.planOfConst? constName = some plan

namespace ClassIndex

variable {index : ClassIndex} {config : Config} {override : Option String}

theorem mapError_ok {ε φ α : Type} {convert : ε → φ} {outcome : Except ε α}
    {value : α} (converted : outcome.mapError convert = .ok value) :
    outcome = .ok value := by
  cases outcome with
  | error failure => cases converted
  | ok other =>
      cases converted
      rfl

theorem generate_ok {result : Generated}
    (generated : index.generate config override = .ok result) :
    ∃ runtime codes, index.analyze config = .ok result.analysis ∧
      Emission.runtimePath override config = .ok runtime ∧
      result.augmentations =
        result.analysis.models.toList.filterMap index.augment? ∧
      result.augmentations.mapM (classCode runtime) = .ok codes := by
  rw [generate, except_bind_ok_iff] at generated
  obtain ⟨analysis, analyzed, generated⟩ := generated
  obtain ⟨runtime, runtimeRead, generated⟩ := except_bind_ok_iff.1 generated
  obtain ⟨codes, coded, equality⟩ := except_bind_ok_iff.1 generated
  cases equality
  exact ⟨runtime, codes, mapError_ok analyzed, runtimeRead, rfl, coded⟩

theorem augment?_eq_some {model : EntityModel} {augmentation : Augmentation}
    (augmented : index.augment? model = some augmentation) :
    augmentation = {
      path := model.path
      relations := model.relations.map fun pair =>
        { constName := Accessor.relationConst pair.1.name, reference := pair.1 }
      fields :=
        (model.relations.filter fun pair => !pair.1.isHolderDeclared).map
          fun pair => { name := pair.2.name, type := pair.2.type }
      methods :=
        (model.relations.flatMap fun pair => accessorsOf pair.1 pair.2).filter
          fun method => !index.declares model.path method.name method.parameters
      check := {
        name := CheckRoutine.usualName
        lazyInit := model.relations.filterMap fun pair =>
          pair.1.holderInit.map fun type => { name := pair.2.name, type }
        relations :=
          model.relations.map fun pair => Accessor.relationConst pair.1.name }
      epilogues := index.epilogues model.path
      markers := model.relations.flatMap fun pair =>
        [⟨pair.1.name, .skipPersist⟩, ⟨pair.2.name, .skipSerialize⟩] } := by
  unfold augment? at augmented
  dsimp only at augmented
  split at augmented
  · cases augmented
  · exact (Option.some.inj augmented).symm

theorem exists_accessor_of_mem {relations : List (Reference × Holder)}
    {method : SyntheticMethod}
    (member : method ∈
      relations.flatMap fun pair => accessorsOf pair.1 pair.2) :
    ∃ pair ∈ relations, method.relation = pair.1.name ∧
      (method.role = .holderGetter → method.returns = some pair.2.type) ∧
      (method.role = .holderSetter → method.parameters = [pair.2.type]) := by
  obtain ⟨pair, pairMember, accessor⟩ := List.mem_flatMap.1 member
  refine ⟨pair, pairMember, ?_⟩
  simp only [accessorsOf, List.mem_cons, List.not_mem_nil, or_false] at accessor
  rcases accessor with rfl | rfl | rfl | rfl <;> simp

theorem aligned_of_augment? {model : EntityModel} {augmentation : Augmentation}
    (augmented : index.augment? model = some augmentation) :
    augmentation.Aligned := by
  have planned : ∀ pair ∈ model.relations,
      ⟨Accessor.relationConst pair.1.name, pair.1⟩ ∈
        model.relations.map fun pair =>
          (⟨Accessor.relationConst pair.1.name, pair.1⟩ : RelationPlan) :=
    fun pair related => List.mem_map.2 ⟨pair, related, rfl⟩
  rw [augment?_eq_some augmented]
  constructor
  case accessor =>
    intro method member
    obtain ⟨pair, related, relation, _⟩ :=
      exists_accessor_of_mem (List.mem_of_mem_filter member)
    obtain ⟨plan, _, _, found⟩ :=
      exists_find?_key (fun plan => plan.reference.name) (planned pair related)
    exact ⟨plan, relation ▸ found⟩
  case constant =>
    intro constName member
    obtain ⟨pair, related, rfl⟩ := List.mem_map.1 member
    obtain ⟨plan, _, _, found⟩ :=
      exists_find?_key RelationPlan.constName (planned pair related)
    exact ⟨plan, found⟩

/-- Every augmentation of a generation belongs to a model of its analysis. -/
theorem exists_model_of_generate {result : Generated}
    (generated : index.generate config override = .ok result)
    {augmentation : Augmentation}
    (member : augmentation ∈ result.augmentations) :
    ∃ set, index.buildModels config = .ok set ∧
      result.analysis.models = set.models ∧
      ∃ model ∈ set.models.toList,
        index.augment? model = some augmentation ∧ model.PairsUp := by
  obtain ⟨_, _, analyzed, _, augmentations, _⟩ := generate_ok generated
  obtain ⟨_, set, built, analysis⟩ := analyze_ok analyzed
  rw [augmentations, analysis] at member
  obtain ⟨model, modelMember, augmented⟩ := List.mem_filterMap.1 member
  obtain ⟨_, _, assembled⟩ := exists_assembly built modelMember
  exact ⟨set, built, by rw [analysis], model, modelMember, augmented,
    assembled.pairsUp⟩

/-- The code of every augmentation of a generation is written. -/
theorem exists_code_of_generate {result : Generated}
    (generated : index.generate config override = .ok result)
    {augmentation : Augmentation}
    (member : augmentation ∈ result.augmentations) :
    ∃ runtime code, Emission.runtimePath override config = .ok runtime ∧
      Emission.augmentation runtime augmentation = .ok code := by
  obtain ⟨runtime, codes, _, runtimeRead, _, coded⟩ := generate_ok generated
  obtain ⟨_, _, classCoded⟩ :=
    exists_item_of_mem_results (mapM_ok_iff_forall₂.1 coded).flip member
  obtain ⟨code, written, _⟩ := except_bind_ok_iff.1 classCoded
  exact ⟨runtime, code, runtimeRead, written⟩

end ClassIndex

end EntityLink
