import EntityLink.Proofs.Generation.EmittedItems
import EntityLink.Proofs.Generation.Stages
import Mathlib.Data.List.Perm.Basic

/-!
# Names of the added items

The items that a class gains are named after its references, holders and
constructors.  The spelling keeps most of them apart: constants end in a
capital, accessors and wrappers never do.  What is left are names that become
one when their case changes, and accessors that happen to be named like another
item (`ItemNamesApart`).  Nothing checks for these.
-/

namespace EntityLink

variable {α κ γ : Type} [DecidableEq κ] {key : α → κ} {label : α → γ}
  {items : List α}

/-- Items found by their keys are all items, in order, exactly when the keys are
distinct. -/
theorem map_find?_keys_iff (distinct : (items.map label).Nodup) :
    ((items.map key).filterMap fun sought =>
      items.find? fun item => key item == sought).map label =
        items.map label ↔ (items.map key).Nodup := by
  let shown (item : α) : α :=
    (items.find? fun candidate => key candidate == key item).getD item
  have shownAll : ((items.map key).filterMap fun sought =>
      items.find? fun item => key item == sought) = items.map shown := by
    rw [List.filterMap_map, ← List.filterMap_eq_map]
    apply List.filterMap_congr
    intro item member
    obtain ⟨other, _, _, isFirst⟩ := exists_find?_key key member
    simp [shown, isFirst]
  rw [shownAll, List.map_map, List.map_inj_left]
  constructor
  · intro same
    refine List.Nodup.map_on ?_ distinct.of_map
    intro item member other otherMember sameKey
    obtain ⟨first, _, _, isFirst⟩ := exists_find?_key key otherMember
    have shownSame : shown item = shown other := by
      simp [shown, sameKey, isFirst]
    have sameLabel : label item = label other := by
      rw [← same item member, ← same other otherMember]
      exact congrArg label shownSame
    exact List.inj_on_of_nodup_map distinct member otherMember sameLabel
  · intro keysDistinct item member
    obtain ⟨other, otherMember, sameKey, isFirst⟩ := exists_find?_key key member
    have same : other = item :=
      List.inj_on_of_nodup_map keysDistinct otherMember member sameKey
    simp [shown, isFirst, same]

theorem nodup_append_iff_of_apart {left right : List α} (mark : α → Bool)
    (leftMarked : ∀ item ∈ left, mark item = true)
    (rightUnmarked : ∀ item ∈ right, mark item = false) :
    (left ++ right).Nodup ↔ left.Nodup ∧ right.Nodup := by
  rw [List.nodup_append, and_congr_right_iff]
  intro _
  refine and_iff_left ?_
  intro item member other otherMember same
  have marked := leftMarked item member
  rw [same, rightUnmarked other otherMember] at marked
  cases marked

/-- Says whether a name ends in an ASCII capital. -/
def endsInCapital (name : String) : Bool :=
  name.toList.getLast?.any Char.isUpper

theorem endsInCapital_append {first last : String}
    (notEmpty : last.toList ≠ []) :
    endsInCapital (first ++ last) = endsInCapital last := by
  rw [endsInCapital, endsInCapital, String.toList_append,
    List.getLast?_append_of_ne_nil _ notEmpty]

theorem getLast?_relationConst (reference : String) :
    (Accessor.relationConst reference).toList.getLast? = some 'N' := by
  rw [Accessor.relationConst, String.toList_append,
    List.getLast?_append_of_ne_nil _ (by decide)]
  decide

theorem endsInCapital_relationConst (reference : String) :
    endsInCapital (Accessor.relationConst reference) = true := by
  rw [endsInCapital, getLast?_relationConst]
  decide

theorem endsInCapital_snakeCase (name : String) :
    endsInCapital (Text.snakeCase name) = false := by
  rw [endsInCapital]
  cases last : (Text.snakeCase name).toList.getLast? with
  | none => rfl
  | some character =>
      exact Text.isUpper_of_mem_snakeCase (List.mem_of_getLast? last)

theorem endsInCapital_setterName (name : String) :
    endsInCapital (Accessor.setterName name) = false := by
  rw [Accessor.setterName]
  by_cases empty : (Text.snakeCase name).toList = []
  · have none : Text.snakeCase name = "" := String.toList_injective empty
    rw [none]
    decide
  · rw [endsInCapital_append empty]
    exact endsInCapital_snakeCase name

theorem endsInCapital_wrapperName (wrapped : Epilogue) :
    endsInCapital wrapped.wrapperName = false := by
  cases wrapped with
  | implicit => decide
  | declared name parameters =>
      rw [Epilogue.wrapperName, endsInCapital_append (by decide)]
      decide

namespace ClassIndex

variable (index : ClassIndex) (model : EntityModel)

/-- The fields of the relations of a model. -/
def relationSides (model : EntityModel) : List TypedField :=
  model.relations.flatMap fun pair =>
    [⟨pair.1.name, pair.1.type⟩, ⟨pair.2.name, pair.2.type⟩]

/-- The fields for which the class of a model gains a getter. -/
def gettersAdded : List String :=
  ((relationSides model).filter fun side =>
    !index.declares model.path (Accessor.getterName side.name) []).map
      TypedField.name

/-- The fields for which the class of a model gains a setter. -/
def settersAdded : List String :=
  ((relationSides model).filter fun side =>
    !index.declares model.path (Accessor.setterName side.name) [side.type]).map
      TypedField.name

/-- The constructors for which a class gains a wrapper. -/
def constructorsWrapped (path : String) : List String :=
  ((((index.get? path).map ClassDecl.constructors).getD []).filter fun method =>
    !index.declares path
      (Epilogue.declared method.name method.parameters).wrapperName
      method.parameters).map MethodDecl.name

/-- What the names of the fields and constructors of a class must be like for
all names derived from them to differ. -/
structure ItemNamesApart : Prop where
  constants :
    (model.relations.map fun pair => Text.constantCase pair.1.name).Nodup
  getters : ((index.gettersAdded model).map Text.snakeCase).Nodup
  setters : ((index.settersAdded model).map Text.snakeCase).Nodup
  getter_ne_setter : ∀ getter ∈ index.gettersAdded model,
    ∀ setter ∈ index.settersAdded model,
    Text.snakeCase getter ≠ "set_" ++ Text.snakeCase setter
  wrappers : (index.constructorsWrapped model.path).Nodup
  getter_ne_wrapper : ∀ getter ∈ index.gettersAdded model,
    ∀ wrapped ∈ index.epilogues model.path,
    Text.snakeCase getter ≠ wrapped.wrapperName
  setter_ne_wrapper : ∀ setter ∈ index.settersAdded model,
    ∀ wrapped ∈ index.epilogues model.path,
    "set_" ++ Text.snakeCase setter ≠ wrapped.wrapperName

variable {index model} {augmentation : Augmentation}

/-- Getters and setters alternate among the accessors. -/
theorem accessors_perm (model : EntityModel) :
    ((model.relations.flatMap fun pair =>
      accessorsOf pair.1 pair.2).map fun method =>
        (method.name, method.parameters)).Perm
      ((relationSides model).map (fun side =>
          (Accessor.getterName side.name, [])) ++
        (relationSides model).map fun side =>
          (Accessor.setterName side.name, [side.type])) := by
  have alternate := (List.flatMap_append_perm (relationSides model)
    (fun side => [(Accessor.getterName side.name, ([] : List TypeRef))])
    (fun side => [(Accessor.setterName side.name, [side.type])])).symm
  rw [← List.map_eq_flatMap, ← List.map_eq_flatMap] at alternate
  refine .trans (.of_eq ?_) alternate
  rw [relationSides, List.flatMap_assoc, List.map_flatMap]
  rfl

theorem methodNames_perm
    (augmented : index.augment? model = some augmentation) :
    (augmentation.methods.map SyntheticMethod.name).Perm
      ((index.gettersAdded model).map Accessor.getterName ++
        (index.settersAdded model).map Accessor.setterName) := by
  have added := ((accessors_perm model).filter fun entry =>
    !index.declares model.path entry.1 entry.2).map Prod.fst
  rw [augment?_eq_some augmented]
  rw [List.filter_append, List.filter_map, List.filter_map, List.filter_map,
    List.map_append, List.map_map, List.map_map, List.map_map] at added
  rw [gettersAdded, settersAdded, List.map_map, List.map_map]
  exact added

theorem nodup_constNames_iff
    (augmented : index.augment? model = some augmentation) :
    (augmentation.relations.map RelationPlan.constName).Nodup ↔
      (model.relations.map fun pair =>
        Text.constantCase pair.1.name).Nodup := by
  have injective : Function.Injective fun name : String =>
      name ++ "_RELATION" :=
    fun _ _ => (String.append_left_inj _).1
  have names : augmentation.relations.map RelationPlan.constName =
      (model.relations.map fun pair => Text.constantCase pair.1.name).map
        (· ++ "_RELATION") := by
    rw [augment?_eq_some augmented, List.map_map, List.map_map]
    rfl
  rw [names, List.nodup_map_iff injective]

theorem nodup_methodNames_iff
    (augmented : index.augment? model = some augmentation) :
    (augmentation.methods.map SyntheticMethod.name).Nodup ↔
      ((index.gettersAdded model).map Text.snakeCase).Nodup ∧
      ((index.settersAdded model).map Text.snakeCase).Nodup ∧
      ∀ getter ∈ index.gettersAdded model, ∀ setter ∈ index.settersAdded model,
        Text.snakeCase getter ≠ "set_" ++ Text.snakeCase setter := by
  have injective : Function.Injective fun name : String => "set_" ++ name :=
    fun _ _ => (String.append_right_inj _).1
  have setterNames : (index.settersAdded model).map Accessor.setterName =
      ((index.settersAdded model).map Text.snakeCase).map ("set_" ++ ·) := by
    rw [List.map_map]
    rfl
  rw [(methodNames_perm augmented).nodup_iff, List.nodup_append, setterNames,
    List.nodup_map_iff injective, List.map_map, List.forall_mem_map]
  simp only [List.forall_mem_map]
  rfl

theorem wrapperNames_eq (index : ClassIndex) (path : String) :
    (index.epilogues path).map Epilogue.wrapperName =
      (if index.declares path Epilogue.implicitName [] then []
          else [Epilogue.implicitName]) ++
        (index.constructorsWrapped path).map fun name =>
          name ++ "_" ++ Epilogue.implicitName := by
  have declaredNames :
      (((((index.get? path).map ClassDecl.constructors).getD []).map
        fun method => Epilogue.declared method.name method.parameters).filter
          fun epilogue => !index.declares path epilogue.wrapperName
            epilogue.parameters).map Epilogue.wrapperName =
      (index.constructorsWrapped path).map fun name =>
        name ++ "_" ++ Epilogue.implicitName := by
    rw [constructorsWrapped, List.filter_map, List.map_map, List.map_map]
    rfl
  rw [epilogues, List.filter_cons, ← declaredNames]
  cases declared : index.declares path Epilogue.implicitName [] with
  | true => simp [Epilogue.wrapperName, Epilogue.parameters, declared]
  | false => simp [Epilogue.wrapperName, Epilogue.parameters, declared]

theorem implicitName_ne_wrapperName (name : String) :
    Epilogue.implicitName ≠ name ++ "_" ++ Epilogue.implicitName := by
  intro same
  have sameLength := congrArg String.length same
  rw [String.length_append, String.length_append] at sameLength
  have one : "_".length = 1 := rfl
  omega

theorem nodup_wrapperNames_iff (index : ClassIndex) (path : String) :
    ((index.epilogues path).map Epilogue.wrapperName).Nodup ↔
      (index.constructorsWrapped path).Nodup := by
  have injective : Function.Injective fun name =>
      name ++ "_" ++ Epilogue.implicitName :=
    fun _ _ same =>
      (String.append_left_inj _).1 ((String.append_left_inj _).1 same)
  rw [wrapperNames_eq, List.nodup_append, List.nodup_map_iff injective]
  constructor
  · rintro ⟨_, distinct, _⟩
    exact distinct
  · intro distinct
    refine ⟨by split <;> simp, distinct, ?_⟩
    intro name member other otherMember
    obtain ⟨wrapped, _, rfl⟩ := List.mem_map.1 otherMember
    split at member
    · cases member
    · rw [List.mem_singleton.1 member]
      exact implicitName_ne_wrapperName wrapped

theorem constName_of_mem (augmented : index.augment? model = some augmentation)
    {name : String}
    (member : name ∈ augmentation.relations.map RelationPlan.constName) :
    ∃ reference, name = Accessor.relationConst reference := by
  rw [augment?_eq_some augmented, List.map_map] at member
  obtain ⟨pair, _, rfl⟩ := List.mem_map.1 member
  exact ⟨pair.1.name, rfl⟩

theorem nodup_constants_iff
    (augmented : index.augment? model = some augmentation) :
    (augmentation.relations.map RelationPlan.constName ++
        ["SKIP_PERSIST", "SKIP_SERIALIZE"]).Nodup ↔
      (model.relations.map fun pair =>
        Text.constantCase pair.1.name).Nodup := by
  have relationMarked :
      ∀ name ∈ augmentation.relations.map RelationPlan.constName,
      (name.toList.getLast? == some 'N') = true := by
    intro name member
    obtain ⟨reference, rfl⟩ := constName_of_mem augmented member
    rw [getLast?_relationConst]
    decide
  have markersUnmarked : ∀ name ∈ ["SKIP_PERSIST", "SKIP_SERIALIZE"],
      (name.toList.getLast? == some 'N') = false := by
    decide
  rw [nodup_append_iff_of_apart _ relationMarked markersUnmarked,
    nodup_constNames_iff augmented]
  exact and_iff_left (by decide)

theorem endsInCapital_constant
    (augmented : index.augment? model = some augmentation) {name : String}
    (member : name ∈ augmentation.relations.map RelationPlan.constName ++
      ["SKIP_PERSIST", "SKIP_SERIALIZE"]) : endsInCapital name = true := by
  rcases List.mem_append.1 member with ofRelation | ofMarker
  · obtain ⟨reference, rfl⟩ := constName_of_mem augmented ofRelation
    exact endsInCapital_relationConst reference
  · have markers : ∀ name ∈ ["SKIP_PERSIST", "SKIP_SERIALIZE"],
        endsInCapital name = true := by
      decide
    exact markers name ofMarker

theorem endsInCapital_function
    (augmented : index.augment? model = some augmentation) {name : String}
    (member : name ∈ augmentation.methods.map SyntheticMethod.name ++
      augmentation.epilogues.map Epilogue.wrapperName) :
    endsInCapital name = false := by
  rcases List.mem_append.1 member with ofMethod | ofWrapper
  · rw [(methodNames_perm augmented).mem_iff] at ofMethod
    rcases List.mem_append.1 ofMethod with ofGetter | ofSetter
    · obtain ⟨getter, _, rfl⟩ := List.mem_map.1 ofGetter
      exact endsInCapital_snakeCase getter
    · obtain ⟨setter, _, rfl⟩ := List.mem_map.1 ofSetter
      exact endsInCapital_setterName setter
  · obtain ⟨wrapped, _, rfl⟩ := List.mem_map.1 ofWrapper
    exact endsInCapital_wrapperName wrapped

theorem nodup_itemNames_iff_apart
    (augmented : index.augment? model = some augmentation) :
    augmentation.itemNames.Nodup ↔ index.ItemNamesApart model := by
  have epilogues : augmentation.epilogues = index.epilogues model.path := by
    rw [augment?_eq_some augmented]
  have accessor_iff : ∀ name,
      name ∈ augmentation.methods.map SyntheticMethod.name ↔
      (∃ getter ∈ index.gettersAdded model, Text.snakeCase getter = name) ∨
      ∃ setter ∈ index.settersAdded model,
        "set_" ++ Text.snakeCase setter = name := by
    intro name
    rw [(methodNames_perm augmented).mem_iff, List.mem_append, List.mem_map,
      List.mem_map]
    rfl
  rw [Augmentation.itemNames, List.append_assoc,
    nodup_append_iff_of_apart endsInCapital
      (fun _ => endsInCapital_constant augmented)
      (fun _ => endsInCapital_function augmented),
    nodup_constants_iff augmented, List.nodup_append,
    nodup_methodNames_iff augmented, epilogues, nodup_wrapperNames_iff]
  constructor
  · rintro ⟨constants, ⟨getters, setters, getter_ne_setter⟩, wrappers, apart⟩
    refine ⟨constants, getters, setters, getter_ne_setter, wrappers, ?_, ?_⟩
    · intro getter member wrapped wrappedMember
      exact apart _ ((accessor_iff _).2 (.inl ⟨getter, member, rfl⟩)) _
        (List.mem_map_of_mem wrappedMember)
    · intro setter member wrapped wrappedMember
      exact apart _ ((accessor_iff _).2 (.inr ⟨setter, member, rfl⟩)) _
        (List.mem_map_of_mem wrappedMember)
  · intro apart
    refine ⟨apart.constants, ⟨apart.getters, apart.setters,
      apart.getter_ne_setter⟩, apart.wrappers, ?_⟩
    intro name nameMember wrapper wrapperMember
    obtain ⟨wrapped, wrappedMember, rfl⟩ := List.mem_map.1 wrapperMember
    rcases (accessor_iff name).1 nameMember with ⟨getter, member, rfl⟩
      | ⟨setter, member, rfl⟩
    · exact apart.getter_ne_wrapper getter member wrapped wrappedMember
    · exact apart.setter_ne_wrapper setter member wrapped wrappedMember

/-- The relations that a check routine goes through, as it finds them by their
constants. -/
def relationsChecked (augmentation : Augmentation) : List Reference :=
  (augmentation.check.relations.filterMap augmentation.planOfConst?).map
    RelationPlan.reference

theorem relationsChecked_iff (pairsUp : model.PairsUp)
    (augmented : index.augment? model = some augmentation) :
    relationsChecked augmentation = model.relations.map Prod.fst ↔
      (model.relations.map fun pair =>
        Text.constantCase pair.1.name).Nodup := by
  have constants : augmentation.check.relations =
      augmentation.relations.map RelationPlan.constName := by
    rw [augment?_eq_some augmented, List.map_map]
    rfl
  have references : augmentation.relations.map RelationPlan.reference =
      model.relations.map Prod.fst := by
    rw [augment?_eq_some augmented, List.map_map]
    rfl
  have distinct :
      (augmentation.relations.map RelationPlan.reference).Nodup := by
    have names : ((model.relations.map Prod.fst).map Reference.name).Nodup := by
      rw [List.map_map]
      exact pairsUp.nodup_reference_names
    exact references ▸ names.of_map
  rw [relationsChecked, constants, ← nodup_constNames_iff augmented,
    ← references]
  exact map_find?_keys_iff distinct

/-- The items in the block of a class have names of their own exactly when the
names of its fields and constructors do not become one on the way, and the check
routine goes through all relations exactly when their constants differ. -/
theorem nodup_itemNames_iff (index : ClassIndex) (config : Config)
    (override : Option String) {result : Generated}
    (generated : index.generate config override = .ok result)
    {augmentation : Augmentation}
    (member : augmentation ∈ result.augmentations) :
    (∃ runtime items, Emission.runtimePath override config = .ok runtime ∧
        Emission.WritesItems runtime augmentation items) ∧
      ∃ model ∈ result.analysis.models.toList,
        index.augment? model = some augmentation ∧
        (augmentation.itemNames.Nodup ↔ index.ItemNamesApart model) ∧
        (relationsChecked augmentation = model.relations.map Prod.fst ↔
          (model.relations.map fun pair =>
            Text.constantCase pair.1.name).Nodup) := by
  obtain ⟨runtime, code, runtimeRead, written⟩ :=
    exists_code_of_generate generated member
  obtain ⟨items, itemsWritten⟩ := Emission.exists_items_of_augmentation written
  refine ⟨⟨runtime, items, runtimeRead, itemsWritten⟩, ?_⟩
  obtain ⟨set, _, models, model, modelMember, augmented, pairsUp⟩ :=
    exists_model_of_generate generated member
  exact ⟨model, models ▸ modelMember, augmented,
    nodup_itemNames_iff_apart augmented, relationsChecked_iff pairsUp augmented⟩

end ClassIndex

namespace Post

def person : ClassDecl where
  path := "app::Person"
  entity := some {}
  fields := [{ name := "id", type := .named "Id", isId := true }]

def letter : ClassDecl where
  path := "app::Letter"
  entity := some {}
  fields := [{ name := "sender", type := .named "app::Person" }]
  methods := [{ name := "new", kind := .constructor }]

/-- Has two references whose names differ in case alone. -/
def parcel : ClassDecl where
  path := "app::Parcel"
  entity := some {}
  fields := [
    { name := "sender", type := .named "app::Person" },
    { name := "Sender", type := .named "app::Person" }]

def index : ClassIndex := .ofList [person, letter, parcel]

def result : Generated := (index.generate {} none).toOption.getD default

theorem generated : index.generate {} none = .ok result :=
  eq_ok_of_isSome (by decide +kernel)

def augmentation (decl : ClassDecl) : Augmentation :=
  (result.augmentations.find? fun added => added.path == decl.path).getD default

end Post

theorem ClassIndex.nodup_itemNames_letter :
    Post.index.generate {} none = .ok Post.result ∧
      Post.augmentation Post.letter ∈ Post.result.augmentations ∧
      ∃ model ∈ Post.result.analysis.models.toList,
        Post.index.augment? model = some (Post.augmentation Post.letter) ∧
        Post.index.ItemNamesApart model ∧
        relationsChecked (Post.augmentation Post.letter) =
          model.relations.map Prod.fst := by
  have facts : Post.augmentation Post.letter ∈ Post.result.augmentations ∧
      (Post.augmentation Post.letter).itemNames =
        ["SENDER_RELATION", "SKIP_PERSIST", "SKIP_SERIALIZE", "sender",
          "set_sender", "sender_id", "set_sender_id", "checked",
          "new_checked"] := by
    decide +kernel
  obtain ⟨member, names⟩ := facts
  obtain ⟨_, model, modelMember, augmented, distinct_iff, checked_iff⟩ :=
    nodup_itemNames_iff Post.index {} none Post.generated member
  have apart : Post.index.ItemNamesApart model := by
    rw [← distinct_iff, names]
    decide
  exact ⟨Post.generated, member, model, modelMember, augmented, apart,
    checked_iff.2 apart.constants⟩

/-- Neither holds of a parcel.  It gets the constant and the accessors of its
sender twice, and the check routine goes through one sender twice and never
through the other. -/
theorem ClassIndex.nodup_itemNames_not_always :
    ¬∀ (index : ClassIndex) (config : Config) (override : Option String)
      (result : Generated),
      index.generate config override = .ok result →
      ∀ augmentation ∈ result.augmentations, augmentation.itemNames.Nodup ∨
        relationsChecked augmentation =
          augmentation.relations.map RelationPlan.reference := by
  intro always
  have facts : Post.augmentation Post.parcel ∈ Post.result.augmentations ∧
      ¬(Post.augmentation Post.parcel).itemNames.Nodup ∧
      (relationsChecked (Post.augmentation Post.parcel)).map Reference.name =
        ["sender", "sender"] ∧
      ((Post.augmentation Post.parcel).relations.map RelationPlan.reference).map
          Reference.name =
        ["sender", "Sender"] := by
    decide +kernel
  obtain ⟨member, notDistinct, checked, all⟩ := facts
  rcases always Post.index {} none Post.result Post.generated _ member
    with distinct | same
  · exact notDistinct distinct
  · rw [same, all] at checked
    revert checked
    decide

end EntityLink
