import EntityLink.Emission
import EntityLink.Proofs.Traversal

/-!
# Items of the written code

The code of a class is a block of items followed by the check routine.  The
items declare the names that `Augmentation.itemNames` lists, in the same order
(`exists_items_of_augmentation`).
-/

namespace EntityLink.Emission

open Code

/-- The name that an item declares, which is the word after `const` or `fn`. -/
def declaredName? : Tokens → Option Token
  | .word "const" :: name :: _ => some name
  | .word "fn" :: name :: _ => some name
  | _ :: rest => declaredName? rest
  | [] => none

theorem identifier_ok {name : String} {token : Token}
    (made : identifier name = .ok token) :
    token = .word name := by
  unfold identifier at made
  split at made
  · cases made
  · split at made
    · cases made
    · cases made
      rfl

theorem declaredName?_relationConst {runtime code : Tokens} {owner : String}
    {plan : RelationPlan}
    (written : relationConst runtime owner plan = .ok code) :
    declaredName? code = some (.word plan.constName) := by
  rw [relationConst, except_bind_ok_iff] at written
  obtain ⟨name, named, equality⟩ := written
  cases identifier_ok named
  cases equality
  rfl

theorem declaredName?_getter (name side : Token) (type : Tokens) :
    declaredName? (getter name side type) = some name := rfl

theorem declaredName?_setter (parts : AccessorParts) (type call : Tokens)
    (last : List Tokens) :
    declaredName? (setter parts type call last) = some parts.name := rfl

theorem declaredName?_accessor {runtime code : Tokens} {added : Augmentation}
    {synthetic : SyntheticMethod}
    (written : accessor runtime added synthetic = .ok code) :
    declaredName? code = some (.word synthetic.name) := by
  unfold accessor at written
  split at written
  · cases written
  next plan _ =>
    dsimp only at written
    obtain ⟨name, named, written⟩ := except_bind_ok_iff.1 written
    obtain ⟨relation, _, written⟩ := except_bind_ok_iff.1 written
    obtain ⟨field, _, written⟩ := except_bind_ok_iff.1 written
    obtain ⟨holder, _, written⟩ := except_bind_ok_iff.1 written
    obtain ⟨entityType, _, written⟩ := except_bind_ok_iff.1 written
    obtain ⟨holderType, _, written⟩ := except_bind_ok_iff.1 written
    obtain ⟨idOf, _, written⟩ := except_bind_ok_iff.1 written
    rw [← identifier_ok named]
    split at written
    · cases written
      exact declaredName?_getter ..
    · cases written
      exact declaredName?_getter ..
    · cases written
      exact declaredName?_setter ..
    · split at written
      · obtain ⟨target, _, written⟩ := except_bind_ok_iff.1 written
        obtain ⟨idType, _, written⟩ := except_bind_ok_iff.1 written
        cases written
        exact declaredName?_setter ..
      · cases written
        exact declaredName?_setter ..

theorem declaredName?_epilogue {runtime code : Tokens} {wrapped : Epilogue}
    (written : epilogue runtime wrapped = .ok code) :
    declaredName? code = some (.word wrapped.wrapperName) := by
  rw [epilogue, except_bind_ok_iff] at written
  obtain ⟨wrapper, named, written⟩ := written
  rw [← identifier_ok named]
  dsimp only at written
  split at written
  · cases written
    rfl
  · obtain ⟨constructor, _, written⟩ := except_bind_ok_iff.1 written
    obtain ⟨types, _, written⟩ := except_bind_ok_iff.1 written
    cases written
    rfl

/-- The code of a class has the given items in the block of the class. -/
structure WritesItems (runtime : Tokens) (added : Augmentation)
    (items : List Tokens) : Prop where
  code : ∃ owner routine, augmentation runtime added =
    .ok (word "impl" ++ owner ++ curly items.flatten ++ routine)
  names : items.map declaredName? = added.itemNames.map fun name =>
    some (.word name)

theorem exists_items_of_augmentation {runtime code : Tokens}
    {added : Augmentation} (written : augmentation runtime added = .ok code) :
    ∃ items, WritesItems runtime added items := by
  have result := written
  rw [augmentation, except_bind_ok_iff] at written
  obtain ⟨owner, _, written⟩ := written
  obtain ⟨consts, constsWritten, written⟩ := except_bind_ok_iff.1 written
  obtain ⟨methods, methodsWritten, written⟩ := except_bind_ok_iff.1 written
  obtain ⟨epilogues, epiloguesWritten, written⟩ := except_bind_ok_iff.1 written
  obtain ⟨routine, _, written⟩ := except_bind_ok_iff.1 written
  cases written
  have constNames : consts.map declaredName? =
      added.relations.map fun plan => some (Token.word plan.constName) :=
    map_eq_map_of_forall₂
      (fun _ _ constWritten => declaredName?_relationConst constWritten)
      (mapM_ok_iff_forall₂.1 constsWritten)
  have methodNames : methods.map declaredName? =
      added.methods.map fun synthetic => some (Token.word synthetic.name) :=
    map_eq_map_of_forall₂
      (fun _ _ methodWritten => declaredName?_accessor methodWritten)
      (mapM_ok_iff_forall₂.1 methodsWritten)
  have wrapperNames : epilogues.map declaredName? =
      added.epilogues.map fun wrapped =>
        some (Token.word wrapped.wrapperName) :=
    map_eq_map_of_forall₂
      (fun _ _ wrapperWritten => declaredName?_epilogue wrapperWritten)
      (mapM_ok_iff_forall₂.1 epiloguesWritten)
  let lists := [textsConst "SKIP_PERSIST" (added.fieldsMarked .skipPersist),
    textsConst "SKIP_SERIALIZE" (added.fieldsMarked .skipSerialize)]
  have listNames : lists.map declaredName? =
      ["SKIP_PERSIST", "SKIP_SERIALIZE"].map fun name =>
        some (Token.word name) := rfl
  refine ⟨consts ++ lists ++ methods ++ epilogues, ?_, ?_⟩
  · refine ⟨owner, routine, result.trans (congrArg Except.ok ?_)⟩
    simp [lists, markers]
  · simp only [List.map_append, constNames, methodNames, wrapperNames,
      listNames, Augmentation.itemNames, List.map_map, Function.comp_def]

end EntityLink.Emission
