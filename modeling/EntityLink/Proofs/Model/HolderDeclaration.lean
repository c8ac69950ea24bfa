import EntityLink.Augmentation
import EntityLink.Proofs.Model.Pairing

/-!
# Fields declared for holders

A class or an ancestor may declare a field for a holder.  The class that
declares the reference adopts such a field.  Classes below it may declare the
name again only for a field that is static or ignored, and nobody looks at that
one: it is found in place of the adopted field although it does not hold
anything.
-/

namespace EntityLink.ClassIndex

variable {index : ClassIndex} {config : Config} {decl : ClassDecl}
  {model : EntityModel}

/-- The classes of a chain below the one with a path. -/
def below (index : ClassIndex) (root : String) (decl : ClassDecl)
    (path : String) : List ClassDecl :=
  (index.chain root decl).takeWhile fun link => link.path != path

/-- A declared field is the one that stands for a holder of a model. -/
structure StandsFor (index : ClassIndex) (model : EntityModel) (holder : Holder)
    (declared : FieldDecl) : Prop where
  notStatic : declared.isStatic = false
  notIgnored : declared.isIgnored = false
  type : declared.type = holder.type
  notAdded : ∀ augmentation, index.augment? model = some augmentation →
    ∀ field ∈ augmentation.fields, field.name ≠ holder.name

/-- What the class of a model or its nearest ancestor declares under the name of
a holder stands for the holder. -/
def AdoptsDeclaration (index : ClassIndex) (config : Config)
    (model : EntityModel) (holder : Holder) : Prop :=
  ∀ owner declared,
    index.fieldInChain? config.rootType model.path holder.name =
      some (owner, declared) →
    index.StandsFor model holder declared

namespace Origin

variable {reference : Reference} {lower above : List ClassDecl}
  {link : ClassDecl} {fields : List ModelField}

theorem below_eq
    (origin : Origin index config decl reference lower link above fields)
    (indexed : index.get? decl.path = some decl) :
    index.below config.rootType decl reference.declaredIn = lower := by
  have linkIndexed := get?_of_mem_chain indexed origin.link_mem
  have elsewhere : ∀ other ∈ lower, (other.path != link.path) = true := by
    intro other member
    have otherIndexed :=
      get?_of_mem_chain indexed (origin.mem_of_mem_below member)
    rw [bne_iff_ne]
    intro paths
    have addsNone := origin.below_adds_none other member
    rw [eq_of_path_eq otherIndexed linkIndexed paths,
      origin.holder_added] at addsNone
    cases addsNone
  rw [below, origin.facts.declaredIn reference origin.member, origin.split,
    List.takeWhile_append_of_pos elsewhere,
    List.takeWhile_cons_of_neg (by simp), List.append_nil]

/-- A class below that declares a stored field of the holder's name would add a
field of it. -/
theorem not_stored_of_mem_below
    (origin : Origin index config decl reference lower link above fields)
    (assembled : Assembled index config decl model) {other : ClassDecl}
    (member : other ∈ lower) {declared : FieldDecl}
    (declaredMember : declared ∈ other.fields)
    (named : declared.name = reference.holderName) :
    declared.isStored = false := by
  obtain ⟨otherFields, resolved, facts⟩ :=
    assembled.exists_fields (origin.mem_of_mem_below member)
  have addsNone := origin.below_adds_none other member
  rw [addition?_of_resolveClass resolved,
    EntityModel.lastNamed?_eq_none] at addsNone
  cases stored : declared.isStored with
  | false => rfl
  | true =>
      obtain ⟨added, addedMember, sameName⟩ :=
        facts.stored_mem declared declaredMember stored
      exact absurd (sameName.trans named) (addsNone added addedMember)

/-- Where no class below declares the holder's name, the class of the reference
finds the same declaration. -/
theorem fieldInChain?_of_not_below
    (origin : Origin index config decl reference lower link above fields)
    (indexed : index.get? decl.path = some decl)
    (undeclared : ∀ other ∈ lower, other.field? reference.holderName = none)
    {owner : ClassDecl} {declared : FieldDecl}
    (found :
      index.fieldInChain? config.rootType decl.path reference.holderName =
      some (owner, declared)) :
    index.fieldInChain? config.rootType link.path reference.holderName =
      some (owner, declared) := by
  have linkIndexed := get?_of_mem_chain indexed origin.link_mem
  rw [fieldInChain?_eq indexed,
    origin.split, declarationIn?, List.findSome?_append, ← declarationIn?,
    declarationIn?_eq_none.2 undeclared, Option.none_or] at found
  have upper : link :: above <+: index.chain config.rootType link :=
    (List.prefix_cons_inj link).2
      (prefix_ancestors_of_chain indexed origin.split)
  rw [fieldInChain?_eq linkIndexed, declarationIn?]
  exact upper.findSome?_eq_some found

end Origin

/-- The holder of a reference that adopts a declared field is not added to the
class. -/
theorem not_added_of_isHolderDeclared (pairsUp : model.PairsUp)
    {reference : Reference} (member : .reference reference ∈ model.fields)
    (adopted : reference.isHolderDeclared = true) {augmentation : Augmentation}
    (augmented : index.augment? model = some augmentation) :
    ∀ field ∈ augmentation.fields, field.name ≠ reference.holderName := by
  intro field fieldMember named
  rw [augment?] at augmented
  dsimp only at augmented
  split at augmented
  · cases augmented
  · cases augmented
    obtain ⟨⟨other, holder⟩, relation, rfl⟩ := List.mem_map.1 fieldMember
    have ⟨relationMember, notDeclared⟩ := List.mem_filter.1 relation
    rw [pairsUp.relations] at relationMember
    obtain ⟨same, otherMember, equality⟩ := List.mem_map.1 relationMember
    cases equality
    obtain ⟨owner, _, _, unique⟩ := pairsUp.reference_of_holder reference.holder
      (EntityModel.get?_eq_some_iff.1 (pairsUp.holdersFound reference member)).1
    have isOwner := unique reference member rfl
    have otherIsOwner :=
      unique other (EntityModel.mem_references_iff.1 otherMember) named
    rw [otherIsOwner, ← isOwner] at notDeclared
    simp [adopted] at notDeclared

namespace Origin

variable {reference : Reference} {lower above : List ClassDecl}
  {link : ClassDecl} {fields : List ModelField}

/-- The nearest of the declarations below would be found and is not stored. -/
theorem undeclared_of_adopts
    (origin : Origin index config decl reference lower link above fields)
    (assembled : Assembled index config decl model)
    (adopts : index.AdoptsDeclaration config model reference.holder) :
    ∀ other ∈ lower, other.field? reference.holderName = none := by
  rw [← declarationIn?_eq_none]
  cases nearest : declarationIn? reference.holderName lower with
  | none => rfl
  | some declaration =>
      obtain ⟨owner, declared⟩ := declaration
      obtain ⟨ownerMember, declaredMember, named⟩ :=
        declarationIn?_eq_some nearest
      have found :
          index.fieldInChain? config.rootType model.path reference.holderName =
          some (owner, declared) := by
        rw [assembled.path, fieldInChain?_eq assembled.indexed, origin.split,
          declarationIn?, List.findSome?_append, ← declarationIn?, nearest,
          Option.some_or]
      have standsFor := adopts owner declared found
      have notStored := origin.not_stored_of_mem_below assembled ownerMember
        declaredMember named
      simp [FieldDecl.isStored, standsFor.notStatic,
        standsFor.notIgnored] at notStored

theorem adopts_of_undeclared
    (origin : Origin index config decl reference lower link above fields)
    (assembled : Assembled index config decl model) (pairsUp : model.PairsUp)
    (member : .reference reference ∈ model.fields)
    (undeclared : ∀ other ∈ lower, other.field? reference.holderName = none) :
    index.AdoptsDeclaration config model reference.holder := by
  intro owner declared found
  rw [assembled.path] at found
  have foundAbove :=
    origin.fieldInChain?_of_not_below assembled.indexed undeclared found
  obtain ⟨stored, sameType, adopted⟩ :=
    origin.facts.adopted reference origin.member owner declared foundAbove
  obtain ⟨notStatic, notIgnored⟩ :
      declared.isStatic = false ∧ declared.isIgnored = false := by
    simpa [FieldDecl.isStored] using stored
  exact {
    notStatic
    notIgnored
    type := sameType.symm
    notAdded := fun augmentation augmented =>
      not_added_of_isHolderDeclared pairsUp member adopted augmented }

end Origin

/-- A declaration that is found for a holder stands for it exactly when no class
below the one that declares the reference declares the holder's name.  Below,
the name is declared only for fields that are not stored. -/
theorem adoptsDeclaration_iff (index : ClassIndex) (config : Config)
    {set : ModelSet} (built : index.buildModels config = .ok set)
    {model : EntityModel} (member : model ∈ set.models.toList) {holder : Holder}
    (holderMember : .holder holder ∈ model.fields) :
    ∃ decl reference, index.get? model.path = some decl ∧
      (reference, holder) ∈ model.relations ∧
      (∀ lower ∈ index.below config.rootType decl reference.declaredIn,
        ∀ declared ∈ lower.fields, declared.name = holder.name →
          declared.isStored = false) ∧
      (index.AdoptsDeclaration config model holder ↔
        ∀ lower ∈ index.below config.rootType decl reference.declaredIn,
          lower.field? holder.name = none) := by
  obtain ⟨decl, _, assembled⟩ := exists_assembly built member
  have pairsUp := assembled.pairsUp
  obtain ⟨reference, referenceMember, rfl, _⟩ :=
    pairsUp.reference_of_holder holder holderMember
  obtain ⟨lower, link, above, fields, origin⟩ :=
    assembled.exists_origin referenceMember
  have related : (reference, reference.holder) ∈ model.relations := by
    rw [pairsUp.relations]
    exact List.mem_map.2
      ⟨reference, EntityModel.mem_references_iff.2 referenceMember, rfl⟩
  refine ⟨decl, reference, assembled.path ▸ assembled.indexed, related, ?_, ?_⟩
  · rw [origin.below_eq assembled.indexed]
    intro other otherMember declared declaredMember named
    exact origin.not_stored_of_mem_below assembled otherMember
      declaredMember named
  · rw [origin.below_eq assembled.indexed]
    constructor
    · exact origin.undeclared_of_adopts assembled
    · exact origin.adopts_of_undeclared assembled pairsUp referenceMember

/-- The gift inherits a field that its superclass declares for the holder of the
signer. -/
theorem adoptsDeclaration_gift_signer :
    (Shop.index.fieldInChain? ({} :
        Config).rootType Shop.giftModel.path "signer_id").isSome ∧
      Shop.index.AdoptsDeclaration {} Shop.giftModel
        (Shop.giftHolder "signer_id") := by
  have built : Shop.index.buildModels {} = .ok Shop.models := rfl
  have member : Shop.giftModel ∈ Shop.models.models.toList := by decide
  have holderMember :
      .holder (Shop.giftHolder "signer_id") ∈ Shop.giftModel.fields := by decide
  have declaredInOrder : ∀ pair ∈ Shop.giftModel.relations,
      pair.1.declaredIn = "app::Order" := by
    decide
  have undeclared :
      ∀ lower ∈ Shop.index.below ({} : Config).rootType Shop.gift "app::Order",
      lower.field? (Shop.giftHolder "signer_id").name = none := by
    decide
  obtain ⟨decl, reference, indexed, related, _, adopts⟩ :=
    adoptsDeclaration_iff Shop.index {} built member holderMember
  obtain rfl : Shop.gift = decl := Option.some.inj indexed
  refine ⟨by decide, adopts.2 ?_⟩
  rw [declaredInOrder _ related]
  exact undeclared

/-- The field that the gift declares is found for the holder of its customer,
but is ignored. -/
theorem adoptsDeclaration_not_always :
    ¬∀ (index : ClassIndex) (config : Config) (set : ModelSet),
      index.buildModels config = .ok set →
        ∀ model ∈ set.models.toList, ∀ holder,
        .holder holder ∈ model.fields →
          index.AdoptsDeclaration config model holder := by
  intro always
  have found : Shop.index.fieldInChain? ({} : Config).rootType
        Shop.giftModel.path "customer_id" =
      some (Shop.gift,
        { name := "customer_id", type := .named "Id", isIgnored := true }) := by
    decide
  have holderMember : .holder (Shop.giftHolder "customer_id") ∈
      Shop.giftModel.fields := by decide
  have adopts := always Shop.index {} Shop.models rfl Shop.giftModel (by decide)
    (Shop.giftHolder "customer_id") holderMember
  exact absurd (adopts _ _ found).notIgnored (by decide)

end EntityLink.ClassIndex
