import EntityLink.Proofs.Model.Assembly

/-!
# References and holders pair up

Whether the references and holders of a model pair up is checked by their names
alone.  Types and targets agree all the same.  The class that adds a reference
adds its holder too, and a class further down that adds a holder of that name
adds the reference again, so both stem from one class (`exists_origin`).
-/

namespace EntityLink

namespace EntityModel

variable {model : EntityModel}

theorem holder?_eq_some_iff {name : String} {holder : Holder} :
    model.holder? name = some holder ↔
      model.get? name = some (.holder holder) := by
  rw [holder?]
  cases model.get? name with
  | none => simp
  | some field => cases field <;> simp [ModelField.holder?]

theorem reference?_eq_some_iff {name : String} {reference : Reference} :
    model.reference? name = some reference ↔
      model.get? name = some (.reference reference) := by
  rw [reference?]
  cases model.get? name with
  | none => simp
  | some field => cases field <;> simp [ModelField.reference?]

theorem mem_references_iff {reference : Reference} :
    reference ∈ model.fields.filterMap ModelField.reference? ↔
      .reference reference ∈ model.fields := by
  rw [List.mem_filterMap]
  constructor
  · rintro ⟨field, member, isReference⟩
    cases field with
    | reference other =>
        cases isReference
        exact member
    | plain | holder => cases isReference
  · intro member
    exact ⟨.reference reference, member, rfl⟩

theorem exists_holder_of_paired (paired : model.unpaired? = none)
    {reference : Reference} (member : .reference reference ∈ model.fields) :
    ∃ holder, model.get? reference.holderName = some (.holder holder) ∧
      holder.ownerName = reference.name := by
  have noFault := List.findSome?_eq_none_iff.1 paired _ member
  rw [fieldFault?] at noFault
  split at noFault
  next owned =>
    cases found : model.holder? reference.holderName with
    | none => simp [found] at owned
    | some holder =>
        rw [found] at owned
        exact ⟨holder, holder?_eq_some_iff.1 found, by simpa using owned⟩
  next => cases noFault

theorem exists_reference_of_paired (paired : model.unpaired? = none)
    {holder : Holder} (member : .holder holder ∈ model.fields) :
    ∃ reference, model.get? holder.ownerName = some (.reference reference) ∧
      reference.holderName = holder.name := by
  have noFault := List.findSome?_eq_none_iff.1 paired _ member
  rw [fieldFault?] at noFault
  split at noFault
  next holds =>
    cases found : model.reference? holder.ownerName with
    | none => simp [found] at holds
    | some reference =>
        rw [found] at holds
        exact ⟨reference, reference?_eq_some_iff.1 found, by simpa using holds⟩
  next => cases noFault

end EntityModel

namespace ClassIndex

open EntityModel

variable {index : ClassIndex} {config : Config} {decl : ClassDecl}
  {model : EntityModel}

theorem ClassFields.lastNamed?_holderName {fields : List ModelField}
    (facts : ClassFields index config decl fields) {reference : Reference}
    (member : .reference reference ∈ fields) :
    lastNamed? reference.holderName fields =
      some (.holder reference.holder) := by
  have holderMember := facts.holder_mem reference member
  cases found : lastNamed? reference.holderName fields with
  | none => exact absurd rfl (lastNamed?_eq_none.1 found _ holderMember)
  | some field =>
      obtain ⟨fieldMember, named⟩ := lastNamed?_eq_some found
      rw [facts.eq_holder reference.holder holderMember field fieldMember named]

/-- Where a reference of a model stems from: the nearest class that adds a field
of its holder's name, which adds the reference together with its holder. -/
structure Origin (index : ClassIndex) (config : Config) (decl : ClassDecl)
    (reference : Reference) (below : List ClassDecl) (link : ClassDecl)
    (above : List ClassDecl) (fields : List ModelField) : Prop where
  split : index.chain config.rootType decl = below ++ link :: above
  facts : ClassFields index config link fields
  member : .reference reference ∈ fields
  holder_added : index.addition? config reference.holderName link =
    some (.holder reference.holder)
  below_adds_none : ∀ lower ∈ below,
    index.addition? config reference.holderName lower = none

theorem Origin.link_mem {reference : Reference} {below above : List ClassDecl}
    {link : ClassDecl} {fields : List ModelField}
    (origin : Origin index config decl reference below link above fields) :
    link ∈ index.chain config.rootType decl := by
  rw [origin.split]
  simp

theorem Origin.mem_of_mem_below {reference : Reference}
    {below above : List ClassDecl} {link lower : ClassDecl}
    {fields : List ModelField}
    (origin : Origin index config decl reference below link above fields)
    (member : lower ∈ below) :
    lower ∈ index.chain config.rootType decl := by
  rw [origin.split]
  exact List.mem_append_left _ member

namespace Assembled

/-- A class that adds a holder adds a field of the owner's name, too. -/
theorem addition?_ownerName_ne_none
    (assembled : Assembled index config decl model) {link : ClassDecl}
    (member : link ∈ index.chain config.rootType decl) {name : String}
    {holder : Holder}
    (added : index.addition? config name link = some (.holder holder)) :
    index.addition? config holder.ownerName link ≠ none := by
  obtain ⟨fields, resolved, facts⟩ := assembled.exists_fields member
  rw [addition?_of_resolveClass resolved] at added ⊢
  obtain ⟨owner, ownerMember, named⟩ :=
    facts.owner_mem holder (lastNamed?_eq_some added).1
  intro addsNone
  exact lastNamed?_eq_none.1 addsNone _ ownerMember named

theorem exists_origin (assembled : Assembled index config decl model)
    {reference : Reference} (member : .reference reference ∈ model.fields) :
    ∃ below link above fields,
      Origin index config decl reference below link above fields := by
  have found :=
    (assembled.get?_eq reference.name).symm.trans (mem_fields_iff.1 member)
  obtain ⟨below, link, above, split, added, notBelow⟩ :=
    List.findSome?_eq_some_iff.1 found
  have linkMember : link ∈ index.chain config.rootType decl := by
    rw [split]
    simp
  obtain ⟨fields, resolved, facts⟩ := assembled.exists_fields linkMember
  rw [addition?_of_resolveClass resolved] at added
  have referenceMember := (lastNamed?_eq_some added).1
  refine ⟨below, link, above, fields, split, facts, referenceMember, ?_, ?_⟩
  · rw [addition?_of_resolveClass resolved,
      facts.lastNamed?_holderName referenceMember]
  · rw [← List.findSome?_eq_none_iff]
    cases nearest :
      below.findSome? (index.addition? config reference.holderName) with
    | none => rfl
    | some field =>
        have inModel : model.get? reference.holderName = some field := by
          rw [assembled.get?_eq, split, List.findSome?_append, nearest,
            Option.some_or]
        obtain ⟨holder, holderFound, owned⟩ :=
          exists_holder_of_paired assembled.paired member
        obtain rfl : field = .holder holder :=
          Option.some.inj (inModel.symm.trans holderFound)
        obtain ⟨lower, lowerMember, lowerAdds⟩ :=
          List.exists_of_findSome?_eq_some nearest
        have lowerInChain : lower ∈ index.chain config.rootType decl := by
          rw [split]
          exact List.mem_append_left _ lowerMember
        have addsOwner :=
          assembled.addition?_ownerName_ne_none lowerInChain lowerAdds
        rw [owned] at addsOwner
        exact absurd (notBelow lower lowerMember) addsOwner

theorem holder_of_reference (assembled : Assembled index config decl model)
    {reference : Reference} (member : .reference reference ∈ model.fields) :
    model.get? reference.holderName = some (.holder reference.holder) := by
  obtain ⟨below, link, above, fields, origin⟩ := assembled.exists_origin member
  rw [assembled.get?_eq, origin.split, List.findSome?_append,
    List.findSome?_eq_none_iff.2 origin.below_adds_none, Option.none_or,
    List.findSome?_cons, origin.holder_added]

end Assembled

end ClassIndex

namespace EntityModel

/-- Under the name of the holder of each reference stands the holder of that
reference. -/
def HoldersFound (model : EntityModel) : Prop :=
  ∀ reference, .reference reference ∈ model.fields →
    model.get? reference.holderName = some (.holder reference.holder)

/-- Each reference of a model has its own holder, each holder belongs to one
reference, and all of them have names of their own. -/
structure PairsUp (model : EntityModel) : Prop where
  holdersFound : model.HoldersFound
  reference_of_holder : ∀ holder, .holder holder ∈ model.fields →
    ∃ reference,
      .reference reference ∈ model.fields ∧ reference.holder = holder ∧
      ∀ other, .reference other ∈ model.fields →
        other.holderName = holder.name →
        other = reference
  separate : ∀ reference holder, .reference reference ∈ model.fields →
    .holder holder ∈ model.fields → reference.name ≠ holder.name
  relations : model.relations =
    (model.fields.filterMap ModelField.reference?).map fun reference =>
      (reference, reference.holder)
  distinct :
    (model.relations.flatMap fun pair => [pair.1.name, pair.2.name]).Nodup

variable {model : EntityModel}

theorem eq_of_reference_name {first second : Reference}
    (firstMember : .reference first ∈ model.fields)
    (secondMember : .reference second ∈ model.fields)
    (named : first.name = second.name) :
    first = second := by
  have found := mem_fields_iff.1 firstMember
  have secondFound := mem_fields_iff.1 secondMember
  simp only [ModelField.name, named] at found secondFound
  rw [found] at secondFound
  cases secondFound
  rfl

theorem HoldersFound.eq_of_holderName (holders : model.HoldersFound)
    {first second : Reference} (firstMember : .reference first ∈ model.fields)
    (secondMember : .reference second ∈ model.fields)
    (named : first.holderName = second.holderName) :
    first = second := by
  have found := holders first firstMember
  rw [named, holders second secondMember] at found
  have sameHolder : second.holder = first.holder :=
    ModelField.holder.inj (Option.some.inj found)
  exact eq_of_reference_name firstMember secondMember
    (congrArg Holder.ownerName sameHolder).symm

theorem HoldersFound.separate (holders : model.HoldersFound)
    {first second : Reference} (firstMember : .reference first ∈ model.fields)
    (secondMember : .reference second ∈ model.fields) :
    first.name ≠ second.holderName := by
  intro same
  have found := mem_fields_iff.1 firstMember
  rw [ModelField.name, same, holders second secondMember] at found
  cases found

theorem pairwise_reference_names :
    (model.fields.filterMap ModelField.reference?).Pairwise fun first second =>
      first.name ≠ second.name := by
  rw [List.pairwise_filterMap]
  apply (List.pairwise_map.1 model.distinct).imp
  rintro first second different firstReference isFirst secondReference isSecond
  cases first <;> cases isFirst
  cases second <;> cases isSecond
  exact different

theorem HoldersFound.relations_eq (holders : model.HoldersFound) :
    model.relations = (model.fields.filterMap ModelField.reference?).map
      fun reference =>
        (reference, reference.holder) := by
  rw [relations, ← List.filterMap_eq_map]
  apply List.filterMap_congr
  intro reference member
  have found := holders reference (mem_references_iff.1 member)
  rw [holder?_eq_some_iff.2 found]
  rfl

theorem HoldersFound.nodup_names (holders : model.HoldersFound) :
    (model.relations.flatMap fun pair => [pair.1.name, pair.2.name]).Nodup := by
  rw [holders.relations_eq, List.flatMap_map, List.nodup_flatMap]
  constructor
  · intro reference member
    have member := mem_references_iff.1 member
    have different : reference.name ≠ reference.holder.name :=
      holders.separate member member
    simpa using different
  · apply pairwise_reference_names.imp_of_mem
    intro first second firstMember secondMember different
    have firstMember := mem_references_iff.1 firstMember
    have secondMember := mem_references_iff.1 secondMember
    have holdersDiffer : first.holderName ≠ second.holderName := fun same =>
      different (congrArg Reference.name
        (holders.eq_of_holderName firstMember secondMember same))
    simp [Function.onFun, List.Disjoint, Reference.holder,
      different, holdersDiffer, holders.separate firstMember secondMember,
      (holders.separate secondMember firstMember).symm]

theorem HoldersFound.pairsUp (holders : model.HoldersFound)
    (paired : model.unpaired? = none) :
    model.PairsUp := by
  have reference_of_holder : ∀ holder, .holder holder ∈ model.fields →
      ∃ reference,
        .reference reference ∈ model.fields ∧ reference.holder = holder := by
    intro holder member
    obtain ⟨reference, found, named⟩ := exists_reference_of_paired paired member
    have referenceMember := (get?_eq_some_iff.1 found).1
    have holderFound := holders reference referenceMember
    have self : model.get? holder.name = some (.holder holder) :=
      mem_fields_iff.1 member
    rw [named, self] at holderFound
    refine ⟨reference, referenceMember, ?_⟩
    cases holderFound
    rfl
  constructor
  case holdersFound => exact holders
  case reference_of_holder =>
    intro holder member
    obtain ⟨reference, referenceMember, rfl⟩ :=
      reference_of_holder holder member
    refine ⟨reference, referenceMember, rfl, ?_⟩
    intro other otherMember named
    exact holders.eq_of_holderName otherMember referenceMember named
  case separate =>
    intro reference holder referenceMember holderMember
    obtain ⟨owner, ownerMember, rfl⟩ := reference_of_holder holder holderMember
    exact holders.separate referenceMember ownerMember
  case relations => exact holders.relations_eq
  case distinct => exact holders.nodup_names

theorem PairsUp.nodup_reference_names (pairsUp : model.PairsUp) :
    (model.relations.map fun pair => pair.1.name).Nodup := by
  rw [pairsUp.relations, List.map_map, List.Nodup, List.pairwise_map]
  exact pairwise_reference_names

theorem PairsUp.of_mem_relations (pairsUp : model.PairsUp)
    {reference : Reference} {holder : Holder}
    (related : (reference, holder) ∈ model.relations) :
    .reference reference ∈ model.fields ∧ holder = reference.holder := by
  rw [pairsUp.relations] at related
  obtain ⟨same, member, equality⟩ := List.mem_map.1 related
  cases equality
  exact ⟨mem_references_iff.1 member, rfl⟩

end EntityModel

theorem ClassIndex.Assembled.pairsUp {index : ClassIndex} {config : Config}
    {decl : ClassDecl} {model : EntityModel}
    (assembled : Assembled index config decl model) :
    model.PairsUp := by
  have holders : model.HoldersFound := by
    intro reference member
    exact assembled.holder_of_reference member
  exact holders.pairsUp assembled.paired

/-- The references and holders of every model that is built pair up. -/
theorem ClassIndex.buildModels_pairsUp (index : ClassIndex) (config : Config)
    {set : ModelSet} (built : index.buildModels config = .ok set)
    {model : EntityModel} (member : model ∈ set.models.toList) :
    model.PairsUp := by
  obtain ⟨decl, _, assembled⟩ := exists_assembly built member
  exact assembled.pairsUp

namespace Shop

def customer : ClassDecl where
  path := "app::Customer"
  entity := some {}
  fields := [{ name := "id", type := .named "Id", isId := true }]

/-- Declares one of its two holders. -/
def order : ClassDecl where
  path := "app::Order"
  entity := some {}
  fields := [
    { name := "customer", type := .named "app::Customer" },
    { name := "signer_id", type := .named "Id" },
    { name := "signer", type := .named "app::Customer" }]

/-- Declares the name of an inherited holder again, for a field that is not
stored. -/
def gift : ClassDecl where
  path := "app::Gift"
  superclass := some "app::Order"
  entity := some {}
  fields := [{ name := "customer_id", type := .named "Id", isIgnored := true }]

def index : ClassIndex := .ofList [customer, order, gift]

def models : ModelSet := (index.buildModels {}).toOption.getD default

def giftModel : EntityModel := (models.models.get? gift.path).getD default

def giftHolder (name : String) : Holder := (giftModel.holder? name).getD default

end Shop

theorem ClassIndex.buildModels_pairsUp_gift :
    Shop.index.buildModels {} = .ok Shop.models ∧
      Shop.giftModel ∈ Shop.models.models.toList ∧
      Shop.giftModel.relations.map (fun pair => (pair.1.name, pair.2.name)) =
        [("customer", "customer_id"), ("signer", "signer_id")] ∧
      Shop.giftModel.PairsUp := by
  have built : Shop.index.buildModels {} = .ok Shop.models := rfl
  have member : Shop.giftModel ∈ Shop.models.models.toList := by decide
  exact ⟨built, member, by decide,
    buildModels_pairsUp Shop.index {} built member⟩

end EntityLink
