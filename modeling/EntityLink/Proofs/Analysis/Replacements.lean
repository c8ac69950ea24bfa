import EntityLink.Proofs.Analysis.EntitySet

/-!
# Stored names of references

The table of stored names is put together in layers: what fields and getters
say, then the names of holders, then the tables that projections share with the
classes they show.  The last layer takes the place of what stood there before,
so a class that is stored and also shows another one loses the names of its own
holders (`find?_reference_iff`).
-/

namespace EntityLink.ClassIndex

variable {index : ClassIndex} {config : Config}
  {models : Keyed EntityModel EntityModel.path}

/-- The class that a class shows, if it is a projection. -/
def shown? (index : ClassIndex) (path : String) : Option String :=
  (index.get? path).bind ClassDecl.projectionFor

theorem find?_modelMappings {model : EntityModel} (pairsUp : model.PairsUp)
    {reference : Reference} {holder : Holder}
    (related : (reference, holder) ∈ model.relations) :
    (index.modelMappings config model).find? reference.name =
      some holder.name := by
  have distinct : ((model.relations.map fun pair => (pair.1.name,
      pair.2.name)).map Prod.fst).Nodup := by
    rw [List.map_map]
    exact pairsUp.nodup_reference_names
  have listed : (reference.name, holder.name) ∈
      model.relations.map fun pair => (pair.1.name, pair.2.name) :=
    List.mem_map.2 ⟨_, related, rfl⟩
  have found := (lookup_eq_some_iff_of_nodup distinct).2 listed
  exact (Dict.find?_setAll_of_nodup _ distinct _).trans (by
    rw [found, Option.some_or])

theorem find?_entityReplacements_iff {path : String} {mappings : Dict String} :
    (index.entityReplacements config models).find? path = some mappings ↔
      ∃ model ∈ models.toList, model.path = path ∧
        index.modelMappings config model = mappings ∧
        mappings.isEmpty = false := by
  have distinct : (((models.toList.map fun model =>
      (model.path, index.modelMappings config model)).filter fun entry =>
        !entry.2.isEmpty).map Prod.fst).Nodup := by
    refine List.Nodup.sublist (List.filter_sublist.map Prod.fst) ?_
    rw [List.map_map]
    exact models.nodup_keys
  rw [entityReplacements, Dict.find?_setAll_of_nodup _ distinct,
    Dict.find?_empty, Option.or_none, lookup_eq_some_iff_of_nodup distinct,
    List.mem_filter, List.mem_map]
  constructor
  · rintro ⟨⟨model, member, equality⟩, notEmpty⟩
    cases equality
    exact ⟨model, member, rfl, rfl, by simpa using notEmpty⟩
  · rintro ⟨model, member, rfl, rfl, notEmpty⟩
    exact ⟨⟨model, member, rfl⟩, by simpa using notEmpty⟩

/-- A class has the table of its model unless that is empty. -/
theorem find?_entityReplacements_eq (path : String) :
    (index.entityReplacements config models).find? path =
      ((models.get? path).map (index.modelMappings config)).filter
        fun mappings =>
          !mappings.isEmpty := by
  apply Option.ext
  intro mappings
  rw [find?_entityReplacements_iff, Option.filter_eq_some_iff,
    Option.map_eq_some_iff]
  simp only [Keyed.get?_eq_some_iff, Bool.not_eq_true', ← and_assoc,
    exists_and_right]

theorem mem_projectionReplacements_iff {entities : ReplacementMap}
    {path : String} {mappings : Dict String} :
    (path, mappings) ∈ index.projectionReplacements entities ↔
      ∃ target, index.shown? path = some target ∧
        entities.find? target = some mappings := by
  rw [projectionReplacements, List.mem_filterMap]
  constructor
  · rintro ⟨decl, member, entry⟩
    obtain ⟨target, shows, entry⟩ := Option.bind_eq_some_iff.1 entry
    obtain ⟨found, targetFound, equality⟩ := Option.bind_eq_some_iff.1 entry
    cases equality
    refine ⟨target, ?_, targetFound⟩
    rw [shown?, get?_of_mem_toList member, Option.bind_some, shows]
  · rintro ⟨target, shown, targetFound⟩
    obtain ⟨decl, found, shows⟩ := Option.bind_eq_some_iff.1 shown
    obtain ⟨member, rfl⟩ := Keyed.get?_eq_some_iff.1 found
    refine ⟨decl, member, ?_⟩
    simp [shows, targetFound]

theorem nodup_projectionReplacements (index : ClassIndex)
    (entities : ReplacementMap) :
    ((index.projectionReplacements entities).map Prod.fst).Nodup := by
  refine List.Nodup.sublist (fst_sublist_of_filterMap ?_ index.toList)
    index.nodup_keys
  intro decl entry equality
  obtain ⟨target, _, equality⟩ := Option.bind_eq_some_iff.1 equality
  obtain ⟨mappings, _, equality⟩ := Option.bind_eq_some_iff.1 equality
  cases equality
  rfl

/-- A projection has the table of the class that it shows; only where that class
has none, its own table counts. -/
theorem find?_replacements (path : String) :
    (index.replacements config models).find? path =
      ((index.shown? path).bind
        (index.entityReplacements config models).find?).or
        ((index.entityReplacements config models).find? path) := by
  have distinct := nodup_projectionReplacements index
    (index.entityReplacements config models)
  rw [replacements, Dict.find?_setAll_of_nodup _ distinct]
  congr 1
  apply Option.ext
  intro mappings
  rw [lookup_eq_some_iff_of_nodup distinct, mem_projectionReplacements_iff,
    Option.bind_eq_some_iff]

/-- Every class with a relation has a table of stored names.  A reference stands
in it with the name of its holder exactly when it stands so in the table of the
class that its own class shows, if that is an entity class with a table. -/
theorem find?_reference_iff (index : ClassIndex) (config : Config)
    {analysis : Analysis} (analyzed : index.analyze config = .ok analysis)
    {model : EntityModel} (member : model ∈ analysis.models.toList)
    {reference : Reference} {holder : Holder}
    (related : (reference, holder) ∈ model.relations) :
    ∃ mappings, analysis.replacements.find? model.path = some mappings ∧
      (mappings.find? reference.name = some holder.name ↔
        ∀ shown ∈ analysis.models.toList,
          index.shown? model.path = some shown.path →
          (index.modelMappings config shown).isEmpty = false →
          (index.modelMappings config shown).find? reference.name =
            some holder.name) := by
  obtain ⟨_, set, built, rfl⟩ := analyze_ok analyzed
  obtain ⟨_, _, assembled⟩ := exists_assembly built member
  have ownName : (index.modelMappings config model).find? reference.name =
      some holder.name :=
    find?_modelMappings assembled.pairsUp related
  have ownTable :
      (index.entityReplacements config set.models).find? model.path =
      some (index.modelMappings config model) :=
    find?_entityReplacements_iff.2
      ⟨model, member, rfl, rfl, Dict.isEmpty_eq_false_of_find? ownName⟩
  dsimp only
  rw [find?_replacements, ownTable]
  cases shares : (index.shown? model.path).bind
      (index.entityReplacements config set.models).find? with
  | none =>
      refine ⟨_, rfl, fun _ shown shownMember shows notEmpty => ?_,
        fun _ => ownName⟩
      have table :=
        find?_entityReplacements_iff.2 ⟨shown, shownMember, rfl, rfl, notEmpty⟩
      rw [shows, Option.bind_some, table] at shares
      cases shares
  | some mappings =>
      obtain ⟨target, shows, table⟩ := Option.bind_eq_some_iff.1 shares
      obtain ⟨shown, shownMember, rfl, rfl, notEmpty⟩ :=
        find?_entityReplacements_iff.1 table
      refine ⟨_, rfl, fun found other otherMember showsOther _ => ?_, fun all =>
        all shown shownMember shows notEmpty⟩
      have paths : other.path = shown.path :=
        Option.some.inj (showsOther.symm.trans shows)
      have same := Keyed.get?_of_mem otherMember
      rw [paths, Keyed.get?_of_mem shownMember] at same
      rwa [← Option.some.inj same]

end ClassIndex

namespace Billing

def client : ClassDecl where
  path := "app::Client"
  entity := some {}
  fields := [{ name := "id", type := .named "Id", isId := true }]

def order : ClassDecl where
  path := "app::Order"
  entity := some {}
  fields := [{ name := "client", type := .named "app::Client" }]

/-- Is stored itself and shows an order, too. -/
def invoice : ClassDecl where
  path := "app::Invoice"
  entity := some {}
  projectionFor := some "app::Order"
  fields := [
    { name := "client", type := .named "app::Client" },
    { name := "payer", type := .named "app::Client" }]

def index : ClassIndex := .ofList [client, order, invoice]

def analysis : Analysis := (index.analyze {}).toOption.getD default

theorem analyzed : index.analyze {} = .ok analysis :=
  eq_ok_of_isSome (by decide +kernel)

def invoiceModel : EntityModel :=
  (analysis.models.get? invoice.path).getD default

def relation (name : String) : Reference × Holder :=
  (invoiceModel.relations.find? fun pair => pair.1.name == name).getD default

end Billing

/-- An invoice shows an order, whose table has the client as well. -/
theorem ClassIndex.find?_reference_client :
    Billing.index.analyze {} = .ok Billing.analysis ∧
      Billing.invoiceModel ∈ Billing.analysis.models.toList ∧
      Billing.relation "client" ∈ Billing.invoiceModel.relations ∧
      ∃ mappings, Billing.analysis.replacements.find? "app::Invoice" =
          some mappings ∧
        mappings.find? "client" = some "client_id" := by
  have facts : Billing.invoiceModel ∈ Billing.analysis.models.toList ∧
      Billing.invoiceModel.path = "app::Invoice" ∧
      ((Billing.relation "client").1, (Billing.relation "client").2) ∈
        Billing.invoiceModel.relations ∧
      (Billing.relation "client").1.name = "client" ∧
      (Billing.relation "client").2.name = "client_id" ∧
      ∀ shown ∈ Billing.analysis.models.toList,
        Billing.index.shown? Billing.invoiceModel.path = some shown.path →
        (Billing.index.modelMappings {} shown).find? "client" =
          some "client_id" := by
    decide +kernel
  obtain ⟨member, path, related, referenceName, holderName, inTables⟩ := facts
  obtain ⟨mappings, found, listed⟩ :=
    find?_reference_iff Billing.index {} Billing.analyzed member related
  rw [referenceName, holderName] at listed
  rw [path] at found
  exact ⟨Billing.analyzed, member, related, mappings, found,
    listed.2 fun shown shownMember shows _ => inTables shown shownMember shows⟩

/-- The payer of an invoice is lost: the invoice has the table of an order. -/
theorem ClassIndex.find?_reference_not_always :
    ¬∀ (index : ClassIndex) (config : Config) (analysis : Analysis),
      index.analyze config = .ok analysis → ∀ model ∈ analysis.models.toList,
        ∀ pair ∈ model.relations,
          (analysis.replacements.find? model.path).bind (fun mappings =>
            mappings.find? pair.1.name) = some pair.2.name := by
  intro always
  have facts : Billing.invoiceModel ∈ Billing.analysis.models.toList ∧
      Billing.relation "payer" ∈ Billing.invoiceModel.relations ∧
      (Billing.analysis.replacements.find? Billing.invoiceModel.path).bind
        (fun mappings => mappings.find? (Billing.relation "payer").1.name) =
          none := by
    decide +kernel
  obtain ⟨member, related, lost⟩ := facts
  have stored :=
    always Billing.index {} Billing.analysis Billing.analyzed _ member _ related
  rw [lost] at stored
  cases stored

end EntityLink
