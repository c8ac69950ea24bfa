import EntityLink.Proofs.Resolution.ClassFields

/-!
# The order of the fields that a class adds

Where the declared fields of a class have distinct names, each one that is
stored stands for one field of its name and type, in its place, be that a plain
field, a reference or a holder.  All that is added are holders for which the
class declares no field, each right behind its reference (`Place`).  Over the
whole class this makes up a `Layout`.
-/

namespace EntityLink

namespace ClassIndex

variable {index : ClassIndex} {config : Config} {decl : ClassDecl}
  {bound : List BoundReference}

theorem field?_of_mem (distinct : (decl.fields.map FieldDecl.name).Nodup)
    {field : FieldDecl} (member : field ∈ decl.fields) :
    decl.field? field.name = some field := by
  obtain ⟨other, otherMember, sameName, found⟩ :=
    exists_find?_key FieldDecl.name member
  rw [ClassDecl.field?, found,
    List.inj_on_of_nodup_map distinct otherMember member sameName]

/-- What the references of a class with distinct field names have to do with its
fields. -/
structure Anchored (decl : ClassDecl) (bound : List BoundReference) : Prop where
  unique : ∀ link ∈ bound, ∀ other ∈ bound,
    other.reference.name = link.reference.name → other = link
  /-- A reference has the type of the field that it is. -/
  referenceType : ∀ link ∈ bound, ∀ field ∈ decl.fields,
    field.name = link.reference.name → field.type = link.reference.type
  /-- A field that the class declares for a holder is stored and has the type of
  the holder. -/
  holderType : ∀ link ∈ bound, ∀ field ∈ decl.fields,
    field.name = link.reference.holderName →
      field.isStored = true ∧ field.type = link.reference.holderType
  declaresHolder : ∀ link ∈ bound,
    link.declaresHolder = (decl.field? link.reference.holderName).isSome

theorem anchored_of_mapM (indexed : index.get? decl.path = some decl)
    (distinct : (decl.fields.map FieldDecl.name).Nodup)
    {references : List Reference}
    (collected : Collected index config decl references)
    (holdersBound :
      references.mapM (index.bindHolder config decl) = .ok bound) :
    Anchored decl bound := by
  constructor
  case unique =>
    intro link member other otherMember sameName
    obtain ⟨field, _, declares⟩ :=
      exists_declares_of_mapM collected holdersBound member
    obtain ⟨otherField, _, otherDeclares⟩ :=
      exists_declares_of_mapM collected holdersBound otherMember
    rw [declares.name_eq, otherDeclares.name_eq] at sameName
    obtain rfl : otherField = field :=
      List.inj_on_of_nodup_map distinct otherDeclares.field_mem
        declares.field_mem sameName
    exact declares.unique otherDeclares
  case referenceType =>
    intro link member field fieldMember named
    obtain ⟨origin, _, declares⟩ :=
      exists_declares_of_mapM collected holdersBound member
    rw [declares.name_eq] at named
    obtain rfl : field = origin :=
      List.inj_on_of_nodup_map distinct fieldMember declares.field_mem named
    exact declares.type_eq.symm
  case holderType =>
    intro link member field fieldMember named
    have nearest := fieldInChain?_of_field? config.rootType indexed
      (field?_of_mem distinct fieldMember)
    rw [named] at nearest
    have facts := bound_of_mapM indexed collected holdersBound
    obtain ⟨stored, adopted, _⟩ := facts.adopted link member decl field nearest
    exact ⟨stored, adopted.symm⟩
  case declaresHolder =>
    intro link member
    obtain ⟨_, _, declares⟩ :=
      exists_declares_of_mapM collected holdersBound member
    exact declaresHolder_of_bindHolder indexed declares.bound

/-- What a declared field stands for in a class with distinct field names. -/
inductive Place (decl : ClassDecl) (field : FieldDecl) :
    List ModelField → Prop where
  | leftOut (notStored : field.isStored = false) : Place decl field []
  | alone {added : ModelField} (stored : field.isStored = true)
      (named : added.name = field.name) (typed : added.type = field.type) :
      Place decl field [added]
  | followed {reference : Reference} (stored : field.isStored = true)
      (named : reference.name = field.name)
      (typed : reference.type = field.type)
      (undeclared : decl.field? reference.holderName = none) :
      Place decl field [.reference reference, .holder reference.holder]

theorem Anchored.place (anchored : Anchored decl bound) {field : FieldDecl}
    (member : field ∈ decl.fields) :
    Place decl field (modelFieldsOf bound field) := by
  have fieldRole := role bound field
  generalize modelFieldsOf bound field = added at fieldRole
  cases fieldRole with
  | @holder link linkMember named =>
      obtain ⟨stored, typed⟩ :=
        anchored.holderType link linkMember field member named.symm
      exact .alone stored named typed.symm
  | leftOut _ notStored => exact .leftOut notStored
  | plain _ stored => exact .alone stored rfl rfl
  | @reference link _ stored first =>
      have linkMember : link ∈ bound := List.mem_of_find?_eq_some first
      have named : link.reference.name = field.name := by
        simpa using List.find?_some first
      have typed :=
        anchored.referenceType link linkMember field member named.symm
      split
      next => exact .alone stored named typed.symm
      next notDeclared =>
        rw [anchored.declaresHolder link linkMember, Bool.not_eq_true,
          Option.isSome_eq_false_iff, Option.isNone_iff_eq_none] at notDeclared
        exact .followed stored named typed.symm notDeclared

/-- A field of a model is a holder for which the class declares no field. -/
def isAddedHolder (decl : ClassDecl) (field : ModelField) : Bool :=
  field.holder?.isSome && (decl.field? field.name).isNone

theorem isAddedHolder_of_declared {field : ModelField}
    (declared : (decl.field? field.name).isSome) :
    isAddedHolder decl field = false := by
  simp [isAddedHolder, declared]

namespace Place

variable {field : FieldDecl} {added : List ModelField}

theorem map_filter (place : Place decl field added)
    (declared : (decl.field? field.name).isSome) :
    (added.filter fun kind => !isAddedHolder decl kind).map
        (fun kind => (kind.name, kind.type)) =
      if field.isStored then [(field.name, field.type)] else [] := by
  cases place with
  | leftOut notStored => simp [notStored]
  | @alone kind stored named typed =>
      rw [← named] at declared
      simp [stored, isAddedHolder_of_declared declared, named, typed]
  | @followed reference stored named typed undeclared =>
      have notAdded : isAddedHolder decl (.reference reference) = false := rfl
      have holderAdded :
          isAddedHolder decl (.holder reference.holder) = true := by
        simp [isAddedHolder, ModelField.holder?, ModelField.name,
          Reference.holder, undeclared]
      simp [stored, notAdded, holderAdded, ModelField.name, ModelField.type,
        named, typed]

/-- A field has the name of the declared one, or it is the holder behind that
reference. -/
theorem name_eq_or (place : Place decl field added) {kind : ModelField}
    (member : kind ∈ added) :
    kind.name = field.name ∨
      ∃ reference : Reference, kind = .holder reference.holder ∧
        reference.name = field.name ∧ decl.field? kind.name = none := by
  cases place with
  | leftOut => cases member
  | alone _ named =>
      obtain rfl := List.mem_singleton.1 member
      exact .inl named
  | followed _ named _ undeclared =>
      rcases List.mem_cons.1 member with rfl | second
      · exact .inl named
      · obtain rfl := List.mem_singleton.1 second
        exact .inr ⟨_, rfl, named, undeclared⟩

theorem nodup_names (place : Place decl field added)
    (declared : (decl.field? field.name).isSome) :
    (added.map ModelField.name).Nodup := by
  cases place with
  | leftOut => exact List.nodup_nil
  | alone => exact List.nodup_singleton _
  | @followed reference _ named _ undeclared =>
      have different : reference.name ≠ reference.holderName := by
        intro same
        rw [← named, same, undeclared] at declared
        cases declared
      simpa [ModelField.name, Reference.holder] using different

end Place

/-- Fields that a class adds, beside those that it declares. -/
structure Layout (decl : ClassDecl) (fields : List ModelField) : Prop where
  distinct : (fields.map ModelField.name).Nodup
  /-- Without the added holders they are the stored fields of the class. -/
  declared :
    ((fields.filter fun field => !isAddedHolder decl field).map fun field =>
      (field.name, field.type)) =
    (decl.fields.filter FieldDecl.isStored).map fun field =>
      (field.name, field.type)
  /-- An added holder stands right behind its reference. -/
  behind : ∀ holder, .holder holder ∈ fields → decl.field? holder.name = none →
    ∃ reference : Reference, reference.holder = holder ∧
      [.reference reference, .holder holder] <:+: fields
  holder_of_reference : ∀ reference, .reference reference ∈ fields →
    .holder reference.holder ∈ fields ∧
      ∀ holder, .holder holder ∈ fields → holder.ownerName = reference.name →
        holder = reference.holder
  reference_of_holder : ∀ holder, .holder holder ∈ fields →
    ∃ reference, .reference reference ∈ fields ∧ reference.holder = holder ∧
      ∀ other, .reference other ∈ fields → other.holderName = holder.name →
        other = reference

namespace Anchored

theorem mem_reference_iff (anchored : Anchored decl bound)
    (facts : Bound index config decl bound) {reference : Reference} :
    .reference reference ∈ fieldsOf bound decl ↔
      ∃ link ∈ bound, link.reference = reference := by
  constructor
  · intro member
    cases entry_of_mem member with
    | reference first => exact ⟨_, List.mem_of_find?_eq_some first, rfl⟩
  · rintro ⟨link, linkMember, rfl⟩
    obtain ⟨owner, ownerMember, sameName⟩ := facts.owner_mem linkMember
    cases entry_of_mem ownerMember with
    | @reference other first =>
        have otherMember : other ∈ bound := List.mem_of_find?_eq_some first
        obtain rfl := anchored.unique link linkMember other otherMember sameName
        exact ownerMember

theorem mem_holder_iff (anchored : Anchored decl bound)
    (facts : Bound index config decl bound) {holder : Holder} :
    .holder holder ∈ fieldsOf bound decl ↔
      ∃ link ∈ bound, link.reference.holder = holder := by
  constructor
  · intro member
    cases entry_of_mem member with
    | holder linkMember => exact ⟨_, linkMember, rfl⟩
  · rintro ⟨link, linkMember, rfl⟩
    exact facts.holder_mem
      ((anchored.mem_reference_iff facts).2 ⟨link, linkMember, rfl⟩)

theorem map_filter_flatMap (anchored : Anchored decl bound)
    (distinct : (decl.fields.map FieldDecl.name).Nodup)
    {fields : List FieldDecl}
    (declared : ∀ field ∈ fields, field ∈ decl.fields) :
    (((fields.flatMap (modelFieldsOf bound)).filter fun field =>
        !isAddedHolder decl field).map fun field => (field.name, field.type)) =
      (fields.filter FieldDecl.isStored).map fun field =>
        (field.name, field.type) := by
  induction fields with
  | nil => rfl
  | cons field fields induction =>
      have fieldMember := declared field List.mem_cons_self
      have laterDeclared : ∀ later ∈ fields, later ∈ decl.fields := by
        intro later member
        exact declared later (List.mem_cons_of_mem _ member)
      have first := (anchored.place fieldMember).map_filter
        (Option.isSome_of_eq_some (field?_of_mem distinct fieldMember))
      rw [List.flatMap_cons, List.filter_append, List.map_append, first,
        induction laterDeclared]
      cases stored : field.isStored with
      | true => rw [List.filter_cons_of_pos stored, if_pos rfl]; rfl
      | false => rw [List.filter_cons_of_neg (by simp [stored])]; rfl

/-- Fields with different names have no name of a model field in common. -/
theorem disjoint_names (anchored : Anchored decl bound)
    (facts : Bound index config decl bound)
    (distinct : (decl.fields.map FieldDecl.name).Nodup)
    {first second : FieldDecl} (firstMember : first ∈ decl.fields)
    (secondMember : second ∈ decl.fields)
    (different : first.name ≠ second.name) :
    List.Disjoint ((modelFieldsOf bound first).map ModelField.name)
      ((modelFieldsOf bound second).map ModelField.name) := by
  intro name inFirst inSecond
  obtain ⟨left, leftMember, leftNamed⟩ := List.mem_map.1 inFirst
  obtain ⟨right, rightMember, rightNamed⟩ := List.mem_map.1 inSecond
  have sameName : left.name = right.name := leftNamed.trans rightNamed.symm
  have firstFound := field?_of_mem distinct firstMember
  have secondFound := field?_of_mem distinct secondMember
  rcases (anchored.place firstMember).name_eq_or leftMember with
    leftOwn | ⟨leftReference, rfl, leftOwner, leftUndeclared⟩
  · rcases (anchored.place secondMember).name_eq_or rightMember with
      rightOwn | ⟨_, _, _, rightUndeclared⟩
    · exact different (leftOwn.symm.trans (sameName.trans rightOwn))
    · rw [← sameName, leftOwn, firstFound] at rightUndeclared
      cases rightUndeclared
  · rcases (anchored.place secondMember).name_eq_or rightMember with
      rightOwn | ⟨rightReference, rfl, rightOwner, _⟩
    · rw [sameName, rightOwn, secondFound] at leftUndeclared
      cases leftUndeclared
    · have leftInFields := mem_fieldsOf.2 ⟨first, firstMember, leftMember⟩
      have rightInFields := mem_fieldsOf.2 ⟨second, secondMember, rightMember⟩
      have sameHolder :=
        facts.classFields.eq_holder _ rightInFields _ leftInFields sameName
      have sameOwner :=
        congrArg Holder.ownerName (ModelField.holder.inj sameHolder)
      exact different (leftOwner.symm.trans (sameOwner.trans rightOwner))

theorem nodup_names (anchored : Anchored decl bound)
    (facts : Bound index config decl bound)
    (distinct : (decl.fields.map FieldDecl.name).Nodup) :
    ((fieldsOf bound decl).map ModelField.name).Nodup := by
  rw [fieldsOf, List.map_flatMap, List.nodup_flatMap]
  constructor
  · intro field member
    exact (anchored.place member).nodup_names
      (Option.isSome_of_eq_some (field?_of_mem distinct member))
  · apply (List.pairwise_map.1 distinct).imp_of_mem
    intro first second firstMember secondMember different
    exact anchored.disjoint_names facts distinct firstMember
      secondMember different

theorem behind (anchored : Anchored decl bound)
    (distinct : (decl.fields.map FieldDecl.name).Nodup) {holder : Holder}
    (member : .holder holder ∈ fieldsOf bound decl)
    (undeclared : decl.field? holder.name = none) :
    ∃ reference : Reference, reference.holder = holder ∧
      [.reference reference, .holder holder] <:+: fieldsOf bound decl := by
  obtain ⟨field, fieldMember, holderMember⟩ := mem_fieldsOf.1 member
  have inClass : modelFieldsOf bound field <:+: fieldsOf bound decl :=
    List.infix_of_mem_flatten (List.mem_map_of_mem fieldMember)
  have fieldPlace := anchored.place fieldMember
  generalize modelFieldsOf bound field =
    added at holderMember inClass fieldPlace
  cases fieldPlace with
  | leftOut => cases holderMember
  | alone _ named =>
      obtain rfl := List.mem_singleton.1 holderMember
      have found := field?_of_mem distinct fieldMember
      rw [← named, ModelField.name, undeclared] at found
      cases found
  | @followed reference =>
      obtain rfl : reference.holder = holder := by
        simpa [eq_comm] using holderMember
      exact ⟨reference, rfl, inClass⟩

theorem layout (anchored : Anchored decl bound)
    (facts : Bound index config decl bound)
    (distinct : (decl.fields.map FieldDecl.name).Nodup) :
    Layout decl (fieldsOf bound decl) := by
  constructor
  case distinct => exact anchored.nodup_names facts distinct
  case declared =>
    exact anchored.map_filter_flatMap distinct fun _ member => member
  case behind =>
    intro holder member undeclared
    exact anchored.behind distinct member undeclared
  case holder_of_reference =>
    intro reference member
    refine ⟨facts.holder_mem member, ?_⟩
    intro holder holderMember owned
    obtain ⟨link, linkMember, rfl⟩ :=
      (anchored.mem_reference_iff facts).1 member
    obtain ⟨other, otherMember, rfl⟩ :=
      (anchored.mem_holder_iff facts).1 holderMember
    rw [anchored.unique link linkMember other otherMember owned]
  case reference_of_holder =>
    intro holder member
    obtain ⟨link, linkMember, rfl⟩ := (anchored.mem_holder_iff facts).1 member
    refine ⟨link.reference,
      (anchored.mem_reference_iff facts).2 ⟨link, linkMember, rfl⟩, rfl, ?_⟩
    intro reference referenceMember named
    obtain ⟨other, otherMember, rfl⟩ :=
      (anchored.mem_reference_iff facts).1 referenceMember
    rw [facts.unique link linkMember other otherMember named]

end Anchored

/-- The fields that a class of the index adds are laid out as the class declares
them, if the names of its fields are distinct. -/
theorem resolveClass_layout (index : ClassIndex) (config : Config)
    {decl : ClassDecl} (indexed : index.get? decl.path = some decl)
    (distinct : (decl.fields.map FieldDecl.name).Nodup)
    {fields : List ModelField}
    (resolved : index.resolveClass config decl = .ok fields) :
    Layout decl fields := by
  obtain ⟨references, bound, collected, holdersBound, rfl⟩ :=
    resolveClass_ok resolved
  have facts := collectReferences_ok collected
  exact (anchored_of_mapM indexed distinct facts holdersBound).layout
    (bound_of_mapM indexed facts holdersBound) distinct

end ClassIndex

namespace Voyage

def harbour : ClassDecl where
  path := "app::Harbour"
  entity := some {}
  fields := [{ name := "code", type := .named "Code", isId := true }]

/-- Declares a field for a holder of its subclass. -/
def trip : ClassDecl where
  path := "app::Trip"
  fields := [{ name := "origin_id", type := .named "Code" }]

/-- Declares one of its three holders, before the reference, and two fields that
are not stored. -/
def voyage : ClassDecl where
  path := "app::Voyage"
  superclass := some "app::Trip"
  entity := some {}
  fields := [
    { name := "goal_id", type := .named "Code" },
    { name := "origin", type := .named "app::Harbour" },
    { name := "fleet", type := .named "Fleet", isStatic := true },
    { name := "title", type := .named "String" },
    { name := "goal", type := .named "app::Harbour" },
    { name := "draft", type := .named "app::Harbour", isIgnored := true },
    { name := "stops", type := .parameterized "Vec" [.named "app::Harbour"] }]

def index : ClassIndex := .ofList [harbour, trip, voyage]

def fields : List ModelField := (index.resolveClass {} voyage).toOption.getD []

end Voyage

theorem ClassIndex.resolveClass_layout_voyage :
    Voyage.index.get? Voyage.voyage.path = some Voyage.voyage ∧
      (Voyage.voyage.fields.map FieldDecl.name).Nodup ∧
      Voyage.index.resolveClass {} Voyage.voyage = .ok Voyage.fields ∧
      Voyage.fields.map ModelField.name =
        ["goal_id", "origin", "origin_id", "title", "goal", "stops",
          "stops_id"] ∧
      Layout Voyage.voyage Voyage.fields := by
  have indexed :
      Voyage.index.get? Voyage.voyage.path = some Voyage.voyage := by decide
  have distinct : (Voyage.voyage.fields.map FieldDecl.name).Nodup := by decide
  have resolved :
      Voyage.index.resolveClass {} Voyage.voyage = .ok Voyage.fields := by rfl
  exact ⟨indexed, distinct, resolved, by decide,
    resolveClass_layout Voyage.index {} indexed distinct resolved⟩

end EntityLink
