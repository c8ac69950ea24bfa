import EntityLink.Proofs.Resolution.Binding

/-!
# The fields that a class adds to a model

A declared field stands for a holder, for a reference with or without its
holder, for a plain field or for nothing; `role` says which.  From the roles
follow the properties that make the fields of one class fit together
(`ClassFields`): a reference and its holder come together, both have names of
their own, and a stored field is never passed over.
-/

namespace EntityLink.ClassIndex

variable {index : ClassIndex} {config : Config} {decl : ClassDecl}
  {bound : List BoundReference}

/-- What a declared field stands for, given the references of its class. -/
inductive Role (bound : List BoundReference) (field : FieldDecl) :
    List ModelField → Prop where
  | holder {link : BoundReference} (member : link ∈ bound)
      (named : link.reference.holderName = field.name) :
      Role bound field [.holder link.reference.holder]
  | leftOut (noHolder : ∀ link ∈ bound, link.reference.holderName ≠ field.name)
      (notStored : field.isStored = false) : Role bound field []
  | plain (noHolder : ∀ link ∈ bound, link.reference.holderName ≠ field.name)
      (stored : field.isStored = true)
      (noReference : ∀ link ∈ bound, link.reference.name ≠ field.name) :
      Role bound field [.plain field.name field.type]
  | reference {link : BoundReference}
      (noHolder : ∀ link ∈ bound, link.reference.holderName ≠ field.name)
      (stored : field.isStored = true)
      (first : (bound.find? fun link => link.reference.name == field.name) =
        some link) :
      Role bound field (.reference link.reference ::
        if link.declaresHolder then [] else [.holder link.reference.holder])

theorem role (bound : List BoundReference) (field : FieldDecl) :
    Role bound field (modelFieldsOf bound field) := by
  unfold modelFieldsOf
  split
  next link found =>
    exact .holder (List.mem_of_find?_eq_some found) (by
      simpa using List.find?_some found)
  next notFound =>
    have noHolder : ∀ link ∈ bound, link.reference.holderName ≠ field.name := by
      intro link member
      simpa using List.find?_eq_none.1 notFound link member
    split
    next notStored => exact .leftOut noHolder (by simpa using notStored)
    next stored =>
      have stored : field.isStored = true := by simpa using stored
      split
      next noneFound =>
        apply Role.plain noHolder stored
        intro link member
        simpa using List.find?_eq_none.1 noneFound link member
      next link found =>
        have asReference := Role.reference noHolder stored found
        split
        next declares => rwa [if_pos declares] at asReference
        next declares => rwa [if_neg declares] at asReference

/-- Fields of one class that fit together. -/
structure ClassFields (index : ClassIndex) (config : Config) (decl : ClassDecl)
    (fields : List ModelField) : Prop where
  /-- The holder of a reference is among them. -/
  holder_mem : ∀ reference, .reference reference ∈ fields →
    .holder reference.holder ∈ fields
  /-- The owner of a holder is among them. -/
  owner_mem : ∀ holder, .holder holder ∈ fields →
    ∃ reference,
      .reference reference ∈ fields ∧ reference.name = holder.ownerName
  /-- No other field has the name of a reference. -/
  eq_reference : ∀ reference, .reference reference ∈ fields →
    ∀ field ∈ fields, field.name = reference.name → field = .reference reference
  /-- No other field has the name of a holder. -/
  eq_holder : ∀ holder, .holder holder ∈ fields →
    ∀ field ∈ fields, field.name = holder.name → field = .holder holder
  declaredIn : ∀ reference, .reference reference ∈ fields →
    reference.declaredIn = decl.path
  /-- Every stored field of the class stands for a field of its name. -/
  stored_mem : ∀ field ∈ decl.fields, field.isStored = true →
    ∃ added ∈ fields, added.name = field.name
  /-- A field declared for a holder, by the class or an ancestor, is stored and
  gives its type to the holder. -/
  adopted : ∀ reference, .reference reference ∈ fields → ∀ owner declared,
    index.fieldInChain? config.rootType decl.path reference.holderName =
      some (owner, declared) →
    declared.isStored = true ∧ reference.holderType = declared.type ∧
      reference.isHolderDeclared = true

/-- The fields that the declared fields of a class stand for. -/
def fieldsOf (bound : List BoundReference) (decl : ClassDecl) :
    List ModelField :=
  decl.fields.flatMap (modelFieldsOf bound)

theorem mem_fieldsOf {kind : ModelField} :
    kind ∈ fieldsOf bound decl ↔
      ∃ field ∈ decl.fields, kind ∈ modelFieldsOf bound field :=
  List.mem_flatMap

/-- What a field that a class adds can be, given the references of the class. -/
inductive Entry (bound : List BoundReference) : ModelField → Prop where
  | holder {link : BoundReference} (member : link ∈ bound) :
      Entry bound (.holder link.reference.holder)
  | plain {name : String} {type : TypeRef}
      (noHolder : ∀ link ∈ bound, link.reference.holderName ≠ name)
      (noReference : ∀ link ∈ bound, link.reference.name ≠ name) :
      Entry bound (.plain name type)
  | reference {link : BoundReference}
      (first : (bound.find? fun other => other.reference.name ==
          link.reference.name) =
        some link) :
      Entry bound (.reference link.reference)

theorem entry_of_mem {kind : ModelField} (member : kind ∈ fieldsOf bound decl) :
    Entry bound kind := by
  obtain ⟨field, _, kindMember⟩ := mem_fieldsOf.1 member
  have fieldRole := role bound field
  generalize modelFieldsOf bound field = kinds at kindMember fieldRole
  cases fieldRole with
  | holder linkMember =>
      obtain rfl := List.mem_singleton.1 kindMember
      exact .holder linkMember
  | leftOut => cases kindMember
  | plain noHolder _ noReference =>
      obtain rfl := List.mem_singleton.1 kindMember
      exact .plain noHolder noReference
  | @reference link _ _ first =>
      have named : link.reference.name = field.name := by
        simpa using List.find?_some first
      rcases List.mem_cons.1 kindMember with rfl | ownHolder
      · exact .reference (named ▸ first)
      · split at ownHolder
        · cases ownHolder
        · obtain rfl := List.mem_singleton.1 ownHolder
          exact .holder (List.mem_of_find?_eq_some first)

namespace Bound

theorem eq_holder_of_name (facts : Bound index config decl bound)
    {kind : ModelField} (entry : Entry bound kind) {link : BoundReference}
    (member : link ∈ bound) (named : kind.name = link.reference.holderName) :
    kind = .holder link.reference.holder := by
  cases entry with
  | @holder other otherMember =>
      rw [facts.unique link member other otherMember named]
  | plain noHolder => exact absurd named.symm (noHolder link member)
  | @reference other first =>
      have otherMember : other ∈ bound := List.mem_of_find?_eq_some first
      exact absurd named (facts.disjoint link member other otherMember)

theorem eq_reference_of_name (facts : Bound index config decl bound)
    {kind : ModelField} (entry : Entry bound kind) {link : BoundReference}
    (first : (bound.find? fun other => other.reference.name ==
      link.reference.name) =
      some link) (named : kind.name = link.reference.name) :
    kind = .reference link.reference := by
  have member : link ∈ bound := List.mem_of_find?_eq_some first
  cases entry with
  | @holder other otherMember =>
      exact absurd named.symm (facts.disjoint other otherMember link member)
  | plain _ noReference => exact absurd named.symm (noReference link member)
  | @reference other otherFirst =>
      have otherNamed : other.reference.name = link.reference.name := named
      rw [otherNamed, first] at otherFirst
      cases otherFirst
      rfl

/-- A holder that the class declares itself stands at its declaration, any other
one behind its reference. -/
theorem holder_mem (facts : Bound index config decl bound)
    {reference : Reference}
    (member : .reference reference ∈ fieldsOf bound decl) :
    .holder reference.holder ∈ fieldsOf bound decl := by
  obtain ⟨field, fieldMember, kindMember⟩ := mem_fieldsOf.1 member
  have fieldRole := role bound field
  generalize kindsEquality :
    modelFieldsOf bound field = kinds at kindMember fieldRole
  cases fieldRole with
  | holder => simp at kindMember
  | leftOut => cases kindMember
  | plain => simp at kindMember
  | @reference link _ _ first =>
      obtain rfl : reference = link.reference := by
        rcases List.mem_cons.1 kindMember with same | ownHolder
        · cases same
          rfl
        · split at ownHolder
          · cases ownHolder
          · simp at ownHolder
      have linkMember : link ∈ bound := List.mem_of_find?_eq_some first
      by_cases declares : link.declaresHolder = true
      · obtain ⟨holderField, holderFieldMember, named⟩ :=
          facts.holderDeclared link linkMember declares
        have holderRole := role bound holderField
        generalize holderEquality :
          modelFieldsOf bound holderField = holderKinds at holderRole
        cases holderRole with
        | @holder other otherMember otherNamed =>
            obtain rfl := facts.unique link linkMember other otherMember
              (otherNamed.trans named)
            refine mem_fieldsOf.2 ⟨holderField, holderFieldMember, ?_⟩
            rw [holderEquality]
            exact List.mem_singleton_self _
        | leftOut noHolder => exact absurd named.symm (noHolder link linkMember)
        | plain noHolder => exact absurd named.symm (noHolder link linkMember)
        | reference noHolder =>
            exact absurd named.symm (noHolder link linkMember)
      · refine mem_fieldsOf.2 ⟨field, fieldMember, ?_⟩
        rw [kindsEquality, if_neg declares]
        simp

theorem owner_mem (facts : Bound index config decl bound)
    {link : BoundReference} (member : link ∈ bound) :
    ∃ reference, .reference reference ∈ fieldsOf bound decl ∧
      reference.name = link.reference.name := by
  obtain ⟨field, fieldMember, stored, named⟩ := facts.declared link member
  have fieldRole := role bound field
  generalize kindsEquality : modelFieldsOf bound field = kinds at fieldRole
  cases fieldRole with
  | @holder other otherMember otherNamed =>
      exact absurd (named.symm.trans otherNamed.symm)
        (facts.disjoint other otherMember link member)
  | leftOut _ notStored => simp [stored] at notStored
  | plain _ _ noReference => exact absurd named.symm (noReference link member)
  | @reference first _ _ found =>
      have firstNamed : first.reference.name = field.name := by
        simpa using List.find?_some found
      refine ⟨first.reference, mem_fieldsOf.2 ⟨field, fieldMember, ?_⟩,
        firstNamed.trans named⟩
      rw [kindsEquality]
      exact List.mem_cons_self

theorem stored_mem (bound : List BoundReference) {field : FieldDecl}
    (member : field ∈ decl.fields) (stored : field.isStored = true) :
    ∃ added ∈ fieldsOf bound decl, added.name = field.name := by
  have fieldRole := role bound field
  generalize kindsEquality : modelFieldsOf bound field = kinds at fieldRole
  cases fieldRole with
  | @holder link _ named =>
      refine ⟨.holder link.reference.holder,
        mem_fieldsOf.2 ⟨field, member, ?_⟩, named⟩
      rw [kindsEquality]
      exact List.mem_cons_self
  | leftOut _ notStored => simp [stored] at notStored
  | plain =>
      refine ⟨.plain field.name field.type,
        mem_fieldsOf.2 ⟨field, member, ?_⟩, rfl⟩
      rw [kindsEquality]
      exact List.mem_cons_self
  | @reference link _ _ found =>
      have named : link.reference.name = field.name := by
        simpa using List.find?_some found
      refine ⟨.reference link.reference,
        mem_fieldsOf.2 ⟨field, member, ?_⟩, named⟩
      rw [kindsEquality]
      exact List.mem_cons_self

theorem classFields (facts : Bound index config decl bound) :
    ClassFields index config decl (fieldsOf bound decl) := by
  constructor
  case holder_mem =>
    intro reference member
    exact facts.holder_mem member
  case owner_mem =>
    intro holder member
    cases entry_of_mem member with
    | holder linkMember => exact facts.owner_mem linkMember
  case eq_reference =>
    intro reference member field fieldMember named
    cases entry_of_mem member with
    | reference first =>
        exact facts.eq_reference_of_name (entry_of_mem fieldMember) first named
  case eq_holder =>
    intro holder member field fieldMember named
    cases entry_of_mem member with
    | holder linkMember =>
        exact facts.eq_holder_of_name
          (entry_of_mem fieldMember) linkMember named
  case declaredIn =>
    intro reference member
    cases entry_of_mem member with
    | @reference link first =>
        exact facts.declaredIn link (List.mem_of_find?_eq_some first)
  case stored_mem =>
    intro field member stored
    exact stored_mem bound member stored
  case adopted =>
    intro reference member owner declared found
    cases entry_of_mem member with
    | @reference link first =>
        exact facts.adopted link (List.mem_of_find?_eq_some first) owner
          declared found

end Bound

theorem resolveClass_ok {fields : List ModelField}
    (resolved : index.resolveClass config decl = .ok fields) :
    ∃ references bound, index.collectReferences config decl = .ok references ∧
      references.mapM (index.bindHolder config decl) = .ok bound ∧
      fields = fieldsOf bound decl := by
  rw [resolveClass, except_bind_ok_iff] at resolved
  obtain ⟨references, collected, resolved⟩ := resolved
  obtain ⟨bound, holdersBound, equality⟩ := except_bind_ok_iff.1 resolved
  cases equality
  exact ⟨references, bound, collected, holdersBound, rfl⟩

/-- The fields that a scanned class adds fit together. -/
theorem classFields_of_resolveClass (indexed : index.get? decl.path = some decl)
    {fields : List ModelField}
    (resolved : index.resolveClass config decl = .ok fields) :
    ClassFields index config decl fields := by
  obtain ⟨references, bound, collected, holdersBound, rfl⟩ :=
    resolveClass_ok resolved
  exact (bound_of_mapM indexed (collectReferences_ok collected)
    holdersBound).classFields

end EntityLink.ClassIndex
