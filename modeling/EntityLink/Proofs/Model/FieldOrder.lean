import EntityLink.Proofs.Model.HolderDeclaration

/-!
# The order of the fields of a model

The names of a model stand in the order in which the classes of its lineage
first add them, so a field that is declared again keeps its ancestor's slot
(`Assembled.names_eq`).  In the class that declares a reference, a holder for
which nobody declares a field comes right behind it (`exists_pair`).  Whether it
stands there in the model too depends on the slots that the ancestors of that
class have taken before (`Follows`).
-/

namespace EntityLink

namespace EntityModel

/-- Lists names where they first come up, behind the names that are listed
already. -/
def extendNames (listed : List String) (names : List String) : List String :=
  names.foldl (fun listed name => if name ∈ listed then listed
    else listed ++ [name]) listed

variable {listed : List String}

theorem extendNames_cons_of_mem {name : String} (member : name ∈ listed)
    (names : List String) :
    extendNames listed (name :: names) = extendNames listed names := by
  simp [extendNames, member]

theorem extendNames_cons_of_not_mem {name : String} (absent : name ∉ listed)
    (names : List String) :
    extendNames listed (name :: names) =
      extendNames (listed ++ [name]) names := by
  simp [extendNames, absent]

theorem extendNames_append (listed names later : List String) :
    extendNames listed (names ++ later) =
      extendNames (extendNames listed names) later :=
  List.foldl_append

/-- The names listed so far keep their places, and only those not among them are
added. -/
theorem exists_extendNames_eq (listed names : List String) :
    ∃ added, extendNames listed names = listed ++ added ∧
      ∀ name, name ∈ added ↔ name ∈ names ∧ name ∉ listed := by
  induction names generalizing listed with
  | nil => exact ⟨[], by simp [extendNames], by simp⟩
  | cons first names induction =>
      by_cases member : first ∈ listed
      · obtain ⟨added, equality, mem_added⟩ := induction listed
        refine ⟨added,
          (extendNames_cons_of_mem member names).trans equality, ?_⟩
        intro name
        rw [mem_added, List.mem_cons]
        constructor
        · rintro ⟨later, absent⟩
          exact ⟨.inr later, absent⟩
        · rintro ⟨rfl | later, absent⟩
          · exact absurd member absent
          · exact ⟨later, absent⟩
      · obtain ⟨added, equality, mem_added⟩ := induction (listed ++ [first])
        refine ⟨first :: added, ?_, ?_⟩
        · rw [extendNames_cons_of_not_mem member, equality, List.append_assoc,
            List.singleton_append]
        · intro name
          by_cases same : name = first
          · simp [same, member]
          · simp [mem_added, same]

theorem idxOf_extendNames {name : String} (member : name ∈ listed)
    (names : List String) :
    (extendNames listed names).idxOf name = listed.idxOf name := by
  obtain ⟨added, equality, _⟩ := exists_extendNames_eq listed names
  rw [equality, List.idxOf_append_of_mem member]

/-- A name gets the slot that it has already or, like a name that is not listed,
the next one. -/
theorem idxOf_extendNames_cons (name : String) (later : List String) :
    (extendNames listed (name :: later)).idxOf name = listed.idxOf name := by
  by_cases member : name ∈ listed
  · rw [extendNames_cons_of_mem member, idxOf_extendNames member]
  · rw [extendNames_cons_of_not_mem member, idxOf_extendNames (by simp),
      List.idxOf_append_of_notMem member, List.idxOf_cons_self,
      List.idxOf_of_notMem member, Nat.add_zero]

theorem idxOf_extendNames_cons_cons {first second : String}
    (different : first ≠ second) (later : List String) :
    (extendNames listed (first :: second :: later)).idxOf second =
      if second ∉ listed ∧ first ∉ listed then listed.length + 1
      else listed.idxOf second := by
  by_cases firstMember : first ∈ listed
  · rw [extendNames_cons_of_mem firstMember, idxOf_extendNames_cons,
      if_neg (by simp [firstMember])]
  · rw [extendNames_cons_of_not_mem firstMember, idxOf_extendNames_cons]
    by_cases secondMember : second ∈ listed
    · rw [if_neg (by simp [secondMember]),
        List.idxOf_append_of_mem secondMember]
    · rw [if_pos ⟨secondMember, firstMember⟩,
        List.idxOf_append_of_notMem secondMember,
        List.idxOf_of_notMem (by simpa using different.symm),
        List.length_singleton]

/-- Of two names that come one right after the other, the second gets the slot
behind the first's if both are new, if their slots lie so already, or if the
first has the last slot so far. -/
theorem idxOf_extendNames_iff {before : List String} {first second : String}
    (different : first ≠ second) (firstNew : first ∉ before)
    (secondNew : second ∉ before) (later : List String) :
    (extendNames listed (before ++ first :: second :: later)).idxOf second =
          (extendNames listed
            (before ++ first :: second :: later)).idxOf first + 1 ↔
      (first ∉ listed ∧ second ∉ listed) ∨
      (second ∈ listed ∧ listed.idxOf second = listed.idxOf first + 1) ∨
      (second ∉ listed ∧ listed.idxOf first + 1 = listed.length ∧
        ∀ name ∈ before, name ∈ listed) := by
  obtain ⟨added, equality, mem_added⟩ := exists_extendNames_eq listed before
  have firstNotAdded : first ∉ added :=
    fun member => firstNew ((mem_added first).1 member).1
  have secondNotAdded : second ∉ added :=
    fun member => secondNew ((mem_added second).1 member).1
  have nothingAdded : (∀ name ∈ before, name ∈ listed) ↔ added.length = 0 := by
    rw [List.length_eq_zero_iff, List.eq_nil_iff_forall_not_mem]
    simp [mem_added]
  rw [extendNames_append, equality, idxOf_extendNames_cons_cons different,
    idxOf_extendNames_cons, nothingAdded]
  by_cases firstListed : first ∈ listed
  · have firstPlace : listed.idxOf first < listed.length :=
      List.idxOf_lt_length_of_mem firstListed
    rw [List.idxOf_append_of_mem firstListed, if_neg (by simp [firstListed])]
    by_cases secondListed : second ∈ listed
    · simp [firstListed, secondListed, List.idxOf_append_of_mem]
    · rw [List.idxOf_of_notMem (by simp [secondListed, secondNotAdded]),
        List.length_append]
      simp only [firstListed, secondListed, not_true_eq_false,
        not_false_eq_true, false_and, true_and, false_or]
      omega
  · have firstPlace :
        (listed ++ added).idxOf first = listed.length + added.length := by
      rw [List.idxOf_of_notMem (by simp [firstListed, firstNotAdded]),
        List.length_append]
    have unlistedPlace : listed.idxOf first = listed.length :=
      List.idxOf_of_notMem firstListed
    by_cases secondListed : second ∈ listed
    · have secondPlace : listed.idxOf second < listed.length :=
        List.idxOf_lt_length_of_mem secondListed
      rw [if_neg (by simp [secondListed]),
        List.idxOf_append_of_mem secondListed]
      simp only [firstListed, secondListed, not_true_eq_false,
        not_false_eq_true, and_false, true_and, false_and, false_or, or_false]
      omega
    · simp [firstListed, secondListed, firstNotAdded, secondNotAdded]

theorem names_insertAll (model : EntityModel) (fields : List ModelField) :
    (model.insertAll fields).names =
      extendNames model.names (fields.map ModelField.name) := by
  induction fields generalizing model with
  | nil => rfl
  | cons field fields induction =>
      have step : model.insertAll (field :: fields) =
          (model.insert field).insertAll fields := rfl
      have inserted : (model.insert field).names =
          if field.name ∈ model.names then model.names
          else model.names ++ [field.name] :=
        map_name_place field model.fields
      rw [step, induction, inserted, List.map_cons, extendNames, extendNames,
        List.foldl_cons]

theorem names_insertLevels (model : EntityModel)
    (levels : List (List ModelField)) :
    (model.insertLevels levels).names =
      extendNames model.names (levels.flatten.map ModelField.name) := by
  induction levels generalizing model with
  | nil => rfl
  | cons fields levels induction =>
      have step : model.insertLevels (fields :: levels) =
          (model.insertAll fields).insertLevels levels := rfl
      rw [step, induction, names_insertAll, List.flatten_cons, List.map_append,
        extendNames_append]

end EntityModel

namespace ClassIndex

variable {index : ClassIndex} {config : Config} {decl : ClassDecl}
  {model : EntityModel}

/-- The fields that a class adds to a model; none if they cannot be resolved. -/
def addedFields (index : ClassIndex) (config : Config) (link : ClassDecl) :
    List ModelField :=
  (index.resolveClass config link).toOption.getD []

theorem addedFields_eq {link : ClassDecl} {fields : List ModelField}
    (resolved : index.resolveClass config link = .ok fields) :
    index.addedFields config link = fields := by
  simp [addedFields, resolved, Except.toOption]

/-- The names of the fields that the classes of a chain add, from the last class
to the first, each where it first comes up. -/
def addedNames (index : ClassIndex) (config : Config) (links : List ClassDecl) :
    List String :=
  EntityModel.extendNames []
    ((links.reverse.flatMap (index.addedFields config)).map ModelField.name)

theorem addedNames_append (lower upper : List ClassDecl) :
    index.addedNames config (lower ++ upper) =
      EntityModel.extendNames (index.addedNames config upper)
        ((lower.reverse.flatMap (index.addedFields config)).map
          ModelField.name) := by
  rw [addedNames, List.reverse_append, List.flatMap_append, List.map_append,
    EntityModel.extendNames_append, addedNames]

/-- A model lists its fields in the order in which their names first come up. -/
theorem Assembled.names_eq (assembled : Assembled index config decl model) :
    model.names =
      index.addedNames config (index.chain config.rootType decl) := by
  obtain ⟨levels, related, rfl⟩ := assembled.levels
  have added : levels.map id = (index.lineage config.rootType decl).map
      (index.addedFields config) := by
    refine map_eq_map_of_forall₂ ?_ related
    intro link fields resolved
    exact (addedFields_eq resolved).symm
  rw [List.map_id] at added
  rw [EntityModel.names_insertLevels, added, addedNames,
    ← lineage_eq_reverse_chain, List.flatMap_def]
  rfl

variable {bound : List BoundReference} {reference : Reference}

/-- The reference of a declared field with its holder behind it, where the class
declares no field for the holder. -/
theorem modelFieldsOf_eq_pair (facts : Bound index config decl bound)
    {field : FieldDecl}
    (member : .reference reference ∈ modelFieldsOf bound field)
    (undeclared : ∀ declared ∈ decl.fields,
      declared.name ≠ reference.holderName) :
    modelFieldsOf bound field =
      [.reference reference, .holder reference.holder] := by
  have fieldRole := role bound field
  generalize modelFieldsOf bound field = added at member fieldRole
  cases fieldRole with
  | holder => simp at member
  | leftOut => cases member
  | plain => simp at member
  | @reference link _ _ first =>
      have linkMember : link ∈ bound := List.mem_of_find?_eq_some first
      obtain rfl : reference = link.reference := by
        rcases List.mem_cons.1 member with same | ownHolder
        · exact ModelField.reference.inj same
        · split at ownHolder
          · cases ownHolder
          · simp at ownHolder
      have noDeclaration : link.declaresHolder = false := by
        rw [← Bool.not_eq_true]
        intro declares
        obtain ⟨declared, declaredMember, named⟩ :=
          facts.holderDeclared link linkMember declares
        exact undeclared declared declaredMember named
      simp [noDeclaration]

/-- A declared field stands for the holder of a reference only together with the
reference, where the class declares no field for the holder. -/
theorem mem_of_holder_mem (facts : Bound index config decl bound)
    {field : FieldDecl} (fieldMember : field ∈ decl.fields)
    (referenceMember : .reference reference ∈ fieldsOf bound decl)
    (undeclared : ∀ declared ∈ decl.fields,
      declared.name ≠ reference.holderName)
    (member : .holder reference.holder ∈ modelFieldsOf bound field) :
    .reference reference ∈ modelFieldsOf bound field := by
  have fieldRole := role bound field
  generalize modelFieldsOf bound field = added at member fieldRole
  cases fieldRole with
  | @holder link linkMember named =>
      have sameHolder := ModelField.holder.inj (List.mem_singleton.1 member)
      have sameName : reference.holderName = link.reference.holderName :=
        congrArg Holder.name sameHolder
      exact absurd (named.symm.trans sameName.symm)
        (undeclared field fieldMember)
  | leftOut => cases member
  | plain => simp at member
  | @reference link _ _ first =>
      have linkMember : link ∈ bound := List.mem_of_find?_eq_some first
      have sameName : link.reference.holderName = reference.holderName := by
        rcases List.mem_cons.1 member with isReference | ownHolder
        · cases isReference
        · split at ownHolder
          · cases ownHolder
          · have sameHolder :=
              ModelField.holder.inj (List.mem_singleton.1 ownHolder)
            exact (congrArg Holder.name sameHolder).symm
      cases entry_of_mem referenceMember with
      | @reference other otherFirst =>
          have otherMember : other ∈ bound :=
            List.mem_of_find?_eq_some otherFirst
          rw [facts.unique link linkMember other otherMember sameName.symm]
          exact List.mem_cons_self

/-- What a class lists up to a reference for whose holder it declares no field:
nothing of either name, then the reference and its holder. -/
theorem exists_pair (facts : Bound index config decl bound)
    (member : .reference reference ∈ fieldsOf bound decl)
    (undeclared : ∀ declared ∈ decl.fields,
      declared.name ≠ reference.holderName) :
    ∃ before after,
      fieldsOf bound decl =
        before ++ .reference reference :: .holder reference.holder :: after ∧
      ∀ earlier ∈ before,
        earlier.name ≠ reference.name ∧
          earlier.name ≠ reference.holderName := by
  obtain ⟨origin, originMember, inOrigin⟩ := mem_fieldsOf.1 member
  have found : (decl.fields.find? fun field =>
      decide (.reference reference ∈ modelFieldsOf bound field)).isSome := by
    rw [List.find?_isSome]
    exact ⟨origin, originMember, decide_eq_true inOrigin⟩
  obtain ⟨field, first⟩ := Option.isSome_iff_exists.1 found
  obtain ⟨inField, earlier, later, split, notEarlier⟩ :=
    List.find?_eq_some_iff_append.1 first
  have pair :=
    modelFieldsOf_eq_pair facts (of_decide_eq_true inField) undeclared
  refine ⟨earlier.flatMap (modelFieldsOf bound),
    later.flatMap (modelFieldsOf bound), ?_, ?_⟩
  · rw [fieldsOf, split, List.flatMap_append, List.flatMap_cons, pair]
    rfl
  · intro kind kindMember
    obtain ⟨source, sourceMember, inSource⟩ := List.mem_flatMap.1 kindMember
    have sourceDeclared : source ∈ decl.fields := by
      rw [split]
      exact List.mem_append_left _ sourceMember
    have kindAdded : kind ∈ fieldsOf bound decl :=
      mem_fieldsOf.2 ⟨source, sourceDeclared, inSource⟩
    have absent : .reference reference ∉ modelFieldsOf bound source := by
      simpa using notEarlier source sourceMember
    constructor
    · intro named
      rw [facts.classFields.eq_reference reference member kind kindAdded named]
        at inSource
      exact absent inSource
    · intro named
      have holderMember := facts.holder_mem member
      rw [facts.classFields.eq_holder _ holderMember kind kindAdded named]
        at inSource
      exact absent
        (mem_of_holder_mem facts sourceDeclared member undeclared inSource)

/-- The classes of a chain above the one with a path. -/
def above (index : ClassIndex) (root : String) (decl : ClassDecl)
    (path : String) : List ClassDecl :=
  ((index.chain root decl).dropWhile fun link => link.path != path).tail

theorem above_eq {root : String} {lower upper : List ClassDecl}
    {link : ClassDecl} (split : index.chain root decl = lower ++ link :: upper)
    (elsewhere : ∀ other ∈ lower, other.path ≠ link.path) :
    index.above root decl link.path = upper := by
  have dropped : ∀ other ∈ lower, (other.path != link.path) = true := by
    intro other member
    simpa using elsewhere other member
  rw [above, split, List.dropWhile_append_of_pos dropped,
    List.dropWhile_cons_of_neg (by simp), List.tail_cons]

/-- The nearest class of the chain that adds a reference of a model. -/
theorem Assembled.exists_split (assembled : Assembled index config decl model)
    (member : .reference reference ∈ model.fields) :
    ∃ lower link upper fields,
      index.chain config.rootType decl = lower ++ link :: upper ∧
      (∀ other ∈ lower, other.path ≠ link.path) ∧
      index.resolveClass config link = .ok fields ∧
      .reference reference ∈ fields := by
  have found := (assembled.get?_eq reference.name).symm.trans
    (EntityModel.mem_fields_iff.1 member)
  obtain ⟨lower, link, upper, split, added, notLower⟩ :=
    List.findSome?_eq_some_iff.1 found
  have linkMember : link ∈ index.chain config.rootType decl := by
    rw [split]
    simp
  obtain ⟨fields, resolved, _⟩ := assembled.exists_fields linkMember
  refine ⟨lower, link, upper, fields, split, ?_, resolved, ?_⟩
  · intro other otherMember paths
    have otherInChain : other ∈ index.chain config.rootType decl := by
      rw [split]
      exact List.mem_append_left _ otherMember
    have same := eq_of_path_eq (assembled.indexed_of_mem otherInChain)
      (assembled.indexed_of_mem linkMember) paths
    have addsNone := notLower other otherMember
    rw [same, added] at addsNone
    cases addsNone
  · rw [addition?_of_resolveClass resolved] at added
    exact (EntityModel.lastNamed?_eq_some added).1

/-- A class whose reference adopts no declaration for its holder declares none
itself. -/
theorem ClassFields.not_declared {fields : List ModelField}
    (facts : ClassFields index config decl fields)
    (indexed : index.get? decl.path = some decl)
    (member : .reference reference ∈ fields)
    (notAdopted : reference.isHolderDeclared = false) :
    ∀ declared ∈ decl.fields, declared.name ≠ reference.holderName := by
  have noDeclaration : decl.field? reference.holderName = none := by
    cases own : decl.field? reference.holderName with
    | none => rfl
    | some declared =>
        have nearest := fieldInChain?_of_field? config.rootType indexed own
        have adopted :=
          (facts.adopted reference member decl declared nearest).2.2
        rw [notAdopted] at adopted
        cases adopted
  intro declared declaredMember
  simpa using List.find?_eq_none.1 noDeclaration declared declaredMember

/-- The reference and its holder in what a class adds, where nobody declares a
field for the holder. -/
theorem exists_pair_of_resolveClass {fields : List ModelField}
    (indexed : index.get? decl.path = some decl)
    (resolved : index.resolveClass config decl = .ok fields)
    (member : .reference reference ∈ fields)
    (notAdopted : reference.isHolderDeclared = false) :
    ∃ before after,
      fields = before ++ .reference reference ::
        .holder reference.holder :: after ∧
      ∀ earlier ∈ before,
        earlier.name ≠ reference.name ∧
          earlier.name ≠ reference.holderName := by
  have facts := classFields_of_resolveClass indexed resolved
  have undeclared := facts.not_declared indexed member notAdopted
  obtain ⟨references, bound, collected, holdersBound, rfl⟩ :=
    resolveClass_ok resolved
  have boundFacts :=
    bound_of_mapM indexed (collectReferences_ok collected) holdersBound
  exact exists_pair boundFacts member undeclared

/-- How the slot of a holder comes to lie right behind that of its reference,
given the names that the ancestors of the reference's class add and the fields
that this class adds. -/
inductive Follows (inherited : List String) (own : List ModelField)
    (reference : Reference) : Prop where
  /-- Both slots are new. -/
  | bothNew (name : reference.name ∉ inherited)
      (holder : reference.holderName ∉ inherited)
  /-- Both slots are inherited. -/
  | bothInherited (holder : reference.holderName ∈ inherited)
      (next : inherited.idxOf reference.holderName =
        inherited.idxOf reference.name + 1)
  /-- The reference takes over the last inherited slot, and nothing new comes
  before it. -/
  | lastInherited (holder : reference.holderName ∉ inherited)
      (last : inherited.idxOf reference.name + 1 = inherited.length)
      (nothingNew :
        ∀ field ∈ own.takeWhile fun field => field.name != reference.name,
          field.name ∈ inherited)

theorem follows_iff {inherited : List String} {own : List ModelField} :
    Follows inherited own reference ↔
      (reference.name ∉ inherited ∧ reference.holderName ∉ inherited) ∨
      (reference.holderName ∈ inherited ∧
        inherited.idxOf reference.holderName =
          inherited.idxOf reference.name + 1) ∨
      (reference.holderName ∉ inherited ∧
        inherited.idxOf reference.name + 1 = inherited.length ∧
        ∀ field ∈ own.takeWhile fun field => field.name != reference.name,
          field.name ∈ inherited) := by
  constructor
  · intro follows
    cases follows with
    | bothNew name holder => exact .inl ⟨name, holder⟩
    | bothInherited holder next => exact .inr (.inl ⟨holder, next⟩)
    | lastInherited holder last nothingNew =>
        exact .inr (.inr ⟨holder, last, nothingNew⟩)
  · rintro (⟨name, holder⟩ | ⟨holder, next⟩ | ⟨holder, last, nothingNew⟩)
    · exact .bothNew name holder
    · exact .bothInherited holder next
    · exact .lastInherited holder last nothingNew

/-- A class that adds a reference and its holder decides by the slots taken
before it where the holder comes to stand. -/
theorem idxOf_iff_follows {inherited : List String}
    {own before after : List ModelField}
    (pair : own = before ++ .reference reference ::
      .holder reference.holder :: after)
    (apart : ∀ earlier ∈ before,
      earlier.name ≠ reference.name ∧ earlier.name ≠ reference.holderName)
    (different : reference.name ≠ reference.holderName) (later : List String) :
    let names := EntityModel.extendNames inherited
      (before.map ModelField.name ++ reference.name ::
        reference.holderName :: later)
    names.idxOf reference.holderName = names.idxOf reference.name + 1 ↔
      Follows inherited own reference := by
  have ownBefore :
      own.takeWhile (fun field => field.name != reference.name) = before := by
    have skipped : ∀ field ∈ before, (field.name != reference.name) = true := by
      intro field member
      simpa using (apart field member).1
    rw [pair, List.takeWhile_append_of_pos skipped,
      List.takeWhile_cons_of_neg (by simp [ModelField.name]), List.append_nil]
  rw [follows_iff, ownBefore, ← List.forall_mem_map]
  apply EntityModel.idxOf_extendNames_iff different
  · simpa using fun field member => (apart field member).1
  · simpa using fun field member => (apart field member).2

/-- The names that a chain adds, parted where one of its classes adds a
reference and its holder. -/
theorem addedNames_eq_of_pair (lower upper : List ClassDecl) {link : ClassDecl}
    {before after : List ModelField}
    (pair : index.addedFields config link =
      before ++ .reference reference :: .holder reference.holder :: after) :
    ∃ later, index.addedNames config (lower ++ link :: upper) =
      EntityModel.extendNames (index.addedNames config upper)
        (before.map ModelField.name ++ reference.name :: reference.holderName ::
          later) := by
  refine ⟨after.map ModelField.name ++
    (lower.reverse.flatMap (index.addedFields config)).map ModelField.name, ?_⟩
  rw [List.append_cons, addedNames_append, List.reverse_append,
    List.reverse_singleton, List.singleton_append, List.flatMap_cons, pair]
  simp [ModelField.name, Reference.holder]

/-- A holder for which nobody declares a field, in the class that declares its
reference and in the model. -/
theorem Assembled.exists_follows_iff
    (assembled : Assembled index config decl model) {holder : Holder}
    (related : (reference, holder) ∈ model.relations)
    (notAdopted : reference.isHolderDeclared = false) :
    ∃ link fields, link ∈ index.chain config.rootType decl ∧
      link.path = reference.declaredIn ∧
      index.resolveClass config link = .ok fields ∧
      [.reference reference, .holder holder] <:+: fields ∧
      (model.names.idxOf holder.name = model.names.idxOf reference.name + 1 ↔
        Follows
          (index.addedNames config
            (index.above config.rootType decl link.path))
          fields reference) := by
  obtain ⟨referenceMember, rfl⟩ := assembled.pairsUp.of_mem_relations related
  obtain ⟨lower, link, upper, fields, split, elsewhere, resolved, added⟩ :=
    assembled.exists_split referenceMember
  have linkMember : link ∈ index.chain config.rootType decl := by
    rw [split]
    simp
  have linkIndexed := assembled.indexed_of_mem linkMember
  have facts := classFields_of_resolveClass linkIndexed resolved
  obtain ⟨before, after, pair, apart⟩ :=
    exists_pair_of_resolveClass linkIndexed resolved added notAdopted
  have holderMember : .holder reference.holder ∈ model.fields :=
    (EntityModel.get?_eq_some_iff.1
      (assembled.pairsUp.holdersFound reference referenceMember)).1
  have different : reference.name ≠ reference.holderName :=
    assembled.pairsUp.separate reference reference.holder referenceMember
      holderMember
  refine ⟨link, fields, linkMember, (facts.declaredIn reference added).symm,
    resolved, ⟨before, after, by simp [pair]⟩, ?_⟩
  obtain ⟨later, names⟩ :=
    addedNames_eq_of_pair lower upper ((addedFields_eq resolved).trans pair)
  rw [assembled.names_eq, above_eq split elsewhere, split, names]
  exact idxOf_iff_follows pair apart different later

/-- Every model lists its fields in the order in which the classes of its
chain, the last one first, come to add their names.  A holder for which nobody
declares a field comes right behind its reference in the class that declares
the reference; in the model it stands there exactly when the names that the
ancestors of that class add leave room for it. -/
theorem idxOf_holder_iff (index : ClassIndex) (config : Config)
    {set : ModelSet} (built : index.buildModels config = .ok set)
    {model : EntityModel} (member : model ∈ set.models.toList) :
    ∃ decl, index.get? model.path = some decl ∧
      model.names =
        index.addedNames config (index.chain config.rootType decl) ∧
      ∀ reference holder, (reference, holder) ∈ model.relations →
        reference.isHolderDeclared = false →
        ∃ link fields, link ∈ index.chain config.rootType decl ∧
          link.path = reference.declaredIn ∧
          index.resolveClass config link = .ok fields ∧
          [.reference reference, .holder holder] <:+: fields ∧
          (model.names.idxOf holder.name =
              model.names.idxOf reference.name + 1 ↔
            Follows
              (index.addedNames config
                (index.above config.rootType decl link.path))
              fields reference) := by
  obtain ⟨decl, _, assembled⟩ := exists_assembly built member
  refine ⟨decl, assembled.path ▸ assembled.indexed, assembled.names_eq, ?_⟩
  intro reference holder related notAdopted
  exact assembled.exists_follows_iff related notAdopted

end ClassIndex

namespace Courier

def person : ClassDecl where
  path := "app::Person"
  entity := some {}
  fields := [{ name := "id", type := .named "Id", isId := true }]

/-- Has plain texts where its subclasses have persons. -/
def delivery : ClassDecl where
  path := "app::Delivery"
  entity := some {}
  fields := [
    { name := "sender", type := .named "String" },
    { name := "note", type := .named "String" },
    { name := "receiver", type := .named "String" }]

/-- Takes over the last slot of its superclass. -/
def parcel : ClassDecl where
  path := "app::Parcel"
  superclass := some "app::Delivery"
  entity := some {}
  fields := [
    { name := "note", type := .named "String" },
    { name := "receiver", type := .named "app::Person" },
    { name := "weight", type := .primitive "u32" }]

/-- Takes over the first slot of its superclass. -/
def letter : ClassDecl where
  path := "app::Letter"
  superclass := some "app::Delivery"
  entity := some {}
  fields := [{ name := "sender", type := .named "app::Person" }]

def index : ClassIndex := .ofList [person, delivery, parcel, letter]

def models : ModelSet := (index.buildModels {}).toOption.getD default

def model (decl : ClassDecl) : EntityModel :=
  (models.models.get? decl.path).getD default

def relation (decl : ClassDecl) : Reference × Holder :=
  (model decl).relations.headD default

end Courier

/-- The holder of the receiver comes behind the last of the slots that a parcel
inherits. -/
theorem ClassIndex.idxOf_holder_iff_receiver :
    Courier.index.buildModels {} = .ok Courier.models ∧
      Courier.model Courier.parcel ∈ Courier.models.models.toList ∧
      Courier.relation Courier.parcel ∈
        (Courier.model Courier.parcel).relations ∧
      (Courier.relation Courier.parcel).1.isHolderDeclared = false ∧
      (Courier.model Courier.parcel).names =
        Courier.index.addedNames {} [Courier.parcel, Courier.delivery] ∧
      (Courier.model Courier.parcel).names =
        ["sender", "note", "receiver", "receiver_id", "weight"] ∧
      Follows (Courier.index.addedNames {} [Courier.delivery])
        (Courier.index.addedFields {} Courier.parcel)
        (Courier.relation Courier.parcel).1 := by
  have built : Courier.index.buildModels {} = .ok Courier.models := rfl
  have member :
      Courier.model Courier.parcel ∈ Courier.models.models.toList := by
    decide
  have related :
      Courier.relation Courier.parcel ∈
        (Courier.model Courier.parcel).relations := by
    decide
  have notAdopted :
      (Courier.relation Courier.parcel).1.isHolderDeclared = false := by
    decide
  have chain :
      Courier.index.chain ({} : Config).rootType Courier.parcel =
        [Courier.parcel, Courier.delivery] := by
    decide
  have upper :
      Courier.index.above ({} : Config).rootType Courier.parcel
        Courier.parcel.path = [Courier.delivery] := by
    decide
  obtain ⟨decl, indexed, names, follows⟩ :=
    idxOf_holder_iff Courier.index {} built member
  obtain rfl : Courier.parcel = decl := Option.some.inj indexed
  obtain ⟨link, fields, linkMember, declaredIn, resolved, _, behind_iff⟩ :=
    follows _ _ related notAdopted
  rw [chain] at names linkMember
  refine ⟨built, member, related, notAdopted, names, by decide, ?_⟩
  rcases List.mem_pair.1 linkMember with rfl | rfl
  · rw [upper, ← addedFields_eq resolved] at behind_iff
    exact behind_iff.1 (by decide)
  · exact absurd declaredIn (by decide)

/-- A letter has the slots of its superclass between the sender and the sender's
holder. -/
theorem ClassIndex.idxOf_holder_not_always :
    ¬∀ (index : ClassIndex) (config : Config) (set : ModelSet),
      index.buildModels config = .ok set →
        ∀ model ∈ set.models.toList, ∀ reference holder,
        (reference, holder) ∈ model.relations →
        reference.isHolderDeclared = false →
        model.names.idxOf holder.name =
          model.names.idxOf reference.name + 1 := by
  intro always
  have behind :=
    always Courier.index {} Courier.models rfl (Courier.model Courier.letter)
      (by decide) (Courier.relation Courier.letter).1
      (Courier.relation Courier.letter).2 (by decide) (by decide)
  exact absurd behind (by decide)

end EntityLink
