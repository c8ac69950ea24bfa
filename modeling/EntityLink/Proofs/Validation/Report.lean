import EntityLink.Proofs.Class.Subclasses
import EntityLink.Proofs.ErrorTree.Gathering
import EntityLink.Proofs.Validation.Violations

/-!
# The report on an index

`faults` lists what is wrong with a class in the order of its report, in terms
of what the class extends and which fields it has.  The checks go through the
index twice and add what they find to one tree; the tree they end with gathers
the faults of each class below its path, so it is empty exactly when every class
is free of them (`violations_exact`).
-/

namespace EntityLink

namespace ClassIndex

variable {index : ClassIndex} {config : Config} {decl : ClassDecl}

theorem exists_get?_of_hasField {path name : String}
    (has : index.hasField config path name = true) :
    ∃ decl, index.get? path = some decl := by
  rw [hasField, Bool.or_eq_true, Bool.and_eq_true, isSubclassOf_iff] at has
  rcases has with declared | ⟨_, _, identified⟩
  · obtain ⟨found, lookup⟩ := Option.isSome_iff_exists.1 declared
    obtain ⟨decl, indexed, _⟩ := Option.bind_eq_some_iff.1 lookup
    exact ⟨decl, indexed⟩
  · exact exists_get?_of_extends identified

theorem hasField_of_keyField {path name : String}
    (keyField : index.KeyField config path name) :
    index.hasField config path name = true := by
  rw [hasField, Bool.or_eq_true, Bool.and_eq_true, beq_iff_eq, isSubclassOf_iff]
  cases keyField with
  | conventional named notBase identified =>
      exact .inr ⟨named, notBase, identified⟩
  | @declared owner field indexed inherited member named =>
      left
      obtain ⟨decl, found⟩ : ∃ decl, index.get? path = some decl := by
        rcases inherited with rfl | reached
        · exact ⟨owner, indexed⟩
        · exact exists_get?_of_extends reached
      obtain rfl : decl.path = path := Keyed.key_of_get? found
      have inChain : owner ∈ index.chain config.rootType decl := by
        rcases inherited with same | reached
        · exact List.mem_cons.2 (.inl (eq_of_path_eq indexed found same))
        · exact List.mem_cons_of_mem _
            (mem_ancestors_iff_extends.2 ⟨indexed, reached⟩)
      rw [fieldInChain?_eq found, ← Option.ne_none_iff_isSome, Ne,
        declarationIn?_eq_none]
      intro undeclared
      have notNamed :=
        List.find?_eq_none.1 (undeclared owner inChain) field member
      simp [named] at notNamed

/-- The fields that a key of a database index may name are those that the check
finds. -/
theorem keyField_iff {path name : String} :
    index.KeyField config path name ↔
      index.hasField config path name = true := by
  refine ⟨hasField_of_keyField, fun has => ?_⟩
  obtain ⟨decl, found⟩ := exists_get?_of_hasField has
  obtain rfl : decl.path = path := Keyed.key_of_get? found
  exact keyField_of_hasField found has

instance {path name : String} : Decidable (index.KeyField config path name) :=
  decidable_of_iff' _ keyField_iff

/-- A class has the conventional identifier if it extends the identified
base. -/
def Identified (index : ClassIndex) (config : Config) (path : String) : Prop :=
  path ≠ config.identifiedBase ∧
    index.Extends config.rootType path config.identifiedBase

instance {path : String} : Decidable (index.Identified config path) :=
  decidable_of_iff _ isSubclassOf_iff

def secondIdentifier (config : Config) (field : FieldDecl) : Violation :=
  .secondIdentifier field.name config.identifiedBase config.conventionalId.field

def identifierFaults (index : ClassIndex) (config : Config) (decl : ClassDecl) :
    List Violation :=
  if index.Identified config decl.path then
    (decl.fields.filter FieldDecl.isId).map (secondIdentifier config)
  else []

/-- What is wrong with a database index of a class: that it has no keys, and
keys that name no field. -/
def specFaults (index : ClassIndex) (config : Config) (decl : ClassDecl)
    (spec : IndexSpec) : List Violation :=
  (if spec.keys = [] then [.indexWithoutKeys spec] else []) ++
    (spec.keys.filter fun key => ¬index.KeyField config decl.path key.field).map
      fun key =>
        .unknownKey spec key.field

/-- What is wrong with a class, in the order of its report. -/
def faults (index : ClassIndex) (config : Config) (decl : ClassDecl) :
    List Violation :=
  index.identifierFaults config decl ++
    match decl.entity with
    | none => []
    | some marker =>
        (if ∃ name ∈ marker.collection,
            Text.isBlank name = true then [.blankCollection]
          else []) ++
          marker.indexes.flatMap (index.specFaults config decl)

structure FaultFree (index : ClassIndex) (config : Config) (decl : ClassDecl) :
    Prop where
  identifiers : index.Identified config decl.path →
    ∀ field ∈ decl.fields, field.isId = false
  collection : ∀ marker, decl.entity = some marker →
    ∀ name, marker.collection = some name → Text.isBlank name = false
  keyed : ∀ marker, decl.entity = some marker →
    ∀ spec ∈ marker.indexes, spec.keys ≠ []
  keyFields : ∀ marker, decl.entity = some marker → ∀ spec ∈ marker.indexes,
    ∀ key ∈ spec.keys, index.KeyField config decl.path key.field

theorem identifierFaults_eq_nil_iff :
    index.identifierFaults config decl = [] ↔
      (index.Identified config decl.path →
        ∀ field ∈ decl.fields, field.isId = false) := by
  unfold identifierFaults
  split
  next identified => simp [identified]
  next notIdentified => simp [notIdentified]

theorem specFaults_eq_nil_iff {spec : IndexSpec} :
    index.specFaults config decl spec = [] ↔
      spec.keys ≠ [] ∧
        ∀ key ∈ spec.keys, index.KeyField config decl.path key.field := by
  simp [specFaults]

theorem faults_eq_nil_iff :
    index.faults config decl = [] ↔ index.FaultFree config decl := by
  rw [faults, List.append_eq_nil_iff, identifierFaults_eq_nil_iff]
  cases marked : decl.entity with
  | none =>
      constructor
      · rintro ⟨identifiers, _⟩
        exact ⟨identifiers, by simp [marked], by simp [marked],
          by simp [marked]⟩
      · intro faultFree
        exact ⟨faultFree.identifiers, rfl⟩
  | some marker =>
      rw [List.append_eq_nil_iff, List.flatMap_eq_nil_iff]
      simp only [specFaults_eq_nil_iff]
      constructor
      · rintro ⟨identifiers, collection, specs⟩
        constructor
        case identifiers => exact identifiers
        case collection => simpa [marked] using collection
        case keyed =>
          rintro _ equal spec listed
          cases marked.symm.trans equal
          exact (specs spec listed).1
        case keyFields =>
          rintro _ equal spec listed
          cases marked.symm.trans equal
          exact (specs spec listed).2
      · intro faultFree
        refine ⟨faultFree.identifiers, ?_, fun spec listed => ?_⟩
        · simpa using faultFree.collection marker marked
        · exact ⟨faultFree.keyed marker marked spec listed,
            faultFree.keyFields marker marked spec listed⟩

theorem specViolations_eq_specFaults (spec : IndexSpec) :
    index.specViolations config decl spec =
      index.specFaults config decl spec := by
  simp [specViolations, specFaults, keyField_iff]

theorem faults_eq :
    index.faults config decl =
      index.identifierFaults config decl ++
        index.classViolations config decl := by
  rw [faults, classViolations]
  cases decl.entity with
  | none => rfl
  | some marker =>
      have specs :
          index.specViolations config decl = index.specFaults config decl :=
        funext specViolations_eq_specFaults
      rw [Option.map_some, Option.getD_some, markerViolations, specs]
      cases named : marker.collection with
      | none => simp [named]
      | some name => simp [named]

/-- The messages of faults of a class, each with the path of the class. -/
def report (decl : ClassDecl) (faults : List Violation) :
    List (String × String) :=
  (faults.map Violation.message).map (decl.path, ·)

theorem path_mem_keys (member : decl ∈ index.toList) : decl.path ∈ index.keys :=
  List.mem_map_of_mem member

theorem duplicateIdentifiers_eq :
    (index.duplicateIdentifiers config).flatMap (fun pair =>
        report pair.1 [secondIdentifier config pair.2]) =
      (index.knownSubclasses config.rootType config.identifiedBase).flatMap
        fun decl =>
          report decl (index.identifierFaults config decl) := by
  rw [duplicateIdentifiers, List.flatMap_assoc]
  refine List.flatMap_congr fun decl known => ?_
  have identified : index.Identified config decl.path :=
    isSubclassOf_iff.1 (mem_knownSubclasses_iff.1 known).2
  rw [identifierFaults, if_pos identified, List.flatMap_map, report,
    List.map_map, List.map_map, List.map_eq_flatMap]
  rfl

theorem identifierViolations_gather (items : List (String × String)) :
    index.identifierViolations config (.gather index.keys items) =
      .gather index.keys (items ++
        (index.knownSubclasses config.rootType config.identifiedBase).flatMap
          fun decl =>
            report decl (index.identifierFaults config decl)) := by
  rw [← duplicateIdentifiers_eq]
  refine ErrorTree.foldl_gather (fun pair member items => ?_) items
  obtain ⟨known, knownMember, paired⟩ := List.mem_flatMap.1 member
  obtain ⟨field, _, rfl⟩ := List.mem_map.1 paired
  exact ErrorTree.addFor_gather index.pairwise_keys
    (path_mem_keys (List.mem_of_mem_filter knownMember)) items _

theorem entityViolations_gather (items : List (String × String)) :
    index.entityViolations config (.gather index.keys items) =
      .gather index.keys (items ++ index.toList.flatMap fun decl =>
        report decl (index.classViolations config decl)) := by
  refine ErrorTree.foldl_gather (fun decl member items => ?_) items
  cases marked : decl.entity with
  | none => simp [classViolations, marked, report]
  | some marker =>
      dsimp only
      rw [ErrorTree.empty, ErrorTree.foldl_add, List.nil_append,
        ErrorTree.mergeFor_gather index.pairwise_keys (path_mem_keys member),
        classViolations, marked, Option.map_some, Option.getD_some, report]

theorem filter_path_toList (member : decl ∈ index.toList) :
    (index.toList.filter fun other => other.path == decl.path) = [decl] := by
  rw [Keyed.filter_key_toList, Keyed.get?_of_mem member, Option.toList_some]

theorem filter_path_knownSubclasses (member : decl ∈ index.toList) :
    ((index.knownSubclasses config.rootType config.identifiedBase).filter
      fun other =>
        other.path == decl.path) =
      if index.Identified config decl.path then [decl] else [] := by
  have isSubclass_iff : index.isSubclassOf config.rootType decl.path
        config.identifiedBase = true ↔
      index.Identified config decl.path := isSubclassOf_iff
  rw [knownSubclasses, List.filter_comm, filter_path_toList member,
    List.filter_singleton, Bool.cond_eq_ite]
  simp only [isSubclass_iff]

theorem messagesFor_path (member : decl ∈ index.toList) :
    ErrorTree.messagesFor
        ((index.knownSubclasses config.rootType config.identifiedBase).flatMap
          (fun decl =>
            report decl (index.identifierFaults config decl)) ++
          index.toList.flatMap fun decl =>
            report decl (index.classViolations config decl))
        decl.path =
      (index.faults config decl).map Violation.message := by
  have identifiers : ErrorTree.messagesFor
      ((index.knownSubclasses config.rootType config.identifiedBase).flatMap
        fun decl =>
          report decl (index.identifierFaults config decl)) decl.path =
      (index.identifierFaults config decl).map Violation.message := by
    refine (ErrorTree.messagesFor_flatMap ClassDecl.path _ _ _).trans ?_
    rw [filter_path_knownSubclasses member]
    split
    next => simp
    next notIdentified => simp [identifierFaults, notIdentified]
  have markers : ErrorTree.messagesFor
      (index.toList.flatMap fun decl =>
        report decl (index.classViolations config decl)) decl.path =
      (index.classViolations config decl).map Violation.message := by
    refine (ErrorTree.messagesFor_flatMap ClassDecl.path _ _ _).trans ?_
    rw [filter_path_toList member, List.flatMap_singleton]
  rw [ErrorTree.messagesFor_append, identifiers, markers, faults_eq,
    List.map_append]

theorem flatten_violations (index : ClassIndex) (config : Config) :
    (index.violations config).flatten =
      index.toList.flatMap fun decl =>
        report decl (index.faults config decl) := by
  rw [violations, ← ErrorTree.gather_nil index.keys,
    identifierViolations_gather, entityViolations_gather, List.nil_append,
    ErrorTree.flatten_gather, Keyed.keys, List.flatMap_map]
  refine List.flatMap_congr fun decl member => ?_
  rw [messagesFor_path member, report]

/-- The checks of an index find nothing exactly when every class is free of
faults, and the messages that they list are those of the faults of each class,
under its path. -/
theorem violations_exact (index : ClassIndex) (config : Config) :
    ((index.violations config).isEmpty = true ↔
      ∀ decl ∈ index.toList, index.FaultFree config decl) ∧
    (index.violations config).flatten = index.toList.flatMap fun decl =>
      (index.faults config decl).map fun fault =>
        (decl.path, fault.message) := by
  have listed := flatten_violations index config
  constructor
  · rw [ErrorTree.isEmpty_iff_flatten_eq_nil, listed, List.flatMap_eq_nil_iff]
    simp only [report, List.map_eq_nil_iff, faults_eq_nil_iff]
  · rw [listed]
    simp only [report, List.map_map, Function.comp_def]

end ClassIndex

namespace Library

/-- Everything is wrong with the loans: a second identifier, a blank collection,
an index without keys and one whose first key names no field. -/
def loan : ClassDecl where
  path := "app::Loan"
  superclass := some "app::Record"
  entity := some {
    collection := some " "
    indexes := [
      { keys := [] },
      { keys := [{ field := "due" }, { field := "made" },
        { field := "id" }] }] }
  fields := [{ name := "number", type := .named "Number", isId := true }]

def record : ClassDecl where
  path := "app::Record"
  superclass := some "refsync::Entity"
  fields := [{ name := "made", type := .named "Date" }]

end Library

example :
    (ClassIndex.violations
      (.ofList [Library.loan, Library.record]) {}).flatten = [
        ("app::Loan", "field 'number' is marked as identifier but " ++
          "'refsync::Entity' already provides 'id'"),
        ("app::Loan", "collection name must not be empty"),
        ("app::Loan", "index () has no keys"),
        ("app::Loan",
          "index (due Asc, made Asc, id Asc) names unknown field 'due'")] := by
  decide +kernel

end EntityLink
