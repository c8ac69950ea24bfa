import EntityLink.IndexCreation
import EntityLink.Proofs.Analysis.EntitySet
import EntityLink.Proofs.Validation.Violations

/-!
# Keys of catalogued database indexes

An index of a class has no keys, or one that names no field: the analysis looks
for both, and the creation of indexes looks for the first again.  After a
successful analysis the second look finds nothing, whatever the driver answers
(`ensureIndexes_ne_emptyKeys`).
-/

namespace EntityLink

section Creation

variable {σ ε : Type}

theorem exists_indexKeys {spec : IndexSpec} (keyed : spec.keys ≠ []) :
    ∃ keys, spec.indexKeys? = some keys := by
  unfold IndexSpec.indexKeys?
  split
  next unkeyed => exact absurd unkeyed keyed
  next key _ => exact ⟨.single key, rfl⟩
  next => exact ⟨.compound spec.keys, rfl⟩

/-- The creation of indexes that have keys ends with all of them, unless the
driver fails at one. -/
theorem createIndexes_of_keyed (driver : Driver σ ε) (created : Nat)
    {items : List (CatalogEntry × IndexSpec)}
    (keyed : ∀ item ∈ items, item.2.keys ≠ []) (state : σ) :
    (createIndexes driver created items state).1 =
        .ok (created + items.length) ∨
      ∃ item ∈ items, ∃ cause : ε,
        (createIndexes driver created items state).1 =
          .error (.failed item.1.collection item.2 cause) := by
  induction items generalizing created state with
  | nil => exact .inl rfl
  | cons item rest induction =>
      obtain ⟨entity, spec⟩ := item
      obtain ⟨keys, keysFound⟩ :=
        exists_indexKeys (keyed (entity, spec) List.mem_cons_self)
      simp only [createIndexes, keysFound]
      split
      next cause _ _ =>
        exact .inr ⟨(entity, spec), List.mem_cons_self, cause, rfl⟩
      next state _ =>
        have restKeyed : ∀ item ∈ rest, item.2.keys ≠ [] := fun item member =>
          keyed item (List.mem_cons_of_mem _ member)
        rcases induction (created + 1) restKeyed state with
          allCreated | ⟨failed, member, cause, failure⟩
        · left
          rw [allCreated, List.length_cons, Nat.add_right_comm, Nat.add_assoc]
        · exact .inr ⟨failed, List.mem_cons_of_mem _ member, cause, failure⟩

end Creation

namespace ClassIndex

variable {index : ClassIndex} {config : Config}

theorem indexes_catalogEntry (decl : ClassDecl) :
    decl.catalogEntry.indexes =
      (decl.entity.map EntityMarker.indexes).getD [] := by
  unfold ClassDecl.catalogEntry
  cases decl.entity <;> rfl

/-- A class of a valid index has nothing wrong with any of its database
indexes. -/
theorem specViolations_eq_nil_of_valid (valid : index.obstacle? config = none)
    {decl : ClassDecl} (member : decl ∈ index.toList) {spec : IndexSpec}
    (listed : spec ∈ decl.catalogEntry.indexes) :
    index.specViolations config decl spec = [] := by
  have noViolation := (obstacle?_eq_none_iff.1 valid).2.2 decl member
  rw [indexes_catalogEntry] at listed
  unfold classViolations at noViolation
  cases marked : decl.entity with
  | none => simp [marked] at listed
  | some marker =>
      rw [marked] at listed noViolation
      exact (markerViolations_eq_nil_iff.1 noViolation).2 spec listed

/-- After a successful analysis each index of the catalog has keys and they all
name fields, so the creation of the indexes finds none without keys. -/
theorem ensureIndexes_ne_emptyKeys (index : ClassIndex) (config : Config)
    {analysis : Analysis} (analyzed : index.analyze config = .ok analysis) :
    (∀ entry ∈ analysis.catalog, ∀ spec ∈ entry.indexes,
      spec.keys ≠ [] ∧
        ∀ key ∈ spec.keys, index.KeyField config entry.path key.field) ∧
    ∀ {σ ε : Type} (driver : Driver σ ε) (state : σ) (collection : String),
      (ensureIndexes driver (Registry.ofAnalysis analysis).entities state).1 ≠
        .error (.emptyKeys collection) := by
  obtain ⟨valid, set, _, rfl⟩ := analyze_ok analyzed
  have catalogued :
      ∀ entry ∈ (index.entityClasses config).map ClassDecl.catalogEntry,
      ∀ spec ∈ entry.indexes,
        spec.keys ≠ [] ∧
          ∀ key ∈ spec.keys, index.KeyField config entry.path key.field := by
    intro entry entryMember spec listed
    obtain ⟨decl, declMember, rfl⟩ := List.mem_map.1 entryMember
    have member : decl ∈ index.toList := (List.mem_filter.1 declMember).1
    obtain ⟨keyed, named⟩ :=
      specViolations_eq_nil_iff.1
        (specViolations_eq_nil_of_valid valid member listed)
    refine ⟨keyed, fun key keyMember => ?_⟩
    rw [path_catalogEntry]
    exact keyField_of_hasField (get?_of_mem_toList member) (named key keyMember)
  refine ⟨catalogued, fun driver state collection unkeyed => ?_⟩
  have keyed : ∀ item ∈ catalogIndexes ((index.entityClasses config).map
      ClassDecl.catalogEntry),
      item.2.keys ≠ [] := by
    intro item itemMember
    obtain ⟨entry, entryMember, paired⟩ := List.mem_flatMap.1 itemMember
    obtain ⟨spec, listed, rfl⟩ := List.mem_map.1 paired
    exact (catalogued entry entryMember spec listed).1
  rcases createIndexes_of_keyed driver 0 keyed state with allCreated
    | ⟨item, _, cause, failure⟩
  · exact nomatch allCreated.symm.trans unkeyed
  · exact nomatch failure.symm.trans unkeyed

end ClassIndex

namespace Archive

/-- A kind of stored papers, found by the conventional identifier and by a field
of an ancestor. -/
def letter : ClassDecl where
  path := "app::Letter"
  superclass := some "app::Paper"
  entity := some {
    indexes := [
      { keys := [{ field := "id" }], unique := true },
      { keys := [{ field := "filed", direction := .descending },
        { field := "sender" }] }] }
  fields := [{ name := "sender", type := .named "String" }]

def paper : ClassDecl where
  path := "app::Paper"
  superclass := some "refsync::Entity"
  fields := [{ name := "filed", type := .named "i64" }]

def index : ClassIndex := .ofList [letter, paper]

def analysis : Analysis := (index.analyze {}).toOption.getD default

theorem analyzed : index.analyze {} = .ok analysis :=
  eq_ok_of_isSome (by decide +kernel)

/-- A driver that fails from its second call on. -/
def driver : Driver Nat String := fun _ calls =>
  (if calls = 0 then .ok () else .error "refused", calls + 1)

end Archive

/-- The letters of an archive have two indexes, and creation stops at the
second. -/
theorem ClassIndex.ensureIndexes_ne_emptyKeys_archive :
    Archive.index.analyze {} = .ok Archive.analysis ∧
      Archive.letter.catalogEntry ∈ Archive.analysis.catalog ∧
      (∀ spec ∈ Archive.letter.catalogEntry.indexes, ∀ key ∈ spec.keys,
        Archive.index.KeyField {} "app::Letter" key.field) ∧
      (ensureIndexes Archive.driver
          (Registry.ofAnalysis Archive.analysis).entities 0).1.toOption =
        none ∧
      ∀ collection, (ensureIndexes Archive.driver
        (Registry.ofAnalysis Archive.analysis).entities 0).1 ≠
          .error (.emptyKeys collection) := by
  have facts : Archive.letter.catalogEntry ∈ Archive.analysis.catalog ∧
      (ensureIndexes Archive.driver
        (Registry.ofAnalysis Archive.analysis).entities
        0).1.toOption = none := by
    decide +kernel
  obtain ⟨catalogued, ends⟩ := facts
  obtain ⟨named, created⟩ :=
    ensureIndexes_ne_emptyKeys Archive.index {} Archive.analyzed
  refine ⟨Archive.analyzed, catalogued, fun spec listed => ?_, ends,
    fun collection => ?_⟩
  · exact (named _ catalogued spec listed).2
  · exact created Archive.driver 0 collection

end EntityLink
