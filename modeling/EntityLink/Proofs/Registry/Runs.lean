import EntityLink.Registry
import EntityLink.Store.Scan

/-!
# Runs of operations on the published registry

What the published registry answers depends on what happened before, and on
nothing else.  `publications` reads off a history which registries were
published since the last teardown, and `Answered` says the answers in these
terms.  `Follows` relates a session to its history and is kept by every
operation, so `run_answered` has the answer at each place of a run.
-/

namespace EntityLink.Registry

/-- An operation and its answer. -/
structure Event where
  operation : Operation
  answer : Answer
  deriving DecidableEq

namespace Event

def isTeardown : Event → Bool
  | ⟨.teardown, _⟩ => true
  | _ => false

/-- The registry that a publish brought in, unless it was refused. -/
def published? : Event → Option Registry
  | ⟨.publish registry, .registry _⟩ => some registry
  | _ => none

def snapshot? (event : Event) : Option Registry :=
  event.answer.snapshot?

end Event

/-- What happened after the last teardown, or everything if there was none. -/
def sinceTeardown (history : List Event) : List Event :=
  (history.reverse.takeWhile fun event => !event.isTeardown).reverse

/-- The registries that were published since the last teardown, the latest one
at the end. -/
def publications (history : List Event) : List Registry :=
  (sinceTeardown history).filterMap Event.published?

theorem publications_concat (history : List Event) (event : Event) :
    publications (history ++ [event]) =
      if event.isTeardown then []
      else publications history ++ event.published?.toList := by
  cases teardown : event.isTeardown with
  | true => simp [publications, sinceTeardown, teardown]
  | false =>
      cases published : event.published? with
      | none => simp [publications, sinceTeardown, teardown, published]
      | some registry => simp [publications, sinceTeardown, teardown, published]

/-- How operations are answered after these publications: a publish is refused
exactly if there is one, and who reads learns about the latest one. -/
inductive Answered (published : List Registry) : Operation → Answer → Prop
  | publish {registry : Registry} (first : published = []) :
      Answered published (.publish registry) (.registry registry)
  | publish_refused {registry : Registry} (again : published ≠ []) :
      Answered published (.publish registry) (.refused .alreadyPublished)
  | snapshot {registry : Registry}
      (latest : published.getLast? = some registry) :
      Answered published .snapshot (.registry registry)
  | snapshot_refused (first : published = []) :
      Answered published .snapshot (.refused .notPublished)
  | isPublished (again : published ≠ []) :
      Answered published .isPublished (.truth true)
  | isPublished_not (first : published = []) :
      Answered published .isPublished (.truth false)
  | storedName {registry : Registry} {path property : String}
      (latest : published.getLast? = some registry) :
      Answered published (.storedName path property)
        (.name (registry.storedName path property))
  | storedName_refused {path property : String} (first : published = []) :
      Answered published (.storedName path property) (.refused .notPublished)
  | entityClasses {registry : Registry}
      (latest : published.getLast? = some registry) :
      Answered published .entityClasses (.classes registry.entityClasses)
  | entityClasses_refused (first : published = []) :
      Answered published .entityClasses (.refused .notPublished)
  | teardown : Answered published .teardown .done

theorem Answered.unique {published : List Registry} {operation : Operation}
    {answer other : Answer} (answered : Answered published operation answer)
    (otherwise : Answered published operation other) :
    answer = other := by
  cases answered <;> cases otherwise <;> simp_all

namespace Session

/-- What happens when operations are asked one after another. -/
def events (session : Session) : List Operation → List Event
  | [] => []
  | operation :: operations =>
      ⟨operation, (session.perform operation).1⟩ ::
        (session.perform operation).2.events operations

/-- What remains when operations were asked one after another. -/
def after (session : Session) : List Operation → Session
  | [] => session
  | operation :: operations => (session.perform operation).2.after operations

/-- A session that has been through a history: at most one registry was
published since the last teardown, and it is the one in the slot. -/
structure Follows (session : Session) (history : List Event) : Prop where
  slot : publications history = session.slot.toList
  snapshots : session.snapshots = history.filterMap Event.snapshot?

variable {session : Session} {history : List Event}

theorem Follows.answered (follows : session.Follows history)
    (operation : Operation) :
    Answered (publications history) operation
      (session.perform operation).1 := by
  rw [follows.slot]
  obtain ⟨slot, snapshots⟩ := session
  cases slot with
  | none =>
      cases operation with
      | publish registry => exact .publish rfl
      | snapshot => exact .snapshot_refused rfl
      | isPublished => exact .isPublished_not rfl
      | storedName path property => exact .storedName_refused rfl
      | entityClasses => exact .entityClasses_refused rfl
      | teardown => exact .teardown
  | some published =>
      have someRegistry : (some published).toList ≠ [] := List.cons_ne_nil _ _
      cases operation with
      | publish registry => exact .publish_refused someRegistry
      | snapshot => exact .snapshot rfl
      | isPublished => exact .isPublished someRegistry
      | storedName path property => exact .storedName rfl
      | entityClasses => exact .entityClasses rfl
      | teardown => exact .teardown

theorem Follows.perform (follows : session.Follows history)
    (operation : Operation) :
    (session.perform operation).2.Follows
      (history ++ [⟨operation, (session.perform operation).1⟩]) where
  slot := by
    rw [publications_concat, follows.slot]
    obtain ⟨slot, snapshots⟩ := session
    cases operation with
    | publish registry =>
        cases slot with
        | none => rfl
        | some published => rfl
    | teardown => rfl
    | snapshot | isPublished | storedName | entityClasses =>
        exact List.append_nil _
  snapshots := by
    rw [List.filterMap_append, ← follows.snapshots]
    rfl

theorem Follows.after (follows : session.Follows history)
    (operations : List Operation) :
    (session.after operations).Follows
      (history ++ session.events operations) := by
  induction operations generalizing session history with
  | nil => simpa [Session.after, events] using follows
  | cons operation operations induction =>
      have performed := induction (follows.perform operation)
      rwa [List.append_assoc] at performed

example :
    (events {} [.publish Store.registry, .publish {},
        .storedName "store::Order" "customer", .teardown, .snapshot,
        .publish {}, .storedName "store::Order" "customer"]).map Event.answer =
      [.registry Store.registry, .refused .alreadyPublished,
        .name "customer_id", .done, .refused .notPublished, .registry {},
        .name "customer"] := by
  decide +kernel

end Session

end EntityLink.Registry
