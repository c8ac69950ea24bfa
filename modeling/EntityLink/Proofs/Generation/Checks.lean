import EntityLink.Proofs.Failures
import EntityLink.Proofs.Generation.Stages

/-!
# Names and paths checked on the way to code

Code is written of names and paths that come from the scan, and each of them is
checked where it comes up.  `ClassIndex.codeChecks` lists them in order.  Once
the classes are analysed, a generation fails where the first of them fails and
nowhere else (`failsAt_generate`); `generate_error` says all that can go wrong
in one.
-/

namespace EntityLink

open Code

/-- A text that is checked before it becomes code. -/
inductive Check where
  | name (text : String)
  | path (text : String)

/-- How the check of a text fails, if it does. -/
def Check.failure? : Check → Option GenerationFailure
  | .name text => EntityLink.failure? (identifier text)
  | .path text => EntityLink.failure? (Path.code text)

/-- A computation fails where the first of its checks fails, and nowhere
else. -/
def FailsAt {α : Type} (checks : List Check)
    (outcome : Except GenerationFailure α) : Prop :=
  failure? outcome = checks.findSome? Check.failure?

namespace FailsAt

variable {α β : Type} {checks later : List Check}
  {outcome : Except GenerationFailure α} {next : α → Except GenerationFailure β}

theorem ok (value : α) : FailsAt [] (.ok value) := rfl

theorem bind (first : FailsAt checks outcome)
    (second : ∀ value, FailsAt later (next value)) :
    FailsAt (checks ++ later) (outcome >>= next) := by
  rw [FailsAt, List.findSome?_append, ← first]
  cases outcome with
  | error failure => rfl
  | ok value => exact second value

theorem name (text : String) : FailsAt [.name text] (identifier text) := by
  simp [FailsAt, Check.failure?]

theorem path (text : String) : FailsAt [.path text] (Path.code text) := by
  simp [FailsAt, Check.failure?]

/-- What is only put together from a result fails where the result does. -/
theorem bind_ok {convert : α → β} (first : FailsAt checks outcome) :
    FailsAt checks (outcome >>= fun value => .ok (convert value)) :=
  checks.append_nil ▸ first.bind fun value => .ok (convert value)

theorem mapM {γ : Type} {step : γ → Except GenerationFailure α}
    {checksOf : γ → List Check} {items : List γ}
    (each : ∀ item ∈ items, FailsAt (checksOf item) (step item)) :
    FailsAt (items.flatMap checksOf) (items.mapM step) := by
  induction items with
  | nil => exact .ok []
  | cons item items induction =>
      rw [List.mapM_cons, List.flatMap_cons]
      refine (each item List.mem_cons_self).bind fun value => ?_
      exact (induction fun later member =>
        each later (List.mem_cons_of_mem _ member)).bind_ok

/-- The computation ends with a failure exactly when it is that of the first
check that fails. -/
theorem error_iff (fails : FailsAt checks outcome)
    {failure : GenerationFailure} :
    outcome = .error failure ↔
      ∃ before check after, checks = before ++ check :: after ∧
        check.failure? = some failure ∧
        ∀ earlier ∈ before, earlier.failure? = none := by
  rw [← failure?_eq_some_iff, fails, List.findSome?_eq_some_iff]

end FailsAt

namespace TypeRef

mutual

def checks : TypeRef → List Check
  | .primitive text | .parameter text => [.name text]
  | .named text => [.path text]
  | .array component => component.checks
  | .parameterized text arguments => .path text :: checksOfAll arguments

def checksOfAll : List TypeRef → List Check
  | [] => []
  | type :: types => type.checks ++ checksOfAll types

end

mutual

theorem failsAt_code : (type : TypeRef) → FailsAt type.checks type.code
  | .primitive text | .parameter text => (FailsAt.name text).bind_ok
  | .named text => .path text
  | .array component => (failsAt_code component).bind_ok
  | .parameterized text arguments =>
      (FailsAt.path text).bind fun _ => (failsAt_codeAll arguments).bind_ok

theorem failsAt_codeAll :
    (types : List TypeRef) → FailsAt (checksOfAll types) (codeAll types)
  | [] => .ok []
  | type :: types =>
      (failsAt_code type).bind fun _ => (failsAt_codeAll types).bind_ok

end

end TypeRef

namespace RelationPlan

/-- The texts in the function from the target of a relation to its
identifier. -/
def idChecks (plan : RelationPlan) : List Check :=
  [.path plan.reference.target, .name plan.reference.targetIdField]

/-- The texts in an accessor of a relation. -/
def accessorChecks (plan : RelationPlan) (method : SyntheticMethod) :
    List Check :=
  let reference := plan.reference
  .name method.name :: .name plan.constName :: .name reference.name ::
    .name reference.holderName ::
    (reference.type.checks ++ (reference.holderType.checks ++ (plan.idChecks ++
      if method.role = .holderSetter ∧ reference.isWrapped = true then
        .path reference.target :: reference.targetIdType.checks
      else [])))

/-- The texts in the statement that checks a relation. -/
def statementChecks (plan : RelationPlan) : List Check :=
  .name plan.constName :: .name plan.reference.name ::
    .name plan.reference.holderName ::
    plan.idChecks

end RelationPlan

/-- The texts in a wrapper of a way of construction. -/
def Epilogue.checks (epilogue : Epilogue) : List Check :=
  .name epilogue.wrapperName ::
    match epilogue with
    | .implicit => []
    | .declared constructor parameters =>
        .name constructor :: TypeRef.checksOfAll parameters

namespace Augmentation

def accessorChecks (added : Augmentation) (method : SyntheticMethod) :
    List Check :=
  ((added.plan? method.relation).map fun plan =>
    plan.accessorChecks method).getD []

def statementChecks (added : Augmentation) (constName : String) : List Check :=
  ((added.planOfConst? constName).map RelationPlan.statementChecks).getD []

/-- The texts in the check routine of a class. -/
def routineChecks (added : Augmentation) : List Check :=
  .path added.path :: .name added.check.name ::
    ((added.check.lazyInit.flatMap fun field => [.name field.name]) ++
      added.check.relations.flatMap added.statementChecks)

/-- The texts in the members that a class gains, and in its check routine. -/
def checks (added : Augmentation) : List Check :=
  .path added.path ::
    ((added.relations.flatMap fun plan => [.name plan.constName]) ++
      (added.methods.flatMap added.accessorChecks ++
        (added.epilogues.flatMap Epilogue.checks ++ added.routineChecks)))

/-- The texts in the fields to declare in a class. -/
def fieldChecks (added : Augmentation) : List Check :=
  added.fields.flatMap fun field => .name field.name :: field.type.checks

end Augmentation

namespace Emission

variable {runtime : Tokens} {added : Augmentation}

theorem failsAt_relationConst (plan : RelationPlan) :
    FailsAt [.name plan.constName] (relationConst runtime added.path plan) :=
  (FailsAt.name _).bind_ok

theorem failsAt_idFunction (plan : RelationPlan) :
    FailsAt plan.idChecks (idFunction plan) :=
  (FailsAt.path _).bind fun _ => (FailsAt.name _).bind_ok

theorem failsAt_accessor {method : SyntheticMethod} {plan : RelationPlan}
    (planned : added.plan? method.relation = some plan) :
    FailsAt (added.accessorChecks method) (accessor runtime added method) := by
  rw [Augmentation.accessorChecks, planned, Option.map_some, Option.getD_some,
    accessor, planned]
  refine (FailsAt.name _).bind fun name => ?_
  refine (FailsAt.name _).bind fun relation => ?_
  refine (FailsAt.name _).bind fun field => ?_
  refine (FailsAt.name _).bind fun holder => ?_
  refine (TypeRef.failsAt_code _).bind fun entityType => ?_
  refine (TypeRef.failsAt_code _).bind fun holderType => ?_
  refine (failsAt_idFunction plan).bind fun idOf => ?_
  cases role : method.role with
  | entityGetter => exact .ok _
  | entitySetter => exact .ok _
  | holderGetter => exact .ok _
  | holderSetter =>
      cases wrapped : plan.reference.isWrapped with
      | false => exact .ok _
      | true =>
          simp only [and_self, if_true]
          exact (FailsAt.path _).bind fun target =>
            (TypeRef.failsAt_code _).bind_ok

theorem failsAt_epilogue (wrapped : Epilogue) :
    FailsAt wrapped.checks (epilogue runtime wrapped) := by
  refine (FailsAt.name _).bind fun wrapper => ?_
  cases wrapped with
  | implicit => exact .ok _
  | declared constructor parameters =>
      exact (FailsAt.name _).bind fun _ =>
        (TypeRef.failsAt_codeAll parameters).bind_ok

theorem failsAt_initStatement (field : TypedField) :
    FailsAt [.name field.name] (initStatement runtime field) :=
  (FailsAt.name _).bind_ok

theorem failsAt_checkStatement (constName : String) :
    FailsAt (added.statementChecks constName)
      (checkStatement runtime added constName) := by
  rw [Augmentation.statementChecks, checkStatement]
  cases found : added.planOfConst? constName with
  | none => exact .ok []
  | some plan =>
      obtain rfl : plan.constName = constName := by
        simpa using List.find?_some found
      refine (FailsAt.name _).bind fun relation => ?_
      refine (FailsAt.name _).bind fun field => ?_
      refine (FailsAt.name _).bind fun holder => ?_
      exact (failsAt_idFunction plan).bind_ok

theorem failsAt_checkRoutine :
    FailsAt added.routineChecks (checkRoutine runtime added) := by
  refine (FailsAt.path _).bind fun owner => ?_
  refine (FailsAt.name _).bind fun routine => ?_
  refine (FailsAt.mapM fun field _ => failsAt_initStatement field).bind
    fun inits => ?_
  exact (FailsAt.mapM fun constName _ =>
    failsAt_checkStatement constName).bind_ok

theorem failsAt_augmentation (aligned : added.Aligned) :
    FailsAt added.checks (augmentation runtime added) := by
  refine (FailsAt.path _).bind fun owner => ?_
  refine (FailsAt.mapM fun plan _ => failsAt_relationConst plan).bind
    fun consts => ?_
  refine FailsAt.bind ?_ fun methods => ?_
  · refine .mapM fun method member => ?_
    obtain ⟨plan, planned⟩ := aligned.accessor method member
    exact failsAt_accessor planned
  · refine (FailsAt.mapM fun wrapped _ => failsAt_epilogue wrapped).bind
      fun epilogues => ?_
    exact failsAt_checkRoutine.bind_ok

theorem failsAt_fieldDeclarations :
    FailsAt added.fieldChecks (fieldDeclarations added) := by
  refine FailsAt.bind_ok (.mapM fun field _ => ?_)
  exact (FailsAt.name _).bind fun name =>
    (TypeRef.failsAt_code field.type).bind_ok

end Emission

namespace ClassIndex

variable {index : ClassIndex} {config : Config} {override : Option String}

/-- The texts that are checked in a generation from an analysis, in order. -/
def codeChecks (index : ClassIndex) (analysis : Analysis) : List Check :=
  (analysis.models.toList.filterMap index.augment?).flatMap fun added =>
    added.checks ++ added.fieldChecks

theorem failsAt_classCode {runtime : Tokens} {added : Augmentation}
    (aligned : added.Aligned) :
    FailsAt (added.checks ++ added.fieldChecks) (classCode runtime added) :=
  (Emission.failsAt_augmentation aligned).bind fun _ =>
    Emission.failsAt_fieldDeclarations.bind_ok

theorem failsAt_generate {analysis : Analysis}
    (analyzed : index.analyze config = .ok analysis) {runtime : Tokens}
    (runtimeRead : Emission.runtimePath override config = .ok runtime) :
    FailsAt (index.codeChecks analysis) (index.generate config override) := by
  rw [generate, analyzed, runtimeRead]
  refine FailsAt.bind_ok (.mapM fun added member => ?_)
  obtain ⟨model, _, augmented⟩ := List.mem_filterMap.1 member
  exact failsAt_classCode (aligned_of_augment? augmented)

theorem runtimePath_error {failure : GenerationFailure}
    (failed : Emission.runtimePath override config = .error failure) :
    failure = .build (.invalidPath config.runtimePath) := by
  unfold Emission.runtimePath at failed
  split at failed
  · cases failed
  · split at failed
    · cases failed
    · cases failed
      rfl

/-- A generation fails with its analysis, for the path of the run-time library,
or where the first check of a text fails. -/
theorem generate_error {failure : GenerationFailure}
    (failed : index.generate config override = .error failure) :
    (∃ error, index.analyze config = .error error ∧ failure = .build error) ∨
      failure = .build (.invalidPath config.runtimePath) ∨
        ∃ analysis runtime before check after,
          index.analyze config = .ok analysis ∧
          Emission.runtimePath override config = .ok runtime ∧
          index.codeChecks analysis = before ++ check :: after ∧
          check.failure? = some failure ∧
          ∀ earlier ∈ before, earlier.failure? = none := by
  cases analyzed : index.analyze config with
  | error error =>
      rw [generate, analyzed] at failed
      cases failed
      exact .inl ⟨error, rfl, rfl⟩
  | ok analysis =>
      cases runtimeRead : Emission.runtimePath override config with
      | error other =>
          rw [generate, analyzed, runtimeRead] at failed
          cases failed
          exact .inr (.inl (runtimePath_error runtimeRead))
      | ok runtime =>
          obtain ⟨before, check, after, checks, checkFailed, passed⟩ :=
            (failsAt_generate analyzed runtimeRead).error_iff.1 failed
          exact .inr (.inr
            ⟨analysis, runtime, before, check, after, rfl, rfl, checks,
              checkFailed, passed⟩)

end ClassIndex

end EntityLink
