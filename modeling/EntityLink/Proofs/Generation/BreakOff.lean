import EntityLink.Proofs.Generation.Checks

/-!
# Generations that break off

A generation is to end with code or with a fault that it reports.  It breaks off
instead at the first text that fails its check if that is a name which gets past
the check of its letters and digits without being an identifier
(`generate_brokenOff_iff`).  Such a name has a character beyond ASCII.
-/

namespace EntityLink

namespace Code

/-- A name of letters, digits and underscores that is no identifier, for one of
its characters may not stand where it does. -/
def EscapesCheck (name : String) : Prop :=
  ∃ first rest, name.toList = first :: rest ∧
    (first = '_' ∨ Text.isLetter first = true) ∧
    (∀ character ∈ rest, character = '_' ∨
      Text.isLetterOrDigit character = true) ∧
    (Text.isIdentifierStart first = false ∨
      ∃ character ∈ rest, Text.isIdentifierContinue character = false)

theorem escapesCheck_iff {name : String} :
    EscapesCheck name ↔
      looksLikeName name = true ∧ Text.isIdentifier name = false := by
  unfold EscapesCheck looksLikeName Text.isIdentifier
  cases characters : name.toList with
  | nil => simp
  | cons first rest =>
      simp only [List.cons.injEq, Bool.and_eq_true, Bool.or_eq_true,
        beq_iff_eq, List.all_eq_true, Bool.and_eq_false_iff, List.all_eq_false,
        Bool.not_eq_true]
      constructor
      · rintro ⟨_, _, ⟨rfl, rfl⟩, starts, goesOn, escapes⟩
        exact ⟨⟨starts, goesOn⟩, escapes⟩
      · rintro ⟨⟨starts, goesOn⟩, escapes⟩
        exact ⟨first, rest, ⟨rfl, rfl⟩, starts, goesOn, escapes⟩

theorem identifier_eq_brokenOff_iff {name other : String} :
    identifier name = .error (.brokenOff other) ↔
      other = name ∧ EscapesCheck name := by
  rw [escapesCheck_iff, identifier]
  cases looksLikeName name <;> cases Text.isIdentifier name <;> simp [eq_comm]

theorem beyond_ascii_of_start {character : Char}
    (starts : character = '_' ∨ Text.isLetter character = true)
    (escapes : Text.isIdentifierStart character = false) :
    0x80 ≤ character.toNat := by
  by_contra below
  have ascii : character.toNat < 0x80 := Nat.lt_of_not_le below
  rcases starts with rfl | letter
  · cases escapes
  · have alpha : character.isAlpha = true := by
      simpa [Text.isLetter, ascii] using letter
    simp [Text.isIdentifierStart, alpha] at escapes

theorem beyond_ascii_of_continue {character : Char}
    (goesOn : character = '_' ∨ Text.isLetterOrDigit character = true)
    (escapes : Text.isIdentifierContinue character = false) :
    0x80 ≤ character.toNat := by
  by_contra below
  have ascii : character.toNat < 0x80 := Nat.lt_of_not_le below
  rcases goesOn with rfl | letterOrDigit
  · cases escapes
  · have alphanum : character.isAlphanum = true := by
      simpa [Text.isLetterOrDigit, ascii] using letterOrDigit
    simp [Text.isIdentifierContinue, alphanum] at escapes

theorem EscapesCheck.exists_beyond_ascii {name : String}
    (escapes : EscapesCheck name) :
    ∃ character ∈ name.toList, 0x80 ≤ character.toNat := by
  obtain ⟨first, rest, characters, starts, goesOn, escapes⟩ := escapes
  rw [characters]
  rcases escapes with escapes | ⟨character, member, escapes⟩
  · exact ⟨first, List.mem_cons_self, beyond_ascii_of_start starts escapes⟩
  · exact ⟨character, List.mem_cons_of_mem _ member,
      beyond_ascii_of_continue (goesOn character member) escapes⟩

end Code

open Code

theorem Check.failure?_eq_brokenOff_iff {check : Check} {name : String} :
    check.failure? = some (.brokenOff name) ↔
      check = .name name ∧ EscapesCheck name := by
  cases check with
  | name text =>
      rw [Check.failure?, failure?_eq_some_iff, identifier_eq_brokenOff_iff,
        Check.name.injEq]
      constructor
      · rintro ⟨rfl, escapes⟩
        exact ⟨rfl, escapes⟩
      · rintro ⟨rfl, escapes⟩
        exact ⟨rfl, escapes⟩
  | path text =>
      rw [Check.failure?, failure?_eq_some_iff]
      unfold Path.code
      split <;> simp

namespace ClassIndex

/-- A generation breaks off exactly when the first of its texts to fail its
check is a name that gets past the check of letters and digits and is no
identifier.  A name in ASCII never does. -/
theorem generate_brokenOff_iff (index : ClassIndex) (config : Config)
    (override : Option String) (name : String) :
    (index.generate config override = .error (.brokenOff name) ↔
      ∃ analysis runtime before after, index.analyze config = .ok analysis ∧
        Emission.runtimePath override config = .ok runtime ∧
        index.codeChecks analysis = before ++ .name name :: after ∧
        (∀ check ∈ before, check.failure? = none) ∧ EscapesCheck name) ∧
      (EscapesCheck name →
        ∃ character ∈ name.toList, 0x80 ≤ character.toNat) := by
  refine ⟨⟨?_, ?_⟩, EscapesCheck.exists_beyond_ascii⟩
  · intro broken
    rcases generate_error broken with ⟨error, _, isBuildError⟩ | isInvalidPath |
      ⟨analysis, runtime, before, check, after, analyzed, runtimeRead, checks,
        failed, passed⟩
    · cases isBuildError
    · cases isInvalidPath
    · obtain ⟨rfl, escapes⟩ := Check.failure?_eq_brokenOff_iff.1 failed
      exact ⟨analysis, runtime, before, after, analyzed, runtimeRead, checks,
        passed, escapes⟩
  · rintro ⟨analysis, runtime, before, after, analyzed, runtimeRead, checks,
      passed, escapes⟩
    refine (failsAt_generate analyzed runtimeRead).error_iff.2
      ⟨before, .name name, after, checks, ?_, passed⟩
    exact Check.failure?_eq_brokenOff_iff.2 ⟨rfl, escapes⟩

end ClassIndex

namespace Geometry

def person : ClassDecl where
  path := "app::Person"
  entity := some {}
  fields := [{ name := "id", type := .named "Id", isId := true }]

/-- A superscript two is a digit, yet no character of identifiers. -/
def plot : ClassDecl where
  path := "app::Plot"
  entity := some {}
  fields := [{ name := "x²", type := .named "app::Person" }]

def index : ClassIndex := .ofList [person, plot]

end Geometry

/-- The plot breaks its generation off, at the constant of the relation. -/
theorem ClassIndex.generate_brokenOff_not_never :
    ¬∀ (index : ClassIndex) (config : Config) (override : Option String),
      (∃ result, index.generate config override = .ok result) ∨
        ∃ error, index.generate config override = .error (.build error) := by
  intro always
  have broken : failure? (Geometry.index.generate {} none) =
      some (.brokenOff "X²_RELATION") := by
    decide +kernel
  rw [failure?_eq_some_iff] at broken
  rcases always Geometry.index {} none with ⟨result, succeeded⟩
    | ⟨error, failed⟩
  · rw [broken] at succeeded
    cases succeeded
  · rw [broken] at failed
    cases failed

end EntityLink
