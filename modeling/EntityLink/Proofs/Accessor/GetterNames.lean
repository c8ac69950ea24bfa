import EntityLink.Proofs.Analysis.Overrides
import EntityLink.Proofs.Text.PlainNames

/-!
# Getters of plain fields

A getter is named after its field, with the getter prefix in front, and what it
says of its property is recorded under the field that its name is traced back
to.  For a field with a plain name that is the field itself, except where a
letter and a digit of the name stand side by side: there the way back puts an
underscore between them, and the getter speaks of a field that nobody declares
(`getterProperty?_prefixed_iff`).
-/

namespace EntityLink

namespace Accessor

/-- A name of small letters, digits and underscores of ASCII that starts with a
letter. -/
structure IsPlainFieldName (name : String) : Prop where
  starts : name.toList.head?.any Char.isLower = true
  plain : ∀ character ∈ name.toList, Text.isPlain character = true

/-- The field that a getter for a field with the given name is traced back
to. -/
def tracedField (name : String) : String :=
  String.ofList (Text.digitsApart name.toList)

theorem tracedField_eq_self_iff (name : String) :
    tracedField name = name ↔
      name.toList.IsChain fun first second =>
        Text.isLetterWithDigit first second = false := by
  rw [← Text.digitsApart_eq_self_iff, tracedField, String.ext_iff,
    String.toList_ofList]

theorem rest?_append (first name : String) :
    rest? first (first ++ name) = some name := by
  simp [rest?]

theorem getterProperty?_prefixed (first : String) {name : String}
    (isField : IsPlainFieldName name) :
    getterProperty? first (first ++ name) = some (tracedField name) := by
  have notEmpty : name ≠ "" := by
    rintro rfl
    exact absurd isField.starts (by decide)
  have found : (rest? first (first ++ name)).filter (· != "") = some name := by
    simp [rest?_append, notEmpty]
  rw [getterProperty?, found]
  exact congrArg some (Text.snakeCase_of_plain isField.plain)

/-- The getter of a plain field is traced back to the field exactly when no
letter of the field's name stands beside a digit, and it is the field that it is
traced back to of which the getter says a stored name. -/
theorem getterProperty?_prefixed_iff (first name : String)
    (isField : IsPlainFieldName name) :
    (getterProperty? first (first ++ name) = some name ↔
      name.toList.IsChain fun first second =>
        Text.isLetterWithDigit first second = false) ∧
    ∀ (config : Config) (method : MethodDecl) (stored : String),
      config.getterPrefix = first → method.name = first ++ name →
      method.isStatic = false →
      method.property = some stored →
      ∀ property other, method.Renames config property other ↔
        property = tracedField name ∧ other = stored := by
  have traced := getterProperty?_prefixed first isField
  constructor
  · rw [traced, Option.some.injEq, tracedField_eq_self_iff]
  · rintro config method stored rfl named notStatic given property other
    constructor
    · intro renames
      have reads := renames.reads
      have otherGiven := renames.given
      rw [named, traced] at reads
      rw [given] at otherGiven
      exact ⟨(Option.some.inj reads).symm, (Option.some.inj otherGiven).symm⟩
    · rintro ⟨rfl, rfl⟩
      exact ⟨notStatic, named ▸ traced, given⟩

/-- The second line of an address with a getter that is said to be stored as
`street`. -/
theorem getterProperty?_prefixed_iff_line :
    IsPlainFieldName "line_2" ∧
      getterProperty? "get_" "get_line_2" = some "line_2" ∧
      MethodDecl.Renames {} "line_2" "street"
        { name := "get_line_2", property := some "street" } := by
  have isField : IsPlainFieldName "line_2" :=
    ⟨by decide, List.all_eq_true.1 (by decide)⟩
  obtain ⟨kept, renames⟩ := getterProperty?_prefixed_iff "get_" "line_2" isField
  have apart : "line_2".toList.IsChain fun first second =>
      Text.isLetterWithDigit first second = false := by decide
  have traced : tracedField "line_2" = "line_2" :=
    (tracedField_eq_self_iff "line_2").2 apart
  refine ⟨isField, kept.2 apart, ?_⟩
  exact (renames {} _ "street" rfl rfl rfl rfl "line_2" "street").2
    ⟨traced.symm, rfl⟩

/-- Without an underscore before its number the field of an address is not found
again. -/
theorem getterProperty?_prefixed_not_always :
    ¬∀ first name : String, first ≠ "" → IsPlainFieldName name →
      getterProperty? first (first ++ name) = some name := by
  intro always
  have isField : IsPlainFieldName "line1" :=
    ⟨by decide, List.all_eq_true.1 (by decide)⟩
  have kept := always "get_" "line1" (by decide) isField
  have traced : tracedField "line1" = "line_1" := by decide
  rw [getterProperty?_prefixed "get_" isField, traced] at kept
  exact absurd kept (by decide)

end Accessor

end EntityLink
