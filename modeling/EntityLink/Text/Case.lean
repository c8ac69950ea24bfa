import EntityLink.Text.CaseTable

/-!
# Upper and lower case

The case of a whole text: every character gives way to its counterpart, which
may be several characters (`ß` becomes `SS`).  The one rule that looks around is
that of the capital sigma, which ends a word in a form of its own.  The small
form of a character beyond ASCII may be an ASCII letter (the kelvin sign has
`k`) but never an ASCII capital.
-/

namespace EntityLink.Text

private def counterpart (expansions : List (Nat × List Nat))
    (runs : List CaseRun) (character : Char) : List Char :=
  match expansions.lookup character.toNat with
  | some codes => codes.map Char.ofNat
  | none =>
      match CaseRun.counterpart? runs character.toNat with
      | some code => [Char.ofNat code]
      | none => [character]

def upperOf (character : Char) : List Char :=
  if character.toNat < 0x80 then [character.toUpper]
  else counterpart upperExpansions upperRuns character

/-- The lower-case form of a character, standing alone. -/
def lowerOf (character : Char) : List Char :=
  if character.toNat < 0x80 then [character.toLower]
  else counterpart lowerExpansions lowerRuns character

/-- Says whether a character counts as upper case, letter or symbol. -/
def isUpperCase (character : Char) : Bool :=
  character.isUpper || (!character.toNat < 0x80 && upperSet.contains character)

def capitalSigma : Char := Char.ofNat 0x3a3

/-- The small sigma inside a word. -/
def innerSigma : Char := Char.ofNat 0x3c3

/-- The small sigma at the end of a word. -/
def finalSigma : Char := Char.ofNat 0x3c2

private def meetsCased (characters : List Char) : Bool :=
  match characters.dropWhile caseIgnorableSet.contains with
  | [] => false
  | character :: _ => casedSet.contains character

/-- Lower-cases characters, given those before them from the nearest to the
farthest. -/
def lowerAfter (before : List Char) : List Char → List Char
  | [] => []
  | character :: rest =>
      (if character = capitalSigma then
        [if meetsCased before && !meetsCased rest then finalSigma
          else innerSigma]
      else lowerOf character) ++ lowerAfter (character :: before) rest

def upperChars (characters : List Char) : List Char :=
  characters.flatMap upperOf

def lowerChars (characters : List Char) : List Char :=
  lowerAfter [] characters

/-- Says whether characters are the capital form of letters that have another
form. -/
def isCapital (characters : List Char) : Bool :=
  upperChars characters != lowerChars characters &&
    upperChars characters == characters

/-- Says whether characters are the small form of letters that have another
form. -/
def isSmall (characters : List Char) : Bool :=
  upperChars characters != lowerChars characters &&
    lowerChars characters == characters

private theorem isUpper_ofNat {code : Nat} (above : 0x5a < code) :
    (Char.ofNat code).isUpper = false := by
  by_cases valid : code.isValidChar
  · have value : (Char.ofNat code).val.toNat = code := by
      rw [Char.ofNat, dif_pos valid]
      rfl
    have notBelow : ¬((Char.ofNat code).val ≥ 'A'.val ∧
      (Char.ofNat code).val ≤ 'Z'.val) := by
      rintro ⟨_, below⟩
      rw [UInt32.le_iff_toNat_le, value] at below
      exact absurd below (Nat.not_le.2 above)
    exact decide_eq_false notBelow
  · rw [Char.ofNat, dif_neg valid]
    decide

private theorem isUpper_toLower {character : Char}
    (ascii : character.toNat < 0x80) :
    character.toLower.isUpper = false := by
  have checked : ∀ code < 0x80,
      (Char.ofNat code).toLower.isUpper = false := by decide
  have holds := checked character.toNat ascii
  rwa [Char.ofNat_toNat] at holds

private theorem isUpper_of_mem_counterpart {character other : Char}
    (notAscii : ¬character.toNat < 0x80)
    (member : other ∈ counterpart lowerExpansions lowerRuns character) :
    other.isUpper = false := by
  unfold counterpart at member
  split at member
  next codes found =>
    obtain ⟨code, codeMember, rfl⟩ := List.mem_map.1 member
    obtain ⟨before, after, split, _⟩ := List.lookup_eq_some_iff.1 found
    have listed : (character.toNat, codes) ∈ lowerExpansions := by simp [split]
    have above : ∀ entry ∈ lowerExpansions, ∀ code ∈ entry.2,
        0x5a < code := by decide
    exact isUpper_ofNat (above _ listed code codeMember)
  · split at member
    next code found =>
      obtain rfl := List.mem_singleton.1 member
      obtain ⟨run, runFound, rfl⟩ := Option.map_eq_some_iff.1 found
      have applies := List.find?_some runFound
      have above : ∀ run ∈ lowerRuns,
          0x5a < (max run.first 0x80 : Int) + run.shift := by
        decide +kernel
      have runAbove := above run (List.mem_of_find?_eq_some runFound)
      simp only [Bool.and_eq_true, decide_eq_true_eq] at applies
      exact isUpper_ofNat (by omega)
    next =>
      obtain rfl := List.mem_singleton.1 member
      rw [← Char.ofNat_toNat other]
      exact isUpper_ofNat (by omega)

theorem isUpper_of_mem_lowerOf {character other : Char}
    (member : other ∈ lowerOf character) :
    other.isUpper = false := by
  unfold lowerOf at member
  split at member
  next ascii =>
    obtain rfl := List.mem_singleton.1 member
    exact isUpper_toLower ascii
  next notAscii => exact isUpper_of_mem_counterpart notAscii member

theorem isUpper_of_mem_lowerAfter {before characters : List Char} {other : Char}
    (member : other ∈ lowerAfter before characters) :
    other.isUpper = false := by
  induction characters generalizing before with
  | nil => cases member
  | cons character rest induction =>
      rw [lowerAfter, List.mem_append] at member
      rcases member with here | later
      · split at here
        · obtain rfl := List.mem_singleton.1 here
          split <;> decide
        · exact isUpper_of_mem_lowerOf here
      · exact induction later

end EntityLink.Text
