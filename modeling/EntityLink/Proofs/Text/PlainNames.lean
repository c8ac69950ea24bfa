import EntityLink.Text.Words
import Mathlib.Data.List.Chain

/-!
# Plain names

A name of small letters, digits and underscores of ASCII is nearly in small
letters already.  Of all the places at which a name is cut into words, only
those between a letter and a digit are left to it.  Cutting it and joining the
words again puts an underscore there (`snakeCase_of_plain`), so the name stays
what it is exactly when it has no such place (`digitsApart_eq_self_iff`).
-/

namespace EntityLink.Text

/-- Says whether a character is a small letter, a digit or the underscore, all
of ASCII. -/
def isPlain (character : Char) : Bool :=
  character.isLower || character.isDigit || character == '_'

/-- Says whether one of two characters is a small letter and the other one a
digit. -/
def isLetterWithDigit (first second : Char) : Bool :=
  (first.isLower && second.isDigit) || (first.isDigit && second.isLower)

/-- Puts an underscore between any letter and digit that stand side by side. -/
def digitsApart : List Char → List Char
  | [] => []
  | [character] => [character]
  | first :: second :: rest =>
      if isLetterWithDigit first second then
        first :: '_' :: digitsApart (second :: rest)
      else first :: digitsApart (second :: rest)

theorem ne_underscore_of_isLetterWithDigit {first second : Char}
    (together : isLetterWithDigit first second = true) :
    first ≠ '_' ∧ second ≠ '_' := by
  constructor
  · rintro rfl
    cases together
  · rintro rfl
    cases lower : first.isLower <;> cases digit : first.isDigit <;>
      simp [isLetterWithDigit, lower, digit] at together

theorem digitsApart_eq_self_iff (characters : List Char) :
    digitsApart characters = characters ↔
      characters.IsChain fun first second =>
        isLetterWithDigit first second = false := by
  induction characters using digitsApart.induct with
  | case1 => simp [digitsApart]
  | case2 character => simp [digitsApart]
  | case3 first second rest together induction =>
      rw [digitsApart, if_pos together, List.isChain_cons_cons]
      constructor
      · intro same
        have underscore : '_' = second := by
          rw [List.cons_inj_right] at same
          exact (List.cons.inj same).1
        exact absurd underscore.symm
          (ne_underscore_of_isLetterWithDigit together).2
      · rintro ⟨apart, _⟩
        rw [together] at apart
        cases apart
  | case4 first second rest apart induction =>
      rw [digitsApart, if_neg apart, List.isChain_cons_cons,
        List.cons_inj_right, induction]
      simp [apart]

/-- What the tables of characters say of a plain one. -/
structure PlainFacts (character : Char) : Prop where
  small : lowerOf character = [character]
  notSigma : character ≠ capitalSigma
  isSmall : isSmall [character] = character.isLower
  notCapital : isCapital [character] = false
  separator : isSeparator [character] = (character == '_')
  graphemeClass : graphemeClass character = .other
  notPictograph : pictographSet.contains character = false
  noConjunct : conjunctPart character = .none

theorem plainFacts {character : Char} (plain : isPlain character = true) :
    PlainFacts character := by
  have checked : ∀ code < 0x80, isPlain (Char.ofNat code) = true →
      lowerOf (Char.ofNat code) = [Char.ofNat code] ∧
      Char.ofNat code ≠ capitalSigma ∧
      isSmall [Char.ofNat code] = (Char.ofNat code).isLower ∧
      isCapital [Char.ofNat code] = false ∧
      isSeparator [Char.ofNat code] = (Char.ofNat code == '_') ∧
      graphemeClass (Char.ofNat code) = .other ∧
      pictographSet.contains (Char.ofNat code) = false ∧
      conjunctPart (Char.ofNat code) = .none := by
    decide +kernel
  have ascii : character.toNat < 0x80 := by
    rw [isPlain, Bool.or_eq_true, Bool.or_eq_true, beq_iff_eq] at plain
    rcases plain with (letter | digit) | rfl
    · have bound : character.val ≤ 'z'.val :=
        of_decide_eq_true (Bool.and_eq_true_iff.1 letter).2
      exact Nat.lt_of_le_of_lt (UInt32.le_iff_toNat_le.1 bound) (by decide)
    · have bound : character.val ≤ '9'.val :=
        of_decide_eq_true (Bool.and_eq_true_iff.1 digit).2
      exact Nat.lt_of_le_of_lt (UInt32.le_iff_toNat_le.1 bound) (by decide)
    · decide
  have facts := checked character.toNat ascii
  rw [Char.ofNat_toNat] at facts
  obtain ⟨small, notSigma, isSmall, notCapital, separator, graphemeClass,
    notPictograph, noConjunct⟩ := facts plain
  exact ⟨small, notSigma, isSmall, notCapital, separator, graphemeClass,
    notPictograph, noConjunct⟩

variable {characters : List Char}

theorem after_of_plain (state : ClusterState) {character : Char}
    (plain : isPlain character = true) :
    state.after character = ⟨.other, .none, .none, false⟩ := by
  have facts := plainFacts plain
  simp [ClusterState.after, facts.graphemeClass, facts.notPictograph,
    facts.noConjunct]

theorem joins_of_plain {character : Char} (plain : isPlain character = true) :
    ClusterState.joins ⟨.other, .none, .none, false⟩ character = false := by
  have facts := plainFacts plain
  simp [ClusterState.joins, facts.graphemeClass, joinsSyllable]

theorem graphemes_of_plain
    (plain : ∀ character ∈ characters, isPlain character = true) :
    graphemes characters = characters.map fun character => [character] := by
  have fromAny : ∀ state, graphemesAfter state characters =
      characters.map fun character => [character] := by
    intro state
    induction characters generalizing state with
    | nil => rfl
    | cons character rest induction =>
        have restPlain : ∀ character ∈ rest, isPlain character = true :=
          fun other member => plain other (List.mem_cons_of_mem _ member)
        cases rest with
        | nil => rfl
        | cons next rest =>
            have apart : (state.after character).joins next = false := by
              rw [after_of_plain state (plain character List.mem_cons_self)]
              exact joins_of_plain (restPlain next List.mem_cons_self)
            simp only [graphemesAfter, apart, Bool.false_eq_true, if_false]
            rw [induction restPlain]
            rfl
  exact fromAny .start

theorem endsWord_of_plain {first second : Char}
    (firstPlain : isPlain first = true) (secondPlain : isPlain second = true)
    (clusters : List (List Char)) :
    endsWord [first] ([second] :: clusters) =
      isLetterWithDigit first second := by
  have firstFacts := plainFacts firstPlain
  have secondFacts := plainFacts secondPlain
  simp [endsWord, isLetterWithDigit, isNumeral, firstFacts.isSmall,
    firstFacts.notCapital, secondFacts.isSmall, secondFacts.notCapital]

theorem wordsOf_ne_nil (clusters : List (List Char)) :
    wordsOf clusters ≠ [] := by
  cases clusters with
  | nil => simp [wordsOf]
  | cons cluster rest =>
      unfold wordsOf
      split
      · simp
      · split
        · simp
        · cases wordsOf rest <;> simp [intoFirst]

theorem intercalate_cons_of_ne_nil {separator word : List Char}
    {words : List (List Char)} (notEmpty : words ≠ []) :
    separator.intercalate (word :: words) =
      word ++ separator ++ separator.intercalate words := by
  cases words with
  | nil => exact absurd rfl notEmpty
  | cons next words => rw [List.intercalate_cons_cons]

theorem intercalate_intoFirst {separator cluster : List Char}
    {words : List (List Char)} (notEmpty : words ≠ []) :
    separator.intercalate (intoFirst cluster words) =
      cluster ++ separator.intercalate words := by
  cases words with
  | nil => exact absurd rfl notEmpty
  | cons word words =>
      cases words with
      | nil => simp [intoFirst]
      | cons next words => simp [intoFirst, List.intercalate_cons_cons]

/-- A plain name is cut at its underscores, which vanish, and at its digits. -/
theorem wordsOf_of_plain {first second : Char}
    (firstPlain : isPlain first = true) (secondPlain : isPlain second = true)
    (clusters : List (List Char)) :
    wordsOf ([first] :: [second] :: clusters) =
      if first = '_' then [] :: wordsOf ([second] :: clusters)
      else if isLetterWithDigit first second then
        [first] :: wordsOf ([second] :: clusters)
      else intoFirst [first] (wordsOf ([second] :: clusters)) := by
  rw [wordsOf, (plainFacts firstPlain).separator,
    endsWord_of_plain firstPlain secondPlain]
  simp

theorem intercalate_wordsOf_of_plain
    (plain : ∀ character ∈ characters, isPlain character = true) :
    ['_'].intercalate (wordsOf (characters.map fun character => [character])) =
      digitsApart characters := by
  induction characters using digitsApart.induct with
  | case1 => rfl
  | case2 character =>
      have facts := plainFacts (plain character List.mem_cons_self)
      by_cases underscore : character = '_'
      · subst underscore
        rfl
      · simp [wordsOf, facts.separator, underscore, endsWord, intoFirst,
          digitsApart]
  | case3 first second rest together induction =>
      have secondPlain := plain second (by simp)
      have later := induction fun other member =>
        plain other (List.mem_cons_of_mem _ member)
      have notUnderscore := (ne_underscore_of_isLetterWithDigit together).1
      rw [List.map_cons] at later
      rw [digitsApart, if_pos together, List.map_cons, List.map_cons,
        wordsOf_of_plain (plain first List.mem_cons_self) secondPlain,
        if_neg notUnderscore, if_pos together,
        intercalate_cons_of_ne_nil (wordsOf_ne_nil _), later]
      rfl
  | case4 first second rest apart induction =>
      have secondPlain := plain second (by simp)
      have later := induction fun other member =>
        plain other (List.mem_cons_of_mem _ member)
      rw [List.map_cons] at later
      rw [digitsApart, if_neg apart, List.map_cons, List.map_cons,
        wordsOf_of_plain (plain first List.mem_cons_self) secondPlain,
        if_neg apart]
      split
      next underscore =>
        rw [intercalate_cons_of_ne_nil (wordsOf_ne_nil _), later, underscore]
        rfl
      next =>
        rw [intercalate_intoFirst (wordsOf_ne_nil _), later]
        rfl

theorem lowerChars_of_plain
    (plain : ∀ character ∈ characters, isPlain character = true) :
    lowerChars characters = characters := by
  have after : ∀ before, lowerAfter before characters = characters := by
    intro before
    induction characters generalizing before with
    | nil => rfl
    | cons character rest induction =>
        have facts := plainFacts (plain character List.mem_cons_self)
        have restPlain : ∀ character ∈ rest, isPlain character = true :=
          fun other member => plain other (List.mem_cons_of_mem _ member)
        rw [lowerAfter, if_neg facts.notSigma, facts.small, induction restPlain]
        rfl
  exact after []

theorem exists_cluster_of_mem_wordsOf {clusters : List (List Char)}
    {word : List Char} (member : word ∈ wordsOf clusters) {character : Char}
    (inWord : character ∈ word) :
    ∃ cluster ∈ clusters, character ∈ cluster := by
  induction clusters generalizing word with
  | nil =>
      obtain rfl := List.mem_singleton.1 member
      cases inWord
  | cons cluster rest induction =>
      have later : ∀ {word}, word ∈ wordsOf rest → character ∈ word →
          ∃ other ∈ cluster :: rest, character ∈ other := by
        intro word member inWord
        obtain ⟨other, otherMember, inOther⟩ := induction member inWord
        exact ⟨other, List.mem_cons_of_mem _ otherMember, inOther⟩
      unfold wordsOf at member
      split at member
      · rcases List.mem_cons.1 member with rfl | inRest
        · cases inWord
        · exact later inRest inWord
      · split at member
        · rcases List.mem_cons.1 member with rfl | inRest
          · exact ⟨word, List.mem_cons_self, inWord⟩
          · exact later inRest inWord
        · cases words : wordsOf rest with
          | nil => exact absurd words (wordsOf_ne_nil rest)
          | cons first others =>
              rw [words, intoFirst] at member
              rcases List.mem_cons.1 member with rfl | inRest
              · rcases List.mem_append.1 inWord with inCluster | inFirst
                · exact ⟨cluster, List.mem_cons_self, inCluster⟩
                · exact later (words ▸ List.mem_cons_self) inFirst
              · exact later (words ▸ List.mem_cons_of_mem _ inRest) inWord

theorem snakeCase_of_plain {name : String}
    (plain : ∀ character ∈ name.toList, isPlain character = true) :
    snakeCase name = String.ofList (digitsApart name.toList) := by
  have clusters := graphemes_of_plain plain
  have small : (words name).map lowerChars = words name := by
    rw [words, clusters]
    refine (List.map_congr_left fun word member => lowerChars_of_plain ?_).trans
      (List.map_id _)
    intro character inWord
    obtain ⟨cluster, clusterMember, inCluster⟩ :=
      exists_cluster_of_mem_wordsOf member inWord
    obtain ⟨other, otherMember, rfl⟩ := List.mem_map.1 clusterMember
    exact List.mem_singleton.1 inCluster ▸ plain other otherMember
  rw [snakeCase, small, words, clusters, intercalate_wordsOf_of_plain plain]

end EntityLink.Text
