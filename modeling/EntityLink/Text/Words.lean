import EntityLink.Text.Case
import EntityLink.Text.Grapheme

/-!
# Words of a name

A name in any style (`firstName`, `first-name`, `FIRST_NAME`) is cut into words,
which are then joined by underscores.  A cut is made between two clusters of
characters.  Underscores, hyphens and spaces separate words and vanish, unless a
mark joins them; a cut without a separator is made

* between a small letter and a capital (`first|Name`),
* between a letter and a digit and between a digit and a letter (`line|2|a`),
* between two capitals when a small letter follows (`HTTP|Server`).

Words may be empty, so every separator of the name stands in the result again.
-/

namespace EntityLink.Text

/-- Says whether a cluster separates words and is no part of them. -/
def isSeparator (cluster : List Char) : Bool :=
  cluster == ['_'] || cluster == ['-'] || cluster == [' ']

/-- Says whether a cluster consists of digits. -/
def isNumeral (cluster : List Char) : Bool :=
  cluster.all Char.isDigit

/-- Says whether a word ends after a cluster, given the clusters that follow
it. -/
def endsWord (cluster : List Char) : List (List Char) → Bool
  | [] => false
  | next :: rest =>
      (isSmall cluster && (isCapital next || isNumeral next)) ||
      (isCapital cluster && isNumeral next) ||
      (isNumeral cluster && (isSmall next || isCapital next)) ||
      (isCapital cluster && isCapital next &&
        (rest.head?.map isSmall).getD false)

/-- Puts a cluster in front of the first word. -/
def intoFirst (cluster : List Char) : List (List Char) → List (List Char)
  | [] => [cluster]
  | word :: words => (cluster ++ word) :: words

/-- Cuts a name, given by its clusters, into its words. -/
def wordsOf : List (List Char) → List (List Char)
  | [] => [[]]
  | cluster :: rest =>
      if isSeparator cluster then [] :: wordsOf rest
      else if endsWord cluster rest then cluster :: wordsOf rest
      else intoFirst cluster (wordsOf rest)

def words (name : String) : List (List Char) :=
  wordsOf (graphemes name.toList)

/-- Writes a name in small letters, its words joined by underscores. -/
def snakeCase (name : String) : String :=
  String.ofList (['_'].intercalate ((words name).map lowerChars))

/-- Writes a name in capitals, its words joined by underscores. -/
def constantCase (name : String) : String :=
  String.ofList (['_'].intercalate ((words name).map upperChars))

private theorem mem_of_mem_intercalate {separator : List Char}
    {words : List (List Char)} {character : Char}
    (member : character ∈ separator.intercalate words) :
    character ∈ separator ∨ ∃ word ∈ words, character ∈ word := by
  induction words with
  | nil => cases member
  | cons word words induction =>
      cases words with
      | nil =>
          rw [List.intercalate_singleton] at member
          exact .inr ⟨word, List.mem_cons_self, member⟩
      | cons next words =>
          rw [List.intercalate_cons_cons, List.mem_append,
            List.mem_append] at member
          rcases member with (inWord | inSeparator) | later
          · exact .inr ⟨word, List.mem_cons_self, inWord⟩
          · exact .inl inSeparator
          · refine (induction later).imp_right ?_
            rintro ⟨other, otherMember, inOther⟩
            exact ⟨other, List.mem_cons_of_mem _ otherMember, inOther⟩

/-- A name in small letters has no ASCII capital. -/
theorem isUpper_of_mem_snakeCase {name : String} {character : Char}
    (member : character ∈ (snakeCase name).toList) :
    character.isUpper = false := by
  rw [snakeCase, String.toList_ofList] at member
  rcases mem_of_mem_intercalate member with inSeparator
    | ⟨word, wordMember, inWord⟩
  · obtain rfl := List.mem_singleton.1 inSeparator
    decide
  · obtain ⟨_, _, rfl⟩ := List.mem_map.1 wordMember
    exact isUpper_of_mem_lowerAfter inWord

end EntityLink.Text
