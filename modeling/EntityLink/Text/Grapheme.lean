import EntityLink.Text.GraphemeClass

/-!
# Clusters of characters

What a reader takes for one character may be several: a letter with its accents,
a syllable, a flag, a joined picture.  `graphemes` cuts a text into such
clusters by the rules for extended grapheme clusters.
-/

namespace EntityLink.Text

/-- How far the cluster so far has come towards joining pictographs. -/
inductive PictureState where
  | none
  /-- It ends with a pictograph and its marks. -/
  | pictograph
  /-- It ends with a pictograph, its marks and a joiner. -/
  | joined
  deriving DecidableEq, Repr

/-- How far the cluster so far has come towards linking consonants. -/
inductive ConjunctState where
  | none
  | consonant
  /-- It ends with a consonant and its marks, a linker among them. -/
  | linked
  deriving DecidableEq, Repr

/-- What the rest of a cluster depends on. -/
structure ClusterState where
  last : GraphemeClass
  picture : PictureState
  conjunct : ConjunctState
  /-- It ends with half of a flag whose other half is still missing. -/
  halfFlag : Bool

/-- The state after a character, given the one before it. -/
def ClusterState.after (state : ClusterState) (character : Char) :
    ClusterState :=
  let last := graphemeClass character
  { last
    picture :=
      if pictographSet.contains character then .pictograph
      else
        match state.picture, last with
        | .pictograph, .extender => .pictograph
        | .pictograph, .joiner => .joined
        | _, _ => .none
    conjunct :=
      match conjunctPart character, state.conjunct with
      | .consonant, _ => .consonant
      | .linker, .consonant | .linker, .linked => .linked
      | .neutral, conjunct => conjunct
      | _, _ => .none
    halfFlag := last == .regional && !state.halfFlag }

/-- The state before the first character. -/
def ClusterState.start : ClusterState := ⟨.control, .none, .none, false⟩

/-- Says whether two neighbouring classes belong to one Hangul syllable. -/
def joinsSyllable : GraphemeClass → GraphemeClass → Bool
  | .leading, .leading | .leading, .vowel => true
  | .leading, .openSyllable | .leading, .closedSyllable => true
  | .vowel, .vowel | .vowel, .trailing => true
  | .openSyllable, .vowel | .openSyllable, .trailing => true
  | .trailing, .trailing | .closedSyllable, .trailing => true
  | _, _ => false

/-- Says whether a character goes on with the cluster before it. -/
def ClusterState.joins (state : ClusterState) (character : Char) : Bool :=
  match state.last, graphemeClass character with
  | .carriageReturn, .lineFeed => true
  | .carriageReturn, _ | .lineFeed, _ | .control, _ => false
  | _, .carriageReturn | _, .lineFeed | _, .control => false
  | _, .extender | _, .joiner | _, .spacing => true
  | .preceding, _ => true
  | last, next =>
      joinsSyllable last next ||
        (state.halfFlag && next == .regional) ||
        (state.picture == .joined && pictographSet.contains character) ||
        (state.conjunct == .linked && conjunctPart character == .consonant)

/-- Puts a character in front of the first cluster. -/
def intoFirstCluster (character : Char) : List (List Char) → List (List Char)
  | [] => [[character]]
  | cluster :: clusters => (character :: cluster) :: clusters

/-- Cuts characters into clusters after a state.  A character that goes on with
the next one stands in the same cluster. -/
def graphemesAfter (state : ClusterState) : List Char → List (List Char)
  | [] => []
  | [character] => [[character]]
  | character :: next :: rest =>
      let state := state.after character
      if state.joins next then
        intoFirstCluster character (graphemesAfter state (next :: rest))
      else [character] :: graphemesAfter state (next :: rest)

/-- Cuts characters into clusters. -/
def graphemes (characters : List Char) : List (List Char) :=
  graphemesAfter .start characters

end EntityLink.Text
