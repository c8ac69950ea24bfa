/-!
# Words of a settings document

Blanks, comments, line ends, keys and strings of the document format TOML.
Every reader takes the characters ahead and returns what it read together with
the characters after it.
-/

namespace EntityLink.Toml

/-- Says whether a character may not stand in a comment or string: a control
other than a tab. -/
def isControl (character : Char) : Bool :=
  (character.toNat < 0x20 && character != '\t') || character.toNat == 0x7f

def skipSpaces (input : List Char) : List Char :=
  input.dropWhile fun character => character == ' ' || character == '\t'

/-- Skips a comment, up to the end of its line; `none` if it holds a control
character. -/
def skipComment : List Char → Option (List Char)
  | '#' :: rest => go rest
  | input => some input
where
  go : List Char → Option (List Char)
    | [] => some []
    | '\n' :: rest => some ('\n' :: rest)
    | '\r' :: '\n' :: rest => some ('\n' :: rest)
    | character :: rest => if isControl character then none else go rest

/-- Reads the end of a line, after spaces and a comment.  The end of the
document will do. -/
def endLine? (input : List Char) : Option (List Char) := do
  match ← skipComment (skipSpaces input) with
  | [] => some []
  | '\n' :: rest => some rest
  | '\r' :: '\n' :: rest => some rest
  | _ => none

/-- Skips spaces, comments and line ends, as many as the bound allows. -/
def skipLines? : Nat → List Char → Option (List Char)
  | 0, input => some input
  | bound + 1, input => do
      match ← skipComment (skipSpaces input) with
      | '\n' :: rest => skipLines? bound rest
      | '\r' :: '\n' :: rest => skipLines? bound rest
      | rest => some rest

private def hexValue? (character : Char) : Option Nat :=
  if character.isDigit then some (character.toNat - 0x30)
  else if 'a' ≤ character ∧ character ≤ 'f' then some (character.toNat - 0x57)
  else if 'A' ≤ character ∧ character ≤ 'F' then some (character.toNat - 0x37)
  else none

private def codePoint? (digits : List Char) : Option Char := do
  let code ←
    digits.foldlM (fun value digit => (hexValue? digit).map (16 * value + ·)) 0
  if code < 0xd800 ∨
    (0xe000 ≤ code ∧ code < 0x110000) then some (Char.ofNat code)
  else none

/-- The character that a letter after a backslash stands for. -/
def escaped? : Char → Option Char
  | 'b' => some (Char.ofNat 0x8)
  | 't' => some '\t'
  | 'n' => some '\n'
  | 'f' => some (Char.ofNat 0xc)
  | 'r' => some '\r'
  | 'e' => some (Char.ofNat 0x1b)
  | '"' => some '"'
  | '\\' => some '\\'
  | _ => none

/-- The number of hexadecimal digits after a letter that spells a character by
its code point. -/
def spelledDigits? : Char → Option Nat
  | 'x' => some 2
  | 'u' => some 4
  | 'U' => some 8
  | _ => none

/-- Reads the character that an escape sequence stands for, after its
backslash. -/
def readEscape : List Char → Option (Char × List Char)
  | [] => none
  | letter :: rest =>
      match spelledDigits? letter with
      | some count =>
          if rest.length < count then none
          else (codePoint? (rest.take count)).map (·, rest.drop count)
      | none => (escaped? letter).map (·, rest)

private def skipFolded : List Char → List Char
  | ' ' :: rest | '\t' :: rest | '\n' :: rest | '\r' :: '\n' :: rest =>
      skipFolded rest
  | input => input

private def foldsLine (input : List Char) : Bool :=
  match skipSpaces input with
  | '\n' :: _ => true
  | '\r' :: '\n' :: _ => true
  | _ => false

/-- Reads a string with escapes up to its closing quotation mark. -/
def readBasic : Nat → List Char → Option (List Char × List Char)
  | 0, _ | _, [] => none
  | _ + 1, '"' :: rest => some ([], rest)
  | bound + 1, '\\' :: rest => do
      let (character, rest) ← readEscape rest
      let (text, rest) ← readBasic bound rest
      return (character :: text, rest)
  | bound + 1, character :: rest =>
      if isControl character then none
      else do
        let (text, rest) ← readBasic bound rest
        return (character :: text, rest)

/-- Reads a string without escapes up to its closing apostrophe. -/
def readLiteral : List Char → Option (List Char × List Char)
  | [] => none
  | '\'' :: rest => some ([], rest)
  | character :: rest =>
      if isControl character then none
      else do
        let (text, rest) ← readLiteral rest
        return (character :: text, rest)

/-- Reads a string of several lines up to three closing quotation marks.  It may
end with one or two marks of its own.  Ends of lines are kept as they are.  With
escapes, a backslash at the end of a line joins the lines. -/
def readLines (mark : Char) (escapes : Bool) :
    Nat → List Char → Option (List Char × List Char)
  | 0, _ | _, [] => none
  | bound + 1, character :: rest =>
      if character = mark then
        let marks := (rest.takeWhile (· == mark)).length + 1
        if marks < 3 then do
          let (text, rest) ← readLines mark escapes bound rest
          return (character :: text, rest)
        else if marks ≤ 5 then
          some (List.replicate (marks - 3) mark, rest.drop (marks - 1))
        else none
      else if character = '\\' ∧ escapes then
        if foldsLine rest then readLines mark escapes bound (skipFolded rest)
        else do
          let (character, rest) ← readEscape rest
          let (text, rest) ← readLines mark escapes bound rest
          return (character :: text, rest)
      else if character = '\r' then
        match rest with
        | '\n' :: rest => do
            let (text, rest) ← readLines mark escapes bound rest
            return ('\r' :: '\n' :: text, rest)
        | _ => none
      else if isControl character && character != '\n' then none
      else do
        let (text, rest) ← readLines mark escapes bound rest
        return (character :: text, rest)

private def skipFirstLineEnd : List Char → List Char
  | '\n' :: rest => rest
  | '\r' :: '\n' :: rest => rest
  | input => input

/-- Reads a string of any of the four forms. -/
def readString? (input : List Char) : Option (String × List Char) := do
  let (text, rest) ← match input with
    | '"' :: '"' :: '"' :: rest =>
        readLines '"' true (rest.length + 1) (skipFirstLineEnd rest)
    | '\'' :: '\'' :: '\'' :: rest =>
        readLines '\'' false (rest.length + 1) (skipFirstLineEnd rest)
    | '"' :: rest => readBasic (rest.length + 1) rest
    | '\'' :: rest => readLiteral rest
    | _ => none
  return (String.ofList text, rest)

private def isBareKeyChar (character : Char) : Bool :=
  character.isAlphanum || character == '_' || character == '-'

/-- Reads one part of a key: a word, or a string on one line. -/
def readKeyPart? (input : List Char) : Option (String × List Char) :=
  match input with
  | '"' :: rest => (readBasic (rest.length + 1) rest).map fun (text, rest) =>
      (String.ofList text, rest)
  | '\'' :: rest =>
      (readLiteral rest).map fun (text, rest) => (String.ofList text, rest)
  | input =>
      let word := input.takeWhile isBareKeyChar
      if word.isEmpty then none
      else some (String.ofList word, input.drop word.length)

/-- Reads a key, its parts separated by dots, and the spaces after it. -/
def readKey? : Nat → List Char → Option (List String × List Char)
  | 0, _ => none
  | bound + 1, input => do
      let (part, rest) ← readKeyPart? (skipSpaces input)
      match skipSpaces rest with
      | '.' :: rest =>
          let (parts, rest) ← readKey? bound rest
          return (part :: parts, rest)
      | rest => return ([part], rest)

end EntityLink.Toml
