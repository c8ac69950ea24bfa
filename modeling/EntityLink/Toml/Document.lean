import EntityLink.Toml.Lexical
import EntityLink.Toml.Scalar
import EntityLink.Toml.Table

/-!
# Settings documents

A document in the format TOML, read into one JSON object.  Settings are texts,
truth values, lists and tables; a number or a date keeps its text.
-/

namespace EntityLink.Toml

/-- Lists and inline tables may be nested this deep. -/
def deepest : Nat := 80

mutual

private def readValue : Nat → Nat → List Char → Option (Json × List Char)
  | 0, _, _ => none
  | bound + 1, depth, input =>
      match input with
      | '[' :: rest => do
          let (items, rest) ← readItems bound depth rest
          if depth = 0 then none else return (.array items, rest)
      | '\x7b' :: rest => do
          let (entries, rest) ← readInline bound depth [] rest
          if depth = 0 then none
          else return (.object (entriesToJson entries), rest)
      | '"' :: _ | '\'' :: _ =>
          (readString? input).map fun (text, rest) => (.string text, rest)
      | _ => readScalar? input

private def readItems : Nat → Nat → List Char → Option (List Json × List Char)
  | 0, _, _ => none
  | bound + 1, depth, input => do
      match ← skipLines? bound input with
      | ']' :: rest => return ([], rest)
      | rest =>
          let (item, rest) ← readValue bound (depth - 1) rest
          match ← skipLines? bound rest with
          | ',' :: rest =>
              let (items, rest) ← readItems bound depth rest
              return (item :: items, rest)
          | ']' :: rest => return ([item], rest)
          | _ => none

private def readInline :
    Nat → Nat → Entries → List Char → Option (Entries × List Char)
  | 0, _, _, _ => none
  | bound + 1, depth, entries, input => do
      match ← skipLines? bound input with
      | '\x7d' :: rest => return (entries, rest)
      | rest =>
          let (key, rest) ← readKey? bound rest
          match ← skipLines? bound rest with
          | '=' :: rest =>
              let (value, rest) ←
                readValue bound (depth - 1) (← skipLines? bound rest)
              let entries ← entries.assign value key
              match ← skipLines? bound rest with
              | ',' :: rest => readInline bound depth entries rest
              | '\x7d' :: rest => return (entries, rest)
              | _ => none
          | _ => none

end

/-- What a line of the document says. -/
inductive Statement where
  | openTable (path : List String)
  | openElement (path : List String)
  | assign (key : List String) (value : Json)

private def readHeader (bound : Nat) (input : List Char) :
    Option (Statement × List Char) := do
  match input with
  | '[' :: rest =>
      let (path, rest) ← readKey? bound rest
      match rest with
      | ']' :: ']' :: rest => return (.openElement path, rest)
      | _ => none
  | _ =>
      let (path, rest) ← readKey? bound input
      match rest with
      | ']' :: rest => return (.openTable path, rest)
      | _ => none

private def readStatement (bound : Nat) (input : List Char) :
    Option (Statement × List Char) :=
  match input with
  | '[' :: rest => readHeader bound rest
  | _ => do
      let (key, rest) ← readKey? bound input
      match rest with
      | '=' :: rest =>
          let (value, rest) ← readValue bound deepest (skipSpaces rest)
          return (.assign key value, rest)
      | _ => none

private def readStatements : Nat → List Char → Option (List Statement)
  | 0, _ => none
  | bound + 1, input => do
      match ← skipLines? bound input with
      | [] => return []
      | rest =>
          let (statement, rest) ← readStatement bound rest
          let rest ← endLine? rest
          return statement :: (← readStatements bound rest)

/-- The tables built so far and the path of the open one. -/
private structure Progress where
  entries : Entries
  path : List String

private def Progress.apply (progress : Progress) : Statement → Option Progress
  | .openTable path => do
      return ⟨← progress.entries.openTable path, path⟩
  | .openElement path => do
      return ⟨← progress.entries.openElement path, path⟩
  | .assign key value => do
      return { progress with
        entries := ← progress.entries.within
          (fun inner => inner.assign value key) progress.path }

private def withoutMark : List Char → List Char
  | character :: rest =>
      if character.toNat = 0xfeff then rest else character :: rest
  | [] => []

/-- Reads a document; `none` if it is not well formed.  Every step of a reader
consumes a character or opens a value, so twice the length of the text bounds
the recursion. -/
def parse? (text : String) : Option Json := do
  let input := withoutMark text.toList
  let statements ← readStatements (2 * input.length + 2) input
  let progress ← statements.foldlM Progress.apply ⟨[], []⟩
  return .object (entriesToJson progress.entries)

end EntityLink.Toml
