import EntityLink.Code.Literal
import EntityLink.Code.Token
import EntityLink.Text.Blank

/-!
# Reading tokens

A text of code is a row of tokens, brackets in pairs.  White space and comments
between tokens do not matter, except that a comment which documents an item
stands for the attribute with the same meaning.  `Tokens.ofText?` reads a text;
it fails where no token starts.
-/

namespace EntityLink.Code

namespace Lexer

/-- Says whether a character separates tokens. -/
def isBetween (character : Char) : Bool :=
  Text.isBlankChar character || character.toNat == 0x200e ||
    character.toNat == 0x200f

/-- Skips the rest of a comment in brackets, in which comments may be nested. -/
def skipNested? (depth : Nat) : List Char → Option (List Char)
  | '/' :: '*' :: rest => skipNested? (depth + 1) rest
  | '*' :: '/' :: rest =>
      if depth ≤ 1 then some rest else skipNested? (depth - 1) rest
  | _ :: rest => skipNested? depth rest
  | [] => none

/-- Cuts a line off the characters ahead.  The line feed stays, a carriage
return before it goes. -/
def cutLine : List Char → List Char × List Char
  | [] => ([], [])
  | '\n' :: rest => ([], '\n' :: rest)
  | '\r' :: '\n' :: rest => ([], '\n' :: rest)
  | character :: rest =>
      let (line, rest) := cutLine rest
      (character :: line, rest)

/-- Skips a comment that documents nothing. -/
def skipComment? (input : List Char) : Option (List Char) :=
  match input with
  | '/' :: '/' :: '/' :: '/' :: _ => some (cutLine input).2
  | '/' :: '/' :: '/' :: _ | '/' :: '/' :: '!' :: _ => none
  | '/' :: '/' :: _ => some (cutLine input).2
  | '/' :: '*' :: '*' :: '/' :: rest => some rest
  | '/' :: '*' :: '*' :: '*' :: _ => skipNested? 0 input
  | '/' :: '*' :: '*' :: _ | '/' :: '*' :: '!' :: _ => none
  | '/' :: '*' :: _ => skipNested? 0 input
  | _ => none

/-- Skips white space and comments, as many as the bound allows. -/
def skipBetween : Nat → List Char → List Char
  | 0, input => input
  | bound + 1, input =>
      match skipComment? input with
      | some rest => skipBetween bound rest
      | none =>
          match input with
          | character :: rest =>
              if isBetween character then skipBetween bound rest else input
          | [] => []

private def hasBareReturn : List Char → Bool
  | [] => false
  | '\r' :: '\n' :: rest => hasBareReturn rest
  | character :: rest => character == '\r' || hasBareReturn rest

/-- Cuts the text of a documenting comment off the characters ahead, and says
whether it documents the item that it is in. -/
def cutDocumentation? (input : List Char) :
    Option (Bool × List Char × List Char) :=
  let line (isInner : Bool) : Option (Bool × List Char × List Char) :=
    let (text, rest) := cutLine (input.drop 3)
    some (isInner, text, rest)
  let block (isInner : Bool) : Option (Bool × List Char × List Char) := do
    let rest ← skipNested? 0 input
    let comment := input.take (input.length - rest.length)
    return (isInner, (comment.drop 3).dropLast.dropLast, rest)
  match input with
  | '/' :: '/' :: '!' :: _ => line true
  | '/' :: '*' :: '!' :: _ => block true
  | '/' :: '/' :: '/' :: '/' :: _ | '/' :: '*' :: '*' :: '*' :: _ => none
  | '/' :: '/' :: '/' :: _ => line false
  | '/' :: '*' :: '*' :: _ => block false
  | _ => none

/-- Reads a documenting comment as the attribute that it stands for. -/
def readDocumentation? (input : List Char) : Option (Tokens × List Char) := do
  let (isInner, comment, rest) ← cutDocumentation? input
  if hasBareReturn comment then none
  else
    return (mark '#' ++ (if isInner then mark '!' else []) ++
      square (word "doc" ++ mark '=' ++ text (String.ofList comment)), rest)

/-- The characters that are tokens by themselves or parts of symbols. -/
def markChars : List Char := "~!@#$%^&*-=+|;:,<.>/?'".toList

/-- Says whether a mark is ahead.  The start of a comment is none. -/
def startsMark : List Char → Bool
  | '/' :: '/' :: _ | '/' :: '*' :: _ => false
  | character :: _ => markChars.contains character
  | [] => false

/-- Words that cannot be marked not to be keywords. -/
def unmarkable : List String := ["_", "super", "self", "Self", "crate"]

/-- Reads a word, perhaps marked not to be a keyword. -/
def readAnyWord? (input : List Char) : Option (String × List Char) :=
  match input with
  | 'r' :: '#' :: rest => do
      let (name, rest) ← Literal.readName? rest
      let name := String.ofList name
      if unmarkable.contains name then none else return ("r#" ++ name, rest)
  | input => (Literal.readName? input).map fun (name, rest) =>
      (String.ofList name, rest)

/-- How literals start that do not start with a digit or quotation mark; no word
starts so. -/
def literalStarts : List (List Char) :=
  ["r\"", "r#\"", "r##", "b\"", "b'", "br\"", "br#", "c\"", "cr\"", "cr#"].map
    String.toList

def readWord? (input : List Char) : Option (Token × List Char) :=
  if literalStarts.any (·.isPrefixOf input) then none
  else (readAnyWord? input).map fun (name, rest) => (.word name, rest)

/-- Reads a mark.  An apostrophe has to start a lifetime. -/
def readMark? (input : List Char) : Option (Token × List Char) :=
  if !startsMark input then none
  else
    match input with
    | '\'' :: rest => do
        match (← readAnyWord? rest).2 with
        | '\'' :: _ => none
        | '#' :: _ =>
            if ['r', '#'].isPrefixOf rest then some (.mark '\'' true, rest)
            else none
        | _ => some (.mark '\'' true, rest)
    | character :: rest => some (.mark character (startsMark rest), rest)
    | [] => none

def readLiteral? (input : List Char) : Option (Token × List Char) := do
  let rest ← Literal.skip? input
  return (.literal (String.ofList (input.take (input.length - rest.length))),
    rest)

/-- The spelling of a literal that stands for a mistake. -/
def mistake : List Char := "(/*ERROR*/)".toList

/-- Reads a token other than a group. -/
def readLeaf? (input : List Char) : Option (Token × List Char) :=
  if mistake.isPrefixOf input then
    some (.literal (String.ofList mistake), input.drop mistake.length)
  else
    (readLiteral? input).orElse fun _ =>
      (readMark? input).orElse fun _ => readWord? input

def opening? : List Char → Option (Bracket × List Char)
  | '(' :: rest =>
      if mistake.isPrefixOf ('(' :: rest) then none else some (.round, rest)
  | '[' :: rest => some (.square, rest)
  | '\x7b' :: rest => some (.curly, rest)
  | _ => none

def closing? : List Char → Option (Bracket × List Char)
  | ')' :: rest => some (.round, rest)
  | ']' :: rest => some (.square, rest)
  | '\x7d' :: rest => some (.curly, rest)
  | _ => none

/-- Reads tokens up to a closing bracket or the end.  The bound is the number of
characters. -/
def readTokens? : Nat → List Char → Option (Tokens × List Char)
  | 0, input => if input.isEmpty then some ([], []) else none
  | bound + 1, input =>
      let input := skipBetween (input.length + 1) input
      match readDocumentation? input with
      | some (documentation, rest) => do
          let (tokens, rest) ← readTokens? bound rest
          return (documentation ++ tokens, rest)
      | none =>
          if input.isEmpty || (closing? input).isSome then some ([], input)
          else
            match opening? input with
            | some (bracket, rest) => do
                let (inner, rest) ← readTokens? bound rest
                let (closed, rest) ← closing? rest
                if closed = bracket then
                  let (tokens, rest) ← readTokens? bound rest
                  return (.group bracket inner :: tokens, rest)
                else none
            | none => do
                let (token, rest) ← readLeaf? input
                let (tokens, rest) ← readTokens? bound rest
                return (token :: tokens, rest)

/-- Drops a byte order mark from the front of a text. -/
def withoutMark : List Char → List Char
  | first :: rest => if first.toNat = 0xfeff then rest else first :: rest
  | [] => []

end Lexer

def Tokens.ofText? (text : String) : Option Tokens := do
  let input := Lexer.withoutMark text.toList
  match ← Lexer.readTokens? (input.length + 1) input with
  | (tokens, []) => return tokens
  | _ => none

end EntityLink.Code
