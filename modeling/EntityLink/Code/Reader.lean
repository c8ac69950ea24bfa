import EntityLink.Code.Lexer

/-!
# Reading code token by token

A reader takes some of the tokens ahead or fails; a rule is a reader that says
how the tokens it took are written.  A rule decides what to do by looking at the
tokens ahead, and never goes back.

Symbols of several marks, such as `::`, have to be joined in the tokens ahead
and are written so; a mark that is read alone is written alone.
-/

namespace EntityLink.Code

/-- Words that are no names unless they are marked. -/
def keywords : List String := [
  "_", "abstract", "as", "async", "await", "become", "box", "break", "const",
    "continue", "crate",
  "do", "dyn", "else", "enum", "extern", "false", "final", "fn",
  "for", "if", "impl", "in", "let", "loop", "macro", "match", "mod", "move",
  "mut", "override", "priv", "pub", "ref", "return", "Self", "self", "static",
  "struct", "super", "trait", "true", "try", "type", "typeof", "unsafe",
  "unsized", "use", "virtual", "where", "while", "yield"]

/-- The marks of a symbol, joined. -/
def marksOf : List Char → Tokens
  | [] => []
  | [last] => [.mark last false]
  | character :: rest => .mark character true :: marksOf rest

namespace Tokens

private def startsMarks : List Char → Tokens → Bool
  | [last], .mark character _ :: _ => character == last
  | first :: symbol, .mark character isJoint :: rest =>
      character == first && isJoint && startsMarks symbol rest
  | _, _ => false

/-- Says whether a symbol is ahead, or one that starts with it. -/
def starts (tokens : Tokens) (symbol : String) : Bool :=
  startsMarks symbol.toList tokens

def startsAny (tokens : Tokens) (symbols : List String) : Bool :=
  symbols.any tokens.starts

def startsWord (tokens : Tokens) (words : List String) : Bool :=
  match tokens with
  | .word text :: _ => words.contains text
  | _ => false

/-- Says whether a word is ahead, be it a name or a keyword. -/
def startsAnyWord : Tokens → Bool
  | .word _ :: _ => true
  | _ => false

def startsName : Tokens → Bool
  | .word text :: _ => !keywords.contains text
  | _ => false

def startsLifetime : Tokens → Bool
  | .mark '\'' true :: .word _ :: _ => true
  | _ => false

def startsGroup (tokens : Tokens) (bracket : Bracket) : Bool :=
  match tokens with
  | .group ahead _ :: _ => ahead == bracket
  | _ => false

/-- Says whether a group of any kind is ahead. -/
def startsAnyGroup : Tokens → Bool
  | .group _ _ :: _ => true
  | _ => false

/-- Says whether a literal is ahead, a truth value or a negative number
included. -/
def startsLiteral : Tokens → Bool
  | .literal _ :: _ => true
  | .word text :: _ => text == "true" || text == "false"
  | .mark '-' _ :: .literal text :: _ => Literal.isNumber text
  | _ => false

/-- Says whether a name starts ahead that a path may start with. -/
def startsSegment (tokens : Tokens) : Bool :=
  tokens.startsName || tokens.startsWord ["self", "Self", "super", "crate"]

/-- The tokens after the first one.  A lifetime counts as one. -/
def afterFirst (tokens : Tokens) : Tokens :=
  if tokens.startsLifetime then tokens.drop 2 else tokens.drop 1

/-- The tokens after the first two. -/
def afterSecond (tokens : Tokens) : Tokens := tokens.afterFirst.afterFirst

end Tokens

/-- Takes some of the tokens ahead, or fails. -/
abbrev Reader (α : Type) : Type := StateT Tokens Option α

/-- Says how the tokens that it takes are written. -/
abbrev Rule : Type := Reader Tokens

instance : Append Rule where
  append first second := do return (← first) ++ (← second)

/-- Takes nothing. -/
def nothing : Rule := return []

def expect (symbol : String) : Rule := do
  let tokens ← get
  if tokens.starts symbol then
    set (tokens.drop symbol.length)
    return marksOf symbol.toList
  else failure

/-- Takes one of some words. -/
def expectWord (words : List String) : Rule := do
  match ← get with
  | .word text :: rest =>
      if words.contains text then
        set rest
        return word text
      else failure
  | _ => failure

/-- Follows a rule if the tokens ahead ask for it. -/
def ifAhead (asks : Tokens → Bool) (rule : Rule) : Rule := do
  if asks (← get) then rule else nothing

def allow (symbol : String) : Rule := ifAhead (·.starts symbol) (expect symbol)

def allowWord (text : String) : Rule :=
  ifAhead (·.startsWord [text]) (expectWord [text])

/-- Takes a word, be it a name or a keyword. -/
def anyWord : Rule := do
  match ← get with
  | .word text :: rest =>
      set rest
      return word text
  | _ => failure

def readName : Rule := do
  if (← get).startsName then anyWord else failure

def lifetime : Rule := do
  match ← get with
  | .mark '\'' true :: .word text :: rest =>
      set rest
      return .mark '\'' true :: word text
  | _ => failure

/-- Takes a literal.  The sign of a negative number is a token of its own. -/
def readLiteral : Rule := do
  let tokens ← get
  match tokens with
  | .mark '-' _ :: token :: rest =>
      if tokens.startsLiteral then
        set rest
        return mark '-' ++ [token]
      else failure
  | token :: rest =>
      if tokens.startsLiteral then
        set rest
        return [token]
      else failure
  | [] => failure

/-- Takes a group, all of it read by a reader of its own. -/
def within {α : Type} (bracket : Bracket) (reader : Reader α) : Reader α := do
  match ← get with
  | .group ahead inner :: rest =>
      match reader.run inner with
      | some (value, []) =>
          if ahead = bracket then
            set rest
            return value
          else failure
      | _ => failure
  | _ => failure

/-- Takes a group, its tokens written by a rule. -/
def inGroup (bracket : Bracket) (rule : Rule) : Rule := do
  return [.group bracket (← within bracket rule)]

/-- Takes a group as it is. -/
def anyGroup : Rule := do
  match ← get with
  | .group bracket inner :: rest =>
      set rest
      return [.group bracket inner]
  | _ => failure

/-- Writes the tokens that a reader takes as they are. -/
def verbatim {α : Type} (reader : Reader α) : Rule := do
  let before ← get
  let _ ← reader
  return before.take (before.length - (← get).length)

private def repeatRule (continues : Tokens → Bool) (rule : Rule) : Nat → Rule
  | 0 => nothing
  | bound + 1 => ifAhead continues (rule ++ repeatRule continues rule bound)

/-- Follows a rule as long as the tokens ahead ask for it. -/
def repeated (continues : Tokens → Bool) (rule : Rule) : Rule := do
  repeatRule continues rule ((← get).length + 1)

private def punctuatedUpTo {α : Type} (stops : Tokens → Bool)
    (item : Reader α) :
    Nat → Reader (List (α × Bool))
  | 0 => failure
  | bound + 1 => do
      if stops (← get) then return []
      let value ← item
      if stops (← get) then return [(value, false)]
      let _ ← expect ","
      return (value, true) :: (← punctuatedUpTo stops item bound)

/-- Takes items with commas between them and perhaps after the last one, up to a
stop.  Says for each item whether a comma follows it. -/
def punctuated {α : Type} (stops : Tokens → Bool) (item : Reader α) :
    Reader (List (α × Bool)) := do
  punctuatedUpTo stops item ((← get).length + 1)

/-- Takes items with commas between them and perhaps after the last one, up to a
stop. -/
def listUntil (stops : Tokens → Bool) (item : Rule) : Rule := do
  return (← punctuated stops item).flatMap fun (tokens, hasComma) =>
    tokens ++ if hasComma then mark ',' else []

/-- Takes all tokens ahead, as items with commas between them. -/
def list (item : Rule) : Rule := listUntil List.isEmpty item

private def sumUpTo (stops : Tokens → Bool) (item : Rule) : Nat → Rule
  | 0 => failure
  | bound + 1 =>
      ifAhead (!stops ·) (item ++
        ifAhead (·.starts "+") (expect "+" ++ sumUpTo stops item bound))

/-- Takes items with plus signs between them and perhaps after the last one, up
to a stop. -/
def sumUntil (stops : Tokens → Bool) (item : Rule) : Rule := do
  sumUpTo stops item ((← get).length + 1)

end EntityLink.Code
