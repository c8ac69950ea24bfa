import EntityLink.Code.Grammar.Attribute

/-!
# Paths inside code

A path names an item by segments with `::` between them and perhaps before them.
A segment may carry arguments in angle brackets: lifetimes, constants, types,
and names that are given a type, a constant or bounds.  Lifetimes are written in
front of all other arguments.

In an expression or a pattern, arguments need another `::` before them, because
`<` alone compares.
-/

namespace EntityLink.Code

/-- An argument's code, and whether it is a lifetime. -/
structure WrittenArgument where
  isLifetime : Bool
  tokens : Tokens

/-- Writes arguments that are no lifetimes after those that are; a comma is
added where the last argument written so far has none. -/
def arrange (closed : Bool) : List (WrittenArgument × Bool) → Tokens
  | [] => []
  | (argument, hasComma) :: rest =>
      (if closed then [] else mark ',') ++ argument.tokens ++
        (if hasComma then mark ',' else []) ++ arrange hasComma rest

/-- Writes arguments, each with a comma or not, the lifetimes first. -/
def lifetimesFirst (arguments : List (WrittenArgument × Bool)) : Tokens :=
  let lifetimes := arguments.filter fun argument => argument.1.isLifetime
  let others := arguments.filter fun argument => !argument.1.isLifetime
  lifetimes.flatMap (fun (argument, hasComma) =>
    argument.tokens ++ if hasComma then mark ',' else []) ++
    arrange ((lifetimes.getLast?.map Prod.snd).getD true) others

namespace Grammar

/-- Says whether a constant that needs no other brackets is ahead. -/
def startsConstant (ahead : Tokens) : Bool :=
  ahead.startsLiteral || ahead.startsGroup .curly

variable (grammar : Grammar)

/-- The rule for a constant argument: a literal, a name or a block. -/
def constant : Rule := do
  let ahead ← get
  if ahead.startsLiteral then readLiteral
  else if ahead.startsName then anyWord
  else attributedBlock grammar

def argument : Reader WrittenArgument := do
  let ahead ← get
  if ahead.startsLifetime && !ahead.afterFirst.starts "+" then
    return ⟨true, ← lifetime⟩
  else if startsConstant ahead then return ⟨false, ← constant grammar⟩
  else
    let type ← grammar.type true
    let ahead ← get
    match type.shape with
    | .name =>
        if ahead.starts "=" then
          let equals ← expect "="
          let value ← if startsConstant (← get) then constant grammar
            else grammar.typeRule
          return ⟨false, type.tokens ++ equals ++ value⟩
        else if ahead.starts ":" then
          let colon ← expect ":"
          let bounds ← sumUntil (·.startsAny [",", ">"]) grammar.nameBound
          return ⟨false, type.tokens ++ colon ++ bounds⟩
        else return ⟨false, type.tokens⟩
    | _ => return ⟨false, type.tokens⟩

structure ArgumentsPiece where
  tokens : Tokens
  isEmpty : Bool

def arguments : Reader ArgumentsPiece := do
  let less ← expect "<"
  let arguments ← punctuated (·.starts ">") (argument grammar)
  let greater ← expect ">"
  return ⟨less ++ lifetimesFirst arguments ++ greater, arguments.isEmpty⟩

/-- Reads a segment: its name and its arguments, if it has any. -/
def segment (isInExpression : Bool) :
    Reader (Tokens × Option ArgumentsPiece) := do
  let ahead ← get
  if ahead.startsWord ["super", "self", "crate", "try"] then
    return (← anyWord, none)
  else if ahead.startsSegment then
    let name ← anyWord
    let ahead ← get
    if (!isInExpression && ahead.starts "<" &&
          !ahead.startsAny ["<=", "<<="]) ||
        (ahead.starts "::" && ahead.afterSecond.starts "<") then
      let colons ← allow "::"
      let arguments ← arguments grammar
      return (name,
        some { arguments with tokens := colons ++ arguments.tokens })
    else return (name, none)
  else failure

end Grammar

/-- The path of a single segment after some tokens. -/
def PathPiece.ofSegment (before : Tokens)
    (segment : Tokens × Option Grammar.ArgumentsPiece) : PathPiece where
  base := before ++ segment.1
  arguments := (segment.2.map Grammar.ArgumentsPiece.tokens).getD []
  isOpen := (segment.2.map Grammar.ArgumentsPiece.isEmpty).getD true
  isPlain := segment.2.isNone
  isSingle := before.isEmpty

def PathPiece.extend (path : PathPiece)
    (segment : Tokens × Option Grammar.ArgumentsPiece) : PathPiece :=
  let extended := PathPiece.ofSegment (path.tokens ++ colons) segment
  { extended with isPlain := path.isPlain && extended.isPlain }

namespace Grammar

/-- Says whether another segment is ahead.  A group in round brackets may follow
`::` as well. -/
def startsNextSegment (ahead : Tokens) : Bool :=
  ahead.starts "::" && !ahead.afterSecond.startsGroup .round

variable (grammar : Grammar)

private def extendUpTo (continues : Tokens → Bool) (isInExpression : Bool) :
    Nat → PathPiece → Reader PathPiece
  | 0, path => return path
  | limit + 1, path => do
      if continues (← get) then
        let _ ← expect "::"
        let next ← segment grammar isInExpression
        extendUpTo continues isInExpression limit (path.extend next)
      else return path

/-- Reads further segments of a path, as long as the tokens ahead ask for it. -/
def extend (continues : Tokens → Bool) (isInExpression : Bool)
    (path : PathPiece) :
    Reader PathPiece := do
  extendUpTo grammar continues isInExpression ((← get).length + 1) path

def path (isInExpression : Bool) : Reader PathPiece := do
  let lead ← allow "::"
  let first ← segment grammar isInExpression
  extend grammar startsNextSegment isInExpression (.ofSegment lead first)

/-- Reads a path below a type in angle brackets, which may be taken as a
trait. -/
def pathOfType (isInExpression : Bool) : Reader PathPiece := do
  let less ← expect "<"
  let type ← grammar.typeRule
  let trait ← ifAhead (·.startsWord ["as"]) (do
    return (← anyWord) ++ (← path grammar false).tokens)
  let greater ← expect ">"
  let lead ← expect "::"
  let first ← segment grammar isInExpression
  extend grammar (·.starts "::") isInExpression
    (.ofSegment (less ++ type ++ trait ++ greater ++ lead) first)

end Grammar

end EntityLink.Code
