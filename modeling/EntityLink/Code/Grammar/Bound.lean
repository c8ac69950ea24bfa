import EntityLink.Code.Grammar.Path

/-!
# Bounds

A bound is a lifetime or a trait, perhaps for all lifetimes of a list, perhaps
in round brackets.  A trait of functions lists the types of its inputs in round
brackets and has a type of result.
-/

namespace EntityLink.Code.Grammar

variable (grammar : Grammar)

/-- The rule for the type of a result, if there is one. -/
def result : Rule := ifAhead (·.starts "->") (expect "->" ++ grammar.tightType)

/-- The rule for inputs in round brackets and the type of the result. -/
def inputs : Rule := inGroup .round (list grammar.typeRule) ++ result grammar

/-- Says whether inputs are ahead, perhaps after `::`. -/
def startsInputs (ahead : Tokens) : Bool :=
  ahead.startsGroup .round ||
    (ahead.starts "::" && ahead.afterSecond.startsGroup .round)

def lifetimeParameter : Rule := do
  let name ← lifetime
  if (← get).starts ":" then
    let colon ← expect ":"
    let bounds ← sumUntil
      (fun ahead => ahead.isEmpty || ahead.startsAny [",", ">"]) lifetime
    return name ++ if bounds.isEmpty then [] else colon ++ bounds
  else return name

def typeParameter : Rule := do
  let name ← readName
  let colon ← allow ":"
  let bounds ← if colon.isEmpty then nothing
    else sumUntil (fun ahead => ahead.isEmpty ||
      ahead.startsAny [",", ">", "="]) grammar.nameBound
  let default ← ifAhead (·.starts "=") (expect "=" ++ grammar.typeRule)
  return name ++ (if bounds.isEmpty then [] else colon ++ bounds) ++ default

def constantParameter : Rule :=
  expectWord ["const"] ++ readName ++ expect ":" ++ grammar.typeRule ++
    ifAhead (·.starts "=") (expect "=" ++ constant grammar)

def parameter : Rule := do
  let attributes ← outerAttributes grammar
  let ahead ← get
  let declared ←
    if ahead.startsName then typeParameter grammar
    else if ahead.startsLifetime then lifetimeParameter
    else constantParameter grammar
  return attributes ++ declared

def parameters : Rule :=
  expect "<" ++ listUntil (·.starts ">") (parameter grammar) ++ expect ">"

/-- The rule for a list of lifetimes that something holds for, if there is
one. -/
def binder : Rule :=
  ifAhead (·.startsWord ["for"]) (expectWord ["for"] ++ parameters grammar)

/-- Reads a trait, and says whether it is one of constants. -/
def trait (context : BoundContext) : Reader (Tokens × Bool) := do
  let before ← binder grammar
  let ahead ← get
  let isConst := ahead.startsGroup .square || ahead.startsWord ["const"]
  let constness ←
    if ahead.startsGroup .square then inGroup .square (expectWord ["const"])
    else allowWord "const"
  if isConst && !context.allowConst then failure
  let question ← allow "?"
  let after ← if before.isEmpty && !question.isEmpty then binder grammar
    else nothing
  let path ← path grammar false
  let tokens ←
    if path.isOpen && startsInputs (← get) then
      let _ ← allow "::"
      let inputs ← inputs grammar
      pure (path.base ++ inputs)
    else pure path.tokens
  if !question.isEmpty && !(before ++ after).isEmpty then failure
  return (before ++ constness ++ question ++ tokens, isConst)

/-- Reads a list of what a type captures: lifetimes first, then names. -/
def captures : Rule := do
  let keyword ← expectWord ["use"]
  let less ← expect "<"
  let captured ← punctuated (·.starts ">") (do
    let ahead ← get
    if ahead.startsLifetime then return (⟨true, ← lifetime⟩ : WrittenArgument)
    else if ahead.startsName ||
      ahead.startsWord ["Self"] then return ⟨false, ← anyWord⟩
    else failure)
  let greater ← expect ">"
  return keyword ++ less ++ lifetimesFirst captured ++ greater

def singleBound (context : BoundContext) : Reader BoundPiece := do
  let ahead ← get
  if ahead.startsLifetime then
    let tokens ← lifetime
    return ⟨tokens, tokens, false⟩
  else if ahead.startsWord ["use"] then
    let tokens ← captures
    if context.allowCaptures then return ⟨tokens, tokens, false⟩ else failure
  else
    let isBracketed := ahead.startsGroup .round
    let (inner, isConst) ←
      if isBracketed then within .round (trait grammar context)
      else trait grammar context
    let taken := ahead.take (ahead.length - (← get).length)
    let tokens := if isConst then taken
      else if isBracketed then round inner else inner
    return ⟨tokens, inner, true⟩

structure SumPiece where
  tokens : Tokens
  hasTrait : Bool

/-- Says whether another bound is ahead, after a plus sign. -/
def startsBound (context : BoundContext) (ahead : Tokens) : Bool :=
  ahead.startsAnyWord || ahead.startsAny ["::", "?"] || ahead.startsLifetime ||
    ahead.startsGroup .round ||
    (context.allowConst && ahead.startsGroup .square)

private def boundsUpTo (context : BoundContext) (allowSum : Bool) :
    Nat → Reader SumPiece
  | 0 => failure
  | limit + 1 => do
      let first ← singleBound grammar context
      if allowSum && (← get).starts "+" then
        let plus ← expect "+"
        if startsBound context (← get) then
          let rest ← boundsUpTo context allowSum limit
          return ⟨first.tokens ++ plus ++ rest.tokens,
            first.isTrait || rest.hasTrait⟩
        else return ⟨first.tokens ++ plus, first.isTrait⟩
      else return ⟨first.tokens, first.isTrait⟩

/-- The rule for bounds with plus signs between them and perhaps after the last
one, if more than one is allowed.  One of them has to be a trait. -/
def bounds (context : BoundContext) (allowSum : Bool) : Rule := do
  let sum ← boundsUpTo grammar context allowSum ((← get).length + 1)
  if sum.hasTrait then return sum.tokens else failure

end EntityLink.Code.Grammar
