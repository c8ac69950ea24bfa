import EntityLink.Code.Grammar.Bound

/-!
# Types inside code

Types are paths, tuples, lists, references, pointers, functions, sums of bounds,
and what a macro makes of its arguments.
-/

namespace EntityLink.Code.Grammar

variable (grammar : Grammar)

private def withInputsUpTo : Nat → PathPiece → Reader (PathPiece × Bool)
  | 0, path => return (path, false)
  | limit + 1, path => do
      if path.isOpen && startsInputs (← get) then
        let _ ← allow "::"
        let inputs ← inGroup .round (list grammar.typeRule)
        let arrow ← allow "->"
        let result ← if arrow.isEmpty then pure none
          else some <$> grammar.type false
        let path : PathPiece := { path with
          arguments := inputs ++ arrow ++ (result.map TypePiece.tokens).getD []
          isOpen := false
          isPlain := false }
        match result with
        | none | some ⟨_, .bracketed⟩ =>
            let path ← extend grammar startsNextSegment false path
            return ((← withInputsUpTo limit path).1, true)
        | some _ => return (path, true)
      else return (path, false)

/-- Reads the inputs of the last segment of a path in a type, if it has any, and
the segments after them.  Says whether there were any. -/
def withInputs (path : PathPiece) : Reader (PathPiece × Bool) := do
  withInputsUpTo grammar ((← get).length + 1) path

/-- The bounds that a sum may have. -/
def plainContext : BoundContext :=
  { allowCaptures := false, allowConst := false }

/-- The rule for a further bound of a sum. -/
def furtherBound : Rule := do return (← grammar.bound plainContext).tokens

/-- The rule for further bounds of a sum, each after a plus sign. -/
def furtherBounds : Rule :=
  repeated (·.starts "+") (expect "+" ++ furtherBound grammar)

private def sumTailUpTo : Nat → Rule
  | 0 => failure
  | limit + 1 => ifAhead (·.starts "+") (expect "+" ++
      ifAhead (startsBound plainContext)
        (furtherBound grammar ++ sumTailUpTo limit))

/-- The rule for further bounds of a sum, which may end with a plus sign. -/
def sumTail : Rule := do sumTailUpTo grammar ((← get).length + 1)

/-- Reads a type that starts with a path, after a list of lifetimes that it
holds for. -/
def typeOfPath (allowSum : Bool) (binder : Tokens) : Reader TypePiece := do
  if (← get).starts "<" then
    let (path, _) ← withInputs grammar (← pathOfType grammar false)
    return ⟨path.tokens, .other⟩
  else
    let (path, hasInputs) ← withInputs grammar (← path grammar false)
    let ahead ← get
    if ahead.starts "!" && !ahead.starts "!=" && path.isPlain then
      return ⟨path.tokens ++ (← expect "!") ++ (← anyGroup), .other⟩
    else if allowSum && ahead.starts "+" then
      return ⟨binder ++ path.tokens ++ (← sumTail grammar), .other⟩
    else if !binder.isEmpty then
      return ⟨binder ++ path.tokens, .bound (binder ++ path.tokens)⟩
    else return ⟨path.tokens,
      if path.isSingle && !hasInputs then .name else .path⟩

/-- Reads a type that starts with a group in round brackets: a tuple, a type in
brackets, or a sum whose first bound is in brackets. -/
def typeOfGroup (allowSum : Bool) : Reader TypePiece := do
  match ← get with
  | .group .round [] :: _ => return ⟨← anyGroup, .other⟩
  | .group .round inner :: _ =>
      if Tokens.startsLifetime inner then
        return ⟨← inGroup .round (bounds grammar plainContext true), .bracketed⟩
      else if Tokens.starts inner "?" then
        let (trait, _) ← within .round (trait grammar plainContext)
        let rest ← furtherBounds grammar
        return ⟨round trait ++ rest,
          if rest.isEmpty then .bound trait else .other⟩
      else
        let (type, rest) ← within .round (do
          let type ← grammar.type true
          if (← get).isEmpty then return (type, none)
          else return (type,
            some ((← expect ",") ++ (← list grammar.typeRule))))
        match rest with
        | some rest => return ⟨round (type.tokens ++ rest), .other⟩
        | none =>
            if allowSum && (← get).starts "+" then
              match type.shape with
              | .name | .path =>
                  return ⟨round type.tokens ++ (← furtherBounds grammar),
                    .other⟩
              | .bound inner =>
                  return ⟨round inner ++ (← furtherBounds grammar), .other⟩
              | .bracketed | .other => return ⟨round type.tokens, .bracketed⟩
            else return ⟨round type.tokens, .bracketed⟩
  | _ => failure

/-- The rule for the name of a calling convention, if there is one. -/
def convention : Rule :=
  ifAhead (·.startsWord ["extern"]) (anyWord ++ ifAhead (fun ahead =>
    match ahead with
    | .literal text :: _ => Literal.isText text
    | _ => false) readLiteral)

/-- The rule for an input of a function type, after its attributes.  The first
one may be the object at hand, which is kept as it is written if it may be
changed. -/
def functionInput (isFirst : Bool) : Rule := do
  let before ← get
  let startsChangeable (ahead : Tokens) : Bool :=
    isFirst && ahead.startsWord ["mut"] && ahead.afterFirst.startsWord ["self"]
  let isChangeable := startsChangeable before
  let _ ← ifAhead startsChangeable anyWord
  let ahead ← get
  let isSelf := isFirst && ahead.startsWord ["self"]
  let next := ahead.afterFirst
  let isNamed :=
    (ahead.startsName || ahead.startsWord ["_"] || isSelf) && next.starts ":" &&
    !next.starts "::"
  let name ← if isNamed then anyWord ++ expect ":" else nothing
  if startsChangeable (← get) && !(isNamed && isSelf) then
    let _ ← anyWord ++ anyWord
    return before.take (before.length - (← get).length)
  else
    let type ← if isChangeable && !isNamed then expectWord ["self"]
      else grammar.typeRule
    let after ← get
    return if isChangeable then before.take (before.length - after.length)
      else name ++ type

/-- Says whether the sign for any number of further inputs is ahead, perhaps
with a name. -/
def startsVariadic (ahead : Tokens) : Bool :=
  ahead.starts "..." ||
    ((ahead.startsName || ahead.startsWord ["_"]) &&
      ahead.afterFirst.starts ":" &&
      ahead.afterSecond.starts "...")

private def functionInputsUpTo (isFirst : Bool) : Nat → Rule
  | 0 => failure
  | limit + 1 => do
      if (← get).isEmpty then return []
      let attributes ← outerAttributes grammar
      if startsVariadic (← get) then
        return attributes ++
          (← ifAhead (!·.starts "...") (anyWord ++ expect ":")) ++
          (← expect "...") ++ (← allow ",")
      else
        let input ← functionInput grammar isFirst
        let rest ←
          ifAhead (!·.isEmpty) (expect "," ++ functionInputsUpTo false limit)
        return attributes ++ input ++ rest

def functionInputs : Rule := do
  functionInputsUpTo grammar true ((← get).length + 1)

/-- The rule for a function type, after the lifetimes that it holds for. -/
def functionType : Rule :=
  allowWord "unsafe" ++ convention ++ expectWord ["fn"] ++
    inGroup .round (functionInputs grammar) ++ result grammar

/-- The rule for a type that starts with a mark or a keyword of its own. -/
def markedType (allowSum : Bool) : Rule := do
  let ahead ← get
  if ahead.startsWord ["dyn"] then
    let keyword ← anyWord
    let star ← allow "*"
    let bounds ← bounds grammar plainContext allowSum
    let after ← get
    return if star.isEmpty then keyword ++ bounds
      else ahead.take (ahead.length - after.length)
  else if ahead.startsGroup .square then
    inGroup .square (grammar.typeRule ++
      ifAhead (·.starts ";") (expect ";" ++ grammar.expressionRule))
  else if ahead.starts "*" then
    expect "*" ++ expectWord ["const", "mut"] ++ grammar.tightType
  else if ahead.starts "&" then
    expect "&" ++ ifAhead Tokens.startsLifetime lifetime ++ allowWord "mut" ++
      grammar.tightType
  else if ahead.starts "!" then expect "!"
  else if ahead.startsWord ["impl"] then
    anyWord ++ bounds grammar
      { allowCaptures := true, allowConst := true } allowSum
  else if ahead.startsWord ["_"] then anyWord
  else if ahead.startsLifetime then bounds grammar plainContext true
  else failure

def readType (allowSum : Bool) : Reader TypePiece := do
  let binder ← binder grammar
  let ahead ← get
  let startsFunction := ahead.startsWord ["fn", "unsafe", "extern"]
  if startsFunction then return ⟨binder ++ (← functionType grammar), .other⟩
  else if ahead.startsSegment then typeOfPath grammar allowSum binder
  else if !binder.isEmpty then failure
  else if ahead.startsGroup .round then typeOfGroup grammar allowSum
  else if ahead.startsAny ["::", "<"] then typeOfPath grammar allowSum []
  else return ⟨← markedType grammar allowSum, .other⟩

end EntityLink.Code.Grammar
