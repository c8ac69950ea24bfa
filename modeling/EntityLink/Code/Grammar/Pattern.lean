import EntityLink.Code.Grammar.Type

/-!
# Patterns inside code

A pattern takes a value apart: it names the value or its parts, compares with
literals and ranges, or lists alternatives.
-/

namespace EntityLink.Code.Grammar

variable (grammar : Grammar)

/-- Reads a path as it stands in expressions and patterns, and says whether it
is one below a type. -/
def expressionPath : Reader (PathPiece × Bool) := do
  if (← get).starts "<" then return (← pathOfType grammar true, true)
  else return (← path grammar true, false)

/-- Says whether the arguments of a macro follow its path. -/
def startsMacroCall (path : PathPiece × Bool) (ahead : Tokens) : Bool :=
  !path.2 && path.1.isPlain && ahead.starts "!" && !ahead.starts "!="

/-- Reads the name or number of a part of a structure, and says whether it is a
name.  A number is written in its decimal form. -/
def member : Reader (Tokens × Bool) := do
  match ← get with
  | .word _ :: _ => return (← readName, true)
  | .literal text :: rest =>
      match Literal.wholeValue? text with
      | some value =>
          if Literal.isNumber text && value < Nat.pow 2 32 then
            set rest
            return (literal (toString value), false)
          else failure
      | none => failure
  | _ => failure

private def startsAlternative (ahead : Tokens) : Bool :=
  ahead.starts "|" && !ahead.startsAny ["||", "|="]

/-- Reads a pattern that may have alternatives. -/
def alternatives : Reader PatternPiece := do
  let lead ← allow "|"
  let first ← grammar.pattern
  let rest ← repeated startsAlternative (expect "|" ++ grammar.patternRule)
  if lead.isEmpty && rest.isEmpty then return first
  else return { tokens := lead ++ first.tokens ++ rest }

/-- The rule for a pattern that may have alternatives. -/
def alternativesRule : Rule := do return (← alternatives grammar).tokens

private def endsRange (ahead : Tokens) : Bool :=
  ahead.isEmpty || ahead.startsAny ["|", "=", ",", ";"] ||
    (ahead.starts ":" && !ahead.starts "::") || ahead.startsWord ["if"]

/-- The rule for an end of a range, if there is one. -/
def rangeBound : Rule := do
  let ahead ← get
  if endsRange ahead then nothing
  else if ahead.startsLiteral then readLiteral
  else if ahead.startsSegment || ahead.startsAny ["::", "<"] then
    return (← expressionPath grammar).1.tokens
  else if ahead.startsWord ["const"] then anyWord ++ attributedBlock grammar
  else failure

/-- Reads the rest of a range after its lower end.  The sign for a closed range
has an old form. -/
def rangeAfter (start : Tokens) : Reader PatternPiece := do
  let ahead ← get
  let isClosed := ahead.startsAny ["..=", "..."]
  let sign ←
    if ahead.starts "..=" then expect "..="
    else if ahead.starts "..." then do
      let _ ← expect "..."
      pure (marksOf ['.', '.', '='])
    else expect ".."
  let stop ← rangeBound grammar
  if isClosed && stop.isEmpty then failure
  else return ⟨start ++ sign ++ stop,
    if stop.isEmpty then .halfRange else .plain⟩

/-- Reads a range without a lower end, or the sign for any further values. -/
def rangeBefore : Reader PatternPiece := do
  let isClosed := (← get).starts "..="
  let sign ← if isClosed then expect "..=" else expect ".."
  let stop ← rangeBound grammar
  if isClosed && stop.isEmpty then failure
  else return ⟨sign ++ stop, if stop.isEmpty then .plain else .halfRange⟩

/-- The rule for the pattern of a part of a structure, after its attributes. -/
def fieldPattern : Rule := do
  let before ← get
  let box ← allowWord "box"
  let byReference ← allowWord "ref"
  let mutability ← allowWord "mut"
  let isModified := !(box ++ byReference ++ mutability).isEmpty
  let (name, isNamed) ← if isModified then (do return (← readName, true))
    else member
  if !isNamed || (!isModified && (← get).starts ":") then
    return name ++ (← expect ":") ++ (← alternativesRule grammar)
  else if box.isEmpty then return byReference ++ mutability ++ name
  else
    let after ← get
    return before.take (before.length - after.length)

private def fieldPatternsUpTo : Nat → Rule
  | 0 => failure
  | limit + 1 => do
      if (← get).isEmpty then return []
      let attributes ← outerAttributes grammar
      if (← get).starts ".." then return attributes ++ (← expect "..")
      else
        let field ← fieldPattern grammar
        let rest ← ifAhead (!·.isEmpty) (expect "," ++ fieldPatternsUpTo limit)
        return attributes ++ field ++ rest

/-- The rule for the patterns of the parts of a structure. -/
def fieldPatterns : Rule := do fieldPatternsUpTo grammar ((← get).length + 1)

def patternOfPath : Reader PatternPiece := do
  let path ← expressionPath grammar
  let tokens := path.1.tokens
  let ahead ← get
  if startsMacroCall path ahead then
    return { tokens := tokens ++ (← expect "!") ++ (← anyGroup) }
  else if ahead.startsGroup .curly then
    return { tokens := tokens ++ (← inGroup .curly (fieldPatterns grammar)) }
  else if ahead.startsGroup .round then
    return { tokens := tokens ++
      (← inGroup .round (list (alternativesRule grammar))) }
  else if ahead.starts ".." then rangeAfter grammar tokens
  else return { tokens }

def elementPattern : Rule := do
  let pattern ← alternatives grammar
  if pattern.shape = .halfRange then failure else return pattern.tokens

/-- Says whether a pattern ahead starts with a path that is no single name. -/
def startsPathPattern (ahead : Tokens) : Bool :=
  let next := ahead.afterFirst
  (ahead.startsName &&
    (next.startsAny ["::", "!", ".."] || next.startsGroup .curly ||
      next.startsGroup .round)) ||
    (ahead.startsWord ["self"] && next.starts "::") ||
    ahead.startsAny ["::", "<"] ||
    ahead.startsWord ["Self", "super", "crate"]

/-- Reads a pattern without alternatives. -/
def readPattern : Reader PatternPiece := do
  let ahead ← get
  if startsPathPattern ahead then patternOfPath grammar
  else if ahead.startsWord ["_"] then return { tokens := ← anyWord }
  else if ahead.startsWord ["box"] then
    return ⟨← verbatim (anyWord ++ grammar.patternRule), .verbatim⟩
  else if ahead.starts "-" || ahead.startsLiteral ||
      ahead.startsWord ["const"] then
    let start ← rangeBound grammar
    if (← get).starts ".." then rangeAfter grammar start
    else return { tokens := start }
  else if ahead.startsName || ahead.startsWord ["ref", "mut", "self"] then
    let modifiers ← allowWord "ref" ++ allowWord "mut"
    let name ← if (← get).startsWord ["self"] then anyWord else readName
    return { tokens := modifiers ++ name ++
      (← ifAhead (·.starts "@") (expect "@" ++ grammar.patternRule)) }
  else if ahead.starts "&" then
    return { tokens := ← expect "&" ++ allowWord "mut" ++ grammar.patternRule }
  else if ahead.startsGroup .round then
    return { tokens := ← inGroup .round (list (alternativesRule grammar)) }
  else if ahead.startsGroup .square then
    return { tokens := ← inGroup .square (list (elementPattern grammar)) }
  else if ahead.starts ".." && !ahead.starts "..." then rangeBefore grammar
  else failure

end EntityLink.Code.Grammar
