import EntityLink.Code.Grammar.Pattern

/-!
# Expressions inside code

An expression is built from literals, paths, groups, blocks and closures by
calls, members and operators.  Operators of one precedence associate to the
left, assignments to the right; comparisons and ranges do not associate.
-/

namespace EntityLink.Code.Grammar

/-- The operators between two values with their precedence, longer ones before
those that they start with. -/
def infixOperators : List (String × Precedence) := [
  ("+=", .assignment), ("-=", .assignment), ("*=", .assignment),
  ("/=", .assignment), ("%=", .assignment), ("^=", .assignment),
  ("&=", .assignment), ("|=", .assignment), ("<<=", .assignment),
  (">>=", .assignment), ("&&", .conjunction), ("||", .disjunction),
  ("<<", .shift), (">>", .shift), ("==", .comparison), ("<=", .comparison),
  ("!=", .comparison), (">=", .comparison), ("+", .sum), ("-", .sum),
  ("*", .product), ("/", .product), ("%", .product), ("^", .bitExclusion),
  ("&", .bitConjunction), ("|", .bitDisjunction), ("<", .comparison),
  (">", .comparison)]

def infixOperator? (ahead : Tokens) : Option (String × Precedence) :=
  infixOperators.find? fun operator => ahead.starts operator.1

def startsAssignment (ahead : Tokens) : Bool :=
  ahead.starts "=" && !ahead.starts "=>"

/-- The precedence of what goes on with an expression. -/
def nextPrecedence (ahead : Tokens) : Precedence :=
  match infixOperator? ahead with
  | some (_, precedence) => precedence
  | none =>
      if startsAssignment ahead then .assignment
      else if ahead.starts ".." then .range
      else if ahead.startsWord ["as"] then .cast
      else .jump

/-- Says whether an expression may start with the tokens ahead. -/
def startsExpression (ahead : Tokens) : Bool :=
  (ahead.startsAnyWord && !ahead.startsWord ["as"]) || ahead.startsAnyGroup ||
    ahead.startsLiteral || (ahead.starts "!" && !ahead.starts "!=") ||
    (ahead.starts "-" && !ahead.startsAny ["-=", "->"]) ||
    (ahead.starts "*" && !ahead.starts "*=") ||
    (ahead.starts "|" && !ahead.starts "|=") ||
    (ahead.starts "&" && !ahead.starts "&=") ||
    ahead.startsAny ["..", "::", "#"] ||
    (ahead.starts "<" && !ahead.startsAny ["<=", "<<="]) || ahead.startsLifetime

/-- Says whether a range ends without an upper end before the tokens ahead. -/
def endsOpenRange (allowStruct : Bool) (ahead : Tokens) : Bool :=
  ahead.isEmpty || ahead.startsAny [",", ";", "?", "=>", "=", "+", "/", "%",
      "^", ">", "<=", "!=", "-=", "*=", "&=", "|=", "<<="] ||
    (ahead.starts "." && !ahead.starts "..") ||
    (!allowStruct && ahead.startsGroup .curly) ||
    ahead.startsWord ["as"]

/-- Says whether something is ahead that may not follow the type of a cast. -/
def startsAfterCast (ahead : Tokens) : Bool :=
  (ahead.starts "." && !ahead.starts "..") || ahead.starts "?" ||
    ahead.startsGroup .square ||
    ahead.startsGroup .round

variable (grammar : Grammar)

/-- The rule for a range from its sign on. -/
def rangeTail (allowStruct : Bool) : Rule := do
  let ahead ← get
  if ahead.starts "..=" then
    return (← expect "..=") ++ (← grammar.operand allowStruct .range).tokens
  else if ahead.starts "..." then failure
  else
    let sign ← expect ".."
    if endsOpenRange allowStruct (← get) then return sign
    else return sign ++ (← grammar.operand allowStruct .range).tokens

/-- Reads operators that bind at least as tightly as given, after their first
left side. -/
def readOperators (allowStruct : Bool) (base : Precedence)
    (left : ExpressionPiece) :
    Reader ExpressionPiece := do
  if left.shape = .range then return left
  let ahead ← get
  match infixOperator? ahead with
  | some (symbol, precedence) =>
      if precedence.rank < base.rank then return left
      if precedence = .comparison && left.shape = .comparison then failure
      let sign ← expect symbol
      let right ← grammar.operand allowStruct precedence
      grammar.operators allowStruct base
        ⟨left.tokens ++ sign ++ right.tokens,
          if precedence = .comparison then .comparison else .plain⟩
  | none =>
      if base.rank ≤ Precedence.assignment.rank && startsAssignment ahead then
        let sign ← expect "="
        let right ← grammar.operand allowStruct .assignment
        grammar.operators allowStruct base
          { tokens := left.tokens ++ sign ++ right.tokens }
      else if base.rank ≤ Precedence.range.rank && ahead.starts ".." then
        return ⟨left.tokens ++ (← rangeTail grammar allowStruct), .range⟩
      else if base.rank ≤ Precedence.cast.rank && ahead.startsWord ["as"] then
        let cast ← anyWord ++ grammar.tightType
        if startsAfterCast (← get) then failure
        else
          grammar.operators allowStruct base { tokens := left.tokens ++ cast }
      else return left

private def operandUpTo (allowStruct : Bool) (precedence : Precedence) :
    Nat → ExpressionPiece → Reader ExpressionPiece
  | 0, right => return right
  | limit + 1, right => do
      let ahead ← get
      let next := nextPrecedence ahead
      if precedence.rank < next.rank ||
          (next = precedence && precedence = .assignment) then
        let right ← grammar.operators allowStruct next right
        if (← get).length = ahead.length then return right
        else operandUpTo allowStruct precedence limit right
      else return right

/-- Reads the right side of an operator, with all operators that bind
tighter. -/
def readOperand (allowStruct : Bool) (precedence : Precedence) :
    Reader ExpressionPiece := do
  let right ← grammar.unary allowStruct
  operandUpTo grammar allowStruct precedence ((← get).length + 1) right

def readExpression (allowStruct : Bool) : Reader ExpressionPiece := do
  grammar.operators allowStruct .jump (← grammar.unary allowStruct)

/-- The rule for a part of a structure with its value. -/
def fieldValue : Rule := do
  let attributes ← outerAttributes grammar
  let (name, isNamed) ← member
  if !isNamed || (← get).starts ":" then
    return attributes ++ name ++ (← expect ":") ++ (← grammar.expressionRule)
  else return attributes ++ name

private def fieldValuesUpTo : Nat → Rule
  | 0 => failure
  | limit + 1 => do
      let ahead ← get
      if ahead.isEmpty then return []
      else if ahead.starts ".." then
        expect ".." ++ ifAhead (!·.isEmpty) grammar.expressionRule
      else
        fieldValue grammar ++
          ifAhead (!·.isEmpty) (expect "," ++ fieldValuesUpTo limit)

/-- The rule for the parts of a structure with their values, and perhaps a
structure to take the others from. -/
def fieldValues : Rule := do fieldValuesUpTo grammar ((← get).length + 1)

/-- Reads an expression that starts with a path: a call of a macro, a structure
or a path. -/
def expressionOfPath (allowStruct : Bool) : Reader ExpressionPiece := do
  let path ← expressionPath grammar
  let tokens := path.1.tokens
  let ahead ← get
  if startsMacroCall path ahead then
    let sign ← expect "!"
    let isCurly := (← get).startsGroup .curly
    return ⟨tokens ++ sign ++ (← anyGroup), .macroCall isCurly⟩
  else if allowStruct && ahead.startsGroup .curly then
    return { tokens := tokens ++ (← inGroup .curly (fieldValues grammar)) }
  else return { tokens }

def closureInput : Rule := do
  let attributes ← outerAttributes grammar
  let pattern ← grammar.pattern
  if (← get).starts ":" then
    return attributes ++ pattern.tokens ++ (← expect ":") ++
      (← grammar.typeRule)
  else return (if pattern.shape = .verbatim then [] else attributes) ++
    pattern.tokens

def closure (allowStruct : Bool) : Rule := do
  let modifiers ← binder grammar ++ allowWord "const" ++ allowWord "static" ++
    allowWord "async" ++ allowWord "move"
  let inputs ←
    expect "|" ++ listUntil (·.starts "|") (closureInput grammar) ++ expect "|"
  if (← get).starts "->" then
    return modifiers ++ inputs ++
      (← expect "->" ++ grammar.typeRule ++ grammar.block)
  else return modifiers ++ inputs ++ (← grammar.expression allowStruct).tokens

/-- Says whether a list of lifetimes that something holds for is ahead. -/
def startsBinder (ahead : Tokens) : Bool :=
  let second := ahead.afterSecond
  ahead.startsWord ["for"] && ahead.afterFirst.starts "<" &&
    (second.startsLifetime || second.starts ">")

def startsClosure (ahead : Tokens) : Bool :=
  let next := ahead.afterFirst
  ahead.starts "|" || ahead.startsWord ["move", "static"] ||
    startsBinder ahead ||
    (ahead.startsWord ["const"] && !next.startsGroup .curly) ||
    (ahead.startsWord ["async"] &&
      (next.starts "|" || next.startsWord ["move"]))

/-- The rule for a list in square brackets, or for a value with the number of
its copies. -/
def arrayGroup : Rule :=
  inGroup .square (ifAhead (!·.isEmpty) (grammar.expressionRule ++ do
    let ahead ← get
    if ahead.isEmpty then nothing
    else if ahead.starts "," then expect "," ++ list grammar.expressionRule
    else expect ";" ++ grammar.expressionRule))

def label : Rule := lifetime ++ expect ":"

def ifExpression : Rule :=
  let branch : Rule := expectWord ["if"] ++ grammar.condition ++ grammar.block
  branch ++
    repeated (fun ahead => ahead.startsWord ["else"] &&
      ahead.afterFirst.startsWord ["if"]) (anyWord ++ branch) ++
    ifAhead (·.startsWord ["else"]) (anyWord ++ grammar.block)

def loopExpression : Rule := do
  let ahead ← get
  if ahead.startsWord ["while"] then
    anyWord ++ grammar.condition ++ attributedBlock grammar
  else if ahead.startsWord ["for"] then
    anyWord ++ alternativesRule grammar ++ expectWord ["in"] ++
      grammar.condition ++
      attributedBlock grammar
  else expectWord ["loop"] ++ attributedBlock grammar

/-- The rule for a case of a match.  A comma ends it unless it ends with a
block. -/
def matchCase : Rule := do
  let lead ← outerAttributes grammar ++ alternativesRule grammar ++
    ifAhead (·.startsWord ["if"]) (anyWord ++ grammar.expressionRule) ++
    expect "=>"
  let body ← grammar.statementExpression
  let comma ← if body.shape = .block || (← get).isEmpty then allow ","
    else expect ","
  return lead ++ body.tokens ++ comma

def matchExpression : Rule :=
  expectWord ["match"] ++ grammar.condition ++
    inGroup .curly
      (innerAttributes grammar ++ repeated (!·.isEmpty) (matchCase grammar))

/-- Says whether an expression is ahead that ends with a block and may stand as
a statement. -/
def startsBlockExpression (ahead : Tokens) : Bool :=
  ahead.startsWord ["if", "while", "loop", "match", "unsafe"] ||
    (ahead.startsWord ["for"] && !startsBinder ahead) ||
    (ahead.startsWord ["try", "const"] &&
      ahead.afterFirst.startsGroup .curly) ||
    ahead.startsGroup .curly || ahead.startsLifetime

/-- The rule for an expression that ends with a block and may stand as a
statement. -/
def blockExpression : Rule := do
  let ahead ← get
  if ahead.startsWord ["if"] then ifExpression grammar
  else if ahead.startsWord ["match"] then matchExpression grammar
  else if ahead.startsWord ["while", "for", "loop"] then loopExpression grammar
  else if ahead.startsWord ["try"] then anyWord ++ grammar.block
  else if ahead.startsWord ["unsafe", "const"] then
    anyWord ++ attributedBlock grammar
  else if ahead.startsLifetime then
    label ++ do
      if (← get).startsGroup .curly then attributedBlock grammar
      else loopExpression grammar
  else attributedBlock grammar

/-- The rule for the value that an expression may be left with. -/
def jumpValue (allowStruct : Bool) : Rule :=
  ifAhead (fun ahead => startsExpression ahead &&
    (allowStruct || !ahead.startsGroup .curly))
    (do return (← grammar.expression allowStruct).tokens)

def breakExpression (allowStruct : Bool) : Rule := do
  let keyword ← expectWord ["break"]
  let target ← ifAhead Tokens.startsLifetime lifetime
  if !target.isEmpty && (← get).starts ":" then failure
  return keyword ++ target ++ (← jumpValue grammar allowStruct)

/-- The numbers of parts of tuples that a decimal number stands for, and whether
another part follows its point. -/
def tupleMembers? (text : String) : Option (List Tokens × Bool) := do
  let parts := text.splitOn "."
  let isContinued := parts.getLast? = some ""
  let parts := if isContinued then parts.dropLast else parts
  let members ← parts.mapM fun part => do
    let value ← Literal.wholeValue? part
    if Literal.isNumber part && value < Nat.pow 2 32 then
      some (literal (toString value))
    else none
  return (members, isContinued)

/-- The rule for a call, after what is called. -/
def call : Rule := inGroup .round (list grammar.expressionRule)

/-- The rule for a member by its name or number, after the point: a part, or a
call of a method. -/
def namedMember : Rule := do
  if (← get).startsWord ["await"] then anyWord
  else
    let (name, isNamed) ← member
    if isNamed && (← get).starts "::" then
      return name ++ (← expect "::") ++ (← arguments grammar).tokens ++
        (← call grammar)
    else return name

/-- The rule for a member with the point before it.  A decimal number stands for
two parts, one inside the other. -/
def pointMember : Rule := do
  let point ← expect "."
  match ← get with
  | .literal text :: rest =>
      if Literal.isDecimal text then
        match tupleMembers? text with
        | some (members, isContinued) =>
            set rest
            let parts := members.flatMap fun member => point ++ member
            if isContinued then return parts ++ point ++ (← namedMember grammar)
            else return parts
        | none => failure
      else return point ++ (← namedMember grammar)
  | _ => return point ++ (← namedMember grammar)

/-- Says whether a call, a member, an element or a question mark is ahead. -/
def startsTrailer (ahead : Tokens) : Bool :=
  ahead.startsGroup .round || ahead.startsGroup .square || ahead.starts "?" ||
    (ahead.starts "." && !ahead.starts "..")

/-- The rule for a call, a member, an element or a question mark after an
expression. -/
def trailer : Rule := do
  let ahead ← get
  if ahead.startsGroup .round then call grammar
  else if ahead.startsGroup .square then inGroup .square grammar.expressionRule
  else if ahead.starts "?" then expect "?"
  else pointMember grammar

/-- Reads what follows an expression directly. -/
def withTrailers (atom : ExpressionPiece) : Reader ExpressionPiece := do
  if atom.shape = .range then return atom
  else
    let rest ← repeated startsTrailer (trailer grammar)
    return if rest.isEmpty then atom else { tokens := atom.tokens ++ rest }

/-- The rule for an expression that starts with a keyword of its own and ends
without a block that could stand alone. -/
def keywordExpression (allowStruct : Bool) : Rule := do
  let ahead ← get
  if ahead.startsWord ["async"] then
    anyWord ++ allowWord "move" ++ grammar.block
  else if ahead.startsWord ["break"] then breakExpression grammar allowStruct
  else if ahead.startsWord ["continue"] then
    anyWord ++ ifAhead Tokens.startsLifetime lifetime
  else if ahead.startsWord ["return", "yield"] then
    anyWord ++ jumpValue grammar true
  else if ahead.startsWord ["let"] then
    let binding ← anyWord ++ alternativesRule grammar ++ expect "="
    let value ← grammar.unary allowStruct
    return binding ++ (← grammar.operators allowStruct .comparison value).tokens
  else expectWord ["_"]

/-- Says whether a block that runs later is ahead. -/
def startsAsyncBlock (ahead : Tokens) : Bool :=
  let next := ahead.afterFirst
  ahead.startsWord ["async"] && (next.startsGroup .curly ||
    (next.startsWord ["move"] && ahead.afterSecond.startsGroup .curly))

/-- Says whether a path is ahead that an expression may start with. -/
def startsExpressionPath (ahead : Tokens) : Bool :=
  ahead.startsSegment || ahead.startsAny ["::", "<"] ||
    (ahead.startsWord ["try"] && ahead.afterFirst.startsAny ["!", "::"])

/-- Reads an expression without operators and without anything after it. -/
def atom (allowStruct : Bool) : Reader ExpressionPiece := do
  let ahead ← get
  if ahead.startsLiteral then return { tokens := ← readLiteral }
  else if startsAsyncBlock ahead then
    return { tokens := ← keywordExpression grammar allowStruct }
  else if startsClosure ahead then
    return { tokens := ← closure grammar allowStruct }
  else if ahead.startsWord ["builtin"] && ahead.afterFirst.starts "#" then
    let name ← verbatim (anyWord ++ expect "#" ++ readName)
    if (← get).startsGroup .round then return ⟨name ++ (← anyGroup), .verbatim⟩
    else failure
  else if startsExpressionPath ahead then expressionOfPath grammar allowStruct
  else if ahead.startsGroup .round then return { tokens := ← call grammar }
  else if ahead.startsGroup .square then
    return { tokens := ← arrayGroup grammar }
  else if ahead.startsWord ["become"] then
    return ⟨← verbatim (anyWord ++ grammar.expressionRule), .verbatim⟩
  else if startsBlockExpression ahead then
    return ⟨← blockExpression grammar, .block⟩
  else if ahead.starts ".." then
    return ⟨← rangeTail grammar allowStruct, .range⟩
  else return { tokens := ← keywordExpression grammar allowStruct }

/-- The rule for a reference, up to what it refers to. -/
def referenceSign : Rule := do
  let sign ← expect "&"
  let ahead ← get
  if ahead.startsWord ["raw"] &&
      ahead.afterFirst.startsWord ["mut", "const"] then
    return sign ++ (← anyWord) ++ (← anyWord)
  else return sign ++ (← allowWord "mut")

/-- Reads an expression without infix operators. -/
def readUnary (allowStruct : Bool) : Reader ExpressionPiece := do
  let before ← get
  let attributes ← outerAttributes grammar
  let ahead ← get
  if ahead.starts "&" then
    return { tokens := attributes ++ (← referenceSign) ++
      (← grammar.unary allowStruct).tokens }
  else if ahead.startsAny ["*", "!", "-"] then
    let sign ← ["*", "!", "-"].foldr (fun symbol other =>
      if ahead.starts symbol then expect symbol else other) failure
    return { tokens := attributes ++ sign ++
      (← grammar.unary allowStruct).tokens }
  else
    let piece ← withTrailers grammar (← atom grammar allowStruct)
    if attributes.isEmpty then return piece
    else
      match piece.shape with
      | .range => failure
      | .verbatim =>
          let after ← get
          return { piece with
            tokens := before.take (before.length - after.length) }
      | _ => return { piece with tokens := attributes ++ piece.tokens }

/-- Reads an expression as a statement or the result of a match.  One that ends
with a block is over there, unless a member or a question mark follows. -/
def readStatementExpression : Reader ExpressionPiece := do
  let attributes ← outerAttributes grammar
  if startsBlockExpression (← get) then
    let block ← blockExpression grammar
    let ahead ← get
    if (ahead.starts "." && !ahead.starts "..") || ahead.starts "?" then
      let piece ← withTrailers grammar { tokens := block }
      grammar.operators true .jump
        { piece with tokens := attributes ++ piece.tokens }
    else return ⟨attributes ++ block, .block⟩
  else
    let first ← grammar.unary true
    grammar.operators true .jump
      { first with tokens := attributes ++ first.tokens }

end EntityLink.Code.Grammar
