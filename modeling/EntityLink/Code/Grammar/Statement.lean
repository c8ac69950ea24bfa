import EntityLink.Code.Grammar.Expression
import EntityLink.Code.Grammar.Item

/-!
# Statements of a block

A block is a row of statements: declarations of names, items, calls of macros,
and expressions.  An expression that is not the last statement needs a
semicolon, unless it ends with a block.
-/

namespace EntityLink.Code.Grammar

variable (grammar : Grammar)

structure StatementPiece where
  tokens : Tokens
  /-- No other statement may follow. -/
  isLast : Bool

/-- Says whether written tokens end with a group in curly brackets. -/
def endsWithBlock (tokens : Tokens) : Bool :=
  match tokens.getLast? with
  | some (.group .curly _) => true
  | _ => false

/-- The rule for the declaration of names, after its attributes.  A value that
the pattern may not fit needs a block to leave with; the value must not end with
a block then. -/
def declaration : Rule := do
  let names ← expectWord ["let"] ++ grammar.patternRule ++
    ifAhead (·.starts ":") (expect ":" ++ grammar.typeRule)
  let equals ← allow "="
  let value ← if equals.isEmpty then nothing else grammar.expressionRule
  let otherwise ← ifAhead
    (fun ahead =>
      !value.isEmpty && !endsWithBlock value && ahead.startsWord ["else"])
    (anyWord ++ grammar.block)
  return names ++ equals ++ value ++ otherwise ++ (← expect ";")

/-- What a path and an exclamation mark start. -/
inductive MacroStatement where
  /-- The declaration of an item. -/
  | item
  /-- A call with arguments in curly brackets that is a statement by itself. -/
  | call
  | none
  deriving DecidableEq

/-- Says what a path and an exclamation mark ahead start. -/
def macroStatement (ahead : Tokens) : MacroStatement :=
  match plainPath.run ahead with
  | some (_, rest) =>
      let next := rest.afterFirst
      let last := rest.afterSecond
      if !rest.starts "!" then .none
      else if next.startsName || next.startsWord ["try"] then .item
      else if next.startsGroup .curly &&
          !((last.starts "." && !last.starts "..") || last.starts "?") then
        .call
      else .none
  | none => .none

def startsItem (ahead : Tokens) : Bool :=
  let next := ahead.afterFirst
  let last := ahead.afterSecond
  ahead.startsWord ["pub", "extern", "use", "fn", "mod", "type", "struct",
      "enum", "trait", "impl", "macro"] ||
    (ahead.startsWord ["crate"] && !next.starts "::") ||
    (ahead.startsWord ["static"] &&
      (next.startsWord ["mut"] || (next.startsName &&
        !(next.startsWord ["async"] &&
          (last.startsWord ["move"] || last.starts "|"))))) ||
    (ahead.startsWord ["const"] &&
      !(next.startsGroup .curly || next.startsWord ["static"] ||
        (next.startsWord ["async"] &&
          !last.startsWord ["unsafe", "extern", "fn"]) ||
        next.startsWord ["move"] || next.starts "|")) ||
    (ahead.startsWord ["unsafe"] && !next.startsGroup .curly) ||
    (ahead.startsWord ["async"] &&
      next.startsWord ["unsafe", "extern", "fn"]) ||
    (ahead.startsWord ["union"] && next.startsName) ||
    (ahead.startsWord ["auto"] && next.startsWord ["trait"]) ||
    (ahead.startsWord ["default"] && next.startsWord ["unsafe", "impl"])

def statement : Reader StatementPiece := do
  let before ← get
  let attributes ← outerAttributes grammar
  let ahead ← get
  let start := macroStatement ahead
  if start = .call then
    return ⟨attributes ++ (← plainPath ++ expect "!" ++ anyGroup ++ allow ";"),
      false⟩
  else if ahead.startsWord ["let"] then
    return ⟨attributes ++ (← declaration grammar), false⟩
  else if startsItem ahead || start = .item then
    set before
    return ⟨← attributed grammar (readItem grammar), false⟩
  else
    let expression ← grammar.statementExpression
    let semicolon ← allow ";"
    return ⟨(if expression.shape = .verbatim then []
        else attributes) ++ expression.tokens ++
      semicolon, semicolon.isEmpty && expression.shape.needsSemicolon⟩

private def statementsUpTo : Nat → Rule
  | 0 => failure
  | limit + 1 => do
      let semicolons ← repeated (·.starts ";") (expect ";")
      if (← get).isEmpty then return semicolons
      let statement ← statement grammar
      if (← get).isEmpty then return semicolons ++ statement.tokens
      else if statement.isLast then failure
      else return semicolons ++ statement.tokens ++ (← statementsUpTo limit)

def readStatements : Rule := do statementsUpTo grammar ((← get).length + 1)

end EntityLink.Code.Grammar
