import EntityLink.Code.Reader

/-!
# Parts of the grammar

Types, expressions, patterns and blocks may stand inside each other.  A
`Grammar` holds a reader for each of them; the rules of the grammar take one for
the parts inside, so that each rule is written down by itself.  What a reader
returns besides the written tokens is what the rules around it ask for.
-/

namespace EntityLink.Code

structure PathPiece where
  /-- All tokens but the arguments of the last segment. -/
  base : Tokens
  arguments : Tokens
  /-- The last segment has no arguments, or an empty list of them. -/
  isOpen : Bool
  /-- No segment has arguments. -/
  isPlain : Bool
  /-- It is a single segment without `::` before it. -/
  isSingle : Bool

def PathPiece.tokens (path : PathPiece) : Tokens := path.base ++ path.arguments

/-- What a type looks like from outside. -/
inductive TypeShape where
  /-- A name, perhaps with arguments in angle brackets. -/
  | name
  /-- Another path. -/
  | path
  /-- A single bound, given without its brackets. -/
  | bound (inner : Tokens)
  /-- A type in round brackets. -/
  | bracketed
  | other

structure TypePiece where
  tokens : Tokens
  shape : TypeShape

structure BoundPiece where
  tokens : Tokens
  /-- The tokens without round brackets around all of them. -/
  inner : Tokens
  isTrait : Bool

/-- What a bound may be besides a lifetime or a trait. -/
structure BoundContext where
  /-- A list of what a type captures. -/
  allowCaptures : Bool
  /-- A trait for constants. -/
  allowConst : Bool

/-- What an expression looks like from outside. -/
inductive ExpressionShape where
  | plain
  | range
  | comparison
  /-- It ends with a block and may stand as a statement by itself. -/
  | block
  /-- A call of a macro, its arguments in curly brackets or not. -/
  | macroCall (isCurly : Bool)
  /-- Written as it was read. -/
  | verbatim
  deriving DecidableEq

/-- Says whether an expression has to be followed by a semicolon or the end of
the block. -/
def ExpressionShape.needsSemicolon : ExpressionShape → Bool
  | .block | .macroCall true => false
  | _ => true

structure ExpressionPiece where
  tokens : Tokens
  shape : ExpressionShape := .plain

/-- What a pattern looks like from outside. -/
inductive PatternShape where
  | plain
  /-- A range without one of its ends. -/
  | halfRange
  /-- Written as it was read. -/
  | verbatim
  deriving DecidableEq

structure PatternPiece where
  tokens : Tokens
  shape : PatternShape := .plain

/-- How tightly operators bind, the loosest first. -/
inductive Precedence where
  | jump
  | assignment
  | range
  | disjunction
  | conjunction
  | binding
  | comparison
  | bitDisjunction
  | bitExclusion
  | bitConjunction
  | shift
  | sum
  | product
  | cast
  deriving DecidableEq

/-- The place of a precedence in the order. -/
def Precedence.rank : Precedence → Nat
  | .jump => 0
  | .assignment => 1
  | .range => 2
  | .disjunction => 3
  | .conjunction => 4
  | .binding => 5
  | .comparison => 6
  | .bitDisjunction => 7
  | .bitExclusion => 8
  | .bitConjunction => 9
  | .shift => 10
  | .sum => 11
  | .product => 12
  | .cast => 13

/-- Readers for the parts of code that may stand inside each other. -/
structure Grammar where
  /-- Reads a type, perhaps a sum of bounds. -/
  type : (allowSum : Bool) → Reader TypePiece
  bound : BoundContext → Reader BoundPiece
  /-- Reads an expression, perhaps one that starts with the name of a
  structure. -/
  expression : (allowStruct : Bool) → Reader ExpressionPiece
  /-- Reads an expression without infix operators. -/
  unary : (allowStruct : Bool) → Reader ExpressionPiece
  /-- Reads the right side of an operator. -/
  operand : (allowStruct : Bool) → Precedence → Reader ExpressionPiece
  /-- Reads operators that bind at least as tightly as given, after their first
  left side. -/
  operators : (allowStruct : Bool) → Precedence → ExpressionPiece →
    Reader ExpressionPiece
  /-- Reads an expression as a statement or the result of a match. -/
  statementExpression : Reader ExpressionPiece
  /-- Reads a pattern without alternatives. -/
  pattern : Reader PatternPiece
  statements : Rule
  item : Rule

namespace Grammar

/-- The grammar that fails everywhere. -/
def empty : Grammar where
  type _ := failure
  bound _ := failure
  expression _ := failure
  unary _ := failure
  operand _ _ := failure
  operators _ _ _ := failure
  statementExpression := failure
  pattern := failure
  statements := failure
  item := failure

variable (grammar : Grammar)

def typeRule : Rule := do return (← grammar.type true).tokens

/-- The rule for a type that is no sum of bounds. -/
def tightType : Rule := do return (← grammar.type false).tokens

def nameBound : Rule := do
  return (← grammar.bound { allowCaptures := false, allowConst := true }).tokens

def expressionRule : Rule := do return (← grammar.expression true).tokens

/-- The rule for an expression that a block follows. -/
def condition : Rule := do return (← grammar.expression false).tokens

def patternRule : Rule := do return (← grammar.pattern).tokens

def block : Rule := inGroup .curly grammar.statements

end Grammar

end EntityLink.Code
