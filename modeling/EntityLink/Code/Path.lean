import EntityLink.Code.Grammar.Statement
import EntityLink.Code.Identifier

/-!
# Paths of generated code

A path names an item by segments, with arguments where the item takes some.
Arguments may hold any type and any constant.  `Path.code` reads a path from its
text and writes it as code: spacing and comments are gone, and lifetimes stand
in front of the other arguments.
-/

namespace EntityLink.Code

/-- The grammar of code whose parts are nested no deeper than a number. -/
def Grammar.ofDepth : Nat → Grammar
  | 0 => .empty
  | depth + 1 =>
      let inner := ofDepth depth
      { type := inner.readType
        bound := inner.singleBound
        expression := inner.readExpression
        unary := inner.readUnary
        operand := inner.readOperand
        operators := inner.readOperators
        statementExpression := inner.readStatementExpression
        pattern := inner.readPattern
        statements := inner.readStatements
        item := inner.attributed inner.readItem }

namespace Path

/-- Reads a path that is a whole text, as the code that it is written as.  A
part inside another one takes a token of its own or is one of the few that every
part goes through, so a multiple of the number of tokens bounds the depth. -/
def parse? (text : String) : Option Tokens := do
  let tokens ← Tokens.ofText? text
  let grammar := Grammar.ofDepth (8 * Token.countAll tokens + 8)
  match ← (grammar.path false).run tokens with
  | (path, []) => return path.tokens
  | _ => none

/-- Reads a path and writes it as code. -/
def code (text : String) : Except GenerationFailure Tokens :=
  match parse? text with
  | some tokens => .ok tokens
  | none => .error (.build (.invalidPath text))

end Path

end EntityLink.Code
