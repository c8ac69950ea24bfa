import EntityLink.Text.Quoted

/-!
# Tokens of generated code

Generated code is a list of tokens, written out with one space between any two
of them.  Only a punctuation mark that forms one symbol with the next (`::`,
`->`) has no space after it, and round and square brackets have none inside.
-/

namespace EntityLink.Code

/-- The kinds of brackets. -/
inductive Bracket where
  | round
  | square
  | curly
  deriving DecidableEq, Repr

/-- A token, or tokens in brackets. -/
inductive Token where
  /-- A name or keyword. -/
  | word (text : String)
  /-- A number, a character or a text, as it is spelled. -/
  | literal (text : String)
  /-- A punctuation mark, perhaps joined to the next one. -/
  | mark (character : Char) (isJoint : Bool)
  | group (bracket : Bracket) (tokens : List Token)
  deriving Inhabited, Repr, BEq

/-- A piece of generated code. -/
abbrev Tokens : Type := List Token

namespace Token

/-- Says whether a token is joined to the next one. -/
def isJoint : Token → Bool
  | .mark _ isJoint => isJoint
  | .word _ | .literal _ | .group _ _ => false

mutual

def render : Token → String
  | .word text | .literal text => text
  | .mark character _ => character.toString
  | .group .round tokens => "(" ++ renderAll tokens ++ ")"
  | .group .square tokens => "[" ++ renderAll tokens ++ "]"
  | .group .curly tokens =>
      "\x7b " ++ renderAll tokens ++
        (if tokens.isEmpty then "\x7d" else " \x7d")

def renderAll : List Token → String
  | [] => ""
  | token :: tokens =>
      token.render ++ (if token.isJoint || tokens.isEmpty then "" else " ") ++
        renderAll tokens

end

mutual

/-- The number of tokens in a token, the inner ones of a group included. -/
def count : Token → Nat
  | .group _ tokens => countAll tokens + 1
  | .word _ | .literal _ | .mark _ _ => 1

/-- The number of tokens, the inner ones of groups included. -/
def countAll : List Token → Nat
  | [] => 0
  | token :: tokens => token.count + countAll tokens

end

end Token

def Tokens.render (tokens : Tokens) : String :=
  Token.renderAll tokens

def word (text : String) : Tokens := [.word text]

def words (texts : List String) : Tokens := texts.map .word

def literal (text : String) : Tokens := [.literal text]

/-- A text literal. -/
def text (value : String) : Tokens := literal (Text.literal value)

def mark (character : Char) : Tokens := [.mark character false]

/-- Two punctuation marks that form one symbol. -/
def symbol (first second : Char) : Tokens :=
  [.mark first true, .mark second false]

def round (tokens : Tokens) : Tokens := [.group .round tokens]

def square (tokens : Tokens) : Tokens := [.group .square tokens]

def curly (tokens : Tokens) : Tokens := [.group .curly tokens]

/-- Code in angle brackets. -/
def angle (tokens : Tokens) : Tokens := mark '<' ++ tokens ++ mark '>'

/-- The separator of path segments. -/
def colons : Tokens := symbol ':' ':'

def commas (pieces : List Tokens) : Tokens := (mark ',').intercalate pieces

/-- The item at a path below another one. -/
def below (base : Tokens) (segments : List String) : Tokens :=
  base ++ segments.flatMap fun segment => colons ++ word segment

/-- The item at a path from the top. -/
def absolute (segments : List String) : Tokens := below [] segments

/-- The type of an optional value. -/
def optionOf (type : Tokens) : Tokens :=
  absolute ["std", "option", "Option"] ++ angle type

/-- The type of a result. -/
def resultOf (value error : Tokens) : Tokens :=
  absolute ["std", "result", "Result"] ++ angle (value ++ mark ',' ++ error)

/-- A call of a method. -/
def method (name : String) (arguments : Tokens) : Tokens :=
  mark '.' ++ word name ++ round arguments

/-- A reference to a value or type. -/
def borrowed (target : Tokens) : Tokens := mark '&' ++ target

/-- A reference through which its target may be changed. -/
def borrowedToChange (target : Tokens) : Tokens :=
  mark '&' ++ word "mut" ++ target

/-- A field of the object at hand. -/
def ownField (name : Token) : Tokens := word "self" ++ mark '.' ++ [name]

/-- A reference to a text that lasts. -/
def lastingText : Tokens :=
  mark '&' ++ [.mark '\'' true] ++ words ["static", "str"]

end EntityLink.Code
