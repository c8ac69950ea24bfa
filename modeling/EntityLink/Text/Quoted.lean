import EntityLink.Text.Printable

/-!
# Quoted text

Texts and characters between quotation marks, as they stand in generated code
and in messages.  Quotation marks, backslashes and characters that do not show
are spelled out.
-/

namespace EntityLink.Text

private def hexDigits (value : Nat) : List Char :=
  Nat.toDigits 16 value

/-- Spells a character that does not show by itself. -/
def spelled (character : Char) : List Char :=
  match character with
  | '\n' => ['\\', 'n']
  | '\r' => ['\\', 'r']
  | '\t' => ['\\', 't']
  | character =>
      if character.toNat = 0 then ['\\', '0']
      else if isPrintable character then [character]
      else ['\\', 'u', '\x7b'] ++ hexDigits character.toNat ++ ['\x7d']

private def spelledInText (character : Char) : List Char :=
  match character with
  | '"' => ['\\', '"']
  | '\\' => ['\\', '\\']
  | character => spelled character

/-- A text in quotation marks, for a message. -/
def quote (text : String) : String :=
  String.ofList ('"' :: text.toList.flatMap spelledInText ++ ['"'])

/-- A character in apostrophes, for a message. -/
def quoteChar (character : Char) : String :=
  String.ofList ('\'' ::
    (match character with
    | '\'' => ['\\', '\'']
    | '\\' => ['\\', '\\']
    | character => spelled character) ++ ['\''])

private def startsOctal : List Char → Bool
  | next :: _ => '0' ≤ next && next ≤ '7'
  | [] => false

/-- Spells the characters of a literal.  A null character before an octal digit
is spelled so that the digit does not count as part of it. -/
def literalChars : List Char → List Char
  | [] => []
  | character :: rest =>
      (if character.toNat = 0 && startsOctal rest then ['\\', 'x', '0', '0']
      else spelledInText character) ++ literalChars rest

/-- A text as a literal of generated code. -/
def literal (text : String) : String :=
  String.ofList ('"' :: literalChars text.toList ++ ['"'])

end EntityLink.Text
