import EntityLink.Json

/-!
# Writing JSON text

One printer writes both layouts: everything on one line, and one element or
member per line, indented by two spaces a level.  Empty arrays and objects stay
closed in both.
-/

namespace EntityLink.Json

/-- What stands between the parts of an array or object: before an element or
closing bracket at some depth, and after a member's name. -/
structure Layout where
  lineAt : Nat → String
  afterName : String

/-- Everything on one line, without blanks. -/
def Layout.compact : Layout := ⟨fun _ => "", ":"⟩

/-- One element or member per line, indented by two spaces a level. -/
def Layout.indented : Layout :=
  ⟨fun depth => "\n" ++ String.ofList (List.replicate (2 * depth) ' '), ": "⟩

/-- The hexadecimal digit of a number below sixteen, in small letters. -/
def hexDigit (value : Nat) : Char :=
  if value < 10 then Char.ofNat (0x30 + value) else Char.ofNat (0x57 + value)

/-- Spells a character inside a quoted text: quotes, backslashes and controls
are escaped. -/
def spell (character : Char) : List Char :=
  match character with
  | '"' => ['\\', '"']
  | '\\' => ['\\', '\\']
  | '\n' => ['\\', 'n']
  | '\r' => ['\\', 'r']
  | '\t' => ['\\', 't']
  | character =>
      if character.toNat = 0x8 then ['\\', 'b']
      else if character.toNat = 0xc then ['\\', 'f']
      else if character.toNat < 0x20 then
        ['\\', 'u', '0', '0', hexDigit (character.toNat / 16),
          hexDigit (character.toNat % 16)]
      else [character]

def quote (text : String) : String :=
  String.ofList ('"' :: text.toList.flatMap spell ++ ['"'])

mutual

/-- Writes a value that stands at some depth. -/
def writeAt (layout : Layout) (depth : Nat) : Json → String
  | .null | .unreadable => "null"
  | .bool true => "true"
  | .bool false => "false"
  | .integer value => toString value
  | .decimal text => text
  | .string value => quote value
  | .array [] => "[]"
  | .array (item :: items) =>
      "[" ++ layout.lineAt (depth + 1) ++ writeAt layout (depth + 1) item ++
        writeItems layout (depth + 1) items ++ layout.lineAt depth ++ "]"
  | .object [] => "\x7b\x7d"
  | .object ((name, value) :: members) =>
      "\x7b" ++ layout.lineAt (depth + 1) ++ quote name ++ layout.afterName ++
        writeAt layout (depth + 1) value ++
        writeMembers layout (depth + 1) members ++
        layout.lineAt depth ++ "\x7d"

/-- Writes the elements of an array after the first. -/
def writeItems (layout : Layout) (depth : Nat) : List Json → String
  | [] => ""
  | item :: items =>
      "," ++ layout.lineAt depth ++ writeAt layout depth item ++
        writeItems layout depth items

/-- Writes the members of an object after the first. -/
def writeMembers (layout : Layout) (depth : Nat) : List (String × Json) → String
  | [] => ""
  | (name, value) :: members =>
      "," ++ layout.lineAt depth ++ quote name ++ layout.afterName ++
        writeAt layout depth value ++ writeMembers layout depth members

end

def compact (json : Json) : String :=
  writeAt .compact 0 json

def indented (json : Json) : String :=
  writeAt .indented 0 json

end EntityLink.Json
