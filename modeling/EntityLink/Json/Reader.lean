import EntityLink.Json

/-!
# Reading JSON text

The reader is strict: no byte-order mark, no comment, no trailing comma, no bare
control character in a string, nothing after the value.  Two faults do not stop
it, because they only matter to a reader that wants the value they are in: half
a surrogate pair in a string, and arrays or objects nested deeper than a bound.
Such a value is `Json.unreadable`.
-/

namespace EntityLink.Json

/-- Arrays and objects may be nested this deep. -/
def deepest : Nat := 127

private def isBlank (character : Char) : Bool :=
  character == ' ' || character == '\t' || character == '\n' ||
    character == '\r'

private def skipBlanks (input : List Char) : List Char :=
  input.dropWhile isBlank

/-- The value of a hexadecimal digit of either case. -/
def hexValue? (character : Char) : Option Nat :=
  if character.isDigit then some (character.toNat - 0x30)
  else if 'a' ≤ character ∧ character ≤ 'f' then some (character.toNat - 0x57)
  else if 'A' ≤ character ∧ character ≤ 'F' then some (character.toNat - 0x37)
  else none

/-- The value of a row of hexadecimal digits, read from the left. -/
def hexNumber? (digits : List Char) : Option Nat :=
  digits.foldlM (fun value digit => (hexValue? digit).map (16 * value + ·)) 0

/-- A part of a string: a character as it is, or a unit of sixteen bits given by
its number. -/
inductive StringPart where
  | plain (character : Char)
  | unit (code : Nat)

/-- Reads the parts of a string up to its closing quotation mark. -/
def readParts : List Char → Option (List StringPart × List Char)
  | [] => none
  | '"' :: rest => some ([], rest)
  | '\\' :: 'u' :: a :: b :: c :: d :: rest => do
      let code ← hexNumber? [a, b, c, d]
      let (parts, rest) ← readParts rest
      return (.unit code :: parts, rest)
  | '\\' :: escape :: rest => do
      let character ← match escape with
        | '"' => some '"'
        | '\\' => some '\\'
        | '/' => some '/'
        | 'b' => some (Char.ofNat 0x8)
        | 'f' => some (Char.ofNat 0xc)
        | 'n' => some '\n'
        | 'r' => some '\r'
        | 't' => some '\t'
        | _ => none
      let (parts, rest) ← readParts rest
      return (.plain character :: parts, rest)
  | character :: rest =>
      if character.toNat < 0x20 then none
      else do
        let (parts, rest) ← readParts rest
        return (.plain character :: parts, rest)

/-- Joins surrogate pairs; half a pair has no meaning. -/
def joinParts : List StringPart → Option (List Char)
  | [] => some []
  | .plain character :: parts => (joinParts parts).map (character :: ·)
  | .unit high :: .unit low :: parts =>
      if 0xd800 ≤ high ∧ high < 0xdc00 then
        if 0xdc00 ≤ low ∧ low < 0xe000 then
          (joinParts parts).map
            (Char.ofNat (0x10000 + (high - 0xd800) * 0x400 + (low - 0xdc00)) ::
              ·)
        else none
      else if 0xdc00 ≤ high ∧ high < 0xe000 then none
      else (joinParts (.unit low :: parts)).map (Char.ofNat high :: ·)
  | .unit code :: parts =>
      if 0xd800 ≤ code ∧ code < 0xe000 then none
      else (joinParts parts).map (Char.ofNat code :: ·)

private def readString (input : List Char) :
    Option (Option String × List Char) := do
  let (parts, rest) ← readParts input
  return ((joinParts parts).map String.ofList, rest)

private def takeDigits (input : List Char) : Option (List Char × List Char) :=
  let digits := input.takeWhile Char.isDigit
  if digits.isEmpty then none else some (digits, input.drop digits.length)

private def readFraction : List Char → Option (List Char × List Char)
  | '.' :: rest =>
      (takeDigits rest).map fun (digits, rest) => ('.' :: digits, rest)
  | input => some ([], input)

private def readExponent : List Char → Option (List Char × List Char)
  | mark :: rest =>
      if mark == 'e' || mark == 'E' then
        match rest with
        | sign :: digits =>
            if sign == '+' || sign == '-' then
              (takeDigits digits).map fun (digits, rest) =>
                (mark :: sign :: digits, rest)
            else (takeDigits rest).map fun (digits, rest) =>
              (mark :: digits, rest)
        | [] => none
      else some ([], mark :: rest)
  | [] => some ([], [])

private def digitsValue (digits : List Char) : Nat :=
  digits.foldl (fun value digit => 10 * value + (digit.toNat - 0x30)) 0

private def readNumber (negative : Bool) (input : List Char) :
    Option (Json × List Char) := do
  let (digits, rest) ← takeDigits input
  if digits.head? == some '0' && digits.length > 1 then none
  else
    let (fraction, rest) ← readFraction rest
    let (exponent, rest) ← readExponent rest
    let text := String.ofList ((if negative then ['-'] else []) ++ digits ++
      fraction ++ exponent)
    let value := digitsValue digits
    if !fraction.isEmpty || !exponent.isEmpty || (negative && value == 0) then
      return (.decimal text, rest)
    else return (.integer (if negative then -(value : Int) else value), rest)

private def afterWord (word : List Char) (json : Json) (input : List Char) :
    Option (Json × List Char) :=
  if input.take word.length == word then some (json, input.drop word.length)
  else none

private def nameAll (members : List (Option String × Json)) :
    Option (List (String × Json)) :=
  members.mapM fun (name, value) => name.map (·, value)

mutual

private def readValue : Nat → Nat → List Char → Option (Json × List Char)
  | 0, _, _ => none
  | bound + 1, depth, input =>
      match skipBlanks input with
      | '[' :: rest => do
          let (items, rest) ← readItems bound (depth - 1) true rest
          return (if depth = 0 then .unreadable else .array items, rest)
      | '\x7b' :: rest => do
          let (members, rest) ← readMembers bound (depth - 1) true rest
          return (if depth = 0 then .unreadable
            else (nameAll members).elim .unreadable .object, rest)
      | '"' :: rest => do
          let (text, rest) ← readString rest
          return (text.elim .unreadable .string, rest)
      | '-' :: rest => readNumber true rest
      | 'n' :: rest => afterWord ['u', 'l', 'l'] .null rest
      | 't' :: rest => afterWord ['r', 'u', 'e'] (.bool true) rest
      | 'f' :: rest => afterWord ['a', 'l', 's', 'e'] (.bool false) rest
      | rest => readNumber false rest

private def readItems :
    Nat → Nat → Bool → List Char → Option (List Json × List Char)
  | 0, _, _, _ => none
  | bound + 1, depth, first, input =>
      match skipBlanks input with
      | ']' :: rest => if first then some ([], rest) else none
      | rest => do
          let (item, rest) ← readValue bound depth rest
          match skipBlanks rest with
          | ']' :: rest => return ([item], rest)
          | ',' :: rest =>
              let (items, rest) ← readItems bound depth false rest
              return (item :: items, rest)
          | _ => none

private def readMembers :
    Nat → Nat → Bool → List Char →
      Option (List (Option String × Json) × List Char)
  | 0, _, _, _ => none
  | bound + 1, depth, first, input =>
      match skipBlanks input with
      | '\x7d' :: rest => if first then some ([], rest) else none
      | '"' :: rest => do
          let (name, rest) ← readString rest
          match skipBlanks rest with
          | ':' :: rest =>
              let (value, rest) ← readValue bound depth rest
              match skipBlanks rest with
              | '\x7d' :: rest => return ([(name, value)], rest)
              | ',' :: rest =>
                  let (members, rest) ← readMembers bound depth false rest
                  return ((name, value) :: members, rest)
              | _ => none
          | _ => none
      | _ => none

end

/-- Reads the value that a text holds, with nothing but blanks around it.  Every
step of the recursion consumes a character or two steps do, so twice the length
of the text bounds it. -/
def parse? (text : String) : Option Json := do
  let input := text.toList
  let (json, rest) ← readValue (2 * input.length + 2) deepest input
  if (skipBlanks rest).isEmpty then some json else none

end EntityLink.Json
