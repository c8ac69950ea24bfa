import EntityLink.Text.IdentifierChar

/-!
# Literals of code

How numbers, characters and texts are spelled in code.  Every reader takes the
characters ahead and returns those after what it read.  A literal may end with a
name, its suffix.

Texts come in three kinds: of characters, of bytes, and of characters up to a
null character, which cannot stand inside.  All of them may be spelled with
escape sequences or, between numbers of `#`, raw.
-/

namespace EntityLink.Code.Literal

def readName? : List Char → Option (List Char × List Char)
  | first :: rest =>
      if Text.isIdentifierStart first then
        let name := first :: rest.takeWhile Text.isIdentifierContinue
        some (name, rest.dropWhile Text.isIdentifierContinue)
      else none
  | [] => none

/-- Skips the suffix of a literal, if it has one. -/
def skipSuffix (input : List Char) : List Char :=
  match readName? input with
  | some (_, rest) => rest
  | none => input

/-- The value of a hexadecimal digit of either case. -/
def hexDigit? (character : Char) : Option Nat :=
  if character.isDigit then some (character.toNat - 0x30)
  else if 'a' ≤ character ∧ character ≤ 'f' then some (character.toNat - 0x57)
  else if 'A' ≤ character ∧ character ≤ 'F' then some (character.toNat - 0x37)
  else none

/-- The kinds of texts. -/
inductive TextKind where
  | characters
  | bytes
  | terminated
  deriving DecidableEq, Repr

/-- Says whether a character may stand in a text. -/
def TextKind.allows (kind : TextKind) (character : Char) : Bool :=
  match kind with
  | .characters => true
  | .bytes => character.toNat < 0x80
  | .terminated => character.toNat != 0

/-- Says whether a text may have a character or byte spelled by its number. -/
def TextKind.allowsCode (kind : TextKind) (code : Nat) : Bool :=
  match kind with
  | .characters => code < 0x80
  | .bytes => true
  | .terminated => code != 0

/-- Skips the white space at the start of a line that goes on with the one
before. -/
def skipFold? : List Char → Option (List Char)
  | [] => none
  | ' ' :: rest | '\t' :: rest | '\n' :: rest | '\r' :: '\n' :: rest =>
      skipFold? rest
  | '\r' :: _ => none
  | rest => some rest

private def readCodePoint? (value count : Nat) :
    List Char → Option (Nat × List Char)
  | [] => none
  | character :: rest =>
      match hexDigit? character with
      | some digit =>
          if count = 6 then none
          else readCodePoint? (16 * value + digit) (count + 1) rest
      | none =>
          if count = 0 then none
          else if character = '_' then readCodePoint? value count rest
          else if character = '\x7d' then some (value, rest)
          else none

/-- Reads a character spelled by its code point in curly brackets. -/
def readUnicode? : List Char → Option (Nat × List Char)
  | '\x7b' :: rest => do
      let (code, rest) ← readCodePoint? 0 0 rest
      if code < 0xd800 ||
        (0xe000 ≤ code && code < 0x110000) then some (code, rest)
      else none
  | _ => none

/-- Skips an escape sequence of a text, after its backslash. -/
def skipEscape? (kind : TextKind) : List Char → Option (List Char)
  | 'x' :: high :: low :: rest => do
      if kind.allowsCode (16 * (← hexDigit? high) + (← hexDigit? low)) then
        some rest
      else none
  | 'u' :: rest => do
      let (code, rest) ← readUnicode? rest
      if kind = .bytes || (kind = .terminated && code = 0) then none
      else some rest
  | '\n' :: rest | '\r' :: '\n' :: rest => skipFold? rest
  | '0' :: rest => if kind = .terminated then none else some rest
  | letter :: rest =>
      if ['n', 'r', 't', '\\', '\'', '"'].contains letter then some rest
      else none
  | [] => none

/-- Skips a text with escape sequences, after its opening quotation mark.  The
bound is the number of characters. -/
def skipText? (kind : TextKind) : Nat → List Char → Option (List Char)
  | 0, _ | _, [] => none
  | _ + 1, '"' :: rest => some (skipSuffix rest)
  | bound + 1, '\r' :: '\n' :: rest => skipText? kind bound rest
  | _ + 1, '\r' :: _ => none
  | bound + 1, '\\' :: rest => do skipText? kind bound (← skipEscape? kind rest)
  | bound + 1, character :: rest =>
      if kind.allows character then skipText? kind bound rest else none

private def skipRawText? (kind : TextKind) (hashes : List Char) :
    List Char → Option (List Char)
  | [] => none
  | '\r' :: '\n' :: rest => skipRawText? kind hashes rest
  | '\r' :: _ => none
  | character :: rest =>
      if character = '"' && hashes.isPrefixOf rest then
        some (skipSuffix (rest.drop hashes.length))
      else if kind.allows character then skipRawText? kind hashes rest
      else none

/-- Skips a raw text, after the letters that start it.  At most 255 marks may
stand around it. -/
def skipRaw? (kind : TextKind) (input : List Char) : Option (List Char) :=
  let hashes := input.takeWhile (· == '#')
  match input.drop hashes.length with
  | '"' :: rest =>
      if hashes.length > 255 then none else skipRawText? kind hashes rest
  | _ => none

private def skipQuote? : List Char → Option (List Char)
  | '\'' :: rest => some (skipSuffix rest)
  | _ => none

/-- Skips a character, after its opening apostrophe. -/
def skipCharacter? : List Char → Option (List Char)
  | '\\' :: '\n' :: _ | '\\' :: '\r' :: _ => none
  | '\\' :: rest => (skipEscape? .characters rest).bind skipQuote?
  | _ :: rest => skipQuote? rest
  | [] => none

/-- Skips a byte, after its opening apostrophe. -/
def skipByte? : List Char → Option (List Char)
  | '\\' :: '\n' :: _ | '\\' :: '\r' :: _ => none
  | '\\' :: rest => (skipEscape? .bytes rest).bind skipQuote?
  | character :: rest =>
      if character.toNat < 0x80 then skipQuote? rest else none
  | [] => none

private def isDigitOrBar (character : Char) : Bool :=
  character.isDigit || character == '_'

/-- Skips the suffix of a number.  A character that could go on with a name but
not start one may not follow the number. -/
def endNumber? (input : List Char) : Option (List Char) :=
  let rest := skipSuffix input
  if (rest.head?.map Text.isIdentifierContinue).getD false then none
  else some rest

private def isExponentMark (character : Char) : Bool :=
  character == 'e' || character == 'E'

private def skipExponent? (input : List Char) : Option (List Char) :=
  let unsigned := match input.dropWhile (· == '_') with
    | '+' :: rest => rest
    | '-' :: rest => rest
    | rest => rest
  if (unsigned.takeWhile isDigitOrBar).any Char.isDigit then
    some (unsigned.dropWhile isDigitOrBar)
  else none

private def skipFraction? (input : List Char) : Option (List Char) :=
  match input with
  | '.' :: rest =>
      let endsBefore (next : Char) : Bool :=
        next == '.' || Text.isIdentifierStart next
      if (rest.head?.map endsBefore).getD false then none
      else
        let rest := rest.dropWhile isDigitOrBar
        match rest with
        | mark :: exponent =>
            if isExponentMark mark then
              some ((skipExponent? exponent).getD rest)
            else some rest
        | [] => some []
  | mark :: exponent =>
      if isExponentMark mark then skipExponent? exponent else none
  | [] => none

/-- Skips a number with a decimal point or an exponent. -/
def skipDecimal? (input : List Char) : Option (List Char) :=
  if (input.head?.map Char.isDigit).getD false then
    (skipFraction? (input.dropWhile isDigitOrBar)).bind endNumber?
  else none

/-- The base of a whole number and its digits. -/
def baseOf : List Char → Nat × List Char
  | '0' :: 'x' :: digits => (16, digits)
  | '0' :: 'o' :: digits => (8, digits)
  | '0' :: 'b' :: digits => (2, digits)
  | digits => (10, digits)

/-- Cuts the digits of a whole number, underscores between them, off the
characters ahead; `none` if there is no digit or one that the base does not
have. -/
def cutDigits? (base : Nat) (input : List Char) :
    Option (List Char × List Char) :=
  let isOfBase (character : Char) : Bool :=
    isDigitOrBar character || (base = 16 && (hexDigit? character).isSome)
  let digits := input.takeWhile isOfBase
  let values := (digits.filter (· != '_')).filterMap hexDigit?
  if values.isEmpty || values.any (base ≤ ·) ||
    (base = 10 && input.head? = some '_') then none
  else some (digits, input.drop digits.length)

def skipWhole? (input : List Char) : Option (List Char) := do
  let (base, digits) := baseOf input
  let (_, rest) ← cutDigits? base digits
  endNumber? rest

/-- The value of a whole number without a suffix. -/
def wholeValue? (text : String) : Option Nat := do
  let (base, digits) := baseOf text.toList
  match ← cutDigits? base digits with
  | (digits, []) =>
      return (digits.filterMap hexDigit?).foldl
        (fun value digit => base * value + digit) 0
  | _ => none

/-- Says whether a literal is a number. -/
def isNumber (text : String) : Bool :=
  (text.toList.head?.map Char.isDigit).getD false

/-- Says whether a literal is a number with a decimal point or an exponent. -/
def isDecimal (text : String) : Bool :=
  skipDecimal? text.toList == some []

/-- Says whether a literal is a text of characters. -/
def isText (text : String) : Bool :=
  text.toList.head? == some '"' || text.toList.head? == some 'r'

/-- Skips a literal of any kind. -/
def skip? (input : List Char) : Option (List Char) :=
  match input with
  | '"' :: rest => skipText? .characters (rest.length + 1) rest
  | 'r' :: rest => skipRaw? .characters rest
  | 'b' :: '"' :: rest => skipText? .bytes (rest.length + 1) rest
  | 'b' :: 'r' :: rest => skipRaw? .bytes rest
  | 'c' :: '"' :: rest => skipText? .terminated (rest.length + 1) rest
  | 'c' :: 'r' :: rest => skipRaw? .terminated rest
  | 'b' :: '\'' :: rest => skipByte? rest
  | '\'' :: rest => skipCharacter? rest
  | input => (skipDecimal? input).orElse fun _ => skipWhole? input

end EntityLink.Code.Literal
