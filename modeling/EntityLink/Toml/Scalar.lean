import EntityLink.Json

/-!
# Unquoted values of a settings document

Truth values, numbers, dates and times, as they stand in the document without
quotation marks.  No setting takes a number or a date, so these keep their text;
it matters only that they are well formed.
-/

namespace EntityLink.Toml

/-- Says whether characters are digits of a kind, perhaps with single
underscores between them. -/
def isNumeral (isDigit : Char → Bool) : List Char → Bool
  | [] => false
  | [digit] => isDigit digit
  | digit :: '_' :: rest => isDigit digit && isNumeral isDigit rest
  | digit :: rest => isDigit digit && isNumeral isDigit rest

/-- Says whether characters are a whole number without a sign.  It does not
start with a zero unless it is zero. -/
def isWhole (characters : List Char) : Bool :=
  isNumeral Char.isDigit characters &&
    (characters == ['0'] || characters.head? != some '0')

private def isOctal (character : Char) : Bool :=
  '0' ≤ character && character ≤ '7'

private def isBinary (character : Char) : Bool :=
  character == '0' || character == '1'

private def isHexadecimal (character : Char) : Bool :=
  character.isDigit || ('a' ≤ character && character ≤ 'f') ||
    ('A' ≤ character && character ≤ 'F')

/-- Drops a sign. -/
def withoutSign : List Char → List Char
  | '+' :: rest => rest
  | '-' :: rest => rest
  | characters => characters

/-- Says whether characters are an integer.  Only a decimal one may have a
sign. -/
def isInteger : List Char → Bool
  | '0' :: 'x' :: digits => isNumeral isHexadecimal digits
  | '0' :: 'o' :: digits => isNumeral isOctal digits
  | '0' :: 'b' :: digits => isNumeral isBinary digits
  | characters => isWhole (withoutSign characters)

private def isExponentMark (character : Char) : Bool :=
  character == 'e' || character == 'E'

/-- Says whether characters are the exponent of a number, its mark included. -/
def isExponent : List Char → Bool
  | [] => false
  | mark :: digits =>
      isExponentMark mark && isNumeral Char.isDigit (withoutSign digits)

/-- Says whether characters are a number with a fraction or an exponent. -/
def isFraction (characters : List Char) : Bool :=
  let characters := withoutSign characters
  let whole := characters.takeWhile fun character =>
    !isExponentMark character && character != '.'
  isWhole whole &&
    match characters.drop whole.length with
    | '.' :: rest =>
        let digits := rest.takeWhile fun character => !isExponentMark character
        let exponent := rest.drop digits.length
        isNumeral Char.isDigit digits &&
          (exponent.isEmpty || isExponent exponent)
    | exponent => isExponent exponent

/-- Says whether characters name a number that has no digits. -/
def isSpecial (characters : List Char) : Bool :=
  let name := withoutSign characters
  name == ['i', 'n', 'f'] || name == ['n', 'a', 'n']

/-- Reads a number of a fixed count of digits. -/
def readDigits? (count : Nat) (input : List Char) : Option (Nat × List Char) :=
  let digits := input.take count
  if digits.length = count && digits.all Char.isDigit then
    some (digits.foldl (fun value digit => 10 * value + (digit.toNat - 0x30)) 0,
      input.drop count)
  else none

private def readMark? (mark : Char) : List Char → Option (List Char)
  | character :: rest => if character = mark then some rest else none
  | [] => none

/-- Says whether a year has a twenty-ninth of February. -/
def isLeapYear (year : Nat) : Bool :=
  year % 4 = 0 && (year % 100 != 0 || year % 400 = 0)

/-- The number of days of a month. -/
def daysOf (year month : Nat) : Nat :=
  if month = 2 then if isLeapYear year then 29 else 28
  else if month = 4 || month = 6 || month = 9 || month = 11 then 30
  else 31

/-- Reads a date; returns what follows it. -/
def readDate? (input : List Char) : Option (List Char) := do
  let (year, rest) ← readDigits? 4 input
  let rest ← readMark? '-' rest
  let (month, rest) ← readDigits? 2 rest
  let rest ← readMark? '-' rest
  let (day, rest) ← readDigits? 2 rest
  if 1 ≤ month && month ≤ 12 && 1 ≤ day && day ≤ daysOf year month then
    some rest
  else none

/-- Reads hours and minutes; returns what follows them. -/
def readClock? (input : List Char) : Option (List Char) := do
  let (hour, rest) ← readDigits? 2 input
  let rest ← readMark? ':' rest
  let (minute, rest) ← readDigits? 2 rest
  if hour ≤ 23 && minute ≤ 59 then some rest else none

/-- Reads a time of the day, perhaps with seconds and a fraction of them;
returns what follows it. -/
def readTime? (input : List Char) : Option (List Char) := do
  match ← readClock? input with
  | ':' :: rest =>
      let (second, rest) ← readDigits? 2 rest
      if second > 60 then none
      else
        match rest with
        | '.' :: rest =>
            let digits := rest.takeWhile Char.isDigit
            if digits.isEmpty then none else some (rest.drop digits.length)
        | rest => some rest
  | rest => some rest

/-- Says whether characters tell the distance of a time zone, or nothing. -/
def isOffset : List Char → Bool
  | [] => true
  | ['Z'] | ['z'] => true
  | sign :: rest => (sign == '+' || sign == '-') && readClock? rest == some []

/-- Says whether characters are a date, a time, or a date with a time and
perhaps a time zone. -/
def isDateTime (characters : List Char) : Bool :=
  match readDate? characters with
  | none => readTime? characters == some []
  | some [] => true
  | some (mark :: rest) =>
      (mark == 'T' || mark == 't' || mark == ' ') &&
        ((readTime? rest).map isOffset).getD false

/-- Says whether a character goes on with an unquoted value. -/
def isValueChar (character : Char) : Bool :=
  !(['=', ',', '[', ']', '\x7b', '\x7d', ' ', '\t', '#', '\r',
    '\n'].contains character)

/-- The value that unquoted characters stand for. -/
def scalar? (characters : List Char) : Option Json :=
  if characters == ['t', 'r', 'u', 'e'] then some (.bool true)
  else if characters == ['f', 'a', 'l', 's', 'e'] then some (.bool false)
  else if isInteger characters || isFraction characters ||
      isSpecial characters ||
      isDateTime characters then some (.decimal (String.ofList characters))
  else none

/-- Reads an unquoted value.  A date may have a space before its time. -/
def readScalar? (input : List Char) : Option (Json × List Char) :=
  let word := input.takeWhile isValueChar
  let rest := input.drop word.length
  let time := (rest.drop 1).takeWhile isValueChar
  let both := word ++ ' ' :: time
  if rest.head? = some ' ' && isDateTime both then
    some (.decimal (String.ofList both), input.drop both.length)
  else (scalar? word).map (·, rest)

end EntityLink.Toml
