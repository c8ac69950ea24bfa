/-!
# Magnitude of numbers

A reader that keeps a number without knowing what it is for keeps it in double
precision, and has to refuse one that is too large for that.  The number is
taken as the first digits, as many as sixty-four bits hold, times a power of
ten; both factors and their product are rounded to fifty-three bits.
-/

namespace EntityLink.Json

/-- A number without a sign: digits and the power of ten they are counted in. -/
structure Scaled where
  digits : Nat
  exponent : Int

/-- The nearest number of at most fifty-three significant bits; of two, the one
that ends with a zero bit. -/
def rounded (value : Nat) : Nat :=
  if value < Nat.pow 2 53 then value
  else
    let unit := Nat.pow 2 (value.log2 - 52)
    let below := value / unit
    let excess := 2 * (value % unit)
    if excess > unit || (excess = unit && below % 2 = 1) then (below + 1) * unit
    else below * unit

/-- The largest power of ten that has a factor of its own. -/
def largestPower : Nat := 308

/-- Says whether a number fits double precision. -/
def Scaled.fits (scaled : Scaled) : Bool :=
  scaled.digits = 0 || scaled.exponent < 0 ||
    (scaled.exponent ≤ largestPower &&
      rounded (rounded scaled.digits *
          rounded (Nat.pow 10 scaled.exponent.toNat)) <
        Nat.pow 2 1024)

private def digitOf (digit : Char) : Nat := digit.toNat - 0x30

/-- Says whether one more digit fits sixty-four bits. -/
def hasRoom (digits : Nat) (digit : Char) : Bool :=
  10 * digits + digitOf digit < Nat.pow 2 64

/-- Takes up the digits before the decimal point.  Those that find no room still
count in the power of ten. -/
def Scaled.withWhole (scaled : Scaled) : List Char → Scaled
  | [] => scaled
  | digit :: rest =>
      if hasRoom scaled.digits digit then
        withWhole { scaled with digits := 10 * scaled.digits + digitOf digit }
          rest
      else { scaled with exponent := scaled.exponent + (rest.length + 1) }

/-- Takes up the digits after the decimal point, as far as there is room. -/
def Scaled.withFraction (scaled : Scaled) : List Char → Scaled
  | [] => scaled
  | digit :: rest =>
      if hasRoom scaled.digits digit then
        withFraction
          ⟨10 * scaled.digits + digitOf digit, scaled.exponent - 1⟩ rest
      else scaled

/-- Takes up an exponent, after its mark. -/
def Scaled.withExponent (scaled : Scaled) (exponent : List Char) : Scaled :=
  let value (digits : List Char) : Nat :=
    digits.foldl (fun value digit => 10 * value + digitOf digit) 0
  match exponent with
  | '-' :: digits => { scaled with exponent := scaled.exponent - value digits }
  | '+' :: digits => { scaled with exponent := scaled.exponent + value digits }
  | digits => { scaled with exponent := scaled.exponent + value digits }

/-- The number that characters spell, its sign left out. -/
def Scaled.ofChars (characters : List Char) : Scaled :=
  let characters := characters.dropWhile (· == '-')
  let whole := characters.takeWhile Char.isDigit
  let rest := characters.drop whole.length
  let scaled := Scaled.withWhole ⟨0, 0⟩ whole
  match rest with
  | '.' :: rest =>
      let fraction := rest.takeWhile Char.isDigit
      (scaled.withFraction fraction).withExponent
        (rest.drop (fraction.length + 1))
  | rest => scaled.withExponent (rest.drop 1)

end EntityLink.Json
