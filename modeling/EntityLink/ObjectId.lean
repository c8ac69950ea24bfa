import EntityLink.Text.Quoted

/-!
# Object ids

The conventional identifier of an entity: twelve bytes, compared from the first
on, and written as twenty-four hexadecimal digits.  A text of digits in either
case reads as an id.
-/

namespace EntityLink

/-- Twelve bytes that identify an entity. -/
structure ObjectId where
  bytes : List UInt8
  length_bytes : bytes.length = 12

namespace ObjectId

theorem ext {left right : ObjectId} (same : left.bytes = right.bytes) :
    left = right := by
  cases left
  cases right
  cases same
  rfl

instance : DecidableEq ObjectId := fun left right =>
  if same : left.bytes = right.bytes then isTrue (ext same)
  else isFalse fun equality => same (equality ▸ rfl)

/-- The id of twelve equal bytes. -/
def dummy (byte : UInt8) : ObjectId :=
  ⟨List.replicate 12 byte, List.length_replicate⟩

instance : Inhabited ObjectId := ⟨dummy 0⟩

/-- Compares two ids from their first different byte on. -/
def compare (left right : ObjectId) : Ordering :=
  compareLex left.bytes right.bytes
where
  compareLex : List UInt8 → List UInt8 → Ordering
    | [], [] => .eq
    | [], _ :: _ => .lt
    | _ :: _, [] => .gt
    | left :: lefts, right :: rights =>
        (Ord.compare left right).then (compareLex lefts rights)

/-- The bytes of a number, as many as asked, the most significant first. -/
def bigEndian : Nat → Nat → List UInt8
  | 0, _ => []
  | count + 1, value => bigEndian count (value / 256) ++ [UInt8.ofNat value]

theorem length_bigEndian (count value : Nat) :
    (bigEndian count value).length = count := by
  induction count generalizing value with
  | zero => rfl
  | succ count induction => simp [bigEndian, induction]

/-- The id of a point in time, in four bytes, and a counter, in eight. -/
def ofParts (timestamp : UInt32) (counter : UInt64) : ObjectId :=
  ⟨bigEndian 4 timestamp.toNat ++ bigEndian 8 counter.toNat,
    by simp [length_bigEndian]⟩

/-- The hexadecimal digit of a number below sixteen, in small letters. -/
def hexDigit (value : UInt8) : Char :=
  if value < 10 then Char.ofNat (0x30 + value.toNat)
  else Char.ofNat (0x57 + value.toNat)

/-- The two hexadecimal digits of a byte. -/
def hexPair (byte : UInt8) : List Char :=
  [hexDigit (byte >>> 4), hexDigit (byte &&& 15)]

def hex (id : ObjectId) : String :=
  String.ofList (id.bytes.flatMap hexPair)

/-- Why a text is no id. -/
inductive ParseError where
  | oddLength
  /-- A byte of the text that is no digit, with its position. -/
  | invalidByte (byte : UInt8) (position : Nat)
  /-- The number of bytes that the text stands for, if not twelve. -/
  | wrongLength (actual : Nat)
  deriving DecidableEq, Inhabited, Repr

def ParseError.message : ParseError → String
  | .oddLength => "invalid object id hex: Odd number of digits"
  | .invalidByte byte position =>
      let shown := Text.quoteChar (Char.ofNat byte.toNat)
      s!"invalid object id hex: Invalid character {shown} " ++
        s!"at position {position}"
  | .wrongLength actual => s!"object id must be 12 bytes, got {actual}"

/-- The value of a byte that is a hexadecimal digit of either case. -/
def digitValue? (byte : UInt8) : Option UInt8 :=
  if 0x30 ≤ byte ∧ byte ≤ 0x39 then some (byte - 0x30)
  else if 0x41 ≤ byte ∧ byte ≤ 0x46 then some (byte - 0x37)
  else if 0x61 ≤ byte ∧ byte ≤ 0x66 then some (byte - 0x57)
  else none

/-- Reads pairs of digits, the first at the given position. -/
def readPairs (position : Nat) : List UInt8 → Except ParseError (List UInt8)
  | [] => .ok []
  | [_] => .error .oddLength
  | first :: second :: rest =>
      match digitValue? first with
      | none => .error (.invalidByte first position)
      | some high =>
          match digitValue? second with
          | none => .error (.invalidByte second (position + 1))
          | some low =>
              (readPairs (position + 2) rest).map ((16 * high + low) :: ·)

/-- The bytes of a text in UTF-8. -/
def utf8Bytes (text : String) : List UInt8 :=
  text.toList.flatMap String.utf8EncodeChar

/-- Reads the text of an id.  The number of bytes is checked to be even first,
then every byte, then the length of the id. -/
def parse (text : String) : Except ParseError ObjectId :=
  let digits := utf8Bytes text
  if digits.length % 2 = 1 then .error .oddLength
  else
    match readPairs 0 digits with
    | .error error => .error error
    | .ok bytes =>
        if length_bytes : bytes.length = 12 then .ok ⟨bytes, length_bytes⟩
        else .error (.wrongLength bytes.length)

/-- An id as it is shown in messages: its bytes in decimal. -/
def debug (id : ObjectId) : String :=
  "ObjectId([" ++
    ", ".intercalate (id.bytes.map fun byte => toString byte.toNat) ++ "])"

end ObjectId

end EntityLink
