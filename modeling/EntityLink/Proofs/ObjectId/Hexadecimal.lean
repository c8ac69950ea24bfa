import EntityLink.ObjectId
import Mathlib.Data.String.Basic

/-!
# The hexadecimal text of an id

An id is written in twenty-four small digits, and a text reads as an id exactly
when it consists of twenty-four digits, small or capital; the id is then written
as the text in small letters.  Of a text that is refused, `Refused` says why:
its bytes are odd in number, one of them is no digit, or there are not
twenty-four of them, asked in this order.
-/

namespace EntityLink.ObjectId

/-- The hexadecimal digits of either case. -/
def hexDigits : List Char :=
  ['0', '1', '2', '3', '4', '5', '6', '7', '8', '9', 'a', 'b', 'c', 'd', 'e',
    'f', 'A', 'B', 'C', 'D', 'E', 'F']

/-- A text of twenty-four digits. -/
def IsHexText (text : String) : Prop :=
  text.length = 24 ∧ ∀ character ∈ text.toList, character ∈ hexDigits

/-- The character that a byte stands for by itself. -/
def charOf (byte : UInt8) : Char := Char.ofNat byte.toNat

def byteOf (character : Char) : UInt8 := UInt8.ofNat character.toNat

/-- Why a text is no id. -/
inductive Refused (text : String) : ParseError → Prop where
  | oddLength (odd : text.utf8ByteSize % 2 = 1) : Refused text .oddLength
  /-- The first byte that is no digit. -/
  | invalidByte (even : text.utf8ByteSize % 2 = 0) {before after : List UInt8}
      {byte : UInt8} (split : utf8Bytes text = before ++ byte :: after)
      (digits : ∀ earlier ∈ before, charOf earlier ∈ hexDigits)
      (noDigit : charOf byte ∉ hexDigits) :
      Refused text (.invalidByte byte before.length)
  | wrongLength (even : text.utf8ByteSize % 2 = 0)
      (digits : ∀ byte ∈ utf8Bytes text, charOf byte ∈ hexDigits)
      (notTwelve : text.utf8ByteSize ≠ 24) :
        Refused text (.wrongLength (text.utf8ByteSize / 2))

theorem forall_byte {holds : UInt8 → Prop}
    (checked : ∀ code < 256, holds (UInt8.ofNat code)) (byte : UInt8) :
    holds byte := by
  have here := checked byte.toNat byte.toNat_lt
  rwa [UInt8.ofNat_toNat] at here

theorem digitValue?_eq_none_iff (byte : UInt8) :
    digitValue? byte = none ↔ charOf byte ∉ hexDigits := by
  revert byte
  apply forall_byte
  decide +kernel

theorem charOf_mem_of_digitValue? {byte value : UInt8}
    (read : digitValue? byte = some value) :
    charOf byte ∈ hexDigits := by
  by_contra noDigit
  rw [(digitValue?_eq_none_iff byte).mpr noDigit] at read
  cases read

/-- A digit is written like its value, in small letters. -/
theorem hexDigit_of_digitValue? {byte value : UInt8}
    (read : digitValue? byte = some value) :
    value < 16 ∧ hexDigit value = (charOf byte).toLower := by
  have checked : ∀ byte, (digitValue? byte).all (fun value =>
      value < 16 ∧ hexDigit value = (charOf byte).toLower) = true := by
    apply forall_byte
    decide +kernel
  have here := checked byte
  rw [read] at here
  exact of_decide_eq_true here

/-- The two digits of a byte are read back as the byte. -/
theorem digitValue?_hexPair (byte : UInt8) :
    digitValue? (byteOf (hexDigit (byte >>> 4))) = some (byte >>> 4) ∧
      digitValue? (byteOf (hexDigit (byte &&& 15))) = some (byte &&& 15) ∧
      (16 : UInt8) * (byte >>> 4) + (byte &&& 15) = byte := by
  revert byte
  apply forall_byte
  decide +kernel

theorem hexPair_of_halves {high low : UInt8} (highBound : high < 16)
    (lowBound : low < 16) :
    hexPair (16 * high + low) = [hexDigit high, hexDigit low] := by
  have checked : ∀ high < 16, ∀ low < 16,
      hexPair (16 * UInt8.ofNat high + UInt8.ofNat low) =
        [hexDigit (UInt8.ofNat high), hexDigit (UInt8.ofNat low)] := by
    decide +kernel
  have here := checked high.toNat (UInt8.lt_iff_toNat_lt.mp highBound) low.toNat
    (UInt8.lt_iff_toNat_lt.mp lowBound)
  rwa [UInt8.ofNat_toNat, UInt8.ofNat_toNat] at here

theorem byte_halves (byte : UInt8) :
    byte >>> 4 < 16 ∧ byte &&& 15 < 16 ∧
      16 * (byte >>> 4).toNat + (byte &&& 15).toNat = byte.toNat := by
  have size : byte.toNat < 256 := byte.toNat_lt
  have high : (byte >>> 4).toNat = byte.toNat / 16 := by
    rw [UInt8.toNat_shiftRight]
    exact Nat.shiftRight_eq_div_pow byte.toNat 4
  have low : (byte &&& 15).toNat = byte.toNat % 16 := by
    rw [UInt8.toNat_and]
    exact Nat.and_two_pow_sub_one_eq_mod byte.toNat 4
  rw [UInt8.lt_iff_toNat_lt, UInt8.lt_iff_toNat_lt, high, low]
  exact ⟨Nat.div_lt_of_lt_mul size, Nat.mod_lt _ (by decide),
    Nat.div_add_mod _ 16⟩

theorem hexDigit_small {value : UInt8} (bound : value < 16) :
    hexDigit value ∈ hexDigits ∧ (hexDigit value).toLower = hexDigit value := by
  have checked : ∀ code < 16, hexDigit (UInt8.ofNat code) ∈ hexDigits ∧
      (hexDigit (UInt8.ofNat code)).toLower = hexDigit (UInt8.ofNat code) := by
    decide
  have here := checked value.toNat (UInt8.lt_iff_toNat_lt.mp bound)
  rwa [UInt8.ofNat_toNat] at here

theorem hexPair_digits {byte : UInt8} {character : Char}
    (member : character ∈ hexPair byte) :
    character ∈ hexDigits ∧ character.toLower = character := by
  obtain ⟨highBound, lowBound, -⟩ := byte_halves byte
  obtain rfl | rfl := List.mem_pair.mp member
  · exact hexDigit_small highBound
  · exact hexDigit_small lowBound

theorem readPairs_flatMap_hexPair (position : Nat) (bytes : List UInt8) :
    readPairs position ((bytes.flatMap hexPair).map byteOf) = .ok bytes := by
  induction bytes generalizing position with
  | nil => rfl
  | cons byte rest induction =>
      obtain ⟨highRead, lowRead, whole⟩ := digitValue?_hexPair byte
      simp only [List.flatMap_cons, hexPair, List.cons_append,
        List.nil_append, List.map_cons, readPairs, highRead, lowRead, induction,
        Except.map, whole]

theorem digits_of_pair {first second high low : UInt8} {rest : List UInt8}
    (firstRead : digitValue? first = some high)
    (secondRead : digitValue? second = some low)
    (restDigits : ∀ byte ∈ rest, charOf byte ∈ hexDigits) :
    ∀ byte ∈ first :: second :: rest, charOf byte ∈ hexDigits := by
  rw [List.forall_mem_cons, List.forall_mem_cons]
  exact ⟨charOf_mem_of_digitValue? firstRead,
    charOf_mem_of_digitValue? secondRead, restDigits⟩

/-- What is read is written as the digits in small letters. -/
theorem readPairs_ok {position : Nat} {digits bytes : List UInt8}
    (read : readPairs position digits = .ok bytes) :
    (∀ byte ∈ digits, charOf byte ∈ hexDigits) ∧
      bytes.flatMap hexPair =
        digits.map (fun byte => (charOf byte).toLower) := by
  fun_induction readPairs position digits generalizing bytes with
  | case1 position =>
      cases read
      exact ⟨fun _ member => absurd member List.not_mem_nil, rfl⟩
  | case2 position head => cases read
  | case3 position first second rest firstNone => cases read
  | case4 position first second rest high firstRead secondNone => cases read
  | case5 position first second rest high firstRead low secondRead induction =>
      cases restRead : readPairs (position + 2) rest with
      | error error =>
          rw [restRead] at read
          cases read
      | ok tail =>
          rw [restRead] at read
          cases read
          obtain ⟨restDigits, restWritten⟩ := induction restRead
          obtain ⟨highBound, highWritten⟩ := hexDigit_of_digitValue? firstRead
          obtain ⟨lowBound, lowWritten⟩ := hexDigit_of_digitValue? secondRead
          have written : hexPair (16 * high + low) =
              [(charOf first).toLower, (charOf second).toLower] := by
            rw [hexPair_of_halves highBound lowBound, highWritten, lowWritten]
          refine ⟨digits_of_pair firstRead secondRead restDigits, ?_⟩
          rw [List.flatMap_cons, written, restWritten]
          rfl

/-- Reading stops at the first byte that is no digit. -/
theorem readPairs_error {position : Nat} {digits : List UInt8}
    {error : ParseError} (even : digits.length % 2 = 0)
    (failed : readPairs position digits = .error error) :
    ∃ before byte after, digits = before ++ byte :: after ∧
      (∀ earlier ∈ before, charOf earlier ∈ hexDigits) ∧
      charOf byte ∉ hexDigits ∧
      error = .invalidByte byte (position + before.length) := by
  fun_induction readPairs position digits with
  | case1 position => cases failed
  | case2 position head => cases even
  | case3 position first second rest firstNone =>
      cases failed
      exact ⟨[], first,
        second :: rest, rfl, fun _ member => absurd member List.not_mem_nil,
        (digitValue?_eq_none_iff first).mp firstNone, rfl⟩
  | case4 position first second rest high firstRead secondNone =>
      cases failed
      exact ⟨[first], second, rest, rfl,
        List.forall_mem_singleton.mpr (charOf_mem_of_digitValue? firstRead),
        (digitValue?_eq_none_iff second).mp secondNone, rfl⟩
  | case5 position first second rest high firstRead low secondRead induction =>
      cases restRead : readPairs (position + 2) rest with
      | ok tail =>
          rw [restRead] at failed
          cases failed
      | error restError =>
          rw [restRead] at failed
          cases failed
          have restEven : rest.length % 2 = 0 := by
            rw [List.length_cons, List.length_cons] at even
            omega
          obtain ⟨before, byte, after, split, digits, noDigit, rfl⟩ :=
            induction restEven restRead
          refine ⟨first :: second :: before, byte, after, by rw [split]; rfl,
            digits_of_pair firstRead secondRead digits, noDigit, ?_⟩
          rw [List.length_cons, List.length_cons, Nat.add_assoc, Nat.add_comm 2]

theorem length_utf8Bytes (text : String) :
    (utf8Bytes text).length = text.utf8ByteSize := by
  rw [← String.size_toByteArray, ← String.utf8Encode_toList, List.utf8Encode,
    List.size_toByteArray]
  rfl

theorem le_toNat_ofNat {code : Nat} (low : 128 ≤ code) (high : code < 256) :
    128 ≤ (UInt8.ofNat code).toNat := by
  rwa [UInt8.toNat_ofNat_of_lt' high]

theorem encoding_of_lt {character : Char} (small : character.toNat < 128) :
    String.utf8EncodeChar character = [byteOf character] ∧
      charOf (byteOf character) = character := by
  refine ⟨if_pos (Nat.le_of_lt_succ small), ?_⟩
  rw [charOf, byteOf, UInt8.toNat_ofNat_of_lt' (Nat.lt_trans small (by decide)),
    Char.ofNat_toNat]

/-- A character is either its only byte, or none of its bytes is a character by
itself. -/
theorem utf8EncodeChar_single_or_long (character : Char) :
    (String.utf8EncodeChar character = [byteOf character] ∧
        charOf (byteOf character) = character) ∨
      ∀ byte ∈ String.utf8EncodeChar character, 128 ≤ byte.toNat := by
  fun_cases String.utf8EncodeChar character with
  | case1 code single =>
      obtain ⟨-, back⟩ := encoding_of_lt (Nat.lt_succ_of_le single)
      exact .inl ⟨rfl, back⟩
  | case2 code notOne two =>
      refine .inr ?_
      simp only [List.forall_mem_cons]
      exact ⟨le_toNat_ofNat (by omega) (by omega),
        le_toNat_ofNat (by omega) (by omega), fun _ member =>
        absurd member List.not_mem_nil⟩
  | case3 code notOne notTwo three =>
      refine .inr ?_
      simp only [List.forall_mem_cons]
      exact ⟨le_toNat_ofNat (by omega) (by omega),
        le_toNat_ofNat (by omega) (by omega),
        le_toNat_ofNat (by omega) (by omega), fun _ member =>
        absurd member List.not_mem_nil⟩
  | case4 code notOne notTwo notThree =>
      refine .inr ?_
      simp only [List.forall_mem_cons]
      exact ⟨le_toNat_ofNat (by omega) (by omega),
        le_toNat_ofNat (by omega) (by omega),
        le_toNat_ofNat (by omega) (by omega),
        le_toNat_ofNat (by omega) (by omega), fun _ member =>
        absurd member List.not_mem_nil⟩

theorem toNat_lt_of_mem_hexDigits {character : Char}
    (digit : character ∈ hexDigits) :
    character.toNat < 128 := by
  have checked :
      hexDigits.all (fun character => character.toNat < 128) = true := by decide
  exact of_decide_eq_true (List.all_eq_true.mp checked character digit)

theorem toNat_charOf (byte : UInt8) : (charOf byte).toNat = byte.toNat := by
  have size : byte.toNat < 256 := byte.toNat_lt
  have valid : byte.toNat.isValidChar := .inl (by omega)
  rw [charOf, Char.ofNat, dif_pos valid]
  rfl

theorem encoding_of_digit {character : Char} (digit : character ∈ hexDigits) :
    String.utf8EncodeChar character = [byteOf character] ∧
      charOf (byteOf character) = character :=
  encoding_of_lt (toNat_lt_of_mem_hexDigits digit)

theorem digit_of_encoding {character : Char}
    (digits : ∀ byte ∈ String.utf8EncodeChar character,
      charOf byte ∈ hexDigits) :
    character ∈ hexDigits := by
  obtain ⟨encoded, back⟩ | long := utf8EncodeChar_single_or_long character
  · have digit :=
      digits (byteOf character) (encoded ▸ List.mem_singleton_self _)
    rwa [back] at digit
  · obtain ⟨byte, member⟩ :=
      List.exists_mem_of_ne_nil _
        (String.utf8EncodeChar_ne_nil (c := character))
    have short := toNat_lt_of_mem_hexDigits (digits byte member)
    rw [toNat_charOf] at short
    exact absurd (long byte member) (Nat.not_le_of_lt short)

theorem utf8Bytes_of_digits {text : String}
    (digits : ∀ character ∈ text.toList, character ∈ hexDigits) :
    utf8Bytes text = text.toList.map byteOf := by
  rw [utf8Bytes, List.map_eq_flatMap]
  exact List.flatMap_congr fun character member =>
    (encoding_of_digit (digits character member)).1

theorem digits_iff {text : String} :
    (∀ byte ∈ utf8Bytes text, charOf byte ∈ hexDigits) ↔
      ∀ character ∈ text.toList, character ∈ hexDigits := by
  refine ⟨fun digits character member => ?_, fun digits => ?_⟩
  · apply digit_of_encoding
    intro byte encoded
    exact digits byte (List.mem_flatMap.mpr ⟨character, member, encoded⟩)
  · rw [utf8Bytes_of_digits digits, List.forall_mem_map]
    intro character member
    rw [(encoding_of_digit (digits character member)).2]
    exact digits character member

theorem utf8ByteSize_of_digits {text : String}
    (digits : ∀ character ∈ text.toList, character ∈ hexDigits) :
    text.utf8ByteSize = text.length := by
  rw [← length_utf8Bytes, utf8Bytes_of_digits digits, List.length_map,
    String.length_toList]

theorem isHexText_iff {text : String} :
    IsHexText text ↔
      text.utf8ByteSize = 24 ∧
        ∀ byte ∈ utf8Bytes text, charOf byte ∈ hexDigits := by
  rw [digits_iff, IsHexText]
  refine and_congr_left fun digits => ?_
  rw [utf8ByteSize_of_digits digits]

/-- A text of digits, in small letters. -/
theorem map_toLower_of_digits {text : String}
    (digits : ∀ byte ∈ utf8Bytes text, charOf byte ∈ hexDigits) :
    (utf8Bytes text).map (fun byte => (charOf byte).toLower) =
      text.toLower.toList := by
  rw [digits_iff] at digits
  change _ = (text.map Char.toLower).toList
  rw [utf8Bytes_of_digits digits, List.map_map, String.toList_map]
  refine List.map_congr_left fun character member => ?_
  rw [Function.comp_apply, (encoding_of_digit (digits character member)).2]

theorem length_flatMap_hexPair (bytes : List UInt8) :
    (bytes.flatMap hexPair).length = 2 * bytes.length := by
  induction bytes with
  | nil => rfl
  | cons byte rest induction =>
      rw [List.flatMap_cons, List.length_append, induction,
        List.length_cons, hexPair]
      simp only [List.length_cons, List.length_nil]
      omega

/-- What the outcome of reading says about the text. -/
theorem parse_sound (text : String) :
    match parse text with
    | .ok id => IsHexText text ∧ id.hex = text.toLower
    | .error error => Refused text error := by
  by_cases odd : text.utf8ByteSize % 2 = 1
  · rw [parse, length_utf8Bytes, if_pos odd]
    exact .oddLength odd
  have even : text.utf8ByteSize % 2 = 0 := by omega
  cases pairsRead : readPairs 0 (utf8Bytes text) with
  | error error =>
      simp only [parse, length_utf8Bytes, if_neg odd, pairsRead]
      obtain ⟨before, byte, after, split, digits, noDigit, rfl⟩ :=
        readPairs_error (by rwa [length_utf8Bytes]) pairsRead
      rw [Nat.zero_add]
      exact .invalidByte even split digits noDigit
  | ok bytes =>
      obtain ⟨digits, written⟩ := readPairs_ok pairsRead
      have size : 2 * bytes.length = text.utf8ByteSize := by
        rw [← length_flatMap_hexPair, written, List.length_map,
          length_utf8Bytes]
      by_cases twelve : bytes.length = 12
      · simp only [parse, length_utf8Bytes, if_neg odd, pairsRead,
          dif_pos twelve]
        refine ⟨isHexText_iff.mpr ⟨by omega, digits⟩, ?_⟩
        rw [hex, written, map_toLower_of_digits digits, String.ofList_toList]
      · simp only [parse, length_utf8Bytes, if_neg odd, pairsRead,
          dif_neg twelve]
        have half : bytes.length = text.utf8ByteSize / 2 := by omega
        rw [half]
        exact .wrongLength even digits (by omega)

theorem isHexText_of_parse {text : String} {id : ObjectId}
    (read : parse text = .ok id) :
    IsHexText text ∧ id.hex = text.toLower := by
  have sound := parse_sound text
  rwa [read] at sound

theorem refused_of_parse {text : String} {error : ParseError}
    (failed : parse text = .error error) :
    Refused text error := by
  have sound := parse_sound text
  rwa [failed] at sound

theorem not_all_digits {digits before after : List UInt8} {byte : UInt8}
    (split : digits = before ++ byte :: after)
    (noDigit : charOf byte ∉ hexDigits) :
    ¬ ∀ byte ∈ digits, charOf byte ∈ hexDigits := by
  intro allDigits
  apply noDigit
  apply allDigits
  rw [split]
  exact List.mem_append_right before List.mem_cons_self

/-- What stands from the first byte on that is no digit. -/
theorem dropWhile_of_split {digits before after : List UInt8} {byte : UInt8}
    (split : digits = before ++ byte :: after)
    (earlierDigits : ∀ earlier ∈ before, charOf earlier ∈ hexDigits)
    (noDigit : charOf byte ∉ hexDigits) :
    digits.dropWhile (fun byte => decide (charOf byte ∈ hexDigits)) =
      byte :: after := by
  rw [split, List.dropWhile_append_of_pos fun earlier member =>
    decide_eq_true (earlierDigits earlier member)]
  exact List.dropWhile_cons_of_neg (by simpa using noDigit)

namespace Refused

variable {text : String} {error other : ParseError}

theorem not_isHexText (refused : Refused text error) : ¬ IsHexText text := by
  intro isHexText
  obtain ⟨size, allDigits⟩ := isHexText_iff.mp isHexText
  cases refused with
  | oddLength odd => omega
  | invalidByte even split digits noDigit =>
      exact not_all_digits split noDigit allDigits
  | wrongLength even digits notTwelve => exact notTwelve size

theorem unique (refused : Refused text error)
    (refusedToo : Refused text other) :
    error = other := by
  cases refused with
  | oddLength odd =>
      cases refusedToo with
      | oddLength => rfl
      | invalidByte even | wrongLength even => omega
  | invalidByte even split digits noDigit =>
      cases refusedToo with
      | oddLength odd => omega
      | invalidByte _ splitToo digitsToo noDigitToo =>
          have rest := (dropWhile_of_split split digits noDigit).symm.trans
            (dropWhile_of_split splitToo digitsToo noDigitToo)
          cases rest
          rw [List.append_cancel_right (split.symm.trans splitToo)]
      | wrongLength _ allDigits =>
          exact absurd allDigits (not_all_digits split noDigit)
  | wrongLength even allDigits =>
      cases refusedToo with
      | oddLength odd => omega
      | invalidByte _ split _ noDigit =>
          exact absurd allDigits (not_all_digits split noDigit)
      | wrongLength => rfl

end Refused

theorem isHexText_hex (id : ObjectId) : IsHexText id.hex := by
  refine ⟨?_, fun character member => ?_⟩
  · rw [hex, String.length_ofList, length_flatMap_hexPair, id.length_bytes]
  · rw [hex, String.toList_ofList] at member
    obtain ⟨byte, -, written⟩ := List.mem_flatMap.mp member
    exact (hexPair_digits written).1

theorem toLower_hex (id : ObjectId) : id.hex.toLower = id.hex := by
  change id.hex.map Char.toLower = id.hex
  rw [← String.toList_inj, String.toList_map, hex, String.toList_ofList]
  refine (List.map_congr_left fun character member => ?_).trans (List.map_id _)
  obtain ⟨byte, -, written⟩ := List.mem_flatMap.mp member
  exact (hexPair_digits written).2

theorem hex_injective {left right : ObjectId} (same : left.hex = right.hex) :
    left = right := by
  have pairs := congrArg (fun pairs => readPairs 0 (pairs.map byteOf))
    (String.ofList_inj.mp same)
  simp only [readPairs_flatMap_hexPair] at pairs
  exact ext (Except.ok.inj pairs)

theorem parse_ok_iff {text : String} {id : ObjectId} :
    parse text = .ok id ↔ IsHexText text ∧ id.hex = text.toLower := by
  refine ⟨isHexText_of_parse, ?_⟩
  rintro ⟨isHexText, written⟩
  cases outcome : parse text with
  | error error =>
      exact absurd isHexText (refused_of_parse outcome).not_isHexText
  | ok found =>
      rw [hex_injective ((isHexText_of_parse outcome).2.trans written.symm)]

theorem parse_error_iff {text : String} {error : ParseError} :
    parse text = .error error ↔ Refused text error := by
  refine ⟨refused_of_parse, fun refused => ?_⟩
  cases outcome : parse text with
  | ok id => exact absurd (isHexText_of_parse outcome).1 refused.not_isHexText
  | error found => rw [(refused_of_parse outcome).unique refused]

/-- A text reads as an id exactly when it consists of twenty-four digits, and
the id is then written as the text in small letters; whatever is refused is
refused for the reason that `Refused` gives; and an id is read back from what it
is written as. -/
theorem parse_exact (text : String) :
    ((∃ id, parse text = .ok id) ↔ IsHexText text) ∧
      (∀ id, parse text = .ok id ↔ IsHexText text ∧ id.hex = text.toLower) ∧
      (∀ error, parse text = .error error ↔ Refused text error) ∧
      ∀ id, parse id.hex = .ok id := by
  refine ⟨⟨?_, ?_⟩, fun id => parse_ok_iff, fun error => parse_error_iff, ?_⟩
  · rintro ⟨id, read⟩
    exact (isHexText_of_parse read).1
  · intro isHexText
    cases outcome : parse text with
    | error error =>
        exact absurd isHexText (refused_of_parse outcome).not_isHexText
    | ok id => exact ⟨id, rfl⟩
  · intro id
    exact parse_ok_iff.mpr ⟨isHexText_hex id, (toLower_hex id).symm⟩

end EntityLink.ObjectId
