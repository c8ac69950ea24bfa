import EntityLink.Proofs.ObjectId.Hexadecimal

/-!
# The order of ids

Ids are compared from their first byte on, which is the order of the numbers
that the bytes are the digits of (`compare_bigEndian`), and the order of the
texts that they are written as (`compare_hex`).  So the ids are ordered by their
point in time and then by their counter, and they are exactly the pairs of the
two.
-/

namespace EntityLink.ObjectId

theorem compareLex_eq_compare (left right : List UInt8) :
    compare.compareLex left right = Ord.compare left right := by
  induction left generalizing right with
  | nil =>
      cases right with
      | nil => rfl
      | cons byte rest => rw [compare.compareLex, List.compare_nil_cons]
  | cons byte rest induction =>
      cases right with
      | nil => rw [compare.compareLex, List.compare_cons_nil]
      | cons other others =>
          rw [compare.compareLex, List.compare_cons_cons, induction]

theorem compare_append {α : Type} [Ord α] {left right : List α}
    (same : left.length = right.length) (lefts rights : List α) :
    Ord.compare (left ++ lefts) (right ++ rights) =
      (Ord.compare left right).then (Ord.compare lefts rights) := by
  induction left generalizing right with
  | nil =>
      obtain rfl := List.length_eq_zero_iff.mp same.symm
      rw [List.compare_nil_nil]
      rfl
  | cons item rest induction =>
      cases right with
      | nil => cases same
      | cons other others =>
          rw [List.cons_append, List.cons_append, List.compare_cons_cons,
            List.compare_cons_cons, induction (Nat.succ.inj same),
            Ordering.then_assoc]

theorem compare_singleton {α : Type} [Ord α] (left right : α) :
    Ord.compare [left] [right] = Ord.compare left right := by
  rw [List.compare_cons_cons, List.compare_nil_nil, Ordering.then_eq]

theorem compare_congr {left right first second : Nat}
    (smaller : left < right ↔ first < second)
    (greater : right < left ↔ second < first) :
    Ord.compare left right = Ord.compare first second := by
  simp only [Nat.compare_eq_ite_lt, smaller, greater]

/-- Two numbers of two digits each are compared by the higher digits first. -/
theorem compare_digits {base lowLeft lowRight : Nat}
    (leftBound : lowLeft < base) (rightBound : lowRight < base)
    (highLeft highRight : Nat) :
    Ord.compare (base * highLeft + lowLeft) (base * highRight + lowRight) =
      (Ord.compare highLeft highRight).then (Ord.compare lowLeft lowRight) := by
  obtain smaller | rfl | greater := Nat.lt_trichotomy highLeft highRight
  · have next : base * (highLeft + 1) ≤ base * highRight :=
      Nat.mul_le_mul_left base smaller
    rw [Nat.mul_succ] at next
    rw [Nat.compare_eq_lt.mpr smaller, Nat.compare_eq_lt.mpr (by omega)]
    rfl
  · rw [Std.compare_self, Ordering.then]
    exact compare_congr (by omega) (by omega)
  · have next : base * (highRight + 1) ≤ base * highLeft :=
      Nat.mul_le_mul_left base greater
    rw [Nat.mul_succ] at next
    rw [Nat.compare_eq_gt.mpr greater, Nat.compare_eq_gt.mpr (by omega)]
    rfl

theorem compare_ofNat (left right : Nat) :
    Ord.compare (UInt8.ofNat left) (UInt8.ofNat right) =
      Ord.compare (left % 256) (right % 256) := by
  rw [UInt8.compare_eq_toNat_compare_toNat, UInt8.toNat_ofNat',
    UInt8.toNat_ofNat']

theorem compare_bigEndian {count left right : Nat}
    (leftBound : left < 256 ^ count) (rightBound : right < 256 ^ count) :
    Ord.compare (bigEndian count left) (bigEndian count right) =
      Ord.compare left right := by
  induction count generalizing left right with
  | zero =>
      obtain rfl : left = 0 := by omega
      obtain rfl : right = 0 := by omega
      rfl
  | succ count induction =>
      have leftSmall : left / 256 < 256 ^ count := by omega
      have rightSmall : right / 256 < 256 ^ count := by omega
      rw [bigEndian,
        bigEndian, compare_append (by rw [length_bigEndian, length_bigEndian]),
        compare_singleton, induction leftSmall rightSmall,
        compare_ofNat, ← compare_digits (Nat.mod_lt left (by decide))
          (Nat.mod_lt right (by decide)), Nat.div_add_mod, Nat.div_add_mod]

theorem compare_ofParts (leftTime rightTime : UInt32)
    (leftCounter rightCounter : UInt64) :
    compare (ofParts leftTime leftCounter) (ofParts rightTime rightCounter) =
      (Ord.compare leftTime rightTime).then
        (Ord.compare leftCounter rightCounter) := by
  rw [compare, compareLex_eq_compare, ofParts, ofParts,
    compare_append (by rw [length_bigEndian, length_bigEndian]),
    compare_bigEndian leftTime.toNat_lt rightTime.toNat_lt,
    compare_bigEndian leftCounter.toNat_lt rightCounter.toNat_lt,
    ← UInt32.compare_eq_toNat_compare_toNat, ←
      UInt64.compare_eq_toNat_compare_toNat]

theorem exists_bigEndian {count : Nat} {bytes : List UInt8}
    (length : bytes.length = count) :
    ∃ value, value < 256 ^ count ∧ bigEndian count value = bytes := by
  induction count generalizing bytes with
  | zero =>
      obtain rfl := List.length_eq_zero_iff.mp length
      exact ⟨0, by decide, rfl⟩
  | succ count induction =>
      obtain rfl | ⟨earlier, last, rfl⟩ := List.eq_nil_or_concat' bytes
      · cases length
      rw [List.length_append, List.length_singleton] at length
      obtain ⟨value, bound, rfl⟩ := induction (Nat.succ.inj length)
      have small : last.toNat < 256 := last.toNat_lt
      refine ⟨256 * value + last.toNat, by omega, ?_⟩
      have higher : (256 * value + last.toNat) / 256 = value := by omega
      have lower : UInt8.ofNat (256 * value + last.toNat) = last := by
        rw [← UInt8.toNat_inj, UInt8.toNat_ofNat']
        omega
      rw [bigEndian, higher, lower]

theorem exists_ofParts (id : ObjectId) :
    ∃ time counter, ofParts time counter = id := by
  have four : (id.bytes.take 4).length = 4 := by
    rw [List.length_take, id.length_bytes]
    rfl
  have eight : (id.bytes.drop 4).length = 8 := by
    rw [List.length_drop, id.length_bytes]
  obtain ⟨seconds, secondsBound, secondsDigits⟩ := exists_bigEndian four
  obtain ⟨ordinal, ordinalBound, ordinalDigits⟩ := exists_bigEndian eight
  have timeValue : (UInt32.ofNat seconds).toNat = seconds :=
    UInt32.toNat_ofNat_of_lt' (secondsBound.trans_eq (by decide))
  have counterValue : (UInt64.ofNat ordinal).toNat = ordinal :=
    UInt64.toNat_ofNat_of_lt' (ordinalBound.trans_eq (by decide))
  refine ⟨UInt32.ofNat seconds, UInt64.ofNat ordinal, ext ?_⟩
  change bigEndian 4 _ ++ bigEndian 8 _ = _
  rw [timeValue, counterValue, secondsDigits, ordinalDigits,
    List.take_append_drop]

theorem compare_self (id : ObjectId) : compare id id = .eq := by
  rw [compare, compareLex_eq_compare, Std.compare_self]

/-- Parts that make the same id compare as equal. -/
theorem eq_of_ofParts_eq {leftTime rightTime : UInt32}
    {leftCounter rightCounter : UInt64}
    (same : ofParts leftTime leftCounter = ofParts rightTime rightCounter) :
    leftTime = rightTime ∧ leftCounter = rightCounter := by
  have compared := compare_ofParts leftTime rightTime leftCounter rightCounter
  rw [same, compare_self] at compared
  obtain ⟨times, counters⟩ := Ordering.then_eq_eq.mp compared.symm
  exact ⟨Std.LawfulEqOrd.eq_of_compare times,
    Std.LawfulEqOrd.eq_of_compare counters⟩

theorem compare_chars_lt_iff (left right : List Char) :
    Ord.compare left right = .lt ↔ left < right := by
  induction left generalizing right with
  | nil =>
      cases right with
      | nil => simp
      | cons character rest => simp
  | cons character rest induction =>
      cases right with
      | nil => simp
      | cons other others =>
          rw [List.compare_cons_cons, Ordering.then_eq_lt, induction,
            compare_lt_iff_lt, Std.compare_eq_iff_eq, List.cons_lt_cons_iff]

/-- Texts are compared character by character. -/
theorem compare_toList (left right : String) :
    Ord.compare left right = Ord.compare left.toList right.toList := by
  obtain smaller | rfl | greater := lt_trichotomy left right
  · rw [compare_lt_iff_lt.mpr smaller,
      (compare_chars_lt_iff _ _).mpr (String.lt_iff_toList_lt.mp smaller)]
  · rw [Std.compare_self, Std.compare_self]
  · rw [compare_gt_iff_gt.mpr greater, Std.OrientedOrd.eq_swap,
      (compare_chars_lt_iff _ _).mpr (String.lt_iff_toList_lt.mp greater)]
    rfl

theorem compare_hexDigit {left right : UInt8} (leftBound : left < 16)
    (rightBound : right < 16) :
    Ord.compare (hexDigit left) (hexDigit right) = Ord.compare left right := by
  have checked : ∀ code < 16, ∀ other < 16,
      Ord.compare (hexDigit (UInt8.ofNat code)) (hexDigit (UInt8.ofNat other)) =
        Ord.compare (UInt8.ofNat code) (UInt8.ofNat other) := by
    decide +kernel
  have here := checked left.toNat (UInt8.lt_iff_toNat_lt.mp leftBound)
    right.toNat (UInt8.lt_iff_toNat_lt.mp rightBound)
  rwa [UInt8.ofNat_toNat, UInt8.ofNat_toNat] at here

/-- The halves of a byte are its digits to the base of sixteen. -/
theorem compare_hexPair (left right : UInt8) :
    Ord.compare (hexPair left) (hexPair right) = Ord.compare left right := by
  obtain ⟨leftHigh, leftLow, leftWhole⟩ := byte_halves left
  obtain ⟨rightHigh, rightLow, rightWhole⟩ := byte_halves right
  have compared := compare_digits (UInt8.lt_iff_toNat_lt.mp leftLow)
    (UInt8.lt_iff_toNat_lt.mp rightLow) (left >>> 4).toNat (right >>> 4).toNat
  rw [hexPair, hexPair, List.compare_cons_cons, compare_singleton,
    compare_hexDigit leftHigh rightHigh, compare_hexDigit leftLow rightLow,
    UInt8.compare_eq_toNat_compare_toNat, UInt8.compare_eq_toNat_compare_toNat,
    UInt8.compare_eq_toNat_compare_toNat, ← leftWhole, ← rightWhole]
  exact compared.symm

theorem compare_flatMap_hexPair (left right : List UInt8) :
    Ord.compare (left.flatMap hexPair) (right.flatMap hexPair) =
      Ord.compare left right := by
  induction left generalizing right with
  | nil =>
      cases right with
      | nil => rfl
      | cons byte rest => rfl
  | cons byte rest induction =>
      cases right with
      | nil => rfl
      | cons other others =>
          have same : (hexPair byte).length = (hexPair other).length := rfl
          rw [List.flatMap_cons, List.flatMap_cons, compare_append same,
            compare_hexPair, induction, List.compare_cons_cons]

theorem compare_hex (left right : ObjectId) :
    Ord.compare left.hex right.hex = compare left right := by
  rw [compare_toList, hex, hex, String.toList_ofList, String.toList_ofList,
    compare_flatMap_hexPair, compare, compareLex_eq_compare]

/-- Ids compare as their points in time and then their counters do, so do the
texts that they are written as, and every id is made of one point in time and
one counter. -/
theorem ofParts_order_isomorphism (leftTime rightTime : UInt32)
    (leftCounter rightCounter : UInt64) :
    compare (ofParts leftTime leftCounter) (ofParts rightTime rightCounter) =
        (Ord.compare leftTime rightTime).then
          (Ord.compare leftCounter rightCounter) ∧
      Ord.compare (ofParts leftTime leftCounter).hex
          (ofParts rightTime rightCounter).hex =
        (Ord.compare leftTime rightTime).then
          (Ord.compare leftCounter rightCounter) ∧
      ∀ id, ∃! parts : UInt32 × UInt64, ofParts parts.1 parts.2 = id := by
  refine ⟨compare_ofParts leftTime rightTime leftCounter rightCounter, ?_,
    fun id => ?_⟩
  · rw [compare_hex, compare_ofParts]
  · obtain ⟨time, counter, rfl⟩ := exists_ofParts id
    refine ⟨(time, counter), rfl, ?_⟩
    rintro ⟨otherTime, otherCounter⟩ same
    obtain ⟨rfl, rfl⟩ := eq_of_ofParts_eq same
    rfl

end EntityLink.ObjectId
