import OpenDnp3.App.Encoding
import Mathlib.Data.Nat.Bitwise

/-!
# Bitfields

The bits that `BitfieldRangeWriteIterator` packs into the bytes of a header, and that the parser
takes them back.
-/

namespace OpenDnp3.App

/-! ## Bits in bytes -/

/-- The number of bytes is that of the bits by eight, rounded up. -/
theorem numBytesInBits_eq (n : ℕ) : numBytesInBits n = (n + 7) / 8 := by
  unfold numBytesInBits
  split_ifs <;> omega

/-- The bits of a byte are numbered from the lowest one. -/
theorem getBit_eq_testBit (bytes : List UInt8) (i : ℕ) :
    getBit bytes i = (bytes.getD (i / 8) 0).toNat.testBit (i % 8) := by
  unfold getBit
  rw [Nat.one_shiftLeft, Nat.and_two_pow]
  cases (bytes.getD (i / 8) 0).toNat.testBit (i % 8) <;> simp

/-- The bytes hold these bits, and behind them only zeros. -/
structure Packs (bytes : List UInt8) (bits : List Bool) : Prop where
  length : bytes.length = numBytesInBits bits.length
  getBit : ∀ i, App.getBit bytes i = bits.getD i false

/-- No bits need no bytes. -/
theorem Packs.nil : Packs [] [] :=
  ⟨rfl, fun i => by rw [getBit_eq_testBit]; simp⟩

/-- A byte that is set to zero behind the others adds no bit. -/
theorem getBit_append_zero (bytes : List UInt8) (i : ℕ) :
    getBit (bytes ++ [0]) i = getBit bytes i := by
  have hbyte : (bytes ++ [0]).getD (i / 8) 0 = bytes.getD (i / 8) 0 := by
    simp only [List.getD_eq_getElem?_getD]
    obtain hlt | heq | hgt := lt_trichotomy (i / 8) bytes.length
    · rw [List.getElem?_append_left hlt]
    · rw [heq, List.getElem?_append_right le_rfl, List.getElem?_eq_none le_rfl]
      simp
    · rw [List.getElem?_eq_none (by rw [List.length_append, List.length_singleton]; omega),
        List.getElem?_eq_none (by omega)]
  rw [getBit_eq_testBit, getBit_eq_testBit, hbyte]

/-- A bit that is set in a byte is the only one to change. -/
theorem getBit_set {bytes : List UInt8} {n : ℕ} (h : n / 8 < bytes.length) (i : ℕ) :
    getBit (bytes.set (n / 8) (bytes.getD (n / 8) 0 ||| UInt8.ofNat (1 <<< (n % 8)))) i =
      (decide (i = n) || getBit bytes i) := by
  have hmask : (UInt8.ofNat (1 <<< (n % 8))).toNat = 2 ^ (n % 8) := by
    rw [Nat.one_shiftLeft]
    refine UInt8.toNat_ofNat_of_lt' ?_
    calc 2 ^ (n % 8) < 2 ^ 8 := Nat.pow_lt_pow_right (by decide) (Nat.mod_lt n (by decide))
      _ = UInt8.size := rfl
  rw [getBit_eq_testBit, getBit_eq_testBit]
  by_cases hbyte : i / 8 = n / 8
  · -- Within the byte the mask has one bit.
    have hself : (bytes.set (n / 8) (bytes.getD (n / 8) 0 ||| UInt8.ofNat (1 <<< (n % 8)))).getD
        (n / 8) 0 = bytes.getD (n / 8) 0 ||| UInt8.ofNat (1 <<< (n % 8)) := by
      rw [List.getD_eq_getElem?_getD, List.getElem?_set_self h, Option.getD_some]
    rw [hbyte, hself, UInt8.toNat_or, Nat.testBit_or, hmask, Nat.testBit_two_pow, Bool.or_comm]
    congr 1
    rw [decide_eq_decide]
    omega
  · have hne : i ≠ n := by
      rintro rfl
      exact hbyte rfl
    have hother : (bytes.set (n / 8) (bytes.getD (n / 8) 0 ||| UInt8.ofNat (1 <<< (n % 8)))).getD
        (i / 8) 0 = bytes.getD (i / 8) 0 := by
      rw [List.getD_eq_getElem?_getD, List.getElem?_set_ne (Ne.symm hbyte),
        List.getD_eq_getElem?_getD]
    rw [hother, decide_eq_false hne, Bool.false_or]

/-- A bit more is packed behind the others. -/
theorem getD_concat (bits : List Bool) (value : Bool) (i : ℕ) :
    (bits ++ [value]).getD i false = (decide (i = bits.length) && value || bits.getD i false) := by
  simp only [List.getD_eq_getElem?_getD]
  obtain hlt | rfl | hgt := lt_trichotomy i bits.length
  · rw [List.getElem?_append_left hlt, decide_eq_false hlt.ne, Bool.false_and, Bool.false_or]
  · rw [List.getElem?_append_right le_rfl, List.getElem?_eq_none le_rfl]
    simp
  · rw [List.getElem?_eq_none (by rw [List.length_append, List.length_singleton]; omega),
      List.getElem?_eq_none hgt.le, decide_eq_false hgt.ne']
    simp

namespace BitfieldRangeWriteIterator

/-- `BitfieldRangeWriteIterator::Write` packs the value behind the bits that it has packed, as long
as their number is that of the counter. -/
theorem write_packs {iterator : BitfieldRangeWriteIterator} {bits : List Bool}
    (hcount : iterator.count = bits.length) (hpacks : Packs iterator.bytes bits)
    (hspace : iterator.count < iterator.maxCount) (value : Bool) :
    ∃ bytes, iterator.write value =
        some { iterator with count := iterator.index.cast (bits.length + 1), bytes } ∧
      Packs bytes (bits ++ [value]) := by
  have hlen := hpacks.length
  rw [numBytesInBits_eq] at hlen
  unfold write
  rw [if_pos hspace, hcount]
  -- The byte of the new bit is there, and the bits in it from the new one on are zero.
  obtain ⟨bytes, hbytes, hlen', hbits⟩ : ∃ bytes : List UInt8,
      (if bits.length % 8 = 0 then
        if bits.length / 8 < iterator.bytes.length then iterator.bytes.set (bits.length / 8) 0
        else iterator.bytes ++ [0]
      else iterator.bytes) = bytes ∧ bytes.length = bits.length / 8 + 1 ∧
        ∀ i, getBit bytes i = bits.getD i false := by
    refine ⟨_, rfl, ?_⟩
    split_ifs with hfirst hless
    · omega
    · refine ⟨?_, fun i => ?_⟩
      · rw [List.length_append, List.length_singleton]
        omega
      · rw [getBit_append_zero, hpacks.getBit]
    · exact ⟨by omega, hpacks.getBit⟩
  dsimp only
  rw [hbytes]
  refine ⟨_, rfl, ?_, fun i => ?_⟩
  · rw [numBytesInBits_eq, List.length_append, List.length_singleton]
    split_ifs
    · rw [List.length_set]
      omega
    · omega
  · rw [getD_concat, ← hbits]
    cases value with
    | true => rw [if_pos rfl, getBit_set (by omega), Bool.and_true]
    | false => rw [if_neg (by decide), Bool.and_false, Bool.false_or]

end BitfieldRangeWriteIterator

/-! ## Headers -/

/-- The bytes of a header that a `BitfieldRangeWriteIterator` leaves. A stop index that it does not
write is what the buffer held before. -/
def bitfieldBytes (gv : GroupVariation) (index : IndexType) (start : ℕ) (stop : Option ℕ)
    (stale : ℕ) (bytes : List UInt8) : List UInt8 :=
  headerBytes gv.inst (startStopCode index) ++
    (writeNum index start ++ (writeNum index (stop.getD stale) ++ bytes))

/-- The values that the parser delivers for the bits. -/
def bitValues (start : ℕ) (bits : List Bool) : List (Indexed Value) :=
  ((List.range' start bits.length).zip bits).map fun point =>
    { value := .bit point.2, index := point.1 }

/-- The bits are read as they were packed. -/
theorem foreach_readBit {bytes : List UInt8} {bits : List Bool}
    (h : ∀ i, getBit bytes i = bits.getD i false) (start : ℕ) :
    foreach (readBit start) 0 bits.length bytes = bitValues start bits := by
  have hall : ∀ (done rest : List Bool), bits = done ++ rest →
      foreach (readBit start) done.length rest.length bytes =
        bitValues (start + done.length) rest := by
    intro done rest
    induction rest generalizing done with
    | nil => intro _; rfl
    | cons bit rest ih =>
      intro hbits
      have hget : getBit bytes done.length = bit := by
        rw [h, hbits, List.getD_eq_getElem?_getD, List.getElem?_append_right le_rfl]
        simp
      have hrest := ih (done ++ [bit]) (by rw [hbits, List.append_assoc]; rfl)
      rw [List.length_append, List.length_singleton] at hrest
      rw [List.length_cons, foreach]
      simp only [readBit, hget]
      rw [hrest]
      rfl
  exact hall [] bits rfl

/-- A range that was written is read back. -/
theorem rangeReader_writeNum {index : IndexType} {start stop : ℕ} (hle : start ≤ stop)
    (hstop : stop ≤ index.max) (rest : List UInt8) :
    (numParser index).rangeReader (writeNum index start ++ (writeNum index stop ++ rest)) =
      .ok ({ start, stop }, rest) := by
  have hstart := readNum_writeNum (hle.trans hstop) (writeNum index stop ++ rest)
  have hread := readNum_writeNum hstop rest
  have hvalid : ({ start, stop } : Range).isValid = true := by simpa [Range.isValid] using hle
  rw [← NumParser.parseRange_eq]
  unfold NumParser.parseRange
  rw [if_neg (by simp; omega)]
  simp only [hstart, hread]
  exact if_pos hvalid

/-- The parser takes a bitfield as it was written. -/
theorem takes_bitfieldBytes {index : IndexType} {start : ℕ} {bytes : List UInt8} {bits : List Bool}
    (hne : bits ≠ []) (hfits : start + bits.length ≤ index.max + 1) (hpacks : Packs bytes bits)
    (stale place : ℕ) :
    (APDUParser.headerReader {} place).Takes
      (bitfieldBytes .Group1Var1 index start (some (start + bits.length - 1)) stale bytes)
      (.rangeValues (headerRecord GroupVariation.Group1Var1.inst (startStopCode index) place)
        { start, stop := start + bits.length - 1 } (bitValues start bits)) := by
  intro rest
  have hpos : 0 < bits.length := List.length_pos_iff.mpr hne
  set record := headerRecord GroupVariation.Group1Var1.inst (startStopCode index) place with hrecord
  have henum : record.enumeration = .Group1Var1 := enumeration_headerRecord _ _ _
  have hqualifier : ∀ buffer, APDUParser.qualifierReader {} record buffer =
      RangeParser.reader (numParser index) {} record buffer := by
    intro buffer
    unfold APDUParser.qualifierReader
    rw [hrecord, getQualifierCode_headerRecord]
    cases index <;> rfl
  have hcount : ({ start, stop := start + bits.length - 1 } : Range).count = bits.length := by
    have hvalid : ({ start, stop := start + bits.length - 1 } : Range).isValid = true := by
      simp only [Range.isValid, decide_eq_true_eq]
      omega
    rw [Range.count, if_pos hvalid]
    dsimp only
    omega
  simp only [bitfieldBytes, List.append_assoc, APDUParser.headerReader, Reader.bind,
    recordReader_headerBytes (s := GroupVariation.Group1Var1.inst) (by decide), ← hrecord,
    hqualifier, RangeParser.reader, Option.getD_some]
  rw [rangeReader_writeNum (by omega) (by omega)]
  -- Exactly the bytes of the bits are required.
  have hrequired : (RangeParser.fromBitfieldType record
      { start, stop := start + bits.length - 1 }).requiredSize = bytes.length := by
    rw [hpacks.length]
    exact congrArg numBytesInBits hcount
  have hobjects : RangeParser.objects record { start, stop := start + bits.length - 1 } =
      (RangeParser.fromBitfieldType record { start, stop := start + bits.length - 1 }).reader := by
    unfold RangeParser.objects RangeParser.select
    rw [henum]
    rfl
  change RangeParser.objects record _ (bytes ++ rest) = _
  rw [hobjects]
  unfold ObjectParser.reader Reader.block
  rw [hrequired, if_neg (by simp), List.take_left, List.drop_left]
  simp only [RangeParser.fromBitfieldType, hcount, foreach_readBit hpacks.getBit]

end OpenDnp3.App
