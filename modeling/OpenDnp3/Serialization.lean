import Mathlib.Data.UInt
import Mathlib.Data.List.Basic

/-!
# Little endian integers

The readers and writers of `openpal/serialization`, over byte lists.
-/

namespace OpenDnp3

/-- `openpal::UInt16::Read` at the head of a buffer. -/
def readUInt16 (buffer : List UInt8) : UInt16 :=
  (buffer.getD 0 0).toUInt16 ||| ((buffer.getD 1 0).toUInt16 <<< 8)

/-- `openpal::UInt16::Write`. -/
def writeUInt16 (value : UInt16) : List UInt8 :=
  [value.toUInt8, (value >>> 8).toUInt8]

/-- A number is read back as it was written. -/
theorem readUInt16_writeUInt16 (value : UInt16) (rest : List UInt8) :
    readUInt16 (writeUInt16 value ++ rest) = value := by
  apply UInt16.toNat_inj.mp
  have hlt := value.toNat_lt
  have hlow : value.toNat % 2 ^ 8 < 2 ^ 8 := Nat.mod_lt _ (by decide)
  have hhigh : (value.toNat >>> 8 % 2 ^ 8) <<< 8 % 2 ^ 16 = (value.toNat >>> 8) <<< 8 := by
    simp only [Nat.shiftRight_eq_div_pow, Nat.shiftLeft_eq]
    omega
  calc (readUInt16 (writeUInt16 value ++ rest)).toNat
      = value.toNat % 2 ^ 8 ||| (value.toNat >>> 8 % 2 ^ 8) <<< 8 % 2 ^ 16 := by
        simp [readUInt16, writeUInt16]
    _ = (value.toNat >>> 8) <<< 8 + value.toNat % 2 ^ 8 := by
        rw [hhigh, Nat.or_comm, Nat.shiftLeft_add_eq_or_of_lt hlow]
    _ = value.toNat := by
        simp only [Nat.shiftRight_eq_div_pow, Nat.shiftLeft_eq]
        omega

/-- A number is written as it was read. -/
theorem writeUInt16_readUInt16 (low high : UInt8) (rest : List UInt8) :
    writeUInt16 (readUInt16 (low :: high :: rest)) = [low, high] := by
  have hlow := low.toNat_lt
  have hhigh := high.toNat_lt
  have hor : high.toNat <<< 8 ||| low.toNat = high.toNat <<< 8 + low.toNat :=
    (Nat.shiftLeft_add_eq_or_of_lt hlow _).symm
  have hnum : (readUInt16 (low :: high :: rest)).toNat = high.toNat * 256 + low.toNat := by
    simp only [readUInt16, List.getD_cons_zero, List.getD_cons_succ, UInt16.toNat_or,
      UInt16.toNat_shiftLeft, UInt8.toNat_toUInt16]
    rw [Nat.or_comm]
    have hshift : high.toNat <<< (UInt16.toNat 8 % 16) % 2 ^ 16 = high.toNat <<< 8 := by
      rw [show UInt16.toNat 8 % 16 = 8 from rfl, Nat.shiftLeft_eq]
      omega
    rw [hshift, hor, Nat.shiftLeft_eq]
  unfold writeUInt16
  congr 1
  · apply UInt8.toNat_inj.mp
    rw [UInt16.toNat_toUInt8, hnum]
    omega
  · congr 1
    apply UInt8.toNat_inj.mp
    rw [UInt16.toNat_toUInt8, UInt16.toNat_shiftRight, hnum,
      show UInt16.toNat 8 % 16 = 8 from rfl, Nat.shiftRight_eq_div_pow]
    omega

/-- `openpal::UInt32::Read` at the head of a buffer. -/
def readUInt32 (buffer : List UInt8) : UInt32 :=
  (readUInt16 buffer).toUInt32 ||| ((readUInt16 (buffer.drop 2)).toUInt32 <<< 16)

/-- `openpal::UInt32::Write`. -/
def writeUInt32 (value : UInt32) : List UInt8 :=
  writeUInt16 value.toUInt16 ++ writeUInt16 (value >>> 16).toUInt16

/-- The two halves of a number. -/
theorem halves32 (low high : UInt16) :
    (low.toUInt32 ||| high.toUInt32 <<< 16).toUInt16 = low ∧
      ((low.toUInt32 ||| high.toUInt32 <<< 16) >>> 16).toUInt16 = high := by
  have hlow := low.toNat_lt
  have hhigh := high.toNat_lt
  have hnum : (low.toUInt32 ||| high.toUInt32 <<< 16).toNat = high.toNat <<< 16 + low.toNat := by
    have hshift : high.toNat <<< (UInt32.toNat 16 % 32) % 2 ^ 32 = high.toNat <<< 16 := by
      rw [show UInt32.toNat 16 % 32 = 16 from rfl, Nat.shiftLeft_eq]
      omega
    rw [UInt32.toNat_or, UInt32.toNat_shiftLeft, UInt16.toNat_toUInt32, UInt16.toNat_toUInt32,
      hshift, Nat.or_comm, Nat.shiftLeft_add_eq_or_of_lt hlow]
  rw [Nat.shiftLeft_eq] at hnum
  constructor
  · apply UInt16.toNat_inj.mp
    rw [UInt32.toNat_toUInt16, hnum]
    omega
  · apply UInt16.toNat_inj.mp
    rw [UInt32.toNat_toUInt16, UInt32.toNat_shiftRight, hnum,
      show UInt32.toNat 16 % 32 = 16 from rfl, Nat.shiftRight_eq_div_pow]
    omega

/-- A number of four bytes is written as it was read. -/
theorem writeUInt32_readUInt32 (b₀ b₁ b₂ b₃ : UInt8) (rest : List UInt8) :
    writeUInt32 (readUInt32 (b₀ :: b₁ :: b₂ :: b₃ :: rest)) = [b₀, b₁, b₂, b₃] := by
  obtain ⟨hlow, hhigh⟩ := halves32 (readUInt16 (b₀ :: b₁ :: b₂ :: b₃ :: rest))
    (readUInt16 (b₂ :: b₃ :: rest))
  have hread : readUInt32 (b₀ :: b₁ :: b₂ :: b₃ :: rest) =
      (readUInt16 (b₀ :: b₁ :: b₂ :: b₃ :: rest)).toUInt32 |||
        (readUInt16 (b₂ :: b₃ :: rest)).toUInt32 <<< 16 := rfl
  rw [writeUInt32, hread, hlow, hhigh, writeUInt16_readUInt16, writeUInt16_readUInt16]
  rfl

/-- A number is made up of its two halves. -/
theorem join32 (value : UInt32) :
    value.toUInt16.toUInt32 ||| (value >>> 16).toUInt16.toUInt32 <<< 16 = value := by
  apply UInt32.toNat_inj.mp
  have hlt := value.toNat_lt
  have hlow : value.toNat % 2 ^ 16 < 2 ^ 16 := Nat.mod_lt _ (by decide)
  have hhigh : (value.toNat >>> 16 % 2 ^ 16) <<< 16 % 2 ^ 32 = (value.toNat >>> 16) <<< 16 := by
    simp only [Nat.shiftRight_eq_div_pow, Nat.shiftLeft_eq]
    omega
  calc (value.toUInt16.toUInt32 ||| (value >>> 16).toUInt16.toUInt32 <<< 16).toNat
      = value.toNat % 2 ^ 16 ||| (value.toNat >>> 16 % 2 ^ 16) <<< 16 % 2 ^ 32 := by simp
    _ = (value.toNat >>> 16) <<< 16 + value.toNat % 2 ^ 16 := by
        rw [hhigh, Nat.or_comm, Nat.shiftLeft_add_eq_or_of_lt hlow]
    _ = value.toNat := by
        simp only [Nat.shiftRight_eq_div_pow, Nat.shiftLeft_eq]
        omega

/-- A number of four bytes is read back as it was written. -/
theorem readUInt32_writeUInt32 (value : UInt32) (rest : List UInt8) :
    readUInt32 (writeUInt32 value ++ rest) = value := by
  have hlow := readUInt16_writeUInt16 value.toUInt16
    (writeUInt16 (value >>> 16).toUInt16 ++ rest)
  have hhigh := readUInt16_writeUInt16 (value >>> 16).toUInt16 rest
  rw [readUInt32, writeUInt32, List.append_assoc, hlow]
  rw [show (writeUInt16 value.toUInt16 ++ (writeUInt16 (value >>> 16).toUInt16 ++ rest)).drop 2 =
    writeUInt16 (value >>> 16).toUInt16 ++ rest from rfl, hhigh, join32]

/-- The bits of a double at the head of a buffer, as `openpal::DoubleFloat::Read` takes them. -/
def readUInt64 (buffer : List UInt8) : UInt64 :=
  (readUInt32 buffer).toUInt64 ||| ((readUInt32 (buffer.drop 4)).toUInt64 <<< 32)

/-- The bits of a double, as `openpal::DoubleFloat::Write` puts them. -/
def writeUInt64 (value : UInt64) : List UInt8 :=
  writeUInt32 value.toUInt32 ++ writeUInt32 (value >>> 32).toUInt32

/-- The halves that 64 bits are joined of. -/
theorem halves64 (low high : UInt32) :
    (low.toUInt64 ||| high.toUInt64 <<< 32).toUInt32 = low ∧
      ((low.toUInt64 ||| high.toUInt64 <<< 32) >>> 32).toUInt32 = high := by
  have hlow := low.toNat_lt
  have hhigh := high.toNat_lt
  have hnum : (low.toUInt64 ||| high.toUInt64 <<< 32).toNat = high.toNat <<< 32 + low.toNat := by
    have hshift : high.toNat <<< (UInt64.toNat 32 % 64) % 2 ^ 64 = high.toNat <<< 32 := by
      rw [show UInt64.toNat 32 % 64 = 32 from rfl, Nat.shiftLeft_eq]
      omega
    rw [UInt64.toNat_or, UInt64.toNat_shiftLeft, UInt32.toNat_toUInt64, UInt32.toNat_toUInt64,
      hshift, Nat.or_comm, Nat.shiftLeft_add_eq_or_of_lt hlow]
  rw [Nat.shiftLeft_eq] at hnum
  constructor
  · apply UInt32.toNat_inj.mp
    rw [UInt64.toNat_toUInt32, hnum]
    omega
  · apply UInt32.toNat_inj.mp
    rw [UInt64.toNat_toUInt32, UInt64.toNat_shiftRight, hnum,
      show UInt64.toNat 32 % 64 = 32 from rfl, Nat.shiftRight_eq_div_pow]
    omega

/-- A number of eight bytes is written as it was read. -/
theorem writeUInt64_readUInt64 (b₀ b₁ b₂ b₃ b₄ b₅ b₆ b₇ : UInt8) (rest : List UInt8) :
    writeUInt64 (readUInt64 (b₀ :: b₁ :: b₂ :: b₃ :: b₄ :: b₅ :: b₆ :: b₇ :: rest)) =
      [b₀, b₁, b₂, b₃, b₄, b₅, b₆, b₇] := by
  obtain ⟨hlow, hhigh⟩ := halves64
    (readUInt32 (b₀ :: b₁ :: b₂ :: b₃ :: b₄ :: b₅ :: b₆ :: b₇ :: rest))
    (readUInt32 (b₄ :: b₅ :: b₆ :: b₇ :: rest))
  have hread : readUInt64 (b₀ :: b₁ :: b₂ :: b₃ :: b₄ :: b₅ :: b₆ :: b₇ :: rest) =
      (readUInt32 (b₀ :: b₁ :: b₂ :: b₃ :: b₄ :: b₅ :: b₆ :: b₇ :: rest)).toUInt64 |||
        (readUInt32 (b₄ :: b₅ :: b₆ :: b₇ :: rest)).toUInt64 <<< 32 := rfl
  rw [writeUInt64, hread, hlow, hhigh, writeUInt32_readUInt32, writeUInt32_readUInt32]
  rfl

/-- 64 bits are joined of their halves. -/
theorem join64 (value : UInt64) :
    value.toUInt32.toUInt64 ||| (value >>> 32).toUInt32.toUInt64 <<< 32 = value := by
  apply UInt64.toNat_inj.mp
  have hlt := value.toNat_lt
  have hlow : value.toNat % 2 ^ 32 < 2 ^ 32 := Nat.mod_lt _ (by decide)
  have hhigh : (value.toNat >>> 32 % 2 ^ 32) <<< 32 % 2 ^ 64 = (value.toNat >>> 32) <<< 32 := by
    simp only [Nat.shiftRight_eq_div_pow, Nat.shiftLeft_eq]
    omega
  calc (value.toUInt32.toUInt64 ||| (value >>> 32).toUInt32.toUInt64 <<< 32).toNat
      = value.toNat % 2 ^ 32 ||| (value.toNat >>> 32 % 2 ^ 32) <<< 32 % 2 ^ 64 := by simp
    _ = (value.toNat >>> 32) <<< 32 + value.toNat % 2 ^ 32 := by
        rw [hhigh, Nat.or_comm, Nat.shiftLeft_add_eq_or_of_lt hlow]
    _ = value.toNat := by
        simp only [Nat.shiftRight_eq_div_pow, Nat.shiftLeft_eq]
        omega

/-- A number of eight bytes is read back as it was written. -/
theorem readUInt64_writeUInt64 (value : UInt64) (rest : List UInt8) :
    readUInt64 (writeUInt64 value ++ rest) = value := by
  have hlow := readUInt32_writeUInt32 value.toUInt32
    (writeUInt32 (value >>> 32).toUInt32 ++ rest)
  have hhigh := readUInt32_writeUInt32 (value >>> 32).toUInt32 rest
  rw [readUInt64, writeUInt64, List.append_assoc, hlow]
  rw [show (writeUInt32 value.toUInt32 ++ (writeUInt32 (value >>> 32).toUInt32 ++ rest)).drop 4 =
    writeUInt32 (value >>> 32).toUInt32 ++ rest from rfl, hhigh, join64]

/-- `openpal::UInt48LE::Read`. -/
def readUInt48 (buffer : List UInt8) : ℕ :=
  (List.range 6).foldl (fun value i => value + (buffer.getD i 0).toNat * 256 ^ i) 0

/-- `openpal::UInt48LE::Write`. A value above the maximum is written as the maximum. -/
def writeUInt48 (value : ℤ) : List UInt8 :=
  (List.range 6).map fun i => UInt8.ofNat (min value (2 ^ 48 - 1) / 256 ^ i % 256).toNat

/-- 48 bits are six bytes, the lowest one first. -/
theorem readUInt48_eq (buffer : List UInt8) :
    readUInt48 buffer = (buffer.getD 0 0).toNat + (buffer.getD 1 0).toNat * 256 +
      (buffer.getD 2 0).toNat * 65536 + (buffer.getD 3 0).toNat * 16777216 +
      (buffer.getD 4 0).toNat * 4294967296 + (buffer.getD 5 0).toNat * 1099511627776 := by
  have hrange : List.range 6 = [0, 1, 2, 3, 4, 5] := rfl
  have h2 : (256 : ℕ) ^ 2 = 65536 := rfl
  have h3 : (256 : ℕ) ^ 3 = 16777216 := rfl
  have h4 : (256 : ℕ) ^ 4 = 4294967296 := rfl
  have h5 : (256 : ℕ) ^ 5 = 1099511627776 := rfl
  unfold readUInt48
  rw [hrange, List.foldl_cons, List.foldl_cons, List.foldl_cons, List.foldl_cons, List.foldl_cons,
    List.foldl_cons, List.foldl_nil, Nat.zero_add, pow_zero, mul_one, pow_one, h2, h3, h4, h5]

/-- A number below 2⁴⁸ is written as its six bytes. -/
theorem writeUInt48_eq {value : ℤ} (hlt : value < 2 ^ 48) :
    writeUInt48 value = [UInt8.ofNat (value % 256).toNat, UInt8.ofNat (value / 256 % 256).toNat,
      UInt8.ofNat (value / 65536 % 256).toNat, UInt8.ofNat (value / 16777216 % 256).toNat,
      UInt8.ofNat (value / 4294967296 % 256).toNat,
      UInt8.ofNat (value / 1099511627776 % 256).toNat] := by
  have hrange : List.range 6 = [0, 1, 2, 3, 4, 5] := rfl
  have hmin : min value (2 ^ 48 - 1) = value := min_eq_left (by omega)
  unfold writeUInt48
  rw [hmin, hrange]
  simp only [List.map_cons, List.map_nil, Int.reducePow, Int.ediv_one]

/-- A number of six bytes is read back as it was written. -/
theorem readUInt48_writeUInt48 {value : ℤ} (hnonneg : 0 ≤ value) (hlt : value < 2 ^ 48) :
    (readUInt48 (writeUInt48 value) : ℤ) = value := by
  have hbyte : ∀ n : ℤ, ((UInt8.ofNat (n % 256).toNat).toNat : ℤ) = n % 256 := by
    intro n
    rw [UInt8.toNat_ofNat_of_lt' (by change _ < 256; omega)]
    exact Int.toNat_of_nonneg (Int.emod_nonneg n (by decide))
  have h0 := hbyte value
  have h1 := hbyte (value / 256)
  have h2 := hbyte (value / 65536)
  have h3 := hbyte (value / 16777216)
  have h4 := hbyte (value / 4294967296)
  have h5 := hbyte (value / 1099511627776)
  rw [writeUInt48_eq hlt, readUInt48_eq]
  simp only [List.getD_cons_zero, List.getD_cons_succ]
  -- The six bytes are the digits of the value.
  omega

end OpenDnp3
