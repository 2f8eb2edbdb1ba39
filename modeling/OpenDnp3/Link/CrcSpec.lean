import OpenDnp3.Lib.ShiftRegister
import OpenDnp3.Link.Parser

/-!
# The checksum detects bursts

The table of `link/CRC.cpp` holds eight shifts of every octet through the register of the reflected
generator polynomial (`crcTable_eq`), so `CalcCrc` feeds the bits of its input to this register,
the least significant bit of a byte first. The two checksum bytes are written in the order in which
the register takes them: a block with a good checksum leaves one and the same state behind, whatever
its data are (`isCorrectCRC_iff`). Two blocks that differ within sixteen consecutive bits cannot
both do so.
-/

namespace OpenDnp3.Link

namespace CRC

open ShiftRegister

/-- The bits of a byte string: bytes in order, the least significant bit first. -/
def octetBits (bytes : List UInt8) : List Bool :=
  bytes.flatMap fun b => (List.range 8).map b.toBitVec.getLsbD

/-- The reflected generator polynomial. -/
def polynomial : BitVec 16 := 0xA6BC

/-- The bits of the first byte come first. -/
theorem octetBits_cons (b : UInt8) (bytes : List UInt8) :
    octetBits (b :: bytes) = octetBits [b] ++ octetBits bytes := by
  simp [octetBits]

/-- The bits of bytes one after the other. -/
theorem octetBits_append (bytes bytes' : List UInt8) :
    octetBits (bytes ++ bytes') = octetBits bytes ++ octetBits bytes' :=
  List.flatMap_append

/-- A byte has eight bits. -/
@[simp]
theorem length_octetBits (bytes : List UInt8) : (octetBits bytes).length = 8 * bytes.length := by
  induction bytes with
  | nil => rfl
  | cons b bytes ih =>
    rw [octetBits_cons, List.length_append, ih]
    simp [octetBits]
    omega

/-- The bits stand eight to a byte. -/
theorem getElem?_octetBits (bytes : List UInt8) (i : ℕ) :
    (octetBits bytes)[i]? = bytes[i / 8]?.map fun b => b.toBitVec.getLsbD (i % 8) := by
  induction bytes generalizing i with
  | nil => simp [octetBits]
  | cons b bytes ih =>
    rw [octetBits_cons]
    by_cases hi : i < 8
    · rw [List.getElem?_append_left (by simpa using hi), Nat.div_eq_of_lt hi, Nat.mod_eq_of_lt hi]
      simp [octetBits, hi]
    · obtain ⟨j, rfl⟩ : ∃ j, i = j + 8 := ⟨i - 8, by omega⟩
      rw [List.getElem?_append_right (by simp)]
      simp [ih]

/-- Bytes with the same bits are the same. -/
theorem octetBits_injective {bytes bytes' : List UInt8}
    (h : octetBits bytes = octetBits bytes') : bytes = bytes' := by
  have hlength : bytes.length = bytes'.length := by
    have hbits := congrArg List.length h
    simp only [length_octetBits] at hbits
    omega
  apply List.ext_getElem hlength
  intro i hi hi'
  apply UInt8.toBitVec_inj.mp
  apply BitVec.eq_of_getLsbD_eq
  intro j hj
  have hbit := congrArg (fun l : List Bool => l[8 * i + j]?) h
  have hdiv : (8 * i + j) / 8 = i := by omega
  have hmod : (8 * i + j) % 8 = j := by omega
  simpa [getElem?_octetBits, hdiv, hmod, hi, hi'] using hbit

/-! ## The table -/

/-- An entry of the table is its index after eight shifts. -/
theorem crcTable_eq : ∀ index < 256,
    (crcTable.getD index 0).toBitVec = (shift polynomial)^[8] (BitVec.ofNat 16 index) := by
  decide +kernel

/-- The bits of one octet are the octet. -/
theorem ofBits_octet (b : UInt8) : ofBits 16 (octetBits [b]) = b.toBitVec.setWidth 16 := by
  apply BitVec.eq_of_getLsbD_eq
  intro i hi
  rw [getLsbD_ofBits _ _ hi, List.getD_eq_getElem?_getD, getElem?_octetBits]
  by_cases hi8 : i < 8
  · simp [Nat.div_eq_of_lt hi8, Nat.mod_eq_of_lt hi8, hi]
  · have hdiv : [b].length ≤ i / 8 := by
      change 1 ≤ i / 8
      omega
    rw [List.getElem?_eq_none hdiv]
    simp [BitVec.getLsbD_of_ge b.toBitVec i (by omega)]

/-- The two bytes of a number stand in the order of their bits. -/
theorem ofBits_readUInt16 (low high : UInt8) :
    ofBits 16 (octetBits [low, high]) = (readUInt16 [low, high]).toBitVec := by
  apply BitVec.eq_of_getLsbD_eq
  intro i hi
  rw [getLsbD_ofBits _ _ hi, List.getD_eq_getElem?_getD, getElem?_octetBits]
  by_cases hi8 : i < 8
  · simp [readUInt16, Nat.div_eq_of_lt hi8, Nat.mod_eq_of_lt hi8, hi, hi8]
  · have hdiv : i / 8 = 1 := by omega
    have hmod : i % 8 = i - 8 := by omega
    simp [readUInt16, hdiv, hmod, hi, hi8, BitVec.getLsbD_of_ge low.toBitVec i (by omega)]

/-- An octet only changes the low byte of the register. -/
theorem xor_octet (crc : BitVec 16) (input : BitVec 8) :
    crc ^^^ input.setWidth 16 =
      ((crc ^^^ input.setWidth 16) &&& 255#16) ^^^ ((crc >>> 8) <<< 8) := by
  have hmask : ∀ i < 16, (255#16).getLsbD i = decide (i < 8) := by decide
  apply BitVec.eq_of_getLsbD_eq
  intro i hi
  simp only [BitVec.getLsbD_xor, BitVec.getLsbD_and, BitVec.getLsbD_shiftLeft,
    BitVec.getLsbD_ushiftRight, BitVec.getLsbD_setWidth, hmask i hi]
  by_cases hi8 : i < 8
  · simp [hi8]
  · have hback : 8 + (i - 8) = i := by omega
    simp [hi, hi8, hback, BitVec.getLsbD_of_ge input i (by omega)]

/-- The loop of `CalcCrc` feeds the bits of its byte to the register. -/
theorem crcStep_eq (crc : UInt16) (input : UInt8) :
    (crcStep crc input).toBitVec = (octetBits [input]).foldl (feed polynomial) crc.toBitVec := by
  rw [foldl_feed _ _ _ (by simp), ofBits_octet]
  have hindex : ((crc ^^^ input.toUInt16) &&& 0xFF).toNat < 256 := by
    rw [UInt16.toNat_and]
    exact Nat.lt_of_le_of_lt Nat.and_le_right (by decide)
  have htable := crcTable_eq _ hindex
  -- The low byte is looked up, the high byte only moves down.
  have hhigh := iterate_shift_shiftLeft polynomial (t := crc.toBitVec >>> 8) 8 fun i hi => by
    rw [BitVec.getLsbD_ushiftRight]
    exact BitVec.getLsbD_of_ge _ _ (by omega)
  have hsplit : crc.toBitVec ^^^ input.toBitVec.setWidth 16 =
      BitVec.ofNat 16 ((crc ^^^ input.toUInt16) &&& 0xFF).toNat ^^^
        ((crc.toBitVec >>> 8) <<< 8) := by
    rw [← UInt16.toNat_toBitVec, BitVec.ofNat_toNat, BitVec.setWidth_eq]
    exact xor_octet crc.toBitVec input.toBitVec
  calc (crcStep crc input).toBitVec
      = (crcTable.getD ((crc ^^^ input.toUInt16) &&& 0xFF).toNat 0).toBitVec ^^^
          (crc.toBitVec >>> 8) := by
        simp [crcStep]
    _ = (shift polynomial)^[8] (BitVec.ofNat 16 ((crc ^^^ input.toUInt16) &&& 0xFF).toNat) ^^^
          (shift polynomial)^[8] ((crc.toBitVec >>> 8) <<< 8) := by rw [htable, hhigh]
    _ = (shift polynomial)^[(octetBits [input]).length]
          (crc.toBitVec ^^^ input.toBitVec.setWidth 16) := by
        rw [← iterate_shift_xor, ← hsplit]
        simp

/-- A byte of the table algorithm is eight bits of the register. -/
theorem foldl_crcStep (crc : UInt16) (input : List UInt8) :
    (input.foldl crcStep crc).toBitVec =
    (octetBits input).foldl (feed polynomial) crc.toBitVec := by
  induction input generalizing crc with
  | nil => rfl
  | cons b bytes ih =>
    rw [List.foldl_cons, ih, crcStep_eq, octetBits_cons b bytes, List.foldl_append]

/-- The checksum bit by bit: an empty register takes the bits of every byte, the least significant
one first, and its complement is the checksum. -/
def bitwiseCrc (input : List UInt8) : BitVec 16 :=
  ~~~ ((octetBits input).foldl (feed polynomial) 0)

/-- The table driven checksum is the checksum bit by bit, and the checksum of a longer input
continues the table recurrence where the checksum of its front left it. -/
theorem calcCrc_eq_bitwiseCrc (input more : List UInt8) :
    (calcCrc input).toBitVec = bitwiseCrc input ∧
      calcCrc (input ++ more) = ~~~ (more.foldl crcStep (~~~ calcCrc input)) := by
  constructor
  · have hregister := foldl_crcStep 0 input
    rw [calcCrc, UInt16.toBitVec_not, hregister]
    rfl
  · have hregister : ~~~ calcCrc input = input.foldl crcStep 0 := UInt16.not_not
    rw [hregister, calcCrc, List.foldl_append]

/-- A checksum is good when the register ends in one state, the same for all data. -/
theorem isCorrectCRC_iff {input : List UInt8} {length : ℕ} (h : input.length = length + 2) :
    isCorrectCRC input length = true ↔
      (octetBits input).foldl (feed polynomial) 0 =
        (shift polynomial)^[16] (BitVec.allOnes 16) := by
  obtain ⟨low, high, hcrc⟩ : ∃ low high, input.drop length = [low, high] :=
    List.length_eq_two.mp (by simp [h])
  have hpoly : polynomial.msb = true := by decide
  have hstored := foldl_feed polynomial (((input.take length).foldl crcStep 0).toBitVec)
    (octetBits [low, high]) (by simp)
  rw [ofBits_readUInt16] at hstored
  have hregister : (octetBits input).foldl (feed polynomial) 0 =
      (shift polynomial)^[16]
        (((input.take length).foldl crcStep 0).toBitVec ^^^ (readUInt16 [low, high]).toBitVec) := by
    have hinput : input = input.take length ++ [low, high] := by
      rw [← hcrc, List.take_append_drop]
    calc (octetBits input).foldl (feed polynomial) 0
        = (octetBits (input.take length ++ [low, high])).foldl (feed polynomial) 0 := by
          rw [← hinput]
      _ = (octetBits [low, high]).foldl (feed polynomial)
            ((input.take length).foldl crcStep 0).toBitVec := by
          rw [octetBits_append, List.foldl_append, foldl_crcStep]
          rfl
      _ = _ := hstored
  rw [hregister, ((shift_injective hpoly).iterate 16).eq_iff, isCorrectCRC, hcrc, beq_iff_eq,
    calcCrc, ← UInt16.toBitVec_inj, UInt16.toBitVec_not]
  -- The complement of the register is stored exactly when the two add up to all ones.
  generalize ((input.take length).foldl crcStep 0).toBitVec = register
  generalize (readUInt16 [low, high]).toBitVec = stored
  rw [← BitVec.xor_allOnes]
  constructor
  · rintro rfl
    rw [← BitVec.xor_assoc, BitVec.xor_self, BitVec.zero_xor]
  · intro hsum
    rw [← hsum, ← BitVec.xor_assoc, BitVec.xor_self, BitVec.zero_xor]

/-- Two blocks with good checksums do not differ within sixteen consecutive bits only. -/
theorem not_isCorrectCRC_of_burst {length : ℕ} {a b : List UInt8} (ha : a.length = length + 2)
    (hb : b.length = length + 2) (hne : a ≠ b) (start : ℕ)
    (hburst : ∀ i, (octetBits a)[i]? ≠ (octetBits b)[i]? → start ≤ i ∧ i < start + 16) :
    ¬(isCorrectCRC a length = true ∧ isCorrectCRC b length = true) := by
  rintro ⟨hcorrect, hcorrect'⟩
  rw [isCorrectCRC_iff ha] at hcorrect
  rw [isCorrectCRC_iff hb, ← hcorrect] at hcorrect'
  have hlength : (octetBits a).length = (octetBits b).length := by
    rw [length_octetBits, length_octetBits, ha, hb]
  exact foldl_feed_ne (by decide) 0 hlength (fun h => hne (octetBits_injective h)) start hburst
    hcorrect'.symm

/-! ## Single bits -/

/-- A byte string with one bit turned over. -/
def flipBit (bytes : List UInt8) (i : ℕ) : List UInt8 :=
  bytes.modify (i / 8) fun b => ⟨b.toBitVec ^^^ BitVec.twoPow 8 (i % 8)⟩

/-- To flip a bit changes no length. -/
@[simp]
theorem length_flipBit (bytes : List UInt8) (i : ℕ) : (flipBit bytes i).length = bytes.length :=
  List.length_modify _ _ _

/-- Only the bit itself changes. -/
theorem getElem?_octetBits_flipBit (bytes : List UInt8) (i j : ℕ) :
    (octetBits (flipBit bytes i))[j]? =
      (octetBits bytes)[j]?.map fun bit => if i = j then !bit else bit := by
  rw [getElem?_octetBits, getElem?_octetBits, flipBit, List.getElem?_modify]
  cases bytes[j / 8]? with
  | none => rfl
  | some b =>
    by_cases hdiv : i / 8 = j / 8
    · have hmod : j % 8 < 8 := Nat.mod_lt _ (by decide)
      by_cases hij : i = j
      · subst hij
        simp [hmod]
      · have hne : i % 8 ≠ j % 8 := by omega
        simp [hdiv, hij, hne]
    · have hij : i ≠ j := fun h => hdiv (congrArg (· / 8) h)
      simp [hdiv, hij]

/-- A bit is flipped in the first bytes. -/
theorem take_flipBit (bytes : List UInt8) {i n : ℕ} (hi : i < 8 * n) :
    (flipBit bytes i).take n = flipBit (bytes.take n) i := by
  apply List.ext_getElem?
  intro j
  simp only [flipBit, List.getElem?_take, List.getElem?_modify]
  by_cases hj : j < n
  · simp [hj]
  · have hne : i / 8 ≠ j := by omega
    simp [hj]

/-- A bit behind the first bytes leaves them alone. -/
theorem take_flipBit_of_le (bytes : List UInt8) {i n : ℕ} (hi : 8 * n ≤ i) :
    (flipBit bytes i).take n = bytes.take n := by
  apply List.ext_getElem?
  intro j
  simp only [flipBit, List.getElem?_take, List.getElem?_modify]
  by_cases hj : j < n
  · have hne : i / 8 ≠ j := by omega
    simp [hj, hne]
  · simp [hj]

/-- A bit behind the first bytes is flipped in the others. -/
theorem drop_flipBit_of_le (bytes : List UInt8) {i n : ℕ} (hi : 8 * n ≤ i) :
    (flipBit bytes i).drop n = flipBit (bytes.drop n) (i - 8 * n) := by
  have hmod : (i - 8 * n) % 8 = i % 8 := by omega
  apply List.ext_getElem?
  intro j
  have hdiv : (i - 8 * n) / 8 = j ↔ i / 8 = n + j := by omega
  simp only [flipBit, List.getElem?_drop, List.getElem?_modify, hmod, hdiv]

/-- The checksum is read right behind the block. -/
theorem isCorrectCRC_take (input : List UInt8) (length : ℕ) :
    isCorrectCRC (input.take (length + 2)) length = isCorrectCRC input length := by
  have hstored : readUInt16 ((input.take (length + 2)).drop length) =
      readUInt16 (input.drop length) := by
    simp [readUInt16, List.getD_eq_getElem?_getD]
  rw [isCorrectCRC, hstored, List.take_take, Nat.min_eq_left (by omega), isCorrectCRC]

/-- A block with one bit turned over is rejected. -/
theorem isCorrectCRC_flipBit {input : List UInt8} {length i : ℕ} (h : length + 2 ≤ input.length)
    (hi : i < 8 * (length + 2)) (hcorrect : isCorrectCRC input length = true) :
    isCorrectCRC (flipBit input i) length = false := by
  rw [← isCorrectCRC_take] at hcorrect
  rw [← isCorrectCRC_take, take_flipBit _ hi]
  have hlength : (input.take (length + 2)).length = length + 2 := by
    rw [List.length_take]
    omega
  generalize input.take (length + 2) = block at hcorrect hlength
  have hlength' : (flipBit block i).length = length + 2 := by rw [length_flipBit, hlength]
  have hflip := getElem?_octetBits_flipBit block i
  have hne : block ≠ flipBit block i := by
    intro hsame
    have hbit := hflip i
    obtain ⟨bit, hget⟩ : ∃ bit, (octetBits block)[i]? = some bit :=
      ⟨_, List.getElem?_eq_getElem (by rw [length_octetBits, hlength]; exact hi)⟩
    rw [← hsame, hget, Option.map_some, if_pos rfl, Option.some_inj] at hbit
    exact (Bool.eq_not_self bit).mp hbit
  by_contra hgood
  refine not_isCorrectCRC_of_burst hlength hlength' hne i (fun j hj => ?_)
    ⟨hcorrect, (Bool.not_eq_false _).mp hgood⟩
  have hij : i = j := by
    by_contra hij
    rw [hflip j] at hj
    simp [hij] at hj
  omega

end CRC

namespace LinkFrame

open CRC

/-- A body with one bit turned over is rejected. -/
theorem validateBodyLoop_flipBit (fuel : ℕ) {body : List UInt8} {length i : ℕ}
    (hfuel : length ≤ fuel) (hsize : calcUserDataSize length ≤ body.length)
    (hi : i < 8 * calcUserDataSize length) (h : validateBodyLoop fuel body length = true) :
    validateBodyLoop fuel (flipBit body i) length = false := by
  induction fuel generalizing body length i with
  | zero =>
    have hzero : length = 0 := by omega
    simp [hzero, calcUserDataSize] at hi
  | succ fuel ih =>
    have hpos : 0 < length := by
      by_contra hzero
      simp [Nat.eq_zero_of_not_pos hzero, calcUserDataSize] at hi
    have hblock := blockSize_pos hpos
    rw [calcUserDataSize_block hpos] at hsize hi
    rw [validateBodyLoop, if_neg hpos.ne'] at h ⊢
    dsimp only at h ⊢
    split_ifs at h with hcorrect
    have hcrc : LPDU_CRC_SIZE = 2 := rfl
    -- The bit is in the first block, which fails, or in a later one.
    by_cases hfirst : i < 8 * (blockSize length + LPDU_CRC_SIZE)
    · rw [isCorrectCRC_flipBit (by omega) hfirst hcorrect]
      rfl
    · have hle : 8 * (blockSize length + LPDU_CRC_SIZE) ≤ i := Nat.le_of_not_lt hfirst
      have hsame : isCorrectCRC (flipBit body i) (blockSize length) = true := by
        rw [← isCorrectCRC_take, take_flipBit_of_le (n := blockSize length + 2) _ hle,
          isCorrectCRC_take, hcorrect]
      rw [hsame, if_pos rfl, drop_flipBit_of_le _ hle]
      refine ih (by omega) ?_ (by omega) h
      rw [List.length_drop]
      omega

end LinkFrame

namespace CRC

/-- Blocks that differ, and only within sixteen consecutive bits, do not both carry a good checksum.
So a header or a body with one bit turned over is rejected. -/
theorem detects_burst :
    (∀ (length : ℕ) (a b : List UInt8) (start : ℕ),
        a.length = length + 2 → b.length = length + 2 → a ≠ b →
        (∀ i, (octetBits a)[i]? ≠ (octetBits b)[i]? → start ≤ i ∧ i < start + 16) →
        ¬(isCorrectCRC a length = true ∧ isCorrectCRC b length = true)) ∧
      (∀ (length : ℕ) (block : List UInt8) (i : ℕ), block.length = length + 2 →
        isCorrectCRC block length = true → i < 8 * block.length →
        isCorrectCRC (flipBit block i) length = false) ∧
      (∀ (header : LinkHeader) (buffer : List UInt8) (statistics : LinkStatistics)
          (frameSize i : ℕ), LPDU_HEADER_SIZE ≤ buffer.length → isCorrectCRC buffer 8 = true →
        i < 8 * LPDU_HEADER_SIZE →
        (LinkLayerParser.readHeader header (flipBit buffer i) statistics frameSize).ok = false) ∧
      ∀ (body : List UInt8) (length i : ℕ), LinkFrame.calcUserDataSize length ≤ body.length →
        LinkFrame.validateBodyCRC body length = true →
        i < 8 * LinkFrame.calcUserDataSize length →
        LinkFrame.validateBodyCRC (flipBit body i) length = false := by
  refine ⟨fun length a b start ha hb hne hburst =>
      not_isCorrectCRC_of_burst ha hb hne start hburst,
    fun length block i hlength hcorrect hi =>
      isCorrectCRC_flipBit hlength.ge (hlength ▸ hi) hcorrect,
    fun header buffer statistics frameSize i hlength hcorrect hi => ?_,
    fun body length i hsize hvalid hi =>
      LinkFrame.validateBodyLoop_flipBit length (Nat.le_refl _) hsize hi hvalid⟩
  unfold LPDU_HEADER_SIZE at hlength hi
  rw [LinkLayerParser.readHeader, isCorrectCRC_flipBit hlength hi hcorrect]
  rfl

/-- The header of a request for the link status, with the first bit of its length turned over. -/
theorem detects_burst_status :
    isCorrectCRC (flipBit [0x05, 0x64, 0x05, 0xC9, 0x01, 0x00, 0x00, 0x04, 0xA6, 0x57] 16) 8 =
      false :=
  detects_burst.2.1 8 _ 16 rfl (by decide +kernel) (by decide)

end CRC

end OpenDnp3.Link
