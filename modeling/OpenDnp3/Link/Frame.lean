import OpenDnp3.Link.Crc

/-!
# Link frames

The FT3 header of `link/LinkHeader.cpp` and the block structure of `link/LinkFrame.cpp`. A body is
cut into blocks of at most sixteen data bytes, each followed by two checksum bytes.
-/

namespace OpenDnp3.Link

/-- `LPDU_MIN_LENGTH`. -/
def LPDU_MIN_LENGTH : ℕ := 5
/-- `LPDU_HEADER_SIZE`. -/
def LPDU_HEADER_SIZE : ℕ := 10
/-- `LPDU_DATA_BLOCK_SIZE`. -/
def LPDU_DATA_BLOCK_SIZE : ℕ := 16
/-- `LPDU_CRC_SIZE`. -/
def LPDU_CRC_SIZE : ℕ := 2
/-- `LPDU_DATA_PLUS_CRC_SIZE`. -/
def LPDU_DATA_PLUS_CRC_SIZE : ℕ := 18
/-- `LPDU_MAX_FRAME_SIZE`. -/
def LPDU_MAX_FRAME_SIZE : ℕ := 292

/-- `LinkFunction`. -/
inductive LinkFunction where
  | PRI_RESET_LINK_STATES
  | PRI_TEST_LINK_STATES
  | PRI_CONFIRMED_USER_DATA
  | PRI_UNCONFIRMED_USER_DATA
  | PRI_REQUEST_LINK_STATUS
  | SEC_ACK
  | SEC_NACK
  | SEC_LINK_STATUS
  | SEC_NOT_SUPPORTED
  | INVALID
  deriving DecidableEq, Repr

/-- The functions that a primary station sends. -/
def LinkFunction.isPri : LinkFunction → Bool
  | PRI_RESET_LINK_STATES | PRI_TEST_LINK_STATES | PRI_CONFIRMED_USER_DATA
  | PRI_UNCONFIRMED_USER_DATA | PRI_REQUEST_LINK_STATUS => true
  | _ => false

/-- `LinkFunctionToType`. -/
def LinkFunction.toType : LinkFunction → UInt8
  | PRI_RESET_LINK_STATES => 0x40
  | PRI_TEST_LINK_STATES => 0x42
  | PRI_CONFIRMED_USER_DATA => 0x43
  | PRI_UNCONFIRMED_USER_DATA => 0x44
  | PRI_REQUEST_LINK_STATUS => 0x49
  | SEC_ACK => 0x0
  | SEC_NACK => 0x1
  | SEC_LINK_STATUS => 0xB
  | SEC_NOT_SUPPORTED => 0xF
  | INVALID => 0xFF

/-- `LinkFunctionFromType`. -/
def LinkFunction.fromType (arg : UInt8) : LinkFunction :=
  if arg = 0x40 then PRI_RESET_LINK_STATES
  else if arg = 0x42 then PRI_TEST_LINK_STATES
  else if arg = 0x43 then PRI_CONFIRMED_USER_DATA
  else if arg = 0x44 then PRI_UNCONFIRMED_USER_DATA
  else if arg = 0x49 then PRI_REQUEST_LINK_STATUS
  else if arg = 0x0 then SEC_ACK
  else if arg = 0x1 then SEC_NACK
  else if arg = 0xB then SEC_LINK_STATUS
  else if arg = 0xF then SEC_NOT_SUPPORTED
  else INVALID

/-- `ControlMask::MASK_DIR`. -/
def MASK_DIR : UInt8 := 0x80
/-- `ControlMask::MASK_PRM`. -/
def MASK_PRM : UInt8 := 0x40
/-- `ControlMask::MASK_FCB`. -/
def MASK_FCB : UInt8 := 0x20
/-- `ControlMask::MASK_FCV`. -/
def MASK_FCV : UInt8 := 0x10
/-- `ControlMask::MASK_FUNC_OR_PRM`. -/
def MASK_FUNC_OR_PRM : UInt8 := 0x4F

/-- `LinkHeader`: the fields as they are read from the wire. -/
structure LinkHeader where
  /-- The LENGTH octet; `[5, 255]` is valid. -/
  length : UInt8 := 5
  src : UInt16 := 0
  dest : UInt16 := 0
  /-- The CONTROL octet. -/
  ctrl : UInt8 := 0
  deriving DecidableEq, Repr

namespace LinkHeader

/-- `LinkHeader::IsFromMaster`. -/
def isFromMaster (h : LinkHeader) : Bool := h.ctrl &&& MASK_DIR != 0

/-- `LinkHeader::IsPriToSec`. -/
def isPriToSec (h : LinkHeader) : Bool := h.ctrl &&& MASK_PRM != 0

/-- `LinkHeader::IsFcbSet`. -/
def isFcbSet (h : LinkHeader) : Bool := h.ctrl &&& MASK_FCB != 0

/-- `LinkHeader::IsFcvDfcSet`. -/
def isFcvDfcSet (h : LinkHeader) : Bool := h.ctrl &&& MASK_FCV != 0

/-- `LinkHeader::GetFuncEnum`. -/
def getFuncEnum (h : LinkHeader) : LinkFunction :=
  LinkFunction.fromType (h.ctrl &&& MASK_FUNC_OR_PRM)

/-- `LinkHeader::ValidLength`. -/
def validLength (h : LinkHeader) : Bool := 4 < h.length.toNat

/-- `LinkHeader::Read`, at the indices of `LinkHeaderIndex`. It validates neither the start bytes
nor the checksum. -/
def read (buff : List UInt8) : LinkHeader where
  length := buff.getD 2 0
  dest := readUInt16 (buff.drop 4)
  src := readUInt16 (buff.drop 6)
  ctrl := buff.getD 3 0

end LinkHeader

/-- `LinkHeaderFields`: what the sink is told about a frame. -/
structure LinkHeaderFields where
  func : LinkFunction
  isFromMaster : Bool
  fcb : Bool
  fcvdfc : Bool
  dest : UInt16
  src : UInt16
  deriving DecidableEq, Repr

/-- The fields that `LinkLayerParser::PushFrame` reads off the header. -/
def LinkHeader.fields (h : LinkHeader) : LinkHeaderFields where
  func := h.getFuncEnum
  isFromMaster := h.isFromMaster
  fcb := h.isFcbSet
  fcvdfc := h.isFcvDfcSet
  dest := h.dest
  src := h.src

/-- `memmove` inside one buffer: `n` bytes at `src` are copied to `dst`. -/
def memmove (mem : List UInt8) (dst src n : ℕ) : List UInt8 :=
  mem.mapIdx fun i b => if dst ≤ i ∧ i < dst + n then mem.getD (src + (i - dst)) 0 else b

/-- A move changes no length. -/
@[simp]
theorem length_memmove (mem : List UInt8) (dst src n : ℕ) :
    (memmove mem dst src n).length = mem.length := by
  simp [memmove]

/-- A move inside the buffer, as lists. -/
theorem memmove_eq (mem : List UInt8) (dst src n : ℕ) (hs : src + n ≤ mem.length)
    (hd : dst + n ≤ mem.length) :
    memmove mem dst src n = mem.take dst ++ (mem.drop src).take n ++ mem.drop (dst + n) := by
  apply List.ext_getElem
  · simp
    omega
  · intro i h1 h2
    simp only [memmove, List.getElem_mapIdx, List.getElem_append, List.length_append,
      List.length_take, List.length_drop, List.getElem_take, List.getElem_drop]
    have hi : i < mem.length := by simpa using h1
    split_ifs with h h' h'' h'' <;> try omega
    · rw [List.getD_eq_getElem?_getD, List.getElem?_eq_getElem (by omega)]
      simp only [Option.getD_some]
      congr 2
      omega
    · rfl
    · congr 1
      omega

namespace LinkFrame

/-- The number of data bytes of the next block of a body with `length` data bytes left. -/
def blockSize (length : ℕ) : ℕ :=
  if length ≤ LPDU_DATA_BLOCK_SIZE then length else LPDU_DATA_BLOCK_SIZE

/-- A block takes no more than what is left. -/
theorem blockSize_le (length : ℕ) : blockSize length ≤ length := by
  unfold blockSize
  split_ifs <;> omega

/-- A block of a body that is not finished is not empty. -/
theorem blockSize_pos {length : ℕ} (h : 0 < length) : 0 < blockSize length := by
  unfold blockSize LPDU_DATA_BLOCK_SIZE
  split_ifs <;> omega

/-- `LinkFrame::CalcUserDataSize`. -/
def calcUserDataSize (dataLength : ℕ) : ℕ :=
  if 0 < dataLength then
    let mod16 := dataLength % LPDU_DATA_BLOCK_SIZE
    let size := (dataLength / LPDU_DATA_BLOCK_SIZE) * LPDU_DATA_PLUS_CRC_SIZE
    if 0 < mod16 then size + mod16 + LPDU_CRC_SIZE else size
  else 0

/-- `LinkFrame::CalcFrameSize`. -/
def calcFrameSize (dataLength : ℕ) : ℕ :=
  LPDU_HEADER_SIZE + calcUserDataSize dataLength

/-- The size of a body is that of its first block, with its checksum, and of the rest. -/
theorem calcUserDataSize_block {length : ℕ} (h : 0 < length) :
    calcUserDataSize length =
      blockSize length + LPDU_CRC_SIZE + calcUserDataSize (length - blockSize length) := by
  simp only [calcUserDataSize, blockSize, LPDU_DATA_BLOCK_SIZE, LPDU_DATA_PLUS_CRC_SIZE,
    LPDU_CRC_SIZE, h, if_true]
  by_cases h16 : length ≤ 16 <;> grind

/-- The loop of `LinkFrame::ValidateBodyCRC`, with at most `fuel` blocks. -/
def validateBodyLoop : ℕ → List UInt8 → ℕ → Bool
  | 0, _, _ => true
  | fuel + 1, pBody, length =>
    if length = 0 then true
    else
      let num := blockSize length
      if CRC.isCorrectCRC pBody num then
        validateBodyLoop fuel (pBody.drop (num + LPDU_CRC_SIZE)) (length - num)
      else false

/-- `LinkFrame::ValidateBodyCRC`. Every block has at least one byte, so `length` turns are enough.
-/
def validateBodyCRC (pBody : List UInt8) (length : ℕ) : Bool :=
  validateBodyLoop length pBody length

/-- The loop of `LinkFrame::ReadUserData`, with at most `fuel` blocks. Source and destination are
positions of one buffer, as the parser calls it. -/
def readUserDataLoop : ℕ → List UInt8 → ℕ → ℕ → ℕ → List UInt8
  | 0, mem, _, _, _ => mem
  | fuel + 1, mem, pRead, pWrite, length =>
    if length = 0 then mem
    else
      let num := blockSize length
      readUserDataLoop fuel (memmove mem pWrite pRead num) (pRead + (num + LPDU_CRC_SIZE))
        (pWrite + num) (length - num)

/-- `LinkFrame::ReadUserData`. -/
def readUserData (mem : List UInt8) (pSrc pDest length : ℕ) : List UInt8 :=
  readUserDataLoop length mem pSrc pDest length

/-- The copy changes no length. -/
@[simp]
theorem length_readUserDataLoop (fuel : ℕ) (mem : List UInt8) (pRead pWrite length : ℕ) :
    (readUserDataLoop fuel mem pRead pWrite length).length = mem.length := by
  induction fuel generalizing mem pRead pWrite length with
  | zero => rfl
  | succ fuel ih =>
    rw [readUserDataLoop]
    split_ifs
    · rfl
    · simp [ih]

/-- The user data of a body: its blocks without their checksums. -/
def bodyData : ℕ → List UInt8 → ℕ → List UInt8
  | 0, _, _ => []
  | fuel + 1, body, length =>
    if length = 0 then []
    else
      body.take (blockSize length) ++
        bodyData fuel (body.drop (blockSize length + LPDU_CRC_SIZE)) (length - blockSize length)

/-- A body that holds all its blocks has as many data bytes as it should. -/
theorem length_bodyData (fuel : ℕ) (body : List UInt8) (length : ℕ) (hf : length ≤ fuel)
    (hb : calcUserDataSize length ≤ body.length) : (bodyData fuel body length).length = length := by
  induction fuel generalizing body length with
  | zero => simp [bodyData]; omega
  | succ fuel ih =>
    rw [bodyData]
    split_ifs with h0
    · simp [h0]
    · have hpos := blockSize_pos (Nat.pos_of_ne_zero h0)
      have hle := blockSize_le length
      have hsize := calcUserDataSize_block (Nat.pos_of_ne_zero h0)
      rw [List.length_append, List.length_take, ih _ _ (by omega) (by simp; omega)]
      unfold LPDU_CRC_SIZE at hsize
      omega

/-- The copy puts the user data at the destination and leaves every byte after it as it was. The
destination is never ahead of the source, so no block is overwritten before it is read. -/
theorem readUserDataLoop_eq (fuel : ℕ) (mem : List UInt8) (pRead pWrite length : ℕ)
    (hf : length ≤ fuel) (hw : pWrite ≤ pRead)
    (hs : pRead + calcUserDataSize length ≤ mem.length) :
    readUserDataLoop fuel mem pRead pWrite length =
      mem.take pWrite ++ bodyData fuel (mem.drop pRead) length ++ mem.drop (pWrite + length) := by
  induction fuel generalizing mem pRead pWrite length with
  | zero =>
    have h0 : length = 0 := by omega
    simp [readUserDataLoop, bodyData, h0]
  | succ fuel ih =>
    rw [readUserDataLoop, bodyData]
    split_ifs with h0
    · simp [h0]
    · have hpos := blockSize_pos (Nat.pos_of_ne_zero h0)
      have hle := blockSize_le length
      have hsize := calcUserDataSize_block (Nat.pos_of_ne_zero h0)
      unfold LPDU_CRC_SIZE at *
      generalize blockSize length = num at *
      have hm := memmove_eq mem pWrite pRead num (by omega) (by omega)
      -- The copy of a block changes nothing from its end on, so the rest is read as it was.
      have hprefix : (mem.take pWrite ++ (mem.drop pRead).take num).length = pWrite + num := by
        simp
        omega
      have htake : (memmove mem pWrite pRead num).take (pWrite + num) =
          mem.take pWrite ++ (mem.drop pRead).take num := by
        rw [hm, List.take_left' hprefix]
      have hdrop : ∀ k, pWrite + num ≤ k → (memmove mem pWrite pRead num).drop k = mem.drop k := by
        intro k hk
        rw [hm, List.drop_append, List.drop_of_length_le (by omega), hprefix, List.drop_drop,
          List.nil_append]
        congr 1
        omega
      rw [ih _ _ _ _ (by omega) (by omega) (by simp; omega), htake, hdrop _ (by omega),
        hdrop _ (by omega), List.drop_drop, ← List.append_assoc]
      congr 2
      omega

end LinkFrame

end OpenDnp3.Link
