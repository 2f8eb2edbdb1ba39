import OpenDnp3.Link.Frame

/-!
# Writing link frames

The writers of `link/LinkHeader.cpp` and `link/LinkFrame.cpp`. A writer returns the bytes that it
puts into the buffer.
-/

namespace OpenDnp3.Link

/-- `LPDU_MAX_USER_DATA_SIZE`. -/
def LPDU_MAX_USER_DATA_SIZE : ℕ := 250

namespace LinkHeader

/-- `LinkHeader::ControlByte`. -/
def controlByte (aIsMaster aFcb aFcvDfc : Bool) (aFunc : LinkFunction) : UInt8 :=
  aFunc.toType ||| (if aIsMaster then MASK_DIR else 0) ||| (if aFcb then MASK_FCB else 0) |||
    (if aFcvDfc then MASK_FCV else 0)

/-- `LinkHeader::Set`. -/
def set (aLen : UInt8) (aSrc aDest : UInt16) (aFromMaster aFcvDfc aFcb : Bool)
    (aCode : LinkFunction) : LinkHeader where
  length := aLen
  src := aSrc
  dest := aDest
  ctrl := controlByte aFromMaster aFcb aFcvDfc aCode

/-- The first eight bytes of a header. -/
def octets (h : LinkHeader) : List UInt8 :=
  [0x05, 0x64, h.length, h.ctrl] ++ writeUInt16 h.dest ++ writeUInt16 h.src

/-- `LinkHeader::Write`. -/
def write (h : LinkHeader) : List UInt8 := CRC.addCrc h.octets

end LinkHeader

namespace LinkFrame

/-- `LinkFrame::FormatHeader`. -/
def formatHeader (aDataLength : UInt8) (aIsMaster aFcb aFcvDfc : Bool) (aFuncCode : LinkFunction)
    (aDest aSrc : UInt16) : List UInt8 :=
  (LinkHeader.set (aDataLength + 5) aSrc aDest aIsMaster aFcvDfc aFcb aFuncCode).write

/-- The loop of `LinkFrame::WriteUserData`, with at most `fuel` blocks. -/
def writeUserDataLoop : ℕ → List UInt8 → List UInt8
  | 0, _ => []
  | fuel + 1, pSrc =>
    if pSrc.length = 0 then []
    else
      let num := blockSize pSrc.length
      CRC.addCrc (pSrc.take num) ++ writeUserDataLoop fuel (pSrc.drop num)

/-- `LinkFrame::WriteUserData`. -/
def writeUserData (pSrc : List UInt8) : List UInt8 := writeUserDataLoop pSrc.length pSrc

/-- `LinkFrame::FormatAck`. -/
def formatAck (aIsMaster aIsRcvBuffFull : Bool) (aDest aSrc : UInt16) : List UInt8 :=
  formatHeader 0 aIsMaster false aIsRcvBuffFull .SEC_ACK aDest aSrc

/-- `LinkFrame::FormatNack`. -/
def formatNack (aIsMaster aIsRcvBuffFull : Bool) (aDest aSrc : UInt16) : List UInt8 :=
  formatHeader 0 aIsMaster false aIsRcvBuffFull .SEC_NACK aDest aSrc

/-- `LinkFrame::FormatLinkStatus`. -/
def formatLinkStatus (aIsMaster aIsRcvBuffFull : Bool) (aDest aSrc : UInt16) : List UInt8 :=
  formatHeader 0 aIsMaster false aIsRcvBuffFull .SEC_LINK_STATUS aDest aSrc

/-- `LinkFrame::FormatNotSupported`. -/
def formatNotSupported (aIsMaster aIsRcvBuffFull : Bool) (aDest aSrc : UInt16) : List UInt8 :=
  formatHeader 0 aIsMaster false aIsRcvBuffFull .SEC_NOT_SUPPORTED aDest aSrc

/-- `LinkFrame::FormatResetLinkStates`. -/
def formatResetLinkStates (aIsMaster : Bool) (aDest aSrc : UInt16) : List UInt8 :=
  formatHeader 0 aIsMaster false false .PRI_RESET_LINK_STATES aDest aSrc

/-- `LinkFrame::FormatRequestLinkStatus`. -/
def formatRequestLinkStatus (aIsMaster : Bool) (aDest aSrc : UInt16) : List UInt8 :=
  formatHeader 0 aIsMaster false false .PRI_REQUEST_LINK_STATUS aDest aSrc

/-- `LinkFrame::FormatTestLinkStatus`. -/
def formatTestLinkStatus (aIsMaster aFcb : Bool) (aDest aSrc : UInt16) : List UInt8 :=
  formatHeader 0 aIsMaster aFcb true .PRI_TEST_LINK_STATES aDest aSrc

/-- User data of a length that the writers assert. -/
structure UserData where
  bytes : List UInt8
  length_pos : 0 < bytes.length
  length_le : bytes.length ≤ LPDU_MAX_USER_DATA_SIZE
  deriving DecidableEq, Repr

/-- The `dataLength` argument of the writers. -/
def UserData.dataLength (data : UserData) : UInt8 := UInt8.ofNat data.bytes.length

/-- `LinkFrame::FormatConfirmedUserData`. The slice that it returns ends behind the last block, as
`length_writeUserData` says. -/
def formatConfirmedUserData (aIsMaster aFcb : Bool) (aDest aSrc : UInt16) (apData : UserData) :
    List UInt8 :=
  formatHeader apData.dataLength aIsMaster aFcb true .PRI_CONFIRMED_USER_DATA aDest aSrc ++
    writeUserData apData.bytes

/-- `LinkFrame::FormatUnconfirmedUserData`. -/
def formatUnconfirmedUserData (aIsMaster : Bool) (aDest aSrc : UInt16) (apData : UserData) :
    List UInt8 :=
  formatHeader apData.dataLength aIsMaster false false .PRI_UNCONFIRMED_USER_DATA aDest aSrc ++
    writeUserData apData.bytes

/-- The blocks of a body take `CalcUserDataSize` bytes. -/
theorem length_writeUserDataLoop (fuel : ℕ) (pSrc : List UInt8) (h : pSrc.length ≤ fuel) :
    (writeUserDataLoop fuel pSrc).length = calcUserDataSize pSrc.length := by
  induction fuel generalizing pSrc with
  | zero =>
    rw [Nat.le_zero.mp h]
    rfl
  | succ fuel ih =>
    rw [writeUserDataLoop]
    split_ifs with hzero
    · rw [hzero]
      rfl
    have hpos := blockSize_pos (Nat.pos_of_ne_zero hzero)
    have hle := blockSize_le pSrc.length
    have hrest := ih (pSrc.drop (blockSize pSrc.length)) (by simp; omega)
    rw [List.length_append, hrest, List.length_drop,
      calcUserDataSize_block (Nat.pos_of_ne_zero hzero)]
    simp [CRC.addCrc, writeUInt16, LPDU_CRC_SIZE, hle]

/-- User data takes its bytes and two for the checksum of each block. -/
theorem length_writeUserData (pSrc : List UInt8) :
    (writeUserData pSrc).length = calcUserDataSize pSrc.length :=
  length_writeUserDataLoop _ _ le_rfl

end LinkFrame

end OpenDnp3.Link
