import OpenDnp3.Link.Frame

/-!
# The link frame parser

`link/ShiftableBuffer.cpp` and `link/LinkLayerParser.cpp`: received bytes are written at the end of
a fixed buffer, parsed by a four state machine, and the unread ones are shifted back to the front.
-/

namespace OpenDnp3.Link

/-- `ShiftableBuffer`, a facade over `size` bytes. The unread bytes stand between the two
positions. -/
structure ShiftableBuffer (size : ℕ) where
  pBuffer : List UInt8
  readPos : ℕ
  writePos : ℕ
  /-- The underlying array has a fixed size. -/
  size_eq : pBuffer.length = size
  /-- The reader never passes the writer. -/
  read_le : readPos ≤ writePos
  /-- The writer never passes the end. -/
  write_le : writePos ≤ size

namespace ShiftableBuffer

variable {size : ℕ}

/-- The constructor, over zeroed memory. -/
def init (size : ℕ) : ShiftableBuffer size where
  pBuffer := List.replicate size 0
  readPos := 0
  writePos := 0
  size_eq := List.length_replicate
  read_le := Nat.le_refl 0
  write_le := Nat.zero_le size

/-- `ShiftableBuffer::NumBytesRead`. -/
def numBytesRead (b : ShiftableBuffer size) : ℕ := b.writePos - b.readPos

/-- `ShiftableBuffer::NumWriteBytes`. -/
def numWriteBytes (b : ShiftableBuffer size) : ℕ := size - b.writePos

/-- `ShiftableBuffer::ReadBuffer`: the unread bytes. -/
def readBuffer (b : ShiftableBuffer size) : List UInt8 :=
  (b.pBuffer.take b.writePos).drop b.readPos

/-- `ShiftableBuffer::AdvanceRead`, with the precondition that it asserts. -/
def advanceRead (b : ShiftableBuffer size) (numBytes : ℕ) (h : numBytes ≤ b.numBytesRead) :
    ShiftableBuffer size :=
  { b with
    readPos := b.readPos + numBytes
    read_le := by
      have := b.read_le
      unfold numBytesRead at h
      omega }

/-- `ShiftableBuffer::AdvanceWrite`, with the precondition that it asserts. -/
def advanceWrite (b : ShiftableBuffer size) (numBytes : ℕ) (h : numBytes ≤ b.numWriteBytes) :
    ShiftableBuffer size :=
  { b with
    writePos := b.writePos + numBytes
    read_le := Nat.le_add_right_of_le b.read_le
    write_le := by
      have := b.write_le
      unfold numWriteBytes at h
      omega }

/-- The transport's own write to `WriteBuff()`, before it reports the number of bytes. -/
def fill (b : ShiftableBuffer size) (bytes : List UInt8) (h : bytes.length ≤ b.numWriteBytes) :
    ShiftableBuffer size :=
  { b with
    pBuffer := b.pBuffer.take b.writePos ++ bytes ++ b.pBuffer.drop (b.writePos + bytes.length)
    size_eq := by
      have := b.write_le
      unfold numWriteBytes at h
      simp [b.size_eq]
      omega }

/-- `ShiftableBuffer::Reset`. -/
def reset (b : ShiftableBuffer size) : ShiftableBuffer size :=
  { b with
    readPos := 0
    writePos := 0
    read_le := Nat.le_refl 0
    write_le := Nat.zero_le size }

/-- `ShiftableBuffer::Shift`. -/
def shift (b : ShiftableBuffer size) : ShiftableBuffer size where
  pBuffer := memmove b.pBuffer 0 b.readPos b.numBytesRead
  readPos := 0
  writePos := b.numBytesRead
  size_eq := by simp [b.size_eq]
  read_le := Nat.zero_le _
  write_le := Nat.le_trans (Nat.sub_le _ _) b.write_le

/-- There are as many unread bytes as the positions say. -/
@[simp]
theorem length_readBuffer (b : ShiftableBuffer size) : b.readBuffer.length = b.numBytesRead := by
  have := b.write_le
  simp [readBuffer, numBytesRead, b.size_eq]
  omega

/-- Bytes that have been read are no longer there to be read. -/
@[simp]
theorem numBytesRead_advanceRead (b : ShiftableBuffer size) (n : ℕ) (h : n ≤ b.numBytesRead) :
    (b.advanceRead n h).numBytesRead = b.numBytesRead - n := by
  simp [advanceRead, numBytesRead]
  omega

/-- Bytes that are passed over are dropped from the unread ones. -/
@[simp]
theorem readBuffer_advanceRead (b : ShiftableBuffer size) (n : ℕ) (h : n ≤ b.numBytesRead) :
    (b.advanceRead n h).readBuffer = b.readBuffer.drop n := by
  simp [advanceRead, readBuffer, List.drop_drop]

/-- A shift moves the bytes that are to be read, and keeps them. -/
@[simp]
theorem numBytesRead_shift (b : ShiftableBuffer size) :
    b.shift.numBytesRead = b.numBytesRead := by
  simp [shift, numBytesRead]

/-- A shift keeps the unread bytes. -/
@[simp]
theorem readBuffer_shift (b : ShiftableBuffer size) : b.shift.readBuffer = b.readBuffer := by
  have hr := b.read_le
  have hw := b.write_le
  have hm : memmove b.pBuffer 0 b.readPos b.numBytesRead =
      (b.pBuffer.drop b.readPos).take b.numBytesRead ++ b.pBuffer.drop b.numBytesRead := by
    rw [memmove_eq _ _ _ _ (by simp [numBytesRead, b.size_eq]; omega)
      (by simp [numBytesRead, b.size_eq]; omega)]
    simp
  have hlen : ((b.pBuffer.drop b.readPos).take b.numBytesRead).length = b.numBytesRead := by
    simp [numBytesRead, b.size_eq]
    omega
  simp only [shift, readBuffer, hm, List.drop_zero]
  rw [List.take_left' hlen, List.drop_take, numBytesRead]

/-- A reset leaves nothing to be read. -/
@[simp]
theorem numBytesRead_reset (b : ShiftableBuffer size) : b.reset.numBytesRead = 0 := by
  simp [reset, numBytesRead]

/-- What is written is there to be read. -/
@[simp]
theorem numBytesRead_write (b : ShiftableBuffer size) (bytes : List UInt8)
    (h : bytes.length ≤ b.numWriteBytes) (h' : bytes.length ≤ (b.fill bytes h).numWriteBytes) :
    ((b.fill bytes h).advanceWrite bytes.length h').numBytesRead =
      b.numBytesRead + bytes.length := by
  have := b.read_le
  simp [fill, advanceWrite, numBytesRead]
  omega

/-- Received bytes are appended to the unread ones. -/
@[simp]
theorem readBuffer_write (b : ShiftableBuffer size) (bytes : List UInt8)
    (h : bytes.length ≤ b.numWriteBytes) (h' : bytes.length ≤ (b.fill bytes h).numWriteBytes) :
    ((b.fill bytes h).advanceWrite bytes.length h').readBuffer = b.readBuffer ++ bytes := by
  have hr := b.read_le
  have hw := b.write_le
  have htake : (b.pBuffer.take b.writePos).length = b.writePos := by
    simp [b.size_eq]
    omega
  simp only [fill, advanceWrite, readBuffer]
  rw [List.take_left' (by simp [htake]), List.drop_append_of_le_length (by omega)]

/-- The loop of `ShiftableBuffer::Sync`, with at most `fuel` skipped bytes. -/
def syncLoop : ℕ → ShiftableBuffer size → Bool × ShiftableBuffer size
  | 0, b => (false, b)
  | fuel + 1, b =>
    if h : 1 < b.numBytesRead then
      if b.readBuffer.getD 0 0 = 0x05 ∧ b.readBuffer.getD 1 0 = 0x64 then (true, b)
      else syncLoop fuel (b.advanceRead 1 (Nat.le_of_lt h))
    else (false, b)

/-- `ShiftableBuffer::Sync`. Every turn skips a byte, so the unread bytes bound the loop. -/
def sync (b : ShiftableBuffer size) : Bool × ShiftableBuffer size :=
  syncLoop b.numBytesRead b

end ShiftableBuffer

/-- `LinkStatistics::Parser`. -/
structure LinkStatistics where
  numHeaderCrcError : UInt32 := 0
  numBodyCrcError : UInt32 := 0
  numLinkFrameRx : UInt32 := 0
  numBadLength : UInt32 := 0
  numBadFunctionCode : UInt32 := 0
  numBadFCV : UInt32 := 0
  numBadFCB : UInt32 := 0
  deriving DecidableEq, Repr

/-- `LinkLayerParser::State`. -/
inductive ParserState where
  | FindSync
  | ReadHeader
  | ReadBody
  | Complete
  deriving DecidableEq, Repr

/-- What reaches `IFrameSink::OnFrame`. -/
structure SinkFrame where
  fields : LinkHeaderFields
  userData : List UInt8
  deriving DecidableEq, Repr

/-- `LinkLayerParser`. -/
structure LinkLayerParser where
  statistics : LinkStatistics
  header : LinkHeader
  state : ParserState
  frameSize : ℕ
  userData : List UInt8
  buffer : ShiftableBuffer LPDU_MAX_FRAME_SIZE
  /-- A body is read under the size that its header gives. -/
  body_size : state = .ReadBody →
    frameSize = LinkFrame.calcFrameSize (header.length.toNat - LPDU_MIN_LENGTH)
  /-- A complete frame is still in the buffer. -/
  complete_le : state = .Complete → frameSize ≤ buffer.numBytesRead

namespace LinkLayerParser

/-- The constructor. -/
def init : LinkLayerParser where
  statistics := {}
  header := {}
  state := .FindSync
  frameSize := 0
  userData := []
  buffer := ShiftableBuffer.init _
  body_size := nofun
  complete_le := nofun

/-- `LinkLayerParser::Reset`. The statistics and the header stay. -/
def reset (p : LinkLayerParser) : LinkLayerParser :=
  { p with
    state := .FindSync
    frameSize := 0
    buffer := p.buffer.reset
    body_size := nofun
    complete_le := nofun }

/-- `LinkLayerParser::ValidateFunctionCode`. -/
def validateFunctionCode (header : LinkHeader) (statistics : LinkStatistics) :
    Bool × LinkStatistics :=
  if header.isPriToSec then
    match header.getFuncEnum with
    | .PRI_CONFIRMED_USER_DATA | .PRI_TEST_LINK_STATES => checkFcv true
    | .PRI_REQUEST_LINK_STATUS | .PRI_RESET_LINK_STATES | .PRI_UNCONFIRMED_USER_DATA =>
      checkFcv false
    | _ =>
      (false, { statistics with numBadFunctionCode := statistics.numBadFunctionCode + 1 })
  else
    match header.getFuncEnum with
    | .SEC_ACK | .SEC_NACK | .SEC_LINK_STATUS | .SEC_NOT_SUPPORTED =>
      if header.isFcbSet then
        (false, { statistics with numBadFCB := statistics.numBadFCB + 1 })
      else (true, statistics)
    | _ =>
      (false, { statistics with numBadFunctionCode := statistics.numBadFunctionCode + 1 })
where
  /-- The check of the FCV bit of a primary function. -/
  checkFcv (fcv_set : Bool) : Bool × LinkStatistics :=
    if fcv_set != header.isFcvDfcSet then
      (false, { statistics with numBadFCV := statistics.numBadFCV + 1 })
    else (true, statistics)

/-- What `LinkLayerParser::ReadHeader` leaves in the parser's fields. -/
structure HeaderResult where
  ok : Bool
  statistics : LinkStatistics
  frameSize : ℕ

/-- `LinkLayerParser::ValidateHeaderParameters`. -/
def validateHeaderParameters (header : LinkHeader) (statistics : LinkStatistics) (frameSize : ℕ) :
    HeaderResult :=
  let badLength := { statistics with numBadLength := statistics.numBadLength + 1 }
  if !header.validLength then ⟨false, badLength, frameSize⟩
  else
    match validateFunctionCode header statistics with
    | (false, statistics) => ⟨false, statistics, frameSize⟩
    | (true, statistics) =>
      let user_data_length := header.length.toNat - LPDU_MIN_LENGTH
      let frameSize := LinkFrame.calcFrameSize user_data_length
      let func := header.getFuncEnum
      let has_payload := decide (0 < user_data_length)
      let should_have_payload :=
        func == .PRI_CONFIRMED_USER_DATA || func == .PRI_UNCONFIRMED_USER_DATA
      let badLength := { statistics with numBadLength := statistics.numBadLength + 1 }
      if should_have_payload && !has_payload then ⟨false, badLength, frameSize⟩
      else if !should_have_payload && has_payload then ⟨false, badLength, frameSize⟩
      else ⟨true, statistics, frameSize⟩

/-- `LinkLayerParser::ReadHeader`. -/
def readHeader (header : LinkHeader) (buffer : List UInt8) (statistics : LinkStatistics)
    (frameSize : ℕ) : HeaderResult :=
  if CRC.isCorrectCRC buffer 8 then
    validateHeaderParameters header statistics frameSize
  else
    ⟨false, { statistics with numHeaderCrcError := statistics.numHeaderCrcError + 1 }, frameSize⟩

/-- An accepted header gives the frame its size. -/
theorem readHeader_frameSize (header : LinkHeader) (buffer : List UInt8)
    (statistics : LinkStatistics) (frameSize : ℕ)
    (h : (readHeader header buffer statistics frameSize).ok = true) :
    (readHeader header buffer statistics frameSize).frameSize =
      LinkFrame.calcFrameSize (header.length.toNat - LPDU_MIN_LENGTH) := by
  unfold readHeader validateHeaderParameters at *
  split_ifs at * with hcrc hlen
  generalize validateFunctionCode header statistics = v at *
  obtain ⟨ok, st⟩ := v
  cases ok <;> grind

/-- `LinkLayerParser::ParseSync`. Each parse function is called in its own state, so one that waits
leaves the parser as it is. -/
def parseSync (p : LinkLayerParser) : LinkLayerParser :=
  if 10 ≤ p.buffer.numBytesRead then
    let (synced, buffer) := p.buffer.sync
    { p with
      buffer
      state := if synced then .ReadHeader else .FindSync
      body_size := by split_ifs <;> nofun
      complete_le := by split_ifs <;> nofun }
  else p

/-- `LinkLayerParser::ParseHeader`, with the `FailFrame` of a bad header. -/
def parseHeader (p : LinkLayerParser) : LinkLayerParser :=
  if h : 10 ≤ p.buffer.numBytesRead then
    let header := LinkHeader.read p.buffer.readBuffer
    let r := readHeader header p.buffer.readBuffer p.statistics p.frameSize
    if hr : r.ok then
      { p with
        header
        statistics := r.statistics
        frameSize := r.frameSize
        state := .ReadBody
        body_size := fun _ => readHeader_frameSize _ _ _ _ hr
        complete_le := nofun }
    else
      { p with
        header
        statistics := r.statistics
        frameSize := r.frameSize
        buffer := p.buffer.advanceRead 1 (by omega)
        state := .FindSync
        body_size := nofun
        complete_le := nofun }
  else p

/-- The number of user data bytes that the header announces. -/
def userDataLength (p : LinkLayerParser) : ℕ := p.header.length.toNat - LPDU_MIN_LENGTH

/-- `LinkLayerParser::ValidateBody`, less its statistics. -/
def validateBody (p : LinkLayerParser) : Bool :=
  LinkFrame.validateBodyCRC (p.buffer.readBuffer.drop LPDU_HEADER_SIZE) p.userDataLength

/-- The memory after `LinkLayerParser::TransferUserData`, which copies the user data to the front
of the receive buffer. -/
def transferUserData (p : LinkLayerParser) : List UInt8 :=
  LinkFrame.readUserData p.buffer.pBuffer (p.buffer.readPos + LPDU_HEADER_SIZE) 0 p.userDataLength

/-- `LinkLayerParser::ParseBody`, with the statistics and the `FailFrame` of a bad body. -/
def parseBody (p : LinkLayerParser) (hs : p.state = .ReadBody) : LinkLayerParser :=
  if h : p.buffer.numBytesRead < p.frameSize then p
  else if p.validateBody then
    { p with
      userData := p.transferUserData.take p.userDataLength
      buffer :=
        { p.buffer with
          pBuffer := p.transferUserData
          size_eq := by simp [transferUserData, LinkFrame.readUserData, p.buffer.size_eq] }
      state := .Complete
      body_size := nofun
      complete_le := fun _ => Nat.le_of_not_lt h }
  else
    { p with
      statistics :=
        { p.statistics with numBodyCrcError := p.statistics.numBodyCrcError + 1 }
      buffer := p.buffer.advanceRead 1 (by
        have := p.body_size hs
        unfold LinkFrame.calcFrameSize LPDU_HEADER_SIZE at this
        omega)
      state := .FindSync
      body_size := nofun
      complete_le := nofun }

/-- `LinkLayerParser::ParseOneStep`, with the assignment of the state that it returns. -/
def parseOneStep (p : LinkLayerParser) : LinkLayerParser :=
  match h : p.state with
  | .FindSync => p.parseSync
  | .ReadHeader => p.parseHeader
  | .ReadBody => p.parseBody h
  | .Complete => p

/-- The loop of `LinkLayerParser::ParseUntilComplete`, with at most `fuel` turns. -/
def parseUntilCompleteLoop : ℕ → LinkLayerParser → LinkLayerParser
  | 0, p => p
  | fuel + 1, p =>
    let p' := p.parseOneStep
    if p'.state = p.state then p' else parseUntilCompleteLoop fuel p'

/-- Four turns for every unread byte, and the turns that are left from the current state on. -/
def stepBound (p : LinkLayerParser) : ℕ :=
  4 * p.buffer.numBytesRead +
    match p.state with
    | .FindSync => 3
    | .ReadHeader => 2
    | .ReadBody => 1
    | .Complete => 0

/-- `LinkLayerParser::ParseUntilComplete`: step as long as the state changes. -/
def parseUntilComplete (p : LinkLayerParser) : LinkLayerParser :=
  parseUntilCompleteLoop (p.stepBound + 1) p

/-- `LinkLayerParser::PushFrame` and the turn of the loop of `OnRead` around it: the frame is
counted, given to the sink and passed over. -/
def pushFrame (p : LinkLayerParser) (hs : p.state = .Complete) : SinkFrame × LinkLayerParser :=
  (⟨p.header.fields, p.userData⟩,
    { p with
      statistics := { p.statistics with numLinkFrameRx := p.statistics.numLinkFrameRx + 1 }
      buffer := p.buffer.advanceRead p.frameSize (p.complete_le hs)
      state := .FindSync
      body_size := nofun
      complete_le := nofun })

/-- The loop of `LinkLayerParser::OnRead`, with at most `fuel` frames. -/
def onReadLoop : ℕ → LinkLayerParser → List SinkFrame × LinkLayerParser
  | 0, p => ([], p)
  | fuel + 1, p =>
    let p := p.parseUntilComplete
    if h : p.state = .Complete then
      let (frame, p) := p.pushFrame h
      let (frames, p) := onReadLoop fuel p
      (frame :: frames, p)
    else ([], p)

/-- The loop of `OnRead` and the shift that ends it. Every frame has a header, so the unread bytes
bound the number of frames. -/
def parseFrames (p : LinkLayerParser) : List SinkFrame × LinkLayerParser :=
  let (frames, p) := onReadLoop (p.buffer.numBytesRead + 1) p
  (frames,
    { p with
      buffer := p.buffer.shift
      complete_le := fun h => by simpa using p.complete_le h })

/-- `LinkLayerParser::OnRead` after the transport has written `bytes` to `WriteBuff()`: the frames
that reach the sink, and the parser as it is left. -/
def onRead (p : LinkLayerParser) (bytes : List UInt8)
    (h : bytes.length ≤ p.buffer.numWriteBytes) : List SinkFrame × LinkLayerParser :=
  parseFrames
    { p with
      buffer := (p.buffer.fill bytes h).advanceWrite bytes.length (h.trans_eq rfl)
      complete_le := fun hs => by
        have := p.complete_le hs
        simp
        omega }

/-- A stream that arrives in reads: each read is not empty and fits into `WriteBuff()` at its
moment. -/
def readAll : List (List UInt8) → LinkLayerParser → Option (List SinkFrame × LinkLayerParser)
  | [], p => some ([], p)
  | bytes :: reads, p =>
    if h : bytes.length ≤ p.buffer.numWriteBytes ∧ bytes ≠ [] then
      let (frames, p) := p.onRead bytes h.1
      (readAll reads p).map fun (more, p) => (frames ++ more, p)
    else none

end LinkLayerParser

end OpenDnp3.Link
