import Mathlib.Logic.Relation
import OpenDnp3.Link.ParserSpec

/-!
# No assertion of the link parser fails

`LinkLayerParser` of `Link/Parser.lean` carries its bounds in its type. Here the parser is taken
over unsigned 32 bit positions that nothing is promised of, as the code has it: `AdvanceRead` and
`AdvanceWrite` return `none` where their assertion fails, and a receiver runs the loops of `OnRead`
one turn at a time. Every state of a run is a state of the bounded parser (`Refined`), a turn of
the one is a turn of the other (`parseOneStep_positions`), so no assertion fails, every read ends,
and after it there is room for the next one (`receiver_safe`).
-/

namespace OpenDnp3.Link

/-- `ShiftableBuffer` over `LPDU_MAX_FRAME_SIZE` bytes, with its positions as the code holds them.
-/
structure PositionBuffer where
  pBuffer : List UInt8
  readPos : UInt32
  writePos : UInt32

namespace PositionBuffer

/-- `ShiftableBuffer::NumBytesRead`. -/
def numBytesRead (b : PositionBuffer) : UInt32 := b.writePos - b.readPos

/-- `ShiftableBuffer::NumWriteBytes`. -/
def numWriteBytes (b : PositionBuffer) : UInt32 := UInt32.ofNat LPDU_MAX_FRAME_SIZE - b.writePos

/-- `ShiftableBuffer::ReadBuffer`. -/
def readBuffer (b : PositionBuffer) : List UInt8 :=
  (b.pBuffer.drop b.readPos.toNat).take b.numBytesRead.toNat

/-- `ShiftableBuffer::AdvanceRead`. -/
def advanceRead (b : PositionBuffer) (numBytes : UInt32) : Option PositionBuffer :=
  if numBytes ≤ b.numBytesRead then some { b with readPos := b.readPos + numBytes } else none

/-- `ShiftableBuffer::AdvanceWrite`. -/
def advanceWrite (b : PositionBuffer) (aNumBytes : UInt32) : Option PositionBuffer :=
  if aNumBytes ≤ b.numWriteBytes then some { b with writePos := b.writePos + aNumBytes } else none

/-- The transport's own write to `WriteBuff()`. -/
def fill (b : PositionBuffer) (bytes : List UInt8) : PositionBuffer :=
  { b with
    pBuffer := b.pBuffer.take b.writePos.toNat ++ bytes ++
      b.pBuffer.drop (b.writePos.toNat + bytes.length) }

/-- `ShiftableBuffer::Reset`. -/
def reset (b : PositionBuffer) : PositionBuffer := { b with readPos := 0, writePos := 0 }

/-- `ShiftableBuffer::Shift`. -/
def shift (b : PositionBuffer) : PositionBuffer where
  pBuffer := memmove b.pBuffer 0 b.readPos.toNat b.numBytesRead.toNat
  readPos := 0
  writePos := b.numBytesRead

/-- The loop of `ShiftableBuffer::Sync`, with at most `fuel` skipped bytes. -/
def syncLoop : ℕ → PositionBuffer → Option (Bool × PositionBuffer)
  | 0, b => some (false, b)
  | fuel + 1, b =>
    if 1 < b.numBytesRead then
      if b.readBuffer.getD 0 0 = 0x05 ∧ b.readBuffer.getD 1 0 = 0x64 then some (true, b)
      else (b.advanceRead 1).bind (syncLoop fuel)
    else some (false, b)

/-- `ShiftableBuffer::Sync`. -/
def sync (b : PositionBuffer) : Option (Bool × PositionBuffer) :=
  syncLoop b.numBytesRead.toNat b

end PositionBuffer

/-- The fields of `LinkLayerParser`. -/
structure PositionParser where
  statistics : LinkStatistics
  header : LinkHeader
  state : ParserState
  frameSize : ℕ
  userData : List UInt8
  buffer : PositionBuffer

namespace PositionParser

/-- The constructor, over the memory `rxBuffer` as it is found. -/
def init (rxBuffer : List UInt8) : PositionParser where
  statistics := {}
  header := {}
  state := .FindSync
  frameSize := 0
  userData := []
  buffer := ⟨rxBuffer, 0, 0⟩

/-- `LinkLayerParser::Reset`. -/
def reset (p : PositionParser) : PositionParser :=
  { p with state := .FindSync, frameSize := 0, buffer := p.buffer.reset }

/-- `LinkLayerParser::ParseSync`. -/
def parseSync (p : PositionParser) : Option PositionParser :=
  if 10 ≤ p.buffer.numBytesRead then
    p.buffer.sync.map fun (synced, buffer) =>
      { p with buffer, state := if synced then .ReadHeader else .FindSync }
  else some p

/-- `LinkLayerParser::FailFrame`, and the state that its callers return. -/
def failFrame (p : PositionParser) : Option PositionParser :=
  (p.buffer.advanceRead 1).map fun buffer => { p with buffer, state := .FindSync }

/-- `LinkLayerParser::ParseHeader`. -/
def parseHeader (p : PositionParser) : Option PositionParser :=
  if 10 ≤ p.buffer.numBytesRead then
    let header := LinkHeader.read p.buffer.readBuffer
    let r := LinkLayerParser.readHeader header p.buffer.readBuffer p.statistics p.frameSize
    let p := { p with header, statistics := r.statistics, frameSize := r.frameSize }
    if r.ok then some { p with state := .ReadBody } else p.failFrame
  else some p

/-- The number of user data bytes that the header announces. -/
def userDataLength (p : PositionParser) : ℕ := p.header.length.toNat - LPDU_MIN_LENGTH

/-- The unread bytes behind the header. -/
def body (p : PositionParser) : List UInt8 := p.buffer.readBuffer.drop LPDU_HEADER_SIZE

/-- `LinkLayerParser::TransferUserData`: the memory after the copy. -/
def transferUserData (p : PositionParser) : List UInt8 :=
  LinkFrame.readUserData p.buffer.pBuffer (p.buffer.readPos.toNat + LPDU_HEADER_SIZE) 0
    p.userDataLength

/-- `LinkLayerParser::ParseBody`. -/
def parseBody (p : PositionParser) : Option PositionParser :=
  if p.buffer.numBytesRead.toNat < p.frameSize then some p
  else if LinkFrame.validateBodyCRC p.body p.userDataLength then
    some
      { p with
        userData := p.transferUserData.take p.userDataLength
        buffer := { p.buffer with pBuffer := p.transferUserData }
        state := .Complete }
  else
    { p with
      statistics :=
        { p.statistics with
          numBodyCrcError := p.statistics.numBodyCrcError + 1 } }.failFrame

/-- `LinkLayerParser::ParseOneStep`, with the assignment of the state that it returns. -/
def parseOneStep (p : PositionParser) : Option PositionParser :=
  match p.state with
  | .FindSync => p.parseSync
  | .ReadHeader => p.parseHeader
  | .ReadBody => p.parseBody
  | .Complete => some p

/-- `LinkLayerParser::PushFrame` and the turn of the loop of `OnRead` around it. -/
def pushFrame (p : PositionParser) : Option (SinkFrame × PositionParser) :=
  (p.buffer.advanceRead (UInt32.ofNat p.frameSize)).map fun buffer =>
    (⟨p.header.fields, p.userData⟩,
      { p with
        statistics := { p.statistics with numLinkFrameRx := p.statistics.numLinkFrameRx + 1 }
        buffer
        state := .FindSync })

end PositionParser

/-! ## Runs -/

/-- Where the receiver stands: it waits for the transport, or it is inside `OnRead`. -/
inductive ReceiverPhase where
  | waiting
  | parsing
  deriving DecidableEq, Repr

/-- A parser between the turns of its loops, and the frames that have reached the sink. -/
structure Receiver where
  phase : ReceiverPhase
  parser : PositionParser
  delivered : List SinkFrame

namespace Receiver

/-- What happens to a receiver. -/
inductive Event where
  /-- The transport writes bytes to `WriteBuff()` and calls `OnRead` with their number. -/
  | read (bytes : List UInt8)
  /-- One call of `ParseOneStep`, and what the loops around it do with the state it returns. -/
  | turn
  /-- `LinkLayerParser::Reset`. -/
  | reset
  deriving DecidableEq, Repr

/-- A new parser over the memory `rxBuffer`. -/
def init (rxBuffer : List UInt8) : Receiver := ⟨.waiting, PositionParser.init rxBuffer, []⟩

/-- The events that can happen: a read fits into `WriteBuff()`, and `OnRead` runs to its end before
the next read. -/
def Enabled (r : Receiver) : Event → Prop
  | .read bytes =>
    r.phase = .waiting ∧ bytes.length ≤ r.parser.buffer.numWriteBytes.toNat
  | .turn => r.phase = .parsing
  | .reset => r.phase = .waiting

/-- One turn of the loops of `OnRead`: `ParseUntilComplete` goes on while the state changes, then a
complete frame is pushed, or the shift ends the read. -/
def turn (r : Receiver) : Option Receiver :=
  r.parser.parseOneStep.bind fun p =>
    if p.state ≠ r.parser.state then some { r with parser := p }
    else if p.state = .Complete then
      p.pushFrame.map fun (frame, p) => { r with parser := p, delivered := r.delivered ++ [frame] }
    else some { r with phase := .waiting, parser := { p with buffer := p.buffer.shift } }

/-- One event; `none` is a failed assertion. -/
def step (r : Receiver) : Event → Option Receiver
  | .read bytes =>
    ((r.parser.buffer.fill bytes).advanceWrite (UInt32.ofNat bytes.length)).map fun buffer =>
      { r with phase := .parsing, parser := { r.parser with buffer } }
  | .turn => r.turn
  | .reset => some { r with parser := r.parser.reset }

/-- The states that a run reaches. -/
inductive Reachable : Receiver → Prop
  | init (rxBuffer : List UInt8) (h : rxBuffer.length = LPDU_MAX_FRAME_SIZE) :
    Reachable (init rxBuffer)
  | step {r r' : Receiver} {e : Event} (h : Reachable r) (he : r.Enabled e)
    (hstep : r.step e = some r') : Reachable r'

end Receiver

/-! ## The bounded parser -/

namespace ShiftableBuffer

variable (b : ShiftableBuffer LPDU_MAX_FRAME_SIZE)

/-- The positions of a bounded buffer as unsigned numbers. -/
def positions : PositionBuffer where
  pBuffer := b.pBuffer
  readPos := UInt32.ofNat b.readPos
  writePos := UInt32.ofNat b.writePos

/-- A number up to the size of the buffer is not cut. -/
theorem toNat_ofNat_of_le {n : ℕ} (h : n ≤ LPDU_MAX_FRAME_SIZE) : (UInt32.ofNat n).toNat = n := by
  unfold LPDU_MAX_FRAME_SIZE at h
  exact UInt32.toNat_ofNat_of_lt' (by change n < 4294967296; omega)

/-- The position of the next read does not wrap around. -/
@[simp]
theorem toNat_readPos : b.positions.readPos.toNat = b.readPos :=
  toNat_ofNat_of_le (Nat.le_trans b.read_le b.write_le)

/-- The position of the next write does not wrap around. -/
@[simp]
theorem toNat_writePos : b.positions.writePos.toNat = b.writePos := toNat_ofNat_of_le b.write_le

/-- The number of bytes to be read does not wrap around. -/
@[simp]
theorem toNat_numBytesRead : b.positions.numBytesRead.toNat = b.numBytesRead := by
  have hle : b.positions.readPos ≤ b.positions.writePos := by
    rw [UInt32.le_iff_toNat_le, toNat_readPos, toNat_writePos]
    exact b.read_le
  rw [PositionBuffer.numBytesRead, UInt32.toNat_sub_of_le _ _ hle, toNat_readPos, toNat_writePos]
  rfl

/-- The space that is left does not wrap around. -/
@[simp]
theorem toNat_numWriteBytes : b.positions.numWriteBytes.toNat = b.numWriteBytes := by
  have hle : b.positions.writePos ≤ UInt32.ofNat LPDU_MAX_FRAME_SIZE := by
    rw [UInt32.le_iff_toNat_le, toNat_writePos, toNat_ofNat_of_le (Nat.le_refl _)]
    exact b.write_le
  rw [PositionBuffer.numWriteBytes, UInt32.toNat_sub_of_le _ _ hle, toNat_writePos,
    toNat_ofNat_of_le (Nat.le_refl _)]
  rfl

/-- The bytes to be read are those between the positions. -/
@[simp]
theorem readBuffer_positions : b.positions.readBuffer = b.readBuffer := by
  rw [PositionBuffer.readBuffer, toNat_readPos, toNat_numBytesRead, readBuffer, List.drop_take]
  rfl

/-- The array and the two positions make up the buffer. -/
theorem positions_ext {p : PositionBuffer} (hmem : p.pBuffer = b.pBuffer)
    (hread : p.readPos.toNat = b.readPos) (hwrite : p.writePos.toNat = b.writePos) :
    p = b.positions := by
  obtain ⟨mem, r, w⟩ := p
  dsimp only at hmem hread hwrite
  subst hmem
  have hr : r = b.positions.readPos := UInt32.toNat_inj.mp (hread.trans b.toNat_readPos.symm)
  have hw : w = b.positions.writePos := UInt32.toNat_inj.mp (hwrite.trans b.toNat_writePos.symm)
  rw [hr, hw]
  rfl

/-- The assertion of `AdvanceRead` holds where the bounded buffer advances. -/
theorem advanceRead_positions (n : ℕ) (h : n ≤ b.numBytesRead) :
    b.positions.advanceRead (UInt32.ofNat n) = some (b.advanceRead n h).positions := by
  have hread := b.read_le
  have hwrite := b.write_le
  have hn : (UInt32.ofNat n).toNat = n := by
    unfold numBytesRead at h
    exact toNat_ofNat_of_le (by omega)
  have hassert : UInt32.ofNat n ≤ b.positions.numBytesRead := by
    rw [UInt32.le_iff_toNat_le, hn, toNat_numBytesRead]
    exact h
  rw [PositionBuffer.advanceRead, if_pos hassert]
  refine congrArg some (positions_ext _ rfl ?_ (toNat_writePos b))
  rw [UInt32.toNat_add, toNat_readPos, hn]
  unfold numBytesRead LPDU_MAX_FRAME_SIZE at *
  simp only [advanceRead]
  omega

/-- The assertion of `AdvanceWrite` holds where the bytes fit into `WriteBuff()`. -/
theorem advanceWrite_positions (bytes : List UInt8) (h : bytes.length ≤ b.numWriteBytes) :
    (b.positions.fill bytes).advanceWrite (UInt32.ofNat bytes.length) =
      some ((b.fill bytes h).advanceWrite bytes.length (h.trans_eq rfl)).positions := by
  have hwrite := b.write_le
  have hn : (UInt32.ofNat bytes.length).toNat = bytes.length := by
    unfold numWriteBytes at h
    exact toNat_ofNat_of_le (by omega)
  have hassert : UInt32.ofNat bytes.length ≤ (b.positions.fill bytes).numWriteBytes := by
    change _ ≤ b.positions.numWriteBytes
    rw [UInt32.le_iff_toNat_le, hn, toNat_numWriteBytes]
    exact h
  rw [PositionBuffer.advanceWrite, if_pos hassert]
  refine congrArg some (positions_ext _ ?_ (toNat_readPos b) ?_)
  · simp only [PositionBuffer.fill, toNat_writePos]
    rfl
  · change (b.positions.writePos + UInt32.ofNat bytes.length).toNat = b.writePos + bytes.length
    rw [UInt32.toNat_add, toNat_writePos, hn]
    unfold numWriteBytes LPDU_MAX_FRAME_SIZE at *
    omega

/-- A shift moves bytes of the array and both positions. -/
theorem shift_positions : b.positions.shift = b.shift.positions := by
  refine positions_ext _ ?_ rfl (toNat_numBytesRead b)
  simp only [PositionBuffer.shift, toNat_readPos, toNat_numBytesRead]
  rfl

/-- A reset sets both positions to the start. -/
theorem reset_positions : b.positions.reset = b.reset.positions := positions_ext _ rfl rfl rfl

/-- No assertion fails in the search for the start bytes. -/
theorem syncLoop_positions (fuel : ℕ) (b : ShiftableBuffer LPDU_MAX_FRAME_SIZE) :
    b.positions.syncLoop fuel = some ((syncLoop fuel b).1, (syncLoop fuel b).2.positions) := by
  induction fuel generalizing b with
  | zero => rfl
  | succ fuel ih =>
    have hiff : (1 : UInt32) < b.positions.numBytesRead ↔ 1 < b.numBytesRead := by
      rw [UInt32.lt_iff_toNat_lt, toNat_numBytesRead]
      rfl
    rw [PositionBuffer.syncLoop, syncLoop]
    by_cases h1 : 1 < b.numBytesRead
    · rw [if_pos (hiff.mpr h1), dif_pos h1, readBuffer_positions]
      by_cases hsync : b.readBuffer.getD 0 0 = 0x05 ∧ b.readBuffer.getD 1 0 = 0x64
      · rw [if_pos hsync, if_pos hsync]
      · rw [if_neg hsync, if_neg hsync]
        have hskip := b.advanceRead_positions 1 (Nat.le_of_lt h1)
        change (b.positions.advanceRead (UInt32.ofNat 1)).bind _ = _
        rw [hskip, Option.bind_some, ih]
    · rw [if_neg (fun h => h1 (hiff.mp h)), dif_neg h1]

end ShiftableBuffer

namespace LinkLayerParser

variable (p : LinkLayerParser)

/-- The fields of a bounded parser. -/
def positions : PositionParser where
  statistics := p.statistics
  header := p.header
  state := p.state
  frameSize := p.frameSize
  userData := p.userData
  buffer := p.buffer.positions

/-- The state of the parser is not in the buffer. -/
@[simp]
theorem positions_state : p.positions.state = p.state := rfl

/-- Ten bytes are there by the positions where they are there to be read. -/
theorem ten_le_positions : 10 ≤ p.buffer.positions.numBytesRead ↔ 10 ≤ p.buffer.numBytesRead := by
  rw [UInt32.le_iff_toNat_le, ShiftableBuffer.toNat_numBytesRead]
  rfl

/-- The search for the start octets stays inside the array. -/
theorem parseSync_positions : p.positions.parseSync = some p.parseSync.positions := by
  rw [PositionParser.parseSync, parseSync]
  change (if 10 ≤ p.buffer.positions.numBytesRead then _ else _) = _
  by_cases h10 : 10 ≤ p.buffer.numBytesRead
  · rw [if_pos (p.ten_le_positions.mpr h10), if_pos h10]
    change (p.buffer.positions.syncLoop p.buffer.positions.numBytesRead.toNat).map _ = _
    rw [ShiftableBuffer.syncLoop_positions, ShiftableBuffer.toNat_numBytesRead]
    rfl
  · rw [if_neg (fun h => h10 (p.ten_le_positions.mp h)), if_neg h10]

/-- A header is read inside the array. -/
theorem parseHeader_positions : p.positions.parseHeader = some p.parseHeader.positions := by
  rw [PositionParser.parseHeader, parseHeader]
  change (if 10 ≤ p.buffer.positions.numBytesRead then _ else _) = _
  by_cases h10 : 10 ≤ p.buffer.numBytesRead
  · rw [if_pos (p.ten_le_positions.mpr h10), dif_pos h10]
    simp only [positions, ShiftableBuffer.readBuffer_positions]
    by_cases hok : (readHeader (LinkHeader.read p.buffer.readBuffer) p.buffer.readBuffer
        p.statistics p.frameSize).ok
    · rw [if_pos hok, dif_pos hok]
    · rw [if_neg hok, dif_neg hok, PositionParser.failFrame]
      have hskip := p.buffer.advanceRead_positions 1 (by omega)
      change (p.buffer.positions.advanceRead (UInt32.ofNat 1)).map _ = _
      rw [hskip]
      rfl
  · rw [if_neg (fun h => h10 (p.ten_le_positions.mp h)), dif_neg h10]

/-- A body is read inside the array. -/
theorem parseBody_positions (hs : p.state = .ReadBody) :
    p.positions.parseBody = some (p.parseBody hs).positions := by
  rw [PositionParser.parseBody, parseBody]
  -- Each quantity of the body is the same over positions as over bytes.
  have hread : p.positions.buffer.numBytesRead.toNat = p.buffer.numBytesRead :=
    p.buffer.toNat_numBytesRead
  have hvalid : LinkFrame.validateBodyCRC p.positions.body p.positions.userDataLength =
      p.validateBody := by
    rw [validateBody, PositionParser.body, positions, p.buffer.readBuffer_positions]
    rfl
  have htransfer : p.positions.transferUserData = p.transferUserData := by
    rw [PositionParser.transferUserData, positions, p.buffer.toNat_readPos]
    rfl
  rw [hread, hvalid, htransfer]
  by_cases hwait : p.buffer.numBytesRead < p.frameSize
  · rw [dif_pos hwait]
    exact if_pos hwait
  · rw [dif_neg hwait]
    refine (if_neg hwait).trans ?_
    by_cases hv : p.validateBody
    · rw [if_pos hv, if_pos hv]
      rfl
    · rw [if_neg hv, if_neg hv, PositionParser.failFrame]
      -- A body that fails costs one byte, which is there.
      have hsize := p.body_size hs
      unfold LinkFrame.calcFrameSize LPDU_HEADER_SIZE at hsize
      have hskip := p.buffer.advanceRead_positions 1 (by omega)
      change (p.buffer.positions.advanceRead (UInt32.ofNat 1)).map _ = _
      rw [hskip]
      rfl

/-- A step of the bounded parser is a step of the code, in which no assertion fails. -/
theorem parseOneStep_positions : p.positions.parseOneStep = some p.parseOneStep.positions := by
  generalize hq : p.parseOneStep = q
  unfold parseOneStep at hq
  rw [PositionParser.parseOneStep, positions_state]
  split at hq
  case h_1 hs =>
    rw [hs, ← hq]
    exact p.parseSync_positions
  case h_2 hs =>
    rw [hs, ← hq]
    exact p.parseHeader_positions
  case h_3 hs =>
    rw [hs, ← hq]
    exact p.parseBody_positions hs
  case h_4 hs =>
    rw [hs, ← hq]

/-- A frame is handed up from inside the array. -/
theorem pushFrame_positions (hs : p.state = .Complete) :
    p.positions.pushFrame = some ((p.pushFrame hs).1, (p.pushFrame hs).2.positions) := by
  have hskip := p.buffer.advanceRead_positions p.frameSize (p.complete_le hs)
  rw [PositionParser.pushFrame]
  change (p.buffer.positions.advanceRead (UInt32.ofNat p.frameSize)).map _ = _
  rw [hskip]
  rfl

/-! ## Turns -/

/-- The frame size is that of a header. -/
theorem parseOneStep_frameSize {p : LinkLayerParser} (h : p.frameSize ≤ LPDU_MAX_FRAME_SIZE) :
    p.parseOneStep.frameSize ≤ LPDU_MAX_FRAME_SIZE := by
  have hheader (header : LinkHeader) (buffer : List UInt8) :
      (readHeader header buffer p.statistics p.frameSize).frameSize ≤ LPDU_MAX_FRAME_SIZE := by
    have hsize := calcFrameSize_le header.length
    unfold readHeader validateHeaderParameters
    generalize validateFunctionCode header p.statistics = v
    obtain ⟨ok, st⟩ := v
    cases ok <;> grind
  unfold parseOneStep
  split
  · unfold parseSync
    split_ifs <;> exact h
  · unfold parseHeader
    dsimp only
    split_ifs
    · exact hheader _ _
    · exact hheader _ _
    · exact h
  · unfold parseBody
    split_ifs <;> exact h
  · exact h

/-- A complete frame is still there after a shift. -/
theorem complete_le_shift (p : LinkLayerParser) (h : p.state = .Complete) :
    p.frameSize ≤ p.buffer.shift.numBytesRead := by
  rw [ShiftableBuffer.numBytesRead_shift]
  exact p.complete_le h

/-- The parser after the shift that ends a read. -/
def shifted (p : LinkLayerParser) : LinkLayerParser :=
  { p with buffer := p.buffer.shift, complete_le := p.complete_le_shift }

/-- A shift of the parser is one of its buffer. -/
theorem shifted_positions (p : LinkLayerParser) :
    p.shifted.positions = { p.positions with buffer := p.positions.buffer.shift } := by
  have hshift := p.buffer.shift_positions
  simp only [positions, hshift]
  rfl

/-- A body that is accepted is unpacked to the front of the memory, and the bytes behind the frame
stay as they were. -/
theorem parseBody_transfer {p : LinkLayerParser} (hs : p.state = .ReadBody)
    (hcomplete : (p.parseBody hs).state = .Complete) :
    (p.parseBody hs).userData =
        LinkFrame.bodyData p.userDataLength (p.unread.drop LPDU_HEADER_SIZE) p.userDataLength ∧
      (p.parseBody hs).userData.length = p.userDataLength ∧
      (p.parseBody hs).frameSize = p.frameSize ∧
      (p.parseBody hs).unread.drop p.frameSize = p.unread.drop p.frameSize := by
  have hsize : p.frameSize = LinkFrame.calcFrameSize p.userDataLength := p.body_size hs
  have hlen : p.unread.length = p.buffer.numBytesRead := p.buffer.length_readBuffer
  revert hcomplete
  unfold parseBody
  -- Only a body that is there and valid completes the frame.
  by_cases hwait : p.buffer.numBytesRead < p.frameSize
  · rw [dif_pos hwait]
    intro hcomplete
    rw [hs] at hcomplete
    cases hcomplete
  · rw [dif_neg hwait]
    by_cases hv : p.validateBody
    · rw [if_pos hv]
      intro _
      obtain ⟨hdata, hrest⟩ := p.transferUserData_spec (by omega)
      have hbody : LinkFrame.calcUserDataSize p.userDataLength ≤
          (p.unread.drop LPDU_HEADER_SIZE).length := by
        unfold LinkFrame.calcFrameSize at hsize
        rw [List.length_drop]
        omega
      have hdlen := LinkFrame.length_bodyData p.userDataLength _ _ (Nat.le_refl _) hbody
      rw [← hsize] at hrest
      exact ⟨hdata, (congrArg List.length hdata).trans hdlen, rfl, hrest⟩
    · rw [if_neg hv]
      intro hcomplete
      cases hcomplete

end LinkLayerParser

namespace Receiver

/-- One turn of the loops of `OnRead`. -/
def Turn (r r' : Receiver) : Prop := r.Enabled .turn ∧ r.step .turn = some r'

/-- The receiver inside `OnRead` over a bounded parser. -/
def parsing (p : LinkLayerParser) (delivered : List SinkFrame) : Receiver :=
  ⟨.parsing, p.positions, delivered⟩

/-- One round of the loop: a step of the parser, a frame that is handed up, or the end of the read.
-/
theorem turn_parsing (p : LinkLayerParser) (delivered : List SinkFrame) :
    (parsing p delivered).turn =
      if p.parseOneStep.state ≠ p.state then some (parsing p.parseOneStep delivered)
      else if p.parseOneStep.state = .Complete then
        p.parseOneStep.positions.pushFrame.map fun (frame, q) =>
          ⟨.parsing, q, delivered ++ [frame]⟩
      else some ⟨.waiting, p.parseOneStep.shifted.positions, delivered⟩ := by
  rw [turn, parsing, p.parseOneStep_positions, Option.bind_some,
    LinkLayerParser.shifted_positions]
  rfl

/-- While the state changes, `ParseUntilComplete` goes on. -/
theorem turn_of_ne {p : LinkLayerParser} (delivered : List SinkFrame)
    (hne : p.parseOneStep.state ≠ p.state) :
    Turn (parsing p delivered) (parsing p.parseOneStep delivered) := by
  refine ⟨rfl, ?_⟩
  rw [step, turn_parsing, if_pos hne]

/-- A complete frame is pushed. -/
theorem turn_of_complete {p : LinkLayerParser} (delivered : List SinkFrame)
    (hsame : p.parseOneStep.state = p.state) (hs : p.parseOneStep.state = .Complete) :
    Turn (parsing p delivered)
      (parsing (p.parseOneStep.pushFrame hs).2
        (delivered ++ [(p.parseOneStep.pushFrame hs).1])) := by
  refine ⟨rfl, ?_⟩
  rw [step, turn_parsing, if_neg (not_not.mpr hsame), if_pos hs,
    p.parseOneStep.pushFrame_positions hs]
  rfl

/-- The shift ends the read. -/
theorem turn_of_stop {p : LinkLayerParser} (delivered : List SinkFrame)
    (hsame : p.parseOneStep.state = p.state) (hs : p.parseOneStep.state ≠ .Complete) :
    Turn (parsing p delivered) ⟨.waiting, p.parseOneStep.shifted.positions, delivered⟩ := by
  refine ⟨rfl, ?_⟩
  rw [step, turn_parsing, if_neg (not_not.mpr hsame), if_neg hs]

/-- The turns of `ParseUntilComplete`, up to its last one. -/
theorem turns_parseUntilCompleteLoop (fuel : ℕ) (p : LinkLayerParser)
    (delivered : List SinkFrame) (hfuel : p.stepBound < fuel) :
    ∃ q, Relation.ReflTransGen Turn (parsing p delivered) (parsing q delivered) ∧
      q.parseOneStep.state = q.state ∧
      LinkLayerParser.parseUntilCompleteLoop fuel p = q.parseOneStep := by
  induction fuel generalizing p with
  | zero => omega
  | succ fuel ih =>
    rw [LinkLayerParser.parseUntilCompleteLoop]
    by_cases hsame : p.parseOneStep.state = p.state
    · exact ⟨p, .refl, hsame, if_pos hsame⟩
    · have hbound := p.parseOneStep_bound.2 hsame
      obtain ⟨q, hturns, hq, hloop⟩ := ih p.parseOneStep (by omega)
      exact ⟨q, .head (turn_of_ne delivered hsame) hturns, hq, (if_neg hsame).trans hloop⟩

/-- The turns of `OnRead` end, with the frames and the parser of the bounded model. -/
theorem turns_onReadLoop (fuel : ℕ) (p : LinkLayerParser) (delivered : List SinkFrame)
    (htracks : p.Tracks) (hfuel : p.buffer.numBytesRead < fuel) :
    Relation.ReflTransGen Turn (parsing p delivered)
      ⟨.waiting, (LinkLayerParser.onReadLoop fuel p).2.shifted.positions,
        delivered ++ (LinkLayerParser.onReadLoop fuel p).1⟩ := by
  induction fuel generalizing p delivered with
  | zero => omega
  | succ fuel ih =>
    obtain ⟨q, hturns, hsame, hloop⟩ :=
      turns_parseUntilCompleteLoop (p.stepBound + 1) p delivered (Nat.lt_succ_self _)
    obtain ⟨htracks', -, hle, -⟩ :=
      LinkLayerParser.parseUntilCompleteLoop_spec (p.stepBound + 1) p htracks (Nat.lt_succ_self _)
    rw [hloop] at htracks' hle
    change p.parseUntilComplete = q.parseOneStep at hloop
    rw [LinkLayerParser.onReadLoop]
    dsimp only
    rw [hloop]
    -- A complete frame is pushed and takes bytes, so there is fuel for the next one.
    by_cases hs : q.parseOneStep.state = .Complete
    · have hsize := htracks'.complete_size hs
      have hcomplete := q.parseOneStep.complete_le hs
      unfold LPDU_HEADER_SIZE at hsize
      have hmore := ih (q.parseOneStep.pushFrame hs).2
        (delivered ++ [(q.parseOneStep.pushFrame hs).1])
        (LinkLayerParser.pushFrame_spec _ hs []).1
        (by simp [LinkLayerParser.pushFrame] at *; omega)
      rw [List.append_assoc] at hmore
      rw [dif_pos hs]
      exact (hturns.tail (turn_of_complete delivered hsame hs)).trans hmore
    · rw [dif_neg hs, List.append_nil]
      exact hturns.tail (turn_of_stop delivered hsame hs)

/-! ## Every run -/

/-- The receiver is in a state of the bounded parser. -/
structure Refined (r : Receiver) (p : LinkLayerParser) : Prop where
  parser_eq : r.parser = p.positions
  tracks : p.Tracks
  frameSize_le : p.frameSize ≤ LPDU_MAX_FRAME_SIZE
  /-- Between two reads nothing is left to deliver, and there is room for the next read. -/
  waiting : r.phase = .waiting → p.Quiet ∧ 0 < p.buffer.numWriteBytes

/-- The receiver begins as a parser with an empty buffer. -/
theorem refined_init {rxBuffer : List UInt8} (h : rxBuffer.length = LPDU_MAX_FRAME_SIZE) :
    ∃ p, (init rxBuffer).Refined p := by
  have hle : 0 ≤ LPDU_MAX_FRAME_SIZE := Nat.zero_le _
  refine ⟨⟨{}, {}, .FindSync, 0, [], ⟨rxBuffer, 0, 0, h, Nat.le_refl 0, hle⟩,
    (fun h => by cases h), (fun h => by cases h)⟩, rfl,
    ⟨(fun h => by cases h), (fun h => by cases h), (fun h => by cases h)⟩, hle, fun _ => ⟨?_, ?_⟩⟩
  · refine LinkLayerParser.quiet_of_short _
      ⟨(fun h => by cases h), (fun h => by cases h), (fun h => by cases h)⟩ (fun h => by cases h) ?_
    exact Nat.succ_pos _
  · exact Nat.succ_pos _

/-- An event that can happen fails no assertion, and keeps the receiver in a state of the bounded
parser. -/
theorem Refined.step {r : Receiver} {p : LinkLayerParser} (h : r.Refined p) {e : Event}
    (he : r.Enabled e) : ∃ r' p', r.step e = some r' ∧ r'.Refined p' := by
  obtain ⟨phase, parser, delivered⟩ := r
  obtain rfl : parser = p.positions := h.parser_eq
  cases e with
  | read bytes =>
    obtain ⟨hphase, hfits⟩ := he
    obtain ⟨hquiet, -⟩ := h.waiting hphase
    have hfits' : bytes.length ≤ p.buffer.numWriteBytes := by
      rw [← p.buffer.toNat_numWriteBytes]
      exact hfits
    have hwrite := p.buffer.advanceWrite_positions bytes hfits'
    refine ⟨_, { p with
      buffer := (p.buffer.fill bytes hfits').advanceWrite bytes.length (hfits'.trans_eq rfl)
      complete_le := (absurd · hquiet.not_complete) }, congrArg (Option.map _) hwrite, rfl, ?_,
      h.frameSize_le, (fun h => by cases h)⟩
    exact LinkLayerParser.tracks_write p _ bytes hquiet rfl rfl
      (p.buffer.readBuffer_write bytes hfits' (hfits'.trans_eq rfl))
  | turn =>
    obtain rfl : phase = .parsing := he
    have htracks := (p.parseOneStep_spec h.tracks).1
    have hsize := LinkLayerParser.parseOneStep_frameSize h.frameSize_le
    -- A turn that changes the state goes on; another one pushes a frame or waits for more bytes.
    by_cases hsame : p.parseOneStep.state = p.state
    · by_cases hs : p.parseOneStep.state = .Complete
      · refine ⟨_, _, (turn_of_complete delivered hsame hs).2, rfl,
          (LinkLayerParser.pushFrame_spec _ hs []).1, hsize, (fun h => by cases h)⟩
      · have hquiet := p.parseOneStep_quiet h.tracks (hsame ▸ hs) hsame
        obtain ⟨hquiet', hroom⟩ := hquiet.shift (q := p.parseOneStep.shifted) rfl rfl rfl rfl rfl
        exact ⟨_, _, (turn_of_stop delivered hsame hs).2, rfl, hquiet'.toTracks, hsize,
          fun _ => ⟨hquiet', hroom⟩⟩
    · exact ⟨_, _, (turn_of_ne delivered hsame).2, rfl, htracks, hsize, (fun h => by cases h)⟩
  | reset =>
    have hquiet := p.reset_quiet
    have hbuffer := p.buffer.reset_positions
    refine ⟨_, p.reset, rfl, ?_, hquiet.toTracks, Nat.zero_le _, fun _ => ⟨hquiet, ?_⟩⟩
    · change p.positions.reset = p.reset.positions
      simp only [PositionParser.reset, LinkLayerParser.positions, hbuffer]
      rfl
    · exact Nat.succ_pos _

/-- Whatever the receiver has read, it is a parser whose positions lie inside the array. -/
theorem Reachable.refined {r : Receiver} (h : Reachable r) : ∃ p, r.Refined p := by
  induction h with
  | init rxBuffer hsize => exact refined_init hsize
  | step _ he hstep ih =>
    obtain ⟨p, hp⟩ := ih
    obtain ⟨r', p', hstep', hp'⟩ := hp.step he
    obtain rfl : r' = _ := Option.some_inj.mp (hstep'.symm.trans hstep)
    exact ⟨p', hp'⟩

/-- In every run of the parser, whatever bytes arrive and however they are cut into reads that fit:
the positions stay in order and inside the buffer, no frame is larger than the buffer, and no
assertion of `AdvanceRead` and `AdvanceWrite` fails. A read that has begun ends, and whenever the
parser waits for the next one `WriteBuff()` is not empty. A body that is accepted is unpacked to
exactly the user data of its frame, and the unread bytes behind the frame stay as they were. -/
theorem receiver_safe {r : Receiver} (h : Reachable r) :
    (r.parser.buffer.readPos ≤ r.parser.buffer.writePos ∧
        r.parser.buffer.writePos.toNat ≤ LPDU_MAX_FRAME_SIZE ∧
        r.parser.buffer.pBuffer.length = LPDU_MAX_FRAME_SIZE) ∧
      r.parser.frameSize ≤ LPDU_MAX_FRAME_SIZE ∧
      (∀ e, r.Enabled e → (r.step e).isSome) ∧
      (r.phase = .parsing → ∃ r', Relation.ReflTransGen Turn r r' ∧ r'.phase = .waiting) ∧
      (r.phase = .waiting → 0 < r.parser.buffer.numWriteBytes.toNat) ∧
      ∀ p, r.parser.state = .ReadBody → r.parser.parseOneStep = some p → p.state = .Complete →
        p.userData = LinkFrame.bodyData r.parser.userDataLength r.parser.body
            r.parser.userDataLength ∧
          p.userData.length = r.parser.userDataLength ∧ p.frameSize = r.parser.frameSize ∧
          p.buffer.readBuffer.drop p.frameSize =
            r.parser.buffer.readBuffer.drop r.parser.frameSize := by
  obtain ⟨p, hp⟩ := h.refined
  obtain ⟨phase, parser, delivered⟩ := r
  obtain rfl : parser = p.positions := hp.parser_eq
  -- Every statement is one about the parser that the receiver refines.
  refine ⟨⟨?_, ?_, p.buffer.size_eq⟩, hp.frameSize_le, fun e he => ?_, fun hphase => ?_,
    fun hphase => ?_, fun q hs hq hcomplete => ?_⟩
  · change p.buffer.positions.readPos ≤ p.buffer.positions.writePos
    rw [UInt32.le_iff_toNat_le, ShiftableBuffer.toNat_readPos, ShiftableBuffer.toNat_writePos]
    exact p.buffer.read_le
  · change p.buffer.positions.writePos.toNat ≤ LPDU_MAX_FRAME_SIZE
    rw [ShiftableBuffer.toNat_writePos]
    exact p.buffer.write_le
  · obtain ⟨r', p', hstep, -⟩ := hp.step he
    rw [hstep]
    rfl
  · obtain rfl : phase = .parsing := hphase
    exact ⟨_, turns_onReadLoop _ p delivered hp.tracks (Nat.lt_succ_self _), rfl⟩
  · change 0 < p.buffer.positions.numWriteBytes.toNat
    rw [ShiftableBuffer.toNat_numWriteBytes]
    exact (hp.waiting hphase).2
  · have hstate : p.state = .ReadBody := hs
    have hbody : p.positions.parseOneStep = some (p.parseBody hstate).positions := by
      rw [PositionParser.parseOneStep, p.positions_state, hstate]
      exact p.parseBody_positions hstate
    obtain rfl : q = (p.parseBody hstate).positions := Option.some_inj.mp (hq.symm.trans hbody)
    obtain ⟨hdata, hlength, hsize, hrest⟩ := LinkLayerParser.parseBody_transfer hstate hcomplete
    have hunread (p : LinkLayerParser) : p.positions.buffer.readBuffer = p.unread :=
      p.buffer.readBuffer_positions
    refine ⟨?_, hlength, hsize, ?_⟩
    · rw [PositionParser.body, hunread]
      exact hdata
    · rw [hunread, hunread]
      change (p.parseBody hstate).unread.drop (p.parseBody hstate).frameSize =
        p.unread.drop p.frameSize
      rw [hsize]
      exact hrest

/-- A request for the link status arrives in a new parser and is parsed to its end. -/
theorem receiver_safe_status :
    ∃ r r', (init (List.replicate LPDU_MAX_FRAME_SIZE 0)).step
        (.read [0x05, 0x64, 0x05, 0xC9, 0x01, 0x00, 0x00, 0x04, 0xA6, 0x57]) = some r ∧
      Relation.ReflTransGen Turn r r' ∧ r'.phase = .waiting := by
  have hinit : Reachable (init (List.replicate LPDU_MAX_FRAME_SIZE 0)) :=
    .init _ List.length_replicate
  have henabled : (init (List.replicate LPDU_MAX_FRAME_SIZE 0)).Enabled
      (.read [0x05, 0x64, 0x05, 0xC9, 0x01, 0x00, 0x00, 0x04, 0xA6, 0x57]) :=
    ⟨rfl, by decide⟩
  obtain ⟨-, -, hassert, -⟩ := receiver_safe hinit
  obtain ⟨r, hr⟩ := Option.isSome_iff_exists.mp (hassert _ henabled)
  obtain ⟨-, -, -, hends, -⟩ := receiver_safe (hinit.step henabled hr)
  have hphase : r.phase = .parsing := by
    rw [step, Option.map_eq_some_iff] at hr
    obtain ⟨buffer, -, rfl⟩ := hr
    rfl
  obtain ⟨r', hturns, hwaiting⟩ := hends hphase
  exact ⟨r, r', hr, hturns, hwaiting⟩

end Receiver

end OpenDnp3.Link
