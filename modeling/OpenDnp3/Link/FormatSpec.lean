import OpenDnp3.Link.Format
import OpenDnp3.Link.ParserSpec

/-!
# The round trip of link frames

Every frame that the writers make is accepted by the reference scan with the fields and the user
data that it was made of. A stream of such frames leaves the parser nothing to search for.
-/

namespace OpenDnp3.Link

/-! ## Checksums -/

/-- A block with its checksum is correct, whatever follows. -/
theorem isCorrectCRC_addCrc (block rest : List UInt8) :
    CRC.isCorrectCRC (CRC.addCrc block ++ rest) block.length = true := by
  unfold CRC.isCorrectCRC CRC.addCrc
  rw [List.append_assoc, List.take_left, List.drop_left, readUInt16_writeUInt16]
  exact beq_self_eq_true _

/-- The checksum of a block takes two bytes. -/
@[simp]
theorem length_addCrc (block : List UInt8) : (CRC.addCrc block).length = block.length + 2 := by
  simp [CRC.addCrc, writeUInt16]

/-- The body that a writer makes passes the checks, and its data is read back. -/
theorem bodyData_writeUserDataLoop (fuel : ℕ) (data rest : List UInt8) (h : data.length ≤ fuel) :
    LinkFrame.validateBodyLoop fuel (LinkFrame.writeUserDataLoop fuel data ++ rest)
        data.length = true ∧
      LinkFrame.bodyData fuel (LinkFrame.writeUserDataLoop fuel data ++ rest) data.length =
        data := by
  induction fuel generalizing data with
  | zero => exact ⟨rfl, (List.length_eq_zero_iff.mp (Nat.le_zero.mp h)).symm⟩
  | succ fuel ih =>
    rw [LinkFrame.validateBodyLoop, LinkFrame.bodyData, LinkFrame.writeUserDataLoop]
    by_cases hzero : data.length = 0
    · simp [List.length_eq_zero_iff.mp hzero]
    rw [if_neg hzero, if_neg hzero, if_neg hzero]
    have hpos := LinkFrame.blockSize_pos (Nat.pos_of_ne_zero hzero)
    have hle := LinkFrame.blockSize_le data.length
    generalize LinkFrame.blockSize data.length = num at *
    have hblock : (data.take num).length = num := by
      rw [List.length_take, min_eq_left hle]
    have hdrop : (data.drop num).length = data.length - num := List.length_drop
    obtain ⟨hvalid, hdata⟩ := ih (data.drop num) (by omega)
    rw [hdrop] at hvalid hdata
    -- The first block passes, and the rest begins behind its checksum.
    have hcrc := isCorrectCRC_addCrc (data.take num)
      (LinkFrame.writeUserDataLoop fuel (data.drop num) ++ rest)
    rw [hblock] at hcrc
    have hnext : (CRC.addCrc (data.take num) ++
        (LinkFrame.writeUserDataLoop fuel (data.drop num) ++ rest)).drop (num + LPDU_CRC_SIZE) =
        LinkFrame.writeUserDataLoop fuel (data.drop num) ++ rest :=
      List.drop_left' (by rw [length_addCrc, hblock]; rfl)
    have htake : (CRC.addCrc (data.take num) ++
        (LinkFrame.writeUserDataLoop fuel (data.drop num) ++ rest)).take num = data.take num := by
      rw [CRC.addCrc, List.append_assoc, List.take_left' hblock]
    dsimp only
    rw [List.append_assoc, hcrc, hnext, htake, hvalid, hdata, List.take_append_drop]
    exact ⟨rfl, rfl⟩

/-! ## Headers -/

/-- A header is read back as it was written. -/
theorem read_write (h : LinkHeader) (rest : List UInt8) :
    LinkHeader.read (h.write ++ rest) = h := by
  have hdest : readUInt16 ((h.write ++ rest).drop 4) = h.dest := by
    simp only [LinkHeader.write, CRC.addCrc, LinkHeader.octets, List.append_assoc]
    exact readUInt16_writeUInt16 h.dest _
  have hsrc : readUInt16 ((h.write ++ rest).drop 6) = h.src := by
    simp only [LinkHeader.write, CRC.addCrc, LinkHeader.octets, List.append_assoc]
    exact readUInt16_writeUInt16 h.src _
  unfold LinkHeader.read
  rw [hdest, hsrc]
  rfl

/-- The control byte carries its function and its bits. -/
theorem controlByte_spec {func : LinkFunction} (h : func ≠ .INVALID) (isFromMaster fcb fcv : Bool) :
    let ctrl := LinkHeader.controlByte isFromMaster fcb fcv func
    LinkFunction.fromType (ctrl &&& MASK_FUNC_OR_PRM) = func ∧
      (ctrl &&& MASK_DIR != 0) = isFromMaster ∧ (ctrl &&& MASK_FCB != 0) = fcb ∧
      (ctrl &&& MASK_FCV != 0) = fcv := by
  cases func <;> revert h isFromMaster fcb fcv <;> decide

/-- The fields of a header are those that it was set to. -/
theorem fields_set (aLen : UInt8) (fields : LinkHeaderFields) (h : fields.func ≠ .INVALID) :
    (LinkHeader.set aLen fields.src fields.dest fields.isFromMaster fields.fcvdfc fields.fcb
      fields.func).fields = fields := by
  obtain ⟨hfunc, hdir, hfcb, hfcv⟩ :=
    controlByte_spec h fields.isFromMaster fields.fcb fields.fcvdfc
  simp only [LinkHeader.fields, LinkHeader.set, LinkHeader.getFuncEnum, LinkHeader.isFromMaster,
    LinkHeader.isFcbSet, LinkHeader.isFcvDfcSet, hfunc, hdir, hfcb, hfcv]

/-! ## Frames -/

/-- The bytes of a frame, as the writers put them together. -/
def encode (frame : SinkFrame) : List UInt8 :=
  LinkFrame.formatHeader (UInt8.ofNat frame.userData.length) frame.fields.isFromMaster
      frame.fields.fcb frame.fields.fcvdfc frame.fields.func frame.fields.dest frame.fields.src ++
    LinkFrame.writeUserData frame.userData

/-- A frame takes as many bytes as its header and its body. -/
theorem length_encode (frame : SinkFrame) :
    (encode frame).length = LinkFrame.calcFrameSize frame.userData.length := by
  rw [encode, List.length_append, LinkFrame.length_writeUserData]
  rfl

/-- The frames that pass the checks of the parser: the bits belong to the function, and the user
data functions, and only they, have user data. -/
structure WellFormed (frame : SinkFrame) : Prop where
  func_ne : frame.fields.func ≠ .INVALID
  fcv_eq : frame.fields.func.isPri = true → frame.fields.fcvdfc = frame.fields.func.hasFcv
  fcb_eq : frame.fields.func.isPri = false → frame.fields.fcb = false
  payload_eq : frame.fields.func.hasPayload = decide (0 < frame.userData.length)
  length_le : frame.userData.length ≤ LPDU_MAX_USER_DATA_SIZE

namespace WellFormed

variable {frame : SinkFrame}

/-- The function and the bits of a well formed frame pass the check. -/
theorem functionFault_eq (h : WellFormed frame) {header : LinkHeader}
    (hfields : header.fields = frame.fields) : functionFault header = none := by
  have hfunc : header.getFuncEnum = frame.fields.func := congrArg LinkHeaderFields.func hfields
  have hfcv : header.isFcvDfcSet = frame.fields.fcvdfc :=
    congrArg LinkHeaderFields.fcvdfc hfields
  have hfcb : header.isFcbSet = frame.fields.fcb := congrArg LinkHeaderFields.fcb hfields
  have hprm : header.isPriToSec = frame.fields.func.isPri := by
    rcases isPriToSec_eq header with hinvalid | hprm
    · exact absurd (hfunc.symm.trans hinvalid) h.func_ne
    · rw [hprm, hfunc]
  unfold functionFault
  rw [hfunc, hfcv, hfcb, hprm]
  dsimp only
  rw [if_neg h.func_ne]
  split_ifs with hpri hne hfcb
  · rfl
  · exact absurd (h.fcv_eq hpri) hne
  · rw [h.fcb_eq (by simpa using hpri)] at hfcb
    cases hfcb
  · rfl

/-- The LENGTH octet of a well formed frame. -/
theorem toNat_length (h : WellFormed frame) :
    (UInt8.ofNat frame.userData.length + 5).toNat = frame.userData.length + 5 := by
  have hle := h.length_le
  unfold LPDU_MAX_USER_DATA_SIZE at hle
  rw [UInt8.toNat_add, UInt8.toNat_ofNat']
  have hfive : (5 : UInt8).toNat = 5 := rfl
  omega

/-- The header of a well formed frame passes all checks. -/
theorem headerFault_eq (h : WellFormed frame) {header : LinkHeader}
    (hfields : header.fields = frame.fields)
    (hlength : header.length.toNat = frame.userData.length + 5) :
    headerFault header.write = none := by
  have hread : LinkHeader.read header.write = header := by
    rw [← List.append_nil header.write]
    exact read_write header []
  have hcrc : CRC.isCorrectCRC header.write 8 = true := by
    rw [← List.append_nil header.write]
    exact isCorrectCRC_addCrc header.octets []
  have hfunc : header.getFuncEnum = frame.fields.func := congrArg LinkHeaderFields.func hfields
  unfold headerFault
  rw [hread, hcrc]
  simp only [hlength, h.functionFault_eq hfields, hfunc, h.payload_eq]
  simp

/-- The scan accepts the bytes of a well formed frame as that frame. -/
theorem judge_encode (h : WellFormed frame) :
    judge (encode frame) = .accept frame (encode frame).length := by
  have hfields := fields_set (UInt8.ofNat frame.userData.length + 5) frame.fields h.func_ne
  have hlength := h.toNat_length
  have hencode : encode frame = (LinkHeader.set (UInt8.ofNat frame.userData.length + 5)
      frame.fields.src frame.fields.dest frame.fields.isFromMaster frame.fields.fcvdfc
      frame.fields.fcb frame.fields.func).write ++ LinkFrame.writeUserData frame.userData := rfl
  have hsize := length_encode frame
  generalize hheader : LinkHeader.set (UInt8.ofNat frame.userData.length + 5)
    frame.fields.src frame.fields.dest frame.fields.isFromMaster frame.fields.fcvdfc
    frame.fields.fcb frame.fields.func = header at hfields hencode
  replace hlength : header.length.toNat = frame.userData.length + 5 := by
    rw [← hheader]
    exact hlength
  have hten : header.write.length = LPDU_HEADER_SIZE := rfl
  -- The header is read back, so its checks are those of the fields.
  have hsynced : Synced (encode frame) := by
    rw [hencode]
    exact ⟨_, rfl⟩
  have hn : header.length.toNat - LPDU_MIN_LENGTH = frame.userData.length := by
    rw [hlength]
    rfl
  obtain ⟨hvalid, hdata⟩ :=
    bodyData_writeUserDataLoop frame.userData.length frame.userData [] le_rfl
  rw [List.append_nil] at hvalid hdata
  rw [hsynced.judge, judgeCandidate, if_neg (by rw [hsize]; simp [LinkFrame.calcFrameSize])]
  rw [hencode, List.take_left' hten, List.drop_left' hten, read_write,
    h.headerFault_eq hfields hlength, ← hencode]
  simp only [hn, hfields]
  rw [if_neg (by omega), LinkFrame.validateBodyCRC, LinkFrame.writeUserData, hvalid, hdata,
    if_pos rfl, hsize]

end WellFormed

/-- A stream of well formed frames is scanned as these frames, without an error. -/
theorem scan_encode {frames : List SinkFrame} (h : ∀ frame ∈ frames, WellFormed frame)
    (st : LinkStatistics) :
    scan 0 (frames.flatMap encode) st =
      (frames, { st with numLinkFrameRx := st.numLinkFrameRx + UInt32.ofNat frames.length }) := by
  induction frames generalizing st with
  | nil => simp [scan]
  | cons frame frames ih =>
    have hjudge := (h frame List.mem_cons_self).judge_encode
    rw [List.flatMap_cons, scan_accept _ st hjudge, List.drop_length, List.nil_append,
      ih fun frame' hmem => h frame' (List.mem_cons_of_mem _ hmem)]
    have hcount : st.numLinkFrameRx + 1 + UInt32.ofNat frames.length =
        st.numLinkFrameRx + UInt32.ofNat (frames.length + 1) := by
      rw [UInt32.ofNat_add, UInt32.add_comm (UInt32.ofNat frames.length), UInt32.add_assoc]
      rfl
    simp only [LinkStatistics.countFrame, hcount, List.length_cons]

/-! ## The bytes that the parser passes over -/

namespace LinkLayerParser

/-- The bytes of the given frames. -/
def frameBytes (frames : List SinkFrame) : ℕ :=
  (frames.map fun frame => LinkFrame.calcFrameSize frame.userData.length).sum

/-- The bytes of frames one after the other. -/
theorem frameBytes_append (frames frames' : List SinkFrame) :
    frameBytes (frames ++ frames') = frameBytes frames + frameBytes frames' := by
  simp [frameBytes]

/-- Every frame takes as many bytes as its length says. -/
theorem length_flatMap_encode (frames : List SinkFrame) :
    (frames.flatMap encode).length = frameBytes frames := by
  simp [frameBytes, List.length_flatMap, length_encode]

/-- A complete frame has the size that belongs to its user data. -/
def Sized (p : LinkLayerParser) : Prop :=
  p.state = .Complete → p.frameSize = LinkFrame.calcFrameSize p.userData.length

/-- A step of the parser keeps the size that it expects. -/
theorem parseOneStep_sized (p : LinkLayerParser) (h : p.Sized) : p.parseOneStep.Sized := by
  unfold parseOneStep
  split
  case h_1 hst =>
    unfold parseSync
    split_ifs
    · intro hc
      dsimp only at hc
      split_ifs at hc
    · exact h
  case h_2 hst =>
    unfold parseHeader
    split_ifs
    · dsimp only
      split_ifs <;> simp [Sized]
    · exact h
  case h_3 hst =>
    unfold parseBody
    split_ifs with hwait hvalid
    · exact h
    · -- The receive buffer has room for every body.
      intro _
      have hlength : (p.transferUserData.take p.userDataLength).length = p.userDataLength := by
        have hlt := p.header.length.toNat_lt
        rw [List.length_take, transferUserData, LinkFrame.readUserData,
          LinkFrame.length_readUserDataLoop, p.buffer.size_eq]
        unfold userDataLength LPDU_MAX_FRAME_SIZE
        omega
      dsimp only
      rw [hlength]
      exact p.body_size hst
    · simp [Sized]
  case h_4 => exact h

/-- Steps keep the size, and read no byte twice. -/
theorem parseUntilCompleteLoop_sized (fuel : ℕ) (p : LinkLayerParser) (h : p.Sized) :
    (parseUntilCompleteLoop fuel p).Sized ∧
      (parseUntilCompleteLoop fuel p).buffer.numBytesRead ≤ p.buffer.numBytesRead := by
  induction fuel generalizing p with
  | zero => exact ⟨h, le_rfl⟩
  | succ fuel ih =>
    have hstep := parseOneStep_sized p h
    have hle := (parseOneStep_bound p).1
    rw [parseUntilCompleteLoop]
    split_ifs
    · exact ⟨hstep, hle⟩
    · obtain ⟨hsized, hrest⟩ := ih p.parseOneStep hstep
      exact ⟨hsized, hrest.trans hle⟩

/-- The bytes of the frames that are delivered are not unread any more. -/
theorem onReadLoop_frameBytes (fuel : ℕ) (p : LinkLayerParser) (h : p.Sized) :
    (onReadLoop fuel p).2.Sized ∧
      (onReadLoop fuel p).2.buffer.numBytesRead + frameBytes (onReadLoop fuel p).1 ≤
        p.buffer.numBytesRead := by
  induction fuel generalizing p with
  | zero => exact ⟨h, le_rfl⟩
  | succ fuel ih =>
    obtain ⟨hsized, hle⟩ := parseUntilCompleteLoop_sized (p.stepBound + 1) p h
    change p.parseUntilComplete.Sized at hsized
    change p.parseUntilComplete.buffer.numBytesRead ≤ _ at hle
    rw [onReadLoop]
    dsimp only
    split_ifs with hc
    · -- A frame is pushed. Its user data took at least its own length of the bytes read.
      have hpush : (p.parseUntilComplete.pushFrame hc).2.Sized := by
        simp [Sized, pushFrame]
      obtain ⟨hsized', hrest⟩ := ih _ hpush
      refine ⟨hsized', ?_⟩
      have hframe := p.parseUntilComplete.complete_le hc
      have hsize := hsized hc
      have hread : (p.parseUntilComplete.pushFrame hc).2.buffer.numBytesRead =
          p.parseUntilComplete.buffer.numBytesRead - p.parseUntilComplete.frameSize :=
        ShiftableBuffer.numBytesRead_advanceRead _ _ hframe
      have huser : (p.parseUntilComplete.pushFrame hc).1.userData =
          p.parseUntilComplete.userData := rfl
      unfold frameBytes at hrest ⊢
      dsimp only
      rw [List.map_cons, List.sum_cons, huser]
      omega
    · exact ⟨hsized, hle⟩

/-- The same of one read, which leaves the unread bytes at the front of the buffer. -/
theorem onRead_frameBytes (p : LinkLayerParser) (bytes : List UInt8)
    (hfit : bytes.length ≤ p.buffer.numWriteBytes) (h : p.Sized) :
    (p.onRead bytes hfit).2.Sized ∧ (p.onRead bytes hfit).2.buffer.readPos = 0 ∧
      (p.onRead bytes hfit).2.buffer.numBytesRead + frameBytes (p.onRead bytes hfit).1 ≤
        p.buffer.numBytesRead + bytes.length := by
  have hwritten : ((p.buffer.fill bytes hfit).advanceWrite bytes.length
      (hfit.trans_eq rfl)).numBytesRead = p.buffer.numBytesRead + bytes.length :=
    p.buffer.numBytesRead_write bytes hfit _
  rw [← hwritten]
  unfold onRead parseFrames
  dsimp only
  rw [ShiftableBuffer.numBytesRead_shift]
  rw [and_left_comm]
  exact ⟨rfl, onReadLoop_frameBytes _ _ h⟩

/-- The same of a run of reads: no byte comes from elsewhere. -/
theorem readAll_frameBytes (reads : List (List UInt8)) {p q : LinkLayerParser}
    {frames : List SinkFrame} (hp : p.Sized) (h : readAll reads p = some (frames, q)) :
    q.buffer.numBytesRead + frameBytes frames ≤ p.buffer.numBytesRead + reads.flatten.length := by
  induction reads generalizing p frames with
  | nil =>
    obtain ⟨rfl, rfl⟩ : [] = frames ∧ p = q := by simpa [readAll] using h
    exact le_rfl
  | cons bytes reads ih =>
    rw [readAll] at h
    split_ifs at h with hfit
    simp only [Option.map_eq_some_iff, Prod.mk.injEq] at h
    obtain ⟨⟨more, q'⟩, hrest, rfl, rfl⟩ := h
    obtain ⟨hsized, -, hle⟩ := onRead_frameBytes p bytes hfit.1 hp
    have hmore := ih hsized hrest
    dsimp only at hmore ⊢
    rw [frameBytes_append, List.flatten_cons, List.length_append]
    omega

/-- A stream that fits into the buffer is read, however it is cut. -/
theorem readAll_isSome (reads : List (List UInt8)) {p : LinkLayerParser} (hp : p.Sized)
    (hfront : p.buffer.readPos = 0) (hreads : ∀ bytes ∈ reads, bytes ≠ [])
    (hlength : p.buffer.numBytesRead + reads.flatten.length ≤ LPDU_MAX_FRAME_SIZE) :
    (readAll reads p).isSome := by
  induction reads generalizing p with
  | nil => rfl
  | cons bytes reads ih =>
    obtain ⟨hbytes, hreads⟩ := List.forall_mem_cons.mp hreads
    rw [List.flatten_cons, List.length_append] at hlength
    have hfit : bytes.length ≤ p.buffer.numWriteBytes := by
      unfold ShiftableBuffer.numBytesRead at hlength
      unfold ShiftableBuffer.numWriteBytes
      omega
    obtain ⟨hsized, hfront, hle⟩ := onRead_frameBytes p bytes hfit hp
    rw [readAll, dif_pos ⟨hfit, hbytes⟩]
    dsimp only
    rw [Option.isSome_map]
    exact ih hsized hfront hreads (by omega)

/-- After a run of reads nothing is left to deliver. -/
theorem readAll_quiet (reads : List (List UInt8)) {p q : LinkLayerParser}
    {frames : List SinkFrame} (hp : p.Quiet) (h : readAll reads p = some (frames, q)) :
    q.Quiet := by
  induction reads generalizing p frames with
  | nil =>
    obtain ⟨-, rfl⟩ : [] = frames ∧ p = q := by simpa [readAll] using h
    exact hp
  | cons bytes reads ih =>
    rw [readAll] at h
    split_ifs at h with hfit
    simp only [Option.map_eq_some_iff, Prod.mk.injEq] at h
    obtain ⟨⟨more, q'⟩, hrest, -, rfl⟩ := h
    exact ih (onRead_spec p bytes hfit.1 hp).1 hrest

end LinkLayerParser

/-! ## What the writers make -/

open LinkFrame in
/-- A call of one of the writers of `LinkFrame`. -/
inductive FormatCall where
  | Ack (aIsMaster aIsRcvBuffFull : Bool) (aDest aSrc : UInt16)
  | Nack (aIsMaster aIsRcvBuffFull : Bool) (aDest aSrc : UInt16)
  | LinkStatus (aIsMaster aIsRcvBuffFull : Bool) (aDest aSrc : UInt16)
  | NotSupported (aIsMaster aIsRcvBuffFull : Bool) (aDest aSrc : UInt16)
  | ResetLinkStates (aIsMaster : Bool) (aDest aSrc : UInt16)
  | RequestLinkStatus (aIsMaster : Bool) (aDest aSrc : UInt16)
  | TestLinkStatus (aIsMaster aFcb : Bool) (aDest aSrc : UInt16)
  | ConfirmedUserData (aIsMaster aFcb : Bool) (aDest aSrc : UInt16) (apData : UserData)
  | UnconfirmedUserData (aIsMaster : Bool) (aDest aSrc : UInt16) (apData : UserData)
  deriving DecidableEq, Repr

namespace FormatCall

/-- The bytes that the call writes. -/
def bytes : FormatCall → List UInt8
  | Ack isMaster isFull dest src => LinkFrame.formatAck isMaster isFull dest src
  | Nack isMaster isFull dest src => LinkFrame.formatNack isMaster isFull dest src
  | LinkStatus isMaster isFull dest src => LinkFrame.formatLinkStatus isMaster isFull dest src
  | NotSupported isMaster isFull dest src => LinkFrame.formatNotSupported isMaster isFull dest src
  | ResetLinkStates isMaster dest src => LinkFrame.formatResetLinkStates isMaster dest src
  | RequestLinkStatus isMaster dest src => LinkFrame.formatRequestLinkStatus isMaster dest src
  | TestLinkStatus isMaster fcb dest src => LinkFrame.formatTestLinkStatus isMaster fcb dest src
  | ConfirmedUserData isMaster fcb dest src data =>
    LinkFrame.formatConfirmedUserData isMaster fcb dest src data
  | UnconfirmedUserData isMaster dest src data =>
    LinkFrame.formatUnconfirmedUserData isMaster dest src data

/-- The frame that the call means: function, direction, FCB, FCV or DFC, destination and source,
and the user data. -/
def frame : FormatCall → SinkFrame
  | Ack isMaster isFull dest src => ⟨⟨.SEC_ACK, isMaster, false, isFull, dest, src⟩, []⟩
  | Nack isMaster isFull dest src => ⟨⟨.SEC_NACK, isMaster, false, isFull, dest, src⟩, []⟩
  | LinkStatus isMaster isFull dest src =>
    ⟨⟨.SEC_LINK_STATUS, isMaster, false, isFull, dest, src⟩, []⟩
  | NotSupported isMaster isFull dest src =>
    ⟨⟨.SEC_NOT_SUPPORTED, isMaster, false, isFull, dest, src⟩, []⟩
  | ResetLinkStates isMaster dest src =>
    ⟨⟨.PRI_RESET_LINK_STATES, isMaster, false, false, dest, src⟩, []⟩
  | RequestLinkStatus isMaster dest src =>
    ⟨⟨.PRI_REQUEST_LINK_STATUS, isMaster, false, false, dest, src⟩, []⟩
  | TestLinkStatus isMaster fcb dest src =>
    ⟨⟨.PRI_TEST_LINK_STATES, isMaster, fcb, true, dest, src⟩, []⟩
  | ConfirmedUserData isMaster fcb dest src data =>
    ⟨⟨.PRI_CONFIRMED_USER_DATA, isMaster, fcb, true, dest, src⟩, data.bytes⟩
  | UnconfirmedUserData isMaster dest src data =>
    ⟨⟨.PRI_UNCONFIRMED_USER_DATA, isMaster, false, false, dest, src⟩, data.bytes⟩

/-- What is formatted is the encoding of the frame. -/
theorem bytes_eq (call : FormatCall) : call.bytes = encode call.frame := by
  cases call <;> rfl

/-- Every call keeps to the rules that the parser checks. -/
theorem wellFormed (call : FormatCall) : WellFormed call.frame where
  func_ne := by cases call <;> nofun
  fcv_eq := by cases call <;> simp [frame, LinkFunction.isPri, LinkFunction.hasFcv]
  fcb_eq := by cases call <;> simp [frame, LinkFunction.isPri]
  payload_eq := by
    rcases call with _ | _ | _ | _ | _ | _ | _ | ⟨_, _, _, _, data⟩ | ⟨_, _, _, data⟩
    case ConfirmedUserData | UnconfirmedUserData =>
      simp [frame, LinkFunction.hasPayload, data.length_pos]
    all_goals rfl
  length_le := by
    rcases call with _ | _ | _ | _ | _ | _ | _ | ⟨_, _, _, _, data⟩ | ⟨_, _, _, data⟩
    case ConfirmedUserData | UnconfirmedUserData => exact data.length_le
    all_goals exact Nat.zero_le _

end FormatCall

namespace LinkLayerParser

/-- However the bytes of a list of written frames are cut into reads, a parser that starts from
`Reset` delivers these frames, counts nothing but them, and has no byte left. -/
theorem readAll_bytes_eq (p : LinkLayerParser) (calls : List FormatCall)
    (reads : List (List UInt8)) (hreads : reads.flatten = calls.flatMap FormatCall.bytes)
    (frames : List SinkFrame) (q : LinkLayerParser)
    (h : readAll reads p.reset = some (frames, q)) :
    frames = calls.map FormatCall.frame ∧
      q.statistics = { p.statistics with
        numLinkFrameRx := p.statistics.numLinkFrameRx + UInt32.ofNat calls.length } ∧
      q.state = .FindSync ∧ q.buffer.numBytesRead = 0 := by
  have hbytes : reads.flatten = (calls.map FormatCall.frame).flatMap encode := by
    rw [hreads, List.flatMap_map]
    exact congrArg (fun f => calls.flatMap f) (funext FormatCall.bytes_eq)
  have hwell : ∀ frame ∈ calls.map FormatCall.frame, WellFormed frame := by
    intro frame hmem
    obtain ⟨call, -, rfl⟩ := List.mem_map.mp hmem
    exact call.wellFormed
  have hscan := readAll_eq_scan p reads frames q h
  rw [hbytes, scan_encode hwell, Prod.mk.injEq, List.length_map] at hscan
  obtain ⟨hframes, hstatistics⟩ := hscan
  -- The frames account for every byte of the stream.
  have hread : q.buffer.numBytesRead = 0 := by
    have hle := readAll_frameBytes reads (p := p.reset) nofun h
    have hreset : p.reset.buffer.numBytesRead = 0 := p.buffer.numBytesRead_reset
    rw [hbytes, length_flatMap_encode, hframes, hreset] at hle
    omega
  -- In every other state the parser stands at a candidate.
  have hquiet := readAll_quiet reads p.reset_quiet h
  have hsynced : ¬ Synced q.unread := by
    rintro ⟨rest, hrest⟩
    have hlength := q.buffer.length_readBuffer
    rw [hread] at hlength
    rw [unread, List.length_eq_zero_iff.mp hlength] at hrest
    cases hrest
  have hstate : q.state = .FindSync := by
    rcases hstate : q.state
    · rfl
    · exact absurd (hquiet.header_synced hstate) hsynced
    · exact absurd (hquiet.body_synced hstate).1 hsynced
    · exact absurd hstate hquiet.not_complete
  exact ⟨hframes, hstatistics, hstate, hread⟩

/-- User data of seventeen bytes and an acknowledgement, in reads that cut both frames. -/
theorem readAll_bytes_eq_two :
    let data : LinkFrame.UserData := ⟨List.replicate 17 0x05, by decide, by decide⟩
    let calls : List FormatCall :=
      [.ConfirmedUserData true true 1 1024 data, .Ack false true 1024 1]
    let stream := calls.flatMap FormatCall.bytes
    let reads := [stream.take 3, (stream.drop 3).take 30, stream.drop 33]
    ∃ frames q, readAll reads init.reset = some (frames, q) ∧
      frames = calls.map FormatCall.frame ∧
      q.statistics = { init.statistics with
        numLinkFrameRx := init.statistics.numLinkFrameRx + UInt32.ofNat calls.length } ∧
      q.state = .FindSync ∧ q.buffer.numBytesRead = 0 := by
  intro data calls stream reads
  have hreads : reads.flatten = calls.flatMap FormatCall.bytes := by decide +kernel
  have hsome : (readAll reads init.reset).isSome := by
    have hlength : reads.flatten.length ≤ LPDU_MAX_FRAME_SIZE := by decide +kernel
    refine readAll_isSome reads (by simp [Sized, reset]) rfl (by decide +kernel) ?_
    rwa [show init.reset.buffer.numBytesRead = 0 from rfl, Nat.zero_add]
  obtain ⟨⟨frames, q⟩, h⟩ := Option.isSome_iff_exists.mp hsome
  exact ⟨frames, q, h, readAll_bytes_eq init calls reads hreads frames q h⟩

end LinkLayerParser

end OpenDnp3.Link
