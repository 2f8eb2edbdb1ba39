import OpenDnp3.Link.Scan

/-!
# The link frame parser scans its stream

However a stream is cut into reads, the parser delivers the frames of the reference scan and counts
its errors. The scan of what is still to come is the same before and after every step of the
parser, and a parser that has stopped has nothing left to deliver.
-/

namespace OpenDnp3.Link

/-! ## One step of the parser -/

namespace LinkLayerParser

/-- The bytes that the parser has not passed over yet. -/
def unread (p : LinkLayerParser) : List UInt8 := p.buffer.readBuffer

/-- What the state of the parser says about its unread bytes. -/
structure Tracks (p : LinkLayerParser) : Prop where
  /-- A header is only read at a candidate. -/
  header_synced : p.state = .ReadHeader → Synced p.unread
  /-- A body is only read at a candidate with a good header. -/
  body_synced : p.state = .ReadBody →
    Synced p.unread ∧ LPDU_HEADER_SIZE ≤ p.unread.length ∧
      headerFault (p.unread.take LPDU_HEADER_SIZE) = none ∧ p.header = LinkHeader.read p.unread
  /-- A complete frame has a header. -/
  complete_size : p.state = .Complete → LPDU_HEADER_SIZE ≤ p.frameSize

/-- What the scan has still to deliver when the bytes `t` follow the unread ones. A complete frame
is counted and delivered before the scan goes on behind it. -/
def pending (p : LinkLayerParser) (t : List UInt8) : List SinkFrame × LinkStatistics :=
  if p.state = .Complete then
    let (frames, st) := scan 0 (p.unread.drop p.frameSize ++ t) p.statistics.countFrame
    (⟨p.header.fields, p.userData⟩ :: frames, st)
  else scan 0 (p.unread ++ t) p.statistics

/-- Without a complete frame the rest of the stream is scanned from here. -/
theorem pending_of_ne (p : LinkLayerParser) (t : List UInt8) (h : p.state ≠ .Complete) :
    p.pending t = scan 0 (p.unread ++ t) p.statistics := if_neg h

end LinkLayerParser

/-- The search for the start bytes passes over bytes at which no candidate starts. -/
theorem syncLoop_spec {size : ℕ} (fuel : ℕ) (b : ShiftableBuffer size)
    (hf : b.numBytesRead ≤ fuel) :
    let r := ShiftableBuffer.syncLoop fuel b
    r.2.numBytesRead ≤ b.numBytesRead ∧
      (r.1 = true → Synced r.2.readBuffer) ∧ (r.1 = false → r.2.numBytesRead ≤ 1) ∧
      ∀ t st, scan 0 (r.2.readBuffer ++ t) st = scan 0 (b.readBuffer ++ t) st := by
  induction fuel generalizing b with
  | zero =>
    have h0 : b.numBytesRead = 0 := by omega
    simp [ShiftableBuffer.syncLoop, h0]
  | succ fuel ih =>
    rw [ShiftableBuffer.syncLoop]
    by_cases h1 : 1 < b.numBytesRead
    · have hlen := b.length_readBuffer
      match hb : b.readBuffer with
      | [] => simp [hb] at hlen; omega
      | [_] => simp [hb] at hlen; omega
      | b0 :: b1 :: rest =>
        by_cases hsync : b0 = 0x05 ∧ b1 = 0x64
        · simp [h1, hb, hsync, Synced]
        · -- No candidate starts at the first byte, so the scan skips it as well.
          have hskip : judge b.readBuffer = .skip := by rw [hb]; exact if_neg hsync
          obtain ⟨hle, htrue, hfalse, hscan⟩ := ih (b.advanceRead 1 (Nat.le_of_lt h1))
            (by simp; omega)
          simp only [h1, dif_pos, List.getD_cons_zero, List.getD_cons_succ, if_neg hsync]
          refine ⟨?_, htrue, hfalse, fun t st => ?_⟩
          · rw [ShiftableBuffer.numBytesRead_advanceRead] at hle
            omega
          · rw [hscan, ShiftableBuffer.readBuffer_advanceRead, ← scan_skip t st hskip, hb]
    · simp [h1]
      omega

namespace LinkLayerParser

/-- `ParseSync` only passes over bytes at which no candidate starts. -/
theorem parseSync_spec (p : LinkLayerParser) (hs : p.state = .FindSync) :
    p.parseSync.Tracks ∧ ∀ t, p.parseSync.pending t = p.pending t := by
  unfold parseSync
  by_cases h : 10 ≤ p.buffer.numBytesRead
  · rw [if_pos h]
    obtain ⟨-, htrue, -, hscan⟩ := syncLoop_spec p.buffer.numBytesRead p.buffer (Nat.le_refl _)
    change (p.buffer.sync.1 = true → Synced p.buffer.sync.2.readBuffer) at htrue
    change (∀ t st, scan 0 (p.buffer.sync.2.readBuffer ++ t) st = _) at hscan
    refine ⟨⟨fun h => htrue (by grind), fun h => by grind, fun h => by grind⟩, fun t => ?_⟩
    rw [pending_of_ne p t (by simp [hs]), pending_of_ne _ t (by grind)]
    exact hscan t p.statistics
  · rw [if_neg h]
    exact ⟨⟨fun h => by simp [hs] at h, fun h => by simp [hs] at h, fun h => by simp [hs] at h⟩,
      fun _ => rfl⟩

/-- `ParseHeader` rejects a candidate exactly as the reference does, and goes on to the body of a
good one. -/
theorem parseHeader_spec (p : LinkLayerParser) (hs : p.state = .ReadHeader) (h : p.Tracks) :
    p.parseHeader.Tracks ∧ ∀ t, p.parseHeader.pending t = p.pending t := by
  have hsync := h.header_synced hs
  have hlen : p.unread.length = p.buffer.numBytesRead := p.buffer.length_readBuffer
  by_cases h10 : 10 ≤ p.buffer.numBytesRead
  · have hspec := readHeader_spec p.unread p.statistics p.frameSize (by rw [hlen]; exact h10)
    cases hfault : headerFault (p.unread.take LPDU_HEADER_SIZE) with
    | none =>
      simp only [hfault] at hspec
      have hp : p.parseHeader.state = .ReadBody ∧ p.parseHeader.unread = p.unread ∧
          p.parseHeader.header = LinkHeader.read p.unread ∧
          p.parseHeader.statistics = p.statistics := by
        simp only [unread] at hspec ⊢
        simp [parseHeader, h10, hspec]
      obtain ⟨hstate, hunread, hheader, hstat⟩ := hp
      refine ⟨⟨fun hst => by simp [hstate] at hst, fun _ => ?_,
        fun hst => by simp [hstate] at hst⟩, fun t => ?_⟩
      · rw [hunread]
        exact ⟨hsync, by rw [hlen]; exact h10, hfault, hheader⟩
      · rw [pending_of_ne p t (by simp [hs]), pending_of_ne _ t (by simp [hstate]), hunread, hstat]
    -- A rejected candidate costs one byte in the code and in the scan.
    | some fault =>
      simp only [hfault] at hspec
      have hp : p.parseHeader.state = .FindSync ∧ p.parseHeader.unread = p.unread.drop 1 ∧
          p.parseHeader.statistics = p.statistics.count fault := by
        simp only [unread] at hspec ⊢
        simp [parseHeader, h10, hspec]
      obtain ⟨hstate, hunread, hstat⟩ := hp
      have hreject : judge p.unread = .reject fault := by
        rw [hsync.judge, judgeCandidate, if_neg (by rw [hlen]; exact Nat.not_lt.2 h10), hfault]
      refine ⟨⟨fun hst => by simp [hstate] at hst, fun hst => by simp [hstate] at hst,
        fun hst => by simp [hstate] at hst⟩, fun t => ?_⟩
      rw [pending_of_ne p t (by simp [hs]), pending_of_ne _ t (by simp [hstate]), hunread, hstat,
        scan_reject t p.statistics hreject]
  · rw [parseHeader, dif_neg h10]
    exact ⟨h, fun _ => rfl⟩

/-- The data of a body is no longer than the body. -/
theorem le_calcUserDataSize (n : ℕ) : n ≤ LinkFrame.calcUserDataSize n := by
  simp only [LinkFrame.calcUserDataSize, LPDU_DATA_BLOCK_SIZE, LPDU_DATA_PLUS_CRC_SIZE,
    LPDU_CRC_SIZE]
  grind

/-- `TransferUserData` finds the data of the body, and changes no byte behind the frame. -/
theorem transferUserData_spec (p : LinkLayerParser)
    (h : LinkFrame.calcFrameSize p.userDataLength ≤ p.buffer.numBytesRead) :
    p.transferUserData.take p.userDataLength =
        LinkFrame.bodyData p.userDataLength (p.unread.drop LPDU_HEADER_SIZE) p.userDataLength ∧
      ((p.transferUserData.take p.buffer.writePos).drop p.buffer.readPos).drop
          (LinkFrame.calcFrameSize p.userDataLength) =
        p.unread.drop (LinkFrame.calcFrameSize p.userDataLength) := by
  have hr := p.buffer.read_le
  have hw := p.buffer.write_le
  have hsize := p.buffer.size_eq
  have hn := le_calcUserDataSize p.userDataLength
  unfold LinkFrame.calcFrameSize ShiftableBuffer.numBytesRead at *
  unfold transferUserData LinkFrame.readUserData unread ShiftableBuffer.readBuffer
  generalize p.userDataLength = n at *
  generalize p.buffer.pBuffer = mem at *
  generalize p.buffer.readPos = rp at *
  generalize p.buffer.writePos = wp at *
  generalize hbody : ((mem.take wp).drop rp).drop LPDU_HEADER_SIZE = body
  have hlen : LinkFrame.calcUserDataSize n ≤ body.length := by
    simp [← hbody]
    omega
  -- The source of the copy is the body and what comes behind the unread bytes.
  have hsplit : mem.drop (rp + LPDU_HEADER_SIZE) = body ++ mem.drop wp := by
    rw [← hbody, List.drop_drop, ← List.drop_append_of_le_length (by simp; omega),
      List.take_append_drop]
  rw [LinkFrame.readUserDataLoop_eq n mem _ 0 n (Nat.le_refl n) (Nat.zero_le _) (by omega), hsplit,
    bodyData_append n body _ n hlen]
  have hdata := LinkFrame.length_bodyData n body n (Nat.le_refl n) hlen
  simp only [List.take_zero, List.nil_append, Nat.zero_add]
  refine ⟨List.take_left' hdata, ?_⟩
  rw [List.drop_drop, List.drop_drop, List.drop_take, List.drop_take, List.drop_append, hdata,
    List.drop_of_length_le (by omega), List.nil_append, List.drop_drop]
  congr 2
  omega

/-- `ParseBody` accepts or rejects a candidate exactly as the reference does. -/
theorem parseBody_spec (p : LinkLayerParser) (hs : p.state = .ReadBody) (h : p.Tracks) :
    (p.parseBody hs).Tracks ∧ ∀ t, (p.parseBody hs).pending t = p.pending t := by
  obtain ⟨hsync, h10, hfault, hheader⟩ := h.body_synced hs
  have hlen : p.unread.length = p.buffer.numBytesRead := p.buffer.length_readBuffer
  have hsize : p.frameSize = LinkFrame.calcFrameSize p.userDataLength := p.body_size hs
  by_cases hwait : p.buffer.numBytesRead < p.frameSize
  · rw [parseBody, dif_pos hwait]
    exact ⟨h, fun _ => rfl⟩
  have hjudge : judge p.unread =
      if p.validateBody then
        .accept ⟨p.header.fields, LinkFrame.bodyData p.userDataLength
          (p.unread.drop LPDU_HEADER_SIZE) p.userDataLength⟩ p.frameSize
      else .reject .bodyCrc := by
    rw [hsync.judge, judgeCandidate, if_neg (by omega), hfault]
    simp only [← hheader]
    change (if p.unread.length < LinkFrame.calcFrameSize p.userDataLength then _ else _) = _
    rw [if_neg (by omega), hsize]
    rfl
  cases hv : p.validateBody with
  -- The body passes: the parser holds the frame that the scan accepts.
  | true =>
    rw [hv, if_pos rfl] at hjudge
    obtain ⟨hdata, hrest⟩ := transferUserData_spec p (by omega)
    have hsz : LPDU_HEADER_SIZE ≤ p.frameSize := (judge_accept_size hjudge).1
    rw [parseBody, dif_neg hwait, if_pos hv]
    refine ⟨⟨by simp, by simp, fun _ => hsz⟩, fun t => ?_⟩
    rw [pending_of_ne p t (by simp [hs]), scan_accept t p.statistics hjudge, ← hdata]
    rw [← hsize] at hrest
    simp only [pending, if_true]
    unfold unread ShiftableBuffer.readBuffer at hrest ⊢
    simp only [hrest]
  | false =>
    rw [hv] at hjudge
    rw [parseBody, dif_neg hwait, if_neg (by simp [hv])]
    refine ⟨⟨by simp, by simp, by simp⟩, fun t => ?_⟩
    rw [pending_of_ne p t (by simp [hs]), pending_of_ne _ t (by simp),
      scan_reject t p.statistics hjudge]
    simp [unread, LinkStatistics.count]

/-- No step of the parser changes what the scan delivers. -/
theorem parseOneStep_spec (p : LinkLayerParser) (h : p.Tracks) :
    p.parseOneStep.Tracks ∧ ∀ t, p.parseOneStep.pending t = p.pending t := by
  unfold parseOneStep
  split
  · exact parseSync_spec p ‹_›
  · exact parseHeader_spec p ‹_› h
  · exact parseBody_spec p ‹_› h
  · exact ⟨h, fun _ => rfl⟩

/-! ## The parser stops -/

/-- The parser has delivered what its unread bytes hold, and has room for another read. -/
structure Quiet (p : LinkLayerParser) : Prop extends p.Tracks where
  /-- No frame is left to be pushed. -/
  not_complete : p.state ≠ .Complete
  /-- The scan of the unread bytes alone delivers nothing. -/
  pending_nil : p.pending [] = ([], p.statistics)
  /-- The buffer is not full of unread bytes. -/
  room : p.buffer.numBytesRead < LPDU_MAX_FRAME_SIZE

/-- No frame is larger than the buffer. -/
theorem calcFrameSize_le (length : UInt8) :
    LinkFrame.calcFrameSize (length.toNat - LPDU_MIN_LENGTH) ≤ LPDU_MAX_FRAME_SIZE := by
  have hlt := length.toNat_lt
  simp only [LinkFrame.calcFrameSize, LinkFrame.calcUserDataSize, LPDU_HEADER_SIZE,
    LPDU_DATA_BLOCK_SIZE, LPDU_DATA_PLUS_CRC_SIZE, LPDU_CRC_SIZE, LPDU_MIN_LENGTH,
    LPDU_MAX_FRAME_SIZE]
  grind

/-- Fewer unread bytes than a header has are nothing to deliver. -/
theorem quiet_of_short (p : LinkLayerParser) (h : p.Tracks) (hs : p.state ≠ .Complete)
    (hlen : p.buffer.numBytesRead < LPDU_HEADER_SIZE) : p.Quiet where
  toTracks := h
  not_complete := hs
  pending_nil := by
    rw [pending_of_ne p [] hs, List.append_nil]
    exact scan_short _ _ (by rw [unread, p.buffer.length_readBuffer]; exact hlen)
  room := Nat.lt_trans hlen (by decide)

/-- A step that leaves the state as it is has nothing left to deliver. -/
theorem parseOneStep_quiet (p : LinkLayerParser) (h : p.Tracks) (hs : p.state ≠ .Complete)
    (hsame : p.parseOneStep.state = p.state) : p.parseOneStep.Quiet := by
  have htracks := (parseOneStep_spec p h).1
  have hne : p.parseOneStep.state ≠ .Complete := hsame ▸ hs
  have hlen : p.unread.length = p.buffer.numBytesRead := p.buffer.length_readBuffer
  revert hsame htracks hne
  unfold parseOneStep
  split
  case h_1 hst =>
    intro hsame htracks hne
    refine quiet_of_short _ htracks hne ?_
    unfold parseSync at hsame ⊢
    by_cases h10 : 10 ≤ p.buffer.numBytesRead
    · obtain ⟨-, -, hfalse, -⟩ := syncLoop_spec p.buffer.numBytesRead p.buffer (Nat.le_refl _)
      change (p.buffer.sync.1 = false → p.buffer.sync.2.numBytesRead ≤ 1) at hfalse
      rw [if_pos h10] at hsame ⊢
      have hle := hfalse (by grind)
      exact Nat.lt_of_le_of_lt hle (by decide)
    · rw [if_neg h10]
      exact Nat.lt_of_not_le h10
  case h_2 hst =>
    intro hsame htracks hne
    refine quiet_of_short _ htracks hne ?_
    unfold parseHeader at hsame ⊢
    by_cases h10 : 10 ≤ p.buffer.numBytesRead
    · rw [dif_pos h10] at hsame
      grind
    · rw [dif_neg h10]
      exact Nat.lt_of_not_le h10
  case h_3 hst =>
    intro hsame htracks hne
    obtain ⟨hsync, h10, hfault, hheader⟩ := h.body_synced hst
    have hsize := p.body_size hst
    have hwait : p.buffer.numBytesRead < p.frameSize := by
      -- The state stays only where the body is not complete.
      unfold parseBody at hsame
      grind
    rw [parseBody, dif_pos hwait]
    refine ⟨h, hs, ?_, Nat.lt_of_lt_of_le hwait (hsize ▸ calcFrameSize_le _)⟩
    rw [pending_of_ne p [] hs, List.append_nil]
    apply scan_wait
    rw [hsync.judge, judgeCandidate, if_neg (by omega), hfault]
    simp only [← hheader, ← hsize]
    rw [if_pos (by omega)]
  case h_4 hst => exact absurd hst hs

/-- A step reads no byte twice, and a step that changes the state brings the parser closer to its
end. -/
theorem parseOneStep_bound (p : LinkLayerParser) :
    p.parseOneStep.buffer.numBytesRead ≤ p.buffer.numBytesRead ∧
      (p.parseOneStep.state ≠ p.state → p.parseOneStep.stepBound < p.stepBound) := by
  unfold parseOneStep stepBound
  split
  case h_1 hst =>
    obtain ⟨hle, -⟩ := syncLoop_spec p.buffer.numBytesRead p.buffer (Nat.le_refl _)
    change p.buffer.sync.2.numBytesRead ≤ _ at hle
    unfold parseSync
    grind
  case h_2 hst =>
    unfold parseHeader
    by_cases h10 : 10 ≤ p.buffer.numBytesRead
    · by_cases hok : (readHeader (LinkHeader.read p.buffer.readBuffer) p.buffer.readBuffer
          p.statistics p.frameSize).ok
      · simp [h10, hok, hst]
      · simp [h10, hok, hst]
        omega
    · simp [h10]
  case h_3 hst =>
    have hsize := p.body_size hst
    unfold LinkFrame.calcFrameSize LPDU_HEADER_SIZE at hsize
    unfold parseBody
    by_cases hwait : p.buffer.numBytesRead < p.frameSize
    · simp [hwait]
    · by_cases hv : p.validateBody
      · rw [dif_neg hwait, if_pos hv]
        simp only [hst]
        exact ⟨Nat.le_refl _, fun _ => Nat.lt_succ_self _⟩
      · simp [hwait, hv, hst]
        omega
  case h_4 hst => simp

/-- `ParseUntilComplete` ends at a complete frame or where nothing is left to deliver. -/
theorem parseUntilCompleteLoop_spec (fuel : ℕ) (p : LinkLayerParser) (h : p.Tracks)
    (hf : p.stepBound < fuel) :
    let p' := parseUntilCompleteLoop fuel p
    p'.Tracks ∧ (∀ t, p'.pending t = p.pending t) ∧
      p'.buffer.numBytesRead ≤ p.buffer.numBytesRead ∧ (p'.state ≠ .Complete → p'.Quiet) := by
  induction fuel generalizing p with
  | zero => omega
  | succ fuel ih =>
    obtain ⟨htracks, hpending⟩ := parseOneStep_spec p h
    obtain ⟨hle, hbound⟩ := parseOneStep_bound p
    rw [parseUntilCompleteLoop]
    by_cases hsame : p.parseOneStep.state = p.state
    · simp only [hsame, if_true]
      exact ⟨htracks, hpending, hle,
        fun hne => parseOneStep_quiet p h hne hsame⟩
    · simp only [hsame, if_false]
      obtain ⟨htracks', hpending', hle', hquiet'⟩ :=
        ih p.parseOneStep htracks (by have := hbound hsame; omega)
      exact ⟨htracks', fun t => (hpending' t).trans (hpending t), hle'.trans hle, hquiet'⟩

/-- Pushing a complete frame delivers the frame that the scan delivers next. -/
theorem pushFrame_spec (p : LinkLayerParser) (hs : p.state = .Complete) (t : List UInt8) :
    (p.pushFrame hs).2.Tracks ∧
      p.pending t =
        ((p.pushFrame hs).1 :: ((p.pushFrame hs).2.pending t).1,
          ((p.pushFrame hs).2.pending t).2) := by
  refine ⟨⟨nofun, nofun, nofun⟩, ?_⟩
  rw [pending_of_ne (p.pushFrame hs).2 t (by simp [pushFrame])]
  simp [pending, hs, pushFrame, unread, LinkStatistics.countFrame]

/-- The loop of `OnRead` delivers what the scan delivers, and ends quiet. -/
theorem onReadLoop_spec (fuel : ℕ) (p : LinkLayerParser) (h : p.Tracks)
    (hf : p.buffer.numBytesRead < fuel) :
    let r := onReadLoop fuel p
    r.2.Quiet ∧ ∀ t, p.pending t = (r.1 ++ (r.2.pending t).1, (r.2.pending t).2) := by
  induction fuel generalizing p with
  | zero => omega
  | succ fuel ih =>
    obtain ⟨htracks, hpending, hle, hquiet⟩ :=
      parseUntilCompleteLoop_spec (p.stepBound + 1) p h (Nat.lt_succ_self _)
    change p.parseUntilComplete.Tracks at htracks
    rw [onReadLoop]
    by_cases hs : p.parseUntilComplete.state = .Complete
    · have hsize := htracks.complete_size hs
      have hcomplete := p.parseUntilComplete.complete_le hs
      unfold LPDU_HEADER_SIZE at hsize
      obtain ⟨hq, hmore⟩ := ih (p.parseUntilComplete.pushFrame hs).2
        (pushFrame_spec _ hs []).1 (by simp [pushFrame, parseUntilComplete] at *; omega)
      simp only [hs, dif_pos]
      refine ⟨hq, fun t => ?_⟩
      rw [← hpending t]
      change p.parseUntilComplete.pending t = _
      rw [(pushFrame_spec _ hs t).2, hmore t]
      rfl
    · simp only [hs, dif_neg, not_false_iff]
      exact ⟨hquiet hs, fun t => (hpending t).symm⟩

/-! ## Reads -/

/-- A quiet parser stays quiet when its unread bytes are shifted to the front, and then has room. -/
theorem Quiet.shift {p : LinkLayerParser} (h : p.Quiet) {q : LinkLayerParser}
    (hstate : q.state = p.state) (hheader : q.header = p.header)
    (hsize : q.frameSize = p.frameSize) (hstat : q.statistics = p.statistics)
    (hbuffer : q.buffer = p.buffer.shift) : q.Quiet ∧ 0 < q.buffer.numWriteBytes := by
  -- The shifted parser has the same unread bytes, so it tracks the same candidate.
  have hunread : q.unread = p.unread := by
    rw [unread, hbuffer, p.buffer.readBuffer_shift, unread]
  have hne : q.state ≠ .Complete := by
    rw [hstate]
    exact h.not_complete
  refine ⟨⟨⟨?_, ?_, ?_⟩, hne, ?_, ?_⟩, ?_⟩
  · rw [hstate, hunread]
    exact h.header_synced
  · rw [hstate, hunread, hheader]
    exact h.body_synced
  · rw [hstate, hsize]
    exact h.complete_size
  · rw [pending_of_ne q [] hne, hunread, hstat, ← pending_of_ne p [] h.not_complete]
    exact h.pending_nil
  · rw [hbuffer, ShiftableBuffer.numBytesRead_shift]
    exact h.room
  · have hroom : p.buffer.numBytesRead < LPDU_MAX_FRAME_SIZE := h.room
    rw [hbuffer]
    simp only [ShiftableBuffer.numWriteBytes, ShiftableBuffer.shift]
    omega

/-- The shift at the end of `OnRead` keeps what is left to deliver. -/
theorem parseFrames_spec (p : LinkLayerParser) (h : p.Tracks) :
    p.parseFrames.2.Quiet ∧ 0 < p.parseFrames.2.buffer.numWriteBytes ∧
      ∀ t, p.pending t =
        (p.parseFrames.1 ++ (p.parseFrames.2.pending t).1, (p.parseFrames.2.pending t).2) := by
  obtain ⟨hquiet, hscan⟩ := onReadLoop_spec (p.buffer.numBytesRead + 1) p h (Nat.lt_succ_self _)
  unfold parseFrames
  generalize onReadLoop (p.buffer.numBytesRead + 1) p = r at hquiet hscan
  obtain ⟨frames, q⟩ := r
  refine ⟨?_, ?_, fun t => ?_⟩
  · refine (hquiet.shift ?_ ?_ ?_ ?_ ?_).1 <;> rfl
  · refine (hquiet.shift ?_ ?_ ?_ ?_ ?_).2 <;> rfl
  · rw [hscan t]
    simp [pending, unread]

/-- More bytes keep the candidate that the parser reads. -/
theorem tracks_write (p q : LinkLayerParser) (bytes : List UInt8) (h : p.Quiet)
    (hstate : q.state = p.state) (hheader : q.header = p.header)
    (hunread : q.unread = p.unread ++ bytes) : q.Tracks := by
  have hsync : Synced p.unread → Synced q.unread := by
    rintro ⟨rest, hrest⟩
    exact ⟨rest ++ bytes, by simp [hunread, hrest]⟩
  refine ⟨fun hs => hsync (h.header_synced (hstate ▸ hs)), fun hs => ?_,
    fun hs => absurd (hstate ▸ hs) h.not_complete⟩
  obtain ⟨hsynced, h10, hfault, hhead⟩ := h.body_synced (hstate ▸ hs)
  refine ⟨hsync hsynced, by simp [hunread]; omega, ?_, ?_⟩
  · rw [hunread, List.take_append_of_le_length h10, hfault]
  · rw [hheader, hunread, read_append _ _ h10, hhead]

/-- One `OnRead` delivers what the scan delivers once its bytes have arrived. -/
theorem onRead_spec (p : LinkLayerParser) (bytes : List UInt8)
    (h : bytes.length ≤ p.buffer.numWriteBytes) (hq : p.Quiet) :
    (p.onRead bytes h).2.Quiet ∧ 0 < (p.onRead bytes h).2.buffer.numWriteBytes ∧
      ∀ t, p.pending (bytes ++ t) =
        ((p.onRead bytes h).1 ++ ((p.onRead bytes h).2.pending t).1,
          ((p.onRead bytes h).2.pending t).2) := by
  unfold onRead
  generalize hwritten : ({ p with
      buffer := (p.buffer.fill bytes h).advanceWrite bytes.length (h.trans_eq rfl)
      complete_le := _ } : LinkLayerParser) = q
  have hunread : q.unread = p.unread ++ bytes := by
    rw [← hwritten]
    exact p.buffer.readBuffer_write bytes h (h.trans_eq rfl)
  have htracks : q.Tracks :=
    tracks_write p q bytes hq (by rw [← hwritten]) (by rw [← hwritten]) hunread
  obtain ⟨hquiet, hroom, hscan⟩ := parseFrames_spec q htracks
  refine ⟨hquiet, hroom, fun t => ?_⟩
  have hne : q.state ≠ .Complete := by
    rw [← hwritten]
    exact hq.not_complete
  rw [← hscan t, pending_of_ne p _ hq.not_complete, pending_of_ne q _ hne, hunread,
    List.append_assoc, ← hwritten]

/-- A parser that has been reset is quiet. -/
theorem reset_quiet (p : LinkLayerParser) : p.reset.Quiet :=
  quiet_of_short _ ⟨nofun, nofun, nofun⟩ (by simp [reset]) (by simp [reset, LPDU_HEADER_SIZE])

/-- A run of reads delivers what the scan of the bytes delivers, from any quiet parser. -/
theorem readAll_pending (reads : List (List UInt8)) (p : LinkLayerParser) (hq : p.Quiet)
    (frames : List SinkFrame) (q : LinkLayerParser)
    (h : readAll reads p = some (frames, q)) :
    p.pending reads.flatten = (frames, q.statistics) := by
  induction reads generalizing p frames with
  | nil =>
    obtain ⟨rfl, rfl⟩ : [] = frames ∧ p = q := by simpa [readAll] using h
    exact hq.pending_nil
  | cons bytes reads ih =>
    rw [readAll] at h
    split_ifs at h with hfit
    simp only [Option.map_eq_some_iff, Prod.mk.injEq] at h
    obtain ⟨⟨more, q'⟩, hrest, rfl, rfl⟩ := h
    obtain ⟨hquiet, -, hscan⟩ := onRead_spec p bytes hfit.1 hq
    rw [List.flatten_cons, hscan, ih _ hquiet _ hrest]

/-- However a stream is cut into reads, a parser that starts from `Reset` delivers to its sink the
frames of the reference scan of the whole stream, and counts what the scan counts. -/
theorem readAll_eq_scan (p : LinkLayerParser) (reads : List (List UInt8))
    (frames : List SinkFrame) (q : LinkLayerParser)
    (h : readAll reads p.reset = some (frames, q)) :
    (frames, q.statistics) = scan 0 reads.flatten p.statistics := by
  rw [← readAll_pending reads p.reset p.reset_quiet frames q h,
    pending_of_ne _ _ p.reset_quiet.not_complete]
  simp [unread, reset, ShiftableBuffer.reset, ShiftableBuffer.readBuffer]

/-- A stray byte and a request for the link status, cut in the middle of its header,
delivers the request. -/
theorem readAll_eq_scan_status :
    let reads : List (List UInt8) :=
      [[0x05, 0x05, 0x64, 0x05, 0xC9], [0x01, 0x00, 0x00, 0x04, 0xA6, 0x57]]
    ((readAll reads init.reset).map Prod.fst =
        some [⟨⟨.PRI_REQUEST_LINK_STATUS, true, false, false, 1, 1024⟩, []⟩]) ∧
      ∃ frames q, readAll reads init.reset = some (frames, q) ∧
        (frames, q.statistics) = scan 0 reads.flatten init.statistics := by
  refine ⟨by decide +kernel, ?_⟩
  have hsome : (readAll [[0x05, 0x05, 0x64, 0x05, 0xC9], [0x01, 0x00, 0x00, 0x04, 0xA6, 0x57]]
      init.reset).isSome := by decide +kernel
  obtain ⟨⟨frames, q⟩, hr⟩ := Option.isSome_iff_exists.1 hsome
  exact ⟨frames, q, hr, readAll_eq_scan init _ frames q hr⟩

end LinkLayerParser

end OpenDnp3.Link
