import OpenDnp3.Link.Parser

/-!
# The reference scan of a link stream

What the link layer should make of a received stream: one leftmost, non-overlapping scan of the
whole stream, in which every candidate frame is judged by its bytes alone.
-/

namespace OpenDnp3.Link

/-! ## The reference scan -/

/-- The ways in which a candidate frame fails. -/
inductive Fault where
  | headerCrc
  | length
  | function
  | fcv
  | fcb
  | bodyCrc
  deriving DecidableEq, Repr

/-- The statistics with one more error. -/
def LinkStatistics.count (st : LinkStatistics) : Fault → LinkStatistics
  | .headerCrc => { st with numHeaderCrcError := st.numHeaderCrcError + 1 }
  | .length => { st with numBadLength := st.numBadLength + 1 }
  | .function => { st with numBadFunctionCode := st.numBadFunctionCode + 1 }
  | .fcv => { st with numBadFCV := st.numBadFCV + 1 }
  | .fcb => { st with numBadFCB := st.numBadFCB + 1 }
  | .bodyCrc => { st with numBodyCrcError := st.numBodyCrcError + 1 }

/-- The statistics with one more frame. -/
def LinkStatistics.countFrame (st : LinkStatistics) : LinkStatistics :=
  { st with numLinkFrameRx := st.numLinkFrameRx + 1 }

/-- The functions that carry user data. -/
def LinkFunction.hasPayload (f : LinkFunction) : Bool :=
  f = .PRI_CONFIRMED_USER_DATA ∨ f = .PRI_UNCONFIRMED_USER_DATA

/-- The functions whose frame count bit is valid. -/
def LinkFunction.hasFcv (f : LinkFunction) : Bool :=
  f = .PRI_CONFIRMED_USER_DATA ∨ f = .PRI_TEST_LINK_STATES

/-- The first failing check of the function, and of the frame count bits that go with it. -/
def functionFault (header : LinkHeader) : Option Fault :=
  let func := header.getFuncEnum
  if func = .INVALID then some .function
  else if header.isPriToSec then
    if header.isFcvDfcSet = func.hasFcv then none else some .fcv
  else if header.isFcbSet then some .fcb
  else none

/-- The first failing check of a header of ten bytes. -/
def headerFault (bytes : List UInt8) : Option Fault :=
  let header := LinkHeader.read bytes
  if ¬ CRC.isCorrectCRC bytes 8 then some .headerCrc
  else if header.length.toNat < 5 then some .length
  else
    match functionFault header with
    | some fault => some fault
    | none =>
      if header.getFuncEnum.hasPayload = decide (5 < header.length.toNat) then none
      else some .length

/-- What the scan makes of the stream from one position on. -/
inductive Verdict where
  /-- No candidate starts here. -/
  | skip
  /-- The stream ends before the candidate can be judged. -/
  | wait
  /-- The candidate fails a check. -/
  | reject (fault : Fault)
  /-- The candidate is a frame of `size` bytes. -/
  | accept (frame : SinkFrame) (size : ℕ)

/-- The judgement of a candidate, which starts with `0x05 0x64`. -/
def judgeCandidate (bytes : List UInt8) : Verdict :=
  if bytes.length < LPDU_HEADER_SIZE then .wait
  else
    match headerFault (bytes.take LPDU_HEADER_SIZE) with
    | some fault => .reject fault
    | none =>
      let header := LinkHeader.read bytes
      let n := header.length.toNat - LPDU_MIN_LENGTH
      let body := bytes.drop LPDU_HEADER_SIZE
      if bytes.length < LinkFrame.calcFrameSize n then .wait
      else if LinkFrame.validateBodyCRC body n then
        .accept ⟨header.fields, LinkFrame.bodyData n body n⟩ (LinkFrame.calcFrameSize n)
      else .reject .bodyCrc

/-- The judgement of a position. A last `0x05` may still become a candidate. -/
def judge : List UInt8 → Verdict
  | b0 :: b1 :: rest =>
    if b0 = 0x05 ∧ b1 = 0x64 then judgeCandidate (b0 :: b1 :: rest) else .skip
  | _ => .wait

/-- The leftmost, non-overlapping scan of a stream whose first bytes, as many as the first argument
says, belong to a frame that is already accepted. -/
def scan : ℕ → List UInt8 → LinkStatistics → List SinkFrame × LinkStatistics
  | _, [], st => ([], st)
  | n + 1, _ :: bytes, st => scan n bytes st
  | 0, b :: bytes, st =>
    match judge (b :: bytes) with
    | .skip => scan 0 bytes st
    | .wait => ([], st)
    | .reject fault => scan 0 bytes (st.count fault)
    | .accept frame size =>
      let (frames, st) := scan (size - 1) bytes st.countFrame
      (frame :: frames, st)

/-! ## The scan of a longer stream -/

/-- The scan passes over the bytes of an accepted frame. -/
theorem scan_drop (n : ℕ) (bytes : List UInt8) (st : LinkStatistics) :
    scan n bytes st = scan 0 (bytes.drop n) st := by
  induction bytes generalizing n with
  | nil => simp [scan]
  | cons b bytes ih =>
    cases n with
    | zero => rfl
    | succ n => rw [scan, ih, List.drop_succ_cons]

/-- A stream that is too short for a header yields nothing. -/
theorem scan_short (bytes : List UInt8) (st : LinkStatistics)
    (h : bytes.length < LPDU_HEADER_SIZE) : scan 0 bytes st = ([], st) := by
  induction bytes with
  | nil => rfl
  | cons b bytes ih =>
    have hj : judge (b :: bytes) = .wait ∨ judge (b :: bytes) = .skip := by
      cases bytes with
      | nil => exact Or.inl rfl
      | cons b' bytes =>
        rw [judge, judgeCandidate, if_pos h]
        split_ifs <;> simp
    rw [scan]
    rcases hj with hj | hj
    · rw [hj]
    · rw [hj]
      exact ih (by simp at h ⊢; omega)

/-- A checksum does not depend on what follows its block. -/
theorem isCorrectCRC_append (w t : List UInt8) (n : ℕ) (h : n + 2 ≤ w.length) :
    CRC.isCorrectCRC (w ++ t) n = CRC.isCorrectCRC w n := by
  simp only [CRC.isCorrectCRC, readUInt16, List.getD_eq_getElem?_getD, List.getElem?_drop]
  rw [List.take_append_of_le_length (by omega), List.getElem?_append_left (by omega),
    List.getElem?_append_left (by omega)]

/-- A header does not depend on what follows it. -/
theorem read_append (w t : List UInt8) (h : LPDU_HEADER_SIZE ≤ w.length) :
    LinkHeader.read (w ++ t) = LinkHeader.read w := by
  unfold LPDU_HEADER_SIZE at h
  simp only [LinkHeader.read, readUInt16, List.getD_eq_getElem?_getD, List.getElem?_drop]
  repeat rw [List.getElem?_append_left (by omega)]

/-- The checksums of a body do not depend on what follows it. -/
theorem validateBodyLoop_append (fuel : ℕ) (w t : List UInt8) (length : ℕ)
    (h : LinkFrame.calcUserDataSize length ≤ w.length) :
    LinkFrame.validateBodyLoop fuel (w ++ t) length = LinkFrame.validateBodyLoop fuel w length := by
  induction fuel generalizing w length with
  | zero => rfl
  | succ fuel ih =>
    rw [LinkFrame.validateBodyLoop, LinkFrame.validateBodyLoop]
    by_cases h0 : length = 0
    · simp [h0]
    · have hsize := LinkFrame.calcUserDataSize_block (Nat.pos_of_ne_zero h0)
      unfold LPDU_CRC_SIZE at *
      simp only [h0, if_false]
      rw [isCorrectCRC_append _ _ _ (by omega), List.drop_append_of_le_length (by omega),
        ih _ _ (by simp; omega)]

/-- The data of a body does not depend on what follows it. -/
theorem bodyData_append (fuel : ℕ) (w t : List UInt8) (length : ℕ)
    (h : LinkFrame.calcUserDataSize length ≤ w.length) :
    LinkFrame.bodyData fuel (w ++ t) length = LinkFrame.bodyData fuel w length := by
  induction fuel generalizing w length with
  | zero => rfl
  | succ fuel ih =>
    rw [LinkFrame.bodyData, LinkFrame.bodyData]
    by_cases h0 : length = 0
    · simp [h0]
    · have hsize := LinkFrame.calcUserDataSize_block (Nat.pos_of_ne_zero h0)
      unfold LPDU_CRC_SIZE at *
      simp only [h0, if_false]
      rw [List.take_append_of_le_length (by omega), List.drop_append_of_le_length (by omega),
        ih _ _ (by simp; omega)]

/-- A candidate that is judged does not depend on what follows. -/
theorem judgeCandidate_append (w t : List UInt8) (h : judgeCandidate w ≠ .wait) :
    judgeCandidate (w ++ t) = judgeCandidate w := by
  have hlen : ¬ w.length < LPDU_HEADER_SIZE := fun hlt => h (if_pos hlt)
  have hlen' : ¬ (w ++ t).length < LPDU_HEADER_SIZE := by simp; omega
  unfold judgeCandidate at h ⊢
  rw [if_neg hlen] at h ⊢
  rw [if_neg hlen', List.take_append_of_le_length (by omega), read_append w t (by omega),
    List.drop_append_of_le_length (by omega)]
  cases hf : headerFault (w.take LPDU_HEADER_SIZE) with
  | some fault => rfl
  | none =>
    simp only [hf] at h ⊢
    generalize hn : (LinkHeader.read w).length.toNat - LPDU_MIN_LENGTH = n at h ⊢
    have hsize : ¬ w.length < LinkFrame.calcFrameSize n := fun hlt => h (if_pos hlt)
    have hsize' : ¬ (w ++ t).length < LinkFrame.calcFrameSize n := by simp; omega
    have hbody : LinkFrame.calcUserDataSize n ≤ (w.drop LPDU_HEADER_SIZE).length := by
      unfold LinkFrame.calcFrameSize at hsize
      simp
      omega
    rw [if_neg hsize, if_neg hsize', LinkFrame.validateBodyCRC, LinkFrame.validateBodyCRC,
      validateBodyLoop_append _ _ _ _ hbody, bodyData_append _ _ _ _ hbody]

/-- A verdict that does not wait does not depend on what follows. -/
theorem judge_append (w t : List UInt8) (h : judge w ≠ .wait) : judge (w ++ t) = judge w := by
  match w, h with
  | b0 :: b1 :: rest, h =>
    by_cases hsync : b0 = 0x05 ∧ b1 = 0x64
    · simp only [judge, if_pos hsync, List.cons_append] at h ⊢
      exact judgeCandidate_append _ t h
    · simp only [judge, if_neg hsync, List.cons_append]

/-- An accepted frame is at least a header long, and no longer than what was judged. -/
theorem judge_accept_size {w : List UInt8} {frame : SinkFrame} {size : ℕ}
    (h : judge w = .accept frame size) : LPDU_HEADER_SIZE ≤ size ∧ size ≤ w.length := by
  unfold judge judgeCandidate LinkFrame.calcFrameSize at h
  grind

/-- A candidate starts at the first byte. -/
def Synced (bytes : List UInt8) : Prop := ∃ rest, bytes = 0x05 :: 0x64 :: rest

/-- A candidate is judged as such. -/
theorem Synced.judge {bytes : List UInt8} (h : Synced bytes) :
    judge bytes = judgeCandidate bytes := by
  obtain ⟨rest, rfl⟩ := h
  simp [OpenDnp3.Link.judge]

/-- The scan passes over a byte at which no candidate starts. -/
theorem scan_skip {w : List UInt8} (t : List UInt8) (st : LinkStatistics) (h : judge w = .skip) :
    scan 0 (w ++ t) st = scan 0 (w.drop 1 ++ t) st := by
  cases w with
  | nil => exact absurd h (by simp [judge])
  | cons b bytes =>
    have ha := judge_append (b :: bytes) t (by simp [h])
    rw [List.cons_append] at ha ⊢
    simp [scan, ha, h]

/-- The scan counts a rejected candidate and advances by one byte. -/
theorem scan_reject {w : List UInt8} (t : List UInt8) (st : LinkStatistics) {fault : Fault}
    (h : judge w = .reject fault) :
    scan 0 (w ++ t) st = scan 0 (w.drop 1 ++ t) (st.count fault) := by
  cases w with
  | nil => exact absurd h (by simp [judge])
  | cons b bytes =>
    have ha := judge_append (b :: bytes) t (by simp [h])
    rw [List.cons_append] at ha ⊢
    simp [scan, ha, h]

/-- The scan delivers an accepted candidate and advances behind it. -/
theorem scan_accept {w : List UInt8} (t : List UInt8) (st : LinkStatistics) {frame : SinkFrame}
    {size : ℕ} (h : judge w = .accept frame size) :
    scan 0 (w ++ t) st =
      (frame :: (scan 0 (w.drop size ++ t) st.countFrame).1,
        (scan 0 (w.drop size ++ t) st.countFrame).2) := by
  have hsize := judge_accept_size h
  unfold LPDU_HEADER_SIZE at hsize
  cases w with
  | nil => exact absurd h (by simp [judge])
  | cons b bytes =>
    have ha := judge_append (b :: bytes) t (by simp [h])
    have hdrop : (bytes ++ t).drop (size - 1) = (b :: bytes).drop size ++ t := by
      rw [← List.drop_append_of_le_length hsize.2, List.cons_append,
        List.drop_cons (by omega)]
    rw [List.cons_append] at ha ⊢
    simp only [scan, ha, h]
    rw [scan_drop, hdrop]

/-- The scan stops at a candidate that waits. -/
theorem scan_wait {w : List UInt8} (st : LinkStatistics) (h : judge w = .wait) :
    scan 0 w st = ([], st) := by
  cases w with
  | nil => rfl
  | cons b bytes => simp [scan, h]

/-! ## The parser's checks are the reference's -/

/-- A primary function has the PRM bit, and a secondary function does not. -/
theorem isPriToSec_eq (header : LinkHeader) :
    header.getFuncEnum = .INVALID ∨ header.isPriToSec = header.getFuncEnum.isPri := by
  have hmask : header.ctrl &&& MASK_PRM = (header.ctrl &&& MASK_FUNC_OR_PRM) &&& MASK_PRM := by
    rw [UInt8.and_assoc]
    rfl
  unfold LinkHeader.isPriToSec LinkHeader.getFuncEnum
  rw [hmask]
  generalize header.ctrl &&& MASK_FUNC_OR_PRM = f
  unfold LinkFunction.fromType
  split_ifs with h h h h h h h h h
  case neg => exact Or.inl rfl
  all_goals subst h; exact Or.inr (by decide)

/-- The code's function check fails where the reference's does, and counts the same error. -/
theorem validateFunctionCode_spec (header : LinkHeader) (st : LinkStatistics) :
    LinkLayerParser.validateFunctionCode header st =
      match functionFault header with
      | none => (true, st)
      | some fault => (false, st.count fault) := by
  have hprm := isPriToSec_eq header
  unfold LinkLayerParser.validateFunctionCode LinkLayerParser.validateFunctionCode.checkFcv
    functionFault
  cases hf : header.getFuncEnum <;> rw [hf] at hprm <;> cases hp : header.isPriToSec <;>
    simp [hp, LinkFunction.isPri] at hprm <;> cases header.isFcvDfcSet <;> cases header.isFcbSet <;>
    simp [LinkStatistics.count, LinkFunction.hasFcv]

/-- The code's header checks fail where the reference's do, and count the same error. -/
theorem readHeader_spec (bytes : List UInt8) (st : LinkStatistics) (frameSize : ℕ)
    (h : LPDU_HEADER_SIZE ≤ bytes.length) :
    let r := LinkLayerParser.readHeader (LinkHeader.read bytes) bytes st frameSize
    match headerFault (bytes.take LPDU_HEADER_SIZE) with
    | none => r.ok = true ∧ r.statistics = st
    | some fault => r.ok = false ∧ r.statistics = st.count fault := by
  have htake : (bytes.take LPDU_HEADER_SIZE).length = LPDU_HEADER_SIZE := by simp [h]
  have hread : LinkHeader.read (bytes.take LPDU_HEADER_SIZE) = LinkHeader.read bytes := by
    rw [← read_append _ (bytes.drop LPDU_HEADER_SIZE) htake.ge, List.take_append_drop]
  have hcrc : CRC.isCorrectCRC (bytes.take LPDU_HEADER_SIZE) 8 = CRC.isCorrectCRC bytes 8 := by
    rw [← isCorrectCRC_append _ (bytes.drop LPDU_HEADER_SIZE) 8 htake.ge, List.take_append_drop]
  unfold headerFault LinkLayerParser.readHeader LinkLayerParser.validateHeaderParameters
  rw [hread, hcrc]
  generalize LinkHeader.read bytes = header
  cases CRC.isCorrectCRC bytes 8
  · simp [LinkStatistics.count]
  simp only [validateFunctionCode_spec, LinkHeader.validLength]
  -- The code compares with the minimum from the other side.
  by_cases hlen : header.length.toNat < 5
  · have : ¬ 4 < header.length.toNat := by omega
    simp [hlen, this, LinkStatistics.count]
  have h4 : 4 < header.length.toNat := by omega
  cases functionFault header with
  | some fault => simp [hlen, h4]
  | none =>
    by_cases hpay : 5 < header.length.toNat
    · have hpos : 0 < header.length.toNat - LPDU_MIN_LENGTH := Nat.sub_pos_of_lt hpay
      cases hf : header.getFuncEnum <;>
        simp [hlen, h4, hpay, hpos, LinkFunction.hasPayload, LinkStatistics.count]
    · have hzero : header.length.toNat - LPDU_MIN_LENGTH = 0 :=
        Nat.sub_eq_zero_of_le (Nat.le_of_not_lt hpay)
      cases hf : header.getFuncEnum <;>
        simp [hlen, h4, hpay, hzero, LinkFunction.hasPayload, LinkStatistics.count]

end OpenDnp3.Link
