import OpenDnp3.Link.Transmitter

/-!
# The handlers of the two stations

Every handler of the primary and of the secondary station does one of the three things that a
handler may do to the transmitter (`Handled`), and leaves the other station alone.
-/

namespace OpenDnp3.Link

namespace LinkContext

variable {α : Type*}

/-! ## The handlers of the primary station -/

/-- What the handlers of both stations leave alone. -/
structure Rest (ctx ctx' : LinkContext α) : Prop where
  config : ctx'.config = ctx.config
  online : ctx'.isOnline = ctx.isOnline

/-- What a handler of the primary does. -/
structure PriWork (ctx ctx' : LinkContext α) : Prop where
  handled : Handled true ctx ctx'
  rest : Rest ctx ctx'
  sec : ctx'.pSecState = ctx.pSecState
  ready : Ready ctx'

/-- What the primary does leaves the secondary alone. -/
theorem PriWork.apart {ctx ctx' : LinkContext α} (h : PriWork ctx ctx') : Apart true ctx ctx' where
  same := by
    show ctx'.pSecState.isTransmitWait = ctx.pSecState.isTransmitWait
    rw [h.sec]
  queued := fun frame hf => by
    show ctx'.SecQueued frame
    have hf : ctx.SecQueued frame := hf
    simpa only [SecQueued, h.sec, h.rest.config] using hf

/-- A response timer does not run while the primary transmits. -/
theorem isResponseWait_of_transmitWait {state : PriState} (h : state.isTransmitWait = true) :
    state.isResponseWait = false := by
  cases state <;> simp_all [PriState.isTransmitWait, PriState.isResponseWait]

/-- A primary that only counts, notes or tells something. -/
theorem PriWork.keep {ctx ctx' : LinkContext α} (h : Ready ctx)
    (hw : ctx.transmitWait true = ctx.holds true) (q : Quiet ctx ctx') (r : Rest ctx ctx')
    (hsec : ctx'.pSecState = ctx.pSecState) (hpri : ctx'.pPriState = ctx.pPriState)
    (hseg : ctx'.pSegments = ctx.pSegments) (hfcb : ctx'.nextWriteFCB = ctx.nextWriteFCB)
    (htimer : ctx'.rspTimeoutTimer = ctx.rspTimeoutTimer) : PriWork ctx ctx' where
  handled := by
    refine .kept q hw ?_ fun frame hf => ?_
    · show ctx'.pPriState.isTransmitWait = ctx.pPriState.isTransmitWait
      rw [hpri]
    · have hf : ctx.PriQueued frame := hf
      show ctx'.PriQueued frame
      simpa only [PriQueued, hpri, hseg, hfcb, r.config] using hf
  rest := r
  sec := hsec
  ready := ⟨by rw [htimer, hpri, h.timer], by rw [hpri, hseg]; exact h.segments⟩

/-- The primary may do nothing. -/
theorem PriWork.refl {ctx : LinkContext α} (h : Ready ctx)
    (hw : ctx.transmitWait true = ctx.holds true) : PriWork ctx ctx :=
  .keep h hw (.refl ctx) ⟨rfl, rfl⟩ rfl rfl rfl rfl rfl

/-- A primary that goes to a state in which it does not transmit. -/
theorem PriWork.leave {ctx ctx' : LinkContext α} (free : ctx.holds true = false)
    (q : Quiet ctx ctx') (r : Rest ctx ctx') (hsec : ctx'.pSecState = ctx.pSecState)
    (hidle : ctx'.pPriState.isTransmitWait = false) (h : Ready ctx') : PriWork ctx ctx' :=
  ⟨.done q free hidle, r, hsec, h⟩

/-- A primary that queues a frame. -/
theorem PriWork.queue {ctx m : LinkContext α} (free : ctx.holds true = false) (q : Quiet ctx m)
    (r : Rest ctx m) (hsec : m.pSecState = ctx.pSecState) (frame : LinkLayerFrame α)
    (state : PriState) (hstate : state.isTransmitWait = true)
    (htimer : m.rspTimeoutTimer = false)
    (hseg : state.readsSegments = true → m.pSegments.isSome = true)
    (hq : ((m.queueTransmit frame true).priState state).PriQueued frame) :
    PriWork ctx ((m.queueTransmit frame true).priState state) where
  handled := by
    refine .queue frame free ?_ hstate hq
    -- The frame is queued at the transmitter as it was before the handler.
    have hfree : m.holds true = false := by rw [q.holds, free]
    by_cases hidle : ctx.txMode = .Idle
    · have hidle' : m.txMode = .Idle := q.txMode.trans hidle
      rw [queueTransmit_idle free hidle, queueTransmit_idle hfree hidle']
      refine ⟨rfl, q.pendingPriTx, q.pendingSecTx, ?_, ?_, q.overwrites⟩
      · show (LinkContext.emit _ (.BeginTransmit frame)).transmitted = _
        rw [transmitted_emit, transmitted_emit]
        show m.transmitted ++ [frame] = ctx.transmitted ++ [frame]
        rw [q.transmitted]
      · show m.formatted ++ [frame] = ctx.formatted ++ [frame]
        rw [q.formatted]
    · have hidle' : m.txMode ≠ .Idle := by rwa [q.txMode]
      rw [queueTransmit_busy free hidle, queueTransmit_busy hfree hidle']
      refine ⟨q.txMode, rfl, q.pendingSecTx, q.transmitted, ?_, q.overwrites⟩
      show m.formatted ++ [frame] = ctx.formatted ++ [frame]
      rw [q.formatted]
  rest := ⟨by simp [priState, r.config], by simp [priState, r.online]⟩
  sec := by simp [priState, hsec]
  ready := by
    refine ⟨?_, ?_⟩
    · show (m.queueTransmit frame true).rspTimeoutTimer = state.isResponseWait
      rw [queueTransmit_rspTimeoutTimer, htimer, isResponseWait_of_transmitWait hstate]
    · show _ → (m.queueTransmit frame true).pSegments.isSome = true
      rw [queueTransmit_pSegments]
      exact hseg

/-- A primary that tells its listener something at the end. -/
theorem PriWork.emit {ctx ctx' : LinkContext α} (h : PriWork ctx ctx') {output : LinkOutput α}
    (ho : output.transmitted = none) : PriWork ctx (ctx'.emit output) := by
  have hout : (ctx'.emit output).transmitted = ctx'.transmitted := by
    rw [transmitted_emit, ho]
    exact List.append_nil _
  have q : Quiet ctx' (ctx'.emit output) := ⟨rfl, rfl, rfl, hout, rfl, rfl⟩
  refine ⟨?_, ⟨h.rest.config, h.rest.online⟩, h.sec, ⟨h.ready.timer, h.ready.segments⟩⟩
  cases h.handled with
  | kept q' waits same queued => exact .kept (q'.trans q) waits same queued
  | done q' free idle => exact .done (q'.trans q) free idle
  | queue frame free q' wait queued => exact .queue frame free (q'.trans q) wait queued

section Queues

variable {ctx m : LinkContext α} (free : ctx.holds true = false) (q : Quiet ctx m) (r : Rest ctx m)
  (hsec : m.pSecState = ctx.pSecState) (htimer : m.rspTimeoutTimer = false)

include free q r hsec htimer

/-- The current segment is queued as confirmed user data. -/
theorem sendConfirmed_work {segments : TransportSegment α} (hseg : m.pSegments = some segments) :
    PriWork ctx (m.sendConfirmed segments) := by
  refine .queue free q r hsec _ .ConfUserDataTransmitWait rfl htimer (fun _ => by rw [hseg]; rfl) ?_
  exact ⟨segments, by simp [priState, hseg], by simp [priState]⟩

/-- The current segment is queued as unconfirmed user data. -/
theorem sendUnconfirmed_work {segments : TransportSegment α} (hseg : m.pSegments = some segments) :
    PriWork ctx (m.sendUnconfirmed segments) := by
  refine .queue free q r hsec _ .SendUnconfirmedTransmitWait rfl htimer
    (fun _ => by rw [hseg]; rfl) ?_
  exact ⟨segments, by simp [priState, hseg], by simp [priState]⟩

/-- A reset of the link is queued for a message in progress. -/
theorem queueResetLinks_work (hseg : m.pSegments.isSome = true) (destination : UInt16) :
    PriWork ctx ((m.queueResetLinks destination).priState .LinkResetTransmitWait) := by
  refine .queue free q r hsec _ .LinkResetTransmitWait rfl htimer (fun _ => hseg) ?_
  exact ⟨destination, by simp [priState]⟩

end Queues

/-- The upper layer is told something other than a transmission. -/
theorem Quiet.emit {ctx ctx' : LinkContext α} (h : Quiet ctx ctx') {output : LinkOutput α}
    (ho : output.transmitted = none) : Quiet ctx (ctx'.emit output) := by
  refine h.trans ⟨rfl, rfl, rfl, ?_, rfl, rfl⟩
  rw [transmitted_emit, ho]
  exact List.append_nil _

/-- The end of a message. -/
theorem complete_work {ctx m : LinkContext α} (free : ctx.holds true = false) (q : Quiet ctx m)
    (r : Rest ctx m) (hsec : m.pSecState = ctx.pSecState) (htimer : m.rspTimeoutTimer = false) :
    PriWork ctx (m.completeSendOperation.priState .Idle) := by
  have q' : Quiet ctx { m with pSegments := none } := q.trans ⟨rfl, rfl, rfl, rfl, rfl, rfl⟩
  have q'' : Quiet ctx m.completeSendOperation := q'.emit rfl
  exact .leave free ⟨q''.txMode, q''.pendingPriTx, q''.pendingSecTx, q''.transmitted, q''.formatted,
    q''.overwrites⟩ ⟨r.config, r.online⟩ hsec rfl ⟨htimer, nofun⟩

/-- The failure of a message. -/
theorem failure_work {ctx m : LinkContext α} (free : ctx.holds true = false) (q : Quiet ctx m)
    (r : Rest ctx m) (hsec : m.pSecState = ctx.pSecState) : PriWork ctx m.failure :=
  complete_work free (q.trans ⟨rfl, rfl, rfl, rfl, rfl, rfl⟩) ⟨r.config, r.online⟩ hsec rfl

/-- The current segment is done: the next one goes out, or the message is complete. -/
theorem advance_work {ctx m : LinkContext α} (free : ctx.holds true = false) (q : Quiet ctx m)
    (r : Rest ctx m) (hsec : m.pSecState = ctx.pSecState) (htimer : m.rspTimeoutTimer = false)
    (hseg : m.pSegments.isSome = true)
    {more : LinkContext α → TransportSegment α → LinkContext α}
    (hmore : ∀ (m' : LinkContext α) (segments : TransportSegment α), Quiet ctx m' → Rest ctx m' →
      m'.pSecState = ctx.pSecState → m'.rspTimeoutTimer = false → m'.pSegments = some segments →
      PriWork ctx (more m' segments)) :
    PriWork ctx (m.advance more) := by
  obtain ⟨⟨addresses, current, rest⟩, hs⟩ := Option.isSome_iff_exists.1 hseg
  have q' : Quiet ctx (m.emit (.Advance current)) := q.emit rfl
  unfold advance
  simp only [hs]
  cases rest with
  | nil => exact complete_work free q' ⟨r.config, r.online⟩ hsec htimer
  | cons next rest =>
    have q'' : Quiet ctx { m.emit (.Advance current) with
        pSegments := some ⟨addresses, next, rest⟩ } := q'.trans ⟨rfl, rfl, rfl, rfl, rfl, rfl⟩
    exact hmore _ _ q'' ⟨r.config, r.online⟩ hsec htimer rfl

section Handlers

variable {ctx : LinkContext α} (h : Ready ctx)

/-- What a primary without a transmission has to know of its state. -/
theorem free_of_state (hw : ctx.transmitWait true = ctx.holds true) {state : PriState}
    (hs : ctx.pPriState = state) (hstate : state.isTransmitWait = false) :
    ctx.holds true = false := by
  rw [← hw]
  show ctx.pPriState.isTransmitWait = false
  rw [hs, hstate]

include h

/-- A state that uses the message in progress has one. -/
theorem Ready.exists_segments {state : PriState} (hs : ctx.pPriState = state)
    (hstate : state.readsSegments = true) : ∃ segments, ctx.pSegments = some segments :=
  Option.isSome_iff_exists.1 (h.segments (by rw [hs, hstate]))

/-- The response timer does not run outside the states that wait for a response. -/
theorem Ready.timer_of_state {state : PriState} (hs : ctx.pPriState = state) :
    ctx.rspTimeoutTimer = state.isResponseWait := by rw [h.timer, hs]

variable (hw : ctx.transmitWait true = ctx.holds true)

include hw

/-- A frame that the state of the primary does not expect. -/
theorem unexpected_work : PriWork ctx ctx.unexpectedFrame :=
  .keep h hw ⟨rfl, rfl, rfl, rfl, rfl, rfl⟩ ⟨rfl, rfl⟩ rfl rfl rfl rfl rfl

/-- An acknowledgement is work of the primary alone. -/
theorem onAck_work (full : Bool) : PriWork ctx (ctx.onAck full) := by
  unfold onAck
  split
  case h_1 hs =>
    -- The link is reset, and the segment that waited for it goes out.
    have free := free_of_state hw hs rfl
    obtain ⟨segments, hseg⟩ := h.exists_segments hs rfl
    simp only [cancelTimer, hseg]
    refine PriWork.emit (sendConfirmed_work free ?_ ?_ ?_ ?_ ?_) ?_
    · exact ⟨rfl, rfl, rfl, rfl, rfl, rfl⟩
    · exact ⟨rfl, rfl⟩
    all_goals rfl
  case h_2 hs =>
    have free := free_of_state hw hs rfl
    have hseg := h.segments (by rw [hs]; rfl)
    refine advance_work free ?_ ?_ ?_ ?_ ?_
      fun m' segments q r hsec htimer hseg => sendConfirmed_work free q r hsec htimer hseg
    · exact ⟨rfl, rfl, rfl, rfl, rfl, rfl⟩
    · exact ⟨rfl, rfl⟩
    · rfl
    · rfl
    · exact hseg
  case h_3 => exact unexpected_work h hw

/-- A negative acknowledgement is work of the primary alone. -/
theorem onNack_work (full : Bool) : PriWork ctx (ctx.onNack full) := by
  unfold onNack
  split
  case h_1 hs => exact failure_work (free_of_state hw hs rfl) (.refl ctx) ⟨rfl, rfl⟩ rfl
  case h_2 hs =>
    have free := free_of_state hw hs rfl
    have q : Quiet ctx (ctx.emit (.OnStateChange .UNRESET)) := (Quiet.refl ctx).emit rfl
    have q' : Quiet ctx (ctx.emit (.OnStateChange .UNRESET)).resetRetry.cancelTimer :=
      q.trans ⟨rfl, rfl, rfl, rfl, rfl, rfl⟩
    obtain ⟨segments, hseg⟩ := h.exists_segments hs rfl
    have hseg' : (ctx.emit (.OnStateChange .UNRESET)).pSegments = some segments := hseg
    cases full with
    | true => exact failure_work free q ⟨rfl, rfl⟩ rfl
    | false =>
      simp only [Bool.false_eq_true, if_false, hseg']
      exact queueResetLinks_work free q' ⟨rfl, rfl⟩ rfl rfl (Option.isSome_of_eq_some hseg) _
  case h_3 hs =>
    refine .leave (free_of_state hw hs rfl) ?_ ⟨rfl, rfl⟩ rfl rfl ⟨rfl, nofun⟩
    exact ⟨rfl, rfl, rfl, rfl, rfl, rfl⟩
  case h_4 => exact unexpected_work h hw

/-- The status of the link is work of the primary alone. -/
theorem onLinkStatus_work (full : Bool) : PriWork ctx (ctx.onLinkStatus full) := by
  unfold onLinkStatus
  split
  case h_1 hs => exact failure_work (free_of_state hw hs rfl) (.refl ctx) ⟨rfl, rfl⟩ rfl
  case h_2 hs => exact failure_work (free_of_state hw hs rfl) (.refl ctx) ⟨rfl, rfl⟩ rfl
  case h_3 hs =>
    have q : Quiet ctx ctx.cancelTimer := ⟨rfl, rfl, rfl, rfl, rfl, rfl⟩
    have q' : Quiet ctx (ctx.cancelTimer.emit .OnKeepAliveSuccess) := q.emit rfl
    refine .leave (free_of_state hw hs rfl) (q'.trans ?_) ⟨rfl, rfl⟩ rfl rfl ⟨rfl, nofun⟩
    exact ⟨rfl, rfl, rfl, rfl, rfl, rfl⟩
  case h_4 => exact unexpected_work h hw

/-- A function that is not supported is work of the primary alone. -/
theorem onNotSupported_work (full : Bool) : PriWork ctx (ctx.onNotSupported full) := by
  unfold onNotSupported
  split
  case h_1 hs => exact failure_work (free_of_state hw hs rfl) (.refl ctx) ⟨rfl, rfl⟩ rfl
  case h_2 hs => exact failure_work (free_of_state hw hs rfl) (.refl ctx) ⟨rfl, rfl⟩ rfl
  case h_3 hs =>
    refine .leave (free_of_state hw hs rfl) ?_ ⟨rfl, rfl⟩ rfl rfl ⟨rfl, nofun⟩
    exact ⟨rfl, rfl, rfl, rfl, rfl, rfl⟩
  case h_4 => exact unexpected_work h hw

/-- The response timer has fired, so it no longer runs. -/
theorem onTimeout_work (htimer : ctx.rspTimeoutTimer = true) :
    PriWork ctx ctx.cancelTimer.onTimeout := by
  have q : Quiet ctx ctx.cancelTimer := ⟨rfl, rfl, rfl, rfl, rfl, rfl⟩
  have hwait : ctx.pPriState.isResponseWait = true := by rw [← h.timer, htimer]
  unfold onTimeout
  split
  case h_1 hs =>
    have free := free_of_state hw hs rfl
    split_ifs
    · have hs : ctx.pPriState = .ResetLinkWait := hs
      have hseg := h.segments (by rw [hs]; rfl)
      refine queueResetLinks_work free ?_ ?_ ?_ ?_ ?_ _
      · exact ⟨rfl, rfl, rfl, rfl, rfl, rfl⟩
      · exact ⟨rfl, rfl⟩
      · rfl
      · rfl
      · exact hseg
    · exact complete_work free q ⟨rfl, rfl⟩ rfl rfl
  case h_2 hs =>
    have free := free_of_state hw hs rfl
    obtain ⟨segments, hseg⟩ := h.exists_segments hs rfl
    have hseg' : ctx.cancelTimer.pSegments = some segments := hseg
    split_ifs
    · simp only [hseg']
      refine sendConfirmed_work free ?_ ?_ ?_ ?_ ?_
      · exact ⟨rfl, rfl, rfl, rfl, rfl, rfl⟩
      · exact ⟨rfl, rfl⟩
      all_goals rfl
    · exact complete_work free (q.emit rfl) ⟨rfl, rfl⟩ rfl rfl
  case h_3 hs =>
    have q' : Quiet ctx (ctx.cancelTimer.emit .OnKeepAliveFailure) := q.emit rfl
    refine .leave (free_of_state hw hs rfl) (q'.trans ?_) ⟨rfl, rfl⟩ rfl rfl ⟨rfl, nofun⟩
    exact ⟨rfl, rfl, rfl, rfl, rfl, rfl⟩
  case h_4 h1 h2 h3 =>
    -- No other state waits for a response.
    have h1 : ctx.pPriState ≠ .ResetLinkWait := h1
    have h2 : ctx.pPriState ≠ .ConfDataWait := h2
    have h3 : ctx.pPriState ≠ .RequestLinkStatusWait := h3
    cases hs : ctx.pPriState <;> simp_all [PriState.isResponseWait]

/-- A request for the status of the link is queued by an idle primary. -/
theorem trySendRequestLinkStatus_work : PriWork ctx ctx.trySendRequestLinkStatus := by
  unfold trySendRequestLinkStatus
  split
  case h_1 hs =>
    have hq : PriWork ctx (({ ctx with keepAliveTimeout := false }.queueRequestLinkStatus
        ctx.config.RemoteAddr).priState .RequestLinkStatusTransmitWait) := by
      refine .queue (free_of_state hw hs rfl) ?_ ?_ ?_ _ .RequestLinkStatusTransmitWait rfl ?_ ?_ ?_
      · exact ⟨rfl, rfl, rfl, rfl, rfl, rfl⟩
      · exact ⟨rfl, rfl⟩
      · rfl
      · exact h.timer_of_state hs
      · exact nofun
      · simp [PriQueued, priState]
    exact hq.emit rfl
  case h_2 => exact .refl h hw

/-- A confirmed message is started by an idle primary. -/
theorem trySendConfirmed_work {segments : TransportSegment α}
    (hseg : ctx.pSegments = some segments) : PriWork ctx (ctx.trySendConfirmed segments) := by
  unfold trySendConfirmed
  split
  case h_1 hs =>
    have free := free_of_state hw hs rfl
    have htimer : ctx.rspTimeoutTimer = false := h.timer_of_state hs
    have q : Quiet ctx ctx.resetRetry := ⟨rfl, rfl, rfl, rfl, rfl, rfl⟩
    split_ifs
    · exact sendConfirmed_work free q ⟨rfl, rfl⟩ rfl htimer hseg
    · exact queueResetLinks_work free q ⟨rfl, rfl⟩ rfl htimer (Option.isSome_of_eq_some hseg) _
  case h_2 => exact .refl h hw

/-- An unconfirmed message is started by an idle primary. -/
theorem trySendUnconfirmed_work {segments : TransportSegment α}
    (hseg : ctx.pSegments = some segments) : PriWork ctx (ctx.trySendUnconfirmed segments) := by
  unfold trySendUnconfirmed
  split
  case h_1 hs =>
    exact sendUnconfirmed_work (free_of_state hw hs rfl) (.refl ctx) ⟨rfl, rfl⟩ rfl
      (h.timer_of_state hs) hseg
  case h_2 => exact .refl h hw

end Handlers

/-- The end of the primary's own transmission. -/
theorem priOnTxReady_work {ctx : LinkContext α} (h : Ready ctx) (free : ctx.holds true = false)
    (hwait : ctx.pPriState.isTransmitWait = true) : PriWork ctx ctx.priOnTxReady := by
  have htimer : ctx.rspTimeoutTimer = false := by
    rw [h.timer, isResponseWait_of_transmitWait hwait]
  unfold priOnTxReady
  split
  case h_1 hs =>
    exact advance_work free (.refl ctx) ⟨rfl, rfl⟩ rfl htimer (h.segments (by rw [hs]; rfl))
      fun m' segments q r hsec htimer hseg => sendUnconfirmed_work free q r hsec htimer hseg
  case h_2 hs =>
    exact .leave free ⟨rfl, rfl, rfl, rfl, rfl, rfl⟩ ⟨rfl, rfl⟩ rfl rfl
      ⟨rfl, fun _ => h.segments (by rw [hs]; rfl)⟩
  case h_3 hs =>
    exact .leave free ⟨rfl, rfl, rfl, rfl, rfl, rfl⟩ ⟨rfl, rfl⟩ rfl rfl
      ⟨rfl, fun _ => h.segments (by rw [hs]; rfl)⟩
  case h_4 hs =>
    exact .leave free ⟨rfl, rfl, rfl, rfl, rfl, rfl⟩ ⟨rfl, rfl⟩ rfl rfl ⟨rfl, nofun⟩
  case h_5 h1 h2 h3 h4 =>
    cases hs : ctx.pPriState <;> simp_all [PriState.isTransmitWait]

/-! ## The handlers of the secondary station -/

/-- What a handler of the secondary does. -/
structure SecWork (ctx ctx' : LinkContext α) : Prop where
  handled : Handled false ctx ctx'
  rest : Rest ctx ctx'
  pri : ctx'.pPriState = ctx.pPriState
  segments : ctx'.pSegments = ctx.pSegments
  fcb : ctx'.nextWriteFCB = ctx.nextWriteFCB
  timer : ctx'.rspTimeoutTimer = ctx.rspTimeoutTimer

/-- What the secondary does leaves the primary alone. -/
theorem SecWork.apart {ctx ctx' : LinkContext α} (h : SecWork ctx ctx') :
    Apart false ctx ctx' where
  same := by
    show ctx'.pPriState.isTransmitWait = ctx.pPriState.isTransmitWait
    rw [h.pri]
  queued := fun frame hf => by
    show ctx'.PriQueued frame
    have hf : ctx.PriQueued frame := hf
    simpa only [PriQueued, h.pri, h.segments, h.fcb, h.rest.config] using hf

/-- The response timer belongs to the primary. -/
theorem SecWork.ready {ctx ctx' : LinkContext α} (h : SecWork ctx ctx') (hr : Ready ctx) :
    Ready ctx' :=
  ⟨by rw [h.timer, h.pri, hr.timer], by rw [h.pri, h.segments]; exact hr.segments⟩

/-- A secondary that only counts or tells something. -/
theorem SecWork.keep {ctx ctx' : LinkContext α} (hw : ctx.transmitWait false = ctx.holds false)
    (q : Quiet ctx ctx') (r : Rest ctx ctx') (hsec : ctx'.pSecState = ctx.pSecState)
    (hpri : ctx'.pPriState = ctx.pPriState) (hseg : ctx'.pSegments = ctx.pSegments)
    (hfcb : ctx'.nextWriteFCB = ctx.nextWriteFCB)
    (htimer : ctx'.rspTimeoutTimer = ctx.rspTimeoutTimer) : SecWork ctx ctx' where
  handled := by
    refine .kept q hw ?_ fun frame hf => ?_
    · show ctx'.pSecState.isTransmitWait = ctx.pSecState.isTransmitWait
      rw [hsec]
    · have hf : ctx.SecQueued frame := hf
      show ctx'.SecQueued frame
      simpa only [SecQueued, hsec, r.config] using hf
  rest := r
  pri := hpri
  segments := hseg
  fcb := hfcb
  timer := htimer

/-- The secondary may do nothing. -/
theorem SecWork.refl {ctx : LinkContext α} (hw : ctx.transmitWait false = ctx.holds false) :
    SecWork ctx ctx :=
  .keep hw (.refl ctx) ⟨rfl, rfl⟩ rfl rfl rfl rfl rfl

/-- A secondary that queues a response. What it notes besides does not concern the transmitter. -/
theorem SecWork.queue {ctx ctx' : LinkContext α} (free : ctx.holds false = false)
    (frame : LinkLayerFrame α) (q : Quiet (ctx.queueTransmit frame false) ctx')
    (r : Rest ctx ctx') (hwait : ctx'.pSecState.isTransmitWait = true)
    (hq : ctx'.SecQueued frame) (hpri : ctx'.pPriState = ctx.pPriState)
    (hseg : ctx'.pSegments = ctx.pSegments) (hfcb : ctx'.nextWriteFCB = ctx.nextWriteFCB)
    (htimer : ctx'.rspTimeoutTimer = ctx.rspTimeoutTimer) : SecWork ctx ctx' :=
  ⟨.queue frame free q hwait hq, r, hpri, hseg, hfcb, htimer⟩

section SecHandlers

variable {ctx : LinkContext α}

/-- What a secondary without a transmission has to know of its state. -/
theorem free_of_secState (hw : ctx.transmitWait false = ctx.holds false) {state : SecState}
    (hs : ctx.pSecState = state) (hstate : state.isTransmitWait = false) :
    ctx.holds false = false := by
  rw [← hw]
  show ctx.pSecState.isTransmitWait = false
  rw [hs, hstate]

/-- An acknowledgement is queued. -/
theorem queueAck_work (source : UInt16) (free : ctx.holds false = false) (fcb : Bool) :
    SecWork ctx ({ ctx.queueAck source with nextReadFCB := fcb }.secState .TransmitWaitReset) := by
  refine .queue free (ctx.config.headerFrame .SEC_ACK source) ⟨rfl, rfl, rfl, rfl, rfl, rfl⟩
    ⟨?_, ?_⟩ rfl ?_ ?_ ?_ ?_ ?_
  case refine_3 => exact ⟨source, .inl (by simp [queueAck, secState])⟩
  all_goals simp [queueAck, secState]

/-- A link status is queued. -/
theorem queueLinkStatus_work (source : UInt16) (free : ctx.holds false = false) {state : SecState}
    (hstate : state.isTransmitWait = true) :
    SecWork ctx ((ctx.queueLinkStatus source).secState state) := by
  refine .queue free (ctx.config.headerFrame .SEC_LINK_STATUS source) ⟨rfl, rfl, rfl, rfl, rfl, rfl⟩
    ⟨?_, ?_⟩ hstate ?_ ?_ ?_ ?_ ?_
  case refine_3 =>
    cases state
    case TransmitWaitReset => exact ⟨source, .inr (by simp [queueLinkStatus, secState])⟩
    case TransmitWaitNotReset => exact ⟨source, by simp [queueLinkStatus, secState]⟩
    all_goals simp [SecState.isTransmitWait] at hstate
  all_goals simp [queueLinkStatus, secState]

variable (hw : ctx.transmitWait false = ctx.holds false) (source : UInt16)

include hw

/-- A frame that the state of the secondary does not expect. -/
theorem unexpected_secWork : SecWork ctx ctx.unexpectedFrame :=
  .keep hw ⟨rfl, rfl, rfl, rfl, rfl, rfl⟩ ⟨rfl, rfl⟩ rfl rfl rfl rfl rfl

/-- The secondary queues one acknowledgement of a reset. -/
theorem onResetLinkStates_work : SecWork ctx (ctx.onResetLinkStates source) := by
  unfold onResetLinkStates
  split
  case h_1 hs => exact queueAck_work source (free_of_secState hw hs rfl) true
  case h_2 hs => exact queueAck_work source (free_of_secState hw hs rfl) true
  case h_3 => exact .refl hw

/-- The secondary queues one response to a request for the status. -/
theorem onRequestLinkStatus_work : SecWork ctx (ctx.onRequestLinkStatus source) := by
  unfold onRequestLinkStatus
  split
  case h_1 hs => exact queueLinkStatus_work source (free_of_secState hw hs rfl) rfl
  case h_2 hs => exact queueLinkStatus_work source (free_of_secState hw hs rfl) rfl
  case h_3 => exact .refl hw

/-- The secondary queues one response to a test of the link. -/
theorem onTestLinkStatus_work (fcb : Bool) : SecWork ctx (ctx.onTestLinkStatus source fcb) := by
  unfold onTestLinkStatus
  split
  case h_1 => exact unexpected_secWork hw
  case h_2 hs =>
    split_ifs
    · exact queueAck_work source (free_of_secState hw hs rfl) _
    · exact .refl hw
  case h_3 => exact .refl hw

end SecHandlers

/-- The end of the secondary's own transmission. -/
theorem secOnTxReady_work {ctx : LinkContext α} (free : ctx.holds false = false)
    (hwait : ctx.pSecState.isTransmitWait = true) : SecWork ctx ctx.secOnTxReady := by
  unfold secOnTxReady
  split
  case h_1 hs =>
    exact ⟨.done ⟨rfl, rfl, rfl, rfl, rfl, rfl⟩ free rfl, ⟨rfl, rfl⟩, rfl, rfl, rfl, rfl⟩
  case h_2 hs =>
    exact ⟨.done ⟨rfl, rfl, rfl, rfl, rfl, rfl⟩ free rfl, ⟨rfl, rfl⟩, rfl, rfl, rfl, rfl⟩
  case h_3 h1 h2 => cases hs : ctx.pSecState <;> simp_all [SecState.isTransmitWait]

end LinkContext

end OpenDnp3.Link
