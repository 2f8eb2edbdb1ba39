import OpenDnp3.Link.StationWork

/-!
# The transmitter after an event

Between two events each station waits for the end of a transmission exactly while a frame of it is
at the transmitter. An event keeps the transmitter so, with what it carries for the stations, and
leaves the buffer of the frame in flight alone.
-/

namespace OpenDnp3.Link

namespace LinkContext

variable {α : Type*}

/-! ## Settled transmitters -/

/-- The transmitter is in order after some code, and still has what it had for the stations. The
buffer of the frame in flight is left alone. -/
structure Keeps (base : List (LinkLayerFrame α)) (ctx ctx' : LinkContext α) : Prop where
  settled : Settled base ctx'
  carries : ∀ primary frame, ctx.Carries base primary frame → ctx'.Carries base primary frame
  online : ctx'.isOnline = ctx.isOnline
  spares : Spares base ctx ctx'

/-- A transmitter in order is kept as it is. -/
theorem Settled.keeps {base : List (LinkLayerFrame α)} {ctx : LinkContext α}
    (h : Settled base ctx) : Keeps base ctx ctx := ⟨h, fun _ _ => id, rfl, .refl base ctx⟩

/-- Two parts of some code. -/
theorem Keeps.trans {base : List (LinkLayerFrame α)} {ctx ctx' ctx'' : LinkContext α}
    (h : Keeps base ctx ctx') (h' : Keeps base ctx' ctx'') : Keeps base ctx ctx'' :=
  ⟨h'.settled, fun primary frame hc => h'.carries _ _ (h.carries primary frame hc),
    h'.online.trans h.online, h.spares.trans h'.spares⟩

/-- A handler of the primary keeps the transmitter in order. -/
theorem PriWork.keeps {base : List (LinkLayerFrame α)} {ctx ctx' : LinkContext α}
    (h : PriWork ctx ctx') (hl : Lanes base ctx)
    (hw : ctx.transmitWait false = ctx.holds false) : Keeps base ctx ctx' := by
  obtain ⟨hlanes, hwaits, hcarries, hspares⟩ := hl.of_handled h.handled h.apart hw
  exact ⟨⟨hlanes, hwaits, h.ready⟩, hcarries, h.rest.online, hspares⟩

/-- A handler of the secondary keeps the transmitter in order. -/
theorem SecWork.keeps {base : List (LinkLayerFrame α)} {ctx ctx' : LinkContext α}
    (h : SecWork ctx ctx') (hl : Lanes base ctx) (hr : Ready ctx)
    (hw : ctx.transmitWait true = ctx.holds true) : Keeps base ctx ctx' := by
  obtain ⟨hlanes, hwaits, hcarries, hspares⟩ := hl.of_handled h.handled h.apart hw
  exact ⟨⟨hlanes, hwaits, h.ready hr⟩, hcarries, h.rest.online, hspares⟩

/-- The primary is not left idle with a message. -/
def Started (ctx : LinkContext α) : Prop :=
  ctx.pSegments.isSome = true → ctx.pPriState ≠ .Idle

/-- A started primary has left the idle state, or has nothing to send. -/
theorem tryStartTransmission_keeps {base : List (LinkLayerFrame α)} {ctx : LinkContext α}
    (h : Settled base ctx) :
    Keeps base ctx ctx.tryStartTransmission ∧ Started ctx.tryStartTransmission := by
  unfold tryStartTransmission
  -- A keep-alive goes first.
  generalize hm : (if ctx.keepAliveTimeout then ctx.trySendRequestLinkStatus else ctx) = m
  have hkeep : Keeps base ctx m := by
    rw [← hm]
    split_ifs
    · exact (trySendRequestLinkStatus_work h.ready (h.waits true)).keeps h.lanes (h.waits false)
    · exact h.keeps
  have h' := hkeep.settled
  dsimp only
  cases hseg : m.pSegments with
  | none => exact ⟨hkeep, fun hs => by simp [hseg] at hs⟩
  | some segments =>
    show Keeps base ctx (if m.config.UseConfirms then _ else _) ∧
      Started (if m.config.UseConfirms then _ else _)
    split_ifs
    · refine ⟨hkeep.trans ((trySendConfirmed_work h'.ready (h'.waits true) hseg).keeps h'.lanes
        (h'.waits false)), fun _ => ?_⟩
      unfold trySendConfirmed
      split
      case h_1 => split_ifs <;> simp [sendConfirmed, priState]
      case h_2 hne => exact hne
    · refine ⟨hkeep.trans ((trySendUnconfirmed_work h'.ready (h'.waits true) hseg).keeps h'.lanes
        (h'.waits false)), fun _ => ?_⟩
      unfold trySendUnconfirmed
      split
      case h_1 => simp [sendUnconfirmed, priState]
      case h_2 hne => exact hne

/-- A message given to a primary without one does not change what the primary has queued. -/
theorem Settled.setSegments {base : List (LinkLayerFrame α)} {ctx : LinkContext α}
    (h : Settled base ctx) (hfree : ctx.pSegments.isNone = true)
    (segments : TransportSegment α) : Keeps base ctx { ctx with pSegments := some segments } := by
  have hnone : ctx.pSegments = none := Option.isNone_iff_eq_none.1 hfree
  have hset : PriWork ctx { ctx with pSegments := some segments } := by
    refine ⟨.kept ⟨rfl, rfl, rfl, rfl, rfl, rfl⟩ (h.waits true) rfl fun frame hf => ?_,
      ⟨rfl, rfl⟩, rfl,
      h.ready.timer, fun _ => rfl⟩
    have hf : ctx.PriQueued frame := hf
    show PriQueued { ctx with pSegments := some segments } frame
    unfold PriQueued at hf ⊢
    cases hp : ctx.pPriState <;> simp_all
  exact hset.keeps h.lanes (h.waits false)

/-- `Send` takes a message only when none is in progress. -/
theorem send_keeps {base : List (LinkLayerFrame α)} {ctx : LinkContext α} (h : Settled base ctx)
    (hs : Started ctx) (segments : TransportSegment α) :
    Keeps base ctx (ctx.send segments) ∧ Started (ctx.send segments) := by
  unfold send
  split_ifs with hfree
  swap
  · exact ⟨h.keeps, hs⟩
  have hkeep := h.setSegments hfree.2 segments
  obtain ⟨hstart, hstarted⟩ := tryStartTransmission_keeps hkeep.settled
  exact ⟨hkeep.trans hstart, hstarted⟩

/-- The messages that the upper layer sends leave the transmitter in order. -/
theorem sendAll_keeps {base : List (LinkLayerFrame α)} {ctx : LinkContext α} (h : Settled base ctx)
    (hs : Started ctx) (replies : List (TransportSegment α)) :
    Keeps base ctx (ctx.sendAll replies) ∧ Started (ctx.sendAll replies) := by
  unfold sendAll
  induction replies generalizing ctx with
  | nil => exact ⟨h.keeps, hs⟩
  | cons segments replies ih =>
    obtain ⟨hkeep, hstarted⟩ := send_keeps h hs segments
    obtain ⟨hrest, hrested⟩ := ih hkeep.settled hstarted
    exact ⟨hkeep.trans hrest, hrested⟩

/-- The upper layer is told something, and sends. -/
theorem tell_keeps {base : List (LinkLayerFrame α)} {ctx : LinkContext α} (h : Settled base ctx)
    (hs : Started ctx) {output : LinkOutput α} (ho : output.transmitted = none)
    (replies : List (TransportSegment α)) :
    Keeps base ctx ((ctx.emit output).sendAll replies) ∧
      Started ((ctx.emit output).sendAll replies) := by
  have hwork : PriWork ctx (ctx.emit output) :=
    .keep h.ready (h.waits true) ((Quiet.refl ctx).emit ho) ⟨rfl, rfl⟩ rfl rfl rfl rfl rfl
  have hkeep := hwork.keeps h.lanes (h.waits false)
  obtain ⟨hsend, hsent⟩ := sendAll_keeps hkeep.settled hs replies
  exact ⟨hkeep.trans hsend, hsent⟩

/-! ## The state of the secondary does not concern `Send` -/

section SecState

variable (ctx : LinkContext α) (state : SecState)

/-- To queue a frame does not look at the state of the secondary. -/
theorem queueTransmit_secState (frame : LinkLayerFrame α) (primary : Bool) :
    (ctx.secState state).queueTransmit frame primary =
      (ctx.queueTransmit frame primary).secState state := by
  have hformat : (ctx.secState state).format frame primary =
      (ctx.format frame primary).secState state := by
    unfold format
    rw [apply_ite (fun c : LinkContext α => c.secState state)]
    rfl
  unfold queueTransmit
  rw [hformat]
  generalize ctx.format frame primary = m
  by_cases hidle : m.txMode = .Idle
  · have hidle' : (m.secState state).txMode = .Idle := hidle
    simp only [hidle, hidle', if_true]
    rfl
  · have hidle' : (m.secState state).txMode ≠ .Idle := hidle
    simp only [hidle, hidle', if_false]
    cases primary <;> rfl

/-- To ask for the status of the link does not look at it either. -/
theorem trySendRequestLinkStatus_secState :
    (ctx.secState state).trySendRequestLinkStatus =
      ctx.trySendRequestLinkStatus.secState state := by
  have hq := queueTransmit_secState { ctx with keepAliveTimeout := false } state
    (ctx.config.headerFrame .PRI_REQUEST_LINK_STATUS ctx.config.RemoteAddr) true
  have hif (c : LinkContext α) : c.trySendRequestLinkStatus = if c.pPriState = .Idle then
      (({ c with keepAliveTimeout := false }.queueRequestLinkStatus c.config.RemoteAddr).emit
        .OnKeepAliveInitiated).priState .RequestLinkStatusTransmitWait else c := by
    unfold trySendRequestLinkStatus
    split <;> simp_all
  rw [hif, hif, apply_ite (fun c : LinkContext α => c.secState state)]
  exact if_congr Iff.rfl (congrArg (fun c : LinkContext α =>
    (c.emit .OnKeepAliveInitiated).priState .RequestLinkStatusTransmitWait) hq) rfl

/-- Nor does the start of a confirmed message. -/
theorem trySendConfirmed_secState (segments : TransportSegment α) :
    (ctx.secState state).trySendConfirmed segments =
      (ctx.trySendConfirmed segments).secState state := by
  have hq := queueTransmit_secState ctx.resetRetry state
    (ctx.config.formatPrimaryBufferWithConfirmed segments.addresses segments.current
      ctx.nextWriteFCB) true
  have hq' := queueTransmit_secState ctx.resetRetry state
    (ctx.config.headerFrame .PRI_RESET_LINK_STATES segments.addresses.destination) true
  have hif (c : LinkContext α) : c.trySendConfirmed segments = if c.pPriState = .Idle then
      (if c.isRemoteReset then c.resetRetry.sendConfirmed segments
        else (c.resetRetry.queueResetLinks segments.addresses.destination).priState
          .LinkResetTransmitWait) else c := by
    unfold trySendConfirmed
    split <;> simp_all
  rw [hif, hif, apply_ite (fun c : LinkContext α => c.secState state),
    apply_ite (fun c : LinkContext α => c.secState state)]
  exact if_congr Iff.rfl (if_congr Iff.rfl
    (congrArg (fun c : LinkContext α => c.priState .ConfUserDataTransmitWait) hq)
    (congrArg (fun c : LinkContext α => c.priState .LinkResetTransmitWait) hq')) rfl

/-- Nor does the start of an unconfirmed one. -/
theorem trySendUnconfirmed_secState (segments : TransportSegment α) :
    (ctx.secState state).trySendUnconfirmed segments =
      (ctx.trySendUnconfirmed segments).secState state := by
  have hq := queueTransmit_secState ctx state
    (ctx.config.formatPrimaryBufferWithUnconfirmed segments.addresses segments.current) true
  have hif (c : LinkContext α) : c.trySendUnconfirmed segments =
      if c.pPriState = .Idle then c.sendUnconfirmed segments else c := by
    unfold trySendUnconfirmed
    split <;> simp_all
  rw [hif, hif, apply_ite (fun c : LinkContext α => c.secState state)]
  exact if_congr Iff.rfl
    (congrArg (fun c : LinkContext α => c.priState .SendUnconfirmedTransmitWait) hq) rfl

/-- Nor does the start of a transmission. -/
theorem tryStartTransmission_secState :
    (ctx.secState state).tryStartTransmission = ctx.tryStartTransmission.secState state := by
  unfold tryStartTransmission
  have hm : (if (ctx.secState state).keepAliveTimeout then
        (ctx.secState state).trySendRequestLinkStatus else ctx.secState state) =
      (if ctx.keepAliveTimeout then ctx.trySendRequestLinkStatus else ctx).secState state := by
    rw [trySendRequestLinkStatus_secState, apply_ite (fun c : LinkContext α => c.secState state)]
    rfl
  rw [hm]
  generalize (if ctx.keepAliveTimeout then ctx.trySendRequestLinkStatus else ctx) = m
  have hseg : (m.secState state).pSegments = m.pSegments := rfl
  simp only [hseg]
  cases m.pSegments with
  | none => rfl
  | some segments =>
    simp only [trySendConfirmed_secState, trySendUnconfirmed_secState]
    rw [apply_ite (fun c : LinkContext α => c.secState state)]
    rfl

/-- Nor do the messages that the upper layer sends. -/
theorem sendAll_secState (replies : List (TransportSegment α)) :
    (ctx.secState state).sendAll replies = (ctx.sendAll replies).secState state := by
  unfold sendAll
  induction replies generalizing ctx with
  | nil => rfl
  | cons segments replies ih =>
    have hsend : (ctx.secState state).send segments = (ctx.send segments).secState state := by
      unfold send
      show (if ctx.isOnline ∧ ctx.pSegments.isNone then _ else _) = _
      rw [apply_ite (fun c : LinkContext α => c.secState state)]
      exact if_congr Iff.rfl
        (tryStartTransmission_secState { ctx with pSegments := some segments } state) rfl
    rw [List.foldl_cons, List.foldl_cons, hsend]
    exact ih _

end SecState

/-! ## The events -/

section Events

variable {base : List (LinkLayerFrame α)} {ctx : LinkContext α}

/-- A handler of the primary, in a settled layer. -/
theorem Settled.pri (h : Settled base ctx) {ctx' : LinkContext α} (hw : PriWork ctx ctx') :
    Keeps base ctx ctx' := hw.keeps h.lanes (h.waits false)

/-- A handler of the secondary, in a settled layer, leaves the primary started. -/
theorem Settled.sec (h : Settled base ctx) {ctx' : LinkContext α} (hw : SecWork ctx ctx') :
    Keeps base ctx ctx' := hw.keeps h.lanes h.ready (h.waits true)

/-- The secondary leaves alone what the primary has started. -/
theorem SecWork.started {ctx ctx' : LinkContext α} (hw : SecWork ctx ctx') (hs : Started ctx) :
    Started ctx' := by
  unfold Started
  rw [hw.segments, hw.pri]
  exact hs

variable (h : Settled base ctx)

include h

variable (hs : Started ctx)

include hs

/-- The message is pushed up while the acknowledgement is at the transmitter, so the upper layer
sends as if the secondary already waited for it. -/
theorem onConfirmedUserDataSending_keeps (source : UInt16) (fcb : Bool) (message : Message α)
    (replies : List (TransportSegment α)) :
    Keeps base ctx (ctx.onConfirmedUserDataSending source fcb message replies) := by
  unfold onConfirmedUserDataSending
  split
  case h_1 => exact h.sec (unexpected_secWork (h.waits false))
  case h_2 hr =>
    have free := free_of_secState (h.waits false) hr rfl
    split_ifs
    · have hack := queueAck_work source free (!ctx.nextReadFCB)
      have hkeep := h.sec hack
      have htell := (tell_keeps hkeep.settled (hack.started hs)
        (show (LinkOutput.OnReceive message).transmitted = none from rfl) replies).1
      have hcomm := sendAll_secState
        (pushDataUp { ctx.queueAck source with nextReadFCB := !ctx.nextReadFCB } message)
        .TransmitWaitReset replies
      show Keeps base ctx ((sendAll (pushDataUp { ctx.queueAck source with
        nextReadFCB := !ctx.nextReadFCB } message) replies).secState .TransmitWaitReset)
      rw [← hcomm]
      exact hkeep.trans htell
    · -- A repetition is only acknowledged.
      exact h.sec (queueAck_work source free (ctx.queueAck source).nextReadFCB)
  case h_3 => exact h.keeps

/-- A frame that is not for the layer is only counted. -/
theorem onFrame_rejected (frame : LinkLayerFrame α) (now : ℤ) (hno : ctx.accepts frame = false) :
    Keeps base ctx (ctx.onFrame frame now) ∧ Started (ctx.onFrame frame now) := by
  -- A rejected frame changes statistics and outputs only.
  have hkeep (ctx' : LinkContext α) (q : Quiet ctx ctx') (r : Rest ctx ctx')
      (hsec : ctx'.pSecState = ctx.pSecState) (hpri : ctx'.pPriState = ctx.pPriState)
      (hseg : ctx'.pSegments = ctx.pSegments) (hfcb : ctx'.nextWriteFCB = ctx.nextWriteFCB)
      (htimer : ctx'.rspTimeoutTimer = ctx.rspTimeoutTimer) :
      Keeps base ctx ctx' ∧ Started ctx' := by
    refine ⟨h.pri (.keep h.ready (h.waits true) q r hsec hpri hseg hfcb htimer), ?_⟩
    unfold Started
    rw [hseg, hpri]
    exact hs
  unfold onFrame
  dsimp only
  split_ifs with hon hmaster hdest hsrc
  · exact ⟨h.keeps, hs⟩
  · exact hkeep _ ⟨rfl, rfl, rfl, rfl, rfl, rfl⟩ ⟨rfl, rfl⟩ rfl rfl rfl rfl rfl
  · have q : Quiet ctx { ctx with statistics := { ctx.statistics with
        numUnknownDestination := ctx.statistics.numUnknownDestination + 1 } } :=
      ⟨rfl, rfl, rfl, rfl, rfl, rfl⟩
    exact hkeep _ (q.emit rfl) ⟨rfl, rfl⟩ rfl rfl rfl rfl rfl
  · have q : Quiet ctx { ctx with statistics := { ctx.statistics with
        numUnknownSource := ctx.statistics.numUnknownSource + 1 } } :=
      ⟨rfl, rfl, rfl, rfl, rfl, rfl⟩
    exact hkeep _ (q.emit rfl) ⟨rfl, rfl⟩ rfl rfl rfl rfl rfl
  · exfalso
    revert hno
    simp_all [accepts]

/-- A frame leaves the transmitter in order. -/
theorem dispatchSending_keeps (frame : LinkLayerFrame α) (replies : List (TransportSegment α)) :
    Keeps base ctx (ctx.dispatchSending frame replies) := by
  unfold dispatchSending
  dsimp only
  split
  case h_1 => exact onConfirmedUserDataSending_keeps h hs _ _ _ replies
  case h_2 => exact (tell_keeps h hs rfl replies).1
  case h_3 h1 h2 =>
    unfold dispatch
    dsimp only
    split
    case h_1 => exact h.pri (onAck_work h.ready (h.waits true) _)
    case h_2 => exact h.pri (onNack_work h.ready (h.waits true) _)
    case h_3 => exact h.pri (onLinkStatus_work h.ready (h.waits true) _)
    case h_4 => exact h.pri (onNotSupported_work h.ready (h.waits true) _)
    case h_5 => exact h.sec (onTestLinkStatus_work (h.waits false) _ _)
    case h_6 => exact h.sec (onResetLinkStates_work (h.waits false) _)
    case h_7 => exact h.sec (onRequestLinkStatus_work (h.waits false) _)
    case h_8 hf => exact absurd hf h1
    case h_9 hf => exact absurd hf h2
    case h_10 => exact h.keeps

end Events

/-! ## The end of a transmission -/

/-- The layer after the frame in flight has gone, when the handler of its station is called: a
waiting frame has gone out. -/
def reported (ctx : LinkContext α) : LinkContext α :=
  { ctx with txMode := .Idle }.tryPendingSecTx.tryPendingPriTx

/-- A frame of the other station goes out next, when one waits. -/
theorem reported_eq {base : List (LinkLayerFrame α)} {ctx : LinkContext α} (h : Lanes base ctx)
    {primary : Bool} (hm : ctx.txMode = stationMode primary) :
    (ctx.pending (!primary) = none ∧ ctx.reported = { ctx with txMode := .Idle }) ∨
      ∃ frame, ctx.pending (!primary) = some frame ∧
        ctx.reported =
          { ctx with
            txMode := stationMode !primary, pendingPriTx := none, pendingSecTx := none
            outputs := ctx.outputs ++ [.BeginTransmit frame] } := by
  have hown : ctx.pending primary = none := by
    cases hp : ctx.pending primary with
    | none => rfl
    | some f => exact absurd ((h.pending _ f hp).symm.trans hm) (stationMode_not primary)
  unfold reported
  cases primary with
  | true =>
    have hpri : ctx.pendingPriTx = none := hown
    cases hsec : ctx.pendingSecTx with
    | none => exact .inl ⟨hsec, by simp [tryPendingSecTx, tryPendingPriTx, hpri]⟩
    | some f =>
      refine .inr ⟨f, hsec, ?_⟩
      simp [tryPendingSecTx, tryPendingPriTx, hpri, emit, stationMode]
  | false =>
    have hsec : ctx.pendingSecTx = none := hown
    cases hpri : ctx.pendingPriTx with
    | none => exact .inl ⟨hpri, by simp [tryPendingSecTx, tryPendingPriTx, hsec]⟩
    | some f =>
      refine .inr ⟨f, hpri, ?_⟩
      simp [tryPendingSecTx, tryPendingPriTx, hsec, emit, stationMode]

/-- When the handler is called, the station still waits for the end of its transmission and nothing
of it is at the transmitter. The other station keeps what it had there. -/
structure Reported (primary : Bool) (ctx ctx' : LinkContext α) : Prop where
  lanes : Lanes [] ctx'
  ready : Ready ctx'
  wait : ctx'.transmitWait primary = true
  free : ctx'.holds primary = false
  other : ctx'.transmitWait (!primary) = ctx'.holds (!primary)
  carries : ∀ frame, ctx.pending (!primary) = some frame → ctx'.Carries [] (!primary) frame
  online : ctx'.isOnline = ctx.isOnline
  spares : Spares [] ctx ctx'

/-- The end of a transmission is told to the station that it belongs to, and the other one may go
on. -/
theorem Settled.reported {base : List (LinkLayerFrame α)} {ctx : LinkContext α}
    (h : Settled base ctx) (primary : Bool) (hm : ctx.txMode = stationMode primary)
    (hout : ctx.transmitted = []) : Reported primary ctx ctx.reported := by
  -- The station waits for the end of its transmission and has nothing else to send.
  have hown : ctx.pending primary = none := by
    cases hp : ctx.pending primary with
    | none => rfl
    | some f => exact absurd ((h.lanes.pending _ f hp).symm.trans hm) (stationMode_not primary)
  have hne : stationMode primary ≠ stationMode !primary := fun he => stationMode_not primary he.symm
  have hwait : ctx.transmitWait primary = true := by
    rw [h.waits, holds_iff]
    exact .inl hm
  have hother : ctx.transmitWait (!primary) = (ctx.pending !primary).isSome := by
    rw [h.waits, Bool.eq_iff_iff, holds_iff, hm]
    exact or_iff_right hne
  rcases reported_eq h.lanes hm with ⟨hnone, heq⟩ | ⟨frame, hsome, heq⟩
  · -- Nothing waits, and the transmitter is idle.
    have hpend (b : Bool) : ({ ctx with txMode := .Idle } : LinkContext α).pending b = none := by
      rcases Bool.eq_or_eq_not b primary with rfl | rfl
      · cases b <;> exact hown
      · cases primary <;> exact hnone
    have hholds (b : Bool) : ({ ctx with txMode := .Idle } : LinkContext α).holds b = false := by
      rw [Bool.eq_false_iff, ne_eq, holds_iff, hpend]
      have hne : ¬ LinkTransmitMode.Idle = stationMode b := fun he => stationMode_ne_idle b he.symm
      simp [hne]
    rw [heq]
    refine ⟨⟨fun _ => hout, fun hi => absurd rfl hi, fun b f hb => ?_, h.lanes.overwrites,
      fun b f hc => ?_⟩, ⟨h.ready.timer, h.ready.segments⟩, ?_, hholds primary, ?_,
      fun f hf => ?_, rfl, .of_idle rfl hpend⟩
    · rw [hpend] at hb
      cases hb
    · rcases hc with ⟨hi, -⟩ | hb
      · exact absurd hi.symm (stationMode_ne_idle b)
      · rw [hpend] at hb
        cases hb
    · cases primary <;> exact hwait
    · rw [hholds, ← Option.isSome_none (α := LinkLayerFrame α), ← hnone, ← hother]
      cases primary <;> rfl
    · rw [hnone] at hf
      cases hf
  · -- The frame that waited is in flight.
    have hpend (b : Bool) : ctx.reported.pending b = none := by rw [heq]; cases b <;> rfl
    have hmode : ctx.reported.txMode = stationMode !primary := by rw [heq]
    have htx : ctx.reported.transmitted = [frame] := by
      rw [heq]
      show List.filterMap _ (ctx.outputs ++ [.BeginTransmit frame]) = _
      rw [List.filterMap_append]
      exact congrArg (· ++ [frame]) hout
    have hqueued : ctx.Queued (!primary) frame := h.lanes.queued _ _ (.inr hsome)
    have hq : ctx.reported.Queued (!primary) frame := by
      rw [heq]
      cases primary <;> exact hqueued
    have honly (b : Bool) (f : LinkLayerFrame α) (hc : ctx.reported.Carries [] b f) :
        b = !primary ∧ f = frame := by
      rcases hc with ⟨hb, hf⟩ | hb
      · rw [List.nil_append, htx, List.singleton_inj] at hf
        refine ⟨?_, hf.symm⟩
        rcases Bool.eq_or_eq_not b primary with rfl | rfl
        · exact absurd (hmode.symm.trans hb) (stationMode_not b)
        · rfl
      · rw [hpend] at hb
        cases hb
    refine ⟨⟨fun hi => ?_, fun _ => ⟨frame, htx⟩, fun b f hb => ?_, ?_, fun b f hc => ?_⟩, ?_, ?_,
      ?_, ?_, fun f hf => ?_, ?_, .of_eq ?_ fun b f hc => ?_⟩
    · exact absurd (hmode.symm.trans hi) (stationMode_ne_idle _)
    · rw [hpend] at hb
      cases hb
    · rw [heq]
      exact h.lanes.overwrites
    · obtain ⟨rfl, rfl⟩ := honly b f hc
      exact hq
    · rw [heq]
      exact ⟨h.ready.timer, h.ready.segments⟩
    · rw [heq]
      cases primary <;> exact hwait
    · rw [Bool.eq_false_iff, ne_eq, holds_iff, hpend, hmode]
      have := stationMode_not primary
      simp [this]
    · have hb : ctx.reported.transmitWait (!primary) = ctx.transmitWait !primary := by
        rw [heq]
        cases primary <;> rfl
      rw [hb, hother, hsome, Option.isSome_some, eq_comm, holds_iff]
      exact .inl hmode
    · rw [hsome, Option.some.injEq] at hf
      exact .inl ⟨hmode, by rw [← hf]; exact htx⟩
    · rw [heq]
    · rw [heq]
    · obtain ⟨rfl, rfl⟩ := honly b f hc
      exact .inr hsome

/-- The end of a transmission. A frame of the other station that waited is in flight now. -/
theorem onTxReady_keeps {base : List (LinkLayerFrame α)} {ctx : LinkContext α}
    (h : Settled base ctx) (hm : ctx.txMode ≠ .Idle) (hout : ctx.transmitted = []) :
    Settled [] ctx.onTxReady ∧ Started ctx.onTxReady ∧ ctx.onTxReady.isOnline = ctx.isOnline ∧
      (∀ primary frame, ctx.pending primary = some frame →
        ctx.onTxReady.Carries [] primary frame) ∧ Spares [] ctx ctx.onTxReady := by
  -- Only the other station can have a frame that waits.
  have hpend (primary : Bool) (hp : ctx.txMode = stationMode primary) (b : Bool)
      (frame : LinkLayerFrame α) (hb : ctx.pending b = some frame) : b = !primary := by
    rcases Bool.eq_or_eq_not b primary with rfl | rfl
    · exact absurd ((h.lanes.pending _ _ hb).symm.trans hp) (stationMode_not b)
    · rfl
  unfold onTxReady
  cases hmode : ctx.txMode with
  | Idle => exact absurd hmode hm
  | Primary =>
    -- The end is reported to the primary, which may queue a frame, and then a transmission may
    -- start.
    have hr := h.reported true hmode hout
    have hkeep := (priOnTxReady_work hr.ready hr.free hr.wait).keeps hr.lanes hr.other
    obtain ⟨hstart, hstarted⟩ := tryStartTransmission_keeps hkeep.settled
    refine ⟨hstart.settled, hstarted, (hkeep.trans hstart).online.trans hr.online,
      fun b f hb => (hkeep.trans hstart).carries b f ?_,
      hr.spares.trans (hkeep.trans hstart).spares⟩
    have hb' := hpend true hmode b f hb
    subst hb'
    exact hr.carries f hb
  | Secondary =>
    -- The same for the secondary.
    have hr := h.reported false hmode hout
    have hkeep := (secOnTxReady_work hr.free hr.wait).keeps hr.lanes hr.ready hr.other
    obtain ⟨hstart, hstarted⟩ := tryStartTransmission_keeps hkeep.settled
    refine ⟨hstart.settled, hstarted, (hkeep.trans hstart).online.trans hr.online,
      fun b f hb => (hkeep.trans hstart).carries b f ?_,
      hr.spares.trans (hkeep.trans hstart).spares⟩
    have hb' := hpend false hmode b f hb
    subst hb'
    exact hr.carries f hb

end LinkContext

end OpenDnp3.Link
