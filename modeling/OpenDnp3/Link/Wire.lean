import OpenDnp3.Link.StationRun

/-!
# A transmitter that reports every transmission

The channel reports the end of every frame that it is given once, in order, whatever becomes of the
session meanwhile. `OnLowerLayerDown` forgets the frame in flight, and `OnTxReady` refuses a report
only while the layer is not transmitting. So a report that belongs to an earlier session is taken
for the end of a transmission of the present one, as soon as there is one. The transmitter is
arbitrated exactly while no transmission begins with a frame of an earlier session in flight.
-/

namespace OpenDnp3.Link

/-- A frame that a layer has handed to its channel. -/
structure Flight (α : Type*) where
  frame : LinkLayerFrame α
  /-- The session that handed it over has not ended. -/
  current : Bool := true
  deriving DecidableEq, Repr

/-- A link layer and its channel. -/
structure Wire (α : Type*) where
  ctx : LinkContext α
  /-- The frames whose transmission the channel has not reported yet, oldest first. -/
  sending : List (Flight α) := []

namespace Wire

open LinkContext

variable {α : Type*}

/-- A link layer that has not been started. -/
def init (config : LinkLayerConfig) : Wire α where
  ctx := { config := config }

/-- The channel has something to report only while it sends. -/
def occurs (w : Wire α) : LinkEvent α → Bool
  | .txReady => !w.sending.isEmpty
  | _ => true

/-- The frames that the channel is still sending when the layer handles the event. The end of a
session does not take them back. -/
def stillSending (w : Wire α) : LinkEvent α → List (Flight α)
  | .txReady => w.sending.tail
  | .lowerLayerDown => w.sending.map fun flight => { flight with current := false }
  | _ => w.sending

/-- Frames that the present session hands over. -/
def handOver (frames : List (LinkLayerFrame α)) : List (Flight α) :=
  frames.map fun frame => { frame }

/-- What the layer does on an event, with the outputs and the formatted frames of that event
alone. -/
def handled (w : Wire α) (e : LinkEvent α) : LinkContext α :=
  { w.ctx with outputs := [], formatted := [] }.handle e

/-- One step of a link layer and its channel. -/
def step (w : Wire α) (e : LinkEvent α) : Wire α :=
  if w.occurs e then
    { ctx := w.handled e
      sending := w.stillSending e ++ handOver (w.handled e).transmitted }
  else w

/-! ## The transmitter is arbitrated -/

/-- The state of the transmitter agrees with both stations, and with what the channel is sending. -/
structure Arbitrated (w : Wire α) : Prop where
  /-- The primary has a frame at the transmitter exactly in its `TransmitWait` states. -/
  pri : w.ctx.txMode = .Primary ∨ w.ctx.pendingPriTx.isSome = true ↔
    w.ctx.pPriState.isTransmitWait = true
  /-- The secondary has a frame at the transmitter exactly in its `TransmitWait` states. -/
  sec : w.ctx.txMode = .Secondary ∨ w.ctx.pendingSecTx.isSome = true ↔
    w.ctx.pSecState.isTransmitWait = true
  /-- The report that comes next, when it is dispatched to the primary, is that of a frame that the
  state of the primary queued. -/
  dispatchPri : ∀ flight later, w.sending = flight :: later → w.ctx.txMode = .Primary →
    flight.current = true ∧ w.ctx.reported.pPriState.isTransmitWait = true ∧
      w.ctx.reported.PriQueued flight.frame
  /-- Likewise for the secondary. -/
  dispatchSec : ∀ flight later, w.sending = flight :: later → w.ctx.txMode = .Secondary →
    flight.current = true ∧ w.ctx.reported.pSecState.isTransmitWait = true ∧
      w.ctx.reported.SecQueued flight.frame
  /-- A frame only waits behind one of the other station, and is what the state of its own station
  queued. -/
  priPending : ∀ frame, w.ctx.pendingPriTx = some frame →
    w.ctx.txMode = .Secondary ∧ w.ctx.PriQueued frame
  secPending : ∀ frame, w.ctx.pendingSecTx = some frame →
    w.ctx.txMode = .Primary ∧ w.ctx.SecQueued frame
  /-- No frame was formatted over one that waited. -/
  overwrites : w.ctx.overwrites = []

/-- What an event does with the transmitter. -/
structure Arbitrates (w : Wire α) (e : LinkEvent α) : Prop where
  /-- `BeginTransmit` is called at most once, and with the mode idle: it was before the event, or
  the event is the end of a transmission, which makes it idle first. -/
  once : (w.handled e).transmitted.length ≤ 1
  idle : (w.handled e).transmitted ≠ [] → w.ctx.txMode = .Idle ∨ e = .txReady
  /-- While the layer is online, a frame that waits goes on waiting or is in flight next. -/
  priKept : ∀ frame, w.ctx.pendingPriTx = some frame → (w.step e).ctx.isOnline = true →
    (w.step e).ctx.pendingPriTx = some frame ∨
      (w.step e).ctx.txMode = .Primary ∧ { frame } ∈ (w.step e).sending
  secKept : ∀ frame, w.ctx.pendingSecTx = some frame → (w.step e).ctx.isOnline = true →
    (w.step e).ctx.pendingSecTx = some frame ∨
      (w.step e).ctx.txMode = .Secondary ∧ { frame } ∈ (w.step e).sending
  /-- No frame is formatted in the buffer of a frame that the channel is still sending. -/
  spares : ∀ frame ∈ (w.handled e).formatted, ∀ flight ∈ w.stillSending e,
    flight.frame.fields.func.isPri ≠ frame.fields.func.isPri

/-- The event makes a layer that rests, as at the start of a session, begin a transmission. -/
def begins (ctx : LinkContext α) : LinkEvent α → Bool
  | .lowerLayerUp _ replies => !ctx.isOnline && !replies.isEmpty
  | .lowerLayerDown | .txReady | .responseTimeout => false
  | .frame frame _ replies =>
    ctx.accepts frame &&
      match frame.fields.func with
      | .PRI_RESET_LINK_STATES | .PRI_REQUEST_LINK_STATUS => true
      | .PRI_UNCONFIRMED_USER_DATA => !replies.isEmpty
      | _ => false
  | .send _ => ctx.isOnline
  | .keepAliveTimeout now =>
    ctx.isOnline && decide (now - ctx.lastMessageTimestamp ≥ ctx.config.KeepAliveTimeout)

/-- No transmission begins while a frame of an earlier session is in flight. -/
def WaitsOut (w : Wire α) (e : LinkEvent α) : Prop :=
  w.sending.any (fun flight => !flight.current) = true → begins w.ctx e = false

instance (w : Wire α) (e : LinkEvent α) : Decidable (WaitsOut w e) :=
  inferInstanceAs (Decidable (_ → _))

end Wire

/-! ## A layer that rests -/

namespace LinkContext

variable {α : Type*}

/-- The layer has nothing at the transmitter, nothing to send and nothing to wait for. -/
structure Rests (ctx : LinkContext α) : Prop extends Dormant ctx where
  keepAlive : ctx.keepAliveTimeout = false
  transmitted : ctx.transmitted = []
  formatted : ctx.formatted = []
  overwrites : ctx.overwrites = []

section Rests

variable {ctx : LinkContext α}

/-- An output that is no transmission. -/
theorem Rests.emit (h : Rests ctx) {output : LinkOutput α} (ho : output.transmitted = none) :
    Rests (ctx.emit output) := by
  refine ⟨⟨h.txMode, h.pendingPriTx, h.pendingSecTx, h.pSegments, h.timer, h.isRemoteReset,
    h.pPriState, h.pSecState⟩, h.keepAlive, ?_, h.formatted, h.overwrites⟩
  rw [transmitted_emit, ho, h.transmitted]
  rfl

/-- Another count of the frames that were not expected, as well as other times and another session,
are of no concern. -/
theorem Rests.note (h : Rests ctx) (isOnline : Bool) (now : ℤ)
    (statistics : StackLinkStatistics) :
    Rests { ctx with isOnline, lastMessageTimestamp := now, statistics } :=
  ⟨⟨h.txMode, h.pendingPriTx, h.pendingSecTx, h.pSegments, h.timer, h.isRemoteReset, h.pPriState,
    h.pSecState⟩, h.keepAlive, h.transmitted, h.formatted, h.overwrites⟩

/-- There is nothing to start. -/
theorem Rests.tryStartTransmission_eq (h : Rests ctx) : ctx.tryStartTransmission = ctx := by
  simp only [tryStartTransmission, h.keepAlive, Bool.false_eq_true, if_false, h.pSegments]

/-- A frame that the layer does not answer leaves it at rest. -/
theorem Rests.dispatchSending (h : Rests ctx) (frame : LinkLayerFrame α)
    (replies : List (TransportSegment α))
    (hreset : frame.fields.func ≠ .PRI_RESET_LINK_STATES)
    (hrequest : frame.fields.func ≠ .PRI_REQUEST_LINK_STATUS)
    (hdata : frame.fields.func = .PRI_UNCONFIRMED_USER_DATA → replies = []) :
    Rests (ctx.dispatchSending frame replies) := by
  have hunexpected : Rests ctx.unexpectedFrame := h.note ..
  unfold LinkContext.dispatchSending
  dsimp only
  split
  case h_1 =>
    -- Confirmed data is not expected before a reset.
    simp only [onConfirmedUserDataSending, h.pSecState]
    exact hunexpected
  case h_2 hfunc =>
    rw [hdata hfunc]
    exact h.emit rfl
  case h_3 =>
    unfold dispatch
    dsimp only
    split
    case h_1 =>
      simp only [onAck, h.pPriState]
      exact hunexpected
    case h_2 =>
      simp only [onNack, h.pPriState]
      exact hunexpected
    case h_3 =>
      simp only [onLinkStatus, h.pPriState]
      exact hunexpected
    case h_4 =>
      simp only [onNotSupported, h.pPriState]
      exact hunexpected
    case h_5 =>
      simp only [onTestLinkStatus, h.pSecState]
      exact hunexpected
    case h_6 hfunc => exact absurd hfunc hreset
    case h_7 hfunc => exact absurd hfunc hrequest
    case h_8 =>
      simp only [onConfirmedUserData, h.pSecState]
      exact hunexpected
    case h_9 => exact h.emit rfl
    case h_10 => exact h

/-- A frame that is not accepted is only counted. -/
theorem Rests.onFrame_rejected (h : Rests ctx) (frame : LinkLayerFrame α) (now : ℤ)
    (hno : ctx.accepts frame = false) : Rests (ctx.onFrame frame now) := by
  unfold onFrame
  dsimp only
  split_ifs with hoff hmaster hdest hsrc
  · exact h
  · exact h.note ..
  · exact (h.note ctx.isOnline ctx.lastMessageTimestamp _).emit rfl
  · exact (h.note ctx.isOnline ctx.lastMessageTimestamp _).emit rfl
  · -- The checks are those of `accepts`.
    simp only [Bool.not_eq_true', Bool.not_eq_false, ne_eq, not_not, not_and] at hoff hdest hsrc
    simp_all [accepts]

/-- A layer at rest stays so until an event begins a transmission. -/
theorem Rests.handle (h : Rests ctx) {e : LinkEvent α} (he : Wire.begins ctx e = false) :
    Rests (ctx.handle e) := by
  -- The events that make a layer begin something are those that are excluded.
  cases e with
  | lowerLayerUp now replies =>
    show Rests (ctx.onLowerLayerUpSending now replies)
    unfold onLowerLayerUpSending
    split_ifs with hon
    · exact h
    · have hnil : replies = [] := by simpa [Wire.begins, hon] using he
      rw [hnil]
      unfold onLowerLayerUp
      rw [if_neg hon]
      exact ((h.note true now _).emit rfl).emit rfl
  | lowerLayerDown =>
    show Rests ctx.onLowerLayerDown
    unfold onLowerLayerDown
    split_ifs
    · exact h
    · refine Rests.emit (Rests.emit ?_ rfl) rfl
      exact ⟨⟨rfl, rfl, rfl, rfl, rfl, rfl, rfl, rfl⟩, rfl, h.transmitted, h.formatted,
        h.overwrites⟩
  | txReady =>
    show Rests ctx.onTxReady
    simp only [onTxReady, h.txMode]
    exact h
  | responseTimeout =>
    show Rests ctx.onResponseTimeout
    unfold onResponseTimeout
    rw [if_neg (by simp [h.timer])]
    exact h
  | send segments =>
    show Rests (ctx.send segments)
    have hoff : ctx.isOnline = false := he
    unfold send
    rw [if_neg (by simp [hoff])]
    exact h
  | keepAliveTimeout now =>
    show Rests (ctx.onKeepAliveTimeout now)
    unfold onKeepAliveTimeout
    split_ifs with hoff hdue
    · exact h
    · have hon : ctx.isOnline = true := by simpa using hoff
      simp [Wire.begins, hon, hdue] at he
    · rw [h.tryStartTransmission_eq]
      exact h
  | frame frame now replies =>
    show Rests (ctx.onFrameSending frame now replies)
    unfold onFrameSending
    split_ifs with hacc
    · have hnote : Rests { ctx with lastMessageTimestamp := now } := h.note ..
      simp only [Wire.begins, hacc, Bool.true_and] at he
      have hdispatch := hnote.dispatchSending frame replies (fun hf => by simp [hf] at he)
        (fun hf => by simp [hf] at he) (fun hf => by simpa [hf] using he)
      rw [hdispatch.tryStartTransmission_eq]
      exact hdispatch
    · exact h.onFrame_rejected frame now (by simpa using hacc)

end Rests

/-! ## What begins a transmission -/

section Begins

/-- A station that queues a frame keeps the transmitter busy. -/
theorem queueTransmit_txMode_ne (ctx : LinkContext α) (frame : LinkLayerFrame α)
    (primary : Bool) : (ctx.queueTransmit frame primary).txMode ≠ .Idle := by
  unfold queueTransmit
  dsimp only
  by_cases hidle : (ctx.format frame primary).txMode = .Idle
  · rw [if_pos hidle]
    cases primary <;> exact nofun
  · rw [if_neg hidle]
    cases primary <;> exact hidle

variable {ctx : LinkContext α}

/-- The transmitter stays busy, whatever the primary starts. A keep-alive that is due makes it busy
when the primary is idle. -/
theorem tryStartTransmission_txMode_ne
    (h : ctx.txMode ≠ .Idle ∨ ctx.keepAliveTimeout = true ∧ ctx.pPriState = .Idle) :
    ctx.tryStartTransmission.txMode ≠ .Idle := by
  unfold tryStartTransmission
  generalize hm : (if ctx.keepAliveTimeout then ctx.trySendRequestLinkStatus else ctx) = m
  have hbusy : m.txMode ≠ .Idle := by
    rw [← hm]
    split_ifs with hk
    · unfold trySendRequestLinkStatus
      split
      case h_1 => exact queueTransmit_txMode_ne _ _ _
      case h_2 hne => exact h.resolve_right fun hidle => hne hidle.2
    · exact h.resolve_right fun hdue => hk hdue.1
  -- The message in progress is next.
  dsimp only
  cases m.pSegments with
  | none => exact hbusy
  | some segments =>
    dsimp only
    split_ifs
    · unfold trySendConfirmed
      split
      · split_ifs
        · exact queueTransmit_txMode_ne _ _ _
        · exact queueTransmit_txMode_ne _ _ _
      · exact hbusy
    · unfold trySendUnconfirmed
      split
      · exact queueTransmit_txMode_ne _ _ _
      · exact hbusy

/-- An idle primary with a message begins its transmission. -/
theorem tryStartTransmission_txMode_ne_of_segments (hp : ctx.pPriState = .Idle)
    (hk : ctx.keepAliveTimeout = false) (hs : ctx.pSegments.isSome = true) :
    ctx.tryStartTransmission.txMode ≠ .Idle := by
  obtain ⟨segments, hsegments⟩ := Option.isSome_iff_exists.1 hs
  simp only [tryStartTransmission, hk, Bool.false_eq_true, if_false, hsegments]
  split_ifs
  · simp only [trySendConfirmed, hp]
    split_ifs
    · exact queueTransmit_txMode_ne _ _ _
    · exact queueTransmit_txMode_ne _ _ _
  · simp only [trySendUnconfirmed, hp]
    exact queueTransmit_txMode_ne _ _ _

/-- A busy transmitter stays busy when a message is sent. -/
theorem send_txMode_ne (h : ctx.txMode ≠ .Idle) (segments : TransportSegment α) :
    (ctx.send segments).txMode ≠ .Idle := by
  unfold send
  split_ifs
  · exact tryStartTransmission_txMode_ne (.inl h)
  · exact h

/-- It stays busy when some messages are sent. -/
theorem sendAll_txMode_ne (h : ctx.txMode ≠ .Idle) (replies : List (TransportSegment α)) :
    (ctx.sendAll replies).txMode ≠ .Idle := by
  unfold sendAll
  induction replies generalizing ctx with
  | nil => exact h
  | cons segments replies ih => exact ih (send_txMode_ne h segments)

/-- A layer at rest sends what it is given. -/
theorem Rests.send (h : Rests ctx) (hon : ctx.isOnline = true) (segments : TransportSegment α) :
    (ctx.send segments).txMode ≠ .Idle := by
  unfold LinkContext.send
  rw [if_pos ⟨hon, by simp [h.pSegments]⟩]
  exact tryStartTransmission_txMode_ne_of_segments h.pPriState h.keepAlive rfl

/-- A layer at rest that is sent a message becomes busy. -/
theorem Rests.sendAll (h : Rests ctx) (hon : ctx.isOnline = true)
    {replies : List (TransportSegment α)} (hne : replies ≠ []) :
    (ctx.sendAll replies).txMode ≠ .Idle := by
  obtain ⟨segments, rest, rfl⟩ := List.exists_cons_of_ne_nil hne
  exact sendAll_txMode_ne (h.send hon segments) rest

/-- An event that begins a transmission leaves the transmitter busy. -/
theorem Rests.txMode_ne (h : Rests ctx) {e : LinkEvent α} (he : Wire.begins ctx e = true) :
    (ctx.handle e).txMode ≠ .Idle := by
  cases e with
  | lowerLayerDown | txReady | responseTimeout => cases he
  | lowerLayerUp now replies =>
    obtain ⟨hoff, hne⟩ : ctx.isOnline = false ∧ replies ≠ [] := by
      simpa [Wire.begins] using he
    show (ctx.onLowerLayerUpSending now replies).txMode ≠ .Idle
    rw [onLowerLayerUpSending_eq hoff]
    exact (((h.note true now ctx.statistics).emit rfl).emit rfl).sendAll rfl hne
  | send segments => exact h.send he segments
  | keepAliveTimeout now =>
    obtain ⟨hon, hdue⟩ : ctx.isOnline = true ∧
        ctx.config.KeepAliveTimeout ≤ now - ctx.lastMessageTimestamp := by
      simpa [Wire.begins] using he
    show (ctx.onKeepAliveTimeout now).txMode ≠ .Idle
    unfold onKeepAliveTimeout
    rw [if_neg (by simp [hon]), if_pos hdue]
    exact tryStartTransmission_txMode_ne (.inr ⟨rfl, h.pPriState⟩)
  | frame frame now replies =>
    obtain ⟨hacc, hfunc⟩ := Bool.and_eq_true_iff.1 he
    show (ctx.onFrameSending frame now replies).txMode ≠ .Idle
    unfold onFrameSending
    rw [if_pos hacc]
    refine tryStartTransmission_txMode_ne (.inl ?_)
    have hnote : Rests { ctx with lastMessageTimestamp := now } := h.note ..
    unfold LinkContext.dispatchSending
    dsimp only
    split
    case h_1 hdata => simp [hdata] at hfunc
    case h_2 hdata =>
      -- The upper layer answers what it is handed.
      have hne : replies ≠ [] := by simpa [hdata] using hfunc
      have hon : ctx.isOnline = true := by
        simp only [accepts, Bool.and_eq_true] at hacc
        exact hacc.1.1.1
      exact (hnote.emit rfl).sendAll hon hne
    case h_3 =>
      unfold dispatch
      dsimp only
      split
      case h_6 =>
        simp only [onResetLinkStates, h.pSecState]
        exact queueTransmit_txMode_ne _ _ _
      case h_7 =>
        simp only [onRequestLinkStatus, h.pSecState]
        exact queueTransmit_txMode_ne _ _ _
      all_goals simp_all

end Begins

/-- The formatted frames are of no concern to the transmitter. -/
theorem Settled.unformatted {base : List (LinkLayerFrame α)} {ctx : LinkContext α}
    (h : Settled base ctx) : Settled base { ctx with formatted := [] } := by
  refine ⟨⟨h.lanes.idle, h.lanes.busy, fun b f hb => ?_, h.lanes.overwrites, fun b f hc => ?_⟩,
    fun b => ?_, h.ready.timer, h.ready.segments⟩
  · exact h.lanes.pending b f (by cases b <;> exact hb)
  · have hc' : ctx.Carries base b f := by cases b <;> exact hc
    have hq := h.lanes.queued b f hc'
    cases b <;> exact hq
  · have hw := h.waits b
    cases b <;> exact hw

end LinkContext

end OpenDnp3.Link
