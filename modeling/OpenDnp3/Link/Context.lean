import OpenDnp3.Link.Frame

/-!
# The link layer

`link/LinkContext.cpp`, `link/PriLinkLayerStates.cpp`, `link/SecLinkLayerStates.cpp` and
`link/LinkLayer.cpp`, over frames of an arbitrary payload type. What the layer tells its
environment (the channel, the transport layer, the listener) is appended to a list of outputs.
The instant at which a timer fires belongs to the environment; the context only knows whether the
response timer runs.
-/

namespace OpenDnp3.Link

/-- `LinkLayerConfig`, less the duration of the response timeout. -/
structure LinkLayerConfig where
  IsMaster : Bool
  UseConfirms : Bool
  /-- The number of retries after the first try. -/
  NumRetry : ℕ
  LocalAddr : UInt16
  RemoteAddr : UInt16
  /-- In milliseconds. -/
  KeepAliveTimeout : ℤ
  respondToAnySource : Bool
  deriving DecidableEq, Repr

/-- `Addresses`. -/
structure Addresses where
  source : UInt16
  destination : UInt16
  deriving DecidableEq, Repr

/-- `ITransportSegment`: the segments of one message, of which the current one is not sent yet. -/
structure TransportSegment (α : Type*) where
  addresses : Addresses
  current : α
  rest : List α
  deriving DecidableEq, Repr

/-- `LinkTransmitMode`. -/
inductive LinkTransmitMode where
  | Idle
  | Primary
  | Secondary
  deriving DecidableEq, Repr

/-- The states `PLLS_*` of the primary station. -/
inductive PriState where
  | Idle
  | SendUnconfirmedTransmitWait
  | LinkResetTransmitWait
  | ConfUserDataTransmitWait
  | RequestLinkStatusTransmitWait
  | ResetLinkWait
  | ConfDataWait
  | RequestLinkStatusWait
  deriving DecidableEq, Repr

/-- The states `SLLS_*` of the secondary station. -/
inductive SecState where
  | NotReset
  | Reset
  | TransmitWaitReset
  | TransmitWaitNotReset
  deriving DecidableEq, Repr

/-- The states in which the primary waits for the end of its own transmission. -/
def PriState.isTransmitWait : PriState → Bool
  | .SendUnconfirmedTransmitWait | .LinkResetTransmitWait | .ConfUserDataTransmitWait
  | .RequestLinkStatusTransmitWait => true
  | _ => false

/-- The states in which the secondary waits for the end of its own transmission. -/
def SecState.isTransmitWait : SecState → Bool
  | .TransmitWaitReset | .TransmitWaitNotReset => true
  | _ => false

/-- `LinkStatus`. -/
inductive LinkStatus where
  | UNRESET
  | RESET
  deriving DecidableEq, Repr

/-- A frame on the channel. Only the user data functions have a payload. -/
structure LinkLayerFrame (α : Type*) where
  fields : LinkHeaderFields
  payload : Option α
  deriving DecidableEq, Repr

/-- `Message`: a payload with the addresses that it came from and went to. -/
structure Message (α : Type*) where
  addresses : Addresses
  payload : Option α
  deriving DecidableEq, Repr

/-- The calls that the link layer makes to its environment. -/
inductive LinkOutput (α : Type*) where
  /-- `ILinkTx::BeginTransmit`. -/
  | BeginTransmit (frame : LinkLayerFrame α)
  /-- `IUpperLayer::OnReceive`. -/
  | OnReceive (message : Message α)
  /-- `ITransportSegment::Advance`: the given segment is done. -/
  | Advance (segment : α)
  /-- The posted `IUpperLayer::OnTxReady`. -/
  | OnTxReady
  /-- `IUpperLayer::OnLowerLayerUp`. -/
  | OnLowerLayerUp
  /-- `IUpperLayer::OnLowerLayerDown`. -/
  | OnLowerLayerDown
  /-- `ILinkListener::OnStateChange`. -/
  | OnStateChange (status : LinkStatus)
  /-- `ILinkListener::OnKeepAliveInitiated`. -/
  | OnKeepAliveInitiated
  /-- `ILinkListener::OnKeepAliveFailure`. -/
  | OnKeepAliveFailure
  /-- `ILinkListener::OnKeepAliveSuccess`. -/
  | OnKeepAliveSuccess
  /-- `ILinkListener::OnUnknownDestinationAddress`. -/
  | OnUnknownDestinationAddress (destination : UInt16)
  /-- `ILinkListener::OnUnknownSourceAddress`. -/
  | OnUnknownSourceAddress (source : UInt16)
  deriving DecidableEq, Repr

/-! ## Formatting frames -/

namespace LinkLayerConfig

variable {α : Type*}

/-- `LinkFrame::FormatHeader`, for a frame of the given function. -/
def formatHeader (config : LinkLayerConfig) (fcb fcvdfc : Bool) (func : LinkFunction)
    (dest src : UInt16) : LinkHeaderFields where
  func := func
  isFromMaster := config.IsMaster
  fcb := fcb
  fcvdfc := fcvdfc
  dest := dest
  src := src

/-- `LinkContext::FormatPrimaryBufferWithConfirmed`. -/
def formatPrimaryBufferWithConfirmed (config : LinkLayerConfig) (addr : Addresses) (tpdu : α)
    (FCB : Bool) : LinkLayerFrame α where
  fields := config.formatHeader FCB true .PRI_CONFIRMED_USER_DATA addr.destination addr.source
  payload := some tpdu

/-- `LinkContext::FormatPrimaryBufferWithUnconfirmed`. -/
def formatPrimaryBufferWithUnconfirmed (config : LinkLayerConfig) (addr : Addresses) (tpdu : α) :
    LinkLayerFrame α where
  fields := config.formatHeader false false .PRI_UNCONFIRMED_USER_DATA addr.destination addr.source
  payload := some tpdu

/-- A frame without user data, from the local address. -/
def headerFrame (config : LinkLayerConfig) (func : LinkFunction) (destination : UInt16) :
    LinkLayerFrame α where
  fields := config.formatHeader false false func destination config.LocalAddr
  payload := none

end LinkLayerConfig

/-- `StackStatistics::Link`. -/
structure StackLinkStatistics where
  numUnexpectedFrame : UInt32 := 0
  numBadMasterBit : UInt32 := 0
  numUnknownDestination : UInt32 := 0
  numUnknownSource : UInt32 := 0
  deriving DecidableEq, Repr

/-- `LinkContext`. -/
structure LinkContext (α : Type*) where
  config : LinkLayerConfig
  pendingPriTx : Option (LinkLayerFrame α) := none
  pendingSecTx : Option (LinkLayerFrame α) := none
  pSegments : Option (TransportSegment α) := none
  txMode : LinkTransmitMode := .Idle
  numRetryRemaining : ℕ := 0
  /-- The response timer is active. -/
  rspTimeoutTimer : Bool := false
  nextReadFCB : Bool := false
  nextWriteFCB : Bool := false
  isOnline : Bool := false
  isRemoteReset : Bool := false
  keepAliveTimeout : Bool := false
  lastMessageTimestamp : ℤ := 0
  statistics : StackLinkStatistics := {}
  pPriState : PriState := .Idle
  pSecState : SecState := .NotReset
  /-- What has been told to the environment, oldest first. -/
  outputs : List (LinkOutput α) := []
  /-- The frames that were formatted in `priTxBuffer` and `secTxBuffer`, oldest first. -/
  formatted : List (LinkLayerFrame α) := []
  /-- The formatted frames whose buffer, as far as the layer knew, was in use: its previous frame
  was still being sent or still waiting. -/
  overwrites : List (LinkLayerFrame α) := []

namespace LinkContext

variable {α : Type*}

/-- Tells the environment something. -/
def emit (ctx : LinkContext α) (output : LinkOutput α) : LinkContext α :=
  { ctx with outputs := ctx.outputs ++ [output] }

/-- Counts a frame that the state does not expect. -/
def unexpectedFrame (ctx : LinkContext α) : LinkContext α :=
  { ctx with
    statistics :=
      { ctx.statistics with numUnexpectedFrame := ctx.statistics.numUnexpectedFrame + 1 } }

/-! ## Queueing frames -/

/-- As far as the layer knows, the buffer of a station holds a frame that is being sent or waits to
be sent. -/
def holds (ctx : LinkContext α) (primary : Bool) : Bool :=
  if primary then ctx.txMode = .Primary || ctx.pendingPriTx.isSome
  else ctx.txMode = .Secondary || ctx.pendingSecTx.isSome

/-- A frame is formatted in `priTxBuffer` or `secTxBuffer`. -/
def format (ctx : LinkContext α) (buffer : LinkLayerFrame α) (primary : Bool) : LinkContext α :=
  if ctx.holds primary then
    { ctx with
      formatted := ctx.formatted ++ [buffer]
      overwrites := ctx.overwrites ++ [buffer] }
  else { ctx with formatted := ctx.formatted ++ [buffer] }

/-- `LinkContext::QueueTransmit`, for a frame that has just been formatted in its buffer. -/
def queueTransmit (ctx : LinkContext α) (buffer : LinkLayerFrame α) (primary : Bool) :
    LinkContext α :=
  let ctx := ctx.format buffer primary
  if ctx.txMode = .Idle then
    { ctx with txMode := if primary then .Primary else .Secondary }.emit (.BeginTransmit buffer)
  else if primary then { ctx with pendingPriTx := some buffer }
  else { ctx with pendingSecTx := some buffer }

/-- `LinkContext::QueueAck`. -/
def queueAck (ctx : LinkContext α) (destination : UInt16) : LinkContext α :=
  ctx.queueTransmit (ctx.config.headerFrame .SEC_ACK destination) false

/-- `LinkContext::QueueLinkStatus`. -/
def queueLinkStatus (ctx : LinkContext α) (destination : UInt16) : LinkContext α :=
  ctx.queueTransmit (ctx.config.headerFrame .SEC_LINK_STATUS destination) false

/-- `LinkContext::QueueResetLinks`. -/
def queueResetLinks (ctx : LinkContext α) (destination : UInt16) : LinkContext α :=
  ctx.queueTransmit (ctx.config.headerFrame .PRI_RESET_LINK_STATES destination) true

/-- `LinkContext::QueueRequestLinkStatus`. -/
def queueRequestLinkStatus (ctx : LinkContext α) (destination : UInt16) : LinkContext α :=
  ctx.queueTransmit (ctx.config.headerFrame .PRI_REQUEST_LINK_STATUS destination) true

/-! ## Helpers of the states -/

/-- `LinkContext::ResetRetry`. -/
def resetRetry (ctx : LinkContext α) : LinkContext α :=
  { ctx with numRetryRemaining := ctx.config.NumRetry }

/-- `LinkContext::PushDataUp`. -/
def pushDataUp (ctx : LinkContext α) (message : Message α) : LinkContext α :=
  ctx.emit (.OnReceive message)

/-- `LinkContext::CompleteSendOperation`. -/
def completeSendOperation (ctx : LinkContext α) : LinkContext α :=
  { ctx with pSegments := none }.emit .OnTxReady

/-- `LinkContext::StartResponseTimer`. -/
def startResponseTimer (ctx : LinkContext α) : LinkContext α := { ctx with rspTimeoutTimer := true }

/-- `LinkContext::CancelTimer`. -/
def cancelTimer (ctx : LinkContext α) : LinkContext α := { ctx with rspTimeoutTimer := false }

/-- The state returned by a handler of the primary station is installed. -/
def priState (ctx : LinkContext α) (state : PriState) : LinkContext α :=
  { ctx with pPriState := state }

/-- The state returned by a handler of the secondary station is installed. -/
def secState (ctx : LinkContext α) (state : SecState) : LinkContext α :=
  { ctx with pSecState := state }

/-- Sends the current segment as confirmed user data, with the next frame count bit. -/
def sendConfirmed (ctx : LinkContext α) (segments : TransportSegment α) : LinkContext α :=
  (ctx.queueTransmit
    (ctx.config.formatPrimaryBufferWithConfirmed segments.addresses segments.current
      ctx.nextWriteFCB) true).priState .ConfUserDataTransmitWait

/-- `Failure` of `PLLS_ResetLinkWait` and `PLLS_ConfDataWait`. -/
def failure (ctx : LinkContext α) : LinkContext α :=
  ctx.cancelTimer.completeSendOperation.priState .Idle

/-- `ITransportSegment::Advance`, with what follows when segments are left and when the message is
done. A missing message cannot be advanced. -/
def advance (ctx : LinkContext α) (more : LinkContext α → TransportSegment α → LinkContext α) :
    LinkContext α :=
  match ctx.pSegments with
  | none => ctx
  | some segments =>
    let ctx := ctx.emit (.Advance segments.current)
    match segments.rest with
    | [] => ctx.completeSendOperation.priState .Idle
    | next :: rest =>
      let segments := { segments with current := next, rest := rest }
      more { ctx with pSegments := some segments } segments

/-! ## The primary station -/

/-- `PriStateBase::TrySendConfirmed`: only `PLLS_Idle` starts a transmission. -/
def trySendConfirmed (ctx : LinkContext α) (segments : TransportSegment α) : LinkContext α :=
  match ctx.pPriState with
  | .Idle =>
    if ctx.isRemoteReset then ctx.resetRetry.sendConfirmed segments
    else
      (ctx.resetRetry.queueResetLinks segments.addresses.destination).priState
        .LinkResetTransmitWait
  | _ => ctx

/-- Sends the current segment as unconfirmed user data. -/
def sendUnconfirmed (ctx : LinkContext α) (segments : TransportSegment α) : LinkContext α :=
  (ctx.queueTransmit
    (ctx.config.formatPrimaryBufferWithUnconfirmed segments.addresses segments.current)
      true).priState .SendUnconfirmedTransmitWait

/-- `PriStateBase::TrySendUnconfirmed`. -/
def trySendUnconfirmed (ctx : LinkContext α) (segments : TransportSegment α) : LinkContext α :=
  match ctx.pPriState with
  | .Idle => ctx.sendUnconfirmed segments
  | _ => ctx

/-- `PriStateBase::TrySendRequestLinkStatus`. -/
def trySendRequestLinkStatus (ctx : LinkContext α) : LinkContext α :=
  match ctx.pPriState with
  | .Idle =>
    (({ ctx with keepAliveTimeout := false }.queueRequestLinkStatus ctx.config.RemoteAddr).emit
      .OnKeepAliveInitiated).priState .RequestLinkStatusTransmitWait
  | _ => ctx

/-- `PriStateBase::OnAck`. -/
def onAck (ctx : LinkContext α) (_rxBuffFull : Bool) : LinkContext α :=
  match ctx.pPriState with
  | .ResetLinkWait =>
    let ctx := { ctx with isRemoteReset := true, nextWriteFCB := true }.cancelTimer
    match ctx.pSegments with
    | none => ctx
    | some segments => (ctx.sendConfirmed segments).emit (.OnStateChange .RESET)
  | .ConfDataWait =>
    let ctx := { ctx with nextWriteFCB := !ctx.nextWriteFCB }.cancelTimer
    ctx.advance sendConfirmed
  | _ => ctx.unexpectedFrame

/-- `PriStateBase::OnNack`. -/
def onNack (ctx : LinkContext α) (rxBuffFull : Bool) : LinkContext α :=
  match ctx.pPriState with
  | .ResetLinkWait => ctx.failure
  | .ConfDataWait =>
    let ctx := ctx.emit (.OnStateChange .UNRESET)
    if rxBuffFull then ctx.failure
    else
      match ctx.pSegments with
      | none => ctx
      | some segments =>
        (ctx.resetRetry.cancelTimer.queueResetLinks segments.addresses.destination).priState
          .LinkResetTransmitWait
  | .RequestLinkStatusWait => ctx.cancelTimer.priState .Idle
  | _ => ctx.unexpectedFrame

/-- `PriStateBase::OnLinkStatus`. -/
def onLinkStatus (ctx : LinkContext α) (_rxBuffFull : Bool) : LinkContext α :=
  match ctx.pPriState with
  | .ResetLinkWait | .ConfDataWait => ctx.failure
  | .RequestLinkStatusWait => (ctx.cancelTimer.emit .OnKeepAliveSuccess).priState .Idle
  | _ => ctx.unexpectedFrame

/-- `PriStateBase::OnNotSupported`. -/
def onNotSupported (ctx : LinkContext α) (_rxBuffFull : Bool) : LinkContext α :=
  match ctx.pPriState with
  | .ResetLinkWait | .ConfDataWait => ctx.failure
  | .RequestLinkStatusWait => ctx.cancelTimer.priState .Idle
  | _ => ctx.unexpectedFrame

/-- `PriStateBase::OnTxReady`. -/
def priOnTxReady (ctx : LinkContext α) : LinkContext α :=
  match ctx.pPriState with
  | .SendUnconfirmedTransmitWait => ctx.advance sendUnconfirmed
  | .LinkResetTransmitWait => ctx.startResponseTimer.priState .ResetLinkWait
  | .ConfUserDataTransmitWait => ctx.startResponseTimer.priState .ConfDataWait
  | .RequestLinkStatusTransmitWait => ctx.startResponseTimer.priState .RequestLinkStatusWait
  | _ => ctx

/-- `PriStateBase::OnTimeout`, with `LinkContext::Retry`. -/
def onTimeout (ctx : LinkContext α) : LinkContext α :=
  match ctx.pPriState with
  | .ResetLinkWait =>
    if 0 < ctx.numRetryRemaining then
      ({ ctx with numRetryRemaining := ctx.numRetryRemaining - 1 }.queueResetLinks
        ctx.config.RemoteAddr).priState .LinkResetTransmitWait
    else ctx.completeSendOperation.priState .Idle
  | .ConfDataWait =>
    if 0 < ctx.numRetryRemaining then
      let ctx := { ctx with numRetryRemaining := ctx.numRetryRemaining - 1 }
      match ctx.pSegments with
      | none => ctx
      | some segments => ctx.sendConfirmed segments
    else (ctx.emit (.OnStateChange .UNRESET)).completeSendOperation.priState .Idle
  | .RequestLinkStatusWait => (ctx.emit .OnKeepAliveFailure).priState .Idle
  | _ => ctx

/-! ## The secondary station -/

/-- `SecStateBase::OnResetLinkStates`. -/
def onResetLinkStates (ctx : LinkContext α) (source : UInt16) : LinkContext α :=
  match ctx.pSecState with
  | .NotReset | .Reset =>
    { ctx.queueAck source with nextReadFCB := true }.secState .TransmitWaitReset
  | _ => ctx

/-- `SecStateBase::OnRequestLinkStatus`. -/
def onRequestLinkStatus (ctx : LinkContext α) (source : UInt16) : LinkContext α :=
  match ctx.pSecState with
  | .NotReset => (ctx.queueLinkStatus source).secState .TransmitWaitNotReset
  | .Reset => (ctx.queueLinkStatus source).secState .TransmitWaitReset
  | _ => ctx

/-- `SecStateBase::OnTestLinkStatus`. -/
def onTestLinkStatus (ctx : LinkContext α) (source : UInt16) (fcb : Bool) : LinkContext α :=
  match ctx.pSecState with
  | .NotReset => ctx.unexpectedFrame
  | .Reset =>
    if ctx.nextReadFCB = fcb then
      { ctx.queueAck source with nextReadFCB := !ctx.nextReadFCB }.secState .TransmitWaitReset
    else ctx
  | _ => ctx

/-- `SecStateBase::OnConfirmedUserData`. -/
def onConfirmedUserData (ctx : LinkContext α) (source : UInt16) (fcb : Bool)
    (message : Message α) : LinkContext α :=
  match ctx.pSecState with
  | .NotReset => ctx.unexpectedFrame
  | .Reset =>
    let acked := ctx.queueAck source
    if ctx.nextReadFCB = fcb then
      ({ acked with nextReadFCB := !ctx.nextReadFCB }.pushDataUp message).secState
        .TransmitWaitReset
    else acked.secState .TransmitWaitReset
  | _ => ctx

/-- `SecStateBase::OnTxReady`. -/
def secOnTxReady (ctx : LinkContext α) : LinkContext α :=
  match ctx.pSecState with
  | .TransmitWaitReset => ctx.secState .Reset
  | .TransmitWaitNotReset => ctx.secState .NotReset
  | _ => ctx

/-! ## The events of the layer -/

/-- `LinkContext::OnLowerLayerUp`. -/
def onLowerLayerUp (ctx : LinkContext α) (now : ℤ) : LinkContext α :=
  if ctx.isOnline then ctx
  else
    ({ ctx with isOnline := true, lastMessageTimestamp := now }.emit
      (.OnStateChange .UNRESET)).emit .OnLowerLayerUp

/-- `LinkContext::OnLowerLayerDown`. -/
def onLowerLayerDown (ctx : LinkContext α) : LinkContext α :=
  if !ctx.isOnline then ctx
  else
    ({ ctx with
      isOnline := false
      keepAliveTimeout := false
      isRemoteReset := false
      pSegments := none
      txMode := .Idle
      pendingPriTx := none
      pendingSecTx := none
      rspTimeoutTimer := false
      pPriState := .Idle
      pSecState := .NotReset }.emit (.OnStateChange .UNRESET)).emit .OnLowerLayerDown

/-- `LinkContext::TryPendingTx` for the secondary station. -/
def tryPendingSecTx (ctx : LinkContext α) : LinkContext α :=
  match ctx.txMode, ctx.pendingSecTx with
  | .Idle, some frame =>
    { ctx with pendingSecTx := none, txMode := .Secondary }.emit (.BeginTransmit frame)
  | _, _ => ctx

/-- `LinkContext::TryPendingTx` for the primary station. -/
def tryPendingPriTx (ctx : LinkContext α) : LinkContext α :=
  match ctx.txMode, ctx.pendingPriTx with
  | .Idle, some frame =>
    { ctx with pendingPriTx := none, txMode := .Primary }.emit (.BeginTransmit frame)
  | _, _ => ctx

/-- `LinkContext::TryStartTransmission`. -/
def tryStartTransmission (ctx : LinkContext α) : LinkContext α :=
  let ctx := if ctx.keepAliveTimeout then ctx.trySendRequestLinkStatus else ctx
  match ctx.pSegments with
  | none => ctx
  | some segments =>
    if ctx.config.UseConfirms then ctx.trySendConfirmed segments
    else ctx.trySendUnconfirmed segments

/-- `LinkLayer::OnTxReady`, with `LinkContext::OnTxReady`. -/
def onTxReady (ctx : LinkContext α) : LinkContext α :=
  match ctx.txMode with
  | .Idle => ctx
  | .Primary =>
    { ctx with txMode := .Idle }.tryPendingSecTx.tryPendingPriTx.priOnTxReady.tryStartTransmission
  | .Secondary =>
    { ctx with txMode := .Idle }.tryPendingSecTx.tryPendingPriTx.secOnTxReady.tryStartTransmission

/-- `LinkLayer::Send`, with `LinkContext::SetTxSegment`. -/
def send (ctx : LinkContext α) (segments : TransportSegment α) : LinkContext α :=
  if ctx.isOnline ∧ ctx.pSegments.isNone then
    { ctx with pSegments := some segments }.tryStartTransmission
  else ctx

/-- `LinkContext::OnResponseTimeout`, when the response timer fires. -/
def onResponseTimeout (ctx : LinkContext α) : LinkContext α :=
  if ctx.rspTimeoutTimer then ctx.cancelTimer.onTimeout.tryStartTransmission else ctx

/-- `LinkContext::OnKeepAliveTimeout`. The keep-alive timer runs as long as the layer is online. -/
def onKeepAliveTimeout (ctx : LinkContext α) (now : ℤ) : LinkContext α :=
  if !ctx.isOnline then ctx
  else if now - ctx.lastMessageTimestamp ≥ ctx.config.KeepAliveTimeout then
    { ctx with lastMessageTimestamp := now, keepAliveTimeout := true }.tryStartTransmission
  else ctx.tryStartTransmission

/-- The switch of `LinkContext::OnFrame` over the function of the frame. -/
def dispatch (ctx : LinkContext α) (frame : LinkLayerFrame α) : LinkContext α :=
  let header := frame.fields
  let message : Message α := ⟨⟨header.src, header.dest⟩, frame.payload⟩
  match header.func with
  | .SEC_ACK => ctx.onAck header.fcvdfc
  | .SEC_NACK => ctx.onNack header.fcvdfc
  | .SEC_LINK_STATUS => ctx.onLinkStatus header.fcvdfc
  | .SEC_NOT_SUPPORTED => ctx.onNotSupported header.fcvdfc
  | .PRI_TEST_LINK_STATES => ctx.onTestLinkStatus header.src header.fcb
  | .PRI_RESET_LINK_STATES => ctx.onResetLinkStates header.src
  | .PRI_REQUEST_LINK_STATUS => ctx.onRequestLinkStatus header.src
  | .PRI_CONFIRMED_USER_DATA => ctx.onConfirmedUserData header.src header.fcb message
  | .PRI_UNCONFIRMED_USER_DATA => ctx.pushDataUp message
  | .INVALID => ctx

/-- `LinkLayer::OnFrame`, with `LinkContext::OnFrame`. -/
def onFrame (ctx : LinkContext α) (frame : LinkLayerFrame α) (now : ℤ) : LinkContext α :=
  let header := frame.fields
  if !ctx.isOnline then ctx
  else if header.isFromMaster = ctx.config.IsMaster then
    { ctx with
      statistics := { ctx.statistics with
        numBadMasterBit := ctx.statistics.numBadMasterBit + 1 } }
  else if header.dest ≠ ctx.config.LocalAddr then
    { ctx with
      statistics := { ctx.statistics with
        numUnknownDestination := ctx.statistics.numUnknownDestination + 1 } }.emit
      (.OnUnknownDestinationAddress header.dest)
  else if header.src ≠ ctx.config.RemoteAddr ∧ !ctx.config.respondToAnySource then
    { ctx with
      statistics := { ctx.statistics with
        numUnknownSource := ctx.statistics.numUnknownSource + 1 } }.emit
      (.OnUnknownSourceAddress header.src)
  else ({ ctx with lastMessageTimestamp := now }.dispatch frame).tryStartTransmission

end LinkContext

end OpenDnp3.Link
