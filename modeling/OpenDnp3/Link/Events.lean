import OpenDnp3.Lib.Run
import OpenDnp3.Link.Context

/-!
# Runs of the link layer

A link layer over any channel and under any upper layer. The upper layer may call `Send` again
while it is handed a message or told that the session has started; it is told the end of a message
through the executor, so what it sends then is an event of its own. The channel reports the end of a
transmission asynchronously.

A `Station` keeps what the layer itself takes to be in flight. A report that comes while it takes
nothing to be in flight does nothing (`LinkContext.onTxReady`), so it is left out here. The frames
that the channel is really sending are those of a `Wire`.
-/

namespace OpenDnp3.Link

namespace LinkContext

variable {α : Type*}

/-! ## Calls of `Send` from within the upper layer -/

/-- The upper layer calls `LinkLayer::Send` for each of the messages before it returns. -/
def sendAll (ctx : LinkContext α) (replies : List (TransportSegment α)) : LinkContext α :=
  replies.foldl send ctx

/-- `LinkContext::PushDataUp` to an upper layer that sends. -/
def pushDataUpSending (ctx : LinkContext α) (message : Message α)
    (replies : List (TransportSegment α)) : LinkContext α :=
  (ctx.pushDataUp message).sendAll replies

/-- `SecStateBase::OnConfirmedUserData` under an upper layer that sends. -/
def onConfirmedUserDataSending (ctx : LinkContext α) (source : UInt16) (fcb : Bool)
    (message : Message α) (replies : List (TransportSegment α)) : LinkContext α :=
  match ctx.pSecState with
  | .NotReset => ctx.unexpectedFrame
  | .Reset =>
    let acked := ctx.queueAck source
    if ctx.nextReadFCB = fcb then
      ({ acked with nextReadFCB := !ctx.nextReadFCB }.pushDataUpSending message
        replies).secState .TransmitWaitReset
    else acked.secState .TransmitWaitReset
  | _ => ctx

/-- The switch of `LinkContext::OnFrame` under an upper layer that sends: only user data reaches
it. -/
def dispatchSending (ctx : LinkContext α) (frame : LinkLayerFrame α)
    (replies : List (TransportSegment α)) : LinkContext α :=
  let header := frame.fields
  let message : Message α := ⟨⟨header.src, header.dest⟩, frame.payload⟩
  match header.func with
  | .PRI_CONFIRMED_USER_DATA =>
    ctx.onConfirmedUserDataSending header.src header.fcb message replies
  | .PRI_UNCONFIRMED_USER_DATA => ctx.pushDataUpSending message replies
  | _ => ctx.dispatch frame

/-- `LinkContext::OnFrame` dispatches the frame: it is from the other side, and to and from the
right addresses. -/
def accepts (ctx : LinkContext α) (frame : LinkLayerFrame α) : Bool :=
  ctx.isOnline && frame.fields.isFromMaster != ctx.config.IsMaster &&
    frame.fields.dest == ctx.config.LocalAddr &&
    (frame.fields.src == ctx.config.RemoteAddr || ctx.config.respondToAnySource)

/-- `LinkLayer::OnFrame` under an upper layer that sends. -/
def onFrameSending (ctx : LinkContext α) (frame : LinkLayerFrame α) (now : ℤ)
    (replies : List (TransportSegment α)) : LinkContext α :=
  if ctx.accepts frame then
    ({ ctx with lastMessageTimestamp := now }.dispatchSending frame replies).tryStartTransmission
  else ctx.onFrame frame now

/-- `LinkContext::OnLowerLayerUp` under an upper layer that sends. -/
def onLowerLayerUpSending (ctx : LinkContext α) (now : ℤ)
    (replies : List (TransportSegment α)) : LinkContext α :=
  if ctx.isOnline then ctx else (ctx.onLowerLayerUp now).sendAll replies

end LinkContext

/-- What happens to a link layer. -/
inductive LinkEvent (α : Type*) where
  /-- The channel opens. The upper layer sends while it is told so. -/
  | lowerLayerUp (now : ℤ) (replies : List (TransportSegment α))
  /-- The channel closes. -/
  | lowerLayerDown
  /-- A frame arrives. The upper layer sends while it is handed user data. -/
  | frame (frame : LinkLayerFrame α) (now : ℤ) (replies : List (TransportSegment α))
  /-- The channel reports the end of a transmission. -/
  | txReady
  /-- The upper layer sends. -/
  | send (segments : TransportSegment α)
  /-- The response timer fires. -/
  | responseTimeout
  /-- The keep-alive timer fires. -/
  | keepAliveTimeout (now : ℤ)

/-- The frame of a call of `ILinkTx::BeginTransmit`. -/
def LinkOutput.transmitted {α : Type*} : LinkOutput α → Option (LinkLayerFrame α)
  | .BeginTransmit frame => some frame
  | _ => none

/-- The status of a call of `ILinkListener::OnStateChange`. -/
def LinkOutput.status {α : Type*} : LinkOutput α → Option LinkStatus
  | .OnStateChange status => some status
  | _ => none

namespace LinkContext

variable {α : Type*}

/-- The layer handles an event. -/
def handle (ctx : LinkContext α) : LinkEvent α → LinkContext α
  | .lowerLayerUp now replies => ctx.onLowerLayerUpSending now replies
  | .lowerLayerDown => ctx.onLowerLayerDown
  | .frame frame now replies => ctx.onFrameSending frame now replies
  | .txReady => ctx.onTxReady
  | .send segments => ctx.send segments
  | .responseTimeout => ctx.onResponseTimeout
  | .keepAliveTimeout now => ctx.onKeepAliveTimeout now

/-- The frames that the layer has handed to the channel. -/
def transmitted (ctx : LinkContext α) : List (LinkLayerFrame α) :=
  ctx.outputs.filterMap LinkOutput.transmitted

end LinkContext

/-- A link layer, what it takes to be in flight, and what it has told. -/
structure Station (α : Type*) where
  ctx : LinkContext α
  /-- The frames whose end the layer waits for. -/
  inFlight : List (LinkLayerFrame α) := []
  /-- What the listener has been told, oldest first. -/
  history : List (LinkOutput α) := []

namespace Station

variable {α : Type*}

/-- A link layer that has not been started. -/
def init (config : LinkLayerConfig) : Station α where
  ctx := { config := config }

/-- A report concerns the layer only while it waits for one. -/
def occurs (s : Station α) : LinkEvent α → Bool
  | .txReady => !s.inFlight.isEmpty
  | _ => true

/-- The frames whose end the layer still waits for when it handles the event. With its session it
forgets them, though the channel goes on sending. -/
def stillInFlight (s : Station α) : LinkEvent α → List (LinkLayerFrame α)
  | .txReady => s.inFlight.tail
  | .lowerLayerDown => []
  | _ => s.inFlight

/-- What the layer does on an event, with the outputs of that event alone. -/
def handled (s : Station α) (e : LinkEvent α) : LinkContext α :=
  { s.ctx with outputs := [] }.handle e

/-- One step of a link layer and its environment. -/
def step (s : Station α) (e : LinkEvent α) : Station α :=
  if s.occurs e then
    { ctx := s.handled e
      inFlight := s.stillInFlight e ++ (s.handled e).transmitted
      history := s.history ++ (s.handled e).outputs }
  else s

end Station

end OpenDnp3.Link
