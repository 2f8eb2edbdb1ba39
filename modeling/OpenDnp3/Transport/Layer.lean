import OpenDnp3.Link.Progress
import OpenDnp3.Transport.TransportSpec

/-!
# The transport layer over a link layer

`transport/TransportLayer.cpp` and `transport/TransportStack.cpp`. The transport layer gives its
transmitter to the link layer, which takes one segment after the other from it, and is told the end
of a message through the queue of the executor: `LinkContext::CompleteSendOperation` only posts the
call of `OnTxReady`, which runs whenever the executor gets to it. The layer above sends while it is
handed a message, told that the session has started or told that a message is done, and by itself.
-/

namespace OpenDnp3.Transport

open App (Message)
open Link (LinkContext LinkEvent LinkLayerConfig LinkLayerFrame LinkOutput Station)

/-! ## What the link layer sees of a message -/

/-- The addresses as the link layer has them. -/
def linkAddresses (addresses : App.Addresses) : Link.Addresses :=
  ⟨UInt16.ofNat addresses.source, UInt16.ofNat addresses.destination⟩

/-- A message as the link layer hands it up. -/
def appMessage (message : Link.Message (List UInt8)) : Message :=
  ⟨⟨message.addresses.source.toNat, message.addresses.destination.toNat⟩, message.payload.getD []⟩

namespace TransportTx

/-- `TransportTx` as the `ITransportSegment` of the link layer: the segment that `GetSegment`
returns, and those that follow it. -/
def view (tx : TransportTx) : Link.TransportSegment (List UInt8) where
  addresses := linkAddresses tx.message.addresses
  current := tx.getSegment.1
  rest := tx.segments.tail.map (·.payload)

/-- The link layer calls `Advance`, after it has called `GetSegment`. -/
def advanced (tx : TransportTx) : TransportTx := tx.getSegment.2.advance.2

end TransportTx

/-! ## The transport layer -/

/-- `TransportLayer`, less the layers above and below. -/
structure TransportLayer where
  isOnline : Bool := false
  isSending : Bool := false
  receiver : TransportRx
  transmitter : TransportTx

namespace TransportLayer

/-- `TransportLayer::TransportLayer`. -/
def init (maxRxFragSize : ℕ) : TransportLayer where
  receiver := { maxRxFragSize }
  transmitter := { message := TransportRx.noMessage }

/-- `TransportLayer::BeginTransmit`: the message that is given to `ILinkLayer::Send`, as the link
layer sees it. -/
def beginTransmit (t : TransportLayer) (message : Message) :
    Option (Link.TransportSegment (List UInt8)) × TransportLayer :=
  if !t.isOnline then (none, t)
  else if message.payload.isEmpty then (none, t)
  else if t.isSending then (none, t)
  else
    let t := { t with isSending := true, transmitter := t.transmitter.configure message }
    (some t.transmitter.view, t)

/-- `TransportLayer::OnReceive`: the message for the layer above. -/
def onReceive (t : TransportLayer) (message : Message) : Option Message × TransportLayer :=
  if t.isOnline then
    let (asdu, receiver) := t.receiver.processReceive message
    (if asdu.payload.isEmpty then none else some asdu, { t with receiver })
  else (none, t)

/-- `TransportLayer::OnTxReady`: whether the layer above is told. -/
def onTxReady (t : TransportLayer) : Bool × TransportLayer :=
  if !t.isOnline then (false, t)
  else if !t.isSending then (false, t)
  else (true, { t with isSending := false })

/-- `TransportLayer::OnLowerLayerUp`: whether the layer above is told. -/
def onLowerLayerUp (t : TransportLayer) : Bool × TransportLayer :=
  if t.isOnline then (false, t) else (true, { t with isOnline := true })

/-- `TransportLayer::OnLowerLayerDown`: whether the layer above is told. -/
def onLowerLayerDown (t : TransportLayer) : Bool × TransportLayer :=
  if !t.isOnline then (false, t)
  else (true,
    { t with isOnline := false, isSending := false, receiver := t.receiver.clearRxBuffer })

/-- What the layer above sends, one message after the other: the messages that are accepted, as the
link layer sees them. -/
def beginTransmits (t : TransportLayer) :
    List Message → List (Message × Link.TransportSegment (List UInt8)) × TransportLayer
  | [] => ([], t)
  | message :: messages =>
    let (segments, t) := t.beginTransmit message
    let (accepted, t) := t.beginTransmits messages
    ((segments.map (message, ·)).toList ++ accepted, t)

/-- The posted call of `OnTxReady`. -/
def isTxReady : LinkOutput (List UInt8) → Bool
  | .OnTxReady => true
  | _ => false

/-- The calls of the link layer that concern the transmitter. -/
def hear (t : TransportLayer) : LinkOutput (List UInt8) → TransportLayer
  | .Advance _ => { t with transmitter := t.transmitter.advanced }
  | _ => t

end TransportLayer

/-! ## The stack -/

/-- What happens to a stack. -/
inductive StackEvent where
  /-- The channel opens. The application sends while it is told so. -/
  | lowerLayerUp (now : ℤ) (replies : List Message)
  /-- The channel closes. -/
  | lowerLayerDown
  /-- A frame arrives. The application sends while it is handed a message. -/
  | frame (frame : LinkLayerFrame (List UInt8)) (now : ℤ) (replies : List Message)
  /-- The channel reports the end of a transmission. -/
  | txReady
  /-- The response timer of the link layer fires. -/
  | responseTimeout
  /-- The keep-alive timer of the link layer fires. -/
  | keepAliveTimeout (now : ℤ)
  /-- The application sends by itself. -/
  | beginTransmit (message : Message)
  /-- The executor runs the oldest posted `OnTxReady`. The application sends while it is told so. -/
  | runPosted (replies : List Message)

/-- What the application sends in an event. -/
def StackEvent.messages : StackEvent → List Message
  | .lowerLayerUp _ replies => replies
  | .frame _ _ replies => replies
  | .beginTransmit message => [message]
  | .runPosted replies => replies
  | _ => []

/-- `TransportStack`, with the queue of the executor and what has passed the border to the
application. -/
structure TransportStack where
  station : Station (List UInt8)
  transport : TransportLayer
  /-- The posted calls of `OnTxReady`, oldest first. Each is the end of the message with this number
  among the accepted ones, which the code does not know. -/
  posted : List ℕ := []
  /-- The messages that `BeginTransmit` has accepted, oldest first. -/
  accepted : List Message := []
  /-- The messages that the application has been handed, oldest first. -/
  delivered : List Message := []

namespace TransportStack

/-- `TransportStack::TransportStack`. -/
def init (maxRxFragSize : ℕ) (config : LinkLayerConfig) : TransportStack where
  station := Station.init config
  transport := TransportLayer.init maxRxFragSize

/-- What the link layer tells its surroundings when it handles the event. -/
def outputs (station : Station (List UInt8)) (e : LinkEvent (List UInt8)) :
    List (LinkOutput (List UInt8)) :=
  if station.occurs e then (station.handled e).outputs else []

/-- `LinkContext::pSegments` points to the transmitter, so a message in progress is the one that the
transmitter has now. -/
def pointed (station : Station (List UInt8)) (transmitter : TransportTx) : Station (List UInt8) :=
  { station with
    ctx := { station.ctx with pSegments := station.ctx.pSegments.map fun _ => transmitter.view } }

/-- The link layer handles an event, in which the application has sent the given messages. Its calls
of `Advance` go to the transmitter, and those of `OnTxReady` to the executor. -/
def handle (s : TransportStack) (e : LinkEvent (List UInt8)) (transport : TransportLayer)
    (messages : List Message) : TransportStack :=
  let calls := outputs s.station e
  let accepted := s.accepted ++ messages
  let transport := calls.foldl TransportLayer.hear transport
  { s with
    station := pointed (s.station.step e) transport.transmitter
    transport
    posted := s.posted ++ (calls.filter TransportLayer.isTxReady).map fun _ => accepted.length
    accepted }

/-- The application sends outside of a call of the link layer. -/
def sends (s : TransportStack) (messages : List Message) : TransportStack :=
  let (accepted, transport) := s.transport.beginTransmits messages
  match accepted with
  | [] => s
  | (message, segments) :: _ => s.handle (.send segments) transport [message]

/-- One step of a stack. The link layer calls the layer above at most once in an event, and does not
use the transmitter before that, so what is sent from within the call can be worked out first. -/
def step (s : TransportStack) : StackEvent → TransportStack
  | .lowerLayerUp now replies =>
    if s.station.ctx.isOnline then s
    else
      let (told, transport) := s.transport.onLowerLayerUp
      let (accepted, transport) := transport.beginTransmits (if told then replies else [])
      s.handle (.lowerLayerUp now (accepted.map Prod.snd)) transport (accepted.map Prod.fst)
  | .lowerLayerDown =>
    if s.station.ctx.isOnline then s.handle .lowerLayerDown s.transport.onLowerLayerDown.2 [] else s
  | .frame frame now replies =>
    match s.station.ctx.handsUp frame with
    | none => s.handle (.frame frame now []) s.transport []
    | some message =>
      let (asdu, transport) := s.transport.onReceive (appMessage message)
      let (accepted, transport) := transport.beginTransmits (if asdu.isSome then replies else [])
      { s with delivered := s.delivered ++ asdu.toList }.handle
        (.frame frame now (accepted.map Prod.snd)) transport (accepted.map Prod.fst)
  | .txReady => s.handle .txReady s.transport []
  | .responseTimeout => s.handle .responseTimeout s.transport []
  | .keepAliveTimeout now => s.handle (.keepAliveTimeout now) s.transport []
  | .beginTransmit message => s.sends [message]
  | .runPosted replies =>
    match s.posted with
    | [] => s
    | _ :: posted =>
      let (told, transport) := s.transport.onTxReady
      { s with posted, transport }.sends (if told then replies else [])

end TransportStack

end OpenDnp3.Transport
