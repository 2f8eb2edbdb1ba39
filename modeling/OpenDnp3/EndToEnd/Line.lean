import OpenDnp3.Link.Stream
import OpenDnp3.Transport.Layer

/-!
# Two stacks on a line

A master and an outstation, each a transport layer over a link layer on a channel of its own
(`transport/`, `link/`, `asiodnp3/IOHandler.cpp`). The line carries the bytes that one channel
writes to the other one, in order; each end learns of a new connection and of its loss at a time of
its own, and reads as much as it likes at a time.
-/

namespace OpenDnp3.EndToEnd

open App (Message)
open Link (LinkLayerConfig LinkLayerParser LinkLayerFrame SinkFrame)
open Transport (StackEvent TransportStack)

/-- The ends of a line. -/
inductive Side where
  | master
  | outstation
  deriving DecidableEq, Repr

/-- The other end. -/
def Side.other : Side → Side
  | .master => .outstation
  | .outstation => .master

/-! ## One end -/

/-- A stack, its channel, and the bytes on the way to it. -/
structure Peer where
  stack : TransportStack
  /-- The parser of the channel. -/
  parser : LinkLayerParser := .init
  /-- The bytes of the present connection that have not been read. -/
  incoming : List UInt8 := []
  /-- There is a new connection, of which the stack has not been told. -/
  isNew : Bool := false
  /-- The number of messages that had been accepted when the present connection was made. -/
  acceptedBefore : ℕ := 0
  /-- The number of messages that had been delivered when the present connection was made. -/
  deliveredBefore : ℕ := 0

/-- What a stack does by itself, or hears of from the executor and the channel. -/
inductive Activity where
  /-- The channel reports the end of a transmission. -/
  | txReady
  /-- The response timer of the link layer fires. -/
  | responseTimeout
  /-- The keep-alive timer of the link layer fires. -/
  | keepAliveTimeout (now : ℤ)
  /-- The application sends by itself. -/
  | beginTransmit (message : Message)
  /-- The executor runs the oldest posted `OnTxReady`, while the application sends. -/
  | runPosted (replies : List Message)

/-- The event of the stack. -/
def Activity.event : Activity → StackEvent
  | .txReady => .txReady
  | .responseTimeout => .responseTimeout
  | .keepAliveTimeout now => .keepAliveTimeout now
  | .beginTransmit message => .beginTransmit message
  | .runPosted replies => .runPosted replies

/-- What happens at one end of a line. -/
inductive PeerEvent where
  /-- `IOHandler::OnNewChannel` tells the session of the connection. -/
  | up (now : ℤ) (replies : List Message)
  /-- The channel reports an error, and the session is told that it is gone. -/
  | lost
  | act (activity : Activity)
  /-- `IOHandler::OnReadComplete`, for at most so many bytes. The application sends when it is
  handed a message of the frame with the given index. -/
  | read (numBytes : ℕ) (now : ℤ) (replies : ℕ → List Message)

namespace Peer

/-- The stack has a session. -/
def isOnline (p : Peer) : Bool := p.stack.station.ctx.isOnline

/-- The messages that have been accepted in the present connection. -/
def accepted (p : Peer) : List Message := p.stack.accepted.drop p.acceptedBefore

/-- The messages that have been delivered in the present connection. -/
def delivered (p : Peer) : List Message := p.stack.delivered.drop p.deliveredBefore

/-- The bytes of a read: no more than there are, and than there is room for. -/
def readBytes (p : Peer) (numBytes : ℕ) : List UInt8 :=
  p.incoming.take (min numBytes p.parser.buffer.numWriteBytes)

/-- A read is never larger than the space of the parser. -/
theorem length_readBytes_le (p : Peer) (numBytes : ℕ) :
    (p.readBytes numBytes).length ≤ p.parser.buffer.numWriteBytes := by
  rw [readBytes, List.length_take]
  omega

/-- `LinkLayerParser::OnRead`. -/
def onRead (p : Peer) (numBytes : ℕ) : List SinkFrame × LinkLayerParser :=
  p.parser.onRead (p.readBytes numBytes) (p.length_readBytes_le numBytes)

/-- What the stack is told. -/
def events (p : Peer) : PeerEvent → List StackEvent
  | .up now replies => if p.isNew then [.lowerLayerUp now replies] else []
  | .lost => [.lowerLayerDown]
  | .act activity => [activity.event]
  | .read numBytes now replies =>
    if p.isOnline then
      (p.onRead numBytes).1.zipIdx.map fun frame =>
        .frame (Channel.linkFrame frame.1) now (replies frame.2)
    else []

/-- What becomes of the channel. -/
def channel (p : Peer) : PeerEvent → Peer
  | .up _ _ => { p with isNew := false }
  | .lost => { p with isNew := false, parser := p.parser.reset }
  | .act _ => p
  | .read numBytes _ _ =>
    if p.isOnline then
      { p with
        parser := (p.onRead numBytes).2
        incoming := p.incoming.drop (p.readBytes numBytes).length }
    else p

/-- What happens at the end. -/
def handle (p : Peer) (e : PeerEvent) : Peer :=
  { p.channel e with stack := Machine.run TransportStack.step p.stack (p.events e) }

/-- What the stack has handed to the channel from one state to another, as bytes. -/
def written (p p' : Peer) : List UInt8 :=
  (p'.stack.station.transmissions.drop p.stack.station.transmissions.length).flatMap
    LinkLayerFrame.bytes

/-- Bytes are on their way. -/
def arrive (p : Peer) (bytes : List UInt8) : Peer := { p with incoming := p.incoming ++ bytes }

/-- There is a new connection. -/
def connect (p : Peer) : Peer where
  stack := p.stack
  parser := p.parser.reset
  isNew := true
  acceptedBefore := p.stack.accepted.length
  deliveredBefore := p.stack.delivered.length

end Peer

/-! ## The line -/

/-- Both ends of a line. -/
abbrev Line := Side → Peer

/-- What happens on a line. -/
inductive LineEvent where
  /-- A connection is made, when both ends have learnt that the last one is lost. -/
  | connect
  | peer (side : Side) (e : PeerEvent)

namespace Line

/-- Both stacks before their first connection. -/
def init (maxRxFragSize : Side → ℕ) (config : Side → LinkLayerConfig) : Line :=
  fun side => { stack := TransportStack.init (maxRxFragSize side) (config side) }

/-- One step of a line. What one end writes is on its way to the other one at once. -/
def step (l : Line) : LineEvent → Line
  | .connect =>
    if (l .master).isOnline || (l .outstation).isOnline then l else fun side => (l side).connect
  | .peer side e => fun side' =>
    if side' = side then (l side).handle e
    else (l side').arrive ((l side).written ((l side).handle e))

end Line

end OpenDnp3.EndToEnd
