import Mathlib.Logic.Function.Basic
import OpenDnp3.Lib.Run
import OpenDnp3.Link.Parser

/-!
# The sessions of a channel

`asiodnp3/IOHandler.cpp` and the flags of `asiopal/IAsyncChannel.h`: a handler opens a channel,
reads frames from it for its sessions, and writes what they transmit. The sessions and the class
that derives from `IOHandler` are any types with the virtual methods (`ILinkSession`, `Derived`).
What is told to the sessions, to the channel and to the listener is in the log.
-/

namespace OpenDnp3.Channel

open Link

/-! ## Channels -/

/-- `IAsyncChannel`. -/
structure IAsyncChannel where
  callbacks : Bool := false
  is_shutting_down : Bool := false
  reading : Bool := false
  writing : Bool := false
  deriving DecidableEq, Repr

namespace IAsyncChannel

/-- `IAsyncChannel::SetCallbacks`. -/
def setCallbacks (channel : IAsyncChannel) : IAsyncChannel := { channel with callbacks := true }

/-- `IAsyncChannel::CanRead`. -/
def canRead (channel : IAsyncChannel) : Bool :=
  channel.callbacks && !channel.is_shutting_down && !channel.reading

/-- `IAsyncChannel::CanWrite`. -/
def canWrite (channel : IAsyncChannel) : Bool :=
  channel.callbacks && !channel.is_shutting_down && !channel.writing

/-- `IAsyncChannel::BeginRead`. -/
def beginRead (channel : IAsyncChannel) : IAsyncChannel :=
  if channel.canRead then { channel with reading := true } else channel

/-- `IAsyncChannel::BeginWrite`. -/
def beginWrite (channel : IAsyncChannel) : IAsyncChannel :=
  if channel.canWrite then { channel with writing := true } else channel

/-- `IAsyncChannel::OnReadCallback`, less the call of the callback. -/
def endRead (channel : IAsyncChannel) : IAsyncChannel := { channel with reading := false }

/-- `IAsyncChannel::OnWriteCallback`, less the call of the callback. -/
def endWrite (channel : IAsyncChannel) : IAsyncChannel := { channel with writing := false }

end IAsyncChannel

/-! ## Sessions -/

/-- The identity of a session, `std::shared_ptr<ILinkSession>`. -/
abbrev SessionId := ℕ

/-- `Route`. -/
structure Route where
  source : UInt16
  destination : UInt16
  deriving DecidableEq, Repr

/-- A call of a method of `ILinkSession`. -/
inductive SessionCall where
  | OnLowerLayerUp
  | OnLowerLayerDown
  | OnTxReady
  | OnFrame (frame : SinkFrame)
  deriving DecidableEq, Repr

/-- `ILinkSession` with the stack above it. A session may transmit before a call returns, and by
itself when a timer fires or the application sends; `κ` is what its surroundings contribute to a
call, `ω` what makes it act by itself. -/
class ILinkSession (σ : Type*) (κ ω δ : outParam (Type*)) where
  /-- A method is called. The data is what the session gives to `BeginTransmit` before it returns.
  -/
  call : σ → SessionCall → κ → σ × List δ
  act : σ → ω → σ × List δ

/-- `IOHandler::Session`. -/
structure Session where
  route : Route
  session : SessionId
  enabled : Bool := false
  online : Bool := false
  deriving DecidableEq, Repr

/-- `IOHandler::Transmission`. -/
structure Transmission (δ : Type*) where
  txdata : δ
  session : SessionId
  deriving DecidableEq, Repr

/-- `ChannelState`. -/
inductive ChannelState where
  | CLOSED
  | OPENING
  | OPEN
  | SHUTDOWN
  deriving DecidableEq, Repr

/-- What happens at the borders of a handler. -/
inductive Output (δ : Type*) where
  /-- A method of a session is called. -/
  | call (session : SessionId) (call : SessionCall)
  /-- A session has called `BeginTransmit` while there is a channel. -/
  | BeginTransmit (session : SessionId) (data : δ)
  /-- `IAsyncChannel::BeginWrite`. -/
  | BeginWrite (data : δ)
  /-- `IAsyncChannel::SetCallbacks`: the channel is the current one. -/
  | SetCallbacks
  /-- `IAsyncChannel::Shutdown` of the current channel. -/
  | Shutdown
  /-- `IAsyncChannel::Shutdown` of a channel that does not become the current one. -/
  | Refuse
  /-- `IChannelListener::OnStateChange`. -/
  | OnStateChange (state : ChannelState)
  deriving DecidableEq, Repr

/-- The virtual methods of `IOHandler`. A method, or what happens to the derived class by itself
(`ω`), ends in a call of `OnNewChannel` where the flag says so; `ε` is what its surroundings
contribute. -/
class Derived (α : Type*) (ε ω : outParam (Type*)) where
  beginChannelAccept : α → ε → α × Bool
  suspendChannelAccept : α → α
  shutdownImpl : α → α
  onChannelShutdown : α → ε → α × Bool
  act : α → ω → α × Bool

/-- `IOHandler`, with what derives from it and with its sessions. -/
structure IOHandler (α σ δ : Type*) where
  close_existing : Bool
  derived : α
  /-- The state of every session, registered or not. -/
  links : SessionId → σ
  isShutdown : Bool := false
  sessions : List Session := []
  txQueue : List (Transmission δ) := []
  parser : LinkLayerParser := .init
  channel : Option IAsyncChannel := none
  log : List (Output δ) := []

/-- What the surroundings contribute to the calls of an event. A session is called at most once in
each way, and once for every frame that is read. -/
structure Env (κ ε : Type*) where
  down : SessionId → κ
  up : SessionId → κ
  ready : SessionId → κ
  frame : ℕ → SessionId → κ
  accept : ε

namespace IOHandler

section Transmitting

variable {α σ κ ω δ : Type*}

/-- Something happens at the border. -/
def emit (h : IOHandler α σ δ) (output : Output δ) : IOHandler α σ δ :=
  { h with log := h.log ++ [output] }

/-- `IOHandler::CheckForSend`. -/
def checkForSend (h : IOHandler α σ δ) : IOHandler α σ δ :=
  match h.txQueue, h.channel with
  | transmission :: _, some channel =>
    if channel.canWrite then
      { h with channel := some channel.beginWrite }.emit (.BeginWrite transmission.txdata)
    else h
  | _, _ => h

/-- `IOHandler::BeginTransmit`. Without a channel the data is dropped. -/
def beginTransmit (h : IOHandler α σ δ) (session : SessionId) (data : δ) : IOHandler α σ δ :=
  if h.channel.isSome then
    ({ h with txQueue := h.txQueue ++ [Transmission.mk data session] }.emit
      (.BeginTransmit session data)).checkForSend
  else h

/-- A session is left in the given state, after it has transmitted the data. -/
def transmits (h : IOHandler α σ δ) (session : SessionId) (result : σ × List δ) :
    IOHandler α σ δ :=
  result.2.foldl (fun h data => h.beginTransmit session data)
    { h with links := Function.update h.links session result.1 }

variable [ILinkSession σ κ ω δ]

/-- A method of a session is called. -/
def callSession (h : IOHandler α σ δ) (env : SessionId → κ) (session : SessionId)
    (call : SessionCall) : IOHandler α σ δ :=
  (h.emit (.call session call)).transmits session
    (ILinkSession.call (h.links session) call (env session))

/-- `Session::LowerLayerUp` of the record at an index. -/
def lowerLayerUp (h : IOHandler α σ δ) (env : SessionId → κ) (i : ℕ) : IOHandler α σ δ :=
  match h.sessions[i]? with
  | some record =>
    if record.online then h
    else
      { h with sessions := h.sessions.set i { record with online := true } }.callSession env
        record.session .OnLowerLayerUp
  | none => h

/-- `Session::LowerLayerDown` of the record at an index. -/
def lowerLayerDown (h : IOHandler α σ δ) (env : SessionId → κ) (i : ℕ) : IOHandler α σ δ :=
  match h.sessions[i]? with
  | some record =>
    if record.online then
      { h with sessions := h.sessions.set i { record with online := false } }.callSession env
        record.session .OnLowerLayerDown
    else h
  | none => h

/-- A loop over the records of the sessions. -/
def forSessions (h : IOHandler α σ δ) (body : IOHandler α σ δ → ℕ → IOHandler α σ δ) :
    IOHandler α σ δ :=
  (List.range h.sessions.length).foldl body h

/-- The record at an index is enabled. -/
def isEnabled (h : IOHandler α σ δ) (i : ℕ) : Bool := h.sessions[i]?.any (·.enabled)

/-- `IOHandler::Reset`. -/
def reset (h : IOHandler α σ δ) (env : SessionId → κ) : IOHandler α σ δ :=
  let h :=
    if h.channel.isSome then
      let h := ({ h with channel := none }.emit .Shutdown).emit (.OnStateChange .CLOSED)
      h.forSessions fun h i => h.lowerLayerDown env i
    else h
  { h with parser := h.parser.reset, txQueue := [] }

/-- `IOHandler::BeginRead`. It is only called while there is a channel. -/
def beginRead (h : IOHandler α σ δ) : IOHandler α σ δ :=
  { h with channel := h.channel.map IAsyncChannel.beginRead }

/-- `IOHandler::SendToSession`. -/
def sendToSession (h : IOHandler α σ δ) (env : SessionId → κ) (frame : SinkFrame) :
    IOHandler α σ δ :=
  h.forSessions fun h i =>
    match h.sessions[i]? with
    | some record =>
      if record.enabled then h.callSession env record.session (.OnFrame frame) else h
    | none => h

/-- The parser gives the frames of a read to the sink, one after the other. -/
def onFrames (h : IOHandler α σ δ) (env : ℕ → SessionId → κ) (frames : List SinkFrame) :
    IOHandler α σ δ :=
  frames.zipIdx.foldl (fun h frame => h.sendToSession (env frame.2) frame.1) h

end Transmitting

section Sessions

variable {α σ δ : Type*}

/-- The first record of a session, and its index. -/
def find? (h : IOHandler α σ δ) (session : SessionId) : Option (Session × ℕ) :=
  h.sessions.zipIdx.find? fun record => record.1.session = session

/-- `IOHandler::IsRouteInUse`. -/
def isRouteInUse (h : IOHandler α σ δ) (route : Route) : Bool :=
  h.sessions.any fun record => record.route = route

/-- `IOHandler::IsSessionInUse`. -/
def isSessionInUse (h : IOHandler α σ δ) (session : SessionId) : Bool :=
  h.sessions.any fun record => record.session = session

/-- `IOHandler::IsAnySessionEnabled`. -/
def isAnySessionEnabled (h : IOHandler α σ δ) : Bool := h.sessions.any (·.enabled)

/-- `IOHandler::AddContext`. -/
def addContext (h : IOHandler α σ δ) (session : SessionId) (route : Route) :
    Bool × IOHandler α σ δ :=
  if h.isRouteInUse route then (false, h)
  else if h.isSessionInUse session then (false, h)
  else (true, { h with sessions := h.sessions ++ [{ route := route, session := session }] })

end Sessions

section Events

variable {α σ κ ω δ ε ω' : Type*} [ILinkSession σ κ ω δ] [Derived α ε ω']

/-- `IOHandler::OnNewChannel`, for a channel that nothing else uses. -/
def onNewChannel (h : IOHandler α σ δ) (env : Env κ ε) : IOHandler α σ δ :=
  if h.channel.isSome && !h.close_existing then h.emit .Refuse
  else
    let h := h.reset env.down
    let h := ({ h with channel := some ({} : IAsyncChannel).setCallbacks }.emit .SetCallbacks).emit
      (.OnStateChange .OPEN)
    h.beginRead.forSessions fun h i => if h.isEnabled i then h.lowerLayerUp env.up i else h

/-- The derived class has done something, and may have opened a channel. -/
def derives (h : IOHandler α σ δ) (env : Env κ ε) (result : α × Bool) : IOHandler α σ δ :=
  let h := { h with derived := result.1 }
  if result.2 then h.onNewChannel env else h

/-- `BeginChannelAccept`. -/
def beginChannelAccept (h : IOHandler α σ δ) (env : Env κ ε) : IOHandler α σ δ :=
  h.derives env (Derived.beginChannelAccept h.derived env.accept)

/-- `SuspendChannelAccept`. -/
def suspendChannelAccept (h : IOHandler α σ δ) : IOHandler α σ δ :=
  { h with derived := Derived.suspendChannelAccept h.derived }

/-- What follows an error of the channel. -/
def onChannelError (h : IOHandler α σ δ) (env : Env κ ε) : IOHandler α σ δ :=
  let h := (h.reset env.down).emit (.OnStateChange .OPENING)
  h.derives env (Derived.onChannelShutdown h.derived env.accept)

/-- `IOHandler::Shutdown`. -/
def shutdown (h : IOHandler α σ δ) (env : Env κ ε) : IOHandler α σ δ :=
  if h.isShutdown then h
  else
    let h := { h with isShutdown := true }.reset env.down
    { h with derived := Derived.shutdownImpl h.derived }.emit (.OnStateChange .SHUTDOWN)

/-- `IOHandler::OnReadComplete` without an error, for bytes that fit into the buffer of the parser.
-/
def onReadComplete (h : IOHandler α σ δ) (env : Env κ ε) (bytes : List UInt8)
    (hle : bytes.length ≤ h.parser.buffer.numWriteBytes) : IOHandler α σ δ :=
  let (frames, parser) := h.parser.onRead bytes hle
  ({ h with parser := parser }.onFrames env.frame frames).beginRead

/-- `IOHandler::OnWriteComplete` without an error. -/
def onWriteComplete (h : IOHandler α σ δ) (env : Env κ ε) : IOHandler α σ δ :=
  match h.txQueue with
  | transmission :: rest =>
    ({ h with txQueue := rest }.callSession env.ready transmission.session .OnTxReady).checkForSend
  | [] => h.checkForSend

/-- `IOHandler::Enable`. -/
def enable (h : IOHandler α σ δ) (env : Env κ ε) (session : SessionId) :
    Bool × IOHandler α σ δ :=
  match h.find? session with
  | none => (false, h)
  | some (record, i) =>
    if record.enabled then (true, h)
    else
      let h := { h with sessions := h.sessions.set i { record with enabled := true } }
      if h.channel.isSome then (true, h.lowerLayerUp env.up i)
      else (true, (h.emit (.OnStateChange .OPENING)).beginChannelAccept env)

/-- `IOHandler::Disable`. -/
def disable (h : IOHandler α σ δ) (env : Env κ ε) (session : SessionId) :
    Bool × IOHandler α σ δ :=
  match h.find? session with
  | none => (false, h)
  | some (record, i) =>
    if !record.enabled then (true, h)
    else
      let h := { h with sessions := h.sessions.set i { record with enabled := false } }
      let h := if h.channel.isSome then h.lowerLayerDown env.down i else h
      if h.isAnySessionEnabled then (true, h)
      else (true, (h.reset env.down).suspendChannelAccept)

/-- `IOHandler::Remove`. -/
def remove (h : IOHandler α σ δ) (env : Env κ ε) (session : SessionId) :
    Bool × IOHandler α σ δ :=
  match h.find? session with
  | none => (false, h)
  | some (_, i) =>
    let h := if h.channel.isSome then h.lowerLayerDown env.down i else h
    let h := { h with sessions := h.sessions.eraseIdx i }
    if h.isAnySessionEnabled then (true, h) else (true, h.suspendChannelAccept)

end Events

end IOHandler

/-! ## Runs -/

/-- The handler before anything has happened. -/
def IOHandler.init {α σ δ : Type*} (close_existing : Bool) (derived : α) (links : SessionId → σ) :
    IOHandler α σ δ where
  close_existing := close_existing
  derived := derived
  links := links

/-- What happens to a handler. -/
inductive Event (ω ω' : Type*) where
  | AddContext (session : SessionId) (route : Route)
  | Enable (session : SessionId)
  | Disable (session : SessionId)
  | Remove (session : SessionId)
  | Shutdown
  /-- The read of the channel ends, with bytes or with an error. -/
  | OnRead (bytes : Option (List UInt8))
  /-- The write of the channel ends. -/
  | OnWrite (error : Bool)
  /-- A session acts by itself. -/
  | session (session : SessionId) (act : ω)
  /-- Something happens to the derived class, such as a connection. -/
  | derived (act : ω')

namespace IOHandler

variable {α σ κ ω δ ε ω' : Type*} [ILinkSession σ κ ω δ] [Derived α ε ω']

/-- `IAsyncChannel::OnReadCallback` of the current channel. It has callbacks and is not shutting
down. -/
def onReadCallback (h : IOHandler α σ δ) (env : Env κ ε) (bytes : Option (List UInt8)) :
    IOHandler α σ δ :=
  let h := { h with channel := h.channel.map IAsyncChannel.endRead }
  match bytes with
  | none => h.onChannelError env
  | some bytes =>
    if hle : bytes.length ≤ h.parser.buffer.numWriteBytes then h.onReadComplete env bytes hle else h

/-- `IAsyncChannel::OnWriteCallback` of the current channel. -/
def onWriteCallback (h : IOHandler α σ δ) (env : Env κ ε) (error : Bool) : IOHandler α σ δ :=
  let h := { h with channel := h.channel.map IAsyncChannel.endWrite }
  if error then h.onChannelError env else h.onWriteComplete env

/-- One event of a handler. The channel reports the end of a read or a write that it has begun; of a
channel that has been shut down nothing is heard. -/
def step (h : IOHandler α σ δ) (e : Env κ ε × Event ω ω') : IOHandler α σ δ :=
  match e.2 with
  | .AddContext session route => (h.addContext session route).2
  | .Enable session => (h.enable e.1 session).2
  | .Disable session => (h.disable e.1 session).2
  | .Remove session => (h.remove e.1 session).2
  | .Shutdown => h.shutdown e.1
  | .OnRead bytes => if h.channel.any (·.reading) then h.onReadCallback e.1 bytes else h
  | .OnWrite error => if h.channel.any (·.writing) then h.onWriteCallback e.1 error else h
  | .session session act => h.transmits session (ILinkSession.act (h.links session) act)
  | .derived act => h.derives e.1 (Derived.act h.derived act)

end IOHandler

end OpenDnp3.Channel
