import OpenDnp3.Channel.IOHandler

/-!
# Connecting to a server

`asiodnp3/TCPClientIOHandler.cpp`, the flags of `asiopal/TCPClient.cpp`, and the timer that
`openpal/executor/TimerRef.h` keeps in the executor. A client calls its callback once for a call of
`BeginConnect`, and not at all when it has been cancelled before. The action of a timer runs when
its turn comes in the queue of the executor; a timer whose action is already in this queue cannot be
cancelled any more.
-/

namespace OpenDnp3.Channel

/-! ## Timers -/

/-- `TimerRef`, with its timers in the executor and what their actions have captured. -/
structure TimerRef (β : Type*) where
  pTimer : Option ℕ := none
  /-- The number of timers that have been started. -/
  started : ℕ := 0
  /-- The timers that run. -/
  running : List (ℕ × β) := []
  /-- The timers that have expired and whose actions are in the queue of the executor. -/
  expired : List (ℕ × β) := []
  deriving DecidableEq, Repr

namespace TimerRef

variable {β : Type*}

/-- `TimerRef::Start`, which does nothing while a timer is active. -/
def start (timer : TimerRef β) (action : β) : TimerRef β :=
  if timer.pTimer.isSome then timer
  else
    { timer with
      pTimer := some timer.started
      started := timer.started + 1
      running := timer.running ++ [(timer.started, action)] }

/-- `TimerRef::Cancel`. -/
def cancel (timer : TimerRef β) : TimerRef β :=
  match timer.pTimer with
  | some id => { timer with pTimer := none, running := timer.running.filter (·.1 ≠ id) }
  | none => timer

/-- A timer expires: its action is put into the queue of the executor. -/
def expire (timer : TimerRef β) (id : ℕ) : TimerRef β :=
  { timer with
    running := timer.running.filter (·.1 ≠ id)
    expired := timer.expired ++ timer.running.filter (·.1 = id) }

/-- The executor runs the action of a timer, which begins with `pTimer = nullptr`. -/
def fire (timer : TimerRef β) (id : ℕ) : Option (β × TimerRef β) :=
  (timer.expired.find? (·.1 = id)).map fun action =>
    (action.2, { timer with pTimer := none, expired := timer.expired.filter (·.1 ≠ id) })

end TimerRef

/-! ## Clients -/

/-- `ChannelRetry`, in milliseconds. -/
structure ChannelRetry where
  minOpenRetry : ℤ
  maxOpenRetry : ℤ
  /-- `IOpenDelayStrategy::GetNextDelay`. -/
  strategy : ℤ → ℤ → ℤ

/-- `ExponentialBackoffStrategy::GetNextDelay`. -/
def ExponentialBackoffStrategy.getNextDelay (current max : ℤ) : ℤ :=
  let doubled := 2 * current
  if doubled > max then max else doubled

/-- `ChannelRetry::NextDelay`. -/
def ChannelRetry.nextDelay (retry : ChannelRetry) (current : ℤ) : ℤ :=
  retry.strategy current retry.maxOpenRetry

/-- `TCPClient`, with the delay that the callback of the connection attempt has captured. -/
structure TCPClient where
  connecting : Bool := false
  canceled : Bool := false
  delay : ℤ := 0
  deriving DecidableEq, Repr

namespace TCPClient

/-- `TCPClient::Cancel`. -/
def cancel (client : TCPClient) : TCPClient :=
  if client.canceled || !client.connecting then client else { client with canceled := true }

/-- `TCPClient::BeginConnect`. -/
def beginConnect (client : TCPClient) (delay : ℤ) : TCPClient :=
  if client.connecting || client.canceled then client
  else { client with connecting := true, delay := delay }

/-- A connection attempt is outstanding whose end will be reported. -/
def isAttempting (client : TCPClient) : Bool := client.connecting && !client.canceled

end TCPClient

/-! ## The handler -/

/-- What `TCPClientIOHandler` adds to `IOHandler`. A client lives as long as somebody waits for it,
so all clients that have been created are kept. -/
structure TCPClientIOHandler where
  retry : ChannelRetry
  clients : List TCPClient := []
  client : Option ℕ := none
  retrytimer : TimerRef ℤ := {}
  /-- `StartConnect` has been entered while `client` was empty, which it dereferences. -/
  startedEmpty : Bool := false

/-- What happens to a client or its timer. -/
inductive ClientEvent where
  /-- The connection attempt of a client ends. -/
  | connected (client : ℕ) (error : Bool)
  /-- A retry timer expires. -/
  | expire (timer : ℕ)
  /-- The executor runs the action of a retry timer. -/
  | fire (timer : ℕ)
  deriving DecidableEq, Repr

namespace TCPClientIOHandler

/-- `TCPClientIOHandler::StartConnect`. The connection is begun with the client that the handler has
now. -/
def startConnect (d : TCPClientIOHandler) (delay : ℤ) : TCPClientIOHandler :=
  match d.client with
  | some i => { d with clients := d.clients.modify i (·.beginConnect delay) }
  | none => { d with startedEmpty := true }

/-- The callback of `StartConnect`, with whether it calls `OnNewChannel`. -/
def onConnect (d : TCPClientIOHandler) (delay : ℤ) (error : Bool) : TCPClientIOHandler × Bool :=
  if error then ({ d with retrytimer := d.retrytimer.start (d.retry.nextDelay delay) }, false)
  else (d, true)

/-- `TCPClientIOHandler::ResetState`. -/
def resetState (d : TCPClientIOHandler) : TCPClientIOHandler :=
  { d with
    clients := match d.client with
      | some i => d.clients.modify i TCPClient.cancel
      | none => d.clients
    client := none
    retrytimer := d.retrytimer.cancel }

/-- `TCPClientIOHandler::BeginChannelAccept`. -/
def beginChannelAccept (d : TCPClientIOHandler) : TCPClientIOHandler :=
  { d with
    clients := d.clients ++ [({} : TCPClient)],
    client := some d.clients.length }.startConnect
    d.retry.minOpenRetry

/-- The callback that `TCPClient` gives to the socket: it forwards the result unless the client has
been cancelled. -/
def onResult (d : TCPClientIOHandler) (i : ℕ) (error : Bool) : TCPClientIOHandler × Bool :=
  match d.clients[i]? with
  | some client =>
    if client.connecting then
      let d := { d with clients := d.clients.set i { client with connecting := false } }
      if client.canceled then (d, false) else d.onConnect client.delay error
    else (d, false)
  | none => (d, false)

/-- What happens to a client or its timer, with whether it ends in `OnNewChannel`. -/
def act (d : TCPClientIOHandler) : ClientEvent → TCPClientIOHandler × Bool
  | .connected client error => d.onResult client error
  | .expire timer => ({ d with retrytimer := d.retrytimer.expire timer }, false)
  | .fire timer =>
    match d.retrytimer.fire timer with
    | some (delay, retrytimer) => ({ d with retrytimer := retrytimer }.startConnect delay, false)
    | none => (d, false)

instance : Derived TCPClientIOHandler Unit ClientEvent where
  beginChannelAccept d _ := (d.beginChannelAccept, false)
  suspendChannelAccept := resetState
  shutdownImpl := resetState
  onChannelShutdown d _ := (d.beginChannelAccept, false)
  act := act

end TCPClientIOHandler

end OpenDnp3.Channel
