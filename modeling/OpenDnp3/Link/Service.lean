import OpenDnp3.Lib.Run
import OpenDnp3.Link.Context

/-!
# The confirmed link service

A primary station sends segments to a secondary station over a channel that may lose frames in
either direction. The channel neither corrupts, duplicates nor reorders frames, and nothing of an
exchange is delivered once the primary's response timeout for it has fired. Both stations are
online from the start.
-/

namespace OpenDnp3.Link

/-- What the two stations are configured with. Their addresses name each other. -/
structure ServiceConfig where
  /-- The primary station is the master. -/
  isMaster : Bool
  numRetry : ℕ
  priAddr : UInt16
  secAddr : UInt16
  /-- The keep-alive timeout of the primary, in milliseconds. -/
  keepAliveTimeout : ℤ
  /-- Whether each station responds to any source. -/
  priAny : Bool
  secAny : Bool
  /-- The secondary's own configuration, which its secondary role does not read. -/
  secUseConfirms : Bool
  secNumRetry : ℕ
  secKeepAliveTimeout : ℤ

namespace ServiceConfig

/-- The configuration of the primary station: confirms are on. -/
def pri (cfg : ServiceConfig) : LinkLayerConfig where
  IsMaster := cfg.isMaster
  UseConfirms := true
  NumRetry := cfg.numRetry
  LocalAddr := cfg.priAddr
  RemoteAddr := cfg.secAddr
  KeepAliveTimeout := cfg.keepAliveTimeout
  respondToAnySource := cfg.priAny

/-- The configuration of the secondary station. -/
def sec (cfg : ServiceConfig) : LinkLayerConfig where
  IsMaster := !cfg.isMaster
  UseConfirms := cfg.secUseConfirms
  NumRetry := cfg.secNumRetry
  LocalAddr := cfg.secAddr
  RemoteAddr := cfg.priAddr
  KeepAliveTimeout := cfg.secKeepAliveTimeout
  respondToAnySource := cfg.secAny

end ServiceConfig

/-- The two stations, the channel between them and the history of the service. The segments that
the primary is given are numbered, so that two segments with the same data stay apart. -/
structure Service (β : Type*) where
  pri : LinkContext (ℕ × β)
  sec : LinkContext (ℕ × β)
  /-- The frames on their way to the secondary, in order. -/
  toSec : List (LinkLayerFrame (ℕ × β))
  /-- The frames on their way to the primary, in order. -/
  toPri : List (LinkLayerFrame (ℕ × β))
  /-- The segments of every accepted `Send`, in order. -/
  sent : List (ℕ × β)
  /-- The segments for which the primary has called `Advance`. -/
  acked : List (ℕ × β)
  /-- The segments that the secondary has pushed up, in order. -/
  pushed : List (ℕ × β)

/-- What happens to the service. -/
inductive ServiceEvent (β : Type*) where
  /-- The transport layer of the primary calls `Send` with a message of at least one segment. -/
  | send (first : β) (rest : List β)
  /-- The channel reports the end of the primary's transmission. -/
  | priTxReady
  /-- The channel reports the end of the secondary's transmission. -/
  | secTxReady
  /-- The primary's response timer fires. -/
  | rspTimeout
  /-- The primary's keep-alive timer fires. -/
  | keepAlive (now : ℤ)
  /-- The next frame reaches the secondary. -/
  | deliverSec (now : ℤ)
  /-- The next frame reaches the primary. -/
  | deliverPri (now : ℤ)
  /-- A frame to the secondary is lost. -/
  | loseSec (i : ℕ)
  /-- A frame to the primary is lost. -/
  | losePri (i : ℕ)

namespace Service

variable {β : Type*}

/-- The frames that a station hands to the channel. -/
def transmitted (outputs : List (LinkOutput (ℕ × β))) : List (LinkLayerFrame (ℕ × β)) :=
  outputs.filterMap fun
    | .BeginTransmit frame => some frame
    | _ => none

/-- The segments that a station calls done. -/
def advanced (outputs : List (LinkOutput (ℕ × β))) : List (ℕ × β) :=
  outputs.filterMap fun
    | .Advance segment => some segment
    | _ => none

/-- The segments that a station pushes up. -/
def received (outputs : List (LinkOutput (ℕ × β))) : List (ℕ × β) :=
  outputs.filterMap fun
    | .OnReceive message => message.payload
    | _ => none

/-- The frames of outputs one after the other. -/
@[simp]
theorem transmitted_append (o o' : List (LinkOutput (ℕ × β))) :
    transmitted (o ++ o') = transmitted o ++ transmitted o' := List.filterMap_append

/-- Both stations online, nothing sent. -/
def init (cfg : ServiceConfig) : Service β where
  pri := { config := cfg.pri, isOnline := true }
  sec := { config := cfg.sec, isOnline := true }
  toSec := []
  toPri := []
  sent := []
  acked := []
  pushed := []

/-- The primary takes a step; what it tells the channel and the transport layer is recorded. -/
def priStep (s : Service β) (f : LinkContext (ℕ × β) → LinkContext (ℕ × β)) : Service β :=
  let ctx := f { s.pri with outputs := [] }
  { s with
    pri := ctx
    toSec := s.toSec ++ transmitted ctx.outputs
    acked := s.acked ++ advanced ctx.outputs }

/-- The secondary takes a step; what it tells the channel and the transport layer is recorded. -/
def secStep (s : Service β) (f : LinkContext (ℕ × β) → LinkContext (ℕ × β)) : Service β :=
  let ctx := f { s.sec with outputs := [] }
  { s with
    sec := ctx
    toPri := s.toPri ++ transmitted ctx.outputs
    pushed := s.pushed ++ received ctx.outputs }

/-- Numbers the segments of a message from `n` on. -/
def number (n : ℕ) (segments : List β) : List (ℕ × β) := segments.mapIdx fun i b => (n + i, b)

/-- One step of the service. -/
def step (s : Service β) : ServiceEvent β → Service β
  | .send first rest =>
    -- `Send` takes a message only when none is in progress.
    if s.pri.pSegments.isNone then
      let n := s.sent.length
      let segments : TransportSegment (ℕ × β) :=
        { addresses := ⟨s.pri.config.LocalAddr, s.pri.config.RemoteAddr⟩
          current := (n, first)
          rest := number (n + 1) rest }
      { s.priStep (·.send segments) with sent := s.sent ++ (n, first) :: number (n + 1) rest }
    else s
  | .priTxReady => s.priStep (·.onTxReady)
  | .secTxReady => s.secStep (·.onTxReady)
  | .rspTimeout =>
    -- Nothing of the exchange is delivered after its timeout.
    if s.pri.rspTimeoutTimer then { s with toSec := [], toPri := [] }.priStep (·.onResponseTimeout)
    else s
  | .keepAlive now => s.priStep (·.onKeepAliveTimeout now)
  | .deliverSec now =>
    match s.toSec with
    | [] => s
    | frame :: toSec => { s with toSec := toSec }.secStep (·.onFrame frame now)
  | .deliverPri now =>
    match s.toPri with
    | [] => s
    | frame :: toPri => { s with toPri := toPri }.priStep (·.onFrame frame now)
  | .loseSec i => { s with toSec := s.toSec.eraseIdx i }
  | .losePri i => { s with toPri := s.toPri.eraseIdx i }

/-- Every acknowledged segment was pushed up exactly once, and the pushed segments stand in the
order in which they were sent. -/
def ExactlyOnce [DecidableEq β] (s : Service β) : Prop :=
  (∀ segment ∈ s.acked, s.pushed.count segment = 1) ∧ s.pushed.Sublist s.sent

instance [DecidableEq β] (s : Service β) : Decidable s.ExactlyOnce :=
  inferInstanceAs (Decidable (_ ∧ _))

/-- With no retries, the acknowledgement of the first segment is lost and the primary gives up. The
second segment goes out under the same frame count bit: the secondary takes it for a repetition,
acknowledges it and pushes nothing up, and the primary calls it done. -/
theorem not_exactlyOnce_after_final_timeout :
    ¬ (Machine.run step
      (init ⟨true, 0, 1, 1024, 60000, false, false, true, 0, 60000⟩ : Service ℕ)
      [.send 7 [], .priTxReady, .deliverSec 0, .secTxReady, .deliverPri 0, .priTxReady,
        .deliverSec 0, .secTxReady, .losePri 0, .rspTimeout,
        .send 8 [], .priTxReady, .deliverSec 0, .secTxReady, .deliverPri 0]).ExactlyOnce := by
  decide +kernel

end Service

end OpenDnp3.Link
