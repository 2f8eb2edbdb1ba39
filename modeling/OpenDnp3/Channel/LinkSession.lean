import OpenDnp3.Channel.IOHandler
import OpenDnp3.Link.Events

/-!
# Link layers as sessions

`LinkLayer` implements `ILinkSession`. It gives its frames to `BeginTransmit`, which the handler
queues, and it hears from the handler what the channel reports.
-/

namespace OpenDnp3.Channel

open Link

/-- What surrounds a call of a link layer: the clock, and what the upper layer sends before the call
returns. -/
structure LinkSurroundings where
  now : ℤ
  replies : List (TransportSegment (List UInt8))

/-- What a link layer does by itself. -/
inductive LinkActivity where
  /-- The upper layer sends. -/
  | send (segments : TransportSegment (List UInt8))
  /-- The response timer fires. -/
  | responseTimeout
  /-- The keep-alive timer fires. -/
  | keepAliveTimeout (now : ℤ)

/-- The frame of the parser as the link layer sees it: only the user data functions have a payload.
-/
def linkFrame (frame : SinkFrame) : LinkLayerFrame (List UInt8) where
  fields := frame.fields
  payload :=
    match frame.fields.func with
    | .PRI_CONFIRMED_USER_DATA | .PRI_UNCONFIRMED_USER_DATA => some frame.userData
    | _ => none

/-- The event of the link layer for a call. -/
def SessionCall.event (call : SessionCall) (surroundings : LinkSurroundings) :
    LinkEvent (List UInt8) :=
  match call with
  | .OnLowerLayerUp => .lowerLayerUp surroundings.now surroundings.replies
  | .OnLowerLayerDown => .lowerLayerDown
  | .OnTxReady => .txReady
  | .OnFrame frame => .frame (linkFrame frame) surroundings.now surroundings.replies

/-- The event of the link layer for what it does by itself. -/
def LinkActivity.event : LinkActivity → LinkEvent (List UInt8)
  | .send segments => .send segments
  | .responseTimeout => .responseTimeout
  | .keepAliveTimeout now => .keepAliveTimeout now

/-- The link layer handles an event, and the frames that it transmits are given to the handler. -/
def handling (ctx : LinkContext (List UInt8)) (event : LinkEvent (List UInt8)) :
    LinkContext (List UInt8) × List (LinkLayerFrame (List UInt8)) :=
  let ctx := { ctx with outputs := [] }.handle event
  (ctx, ctx.transmitted)

instance : ILinkSession (LinkContext (List UInt8)) LinkSurroundings LinkActivity
    (LinkLayerFrame (List UInt8)) where
  call ctx call surroundings := handling ctx (call.event surroundings)
  act ctx activity := handling ctx activity.event

end OpenDnp3.Channel
