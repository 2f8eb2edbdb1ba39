import OpenDnp3.Link.StationRun

/-!
# The message in progress

What a link layer tells the layer above it, and what becomes of the message that it has taken. An
event advances the message by a segment, completes it, gives it up, takes another one or leaves it
alone, and the upper layer hears of exactly that.
-/

namespace OpenDnp3.Link

/-- The outputs that the upper layer hears: the calls of its methods and of its segments. -/
def LinkOutput.isUpper {α : Type*} : LinkOutput α → Bool
  | .OnReceive _ | .Advance _ | .OnTxReady | .OnLowerLayerUp | .OnLowerLayerDown => true
  | _ => false

namespace LinkContext

variable {α : Type*}

/-- What the upper layer has heard, oldest first. -/
def upperCalls (ctx : LinkContext α) : List (LinkOutput α) := ctx.outputs.filter LinkOutput.isUpper

/-- An output is a call of the upper layer or it is none. -/
theorem upperCalls_emit (ctx : LinkContext α) (output : LinkOutput α) :
    (ctx.emit output).upperCalls = ctx.upperCalls ++ if output.isUpper then [output] else [] := by
  unfold upperCalls emit
  rw [List.filter_append]
  cases output <;> rfl

/-! ## What a handler may do to the message -/

/-- The upper layer hears nothing, and the message stays as it is. -/
structure Silent (ctx ctx' : LinkContext α) : Prop where
  segments : ctx'.pSegments = ctx.pSegments
  calls : ctx'.upperCalls = ctx.upperCalls

/-- What a handler of the primary does to the message in progress. -/
inductive Progress (ctx ctx' : LinkContext α) : Prop
  /-- The message is left alone. -/
  | kept (silent : Silent ctx ctx')
  /-- The current segment is done, and the next one is at hand. -/
  | advanced {addresses : Addresses} {current next : α} {rest : List α}
      (before : ctx.pSegments = some ⟨addresses, current, next :: rest⟩)
      (after : ctx'.pSegments = some ⟨addresses, next, rest⟩)
      (calls : ctx'.upperCalls = ctx.upperCalls ++ [.Advance current])
  /-- The last segment is done, and the end of the message is posted. -/
  | completed {addresses : Addresses} {current : α}
      (before : ctx.pSegments = some ⟨addresses, current, []⟩) (after : ctx'.pSegments = none)
      (calls : ctx'.upperCalls = ctx.upperCalls ++ [.Advance current, .OnTxReady])
  /-- The message is given up, and its end is posted. -/
  | failed (before : ctx.pSegments.isSome = true) (after : ctx'.pSegments = none)
      (calls : ctx'.upperCalls = ctx.upperCalls ++ [.OnTxReady])

/-- Nothing happens. -/
theorem Silent.refl (ctx : LinkContext α) : Silent ctx ctx := ⟨rfl, rfl⟩

/-- Two silent steps are silent. -/
theorem Silent.trans {ctx ctx' ctx'' : LinkContext α} (h : Silent ctx ctx')
    (h' : Silent ctx' ctx'') : Silent ctx ctx'' :=
  ⟨h'.segments.trans h.segments, h'.calls.trans h.calls⟩

/-- The same, with the steps the other way round. -/
theorem Silent.after {ctx ctx' ctx'' : LinkContext α} (h' : Silent ctx' ctx'')
    (h : Silent ctx ctx') : Silent ctx ctx'' :=
  h.trans h'

/-- A silent step before one that makes progress. -/
theorem Silent.progress {ctx ctx' ctx'' : LinkContext α} (h : Silent ctx ctx')
    (h' : Progress ctx' ctx'') : Progress ctx ctx'' := by
  cases h' with
  | kept silent => exact .kept (h.trans silent)
  | advanced before after calls =>
    exact .advanced (h.segments ▸ before) after (h.calls ▸ calls)
  | completed before after calls =>
    exact .completed (h.segments ▸ before) after (h.calls ▸ calls)
  | failed before after calls => exact .failed (h.segments ▸ before) after (h.calls ▸ calls)

/-- A silent step after one that makes progress. -/
theorem Progress.silent {ctx ctx' ctx'' : LinkContext α} (h : Progress ctx ctx')
    (h' : Silent ctx' ctx'') : Progress ctx ctx'' := by
  cases h with
  | kept silent => exact .kept (silent.trans h')
  | advanced before after calls =>
    exact .advanced before (h'.segments.trans after) (h'.calls.trans calls)
  | completed before after calls =>
    exact .completed before (h'.segments.trans after) (h'.calls.trans calls)
  | failed before after calls =>
    exact .failed before (h'.segments.trans after) (h'.calls.trans calls)

/-- Something is told to the channel or to the listener. -/
theorem silent_emit (ctx : LinkContext α) {output : LinkOutput α} (ho : output.isUpper = false) :
    Silent ctx (ctx.emit output) := by
  refine ⟨rfl, ?_⟩
  rw [upperCalls_emit, ho]
  exact List.append_nil _

/-- To queue a frame is silent. -/
theorem queueTransmit_silent (ctx : LinkContext α) (frame : LinkLayerFrame α) (primary : Bool) :
    Silent ctx (ctx.queueTransmit frame primary) := by
  have hformat : Silent ctx (ctx.format frame primary) := by
    unfold format
    split_ifs <;> exact ⟨rfl, rfl⟩
  refine hformat.trans ?_
  unfold queueTransmit
  dsimp only
  by_cases hidle : (ctx.format frame primary).txMode = .Idle
  · rw [if_pos hidle]
    refine Silent.trans ?_ (silent_emit _ rfl)
    exact ⟨rfl, rfl⟩
  · rw [if_neg hidle]
    split_ifs <;> exact ⟨rfl, rfl⟩

/-- A frame is queued on the way into a state. -/
theorem queueTransmit_priState_silent (ctx : LinkContext α) (frame : LinkLayerFrame α)
    (primary : Bool) (state : PriState) :
    Silent ctx ((ctx.queueTransmit frame primary).priState state) :=
  (queueTransmit_silent ctx frame primary).trans ⟨rfl, rfl⟩

/-- To send a confirmed segment is silent. -/
theorem sendConfirmed_silent (ctx : LinkContext α) (segments : TransportSegment α) :
    Silent ctx (ctx.sendConfirmed segments) := queueTransmit_priState_silent ..

/-- To send an unconfirmed segment is silent. -/
theorem sendUnconfirmed_silent (ctx : LinkContext α) (segments : TransportSegment α) :
    Silent ctx (ctx.sendUnconfirmed segments) := queueTransmit_priState_silent ..

/-- An unexpected frame is silent. -/
theorem unexpectedFrame_silent (ctx : LinkContext α) : Silent ctx ctx.unexpectedFrame := ⟨rfl, rfl⟩

/-! ## The primary station -/

/-- To ask for the status of the link is silent. -/
theorem trySendRequestLinkStatus_silent (ctx : LinkContext α) :
    Silent ctx ctx.trySendRequestLinkStatus := by
  unfold trySendRequestLinkStatus
  split
  · have hdone : Silent ctx { ctx with keepAliveTimeout := false } := ⟨rfl, rfl⟩
    have hqueue := hdone.trans (queueTransmit_silent { ctx with keepAliveTimeout := false }
      (ctx.config.headerFrame .PRI_REQUEST_LINK_STATUS ctx.config.RemoteAddr) true)
    exact hqueue.trans ((silent_emit _ (by rfl)).trans ⟨rfl, rfl⟩)
  · exact .refl ctx

/-- To start a confirmed message is silent. -/
theorem trySendConfirmed_silent (ctx : LinkContext α) (segments : TransportSegment α) :
    Silent ctx (ctx.trySendConfirmed segments) := by
  unfold trySendConfirmed
  split
  · split_ifs
    · exact (sendConfirmed_silent ctx.resetRetry segments).after ⟨rfl, rfl⟩
    · exact (queueTransmit_priState_silent ctx.resetRetry _ true _).after ⟨rfl, rfl⟩
  · exact .refl ctx

/-- To start an unconfirmed message is silent. -/
theorem trySendUnconfirmed_silent (ctx : LinkContext α) (segments : TransportSegment α) :
    Silent ctx (ctx.trySendUnconfirmed segments) := by
  unfold trySendUnconfirmed
  split
  · exact sendUnconfirmed_silent ctx segments
  · exact .refl ctx

/-- To start a transmission is silent: the message stays until it is sent. -/
theorem tryStartTransmission_kept (ctx : LinkContext α) : Silent ctx ctx.tryStartTransmission := by
  unfold tryStartTransmission
  have hkeep : Silent ctx (if ctx.keepAliveTimeout then ctx.trySendRequestLinkStatus else ctx) := by
    split_ifs
    · exact trySendRequestLinkStatus_silent ctx
    · exact .refl ctx
  refine hkeep.trans ?_
  generalize (if ctx.keepAliveTimeout then ctx.trySendRequestLinkStatus else ctx) = m
  rcases hseg : m.pSegments with _ | segments
  · simp only [hseg]
    exact .refl m
  · simp only [hseg]
    split_ifs
    · exact trySendConfirmed_silent m segments
    · exact trySendUnconfirmed_silent m segments

/-- The end of a message, reached in whatever way. -/
theorem completeSendOperation_progress {ctx m : LinkContext α} (h : Silent ctx m)
    (hsome : ctx.pSegments.isSome = true) (state : PriState) :
    Progress ctx (m.completeSendOperation.priState state) := by
  refine .failed hsome rfl ?_
  calc (m.completeSendOperation.priState state).upperCalls
      = ({ m with pSegments := none }.emit LinkOutput.OnTxReady).upperCalls := rfl
    _ = m.upperCalls ++ [.OnTxReady] := upperCalls_emit ..
    _ = ctx.upperCalls ++ [.OnTxReady] := by rw [h.calls]

/-- A failure gives the message up. -/
theorem failure_progress {ctx : LinkContext α} (hsome : ctx.pSegments.isSome = true) :
    Progress ctx ctx.failure := by
  refine completeSendOperation_progress (m := ctx.cancelTimer) ?_ hsome .Idle
  exact ⟨rfl, rfl⟩

/-- The current segment is done. What follows when segments are left is silent. -/
theorem advance_progress {ctx m : LinkContext α} (h : Silent ctx m)
    {more : LinkContext α → TransportSegment α → LinkContext α}
    (hmore : ∀ m' segments, Silent m' (more m' segments)) : Progress ctx (m.advance more) := by
  unfold advance
  rcases hseg : m.pSegments with _ | ⟨addresses, current, _ | ⟨next, rest⟩⟩
  · exact .kept h
  · refine .completed (h.segments ▸ hseg) rfl ?_
    calc (((m.emit (.Advance current)).completeSendOperation).priState .Idle).upperCalls
        = ({ m.emit (.Advance current) with pSegments := none }.emit
            LinkOutput.OnTxReady).upperCalls := rfl
      _ = (m.emit (.Advance current)).upperCalls ++ [.OnTxReady] := upperCalls_emit ..
      _ = m.upperCalls ++ [.Advance current] ++ [.OnTxReady] := by rw [upperCalls_emit]; rfl
      _ = ctx.upperCalls ++ [.Advance current, .OnTxReady] := by rw [h.calls]; simp
  · dsimp only
    have hrest := hmore
      { m.emit (.Advance current) with pSegments := some ⟨addresses, next, rest⟩ }
      ⟨addresses, next, rest⟩
    refine .advanced (h.segments ▸ hseg) hrest.segments ?_
    calc _ = (m.emit (.Advance current)).upperCalls := hrest.calls
      _ = m.upperCalls ++ [.Advance current] := by rw [upperCalls_emit]; rfl
      _ = ctx.upperCalls ++ [.Advance current] := by rw [h.calls]

section Handlers

variable {ctx : LinkContext α}
  (h : ctx.pPriState.readsSegments = true → ctx.pSegments.isSome = true)

/-- An acknowledgement is progress or silent. -/
theorem onAck_progress (full : Bool) : Progress ctx (ctx.onAck full) := by
  unfold onAck
  split
  · -- The acknowledged reset is followed by the current segment.
    dsimp only
    split
    · exact .kept ⟨rfl, rfl⟩
    · refine .kept (((sendConfirmed_silent _ _).after ?_).trans (silent_emit _ rfl))
      exact ⟨rfl, rfl⟩
  · refine advance_progress ?_ sendConfirmed_silent
    exact ⟨rfl, rfl⟩
  · exact .kept (unexpectedFrame_silent ctx)

/-- The end of a transmission of the primary is progress or silent. -/
theorem priOnTxReady_progress : Progress ctx ctx.priOnTxReady := by
  unfold priOnTxReady
  split
  · exact advance_progress (.refl ctx) sendUnconfirmed_silent
  · exact .kept ⟨rfl, rfl⟩
  · exact .kept ⟨rfl, rfl⟩
  · exact .kept ⟨rfl, rfl⟩
  · exact .kept (.refl ctx)

include h

/-- The states that read the message have one. -/
theorem isSome_of_state {state : PriState} (hs : ctx.pPriState = state)
    (hreads : state.readsSegments = true) : ctx.pSegments.isSome = true :=
  h (by rw [hs, hreads])

/-- A negative acknowledgement is progress or silent. -/
theorem onNack_progress (full : Bool) : Progress ctx (ctx.onNack full) := by
  unfold onNack
  split
  case h_1 hs => exact failure_progress (isSome_of_state h hs rfl)
  case h_2 hs =>
    have hsome := isSome_of_state h hs rfl
    have hnote : Silent ctx (ctx.emit (.OnStateChange .UNRESET)) := silent_emit ctx rfl
    dsimp only
    split_ifs
    · refine completeSendOperation_progress (hnote.trans ?_) hsome .Idle
      exact ⟨rfl, rfl⟩
    · split
      · exact .kept hnote
      · exact .kept (hnote.trans ((queueTransmit_priState_silent _ _ true _).after ⟨rfl, rfl⟩))
  case h_3 => exact .kept ⟨rfl, rfl⟩
  case h_4 => exact .kept (unexpectedFrame_silent ctx)

/-- The status of the link is progress or silent. -/
theorem onLinkStatus_progress (full : Bool) : Progress ctx (ctx.onLinkStatus full) := by
  unfold onLinkStatus
  split
  case h_1 hs => exact failure_progress (isSome_of_state h hs rfl)
  case h_2 hs => exact failure_progress (isSome_of_state h hs rfl)
  case h_3 =>
    have hnote : Silent ctx.cancelTimer (ctx.cancelTimer.emit .OnKeepAliveSuccess) :=
      silent_emit _ rfl
    have hcancel : Silent ctx ctx.cancelTimer := ⟨rfl, rfl⟩
    exact .kept (hcancel.trans (hnote.trans ⟨rfl, rfl⟩))
  case h_4 => exact .kept (unexpectedFrame_silent ctx)

/-- A function that is not supported is progress or silent. -/
theorem onNotSupported_progress (full : Bool) : Progress ctx (ctx.onNotSupported full) := by
  unfold onNotSupported
  split
  case h_1 hs => exact failure_progress (isSome_of_state h hs rfl)
  case h_2 hs => exact failure_progress (isSome_of_state h hs rfl)
  case h_3 => exact .kept ⟨rfl, rfl⟩
  case h_4 => exact .kept (unexpectedFrame_silent ctx)

/-- A timeout is progress or silent. -/
theorem onTimeout_progress : Progress ctx ctx.onTimeout := by
  unfold onTimeout
  split
  case h_1 hs =>
    split_ifs
    · exact .kept ((queueTransmit_priState_silent _ _ true _).after ⟨rfl, rfl⟩)
    · exact completeSendOperation_progress (.refl ctx) (isSome_of_state h hs rfl) .Idle
  case h_2 hs =>
    split_ifs
    · dsimp only
      split
      · exact .kept ⟨rfl, rfl⟩
      · exact .kept ((sendConfirmed_silent _ _).after ⟨rfl, rfl⟩)
    · exact completeSendOperation_progress (silent_emit ctx rfl) (isSome_of_state h hs rfl) .Idle
  case h_3 =>
    have hnote : Silent ctx (ctx.emit .OnKeepAliveFailure) := silent_emit ctx rfl
    exact .kept (hnote.trans ⟨rfl, rfl⟩)
  case h_4 => exact .kept (.refl ctx)

end Handlers

/-! ## The secondary station -/

/-- The secondary queues its response silently. -/
theorem queueTransmit_secState_silent (ctx : LinkContext α) (frame : LinkLayerFrame α)
    (state : SecState) : Silent ctx ((ctx.queueTransmit frame false).secState state) :=
  (queueTransmit_silent ctx frame false).trans ⟨rfl, rfl⟩

/-- The reset of the link states is answered silently. -/
theorem onResetLinkStates_silent (ctx : LinkContext α) (source : UInt16) :
    Silent ctx (ctx.onResetLinkStates source) := by
  have hack := queueTransmit_silent ctx (ctx.config.headerFrame .SEC_ACK source) false
  unfold onResetLinkStates
  split
  · exact hack.trans ⟨rfl, rfl⟩
  · exact hack.trans ⟨rfl, rfl⟩
  · exact .refl ctx

/-- The request for the status of the link is answered silently. -/
theorem onRequestLinkStatus_silent (ctx : LinkContext α) (source : UInt16) :
    Silent ctx (ctx.onRequestLinkStatus source) := by
  unfold onRequestLinkStatus
  split
  · exact queueTransmit_secState_silent ctx _ _
  · exact queueTransmit_secState_silent ctx _ _
  · exact .refl ctx

/-- The test of the link is answered silently. -/
theorem onTestLinkStatus_silent (ctx : LinkContext α) (source : UInt16) (fcb : Bool) :
    Silent ctx (ctx.onTestLinkStatus source fcb) := by
  have hack := queueTransmit_silent ctx (ctx.config.headerFrame .SEC_ACK source) false
  unfold onTestLinkStatus
  split
  · exact unexpectedFrame_silent ctx
  · split_ifs
    · exact hack.trans ⟨rfl, rfl⟩
    · exact .refl ctx
  · exact .refl ctx

/-- The end of a transmission of the secondary is silent. -/
theorem secOnTxReady_silent (ctx : LinkContext α) : Silent ctx ctx.secOnTxReady := by
  unfold secOnTxReady
  split
  · exact ⟨rfl, rfl⟩
  · exact ⟨rfl, rfl⟩
  · exact .refl ctx

/-- What the secondary has queued goes out silently. -/
theorem tryPendingSecTx_silent (ctx : LinkContext α) : Silent ctx ctx.tryPendingSecTx := by
  unfold tryPendingSecTx
  split
  · refine Silent.trans ?_ (silent_emit _ rfl)
    exact ⟨rfl, rfl⟩
  · exact .refl ctx

/-- What the primary has queued goes out silently. -/
theorem tryPendingPriTx_silent (ctx : LinkContext α) : Silent ctx ctx.tryPendingPriTx := by
  unfold tryPendingPriTx
  split
  · refine Silent.trans ?_ (silent_emit _ rfl)
    exact ⟨rfl, rfl⟩
  · exact .refl ctx

/-! ## What the upper layer sends -/

/-- The layer takes a message. -/
def takes (ctx : LinkContext α) : Bool := ctx.isOnline && ctx.pSegments.isNone

/-- The message that the layer takes of those that the upper layer sends before it returns: the
first one, when there is room for it. -/
def taken (ctx : LinkContext α) (replies : List (TransportSegment α)) :
    Option (TransportSegment α) :=
  if ctx.takes then replies.head? else none

/-- A message that there is room for starts a transmission. -/
theorem send_of_takes {ctx : LinkContext α} (h : ctx.takes = true)
    (segments : TransportSegment α) :
    ctx.send segments = { ctx with pSegments := some segments }.tryStartTransmission := by
  unfold send
  rw [if_pos (by simpa [takes] using h)]

/-- A message that there is no room for is dropped. -/
theorem send_of_not_takes {ctx : LinkContext α} (h : ctx.takes = false)
    (segments : TransportSegment α) : ctx.send segments = ctx := by
  have hno : ¬ (ctx.isOnline = true ∧ ctx.pSegments.isNone = true) := by
    rw [← Bool.and_eq_true]
    exact Bool.eq_false_iff.mp h
  exact if_neg hno

/-- With a message in progress nothing else is taken. -/
theorem sendAll_of_not_takes {ctx : LinkContext α} (h : ctx.takes = false)
    (replies : List (TransportSegment α)) : ctx.sendAll replies = ctx := by
  unfold sendAll
  induction replies with
  | nil => rfl
  | cons segments replies ih => rw [List.foldl_cons, send_of_not_takes h, ih]

/-- A message that is taken is the one in progress. -/
theorem send_pSegments {ctx : LinkContext α} (h : ctx.takes = true)
    (segments : TransportSegment α) : (ctx.send segments).pSegments = some segments := by
  rw [send_of_takes h]
  exact (tryStartTransmission_kept _).segments

/-- There is no room for a second message. -/
theorem takes_send {ctx : LinkContext α} (h : ctx.takes = true) (segments : TransportSegment α) :
    (ctx.send segments).takes = false := by
  simp [takes, send_pSegments h]

/-- Of several messages only the first one can be taken. -/
theorem sendAll_eq (ctx : LinkContext α) (replies : List (TransportSegment α)) :
    ctx.sendAll replies = match ctx.taken replies with
      | some segments => ctx.send segments
      | none => ctx := by
  rcases htakes : ctx.takes with _ | _
  · rw [taken, htakes, sendAll_of_not_takes htakes]
    rfl
  rcases replies with _ | ⟨segments, replies⟩
  · rw [taken, htakes]
    rfl
  · rw [taken, htakes]
    show (ctx.send segments).sendAll replies = ctx.send segments
    exact sendAll_of_not_takes (takes_send htakes segments) replies

/-- The message in progress after the upper layer has sent, of which it hears nothing. -/
structure Sends (taken : Option (TransportSegment α)) (ctx ctx' : LinkContext α) : Prop where
  segments : ctx'.pSegments = taken.or ctx.pSegments
  calls : ctx'.upperCalls = ctx.upperCalls

/-- Of some messages the first one is taken, when there is room for it. -/
theorem sendAll_sends (ctx : LinkContext α) (replies : List (TransportSegment α)) :
    Sends (ctx.taken replies) ctx (ctx.sendAll replies) := by
  rw [sendAll_eq]
  rcases htaken : ctx.taken replies with _ | segments
  · exact ⟨rfl, rfl⟩
  have htakes : ctx.takes = true := by
    by_contra hno
    simp [taken, hno] at htaken
  have hstart := tryStartTransmission_kept { ctx with pSegments := some segments }
  dsimp only
  rw [send_of_takes htakes]
  exact ⟨hstart.segments, hstart.calls⟩

/-- What is taken depends on the session and on the message in progress alone. -/
theorem taken_congr {ctx ctx' : LinkContext α} (honline : ctx'.isOnline = ctx.isOnline)
    (hsegments : ctx'.pSegments = ctx.pSegments) (replies : List (TransportSegment α)) :
    ctx'.taken replies = ctx.taken replies := by
  rw [taken, taken, takes, takes, honline, hsegments]

/-! ## The events -/

/-- The user data that the switch of `OnFrame` hands to the upper layer. -/
def dispatchesUp (ctx : LinkContext α) (frame : LinkLayerFrame α) : Option (Message α) :=
  let message : Message α := ⟨⟨frame.fields.src, frame.fields.dest⟩, frame.payload⟩
  match frame.fields.func with
  | .PRI_CONFIRMED_USER_DATA =>
    if ctx.pSecState = .Reset ∧ ctx.nextReadFCB = frame.fields.fcb then some message else none
  | .PRI_UNCONFIRMED_USER_DATA => some message
  | _ => none

/-- The user data that `OnFrame` hands to the upper layer. -/
def handsUp (ctx : LinkContext α) (frame : LinkLayerFrame α) : Option (Message α) :=
  if ctx.accepts frame then ctx.dispatchesUp frame else none

/-- What is taken while the layer handles a frame. -/
def takenOnFrame (ctx : LinkContext α) (frame : LinkLayerFrame α)
    (replies : List (TransportSegment α)) : Option (TransportSegment α) :=
  (ctx.handsUp frame).bind fun _ => ctx.taken replies

/-- The upper layer is handed a message, and what it sends is taken when there is room for it. -/
structure Hands (message : Message α) (replies : List (TransportSegment α))
    (ctx ctx' : LinkContext α) : Prop where
  segments : ctx'.pSegments = (ctx.taken replies).or ctx.pSegments
  calls : ctx'.upperCalls = ctx.upperCalls ++ [.OnReceive message]

/-- The upper layer is handed the data, and sends before it returns. -/
theorem pushDataUpSending_hands (ctx : LinkContext α) (message : Message α)
    (replies : List (TransportSegment α)) :
    Hands message replies ctx (ctx.pushDataUpSending message replies) := by
  have hsends := sendAll_sends (ctx.pushDataUp message) replies
  have hcalls : (ctx.pushDataUp message).upperCalls = ctx.upperCalls ++ [.OnReceive message] :=
    upperCalls_emit ..
  exact ⟨hsends.segments, hsends.calls.trans hcalls⟩

/-- A silent step before the upper layer is handed a message. -/
theorem Silent.hands {ctx ctx' ctx'' : LinkContext α} {message : Message α}
    {replies : List (TransportSegment α)} (h : Silent ctx ctx')
    (honline : ctx'.isOnline = ctx.isOnline) (h' : Hands message replies ctx' ctx'') :
    Hands message replies ctx ctx'' := by
  refine ⟨?_, ?_⟩
  · rw [h'.segments, taken_congr honline h.segments, h.segments]
  · rw [h'.calls, h.calls]

/-- A silent step after the upper layer has been handed a message. -/
theorem Hands.silent {ctx ctx' ctx'' : LinkContext α} {message : Message α}
    {replies : List (TransportSegment α)} (h : Hands message replies ctx ctx')
    (h' : Silent ctx' ctx'') : Hands message replies ctx ctx'' :=
  ⟨h'.segments.trans h.segments, h'.calls.trans h.calls⟩

/-- A frame that is not accepted only counts, or the listener hears of it. -/
theorem onFrame_silent {ctx : LinkContext α} {frame : LinkLayerFrame α}
    (hno : ctx.accepts frame = false) (now : ℤ) : Silent ctx (ctx.onFrame frame now) := by
  unfold onFrame
  dsimp only
  split_ifs with hoff hmaster hdest hsrc
  · exact .refl ctx
  · exact ⟨rfl, rfl⟩
  · refine Silent.trans ?_ (silent_emit _ rfl)
    exact ⟨rfl, rfl⟩
  · refine Silent.trans ?_ (silent_emit _ rfl)
    exact ⟨rfl, rfl⟩
  · -- A frame that passes all checks is accepted.
    simp only [accepts, Bool.and_eq_false_iff, Bool.or_eq_false_iff, bne_eq_false_iff_eq,
      beq_eq_false_iff_ne] at hno
    simp_all

/-- Confirmed user data with the expected bit is acknowledged and handed up. -/
theorem onConfirmedUserDataSending_hands {ctx : LinkContext α} (hstate : ctx.pSecState = .Reset)
    {fcb : Bool} (hfcb : ctx.nextReadFCB = fcb) (source : UInt16) (message : Message α)
    (replies : List (TransportSegment α)) :
    Hands message replies ctx (ctx.onConfirmedUserDataSending source fcb message replies) := by
  have hack := queueTransmit_silent ctx (ctx.config.headerFrame .SEC_ACK source) false
  unfold onConfirmedUserDataSending
  simp only [hstate]
  rw [if_pos hfcb]
  refine Silent.hands ?_ ?_ ((pushDataUpSending_hands _ message replies).silent ⟨rfl, rfl⟩)
  · exact hack.trans ⟨rfl, rfl⟩
  · exact queueTransmit_isOnline ..

/-- Other confirmed user data is not expected, or is a retransmission that is acknowledged again. -/
theorem onConfirmedUserDataSending_silent {ctx : LinkContext α} {fcb : Bool}
    (h : ctx.pSecState = .Reset → ctx.nextReadFCB ≠ fcb) (source : UInt16) (message : Message α)
    (replies : List (TransportSegment α)) :
    Silent ctx (ctx.onConfirmedUserDataSending source fcb message replies) := by
  have hack := queueTransmit_silent ctx (ctx.config.headerFrame .SEC_ACK source) false
  unfold onConfirmedUserDataSending
  split
  case h_1 => exact unexpectedFrame_silent ctx
  case h_2 hstate =>
    dsimp only
    rw [if_neg (h hstate)]
    exact hack.trans ⟨rfl, rfl⟩
  case h_3 => exact .refl ctx

/-- A frame with data that is due hands it up. -/
theorem dispatchSending_hands {ctx : LinkContext α} {frame : LinkLayerFrame α}
    {message : Message α} (h : ctx.dispatchesUp frame = some message)
    (replies : List (TransportSegment α)) :
    Hands message replies ctx (ctx.dispatchSending frame replies) := by
  unfold dispatchesUp at h
  unfold dispatchSending
  rcases hfunc : frame.fields.func <;> simp only [hfunc] at h ⊢
  case PRI_CONFIRMED_USER_DATA =>
    by_cases hstate : ctx.pSecState = .Reset ∧ ctx.nextReadFCB = frame.fields.fcb
    · rw [if_pos hstate] at h
      obtain rfl := Option.some.inj h
      exact onConfirmedUserDataSending_hands hstate.1 hstate.2 _ _ replies
    · rw [if_neg hstate] at h
      cases h
  case PRI_UNCONFIRMED_USER_DATA =>
    obtain rfl := Option.some.inj h
    exact pushDataUpSending_hands _ _ replies
  all_goals cases h

/-- Every other frame makes progress or is silent. -/
theorem dispatchSending_progress {ctx : LinkContext α} (hr : Ready ctx)
    {frame : LinkLayerFrame α} (h : ctx.dispatchesUp frame = none)
    (replies : List (TransportSegment α)) : Progress ctx (ctx.dispatchSending frame replies) := by
  unfold dispatchesUp at h
  unfold dispatchSending dispatch
  rcases hfunc : frame.fields.func <;> simp only [hfunc] at h ⊢
  case PRI_CONFIRMED_USER_DATA =>
    refine .kept (onConfirmedUserDataSending_silent ?_ _ _ replies)
    rintro hstate hfcb
    rw [if_pos ⟨hstate, hfcb⟩] at h
    cases h
  case PRI_UNCONFIRMED_USER_DATA => cases h
  case PRI_RESET_LINK_STATES => exact .kept (onResetLinkStates_silent _ _)
  case PRI_TEST_LINK_STATES => exact .kept (onTestLinkStatus_silent _ _ _)
  case PRI_REQUEST_LINK_STATUS => exact .kept (onRequestLinkStatus_silent _ _)
  case SEC_ACK => exact onAck_progress _
  case SEC_NACK => exact onNack_progress hr.segments _
  case SEC_LINK_STATUS => exact onLinkStatus_progress hr.segments _
  case SEC_NOT_SUPPORTED => exact onNotSupported_progress hr.segments _
  case INVALID => exact .kept (.refl _)

/-- User data that is handed up. -/
theorem onFrameSending_hands {ctx : LinkContext α} {frame : LinkLayerFrame α}
    {message : Message α} (h : ctx.handsUp frame = some message) (now : ℤ)
    (replies : List (TransportSegment α)) :
    Hands message replies ctx (ctx.onFrameSending frame now replies) := by
  have hnote : Silent ctx { ctx with lastMessageTimestamp := now } := ⟨rfl, rfl⟩
  unfold handsUp at h
  unfold onFrameSending
  split_ifs at h ⊢
  have hup : dispatchesUp { ctx with lastMessageTimestamp := now } frame = some message := h
  exact (hnote.hands rfl (dispatchSending_hands hup replies)).silent (tryStartTransmission_kept _)

/-- Any other frame. -/
theorem onFrameSending_progress {ctx : LinkContext α} (hr : Ready ctx) {frame : LinkLayerFrame α}
    (h : ctx.handsUp frame = none) (now : ℤ) (replies : List (TransportSegment α)) :
    Progress ctx (ctx.onFrameSending frame now replies) := by
  have hnote : Silent ctx { ctx with lastMessageTimestamp := now } := ⟨rfl, rfl⟩
  unfold handsUp at h
  unfold onFrameSending
  split_ifs at h ⊢ with haccepts
  · have hr' : Ready { ctx with lastMessageTimestamp := now } := ⟨hr.timer, hr.segments⟩
    have hup : dispatchesUp { ctx with lastMessageTimestamp := now } frame = none := h
    exact (hnote.progress (dispatchSending_progress hr' hup replies)).silent
      (tryStartTransmission_kept _)
  · exact .kept (onFrame_silent (by simpa using haccepts) now)

/-- The end of a transmission makes progress or is silent. -/
theorem onTxReady_progress (ctx : LinkContext α) : Progress ctx ctx.onTxReady := by
  unfold onTxReady
  have hidle : Silent ctx { ctx with txMode := .Idle } := ⟨rfl, rfl⟩
  have hpending := hidle.trans
    ((tryPendingSecTx_silent { ctx with txMode := .Idle }).trans (tryPendingPriTx_silent _))
  split
  · exact .kept (.refl ctx)
  · exact (hpending.progress priOnTxReady_progress).silent (tryStartTransmission_kept _)
  · exact .kept (hpending.trans ((secOnTxReady_silent _).trans (tryStartTransmission_kept _)))

/-- The response timer makes progress or is silent. -/
theorem onResponseTimeout_progress {ctx : LinkContext α} (h : Ready ctx) :
    Progress ctx ctx.onResponseTimeout := by
  unfold onResponseTimeout
  split_ifs
  · have hcancel : Silent ctx ctx.cancelTimer := ⟨rfl, rfl⟩
    have htimeout : Progress ctx.cancelTimer ctx.cancelTimer.onTimeout :=
      onTimeout_progress h.segments
    exact (hcancel.progress htimeout).silent (tryStartTransmission_kept _)
  · exact .kept (.refl ctx)

/-- The keep-alive timer is silent. -/
theorem onKeepAliveTimeout_silent (ctx : LinkContext α) (now : ℤ) :
    Silent ctx (ctx.onKeepAliveTimeout now) := by
  unfold onKeepAliveTimeout
  split_ifs
  · exact .refl ctx
  · refine (tryStartTransmission_kept _).after ?_
    exact ⟨rfl, rfl⟩
  · exact tryStartTransmission_kept ctx

/-- A session starts, and the first message that the upper layer sends is taken. -/
theorem onLowerLayerUpSending_starts {ctx : LinkContext α} (hoff : ctx.isOnline = false)
    (hnone : ctx.pSegments = none) (now : ℤ) (replies : List (TransportSegment α)) :
    (ctx.onLowerLayerUpSending now replies).pSegments = replies.head? ∧
      (ctx.onLowerLayerUpSending now replies).upperCalls =
        ctx.upperCalls ++ [.OnLowerLayerUp] := by
  rw [onLowerLayerUpSending_eq hoff]
  generalize hm : ({ ctx with isOnline := true, lastMessageTimestamp := now } : LinkContext α) = m
  have hcalls : ((m.emit (.OnStateChange .UNRESET)).emit .OnLowerLayerUp).upperCalls =
      ctx.upperCalls ++ [.OnLowerLayerUp] := by
    calc _ = (m.emit (.OnStateChange .UNRESET)).upperCalls ++ [.OnLowerLayerUp] :=
      upperCalls_emit ..
      _ = m.upperCalls ++ [.OnLowerLayerUp] := by rw [(silent_emit m rfl).calls]
      _ = ctx.upperCalls ++ [.OnLowerLayerUp] := by rw [← hm]; rfl
  have htakes : ((m.emit (.OnStateChange .UNRESET)).emit .OnLowerLayerUp).takes = true := by
    rw [← hm]
    simp [takes, emit, hnone]
  have hsends := sendAll_sends ((m.emit (.OnStateChange .UNRESET)).emit .OnLowerLayerUp) replies
  refine ⟨?_, hsends.calls.trans hcalls⟩
  rw [hsends.segments, taken, if_pos htakes, ← hm]
  simp [emit, hnone]

/-- A session ends, and the message in progress is forgotten. -/
theorem onLowerLayerDown_ends {ctx : LinkContext α} (hon : ctx.isOnline = true) :
    ctx.onLowerLayerDown.pSegments = none ∧
      ctx.onLowerLayerDown.upperCalls = ctx.upperCalls ++ [.OnLowerLayerDown] := by
  rw [onLowerLayerDown_eq hon]
  refine ⟨rfl, ?_⟩
  rw [upperCalls_emit, (silent_emit _ (by rfl)).calls]
  rfl

end LinkContext

namespace Station

open LinkContext

variable {α : Type*}

/-- The message that the layer takes when it handles the event. -/
def takes (s : Station α) : LinkEvent α → Option (TransportSegment α)
  | .lowerLayerUp _ replies => if s.ctx.isOnline then none else replies.head?
  | .frame frame _ replies => s.ctx.takenOnFrame frame replies
  | .send segments => s.ctx.taken [segments]
  | _ => none

/-- A session lasts until its end: an event of an online link layer leaves it online. -/
theorem Inv.isOnline_handled {s : Station α} (h : Inv s) (hon : s.ctx.isOnline = true)
    (e : LinkEvent α) (ho : s.occurs e = true) (hdown : e ≠ .lowerLayerDown) :
    (s.handled e).isOnline = true := by
  by_cases htx : e = .txReady
  · subst htx
    have hbusy : s.ctx.txMode ≠ .Idle := by
      intro hidle
      rw [← h.inFlight_iff] at hidle
      simp [occurs, hidle] at ho
    obtain ⟨-, -, honline, -⟩ := onTxReady_keeps h.settled hbusy rfl
    exact honline.trans hon
  · obtain ⟨hkeep, -⟩ := handle_keeps h.settled h.started hon e htx hdown
    exact hkeep.online.trans hon

/-- Between two sessions the layer is dormant. -/
theorem Inv.dormant_cleared {s : Station α} (h : Inv s) (hoff : s.ctx.isOnline = false) :
    Dormant { s.ctx with outputs := [] } := by
  exact (h.dormant hoff).collected [] _

/-- The session starts. -/
theorem Inv.handled_up {s : Station α} (h : Inv s) (hoff : s.ctx.isOnline = false) (now : ℤ)
    (replies : List (TransportSegment α)) :
    (s.handled (.lowerLayerUp now replies)).pSegments = replies.head? ∧
      (s.handled (.lowerLayerUp now replies)).upperCalls = [.OnLowerLayerUp] ∧
      (s.handled (.lowerLayerUp now replies)).isOnline = true := by
  have hd := h.dormant_cleared hoff
  have hoff' : ({ s.ctx with outputs := [] } : LinkContext α).isOnline = false := hoff
  obtain ⟨hsegments, hcalls⟩ := onLowerLayerUpSending_starts hoff' hd.pSegments now replies
  obtain ⟨-, -, honline, -⟩ := onLowerLayerUpSending_keeps hd hoff' rfl
    h.settled.lanes.overwrites now
    replies
  exact ⟨hsegments, hcalls, honline⟩

/-- The session ends. -/
theorem handled_down {s : Station α} (hon : s.ctx.isOnline = true) :
    (s.handled .lowerLayerDown).pSegments = none ∧
      (s.handled .lowerLayerDown).upperCalls = [.OnLowerLayerDown] ∧
      (s.handled .lowerLayerDown).isOnline = false := by
  have hon' : ({ s.ctx with outputs := [] } : LinkContext α).isOnline = true := hon
  obtain ⟨hsegments, hcalls⟩ := onLowerLayerDown_ends hon'
  refine ⟨hsegments, hcalls, ?_⟩
  show (onLowerLayerDown { s.ctx with outputs := [] }).isOnline = false
  rw [onLowerLayerDown_eq hon']
  rfl

/-- A frame with user data arrives that is handed up. -/
theorem Inv.handled_hands {s : Station α} (h : Inv s) {frame : LinkLayerFrame α}
    {message : Message α} (hup : s.ctx.handsUp frame = some message) (now : ℤ)
    (replies : List (TransportSegment α)) :
    (s.handled (.frame frame now replies)).pSegments =
        (s.ctx.taken replies).or s.ctx.pSegments ∧
      (s.handled (.frame frame now replies)).upperCalls = [.OnReceive message] ∧
      (s.handled (.frame frame now replies)).isOnline = true ∧ s.ctx.isOnline = true := by
  have hup' : handsUp { s.ctx with outputs := [] } frame = some message := hup
  have hhands := onFrameSending_hands hup' now replies
  have hon : s.ctx.isOnline = true := by
    by_contra hoff
    simp [handsUp, accepts, hoff] at hup
  exact ⟨hhands.segments, hhands.calls, h.isOnline_handled hon _ rfl (by simp), hon⟩

/-- The upper layer sends. -/
theorem Inv.handled_send {s : Station α} (h : Inv s) (htakes : s.ctx.takes = true)
    (segments : TransportSegment α) :
    (s.handled (.send segments)).pSegments = some segments ∧
      (s.handled (.send segments)).upperCalls = [] ∧
      (s.handled (.send segments)).isOnline = true := by
  have htakes' : LinkContext.takes { s.ctx with outputs := [] } = true := htakes
  have hon : s.ctx.isOnline = true := by
    rw [LinkContext.takes, Bool.and_eq_true] at htakes
    exact htakes.1
  refine ⟨send_pSegments htakes' segments, ?_, h.isOnline_handled hon _ rfl (by simp)⟩
  show (send { s.ctx with outputs := [] } segments).upperCalls = []
  rw [send_of_takes htakes']
  exact (tryStartTransmission_kept _).calls

/-- What happens to a link layer while nothing is handed up and the upper layer does not send. -/
inductive Inner : LinkContext α → LinkEvent α → Prop
  | frame {ctx : LinkContext α} {frame : LinkLayerFrame α}
    (h : ctx.handsUp frame = none) (now : ℤ) :
      Inner ctx (.frame frame now [])
  | txReady {ctx : LinkContext α} : Inner ctx .txReady
  | responseTimeout {ctx : LinkContext α} : Inner ctx .responseTimeout
  | keepAliveTimeout {ctx : LinkContext α} (now : ℤ) : Inner ctx (.keepAliveTimeout now)

/-- The events inside of the layer take no message. -/
theorem Inner.takes {s : Station α} {e : LinkEvent α} (he : Inner s.ctx e) : s.takes e = none := by
  cases he with
  | frame hnone now => simp [Station.takes, takenOnFrame, hnone]
  | _ => rfl

/-- The message in progress makes progress, or stays as it is. -/
theorem Inv.handled_progress {s : Station α} (h : Inv s) {e : LinkEvent α} (he : Inner s.ctx e)
    (ho : s.occurs e = true) :
    Progress { s.ctx with outputs := [] } (s.handled e) ∧
      (s.handled e).isOnline = s.ctx.isOnline := by
  have hready := h.settled.ready
  refine ⟨?_, ?_⟩
  · cases he with
    | frame hnone now => exact onFrameSending_progress hready hnone now []
    | txReady => exact onTxReady_progress _
    | responseTimeout => exact onResponseTimeout_progress hready
    | keepAliveTimeout now => exact .kept (onKeepAliveTimeout_silent _ now)
  · rcases hon : s.ctx.isOnline with _ | _
    · -- An offline layer does nothing.
      have hd := h.dormant_cleared hon
      have hsame : s.handled e = { s.ctx with outputs := [] } := by
        refine handle_dormant hd hon e ?_
        cases he <;> simp
      rw [hsame]
      exact hon
    · refine h.isOnline_handled hon e ho ?_
      cases he <;> simp

end Station

end OpenDnp3.Link
