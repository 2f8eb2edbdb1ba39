import OpenDnp3.Link.Progress

/-!
# User data without confirms

A link layer that does not use confirms hands every segment of a message that it takes to the
channel, once and in order, whatever else it transmits in between. The segments that it has handed
on and the ones that it still holds are those that it has taken (`Conserves`), and every handler
keeps this.
-/

namespace OpenDnp3.Link

/-- The user data of a frame, with its addresses. -/
def LinkLayerFrame.userData {α : Type*} (frame : LinkLayerFrame α) : Option (Message α) :=
  match frame.fields.func with
  | .PRI_CONFIRMED_USER_DATA | .PRI_UNCONFIRMED_USER_DATA =>
    some ⟨⟨frame.fields.src, frame.fields.dest⟩, frame.payload⟩
  | _ => none

/-- The segments with the addresses of their message. -/
def TransportSegment.messages {α : Type*} (segments : TransportSegment α) : List (Message α) :=
  (segments.current :: segments.rest).map fun segment => ⟨segments.addresses, some segment⟩

/-- The states of a primary that does not use confirms. -/
def PriState.isUnconfirmed : PriState → Bool
  | .Idle | .SendUnconfirmedTransmitWait | .RequestLinkStatusTransmitWait
  | .RequestLinkStatusWait => true
  | _ => false

namespace LinkContext

variable {α : Type*}

/-- The user data that has been handed to the channel, oldest first. -/
def sent (ctx : LinkContext α) : List (Message α) :=
  ctx.transmitted.filterMap LinkLayerFrame.userData

/-- The current segment is with the channel. -/
def currentSent (ctx : LinkContext α) : Bool :=
  ctx.pPriState == .SendUnconfirmedTransmitWait && ctx.pendingPriTx.isNone

/-- The segments of the message in progress that have not been handed to the channel. -/
def unsent (ctx : LinkContext α) : List (Message α) :=
  match ctx.pSegments with
  | none => []
  | some segments => if ctx.currentSent then segments.messages.tail else segments.messages

/-- One more output sends its user data, if it has any. -/
theorem sent_emit (ctx : LinkContext α) (output : LinkOutput α) :
    (ctx.emit output).sent =
      ctx.sent ++ (output.transmitted.bind LinkLayerFrame.userData).toList := by
  rw [sent, transmitted_emit, List.filterMap_append]
  rcases output.transmitted with _ | frame
  · rfl
  · rcases h : frame.userData with _ | message <;> simp [sent, h]

/-- Without a message nothing is left to send. -/
theorem unsent_of_none {ctx : LinkContext α} (h : ctx.pSegments = none) : ctx.unsent = [] := by
  rw [unsent, h]

/-- Where the current segment is at the transmitter the others are left. -/
theorem unsent_of_sent {ctx : LinkContext α} {segments : TransportSegment α}
    (h : ctx.pSegments = some segments) (hsent : ctx.currentSent = true) :
    ctx.unsent = segments.messages.tail := by
  rw [unsent, h]
  exact if_pos hsent

/-- Where it is not, all of the message is left. -/
theorem unsent_of_not_sent {ctx : LinkContext α} {segments : TransportSegment α}
    (h : ctx.pSegments = some segments) (hsent : ctx.currentSent = false) :
    ctx.unsent = segments.messages := by
  rw [unsent, h]
  exact if_neg (Bool.eq_false_iff.mp hsent)

/-- The current segment is at the transmitter in one state only. -/
theorem currentSent_of_ne {ctx : LinkContext α}
    (h : ctx.pPriState ≠ .SendUnconfirmedTransmitWait) : ctx.currentSent = false := by
  rw [currentSent, beq_eq_false_iff_ne.mpr h, Bool.false_and]

/-- The layer does not use confirms, and no message is in a state that does. -/
structure Unconfirmed (ctx : LinkContext α) : Prop where
  config : ctx.config.UseConfirms = false
  state : ctx.pPriState.isUnconfirmed = true

/-- What has been sent and what is left to send are what they were before, with what was taken, and
the configuration stays. -/
structure Conserves (taken : List (Message α)) (ctx ctx' : LinkContext α) : Prop where
  data : ctx'.sent ++ ctx'.unsent = ctx.sent ++ ctx.unsent ++ taken
  config : ctx'.config = ctx.config
  unconfirmed : Unconfirmed ctx'

/-- Nothing is sent and nothing is taken. -/
theorem Conserves.refl {ctx : LinkContext α} (h : Unconfirmed ctx) : Conserves [] ctx ctx :=
  ⟨(List.append_nil _).symm, rfl, h⟩

/-- What two steps take, one after the other. -/
theorem Conserves.trans {taken taken' : List (Message α)} {ctx ctx' ctx'' : LinkContext α}
    (h : Conserves taken ctx ctx') (h' : Conserves taken' ctx' ctx'') :
    Conserves (taken ++ taken') ctx ctx'' := by
  refine ⟨?_, h'.config.trans h.config, h'.unconfirmed⟩
  rw [h'.data, h.data, List.append_assoc]

/-- A step that takes nothing, after one that does. -/
theorem Conserves.quiet {taken : List (Message α)} {ctx ctx' ctx'' : LinkContext α}
    (h : Conserves taken ctx ctx') (h' : Conserves [] ctx' ctx'') : Conserves taken ctx ctx'' := by
  have htrans := h.trans h'
  rwa [List.append_nil] at htrans

/-- A step that touches neither the message nor the frames of the primary. -/
theorem Conserves.of_eq {ctx ctx' : LinkContext α} (h : Unconfirmed ctx)
    (hconfig : ctx'.config = ctx.config) (hstate : ctx'.pPriState = ctx.pPriState)
    (hsegments : ctx'.pSegments = ctx.pSegments) (hpending : ctx'.pendingPriTx = ctx.pendingPriTx)
    (hsent : ctx'.sent = ctx.sent) : Conserves [] ctx ctx' := by
  refine ⟨?_, hconfig, ⟨hconfig ▸ h.config, hstate ▸ h.state⟩⟩
  have hcurrent : ctx'.currentSent = ctx.currentSent := by
    rw [currentSent, currentSent, hstate, hpending]
  have hunsent : ctx'.unsent = ctx.unsent := by
    rw [unsent, unsent, hsegments, hcurrent]
  rw [hsent, hunsent, List.append_nil]

/-- A primary that goes from one state to another, neither of which sends a segment. -/
theorem Conserves.move {ctx ctx' : LinkContext α} (h : Unconfirmed ctx)
    (hconfig : ctx'.config = ctx.config)
    (hfrom : ctx.pPriState ≠ .SendUnconfirmedTransmitWait)
    (hto : ctx'.pPriState ≠ .SendUnconfirmedTransmitWait)
    (hstate : ctx'.pPriState.isUnconfirmed = true) (hsegments : ctx'.pSegments = ctx.pSegments)
    (hsent : ctx'.sent = ctx.sent) : Conserves [] ctx ctx' := by
  refine ⟨?_, hconfig, ⟨hconfig ▸ h.config, hstate⟩⟩
  have hunsent : ctx'.unsent = ctx.unsent := by
    rw [unsent, unsent, hsegments, currentSent_of_ne hfrom, currentSent_of_ne hto]
  rw [hsent, hunsent, List.append_nil]

/-! ## Frames without user data -/

/-- A frame without user data adds nothing to what has been sent. -/
theorem queueTransmit_sent {frame : LinkLayerFrame α} (h : frame.userData = none)
    (ctx : LinkContext α) (primary : Bool) : (ctx.queueTransmit frame primary).sent = ctx.sent := by
  have hformat : (ctx.format frame primary).sent = ctx.sent := by
    unfold format
    split_ifs <;> rfl
  rw [← hformat]
  unfold queueTransmit
  dsimp only
  by_cases hidle : (ctx.format frame primary).txMode = .Idle
  · rw [if_pos hidle, sent_emit]
    show _ ++ (frame.userData).toList = _
    rw [h]
    exact List.append_nil _
  · rw [if_neg hidle]
    split_ifs <;> rfl

/-- The frame of the secondary leaves the one of the primary that waits. -/
theorem queueTransmit_sec_pendingPriTx (ctx : LinkContext α) (frame : LinkLayerFrame α) :
    (ctx.queueTransmit frame false).pendingPriTx = ctx.pendingPriTx := by
  have hformat : (ctx.format frame false).pendingPriTx = ctx.pendingPriTx := by
    unfold format
    split_ifs <;> rfl
  rw [← hformat]
  unfold queueTransmit
  dsimp only
  by_cases hidle : (ctx.format frame false).txMode = .Idle
  · rw [if_pos hidle]
    rfl
  · rw [if_neg hidle, if_neg Bool.false_ne_true]

/-- A frame of the secondary station is queued. -/
theorem queueTransmit_sec_conserves {ctx : LinkContext α} (h : Unconfirmed ctx)
    {frame : LinkLayerFrame α} (hframe : frame.userData = none) :
    Conserves [] ctx (ctx.queueTransmit frame false) :=
  .of_eq h (queueTransmit_config ..) (queueTransmit_pPriState ..) (queueTransmit_pSegments ..)
    (queueTransmit_sec_pendingPriTx ..) (queueTransmit_sent hframe ..)

/-- An idle primary has no frame at the transmitter, and a state that reads the message has one. -/
structure Clear (ctx : LinkContext α) : Prop where
  free : ctx.pPriState = .Idle → ctx.holds true = false
  segments : ctx.pPriState.readsSegments = true → ctx.pSegments.isSome = true

/-- A transmitter in order is clear. -/
theorem Settled.clear {base : List (LinkLayerFrame α)} {ctx : LinkContext α}
    (h : Settled base ctx) : Clear ctx := by
  refine ⟨fun hidle => ?_, h.ready.segments⟩
  rw [← h.waits true]
  show ctx.pPriState.isTransmitWait = false
  rw [hidle]
  rfl

/-! ## The primary station -/

/-- A request for the status sends no data. -/
theorem trySendRequestLinkStatus_conserves {ctx : LinkContext α} (h : Unconfirmed ctx) :
    Conserves [] ctx ctx.trySendRequestLinkStatus := by
  unfold trySendRequestLinkStatus
  split
  case h_1 hidle =>
    refine .move h ?_ (by simp [hidle]) (by simp [priState]) rfl ?_ ?_
    · exact queueTransmit_config ..
    · exact queueTransmit_pSegments ..
    · show (LinkContext.emit _ _).sent = _
      rw [sent_emit]
      exact (List.append_nil _).trans (queueTransmit_sent rfl _ _)
  case h_2 => exact .refl h

/-- The current segment goes to the channel, or waits for it. -/
theorem sendUnconfirmed_conserves {ctx : LinkContext α} (hconfig : ctx.config.UseConfirms = false)
    (free : ctx.holds true = false) {segments : TransportSegment α}
    (hsegments : ctx.pSegments = some segments) :
    (ctx.sendUnconfirmed segments).sent ++ (ctx.sendUnconfirmed segments).unsent =
        ctx.sent ++ segments.messages ∧
      Unconfirmed (ctx.sendUnconfirmed segments) := by
  have hkept : (ctx.sendUnconfirmed segments).pSegments = some segments :=
    (queueTransmit_pSegments ..).trans hsegments
  have hunconfirmed : Unconfirmed (ctx.sendUnconfirmed segments) :=
    ⟨(congrArg LinkLayerConfig.UseConfirms (queueTransmit_config ..)).trans hconfig, rfl⟩
  refine ⟨?_, hunconfirmed⟩
  generalize hframe : ctx.config.formatPrimaryBufferWithUnconfirmed segments.addresses
    segments.current = frame
  have hdata : frame.userData = some ⟨segments.addresses, some segments.current⟩ := by
    rw [← hframe]
    rfl
  have heq : ctx.sendUnconfirmed segments =
      (ctx.queueTransmit frame true).priState .SendUnconfirmedTransmitWait := by
    rw [← hframe]
    rfl
  by_cases hidle : ctx.txMode = .Idle
  · -- It is with the channel now.
    rw [queueTransmit_idle free hidle] at heq
    have hpending : ctx.pendingPriTx = none := by
      simpa [holds, hidle] using free
    have hcurrent : (ctx.sendUnconfirmed segments).currentSent = true := by
      rw [heq]
      simp [currentSent, priState, emit, hpending]
    have hsent : (ctx.sendUnconfirmed segments).sent =
        ctx.sent ++ [⟨segments.addresses, some segments.current⟩] := by
      rw [heq]
      show (LinkContext.emit _ _).sent = _
      rw [sent_emit]
      show _ ++ frame.userData.toList = _
      rw [hdata]
      rfl
    rw [unsent_of_sent hkept hcurrent, hsent, List.append_assoc]
    rfl
  · -- It waits behind a frame of the secondary.
    rw [queueTransmit_busy free hidle, if_pos rfl] at heq
    have hcurrent : (ctx.sendUnconfirmed segments).currentSent = false := by
      rw [heq]
      simp [currentSent, priState]
    rw [unsent_of_not_sent hkept hcurrent, heq]
    rfl

/-- The first segment of a message moves from what is left to what has been sent. -/
theorem trySendUnconfirmed_conserves {ctx : LinkContext α} (h : Unconfirmed ctx)
    (free : ctx.pPriState = .Idle → ctx.holds true = false) {segments : TransportSegment α}
    (hsegments : ctx.pSegments = some segments) :
    Conserves [] ctx (ctx.trySendUnconfirmed segments) := by
  unfold trySendUnconfirmed
  split
  case h_1 hidle =>
    obtain ⟨hdata, hunconfirmed⟩ := sendUnconfirmed_conserves h.config (free hidle) hsegments
    have hnot : ctx.currentSent = false := currentSent_of_ne (by simp [hidle])
    refine ⟨?_, queueTransmit_config .., hunconfirmed⟩
    rw [hdata, unsent_of_not_sent hsegments hnot, List.append_nil]
  case h_2 => exact .refl h

/-- The start of a transmission loses no data. -/
theorem tryStartTransmission_conserves {ctx : LinkContext α} (h : Unconfirmed ctx)
    (free : ctx.pPriState = .Idle → ctx.holds true = false) :
    Conserves [] ctx ctx.tryStartTransmission := by
  unfold tryStartTransmission
  generalize hm : (if ctx.keepAliveTimeout then ctx.trySendRequestLinkStatus else ctx) = m
  have hfirst : Conserves [] ctx m ∧ (m.pPriState = .Idle → m.holds true = false) := by
    rw [← hm]
    split_ifs
    · refine ⟨trySendRequestLinkStatus_conserves h, ?_⟩
      unfold trySendRequestLinkStatus
      -- After a request for the link status the primary is not idle.
      split
      case h_1 => exact nofun
      case h_2 => exact free
    · exact ⟨.refl h, free⟩
  obtain ⟨hconserves, free'⟩ := hfirst
  have hconfirms : m.config.UseConfirms = false := hconserves.unconfirmed.config
  rcases hsegments : m.pSegments with _ | segments
  · simpa only [hsegments] using hconserves
  · simp only [hsegments, hconfirms, Bool.false_eq_true, if_false]
    exact hconserves.quiet
      (trySendUnconfirmed_conserves hconserves.unconfirmed free' hsegments)

/-- What the upper layer sends is taken when there is room for it. -/
theorem send_conserves {ctx : LinkContext α} (h : Unconfirmed ctx) (hclear : Clear ctx)
    (segments : TransportSegment α) :
    Conserves ((ctx.taken [segments]).elim [] TransportSegment.messages) ctx
      (ctx.send segments) := by
  rcases htakes : ctx.takes with _ | _
  · rw [send_of_not_takes htakes, taken, if_neg (by simp [htakes])]
    exact .refl h
  have hnone : ctx.pSegments = none := by
    simp only [takes, Bool.and_eq_true, Option.isNone_iff_eq_none] at htakes
    exact htakes.2
  -- Without a message the primary is not in the state that sends one.
  have hstate : ctx.pPriState ≠ .SendUnconfirmedTransmitWait := by
    intro hstate
    have hsome := hclear.segments (by rw [hstate]; rfl)
    rw [hnone] at hsome
    cases hsome
  have hset : Conserves segments.messages ctx { ctx with pSegments := some segments } := by
    have hunsent : unsent { ctx with pSegments := some segments } = segments.messages :=
      unsent_of_not_sent rfl (currentSent_of_ne hstate)
    refine ⟨?_, rfl, ⟨h.config, h.state⟩⟩
    rw [hunsent, unsent_of_none hnone, List.append_nil]
    rfl
  rw [send_of_takes htakes, taken, if_pos htakes]
  exact hset.quiet (tryStartTransmission_conserves hset.unconfirmed hclear.free)

/-- Of the messages that the upper layer sends the first one is added, when there is room for it. -/
theorem sendAll_conserves {ctx : LinkContext α} (h : Unconfirmed ctx) (hclear : Clear ctx)
    (replies : List (TransportSegment α)) :
    Conserves ((ctx.taken replies).elim [] TransportSegment.messages) ctx
      (ctx.sendAll replies) := by
  rw [sendAll_eq]
  rcases htaken : ctx.taken replies with _ | segments
  · exact .refl h
  have htakes : ctx.takes = true := by
    by_contra hno
    simp [taken, hno] at htaken
  have hsend := send_conserves h hclear segments
  rwa [taken, if_pos htakes] at hsend

/-- The end of the transmission of the primary, after which the current segment is done. -/
theorem priOnTxReady_conserves {ctx : LinkContext α} (h : Unconfirmed ctx)
    (free : ctx.holds true = false) : Conserves [] ctx ctx.priOnTxReady := by
  unfold priOnTxReady
  split
  case h_1 hstate =>
    have hpending : ctx.pendingPriTx = none := by
      unfold holds at free
      simpa using (Bool.or_eq_false_iff.mp free).2
    have hcurrent : ctx.currentSent = true := by simp [currentSent, hstate, hpending]
    unfold advance
    rcases hsegments : ctx.pSegments with _ | ⟨addresses, current, _ | ⟨next, rest⟩⟩
    · exact .refl h
    · -- The last segment is done, and nothing is left.
      have hnone :
        ((ctx.emit (.Advance current)).completeSendOperation.priState .Idle).unsent = [] :=
        unsent_of_none rfl
      have hsent : ((ctx.emit (.Advance current)).completeSendOperation.priState .Idle).sent =
          ctx.sent := by
        calc _ = ({ ctx.emit (.Advance current) with pSegments := none }.emit
              LinkOutput.OnTxReady).sent := rfl
          _ = (ctx.emit (.Advance current)).sent ++ [] := sent_emit ..
          _ = ctx.sent := by rw [List.append_nil, sent_emit]; exact List.append_nil _
      refine ⟨?_, rfl, ⟨h.config, rfl⟩⟩
      dsimp only
      rw [hnone, hsent, unsent_of_sent hsegments hcurrent]
      simp [TransportSegment.messages]
    · -- The next segment is sent.
      have hnext := @sendUnconfirmed_conserves _
        { ctx.emit (.Advance current) with pSegments := some ⟨addresses, next, rest⟩ }
        h.config free ⟨addresses, next, rest⟩ rfl
      refine ⟨?_, queueTransmit_config .., hnext.2⟩
      dsimp only
      rw [hnext.1, unsent_of_sent hsegments hcurrent, List.append_nil]
      congr 1
      show (ctx.emit (.Advance current)).sent = ctx.sent
      rw [sent_emit]
      exact List.append_nil _
  case h_2 hstate => exact absurd h.state (by simp [hstate, PriState.isUnconfirmed])
  case h_3 hstate => exact absurd h.state (by simp [hstate, PriState.isUnconfirmed])
  case h_4 hstate =>
    exact .move h rfl (by simp [hstate]) (by simp [priState]) rfl rfl rfl
  case h_5 => exact .refl h

/-- A primary that waits for a response, or hears one, only goes back to its idle state. -/
theorem Conserves.settle {ctx ctx' : LinkContext α} (h : Unconfirmed ctx)
    (hwait : ctx.pPriState = .RequestLinkStatusWait) (hidle : ctx'.pPriState = .Idle)
    (hconfig : ctx'.config = ctx.config) (hsegments : ctx'.pSegments = ctx.pSegments)
    (hsent : ctx'.sent = ctx.sent) : Conserves [] ctx ctx' :=
  .move h hconfig (by simp [hwait]) (by simp [hidle]) (by rw [hidle]; rfl) hsegments hsent

/-- An unexpected frame loses no data. -/
theorem unexpectedFrame_conserves {ctx : LinkContext α} (h : Unconfirmed ctx) :
    Conserves [] ctx ctx.unexpectedFrame := .of_eq h rfl rfl rfl rfl rfl

/-- An acknowledgement loses no data, since none is waited for. -/
theorem onAck_conserves {ctx : LinkContext α} (h : Unconfirmed ctx) (full : Bool) :
    Conserves [] ctx (ctx.onAck full) := by
  unfold onAck
  split
  case h_1 hstate => exact absurd h.state (by simp [hstate, PriState.isUnconfirmed])
  case h_2 hstate => exact absurd h.state (by simp [hstate, PriState.isUnconfirmed])
  case h_3 => exact unexpectedFrame_conserves h

/-- Nor does a negative acknowledgement. -/
theorem onNack_conserves {ctx : LinkContext α} (h : Unconfirmed ctx) (full : Bool) :
    Conserves [] ctx (ctx.onNack full) := by
  unfold onNack
  split
  case h_1 hstate => exact absurd h.state (by simp [hstate, PriState.isUnconfirmed])
  case h_2 hstate => exact absurd h.state (by simp [hstate, PriState.isUnconfirmed])
  case h_3 hstate => exact .settle h hstate rfl rfl rfl rfl
  case h_4 => exact unexpectedFrame_conserves h

/-- Nor does the status of the link. -/
theorem onLinkStatus_conserves {ctx : LinkContext α} (h : Unconfirmed ctx) (full : Bool) :
    Conserves [] ctx (ctx.onLinkStatus full) := by
  unfold onLinkStatus
  split
  case h_1 hstate => exact absurd h.state (by simp [hstate, PriState.isUnconfirmed])
  case h_2 hstate => exact absurd h.state (by simp [hstate, PriState.isUnconfirmed])
  case h_3 hstate =>
    refine .settle h hstate rfl rfl rfl ?_
    show (ctx.cancelTimer.emit .OnKeepAliveSuccess).sent = ctx.sent
    rw [sent_emit]
    exact List.append_nil _
  case h_4 => exact unexpectedFrame_conserves h

/-- Nor does a function that is not supported. -/
theorem onNotSupported_conserves {ctx : LinkContext α} (h : Unconfirmed ctx) (full : Bool) :
    Conserves [] ctx (ctx.onNotSupported full) := by
  unfold onNotSupported
  split
  case h_1 hstate => exact absurd h.state (by simp [hstate, PriState.isUnconfirmed])
  case h_2 hstate => exact absurd h.state (by simp [hstate, PriState.isUnconfirmed])
  case h_3 hstate => exact .settle h hstate rfl rfl rfl rfl
  case h_4 => exact unexpectedFrame_conserves h

/-- Nor does a timeout: no message waits for a response. -/
theorem onTimeout_conserves {ctx : LinkContext α} (h : Unconfirmed ctx) :
    Conserves [] ctx ctx.onTimeout := by
  unfold onTimeout
  split
  case h_1 hstate => exact absurd h.state (by simp [hstate, PriState.isUnconfirmed])
  case h_2 hstate => exact absurd h.state (by simp [hstate, PriState.isUnconfirmed])
  case h_3 hstate =>
    refine .settle h hstate rfl rfl rfl ?_
    show (ctx.emit .OnKeepAliveFailure).sent = ctx.sent
    rw [sent_emit]
    exact List.append_nil _
  case h_4 => exact .refl h

/-! ## The secondary station -/

section Secondary

variable {ctx : LinkContext α} (h : Unconfirmed ctx) (source : UInt16)

include h

/-- The acknowledgement of the secondary carries no data. -/
theorem queueAck_conserves (nextReadFCB : Bool) (state : SecState) : Conserves [] ctx
    ({ ctx.queueAck source with nextReadFCB := nextReadFCB }.secState state) := by
  have hqueue := queueTransmit_sec_conserves h
    (show (ctx.config.headerFrame .SEC_ACK source).userData = none from rfl)
  exact hqueue.quiet (.of_eq hqueue.unconfirmed rfl rfl rfl rfl rfl)

/-- The status of the secondary carries no data. -/
theorem queueLinkStatus_conserves (state : SecState) :
    Conserves [] ctx ((ctx.queueLinkStatus source).secState state) := by
  have hqueue := queueTransmit_sec_conserves h
    (show (ctx.config.headerFrame .SEC_LINK_STATUS source).userData = none from rfl)
  exact hqueue.quiet (.of_eq hqueue.unconfirmed rfl rfl rfl rfl rfl)

/-- A reset by the remote station loses no data. -/
theorem onResetLinkStates_conserves : Conserves [] ctx (ctx.onResetLinkStates source) := by
  unfold onResetLinkStates
  split
  · exact queueAck_conserves h source true _
  · exact queueAck_conserves h source true _
  · exact .refl h

/-- A request for the status loses no data. -/
theorem onRequestLinkStatus_conserves : Conserves [] ctx (ctx.onRequestLinkStatus source) := by
  unfold onRequestLinkStatus
  split
  · exact queueLinkStatus_conserves h source _
  · exact queueLinkStatus_conserves h source _
  · exact .refl h

/-- A test of the link loses no data. -/
theorem onTestLinkStatus_conserves (fcb : Bool) :
    Conserves [] ctx (ctx.onTestLinkStatus source fcb) := by
  unfold onTestLinkStatus
  split
  · exact unexpectedFrame_conserves h
  · split_ifs
    · exact queueAck_conserves h source _ _
    · exact .refl h
  · exact .refl h

end Secondary

/-- The end of a transmission of the secondary loses no data. -/
theorem secOnTxReady_conserves {ctx : LinkContext α} (h : Unconfirmed ctx) :
    Conserves [] ctx ctx.secOnTxReady := by
  unfold secOnTxReady
  split
  · exact .of_eq h rfl rfl rfl rfl rfl
  · exact .of_eq h rfl rfl rfl rfl rfl
  · exact .refl h

/-! ## The events -/

/-- Clearness depends on the primary and on its message alone. -/
theorem Clear.of_eq {ctx ctx' : LinkContext α} (h : Clear ctx)
    (hstate : ctx'.pPriState = ctx.pPriState) (hholds : ctx'.holds true = ctx.holds true)
    (hsegments : ctx'.pSegments = ctx.pSegments) : Clear ctx' := by
  refine ⟨?_, ?_⟩
  · rw [hstate, hholds]
    exact h.free
  · rw [hstate, hsegments]
    exact h.segments

/-- The upper layer is handed a message and sends. -/
theorem pushDataUpSending_conserves {ctx : LinkContext α} (h : Unconfirmed ctx)
    (hclear : Clear ctx) (message : Message α) (replies : List (TransportSegment α)) :
    Conserves ((ctx.taken replies).elim [] TransportSegment.messages) ctx
      (ctx.pushDataUpSending message replies) := by
  have hpush : Conserves [] ctx (ctx.pushDataUp message) := by
    refine .of_eq h rfl rfl rfl rfl ?_
    rw [pushDataUp, sent_emit]
    exact List.append_nil _
  have hsend := sendAll_conserves hpush.unconfirmed
    (hclear.of_eq rfl rfl rfl) replies
  exact hpush.trans hsend

/-- A response of the secondary does not put a frame of the primary at the transmitter. -/
theorem queueTransmit_sec_holds (ctx : LinkContext α) (frame : LinkLayerFrame α) :
    (ctx.queueTransmit frame false).holds true = ctx.holds true := by
  have hformat : (ctx.format frame false).txMode = ctx.txMode := by
    unfold format
    split_ifs <;> rfl
  have hpending := queueTransmit_sec_pendingPriTx ctx frame
  have hmode : (ctx.queueTransmit frame false).txMode = .Primary ↔ ctx.txMode = .Primary := by
    unfold queueTransmit
    dsimp only
    by_cases hidle : (ctx.format frame false).txMode = .Idle
    · rw [if_pos hidle]
      simp [emit, ← hformat, hidle]
    · rw [if_neg hidle, if_neg Bool.false_ne_true, hformat]
  simp only [holds, if_true, hpending, hmode]

/-- Confirmed user data that is handed up: the acknowledgement is queued before the upper layer
sends. -/
theorem onConfirmedUserDataSending_conserves {ctx : LinkContext α} (h : Unconfirmed ctx)
    (hclear : Clear ctx) (hstate : ctx.pSecState = .Reset) {fcb : Bool}
    (hfcb : ctx.nextReadFCB = fcb) (source : UInt16) (message : Message α)
    (replies : List (TransportSegment α)) :
    Conserves ((ctx.taken replies).elim [] TransportSegment.messages) ctx
      (ctx.onConfirmedUserDataSending source fcb message replies) := by
  have hqueue := queueTransmit_sec_conserves h
    (show (ctx.config.headerFrame .SEC_ACK source).userData = none from rfl)
  unfold onConfirmedUserDataSending
  simp only [hstate]
  rw [if_pos hfcb]
  generalize hm : ({ ctx.queueAck source with nextReadFCB := !ctx.nextReadFCB } :
    LinkContext α) = m
  have hack : Conserves [] ctx m := by
    rw [← hm]
    exact hqueue.quiet (.of_eq hqueue.unconfirmed rfl rfl rfl rfl rfl)
  have hclear' : Clear m := by
    rw [← hm]
    exact hclear.of_eq (queueTransmit_pPriState ..) (queueTransmit_sec_holds ..)
      (queueTransmit_pSegments ..)
  have htaken : m.taken replies = ctx.taken replies := by
    rw [← hm]
    exact taken_congr (queueTransmit_isOnline ..) (queueTransmit_pSegments ..) replies
  have hpush := hack.trans (pushDataUpSending_conserves hack.unconfirmed hclear' message replies)
  rw [htaken, List.nil_append] at hpush
  exact hpush.quiet (.of_eq hpush.unconfirmed rfl rfl rfl rfl rfl)

/-- Confirmed data that is not due is not handed up, and nothing is taken. -/
theorem onConfirmedUserDataSending_ignores {ctx : LinkContext α} (h : Unconfirmed ctx)
    {fcb : Bool} (hno : ctx.pSecState = .Reset → ctx.nextReadFCB ≠ fcb) (source : UInt16)
    (message : Message α) (replies : List (TransportSegment α)) :
    Conserves [] ctx (ctx.onConfirmedUserDataSending source fcb message replies) := by
  unfold onConfirmedUserDataSending
  split
  case h_1 => exact unexpectedFrame_conserves h
  case h_2 hstate =>
    dsimp only
    rw [if_neg (hno hstate)]
    exact queueAck_conserves h source _ _
  case h_3 => exact .refl h

/-- A frame takes the message that the upper layer sends when it is handed data, and loses none. -/
theorem dispatchSending_conserves {ctx : LinkContext α} (h : Unconfirmed ctx) (hclear : Clear ctx)
    (frame : LinkLayerFrame α) (replies : List (TransportSegment α)) :
    Conserves (((ctx.dispatchesUp frame).bind fun _ => ctx.taken replies).elim []
      TransportSegment.messages) ctx (ctx.dispatchSending frame replies) := by
  unfold dispatchesUp dispatchSending dispatch
  rcases hfunc : frame.fields.func <;> simp only [hfunc]
  case PRI_CONFIRMED_USER_DATA =>
    by_cases hstate : ctx.pSecState = .Reset ∧ ctx.nextReadFCB = frame.fields.fcb
    · rw [if_pos hstate]
      exact onConfirmedUserDataSending_conserves h hclear hstate.1 hstate.2 _ _ replies
    · rw [if_neg hstate]
      exact onConfirmedUserDataSending_ignores h (fun hr hf => hstate ⟨hr, hf⟩) _ _ replies
  case PRI_UNCONFIRMED_USER_DATA => exact pushDataUpSending_conserves h hclear _ replies
  case PRI_RESET_LINK_STATES => exact onResetLinkStates_conserves h _
  case PRI_TEST_LINK_STATES => exact onTestLinkStatus_conserves h _ _
  case PRI_REQUEST_LINK_STATUS => exact onRequestLinkStatus_conserves h _
  case SEC_ACK => exact onAck_conserves h _
  case SEC_NACK => exact onNack_conserves h _
  case SEC_LINK_STATUS => exact onLinkStatus_conserves h _
  case SEC_NOT_SUPPORTED => exact onNotSupported_conserves h _
  case INVALID => exact .refl h

/-- A frame that is not accepted is only counted. -/
theorem onFrame_rejected_conserves {ctx : LinkContext α} (h : Unconfirmed ctx)
    {frame : LinkLayerFrame α} (hno : ctx.accepts frame = false) (now : ℤ) :
    Conserves [] ctx (ctx.onFrame frame now) := by
  have hcount (statistics : StackLinkStatistics) {output : LinkOutput α}
      (ho : output.transmitted = none) :
      Conserves [] ctx ({ ctx with statistics }.emit output) := by
    refine .of_eq h rfl rfl rfl rfl ?_
    rw [sent_emit, ho]
    exact List.append_nil _
  unfold onFrame
  dsimp only
  split_ifs with hoff hmaster hdest hsrc
  · exact .refl h
  · exact .of_eq h rfl rfl rfl rfl rfl
  · exact hcount _ rfl
  · exact hcount _ rfl
  · exfalso
    revert hno
    simp_all [accepts]

/-- The same of a frame that may not be for the layer. -/
theorem onFrameSending_conserves {base : List (LinkLayerFrame α)} {ctx : LinkContext α}
    (h : Unconfirmed ctx) (hsettled : Settled base ctx) (hstarted : Started ctx)
    (frame : LinkLayerFrame α) (now : ℤ) (replies : List (TransportSegment α)) :
    Conserves ((ctx.takenOnFrame frame replies).elim [] TransportSegment.messages) ctx
      (ctx.onFrameSending frame now replies) := by
  unfold takenOnFrame handsUp onFrameSending
  split_ifs with haccepts
  · have hnote : Conserves [] ctx { ctx with lastMessageTimestamp := now } :=
      .of_eq h rfl rfl rfl rfl rfl
    have hsettled' : Keeps base ctx { ctx with lastMessageTimestamp := now } :=
      hsettled.pri (.keep hsettled.ready (hsettled.waits true) ⟨rfl, rfl, rfl, rfl, rfl, rfl⟩
        ⟨rfl, rfl⟩ rfl rfl rfl rfl rfl)
    have hdispatch := dispatchSending_conserves hnote.unconfirmed hsettled'.settled.clear frame
      replies
    have hsettled'' := dispatchSending_keeps hsettled'.settled hstarted frame replies
    have hall := (hnote.trans hdispatch).quiet
      (tryStartTransmission_conserves hdispatch.unconfirmed hsettled''.settled.clear.free)
    exact hall
  · exact onFrame_rejected_conserves h (by simpa using haccepts) now

/-- The frame that waited goes out when the one in flight has gone. -/
theorem reported_conserves {base : List (LinkLayerFrame α)} {ctx : LinkContext α}
    (h : Unconfirmed ctx) (hlanes : Lanes base ctx) (primary : Bool)
    (hmode : ctx.txMode = stationMode primary) : Conserves [] ctx ctx.reported := by
  have hown : ctx.pending primary = none := by
    rcases hpending : ctx.pending primary with _ | frame
    · rfl
    · exact absurd ((hlanes.pending _ frame hpending).symm.trans hmode) (stationMode_not primary)
  rcases reported_eq hlanes hmode with ⟨-, heq⟩ | ⟨frame, hother, heq⟩
  · rw [heq]
    exact .of_eq h rfl rfl rfl rfl rfl
  -- A frame of the other station goes out; its user data is sent with it.
  have hqueued : ctx.Queued (!primary) frame := hlanes.queued _ _ (.inr hother)
  have hsent : ctx.reported.sent = ctx.sent ++ frame.userData.toList := by
    rw [heq]
    exact sent_emit ctx (.BeginTransmit frame)
  rcases primary with _ | _
  · -- The frame of the primary goes out.
    have hpri : ctx.pendingPriTx = some frame := hother
    have hqueued : ctx.PriQueued frame := hqueued
    unfold PriQueued at hqueued
    rcases hstate : ctx.pPriState <;> simp only [hstate] at hqueued
    case SendUnconfirmedTransmitWait =>
      obtain ⟨segments, hsegments, rfl⟩ := hqueued
      have hbefore : ctx.currentSent = false := by simp [currentSent, hpri]
      have hafter : ctx.reported.currentSent = true := by
        rw [heq]
        simp [currentSent, hstate]
      have hsegments' : ctx.reported.pSegments = some segments := by rw [heq]; exact hsegments
      refine ⟨?_, ?_, ?_⟩
      · rw [unsent_of_sent hsegments' hafter, unsent_of_not_sent hsegments hbefore, hsent,
          List.append_nil, List.append_assoc]
        rfl
      · rw [heq]
      · rw [heq]
        exact ⟨h.config, h.state⟩
    case RequestLinkStatusTransmitWait =>
      have hnone : frame.userData = none := by rw [hqueued]; rfl
      have hstate' : ctx.reported.pPriState = .RequestLinkStatusTransmitWait := by
        rw [heq]
        exact hstate
      refine .move h ?_ (by simp [hstate]) (by simp [hstate']) (by rw [hstate']; rfl) ?_ ?_
      · rw [heq]
      · rw [heq]
      · rw [hsent, hnone]
        exact List.append_nil _
    all_goals exact absurd h.state (by simp [hstate, PriState.isUnconfirmed])
  · -- The frame of the secondary goes out.
    have hqueued : ctx.SecQueued frame := hqueued
    have hpri : ctx.pendingPriTx = none := hown
    have hnone : frame.userData = none := by
      unfold SecQueued at hqueued
      split at hqueued
      · obtain ⟨destination, rfl | rfl⟩ := hqueued <;> rfl
      · obtain ⟨destination, rfl⟩ := hqueued
        rfl
      · exact hqueued.elim
    refine .of_eq h ?_ ?_ ?_ ?_ ?_
    · rw [heq]
    · rw [heq]
    · rw [heq]
    · rw [heq, hpri]
    · rw [hsent, hnone]
      exact List.append_nil _

/-- The end of a transmission sends the next segment, and loses none. -/
theorem onTxReady_conserves {base : List (LinkLayerFrame α)} {ctx : LinkContext α}
    (h : Unconfirmed ctx) (hsettled : Settled base ctx) (hout : ctx.transmitted = []) :
    Conserves [] ctx ctx.onTxReady := by
  unfold onTxReady
  rcases hmode : ctx.txMode
  case Idle => exact .refl h
  case Primary =>
    have hr := hsettled.reported true hmode hout
    have hfirst := reported_conserves h hsettled.lanes true hmode
    have hpri := priOnTxReady_conserves hfirst.unconfirmed hr.free
    have hkeep := (priOnTxReady_work hr.ready hr.free hr.wait).keeps hr.lanes hr.other
    exact (hfirst.quiet hpri).quiet
      (tryStartTransmission_conserves hpri.unconfirmed hkeep.settled.clear.free)
  case Secondary =>
    have hr := hsettled.reported false hmode hout
    have hfirst := reported_conserves h hsettled.lanes false hmode
    have hsec := secOnTxReady_conserves hfirst.unconfirmed
    have hkeep := (secOnTxReady_work hr.free hr.wait).keeps hr.lanes hr.ready hr.other
    exact (hfirst.quiet hsec).quiet
      (tryStartTransmission_conserves hsec.unconfirmed hkeep.settled.clear.free)

/-- Between two sessions the primary is clear. -/
theorem Dormant.clear {ctx : LinkContext α} (h : Dormant ctx) : Clear ctx := by
  refine ⟨fun _ => ?_, fun hreads => ?_⟩
  · simp [holds, h.txMode, h.pendingPriTx]
  · rw [h.pPriState] at hreads
    cases hreads

/-- A session starts without a message, and the first one that the upper layer sends is taken. -/
theorem onLowerLayerUpSending_conserves {ctx : LinkContext α} (h : Unconfirmed ctx)
    (hd : Dormant ctx) (hoff : ctx.isOnline = false) (now : ℤ)
    (replies : List (TransportSegment α)) :
    Conserves (replies.head?.elim [] TransportSegment.messages) ctx
      (ctx.onLowerLayerUpSending now replies) := by
  rw [onLowerLayerUpSending_eq hoff]
  generalize hm : (({ ctx with isOnline := true, lastMessageTimestamp := now } :
    LinkContext α).emit (.OnStateChange .UNRESET)).emit .OnLowerLayerUp = m
  have hnote : Conserves [] ctx m := by
    rw [← hm]
    refine .of_eq h rfl rfl rfl rfl ?_
    rw [sent_emit, sent_emit]
    exact (List.append_nil _).trans (List.append_nil _)
  have hclear : Clear m := by
    rw [← hm]
    exact hd.clear.of_eq rfl rfl rfl
  have htaken : m.taken replies = replies.head? := by
    have htakes : m.takes = true := by
      rw [← hm]
      simp [takes, emit, hd.pSegments]
    rw [taken, if_pos htakes]
  have hsend := hnote.trans (sendAll_conserves hnote.unconfirmed hclear replies)
  rwa [htaken, List.nil_append] at hsend

/-- The keep-alive timer loses no data. -/
theorem onKeepAliveTimeout_conserves {ctx : LinkContext α} (h : Unconfirmed ctx)
    (hclear : Clear ctx) (now : ℤ) : Conserves [] ctx (ctx.onKeepAliveTimeout now) := by
  unfold onKeepAliveTimeout
  split_ifs
  · exact .refl h
  · have hnote : Conserves [] ctx
        { ctx with lastMessageTimestamp := now, keepAliveTimeout := true } :=
      .of_eq h rfl rfl rfl rfl rfl
    exact hnote.quiet (tryStartTransmission_conserves hnote.unconfirmed hclear.free)
  · exact tryStartTransmission_conserves h hclear.free

/-- The response timer loses no data. -/
theorem onResponseTimeout_conserves {base : List (LinkLayerFrame α)} {ctx : LinkContext α}
    (h : Unconfirmed ctx) (hsettled : Settled base ctx) :
    Conserves [] ctx ctx.onResponseTimeout := by
  unfold onResponseTimeout
  split_ifs with htimer
  · have hcancel : Conserves [] ctx ctx.cancelTimer := .of_eq h rfl rfl rfl rfl rfl
    have htimeout := onTimeout_conserves hcancel.unconfirmed
    have hkeep := hsettled.pri (onTimeout_work hsettled.ready (hsettled.waits true) htimer)
    exact (hcancel.quiet htimeout).quiet
      (tryStartTransmission_conserves htimeout.unconfirmed hkeep.settled.clear.free)
  · exact .refl h

end LinkContext

namespace Station

open LinkContext

variable {α : Type*}

/-- As long as a session lasts, the segments that the layer has handed to the channel and the ones
that it still holds are those that it has taken. -/
theorem Inv.conserves {s : Station α} (h : Inv s) (hu : Unconfirmed s.ctx) (e : LinkEvent α)
    (ho : s.occurs e = true) (hdown : e ≠ .lowerLayerDown) :
    Conserves ((s.takes e).elim [] TransportSegment.messages) { s.ctx with outputs := [] }
      (s.handled e) := by
  have hu' : Unconfirmed { s.ctx with outputs := [] } := ⟨hu.config, hu.state⟩
  have hsettled := h.settled
  have hstarted : Started { s.ctx with outputs := [] } := h.started
  cases e with
  | lowerLayerUp now replies =>
    show Conserves _ _ (onLowerLayerUpSending { s.ctx with outputs := [] } now replies)
    rcases hon : s.ctx.isOnline with _ | _
    · have hup := onLowerLayerUpSending_conserves hu' ((h.dormant hon).collected [] _) hon now
        replies
      rwa [takes, if_neg (by simp [hon])]
    · have hsame : onLowerLayerUpSending { s.ctx with outputs := [] } now replies =
          { s.ctx with outputs := [] } := if_pos hon
      rw [hsame, takes, if_pos hon]
      exact .refl hu'
  | lowerLayerDown => exact absurd rfl hdown
  | frame frame now replies =>
    exact onFrameSending_conserves hu' hsettled hstarted frame now replies
  | txReady => exact onTxReady_conserves hu' hsettled rfl
  | send segments => exact send_conserves hu' hsettled.clear segments
  | responseTimeout => exact onResponseTimeout_conserves hu' hsettled
  | keepAliveTimeout now => exact onKeepAliveTimeout_conserves hu' hsettled.clear now

end Station

end OpenDnp3.Link
