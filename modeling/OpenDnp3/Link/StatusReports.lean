import OpenDnp3.Link.StationRun

/-!
# The reports of a link layer

What the outputs of a link layer say of the link: the status that the listener was told last, and
whether a reset of the link is owed, from a report of `UNRESET` until a reset is transmitted. A
layer is `Careful` if it transmits confirmed data only while none is owed. A handler that is
`Steady` leaves it so, reports nothing and does not touch `isRemoteReset`. The handlers of the
primary are, but for those of a reset that is acknowledged and of data that fails.
-/

namespace OpenDnp3.Link

/-- The states in which a confirmed segment is out. -/
def PriState.sendsData : PriState → Bool
  | .ConfUserDataTransmitWait | .ConfDataWait => true
  | _ => false

namespace LinkOutput

variable {α : Type*}

/-- The last status that the listener was told. -/
def lastStatus (history : List (LinkOutput α)) : Option LinkStatus :=
  (history.filterMap LinkOutput.status).getLast?

/-- Whether a link reset is owed after one more output: from a report of `UNRESET` until a reset of
the link is transmitted. -/
def owes (owed : Bool) : LinkOutput α → Bool
  | .OnStateChange .UNRESET => true
  | .BeginTransmit frame => owed && frame.fields.func != .PRI_RESET_LINK_STATES
  | _ => owed

/-- `UNRESET` was reported and no reset of the link has been transmitted since. -/
def owesReset (history : List (LinkOutput α)) : Bool := history.foldl owes false

/-- No confirmed user data was transmitted while a link reset was owed. -/
def ResetFirst (history : List (LinkOutput α)) : Prop :=
  ∀ before frame after, history = before ++ .BeginTransmit frame :: after →
    frame.fields.func = .PRI_CONFIRMED_USER_DATA → owesReset before = false

/-- An output that neither reports a status nor transmits a reset or confirmed data. -/
def Neutral (output : LinkOutput α) : Prop :=
  output.status = none ∧ ∀ frame, output = .BeginTransmit frame →
    frame.fields.func ≠ .PRI_RESET_LINK_STATES ∧ frame.fields.func ≠ .PRI_CONFIRMED_USER_DATA

/-- What is not transmitted is neutral when it reports no status. -/
theorem Neutral.of_none {output : LinkOutput α} (hs : output.status = none)
    (ht : output.transmitted = none) : output.Neutral := by
  refine ⟨hs, ?_⟩
  rintro frame rfl
  cases ht

/-- A frame without user data is neutral unless it is a reset. -/
theorem Neutral.headerFrame (config : LinkLayerConfig) {func : LinkFunction}
    (hr : func ≠ .PRI_RESET_LINK_STATES) (hd : func ≠ .PRI_CONFIRMED_USER_DATA)
    (destination : UInt16) :
    (LinkOutput.BeginTransmit
      (config.headerFrame func destination : LinkLayerFrame α)).Neutral := by
  refine ⟨rfl, ?_⟩
  rintro _ ⟨rfl⟩
  exact ⟨hr, hd⟩

/-- What is owed after one more output. -/
theorem owesReset_concat (history : List (LinkOutput α)) (output : LinkOutput α) :
    owesReset (history ++ [output]) = owes (owesReset history) output := List.foldl_concat ..

/-- A neutral output does not change what is owed. -/
theorem owes_of_neutral {output : LinkOutput α} (h : output.Neutral) (owed : Bool) :
    owes owed output = owed := by
  cases output with
  | BeginTransmit frame =>
    have hne := (h.2 frame rfl).1
    simp [owes, hne]
  | OnStateChange status => cases h.1
  | _ => rfl

/-- One more output: confirmed user data is only sent when no reset is owed. -/
theorem resetFirst_concat {history : List (LinkOutput α)} {output : LinkOutput α}
    (h : ResetFirst history)
    (ho : ∀ frame, output = .BeginTransmit frame →
      frame.fields.func = .PRI_CONFIRMED_USER_DATA → owesReset history = false) :
    ResetFirst (history ++ [output]) := by
  intro before frame after heq hfunc
  rcases List.eq_nil_or_concat after with rfl | ⟨after, last, rfl⟩
  · obtain ⟨hb, hl⟩ := List.append_inj' heq rfl
    rw [← hb]
    exact ho frame (List.singleton_inj.1 hl) hfunc
  · rw [List.concat_eq_append, ← List.cons_append, ← List.append_assoc] at heq
    exact h before frame after (List.append_inj' heq rfl).1 hfunc

end LinkOutput

namespace LinkContext

open LinkOutput

variable {α : Type*}

/-- The statuses that the layer has reported. -/
def statuses (ctx : LinkContext α) : List LinkStatus := ctx.outputs.filterMap LinkOutput.status

/-- What a layer must have done, after the outputs `history`, to send confirmed data only over a
link that has been reset since it was last reported `UNRESET`. -/
structure Careful (history : List (LinkOutput α)) (ctx : LinkContext α) : Prop where
  data : ctx.pPriState.sendsData = true → ctx.isRemoteReset = true
  paid : ctx.isRemoteReset = true → owesReset (history ++ ctx.outputs) = false
  resetting : ctx.pPriState = .ResetLinkWait ∨
      ctx.pPriState = .LinkResetTransmitWait ∧ ctx.txMode = .Primary →
    owesReset (history ++ ctx.outputs) = false
  first : ResetFirst (history ++ ctx.outputs)

/-- The layer stays careful, reports no status and leaves its flag alone. -/
structure Steady (history : List (LinkOutput α)) (ctx ctx' : LinkContext α) : Prop where
  careful : Careful history ctx'
  statuses : ctx'.statuses = ctx.statuses
  flag : ctx'.isRemoteReset = ctx.isRemoteReset

/-- A careful layer stays so while nothing happens. -/
theorem Careful.steady {history : List (LinkOutput α)} {ctx : LinkContext α}
    (h : Careful history ctx) : Steady history ctx ctx := ⟨h, rfl, rfl⟩

/-- Two steady steps are steady. -/
theorem Steady.trans {history : List (LinkOutput α)} {ctx ctx' ctx'' : LinkContext α}
    (h : Steady history ctx ctx') (h' : Steady history ctx' ctx'') : Steady history ctx ctx'' :=
  ⟨h'.careful, h'.statuses.trans h.statuses, h'.flag.trans h.flag⟩

section Moves

variable {history : List (LinkOutput α)} {ctx ctx' : LinkContext α}

/-- A step of the layer without outputs, to a state that it may be in. -/
theorem Careful.move (h : Careful history ctx) (hout : ctx'.outputs = ctx.outputs)
    (hflag : ctx'.isRemoteReset = ctx.isRemoteReset)
    (hdata : ctx'.pPriState.sendsData = true → ctx.isRemoteReset = true)
    (hres : ctx'.pPriState = .ResetLinkWait ∨
        ctx'.pPriState = .LinkResetTransmitWait ∧ ctx'.txMode = .Primary →
      owesReset (history ++ ctx.outputs) = false) : Steady history ctx ctx' := by
  refine ⟨⟨fun hs => ?_, fun hf => ?_, fun hr => ?_, ?_⟩, ?_, hflag⟩
  · rw [hflag]
    exact hdata hs
  · rw [hout]
    exact h.paid (hflag ▸ hf)
  · rw [hout]
    exact hres hr
  · rw [hout]
    exact h.first
  · unfold LinkContext.statuses
    rw [hout]

/-- A step that leaves the primary in its state. -/
theorem Careful.same (h : Careful history ctx) (hout : ctx'.outputs = ctx.outputs)
    (hflag : ctx'.isRemoteReset = ctx.isRemoteReset) (hpri : ctx'.pPriState = ctx.pPriState)
    (hm : ctx'.txMode = ctx.txMode) : Steady history ctx ctx' :=
  h.move hout hflag (by rw [hpri]; exact h.data) (by rw [hpri, hm]; exact h.resetting)

/-- A neutral output. -/
theorem Careful.emit (h : Careful history ctx) {output : LinkOutput α} (ho : output.Neutral) :
    Steady history ctx (ctx.emit output) := by
  have howes : owesReset (history ++ (ctx.emit output).outputs) =
      owesReset (history ++ ctx.outputs) := by
    show owesReset (history ++ (ctx.outputs ++ [output])) = _
    rw [← List.append_assoc, owesReset_concat, owes_of_neutral ho]
  refine ⟨⟨h.data, fun hf => ?_, fun hr => ?_, ?_⟩, ?_, rfl⟩
  · rw [howes]
    exact h.paid hf
  · rw [howes]
    exact h.resetting hr
  · show ResetFirst (history ++ (ctx.outputs ++ [output]))
    rw [← List.append_assoc]
    exact resetFirst_concat h.first fun frame hf hfunc => absurd hfunc (ho.2 frame hf).2
  · show (ctx.outputs ++ [output]).filterMap _ = _
    rw [List.filterMap_append]
    show ctx.statuses ++ _ = _
    simp [ho.1]

/-- The primary transmits what its state has queued. -/
theorem Careful.transmit (h : Careful history ctx) (frame : LinkLayerFrame α)
    (hout : ctx'.outputs = ctx.outputs ++ [.BeginTransmit frame])
    (hflag : ctx'.isRemoteReset = ctx.isRemoteReset)
    (hdata : ctx'.pPriState.sendsData = true → ctx.isRemoteReset = true)
    (hq : ctx'.PriQueued frame) : Steady history ctx ctx' := by
  have howes : owesReset (history ++ ctx'.outputs) =
      owes (owesReset (history ++ ctx.outputs)) (.BeginTransmit frame) := by
    rw [hout, ← List.append_assoc, owesReset_concat]
  refine ⟨⟨fun hs => ?_, fun hf => ?_, fun hr => ?_, ?_⟩, ?_, hflag⟩
  · rw [hflag]
    exact hdata hs
  · rw [howes, h.paid (hflag ▸ hf)]
    rfl
  · -- The frame is the reset.
    rcases hr with hr | ⟨hr, -⟩
    · simp [PriQueued, hr] at hq
    · simp only [PriQueued, hr] at hq
      obtain ⟨destination, rfl⟩ := hq
      rw [howes]
      simp [owes, LinkLayerConfig.headerFrame, LinkLayerConfig.formatHeader]
  · rw [hout, ← List.append_assoc]
    refine resetFirst_concat h.first fun f hf hfunc => ?_
    -- Confirmed data is only queued over a link that has been reset.
    obtain rfl : frame = f := LinkOutput.BeginTransmit.inj hf
    cases hp : ctx'.pPriState <;> simp only [PriQueued, hp] at hq
    case ConfUserDataTransmitWait => exact h.paid (hdata (by rw [hp]; rfl))
    case SendUnconfirmedTransmitWait =>
      obtain ⟨segments, -, rfl⟩ := hq
      cases hfunc
    case LinkResetTransmitWait =>
      obtain ⟨destination, rfl⟩ := hq
      cases hfunc
    case RequestLinkStatusTransmitWait =>
      subst hq
      cases hfunc
  · unfold LinkContext.statuses
    rw [hout, List.filterMap_append]
    exact List.append_nil _

/-- The primary queues a frame on its way into a state that waits for its transmission. -/
theorem Careful.queue (h : Careful history ctx) (free : ctx.holds true = false)
    (frame : LinkLayerFrame α) (state : PriState) (hstate : state.isTransmitWait = true)
    (hdata : state.sendsData = true → ctx.isRemoteReset = true)
    (hq : ((ctx.queueTransmit frame true).priState state).PriQueued frame) :
    Steady history ctx ((ctx.queueTransmit frame true).priState state) := by
  have hflag : ((ctx.queueTransmit frame true).priState state).isRemoteReset =
      ctx.isRemoteReset := queueTransmit_isRemoteReset ..
  by_cases hidle : ctx.txMode = .Idle
  · refine h.transmit frame ?_ hflag hdata hq
    rw [queueTransmit_idle free hidle]
    rfl
  · -- The frame waits behind one of the secondary.
    refine h.move ?_ hflag hdata fun hr => ?_
    · rw [queueTransmit_busy free hidle]
      rfl
    · exfalso
      rcases hr with hr | ⟨-, hm⟩
      · have hr : state = .ResetLinkWait := hr
        rw [hr] at hstate
        cases hstate
      · rw [queueTransmit_busy free hidle] at hm
        have hm : ctx.txMode = .Primary := hm
        have hholds := (holds_iff ctx true).2 (.inl hm)
        rw [free] at hholds
        cases hholds

end Moves

/-! ## The handlers -/

section Handlers

variable {history : List (LinkOutput α)} {ctx : LinkContext α} (hc : Careful history ctx)

include hc

/-- The end of a message. -/
theorem complete_steady : Steady history ctx (ctx.completeSendOperation.priState .Idle) := by
  have hseg : Steady history ctx { ctx with pSegments := none } := hc.same rfl rfl rfl rfl
  have htold := hseg.careful.emit (show LinkOutput.OnTxReady.Neutral from .of_none rfl rfl)
  exact hseg.trans (htold.trans (htold.careful.move rfl rfl nofun
    (by rintro (h | ⟨h, -⟩) <;> cases h)))

/-- To give a message up reports no status by itself. -/
theorem failure_steady : Steady history ctx ctx.failure := by
  have hstop : Steady history ctx ctx.cancelTimer := hc.same rfl rfl rfl rfl
  exact hstop.trans (complete_steady hstop.careful)

section Queues

variable (free : ctx.holds true = false)

include free

/-- A confirmed segment is queued over a link that has been reset. -/
theorem sendConfirmed_steady (hflag : ctx.isRemoteReset = true) {segments : TransportSegment α}
    (hseg : ctx.pSegments = some segments) : Steady history ctx (ctx.sendConfirmed segments) := by
  refine hc.queue free _ .ConfUserDataTransmitWait rfl (fun _ => hflag) ?_
  exact ⟨segments, by simp [priState, hseg], by simp [priState]⟩

/-- An unconfirmed segment needs no reset of the link. -/
theorem sendUnconfirmed_steady {segments : TransportSegment α}
    (hseg : ctx.pSegments = some segments) : Steady history ctx (ctx.sendUnconfirmed segments) := by
  refine hc.queue free _ .SendUnconfirmedTransmitWait rfl nofun ?_
  exact ⟨segments, by simp [priState, hseg], by simp [priState]⟩

/-- A reset of the link may be queued at any time. -/
theorem queueResetLinks_steady (destination : UInt16) :
    Steady history ctx ((ctx.queueResetLinks destination).priState .LinkResetTransmitWait) := by
  refine hc.queue free _ .LinkResetTransmitWait rfl nofun ?_
  exact ⟨destination, by simp [priState]⟩

end Queues

/-- The current segment is done: the next one goes out, or the message is complete. -/
theorem advance_steady {more : LinkContext α → TransportSegment α → LinkContext α}
    (hmore : ∀ (m : LinkContext α) (segments : TransportSegment α), Careful history m →
      m.holds true = ctx.holds true → m.isRemoteReset = ctx.isRemoteReset →
      m.pSegments = some segments → Steady history m (more m segments)) :
    Steady history ctx (ctx.advance more) := by
  unfold advance
  cases hs : ctx.pSegments with
  | none => exact hc.steady
  | some segments =>
    obtain ⟨addresses, current, rest⟩ := segments
    have htold := hc.emit (show (LinkOutput.Advance current).Neutral from .of_none rfl rfl)
    cases rest with
    | nil => exact htold.trans (complete_steady htold.careful)
    | cons next rest =>
      have hset : Steady history (ctx.emit (.Advance current)) { ctx.emit (.Advance current) with
          pSegments := some ⟨addresses, next, rest⟩ } := htold.careful.same rfl rfl rfl rfl
      exact htold.trans (hset.trans (hmore _ _ hset.careful rfl rfl rfl))

/-- A frame that the state does not expect. -/
theorem unexpected_steady : Steady history ctx ctx.unexpectedFrame := hc.same rfl rfl rfl rfl

/-- The status of the link is steady. -/
theorem onLinkStatus_steady (full : Bool) : Steady history ctx (ctx.onLinkStatus full) := by
  unfold onLinkStatus
  split
  case h_1 => exact failure_steady hc
  case h_2 => exact failure_steady hc
  case h_3 =>
    have hstop : Steady history ctx ctx.cancelTimer := hc.same rfl rfl rfl rfl
    have htold := hstop.careful.emit
      (show LinkOutput.OnKeepAliveSuccess.Neutral from .of_none rfl rfl)
    exact hstop.trans (htold.trans
      (htold.careful.move rfl rfl nofun (by rintro (h | ⟨h, -⟩) <;> cases h)))
  case h_4 => exact unexpected_steady hc

/-- A function that is not supported is steady. -/
theorem onNotSupported_steady (full : Bool) : Steady history ctx (ctx.onNotSupported full) := by
  unfold onNotSupported
  split
  case h_1 => exact failure_steady hc
  case h_2 => exact failure_steady hc
  case h_3 => exact hc.move rfl rfl nofun (by rintro (h | ⟨h, -⟩) <;> cases h)
  case h_4 => exact unexpected_steady hc

/-- A negative acknowledgement of anything but data. -/
theorem onNack_steady (full : Bool) (hne : ctx.pPriState ≠ .ConfDataWait) :
    Steady history ctx (ctx.onNack full) := by
  unfold onNack
  split
  case h_1 => exact failure_steady hc
  case h_2 hs => exact absurd hs hne
  case h_3 => exact hc.move rfl rfl nofun (by rintro (h | ⟨h, -⟩) <;> cases h)
  case h_4 => exact unexpected_steady hc

variable (hw : ctx.transmitWait true = ctx.holds true)

include hw

/-- An acknowledgement of anything but a reset. -/
theorem onAck_steady (full : Bool) (hne : ctx.pPriState ≠ .ResetLinkWait) :
    Steady history ctx (ctx.onAck full) := by
  unfold onAck
  split
  case h_1 hs => exact absurd hs hne
  case h_2 hs =>
    have free := free_of_state hw hs rfl
    have hflag := hc.data (by rw [hs]; rfl)
    have hnote : Steady history ctx
        (cancelTimer { ctx with nextWriteFCB := !ctx.nextWriteFCB }) := hc.same rfl rfl rfl rfl
    exact hnote.trans (advance_steady hnote.careful fun m segments hm hholds hreset hseg =>
      sendConfirmed_steady hm (hholds.trans free) (hreset.trans hflag) hseg)
  case h_3 => exact unexpected_steady hc

/-- The response timer fires, and retries are left when data is not acknowledged. -/
theorem onTimeout_steady (h : Ready ctx)
    (hleft : ctx.pPriState = .ConfDataWait → 0 < ctx.numRetryRemaining) :
    Steady history ctx ctx.cancelTimer.onTimeout := by
  have hstop : Steady history ctx ctx.cancelTimer := hc.same rfl rfl rfl rfl
  unfold onTimeout
  split
  case h_1 hs =>
    -- The reset is repeated or given up.
    have free : ctx.holds true = false := free_of_state hw hs rfl
    split_ifs
    · have hretry : Steady history ctx { ctx.cancelTimer with
          numRetryRemaining := ctx.cancelTimer.numRetryRemaining - 1 } := hc.same rfl rfl rfl rfl
      exact hretry.trans (queueResetLinks_steady hretry.careful free _)
    · exact hstop.trans (complete_steady hstop.careful)
  case h_2 hs =>
    -- Data is repeated as long as retries are left.
    have hs : ctx.pPriState = .ConfDataWait := hs
    have free : ctx.holds true = false := free_of_state hw hs rfl
    obtain ⟨segments, hseg⟩ := h.exists_segments hs rfl
    have hseg' : ctx.cancelTimer.pSegments = some segments := hseg
    rw [if_pos (show 0 < ctx.cancelTimer.numRetryRemaining from hleft hs)]
    simp only [hseg']
    have hretry : Steady history ctx { ctx.cancelTimer with
        numRetryRemaining := ctx.cancelTimer.numRetryRemaining - 1
        pSegments := some segments } := hc.same rfl rfl rfl rfl
    have hflag : ctx.isRemoteReset = true := hc.data (by rw [hs]; rfl)
    exact hretry.trans (sendConfirmed_steady hretry.careful free hflag rfl)
  case h_3 =>
    have htold := hstop.careful.emit
      (show LinkOutput.OnKeepAliveFailure.Neutral from .of_none rfl rfl)
    exact hstop.trans (htold.trans
      (htold.careful.move rfl rfl nofun (by rintro (h | ⟨h, -⟩) <;> cases h)))
  case h_4 => exact hstop

/-- A request for the status of the link is steady. -/
theorem trySendRequestLinkStatus_steady :
    Steady history ctx ctx.trySendRequestLinkStatus := by
  unfold trySendRequestLinkStatus
  split
  case h_1 hs =>
    have free : ctx.holds true = false := free_of_state hw hs rfl
    have hnote : Steady history ctx { ctx with keepAliveTimeout := false } :=
      hc.same rfl rfl rfl rfl
    have hq := hnote.careful.queue free
      (ctx.config.headerFrame .PRI_REQUEST_LINK_STATUS ctx.config.RemoteAddr)
      .RequestLinkStatusTransmitWait rfl nofun (by simp [PriQueued, priState])
    exact hnote.trans (hq.trans
      (hq.careful.emit (show LinkOutput.OnKeepAliveInitiated.Neutral from .of_none rfl rfl)))
  case h_2 => exact hc.steady

/-- A confirmed message is started with a reset of the link, or over a link that has been reset. -/
theorem trySendConfirmed_steady {segments : TransportSegment α}
    (hseg : ctx.pSegments = some segments) :
    Steady history ctx (ctx.trySendConfirmed segments) := by
  unfold trySendConfirmed
  split
  case h_1 hs =>
    have free : ctx.holds true = false := free_of_state hw hs rfl
    have hretry : Steady history ctx ctx.resetRetry := hc.same rfl rfl rfl rfl
    split_ifs with hflag
    · exact hretry.trans (sendConfirmed_steady hretry.careful free hflag hseg)
    · exact hretry.trans (queueResetLinks_steady hretry.careful free _)
  case h_2 => exact hc.steady

/-- An unconfirmed message is started steadily. -/
theorem trySendUnconfirmed_steady {segments : TransportSegment α}
    (hseg : ctx.pSegments = some segments) :
    Steady history ctx (ctx.trySendUnconfirmed segments) := by
  unfold trySendUnconfirmed
  split
  case h_1 hs => exact sendUnconfirmed_steady hc (free_of_state hw hs rfl) hseg
  case h_2 => exact hc.steady

end Handlers

end LinkContext

end OpenDnp3.Link
