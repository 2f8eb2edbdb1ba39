import OpenDnp3.Link.StatusEvents

/-!
# The reported status of the link

The listener is told `RESET` when the remote station has acknowledged a reset of its link, and
`UNRESET` at the start and at the end of a session and when confirmed data fails. The flag
`isRemoteReset` decides whether the next confirmed frame is preceded by a reset. The two are changed
together, except where confirmed data fails: `PLLS_ConfDataWait` then reports `UNRESET` and leaves
the flag set.
-/

namespace OpenDnp3.Link

namespace LinkContext

open LinkOutput

variable {α : Type*}

/-! ## What is not reported -/

section Silent

variable (ctx : LinkContext α)

/-- To queue a frame reports no status. -/
theorem queueTransmit_statuses (frame : LinkLayerFrame α) (primary : Bool) :
    (ctx.queueTransmit frame primary).statuses = ctx.statuses := by
  have hformat : (ctx.format frame primary).statuses = ctx.statuses := by
    unfold format
    split_ifs <;> rfl
  unfold queueTransmit
  dsimp only
  generalize ctx.format frame primary = m at hformat
  have hemit (m' : LinkContext α) : (m'.emit (.BeginTransmit frame)).statuses = m'.statuses := by
    show (m'.outputs ++ [_]).filterMap _ = m'.outputs.filterMap _
    rw [List.filterMap_append]
    exact List.append_nil _
  rw [← hformat]
  split_ifs
  · exact hemit _
  · exact hemit _
  · rfl
  · rfl

/-- Starting a transmission neither reports a status nor changes the flag. -/
theorem tryStartTransmission_silent :
    ctx.tryStartTransmission.statuses = ctx.statuses ∧
      ctx.tryStartTransmission.isRemoteReset = ctx.isRemoteReset := by
  unfold tryStartTransmission
  generalize hm : (if ctx.keepAliveTimeout then ctx.trySendRequestLinkStatus else ctx) = m
  -- First the keep-alive request, then the message in progress.
  have hfirst : m.statuses = ctx.statuses ∧ m.isRemoteReset = ctx.isRemoteReset := by
    rw [← hm]
    split_ifs
    swap
    · exact ⟨rfl, rfl⟩
    unfold trySendRequestLinkStatus
    split
    case h_1 =>
      constructor
      · have hq := queueTransmit_statuses { ctx with keepAliveTimeout := false }
          (ctx.config.headerFrame .PRI_REQUEST_LINK_STATUS ctx.config.RemoteAddr) true
        refine Eq.trans ?_ hq
        show (_ ++ [LinkOutput.OnKeepAliveInitiated]).filterMap _ = _
        rw [List.filterMap_append]
        exact List.append_nil _
      · exact queueTransmit_isRemoteReset ..
    case h_2 => exact ⟨rfl, rfl⟩
  rw [← hfirst.1, ← hfirst.2]
  dsimp only
  cases m.pSegments with
  | none => exact ⟨rfl, rfl⟩
  | some segments =>
    dsimp only
    split_ifs
    · unfold trySendConfirmed
      split
      case h_1 =>
        split_ifs
        · exact ⟨queueTransmit_statuses .., queueTransmit_isRemoteReset ..⟩
        · exact ⟨queueTransmit_statuses .., queueTransmit_isRemoteReset ..⟩
      case h_2 => exact ⟨rfl, rfl⟩
    · unfold trySendUnconfirmed
      split
      case h_1 => exact ⟨queueTransmit_statuses .., queueTransmit_isRemoteReset ..⟩
      case h_2 => exact ⟨rfl, rfl⟩

variable {ctx} (h : Ready ctx) (hs : ctx.pPriState = .ConfDataWait)

include h hs

/-- A negative acknowledgement of data is reported as `UNRESET`; the flag stays. -/
theorem onNack_reports (full : Bool) :
    (ctx.onNack full).statuses = ctx.statuses ++ [.UNRESET] ∧
      (ctx.onNack full).isRemoteReset = ctx.isRemoteReset := by
  obtain ⟨segments, hseg⟩ := h.exists_segments hs rfl
  have hseg' : (ctx.emit (.OnStateChange .UNRESET)).pSegments = some segments := hseg
  have htold : (ctx.emit (.OnStateChange .UNRESET)).statuses = ctx.statuses ++ [.UNRESET] :=
    List.filterMap_append
  unfold onNack
  split
  case h_1 hs' => rw [hs] at hs'; cases hs'
  case h_2 =>
    cases full with
    | true =>
      refine ⟨?_, rfl⟩
      show (_ ++ [LinkOutput.OnTxReady]).filterMap _ = _
      rw [List.filterMap_append]
      exact (List.append_nil _).trans htold
    | false =>
      simp only [Bool.false_eq_true, if_false, hseg']
      exact ⟨(queueTransmit_statuses ..).trans htold, queueTransmit_isRemoteReset ..⟩
  case h_3 hs' => rw [hs] at hs'; cases hs'
  case h_4 hne _ => exact absurd hs hne

omit h in
/-- Data that is given up for want of retries is reported as `UNRESET`; the flag stays. -/
theorem onTimeout_reports (hleft : ctx.numRetryRemaining = 0) :
    ctx.cancelTimer.onTimeout.statuses = ctx.statuses ++ [.UNRESET] ∧
      ctx.cancelTimer.onTimeout.isRemoteReset = ctx.isRemoteReset := by
  unfold onTimeout
  split
  case h_1 hs' => rw [show ctx.pPriState = _ from hs'] at hs; cases hs
  case h_2 =>
    rw [if_neg (show ¬ 0 < ctx.cancelTimer.numRetryRemaining by
      rw [show ctx.cancelTimer.numRetryRemaining = 0 from hleft]; omega)]
    refine ⟨?_, rfl⟩
    show ((ctx.outputs ++ [_]) ++ [LinkOutput.OnTxReady]).filterMap _ = _
    rw [List.filterMap_append, List.filterMap_append]
    exact List.append_nil _
  case h_3 hs' => rw [show ctx.pPriState = _ from hs'] at hs; cases hs
  case h_4 hne _ => exact absurd hs hne

end Silent

section Handle

variable {history : List (LinkOutput α)} {base : List (LinkLayerFrame α)} {ctx : LinkContext α}

/-- A session starts with a report of `UNRESET`. -/
theorem onLowerLayerUpSending_honest (hover : ctx.overwrites = []) (hh : Honest history ctx)
    (hout : ctx.outputs = []) (hdormant : ctx.isOnline = false → Dormant ctx) (now : ℤ)
    (replies : List (TransportSegment α)) :
    Honest history (ctx.onLowerLayerUpSending now replies) := by
  have hfirst : ResetFirst history := by
    have hf := hh.careful.first
    rwa [hout, List.append_nil] at hf
  cases hon : ctx.isOnline with
  | true =>
    unfold onLowerLayerUpSending
    rw [if_pos hon]
    exact hh
  | false =>
    have hd := hdormant hon
    have htx : ctx.transmitted = [] := by
      unfold LinkContext.transmitted
      rw [hout]
      rfl
    obtain ⟨hset, hstarted⟩ := hd.reported htx hover now
    rw [onLowerLayerUpSending_eq hon]
    generalize hm : ({ ctx with isOnline := true, lastMessageTimestamp := now } :
      LinkContext α).emit (.OnStateChange .UNRESET) = m at hset hstarted
    -- The session starts with its report, and what the upper layer sends on it follows.
    have hreport : Honest history m := by
      refine Honest.of_unreset hfirst ?_ ?_ ?_
      · rw [← hm]
        exact congrArg (· ++ [.OnStateChange .UNRESET]) hout
      · rw [← hm]
        exact hd.pPriState
      · rw [← hm]
        exact hd.isRemoteReset
    exact (tell_steady hset hstarted hreport.careful
      (show LinkOutput.OnLowerLayerUp.transmitted = none from rfl) (.of_none rfl rfl)
        replies).honest
        hreport

/-- A session ends with a report of `UNRESET`. -/
theorem onLowerLayerDown_honest (hh : Honest history ctx) (hout : ctx.outputs = []) :
    Honest history ctx.onLowerLayerDown := by
  have hfirst : ResetFirst history := by
    have hf := hh.careful.first
    rwa [hout, List.append_nil] at hf
  cases hon : ctx.isOnline with
  | false =>
    unfold onLowerLayerDown
    rw [if_pos (by simp [hon])]
    exact hh
  | true =>
    rw [onLowerLayerDown_eq hon]
    generalize hm : LinkContext.emit _ (LinkOutput.OnStateChange .UNRESET) = m
    have hreport : Honest history m := by
      refine Honest.of_unreset hfirst ?_ ?_ ?_
      · rw [← hm]
        exact congrArg (· ++ [.OnStateChange .UNRESET]) hout
      · rw [← hm]
        rfl
      · rw [← hm]
        rfl
    exact (hreport.careful.emit
      (show LinkOutput.OnLowerLayerDown.Neutral from .of_none rfl rfl)).honest hreport

/-- An event leaves the layer honest, unless it makes confirmed data fail. -/
theorem handle_honest (h : Settled base ctx) (hs : Started ctx) (hh : Honest history ctx)
    (hout : ctx.outputs = []) (hdormant : ctx.isOnline = false → Dormant ctx) (e : LinkEvent α)
    (htx : e = .txReady → ctx.txMode ≠ .Idle)
    (hnack : ∀ frame now replies, e = .frame frame now replies → ctx.accepts frame = true →
      frame.fields.func = .SEC_NACK → ctx.pPriState ≠ .ConfDataWait)
    (hleft : e = .responseTimeout → ctx.pPriState = .ConfDataWait → 0 < ctx.numRetryRemaining) :
    Honest history (ctx.handle e) := by
  have hc := hh.careful
  have hnone : ctx.transmitted = [] := by
    unfold LinkContext.transmitted
    rw [hout]
    rfl
  -- Only the NACK of confirmed data and its last timeout could make the report wrong.
  cases e with
  | lowerLayerUp now replies =>
    exact onLowerLayerUpSending_honest h.lanes.overwrites hh hout hdormant now replies
  | lowerLayerDown => exact onLowerLayerDown_honest hh hout
  | frame frame now replies =>
    show Honest history (ctx.onFrameSending frame now replies)
    unfold onFrameSending
    split_ifs with hacc
    · have hnote : Steady history ctx { ctx with lastMessageTimestamp := now } :=
        hc.same rfl rfl rfl rfl
      have hset : Keeps base ctx { ctx with lastMessageTimestamp := now } :=
        h.pri (.keep h.ready (h.waits true) ⟨rfl, rfl, rfl, rfl, rfl, rfl⟩ ⟨rfl, rfl⟩ rfl
          rfl rfl rfl rfl)
      have hdisp := dispatchSending_honest hset.settled hs (hnote.honest hh) frame replies
        fun hf hp => hnack frame now replies rfl hacc hf hp
      have hsettled := (dispatchSending_keeps hset.settled hs frame replies).settled
      exact (tryStartTransmission_steady hsettled hdisp.careful).honest hdisp
    · exact (onFrame_rejected_steady hc frame now (by simpa using hacc)).honest hh
  | txReady => exact (onTxReady_steady h hc (htx rfl) hnone).honest hh
  | send segments => exact (send_steady h hc segments).honest hh
  | responseTimeout =>
    show Honest history ctx.onResponseTimeout
    unfold onResponseTimeout
    split_ifs with htimer
    · have htime := onTimeout_steady hc (h.waits true) h.ready (hleft rfl)
      have hsettled := (h.pri (onTimeout_work h.ready (h.waits true) htimer)).settled
      exact (htime.trans (tryStartTransmission_steady hsettled htime.careful)).honest hh
    · exact hh
  | keepAliveTimeout now =>
    show Honest history (ctx.onKeepAliveTimeout now)
    unfold onKeepAliveTimeout
    split_ifs
    · exact hh
    · have hnote : Steady history ctx
          { ctx with lastMessageTimestamp := now, keepAliveTimeout := true } :=
        hc.same rfl rfl rfl rfl
      have hset : Keeps base ctx
          { ctx with lastMessageTimestamp := now, keepAliveTimeout := true } :=
        h.pri (.keep h.ready (h.waits true) ⟨rfl, rfl, rfl, rfl, rfl, rfl⟩ ⟨rfl, rfl⟩ rfl
          rfl rfl rfl rfl)
      exact (hnote.trans (tryStartTransmission_steady hset.settled hnote.careful)).honest hh
    · exact (tryStartTransmission_steady h hc).honest hh

end Handle

end LinkContext

/-! ## Runs -/

namespace Station

open LinkContext LinkOutput

variable {α : Type*}

/-- The last status that the listener was told is `RESET` exactly when the flag is set. -/
def Truthful (s : Station α) : Prop :=
  lastStatus s.history = some .RESET ↔ s.ctx.isRemoteReset = true

instance (s : Station α) : Decidable s.Truthful := inferInstanceAs (Decidable (_ ↔ _))

/-- The step does not make confirmed data fail: no negative acknowledgement of it is accepted, and
retries are left when it times out. -/
def KeepsReset (s : Station α) : LinkEvent α → Prop
  | .frame frame _ _ => ¬ (s.ctx.accepts frame = true ∧ frame.fields.func = .SEC_NACK ∧
      s.ctx.pPriState = .ConfDataWait)
  | .responseTimeout => ¬ (s.ctx.pPriState = .ConfDataWait ∧ s.ctx.numRetryRemaining = 0)
  | _ => True

/-- The invariant of the transmitter and of the reported status. -/
structure StatusInv (s : Station α) : Prop where
  inv : Inv s
  honest : Honest s.history { s.ctx with outputs := [] }

/-- With the invariant the last status that was told is the truth. -/
theorem StatusInv.truthful {s : Station α} (h : StatusInv s) : Truthful s := by
  have ht := h.honest.truthful
  rwa [show s.history ++ ({ s.ctx with outputs := [] } : LinkContext α).outputs = s.history from
    List.append_nil _] at ht

/-- With the invariant confirmed data has only been transmitted over a link that was reset. -/
theorem StatusInv.resetFirst {s : Station α} (h : StatusInv s) : ResetFirst s.history := by
  have hf := h.honest.careful.first
  rwa [show s.history ++ ({ s.ctx with outputs := [] } : LinkContext α).outputs = s.history from
    List.append_nil _] at hf

/-- The invariant holds of a station without a session. -/
theorem StatusInv.of_init (config : LinkLayerConfig) :
    StatusInv (init config : Station α) where
  inv := .of_init config
  honest := by
    refine ⟨⟨nofun, nofun, ?_, ?_⟩, ⟨nofun, nofun⟩⟩
    · rintro (hr | ⟨hr, -⟩) <;> cases hr
    · intro before frame after heq
      cases before <;> cases heq

/-- An event that does not make confirmed data fail leaves the layer honest. -/
theorem StatusInv.handled {s : Station α} (h : StatusInv s) (e : LinkEvent α)
    (ho : s.occurs e = true) (hkeep : s.KeepsReset e) : Honest s.history (s.handled e) := by
  have hh := h.honest
  have hset := h.inv.settled
  have hdormant : s.ctx.isOnline = false → Dormant { s.ctx with outputs := [] } := by
    exact fun hoff => (h.inv.dormant hoff).collected [] _
  refine handle_honest hset h.inv.started hh rfl hdormant e (fun he => ?_)
    (fun frame now replies he => ?_) fun he => ?_
  · subst he
    intro hidle
    have hempty := h.inv.inFlight_iff.2 hidle
    simp [occurs, hempty] at ho
  · subst he
    exact fun hacc hf hp => hkeep ⟨hacc, hf, hp⟩
  · subst he
    exact fun hp => Nat.pos_of_ne_zero fun h0 => hkeep ⟨hp, h0⟩

/-- Whether the layer is honest does not depend on when the outputs are collected. -/
theorem Honest.collect {history : List (LinkOutput α)} {ctx : LinkContext α}
    (h : Honest history ctx) :
    Honest (history ++ ctx.outputs) { ctx with outputs := [] } := by
  have hnil : history ++ ctx.outputs ++ ({ ctx with outputs := [] } : LinkContext α).outputs =
      history ++ ctx.outputs := List.append_nil _
  refine ⟨⟨h.careful.data, ?_, ?_, ?_⟩, ?_⟩
  · rw [hnil]
    exact h.careful.paid
  · rw [hnil]
    exact h.careful.resetting
  · rw [hnil]
    exact h.careful.first
  · rw [hnil]
    exact h.truthful

/-- A step that does not make confirmed data fail keeps the invariant. -/
theorem StatusInv.step {s : Station α} (h : StatusInv s) (e : LinkEvent α)
    (hkeep : s.KeepsReset e) : StatusInv (s.step e) := by
  refine ⟨h.inv.step e, ?_⟩
  unfold Station.step
  split_ifs with ho
  · exact Honest.collect (h.handled e ho hkeep)
  · exact h.honest

/-- A step that makes confirmed data fail ends with `UNRESET` reported and the flag set. -/
theorem StatusInv.not_truthful {s : Station α} (h : StatusInv s) (e : LinkEvent α)
    (hfail : ¬ s.KeepsReset e) : ¬ (s.step e).Truthful := by
  have hset := h.inv.settled
  -- It is enough that the event reports `UNRESET` last and leaves the flag alone.
  have hend (hocc : s.occurs e = true) (hstatus : (s.handled e).statuses = [.UNRESET])
      (hflag : (s.handled e).isRemoteReset = s.ctx.isRemoteReset)
      (hp : s.ctx.pPriState = .ConfDataWait) : ¬ (s.step e).Truthful := by
    intro ht
    have hreset : s.ctx.isRemoteReset = true := h.honest.careful.data (by
      show s.ctx.pPriState.sendsData = true
      rw [hp]
      rfl)
    unfold Truthful Station.step at ht
    rw [if_pos hocc] at ht
    have hlast := ht.2 (hflag.trans hreset)
    have hlast : ((s.history ++ (s.handled e).outputs).filterMap LinkOutput.status).getLast? =
      some .RESET := hlast
    rw [List.filterMap_append, show (s.handled e).outputs.filterMap LinkOutput.status = _ from
      hstatus, List.getLast?_concat] at hlast
    cases hlast
  cases e with
  | frame frame now replies =>
    obtain ⟨hacc, hfunc, hp⟩ := not_not.1 hfail
    have hready : Ready ({ s.ctx with outputs := [], lastMessageTimestamp := now } :
      LinkContext α) := ⟨hset.ready.timer, hset.ready.segments⟩
    obtain ⟨hstatus, hflag⟩ := onNack_reports hready hp frame.fields.fcvdfc
    have heq : s.handled (.frame frame now replies) = (onNack ({ s.ctx with
        outputs := [], lastMessageTimestamp := now } : LinkContext α)
          frame.fields.fcvdfc).tryStartTransmission := by
      show onFrameSending { s.ctx with outputs := [] } frame now replies = _
      unfold onFrameSending
      rw [if_pos (show LinkContext.accepts { s.ctx with outputs := [] } frame = true from hacc)]
      simp only [dispatchSending, dispatch, hfunc]
    refine hend rfl ?_ ?_ hp
    · rw [heq, (tryStartTransmission_silent _).1, hstatus]
      rfl
    · rw [heq, (tryStartTransmission_silent _).2, hflag]
  | responseTimeout =>
    obtain ⟨hp, hleft⟩ := not_not.1 hfail
    have htimer : s.ctx.rspTimeoutTimer = true := by
      rw [show s.ctx.rspTimeoutTimer = s.ctx.pPriState.isResponseWait from hset.ready.timer, hp]
      rfl
    obtain ⟨hstatus, hflag⟩ := onTimeout_reports
      (show ({ s.ctx with outputs := [] } : LinkContext α).pPriState = .ConfDataWait from hp) hleft
    have heq : s.handled .responseTimeout = (onTimeout (cancelTimer
        { s.ctx with outputs := [] })).tryStartTransmission := by
      show onResponseTimeout { s.ctx with outputs := [] } = _
      unfold onResponseTimeout
      rw [if_pos (show ({ s.ctx with outputs := [] } : LinkContext α).rspTimeoutTimer = true from
        htimer)]
    refine hend rfl ?_ ?_ hp
    · rw [heq, (tryStartTransmission_silent _).1, hstatus]
      rfl
    · rw [heq, (tryStartTransmission_silent _).2, hflag]
  | _ => exact absurd trivial hfail

/-- In every run, the status that the listener was last told is the truth after every event, and
confirmed data is only sent over a link that was reset since it was last reported `UNRESET`, exactly
when no event makes confirmed data fail. -/
theorem truthful_iff_keepsReset (config : LinkLayerConfig) (events : List (LinkEvent α)) :
    Machine.StepsMeet step (fun s e => Truthful (s.step e)) (init config : Station α) events ∧
        ResetFirst (Machine.run step (init config : Station α) events).history ↔
      Machine.StepsMeet step KeepsReset (init config : Station α) events := by
  have hiff : Machine.StepsMeet step (fun s e => Truthful (s.step e)) (init config : Station α)
      events ↔ Machine.StepsMeet step KeepsReset (init config : Station α) events := by
    refine Machine.StepsMeet.iff_of_invariant step (fun s e h => ?_) (fun s e h => h.step e)
      (StatusInv.of_init config) events
    constructor
    · intro ht
      by_contra hfail
      exact h.not_truthful e hfail ht
    · exact fun hkeep => (h.step e hkeep).truthful
  rw [hiff, and_iff_left_iff_imp]
  intro hkeep
  exact (Machine.run_invariant step (fun s e (h : StatusInv s) => h.step e) _ events
    (StatusInv.of_init config) hkeep).resetFirst

/-- A station sends a segment over a link that it has just reset, and the segment is refused. The
listener is told `UNRESET`, but the flag stays set: the next segment goes out without a reset. -/
theorem not_truthful_after_nack :
    ¬ (Machine.run step (init ⟨true, true, 0, 1, 1024, 60000, false⟩ : Station ℕ)
      [.lowerLayerUp 0 [], .send ⟨⟨1, 1024⟩, 7, []⟩, .txReady,
        .frame ⟨⟨.SEC_ACK, false, false, false, 1, 1024⟩, none⟩ 0 [], .txReady,
        .frame ⟨⟨.SEC_NACK, false, false, true, 1, 1024⟩, none⟩ 0 []]).Truthful := by
  decide +kernel

end Station

end OpenDnp3.Link
