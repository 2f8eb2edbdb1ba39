import OpenDnp3.Link.Settled

/-!
# Runs of the link layer

The invariant of a link layer and of what it takes to be in flight, over every run. So the primary
is neither without a message that it uses nor idle with one.
-/

namespace OpenDnp3.Link

namespace LinkContext

variable {α : Type*}

/-- The transmitter of a layer that has not transmitted since its session began or ended. -/
theorem Settled.fresh {ctx : LinkContext α} (hm : ctx.txMode = .Idle)
    (hpp : ctx.pendingPriTx = none) (hps : ctx.pendingSecTx = none) (hp : ctx.pPriState = .Idle)
    (hs : ctx.pSecState = .NotReset) (ht : ctx.rspTimeoutTimer = false)
    (hout : ctx.transmitted = []) (hover : ctx.overwrites = []) : Settled [] ctx := by
  have hpend (b : Bool) : ctx.pending b = none := by
    cases b
    · exact hps
    · exact hpp
  have hne (b : Bool) : ¬ ctx.txMode = stationMode b := fun he =>
    stationMode_ne_idle b (he.symm.trans hm)
  have hholds (b : Bool) : ctx.holds b = false := by
    rw [Bool.eq_false_iff, ne_eq, holds_iff, hpend]
    simp [hne]
  -- Nothing is in flight and nothing waits, so most fields speak of nothing.
  refine ⟨⟨fun _ => hout, fun hi => absurd hm hi, fun b f hb => ?_, hover, fun b f hc => ?_⟩,
    fun b => ?_, ⟨?_, fun hr => ?_⟩⟩
  · rw [hpend] at hb
    cases hb
  · rcases hc with ⟨hi, -⟩ | hb
    · exact absurd hi (hne b)
    · rw [hpend] at hb
      cases hb
  · rw [hholds]
    cases b
    · show ctx.pSecState.isTransmitWait = false
      rw [hs]
      rfl
    · show ctx.pPriState.isTransmitWait = false
      rw [hp]
      rfl
  · rw [ht, hp]
    rfl
  · rw [hp] at hr
    exact absurd hr (by decide)

/-- An event of an online layer, other than the end of a transmission or of the session. -/
theorem handle_keeps {base : List (LinkLayerFrame α)} {ctx : LinkContext α} (h : Settled base ctx)
    (hs : Started ctx) (hon : ctx.isOnline = true) (e : LinkEvent α) (htx : e ≠ .txReady)
    (hdown : e ≠ .lowerLayerDown) : Keeps base ctx (ctx.handle e) ∧ Started (ctx.handle e) := by
  cases e with
  | lowerLayerUp now replies =>
    show Keeps base ctx (if ctx.isOnline then _ else _) ∧ Started (if ctx.isOnline then _ else _)
    rw [if_pos hon]
    exact ⟨h.keeps, hs⟩
  | lowerLayerDown => exact absurd rfl hdown
  | txReady => exact absurd rfl htx
  | send segments => exact send_keeps h hs segments
  | frame frame now replies =>
    show Keeps base ctx (onFrameSending ..) ∧ Started (onFrameSending ..)
    unfold onFrameSending
    split_ifs with hacc
    · -- The arrival is noted, the frame handled, and what was waiting for it started.
      have hnote : Keeps base ctx { ctx with lastMessageTimestamp := now } :=
        h.pri (.keep h.ready (h.waits true) ⟨rfl, rfl, rfl, rfl, rfl, rfl⟩ ⟨rfl, rfl⟩ rfl
          rfl rfl rfl rfl)
      have hdisp := dispatchSending_keeps hnote.settled hs frame replies
      obtain ⟨hstart, hstarted⟩ := tryStartTransmission_keeps hdisp.settled
      exact ⟨hnote.trans (hdisp.trans hstart), hstarted⟩
    · have hno : ctx.accepts frame = false := by simpa using hacc
      exact onFrame_rejected h hs frame now hno
  | responseTimeout =>
    show Keeps base ctx (onResponseTimeout ctx) ∧ Started (onResponseTimeout ctx)
    unfold onResponseTimeout
    split_ifs with htimer
    · have hkeep := h.pri (onTimeout_work h.ready (h.waits true) htimer)
      obtain ⟨hstart, hstarted⟩ := tryStartTransmission_keeps hkeep.settled
      exact ⟨hkeep.trans hstart, hstarted⟩
    · exact ⟨h.keeps, hs⟩
  | keepAliveTimeout now =>
    show Keeps base ctx (onKeepAliveTimeout ctx now) ∧ Started (onKeepAliveTimeout ctx now)
    unfold onKeepAliveTimeout
    rw [if_neg (by simp [hon])]
    split_ifs
    · have hnote : Keeps base ctx
          { ctx with lastMessageTimestamp := now, keepAliveTimeout := true } :=
        h.pri (.keep h.ready (h.waits true) ⟨rfl, rfl, rfl, rfl, rfl, rfl⟩ ⟨rfl, rfl⟩ rfl
          rfl rfl rfl rfl)
      obtain ⟨hstart, hstarted⟩ := tryStartTransmission_keeps hnote.settled
      exact ⟨hnote.trans hstart, hstarted⟩
    · exact tryStartTransmission_keeps h

/-- The layer is as it was before its first session. -/
structure Dormant (ctx : LinkContext α) : Prop where
  txMode : ctx.txMode = .Idle
  pendingPriTx : ctx.pendingPriTx = none
  pendingSecTx : ctx.pendingSecTx = none
  pSegments : ctx.pSegments = none
  timer : ctx.rspTimeoutTimer = false
  isRemoteReset : ctx.isRemoteReset = false
  pPriState : ctx.pPriState = .Idle
  pSecState : ctx.pSecState = .NotReset

/-- What has been told and formatted is of no concern. -/
theorem Dormant.collected {ctx : LinkContext α} (h : Dormant ctx) (outputs : List (LinkOutput α))
    (formatted : List (LinkLayerFrame α)) : Dormant { ctx with outputs, formatted } :=
  ⟨h.txMode, h.pendingPriTx, h.pendingSecTx, h.pSegments, h.timer, h.isRemoteReset, h.pPriState,
    h.pSecState⟩

/-- An offline layer only takes the start of a session. -/
theorem handle_dormant {ctx : LinkContext α} (h : Dormant ctx) (hoff : ctx.isOnline = false)
    (e : LinkEvent α) (hup : ∀ now replies, e ≠ .lowerLayerUp now replies) :
    ctx.handle e = ctx := by
  cases e with
  | lowerLayerUp now replies => exact absurd rfl (hup now replies)
  | lowerLayerDown => exact if_pos (by simp [hoff])
  | txReady =>
    show onTxReady ctx = ctx
    simp only [onTxReady, h.txMode]
  | send segments => exact if_neg (by simp [hoff])
  | frame frame now replies =>
    show onFrameSending ctx frame now replies = ctx
    unfold onFrameSending
    rw [if_neg (by simp [accepts, hoff])]
    exact if_pos (by simp [hoff])
  | responseTimeout => exact if_neg (by simp [h.timer])
  | keepAliveTimeout now => exact if_pos (by simp [hoff])

/-- What the transmitter carries does not depend on when the outputs are collected. -/
theorem Settled.collect {base : List (LinkLayerFrame α)} {ctx : LinkContext α}
    (h : Settled base ctx) : Settled (base ++ ctx.transmitted) { ctx with outputs := [] } := by
  have hnil : base ++ ctx.transmitted ++ ({ ctx with outputs := [] } : LinkContext α).transmitted =
      base ++ ctx.transmitted := List.append_nil _
  have hcarries (b : Bool) (f : LinkLayerFrame α) (hc : ({ ctx with outputs := [] } :
      LinkContext α).Carries (base ++ ctx.transmitted) b f) : ctx.Carries base b f := by
    unfold LinkContext.Carries at hc ⊢
    rw [hnil] at hc
    cases b <;> exact hc
  refine ⟨⟨?_, ?_, fun b f hb => ?_, h.lanes.overwrites, fun b f hc => ?_⟩, fun b => ?_,
    h.ready.timer, h.ready.segments⟩
  · rw [hnil]
    exact h.lanes.idle
  · rw [hnil]
    exact h.lanes.busy
  · have hb' : ctx.pending b = some f := by cases b <;> exact hb
    exact h.lanes.pending b f hb'
  · have hq := h.lanes.queued b f (hcarries b f hc)
    cases b <;> exact hq
  · have hw := h.waits b
    cases b <;> exact hw

/-- A session ends with everything forgotten, a report and a call of the upper layer. -/
theorem onLowerLayerDown_eq {ctx : LinkContext α} (hon : ctx.isOnline = true) :
    ctx.onLowerLayerDown =
      (({ ctx with
        isOnline := false
        keepAliveTimeout := false
        isRemoteReset := false
        pSegments := none
        txMode := .Idle
        pendingPriTx := none
        pendingSecTx := none
        rspTimeoutTimer := false
        pPriState := .Idle
        pSecState := .NotReset } : LinkContext α).emit (.OnStateChange .UNRESET)).emit
          .OnLowerLayerDown := by
  unfold onLowerLayerDown
  rw [if_neg (by simp [hon])]

/-- A session starts with a report and a call of the upper layer, which may send at once. -/
theorem onLowerLayerUpSending_eq {ctx : LinkContext α} (hoff : ctx.isOnline = false) (now : ℤ)
    (replies : List (TransportSegment α)) :
    ctx.onLowerLayerUpSending now replies =
      ((({ ctx with isOnline := true, lastMessageTimestamp := now } : LinkContext α).emit
        (.OnStateChange .UNRESET)).emit .OnLowerLayerUp).sendAll replies := by
  unfold onLowerLayerUpSending onLowerLayerUp
  rw [if_neg (by simp [hoff]), if_neg (by simp [hoff])]

/-- A session starts with an idle transmitter. -/
theorem Dormant.reported {ctx : LinkContext α} (h : Dormant ctx) (hout : ctx.transmitted = [])
    (hover : ctx.overwrites = []) (now : ℤ) :
    Settled [] (({ ctx with isOnline := true, lastMessageTimestamp := now } : LinkContext α).emit
        (.OnStateChange .UNRESET)) ∧
      Started (({ ctx with isOnline := true, lastMessageTimestamp := now } : LinkContext α).emit
        (.OnStateChange .UNRESET)) := by
  constructor
  · refine Settled.fresh h.txMode h.pendingPriTx h.pendingSecTx h.pPriState h.pSecState h.timer ?_
      hover
    rw [transmitted_emit]
    exact (List.append_nil _).trans hout
  · intro hs
    have hnone : ctx.pSegments.isSome = true := hs
    rw [h.pSegments] at hnone
    cases hnone

/-- What the upper layer sends when a session starts. -/
theorem onLowerLayerUpSending_keeps {ctx : LinkContext α} (h : Dormant ctx)
    (hoff : ctx.isOnline = false) (hout : ctx.transmitted = []) (hover : ctx.overwrites = [])
    (now : ℤ) (replies : List (TransportSegment α)) :
    Settled [] (ctx.onLowerLayerUpSending now replies) ∧
      Started (ctx.onLowerLayerUpSending now replies) ∧
      (ctx.onLowerLayerUpSending now replies).isOnline = true ∧
      Spares [] ctx (ctx.onLowerLayerUpSending now replies) := by
  obtain ⟨hset, hstarted⟩ := h.reported hout hover now
  obtain ⟨htell, htold⟩ := tell_keeps hset hstarted
    (show LinkOutput.OnLowerLayerUp.transmitted = none from rfl) replies
  rw [onLowerLayerUpSending_eq hoff]
  have hidle : Spares [] ctx (({ ctx with isOnline := true, lastMessageTimestamp := now } :
      LinkContext α).emit (.OnStateChange .UNRESET)) :=
    .of_idle h.txMode fun primary => by cases primary <;>
      [exact h.pendingSecTx; exact h.pendingPriTx]
  exact ⟨htell.settled, htold, htell.online, hidle.trans htell.spares⟩

end LinkContext

namespace Station

open LinkContext

variable {α : Type*}

/-- What holds of a link layer and its channel between events. -/
structure Inv (s : Station α) : Prop where
  settled : Settled s.inFlight { s.ctx with outputs := [] }
  started : Started s.ctx
  dormant : s.ctx.isOnline = false → Dormant s.ctx

/-- The invariant holds of a station without a session. -/
theorem Inv.of_init (config : LinkLayerConfig) : Inv (init config : Station α) where
  settled := Settled.fresh rfl rfl rfl rfl rfl rfl rfl rfl
  started := nofun
  dormant := fun _ => ⟨rfl, rfl, rfl, rfl, rfl, rfl, rfl, rfl⟩

/-- The channel sends exactly while the transmitter is not idle. -/
theorem Inv.inFlight_iff {s : Station α} (h : Inv s) : s.inFlight = [] ↔ s.ctx.txMode = .Idle := by
  have hnil : s.inFlight ++ ({ s.ctx with outputs := [] } : LinkContext α).transmitted =
      s.inFlight := List.append_nil _
  constructor
  · intro hempty
    by_contra hne
    obtain ⟨f, hf⟩ := h.settled.lanes.busy hne
    rw [hnil, hempty] at hf
    cases hf
  · intro hidle
    rw [← hnil]
    exact h.settled.lanes.idle hidle

/-- At most one frame is in flight. -/
theorem Inv.inFlight_of_busy {s : Station α} (h : Inv s) (hm : s.ctx.txMode ≠ .Idle) :
    ∃ frame, s.inFlight = [frame] := by
  obtain ⟨f, hf⟩ := h.settled.lanes.busy hm
  exact ⟨f, by rw [← hf]; exact (List.append_nil _).symm⟩

/-- One event: the transmitter stays in order, the primary is started, and a frame that waited still
waits or is in flight, as long as the layer is online. The buffer of a frame in flight is left
alone. -/
structure Handles (s : Station α) (e : LinkEvent α) : Prop where
  settled : Settled (s.stillInFlight e) (s.handled e)
  started : Started (s.handled e)
  dormant : (s.handled e).isOnline = false → Dormant (s.handled e)
  carries : ∀ primary frame, s.ctx.pending primary = some frame →
    (s.handled e).isOnline = true → (s.handled e).Carries (s.stillInFlight e) primary frame
  spares : Spares (s.stillInFlight e) { s.ctx with outputs := [] } (s.handled e)

/-- The session starts. -/
theorem Inv.handles_up {s : Station α} (h : Inv s) (hoff : s.ctx.isOnline = false) (now : ℤ)
    (replies : List (TransportSegment α)) : Handles s (.lowerLayerUp now replies) := by
  have hd := h.dormant hoff
  have hd' : Dormant { s.ctx with outputs := [] } := hd.collected [] _
  have hflight : s.inFlight = [] := h.inFlight_iff.2 hd.txMode
  obtain ⟨hset, hstarted, hon, hspares⟩ := onLowerLayerUpSending_keeps hd' hoff rfl
    h.settled.lanes.overwrites now replies
  refine ⟨?_, hstarted, fun hno => ?_, fun b f hb => ?_, ?_⟩
  · rw [show s.stillInFlight (.lowerLayerUp now replies) = [] from hflight]
    exact hset
  · exact absurd (hon.symm.trans hno) (by decide)
  · -- Nothing waits before the session.
    have hnone : s.ctx.pending b = none := by
      cases b
      · exact hd.pendingSecTx
      · exact hd.pendingPriTx
    rw [hnone] at hb
    cases hb
  · rw [show s.stillInFlight (.lowerLayerUp now replies) = [] from hflight]
    exact hspares

/-- Any other event while there is no session. -/
theorem Inv.handles_dormant {s : Station α} (h : Inv s) (hoff : s.ctx.isOnline = false)
    (e : LinkEvent α) (hup : ∀ now replies, e ≠ .lowerLayerUp now replies) : Handles s e := by
  have hd := h.dormant hoff
  have hd' : Dormant { s.ctx with outputs := [] } := hd.collected [] _
  have hflight : s.inFlight = [] := h.inFlight_iff.2 hd.txMode
  have hstill : s.stillInFlight e = s.inFlight := by cases e <;> simp [stillInFlight, hflight]
  have heq : s.handled e = { s.ctx with outputs := [] } := handle_dormant hd' hoff e hup
  refine ⟨?_, ?_, fun _ => ?_, fun b f _ hno => ?_, by rw [heq]; exact .refl _ _⟩
  · rw [heq, hstill]
    exact h.settled
  · rw [heq]
    exact h.started
  · rw [heq]
    exact hd'
  · rw [heq] at hno
    exact absurd (hoff.symm.trans hno) (by decide)

/-- The session ends. -/
theorem Inv.handles_down {s : Station α} (h : Inv s) (hon : s.ctx.isOnline = true) :
    Handles s .lowerLayerDown := by
  have heq := onLowerLayerDown_eq (show ({ s.ctx with outputs := [] } : LinkContext α).isOnline =
    true from hon)
  have heq : s.handled .lowerLayerDown = _ := heq
  refine ⟨?_, ?_, fun _ => ?_, fun b f _ hno => ?_, ?_⟩
  · rw [heq]
    exact Settled.fresh rfl rfl rfl rfl rfl rfl rfl h.settled.lanes.overwrites
  · rw [heq]
    exact nofun
  · rw [heq]
    exact ⟨rfl, rfl, rfl, rfl, rfl, rfl, rfl, rfl⟩
  · rw [heq] at hno
    cases hno
  · rw [heq]
    exact .of_idle rfl fun primary => by cases primary <;> rfl

/-- The channel reports the end of a transmission. -/
theorem Inv.handles_txReady {s : Station α} (h : Inv s) (hon : s.ctx.isOnline = true)
    (ho : s.occurs .txReady = true) : Handles s .txReady := by
  have hbusy : s.ctx.txMode ≠ .Idle := by
    intro hidle
    have hempty := h.inFlight_iff.2 hidle
    simp [occurs, hempty] at ho
  obtain ⟨f, hf⟩ := h.inFlight_of_busy hbusy
  have hstill : s.stillInFlight .txReady = [] := by
    show s.inFlight.tail = []
    rw [hf]
    rfl
  obtain ⟨hset, hstart, honline, hcarry, hspares⟩ := onTxReady_keeps h.settled hbusy rfl
  refine ⟨?_, hstart, fun hno => ?_, fun b f hb _ => ?_, hstill ▸ hspares⟩
  · rw [hstill]
    exact hset
  · have hno : (onTxReady { s.ctx with outputs := [] }).isOnline = false := hno
    rw [honline] at hno
    exact absurd (hon.symm.trans hno) (by decide)
  · rw [hstill]
    exact hcarry b f (by cases b <;> exact hb)

/-- An event that occurs is handled as the invariant says. -/
theorem Inv.handles {s : Station α} (h : Inv s) (e : LinkEvent α) (ho : s.occurs e = true) :
    Handles s e := by
  cases hon : s.ctx.isOnline with
  | false =>
    -- Of the offline events only the start does something.
    by_cases hup : ∃ now replies, e = .lowerLayerUp now replies
    · obtain ⟨now, replies, rfl⟩ := hup
      exact h.handles_up hon now replies
    · exact h.handles_dormant hon e fun now replies he => hup ⟨now, replies, he⟩
  | true =>
    by_cases hdown : e = .lowerLayerDown
    · subst hdown
      exact h.handles_down hon
    by_cases htx : e = .txReady
    · subst htx
      exact h.handles_txReady hon ho
    -- The other events of an online layer leave what is in flight.
    have hstill : s.stillInFlight e = s.inFlight := by
      cases e with
      | lowerLayerDown => exact absurd rfl hdown
      | txReady => exact absurd rfl htx
      | _ => rfl
    obtain ⟨hkeep, hstarted⟩ := handle_keeps h.settled h.started hon e htx hdown
    refine ⟨?_, hstarted, fun hno => ?_, fun b f hb _ => ?_, hstill ▸ hkeep.spares⟩
    · rw [hstill]
      exact hkeep.settled
    · have hno : (LinkContext.handle { s.ctx with outputs := [] } e).isOnline = false := hno
      rw [hkeep.online] at hno
      exact absurd (hon.symm.trans hno) (by decide)
    · rw [hstill]
      exact hkeep.carries b f (.inr (by cases b <;> exact hb))

/-- A frame that is in flight or waits is what its buffer holds. -/
def Buffered (s : Station α) : Prop :=
  ∀ primary frame, ({ s.ctx with outputs := [] } : LinkContext α).Carries s.inFlight primary frame →
    s.ctx.txBuffer primary = some frame

/-- A layer that has nothing to send. -/
theorem Buffered.of_dormant {s : Station α} (h : Dormant s.ctx) : s.Buffered := by
  rintro primary frame (⟨hm, -⟩ | hp)
  · exact absurd (hm.symm.trans h.txMode) (stationMode_ne_idle primary)
  · have hnone : s.ctx.pending primary = none := by
      cases primary
      · exact h.pendingSecTx
      · exact h.pendingPriTx
    rw [show s.ctx.pending primary = some frame by cases primary <;> exact hp] at hnone
    cases hnone

/-- An event keeps the buffers in order. -/
theorem Buffered.handled {s : Station α} (hb : s.Buffered) (h : Inv s) {e : LinkEvent α}
    (hh : Handles s e) :
    Buffered
      { ctx := s.handled e, inFlight := s.stillInFlight e ++ (s.handled e).transmitted } := by
  intro primary frame hc
  have hc' : (s.handled e).Carries (s.stillInFlight e) primary frame := by
    refine hc.imp (fun ⟨hm, hf⟩ => ⟨hm, ?_⟩) fun hp => by cases primary <;> exact hp
    exact (List.append_nil _).symm.trans hf
  rcases hh.spares.buffers primary frame hc' with ⟨hbefore, hsame⟩ | hnew
  · -- The frame was in flight or waiting before the event.
    refine hsame.trans (hb primary frame (hbefore.imp_left fun ⟨hm, hf⟩ => ⟨hm, ?_⟩))
    cases e with
    | lowerLayerDown => cases hf
    | txReady =>
      -- The one frame in flight is the one that is reported.
      obtain ⟨f, hflight⟩ := h.inFlight_of_busy (by rw [hm]; exact stationMode_ne_idle primary)
      have hnil : s.stillInFlight .txReady = [] := congrArg List.tail hflight
      rw [hnil] at hf
      cases hf
    | _ => exact hf
  · exact hnew

/-- Every event keeps the invariant. -/
theorem Inv.step {s : Station α} (h : Inv s) (e : LinkEvent α) : Inv (s.step e) := by
  unfold Station.step
  split_ifs with ho
  · have hh := h.handles e ho
    exact ⟨hh.settled.collect, hh.started, hh.dormant⟩
  · exact h

/-- Every state that a station reaches has the invariant. -/
theorem Inv.run (config : LinkLayerConfig) (events : List (LinkEvent α)) :
    Inv (Machine.run Station.step (init config) events) :=
  Machine.run_of_step Station.step (fun _ e h => h.step e) (.of_init config) events

/-- The invariant, with what the buffers hold. -/
structure Held (s : Station α) : Prop extends Inv s where
  buffered : s.Buffered

/-- The buffers of a new station hold what they are to. -/
theorem Held.of_init (config : LinkLayerConfig) : Held (init config : Station α) where
  toInv := .of_init config
  buffered := .of_dormant ⟨rfl, rfl, rfl, rfl, rfl, rfl, rfl, rfl⟩

/-! ## The transmitter and the states of the stations -/

/-- What the invariant says of the frames of one station. -/
theorem Inv.station {s : Station α} (h : Inv s) (primary : Bool) :
    (s.ctx.txMode = stationMode primary ∨ (s.ctx.pending primary).isSome = true ↔
      s.ctx.transmitWait primary = true) ∧
    (s.ctx.txMode = stationMode primary →
      ∃ frame, s.inFlight = [frame] ∧ s.ctx.Queued primary frame) ∧
    ∀ frame, s.ctx.pending primary = some frame →
      s.ctx.txMode = stationMode (!primary) ∧ s.ctx.Queued primary frame := by
  have hnil : s.inFlight ++ ({ s.ctx with outputs := [] } : LinkContext α).transmitted =
      s.inFlight := List.append_nil _
  have hcarry (frame : LinkLayerFrame α)
      (hc : (s.ctx.txMode = stationMode primary ∧ s.inFlight = [frame]) ∨
        s.ctx.pending primary = some frame) : s.ctx.Queued primary frame := by
    have hq := h.settled.lanes.queued primary frame (by
      unfold LinkContext.Carries
      rw [hnil]
      cases primary <;> exact hc)
    cases primary <;> exact hq
  refine ⟨?_, fun hm => ?_, fun frame hf => ⟨?_, hcarry frame (.inr hf)⟩⟩
  · have hw := h.settled.waits primary
    have hiff := LinkContext.holds_iff s.ctx primary
    cases primary
    · exact hiff.symm.trans (by rw [show s.ctx.transmitWait false = _ from hw]; rfl)
    · exact hiff.symm.trans (by rw [show s.ctx.transmitWait true = _ from hw]; rfl)
  · obtain ⟨frame, hf⟩ := h.inFlight_of_busy (hm ▸ stationMode_ne_idle primary)
    exact ⟨frame, hf, hcarry frame (.inl ⟨hm, hf⟩)⟩
  · exact h.settled.lanes.pending primary frame (by cases primary <;> exact hf)

/-- The handler of a station is called in the state that queued the frame. -/
theorem reported_state (ctx : LinkContext α) :
    ctx.reported.config = ctx.config ∧ ctx.reported.pPriState = ctx.pPriState ∧
      ctx.reported.pSecState = ctx.pSecState ∧ ctx.reported.pSegments = ctx.pSegments ∧
      ctx.reported.nextWriteFCB = ctx.nextWriteFCB ∧
      ctx.reported.rspTimeoutTimer = ctx.rspTimeoutTimer := by
  unfold LinkContext.reported LinkContext.tryPendingPriTx LinkContext.tryPendingSecTx
  split <;> split <;> exact ⟨rfl, rfl, rfl, rfl, rfl, rfl⟩

/-! ## The primary does not get stuck -/

/-- The primary has what its state uses, its timer runs in the right states, and it has started what
it was given. -/
structure Unstuck (s : Station α) : Prop where
  /-- A state that uses the message in progress has one. -/
  segments : s.ctx.pPriState.readsSegments = true → s.ctx.pSegments.isSome = true
  /-- The response timer runs exactly in the states that wait for a response. -/
  timer : s.ctx.rspTimeoutTimer = true ↔ s.ctx.pPriState.isResponseWait = true
  /-- The end of a transmission, which may start the response timer, finds it stopped. -/
  start : s.ctx.txMode = .Primary → s.ctx.reported.rspTimeoutTimer = false
  /-- A message in progress keeps the primary from being idle. -/
  started : s.ctx.pSegments.isSome = true → s.ctx.pPriState ≠ .Idle

/-- In every run, between any two events, the primary is neither without a message that it uses nor
idle with one, and its response timer runs exactly while it waits for a response. -/
theorem primary_unstuck (config : LinkLayerConfig) (events : List (LinkEvent α)) :
    Unstuck (Machine.run step (init config) events) := by
  have h : Inv _ := Inv.run config events
  refine ⟨h.settled.ready.segments, ?_, fun hm => ?_, h.started⟩
  · rw [show Eq _ _ from h.settled.ready.timer]
  · obtain ⟨-, -, -, -, -, htimer⟩ := reported_state (Machine.run step (init config) events).ctx
    have hwait := (h.station true).1.1 (.inl hm)
    rw [htimer, show Eq _ _ from h.settled.ready.timer]
    exact isResponseWait_of_transmitWait hwait

end Station

end OpenDnp3.Link
