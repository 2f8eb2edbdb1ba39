import OpenDnp3.Link.Events

/-!
# One transmitter for two stations

The primary and the secondary station of a link layer share one transmitter, with room for one
waiting frame each. A station waits in one of its `TransmitWait` states exactly while a frame of it
is being sent or waits to be sent, and the frame is the one that this state queued. The proofs say
once what a handler of a station may do to the transmitter (`Handled`) and derive the rest from it.
-/

namespace OpenDnp3.Link

/-- The states in which the primary waits for a response. -/
def PriState.isResponseWait : PriState → Bool
  | .ResetLinkWait | .ConfDataWait | .RequestLinkStatusWait => true
  | _ => false

/-- The states whose handlers use the message in progress. -/
def PriState.readsSegments : PriState → Bool
  | .SendUnconfirmedTransmitWait | .LinkResetTransmitWait | .ResetLinkWait
  | .ConfUserDataTransmitWait | .ConfDataWait => true
  | _ => false

/-- The transmit mode of a station. -/
def stationMode (primary : Bool) : LinkTransmitMode := if primary then .Primary else .Secondary

namespace LinkContext

variable {α : Type*}

/-- The frame of a station that waits to be sent. -/
def pending (ctx : LinkContext α) : Bool → Option (LinkLayerFrame α)
  | true => ctx.pendingPriTx
  | false => ctx.pendingSecTx

/-- The station waits for the end of its own transmission. -/
def transmitWait (ctx : LinkContext α) : Bool → Bool
  | true => ctx.pPriState.isTransmitWait
  | false => ctx.pSecState.isTransmitWait

/-- The frame is what the primary queues on its way into its state. -/
def PriQueued (ctx : LinkContext α) (frame : LinkLayerFrame α) : Prop :=
  match ctx.pPriState with
  | .SendUnconfirmedTransmitWait => ∃ segments, ctx.pSegments = some segments ∧
      frame = ctx.config.formatPrimaryBufferWithUnconfirmed segments.addresses segments.current
  | .LinkResetTransmitWait =>
    ∃ destination, frame = ctx.config.headerFrame .PRI_RESET_LINK_STATES destination
  | .ConfUserDataTransmitWait => ∃ segments, ctx.pSegments = some segments ∧
      frame = ctx.config.formatPrimaryBufferWithConfirmed segments.addresses segments.current
        ctx.nextWriteFCB
  | .RequestLinkStatusTransmitWait =>
    frame = ctx.config.headerFrame .PRI_REQUEST_LINK_STATUS ctx.config.RemoteAddr
  | _ => False

/-- The frame is what the secondary queues on its way into its state. -/
def SecQueued (ctx : LinkContext α) (frame : LinkLayerFrame α) : Prop :=
  match ctx.pSecState with
  | .TransmitWaitReset => ∃ destination, frame = ctx.config.headerFrame .SEC_ACK destination ∨
      frame = ctx.config.headerFrame .SEC_LINK_STATUS destination
  | .TransmitWaitNotReset =>
    ∃ destination, frame = ctx.config.headerFrame .SEC_LINK_STATUS destination
  | _ => False

/-- The frame is what a station queues on its way into its state. -/
def Queued (ctx : LinkContext α) : Bool → LinkLayerFrame α → Prop
  | true => ctx.PriQueued
  | false => ctx.SecQueued

/-- The transmitter has the frame for a station: it is the one in flight or it waits. The channel
was sending `base` before the event. -/
def Carries (ctx : LinkContext α) (base : List (LinkLayerFrame α)) (primary : Bool)
    (frame : LinkLayerFrame α) : Prop :=
  (ctx.txMode = stationMode primary ∧ base ++ ctx.transmitted = [frame]) ∨
    ctx.pending primary = some frame

/-- The response timer runs in the states that wait for a response, and the states that use a
message have one. -/
structure Ready (ctx : LinkContext α) : Prop where
  timer : ctx.rspTimeoutTimer = ctx.pPriState.isResponseWait
  segments : ctx.pPriState.readsSegments = true → ctx.pSegments.isSome = true

/-- At most one frame is in flight, and it belongs to the mode; a frame waits only behind one of the
other station; every frame is what its station queued. -/
structure Lanes (base : List (LinkLayerFrame α)) (ctx : LinkContext α) : Prop where
  idle : ctx.txMode = .Idle → base ++ ctx.transmitted = []
  busy : ctx.txMode ≠ .Idle → ∃ frame, base ++ ctx.transmitted = [frame]
  pending : ∀ primary frame, ctx.pending primary = some frame → ctx.txMode = stationMode !primary
  overwrites : ctx.overwrites = []
  queued : ∀ primary frame, ctx.Carries base primary frame → ctx.Queued primary frame

/-- The transmitter between two calls of handlers. -/
structure Settled (base : List (LinkLayerFrame α)) (ctx : LinkContext α) : Prop where
  lanes : Lanes base ctx
  waits : ∀ primary, ctx.transmitWait primary = ctx.holds primary
  ready : Ready ctx

/-! ## What a handler may do -/

/-- The transmitter is left alone. -/
structure Quiet (ctx ctx' : LinkContext α) : Prop where
  txMode : ctx'.txMode = ctx.txMode
  pendingPriTx : ctx'.pendingPriTx = ctx.pendingPriTx
  pendingSecTx : ctx'.pendingSecTx = ctx.pendingSecTx
  transmitted : ctx'.transmitted = ctx.transmitted
  formatted : ctx'.formatted = ctx.formatted
  overwrites : ctx'.overwrites = ctx.overwrites

/-- What a handler of a station does: it stays in a state and leaves the transmitter alone, it goes
to a state that does not transmit, or it queues one frame while none of the station's is there. -/
inductive Handled (primary : Bool) (ctx ctx' : LinkContext α) : Prop
  | kept (quiet : Quiet ctx ctx') (waits : ctx.transmitWait primary = ctx.holds primary)
      (same : ctx'.transmitWait primary = ctx.transmitWait primary)
      (queued : ∀ frame, ctx.Queued primary frame → ctx'.Queued primary frame)
  | done (quiet : Quiet ctx ctx') (free : ctx.holds primary = false)
      (idle : ctx'.transmitWait primary = false)
  | queue (frame : LinkLayerFrame α) (free : ctx.holds primary = false)
      (quiet : Quiet (ctx.queueTransmit frame primary) ctx')
      (wait : ctx'.transmitWait primary = true) (queued : ctx'.Queued primary frame)

/-- A handler of a station leaves the other station alone. -/
structure Apart (primary : Bool) (ctx ctx' : LinkContext α) : Prop where
  same : ctx'.transmitWait (!primary) = ctx.transmitWait (!primary)
  queued : ∀ frame, ctx.Queued (!primary) frame → ctx'.Queued (!primary) frame

/-- The transmitter is left alone while nothing happens. -/
theorem Quiet.refl (ctx : LinkContext α) : Quiet ctx ctx := ⟨rfl, rfl, rfl, rfl, rfl, rfl⟩

/-- The transmitter is left alone by two steps that leave it alone. -/
theorem Quiet.trans {ctx ctx' ctx'' : LinkContext α} (h : Quiet ctx ctx') (h' : Quiet ctx' ctx'') :
    Quiet ctx ctx'' :=
  ⟨h'.txMode.trans h.txMode, h'.pendingPriTx.trans h.pendingPriTx,
    h'.pendingSecTx.trans h.pendingSecTx, h'.transmitted.trans h.transmitted,
    h'.formatted.trans h.formatted, h'.overwrites.trans h.overwrites⟩

/-- A quiet step leaves the frames that wait. -/
theorem Quiet.pending {ctx ctx' : LinkContext α} (h : Quiet ctx ctx') (primary : Bool) :
    ctx'.pending primary = ctx.pending primary := by
  cases primary
  · exact h.pendingSecTx
  · exact h.pendingPriTx

/-- A quiet step leaves what the transmitter holds for a station. -/
theorem Quiet.holds {ctx ctx' : LinkContext α} (h : Quiet ctx ctx') (primary : Bool) :
    ctx'.holds primary = ctx.holds primary := by
  simp only [LinkContext.holds, h.txMode, h.pendingPriTx, h.pendingSecTx]

/-- A quiet step leaves what the transmitter carries for a station. -/
theorem Quiet.carries {ctx ctx' : LinkContext α} (h : Quiet ctx ctx')
    (base : List (LinkLayerFrame α)) (primary : Bool) (frame : LinkLayerFrame α) :
    ctx'.Carries base primary frame ↔ ctx.Carries base primary frame := by
  simp only [LinkContext.Carries, h.txMode, h.transmitted, h.pending]

/-- A station has a frame at the transmitter in one of two ways. -/
theorem holds_iff (ctx : LinkContext α) (primary : Bool) :
    ctx.holds primary = true ↔
      ctx.txMode = stationMode primary ∨ (ctx.pending primary).isSome = true := by
  cases primary <;> simp [holds, stationMode, pending]

/-- The mode of a station is not that of a free transmitter. -/
theorem stationMode_ne_idle (primary : Bool) : stationMode primary ≠ .Idle := by
  cases primary <;> decide

/-- The two stations have different modes. -/
theorem stationMode_not (primary : Bool) : stationMode (!primary) ≠ stationMode primary := by
  cases primary <;> decide

/-- A mode other than idle is that of one of the stations. -/
theorem mode_cases {mode : LinkTransmitMode} (primary : Bool) (h : mode ≠ .Idle) :
    mode = stationMode primary ∨ mode = stationMode !primary := by
  cases primary <;> cases mode <;> simp_all [stationMode]

/-- One more output transmits its frame, if it has one. -/
theorem transmitted_emit (ctx : LinkContext α) (output : LinkOutput α) :
    (ctx.emit output).transmitted = ctx.transmitted ++ output.transmitted.toList := by
  unfold transmitted emit
  rw [List.filterMap_append]
  cases output <;> rfl

/-- A frame is formatted in a free buffer. -/
theorem format_of_free {ctx : LinkContext α} {primary : Bool} (free : ctx.holds primary = false)
    (frame : LinkLayerFrame α) :
    ctx.format frame primary = { ctx with formatted := ctx.formatted ++ [frame] } := by
  unfold format
  rw [if_neg (by simp [free])]

/-- What a station queues goes out at once when the transmitter is idle. -/
theorem queueTransmit_idle {ctx : LinkContext α} {primary : Bool}
    (free : ctx.holds primary = false) (h : ctx.txMode = .Idle) (frame : LinkLayerFrame α) :
    ctx.queueTransmit frame primary =
      { ctx with
        txMode := stationMode primary
        formatted := ctx.formatted ++ [frame] }.emit (.BeginTransmit frame) := by
  simp only [queueTransmit, format_of_free free, if_pos h]
  rfl

/-- What a station queues waits when the transmitter is busy. -/
theorem queueTransmit_busy {ctx : LinkContext α} {primary : Bool}
    (free : ctx.holds primary = false) (h : ctx.txMode ≠ .Idle) (frame : LinkLayerFrame α) :
    ctx.queueTransmit frame primary =
      if primary then
        { ctx with pendingPriTx := some frame, formatted := ctx.formatted ++ [frame] }
      else { ctx with pendingSecTx := some frame, formatted := ctx.formatted ++ [frame] } := by
  simp only [queueTransmit, format_of_free free, if_neg h]

section Queue

variable (ctx : LinkContext α) (frame : LinkLayerFrame α) (primary : Bool)

/-- Queueing only concerns the transmitter. -/
@[simp]
theorem queueTransmit_config : (ctx.queueTransmit frame primary).config = ctx.config := by
  simp only [queueTransmit, format, emit]
  split_ifs <;> rfl

/-- To queue a frame leaves the message in progress. -/
@[simp]
theorem queueTransmit_pSegments :
    (ctx.queueTransmit frame primary).pSegments = ctx.pSegments := by
  simp only [queueTransmit, format, emit]
  split_ifs <;> rfl

/-- It leaves the state of the primary. -/
@[simp]
theorem queueTransmit_pPriState :
    (ctx.queueTransmit frame primary).pPriState = ctx.pPriState := by
  simp only [queueTransmit, format, emit]
  split_ifs <;> rfl

/-- It leaves the state of the secondary. -/
@[simp]
theorem queueTransmit_pSecState :
    (ctx.queueTransmit frame primary).pSecState = ctx.pSecState := by
  simp only [queueTransmit, format, emit]
  split_ifs <;> rfl

/-- It leaves the frame count bit. -/
@[simp]
theorem queueTransmit_nextWriteFCB :
    (ctx.queueTransmit frame primary).nextWriteFCB = ctx.nextWriteFCB := by
  simp only [queueTransmit, format, emit]
  split_ifs <;> rfl

/-- It leaves the response timer. -/
@[simp]
theorem queueTransmit_rspTimeoutTimer :
    (ctx.queueTransmit frame primary).rspTimeoutTimer = ctx.rspTimeoutTimer := by
  simp only [queueTransmit, format, emit]
  split_ifs <;> rfl

/-- It leaves the session. -/
@[simp]
theorem queueTransmit_isOnline :
    (ctx.queueTransmit frame primary).isOnline = ctx.isOnline := by
  simp only [queueTransmit, format, emit]
  split_ifs <;> rfl

/-- It leaves the flag of the reset. -/
@[simp]
theorem queueTransmit_isRemoteReset :
    (ctx.queueTransmit frame primary).isRemoteReset = ctx.isRemoteReset := by
  simp only [queueTransmit, format, emit]
  split_ifs <;> rfl

end Queue

/-- The transmitter carries a queued frame for its station. What it carries for the other station
stays. -/
theorem carries_queueTransmit {base : List (LinkLayerFrame α)} {ctx : LinkContext α}
    {primary : Bool} (h : Lanes base ctx) (free : ctx.holds primary = false)
    (frame : LinkLayerFrame α) :
    (∀ f, (ctx.queueTransmit frame primary).Carries base primary f ↔ f = frame) ∧
      ∀ f, (ctx.queueTransmit frame primary).Carries base (!primary) f ↔
        ctx.Carries base (!primary) f := by
  by_cases hidle : ctx.txMode = .Idle
  · -- Nothing is in flight, so nothing waits either.
    rw [queueTransmit_idle free hidle]
    have hnone : ∀ b, ctx.pending b = none := by
      intro b
      cases hb : ctx.pending b with
      | none => rfl
      | some f => exact absurd ((h.pending b f hb).symm.trans hidle) (stationMode_ne_idle _)
    have hflight : base ++ ctx.transmitted = [] := h.idle hidle
    have hnone' := hnone primary
    have hother := hnone (!primary)
    constructor
    · intro f
      have hpend : ({ ctx with
          txMode := stationMode primary
          formatted := ctx.formatted ++ [frame] }.emit (.BeginTransmit frame)).pending primary =
            none := by cases primary <;> exact hnone'
      rw [Carries, hpend, transmitted_emit, ← List.append_assoc]
      show (_ ∧ (base ++ ctx.transmitted) ++ [frame] = [f]) ∨ _ ↔ _
      rw [hflight]
      simp [emit, eq_comm]
    · intro f
      have hpend : ({ ctx with
          txMode := stationMode primary
          formatted := ctx.formatted ++ [frame] }.emit (.BeginTransmit frame)).pending (!primary) =
            none := by cases primary <;> exact hother
      have hne : ¬ stationMode primary = stationMode !primary := fun hm =>
        stationMode_not primary hm.symm
      have hne' : ¬ LinkTransmitMode.Idle = stationMode !primary := fun hm =>
        stationMode_ne_idle _ hm.symm
      rw [Carries, Carries, hpend, hother, hidle]
      show (stationMode primary = stationMode (!primary) ∧ _) ∨ _ ↔ _
      simp only [hne, hne', false_and]
  · rw [queueTransmit_busy free hidle]
    have hmode : ctx.txMode ≠ stationMode primary := by
      intro hm
      have := (holds_iff ctx primary).2 (.inl hm)
      simp [free] at this
    constructor
    · intro f
      have hf : some frame = some f ↔ f = frame := by rw [Option.some.injEq, eq_comm]
      cases primary
      · show (ctx.txMode = _ ∧ _) ∨ some frame = some f ↔ f = frame
        simp only [hmode, false_and, false_or, hf]
      · show (ctx.txMode = _ ∧ _) ∨ some frame = some f ↔ f = frame
        simp only [hmode, false_and, false_or, hf]
    · intro f
      cases primary <;> simp [Carries, pending, transmitted]

/-- A station has a frame at the transmitter exactly when the transmitter carries one for it. -/
theorem Lanes.holds_iff {base : List (LinkLayerFrame α)} {ctx : LinkContext α}
    (h : Lanes base ctx) (primary : Bool) :
    ctx.holds primary = true ↔ ∃ frame, ctx.Carries base primary frame := by
  rw [LinkContext.holds_iff]
  constructor
  · rintro (hm | hp)
    · obtain ⟨frame, hf⟩ := h.busy (hm ▸ stationMode_ne_idle primary)
      exact ⟨frame, .inl ⟨hm, hf⟩⟩
    · obtain ⟨frame, hf⟩ := Option.isSome_iff_exists.1 hp
      exact ⟨frame, .inr hf⟩
  · rintro ⟨frame, ⟨hm, -⟩ | hp⟩
    · exact .inl hm
    · exact .inr (by rw [hp]; rfl)

/-- Nothing is carried for a station that has nothing at the transmitter. -/
theorem Lanes.not_carries {base : List (LinkLayerFrame α)} {ctx : LinkContext α}
    (h : Lanes base ctx) {primary : Bool} (free : ctx.holds primary = false)
    (frame : LinkLayerFrame α) : ¬ ctx.Carries base primary frame := by
  intro hc
  have := (h.holds_iff primary).2 ⟨frame, hc⟩
  simp [free] at this

/-- The transmitter after a station has queued a frame. -/
theorem Lanes.queueTransmit {base : List (LinkLayerFrame α)} {ctx : LinkContext α}
    (h : Lanes base ctx) {primary : Bool} (free : ctx.holds primary = false)
    (frame : LinkLayerFrame α) :
    (ctx.queueTransmit frame primary).txMode ≠ .Idle ∧
      (∃ f, base ++ (ctx.queueTransmit frame primary).transmitted = [f]) ∧
      (∀ b f, (ctx.queueTransmit frame primary).pending b = some f →
        (ctx.queueTransmit frame primary).txMode = stationMode !b) ∧
      (ctx.queueTransmit frame primary).overwrites = [] := by
  by_cases hidle : ctx.txMode = .Idle
  · -- The frame goes out, and nothing waits.
    rw [queueTransmit_idle free hidle, transmitted_emit, ← List.append_assoc]
    refine ⟨stationMode_ne_idle primary, ⟨frame, ?_⟩, fun b f hb => ?_, h.overwrites⟩
    · show (base ++ ctx.transmitted) ++ [frame] = [frame]
      rw [h.idle hidle, List.nil_append]
    · have hb' : ctx.pending b = some f := by cases b <;> exact hb
      exact absurd ((h.pending b f hb').symm.trans hidle) (stationMode_ne_idle _)
  · -- The frame waits behind one of the other station.
    have hmode : ctx.txMode = stationMode !primary := by
      rcases mode_cases primary hidle with hm | hm
      · have := (LinkContext.holds_iff ctx primary).2 (.inl hm)
        simp [free] at this
      · exact hm
    have hother : ctx.pending (!primary) = none := by
      cases hb : ctx.pending (!primary) with
      | none => rfl
      | some f =>
        have := h.pending _ f hb
        rw [hmode, Bool.not_not] at this
        exact absurd this (stationMode_not primary)
    rw [queueTransmit_busy free hidle]
    cases primary
    · refine ⟨hidle, h.busy hidle, fun b f hb => ?_, h.overwrites⟩
      cases b
      · exact hmode
      · exact h.pending true f hb
    · refine ⟨hidle, h.busy hidle, fun b f hb => ?_, h.overwrites⟩
      cases b
      · exact h.pending false f hb
      · exact hmode

/-- What `priTxBuffer` or `secTxBuffer` holds: the frame that was formatted in it last. -/
def txBuffer (ctx : LinkContext α) (primary : Bool) : Option (LinkLayerFrame α) :=
  (ctx.formatted.filter fun frame => frame.fields.func.isPri = primary).getLast?

/-- The buffers meanwhile: no frame was formatted in the buffer of a frame in flight, and a frame
that the transmitter has now was there before, with its buffer left alone, or is what its buffer
holds. -/
structure Spares (base : List (LinkLayerFrame α)) (ctx ctx' : LinkContext α) : Prop where
  inFlight : ∀ frame ∈ ctx'.formatted, frame ∈ ctx.formatted ∨
    ∀ f ∈ base, f.fields.func.isPri ≠ frame.fields.func.isPri
  buffers : ∀ primary frame, ctx'.Carries base primary frame →
    (ctx.Carries base primary frame ∧ ctx'.txBuffer primary = ctx.txBuffer primary) ∨
      ctx'.txBuffer primary = some frame

/-- The buffer of a station is what was formatted last for it. -/
theorem txBuffer_congr {ctx ctx' : LinkContext α} (h : ctx'.formatted = ctx.formatted)
    (primary : Bool) : ctx'.txBuffer primary = ctx.txBuffer primary := by
  rw [txBuffer, txBuffer, h]

/-- Nothing is formatted while the transmitter gets no new frame. -/
theorem Spares.of_eq {base : List (LinkLayerFrame α)} {ctx ctx' : LinkContext α}
    (h : ctx'.formatted = ctx.formatted)
    (hcarries : ∀ primary frame, ctx'.Carries base primary frame → ctx.Carries base primary frame) :
    Spares base ctx ctx' where
  inFlight _ hframe := .inl (h ▸ hframe)
  buffers primary frame hc := .inl ⟨hcarries primary frame hc, txBuffer_congr h primary⟩

/-- The transmitter has nothing any more. -/
theorem Spares.of_idle {ctx ctx' : LinkContext α} (hidle : ctx'.txMode = .Idle)
    (hpending : ∀ primary, ctx'.pending primary = none) : Spares [] ctx ctx' where
  inFlight _ _ := .inr fun _ hf => absurd hf List.not_mem_nil
  buffers primary frame hc := by
    rcases hc with ⟨hm, -⟩ | hp
    · exact absurd (hm.symm.trans hidle) (stationMode_ne_idle primary)
    · rw [hpending] at hp
      cases hp

/-- A buffer in flight is spared while nothing happens. -/
theorem Spares.refl (base : List (LinkLayerFrame α)) (ctx : LinkContext α) :
    Spares base ctx ctx := .of_eq rfl fun _ _ => id

/-- A buffer in flight is spared by two steps that spare it. -/
theorem Spares.trans {base : List (LinkLayerFrame α)} {ctx ctx' ctx'' : LinkContext α}
    (h : Spares base ctx ctx') (h' : Spares base ctx' ctx'') : Spares base ctx ctx'' := by
  refine ⟨fun frame hframe => ?_, fun primary frame hc => ?_⟩
  · rcases h'.inFlight frame hframe with hold | hnew
    · exact h.inFlight frame hold
    · exact .inr hnew
  · rcases h'.buffers primary frame hc with ⟨hbefore, hsame⟩ | hnew
    · rw [hsame]
      exact h.buffers primary frame hbefore
    · exact .inr hnew

/-- A station queues frames of its own functions. -/
theorem Queued.isPri {ctx : LinkContext α} {primary : Bool} {frame : LinkLayerFrame α}
    (h : ctx.Queued primary frame) : frame.fields.func.isPri = primary := by
  cases primary with
  | true =>
    -- The state of a station says which functions it queues.
    have h : ctx.PriQueued frame := h
    unfold PriQueued at h
    split at h
    case h_1 | h_3 =>
      obtain ⟨segments, -, rfl⟩ := h
      rfl
    case h_2 =>
      obtain ⟨destination, rfl⟩ := h
      rfl
    case h_4 =>
      rw [h]
      rfl
    case h_5 => exact h.elim
  | false =>
    have h : ctx.SecQueued frame := h
    unfold SecQueued at h
    split at h
    case h_1 =>
      obtain ⟨destination, rfl | rfl⟩ := h
      · rfl
      · rfl
    case h_2 =>
      obtain ⟨destination, rfl⟩ := h
      rfl
    case h_3 => exact h.elim

/-- What a station formats in its free buffer is what this buffer holds then, and is not in the
buffer of the frame in flight. -/
theorem Lanes.spares {base : List (LinkLayerFrame α)} {ctx ctx' : LinkContext α} {primary : Bool}
    (h : Lanes base ctx) (free : ctx.holds primary = false) {frame : LinkLayerFrame α}
    (quiet : Quiet (ctx.queueTransmit frame primary) ctx')
    (queued : ctx'.Queued primary frame) : Spares base ctx ctx' := by
  have hformatted : ctx'.formatted = ctx.formatted ++ [frame] := by
    rw [quiet.formatted]
    by_cases hidle : ctx.txMode = .Idle
    · rw [queueTransmit_idle free hidle]
      rfl
    · rw [queueTransmit_busy free hidle]
      cases primary <;> rfl
  obtain ⟨hown, hother⟩ := carries_queueTransmit h free frame
  refine ⟨fun frame' hframe' => ?_, fun b f hc => ?_⟩
  swap
  · rw [quiet.carries] at hc
    rw [txBuffer, txBuffer, hformatted, List.filter_append]
    rcases Bool.eq_or_eq_not b primary with rfl | rfl
    · refine .inr ?_
      rw [(hown f).1 hc, List.filter_cons_of_pos (by simp [queued.isPri]), List.filter_nil,
        List.getLast?_concat]
    · -- The buffer of the other station is another one.
      refine .inl ⟨(hother f).1 hc, ?_⟩
      rw [List.filter_cons_of_neg (by cases primary <;> simp [queued.isPri]), List.filter_nil,
        List.append_nil]
  rw [hformatted] at hframe'
  refine (List.mem_append.1 hframe').imp_right fun hmem f hf => ?_
  obtain rfl := List.mem_singleton.1 hmem
  -- The frame in flight is one of the other station.
  have hbusy : ctx.txMode ≠ .Idle := by
    intro hidle
    obtain ⟨hnil, -⟩ := List.append_eq_nil_iff.1 (h.idle hidle)
    rw [hnil] at hf
    cases hf
  have hmode : ctx.txMode = stationMode !primary := by
    refine (mode_cases primary hbusy).resolve_left fun hm => ?_
    have := (LinkContext.holds_iff ctx primary).2 (.inl hm)
    simp [free] at this
  obtain ⟨g, hg⟩ := h.busy hbusy
  have hfg : f = g := by
    have hmem : f ∈ base ++ ctx.transmitted := List.mem_append_left _ hf
    rw [hg] at hmem
    exact List.mem_singleton.1 hmem
  have hother := (h.queued (!primary) f (.inl ⟨hmode, hfg ▸ hg⟩)).isPri
  rw [hother, queued.isPri]
  cases primary <;> decide

/-- A handler of one station keeps the transmitter in order for both, and what is carried stays
there. The handler may start after the station's own transmission has ended; only the other station
has to wait for what it queued. -/
theorem Lanes.of_handled {base : List (LinkLayerFrame α)} {ctx ctx' : LinkContext α}
    {primary : Bool} (h : Lanes base ctx) (hd : Handled primary ctx ctx')
    (ha : Apart primary ctx ctx') (hw : ctx.transmitWait (!primary) = ctx.holds (!primary)) :
    Lanes base ctx' ∧ (∀ b, ctx'.transmitWait b = ctx'.holds b) ∧
      (∀ b f, ctx.Carries base b f → ctx'.Carries base b f) ∧ Spares base ctx ctx' := by
  -- A handler that leaves the transmitter alone only has to keep what its station has queued.
  have hquiet : Quiet ctx ctx' → ctx'.transmitWait primary = ctx.holds primary →
      (∀ f, ctx.Carries base primary f → ctx'.Queued primary f) →
      Lanes base ctx' ∧ (∀ b, ctx'.transmitWait b = ctx'.holds b) ∧
        (∀ b f, ctx.Carries base b f → ctx'.Carries base b f) ∧ Spares base ctx ctx' := by
    intro q hown hqueued
    refine ⟨⟨?_, ?_, ?_, ?_, ?_⟩, fun b => ?_, fun b f => (q.carries base b f).2,
      .of_eq q.formatted fun b f => (q.carries base b f).1⟩
    · rw [q.txMode, q.transmitted]
      exact h.idle
    · rw [q.txMode, q.transmitted]
      exact h.busy
    · intro b f
      rw [q.pending, q.txMode]
      exact h.pending b f
    · rw [q.overwrites]
      exact h.overwrites
    · intro b f hc
      rw [q.carries] at hc
      rcases Bool.eq_or_eq_not b primary with rfl | rfl
      · exact hqueued f hc
      · exact ha.queued f (h.queued _ f hc)
    · rw [q.holds]
      rcases Bool.eq_or_eq_not b primary with rfl | rfl
      · exact hown
      · rw [ha.same, hw]
  cases hd with
  | kept q waits same queued =>
    exact hquiet q (same.trans waits) fun f hc => queued f (h.queued _ f hc)
  | done q free idle =>
    exact hquiet q (idle.trans free.symm) fun f hc => absurd hc (h.not_carries free f)
  | queue frame free q wait queued =>
    obtain ⟨hbusy, hflight, hpending, hover⟩ := h.queueTransmit free frame
    obtain ⟨hown, hother⟩ := carries_queueTransmit h free frame
    have hlanes : Lanes base ctx' := by
      refine ⟨?_, ?_, ?_, ?_, ?_⟩
      · rw [q.txMode]
        exact fun hm => absurd hm hbusy
      · rw [q.txMode, q.transmitted]
        exact fun _ => hflight
      · intro b f
        rw [q.pending, q.txMode]
        exact hpending b f
      · rw [q.overwrites]
        exact hover
      · intro b f hc
        rw [q.carries] at hc
        rcases Bool.eq_or_eq_not b primary with rfl | rfl
        · rw [(hown f).1 hc]
          exact queued
        · exact ha.queued f (h.queued _ f ((hother f).1 hc))
    refine ⟨hlanes, fun b => ?_, fun b f hc => ?_, h.spares free q queued⟩
    · rcases Bool.eq_or_eq_not b primary with rfl | rfl
      · rw [wait]
        exact ((hlanes.holds_iff _).2 ⟨frame, (q.carries _ _ _).2 ((hown frame).2 rfl)⟩).symm
      · rw [ha.same, hw, Bool.eq_iff_iff, h.holds_iff, hlanes.holds_iff]
        exact exists_congr fun f => ((q.carries _ _ _).trans (hother f)).symm
    · rw [q.carries]
      rcases Bool.eq_or_eq_not b primary with rfl | rfl
      · exact absurd hc (h.not_carries free f)
      · exact (hother f).2 hc

end LinkContext

end OpenDnp3.Link
