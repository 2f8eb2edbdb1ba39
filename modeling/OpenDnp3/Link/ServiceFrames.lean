import OpenDnp3.Link.ServiceInvariant

/-!
# The frames of the confirmed link service

What a frame does that reaches one of the two stations, request by request and response by response.
The secondary takes a segment once: a repeated one has the frame count bit of the one before, and is
acknowledged and dropped. The primary goes on to the next segment only with the acknowledgment of
this one, since a response in flight belongs to the last request.
-/

namespace OpenDnp3.Link

namespace Service

variable {β : Type*}

/-! ## Frames that reach the secondary -/

section Secondary

variable {cfg : ServiceConfig} {ctx : LinkContext (ℕ × β)} (h : SecRole cfg ctx) (now : ℤ)

include h

/-- A secondary that waits for the end of its own transmission ignores a frame of the primary. -/
theorem onFrame_ignored (hw : ctx.pSecState.isTransmitWait = true)
    (frame : LinkLayerFrame (ℕ × β))
    (hfunc : frame.fields.func = .PRI_REQUEST_LINK_STATUS ∨
      frame.fields.func = .PRI_RESET_LINK_STATES ∨ frame.fields.func = .PRI_CONFIRMED_USER_DATA)
    (hmaster : frame.fields.isFromMaster = cfg.isMaster) (hdest : frame.fields.dest = cfg.secAddr)
    (hsrc : frame.fields.src = cfg.priAddr) :
    ctx.onFrame frame now = { ctx with lastMessageTimestamp := now } := by
  obtain ⟨hcfg, hon, hpp, hps, hpri, hseg, hk, htxMode⟩ := h
  have hignore : { ctx with lastMessageTimestamp := now }.dispatch frame =
      { ctx with lastMessageTimestamp := now } := by
    cases hs : ctx.pSecState <;> simp [hs, SecState.isTransmitWait] at hw <;>
      rcases hfunc with hf | hf | hf <;>
      simp [LinkContext.dispatch, hf, LinkContext.onRequestLinkStatus,
        LinkContext.onResetLinkStates, LinkContext.onConfirmedUserData]
  have haccept : ctx.onFrame frame now =
      ({ ctx with lastMessageTimestamp := now }.dispatch frame).tryStartTransmission := by
    unfold LinkContext.onFrame
    simp only [hon, hcfg, hmaster, hdest, hsrc]
    simp [ServiceConfig.sec]
  rw [haccept, hignore]
  exact tryStart_of_none _ hk hseg

/-- A secondary answers a request for the link status. -/
theorem onFrame_status (hw : ctx.pSecState.isTransmitWait = false) :
    ctx.onFrame (cfg.pri.headerFrame .PRI_REQUEST_LINK_STATUS cfg.secAddr) now =
      { ctx with
        lastMessageTimestamp := now
        txMode := .Secondary
        pSecState := if ctx.pSecState.isReset then .TransmitWaitReset else .TransmitWaitNotReset
        outputs := ctx.outputs ++
          [.BeginTransmit (cfg.sec.headerFrame .SEC_LINK_STATUS cfg.priAddr)]
        formatted := ctx.formatted ++ [cfg.sec.headerFrame .SEC_LINK_STATUS cfg.priAddr] } := by
  obtain ⟨hcfg, hon, hpp, hps, hpri, hseg, hk, htxMode⟩ := h
  cases hs : ctx.pSecState <;> simp [hs, SecState.isTransmitWait] at hw htxMode <;>
    simp [LinkContext.onFrame, hon, hcfg, ServiceConfig.sec, ServiceConfig.pri,
      LinkLayerConfig.headerFrame, LinkLayerConfig.formatHeader, LinkContext.dispatch,
      LinkContext.onRequestLinkStatus, LinkContext.queueLinkStatus, LinkContext.queueTransmit,
      LinkContext.format, LinkContext.holds, LinkContext.emit, LinkContext.secState,
      tryStart_of_none, htxMode, hps, hk, hseg, hs, SecState.isReset]

/-- A secondary acknowledges a reset and expects the frame count bit one. -/
theorem onFrame_reset (hw : ctx.pSecState.isTransmitWait = false) :
    ctx.onFrame (cfg.pri.headerFrame .PRI_RESET_LINK_STATES cfg.secAddr) now =
      { ctx with
        lastMessageTimestamp := now
        txMode := .Secondary
        nextReadFCB := true
        pSecState := .TransmitWaitReset
        outputs := ctx.outputs ++
          [.BeginTransmit (cfg.sec.headerFrame .SEC_ACK cfg.priAddr)]
        formatted := ctx.formatted ++ [cfg.sec.headerFrame .SEC_ACK cfg.priAddr] } := by
  obtain ⟨hcfg, hon, hpp, hps, hpri, hseg, hk, htxMode⟩ := h
  cases hs : ctx.pSecState <;> simp [hs, SecState.isTransmitWait] at hw htxMode <;>
    simp [LinkContext.onFrame, hon, hcfg, ServiceConfig.sec, ServiceConfig.pri,
      LinkLayerConfig.headerFrame, LinkLayerConfig.formatHeader, LinkContext.dispatch,
      LinkContext.onResetLinkStates, LinkContext.queueAck, LinkContext.queueTransmit,
      LinkContext.format, LinkContext.holds, LinkContext.emit, LinkContext.secState,
      tryStart_of_none, htxMode, hps, hk, hseg, hs]

/-- A secondary that has been reset acknowledges a segment. It pushes the segment up, and expects
the other frame count bit, exactly when the segment has the expected bit. -/
theorem onFrame_data (hr : ctx.pSecState = .Reset) (segment : ℕ × β) (fcb : Bool) :
    ctx.onFrame (cfg.pri.formatPrimaryBufferWithConfirmed ⟨cfg.priAddr, cfg.secAddr⟩ segment fcb)
        now =
      { ctx with
        lastMessageTimestamp := now
        txMode := .Secondary
        nextReadFCB := !fcb
        pSecState := .TransmitWaitReset
        outputs := ctx.outputs ++
          .BeginTransmit (cfg.sec.headerFrame .SEC_ACK cfg.priAddr) ::
            if ctx.nextReadFCB = fcb then
              [.OnReceive ⟨⟨cfg.priAddr, cfg.secAddr⟩, some segment⟩]
            else []
        formatted := ctx.formatted ++ [cfg.sec.headerFrame .SEC_ACK cfg.priAddr] } := by
  obtain ⟨hcfg, hon, hpp, hps, hpri, hseg, hk, htxMode⟩ := h
  have htxIdle : ctx.txMode = .Idle := by rw [htxMode, hr]; rfl
  by_cases hfcb : ctx.nextReadFCB = fcb
  · simp [LinkContext.onFrame, hon, hcfg, ServiceConfig.sec, ServiceConfig.pri,
      LinkLayerConfig.headerFrame, LinkLayerConfig.formatPrimaryBufferWithConfirmed,
      LinkLayerConfig.formatHeader, LinkContext.dispatch, LinkContext.onConfirmedUserData,
      LinkContext.queueAck, LinkContext.queueTransmit, LinkContext.format, LinkContext.holds,
      LinkContext.pushDataUp, LinkContext.emit, LinkContext.secState, tryStart_of_none, htxIdle,
      hps, hk, hseg, hr, hfcb]
  · -- The wrong bit: acknowledged without being pushed up.
    have hnot : ctx.nextReadFCB = !fcb := by cases hc : ctx.nextReadFCB <;> cases fcb <;> simp_all
    simp [LinkContext.onFrame, hon, hcfg, ServiceConfig.sec, ServiceConfig.pri,
      LinkLayerConfig.headerFrame, LinkLayerConfig.formatPrimaryBufferWithConfirmed,
      LinkLayerConfig.formatHeader, LinkContext.dispatch, LinkContext.onConfirmedUserData,
      LinkContext.queueAck, LinkContext.queueTransmit, LinkContext.format, LinkContext.holds,
      LinkContext.emit, LinkContext.secState, tryStart_of_none, htxIdle, hps, hk, hseg, hr, hnot]

end Secondary

/-- The state of a secondary that has been reset and is not transmitting. -/
theorem isReset_idle {state : SecState} (hr : state.isReset = true)
    (hw : state.isTransmitWait = false) : state = .Reset := by
  cases state <;> simp_all [SecState.isReset, SecState.isTransmitWait]

/-- A frame that the secondary ignores is as good as lost. -/
theorem ignore_inv {cfg : ServiceConfig} (s : Service β) (h : Inv cfg s) (now : ℤ)
    (hw : s.sec.pSecState.isTransmitWait = true) (frame : LinkLayerFrame (ℕ × β))
    (hto : s.toSec = [frame])
    (hfunc : frame.fields.func = .PRI_REQUEST_LINK_STATUS ∨
      frame.fields.func = .PRI_RESET_LINK_STATES ∨ frame.fields.func = .PRI_CONFIRMED_USER_DATA)
    (hmaster : frame.fields.isFromMaster = cfg.isMaster) (hdest : frame.fields.dest = cfg.secAddr)
    (hsrc : frame.fields.src = cfg.priAddr) : Inv cfg (s.step (.deliverSec now)) := by
  have hlost := lose_inv s h [] s.toPri (List.nil_sublist _) (List.Sublist.refl _)
  have hframe := onFrame_ignored h.secRole.clear now hw frame hfunc hmaster hdest hsrc
  simp only [step, hto]
  rw [secStep_quiet _ _ (by rw [hframe])]
  refine hlost.sec_congr ?_ ?_ ?_
  · rw [hframe]
    exact ⟨h.secRole.config, h.secRole.online, h.secRole.pendingPri, h.secRole.pendingSec,
      h.secRole.pri, h.secRole.segments, h.secRole.keepAlive, h.secRole.txMode⟩
  · rw [hframe]
  · rw [hframe]

/-- A request that is in flight is the only frame in flight. -/
theorem InFlight.request {s : Service β} {request response frame : LinkLayerFrame (ℕ × β)}
    {toSec : List (LinkLayerFrame (ℕ × β))} (h : s.InFlight request response)
    (hto : s.toSec = frame :: toSec) : frame = request ∧ toSec = [] ∧ s.toPri = [] := by
  rcases h with ⟨h1, -⟩ | ⟨h1, h2⟩ | ⟨h1, -⟩
  · simp [hto] at h1
  · simp only [hto, List.cons.injEq] at h1
    exact ⟨h1.1, h1.2, h2⟩
  · simp [hto] at h1

/-- A response that is in flight is the only frame in flight. -/
theorem InFlight.response {s : Service β} {request response frame : LinkLayerFrame (ℕ × β)}
    {toPri : List (LinkLayerFrame (ℕ × β))} (h : s.InFlight request response)
    (hto : s.toPri = frame :: toPri) : frame = response ∧ toPri = [] ∧ s.toSec = [] := by
  rcases h with ⟨-, h1⟩ | ⟨-, h1⟩ | ⟨h2, h1⟩
  · simp [hto] at h1
  · simp [hto] at h1
  · simp only [hto, List.cons.injEq] at h1
    exact ⟨h1.1, h1.2, h2⟩

section DeliverSec

variable {cfg : ServiceConfig} {s : Service β} (h : Inv cfg s) (now : ℤ)
  {frame : LinkLayerFrame (ℕ × β)} {toSec : List (LinkLayerFrame (ℕ × β))}
  (hto : s.toSec = frame :: toSec)

include h hto

/-- The secondary answers the request for its status. -/
theorem deliverSec_status (hs : s.pri.pPriState.exchange = .status) :
    Inv cfg (s.step (.deliverSec now)) := by
  obtain ⟨hf, hagree⟩ := (phase_status hs).1 h.phase
  obtain ⟨rfl, rfl, hpri⟩ := hf.request hto
  cases hw : s.sec.pSecState.isTransmitWait with
  | true => exact ignore_inv s h now hw _ hto (Or.inl rfl) rfl rfl rfl
  | false =>
    have hframe := onFrame_status h.secRole.clear now hw
    simp only [step, hto, secStep, hframe]
    refine ⟨h.priRole, ⟨h.secRole.config, h.secRole.online, h.secRole.pendingPri,
      h.secRole.pendingSec, h.secRole.pri, h.secRole.segments, h.secRole.keepAlive, ?_⟩, ?_, ?_⟩
    · cases s.sec.pSecState.isReset <;> rfl
    · refine (phase_status (by exact hs)).2
        ⟨Or.inr (Or.inr ⟨rfl, by simp [hpri, transmitted]⟩), fun hr => ?_⟩
      obtain ⟨hreset, hfcb⟩ := hagree hr
      refine ⟨?_, hfcb⟩
      simp only [hreset]
      rfl
    · exact (List.append_nil s.pushed).symm ▸ h.log.congr rfl rfl

/-- The secondary takes a reset. -/
theorem deliverSec_reset (hs : s.pri.pPriState.exchange = .reset) :
    Inv cfg (s.step (.deliverSec now)) := by
  obtain ⟨hf, hr, hseg, hack⟩ := (phase_reset hs).1 h.phase
  obtain ⟨rfl, rfl, hpri⟩ := hf.request hto
  cases hw : s.sec.pSecState.isTransmitWait with
  | true => exact ignore_inv s h now hw _ hto (Or.inr (Or.inl rfl)) rfl rfl rfl
  | false =>
    have hframe := onFrame_reset h.secRole.clear now hw
    have htaken : ∀ sec, taken s.pri sec = [] := fun sec => taken_of_ne_data sec (by simp [hs])
    simp only [step, hto, secStep, hframe]
    refine ⟨h.priRole, ⟨h.secRole.config, h.secRole.online, h.secRole.pendingPri,
      h.secRole.pendingSec, h.secRole.pri, h.secRole.segments, h.secRole.keepAlive, rfl⟩, ?_, ?_⟩
    · exact (phase_reset (by exact hs)).2
        ⟨Or.inr (Or.inr ⟨rfl, by simp [hpri, transmitted]⟩), hr, hseg,
        fun _ => ⟨rfl, rfl⟩⟩
    · exact (List.append_nil s.pushed).symm ▸
        h.log.congr rfl ((htaken _).trans (htaken _).symm)

/-- The secondary takes a segment, or recognises one that it has taken before. -/
theorem deliverSec_data (hs : s.pri.pPriState.exchange = .data) :
    Inv cfg (s.step (.deliverSec now)) := by
  obtain ⟨hr, hreset, segments, hseg, hf, hack⟩ := (phase_data hs).1 h.phase
  obtain ⟨rfl, rfl, hpri⟩ := hf.request hto
  cases hw : s.sec.pSecState.isTransmitWait with
  -- A secondary that is still transmitting drops the frame.
  | true => exact ignore_inv s h now hw _ hto (Or.inr (Or.inr rfl)) rfl rfl rfl
  | false =>
    have hframe := onFrame_data h.secRole.clear now (isReset_idle hreset hw) segments.current
      s.pri.nextWriteFCB
    simp only [step, hto, secStep, hframe]
    refine ⟨h.priRole, ⟨h.secRole.config, h.secRole.online, h.secRole.pendingPri,
      h.secRole.pendingSec, h.secRole.pri, h.secRole.segments, h.secRole.keepAlive, rfl⟩, ?_, ?_⟩
    · refine (phase_data (by exact hs)).2
        ⟨hr, rfl, segments, hseg, Or.inr (Or.inr ⟨rfl, ?_⟩), fun _ => ?_⟩
      · rw [hpri]
        split_ifs <;> rfl
      · simp
    · obtain ⟨hnum, hacked, htp, done, hsent, hpushed⟩ := h.log
      by_cases hfcb : s.sec.nextReadFCB = s.pri.nextWriteFCB
      · -- The segment is new: it is pushed up and counts as taken from now on.
        rw [taken_of_agree hfcb] at hpushed
        rw [if_pos hfcb]
        have htaken : ∀ sec : LinkContext (ℕ × β), sec.nextReadFCB = !s.pri.nextWriteFCB →
            taken s.pri sec = [segments.current] := by
          intro sec hsec
          simp [taken, hseg, hs, hsec]
        refine ⟨hnum, ?_, ?_, done, hsent, ?_⟩
        · intro segment hmem
          exact List.mem_append_left _ (hacked segment hmem)
        · rw [htaken _ rfl]
          simp [received]
        · rw [htaken _ rfl]
          simpa [received] using hpushed
      · -- The segment is a repetition: the frame count bits differ already.
        rw [if_neg hfcb]
        have htaken : ∀ sec : LinkContext (ℕ × β), sec.nextReadFCB = !s.pri.nextWriteFCB →
            taken s.pri sec = taken s.pri s.sec := by
          intro sec hsec
          simp [taken, hseg, hs, hsec, hfcb]
        refine (List.append_nil s.pushed).symm ▸ ?_
        exact Log.congr ⟨hnum, hacked, htp, done, hsent, hpushed⟩ rfl (htaken _ rfl)

end DeliverSec

/-- The delivery of a frame to the secondary keeps the invariant. -/
theorem deliverSec_inv {cfg : ServiceConfig} (s : Service β) (h : Inv cfg s) (now : ℤ) :
    Inv cfg (s.step (.deliverSec now)) := by
  match hto : s.toSec with
  | [] => simpa only [step, hto] using h
  | frame :: toSec =>
    cases hs : s.pri.pPriState.exchange with
    | none => exact absurd ((phase_none hs).1 h.phase).1 (by simp [hto])
    | status => exact deliverSec_status h now hto hs
    | reset => exact deliverSec_reset h now hto hs
    | data => exact deliverSec_data h now hto hs
    | unconfirmed =>
      have hphase := h.phase
      simp only [Phase, hs] at hphase

/-! ## Frames that reach the primary -/

/-- A step of the primary that ends idle, and may then start a transmission. -/
theorem priStep_start {cfg : ServiceConfig} {s : Service β} (ctx : LinkContext (ℕ × β))
    {f : LinkContext (ℕ × β) → LinkContext (ℕ × β)}
    (hf : f { s.pri with outputs := [] } = ctx.tryStartTransmission)
    (h : Inv cfg { s with pri := ctx, acked := s.acked ++ advanced ctx.outputs })
    (hidle : ctx.pPriState = .Idle) (htx : transmitted ctx.outputs = []) :
    Inv cfg (s.priStep f) := by
  obtain ⟨hinv, hadv⟩ := start_inv _ h hidle htx
  have hto : s.toSec = [] := ((phase_none (by simp [hidle, PriState.exchange])).1 h.phase).1
  simp only [priStep, hf]
  rw [hto, List.nil_append, hadv]
  exact hinv

/-- The primary accepts the frames of the secondary. -/
theorem onFrame_pri {cfg : ServiceConfig} {ctx : LinkContext (ℕ × β)} (h : PriRole cfg ctx)
    (now : ℤ) (func : LinkFunction) :
    ctx.onFrame (cfg.sec.headerFrame func cfg.priAddr) now =
      ({ ctx with lastMessageTimestamp := now }.dispatch
        (cfg.sec.headerFrame func cfg.priAddr)).tryStartTransmission := by
  unfold LinkContext.onFrame
  simp only [h.online, h.config]
  simp [ServiceConfig.sec, ServiceConfig.pri, LinkLayerConfig.headerFrame,
    LinkLayerConfig.formatHeader]

section DeliverPri

variable {cfg : ServiceConfig} {s : Service β} (h : Inv cfg s) (now : ℤ)
  {frame : LinkLayerFrame (ℕ × β)} {toPri : List (LinkLayerFrame (ℕ × β))}
  (hto : s.toPri = frame :: toPri)

include h

/-- A response that the primary does not expect yet is as good as lost. -/
theorem unexpected_inv (func : LinkFunction)
    (hto : s.toPri = [cfg.sec.headerFrame func cfg.priAddr])
    (hne : s.pri.pPriState ≠ .Idle)
    (hdispatch : ∀ ctx : LinkContext (ℕ × β), ctx.pPriState = s.pri.pPriState →
      ctx.dispatch (cfg.sec.headerFrame func cfg.priAddr) = ctx.unexpectedFrame) :
    Inv cfg (s.step (.deliverPri now)) := by
  have hlost := lose_inv s h s.toSec [] (List.Sublist.refl _) (List.nil_sublist _)
  have hframe := onFrame_pri h.priRole.clear now func
  rw [hdispatch _ (by rfl), tryStart_of_ne_idle _ (by exact hne)] at hframe
  simp only [step, hto]
  rw [priStep_quiet _ _ (by rw [hframe]; rfl)]
  refine hlost.pri_congr ?_ ?_ ?_ ?_ ?_ <;> rw [hframe]
  · exact ⟨h.priRole.config, h.priRole.online, h.priRole.pendingPri, h.priRole.pendingSec,
      h.priRole.sec, h.priRole.txMode, h.priRole.addresses⟩
  all_goals rfl

include hto

/-- The primary takes the status of the link. -/
theorem deliverPri_status (hs : s.pri.pPriState.exchange = .status) :
    Inv cfg (s.step (.deliverPri now)) := by
  obtain ⟨hf, hagree⟩ := (phase_status hs).1 h.phase
  obtain ⟨rfl, rfl, hsec⟩ := hf.response hto
  cases hp : s.pri.pPriState <;> simp [hp, PriState.exchange] at hs
  -- The request itself is still being transmitted.
  case RequestLinkStatusTransmitWait =>
    refine unexpected_inv h now .SEC_LINK_STATUS hto (by simp [hp]) fun ctx hctx => ?_
    simp [LinkContext.dispatch, LinkLayerConfig.headerFrame, LinkLayerConfig.formatHeader,
      LinkContext.onLinkStatus, hctx, hp]
  case RequestLinkStatusWait =>
    have htxMode := h.priRole.txMode
    simp only [hp, PriState.isTransmitWait] at htxMode
    simp only [step, hto]
    refine priStep_start { s.pri with
      lastMessageTimestamp := now
      rspTimeoutTimer := false
      pPriState := .Idle
      outputs := [.OnKeepAliveSuccess] } ?_ ?_ rfl rfl
    · rw [onFrame_pri h.priRole.clear]
      simp [LinkContext.dispatch, LinkLayerConfig.headerFrame, LinkLayerConfig.formatHeader,
        LinkContext.onLinkStatus, hp, LinkContext.cancelTimer, LinkContext.emit,
        LinkContext.priState]
    · refine ⟨⟨h.priRole.config, h.priRole.online, h.priRole.pendingPri, h.priRole.pendingSec,
        h.priRole.sec, htxMode, h.priRole.addresses⟩, h.secRole, ⟨hsec, rfl, hagree⟩, ?_⟩
      refine (List.append_nil s.acked).symm ▸ h.log.congr rfl ?_
      rw [taken_of_ne_data _ (by simp [PriState.exchange]),
        taken_of_ne_data _ (by simp [hp, PriState.exchange])]

/-- The primary takes the acknowledgement of a reset and sends its first segment. -/
theorem deliverPri_reset (hs : s.pri.pPriState.exchange = .reset) :
    Inv cfg (s.step (.deliverPri now)) := by
  obtain ⟨hf, hr, ⟨segments, hseg⟩, hack⟩ := (phase_reset hs).1 h.phase
  obtain ⟨rfl, rfl, hsec⟩ := hf.response hto
  cases hp : s.pri.pPriState <;> simp [hp, PriState.exchange] at hs
  -- The request itself is still being transmitted.
  case LinkResetTransmitWait =>
    refine unexpected_inv h now .SEC_ACK hto (by simp [hp]) fun ctx hctx => ?_
    simp [LinkContext.dispatch, LinkLayerConfig.headerFrame, LinkLayerConfig.formatHeader,
      LinkContext.onAck, hctx, hp]
  case ResetLinkWait =>
    -- An acknowledgement in flight means that the secondary has been reset.
    obtain ⟨hreset, hfcb⟩ := hack (by simp [hto])
    have htxMode := h.priRole.txMode
    simp only [hp, PriState.isTransmitWait] at htxMode
    have hframe : LinkContext.onFrame { s.pri with outputs := [] }
        (cfg.sec.headerFrame .SEC_ACK cfg.priAddr) now =
        { s.pri with
          lastMessageTimestamp := now
          isRemoteReset := true
          nextWriteFCB := true
          rspTimeoutTimer := false
          txMode := .Primary
          pPriState := .ConfUserDataTransmitWait
          outputs :=
            [.BeginTransmit (cfg.pri.formatPrimaryBufferWithConfirmed
                ⟨cfg.priAddr, cfg.secAddr⟩ segments.current true),
              .OnStateChange .RESET]
          formatted := s.pri.formatted ++
            [cfg.pri.formatPrimaryBufferWithConfirmed ⟨cfg.priAddr, cfg.secAddr⟩
              segments.current true] } := by
      rw [onFrame_pri h.priRole.clear]
      simp [LinkContext.dispatch, LinkLayerConfig.headerFrame, LinkLayerConfig.formatHeader,
        LinkContext.onAck, hp, hseg, LinkContext.cancelTimer, LinkContext.sendConfirmed,
        LinkContext.queueTransmit, LinkContext.format, LinkContext.holds, htxMode,
        h.priRole.pendingPri, LinkContext.emit, LinkContext.priState, h.priRole.config,
        h.priRole.addresses segments hseg, tryStart_of_ne_idle]
    simp only [step, hto, priStep, hframe]
    refine ⟨⟨h.priRole.config, h.priRole.online, h.priRole.pendingPri, h.priRole.pendingSec,
      h.priRole.sec, rfl, h.priRole.addresses⟩, h.secRole, ?_, ?_⟩
    · exact (phase_data (by rfl)).2 ⟨rfl, hreset, segments, hseg,
        Or.inr (Or.inl ⟨by rw [hsec]; rfl, rfl⟩), fun hne => absurd rfl hne⟩
    · refine (List.append_nil s.acked).symm ▸ h.log.congr rfl ?_
      rw [taken_of_agree (by exact hfcb), taken_of_ne_data _ (by simp [hp, PriState.exchange])]

/-- The primary takes the acknowledgement of a segment, and goes on to the next one or to the next
message. The acknowledged segment is one that the secondary has taken. -/
theorem deliverPri_data (hs : s.pri.pPriState.exchange = .data) :
    Inv cfg (s.step (.deliverPri now)) := by
  obtain ⟨hr, hreset, segments, hseg, hf, hack⟩ := (phase_data hs).1 h.phase
  obtain ⟨rfl, rfl, hsec⟩ := hf.response hto
  cases hp : s.pri.pPriState <;> simp [hp, PriState.exchange] at hs
  case ConfUserDataTransmitWait =>
    refine unexpected_inv h now .SEC_ACK hto (by simp [hp]) fun ctx hctx => ?_
    simp [LinkContext.dispatch, LinkLayerConfig.headerFrame, LinkLayerConfig.formatHeader,
      LinkContext.onAck, hctx, hp]
  case ConfDataWait =>
    -- An acknowledgement in flight means that the secondary has taken the segment.
    have hne := hack (by simp [hto])
    have hfcb : s.sec.nextReadFCB = !s.pri.nextWriteFCB := by
      cases hrd : s.sec.nextReadFCB <;> cases hwr : s.pri.nextWriteFCB <;> simp_all
    have htxMode := h.priRole.txMode
    simp only [hp, PriState.isTransmitWait] at htxMode
    obtain ⟨hnum, hacked, htp, done, hsent, hpushed⟩ := h.log
    have htaken : taken s.pri s.sec = [segments.current] := by
      simp [taken, hseg, hp, PriState.exchange, hne]
    rw [htaken] at htp hpushed
    have hcur : ∀ segment ∈ s.acked ++ [segments.current], segment ∈ s.pushed := by
      intro segment hmem
      rcases List.mem_append.1 hmem with hmem | hmem
      · exact hacked segment hmem
      · exact htp segment hmem
    simp only [remaining, hseg] at hsent
    cases hrest : segments.rest with
    -- The last segment: the message is complete.
    | nil =>
      simp only [step, hto]
      refine priStep_start { s.pri with
        lastMessageTimestamp := now
        nextWriteFCB := !s.pri.nextWriteFCB
        rspTimeoutTimer := false
        pSegments := none
        pPriState := .Idle
        outputs := [.Advance segments.current, .OnTxReady] } ?_ ?_ rfl rfl
      · rw [onFrame_pri h.priRole.clear]
        simp [LinkContext.dispatch, LinkLayerConfig.headerFrame, LinkLayerConfig.formatHeader,
          LinkContext.onAck, hp, hseg, hrest, LinkContext.cancelTimer, LinkContext.advance,
          LinkContext.completeSendOperation, LinkContext.emit, LinkContext.priState]
      · refine ⟨⟨h.priRole.config, h.priRole.online, h.priRole.pendingPri, h.priRole.pendingSec,
          h.priRole.sec, htxMode, fun _ hsome => by cases hsome⟩, h.secRole,
          ⟨hsec, rfl, fun _ => ⟨hreset, hfcb⟩⟩,
          ⟨hnum, hcur, by simp [taken], done ++ [segments.current], ?_, ?_⟩⟩
        · simp [hsent, hrest, remaining]
        · simpa [taken] using hpushed
    -- The next segment goes out under the other bit.
    | cons next rest =>
      have hframe : LinkContext.onFrame { s.pri with outputs := [] }
          (cfg.sec.headerFrame .SEC_ACK cfg.priAddr) now =
          { s.pri with
            lastMessageTimestamp := now
            nextWriteFCB := !s.pri.nextWriteFCB
            rspTimeoutTimer := false
            pSegments := some { segments with current := next, rest := rest }
            txMode := .Primary
            pPriState := .ConfUserDataTransmitWait
            outputs :=
              [.Advance segments.current,
                .BeginTransmit (cfg.pri.formatPrimaryBufferWithConfirmed
                  ⟨cfg.priAddr, cfg.secAddr⟩ next !s.pri.nextWriteFCB)]
            formatted := s.pri.formatted ++
              [cfg.pri.formatPrimaryBufferWithConfirmed ⟨cfg.priAddr, cfg.secAddr⟩ next
                !s.pri.nextWriteFCB] } := by
        rw [onFrame_pri h.priRole.clear]
        simp [LinkContext.dispatch, LinkLayerConfig.headerFrame, LinkLayerConfig.formatHeader,
          LinkContext.onAck, hp, hseg, hrest, LinkContext.cancelTimer, LinkContext.advance,
          LinkContext.sendConfirmed, LinkContext.queueTransmit, LinkContext.format,
          LinkContext.holds, htxMode, h.priRole.pendingPri, LinkContext.emit,
          LinkContext.priState, h.priRole.config, h.priRole.addresses segments hseg,
          tryStart_of_ne_idle]
      simp only [step, hto, priStep, hframe]
      refine ⟨⟨h.priRole.config, h.priRole.online, h.priRole.pendingPri, h.priRole.pendingSec,
        h.priRole.sec, rfl, ?_⟩, h.secRole, ?_,
          ⟨hnum, hcur, ?_, done ++ [segments.current], ?_, ?_⟩⟩
      · rintro _ ⟨rfl⟩
        exact h.priRole.addresses segments hseg
      · exact (phase_data (by rfl)).2 ⟨hr, hreset, _, rfl,
          Or.inr (Or.inl ⟨by rw [hsec]; rfl, rfl⟩), fun hne => absurd rfl hne⟩
      · rw [taken_of_agree (by exact hfcb)]
        exact List.forall_mem_nil _
      · simp [hsent, hrest, remaining]
      · rw [taken_of_agree (by exact hfcb)]
        simpa using hpushed

end DeliverPri

/-- The delivery of a frame to the primary keeps the invariant. -/
theorem deliverPri_inv {cfg : ServiceConfig} (s : Service β) (h : Inv cfg s) (now : ℤ) :
    Inv cfg (s.step (.deliverPri now)) := by
  match hto : s.toPri with
  | [] => simpa only [step, hto] using h
  | frame :: toPri =>
    cases hs : s.pri.pPriState.exchange with
    | none => exact absurd ((phase_none hs).1 h.phase).2.1 (by simp [hto])
    | status => exact deliverPri_status h now hto hs
    | reset => exact deliverPri_reset h now hto hs
    | data => exact deliverPri_data h now hto hs
    | unconfirmed =>
      have hphase := h.phase
      simp only [Phase, hs] at hphase

end Service

end OpenDnp3.Link
