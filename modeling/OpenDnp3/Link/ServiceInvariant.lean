import OpenDnp3.Link.Service

/-!
# The invariant of the confirmed link service

The invariant relates the frame count bits of the two stations: they differ exactly while the
current segment is taken and not yet acknowledged. It also ties the frames in flight to what both
stations do: only the request of the primary and the response to it are in flight. `Log` is what it
says of the segments, and `Inv.exactlyOnce` reads the property of the service off. The invariant
holds at the start, and the start of a transmission, a loss and the end of a transmission keep it.
-/

namespace OpenDnp3.Link

/-- What a primary is in the middle of. -/
inductive Exchange where
  | none
  | status
  | reset
  | data
  | unconfirmed
  deriving DecidableEq

/-- The exchange that a state of the primary belongs to. -/
def PriState.exchange : PriState → Exchange
  | .Idle => .none
  | .RequestLinkStatusTransmitWait | .RequestLinkStatusWait => .status
  | .LinkResetTransmitWait | .ResetLinkWait => .reset
  | .ConfUserDataTransmitWait | .ConfDataWait => .data
  | .SendUnconfirmedTransmitWait => .unconfirmed

/-- The states of a secondary that has been reset. -/
def SecState.isReset : SecState → Bool
  | .Reset | .TransmitWaitReset => true
  | _ => false

namespace Service

variable {β : Type*}

/-- The primary does not give up, for want of retries, a segment that the secondary has already
taken: then the frame count bits of the two stations differ. -/
def GivesUpCleanly (s : Service β) : ServiceEvent β → Prop
  | .rspTimeout =>
    ¬ (s.pri.pPriState = .ConfDataWait ∧ s.pri.rspTimeoutTimer = true ∧
      s.pri.numRetryRemaining = 0 ∧ s.sec.nextReadFCB ≠ s.pri.nextWriteFCB)
  | _ => True

/-- At most one frame is on its way: a request to the secondary, or the response to it. -/
def InFlight (s : Service β) (request response : LinkLayerFrame (ℕ × β)) : Prop :=
  (s.toSec = [] ∧ s.toPri = []) ∨ (s.toSec = [request] ∧ s.toPri = []) ∨
    (s.toSec = [] ∧ s.toPri = [response])

/-- The secondary expects the frame count bit that the primary sends next. -/
def Agree (s : Service β) : Prop :=
  s.sec.pSecState.isReset = true ∧ s.sec.nextReadFCB = s.pri.nextWriteFCB

/-- The segments of the message in progress. -/
def remaining : Option (TransportSegment (ℕ × β)) → List (ℕ × β)
  | none => []
  | some segments => segments.current :: segments.rest

/-- The current segment, when the secondary has taken it. -/
def taken (pri sec : LinkContext (ℕ × β)) : List (ℕ × β) :=
  match pri.pSegments with
  | none => []
  | some segments =>
    if pri.pPriState.exchange = .data ∧ sec.nextReadFCB ≠ pri.nextWriteFCB then
      [segments.current]
    else []

/-- The primary keeps to its role, and its transmissions match its state. -/
structure PriRole (cfg : ServiceConfig) (ctx : LinkContext (ℕ × β)) : Prop where
  config : ctx.config = cfg.pri
  online : ctx.isOnline = true
  pendingPri : ctx.pendingPriTx = none
  pendingSec : ctx.pendingSecTx = none
  sec : ctx.pSecState = .NotReset
  txMode : ctx.txMode = if ctx.pPriState.isTransmitWait then .Primary else .Idle
  /-- A message in progress goes to the secondary. -/
  addresses : ∀ segments, ctx.pSegments = some segments →
    segments.addresses = ⟨cfg.priAddr, cfg.secAddr⟩

/-- The secondary keeps to its role, and its transmissions match its state. -/
structure SecRole (cfg : ServiceConfig) (ctx : LinkContext (ℕ × β)) : Prop where
  config : ctx.config = cfg.sec
  online : ctx.isOnline = true
  pendingPri : ctx.pendingPriTx = none
  pendingSec : ctx.pendingSecTx = none
  pri : ctx.pPriState = .Idle
  segments : ctx.pSegments = none
  keepAlive : ctx.keepAliveTimeout = false
  txMode : ctx.txMode = if ctx.pSecState.isTransmitWait then .Secondary else .Idle

/-- What is on its way in each exchange. -/
def Phase (cfg : ServiceConfig) (s : Service β) : Prop :=
  match s.pri.pPriState.exchange with
  | .none => s.toSec = [] ∧ s.toPri = [] ∧ (s.pri.isRemoteReset = true → s.Agree)
  | .status =>
    s.InFlight (cfg.pri.headerFrame .PRI_REQUEST_LINK_STATUS cfg.secAddr)
        (cfg.sec.headerFrame .SEC_LINK_STATUS cfg.priAddr) ∧
      (s.pri.isRemoteReset = true → s.Agree)
  | .reset =>
    s.InFlight (cfg.pri.headerFrame .PRI_RESET_LINK_STATES cfg.secAddr)
        (cfg.sec.headerFrame .SEC_ACK cfg.priAddr) ∧
      s.pri.isRemoteReset = false ∧
      (∃ segments, s.pri.pSegments = some segments) ∧
      (s.toPri ≠ [] → s.sec.pSecState.isReset = true ∧ s.sec.nextReadFCB = true)
  | .data =>
    s.pri.isRemoteReset = true ∧ s.sec.pSecState.isReset = true ∧
      ∃ segments, s.pri.pSegments = some segments ∧
        s.InFlight
          (cfg.pri.formatPrimaryBufferWithConfirmed ⟨cfg.priAddr, cfg.secAddr⟩
            segments.current s.pri.nextWriteFCB)
          (cfg.sec.headerFrame .SEC_ACK cfg.priAddr) ∧
        (s.toPri ≠ [] → s.sec.nextReadFCB ≠ s.pri.nextWriteFCB)
  | .unconfirmed => False

/-- Between two exchanges nothing is in flight, and the frame count bits agree if the link has been
reset. -/
theorem phase_none {cfg : ServiceConfig} {s : Service β} (h : s.pri.pPriState.exchange = .none) :
    s.Phase cfg ↔ s.toSec = [] ∧ s.toPri = [] ∧ (s.pri.isRemoteReset = true → s.Agree) := by
  rw [Phase, h]

/-- While a status is asked for, the request or the response to it is in flight. -/
theorem phase_status {cfg : ServiceConfig} {s : Service β}
    (h : s.pri.pPriState.exchange = .status) :
    s.Phase cfg ↔
      s.InFlight (cfg.pri.headerFrame .PRI_REQUEST_LINK_STATUS cfg.secAddr)
          (cfg.sec.headerFrame .SEC_LINK_STATUS cfg.priAddr) ∧
        (s.pri.isRemoteReset = true → s.Agree) := by
  rw [Phase, h]

/-- While the link is being reset, a message waits for it, and the secondary has been reset if an
acknowledgement is in flight. -/
theorem phase_reset {cfg : ServiceConfig} {s : Service β}
    (h : s.pri.pPriState.exchange = .reset) :
    s.Phase cfg ↔
      s.InFlight (cfg.pri.headerFrame .PRI_RESET_LINK_STATES cfg.secAddr)
          (cfg.sec.headerFrame .SEC_ACK cfg.priAddr) ∧
        s.pri.isRemoteReset = false ∧
        (∃ segments, s.pri.pSegments = some segments) ∧
        (s.toPri ≠ [] → s.sec.pSecState.isReset = true ∧ s.sec.nextReadFCB = true) := by
  rw [Phase, h]

/-- While a segment is out, the secondary has been reset, and the segment or its acknowledgement is
in flight. -/
theorem phase_data {cfg : ServiceConfig} {s : Service β} (h : s.pri.pPriState.exchange = .data) :
    s.Phase cfg ↔
      s.pri.isRemoteReset = true ∧ s.sec.pSecState.isReset = true ∧
        ∃ segments, s.pri.pSegments = some segments ∧
          s.InFlight
            (cfg.pri.formatPrimaryBufferWithConfirmed ⟨cfg.priAddr, cfg.secAddr⟩
              segments.current s.pri.nextWriteFCB)
            (cfg.sec.headerFrame .SEC_ACK cfg.priAddr) ∧
          (s.toPri ≠ [] → s.sec.nextReadFCB ≠ s.pri.nextWriteFCB) := by
  rw [Phase, h]

/-- The history of the service, for the given contexts of the stations. -/
structure Log (pri sec : LinkContext (ℕ × β)) (sent acked pushed : List (ℕ × β)) : Prop where
  /-- The segments are numbered in the order in which they are sent. -/
  numbered : sent.map Prod.fst = List.range sent.length
  /-- An acknowledged segment was pushed up. -/
  acked_pushed : ∀ segment ∈ acked, segment ∈ pushed
  /-- A taken segment was pushed up. -/
  taken_pushed : ∀ segment ∈ taken pri sec, segment ∈ pushed
  /-- What was pushed up was sent before the message in progress, in order, or is taken. -/
  ordered : ∃ done, sent = done ++ remaining pri.pSegments ∧
    pushed.Sublist (done ++ taken pri sec)

/-- Nothing is taken outside the exchange of a segment. -/
theorem taken_of_ne_data {pri : LinkContext (ℕ × β)} (sec : LinkContext (ℕ × β))
    (h : pri.pPriState.exchange ≠ .data) : taken pri sec = [] := by
  unfold taken
  cases pri.pSegments <;> simp [h]

/-- Nothing is taken while the frame count bits agree. -/
theorem taken_of_agree {pri sec : LinkContext (ℕ × β)}
    (h : sec.nextReadFCB = pri.nextWriteFCB) : taken pri sec = [] := by
  unfold taken
  cases pri.pSegments <;> simp [h]

/-- The history only depends on the message in progress and on what is taken of it. -/
theorem Log.congr {pri sec pri' sec' : LinkContext (ℕ × β)} {sent acked pushed : List (ℕ × β)}
    (h : Log pri sec sent acked pushed) (hseg : pri'.pSegments = pri.pSegments)
    (ht : taken pri' sec' = taken pri sec) : Log pri' sec' sent acked pushed :=
  ⟨h.numbered, h.acked_pushed, ht ▸ h.taken_pushed, by rw [hseg, ht]; exact h.ordered⟩

/-- The invariant of the service. -/
structure Inv (cfg : ServiceConfig) (s : Service β) : Prop where
  priRole : PriRole cfg s.pri
  secRole : SecRole cfg s.sec
  phase : s.Phase cfg
  log : Log s.pri s.sec s.sent s.acked s.pushed

/-- The invariant gives exactly-once delivery. -/
theorem Inv.exactlyOnce [DecidableEq β] {cfg : ServiceConfig} {s : Service β} (h : Inv cfg s) :
    s.ExactlyOnce := by
  obtain ⟨done, hsent, hpushed⟩ := h.log.ordered
  have htaken : (taken s.pri s.sec).Sublist (remaining s.pri.pSegments) := by
    unfold taken remaining
    cases s.pri.pSegments with
    | none => exact List.Sublist.refl _
    | some segments => split_ifs <;> simp
  have hsub : s.pushed.Sublist s.sent :=
    hsent ▸ hpushed.trans ((List.append_sublist_append_left done).2 htaken)
  have hnodup : s.sent.Nodup := by
    apply List.Nodup.of_map Prod.fst
    rw [h.log.numbered]
    exact List.nodup_range
  refine ⟨fun segment hmem => ?_, hsub⟩
  exact List.count_eq_one_of_mem (hnodup.sublist hsub) (h.log.acked_pushed segment hmem)

/-- The service starts in the invariant. -/
theorem init_inv (cfg : ServiceConfig) : Inv cfg (init cfg : Service β) where
  priRole := ⟨rfl, rfl, rfl, rfl, rfl, rfl, nofun⟩
  secRole := ⟨rfl, rfl, rfl, rfl, rfl, rfl, rfl, rfl⟩
  phase := ⟨rfl, rfl, nofun⟩
  log := ⟨rfl, nofun, nofun, [], rfl, List.Sublist.refl _⟩

/-! ## Starting a transmission -/

/-- Only an idle primary starts a transmission. -/
theorem tryStart_of_ne_idle {α : Type*} (ctx : LinkContext α) (h : ctx.pPriState ≠ .Idle) :
    ctx.tryStartTransmission = ctx := by
  unfold LinkContext.tryStartTransmission LinkContext.trySendRequestLinkStatus
    LinkContext.trySendConfirmed LinkContext.trySendUnconfirmed
  cases hs : ctx.pPriState <;> simp_all
  all_goals cases ctx.pSegments <;> simp

/-- A station without anything to send starts nothing. -/
theorem tryStart_of_none {α : Type*} (ctx : LinkContext α) (hk : ctx.keepAliveTimeout = false)
    (hs : ctx.pSegments = none) : ctx.tryStartTransmission = ctx := by
  simp [LinkContext.tryStartTransmission, hk, hs]

section Start

variable {α : Type*} (ctx : LinkContext α) (hidle : ctx.pPriState = .Idle)
  (htx : ctx.txMode = .Idle) (hpp : ctx.pendingPriTx = none)

include hidle htx hpp

/-- An idle primary whose keep-alive has run out asks for the link status. -/
theorem tryStart_keepAlive (hk : ctx.keepAliveTimeout = true) :
    ctx.tryStartTransmission =
      { ctx with
        keepAliveTimeout := false
        txMode := .Primary
        pPriState := .RequestLinkStatusTransmitWait
        outputs := ctx.outputs ++
          [.BeginTransmit (ctx.config.headerFrame .PRI_REQUEST_LINK_STATUS ctx.config.RemoteAddr),
            .OnKeepAliveInitiated]
        formatted := ctx.formatted ++
          [ctx.config.headerFrame .PRI_REQUEST_LINK_STATUS ctx.config.RemoteAddr] } := by
  unfold LinkContext.tryStartTransmission LinkContext.trySendRequestLinkStatus
    LinkContext.queueRequestLinkStatus LinkContext.queueTransmit LinkContext.format
    LinkContext.holds
  cases hseg : ctx.pSegments <;>
    simp [hk, hidle, htx, hpp, LinkContext.emit, LinkContext.priState, LinkLayerConfig.headerFrame,
      LinkLayerConfig.formatHeader, LinkContext.trySendConfirmed, LinkContext.trySendUnconfirmed]

variable (hk : ctx.keepAliveTimeout = false) (hc : ctx.config.UseConfirms = true)
  {segments : TransportSegment α} (hseg : ctx.pSegments = some segments)

include hk hc hseg

/-- An idle primary with a message sends its first segment to a secondary that has been reset. -/
theorem tryStart_confirmed (hr : ctx.isRemoteReset = true) :
    ctx.tryStartTransmission =
      { ctx with
        numRetryRemaining := ctx.config.NumRetry
        txMode := .Primary
        pPriState := .ConfUserDataTransmitWait
        outputs := ctx.outputs ++
          [.BeginTransmit (ctx.config.formatPrimaryBufferWithConfirmed segments.addresses
            segments.current ctx.nextWriteFCB)]
        formatted := ctx.formatted ++
          [ctx.config.formatPrimaryBufferWithConfirmed segments.addresses segments.current
            ctx.nextWriteFCB] } := by
  simp [LinkContext.tryStartTransmission, LinkContext.trySendConfirmed, LinkContext.resetRetry,
    LinkContext.sendConfirmed, LinkContext.queueTransmit, LinkContext.format, LinkContext.holds,
    LinkContext.emit, LinkContext.priState, LinkLayerConfig.formatPrimaryBufferWithConfirmed,
    LinkLayerConfig.formatHeader, hidle, htx, hpp, hk, hc, hseg, hr]

/-- An idle primary with a message resets a secondary that has not been reset. -/
theorem tryStart_reset (hr : ctx.isRemoteReset = false) :
    ctx.tryStartTransmission =
      { ctx with
        numRetryRemaining := ctx.config.NumRetry
        txMode := .Primary
        pPriState := .LinkResetTransmitWait
        outputs := ctx.outputs ++
          [.BeginTransmit (ctx.config.headerFrame .PRI_RESET_LINK_STATES
            segments.addresses.destination)]
        formatted := ctx.formatted ++
          [ctx.config.headerFrame .PRI_RESET_LINK_STATES segments.addresses.destination] } := by
  simp [LinkContext.tryStartTransmission, LinkContext.trySendConfirmed, LinkContext.resetRetry,
    LinkContext.queueResetLinks, LinkContext.queueTransmit, LinkContext.format, LinkContext.holds,
    LinkContext.emit, LinkContext.priState, LinkLayerConfig.headerFrame,
    LinkLayerConfig.formatHeader, hidle, htx, hpp, hk, hc, hseg, hr]

end Start

/-- An idle primary may start a transmission: the invariant still holds, and no segment is
acknowledged by it. -/
theorem start_inv {cfg : ServiceConfig} (s : Service β) (h : Inv cfg s)
    (hidle : s.pri.pPriState = .Idle) (htx : transmitted s.pri.outputs = []) :
    Inv cfg
        { s with
          pri := s.pri.tryStartTransmission
          toSec := transmitted s.pri.tryStartTransmission.outputs } ∧
      advanced s.pri.tryStartTransmission.outputs = advanced s.pri.outputs := by
  obtain ⟨⟨hcfg, hon, hpp, hps, hss, htxMode, haddr⟩, hsecRole, hphase, hlog⟩ := h
  simp only [Phase, hidle, PriState.exchange] at hphase
  obtain ⟨hsec, hpri, hagree⟩ := hphase
  have htxIdle : s.pri.txMode = .Idle := by rw [htxMode, hidle]; rfl
  have hc : s.pri.config.UseConfirms = true := by rw [hcfg]; rfl
  have htaken : taken s.pri s.sec = [] := taken_of_ne_data _ (by simp [hidle, PriState.exchange])
  cases hk : s.pri.keepAliveTimeout with
  -- A keep-alive is due, so a link status request goes first.
  | true =>
    rw [tryStart_keepAlive s.pri hidle htxIdle hpp hk, transmitted_append, htx, hcfg]
    refine ⟨⟨⟨rfl, hon, hpp, hps, hss, rfl, haddr⟩, hsecRole, ?_, ?_⟩, by simp [advanced]⟩
    · exact ⟨Or.inr (Or.inl ⟨rfl, hpri⟩), hagree⟩
    · exact hlog.congr rfl ((taken_of_ne_data _ (by simp [PriState.exchange])).trans htaken.symm)
  | false =>
    cases hseg : s.pri.pSegments with
    -- Nothing to send.
    | none =>
      rw [tryStart_of_none s.pri hk hseg, htx]
      refine ⟨⟨⟨hcfg, hon, hpp, hps, hss, htxMode, haddr⟩, hsecRole, ?_, hlog⟩, rfl⟩
      simp only [Phase, hidle, PriState.exchange]
      exact ⟨trivial, hpri, hagree⟩
    | some segments =>
      have hto := haddr segments hseg
      cases hr : s.pri.isRemoteReset with
      | true =>
        -- The remote is reset: the bits agree, so the new segment is not taken yet.
        obtain ⟨hreset, hfcb⟩ := hagree hr
        rw [tryStart_confirmed s.pri hidle htxIdle hpp hk hc hseg hr, transmitted_append, htx, hcfg,
          hto]
        refine ⟨⟨⟨rfl, hon, hpp, hps, hss, rfl, haddr⟩, hsecRole, ?_, ?_⟩, by simp [advanced]⟩
        · exact ⟨hr, hreset, segments, hseg, Or.inr (Or.inl ⟨rfl, hpri⟩),
            fun hne => absurd hpri hne⟩
        · exact hlog.congr rfl (by rw [htaken]; exact taken_of_agree hfcb)
      | false =>
        rw [tryStart_reset s.pri hidle htxIdle hpp hk hc hseg hr, transmitted_append,
          htx, hcfg, hto]
        refine ⟨⟨⟨rfl, hon, hpp, hps, hss, rfl, haddr⟩, hsecRole, ?_, ?_⟩, by simp [advanced]⟩
        · exact ⟨Or.inr (Or.inl ⟨rfl, hpri⟩), hr, ⟨segments, hseg⟩, fun hne => absurd hpri hne⟩
        · exact hlog.congr rfl ((taken_of_ne_data _
            (by simp [PriState.exchange])).trans htaken.symm)

/-! ## Steps that deliver nothing -/

/-- Less is in flight after a loss. -/
theorem InFlight.mono {s s' : Service β} {request response : LinkLayerFrame (ℕ × β)}
    (h : s.InFlight request response) (hsec : s'.toSec.Sublist s.toSec)
    (hpri : s'.toPri.Sublist s.toPri) : s'.InFlight request response := by
  unfold InFlight at *
  rcases h with ⟨h1, h2⟩ | ⟨h1, h2⟩ | ⟨h1, h2⟩ <;> rw [h1] at hsec <;> rw [h2] at hpri <;>
    simp only [List.sublist_nil, List.sublist_singleton] at hsec hpri <;> tauto

/-- A loss keeps the invariant. -/
theorem lose_inv {cfg : ServiceConfig} (s : Service β) (h : Inv cfg s)
    (toSec toPri : List (LinkLayerFrame (ℕ × β))) (hsec : toSec.Sublist s.toSec)
    (hpri : toPri.Sublist s.toPri) : Inv cfg { s with toSec := toSec, toPri := toPri } := by
  have hne : toPri ≠ [] → s.toPri ≠ [] := by
    rintro hne h0
    rw [h0, List.sublist_nil] at hpri
    exact hne hpri
  refine ⟨h.priRole, h.secRole, ?_, h.log⟩
  have hphase := h.phase
  unfold Phase at hphase ⊢
  cases hs : s.pri.pPriState.exchange <;> simp only [hs] at hphase ⊢
  case none =>
    obtain ⟨h1, h2, h3⟩ := hphase
    exact ⟨List.sublist_nil.1 (h1 ▸ hsec), List.sublist_nil.1 (h2 ▸ hpri), h3⟩
  case status => exact ⟨hphase.1.mono hsec hpri, hphase.2⟩
  case reset =>
    obtain ⟨hf, hr, hseg, hack⟩ := hphase
    exact ⟨hf.mono hsec hpri, hr, hseg, fun hn => hack (hne hn)⟩
  case data =>
    obtain ⟨hr, hreset, segments, hseg, hf, hack⟩ := hphase
    exact ⟨hr, hreset, segments, hseg, hf.mono hsec hpri, fun hn => hack (hne hn)⟩

/-- A primary that stays in its exchange keeps the invariant. -/
theorem Inv.pri_congr {cfg : ServiceConfig} {s : Service β} (h : Inv cfg s)
    {ctx : LinkContext (ℕ × β)} (hrole : PriRole cfg ctx)
    (hex : ctx.pPriState.exchange = s.pri.pPriState.exchange)
    (hseg : ctx.pSegments = s.pri.pSegments) (hfcb : ctx.nextWriteFCB = s.pri.nextWriteFCB)
    (hreset : ctx.isRemoteReset = s.pri.isRemoteReset) : Inv cfg { s with pri := ctx } := by
  refine ⟨hrole, h.secRole, ?_, h.log.congr hseg ?_⟩
  · have hphase := h.phase
    unfold Phase Agree at hphase ⊢
    simp only [hex, hseg, hfcb, hreset]
    exact hphase
  · simp only [taken, hex, hseg, hfcb]

/-- A secondary that keeps its frame count bit keeps the invariant. -/
theorem Inv.sec_congr {cfg : ServiceConfig} {s : Service β} (h : Inv cfg s)
    {ctx : LinkContext (ℕ × β)} (hrole : SecRole cfg ctx)
    (hreset : ctx.pSecState.isReset = s.sec.pSecState.isReset)
    (hfcb : ctx.nextReadFCB = s.sec.nextReadFCB) : Inv cfg { s with sec := ctx } := by
  refine ⟨h.priRole, hrole, ?_, h.log.congr rfl ?_⟩
  · have hphase := h.phase
    unfold Phase Agree at hphase ⊢
    simp only [hreset, hfcb]
    exact hphase
  · simp only [taken, hfcb]

/-- A step of the primary without a frame and without an acknowledgement only changes the
primary. -/
theorem priStep_quiet (s : Service β) (f : LinkContext (ℕ × β) → LinkContext (ℕ × β))
    (h : (f { s.pri with outputs := [] }).outputs = []) :
    s.priStep f = { s with pri := f { s.pri with outputs := [] } } := by
  simp [priStep, h, transmitted, advanced]

/-- A step of the secondary without a frame and without a message only changes the secondary. -/
theorem secStep_quiet (s : Service β) (f : LinkContext (ℕ × β) → LinkContext (ℕ × β))
    (h : (f { s.sec with outputs := [] }).outputs = []) :
    s.secStep f = { s with sec := f { s.sec with outputs := [] } } := by
  simp [secStep, h, transmitted, received]

/-- The contexts without their recorded outputs keep their roles. -/
theorem PriRole.clear {cfg : ServiceConfig} {ctx : LinkContext (ℕ × β)} (h : PriRole cfg ctx) :
    PriRole cfg { ctx with outputs := [] } :=
  ⟨h.config, h.online, h.pendingPri, h.pendingSec, h.sec, h.txMode, h.addresses⟩

/-- The contexts without their recorded outputs keep their roles. -/
theorem SecRole.clear {cfg : ServiceConfig} {ctx : LinkContext (ℕ × β)} (h : SecRole cfg ctx) :
    SecRole cfg { ctx with outputs := [] } :=
  ⟨h.config, h.online, h.pendingPri, h.pendingSec, h.pri, h.segments, h.keepAlive, h.txMode⟩

/-- The end of a transmission of the primary starts its response timer. -/
theorem onTxReady_pri {cfg : ServiceConfig} (ctx : LinkContext (ℕ × β)) (h : PriRole cfg ctx)
    (hu : ctx.pPriState.exchange ≠ .unconfirmed) :
    PriRole cfg ctx.onTxReady ∧ ctx.onTxReady.outputs = ctx.outputs ∧
      ctx.onTxReady.pPriState.exchange = ctx.pPriState.exchange ∧
      ctx.onTxReady.pSegments = ctx.pSegments ∧ ctx.onTxReady.nextWriteFCB = ctx.nextWriteFCB ∧
      ctx.onTxReady.isRemoteReset = ctx.isRemoteReset := by
  obtain ⟨hcfg, hon, hpp, hps, hss, htxMode, haddr⟩ := h
  cases hs : ctx.pPriState <;> rw [hs] at htxMode hu <;>
    simp only [PriState.isTransmitWait] at htxMode <;>
    simp [LinkContext.onTxReady, htxMode, LinkContext.tryPendingSecTx, LinkContext.tryPendingPriTx,
      hpp, hps, LinkContext.priOnTxReady, hs, LinkContext.startResponseTimer, LinkContext.priState,
      tryStart_of_ne_idle, PriState.exchange] at hu ⊢
  all_goals constructor <;> simp_all [PriState.isTransmitWait]

/-- The end of a transmission of the secondary changes neither its frame count bit nor whether it
has been reset. -/
theorem onTxReady_sec {cfg : ServiceConfig} (ctx : LinkContext (ℕ × β)) (h : SecRole cfg ctx) :
    SecRole cfg ctx.onTxReady ∧ ctx.onTxReady.outputs = ctx.outputs ∧
      ctx.onTxReady.pSecState.isReset = ctx.pSecState.isReset ∧
      ctx.onTxReady.nextReadFCB = ctx.nextReadFCB := by
  obtain ⟨hcfg, hon, hpp, hps, hpri, hseg, hk, htxMode⟩ := h
  cases hs : ctx.pSecState <;> rw [hs] at htxMode <;>
    simp only [SecState.isTransmitWait] at htxMode <;>
    simp [LinkContext.onTxReady, htxMode, LinkContext.tryPendingSecTx, LinkContext.tryPendingPriTx,
      hpp, hps, LinkContext.secOnTxReady, hs, LinkContext.secState, tryStart_of_none, hk, hseg,
      SecState.isReset]
  all_goals constructor <;> simp_all [SecState.isTransmitWait]

/-- The end of a transmission of the primary keeps the invariant. -/
theorem priTxReady_inv {cfg : ServiceConfig} (s : Service β) (h : Inv cfg s) :
    Inv cfg (s.step .priTxReady) := by
  have hu : s.pri.pPriState.exchange ≠ .unconfirmed := by
    intro hu
    have hphase := h.phase
    simp only [Phase, hu] at hphase
  obtain ⟨hrole, hout, hex, hseg, hfcb, hreset⟩ :=
    onTxReady_pri { s.pri with outputs := [] } h.priRole.clear hu
  rw [step, priStep_quiet s _ hout]
  exact h.pri_congr hrole hex hseg hfcb hreset

/-- The end of a transmission of the secondary keeps the invariant. -/
theorem secTxReady_inv {cfg : ServiceConfig} (s : Service β) (h : Inv cfg s) :
    Inv cfg (s.step .secTxReady) := by
  obtain ⟨hrole, hout, hreset, hfcb⟩ :=
    onTxReady_sec { s.sec with outputs := [] } h.secRole.clear
  rw [step, secStep_quiet s _ hout]
  exact h.sec_congr hrole hreset hfcb

end Service

end OpenDnp3.Link
