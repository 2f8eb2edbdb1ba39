import OpenDnp3.Link.ServiceFrames

/-!
# Exactly-once delivery of the confirmed link service

As long as the primary never gives up a segment that the secondary has already taken, every
acknowledged segment was pushed up exactly once and the pushed segments keep their order. The
invariant relates the frame count bits of the two stations: they differ exactly while the current
segment is taken and not yet acknowledged.
-/

namespace OpenDnp3.Link

namespace Service

variable {β : Type*}

/-! ## Timers and new messages -/

/-- The keep-alive timer keeps the invariant. -/
theorem keepAlive_inv {cfg : ServiceConfig} (s : Service β) (h : Inv cfg s) (now : ℤ) :
    Inv cfg (s.step (.keepAlive now)) := by
  obtain ⟨ts, ka, hctx⟩ : ∃ ts ka, LinkContext.onKeepAliveTimeout { s.pri with outputs := [] } now =
      { s.pri with
        outputs := []
        lastMessageTimestamp := ts
        keepAliveTimeout := ka }.tryStartTransmission := by
    unfold LinkContext.onKeepAliveTimeout
    simp only [h.priRole.online]
    split_ifs
    · simp_all
    · exact ⟨_, _, rfl⟩
    · exact ⟨_, _, rfl⟩
  have hrole : PriRole cfg
      { s.pri with outputs := [], lastMessageTimestamp := ts, keepAliveTimeout := ka } :=
    ⟨h.priRole.config, h.priRole.online, h.priRole.pendingPri, h.priRole.pendingSec,
      h.priRole.sec, h.priRole.txMode, h.priRole.addresses⟩
  have hinv := h.pri_congr hrole rfl rfl rfl rfl
  rw [step]
  by_cases hidle : s.pri.pPriState = .Idle
  · -- Only an idle primary acts on the timer.
    refine priStep_start _ hctx ?_ hidle rfl
    exact (List.append_nil s.acked).symm ▸ hinv
  · rw [tryStart_of_ne_idle _ (by exact hidle)] at hctx
    rw [priStep_quiet _ _ (by rw [hctx]), hctx]
    exact hinv

/-- A message that is given up while nothing of it is taken leaves the history in order. -/
theorem Log.abandon {pri sec pri' : LinkContext (ℕ × β)} {sent acked pushed : List (ℕ × β)}
    (h : Log pri sec sent acked pushed) (ht : taken pri sec = [])
    (hnone : pri'.pSegments = none) : Log pri' sec sent acked pushed := by
  obtain ⟨hnum, hacked, -, done, hsent, hpushed⟩ := h
  have ht' : taken pri' sec = [] := by simp [taken, hnone]
  rw [ht] at hpushed
  refine ⟨hnum, hacked, by simp [ht'], sent, by simp [hnone, remaining], ?_⟩
  rw [ht', List.append_nil, hsent]
  rw [List.append_nil] at hpushed
  exact hpushed.trans (List.sublist_append_left _ _)

section Timeout

variable {cfg : ServiceConfig} {s : Service β} (h : Inv cfg s) (hsec : s.toSec = [])
  (hpri : s.toPri = [])

include h hsec hpri

/-- The primary gives up a message of which the secondary has taken nothing since the last
acknowledgement. -/
theorem giveUp_inv (outputs : List (LinkOutput (ℕ × β)))
    {f : LinkContext (ℕ × β) → LinkContext (ℕ × β)}
    (hf : f { s.pri with outputs := [] } =
      { s.pri with
        rspTimeoutTimer := false
        pSegments := none
        pPriState := .Idle
        outputs := outputs }.tryStartTransmission)
    (hout : transmitted outputs = [] ∧ advanced outputs = [])
    (htxMode : s.pri.txMode = .Idle) (ht : taken s.pri s.sec = [])
    (hagree : s.pri.isRemoteReset = true → s.Agree) : Inv cfg (s.priStep f) := by
  refine priStep_start _ hf ?_ rfl hout.1
  refine ⟨⟨h.priRole.config, h.priRole.online, h.priRole.pendingPri, h.priRole.pendingSec,
    h.priRole.sec, htxMode, nofun⟩, h.secRole, ⟨hsec, hpri, hagree⟩, ?_⟩
  simp only [hout.2, List.append_nil]
  exact h.log.abandon ht rfl

/-- The primary resets the link again. -/
theorem timeout_reset (hp : s.pri.pPriState = .ResetLinkWait)
    (htimer : s.pri.rspTimeoutTimer = true) : Inv cfg (s.priStep (·.onResponseTimeout)) := by
  have hs : s.pri.pPriState.exchange = .reset := by rw [hp]; rfl
  obtain ⟨hf, hr, hseg, hack⟩ := (phase_reset hs).1 h.phase
  have htxMode := h.priRole.txMode
  simp only [hp, PriState.isTransmitWait] at htxMode
  have ht : ∀ sec, taken s.pri sec = [] := fun sec => taken_of_ne_data sec (by simp [hs])
  -- A retry repeats the request, and the last one gives the message up.
  by_cases hretry : 0 < s.pri.numRetryRemaining
  · have hctx : LinkContext.onResponseTimeout { s.pri with outputs := [] } =
        { s.pri with
          rspTimeoutTimer := false
          numRetryRemaining := s.pri.numRetryRemaining - 1
          txMode := .Primary
          pPriState := .LinkResetTransmitWait
          outputs := [.BeginTransmit
            (cfg.pri.headerFrame .PRI_RESET_LINK_STATES cfg.secAddr)]
          formatted := s.pri.formatted ++
            [cfg.pri.headerFrame .PRI_RESET_LINK_STATES cfg.secAddr] } := by
      simp [LinkContext.onResponseTimeout, htimer, LinkContext.cancelTimer, LinkContext.onTimeout,
        hp, hretry, LinkContext.queueResetLinks, LinkContext.queueTransmit, LinkContext.format,
        LinkContext.holds, htxMode, h.priRole.pendingPri, LinkContext.emit, LinkContext.priState,
        h.priRole.config, ServiceConfig.pri, tryStart_of_ne_idle]
    simp only [priStep, hctx]
    refine ⟨⟨h.priRole.config, h.priRole.online, h.priRole.pendingPri, h.priRole.pendingSec,
      h.priRole.sec, rfl, h.priRole.addresses⟩, h.secRole, ?_, ?_⟩
    · exact (phase_reset (by rfl)).2 ⟨Or.inr (Or.inl ⟨by rw [hsec]; rfl, hpri⟩), hr, hseg, hack⟩
    · refine (List.append_nil s.acked).symm ▸ h.log.congr rfl ?_
      rw [ht, taken_of_ne_data _ (by simp [PriState.exchange])]
  · refine giveUp_inv h hsec hpri [.OnTxReady] ?_ ⟨rfl, rfl⟩ htxMode (ht _)
      (by simp [hr])
    simp [LinkContext.onResponseTimeout, htimer, LinkContext.cancelTimer, LinkContext.onTimeout, hp,
      hretry, LinkContext.completeSendOperation, LinkContext.emit, LinkContext.priState]

/-- The primary sends the current segment again, under the same frame count bit. It gives up only
when the secondary has not taken the segment. -/
theorem timeout_data (hp : s.pri.pPriState = .ConfDataWait)
    (htimer : s.pri.rspTimeoutTimer = true)
    (hclean : s.pri.numRetryRemaining = 0 → s.sec.nextReadFCB = s.pri.nextWriteFCB) :
    Inv cfg (s.priStep (·.onResponseTimeout)) := by
  have hs : s.pri.pPriState.exchange = .data := by rw [hp]; rfl
  obtain ⟨hr, hreset, segments, hseg, hf, hack⟩ := (phase_data hs).1 h.phase
  have htxMode := h.priRole.txMode
  simp only [hp, PriState.isTransmitWait] at htxMode
  by_cases hretry : 0 < s.pri.numRetryRemaining
  · -- The same segment again, under the same bit.
    have hctx : LinkContext.onResponseTimeout { s.pri with outputs := [] } =
        { s.pri with
          rspTimeoutTimer := false
          numRetryRemaining := s.pri.numRetryRemaining - 1
          txMode := .Primary
          pPriState := .ConfUserDataTransmitWait
          outputs := [.BeginTransmit (cfg.pri.formatPrimaryBufferWithConfirmed
            ⟨cfg.priAddr, cfg.secAddr⟩ segments.current s.pri.nextWriteFCB)]
          formatted := s.pri.formatted ++
            [cfg.pri.formatPrimaryBufferWithConfirmed ⟨cfg.priAddr, cfg.secAddr⟩
              segments.current s.pri.nextWriteFCB] } := by
      simp [LinkContext.onResponseTimeout, htimer, LinkContext.cancelTimer, LinkContext.onTimeout,
        hp, hretry, hseg, LinkContext.sendConfirmed, LinkContext.queueTransmit,
        LinkContext.format, LinkContext.holds, htxMode, h.priRole.pendingPri, LinkContext.emit,
        LinkContext.priState, h.priRole.config,
        h.priRole.addresses segments hseg, tryStart_of_ne_idle]
    simp only [priStep, hctx]
    refine ⟨⟨h.priRole.config, h.priRole.online, h.priRole.pendingPri, h.priRole.pendingSec,
      h.priRole.sec, rfl, h.priRole.addresses⟩, h.secRole, ?_, ?_⟩
    · exact (phase_data (by rfl)).2 ⟨hr, hreset, segments, hseg,
        Or.inr (Or.inl ⟨by rw [hsec]; rfl, hpri⟩), hack⟩
    · refine (List.append_nil s.acked).symm ▸ h.log.congr rfl ?_
      simp [taken, hp, PriState.exchange]
  · -- Given up: the bits agree, so the abandoned segment was never pushed up.
    have hfcb := hclean (by omega)
    refine giveUp_inv h hsec hpri [.OnStateChange .UNRESET, .OnTxReady] ?_ ⟨rfl, rfl⟩
      htxMode (taken_of_agree hfcb) (fun _ => ⟨hreset, hfcb⟩)
    simp [LinkContext.onResponseTimeout, htimer, LinkContext.cancelTimer, LinkContext.onTimeout, hp,
      hretry, LinkContext.completeSendOperation, LinkContext.emit, LinkContext.priState]

end Timeout

/-- The response timeout keeps the invariant, unless the primary gives up a segment that the
secondary has taken. -/
theorem rspTimeout_inv {cfg : ServiceConfig} (s : Service β) (h : Inv cfg s)
    (hclean : s.GivesUpCleanly .rspTimeout) : Inv cfg (s.step .rspTimeout) := by
  rw [step]
  split_ifs with htimer
  swap
  · exact h
  have hlost := lose_inv s h [] [] (List.nil_sublist _) (List.nil_sublist _)
  have hctx : LinkContext.onResponseTimeout { s.pri with outputs := [] } =
      (LinkContext.cancelTimer { s.pri with outputs := [] }).onTimeout.tryStartTransmission := by
    simp [LinkContext.onResponseTimeout, htimer]
  -- Outside the states that wait for a response, a timer that fires only stops.
  have hquiet : s.pri.pPriState.isTransmitWait = true →
      Inv cfg ({ s with toSec := [], toPri := [] }.priStep (·.onResponseTimeout)) := by
    intro hw
    have hstop : LinkContext.onResponseTimeout { s.pri with outputs := [] } =
        { s.pri with outputs := [], rspTimeoutTimer := false } := by
      rw [hctx]
      cases hp : s.pri.pPriState <;> simp [hp, PriState.isTransmitWait] at hw <;>
        simp [LinkContext.cancelTimer, LinkContext.onTimeout, hp, tryStart_of_ne_idle]
    rw [priStep_quiet _ _ (by rw [hstop]), hstop]
    exact hlost.pri_congr ⟨h.priRole.config, h.priRole.online, h.priRole.pendingPri,
      h.priRole.pendingSec, h.priRole.sec, h.priRole.txMode, h.priRole.addresses⟩ rfl rfl rfl rfl
  cases hp : s.pri.pPriState
  case SendUnconfirmedTransmitWait | LinkResetTransmitWait | ConfUserDataTransmitWait |
      RequestLinkStatusTransmitWait =>
    exact hquiet (by simp [hp, PriState.isTransmitWait])
  case Idle =>
    refine priStep_start { s.pri with outputs := [], rspTimeoutTimer := false } ?_ ?_ hp rfl
    · rw [hctx]
      simp [LinkContext.cancelTimer, LinkContext.onTimeout, hp]
    · refine (List.append_nil s.acked).symm ▸ hlost.pri_congr ⟨h.priRole.config, h.priRole.online,
        h.priRole.pendingPri, h.priRole.pendingSec, h.priRole.sec, h.priRole.txMode,
        h.priRole.addresses⟩ rfl rfl rfl rfl
  case ResetLinkWait => exact timeout_reset hlost rfl rfl hp htimer
  case ConfDataWait =>
    refine timeout_data hlost rfl rfl hp htimer fun hzero => ?_
    by_contra hne
    exact hclean ⟨hp, htimer, hzero, hne⟩
  case RequestLinkStatusWait =>
    have htxMode := h.priRole.txMode
    simp only [hp, PriState.isTransmitWait] at htxMode
    have hs : s.pri.pPriState.exchange = .status := by rw [hp]; rfl
    obtain ⟨-, hagree⟩ := (phase_status hs).1 h.phase
    refine priStep_start { s.pri with
      outputs := [.OnKeepAliveFailure]
      rspTimeoutTimer := false
      pPriState := .Idle } ?_ ?_ rfl rfl
    · rw [hctx]
      simp [LinkContext.cancelTimer, LinkContext.onTimeout, hp, LinkContext.emit,
        LinkContext.priState]
    · refine ⟨⟨h.priRole.config, h.priRole.online, h.priRole.pendingPri, h.priRole.pendingSec,
        h.priRole.sec, htxMode, h.priRole.addresses⟩, h.secRole, ⟨rfl, rfl, hagree⟩, ?_⟩
      refine (List.append_nil s.acked).symm ▸ h.log.congr rfl ?_
      rw [taken_of_ne_data _ (by simp [PriState.exchange]), taken_of_ne_data _ (by simp [hs])]

/-- The numbers of a message go on where those of the earlier ones end. -/
theorem map_fst_number (n : ℕ) (segments : List β) :
    (number n segments).map Prod.fst = (List.range segments.length).map (n + ·) := by
  apply List.ext_getElem <;> simp [number]

/-- A new message keeps the numbering. -/
theorem numbered_append (sent : List (ℕ × β)) (first : β) (rest : List β)
    (h : sent.map Prod.fst = List.range sent.length) :
    (sent ++ (sent.length, first) :: number (sent.length + 1) rest).map Prod.fst =
      List.range (sent ++ (sent.length, first) :: number (sent.length + 1) rest).length := by
  have hcons : (sent.length, first) :: number (sent.length + 1) rest =
      number sent.length (first :: rest) := by
    apply List.ext_getElem
    · simp [number]
    · intro i h1 h2
      cases i with
      | zero => simp [number]
      | succ i => simp [number]; omega
  have hlen : (number sent.length (first :: rest)).length = rest.length + 1 := by simp [number]
  rw [hcons, List.map_append, h, map_fst_number, List.length_append, hlen, List.range_add]
  simp

/-- A new message keeps the invariant. -/
theorem send_inv {cfg : ServiceConfig} (s : Service β) (h : Inv cfg s) (first : β)
    (rest : List β) : Inv cfg (s.step (.send first rest)) := by
  by_cases hnone : s.pri.pSegments.isNone
  swap
  · -- A message is already on its way.
    rwa [step, if_neg hnone]
  have hnone' : s.pri.pSegments = none := Option.isNone_iff_eq_none.1 hnone
  generalize hsegs : TransportSegment.mk ⟨s.pri.config.LocalAddr, s.pri.config.RemoteAddr⟩
    (s.sent.length, first) (number (s.sent.length + 1) rest) = segments
  have haddr : segments.addresses = ⟨cfg.priAddr, cfg.secAddr⟩ := by
    rw [← hsegs, h.priRole.config]
    rfl
  have hlist : (s.sent.length, first) :: number (s.sent.length + 1) rest =
      remaining (some segments) := by
    rw [← hsegs]
    rfl
  have hstep : s.step (.send first rest) =
      { s.priStep (·.send segments) with sent := s.sent ++ remaining (some segments) } := by
    rw [step, if_pos hnone, ← hlist, ← hsegs]
  have hnum := numbered_append s.sent first rest h.log.numbered
  have htaken : taken s.pri s.sec = [] := by simp [taken, hnone']
  have hctx : LinkContext.send { s.pri with outputs := [] } segments =
      { s.pri with outputs := [], pSegments := some segments }.tryStartTransmission := by
    simp [LinkContext.send, h.priRole.online, hnone']
  -- Without a message no data exchange is open.
  have hne : s.pri.pPriState.exchange ≠ .data := by
    intro hs
    obtain ⟨-, -, segments, hseg, -⟩ := (phase_data hs).1 h.phase
    simp [hnone'] at hseg
  have hlog : Log { s.pri with outputs := [], pSegments := some segments } s.sec
      (s.sent ++ remaining (some segments)) s.acked s.pushed := by
    obtain ⟨-, hacked, -, done, hsent, hpushed⟩ := h.log
    have ht : taken { s.pri with outputs := [], pSegments := some segments } s.sec = [] :=
      taken_of_ne_data _ hne
    refine ⟨hlist ▸ hnum, hacked, by simp [ht], s.sent, rfl, ?_⟩
    rw [ht]
    simp only [hnone', remaining, List.append_nil, htaken] at hsent hpushed ⊢
    rwa [hsent]
  have hinv : Inv cfg { s with
      pri := { s.pri with outputs := [], pSegments := some segments }
      sent := s.sent ++ remaining (some segments) } := by
    refine ⟨⟨h.priRole.config, h.priRole.online, h.priRole.pendingPri, h.priRole.pendingSec,
      h.priRole.sec, h.priRole.txMode, ?_⟩, h.secRole, ?_, hlog⟩
    · rintro _ ⟨rfl⟩
      exact haddr
    · cases hs : s.pri.pPriState.exchange with
      | none => exact (phase_none (by exact hs)).2 ((phase_none hs).1 h.phase)
      | status => exact (phase_status (by exact hs)).2 ((phase_status hs).1 h.phase)
      | reset =>
        obtain ⟨-, -, ⟨segments, hseg⟩, -⟩ := (phase_reset hs).1 h.phase
        simp [hnone'] at hseg
      | data => exact absurd hs hne
      | unconfirmed =>
        have hphase := h.phase
        simp only [Phase, hs] at hphase
  rw [hstep]
  by_cases hidle : s.pri.pPriState = .Idle
  · exact priStep_start _ (s := { s with sent := s.sent ++ remaining (some segments) }) hctx
      ((List.append_nil s.acked).symm ▸ hinv) hidle rfl
  · rw [tryStart_of_ne_idle _ (by exact hidle)] at hctx
    rw [priStep_quiet s _ (by rw [hctx]), hctx]
    exact hinv

/-- Every step that gives up cleanly keeps the invariant. -/
theorem step_inv {cfg : ServiceConfig} (s : Service β) (e : ServiceEvent β) (h : Inv cfg s)
    (hclean : s.GivesUpCleanly e) : Inv cfg (s.step e) := by
  cases e with
  | send first rest => exact send_inv s h first rest
  | priTxReady => exact priTxReady_inv s h
  | secTxReady => exact secTxReady_inv s h
  | rspTimeout => exact rspTimeout_inv s h hclean
  | keepAlive now => exact keepAlive_inv s h now
  | deliverSec now => exact deliverSec_inv s h now
  | deliverPri now => exact deliverPri_inv s h now
  | loseSec i => exact lose_inv s h _ _ (List.eraseIdx_sublist _ _) (List.Sublist.refl _)
  | losePri i => exact lose_inv s h _ _ (List.Sublist.refl _) (List.eraseIdx_sublist _ _)

/-- In every run in which the primary never gives up, for want of retries, a segment that the
secondary has already taken, every acknowledged segment was pushed up exactly once, and the pushed
segments stand in the order in which they were sent. -/
theorem run_exactlyOnce [DecidableEq β] (cfg : ServiceConfig) (events : List (ServiceEvent β))
    (h : Machine.StepsMeet step GivesUpCleanly (init cfg) events) :
    (Machine.run step (init cfg) events).ExactlyOnce :=
  (Machine.run_invariant step (fun s e hi hP => step_inv s e hi hP) (init cfg) events
    (init_inv cfg) h).exactlyOnce

/-- A lost acknowledgement that is answered by a retry: the segment is acknowledged and was pushed
up once. -/
theorem run_exactlyOnce_retry :
    let events : List (ServiceEvent ℕ) :=
      [.send 7 [], .priTxReady, .deliverSec 0, .secTxReady, .deliverPri 0, .priTxReady,
        .deliverSec 0, .secTxReady, .losePri 0, .rspTimeout, .priTxReady, .deliverSec 0,
        .secTxReady, .deliverPri 0]
    let cfg : ServiceConfig := ⟨true, 1, 1, 1024, 60000, false, false, true, 0, 60000⟩
    (Machine.run step (init cfg) events).acked = [(0, 7)] ∧
      (Machine.run step (init cfg) events).ExactlyOnce := by
  refine ⟨by decide +kernel, run_exactlyOnce _ _ ?_⟩
  simp only [Machine.StepsMeet, GivesUpCleanly, true_and, and_true]
  decide +kernel

end Service

end OpenDnp3.Link
