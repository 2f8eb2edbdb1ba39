import OpenDnp3.Outstation.ConfirmWait

/-!
# The fragments of a step

A step transmits at most one fragment, and does nothing after it. What a step transmits is therefore
what the last request that it handles, or the unsolicited response at its end, leaves in a transmit
buffer.
-/

namespace OpenDnp3.Outstation.OContext

open App

variable {α : Type*}

/-! ## What is transmitted -/

/-- Output that sends no fragment is no transmission. -/
theorem not_transmit_of_sent {new : List (Output α)}
    (h : ∀ function, ∀ o ∈ new, o.sent function = none) (destination : ℕ)
    (response : APDUResponse α) : .transmit destination response ∉ new := by
  intro hmem
  have hsent := h response.function _ hmem
  simp [Output.sent] at hsent

/-- Quiet output is no transmission. -/
theorem not_transmit_of_isQuiet {new : List (Output α)} (h : ∀ o ∈ new, o.isQuiet)
    (destination : ℕ) (response : APDUResponse α) : .transmit destination response ∉ new :=
  not_transmit_of_sent (fun function o ho => Output.sent_of_isQuiet (h o ho) function) _ _

/-- An event that is no request has quiet output only. -/
theorem Happens.log_eq [MeasurementSpec α] {env : Env α} {event : Event α} {s s' : OContext α}
    (h : Happens env s event s') : ∃ new, s'.log = s.log ++ new ∧ ∀ o ∈ new, o.isQuiet := by
  have hsame : ∃ new, s.log = s.log ++ new ∧ ∀ o ∈ new, o.isQuiet :=
    ⟨[], (List.append_nil _).symm, by simp⟩
  cases h with
  | unacknowledged hnew => exact ⟨_, rfl, hnew⟩
  | down =>
    unfold onLowerLayerDown
    split_ifs <;> exact hsame
  | timedOut _ =>
    unfold onConfirmTimeout
    split <;> exact hsame
  | same => exact hsame
  | online _ => exact hsame
  | transmitted _ _ => exact hsame
  | deferred _ _ _ => exact hsame
  | updated => exact hsame
  | restarted => exact hsame

/-- A request that is answered leaves the response in the transmit buffer. -/
theorem Handles.log_eq {config : EventBufferConfig} {env : Env α} {request : ParsedRequest}
    {s s' : OContext α} (h : Handles config env request s s') :
    ∃ new, s'.log = s.log ++ new ∧ ∀ destination response,
      .transmit destination response ∈ new → s'.isTransmitting = true ∧ response = s'.solTx := by
  -- These leave the log as it is.
  have hsame : ∃ new, s.log = s.log ++ new ∧ ∀ destination response,
      .transmit destination response ∈ new → s'.isTransmitting = true ∧ response = s'.solTx :=
    ⟨[], (List.append_nil _).symm, by simp⟩
  cases h with
  | ignored => exact hsame
  | confirmed _ _ _ => exact hsame
  | confirmedNull _ _ _ => exact hsame
  | confirmedEvents _ _ _ => exact hsame
  | deferred _ _ _ => exact hsame
  | continued _ _ _ hsends _ =>
    obtain ⟨_, _, _, rfl⟩ := hsends.exists_eq
    exact ⟨[_], rfl, by simp⟩
  | read _ _ _ _ hsends _ =>
    obtain ⟨_, _, _, rfl⟩ := hsends.exists_eq
    exact ⟨[_], rfl, by simp⟩
  | nonRead _ _ _ _ hresponds =>
    obtain ⟨_, _, response, ⟨_, _, _, _, _, new, rfl, heffect⟩, rfl, _⟩ := hresponds.exists_eq
    refine ⟨new ++ [.transmit request.addresses.source response], List.append_assoc _ _ _,
      fun destination response' hmem => ?_⟩
    rcases List.mem_append.mp hmem with hmem | hmem
    · -- The handler itself transmits nothing.
      exact absurd hmem (not_transmit_of_sent heffect.sent _ _)
    · obtain ⟨-, rfl⟩ := Output.transmit.inj (List.mem_singleton.mp hmem)
      exact ⟨rfl, rfl⟩
  | repeated _ _ _ _ _ => exact ⟨[_], rfl, by simp⟩

section Steps

variable [MeasurementSpec α]

/-- What holds within a step that began at `s`: the invariant, and after a fragment with this
property the lower layer is busy, so that nothing more is handled or sent. -/
structure Transmits (config : EventBufferConfig) (Q : OContext α → APDUResponse α → Prop)
    (s s' : OContext α) : Prop where
  inv : s'.Inv config
  log : ∃ new, s'.log = s.log ++ new ∧ ∀ destination response,
    .transmit destination response ∈ new → s'.isTransmitting = true ∧ Q s' response

/-- The rule for what a step transmits: it is shown for the state after the request that is
answered, and for the state after an unsolicited response. -/
theorem step_transmits {config : EventBufferConfig} {env : Env α} {event : Event α}
    {s : OContext α} (h : s.Inv config) {Q : OContext α → APDUResponse α → Prop}
    (hhandles : ∀ s₁ request s₂, Processes env event s s₁ request → s₁.Inv config →
      s₁.isTransmitting = false → Handles config env request s₁ s₂ → s₂.isTransmitting = true →
      Q s₂ s₂.solTx)
    (hdeferred : ∀ s₁ response, Q s₁ response → Q { s₁ with deferred := none } response)
    (hunsolicits : ∀ s₁ s₂, s₁.Inv config → Unsolicits config s₁ s₂ → Q s₂ s₂.unsolTx) :
    ∃ new, (s.step (env, event)).log = s.log ++ new ∧ ∀ destination response,
      .transmit destination response ∈ new → Q (s.step (env, event)) response := by
  -- At most one response is transmitted in a step, as each transmission finds the lower layer free.
  have hstep : Transmits config Q s (s.step (env, event)) := by
    refine step_induction (P := Transmits config Q s) (fun _ hP => hP.inv.storage)
      ⟨h, [], (List.append_nil _).symm, by simp⟩ ?_ ?_ ?_ ?_
    · intro s' hhappens
      obtain ⟨new, hlog, hquiet⟩ := hhappens.log_eq
      exact ⟨hhappens.inv h, new, hlog, fun destination response hmem =>
        absurd hmem (not_transmit_of_isQuiet hquiet _ _)⟩
    · rintro s₁ request s₂ hprocesses ⟨hinv, new, hlog, hnew⟩ hhandled
      have hfree := isTransmitting_of_canTransmit hprocesses.free
      obtain ⟨new', hlog', hnew'⟩ := hhandled.log_eq
      refine ⟨hhandled.inv hinv, new ++ new', by rw [hlog', hlog, List.append_assoc],
        fun destination response hmem => ?_⟩
      rcases List.mem_append.mp hmem with hmem | hmem
      · rw [(hnew _ _ hmem).1] at hfree
        cases hfree
      · obtain ⟨htransmitting, rfl⟩ := hnew' _ _ hmem
        exact ⟨htransmitting, hhandles s₁ request s₂ hprocesses hinv hfree hhandled htransmitting⟩
    · rintro s₁ ⟨hinv, new, hlog, hnew⟩
      exact ⟨⟨hinv.storage, hinv.timer, hinv.response, hinv.solicited, hinv.unsolicited⟩, new, hlog,
        fun destination response hmem => ⟨(hnew _ _ hmem).1, hdeferred _ _ (hnew _ _ hmem).2⟩⟩
    · rintro s₁ s₂ ⟨hinv, new, hlog, hnew⟩ hunsolicited
      have hfree := isTransmitting_of_canTransmit hunsolicited.free
      have hQ := hunsolicits s₁ s₂ hinv hunsolicited
      have hinv' := hunsolicited.inv hinv
      obtain ⟨b, response, rfl, -⟩ := hunsolicited.exists_eq
      refine ⟨hinv', new ++ [.transmit s₁.addresses.destination response],
        by rw [← List.append_assoc, ← hlog], fun destination response' hmem => ?_⟩
      rcases List.mem_append.mp hmem with hmem | hmem
      · rw [(hnew _ _ hmem).1] at hfree
        cases hfree
      · obtain ⟨-, rfl⟩ := Output.transmit.inj (List.mem_singleton.mp hmem)
        exact ⟨rfl, hQ⟩
  obtain ⟨-, new, hlog, hnew⟩ := hstep
  exact ⟨new, hlog, fun destination response hmem => (hnew destination response hmem).2⟩

/-! ## Fragments that ask for a confirm -/

omit [MeasurementSpec α] in
/-- The outstation waits for the confirm of this fragment, and the timer runs. -/
def Awaits (s : OContext α) (response : APDUResponse α) : Prop :=
  s.confirmTimer = true ∧
    (response.function = .RESPONSE ∧ s.state = .SolicitedConfirmWait ∧
        s.solSeq.confirmNum = response.control.seq ∨
      response.function = .UNSOLICITED_RESPONSE ∧ s.state = .UnsolicitedConfirmWait ∧
        s.unsolSeq.confirmNum = response.control.seq)

/-- The step handles, in the idle state, a read that repeats the last request, whose response asks
for a confirm. -/
def RepeatsWhileIdle (env : Env α) (event : Event α) (s : OContext α) : Prop :=
  ∃ s₁ request, Processes env event s s₁ request ∧ request.header.function = .READ ∧
    request.header.control.uns = false ∧ s₁.state = .Idle ∧ s₁.isRepeat request = true ∧
    s₁.solTx.control.con = true

omit [MeasurementSpec α] in
/-- The confirm that is awaited is that of the solicited response. -/
theorem Inv.awaits_solTx {config : EventBufferConfig} {s : OContext α} (h : s.Inv config)
    (hstate : s.state = .SolicitedConfirmWait) : s.Awaits s.solTx := by
  obtain ⟨-, hfunction, -, hseq, -⟩ := h.solicited hstate
  exact ⟨h.timer.mpr (by simp [hstate]), .inl ⟨hfunction, hstate, hseq.symm⟩⟩

omit [MeasurementSpec α] in
/-- A response that asks for a confirm leaves the outstation waiting, but for the one that repeats
the response to a read in the idle state. -/
theorem Handles.awaits {config : EventBufferConfig} {env : Env α} {request : ParsedRequest}
    {s s' : OContext α} (hhandles : Handles config env request s s') (h : s.Inv config)
    (hfree : s.isTransmitting = false) (hbusy : s'.isTransmitting = true)
    (hcon : s'.solTx.control.con = true) :
    s'.Awaits s'.solTx ∨
      request.header.function = .READ ∧ request.header.control.uns = false ∧ s.state = .Idle ∧
        s.isRepeat request = true ∧ s.solTx.control.con = true := by
  have hinv := hhandles.inv h
  cases hhandles with
  | ignored => rw [hfree] at hbusy; cases hbusy
  | confirmed _ _ _ => exact absurd (hfree.symm.trans hbusy) (by decide)
  | confirmedNull _ _ _ => exact absurd (hfree.symm.trans hbusy) (by decide)
  | confirmedEvents _ _ _ => exact absurd (hfree.symm.trans hbusy) (by decide)
  | deferred _ _ _ => exact absurd (hfree.symm.trans hbusy) (by decide)
  | continued _ _ _ hsends _ =>
    left
    refine hinv.awaits_solTx ?_
    obtain ⟨_, _, _, rfl⟩ := hsends.exists_eq
    exact if_pos hcon
  | read _ _ _ _ hsends _ =>
    left
    refine hinv.awaits_solTx ?_
    obtain ⟨_, _, _, rfl⟩ := hsends.exists_eq
    exact if_pos hcon
  | nonRead _ _ _ _ hresponds =>
    obtain ⟨_, _, response, -, rfl, hcontrol, -⟩ := hresponds.exists_eq
    rw [hcontrol] at hcon
    cases hcon
  | repeated huns hrepeat _ hstate _ =>
    obtain ⟨hlast, hfunction⟩ := isRepeat_function hrepeat
    -- Only the response to a read asks for a confirm.
    have hread : request.header.function = .READ := by
      by_contra hne
      rw [hfunction] at hne
      have hnone := (h.response hlast).2.2 hne
      rw [show s.solTx.control.con = true from hcon] at hnone
      cases hnone
    by_cases hs : s.state = .SolicitedConfirmWait
    · exact .inl (hinv.awaits_solTx hs)
    · refine .inr ⟨hread, huns, ?_, hrepeat, hcon⟩
      have hunsolicited := hstate hread
      cases hcase : s.state <;> simp_all

omit [MeasurementSpec α] in
/-- The confirm that is awaited is that of the unsolicited response. -/
theorem Unsolicits.awaits {config : EventBufferConfig} {s s' : OContext α}
    (h : Unsolicits config s s') : s'.Awaits s'.unsolTx := by
  obtain ⟨b, response, rfl, hfunction, hcontrol, -⟩ := h.exists_eq
  exact ⟨rfl, .inr ⟨hfunction, rfl, by rw [hcontrol]⟩⟩

/-- A READ that is repeated in the idle state is answered with the last response. -/
theorem handle_repeatsWhileIdle (env : Env α) {s : OContext α} {request : ParsedRequest}
    (hfunction : request.header.function = .READ) (huns : request.header.control.uns = false)
    (hstate : s.state = .Idle) (hrepeat : s.isRepeat request = true) :
    s.handle env request = s.repeatResponse request := by
  simp [handle, hfunction, processRequest, huns, onReceiveSolRequest, hrepeat, onRepeatReadRequest,
    hstate]

/-- A step handles its requests without having sent anything before them. -/
theorem Processes.log_eq {config : EventBufferConfig} {env : Env α} {event : Event α}
    {s s₁ : OContext α} {request : ParsedRequest} (h : s.Inv config)
    (hprocesses : Processes env event s s₁ request) :
    ∃ new, s₁.log = s.log ++ new ∧
      ∀ destination response, .transmit destination response ∉ new := by
  cases hprocesses with
  | received _ _ _ _ => exact ⟨[], (List.append_nil _).symm, by simp⟩
  | dequeued _ hfree _ _ =>
    have hfree' := isTransmitting_of_canTransmit hfree
    revert hfree'
    refine arrive_induction (P := fun s' => s'.isTransmitting = false →
      ∃ new, s'.log = s.log ++ new ∧
        ∀ destination response, .transmit destination response ∉ new) h.storage ?_ ?_
    · intro s' hhappens _
      obtain ⟨new, hlog, hquiet⟩ := hhappens.log_eq
      exact ⟨new, hlog, not_transmit_of_isQuiet hquiet⟩
    · intro request s₂ _ hhandles hfree'
      obtain ⟨new, hlog, hnew⟩ := hhandles.log_eq
      refine ⟨new, hlog, fun destination response hmem => ?_⟩
      rw [(hnew _ _ hmem).1] at hfree'
      cases hfree'

/-- After a step the outstation waits for the confirm of every fragment that asks for one, unless
the step repeats the response to a read in the idle state. -/
theorem run_awaits_iff (addresses : Addresses) (config : EventBufferConfig)
    (params : OutstationParams) (database : DatabaseBuffers α) (inputs : List (Env α × Event α))
    (env : Env α) (event : Event α) :
    let s := Machine.run step (init addresses config params database) inputs
    let s' := s.step (env, event)
    (∀ destination response, .transmit destination response ∈ s'.log.drop s.log.length →
      response.control.con = true → s'.Awaits response) ↔ ¬RepeatsWhileIdle env event s := by
  intro s s'
  have h : s.Inv config := run_inv addresses config params database inputs
  constructor
  · -- The repeated response asks for a confirm that an idle outstation does not wait for.
    rintro hawaits ⟨s₁, request, hprocesses, hfunction, huns, hstate, hrepeat, hcon⟩
    have heq := handle_repeatsWhileIdle env hfunction huns hstate hrepeat
    obtain ⟨deferred, hstep⟩ := hprocesses.step_of_busy (by rw [heq]; rfl)
    obtain ⟨new, hlog, -⟩ := hprocesses.log_eq h
    have hlog' : s'.log = s.log ++ (new ++ [.transmit request.addresses.source s₁.solTx]) := by
      rw [show s' = _ from hstep, heq, ← List.append_assoc, ← hlog]
      rfl
    -- The repeated response has gone out, but the outstation stays idle.
    have hidle : s'.state = .Idle := by
      rw [show s' = _ from hstep, heq]
      exact hstate
    have hwaits := hawaits request.addresses.source s₁.solTx (by rw [hlog']; simp) hcon
    obtain ⟨-, ⟨-, hwait, -⟩ | ⟨-, hwait, -⟩⟩ := hwaits
    · rw [hidle] at hwait
      cases hwait
    · rw [hidle] at hwait
      cases hwait
  · -- Every other transmission of the step leaves the outstation waiting.
    intro hrepeats
    obtain ⟨new, hlog, hnew⟩ := @step_transmits α _ config env event s h
      (fun s' response => response.control.con = true → s'.Awaits response)
      (fun s₁ request s₂ hprocesses hinv hfree hhandles hbusy hcon =>
        (hhandles.awaits hinv hfree hbusy hcon).resolve_right fun hrepeat =>
          hrepeats ⟨s₁, request, hprocesses, hrepeat⟩)
      (fun _ _ hawaits => hawaits) (fun _ _ _ hunsolicits _ => hunsolicits.awaits)
    intro destination response hmem
    rw [show s'.log = s.log ++ new from hlog, List.drop_left] at hmem
    exact hnew destination response hmem

/-- The response to a read is sent again after the timeout of its confirm. -/
theorem not_awaited_repeat :
    let s := sample {} [.lowerLayerUp, binaryEvent, fromMaster [0xC0, 0x01, 60, 2, 0x06], .txReady,
      .confirmTimeout]
    let s' := s.step ({}, fromMaster [0xC0, 0x01, 60, 2, 0x06])
    ¬∀ destination response, .transmit destination response ∈ s'.log.drop s.log.length →
      response.control.con = true → s'.Awaits response := by
  intro s s' hawaits
  have hmem : .transmit 1 s.solTx ∈ s'.log.drop s.log.length := by decide +kernel
  have hidle : s'.state = .Idle := by decide +kernel
  obtain ⟨-, ⟨-, hstate, -⟩ | ⟨-, hstate, -⟩⟩ := hawaits 1 s.solTx hmem (by decide +kernel)
  · rw [hidle] at hstate
    cases hstate
  · rw [hidle] at hstate
    cases hstate

/-! ## Responses of several fragments -/

omit [MeasurementSpec α] in
/-- A confirm leaves what is still selected. -/
theorem hasSelection_confirm (s : OContext α) : s.confirm.hasSelection = s.hasSelection := by
  show (s.database.hasAnySelection || decide (0 < s.eventBuffer.storage.clearWritten.numSelected)) =
    _
  rw [EventLists.clearWritten_numSelected]
  rfl

/-- The outstation waits for this confirm, and something is still selected for a next fragment. -/
structure ContinuesOn (request : ParsedRequest) (s : OContext α) : Prop where
  state : s.state = .SolicitedConfirmWait
  isMatch : Matches request s
  selection : s.hasSelection = true
  count : s.fragmentCount ≠ 0

omit [MeasurementSpec α] in
/-- A fragment that is not the first one of its response follows a confirm, where something is still
selected. -/
theorem Handles.fir {config : EventBufferConfig} {env : Env α} {request : ParsedRequest}
    {s s' : OContext α} (hhandles : Handles config env request s s') (h : s.Inv config)
    (hfree : s.isTransmitting = false) (hbusy : s'.isTransmitting = true)
    (hfir : s'.solTx.control.fir = false) : ContinuesOn request s := by
  cases hhandles with
  -- Of the cases that transmit, only `continued` does not begin a response.
  | ignored => rw [hfree] at hbusy; cases hbusy
  | confirmed _ _ _ => exact absurd (hfree.symm.trans hbusy) (by decide)
  | confirmedNull _ _ _ => exact absurd (hfree.symm.trans hbusy) (by decide)
  | confirmedEvents _ _ _ => exact absurd (hfree.symm.trans hbusy) (by decide)
  | deferred _ _ _ => exact absurd (hfree.symm.trans hbusy) (by decide)
  | continued hmatches hstate hselection hsends hcount =>
    obtain ⟨_, _, _, rfl⟩ := hsends.exists_eq
    rw [show _ = false from hfir] at hcount
    exact ⟨hstate, hmatches, hasSelection_confirm s ▸ hselection,
      of_decide_eq_false hcount.symm⟩
  | read _ _ _ _ hsends hfirst =>
    obtain ⟨_, _, _, rfl⟩ := hsends.exists_eq
    rw [hfirst] at hfir
    cases hfir
  | nonRead _ _ _ _ hresponds =>
    obtain ⟨_, _, response, -, rfl, hcontrol, -⟩ := hresponds.exists_eq
    rw [hcontrol] at hfir
    cases hfir
  | repeated _ hrepeat _ _ _ =>
    have hfirst := (h.response (isRepeat_function hrepeat).1).2.1
    rw [show s.solTx.control.fir = false from hfir] at hfirst
    cases hfirst

omit [MeasurementSpec α] in
/-- The confirm of a solicited response has its sequence number. -/
theorem Matches.solicited {s : OContext α} {request : ParsedRequest} (h : Matches request s)
    (hstate : s.state = .SolicitedConfirmWait) :
    request.header.control.uns = false ∧ s.solSeq.confirmNum = request.header.control.seq := by
  obtain ⟨-, huns, hseq⟩ | ⟨hunsolicited, -⟩ := h.waits
  · exact ⟨huns, hseq⟩
  · rw [hstate] at hunsolicited
    cases hunsolicited

/-- The confirm of a solicited fragment. -/
theorem handle_confirm (env : Env α) {s : OContext α} {request : ParsedRequest}
    (h : Matches request s) (hstate : s.state = .SolicitedConfirmWait) :
    s.handle env request =
      if s.hasSelection then
        s.confirm.continueMultiFragResponse env request.addresses
          (nextSeq request.header.control.seq)
      else { s.confirm with state := .Idle } := by
  obtain ⟨huns, hseq⟩ := h.solicited hstate
  have hmatch : ¬(request.header.control.uns = true ∨
      s.solSeq.confirmNum ≠ request.header.control.seq) := by simp [huns, hseq]
  rw [← hasSelection_confirm, handle, if_pos h.function]
  unfold onConfirm
  split
  case h_2 =>
    dsimp only
    rw [if_neg hmatch, confirm]
  all_goals
    rename_i hother
    rw [hstate] at hother
    cases hother

/-- A step handles no more than one confirm that the outstation waits for. -/
theorem Processes.unique_of_waiting {env : Env α} {event : Event α} {s s₁ s₂ : OContext α}
    {request request' : ParsedRequest} {config : EventBufferConfig} (h : s.Inv config)
    (h₁ : Processes env event s s₁ request) (hstate₁ : s₁.state = .SolicitedConfirmWait)
    (hmatches₁ : Matches request s₁) (h₂ : Processes env event s s₂ request')
    (hstate₂ : s₂.state = .SolicitedConfirmWait) (hmatches₂ : Matches request' s₂) :
    s₁ = s₂ := by
  -- After the confirm the outstation is idle, or busy with the next fragment.
  have hafter : ∀ {request}, Matches request s → s.state = .SolicitedConfirmWait →
      (s.handle env request).canTransmit = true →
      (s.handle env request).state ≠ .SolicitedConfirmWait := by
    intro request hmatches hstate hfree hwaits
    have hidle := isTransmitting_of_canTransmit hfree
    rw [handle_confirm env hmatches hstate] at hidle hwaits
    split_ifs at hidle hwaits
    obtain ⟨response, hsends, -⟩ := continueMultiFragResponse_spec (s := s.confirm) env
      request.addresses (nextSeq request.header.control.seq)
      (EventLists.clearWritten_inv h.storage) (EventLists.clearWritten_writtenIds _)
    obtain ⟨_, _, _, heq⟩ := hsends.exists_eq
    rw [heq] at hidle
    cases hidle
  cases h₁ with
  | received hevent hfree hparse hack =>
    cases h₂ with
    | received _ _ _ _ => rfl
    | dequeued _ hfree' _ _ =>
      subst hevent
      rw [arrive_received hfree hparse hack] at hfree' hstate₂
      exact absurd hstate₂ (hafter hmatches₁ hstate₁ hfree')
  | dequeued _ hfree' _ _ =>
    cases h₂ with
    | received hevent hfree hparse hack =>
      subst hevent
      rw [arrive_received hfree hparse hack] at hfree' hstate₁
      exact absurd hstate₁ (hafter hmatches₂ hstate₂ hfree')
    | dequeued _ _ _ _ => rfl

/-- The confirm of a fragment that is not the last one of its response is answered with the next
fragment exactly where something is still selected, and the number of fragments has not come round
to 0. -/
theorem run_continues_iff (addresses : Addresses) (config : EventBufferConfig)
    (params : OutstationParams) (database : DatabaseBuffers α) (inputs : List (Env α × Event α))
    (env : Env α) (event : Event α) {s₁ : OContext α} {request : ParsedRequest}
    {last : APDUResponse α}
    (hprocesses : Processes env event
      (Machine.run step (init addresses config params database) inputs) s₁ request)
    (hfunction : request.header.function = .CONFIRM)
    (hstate : s₁.state = .SolicitedConfirmWait)
    (hlast : lastSent .RESPONSE s₁.log = some last)
    (hseq : request.header.control.uns = false ∧
      request.header.control.seq = last.control.seq) (hfin : last.control.fin = false) :
    let s := Machine.run step (init addresses config params database) inputs
    (∃ destination response,
      .transmit destination response ∈ (s.step (env, event)).log.drop s.log.length ∧
        response.function = .RESPONSE ∧
        response.control.seq = nextSeq request.header.control.seq ∧
        response.control.fir = false) ↔
      s₁.hasSelection = true ∧ s₁.fragmentCount ≠ 0 := by
  intro s
  have h : s.Inv config := run_inv addresses config params database inputs
  have h₁ : s₁.Inv config := hprocesses.inv h
  -- The last fragment is the one that the outstation waits for, so the confirm matches.
  have hmatches : Matches request s₁ := by
    obtain ⟨-, -, -, hnum, hsent, -⟩ := h₁.solicited hstate
    rw [hlast] at hsent
    obtain rfl := Option.some.inj hsent
    exact ⟨hfunction, .inl ⟨hstate, hseq.1, hnum.symm.trans hseq.2.symm⟩⟩
  constructor
  · -- A fragment without FIR comes from a confirm that matches, and a step has one of these.
    rintro ⟨destination, response, hmem, -, -, hfir⟩
    obtain ⟨new, hlog, hnew⟩ := @step_transmits α _ config env event s h
      (fun _ response => response.control.fir = false → ∃ s₂ request',
        Processes env event s s₂ request' ∧ ContinuesOn request' s₂)
      (fun s₂ request' _ hprocesses' hinv hfree hhandles hbusy hfir =>
        ⟨s₂, request', hprocesses', hhandles.fir hinv hfree hbusy hfir⟩)
      (fun _ _ hQ => hQ) (fun _ _ _ hunsolicits hfir => by
        obtain ⟨b, response, rfl, -, hcontrol, -⟩ := hunsolicits.exists_eq
        rw [hcontrol] at hfir
        cases hfir)
    rw [hlog, List.drop_left] at hmem
    obtain ⟨s₂, request', hprocesses', hcontinues⟩ := hnew destination response hmem hfir
    obtain rfl := hprocesses.unique_of_waiting h hstate hmatches hprocesses' hcontinues.state
      hcontinues.isMatch
    exact ⟨hcontinues.selection, hcontinues.count⟩
  · -- The confirm is handled at once, and the next fragment goes out.
    rintro ⟨hselection, hcount⟩
    obtain ⟨response, hsends, hfir⟩ := continueMultiFragResponse_spec (s := s₁.confirm) env
      request.addresses (nextSeq request.header.control.seq)
      (EventLists.clearWritten_inv h₁.storage) (EventLists.clearWritten_writtenIds _)
    have heq := handle_confirm env hmatches hstate
    rw [if_pos hselection] at heq
    rw [← heq] at hsends
    have hseq' := hsends.seq_eq
    have hresponse := hsends.function
    obtain ⟨count, b, db, hhandle⟩ := hsends.exists_eq
    obtain ⟨deferred, hstep⟩ := hprocesses.step_of_busy (by rw [hhandle])
    obtain ⟨new, hlog, -⟩ := hprocesses.log_eq h
    have hlog' : (s.step (env, event)).log =
        s.log ++ (new ++ [.transmit request.addresses.source response]) := by
      rw [hstep, hhandle, ← List.append_assoc, ← hlog]
      rfl
    refine ⟨request.addresses.source, response, by rw [hlog']; simp, hresponse, hseq', ?_⟩
    rw [hfir]
    exact decide_eq_false hcount

/-- The first of two events goes out, its confirm brings the second one. -/
theorem run_continues_iff_twoEvents :
    let s := sample { maxTxFragSize := 20 } [.lowerLayerUp, binaryEvent, binaryEvent,
      fromMaster [0xC0, 0x01, 60, 2, 0x06], .txReady]
    ∃ destination response, .transmit destination response ∈
        (s.step ({}, fromMaster [0xC0, 0x00])).log.drop s.log.length ∧
      response.function = .RESPONSE ∧ response.control.seq = nextSeq 0 ∧
      response.control.fir = false := by
  intro s
  have hprocesses : Processes {} (fromMaster [0xC0, 0x00]) s s
      { addresses := { source := 1, destination := 10 }
        header := { function := .CONFIRM }
        objects := [] } :=
    .received rfl (by decide +kernel) (by decide +kernel) rfl
  exact (run_continues_iff _ _ _ _ _ _ _ hprocesses rfl (by decide +kernel)
    (Option.some_get (by decide +kernel : (lastSent .RESPONSE s.log).isSome)).symm
    ⟨rfl, by decide +kernel⟩ (by decide +kernel)).mpr ⟨by decide +kernel, by decide +kernel⟩

/-- Two more events push the two events out of the buffer before the confirm, and no further
fragment follows it. -/
theorem not_continued_after_overflow :
    let s := sample { maxTxFragSize := 20 } [.lowerLayerUp, binaryEvent, binaryEvent,
      fromMaster [0xC0, 0x01, 60, 2, 0x06], .txReady, binaryEvent, binaryEvent]
    let s' := s.step ({}, fromMaster [0xC0, 0x00])
    s.state = .SolicitedConfirmWait ∧
      (lastSent .RESPONSE s.log).map APDUResponse.control =
        some { fir := true, fin := false, con := true, uns := false, seq := 0 } ∧
      s'.state = .Idle ∧ s'.log = s.log := by
  decide +kernel

end Steps

end OpenDnp3.Outstation.OContext
