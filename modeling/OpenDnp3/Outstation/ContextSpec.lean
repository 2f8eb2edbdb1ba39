import OpenDnp3.Outstation.ResponseSpec

/-!
# What a step of the outstation does

A step has three phases: the event itself, the deferred request, and an unsolicited response. In the
first two a request may be handled (`Processes`). `Handles` lists what the outstation does with a
request, and `step_induction` is the rule for whatever holds in the course of a step.
-/

namespace OpenDnp3.Outstation.OContext

open App CommandResponseHandler

variable {α : Type*}

/-! ## Handling a request -/

section Handling

variable [MeasurementSpec α]

/-- A request is handled: the two branches of `ProcessObjects` and `ProcessDeferredRequest` that
need the lower layer to be free. -/
def handle (env : Env α) (request : ParsedRequest) (s : OContext α) : OContext α :=
  if request.header.function = .CONFIRM then s.onConfirm env request
  else s.processRequest env request

omit [MeasurementSpec α] in
/-- A matching confirm has come: any request is a new one, and the written events are gone. -/
def confirm (s : OContext α) : OContext α :=
  { s with
    history := s.history.reset
    confirmTimer := false
    eventBuffer := s.eventBuffer.clearWritten }

omit [MeasurementSpec α] in
/-- The confirm is the one that the outstation waits for. -/
structure Matches (request : ParsedRequest) (s : OContext α) : Prop where
  function : request.header.function = .CONFIRM
  waits : s.state = .SolicitedConfirmWait ∧ request.header.control.uns = false ∧
      s.solSeq.confirmNum = request.header.control.seq ∨
    s.state = .UnsolicitedConfirmWait ∧ request.header.control.uns = true ∧
      s.unsolSeq.confirmNum = request.header.control.seq

omit [MeasurementSpec α] in
/-- A new request is recorded. A request that comes in place of a confirm ends the wait for it. -/
def record (request : ParsedRequest) (s : OContext α) : OContext α :=
  { s with
    solSeq := { s.solSeq with num := request.header.control.seq }
    history := .recordLastProcessedRequest request.header request.objects
    confirmTimer := s.confirmTimer && s.state ≠ .SolicitedConfirmWait
    deferred := if s.state = .UnsolicitedConfirmWait then none else s.deferred
    state := if s.state = .UnsolicitedConfirmWait then s.state else .Idle }

/-- What the outstation does with a request. -/
inductive Handles (config : EventBufferConfig) (env : Env α) (request : ParsedRequest)
    (s : OContext α) : OContext α → Prop where
  /-- A confirm that nothing waits for, or a request with the UNS bit. -/
  | ignored (hignored : request.header.function = .CONFIRM ∧ ¬Matches request s ∨
        request.header.function ≠ .CONFIRM ∧ request.header.control.uns = true) :
      Handles config env request s s
  | confirmed (hmatches : Matches request s) (hstate : s.state = .SolicitedConfirmWait)
      (hselection : s.confirm.hasSelection = false) :
      Handles config env request s { s.confirm with state := .Idle }
  | continued {s' : OContext α} {response : APDUResponse α} (hmatches : Matches request s)
      (hstate : s.state = .SolicitedConfirmWait) (hselection : s.confirm.hasSelection = true)
      (hsends : Sends config s.confirm s' request.addresses.source
        (nextSeq request.header.control.seq) response)
      (hfir : response.control.fir = decide (s.fragmentCount = 0)) :
      Handles config env request s s'
  | confirmedNull (hmatches : Matches request s) (hstate : s.state = .UnsolicitedConfirmWait)
      (hnull : s.completedNull = false) :
      Handles config env request s
        { s with
          history := s.history.reset, confirmTimer := false, completedNull := true, state := .Idle }
  | confirmedEvents (hmatches : Matches request s) (hstate : s.state = .UnsolicitedConfirmWait)
      (hnull : s.completedNull = true) :
      Handles config env request s { s.confirm with state := .Idle }
  /-- A read waits for the end of the unsolicited response. -/
  | deferred (huns : request.header.control.uns = false)
      (hfunction : request.header.function = .READ)
      (hstate : s.state = .UnsolicitedConfirmWait) :
      Handles config env request s
        ({ s with
          solSeq := { s.solSeq with num := request.header.control.seq } }.setDeferred request)
  | read {s' : OContext α} {response : APDUResponse α}
      (huns : request.header.control.uns = false) (hfunction : request.header.function = .READ)
      (hnew : s.isRepeat request = false) (hstate : s.state ≠ .UnsolicitedConfirmWait)
      (hsends : Sends config (s.record request) s' request.addresses.source
        request.header.control.seq response)
      (hfir : response.control.fir = true) :
      Handles config env request s s'
  | nonRead {s' : OContext α} (huns : request.header.control.uns = false)
      (hconfirm : request.header.function ≠ .CONFIRM)
      (hfunction : request.header.function ≠ .READ) (hnew : s.isRepeat request = false)
      (hresponds : Responds env request (s.record request) s') :
      Handles config env request s s'
  | repeated {confirmTimer : Bool} (huns : request.header.control.uns = false)
      (hrepeat : s.isRepeat request = true)
      (hconfirm : request.header.function ≠ .CONFIRM)
      (hstate : request.header.function = .READ → s.state ≠ .UnsolicitedConfirmWait)
      (htimer : confirmTimer = if s.state = .SolicitedConfirmWait then
        decide (request.header.function = .READ) else s.confirmTimer) :
      Handles config env request s
        { s with
          confirmTimer
          isTransmitting := true
          log := s.log ++ [.transmit request.addresses.source s.solTx] }

/-- A confirm is handled as its header says. -/
theorem onConfirm_spec {config : EventBufferConfig} (env : Env α) {request : ParsedRequest}
    {s : OContext α} (hinv : s.eventBuffer.storage.Inv config)
    (hfunction : request.header.function = .CONFIRM) :
    Handles config env request s (s.onConfirm env request) := by
  unfold onConfirm
  split
  -- An idle context waits for no confirm.
  case h_1 hstate =>
    refine .ignored (.inl ⟨hfunction, fun hmatches => ?_⟩)
    obtain ⟨hwaits, -⟩ | ⟨hwaits, -⟩ := hmatches.waits <;> simp [hstate] at hwaits
  -- In `SolicitedConfirmWait` the flag and the sequence number decide.
  case h_2 hstate =>
    dsimp only
    split_ifs with hmismatch hselection
    · refine .ignored (.inl ⟨hfunction, fun hmatches => ?_⟩)
      obtain ⟨-, huns, hseq⟩ | ⟨hwaits, -⟩ := hmatches.waits
      · simp [huns, hseq] at hmismatch
      · simp [hstate] at hwaits
    all_goals
      push Not at hmismatch
      have hmatches : Matches request s :=
        ⟨hfunction, .inl ⟨hstate, by simpa using hmismatch.1, hmismatch.2⟩⟩
    · obtain ⟨response, hsends, hfir⟩ := continueMultiFragResponse_spec (s := s.confirm) env
        request.addresses (nextSeq request.header.control.seq)
        (EventLists.clearWritten_inv hinv) (EventLists.clearWritten_writtenIds _)
      exact .continued hmatches hstate hselection hsends hfir
    · exact .confirmed hmatches hstate ((Bool.not_eq_true _).mp hselection)
  -- In `UnsolicitedConfirmWait` they do as well, and a null response releases no event.
  case h_3 hstate =>
    dsimp only
    split_ifs with hmismatch hnull
    · refine .ignored (.inl ⟨hfunction, fun hmatches => ?_⟩)
      obtain ⟨hwaits, -⟩ | ⟨-, huns, hseq⟩ := hmatches.waits
      · simp [hstate] at hwaits
      · simp [huns, hseq] at hmismatch
    all_goals
      push Not at hmismatch
      have hmatches : Matches request s :=
        ⟨hfunction, .inr ⟨hstate, by simpa using hmismatch.1, hmismatch.2⟩⟩
    · exact .confirmedEvents hmatches hstate hnull
    · exact .confirmedNull hmatches hstate (by simpa using hnull)

omit [MeasurementSpec α] in
/-- The response does not depend on the state. -/
theorem Responds.with_state {env : Env α} {request : ParsedRequest} {s s' : OContext α}
    (h : Responds env request s s') (state : OutstationState) :
    Responds env request { s with state } { s' with state } := by
  obtain ⟨_, overflow, response, ⟨time, iin, database, mask, control, new, rfl, heffect⟩, rfl,
    hcontrol, hfunction⟩ := h.exists_eq
  refine ⟨_, overflow, response, ⟨time, iin, database, mask, control, new, rfl, ?_⟩, rfl, hcontrol,
    hfunction⟩
  cases heffect with
  | quiet hnew => exact .quiet hnew
  | selected hfunction hcalls hrest hstatuses =>
    exact Effect.selected (s := { s with state }) hfunction hcalls hrest hstatuses
  | operated hfunction hvalid hnew => exact .operated hfunction hvalid hnew

omit [MeasurementSpec α] in
/-- A fragment is sent from any state. -/
theorem Sends.with_state {config : EventBufferConfig} {s s' : OContext α} {destination seq : ℕ}
    {response : APDUResponse α} (h : Sends config s s' destination seq response)
    (state : OutstationState) : Sends config { s with state } s' destination seq response :=
  ⟨h.exists_eq, h.function, h.seq_eq, h.inv, h.ids, h.written, h.unwritten⟩

omit [MeasurementSpec α] in
/-- In the idle state the request is handled as it is. -/
theorem record_of_idle {s : OContext α} (hstate : s.state = .Idle) (request : ParsedRequest) :
    s.record request = { s with
      solSeq := { s.solSeq with num := request.header.control.seq }
      history := .recordLastProcessedRequest request.header request.objects } := by
  unfold record
  simp [hstate]

omit [MeasurementSpec α] in
/-- In the wait for a solicited confirm, a request is remembered by its sequence number. -/
theorem record_of_solicited {s : OContext α} (hstate : s.state = .SolicitedConfirmWait)
    (request : ParsedRequest) :
    s.record request = { s with
      solSeq := { s.solSeq with num := request.header.control.seq }
      history := .recordLastProcessedRequest request.header request.objects
      confirmTimer := false
      state := .Idle } := by
  unfold record
  simp [hstate]

omit [MeasurementSpec α] in
/-- In the wait for an unsolicited confirm, a request is remembered by its sequence number. -/
theorem record_of_unsolicited {s : OContext α} (hstate : s.state = .UnsolicitedConfirmWait)
    (request : ParsedRequest) :
    s.record request = { s with
      solSeq := { s.solSeq with num := request.header.control.seq }
      history := .recordLastProcessedRequest request.header request.objects
      deferred := none } := by
  unfold record
  simp [hstate]

/-- A request that is no repetition is handled as new. -/
theorem processNewRequest_spec {config : EventBufferConfig} (env : Env α)
    {request : ParsedRequest} {s : OContext α} (hinv : s.eventBuffer.storage.Inv config)
    (huns : request.header.control.uns = false) (hconfirm : request.header.function ≠ .CONFIRM)
    (hnew : s.isRepeat request = false) :
    Handles config env request s (s.processNewRequest env request) := by
  unfold processNewRequest
  dsimp only
  split_ifs with hfunction
  · unfold onNewReadRequest
    dsimp only
    split
    -- What a new request does to the context depends on the confirm that it waits for.
    case h_1 hstate =>
      obtain ⟨response, hsends, hfir⟩ := respondToReadRequest_spec (s := { s with
        solSeq := { s.solSeq with num := request.header.control.seq } }) env request hinv
      refine .read huns hfunction hnew (by simp [hstate]) ?_ hfir
      rwa [record_of_idle hstate]
    case h_2 hstate =>
      obtain ⟨response, hsends, hfir⟩ := respondToReadRequest_spec (s := { s with
        solSeq := { s.solSeq with num := request.header.control.seq }
        confirmTimer := false }) env request hinv
      refine .read huns hfunction hnew (by simp [hstate]) ?_ hfir
      rw [record_of_solicited hstate]
      exact hsends.with_state .Idle
    -- A READ does not interrupt an unsolicited series.
    case h_3 hstate => exact .deferred huns hfunction hstate
  · unfold onNewNonReadRequest
    dsimp only
    split
    case h_1 hstate =>
      refine .nonRead huns hconfirm hfunction hnew ?_
      rw [record_of_idle hstate]
      exact respondToNonReadRequest_spec env request { s with
        solSeq := { s.solSeq with num := request.header.control.seq } }
    case h_2 hstate =>
      refine .nonRead huns hconfirm hfunction hnew ?_
      rw [record_of_solicited hstate]
      exact (respondToNonReadRequest_spec env request { s with
        solSeq := { s.solSeq with num := request.header.control.seq }
        confirmTimer := false }).with_state .Idle
    case h_3 hstate =>
      refine .nonRead huns hconfirm hfunction hnew ?_
      rw [record_of_unsolicited hstate]
      exact respondToNonReadRequest_spec env request { s with
        solSeq := { s.solSeq with num := request.header.control.seq }
        deferred := none }

omit [MeasurementSpec α] in
/-- A repetition has the sequence number of the last request. -/
theorem isRepeat_seq {s : OContext α} {request : ParsedRequest} (h : s.isRepeat request = true) :
    s.solSeq.num = request.header.control.seq := by
  unfold isRepeat at h
  simp only [Bool.and_eq_true, decide_eq_true_eq] at h
  exact h.1.2

/-- What the outstation does with any request. -/
theorem handle_spec {config : EventBufferConfig} (env : Env α) (request : ParsedRequest)
    {s : OContext α} (hinv : s.eventBuffer.storage.Inv config) :
    Handles config env request s (s.handle env request) := by
  unfold handle
  split_ifs with hconfirm
  · exact onConfirm_spec env hinv hconfirm
  · unfold processRequest onReceiveSolRequest
    split_ifs with huns hrepeat hfunction
    · -- A request with UNS is none.
      exact .ignored (.inr ⟨hconfirm, huns⟩)
    all_goals rw [Bool.not_eq_true] at huns
    · -- A repeated READ, and below it every other repeated request.
      unfold onRepeatReadRequest
      split
      case h_1 hstate =>
        exact .repeated huns hrepeat hconfirm (fun _ => by simp [hstate]) (by simp [hstate])
      case h_2 hstate =>
        exact .repeated huns hrepeat hconfirm (fun _ => by simp [hstate])
          (by simp [hstate, hfunction, restartConfirmTimer])
      case h_3 hstate =>
        have hseq := isRepeat_seq hrepeat
        have hdeferred : Handles config env request s _ := .deferred huns hfunction hstate
        rwa [← hseq] at hdeferred
    · unfold onRepeatNonReadRequest
      split
      case h_1 hstate =>
        exact .repeated huns hrepeat hconfirm (absurd · hfunction) (by simp [hstate])
      case h_2 hstate =>
        exact .repeated huns hrepeat hconfirm (absurd · hfunction) (by simp [hstate, hfunction])
      case h_3 hstate =>
        exact .repeated huns hrepeat hconfirm (absurd · hfunction) (by simp [hstate])
    · exact processNewRequest_spec env hinv huns hconfirm (by simpa using hrepeat)

end Handling

/-! ## The phases of a step -/

section Phases

variable [MeasurementSpec α]

/-- The first phase of a step: the event itself. -/
def arrive (env : Env α) (event : Event α) (s : OContext α) : OContext α :=
  match event with
  | .lowerLayerUp => if s.isOnline then s else { s with isOnline := true }
  | .lowerLayerDown => s.onLowerLayerDown
  | .txReady => if s.isOnline ∧ s.isTransmitting then { s with isTransmitting := false } else s
  | .receive message => if s.isOnline then s.processMessage env message else s
  | .confirmTimeout =>
    if s.confirmTimer then { s with confirmTimer := false }.onConfirmTimeout else s
  | .update change => s.applyChange change
  | .checkForTaskStart => s
  | .setRestartIIN => { s with staticIIN := s.staticIIN ||| IINField.deviceRestart }

omit [MeasurementSpec α] in
/-- The step goes on to `CheckForTaskStart`. -/
def startsTasks (event : Event α) (s : OContext α) : Bool :=
  match event with
  | .lowerLayerUp => !s.isOnline
  | .txReady => s.isOnline && s.isTransmitting
  | .receive _ => s.isOnline
  | .confirmTimeout => s.confirmTimer
  | .checkForTaskStart => true
  | _ => false

/-- A step is the event, and the tasks that may start after it. -/
theorem step_eq (s : OContext α) (env : Env α) (event : Event α) :
    s.step (env, event) =
      if s.startsTasks event then (s.arrive env event).checkForTaskStart env
      else s.arrive env event := by
  cases event with
  | lowerLayerUp => cases h : s.isOnline <;> simp [step, onLowerLayerUp, startsTasks, arrive, h]
  | txReady =>
    by_cases h : s.isOnline ∧ s.isTransmitting <;> simp [step, onTxReady, startsTasks, arrive, h]
  | receive message => cases h : s.isOnline <;> simp [step, onReceive, startsTasks, arrive, h]
  | confirmTimeout => cases h : s.confirmTimer <;> simp [step, onTimer, startsTasks, arrive, h]
  | checkForTaskStart => rfl
  | lowerLayerDown => rfl
  | update change => rfl
  | setRestartIIN => rfl

/-- The requests that a step handles, each with the state in which it does: the one that is
received, and the deferred one after it. -/
inductive Processes (env : Env α) (event : Event α) (s : OContext α) :
    OContext α → ParsedRequest → Prop where
  | received {message : Message} {request : ParsedRequest} (hevent : event = .receive message)
      (hfree : s.canTransmit = true) (hparse : s.parseMessage message = some request)
      (hack : request.header.function.isNoAckFuncCode = false) :
      Processes env event s s request
  | dequeued {request : ParsedRequest} (htasks : s.startsTasks event = true)
      (hfree : (s.arrive env event).canTransmit = true)
      (hdeferred : (s.arrive env event).deferred = some request)
      (hready : request.header.function = .READ → (s.arrive env event).state = .Idle) :
      Processes env event s (s.arrive env event) request

omit [MeasurementSpec α] in
/-- Nothing is being transmitted where the outstation can transmit. -/
theorem isTransmitting_of_canTransmit {s : OContext α} (h : s.canTransmit = true) :
    s.isTransmitting = false := by
  simp only [canTransmit, Bool.and_eq_true, Bool.not_eq_true'] at h
  exact h.2

/-- A request is handled only while the lower layer is free. -/
theorem Processes.free {env : Env α} {event : Event α} {s s₁ : OContext α}
    {request : ParsedRequest} (h : Processes env event s s₁ request) : s₁.canTransmit = true := by
  cases h with
  | received _ hfree _ _ => exact hfree
  | dequeued _ hfree _ _ => exact hfree

/-- What the first phase does where it handles no request. -/
inductive Happens (env : Env α) (s : OContext α) : Event α → OContext α → Prop where
  | same {event : Event α} : Happens env s event s
  | online (hoffline : s.isOnline = false) :
      Happens env s .lowerLayerUp { s with isOnline := true }
  | down : Happens env s .lowerLayerDown s.onLowerLayerDown
  | transmitted (honline : s.isOnline = true) (htransmitting : s.isTransmitting = true) :
      Happens env s .txReady { s with isTransmitting := false }
  | unacknowledged {message : Message} {new : List (Output α)} (hnew : ∀ o ∈ new, o.isQuiet) :
      Happens env s (.receive message) { s with log := s.log ++ new }
  | deferred {message : Message} {request : ParsedRequest} (honline : s.isOnline = true)
      (htransmitting : s.isTransmitting = true) (hparse : s.parseMessage message = some request) :
      Happens env s (.receive message) (s.setDeferred request)
  | timedOut (htimer : s.confirmTimer = true) :
      Happens env s .confirmTimeout { s with confirmTimer := false }.onConfirmTimeout
  | updated {change : DatabaseBuffers.Change α} :
      Happens env s (.update change) (s.applyChange change)
  | restarted :
      Happens env s .setRestartIIN { s with staticIIN := s.staticIIN ||| IINField.deviceRestart }

/-- An event is processed as a request, or it is not. -/
theorem arrive_spec (env : Env α) (event : Event α) (s : OContext α) :
    Happens env s event (s.arrive env event) ∨
      ∃ request, Processes env event s s request ∧ s.arrive env event = s.handle env request := by
  cases event with
  | lowerLayerUp =>
    left
    unfold arrive
    dsimp only
    split_ifs with honline
    · exact .same
    · exact .online (by simpa using honline)
  | lowerLayerDown => exact .inl .down
  | txReady =>
    left
    unfold arrive
    dsimp only
    split_ifs with h
    · exact .transmitted h.1 h.2
    · exact .same
  | receive message =>
    unfold arrive processMessage
    dsimp only
    split_ifs with honline
    · split
      · -- A message that does not parse is dropped.
        exact .inl .same
      case h_2 request hparse =>
        unfold processObjects
        split_ifs with hnoAck htransmitting hconfirm
        · -- The handler of a request without a response makes quiet calls only.
          left
          unfold processRequestNoAck
          split_ifs
          · obtain ⟨new, heq, hnew⟩ := handleDirectOperate_log env request.objects
              .DirectOperateNoAck nofun none s
            rw [heq]
            exact .unacknowledged hnew
          · exact .same
        · -- The lower layer is busy.
          exact .inl (.deferred honline htransmitting hparse)
        all_goals
          have hprocesses : Processes env (.receive message) s s request :=
            .received rfl (by simp [canTransmit, honline, htransmitting]) hparse
              (by simpa using hnoAck)
        · exact .inr ⟨request, hprocesses, by rw [handle, if_pos hconfirm]⟩
        · exact .inr ⟨request, hprocesses, by rw [handle, if_neg hconfirm]⟩
    · exact .inl .same
  | confirmTimeout =>
    left
    unfold arrive
    dsimp only
    split_ifs with htimer
    · exact .timedOut htimer
    · exact .same
  | update change => exact .inl .updated
  | checkForTaskStart => exact .inl .same
  | setRestartIIN => exact .inl .restarted

/-- The deferred request is handled when the outstation can transmit, and a READ only in the idle
state. -/
theorem checkForDeferredRequest_spec (env : Env α) (s : OContext α) :
    s.checkForDeferredRequest env = s ∨
      ∃ request, s.canTransmit = true ∧ s.deferred = some request ∧
        (request.header.function = .READ → s.state = .Idle) ∧
        s.checkForDeferredRequest env = { s.handle env request with deferred := none } := by
  unfold checkForDeferredRequest
  split
  · exact .inl rfl
  case h_2 request hdeferred =>
    split_ifs with hfree hconfirm hread
    · exact .inr ⟨request, hfree, hdeferred, by simp [hconfirm], by rw [handle, if_pos hconfirm]⟩
    · exact .inl rfl
    · refine .inr ⟨request, hfree, hdeferred, fun hfunction => ?_, by rw [handle, if_neg hconfirm]⟩
      by_contra hstate
      exact hread ⟨hfunction, hstate⟩
    · exact .inl rfl

/-- A message that is received is handled as a request at once when the outstation can transmit. -/
theorem arrive_received {env : Env α} {s : OContext α} {message : Message}
    {request : ParsedRequest} (hfree : s.canTransmit = true)
    (hparse : s.parseMessage message = some request)
    (hack : request.header.function.isNoAckFuncCode = false) :
    s.arrive env (.receive message) = s.handle env request := by
  simp only [canTransmit, Bool.and_eq_true, Bool.not_eq_true'] at hfree
  simp only [arrive, hfree.1, if_true, processMessage, hparse, processObjects, hack,
    hfree.2, handle,
    Bool.false_eq_true, if_false]

/-- While the lower layer is busy no task starts. -/
theorem checkForDeferredRequest_of_busy (env : Env α) {s : OContext α}
    (h : s.isTransmitting = true) : s.checkForDeferredRequest env = s := by
  unfold checkForDeferredRequest
  split
  · rfl
  · rw [if_neg (by simp [canTransmit, h])]

/-- Nothing is sent unsolicited while a transmission is in progress. -/
theorem checkForUnsolicited_of_busy (env : Env α) {s : OContext α}
    (h : s.isTransmitting = true) : s.checkForUnsolicited env = s := by
  rw [checkForUnsolicited, if_neg (by simp [canTransmit, h])]

/-- A step ends with the request that it answers. -/
theorem Processes.step_of_busy {env : Env α} {event : Event α} {s s₁ : OContext α}
    {request : ParsedRequest} (h : Processes env event s s₁ request)
    (hbusy : (s₁.handle env request).isTransmitting = true) :
    ∃ deferred, s.step (env, event) = { s₁.handle env request with deferred } := by
  cases h with
  | received hevent hfree hparse hack =>
    subst hevent
    refine ⟨(s.handle env request).deferred, ?_⟩
    have honline : s.isOnline = true := by
      simp only [canTransmit, Bool.and_eq_true] at hfree
      exact hfree.1
    -- While the response is being sent, no deferred request is taken up and no unsolicited response
    -- is started.
    rw [step_eq, arrive_received hfree hparse hack, if_pos (by simp [startsTasks, honline]),
      checkForTaskStart, checkForDeferredRequest_of_busy env hbusy,
      checkForUnsolicited_of_busy env hbusy]
  | dequeued htasks hfree hdeferred hready =>
    refine ⟨none, ?_⟩
    have hrequest : (s.arrive env event).checkForDeferredRequest env =
        { (s.arrive env event).handle env request with deferred := none } := by
      obtain heq | ⟨request', -, hdeferred', -, heq⟩ :=
        checkForDeferredRequest_spec env (s.arrive env event)
      · -- The request does not stay deferred.
        exfalso
        unfold checkForDeferredRequest at heq
        rw [hdeferred] at heq
        dsimp only at heq
        rw [if_pos hfree] at heq
        split_ifs at heq with hconfirm hread
        · have := congrArg OContext.deferred heq
          simp [hdeferred] at this
        · exact hread.2 (hready hread.1)
        · have := congrArg OContext.deferred heq
          simp [hdeferred] at this
      · rw [hdeferred] at hdeferred'
        obtain rfl := Option.some.inj hdeferred'
        exact heq
    rw [step_eq, if_pos htasks, checkForTaskStart, hrequest]
    exact checkForUnsolicited_of_busy env hbusy

/-- An unsolicited response is sent. Before the null response is confirmed it is without events;
afterwards what is written of the events is in the response. -/
structure Unsolicits (config : EventBufferConfig) (s s' : OContext α) : Prop where
  free : s.canTransmit = true
  idle : s.state = .Idle
  exists_eq : ∃ eventBuffer response,
    s' = { s with
      eventBuffer
      confirmTimer := true
      state := .UnsolicitedConfirmWait
      unsolTx := response
      unsolSeq := { confirmNum := s.unsolSeq.num, num := nextSeq s.unsolSeq.num }
      isTransmitting := true
      log := s.log ++ [.transmit s.addresses.destination response] } ∧
    response.function = .UNSOLICITED_RESPONSE ∧
    response.control =
      { fir := true, fin := true, con := true, uns := true, seq := s.unsolSeq.num } ∧
    eventBuffer.storage.Inv config ∧ eventBuffer.storage.ids = s.eventBuffer.storage.ids ∧
    if s.completedNull then ∀ id ∈ eventBuffer.storage.writtenIds, id ∈ response.events
    else eventBuffer.storage = s.eventBuffer.storage

/-- The outstation sends an unsolicited response or does nothing. -/
theorem checkForUnsolicited_spec {config : EventBufferConfig} (env : Env α) {s : OContext α}
    (hinv : s.eventBuffer.storage.Inv config) :
    s.checkForUnsolicited env = s ∨ Unsolicits config s (s.checkForUnsolicited env) := by
  unfold checkForUnsolicited
  split_ifs with hstart hnull hpending
  · -- A null response has been confirmed, so the events of the mask are loaded.
    right
    obtain ⟨hinv', -, hwritten', -⟩ := EventLists.selectByClass_spec (EventLists.unselect_inv hinv)
      s.params.unsolClassMask (2 ^ 32 - 1)
    have hwritten : (s.eventBuffer.unselect.selectAllByClass
        s.params.unsolClassMask).storage.writtenIds = [] :=
      hwritten'.trans (EventLists.unselect_writtenIds _)
    obtain ⟨_, b, writer, events, hload, hb, hids, hevents, -⟩ :=
      load_spec (b := s.eventBuffer.unselect.selectAllByClass s.params.unsolClassMask) hinv'
        hwritten s.newWriter
    -- Selecting and loading keep the events, only their states change.
    have hids' : b.storage.ids = s.eventBuffer.storage.ids := by
      rw [hids]
      exact (EventLists.selectByClass_spec (EventLists.unselect_inv hinv) _ _).2.ids.trans
        (EventLists.unselect_ids _)
    dsimp only
    rw [hload]
    refine ⟨hstart.1, hstart.2.1, _, _, rfl, rfl, rfl, hb, hids', ?_⟩
    rwa [if_pos hnull]
  · exact .inl rfl
  · -- The first unsolicited response of a session is a null response.
    refine .inr ⟨hstart.1, hstart.2.1, _, _, rfl, rfl, rfl, hinv, rfl, ?_⟩
    rw [if_neg hnull]
    rfl
  · exact .inl rfl

/-- What holds after the first phase. -/
theorem arrive_induction {config : EventBufferConfig} {env : Env α} {event : Event α}
    {s : OContext α} {P : OContext α → Prop} (hinv : s.eventBuffer.storage.Inv config)
    (hhappens : ∀ s', Happens env s event s' → P s')
    (hhandles : ∀ request s₂, Processes env event s s request →
      Handles config env request s s₂ → P s₂) :
    P (s.arrive env event) := by
  obtain hhappens' | ⟨request, hprocesses, heq⟩ := arrive_spec env event s
  · exact hhappens _ hhappens'
  · rw [heq]
    exact hhandles request _ hprocesses (handle_spec env request hinv)

/-- What holds in the course of a step: it holds before the step, after the event where it handles
no request, after each request that the step handles, and after an unsolicited response. -/
theorem step_induction {config : EventBufferConfig} {env : Env α} {event : Event α}
    {s : OContext α} {P : OContext α → Prop}
    (hinv : ∀ s', P s' → s'.eventBuffer.storage.Inv config) (hs : P s)
    (hhappens : ∀ s', Happens env s event s' → P s')
    (hhandles : ∀ s₁ request s₂, Processes env event s s₁ request → P s₁ →
      Handles config env request s₁ s₂ → P s₂)
    (hdeferred : ∀ s₁, P s₁ → P { s₁ with deferred := none })
    (hunsolicits : ∀ s₁ s₂, P s₁ → Unsolicits config s₁ s₂ → P s₂) :
    P (s.step (env, event)) := by
  -- The event, then the deferred request, then an unsolicited response.
  have harrive : P (s.arrive env event) := arrive_induction (hinv s hs) hhappens
    fun request s₂ hprocesses => hhandles s request s₂ hprocesses hs
  rw [step_eq]
  split_ifs with htasks
  · have hrequest : P ((s.arrive env event).checkForDeferredRequest env) := by
      obtain heq | ⟨request, hfree, hsome, hready, heq⟩ :=
        checkForDeferredRequest_spec env (s.arrive env event)
      · rwa [heq]
      · rw [heq]
        exact hdeferred _ (hhandles _ request _ (.dequeued htasks hfree hsome hready) harrive
          (handle_spec env request (hinv _ harrive)))
    obtain heq | hunsolicits' := checkForUnsolicited_spec env (hinv _ hrequest)
    · rw [checkForTaskStart, heq]
      exact hrequest
    · exact hunsolicits _ _ hrequest hunsolicits'
  · exact harrive

/-! ## The deferred request -/

/-- The header is that of the deferred request, or of the request that the step receives. -/
def Comes (event : Event α) (s : OContext α) (header : APDUHeader) : Prop :=
  (∃ request, s.deferred = some request ∧ request.header = header) ∨
    ∃ message request, event = .receive message ∧ s.parseMessage message = some request ∧
      request.header = header

omit [MeasurementSpec α] in
/-- A request that is handled leaves the deferred one, takes it away or becomes it. -/
theorem Handles.deferred_eq {config : EventBufferConfig} {env : Env α} {request : ParsedRequest}
    {s s' : OContext α} (h : Handles config env request s s') :
    s'.deferred = none ∨ s'.deferred = s.deferred ∨
      ∃ request', s'.deferred = some request' ∧ request'.header = request.header := by
  -- The record of a request clears the deferred one in `UnsolicitedConfirmWait` only.
  have hrecord : (s.record request).deferred = none ∨ (s.record request).deferred = s.deferred := by
    unfold record
    dsimp only
    split_ifs
    · exact .inl rfl
    · exact .inr rfl
  cases h with
  | ignored => exact .inr (.inl rfl)
  | confirmed _ _ _ => exact .inr (.inl rfl)
  | continued _ _ _ hsends _ =>
    obtain ⟨_, _, _, rfl⟩ := hsends.exists_eq
    exact .inr (.inl rfl)
  | confirmedNull _ _ _ => exact .inr (.inl rfl)
  | confirmedEvents _ _ _ => exact .inr (.inl rfl)
  | deferred _ _ _ => exact .inr (.inr ⟨_, rfl, rfl⟩)
  | read _ _ _ _ hsends _ =>
    obtain ⟨_, _, _, rfl⟩ := hsends.exists_eq
    exact hrecord.imp_right .inl
  | nonRead _ _ _ _ hresponds =>
    obtain ⟨_, _, _, ⟨_, _, _, _, _, _, rfl, _⟩, rfl, _⟩ := hresponds.exists_eq
    exact hrecord.imp_right .inl
  | repeated _ _ _ _ _ => exact .inr (.inl rfl)

/-- The request that an event leaves deferred came with it or was deferred before. -/
theorem Happens.comes {env : Env α} {event : Event α} {s s' : OContext α}
    (h : Happens env s event s') {request : ParsedRequest} (hrequest : s'.deferred = some request) :
    Comes event s request.header := by
  cases h with
  | down =>
    unfold onLowerLayerDown at hrequest
    split_ifs at hrequest
    exact .inl ⟨request, hrequest, rfl⟩
  | deferred _ _ hparse =>
    obtain rfl := Option.some.inj hrequest
    exact .inr ⟨_, _, rfl, hparse, rfl⟩
  | timedOut _ =>
    unfold onConfirmTimeout at hrequest
    split at hrequest <;> exact .inl ⟨request, hrequest, rfl⟩
  | same => exact .inl ⟨request, hrequest, rfl⟩
  | online _ => exact .inl ⟨request, hrequest, rfl⟩
  | transmitted _ _ => exact .inl ⟨request, hrequest, rfl⟩
  | unacknowledged _ => exact .inl ⟨request, hrequest, rfl⟩
  | updated => exact .inl ⟨request, hrequest, rfl⟩
  | restarted => exact .inl ⟨request, hrequest, rfl⟩

/-- A request that is handled comes from the step where the deferred one does. -/
theorem Processes.comes_of_deferred {env : Env α} {event : Event α} {s s₁ : OContext α}
    {request : ParsedRequest} (h : Processes env event s s₁ request)
    (hdeferred : ∀ request, s₁.deferred = some request → Comes event s request.header) :
    Comes event s request.header := by
  cases h with
  | received hevent _ hparse _ => exact .inr ⟨_, request, hevent, hparse, rfl⟩
  | dequeued _ _ hrequest _ => exact hdeferred request hrequest

/-- The request that is deferred after a handling came with the event or was deferred before. -/
theorem Handles.comes {config : EventBufferConfig} {env : Env α} {event : Event α}
    {s s₁ s₂ : OContext α} {request : ParsedRequest} (hprocesses : Processes env event s s₁ request)
    (h : Handles config env request s₁ s₂)
    (hdeferred : ∀ request, s₁.deferred = some request → Comes event s request.header) :
    ∀ request, s₂.deferred = some request → Comes event s request.header := by
  intro request' hrequest'
  rcases h.deferred_eq with hnone | hsame | ⟨_, hsome, hheader⟩
  · rw [hnone] at hrequest'
    cases hrequest'
  · exact hdeferred request' (hsame.symm.trans hrequest')
  · obtain rfl := Option.some.inj (hsome.symm.trans hrequest')
    rw [hheader]
    exact hprocesses.comes_of_deferred hdeferred

/-- A request that the step handles is the one that it receives or the deferred one. -/
theorem Processes.comes {config : EventBufferConfig} {env : Env α} {event : Event α}
    {s s₁ : OContext α} {request : ParsedRequest} (h : s.eventBuffer.storage.Inv config)
    (hprocesses : Processes env event s s₁ request) : Comes event s request.header := by
  have hs : ∀ request, s.deferred = some request → Comes event s request.header :=
    fun request hrequest => .inl ⟨request, hrequest, rfl⟩
  cases hprocesses with
  | received hevent _ hparse _ => exact .inr ⟨_, request, hevent, hparse, rfl⟩
  | dequeued _ _ hrequest _ =>
    revert hrequest
    exact arrive_induction (P := fun s' => s'.deferred = some request →
      Comes event s request.header) h (fun _ hhappens => hhappens.comes)
      fun _ _ hprocesses' hhandles => hhandles.comes hprocesses' hs request

end Phases

end OpenDnp3.Outstation.OContext
