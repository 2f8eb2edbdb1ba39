import OpenDnp3.Outstation.Transmission

/-!
# Retransmission of requests

A request other than a read that comes again is answered with the response that it had before, as
long as it is the last request and no confirm has come in between that the outstation waited for.
-/

namespace OpenDnp3.Outstation.OContext

open App

variable {α : Type*}

/-- The request is the last one, and this is its response. -/
structure Answered (request : ParsedRequest) (response : APDUResponse α) (s : OContext α) :
    Prop where
  repeats : s.isRepeat request = true
  response_eq : s.solTx = response

/-- What counts for a repetition is the history and the sequence number. -/
theorem Answered.of_eq {request : ParsedRequest} {response : APDUResponse α} {s s' : OContext α}
    (h : Answered request response s) (hhistory : s'.history = s.history)
    (hseq : s'.solSeq.num = s.solSeq.num) (hresponse : s'.solTx = s.solTx) :
    Answered request response s' := by
  refine ⟨?_, hresponse.trans h.response_eq⟩
  unfold isRepeat
  rw [hhistory, hseq]
  exact h.repeats

/-- A repetition has the header and the objects of the last request. -/
theorem isRepeat_congr {request request' : ParsedRequest}
    (hheader : request'.header = request.header)
    (hobjects : request'.objects = request.objects) (s : OContext α) :
    s.isRepeat request' = s.isRepeat request := by
  unfold isRepeat
  rw [hheader, hobjects]

/-- A request that has just been recorded is the last one. -/
theorem isRepeat_record (request : ParsedRequest) {s : OContext α}
    (hhistory : s.history = .recordLastProcessedRequest request.header request.objects)
    (hseq : s.solSeq.num = request.header.control.seq) : s.isRepeat request = true := by
  unfold isRepeat
  rw [hhistory, hseq]
  simp [RequestHistory.recordLastProcessedRequest, RequestHistory.fullyEqualsLastRequest,
    APDUHeader.equals]

section Steps

variable [MeasurementSpec α]

/-- The step drops no session, and handles nothing but the same request, confirms that nothing waits
for, and requests with the UNS bit. -/
def Undisturbed (request : ParsedRequest) (s : OContext α) (input : Env α × Event α) : Prop :=
  input.2 ≠ .lowerLayerDown ∧
    ∀ s₁ request', Processes input.1 input.2 s s₁ request' →
      request'.header = request.header ∧ request'.objects = request.objects ∨
      request'.header.function = .CONFIRM ∧ ¬Matches request' s₁ ∨
      request'.header.function ≠ .CONFIRM ∧ request'.header.control.uns = true

/-- An event other than the loss of the layer below keeps the answer. -/
theorem Happens.answered {env : Env α} {event : Event α} {s s' : OContext α}
    {request : ParsedRequest} {response : APDUResponse α} (hhappens : Happens env s event s')
    (hevent : event ≠ .lowerLayerDown) (h : Answered request response s) :
    Answered request response s' := by
  cases hhappens with
  | down => exact absurd rfl hevent
  | timedOut _ =>
    unfold onConfirmTimeout
    split <;> exact h.of_eq rfl rfl rfl
  | same => exact h
  | online _ => exact h.of_eq rfl rfl rfl
  | transmitted _ _ => exact h.of_eq rfl rfl rfl
  | unacknowledged _ => exact h.of_eq rfl rfl rfl
  | deferred _ _ _ => exact h.of_eq rfl rfl rfl
  | updated => exact h.of_eq rfl rfl rfl
  | restarted => exact h.of_eq rfl rfl rfl

omit [MeasurementSpec α] in
/-- The request itself, and a request that is ignored, leave the last request as it is. -/
theorem Handles.answered {config : EventBufferConfig} {env : Env α} {s s' : OContext α}
    {request request' : ParsedRequest} {response : APDUResponse α}
    (hconfirm : request.header.function ≠ .CONFIRM) (hread : request.header.function ≠ .READ)
    (hhandles : Handles config env request' s s')
    (hrequest : request'.header = request.header ∧ request'.objects = request.objects ∨
      request'.header.function = .CONFIRM ∧ ¬Matches request' s ∨
      request'.header.function ≠ .CONFIRM ∧ request'.header.control.uns = true)
    (h : Answered request response s) : Answered request response s' := by
  have hmatches : ¬Matches request' s := by
    intro hmatches
    rcases hrequest with ⟨hheader, -⟩ | ⟨-, hno⟩ | ⟨hno, -⟩
    · exact hconfirm (hheader ▸ hmatches.function)
    · exact hno hmatches
    · exact hno hmatches.function
  -- A request that is handled as one without the UNS bit is the same as the last one.
  have hsame : request'.header.function ≠ .CONFIRM → request'.header.control.uns = false →
      request'.header = request.header ∧ request'.objects = request.objects := by
    intro hconfirm' huns
    rcases hrequest with hsame | ⟨hno, -⟩ | ⟨-, hno⟩
    · exact hsame
    · exact absurd hno hconfirm'
    · rw [huns] at hno
      cases hno
  cases hhandles with
  | ignored _ => exact h
  | confirmed hmatches' _ _ => exact absurd hmatches' hmatches
  | continued hmatches' _ _ _ _ => exact absurd hmatches' hmatches
  | confirmedNull hmatches' _ _ => exact absurd hmatches' hmatches
  | confirmedEvents hmatches' _ _ => exact absurd hmatches' hmatches
  | deferred huns hfunction _ =>
    obtain ⟨hheader, -⟩ := hsame (by simp [hfunction]) huns
    exact absurd (hheader ▸ hfunction) hread
  | read huns hfunction _ _ _ _ =>
    obtain ⟨hheader, -⟩ := hsame (by simp [hfunction]) huns
    exact absurd (hheader ▸ hfunction) hread
  | nonRead huns hconfirm' _ hnew _ =>
    obtain ⟨hheader, hobjects⟩ := hsame hconfirm' huns
    rw [isRepeat_congr hheader hobjects, h.repeats] at hnew
    cases hnew
  | repeated _ _ _ _ _ => exact h.of_eq rfl rfl rfl

/-- A request that disturbs nothing keeps the answer. -/
theorem Processes.answered {config : EventBufferConfig} {s s₁ : OContext α}
    {input : Env α × Event α} {request request' : ParsedRequest} {response : APDUResponse α}
    (hconfirm : request.header.function ≠ .CONFIRM) (hread : request.header.function ≠ .READ)
    (hprocesses : Processes input.1 input.2 s s₁ request') (hinv : s.Inv config)
    (hundisturbed : Undisturbed request s input) (h : Answered request response s) :
    Answered request response s₁ := by
  cases hprocesses with
  | received _ _ _ _ => exact h
  | dequeued _ _ _ _ =>
    exact arrive_induction hinv.storage (fun _ hhappens => hhappens.answered hundisturbed.1 h)
      fun request' _ hprocesses hhandles =>
        hhandles.answered hconfirm hread (hundisturbed.2 _ _ hprocesses) h

/-- A step that disturbs nothing keeps the answer. -/
theorem step_answered {config : EventBufferConfig} {request : ParsedRequest}
    {response : APDUResponse α} (hconfirm : request.header.function ≠ .CONFIRM)
    (hread : request.header.function ≠ .READ) (s : OContext α) (input : Env α × Event α)
    (h : s.Inv config ∧ Answered request response s) (hundisturbed : Undisturbed request s input) :
    (s.step input).Inv config ∧ Answered request response (s.step input) := by
  obtain ⟨env, event⟩ := input
  refine step_induction (P := fun s' => s'.Inv config ∧ Answered request response s')
    (fun _ hP => hP.1.storage) h ?_ ?_ ?_ ?_
  · intro s' hhappens
    exact ⟨hhappens.inv h.1, hhappens.answered hundisturbed.1 h.2⟩
  · rintro s₁ request' s₂ hprocesses ⟨hinv, hanswered⟩ hhandles
    exact ⟨hhandles.inv hinv,
      hhandles.answered hconfirm hread (hundisturbed.2 s₁ request' hprocesses) hanswered⟩
  · rintro s₁ ⟨hinv, hanswered⟩
    exact ⟨⟨hinv.storage, hinv.timer, hinv.response, hinv.solicited, hinv.unsolicited⟩,
      hanswered.of_eq rfl rfl rfl⟩
  · rintro s₁ s₂ ⟨hinv, hanswered⟩ hunsolicits
    refine ⟨hunsolicits.inv hinv, ?_⟩
    obtain ⟨_, _, rfl, -⟩ := hunsolicits.exists_eq
    exact hanswered.of_eq rfl rfl rfl

omit [MeasurementSpec α] in
/-- A request other than a read is answered, and is the last one then. -/
theorem Handles.answers {config : EventBufferConfig} {env : Env α} {s s' : OContext α}
    {request : ParsedRequest} (hconfirm : request.header.function ≠ .CONFIRM)
    (hread : request.header.function ≠ .READ) (huns : request.header.control.uns = false)
    (hhandles : Handles config env request s s') :
    s'.isTransmitting = true ∧ Answered request s'.solTx s' ∧
      ∃ new, s'.log = s.log ++ (new ++ [.transmit request.addresses.source s'.solTx]) := by
  cases hhandles with
  | ignored hignored =>
    rcases hignored with ⟨hfunction, -⟩ | ⟨-, huns'⟩
    · exact absurd hfunction hconfirm
    · rw [huns] at huns'
      cases huns'
  | confirmed hmatches _ _ => exact absurd hmatches.function hconfirm
  | continued hmatches _ _ _ _ => exact absurd hmatches.function hconfirm
  | confirmedNull hmatches _ _ => exact absurd hmatches.function hconfirm
  | confirmedEvents hmatches _ _ => exact absurd hmatches.function hconfirm
  | deferred _ hfunction _ => exact absurd hfunction hread
  | read _ hfunction _ _ _ _ => exact absurd hfunction hread
  | nonRead _ _ _ _ hresponds =>
    obtain ⟨_, _, response, ⟨_, _, _, _, _, new, rfl, -⟩, rfl, -⟩ := hresponds.exists_eq
    exact ⟨rfl, ⟨isRepeat_record request rfl rfl, rfl⟩, new, List.append_assoc _ _ _⟩
  | repeated _ hrepeat _ _ _ => exact ⟨rfl, ⟨hrepeat, rfl⟩, [], rfl⟩

/-- A repetition is answered with the last response. -/
theorem handle_repeat (env : Env α) {s : OContext α} {request : ParsedRequest}
    (hconfirm : request.header.function ≠ .CONFIRM) (hread : request.header.function ≠ .READ)
    (huns : request.header.control.uns = false) (hrepeat : s.isRepeat request = true) :
    (s.handle env request).isTransmitting = true ∧
      (s.handle env request).log = s.log ++ [.transmit request.addresses.source s.solTx] := by
  rw [handle, if_neg hconfirm, processRequest, if_neg (by simp [huns]), onReceiveSolRequest,
    if_pos hrepeat, if_neg hread]
  unfold onRepeatNonReadRequest
  split <;> exact ⟨rfl, rfl⟩

/-- A request other than a read that is handled again, with nothing in between that disturbs it,
makes no call but to send the response of the first time again. -/
theorem run_repeats_response (addresses : Addresses) (config : EventBufferConfig)
    (params : OutstationParams) (database : DatabaseBuffers α)
    (inputs between : List (Env α × Event α)) (first last : Env α × Event α)
    {s₁ s₂ : OContext α} {request request' : ParsedRequest}
    (hfirst : Processes first.1 first.2
      (Machine.run step (init addresses config params database) inputs) s₁ request)
    (hconfirm : request.header.function ≠ .CONFIRM) (hread : request.header.function ≠ .READ)
    (huns : request.header.control.uns = false)
    (hundisturbed : Machine.StepsMeet step (Undisturbed request)
      (Machine.run step (init addresses config params database) (inputs ++ [first]))
      (between ++ [last]))
    (hlast : Processes last.1 last.2
      (Machine.run step (init addresses config params database) (inputs ++ first :: between)) s₂
      request')
    (hheader : request'.header = request.header) (hobjects : request'.objects = request.objects) :
    let s := Machine.run step (init addresses config params database) inputs
    let s' := Machine.run step (init addresses config params database) (inputs ++ first :: between)
    ∃ response,
      .transmit request.addresses.source response ∈ (s.step first).log.drop s.log.length ∧
      (s'.step last).log = s₂.log ++ [.transmit request'.addresses.source response] := by
  intro s s'
  have h : s.Inv config := run_inv addresses config params database inputs
  -- The first time.
  obtain ⟨hbusy, hanswered, new, hlog⟩ := (handle_spec first.1 request
    (hfirst.inv h).storage).answers hconfirm hread huns
  obtain ⟨deferred, hstep⟩ := hfirst.step_of_busy hbusy
  generalize hresponse : (s₁.handle first.1 request).solTx = response at hanswered hlog
  have hanswered' : Answered request response (s.step first) := by
    rw [show s.step first = _ from hstep]
    exact hanswered.of_eq rfl rfl rfl
  refine ⟨response, ?_, ?_⟩
  · obtain ⟨new₁, hlog₁, -⟩ := hfirst.log_eq h
    have hlog' : (s.step first).log =
        s.log ++ (new₁ ++ (new ++ [.transmit request.addresses.source response])) := by
      rw [show s.step first = _ from hstep, ← List.append_assoc, ← hlog₁]
      exact hlog
    rw [hlog', List.drop_left]
    simp
  · -- In between.
    have hrun : s' = Machine.run step (s.step first) between := by
      rw [← Machine.run_cons, ← Machine.run_append]
    have hstart : Machine.run step (init addresses config params database) (inputs ++ [first]) =
        s.step first := by
      rw [Machine.run_append]
      rfl
    rw [hstart] at hundisturbed
    obtain ⟨hinv', hanswered''⟩ : s'.Inv config ∧ Answered request response s' := by
      rw [hrun]
      exact Machine.run_invariant step (step_answered hconfirm hread) _ between
        ⟨step_inv s first h, hanswered'⟩ (Machine.StepsMeet.left step hundisturbed)
    have hmeets : Undisturbed request s' last := by
      rw [hrun]
      exact (Machine.StepsMeet.of_append step hundisturbed).1
    -- The second time.
    obtain ⟨hrepeats, hresponse'⟩ := hlast.answered hconfirm hread hinv' hmeets hanswered''
    rw [← isRepeat_congr hheader hobjects] at hrepeats
    obtain ⟨hbusy', hlog'⟩ := handle_repeat last.1 (hheader ▸ hconfirm) (hheader ▸ hread)
      (hheader ▸ huns) hrepeats
    obtain ⟨deferred', hstep'⟩ := hlast.step_of_busy hbusy'
    rw [show s'.step last = _ from hstep', ← hresponse']
    exact hlog'

/-- A step disturbs nothing where no request is deferred, and only the request itself comes. -/
theorem undisturbed_of {request : ParsedRequest} {s : OContext α} {env : Env α} {event : Event α}
    (hdown : event ≠ .lowerLayerDown) (hdeferred : (s.arrive env event).deferred = none)
    (hreceive : ∀ message, event = .receive message → (s.parseMessage message).all
      fun request' => request'.header = request.header ∧ request'.objects = request.objects) :
    Undisturbed request s (env, event) := by
  refine ⟨hdown, fun s₁ request' hprocesses => .inl ?_⟩
  cases hprocesses with
  | received hevent _ hparse _ =>
    have hall := hreceive _ hevent
    rw [hparse] at hall
    simpa using hall
  | dequeued _ _ hsome _ =>
    rw [show (s.arrive env event).deferred = none from hdeferred] at hsome
    cases hsome

/-- A direct operate of a block for 100 ms. -/
def directOperate : ParsedRequest where
  addresses := { source := 1, destination := 10 }
  header := { function := .DIRECT_OPERATE }
  objects := [12, 1, 0x17, 1, 0, 0x01, 1, 0x64, 0, 0, 0, 0x64, 0, 0, 0, 0]

/-- The direct operate comes again after the timeout of an unsolicited confirm and an update. -/
theorem run_repeats_response_directOperate :
    let start : OContext Bool := init { source := 10, destination := 1 } { maxBinaryEvents := 2 }
      { allowUnsolicited := true } oneBinary
    let inputs : List (Env Bool × Event Bool) := [({}, .lowerLayerUp), ({}, .txReady)]
    let request : Env Bool × Event Bool :=
      ({}, fromMaster ([0xC0, 0x05] ++ directOperate.objects))
    let between : List (Env Bool × Event Bool) :=
      [({}, .txReady), ({}, .confirmTimeout), ({}, binaryEvent), ({}, .txReady)]
    let s := Machine.run step start inputs
    let s' := Machine.run step start (inputs ++ request :: between)
    ∃ response, .transmit 1 response ∈ (s.step request).log.drop s.log.length ∧
      (s'.step request).log = s'.log ++ [.transmit 1 response] := by
  intro start inputs request between s s'
  have hfirst : Processes request.1 request.2 s s directOperate :=
    .received rfl (by decide +kernel) (by decide +kernel) rfl
  have hlast : Processes request.1 request.2 s' s' directOperate :=
    .received rfl (by decide +kernel) (by decide +kernel) rfl
  -- Neither the sent response nor the events between touch the last request.
  have hundisturbed : Machine.StepsMeet step (Undisturbed directOperate)
      (Machine.run step start (inputs ++ [request])) (between ++ [request]) := by
    refine ⟨undisturbed_of nofun (by decide +kernel) nofun,
      undisturbed_of nofun (by decide +kernel) nofun,
      undisturbed_of nofun (by decide +kernel) nofun,
      undisturbed_of nofun (by decide +kernel) nofun,
      undisturbed_of nofun (by decide +kernel) ?_, trivial⟩
    intro message hmessage
    obtain rfl := Event.receive.inj hmessage
    decide +kernel
  obtain ⟨response, hmem, hlog⟩ := run_repeats_response { source := 10, destination := 1 }
    { maxBinaryEvents := 2 } { allowUnsolicited := true } oneBinary inputs between request request
    hfirst (by decide) (by decide) rfl hundisturbed hlast rfl rfl
  exact ⟨response, hmem, hlog⟩

/-- The confirm of the null response in between makes the direct operate a new request: the command
handler operates twice. -/
theorem directOperate_twice :
    let s := sample { allowUnsolicited := true } [.lowerLayerUp, .txReady,
      fromMaster ([0xC0, 0x05] ++ directOperate.objects), .txReady, fromMaster [0xD0, 0x00]]
    let s' := s.step ({}, fromMaster ([0xC0, 0x05] ++ directOperate.objects))
    let operate := .operate .Group12Var1 [0x01, 1, 0x64, 0, 0, 0, 0x64, 0, 0, 0, 0] 0 .DirectOperate
    operate ∈ s.log ∧ operate ∈ s'.log.drop s.log.length := by
  decide +kernel

end Steps

end OpenDnp3.Outstation.OContext
