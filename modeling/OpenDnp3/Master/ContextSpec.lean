import OpenDnp3.Master.Context

/-!
# What the master tells its environment

The outputs of an event that concern confirms and measurements, and what an event does to the queue
of the confirms. Everything else that the context does is silent here.
-/

namespace OpenDnp3.Master

open App
open Outstation (ClassField IINField)

namespace Output

/-- The confirm that the output puts into the queue. -/
def queued : Output → Option APDUHeader
  | .queueConfirm header => some header
  | _ => none

/-- The confirm that the output transmits. -/
def sent : Output → Option APDUHeader
  | .confirm header => some header
  | _ => none

/-- The output opens or closes a session. -/
def isBound : Output → Bool
  | .onOpen | .onClose => true
  | _ => false

/-- The output queues a confirm or delivers measurements. -/
def isReport : Output → Bool
  | .queueConfirm _ | .measurements _ _ _ => true
  | _ => false

/-- The output has nothing to do with confirms, measurements and sessions. -/
def isQuiet (output : Output) : Bool :=
  output.queued.isNone && output.sent.isNone && !output.isBound && !output.isReport

end Output

namespace MContext

variable {τ : Type*}

/-- The confirms that the log puts into the queue. -/
def queued (log : List Output) : List APDUHeader := log.filterMap Output.queued

/-- The confirms that the log transmits. -/
def sent (log : List Output) : List APDUHeader := log.filterMap Output.sent

/-- No confirm is queued in an empty log. -/
@[simp]
theorem queued_nil : queued [] = [] := rfl

/-- No confirm is sent in an empty log. -/
@[simp]
theorem sent_nil : sent [] = [] := rfl

/-- The confirms that are queued in two parts of a log. -/
@[simp]
theorem queued_append (log log' : List Output) : queued (log ++ log') = queued log ++ queued log' :=
  List.filterMap_append

/-- The confirms that are sent in two parts of a log. -/
@[simp]
theorem sent_append (log log' : List Output) : sent (log ++ log') = sent log ++ sent log' :=
  List.filterMap_append

/-- The outputs between two states of one session. The queue of the confirms is first in, first
out, and at no output has a confirm been sent that was not in it. -/
structure Tells (s s' : MContext τ) (out : List Output) : Prop where
  log_eq : s'.log = s.log ++ out
  inside : ∀ output ∈ out, output.isBound = false
  confirmQueue_eq : s.confirmQueue ++ queued out = sent out ++ s'.confirmQueue
  isOnline_eq : s'.isOnline = s.isOnline
  sent_queued : ∀ before, before <+: out → sent before <+: s.confirmQueue ++ queued before

/-- Outputs without a confirm send none before it is queued. -/
theorem prefix_of_sent_eq_nil {queue : List APDUHeader} {out : List Output} (h : sent out = []) :
    ∀ before, before <+: out → sent before <+: queue ++ queued before := by
  rintro before ⟨after, rfl⟩
  rw [sent_append] at h
  rw [(List.append_eq_nil_iff.mp h).1]
  exact List.nil_prefix

/-- What the context reports between two states of one session. -/
def Reports (s s' : MContext τ) (reports : List Output) : Prop :=
  ∃ out, Tells s s' out ∧ out.filter Output.isReport = reports

/-- The context reports nothing between two states of one session. -/
abbrev Silent (s s' : MContext τ) : Prop := Reports s s' []

namespace Reports

variable {s s' s'' : MContext τ} {reports reports' : List Output}

/-- What two functions report, one after the other. -/
theorem trans (h : Reports s s' reports) (h' : Reports s' s'' reports') :
    Reports s s'' (reports ++ reports') := by
  obtain ⟨out, hout, rfl⟩ := h
  obtain ⟨out', hout', rfl⟩ := h'
  refine ⟨out ++ out', ⟨?_, ?_, ?_, hout'.isOnline_eq.trans hout.isOnline_eq, ?_⟩,
    List.filter_append ..⟩
  · rw [hout'.log_eq, hout.log_eq, List.append_assoc]
  · intro output h
    exact (List.mem_append.mp h).elim (hout.inside output) (hout'.inside output)
  · rw [queued_append, sent_append, ← List.append_assoc, hout.confirmQueue_eq,
      List.append_assoc, hout'.confirmQueue_eq, List.append_assoc]
  · intro before hbefore
    rcases List.prefix_or_prefix_of_prefix hbefore (List.prefix_append out out') with hle | hge
    · exact hout.sent_queued before hle
    · -- All of the first outputs are among them, and some of the later ones.
      obtain ⟨before', rfl⟩ := hge
      have hlater := hout'.sent_queued before' ((List.prefix_append_right_inj out).mp hbefore)
      rw [sent_append, queued_append, ← List.append_assoc, hout.confirmQueue_eq, List.append_assoc]
      exact (List.prefix_append_right_inj _).mpr hlater

/-- A silent function after one that reports. -/
theorem trans_silent (h : Reports s s' reports) (h' : Silent s' s'') : Reports s s'' reports := by
  simpa using h.trans h'

/-- A silent function before one that reports. -/
theorem silent_trans (h : Silent s s') (h' : Reports s' s'' reports) : Reports s s'' reports :=
  h.trans h'

/-- A change of other fields. -/
theorem of_eq (hlog : s'.log = s.log) (hqueue : s'.confirmQueue = s.confirmQueue)
    (honline : s'.isOnline = s.isOnline) : Silent s s' :=
  ⟨[], ⟨by simp [hlog], by simp, by simp [hqueue], honline, prefix_of_sent_eq_nil rfl⟩, rfl⟩

/-- Nothing is reported. -/
theorem refl (s : MContext τ) : Silent s s := of_eq rfl rfl rfl

/-- A change of other fields, and one more quiet output. -/
theorem of_output {output : Output} (h : output.isQuiet = true) (hlog : s'.log = s.log ++ [output])
    (hqueue : s'.confirmQueue = s.confirmQueue) (honline : s'.isOnline = s.isOnline) :
    Silent s s' := by
  simp only [Output.isQuiet, Bool.and_eq_true, Option.isNone_iff_eq_none, Bool.not_eq_true'] at h
  obtain ⟨⟨⟨hqueued, hsent⟩, hbound⟩, hreport⟩ := h
  refine ⟨[output], ⟨hlog, by simpa using hbound, ?_, honline, prefix_of_sent_eq_nil ?_⟩,
    by simp [hreport]⟩
  · simp [queued, sent, hqueued, hsent, hqueue]
  · simp [sent, hsent]

/-- One more quiet output. -/
theorem emit {output : Output} (hs : Silent s s') (h : output.isQuiet = true) :
    Silent s (s'.emit output) := hs.trans (of_output h rfl rfl rfl)

/-- A context that may take a silent step. -/
theorem ite {p : Prop} [Decidable p] (h : Silent s s') : Silent s (if p then s' else s) := by
  split_ifs
  · exact h
  · exact refl s

end Reports

/-! ## Tasks -/

/-- A change of a task is silent. -/
theorem silent_modify (id : TaskId) (f : TaskObject τ → TaskObject τ) (s : MContext τ) :
    Silent s (s.modify id f) := .of_eq rfl rfl rfl

/-- The call of the scheduler is silent. -/
theorem silent_completeActiveTask (s : MContext τ) : Silent s s.completeActiveTask := by
  unfold completeActiveTask
  split_ifs
  · exact .of_output rfl rfl rfl rfl
  · exact .refl s

section Tasks

variable [IMasterTask τ]

/-- A block is added silently. -/
theorem silent_addBlock (id : TaskId) (object : TaskObject τ) (s : MContext τ) :
    Silent s (s.addBlock id object) := by
  unfold addBlock
  split_ifs
  · exact .of_eq rfl rfl rfl
  · exact .refl s

/-- The completion of a task is silent. -/
theorem silent_completeTask (id : TaskId) (result : TaskCompletion) (now : ℤ) (s : MContext τ) :
    Silent s (s.completeTask id result now) := by
  unfold completeTask
  split
  · exact .refl s
  refine Reports.emit ?_ rfl
  -- A completion changes the timing of the task and its block.
  cases result
  case FAILURE_NO_COMMS => exact silent_modify ..
  case SUCCESS => exact .of_eq rfl rfl rfl
  all_goals exact (silent_modify ..).trans (silent_addBlock ..)

/-- A task is started silently. -/
theorem silent_startTask (id : TaskId) (s : MContext τ) : Silent s (s.startTask id) :=
  ((Reports.refl s).emit rfl).trans (silent_modify ..)

/-- The request of a task is no report. -/
theorem silent_resumeActiveTask (env : Env) (s : MContext τ) :
    Silent s (s.resumeActiveTask env) := by
  unfold resumeActiveTask
  split
  · exact .refl s
  case h_2 id _ =>
    split
    · exact .refl s
    case h_2 object _ =>
      dsimp only
      generalize object.task.buildRequest env (s.params.maxTxFragSize - 2) s.solSeq = built
      have hbuilt := silent_modify id (fun object => { object with task := built.2 }) s
      split
      · refine hbuilt.trans ((silent_completeTask id .FAILURE_MESSAGE_FORMAT_ERROR
          env.now _).trans ?_)
        exact (silent_completeActiveTask _).trans (.of_eq rfl rfl rfl)
      · exact hbuilt.trans (.of_output rfl rfl rfl rfl)

/-- What follows from the result of a response is silent. -/
theorem silent_finishResponse (env : Env) (result : ResponseResult) (s : MContext τ) :
    Silent s (s.finishResponse env result) := by
  unfold finishResponse
  cases result
  case OK_CONTINUE => exact .of_eq rfl rfl rfl
  case OK_REPEAT =>
    dsimp only
    split_ifs
    · exact .of_eq rfl rfl rfl
    · exact silent_resumeActiveTask env s
  all_goals exact (silent_completeActiveTask s).trans (.of_eq rfl rfl rfl)

end Tasks

/-! ## Indications -/

/-- A task is demanded silently. -/
theorem silent_demand (id : Option TaskId) (s : MContext τ) : Silent s (s.demand id).2 := by
  cases id
  · exact .refl s
  · exact silent_modify ..

/-- A restart of the outstation is noted silently. -/
theorem silent_onRestartDetected (s : MContext τ) : Silent s s.onRestartDetected :=
  (((silent_demand ..).trans (silent_demand ..)).trans (silent_demand ..)).trans (silent_demand ..)

/-- The scheduler is told silently. -/
theorem silent_demandAndEvaluate (id : Option TaskId) (s : MContext τ) :
    Silent s (s.demandAndEvaluate id) := by
  unfold demandAndEvaluate
  dsimp only
  split_ifs
  · exact (silent_demand id s).emit rfl
  · exact silent_demand id s

/-- The indications are processed silently. -/
theorem silent_processIIN (iin : IINField) (s : MContext τ) : Silent s (s.processIIN iin) := by
  unfold processIIN
  dsimp only
  refine Reports.emit ?_ rfl
  refine Reports.trans_silent ?_ (silent_demandAndEvaluate ..).ite
  refine Reports.trans_silent ?_ (silent_demandAndEvaluate ..).ite
  refine Reports.trans_silent ?_ (silent_demandAndEvaluate ..).ite
  exact ((silent_onRestartDetected s).emit rfl).ite

/-! ## Confirms -/

/-- The confirm at the head of the queue is transmitted, unless the lower layer is busy. -/
theorem silent_checkConfirmTransmit (s : MContext τ) : Silent s s.checkConfirmTransmit := by
  unfold checkConfirmTransmit
  split_ifs
  · exact .refl s
  split
  · exact .refl s
  case h_2 confirm confirmQueue hqueue =>
    refine ⟨[.confirm confirm], ⟨rfl, by simp [Output.isBound], ?_, rfl, ?_⟩, rfl⟩
    · simp [queued, sent, Output.queued, Output.sent, hqueue, emit]
    · intro before hbefore
      refine (hbefore.filterMap Output.sent).trans ?_
      rw [hqueue]
      exact List.prefix_append [confirm] _

/-- A confirm that is queued is reported, and transmitted if the lower layer is free. -/
theorem reports_queueConfirm (header : APDUHeader) (s : MContext τ) :
    Reports s (s.queueConfirm header) [.queueConfirm header] := by
  refine Reports.trans_silent ?_ (silent_checkConfirmTransmit _)
  refine ⟨[.queueConfirm header], ⟨rfl, by simp [Output.isBound], ?_, rfl,
    prefix_of_sent_eq_nil rfl⟩, rfl⟩
  simp [queued, sent, Output.queued, Output.sent, emit]

/-- The confirm of a response that asks for one. -/
theorem reports_queueConfirm_ite (p : Prop) [Decidable p] (header : APDUHeader) (s : MContext τ) :
    Reports s (if p then s.queueConfirm header else s)
      (if p then [.queueConfirm header] else []) := by
  split_ifs
  · exact reports_queueConfirm header s
  · exact .refl s

/-! ## Responses -/

/-- The delivery of the measurements in the objects. -/
def delivery (objects : List UInt8) : Output :=
  .measurements objects (MeasurementHandler.processMeasurements objects).1
    (MeasurementHandler.processMeasurements objects).2

/-- Measurements that are delivered are reported. -/
theorem reports_delivery (objects : List UInt8) (s : MContext τ) :
    Reports s (s.emit (delivery objects)) [delivery objects] :=
  ⟨[delivery objects], ⟨rfl, by simp [delivery, Output.isBound], List.append_nil _, rfl,
    prefix_of_sent_eq_nil rfl⟩, rfl⟩

/-- What an unsolicited response reports. -/
def unsolicitedReports (header : APDUResponseHeader) (objects : List UInt8) : List Output :=
  if header.control.uns then
    delivery objects ::
      if (MeasurementHandler.processMeasurements objects).1 = .OK && header.control.con then
        [.queueConfirm (confirmHeader header.control.seq true)]
      else []
  else []

/-- An unsolicited response is delivered before its confirm is queued. -/
theorem reports_processUnsolicitedResponse (header : APDUResponseHeader) (objects : List UInt8)
    (s : MContext τ) :
    Reports s (s.processUnsolicitedResponse header objects)
      (unsolicitedReports header objects) := by
  unfold processUnsolicitedResponse unsolicitedReports
  by_cases huns : header.control.uns
  · rw [if_neg (by simp [huns]), if_pos huns]
    refine Reports.trans_silent ?_ (silent_processIIN ..)
    exact (reports_delivery objects s).trans (reports_queueConfirm_ite ..)
  · rw [if_pos (by simp [huns]), if_neg huns]
    exact .refl s

/-- What the response to the request of a task reports. -/
def solicitedReports [IMasterTask τ] (object : TaskObject τ) (header : APDUResponseHeader)
    (objects : List UInt8) : List Output :=
  (object.task.measurements header objects).toList.map delivery ++
    if header.control.con then [.queueConfirm (confirmHeader header.control.seq false)] else []

/-- The task that the context gives a solicited response to. -/
def answering (s : MContext τ) (header : APDUResponseHeader) : Option (TaskObject τ) :=
  if s.tstate = .WAIT_FOR_RESPONSE ∧ header.control.seq = s.solSeq then
    s.activeTask.bind fun id => s.objects[id]?
  else none

section Responses

variable [IMasterTask τ]

/-- A task delivers the measurements of a response that it accepts. -/
theorem reports_onTaskResponse (env : Env) (id : TaskId) (object : TaskObject τ)
    (header : APDUResponseHeader) (objects : List UInt8) (s : MContext τ) :
    Reports s (s.onTaskResponse env id object header objects).2
      ((object.task.measurements header objects).toList.map delivery) := by
  unfold onTaskResponse
  dsimp only
  generalize object.task.processResponse env header objects = processed
  obtain ⟨result, task⟩ := processed
  -- The result of the task only decides its completion.
  cases hparsed : object.task.measurements header objects with
  | none =>
    cases result with
    | ERROR_BAD_RESPONSE | OK_FINAL =>
      exact (silent_modify ..).trans_silent (silent_completeTask ..)
    | OK_CONTINUE | OK_REPEAT => exact silent_modify ..
  | some parsed =>
    cases result with
    | ERROR_BAD_RESPONSE | OK_FINAL =>
      refine Reports.trans_silent ?_ (silent_completeTask ..)
      exact (reports_delivery parsed s).trans_silent (silent_modify ..)
    | OK_CONTINUE | OK_REPEAT =>
      exact (reports_delivery parsed s).trans_silent (silent_modify ..)

/-- A response is delivered before its confirm is queued. -/
theorem reports_processResponse (env : Env) (header : APDUResponseHeader) (objects : List UInt8)
    (s : MContext τ) :
    Reports s (s.processResponse env header objects)
      ((s.answering header).elim [] fun object => solicitedReports object header objects) := by
  unfold processResponse answering
  refine Reports.trans_silent ?_ (silent_processIIN ..)
  by_cases hwait : s.tstate = .WAIT_FOR_RESPONSE
  -- No task is waiting.
  case neg =>
    rw [if_neg hwait, if_neg fun h => hwait h.1]
    exact .refl s
  unfold onResponseWaitForResponse
  by_cases hseq : header.control.seq = s.solSeq
  case neg =>
    rw [if_pos hwait, if_pos hseq, if_neg fun h => hseq h.2]
    exact .refl s
  rw [if_pos hwait, if_neg (not_not.mpr hseq), if_pos ⟨hwait, hseq⟩]
  dsimp only
  -- The active task takes the response, and the confirm follows.
  cases s.activeTask with
  | none => exact .of_eq rfl rfl rfl
  | some id =>
    dsimp only [Option.bind_some]
    cases s.objects[id]? with
    | none => exact .of_eq rfl rfl rfl
    | some object =>
      refine Reports.trans_silent ?_ (silent_finishResponse ..)
      refine Reports.trans ?_ (reports_queueConfirm_ite ..)
      refine Reports.silent_trans ?_ (reports_onTaskResponse ..)
      exact .of_eq rfl rfl rfl

end Responses

/-! ## Events -/

section Events

variable [IMasterTask τ]

/-- The header and the objects of a message that the context processes. -/
def accepted (s : MContext τ) (message : Message) : Option (APDUResponseHeader × List UInt8) :=
  if s.isOnline ∧ message.addresses.destination = s.addresses.source ∧
      message.addresses.source = s.addresses.destination then
    parseResponse message.payload
  else none

/-- What a processed message reports. -/
def apduReports (s : MContext τ) (header : APDUResponseHeader) (objects : List UInt8) :
    List Output :=
  match header.function with
  | .UNSOLICITED_RESPONSE => unsolicitedReports header objects
  | .RESPONSE => (s.answering header).elim [] fun object => solicitedReports object header objects
  | _ => []

/-- What an event reports. -/
def reports (s : MContext τ) : Event τ → List Output
  | .receive message => (s.accepted message).elim [] fun (header, objects) =>
      s.apduReports header objects
  | _ => []

/-- An accepted message reports what its fragment does. -/
theorem reports_receive {s : MContext τ} {message : Message} {header : APDUResponseHeader}
    {objects : List UInt8} (h : s.accepted message = some (header, objects)) :
    s.reports (.receive message) = s.apduReports header objects := by
  rw [reports, h, Option.elim_some]

/-- A response reports what the task that it is for makes of it. -/
theorem apduReports_response {s : MContext τ} {header : APDUResponseHeader}
    {object : TaskObject τ} (hfunction : header.function = .RESPONSE)
    (h : s.answering header = some object) (objects : List UInt8) :
    s.apduReports header objects = solicitedReports object header objects := by
  rw [apduReports, hfunction, h, Option.elim_some]

/-- A fragment reports what its function is to report. -/
theorem reports_processAPDU (env : Env) (header : APDUResponseHeader) (objects : List UInt8)
    (s : MContext τ) :
    Reports s (s.processAPDU env header objects) (s.apduReports header objects) := by
  unfold processAPDU apduReports
  cases header.function
  case UNSOLICITED_RESPONSE => exact reports_processUnsolicitedResponse header objects s
  case RESPONSE => exact reports_processResponse env header objects s
  all_goals exact .refl s

/-- A message that is not accepted is dropped. -/
theorem onReceive_eq (env : Env) (message : Message) (s : MContext τ) :
    s.onReceive env message = (s.accepted message).elim s fun (header, objects) =>
      s.processAPDU env header objects := by
  unfold onReceive accepted
  split_ifs <;> try simp_all
  cases parseResponse message.payload <;> rfl

/-- A message reports what its fragment does, if it is accepted. -/
theorem reports_onReceive (env : Env) (message : Message) (s : MContext τ) :
    Reports s (s.onReceive env message) (s.reports (.receive message)) := by
  rw [onReceive_eq, reports]
  cases s.accepted message with
  | none => exact .refl s
  | some response => exact reports_processAPDU env response.1 response.2 s

/-- The end of a transmission is silent. -/
theorem silent_onTxReady (env : Env) (s : MContext τ) : Silent s (s.onTxReady env) := by
  unfold onTxReady
  split_ifs
  · exact .refl s
  refine Reports.trans_silent ?_ (silent_checkConfirmTransmit _)
  have hsent : Silent s { s with isSending := false } := .of_eq rfl rfl rfl
  exact hsent.trans (silent_resumeActiveTask env _).ite

/-- A response timeout is silent. -/
theorem silent_onResponseTimeout (env : Env) (s : MContext τ) :
    Silent s (s.onResponseTimeout env) := by
  unfold onResponseTimeout
  dsimp only
  have hfired : Silent s { s with responseTimer := false } := .of_eq rfl rfl rfl
  split_ifs
  · refine hfired.trans (Reports.silent_trans ?_
      ((silent_completeActiveTask _).trans (.of_eq rfl rfl rfl)))
    split
    · exact (silent_completeTask ..).trans (.of_eq rfl rfl rfl)
    · exact .of_eq rfl rfl rfl
  · exact hfired
  · exact .refl s

/-- A call of the scheduler is silent. -/
theorem silent_runTask (env : Env) (id : TaskId) (s : MContext τ) :
    Silent s (s.runTask env id) := by
  unfold runTask
  dsimp only
  have hready : Silent s { s with tstate := .TASK_READY, activeTask := some id } :=
    .of_eq rfl rfl rfl
  have hstart := hready.trans (silent_startTask id _)
  split_ifs
  · exact .refl s
  · exact hstart
  · exact hstart.trans (silent_resumeActiveTask ..)

omit [IMasterTask τ] in
/-- A poll is added silently. -/
theorem silent_scheduleRecurringPollTask (object : TaskObject τ) (s : MContext τ) :
    Silent s (s.scheduleRecurringPollTask object) := by
  unfold scheduleRecurringPollTask
  dsimp only
  split_ifs
  · exact .of_output rfl rfl rfl rfl
  · exact .of_eq rfl rfl rfl

/-- A task is added silently. -/
theorem silent_scheduleAdhocTask (env : Env) (object : TaskObject τ) (s : MContext τ) :
    Silent s (s.scheduleAdhocTask env object) := by
  unfold scheduleAdhocTask
  dsimp only
  have hadded : Silent s { s with objects := s.objects ++ [object] } := .of_eq rfl rfl rfl
  split_ifs
  · exact .of_output rfl rfl rfl rfl
  · exact hadded.trans (silent_completeTask ..)

omit [IMasterTask τ] in
/-- The outputs are what the log has grown by. -/
theorem Tells.outputs_eq {s s' : MContext τ} {out : List Output} (h : Tells s s' out) :
    s'.log.drop s.log.length = out := by
  rw [h.log_eq, List.drop_left]

/-- The step opens or closes a session and keeps the queue of the confirms. -/
structure Bounds (s s' : MContext τ) : Prop where
  log_eq : ∃ out bound, s'.log = s.log ++ (out ++ [bound]) ∧ bound.isBound = true ∧
    ∀ output ∈ out, output.isQuiet = true
  confirmQueue_eq : s'.confirmQueue = s.confirmQueue

omit [IMasterTask τ] in
/-- A session begins with a bound. -/
theorem bounds_onLowerLayerUp {s : MContext τ} (h : s.isOnline = false) :
    Bounds s s.onLowerLayerUp := by
  have hlog : s.onLowerLayerUp.log = s.log ++ (s.tasks.all.map .add ++ [.onOpen]) := by
    simp [onLowerLayerUp, h]
  refine ⟨⟨_, _, hlog, rfl, ?_⟩, by simp [onLowerLayerUp, h]⟩
  intro output houtput
  obtain ⟨id, -, rfl⟩ := List.mem_map.mp houtput
  rfl

omit [IMasterTask τ] in
/-- A session ends with a bound. -/
theorem bounds_onLowerLayerDown {s : MContext τ} (h : s.isOnline = true) :
    Bounds s s.onLowerLayerDown := by
  have hlog : s.onLowerLayerDown.log = s.log ++ ([.setRunnerOffline] ++ [.onClose]) := by
    simp [onLowerLayerDown, emit, h]
  exact ⟨⟨_, _, hlog, rfl, List.forall_mem_singleton.mpr rfl⟩,
    by simp [onLowerLayerDown, emit, h]⟩

/-- The step closes the session. -/
def Closes (s : MContext τ) (e : Env × Event τ) : Prop :=
  e.2 = .lowerLayerDown ∧ s.isOnline = true

instance (s : MContext τ) : (e : Env × Event τ) → Decidable (Closes s e)
  | (_, .lowerLayerDown) => decidable_of_iff (s.isOnline = true) ⟨fun h => ⟨rfl, h⟩, And.right⟩
  | (_, .lowerLayerUp) | (_, .receive _) | (_, .txReady) | (_, .responseTimeout) | (_, .run _)
  | (_, .scheduleRecurringPollTask _) | (_, .scheduleAdhocTask _) => isFalse nofun

/-- A step opens the session, closes it or stays in it. -/
theorem step_cases (s : MContext τ) (e : Env × Event τ) :
    (e.2 = .lowerLayerUp ∧ s.isOnline = false ∨ Closes s e) ∧ Bounds s (s.step e) ∨
      ¬Closes s e ∧ Reports s (s.step e) (s.reports e.2) := by
  obtain ⟨env, event⟩ := e
  cases event with
  | lowerLayerUp =>
    cases honline : s.isOnline with
    -- A second call while the session is open does nothing.
    | false => exact .inl ⟨.inl ⟨rfl, rfl⟩, bounds_onLowerLayerUp honline⟩
    | true =>
      have heq : s.step (env, .lowerLayerUp) = s := by simp [step, onLowerLayerUp, honline]
      refine .inr ⟨nofun, ?_⟩
      rw [heq]
      exact .refl s
  | lowerLayerDown =>
    cases honline : s.isOnline with
    | true => exact .inl ⟨.inr ⟨rfl, honline⟩, bounds_onLowerLayerDown honline⟩
    | false =>
      have heq : s.step (env, .lowerLayerDown) = s := by simp [step, onLowerLayerDown, honline]
      refine .inr ⟨fun h => Bool.noConfusion (honline.symm.trans h.2), ?_⟩
      rw [heq]
      exact .refl s
  | receive message => exact .inr ⟨nofun, reports_onReceive env message s⟩
  | txReady => exact .inr ⟨nofun, silent_onTxReady env s⟩
  | responseTimeout => exact .inr ⟨nofun, silent_onResponseTimeout env s⟩
  | run task => exact .inr ⟨nofun, (silent_runTask env task s).ite⟩
  | scheduleRecurringPollTask object =>
    exact .inr ⟨nofun, silent_scheduleRecurringPollTask object s⟩
  | scheduleAdhocTask object => exact .inr ⟨nofun, silent_scheduleAdhocTask env object s⟩

/-- The outputs of a step. -/
def outputs (s : MContext τ) (e : Env × Event τ) : List Output := (s.step e).log.drop s.log.length

/-- The outputs of a step that opens or closes a session are quiet up to the last one. -/
theorem Bounds.outputs_spec {s : MContext τ} {e : Env × Event τ} (h : Bounds s (s.step e)) :
    (s.step e).log = s.log ++ s.outputs e ∧ queued (s.outputs e) = [] ∧ sent (s.outputs e) = [] ∧
      (s.outputs e).filter Output.isReport = [] := by
  obtain ⟨out, bound, hlog, hbound, hout⟩ := h.log_eq
  have houtputs : s.outputs e = out ++ [bound] := by rw [outputs, hlog, List.drop_left]
  have hquiet : ∀ output ∈ s.outputs e,
      output.queued = none ∧ output.sent = none ∧ output.isReport = false := by
    intro output houtput
    rw [houtputs] at houtput
    rcases List.mem_append.mp houtput with hmem | hmem
    · have hquiet := hout output hmem
      simp only [Output.isQuiet, Bool.and_eq_true, Option.isNone_iff_eq_none,
        Bool.not_eq_true'] at hquiet
      exact ⟨hquiet.1.1.1, hquiet.1.1.2, hquiet.2⟩
    · obtain rfl := List.mem_singleton.mp hmem
      cases output <;> first | exact ⟨rfl, rfl, rfl⟩ | cases hbound
  refine ⟨by rw [hlog, houtputs], ?_, ?_, ?_⟩
  · exact List.filterMap_eq_nil_iff.mpr fun output houtput => (hquiet output houtput).1
  · exact List.filterMap_eq_nil_iff.mpr fun output houtput => (hquiet output houtput).2.1
  · refine List.filter_eq_nil_iff.mpr fun output houtput => ?_
    simp [(hquiet output houtput).2.2]

/-- A step adds its outputs to the log, and the queue of the confirms is first in, first out. -/
theorem step_log (s : MContext τ) (e : Env × Event τ) :
    (s.step e).log = s.log ++ s.outputs e ∧
      s.confirmQueue ++ queued (s.outputs e) =
        sent (s.outputs e) ++ (s.step e).confirmQueue := by
  rcases step_cases s e with ⟨-, hbounds⟩ | ⟨-, out, htells, -⟩
  · obtain ⟨hlog, hqueued, hsent, -⟩ := hbounds.outputs_spec
    refine ⟨hlog, ?_⟩
    rw [hqueued, hsent, hbounds.confirmQueue_eq, List.append_nil, List.nil_append]
  · rw [outputs, htells.outputs_eq]
    exact ⟨htells.log_eq, htells.confirmQueue_eq⟩

/-- A confirm is sent after it was queued. -/
theorem sent_prefix (s : MContext τ) (e : Env × Event τ) {before : List Output}
    (h : before <+: s.outputs e) : sent before <+: s.confirmQueue ++ queued before := by
  rcases step_cases s e with ⟨-, hbounds⟩ | ⟨-, out, htells, -⟩
  · exact prefix_of_sent_eq_nil hbounds.outputs_spec.2.2.1 before h
  · rw [outputs, htells.outputs_eq] at h
    exact htells.sent_queued before h

/-- The reports among the outputs of a step are those of its event. -/
theorem filter_outputs (s : MContext τ) (e : Env × Event τ) :
    (s.outputs e).filter Output.isReport = s.reports e.2 := by
  rcases step_cases s e with ⟨hevent, hbounds⟩ | ⟨-, out, htells, hreports⟩
  · have hreports : s.reports e.2 = [] := by
      rcases hevent with ⟨he, -⟩ | ⟨he, -⟩ <;> rw [he] <;> rfl
    rw [hbounds.outputs_spec.2.2.2, hreports]
  · rw [outputs, htells.outputs_eq, hreports]

/-- The reports of a step are among its outputs. -/
theorem mem_outputs_iff {output : Output} (h : output.isReport = true) (s : MContext τ)
    (e : Env × Event τ) : output ∈ s.outputs e ↔ output ∈ s.reports e.2 := by
  rw [← filter_outputs, List.mem_filter]
  exact (and_iff_left h).symm

omit [IMasterTask τ] in
/-- Outputs without reports queue no confirm. -/
theorem queued_eq_nil {out : List Output} (h : out.filter Output.isReport = []) :
    queued out = [] := by
  refine List.filterMap_eq_nil_iff.mpr fun output houtput => ?_
  have hreport := List.filter_eq_nil_iff.mp h output houtput
  cases output <;> first | rfl | exact absurd rfl hreport

omit [IMasterTask τ] in
/-- The confirms that are queued are among the outputs. -/
theorem mem_queued_iff {out : List Output} {header : APDUHeader} :
    header ∈ queued out ↔ .queueConfirm header ∈ out := by
  refine List.mem_filterMap.trans ⟨?_, fun h => ⟨_, h, rfl⟩⟩
  rintro ⟨output, hmem, houtput⟩
  cases output <;> cases houtput
  exact hmem

end Events

end MContext

end OpenDnp3.Master
