import OpenDnp3.Master.Turns

/-!
# What the functions of a master do

A function of the master leads from one state to another with these fields and these acts (`Acts`):
the requests, completions and calls of the scheduler among its outputs. Confirms, indications and
the timing of the tasks are no acts and change none of the fields.
-/

namespace OpenDnp3.Master

open App

open Outstation (IINField)

namespace MContext

variable {τ : Type*}

/-! ## What the functions of the master do -/

/-- From one state to another, the master acts on its tasks in this way, and comes to these fields.
It never writes to the buffer of a transmission in progress. -/
structure Acts (c c' : MContext τ) (k : Core τ) (acts : List Output) : Prop where
  core_eq : c'.core = k
  exists_out : ∃ out, c'.log = c.log ++ out ∧ out.filter Output.isAct = acts ∧
    sending c.isSending out = some c'.isSending

namespace Acts

variable {c c' c'' : MContext τ} {k k' : Core τ} {acts acts' : List Output}

/-- The acts of two functions, one after the other. -/
theorem trans (h : Acts c c' k acts) (h' : Acts c' c'' k' acts') :
    Acts c c'' k' (acts ++ acts') := by
  obtain ⟨out, hlog, hacts, hsending⟩ := h.exists_out
  obtain ⟨out', hlog', hacts', hsending'⟩ := h'.exists_out
  refine ⟨h'.core_eq, out ++ out', ?_, ?_, ?_⟩
  · rw [hlog', hlog, List.append_assoc]
  · rw [List.filter_append, hacts, hacts']
  · rw [sending_append, hsending]
    exact hsending'

/-- Nothing is done before the rest. -/
theorem quiet_trans (h : Acts c c' k []) (h' : Acts c' c'' k' acts) : Acts c c'' k' acts :=
  h.trans h'

/-- A function without acts, after one that acts. -/
theorem trans_quiet (h : Acts c c' k acts) (h' : Acts c' c'' k' []) : Acts c c'' k' acts := by
  simpa using h.trans h'

/-- A change of fields alone. -/
theorem of_eq (hlog : c'.log = c.log) (hsending : c'.isSending = c.isSending) :
    Acts c c' c'.core [] :=
  ⟨rfl, [], by simp [hlog], rfl, by simp [sending, hsending]⟩

/-- Nothing is done. -/
theorem refl (c : MContext τ) : Acts c c c.core [] := of_eq rfl rfl

/-- A change of fields, and an output that leaves the buffer alone. -/
theorem of_output (output : Output) (hwrites : output.writes = false)
    (hlog : c'.log = c.log ++ [output]) (hsending : c'.isSending = c.isSending) :
    Acts c c' c'.core ([output].filter Output.isAct) := by
  refine ⟨rfl, [output], hlog, rfl, ?_⟩
  rw [sending_of_not_writes (by simpa using hwrites), hsending]

/-- A change of fields, and an output that writes to the buffer while the lower layer is free. -/
theorem of_transmit (output : Output) (hwrites : output.writes = true)
    (hlog : c'.log = c.log ++ [output]) (hfree : c.isSending = false)
    (hsending : c'.isSending = output.transmits) :
    Acts c c' c'.core ([output].filter Output.isAct) := by
  refine ⟨rfl, [output], hlog, rfl, ?_⟩
  rw [sending, if_pos hwrites, hfree, if_neg Bool.false_ne_true, hsending]
  rfl

/-- The fields may be written in another way. -/
theorem cast (h : Acts c c' k acts) (hk : k = k') : Acts c c' k' acts := hk ▸ h

end Acts

/-- A change of the timing of a task is no act. -/
theorem acts_modify_behavior (id : TaskId) (f : TaskBehavior → TaskBehavior) (c : MContext τ) :
    Acts c (c.modify id fun object => { object with behavior := f object.behavior }) c.core [] := by
  refine Acts.cast (.of_eq rfl rfl) ?_
  have hmap : (c.objects.modify id fun object =>
      { object with behavior := f object.behavior }).map TaskObject.task =
        c.objects.map TaskObject.task := by
    apply List.ext_getElem?
    intro i
    rw [List.getElem?_map, List.getElem?_map, List.getElem?_modify]
    cases c.objects[i]? with
    | none => rfl
    | some object =>
      simp only [Option.map_some]
      split_ifs <;> rfl
  simp only [core, modify, hmap]

/-- A task comes back from one of its methods without an act. -/
theorem acts_modify_task (id : TaskId) (task : Task τ) (c : MContext τ) :
    Acts c (c.modify id fun object => { object with task }) (c.core.setTask id task) [] := by
  refine Acts.cast (.of_eq rfl rfl) ?_
  have hmap : (c.objects.modify id fun object => { object with task }).map TaskObject.task =
      (c.objects.map TaskObject.task).set id task := by
    apply List.ext_getElem?
    intro i
    rw [List.getElem?_map, List.getElem?_set, List.getElem?_map, List.getElem?_modify]
    by_cases hi : id = i
    · subst hi
      cases hobject : c.objects[id]? with
      | none => simp_all
      | some object =>
        have hlt := (List.getElem?_eq_some_iff.mp hobject).1
        simp [hlt]
    · simp [hi]
  simp only [core, Core.setTask, modify, hmap]

/-- The scheduler is called when the active task is complete. -/
theorem acts_completeActiveTask {c : MContext τ} {id : TaskId} (h : c.activeTask = some id) :
    Acts c c.completeActiveTask { c.core with activeTask := none } [.completeCurrentFor] := by
  unfold completeActiveTask
  rw [if_pos (by simp [h])]
  exact .of_output .completeCurrentFor rfl rfl rfl

/-- A confirm that is transmitted is no act. -/
theorem acts_checkConfirmTransmit (c : MContext τ) : Acts c c.checkConfirmTransmit c.core [] := by
  unfold checkConfirmTransmit
  split_ifs with hbusy
  · exact .refl c
  split
  · exact .refl c
  case h_2 confirm confirmQueue _ =>
    exact .of_transmit (.confirm confirm) rfl rfl (by simpa using hbusy) rfl

/-- A confirm that is queued is no act. -/
theorem acts_queueConfirm (header : APDUHeader) (c : MContext τ) :
    Acts c (c.queueConfirm header) c.core [] := by
  have hqueued : Acts c ({ c with confirmQueue := c.confirmQueue ++ [header] }.emit
      (.queueConfirm header)) c.core [] :=
    .of_output (.queueConfirm header) rfl rfl rfl
  exact hqueued.quiet_trans (acts_checkConfirmTransmit _)

/-- A task that is demanded is due, which is no act. -/
theorem acts_demand (id : Option TaskId) (c : MContext τ) : Acts c (c.demand id).2 c.core [] := by
  cases id
  · exact .refl c
  · exact acts_modify_behavior ..

/-- A task may be demanded after nothing was done. -/
theorem Acts.demand {c c' : MContext τ} (h : Acts c c' c.core []) (id : Option TaskId) :
    Acts c (c'.demand id).2 c.core [] :=
  (h.quiet_trans (acts_demand id c')).cast h.core_eq

/-- One more output that leaves the buffer alone, and that is no act. -/
theorem Acts.emit {c c' : MContext τ} (h : Acts c c' c.core []) {output : Output}
    (hwrites : output.writes = false) (hact : output.isAct = false) :
    Acts c (c'.emit output) c.core [] := by
  have hemit : Acts c' (c'.emit output) c'.core ([output].filter Output.isAct) :=
    .of_output output hwrites rfl rfl
  rw [List.filter_singleton, hact] at hemit
  exact (h.quiet_trans hemit).cast h.core_eq

/-- The scheduler may be told that it is. -/
theorem Acts.demandAndEvaluate {c c' : MContext τ} (h : Acts c c' c.core [])
    (id : Option TaskId) : Acts c (c'.demandAndEvaluate id) c.core [] := by
  unfold MContext.demandAndEvaluate
  dsimp only
  split_ifs
  · exact (h.demand id).emit rfl rfl
  · exact h.demand id

/-- A restart of the outstation demands the tasks for it. -/
theorem acts_onRestartDetected (c : MContext τ) : Acts c c.onRestartDetected c.core [] :=
  ((((Acts.refl c).demand _).demand _).demand _).demand _

/-- The indications of a response demand tasks. -/
theorem acts_processIIN (iin : IINField) (c : MContext τ) :
    Acts c (c.processIIN iin) c.core [] := by
  -- One indication after the other.
  have hdemand : ∀ {c' : MContext τ}, Acts c c' c.core [] → ∀ (p : Bool) (id : Option TaskId),
      Acts c (if p = true then c'.demandAndEvaluate id else c') c.core [] := by
    intro c' h p id
    split_ifs
    · exact h.demandAndEvaluate id
    · exact h
  unfold processIIN
  dsimp only
  refine Acts.emit (hdemand (hdemand (hdemand ?_ _ _) _ _) _ _) rfl rfl
  split_ifs
  · exact (acts_onRestartDetected c).emit rfl rfl
  · exact .refl c

section Tasks

variable [IMasterTask τ]

/-- A block is added without an act. -/
theorem acts_addBlock (id : TaskId) (object : TaskObject τ) (c : MContext τ) :
    Acts c (c.addBlock id object) c.core [] := by
  unfold addBlock
  split_ifs
  · exact .of_eq rfl rfl
  · exact .refl c

/-- A block has nothing to do with the transmission in progress. -/
theorem addBlock_isSending (id : TaskId) (object : TaskObject τ) (c : MContext τ) :
    (c.addBlock id object).isSending = c.isSending := by
  unfold addBlock
  split_ifs <;> rfl

omit [IMasterTask τ] in
/-- The callback of a task is told its completion. -/
theorem Acts.complete {c c' : MContext τ} (h : Acts c c' c.core [])
    (hsending : c'.isSending = c.isSending) (id : TaskId) (result : TaskCompletion)
    (hfree : result = .FAILURE_MESSAGE_FORMAT_ERROR → c.isSending = false) :
    Acts c (c'.emit (.onTaskComplete id result)) c.core [.onTaskComplete id result] := by
  by_cases hformat : result = .FAILURE_MESSAGE_FORMAT_ERROR
  · have hidle := hsending.trans (hfree hformat)
    have hwrites : (Output.onTaskComplete id result).writes = true := decide_eq_true hformat
    have hemit : Acts c' (c'.emit (.onTaskComplete id result)) c'.core
      [.onTaskComplete id result] :=
      .of_transmit _ hwrites rfl hidle hidle
    exact (h.quiet_trans hemit).cast h.core_eq
  · have hwrites : (Output.onTaskComplete id result).writes = false := decide_eq_false hformat
    have hemit : Acts c' (c'.emit (.onTaskComplete id result)) c'.core
      [.onTaskComplete id result] :=
      .of_output _ hwrites rfl rfl
    exact (h.quiet_trans hemit).cast h.core_eq

/-- A task that is complete tells its callback. -/
theorem acts_completeTask {c : MContext τ} {id : TaskId} {object : TaskObject τ}
    (hobject : c.objects[id]? = some object) (result : TaskCompletion) (now : ℤ)
    (hfree : result = .FAILURE_MESSAGE_FORMAT_ERROR → c.isSending = false) :
    Acts c (c.completeTask id result now) c.core [.onTaskComplete id result] := by
  have hbehavior := fun f => acts_modify_behavior id f c
  have hblock := fun f => ((hbehavior f).quiet_trans (acts_addBlock id object _)).cast
    (hbehavior f).core_eq
  have hsending := fun (f : TaskBehavior → TaskBehavior) => addBlock_isSending id object
    (c.modify id fun object => { object with behavior := f object.behavior })
  have hcomplete : ∀ c', Acts c c' c.core [] → c'.isSending = c.isSending →
      Acts c (c'.emit (.onTaskComplete id result)) c.core [.onTaskComplete id result] :=
    fun _ h hsame => h.complete hsame id result hfree
  unfold completeTask
  rw [hobject]
  -- The completion changes the timing of the task and its block.
  apply hcomplete
  all_goals split
  · exact hbehavior .reset
  · exact hblock (.onResponseTimeout now)
  · refine Acts.cast (.of_eq ?_ ?_) (hbehavior (.onSuccess now)).core_eq
    · rfl
    · rfl
  · exact hblock .disable
  · rfl
  · exact hsending (.onResponseTimeout now)
  · rfl
  · exact hsending .disable

/-- A task that is started is initialized. -/
theorem acts_startTask {c : MContext τ} {id : TaskId} {object : TaskObject τ}
    (hobject : c.objects[id]? = some object) :
    Acts c (c.startTask id) (c.core.setTask id object.task.initializeTask) [] := by
  have heq : c.startTask id = (c.emit (.onTaskStart id)).modify id fun object' =>
      { object' with task := object.task.initializeTask } := by
    unfold startTask
    simp only [modify]
    congr 1
    apply List.ext_getElem?
    intro i
    rw [List.getElem?_modify, List.getElem?_modify]
    by_cases hi : id = i
    · subst hi
      simp [MContext.emit, hobject]
    · simp [hi]
  rw [heq]
  exact ((Acts.refl c).emit rfl rfl).quiet_trans (acts_modify_task ..)

end Tasks

/-- A transmission in progress goes on. -/
theorem Acts.isSending_eq {c c' : MContext τ} {k : Core τ} {acts : List Output}
    (h : Acts c c' k acts) (hbusy : c.isSending = true) : c'.isSending = true := by
  obtain ⟨out, -, -, hsending⟩ := h.exists_out
  rw [hbusy] at hsending
  have hgoes : ∀ out : List Output, ∀ busy, sending true out = some busy → busy = true := by
    intro out
    induction out with
    | nil => exact fun busy h => (Option.some.inj h).symm
    | cons output rest ih =>
      intro busy h
      rw [sending] at h
      by_cases hwrites : output.writes = true
      · rw [if_pos hwrites, if_pos rfl] at h
        cases h
      · rw [if_neg hwrites] at h
        exact ih busy h
  exact hgoes out _ hsending

/-- The master becomes idle when the active task is complete. -/
theorem acts_idle {c : MContext τ} {id : TaskId} (h : c.activeTask = some id) :
    Acts c { c.completeActiveTask with tstate := .IDLE } c.core.idle [.completeCurrentFor] := by
  have hcomplete := acts_completeActiveTask h
  have hstate : Acts c.completeActiveTask { c.completeActiveTask with tstate := .IDLE }
      { c.completeActiveTask.core with tstate := .IDLE } [] := .of_eq rfl rfl
  rw [hcomplete.core_eq] at hstate
  exact hcomplete.trans_quiet hstate

section Responses

variable [IMasterTask τ]

/-- The active task transmits its request, or is complete without one. -/
theorem acts_resumeActiveTask (env : Env) {c : MContext τ} {id : TaskId} {task : Task τ}
    (hactive : c.activeTask = some id) (htask : c.core.taskList[id]? = some task)
    (hfree : c.isSending = false) :
    ∃ k' acts, Resumes env id c.core k' acts ∧ Acts c (c.resumeActiveTask env) k' acts := by
  obtain ⟨object, hobject, rfl⟩ := exists_object htask
  obtain ⟨request, task', hbuild⟩ : ∃ request task', object.task.buildRequest env
      (c.params.maxTxFragSize - 2) c.solSeq = (request, task') := ⟨_, _, rfl⟩
  have hmodify := acts_modify_task id task' c
  have hobject' : (c.modify id fun object => { object with task := task' }).objects[id]? =
      some { object with task := task' } := by
    simp [modify, hobject]
  unfold resumeActiveTask
  simp only [hactive, hobject, hbuild]
  cases request with
  | none =>
    -- The task cannot write its request.
    refine ⟨_, _, .failed htask hbuild, ?_⟩
    have hcomplete := acts_completeTask hobject' .FAILURE_MESSAGE_FORMAT_ERROR env.now
      fun _ => hfree
    have hactive' := congrArg Core.activeTask hcomplete.core_eq
    have hidle := acts_idle (c := (c.modify id fun object =>
      { object with task := task' }).completeTask id .FAILURE_MESSAGE_FORMAT_ERROR env.now)
      (hactive'.trans hactive)
    rw [hcomplete.core_eq, hmodify.core_eq] at hidle
    exact hmodify.quiet_trans (hcomplete.trans hidle)
  | some request =>
    obtain ⟨header, objects⟩ := request
    refine ⟨_, _, .sent htask hbuild, ?_⟩
    refine (hmodify.quiet_trans (.of_transmit (.request header objects) rfl ?_ hfree ?_)).cast ?_
    · rfl
    · rfl
    · exact congrArg Core.await hmodify.core_eq

/-- The completion that follows from the result of a response. -/
def completion (id : TaskId) : ResponseResult → List Output
  | .ERROR_BAD_RESPONSE => [.onTaskComplete id .FAILURE_BAD_RESPONSE]
  | .OK_FINAL => [.onTaskComplete id .SUCCESS]
  | _ => []

omit [IMasterTask τ] in
/-- A task after `IMasterTask::ProcessResponse`. -/
theorem Acts.processed {c c' : MContext τ} (h : Acts c c' c.core []) (id : TaskId)
    (task' : Task τ) :
    Acts c (c'.modify id fun object => { object with task := task' }) (c.core.setTask id task')
      [] := by
  have hmodify := acts_modify_task id task' c'
  rw [h.core_eq] at hmodify
  exact h.quiet_trans hmodify

/-- The completion of a task after `IMasterTask::ProcessResponse`. -/
theorem Acts.processed_complete {c c' : MContext τ} (h : Acts c c' c.core []) {id : TaskId}
    {object : TaskObject τ} (hobject : c'.objects[id]? = some object) (task' : Task τ)
    (now : ℤ) (result : TaskCompletion) (hresult : result ≠ .FAILURE_MESSAGE_FORMAT_ERROR) :
    Acts c ((c'.modify id fun object => { object with task := task' }).completeTask id result now)
      (c.core.setTask id task') [.onTaskComplete id result] := by
  have hmodified := h.processed id task'
  have hobject' : (c'.modify id fun object => { object with task := task' }).objects[id]? =
      some { object with task := task' } := by
    simp [modify, hobject]
  have hcomplete := acts_completeTask hobject' result now fun hformat => absurd hformat hresult
  rw [hmodified.core_eq] at hcomplete
  exact hmodified.quiet_trans hcomplete

/-- The task makes something of the response, and is complete or goes on. -/
theorem acts_onTaskResponse {env : Env} {c : MContext τ} {id : TaskId} {object : TaskObject τ}
    {header : APDUResponseHeader} {objects : List UInt8} {result : ResponseResult}
    {task' : Task τ} (hobject : c.objects[id]? = some object)
    (hprocess : object.task.processResponse env header objects = (result, task')) :
    (c.onTaskResponse env id object header objects).1 = result ∧
      Acts c (c.onTaskResponse env id object header objects).2 (c.core.setTask id task')
        (completion id result) := by
  unfold onTaskResponse
  rw [hprocess]
  refine ⟨rfl, ?_⟩
  dsimp only
  -- The delivery of measurements is no act.
  cases object.task.measurements header objects with
  | none =>
    have hsame := Acts.refl c
    cases result with
    | ERROR_BAD_RESPONSE =>
      exact hsame.processed_complete hobject task' env.now .FAILURE_BAD_RESPONSE (by decide)
    | OK_FINAL => exact hsame.processed_complete hobject task' env.now .SUCCESS (by decide)
    | OK_CONTINUE => exact hsame.processed id task'
    | OK_REPEAT => exact hsame.processed id task'
  | some parsed =>
    have hdelivers : Acts c (c.emit (.measurements parsed
        (MeasurementHandler.processMeasurements parsed).1
        (MeasurementHandler.processMeasurements parsed).2)) c.core [] := (Acts.refl c).emit rfl rfl
    cases result with
    | ERROR_BAD_RESPONSE =>
      exact hdelivers.processed_complete hobject task' env.now .FAILURE_BAD_RESPONSE (by decide)
    | OK_FINAL => exact hdelivers.processed_complete hobject task' env.now .SUCCESS (by decide)
    | OK_CONTINUE => exact hdelivers.processed id task'
    | OK_REPEAT => exact hdelivers.processed id task'

/-- What follows from the result: the next request, the next fragment or the idle state. -/
theorem acts_finishResponse (env : Env) {c : MContext τ} {id : TaskId} {task : Task τ}
    (hactive : c.activeTask = some id) (htask : c.core.taskList[id]? = some task)
    (hwait : c.tstate = .WAIT_FOR_RESPONSE) (result : ResponseResult) :
    ∃ k' acts, Finishes env id c.core result k' (completion id result ++ acts) ∧
      Acts c (c.finishResponse env result) k' acts ∧
      (k'.tstate = .TASK_READY → (c.finishResponse env result).isSending = true) := by
  unfold finishResponse
  cases result with
  | ERROR_BAD_RESPONSE => exact ⟨_, _, .bad, acts_idle hactive, nofun⟩
  | OK_FINAL => exact ⟨_, _, .final, acts_idle hactive, nofun⟩
  | OK_CONTINUE =>
    refine ⟨_, _, .continues, .of_eq rfl rfl, fun hready => ?_⟩
    cases hwait.symm.trans hready
  | OK_REPEAT =>
    dsimp only
    split_ifs with hbusy
    · exact ⟨_, _, .waits, .of_eq rfl rfl, fun _ => hbusy⟩
    · obtain ⟨k', acts, hresumes, hacts⟩ := acts_resumeActiveTask env hactive htask
        (by simpa using hbusy)
      exact ⟨k', acts, .repeats hresumes, hacts, fun hready => absurd hready hresumes.tstate_ne⟩

end Responses

end MContext

end OpenDnp3.Master
