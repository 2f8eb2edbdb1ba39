import OpenDnp3.Master.Acts

/-!
# The session of a master

Every event of a master does one of the things that `Turns` lists (`handles_step`), so it keeps the
invariant of a session. Between two events no task is ready to transmit while the lower layer is
free.
-/

namespace OpenDnp3.Master

open App

open Outstation (IINField)

namespace MContext

variable {τ : Type*}

/-! ## Events -/

section Events

variable [IMasterTask τ]

/-- The state in which an event finds the buffer: `OnTxReady` and the loss of the session end the
transmission in progress. -/
def starting (c : MContext τ) : Event τ → MContext τ
  | .txReady | .lowerLayerDown => { c with isSending := false }
  | _ => c

omit [IMasterTask τ] in
/-- Without a session there is no active task and no transmission. -/
theorem offline_spec {c : MContext τ} (h : Session c.core c.isSending)
    (hoffline : ¬c.isOnline = true) :
    c.activeTask = none ∧ c.isSending = false :=
  h.online ((Bool.not_eq_true _).mp hoffline)

omit [IMasterTask τ] in
/-- The active task of a session that is not idle. -/
theorem exists_activeTask {c : MContext τ} (h : Session c.core c.isSending)
    (hstate : c.tstate ≠ .IDLE) :
    ∃ id object, c.activeTask = some id ∧ c.objects[id]? = some object ∧ c.isOnline = true := by
  obtain ⟨id, hactive⟩ := Option.isSome_iff_exists.mp (h.active.mpr hstate)
  obtain ⟨object, hobject, -⟩ := exists_object (List.getElem?_eq_getElem (h.valid id hactive))
  refine ⟨id, object, hactive, hobject, ?_⟩
  by_contra hne
  have hnone := (offline_spec h hne).1
  rw [show c.activeTask = some id from hactive] at hnone
  cases hnone

/-- What a step does to the tasks, and that it leaves no task ready while the lower layer is free,
and no transmission without a session. -/
def Handles (env : Env) (event : Event τ) (c c' : MContext τ) : Prop :=
  ∃ k' acts, Turns env c.core event k' acts ∧ Acts (c.starting event) c' k' acts ∧
    (k'.tstate = .TASK_READY → c'.isSending = true) ∧ (k'.isOnline = false → c'.isSending = false)

/-- An event that leaves the tasks alone. -/
theorem Handles.of_acts {env : Env} {event : Event τ} {c c' : MContext τ}
    (h : Session c.core c.isSending) (hevent : event.isRun = false)
    (hstarting : c.starting event = c) (hacts : Acts c c' c.core [])
    (hoffline : c.isOnline = false → c' = c) :
    Handles env event c c' := by
  refine ⟨c.core, [], .quiet hevent, hstarting.symm ▸ hacts, fun hready => hacts.isSending_eq
    (h.ready hready), fun honline => ?_⟩
  rw [hoffline honline]
  exact (h.online honline).2

/-- A session begins. -/
theorem handles_onLowerLayerUp (env : Env) {c : MContext τ} (h : Session c.core c.isSending) :
    Handles env .lowerLayerUp c c.onLowerLayerUp := by
  unfold onLowerLayerUp
  split_ifs with honline
  · exact .of_acts h rfl rfl (.refl c) fun _ => rfl
  · refine ⟨_, _, .up ((Bool.not_eq_true _).mp honline),
      ⟨rfl, _, List.append_assoc _ _ _, ?_, ?_⟩, ?_, nofun⟩
    · simp [Output.isAct, core]
    · refine sending_of_not_writes (fun output houtput => ?_) _
      rcases List.mem_append.mp houtput with hmem | hmem
      · obtain ⟨id, -, rfl⟩ := List.mem_map.mp hmem
        rfl
      · obtain rfl := List.mem_singleton.mp hmem
        rfl
    · exact h.ready

/-- A session ends. -/
theorem handles_onLowerLayerDown (env : Env) {c : MContext τ} (h : Session c.core c.isSending) :
    Handles env .lowerLayerDown c c.onLowerLayerDown := by
  unfold onLowerLayerDown
  split_ifs with honline
  · exact ⟨_, _, .down honline, ⟨rfl, [.setRunnerOffline, .onClose], by simp [emit, starting], rfl,
      rfl⟩, nofun, fun _ => rfl⟩
  · -- There is nothing to lose.
    obtain ⟨hactive, hsending⟩ := offline_spec h honline
    refine ⟨_, _, .quiet rfl, ⟨rfl, [], by simp [starting], rfl, ?_⟩, h.ready, fun _ => hsending⟩
    rw [hsending]
    rfl

/-- A transmission ends, and a confirm or the request of the task may follow. -/
theorem handles_onTxReady (env : Env) {c : MContext τ} (h : Session c.core c.isSending) :
    Handles env .txReady c (c.onTxReady env) := by
  unfold onTxReady
  split_ifs with hidle
  · have hsending : c.isSending = false := by
      rcases Bool.or_eq_true_iff.mp hidle with honline | hsending
      · exact (offline_spec h (by simpa using honline)).2
      · simpa using hsending
    refine ⟨_, _, .quiet rfl, ⟨rfl, [], by simp [starting], rfl, ?_⟩, h.ready, fun _ => hsending⟩
    rw [hsending]
    rfl
  · have honline : c.isOnline = true := by
      by_contra hne
      simp [hne] at hidle
    have hlost : ∀ {p : Prop}, c.isOnline = false → p := fun hoffline =>
      absurd (honline.symm.trans hoffline) (by decide)
    dsimp only
    by_cases hready : c.tstate = .TASK_READY
    · -- The task has waited for the end of the transmission.
      obtain ⟨id, object, hactive, hobject, -⟩ := exists_activeTask h (by rw [hready]; decide)
      rw [if_pos hready]
      obtain ⟨k', acts, hresumes, hacts⟩ := acts_resumeActiveTask env
        (c := { c with isSending := false }) hactive (core_getElem? hobject) rfl
      have hconfirm := acts_checkConfirmTransmit
        (({ c with isSending := false } : MContext τ).resumeActiveTask env)
      rw [hacts.core_eq] at hconfirm
      exact ⟨k', acts, .sent hready hactive hresumes, hacts.trans_quiet hconfirm,
        fun hready' => absurd hready' hresumes.tstate_ne,
        fun hoffline => hlost (hresumes.isOnline_eq.symm.trans hoffline)⟩
    · rw [if_neg hready]
      exact ⟨_, _, .quiet rfl, acts_checkConfirmTransmit _, fun hready' => absurd hready' hready,
        fun hoffline => hlost hoffline⟩

omit [IMasterTask τ] in
/-- The end of `MContext::OnResponseTimeout_WaitForResponse`. -/
theorem acts_timedOut {c : MContext τ} {id : TaskId} (hactive : c.activeTask = some id) :
    Acts c { { c with solSeq := nextSeq c.solSeq }.completeActiveTask with tstate := .IDLE }
      { c.core with solSeq := nextSeq c.core.solSeq }.idle [.completeCurrentFor] := by
  have hseq : Acts c { c with solSeq := nextSeq c.solSeq }
      { c.core with solSeq := nextSeq c.core.solSeq } [] := .of_eq rfl rfl
  exact hseq.quiet_trans (acts_idle (c := { c with solSeq := nextSeq c.solSeq }) hactive)

/-- The task is told the timeout. -/
theorem handles_onResponseTimeout (env : Env) {c : MContext τ} (h : Session c.core c.isSending) :
    Handles env .responseTimeout c (c.onResponseTimeout env) := by
  unfold onResponseTimeout
  split_ifs with htimer
  · -- The timer runs only while a session waits for a response.
    have hwait : c.tstate = .WAIT_FOR_RESPONSE := h.timer.mp htimer
    obtain ⟨id, object, hactive, hobject, honline⟩ := exists_activeTask h (by rw [hwait]; decide)
    have hstopped : Acts c { c with responseTimer := false } { c.core with responseTimer := false }
        [] := .of_eq rfl rfl
    have hcomplete := acts_completeTask (c := { c with responseTimer := false }) hobject
      .FAILURE_RESPONSE_TIMEOUT env.now nofun
    have htimedOut := acts_timedOut ((congrArg Core.activeTask hcomplete.core_eq).trans hactive)
    rw [hcomplete.core_eq] at htimedOut
    dsimp only
    rw [if_pos (by simp [honline, hwait])]
    split
    case h_1 id' hactive' =>
      obtain rfl := Option.some.inj (hactive.symm.trans hactive')
      exact ⟨_, _, .timedOut hwait hactive, hstopped.quiet_trans (hcomplete.trans htimedOut), nofun,
        fun hoffline => absurd (honline.symm.trans hoffline) (by decide)⟩
    case h_2 hnone => cases hactive.symm.trans hnone
  · exact .of_acts h rfl rfl (.refl c) fun _ => rfl

omit [IMasterTask τ] in
/-- An unsolicited response leaves the tasks alone. -/
theorem acts_processUnsolicitedResponse (header : APDUResponseHeader) (objects : List UInt8)
    (c : MContext τ) : Acts c (c.processUnsolicitedResponse header objects) c.core [] := by
  unfold processUnsolicitedResponse
  split_ifs
  · exact .refl c
  dsimp only
  have hdelivers : Acts c (c.emit (.measurements objects
      (MeasurementHandler.processMeasurements objects).1
      (MeasurementHandler.processMeasurements objects).2)) c.core [] := (Acts.refl c).emit rfl rfl
  split_ifs
  · have hqueue := hdelivers.quiet_trans
      (acts_queueConfirm (confirmHeader header.control.seq true) _)
    exact (hqueue.quiet_trans (acts_processIIN ..)).cast hqueue.core_eq
  · exact (hdelivers.quiet_trans (acts_processIIN ..)).cast hdelivers.core_eq

/-- The response that the active task waits for. -/
theorem acts_answer {env : Env} {c : MContext τ} {header : APDUResponseHeader}
    {objects : List UInt8} {id : TaskId} {object : TaskObject τ} {result : ResponseResult}
    {task' : Task τ} (hwait : c.tstate = .WAIT_FOR_RESPONSE) (hseq : header.control.seq = c.solSeq)
    (hactive : c.activeTask = some id) (hobject : c.objects[id]? = some object)
    (hprocess : object.task.processResponse env header objects = (result, task')) :
    ∃ k' acts, Finishes env id (c.core.answer.setTask id task') result k' acts ∧
      Acts c (c.onResponseWaitForResponse env header objects) k' acts ∧
      (k'.tstate = .TASK_READY →
        (c.onResponseWaitForResponse env header objects).isSending = true) := by
  have hanswer : Acts c { c with responseTimer := false, solSeq := nextSeq c.solSeq } c.core.answer
      [] := .of_eq rfl rfl
  obtain ⟨hresult, hresponse⟩ := acts_onTaskResponse
    (c := { c with responseTimer := false, solSeq := nextSeq c.solSeq }) hobject hprocess
  unfold onResponseWaitForResponse
  rw [if_neg (not_not.mpr hseq)]
  dsimp only
  split
  case h_1 hnone => cases hactive.symm.trans hnone
  case h_2 id' hactive' =>
    obtain rfl := Option.some.inj (hactive.symm.trans hactive')
    split
    case h_1 hnone => cases hobject.symm.trans hnone
    case h_2 object' hobject' =>
      obtain rfl := Option.some.inj (hobject.symm.trans hobject')
      rw [hresult]
      generalize (MContext.onTaskResponse env id object header objects _).2 = c₁ at hresponse ⊢
      -- The confirm of the response goes first.
      obtain ⟨c₂, hc₂, hconfirm⟩ : ∃ c₂, (if header.control.con = true then
          c₁.queueConfirm (confirmHeader header.control.seq false) else c₁) = c₂ ∧
          Acts c₁ c₂ c₁.core [] := by
        refine ⟨_, rfl, ?_⟩
        split_ifs
        · exact acts_queueConfirm ..
        · exact .refl c₁
      rw [hc₂]
      have hbefore := hanswer.quiet_trans (hresponse.trans_quiet
        (hconfirm.cast hresponse.core_eq))
      have hcore := hbefore.core_eq
      have htask₂ : c₂.core.taskList[id]? = some task' := by
        have hlt := (List.getElem?_eq_some_iff.mp (core_getElem? hobject)).1
        rw [hcore]
        exact List.getElem?_set_self hlt
      obtain ⟨k', acts, hfinishes, hacts, hready⟩ := acts_finishResponse env
        ((congrArg Core.activeTask hcore).trans hactive) htask₂
        ((congrArg Core.tstate hcore).trans hwait) result
      rw [hcore] at hfinishes
      exact ⟨k', _, hfinishes, hbefore.trans hacts, hready⟩

/-- An unsolicited response leaves the tasks alone. -/
theorem handles_processUnsolicitedResponse {env : Env} {message : Message} {c : MContext τ}
    (h : Session c.core c.isSending) (honline : c.isOnline = true) (header : APDUResponseHeader)
    (objects : List UInt8) :
    Handles env (.receive message) c (c.processUnsolicitedResponse header objects) :=
  .of_acts h rfl rfl (acts_processUnsolicitedResponse header objects c) fun hoffline =>
    absurd (honline.symm.trans hoffline) (by decide)

/-- The response that is waited for goes to the active task. -/
theorem handles_answer {env : Env} {message : Message} {c : MContext τ}
    {header : APDUResponseHeader}
    {objects : List UInt8} (h : Session c.core c.isSending)
    (hparse : parseResponse message.payload = some (header, objects))
    (hfunction : header.function = .RESPONSE) (hwait : c.tstate = .WAIT_FOR_RESPONSE)
    (hseq : header.control.seq = c.solSeq) :
    Handles env (.receive message) c (c.onResponseWaitForResponse env header objects) := by
  obtain ⟨id, object, hactive, hobject, honline⟩ := exists_activeTask h (by rw [hwait]; decide)
  obtain ⟨result, task', hprocess⟩ : ∃ result task',
      object.task.processResponse env header objects = (result, task') := ⟨_, _, rfl⟩
  obtain ⟨k', acts, hfinishes, hacts, hready⟩ := acts_answer hwait hseq hactive hobject hprocess
  refine ⟨k', acts, .answered hparse hfunction hwait hseq hactive (core_getElem? hobject) hprocess
    hfinishes, hacts, hready, fun hoffline => ?_⟩
  rw [hfinishes.isOnline_eq] at hoffline
  exact absurd (honline.symm.trans hoffline) (by decide)

/-- Any other response is ignored. -/
theorem handles_processResponse (env : Env) {message : Message} {c : MContext τ}
    {header : APDUResponseHeader} {objects : List UInt8} (h : Session c.core c.isSending)
    (honline : c.isOnline = true) (hparse : parseResponse message.payload = some (header, objects))
    (hfunction : header.function = .RESPONSE) :
    Handles env (.receive message) c (c.processResponse env header objects) := by
  have hiin : ∀ {c' : MContext τ}, Handles env (.receive message) c c' →
      Handles env (.receive message) c (c'.processIIN header.IIN) := by
    rintro c' ⟨k', acts, hturns, hacts, hready, -⟩
    have hquiet := acts_processIIN header.IIN c'
    rw [hacts.core_eq] at hquiet
    refine ⟨k', acts, hturns, hacts.trans_quiet hquiet, fun hready' => hquiet.isSending_eq
      (hready hready'), fun hoffline => ?_⟩
    rw [hturns.isOnline_eq] at hoffline
    exact absurd (honline.symm.trans hoffline) (by decide)
  have hsame : Handles env (.receive message) c c :=
    .of_acts h rfl rfl (.refl c) fun hoffline => absurd (honline.symm.trans hoffline) (by decide)
  unfold processResponse
  apply hiin
  split_ifs with hwait
  · by_cases hseq : header.control.seq = c.solSeq
    · exact handles_answer h hparse hfunction hwait hseq
    · unfold onResponseWaitForResponse
      rw [if_pos hseq]
      exact hsame
  · exact hsame

/-- A message that does not parse is dropped. -/
theorem handles_onReceive (env : Env) (message : Message) {c : MContext τ}
    (h : Session c.core c.isSending) :
    Handles env (.receive message) c (c.onReceive env message) := by
  have hsame : Handles env (.receive message) c c := .of_acts h rfl rfl (.refl c) fun _ => rfl
  unfold onReceive
  split_ifs with honline
  · exact hsame
  · exact hsame
  · exact hsame
  split
  · exact hsame
  case h_2 header objects hparse =>
    have honline : c.isOnline = true := by simpa using honline
    unfold processAPDU
    split
    case h_1 => exact handles_processUnsolicitedResponse h honline header objects
    case h_2 hfunction => exact handles_processResponse env h honline hparse hfunction
    case h_3 => exact hsame

/-- A call of `Run` is rejected while a task is active. -/
theorem handles_rejected (env : Env) {c : MContext τ} (h : Session c.core c.isSending) {id : TaskId}
    (hbusy : c.activeTask ≠ none ∨ c.tstate ≠ .IDLE ∨ c.core.taskList.length ≤ id) :
    Handles env (.run id) c c :=
  ⟨_, _, .rejected hbusy, .refl c, h.ready, fun hoffline => (h.online hoffline).2⟩

/-- A call of `Run` starts the task. -/
theorem handles_runTask (env : Env) {c : MContext τ} (h : Session c.core c.isSending)
    (honline : c.isOnline = true) {id : TaskId} (hid : id < c.objects.length) :
    Handles env (.run id) c (c.runTask env id) := by
  have hlost : ∀ {p : Prop}, c.isOnline = false → p := fun hoffline =>
    absurd (honline.symm.trans hoffline) (by decide)
  unfold runTask
  dsimp only
  split_ifs with hbusy hsending
  · -- Another task is active or a response is awaited.
    refine handles_rejected env h ?_
    rcases Bool.or_eq_true_iff.mp hbusy with hactive | hstate
    · exact .inl (Option.isSome_iff_ne_none.mp hactive)
    · exact .inr (.inl (of_decide_eq_true hstate))
  all_goals
    -- The runner is idle, so the task becomes the active one.
    have hidle : c.activeTask = none := by
      cases hactive : c.activeTask <;> simp_all
    have hobject : c.objects[id]? = some c.objects[id] := List.getElem?_eq_getElem hid
    have htask := core_getElem? hobject
    have hready : Acts c { c with tstate := .TASK_READY, activeTask := some id }
        { c.core.ready with activeTask := some id } [] := .of_eq rfl rfl
    have hstart := acts_startTask (c := { c with tstate := .TASK_READY, activeTask := some id })
      hobject
    have hstarted := hready.quiet_trans hstart
  · exact ⟨_, _, .waits hidle htask, hstarted, fun _ => hsending, fun hoffline => hlost hoffline⟩
  · have htask' : (({ c with tstate := .TASK_READY, activeTask := some id } : MContext τ).startTask
        id).core.taskList[id]? = some c.objects[id].task.initializeTask := by
      rw [hstarted.core_eq]
      exact List.getElem?_set_self (List.getElem?_eq_some_iff.mp htask).1
    obtain ⟨k', acts, hresumes, hacts⟩ := acts_resumeActiveTask env
      (congrArg Core.activeTask hstarted.core_eq) htask' (by simpa using hsending)
    rw [hstarted.core_eq] at hresumes
    exact ⟨k', acts, .runs hidle htask hresumes, hstarted.quiet_trans hacts,
      fun hready' => absurd hready' hresumes.tstate_ne,
      fun hoffline => hlost (hresumes.isOnline_eq.symm.trans hoffline)⟩

omit [IMasterTask τ] in
/-- Every object of the master is a task. -/
theorem length_taskList (c : MContext τ) : c.core.taskList.length = c.objects.length :=
  List.length_map ..

omit [IMasterTask τ] in
/-- A task that is added is told to the scheduler. -/
theorem acts_add (id : TaskId) (c : MContext τ) : Acts c (c.emit (.add id)) c.core [.add id] :=
  .of_output (.add id) rfl rfl rfl

/-- A completion has nothing to do with the transmission in progress. -/
theorem completeTask_isSending (id : TaskId) (result : TaskCompletion) (now : ℤ) (c : MContext τ) :
    (c.completeTask id result now).isSending = c.isSending := by
  unfold completeTask
  split
  · rfl
  · cases result <;> first | rfl | exact addBlock_isSending ..

/-- A poll is added to the tasks of the master. -/
theorem handles_scheduleRecurringPollTask (env : Env) {c : MContext τ}
    (h : Session c.core c.isSending) (object : TaskObject τ) :
    Handles env (.scheduleRecurringPollTask object) c (c.scheduleRecurringPollTask object) := by
  have hbound : Acts c { c with
      objects := c.objects ++ [object]
      tasks := { c.tasks with boundTasks := c.tasks.boundTasks ++ [c.objects.length] } }
      { c.core with
        tasks := { c.tasks with boundTasks := c.tasks.boundTasks ++ [c.objects.length] }
        taskList := c.core.taskList ++ [object.task] } [] := by
    refine Acts.cast (.of_eq rfl rfl) ?_
    simp only [core, List.map_append, List.map_cons, List.map_nil]
  unfold scheduleRecurringPollTask
  dsimp only
  split_ifs with honline
  · refine ⟨_, _, .recurring, ?_, h.ready, fun hoffline =>
      absurd (honline.symm.trans hoffline) (by decide)⟩
    rw [if_pos (show c.core.isOnline = true from honline), length_taskList]
    exact (hbound.quiet_trans (acts_add ..)).cast hbound.core_eq
  · refine ⟨_, _, .recurring, ?_, h.ready, fun _ => (offline_spec h honline).2⟩
    rw [if_neg (show ¬c.core.isOnline = true from honline), length_taskList]
    exact hbound

/-- An adhoc task is added, and completed at once without a session. -/
theorem handles_scheduleAdhocTask (env : Env) {c : MContext τ} (h : Session c.core c.isSending)
    (object : TaskObject τ) :
    Handles env (.scheduleAdhocTask object) c (c.scheduleAdhocTask env object) := by
  have hadded : Acts c { c with objects := c.objects ++ [object] }
      { c.core with taskList := c.core.taskList ++ [object.task] } [] := by
    refine Acts.cast (.of_eq rfl rfl) ?_
    simp only [core, List.map_append, List.map_cons, List.map_nil]
  unfold scheduleAdhocTask
  dsimp only
  split_ifs with honline
  · refine ⟨_, _, .adhoc, ?_, h.ready, fun hoffline =>
      absurd (honline.symm.trans hoffline) (by decide)⟩
    rw [if_pos (show c.core.isOnline = true from honline), length_taskList]
    exact (hadded.quiet_trans (acts_add ..)).cast hadded.core_eq
  · -- Without a session the task fails at once.
    obtain ⟨hactive, hsending⟩ := offline_spec h honline
    have hobject : ({ c with objects := c.objects ++ [object] } : MContext τ).objects[
        c.objects.length]? = some object := by simp
    have hcomplete := acts_completeTask hobject .FAILURE_NO_COMMS env.now (by simp)
    rw [hadded.core_eq] at hcomplete
    refine ⟨_, _, .adhoc, ?_, fun hready => ?_, fun _ => ?_⟩
    · rw [if_neg (show ¬c.core.isOnline = true from honline), length_taskList]
      exact hadded.quiet_trans hcomplete
    · rw [h.ready hready] at hsending
      cases hsending
    · exact (completeTask_isSending ..).trans hsending

/-- Every event of a session does one of the things that `Turns` lists. -/
theorem handles_step (env : Env) (event : Event τ) {c : MContext τ}
    (h : Session c.core c.isSending) (hrun : ∀ id, event = .run id → c.isOnline = true) :
    Handles env event c (c.step (env, event)) := by
  cases event with
  | lowerLayerUp => exact handles_onLowerLayerUp env h
  | lowerLayerDown => exact handles_onLowerLayerDown env h
  | receive message => exact handles_onReceive env message h
  | txReady => exact handles_onTxReady env h
  | responseTimeout => exact handles_onResponseTimeout env h
  | run id =>
    show Handles env (.run id) c (if id < c.objects.length then c.runTask env id else c)
    split_ifs with hid
    · exact handles_runTask env h (hrun id rfl) hid
    · exact handles_rejected env h (.inr (.inr ((length_taskList c).trans_le (not_lt.mp hid))))
  | scheduleRecurringPollTask object => exact handles_scheduleRecurringPollTask env h object
  | scheduleAdhocTask object => exact handles_scheduleAdhocTask env h object

end Events

end MContext

end OpenDnp3.Master
