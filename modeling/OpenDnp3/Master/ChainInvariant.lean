import OpenDnp3.Master.FragmentChain

/-!
# The invariant of the recorded polls

The latest execution agrees with the active task of the master, and the executions of polls are
chains (`Recorder.Inv`). Of the events of a master only the response that the active task waits for
adds a fragment, so every event keeps this while the fragments of the poll in progress are counted.
-/

namespace OpenDnp3.Master

open App

open MeasurementHandler (processMeasurements)

/-! ## The invariant -/

/-- What the executions see of a master stays the same. -/
structure Core.Keeps {τ : Type*} (k k' : Core τ) : Prop where
  activeTask : k'.activeTask = k.activeTask
  tstate : k'.tstate = k.tstate
  solSeq : k'.solSeq = k.solSeq
  taskList : k.taskList <+: k'.taskList

namespace Recorder

variable {τ : Type*} [IMasterTask τ]

/-- `Run` is called of a master with a session, as the scheduler does
(`System.Inv.isOnline_of_taskToRun`). -/
def RunsOnline (r : Recorder τ) : Env × Event τ → Prop
  | (_, .run _) => r.context.isOnline = true
  | _ => True

instance (r : Recorder τ) : (e : Env × Event τ) → Decidable (r.RunsOnline e)
  | (_, .run _) => inferInstanceAs (Decidable (r.context.isOnline = true))
  | (_, .lowerLayerUp) | (_, .lowerLayerDown) | (_, .receive _) | (_, .txReady)
  | (_, .responseTimeout) | (_, .scheduleRecurringPollTask _) | (_, .scheduleAdhocTask _) =>
    isTrue trivial

/-- The executions agree with the master, and those of polls are chains. -/
structure Inv (r : Recorder τ) : Prop where
  session : Session r.context.core r.context.isSending
  solSeq_lt : r.context.solSeq < 16
  valid : ∀ x ∈ r.executions, x.task < r.context.core.taskList.length
  chains : ∀ x ∈ r.executions, r.context.core.IsPoll x.task → x.IsChain
  idle : r.executions = [] → r.context.activeTask = none
  sound : ∀ x xs, r.executions = x :: xs → x.Sound r.context.core

variable {r : Recorder τ} {e : Env × Event τ} {x : Execution} {xs : List Execution}

/-- An event is one of the turns of a master, and keeps its session. -/
theorem Inv.turns (h : r.Inv) (honline : r.RunsOnline e) :
    ∃ k' acts, Turns e.1 r.context.core e.2 k' acts ∧
      MContext.Acts (r.context.starting e.2) (r.context.step e) k' acts ∧
      Session (r.context.step e).core (r.context.step e).isSending := by
  obtain ⟨env, event⟩ := e
  have hrun : ∀ id, event = .run id → r.context.isOnline = true := by
    rintro id rfl
    exact honline
  obtain ⟨k', acts, hturns, hacts, hready, hoffline⟩ :=
    MContext.handles_step env event h.session hrun
  refine ⟨k', acts, hturns, hacts, ?_⟩
  rw [hacts.core_eq]
  exact hturns.session h.session hrun hready hoffline

omit [IMasterTask τ] in
/-- A task that was known is a poll if it is one now. -/
theorem isPoll_of_grows {k k' : Core τ} (hpolls : k.polls <+: k'.polls) {id : TaskId}
    (hid : id < k.taskList.length) (h : k'.IsPoll id) : k.IsPoll id := by
  have hlt : id < k.polls.length := by rwa [Core.length_polls]
  unfold Core.IsPoll at h ⊢
  rw [← h, List.getElem?_eq_getElem hlt]
  exact (List.prefix_iff_getElem?.mp hpolls id hlt).symm

/-- The latest execution has changed, or is new. -/
theorem Inv.update (h : r.Inv) (honline : r.RunsOnline e)
    (hexecutions : (r.step e).executions = x :: xs) (hxs : ∀ y ∈ xs, y ∈ r.executions)
    (htask : x.task < r.context.core.taskList.length)
    (hsound : x.Sound (r.context.step e).core) : (r.step e).Inv := by
  obtain ⟨k', acts, hturns, hacts, hsession⟩ := h.turns honline
  have hpolls := hturns.polls_prefix
  have hseq := hturns.solSeq_lt h.solSeq_lt
  rw [← hacts.core_eq] at hpolls hseq
  have hlength : r.context.core.taskList.length ≤ (r.context.step e).core.taskList.length := by
    rw [← Core.length_polls, ← Core.length_polls]
    exact hpolls.length_le
  refine ⟨hsession, hseq, fun y hy => ?_, fun y hy => ?_, fun hnil => ?_, fun y ys hy => ?_⟩
  · rw [hexecutions] at hy
    rcases List.mem_cons.mp hy with rfl | hy
    · exact htask.trans_le hlength
    · exact (h.valid y (hxs y hy)).trans_le hlength
  · rw [hexecutions] at hy
    rcases List.mem_cons.mp hy with rfl | hy
    · exact hsound.chain
    · exact fun hpoll => h.chains y (hxs y hy)
        (isPoll_of_grows hpolls (h.valid y (hxs y hy)) hpoll)
  · rw [hexecutions] at hnil
    cases hnil
  · obtain ⟨rfl, -⟩ := List.cons.inj (hexecutions.symm.trans hy)
    exact hsound

/-- The executions stay as they are. -/
theorem Inv.keep (h : r.Inv) (honline : r.RunsOnline e)
    (hexecutions : (r.step e).executions = r.executions)
    (hkeeps : r.context.core.Keeps (r.context.step e).core) : (r.step e).Inv := by
  cases hr : r.executions with
  | nil =>
    obtain ⟨k', acts, hturns, hacts, hsession⟩ := h.turns honline
    have hseq := hturns.solSeq_lt h.solSeq_lt
    rw [← hacts.core_eq] at hseq
    rw [hr] at hexecutions
    exact ⟨hsession, hseq, by simp [hexecutions], by simp [hexecutions],
      fun _ => hkeeps.activeTask.trans (h.idle hr), by simp [hexecutions]⟩
  | cons x xs =>
    have hmem : x ∈ r.executions := by rw [hr]; exact List.mem_cons_self ..
    have hold := h.sound x xs hr
    -- The task of the last execution is the same one, at the same stage.
    have htask : (r.context.step e).core.taskList[x.task]? = r.context.core.taskList[x.task]? := by
      have hlt := h.valid x hmem
      rw [List.getElem?_eq_getElem hlt]
      exact List.prefix_iff_getElem?.mp hkeeps.taskList x.task hlt
    refine h.update honline (hexecutions.trans hr) (fun y hy => ?_) (h.valid x hmem)
      ⟨hkeeps.activeTask.trans hold.active, fun hpoll => ?_, fun hopen task htask' => ?_⟩
    · rw [hr]
      exact List.mem_cons_of_mem _ hy
    · refine hold.chain ?_
      obtain ⟨task, htask'⟩ := Core.isPoll_iff.mp hpoll
      exact Core.isPoll_iff.mpr ⟨task, htask.symm.trans htask'⟩
    · cases hold.stage hopen task (htask.symm.trans htask') with
      | ready hstate hrequest hfragments hcount =>
        exact .ready (hkeeps.tstate.trans hstate) hrequest hfragments hcount
      | awaiting hstate hrequest hsolSeq hlength hcount =>
        exact .awaiting (hkeeps.tstate.trans hstate) hrequest (hkeeps.solSeq.trans hsolSeq) hlength
          hcount

/-- An execution that is open takes note of the step. -/
theorem step_executions_open (hr : r.executions = x :: xs) (hopen : x.ending = none)
    (hstarted : r.context.started e.2 = none) :
    (r.step e).executions = x.record r.context e :: xs := by
  simp [step, known, hstarted, hr, hopen]

/-- A task that starts begins an execution. -/
theorem step_executions_started {id : TaskId} (hstarted : r.context.started e.2 = some id) :
    (r.step e).executions = Execution.record r.context e { task := id } :: r.executions := by
  simp [step, known, hstarted]

/-- What is noted of the execution in progress. -/
theorem record_eq (hcloses : ¬MContext.Closes r.context e) {k' : Core τ} {acts : List Output}
    (hacts : MContext.Acts (r.context.starting e.2) (r.context.step e) k' acts) (x : Execution) :
    x.record r.context e =
      { x with
        request := (acts.findSome? Output.requested).or x.request
        fragments := x.fragments ++ (r.context.handedOver e).toList
        ending := (acts.findSome? (Output.result x.task)).map .completed } := by
  obtain ⟨hrequested, hresult⟩ := MContext.outputs_acts hacts
  unfold Execution.record MContext.ending
  rw [hrequested, hresult, if_neg hcloses]

/-- Nothing is noted. -/
theorem step_executions_quiet (h : r.Inv) (hstarted : r.context.started e.2 = none)
    (hcloses : ¬MContext.Closes r.context e) (hhanded : r.context.handedOver e = none)
    {k' : Core τ} {acts : List Output}
    (hacts : MContext.Acts (r.context.starting e.2) (r.context.step e) k' acts)
    (hrequested : acts.findSome? Output.requested = none)
    (hresult : ∀ id < r.context.core.taskList.length, acts.findSome? (Output.result id) = none) :
    (r.step e).executions = r.executions := by
  cases hr : r.executions with
  | nil => simp [step, known, hstarted, hr]
  | cons x xs =>
    by_cases hopen : x.ending = none
    · have htask := h.valid x (by rw [hr]; exact List.mem_cons_self ..)
      rw [step_executions_open hr hopen hstarted, record_eq hcloses hacts, hrequested,
        hresult x.task htask, hhanded, Option.none_or, Option.toList_none, List.append_nil,
        Option.map_none, ← hopen]
    · simp [step, known, hstarted, hr, hopen]

omit [IMasterTask τ] in
/-- The execution of the active task is the latest one. -/
theorem Inv.exists_open (h : r.Inv) {id : TaskId} (hactive : r.context.activeTask = some id) :
    ∃ x xs, r.executions = x :: xs ∧ x.ending = none ∧ x.task = id := by
  cases hr : r.executions with
  | nil =>
    rw [h.idle hr] at hactive
    cases hactive
  | cons x xs =>
    have hsound := (h.sound x xs hr).active
    rw [show r.context.core.activeTask = some id from hactive] at hsound
    split_ifs at hsound with hopen
    exact ⟨x, xs, rfl, hopen, (Option.some.inj hsound).symm⟩

omit [IMasterTask τ] in
/-- A call of `Run` that starts a task. -/
theorem Inv.started_eq (h : r.Inv) {id : TaskId} {task : Task τ}
    (hidle : r.context.core.activeTask = none) (htask : r.context.core.taskList[id]? = some task) :
    r.context.started (.run id) = some id := by
  have hstate : r.context.tstate = .IDLE := by
    by_contra hne
    have hactive := h.session.active.mpr hne
    rw [hidle] at hactive
    cases hactive
  have hlt : id < r.context.objects.length := by
    rw [← MContext.length_taskList]
    exact (List.getElem?_eq_some_iff.mp htask).1
  exact if_pos ⟨hidle, hstate, hlt⟩

omit [IMasterTask τ] in
/-- A call of `Run` that starts no task. -/
theorem started_eq_none {id : TaskId} (hbusy : r.context.core.activeTask ≠ none ∨
    r.context.core.tstate ≠ .IDLE ∨ r.context.core.taskList.length ≤ id) :
    r.context.started (.run id) = none := by
  refine if_neg ?_
  rintro ⟨hidle, hstate, hlt⟩
  rw [MContext.length_taskList] at hbusy
  rcases hbusy with hactive | hstate' | hle
  · exact hactive hidle
  · exact hstate' hstate
  · exact absurd hlt (not_lt.mpr hle)

/-- A new execution waits for its request. -/
theorem stage_started {k : Core τ} {id : TaskId} {task : Task τ}
    (htask : k.taskList[id]? = some task) {poll : PollTask}
    (hpoll : (k.setTask id task.initializeTask).taskList[id]? = some (.poll poll)) :
    Execution.Stage { task := id }
      { (k.setTask id task.initializeTask).ready with activeTask := some id } poll := by
  have hinit : task.initializeTask = .poll poll :=
    Option.some.inj ((getElem?_setTask_self htask).symm.trans hpoll)
  cases task with
  | other task => cases hinit
  | poll task =>
    obtain rfl := Task.poll.inj hinit
    exact .ready rfl rfl rfl rfl

/-- An event without a message keeps the invariant. -/
theorem Inv.step_of_not_receive (h : r.Inv) (honline : r.RunsOnline e)
    (hcloses : ¬MContext.Closes r.context e) (hreceive : ∀ message, e.2 ≠ .receive message) :
    (r.step e).Inv := by
  obtain ⟨k', acts, hturns, hacts, -⟩ := h.turns honline
  have hhanded := r.context.handedOver_of_not_receive hreceive
  have hcore := hacts.core_eq
  -- An event that says nothing of the execution in progress.
  have hquiet : r.context.started e.2 = none → acts.findSome? Output.requested = none →
      (∀ id < r.context.core.taskList.length, acts.findSome? (Output.result id) = none) →
        r.context.core.Keeps k' → (r.step e).Inv := by
    intro hstarted hrequested hresult hkeeps
    exact h.keep honline
      (step_executions_quiet h hstarted hcloses hhanded hacts hrequested hresult)
      (by rwa [hcore])
  -- An event of the execution in progress.
  have hopen : ∀ id, r.context.activeTask = some id → r.context.started e.2 = none →
      ∃ x xs, r.executions = x :: xs ∧ x.ending = none ∧ x.task = id ∧
        ((Execution.Sound { x with
            request := (acts.findSome? Output.requested).or x.request
            ending := (acts.findSome? (Output.result x.task)).map .completed } k') →
          (r.step e).Inv) := by
    intro id hactive hstarted
    obtain ⟨x, xs, hr, hending, htask⟩ := h.exists_open hactive
    refine ⟨x, xs, hr, hending, htask, fun hsound => ?_⟩
    have hexecutions := step_executions_open hr hending hstarted
    rw [record_eq hcloses hacts, hhanded, Option.toList_none, List.append_nil] at hexecutions
    have hmem : x ∈ r.executions := by rw [hr]; exact List.mem_cons_self ..
    refine h.update honline hexecutions (fun y hy => ?_) (h.valid x hmem) (by rwa [hcore])
    rw [hr]
    exact List.mem_cons_of_mem _ hy
  -- An event that starts a new execution.
  have hnew : ∀ id, r.context.started e.2 = some id → id < r.context.core.taskList.length →
      (Execution.Sound
        { task := id
          request := (acts.findSome? Output.requested).or none
          ending := (acts.findSome? (Output.result id)).map .completed } k') →
        (r.step e).Inv := by
    intro id hstarted hid hsound
    have hexecutions := step_executions_started hstarted
    rw [record_eq hcloses hacts, hhanded] at hexecutions
    exact h.update honline hexecutions (fun y hy => hy) hid (by rwa [hcore])
  obtain ⟨env, event⟩ := e
  dsimp only at hturns hquiet hopen hnew
  cases hturns with
  | quiet hrun =>
    refine hquiet ?_ rfl (fun _ _ => rfl) ⟨rfl, rfl, rfl, List.prefix_refl _⟩
    cases event <;> first | rfl | cases hrun
  | rejected hbusy =>
    exact hquiet (started_eq_none hbusy) rfl (fun _ _ => rfl) ⟨rfl, rfl, rfl, List.prefix_refl _⟩
  | up hoffline =>
    refine hquiet rfl ?_ (fun id _ => ?_) ⟨rfl, rfl, rfl, List.prefix_refl _⟩
    · simp [Output.requested]
    · simp [Output.result]
  | down honline' => exact absurd ⟨rfl, honline'⟩ hcloses
  | answered _ _ _ _ _ _ _ _ => exact absurd rfl (hreceive _)
  | @sent id _ _ hready hactive hresume =>
    obtain ⟨x, xs, hr, hending, rfl, hsound⟩ := hopen id hactive rfl
    have hold := h.sound x xs hr
    exact hsound (.resumed hresume hactive h.solSeq_lt hending hold.chain
      (fun task htask => ⟨hold.stage hending task htask, hready⟩) rfl)
  | timedOut hwait hactive =>
    obtain ⟨x, xs, hr, hending, rfl, hsound⟩ := hopen _ hactive rfl
    have hold := h.sound x xs hr
    refine hsound (.of_ended rfl ?_ fun hpoll => ?_)
    · simp [Output.result]
    · exact (hold.chain hpoll).of_fragments hending rfl rfl (by simp [Output.result])
  | waits hidle htask =>
    refine hnew _ (h.started_eq hidle htask) (List.getElem?_eq_some_iff.mp htask).1
      ⟨rfl, fun _ => .of_nil rfl (by simp), fun _ poll hpoll => ?_⟩
    exact stage_started htask hpoll
  | @runs id task _ _ hidle htask hresume =>
    refine hnew _ (h.started_eq hidle htask) (List.getElem?_eq_some_iff.mp htask).1
      (.resumed (x := { task := id }) hresume rfl h.solSeq_lt rfl (fun _ => .of_nil rfl (by simp))
        (fun poll hpoll => ?_) rfl)
    exact ⟨stage_started htask hpoll, rfl⟩
  | recurring =>
    refine hquiet rfl ?_ (fun id hid => ?_) ⟨rfl, rfl, rfl, List.prefix_append ..⟩
    · split_ifs <;> rfl
    · split_ifs <;> rfl
  | adhoc =>
    refine hquiet rfl ?_ (fun id hid => ?_) ⟨rfl, rfl, rfl, List.prefix_append ..⟩
    · split_ifs <;> rfl
    · split_ifs
      · rfl
      · simp [Output.result, hid.ne']

/-- The end of the session ends the execution. -/
theorem Inv.step_of_closes (h : r.Inv) (hcloses : MContext.Closes r.context e) :
    (r.step e).Inv := by
  obtain ⟨env, event⟩ := e
  obtain ⟨rfl, honline⟩ : event = .lowerLayerDown ∧ r.context.isOnline = true := id hcloses
  have hout : r.context.outputs (env, .lowerLayerDown) = [.setRunnerOffline, .onClose] := by
    simp [MContext.outputs, MContext.step, MContext.onLowerLayerDown, honline, MContext.emit]
  have hidle : (r.context.step (env, .lowerLayerDown)).core.activeTask = none := by
    simp [MContext.step, MContext.onLowerLayerDown, honline, MContext.emit, MContext.core]
  have hseq : (r.context.step (env, .lowerLayerDown)).solSeq = 0 := by
    simp [MContext.step, MContext.onLowerLayerDown, honline, MContext.emit]
  cases hr : r.executions with
  | nil =>
    have hexecutions : (r.step (env, .lowerLayerDown)).executions = [] := by
      simp [step, known, MContext.started, hr]
    obtain ⟨k', acts, -, -, hsession⟩ := h.turns (e := (env, .lowerLayerDown)) trivial
    exact ⟨hsession, hseq.trans_lt (by decide), by simp [hexecutions], by simp [hexecutions],
      fun _ => hidle, by simp [hexecutions]⟩
  | cons x xs =>
    have hmem : x ∈ r.executions := by rw [hr]; exact List.mem_cons_self ..
    have hold := h.sound x xs hr
    have hrest : ∀ y ∈ xs, y ∈ r.executions := by
      rw [hr]
      exact fun y hy => List.mem_cons_of_mem _ hy
    have hpoll : (r.context.step (env, .lowerLayerDown)).core.IsPoll x.task →
        r.context.core.IsPoll x.task := by
      simp [MContext.step, MContext.onLowerLayerDown, honline, MContext.emit, MContext.core,
        Core.IsPoll, Core.polls]
    -- An execution in progress ends with its session, and one that has ended is left.
    by_cases hopen : x.ending = none
    · have hrecord : x.record r.context (env, .lowerLayerDown) =
          { x with ending := some .sessionClosed } := by
        unfold Execution.record MContext.ending
        rw [hout, r.context.handedOver_of_not_receive (by simp), if_pos ⟨rfl, honline⟩]
        simp [List.findSome?, Output.requested]
      have hexecutions := step_executions_open (e := (env, .lowerLayerDown)) hr hopen rfl
      rw [hrecord] at hexecutions
      refine h.update trivial hexecutions hrest (h.valid x hmem) (.of_ended hidle (by simp) ?_)
      exact fun h => (hold.chain (hpoll h)).of_fragments hopen rfl rfl (by simp)
    · have hexecutions : (r.step (env, .lowerLayerDown)).executions = x :: xs := by
        simp [step, known, MContext.started, hr, hopen]
      exact h.update trivial hexecutions hrest (h.valid x hmem)
        (.of_ended hidle hopen fun h => hold.chain (hpoll h))

/-! ### Messages -/

variable {env : Env} {message : Message} {header : APDUResponseHeader} {objects : List UInt8}

/-- A message that the active task does not wait for changes nothing. -/
theorem Inv.step_of_not_awaits (h : r.Inv)
    (hnot : ∀ header objects, ¬r.context.Awaits message header objects) :
    (r.step (env, .receive message)).executions = r.executions ∧
      (r.context.step (env, .receive message)).core = r.context.core ∧
      (r.step (env, .receive message)).Inv := by
  have hacts := MContext.acts_onReceive env hnot
  have hexecutions := step_executions_quiet (e := (env, .receive message)) h rfl
    (fun hcloses => nomatch hcloses.1) (MContext.handedOver_of_not_awaits env hnot) hacts rfl
      fun _ _ => rfl
  refine ⟨hexecutions, hacts.core_eq, h.keep trivial hexecutions ?_⟩
  rw [show (r.context.step (env, .receive message)).core = r.context.core from hacts.core_eq]
  exact ⟨rfl, rfl, rfl, List.prefix_refl _⟩

/-- The response that the active task waits for is noted of the latest execution. -/
theorem Inv.step_of_awaits (h : r.Inv) (hawaits : r.context.Awaits message header objects)
    (env : Env) :
    ∃ x xs task result task' k' acts, r.executions = x :: xs ∧ x.ending = none ∧
      r.context.core.taskList[x.task]? = some task ∧
      task.processResponse env header objects = (result, task') ∧
      Finishes env x.task (r.context.core.answer.setTask x.task task') result k' acts ∧
      (r.context.step (env, .receive message)).core = k' ∧
      (r.step (env, .receive message)).executions =
        { x with
          request := (acts.findSome? Output.requested).or x.request
          fragments := x.fragments ++
            if (task.measurements header objects).any
              fun parsed => (processMeasurements parsed).1 = .OK
            then [(header, objects)] else []
          ending := (acts.findSome? (Output.result x.task)).map .completed } :: xs := by
  obtain ⟨id, object, hactive, hobject, -⟩ :=
    MContext.exists_activeTask h.session (by rw [hawaits.tstate]; decide)
  obtain ⟨x, xs, hr, hopen, rfl⟩ := h.exists_open hactive
  obtain ⟨result, task', hprocess⟩ : ∃ result task',
      object.task.processResponse env header objects = (result, task') := ⟨_, _, rfl⟩
  obtain ⟨k', acts, hfinishes, hacts⟩ := hawaits.acts hactive hobject hprocess
  have hexecutions := step_executions_open (e := (env, .receive message)) hr hopen rfl
  rw [record_eq (e := (env, .receive message)) (fun hcloses => nomatch hcloses.1) hacts,
    hawaits.handedOver_eq env hactive hobject] at hexecutions
  refine ⟨x, xs, object.task, result, task', k', acts, hr, hopen, MContext.core_getElem? hobject,
    hprocess, hfinishes, hacts.core_eq, hexecutions.trans ?_⟩
  split_ifs <;> rfl

omit [IMasterTask τ] in
/-- How far the poll in progress is. -/
theorem Inv.exists_stage (h : r.Inv) (hpolls : r.Polls x xs) :
    ∃ task, r.context.core.taskList[x.task]? = some (.poll task) ∧ x.Stage r.context.core task := by
  obtain ⟨task, htask⟩ := Core.isPoll_iff.mp hpolls.isPoll
  exact ⟨task, htask, (h.sound x xs hpolls.executions).stage hpolls.ending task htask⟩

omit [IMasterTask τ] in
/-- The poll in progress is a chain. -/
theorem Inv.isChain (h : r.Inv) (hpolls : r.Polls x xs) : x.IsChain :=
  (h.sound x xs hpolls.executions).chain hpolls.isPoll

omit [IMasterTask τ] in
/-- The poll in progress expects the response that the master waits for. -/
theorem Inv.expects_iff (h : r.Inv) (hpolls : r.Polls x xs) :
    x.Expects r.context message header objects ↔ r.context.Awaits message header objects := by
  obtain ⟨task, -, hstage⟩ := h.exists_stage hpolls
  cases hstage with
  | ready hstate hrequest _ _ =>
    constructor
    · rintro ⟨-, -, hnext⟩
      rw [Execution.nextSeq, hrequest] at hnext
      cases hnext
    · intro hawaits
      cases hstate.symm.trans hawaits.tstate
  | awaiting hstate hrequest hsolSeq _ _ =>
    have hnext : x.nextSeq = some r.context.solSeq := by
      rw [Execution.nextSeq, hrequest, Option.map_some, ← hsolSeq]
      rfl
    constructor
    · rintro ⟨haccepted, hfunction, hseq⟩
      exact ⟨haccepted, hfunction, hstate, (Option.some.inj (hnext.symm.trans hseq)).symm⟩
    · rintro ⟨haccepted, hfunction, -, hseq⟩
      exact ⟨haccepted, hfunction, by rw [hnext, hseq]⟩

/-- The poll takes the response: it expects the fragment, and the parser accepts its objects. -/
def takes (task : PollTask) (header : APDUResponseHeader) (objects : List UInt8) : Bool :=
  task.expects header && (processMeasurements objects).1 = .OK

omit [IMasterTask τ] in
/-- The poll hands its measurements over where it takes the response. -/
theorem any_measurements (task : PollTask) (header : APDUResponseHeader) (objects : List UInt8) :
    ((Task.poll task : Task τ).measurements header objects).any
      (fun parsed => (processMeasurements parsed).1 = .OK) = takes task header objects := by
  unfold takes
  show (if task.expects header then some objects else none).any _ = _
  cases task.expects header <;> simp

/-- What the poll in progress makes of the response that it waits for. -/
theorem Inv.step_of_poll (h : r.Inv) (hpolls : r.Polls x xs)
    (hawaits : r.context.Awaits message header objects) {task : PollTask}
    (htask : r.context.core.taskList[x.task]? = some (.poll task)) (env : Env) :
    (r.step (env, .receive message)).executions =
        (if takes task header objects then x.extend header objects else x.fail) :: xs ∧
      (r.context.step (env, .receive message)).core =
        if takes task header objects ∧ header.control.fin = false then
          { r.context.core.answer.setTask x.task
            (.poll { task with rxCount := task.rxCount + 1 }) with
            responseTimer := true }
        else (r.context.core.answer.setTask x.task
          (.poll (task.processResponse header objects).2)).idle := by
  obtain ⟨x', xs', task₁, result, task', k', acts, hr, -, htask₁, hprocess, hfinishes, hcore,
    hexecutions⟩ := h.step_of_awaits hawaits env
  obtain ⟨rfl, rfl⟩ := List.cons.inj (hpolls.executions.symm.trans hr)
  obtain rfl := Option.some.inj (htask.symm.trans htask₁)
  have hresult : (task.processResponse header objects).1 = result := congrArg Prod.fst hprocess
  obtain rfl : .poll (task.processResponse header objects).2 = task' := congrArg Prod.snd hprocess
  rw [any_measurements] at hexecutions
  rw [hexecutions, hcore]
  -- A fragment that is not taken ends the execution with a failure.
  cases htakes : takes task header objects with
  | false =>
    have hbad := PollTask.processResponse_of_not_takes htakes
    obtain rfl : ResponseResult.ERROR_BAD_RESPONSE = result := hbad.symm.trans hresult
    cases hfinishes with
    | bad => exact ⟨by simp [List.findSome?, Output.requested, Output.result, Execution.fail], rfl⟩
  | true =>
    -- A fragment that is taken is handed over, and the last one ends the execution.
    have hgood := PollTask.processResponse_of_takes htakes
    rw [hgood] at hresult hfinishes
    rw [hgood]
    cases hfin : header.control.fin with
    | true =>
      rw [hfin] at hresult
      obtain rfl : ResponseResult.OK_FINAL = result := hresult
      cases hfinishes with
      | final =>
        exact ⟨by simp [List.findSome?, Output.requested, Output.result,
          Execution.extend, hfin], rfl⟩
    | false =>
      rw [hfin] at hresult
      obtain rfl : ResponseResult.OK_CONTINUE = result := hresult
      cases hfinishes with
      | continues => exact ⟨by simp [Execution.extend, hfin], rfl⟩

/-- The poll takes what goes on with its chain, as long as the count of the fragments is right. -/
theorem takes_eq_fits {task : PollTask} (hcount : task.rxCount = .ofNat x.fragments.length)
    (hlt : (processMeasurements objects).1 = .OK → x.fragments.length < 2 ^ 32) :
    takes task header objects = x.fits header objects := by
  unfold takes Execution.fits
  by_cases hok : (processMeasurements objects).1 = .OK
  · rw [PollTask.expects_eq hcount, Nat.mod_eq_of_lt (hlt hok)]
    cases x.fragments <;> rfl
  · simp [hok]

/-- The expected response of a poll whose fragments are counted. -/
theorem Inv.step_of_expected (h : r.Inv) (hpolls : r.Polls x xs)
    (hexpects : x.Expects r.context message header objects)
    (hcounted : (processMeasurements objects).1 = .OK → x.fragments.length < 2 ^ 32) (env : Env) :
    (r.step (env, .receive message)).executions =
        (if x.fits header objects then x.extend header objects else x.fail) :: xs ∧
      (r.step (env, .receive message)).Inv := by
  have hawaits := (h.expects_iff hpolls).mp hexpects
  obtain ⟨task, htask, hstage⟩ := h.exists_stage hpolls
  obtain ⟨hexecutions, hcore⟩ := h.step_of_poll hpolls hawaits htask env
  have hactive : r.context.core.activeTask = some x.task := by
    rw [(h.sound x xs hpolls.executions).active, if_pos hpolls.ending]
  have hchain := h.isChain hpolls
  have hmem : x ∈ r.executions := by rw [hpolls.executions]; exact List.mem_cons_self ..
  have hxs : ∀ y ∈ xs, y ∈ r.executions := by
    rw [hpolls.executions]
    exact fun y hy => List.mem_cons_of_mem _ hy
  cases hstage with
  | ready hstate _ _ _ => cases hstate.symm.trans hawaits.tstate
  | @awaiting seq hstate hrequest hsolSeq hlength hcount =>
    -- What the task takes is what fits the chain, as long as the count does not wrap.
    rw [takes_eq_fits hcount hcounted] at hexecutions hcore
    refine ⟨hexecutions, ?_⟩
    cases hfits : x.fits header objects with
    | false =>
      rw [hfits] at hcore
      rw [hfits, if_neg Bool.false_ne_true] at hexecutions
      refine h.update trivial hexecutions hxs (h.valid x hmem) (.of_ended ?_ nofun fun _ => ?_)
      · rw [hcore, if_neg (by simp)]
        rfl
      · exact hchain.of_fragments hpolls.ending rfl rfl (by simp [Execution.fail])
    | true =>
      rw [hfits] at hcore
      rw [hfits, if_pos rfl] at hexecutions
      obtain ⟨hfir, hok⟩ := Bool.and_eq_true_iff.mp hfits
      have hlonger := hchain.extend hpolls.ending hexpects.nextSeq (of_decide_eq_true hfir) objects
      refine h.update trivial hexecutions hxs (h.valid x hmem) ?_
      cases hfin : header.control.fin with
      | true =>
        refine .of_ended ?_ (by simp [Execution.extend, hfin]) fun _ => hlonger
        rw [hcore, if_neg (by simp [hfin])]
        rfl
      | false =>
        rw [if_pos ⟨rfl, hfin⟩] at hcore
        rw [hcore]
        refine ⟨?_, fun _ => hlonger, fun _ poll hpoll => ?_⟩
        · rw [if_pos (by simp [Execution.extend, hfin])]
          exact hactive
        · -- The count goes on with the chain.
          obtain rfl := Task.poll.inj
            (Option.some.inj ((getElem?_setTask_self (k := r.context.core.answer)
              htask).symm.trans hpoll))
          have hnew : (x.extend header objects).fragments.length = x.fragments.length + 1 :=
            List.length_append
          refine .awaiting hstate hrequest ?_ ?_ ?_
          · show nextSeq r.context.core.solSeq = _
            rw [hnew, hsolSeq, nextSeq]
            omega
          · rw [hnew]
            exact hcounted (of_decide_eq_true hok)
          · rw [hnew, hcount, UInt32.ofNat_add]
            rfl

/-- The response that another task waits for. -/
theorem Inv.step_of_other (h : r.Inv) (hawaits : r.context.Awaits message header objects)
    (hother : ∀ x xs, r.executions = x :: xs → ¬r.context.core.IsPoll x.task) (env : Env) :
    (r.step (env, .receive message)).Inv := by
  obtain ⟨x, xs, task, result, task', k', acts, hr, hopen, htask, hprocess, hfinishes, hcore,
    hexecutions⟩ := h.step_of_awaits hawaits env
  have hmem : x ∈ r.executions := by rw [hr]; exact List.mem_cons_self ..
  have hxs : ∀ y ∈ xs, y ∈ r.executions := by
    rw [hr]
    exact fun y hy => List.mem_cons_of_mem _ hy
  have hactive : r.context.core.activeTask = some x.task := by
    rw [(h.sound x xs hr).active, if_pos hopen]
  cases task with
  | poll task => exact absurd (Core.isPoll_iff.mpr ⟨task, htask⟩) (hother x xs hr)
  | other task =>
    have hpoll := Task.isPoll_processResponse env header objects (.other task : Task τ)
    rw [hprocess] at hpoll
    have hpolls : (r.context.core.answer.setTask x.task task').polls = r.context.core.polls :=
      polls_setTask (k := r.context.core.answer) htask hpoll
    -- A task that is no poll stays one that is none.
    have hnot : ¬(r.context.core.answer.setTask x.task task').IsPoll x.task := by
      unfold Core.IsPoll
      rw [hpolls]
      exact hother x xs hr
    have hnot' : ¬k'.IsPoll x.task := by
      unfold Core.IsPoll
      rw [hfinishes.polls_eq]
      exact hnot
    have hfragments : x.fragments ++
      (if ((Task.other task : Task τ).measurements header objects).any
        (fun parsed => (processMeasurements parsed).1 = .OK) then [(header, objects)] else []) =
          x.fragments := List.append_nil _
    rw [hfragments] at hexecutions
    refine h.update trivial hexecutions hxs (h.valid x hmem) ?_
    rw [hcore]
    have hopen' : ∀ {k : Core τ} {x' : Execution}, k.activeTask = some x.task → x'.ending = none →
        x'.task = x.task → ¬k.IsPoll x.task → x'.Sound k := by
      intro k x' hactive' hending' htask' hnot'
      refine ⟨?_, fun hpoll => ?_, fun _ poll hpoll => ?_⟩
      · rw [hactive', if_pos hending', htask']
      · rw [htask'] at hpoll
        exact absurd hpoll hnot'
      · rw [htask'] at hpoll
        exact absurd (Core.isPoll_iff.mpr ⟨poll, hpoll⟩) hnot'
    cases hfinishes with
    | bad => exact .of_ended rfl (by simp [Output.result]) fun hpoll => absurd hpoll hnot'
    | final => exact .of_ended rfl (by simp [Output.result]) fun hpoll => absurd hpoll hnot'
    | continues => exact hopen' hactive rfl rfl hnot'
    | waits => exact hopen' hactive rfl rfl hnot'
    | repeats hresume =>
      refine .resumed hresume hactive (Nat.mod_lt _ (by decide)) hopen
        (fun hpoll => absurd hpoll hnot) (fun poll hpoll => ?_) rfl
      exact absurd (Core.isPoll_iff.mpr ⟨poll, hpoll⟩) hnot

/-- The invariant is kept while the fragments are counted. -/
theorem Inv.step (h : r.Inv) (honline : r.RunsOnline e) (hcounted : r.Counted e) :
    (r.step e).Inv := by
  by_cases hcloses : MContext.Closes r.context e
  · exact h.step_of_closes hcloses
  by_cases hreceive : ∀ message, e.2 ≠ .receive message
  · exact h.step_of_not_receive honline hcloses hreceive
  push Not at hreceive
  obtain ⟨env, event⟩ := e
  obtain ⟨message, rfl⟩ : ∃ message, event = .receive message := hreceive
  by_cases hawaits : ∃ header objects, r.context.Awaits message header objects
  · obtain ⟨header, objects, hawaits⟩ := hawaits
    obtain ⟨x, xs, task, -, -, -, -, hr, hopen, htask, -⟩ := h.step_of_awaits hawaits env
    by_cases hpoll : r.context.core.IsPoll x.task
    · have hpolls : r.Polls x xs := ⟨hr, hopen, hpoll⟩
      have hexpects := (h.expects_iff hpolls).mpr hawaits
      exact (h.step_of_expected hpolls hexpects
        (hcounted x xs message header objects hpolls rfl hexpects) env).2
    · refine h.step_of_other hawaits (fun y ys hy => ?_) env
      obtain ⟨rfl, -⟩ := List.cons.inj (hr.symm.trans hy)
      exact hpoll
  · push Not at hawaits
    exact (h.step_of_not_awaits hawaits).2.2

end Recorder

end OpenDnp3.Master
