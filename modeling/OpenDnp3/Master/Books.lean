import OpenDnp3.Master.Scheduler
import OpenDnp3.Master.Session

/-!
# The books of the scheduler

Which tasks the scheduler holds, and which of them it has told the end. An event of a master changes
the books in one of a few ways (`Settles`). The books are right (`Ledger`) if every task that was
added is held or has been completed, once each, and the recurring ones are held as long as their
master is online.
-/

namespace OpenDnp3.Master

open App

/-! ## What an event of a master means to the books -/

/-- The output calls the scheduler for a task, or completes the task. -/
def Output.isBook : Output → Bool
  | .onTaskComplete _ _ | .add _ | .setRunnerOffline | .completeCurrentFor => true
  | _ => false

/-- The output completes this task. -/
def Output.completes (id : TaskId) : Output → Bool
  | .onTaskComplete task _ => task = id
  | _ => false

section Settles

variable {τ : Type*} [IScheduledTask τ]

/-- Which tasks of a master are recurring. -/
def Core.kinds (k : Core τ) : List Bool := k.taskList.map Task.isRecurring

/-- The tasks of `MasterTasks` are those that are recurring. -/
structure Core.WellFormed (k : Core τ) : Prop where
  nodup : k.tasks.all.Nodup
  mem_all_iff : ∀ id, id ∈ k.tasks.all ↔ k.kinds[id]? = some true

/-- What an event means to the books of a master whose task `active` is running. -/
inductive Settles (active : Option TaskId) (k k' : Core τ) : List Output → Prop where
  | same (honline : k'.isOnline = k.isOnline) (htasks : k'.tasks = k.tasks)
      (hkinds : k'.kinds = k.kinds) (hactive : k'.activeTask = active) : Settles active k k' []
  | up (hoffline : k.isOnline = false) (honline : k'.isOnline = true) (htasks : k'.tasks = k.tasks)
      (hkinds : k'.kinds = k.kinds) (hactive : k'.activeTask = active) :
      Settles active k k' (k.tasks.all.map .add)
  | down (honline : k.isOnline = true) (hoffline : k'.isOnline = false)
    (htasks : k'.tasks = k.tasks)
      (hkinds : k'.kinds = k.kinds) (hactive : k'.activeTask = none) :
      Settles active k k' [.setRunnerOffline]
  | completed {id : TaskId} {result : TaskCompletion} (honline : k'.isOnline = k.isOnline)
      (htasks : k'.tasks = k.tasks) (hkinds : k'.kinds = k.kinds) (hid : active = some id)
      (hactive : k'.activeTask = none) :
      Settles active k k' [.onTaskComplete id result, .completeCurrentFor]
  | recurring (honline : k'.isOnline = k.isOnline)
      (htasks : k'.tasks.all = k.tasks.all ++ [k.kinds.length])
      (hkinds : k'.kinds = k.kinds ++ [true]) (hactive : k'.activeTask = active) :
      Settles active k k' (if k.isOnline then [.add k.kinds.length] else [])
  | adhoc (honline : k'.isOnline = k.isOnline) (htasks : k'.tasks = k.tasks)
      (hkinds : k'.kinds = k.kinds ++ [false]) (hactive : k'.activeTask = active) :
      Settles active k k' [if k.isOnline then .add k.kinds.length
        else .onTaskComplete k.kinds.length .FAILURE_NO_COMMS]

/-! ### The kind of a task -/

/-- The kind of a poll tells whether it is recurring. -/
theorem PollTask.isRecurring_of_kind {t t' : PollTask} (h : t'.kind = t.kind) :
    t'.isRecurring = t.isRecurring := by
  unfold PollTask.isRecurring
  rw [h]

/-- A task that is initialized keeps its kind. -/
theorem isRecurring_initializeTask (task : Task τ) :
    task.initializeTask.isRecurring = task.isRecurring := by
  cases task with
  | poll task => rfl
  | other task => exact IScheduledTask.isRecurring_initializeTask task

/-- A task that builds its request keeps its kind. -/
theorem isRecurring_buildRequest {env : Env} {space seq : ℕ} {task task' : Task τ}
    {request : Option (APDUHeader × List UInt8)}
    (h : task.buildRequest env space seq = (request, task')) :
    task'.isRecurring = task.isRecurring := by
  obtain rfl : (task.buildRequest env space seq).2 = task' := congrArg Prod.snd h
  cases task with
  | poll task =>
    refine PollTask.isRecurring_of_kind ?_
    show (task.buildRequest space seq).2.kind = task.kind
    unfold PollTask.buildRequest
    dsimp only
    split <;> rfl
  | other task => exact IScheduledTask.isRecurring_buildRequest env space seq task

/-- A task that processes a response keeps its kind. -/
theorem isRecurring_processResponse {env : Env} {header : APDUResponseHeader} {objects : List UInt8}
    {task task' : Task τ} {result : ResponseResult}
    (h : task.processResponse env header objects = (result, task')) :
    task'.isRecurring = task.isRecurring := by
  obtain rfl : (task.processResponse env header objects).2 = task' := congrArg Prod.snd h
  cases task with
  | poll task =>
    refine PollTask.isRecurring_of_kind ?_
    show (task.processResponse header objects).2.kind = task.kind
    unfold PollTask.processResponse PollTask.processMeasurements
    split_ifs <;> rfl
  | other task => exact IScheduledTask.isRecurring_processResponse env header objects task

/-- The tasks keep their kinds when one of them comes back from one of its methods. -/
theorem kinds_setTask {k : Core τ} {id : TaskId} {task task' : Task τ}
    (htask : k.taskList[id]? = some task) (h : task'.isRecurring = task.isRecurring) :
    (k.setTask id task').kinds = k.kinds :=
  k.map_setTask Task.isRecurring htask h

/-! ### What `Turns` means to the books -/

/-- A task that is resumed goes on, or is completed. -/
theorem Resumes.settles {env : Env} {id : TaskId} {k₀ k k' : Core τ} {acts : List Output}
    (h : Resumes env id k k' acts) (honline : k.isOnline = k₀.isOnline)
    (htasks : k.tasks = k₀.tasks)
    (hkinds : k.kinds = k₀.kinds) (hactive : k.activeTask = some id) :
    Settles (some id) k₀ k' (acts.filter Output.isBook) := by
  cases h with
  | failed htask hbuild =>
    exact .completed honline htasks
      ((kinds_setTask htask (isRecurring_buildRequest hbuild)).trans hkinds) rfl rfl
  | sent htask hbuild =>
    exact .same honline htasks
      ((kinds_setTask htask (isRecurring_buildRequest hbuild)).trans hkinds) hactive

/-- A response completes its task, or lets it go on. -/
theorem Finishes.settles {env : Env} {id : TaskId} {k₀ k k' : Core τ} {result : ResponseResult}
    {acts : List Output} (h : Finishes env id k result k' acts)
    (honline : k.isOnline = k₀.isOnline) (htasks : k.tasks = k₀.tasks)
    (hkinds : k.kinds = k₀.kinds) (hactive : k.activeTask = some id) :
    Settles (some id) k₀ k' (acts.filter Output.isBook) := by
  cases h with
  | bad => exact .completed honline htasks hkinds rfl rfl
  | final => exact .completed honline htasks hkinds rfl rfl
  | continues => exact .same honline htasks hkinds hactive
  | waits => exact .same honline htasks hkinds hactive
  | repeats hresumes => exact hresumes.settles honline htasks hkinds hactive

/-- The task that is active in an event. The scheduler makes a task the current one before it calls
`Run`. -/
def Core.activeIn (k : Core τ) : Event τ → Option TaskId
  | .run id => some id
  | _ => k.activeTask

/-- A bound task is the last one of all. -/
theorem all_boundTasks (tasks : MasterTasks) (id : TaskId) :
    { tasks with boundTasks := tasks.boundTasks ++ [id] }.all = tasks.all ++ [id] := by
  simp [MasterTasks.all, List.append_assoc]

/-- The master does not reject a call of `Run`. -/
def Core.Accepts (k : Core τ) : Event τ → Prop
  | .run id => k.activeTask = none ∧ k.tstate = .IDLE ∧ id < k.taskList.length
  | event => event.FromOutside

/-- An event from outside settles the books in one of these ways, and so does a call of `Run` that
the master does not reject. -/
theorem Turns.settles {env : Env} {event : Event τ} {k k' : Core τ} {acts : List Output}
    (h : Turns env k event k' acts) (hevent : k.Accepts event) :
    Settles (k.activeIn event) k k' (acts.filter Output.isBook) := by
  -- Each turn makes the entries of its own kind, or none.
  cases h with
  | quiet hrun =>
    have hactive : k.activeIn event = k.activeTask := by
      cases event <;> first | rfl | cases hrun
    exact .same rfl rfl rfl hactive.symm
  | rejected hbusy =>
    obtain ⟨hactive, hstate, hid⟩ := hevent
    obtain hbusy | hbusy | hbusy := hbusy
    · exact absurd hactive hbusy
    · exact absurd hstate hbusy
    · exact absurd hid (not_lt.mpr hbusy)
  | up hoffline =>
    have hfilter : (k.tasks.all.map Output.add).filter Output.isBook = k.tasks.all.map .add := by
      simp [Output.isBook]
    rw [hfilter]
    exact .up hoffline rfl rfl rfl rfl
  | down honline => exact .down honline rfl rfl rfl rfl
  | answered _ _ _ _ hactive htask hprocess hfinish =>
    have hkinds := kinds_setTask (k := k.answer) htask (isRecurring_processResponse hprocess)
    rw [Core.activeIn, hactive]
    · exact hfinish.settles rfl rfl hkinds hactive
    · simp
  | sent _ hactive hresume =>
    rw [Core.activeIn, hactive]
    · exact hresume.settles rfl rfl rfl hactive
    · simp
  | timedOut _ hactive => exact .completed rfl rfl rfl hactive rfl
  | waits _ htask =>
    exact .same rfl rfl (kinds_setTask htask (isRecurring_initializeTask _)) rfl
  | runs _ htask hresume =>
    exact hresume.settles rfl rfl (kinds_setTask htask (isRecurring_initializeTask _)) rfl
  | @recurring object =>
    have hrecurring : object.task.isRecurring = true := hevent
    have hlength : k.taskList.length = k.kinds.length := (List.length_map ..).symm
    have hkinds : (k.taskList ++ [object.task]).map Task.isRecurring = k.kinds ++ [true] := by
      rw [List.map_append, List.map_singleton, hrecurring, Core.kinds]
    have hfilter : (if k.isOnline = true then [Output.add k.taskList.length] else []).filter
        Output.isBook = if k.isOnline = true then [.add k.kinds.length] else [] := by
      rw [hlength]
      split_ifs <;> rfl
    rw [hfilter]
    exact .recurring rfl ((all_boundTasks ..).trans (by rw [hlength])) hkinds rfl
  | @adhoc object =>
    have hadhoc : object.task.isRecurring = false := hevent
    have hlength : k.taskList.length = k.kinds.length := (List.length_map ..).symm
    have hkinds : (k.taskList ++ [object.task]).map Task.isRecurring = k.kinds ++ [false] := by
      rw [List.map_append, List.map_singleton, hadhoc, Core.kinds]
    have hfilter : [if k.isOnline = true then Output.add k.taskList.length
          else .onTaskComplete k.taskList.length .FAILURE_NO_COMMS].filter Output.isBook =
        [if k.isOnline = true then .add k.kinds.length
          else .onTaskComplete k.kinds.length .FAILURE_NO_COMMS] := by
      rw [hlength]
      split_ifs <;> rfl
    rw [hfilter]
    exact .adhoc rfl rfl hkinds rfl

end Settles

namespace System

variable {ι τ : Type*}

/-! ## The books -/

/-- The records that the scheduler holds. -/
def held (s : System ι τ) : List (Record ι) := s.scheduler.current.toList ++ s.scheduler.tasks

/-- The completions that were reported to the callback of a task. -/
def completions (s : System ι τ) (r : Record ι) : ℕ :=
  (s.runners r.runner).log.countP (Output.completes r.task)

/-- Two states that differ in nothing that the books are about. -/
structure Alike (s s' : System ι τ) : Prop where
  runners : s'.runners = s.runners
  current : s'.scheduler.current = s.scheduler.current
  tasks : s'.scheduler.tasks = s.scheduler.tasks

/-- A state is alike itself. -/
theorem Alike.refl (s : System ι τ) : Alike s s := ⟨rfl, rfl, rfl⟩

/-- States that are alike the same one are alike. -/
theorem Alike.trans {s s' s'' : System ι τ} (h : Alike s s') (h' : Alike s' s'') : Alike s s'' :=
  ⟨h'.runners.trans h.runners, h'.current.trans h.current, h'.tasks.trans h.tasks⟩

variable [IScheduledTask τ] [DecidableEq ι]

omit [DecidableEq ι] in
/-- The kinds of the tasks are alike. -/
theorem Alike.isRecurring_eq {s s' : System ι τ} (h : Alike s s') (r : Record ι) :
    s'.isRecurring r = s.isRecurring r := by
  unfold isRecurring object
  rw [h.runners]

/-- Two states that are alike stay so while they lose the same tasks. -/
theorem Alike.foldl_completeTask {env : Env} {result : TaskCompletion} {s s' : System ι τ}
    (h : Alike s s') (records : List (Record ι)) :
    Alike (records.foldl (completeTask env result) s)
      (records.foldl (completeTask env result) s') := by
  induction records generalizing s s' with
  | nil => exact h
  | cons r rest ih =>
    refine ih ⟨?_, h.current, h.tasks⟩
    unfold completeTask modifyRunner
    rw [h.runners]

/-- States that are alike stay so when a master goes offline. -/
theorem Alike.setRunnerOffline {s s' : System ι τ} (h : Alike s s') (env : Env) (i : ι) :
    Alike (s.setRunnerOffline env i) (s'.setRunnerOffline env i) := by
  have hrecurring : (fun r => !s'.isRecurring r) = fun r => !s.isRecurring r := by
    funext r
    rw [h.isRecurring_eq r]
  unfold System.setRunnerOffline
  dsimp only
  rw [h.current, h.tasks, hrecurring]
  exact ⟨(h.foldl_completeTask _).runners, rfl, rfl⟩

/-- They stay so when the current task is complete. -/
theorem Alike.completeCurrentFor {s s' : System ι τ} (h : Alike s s') (i : ι) :
    Alike (s.completeCurrentFor i) (s'.completeCurrentFor i) := by
  unfold System.completeCurrentFor
  rw [h.current]
  split
  · exact h
  · dsimp only
    rw [h.isRecurring_eq]
    split_ifs
    · exact ⟨h.runners, rfl, congrArg (· ++ _) h.tasks⟩
    · exact ⟨h.runners, rfl, h.tasks⟩
    · exact h

/-- They stay so in every call of the scheduler. -/
theorem Alike.call {s s' : System ι τ} (h : Alike s s') (env : Env) (i : ι) (output : Output) :
    Alike (s.call env i output) (s'.call env i output) := by
  unfold System.call
  split
  · exact ⟨h.runners, h.current, congrArg (· ++ _) h.tasks⟩
  · exact h.setRunnerOffline env i
  · exact h.completeCurrentFor i
  · exact ⟨h.runners, h.current, h.tasks⟩
  · exact h

/-- Only the calls among the outputs matter to the books. -/
theorem alike_foldl_call (env : Env) (i : ι) (out : List Output) {s s' : System ι τ}
    (h : Alike s s') :
    Alike ((out.filter Output.isBook).foldl (call env i) s) (out.foldl (call env i) s') := by
  induction out generalizing s s' with
  | nil => exact h
  | cons output rest ih =>
    rw [List.filter_cons]
    split_ifs with hbook
    · exact ih (h.call env i output)
    · refine ih (h.trans ?_)
      cases output <;> first | exact .refl s' | exact ⟨rfl, rfl, rfl⟩ | exact absurd rfl hbook

/-! ## The invariant of the books -/

/-- How often a task of this kind is held, and how many completions of it are reported. A recurring
task of an online master is held once. Another task is held once until its one completion is
reported. No task of an offline master is held. -/
def Accounted (kind : Option Bool) (online : Bool) (held completed : ℕ) : Prop :=
  match kind with
  | none => held = 0 ∧ completed = 0
  | some true => held = if online then 1 else 0
  | some false => held + completed = 1 ∧ (online = false → held = 0)

/-- The books are right when `active` tells which task of each master is running. -/
structure Ledger (active : ι → Option TaskId) (s : System ι τ) : Prop where
  current : ∀ i id, s.scheduler.current = some { runner := i, task := id } ↔ active i = some id
  wellFormed : ∀ i, (s.runners i).core.WellFormed
  accounted : ∀ r, Accounted (s.runners r.runner).core.kinds[r.task]? (s.runners r.runner).isOnline
    (s.held.count r) (s.completions r)

omit [IScheduledTask τ] [DecidableEq ι] in
/-- The scheduler holds the same tasks. -/
theorem Alike.held_eq {s s' : System ι τ} (h : Alike s s') : s'.held = s.held := by
  unfold held
  rw [h.current, h.tasks]

omit [IScheduledTask τ] [DecidableEq ι] in
/-- The same completions have been reported. -/
theorem Alike.completions_eq {s s' : System ι τ} (h : Alike s s') (r : Record ι) :
    s'.completions r = s.completions r := by
  unfold completions
  rw [h.runners]

/-- The books stay right in a state that is alike. -/
theorem Ledger.of_alike {active : ι → Option TaskId} {s s' : System ι τ} (h : Ledger active s)
    (halike : Alike s s') : Ledger active s' := by
  refine ⟨?_, ?_, fun r => ?_⟩
  · rw [halike.current]
    exact h.current
  · rw [halike.runners]
    exact h.wellFormed
  · rw [halike.held_eq, halike.completions_eq, halike.runners]
    exact h.accounted r

/-- The rule for a change of the books of one master. -/
theorem Ledger.of_runner {active active' : ι → Option TaskId} {s s' : System ι τ}
    (h : Ledger active s) (i : ι) (hrunners : ∀ j, j ≠ i → s'.runners j = s.runners j)
    (hheld : ∀ r : Record ι, r.runner ≠ i → s'.held.count r = s.held.count r)
    (hcurrent : ∀ j id, s'.scheduler.current = some { runner := j, task := id } ↔
      active' j = some id)
    (hwellFormed : (s'.runners i).core.WellFormed)
    (haccounted : ∀ id, Accounted (s'.runners i).core.kinds[id]? (s'.runners i).isOnline
      (s'.held.count { runner := i, task := id }) (s'.completions { runner := i, task := id })) :
    Ledger active' s' := by
  refine ⟨hcurrent, fun j => ?_, fun r => ?_⟩
  · by_cases hj : j = i
    · rw [hj]
      exact hwellFormed
    · rw [hrunners j hj]
      exact h.wellFormed j
  · by_cases hr : r.runner = i
    · obtain ⟨_, id⟩ := r
      subst hr
      exact haccounted id
    · rw [hheld r hr, completions, hrunners _ hr]
      exact h.accounted r

/-! ### An event of a master -/

omit [IScheduledTask τ] in
/-- A master that is modified. -/
theorem modifyRunner_self (i : ι) (f : MContext τ → MContext τ) (s : System ι τ) :
    (s.modifyRunner i f).runners i = f (s.runners i) := Function.update_self ..

omit [IScheduledTask τ] in
/-- The other masters stay as they are. -/
theorem modifyRunner_of_ne {i j : ι} (h : j ≠ i) (f : MContext τ → MContext τ) (s : System ι τ) :
    (s.modifyRunner i f).runners j = s.runners j := Function.update_of_ne h ..

/-- The calls of `Add` put the tasks at the end of the list. -/
theorem alike_foldl_add (env : Env) (i : ι) (ids : List TaskId) (s : System ι τ) :
    Alike { s with scheduler := { s.scheduler with
        tasks := s.scheduler.tasks ++ ids.map fun id => { runner := i, task := id } } }
      ((ids.map .add).foldl (call env i) s) := by
  induction ids generalizing s with
  | nil => exact ⟨rfl, rfl, (List.append_nil _).symm⟩
  | cons id rest ih =>
    refine Alike.trans ?_ (ih _)
    exact ⟨rfl, rfl, List.append_assoc _ _ _⟩

end System

end OpenDnp3.Master
