import OpenDnp3.Lib.Run
import OpenDnp3.Master.SchedulerSpec
import OpenDnp3.Master.Selection

/-!
# Runs of the scheduler

Every event keeps the books of the scheduler (`Ledger`) and the session of every master (`Session`),
so both hold in every state of every run. The current task of the scheduler is then the active one
of its master.
-/

namespace OpenDnp3.Master

open App

namespace System

variable {ι τ : Type*} [IScheduledTask τ] [DecidableEq ι]

/-! ## The calls of the scheduler -/

/-- The second state is the first one after calls of the scheduler, which change the timing and the
blocks of tasks, and report completions. -/
structure Calls (s s' : System ι τ) : Prop where
  core : ∀ j, (s'.runners j).core = (s.runners j).core
  isSending : ∀ j, (s'.runners j).isSending = (s.runners j).isSending
  sends : ∀ j, Sends (s.runners j) (s'.runners j)

omit [IScheduledTask τ] [DecidableEq ι] in
/-- The scheduler may change its own records. -/
theorem Calls.of_runners {s s' : System ι τ} (h : s'.runners = s.runners) : Calls s s' := by
  refine ⟨fun j => ?_, fun j => ?_, fun j => ?_⟩
  · rw [h]
  · rw [h]
  · rw [h]
    exact .refl _

omit [IScheduledTask τ] [DecidableEq ι] in
/-- Two calls, one after the other. -/
theorem Calls.trans {s s' s'' : System ι τ} (h : Calls s s') (h' : Calls s' s'') : Calls s s'' :=
  ⟨fun j => (h'.core j).trans (h.core j), fun j => (h'.isSending j).trans (h.isSending j),
    fun j => (h.sends j).trans (h'.sends j)⟩

/-- The scheduler reports a completion. -/
theorem calls_completeTask (env : Env) {result : TaskCompletion}
    (hresult : result ≠ .FAILURE_MESSAGE_FORMAT_ERROR) (s : System ι τ) (r : Record ι) :
    Calls s (s.completeTask env result r) := by
  by_cases hr : r.task < (s.runners r.runner).core.kinds.length
  · have hcompletes := completes_completeTask env hresult hr
    exact ⟨hcompletes.core, hcompletes.isSending, hcompletes.sends⟩
  · -- There is no such task to complete.
    have hnone : (s.runners r.runner).objects[r.task]? = none := by
      rw [List.getElem?_eq_none_iff]
      simpa [Core.kinds, MContext.core] using hr
    have hsame : (s.runners r.runner).completeTask r.task result env.now = s.runners r.runner := by
      unfold MContext.completeTask
      rw [hnone]
    exact .of_runners ((congrArg _ hsame).trans (Function.update_eq_self ..))

/-- The scheduler reports some completions. -/
theorem calls_foldl_completeTask (env : Env) {result : TaskCompletion}
    (hresult : result ≠ .FAILURE_MESSAGE_FORMAT_ERROR) (records : List (Record ι))
    (s : System ι τ) : Calls s (records.foldl (completeTask env result) s) := by
  induction records generalizing s with
  | nil => exact .of_runners rfl
  | cons r rest ih => exact (calls_completeTask env hresult s r).trans (ih _)

/-- The scheduler does what a master calls it for. -/
theorem calls_call (env : Env) (i : ι) (s : System ι τ) (output : Output) :
    Calls s (s.call env i output) := by
  unfold call
  split
  · exact .of_runners rfl
  · have hcompletes := fun records => calls_foldl_completeTask env
      (by decide : TaskCompletion.FAILURE_NO_COMMS ≠ .FAILURE_MESSAGE_FORMAT_ERROR) records s
    exact (hcompletes _).trans (.of_runners rfl)
  · unfold completeCurrentFor
    split
    · exact .of_runners rfl
    · dsimp only
      split_ifs
      · exact .of_runners rfl
      · exact .of_runners rfl
      · exact .of_runners rfl
  · exact .of_runners rfl
  · exact .of_runners rfl

/-- The scheduler does all that a master calls it for. -/
theorem calls_foldl_call (env : Env) (i : ι) (out : List Output) (s : System ι τ) :
    Calls s (out.foldl (call env i) s) := by
  induction out generalizing s with
  | nil => exact .of_runners rfl
  | cons output rest ih => exact (calls_call env i s output).trans (ih _)

/-! ## The invariant -/

/-- The tasks that the masters run. -/
def activeTasks (s : System ι τ) (i : ι) : Option TaskId := (s.runners i).activeTask

/-- The invariant of the scheduler and its masters. -/
structure Inv (s : System ι τ) : Prop where
  ledger : Ledger s.activeTasks s
  session : ∀ i, Session (s.runners i).core (s.runners i).isSending

omit [IScheduledTask τ] [DecidableEq ι] in
/-- The calls of the scheduler leave the active tasks. -/
theorem Calls.activeTasks_eq {s s' : System ι τ} (h : Calls s s') :
    s'.activeTasks = s.activeTasks := by
  funext j
  exact congrArg Core.activeTask (h.core j)

omit [IScheduledTask τ] [DecidableEq ι] in
/-- The calls of the scheduler leave the sessions of the masters. -/
theorem Calls.session {s s' : System ι τ} (h : Calls s s')
    (hs : ∀ i, Session (s.runners i).core (s.runners i).isSending) (i : ι) :
    Session (s'.runners i).core (s'.runners i).isSending := by
  rw [h.core, h.isSending]
  exact hs i

omit [DecidableEq ι] in
/-- Tasks are only added. -/
theorem kinds_prefix_of_settles {active : Option TaskId} {k k' : Core τ} {books : List Output}
    (h : Settles active k k' books) : k.kinds <+: k'.kinds := by
  cases h with
  | same _ _ hkinds _ => rw [hkinds]
  | up _ _ _ hkinds _ => rw [hkinds]
  | down _ _ _ hkinds _ => rw [hkinds]
  | completed _ _ hkinds _ _ => rw [hkinds]
  | recurring _ _ hkinds _ => exact hkinds ▸ List.prefix_append ..
  | adhoc _ _ hkinds _ => exact hkinds ▸ List.prefix_append ..

/-- An event that a master takes, with what the scheduler does about it. -/
theorem occur_spec (env : Env) (i : ι) (event : Event τ) {s : System ι τ}
    (hledger : Ledger (Function.update s.activeTasks i ((s.runners i).core.activeIn event)) s)
    (hsession : ∀ i, Session (s.runners i).core (s.runners i).isSending)
    (haccepts : (s.runners i).core.Accepts event)
    (honline : ∀ id, event = .run id → (s.runners i).isOnline = true) :
    Inv (s.occur env i event) ∧
      Sends ((s.runners i).starting event) ((s.occur env i event).runners i) ∧
      (∀ j, j ≠ i → Sends (s.runners j) ((s.occur env i event).runners j)) ∧
      ∀ j, (s.runners j).core.kinds <+: ((s.occur env i event).runners j).core.kinds := by
  obtain ⟨k', acts, hturns, hacts, hready, hoffline⟩ :=
    MContext.handles_step env event (hsession i) honline
  obtain ⟨out, hlog, hout, hsending⟩ := hacts.exists_out
  have hstart : ((s.runners i).starting event).log = (s.runners i).log := by
    cases event <;> rfl
  have houtputs : (s.runners i).outputs (env, event) = out := by
    unfold MContext.outputs
    rw [hlog, hstart, List.drop_left]
  -- Of the outputs only those count that the scheduler keeps books of.
  have hbooks : out.filter Output.isBook = acts.filter Output.isBook := by
    rw [← hout, List.filter_filter]
    refine List.filter_congr fun output _ => ?_
    cases output <;> rfl
  have hsettles := hturns.settles haccepts
  rw [← hacts.core_eq, ← Function.update_self i ((s.runners i).core.activeIn event) s.activeTasks]
    at hsettles
  -- The master settles its own entries, then the scheduler takes its calls.
  have hsettled := hledger.settle env i (hlog.trans (by rw [hstart])) hbooks hsettles
  have hcalls := calls_foldl_call env i out (s.modifyRunner i fun c => c.step (env, event))
  have hself : (s.modifyRunner i fun c => c.step (env, event)).runners i =
      (s.runners i).step (env, event) := modifyRunner_self ..
  have hother : ∀ j, j ≠ i → (s.modifyRunner i fun c => c.step (env, event)).runners j =
      s.runners j := fun j hj => modifyRunner_of_ne hj ..
  unfold occur
  rw [houtputs]
  refine ⟨⟨?_, hcalls.session fun j => ?_⟩, ?_, fun j hj => ?_, fun j => ?_⟩
  · rw [hcalls.activeTasks_eq]
    refine (congrArg (Ledger · _) ?_).mp hsettled
    funext j
    by_cases hj : j = i
    · rw [hj, Function.update_self, activeTasks, hself]
    · rw [Function.update_of_ne hj, Function.update_of_ne hj, activeTasks, activeTasks, hother j hj]
  · by_cases hj : j = i
    · rw [hj, hself, hacts.core_eq]
      exact hturns.session (hsession i) honline hready hoffline
    · rw [hother j hj]
      exact hsession j
  · have hsends := hcalls.sends i
    rw [hself] at hsends
    exact Sends.trans ⟨out, hlog, hsending⟩ hsends
  · have hsends := hcalls.sends j
    rwa [hother j hj] at hsends
  · rw [hcalls.core]
    by_cases hj : j = i
    · rw [hj, hself]
      exact kinds_prefix_of_settles hsettles
    · rw [hother j hj]

/-! ## The start of a task -/

/-- Between tasks every master is idle. -/
theorem Inv.isIdle {s : System ι τ} (h : Inv s) (hcurrent : s.scheduler.current = none) (i : ι) :
    (s.runners i).activeTask = none ∧ (s.runners i).tstate = .IDLE := by
  have hnone : (s.runners i).activeTask = none := by
    by_contra hsome
    obtain ⟨id, hid⟩ := Option.ne_none_iff_exists'.mp hsome
    have hheld := (h.ledger.current i id).mpr hid
    rw [hcurrent] at hheld
    cases hheld
  refine ⟨hnone, ?_⟩
  by_contra hstate
  have hactive := (h.session i).active.mpr hstate
  rw [show (s.runners i).core.activeTask = none from hnone] at hactive
  cases hactive

/-- The scheduler holds no task of a master without a session. -/
theorem Ledger.isOnline {active : ι → Option TaskId} {s : System ι τ} (h : Ledger active s)
    {r : Record ι} (hr : r ∈ s.held) : (s.runners r.runner).isOnline = true := by
  have hcount : 0 < s.held.count r := List.count_pos_iff.mpr hr
  have haccounted := h.accounted r
  by_contra honline
  rw [(Bool.not_eq_true _).mp honline] at haccounted
  cases hkind : (s.runners r.runner).core.kinds[r.task]? with
  | none =>
    rw [hkind] at haccounted
    exact hcount.ne' haccounted.1
  | some recurring =>
    rw [hkind] at haccounted
    cases recurring with
    | true => exact hcount.ne' haccounted
    | false => exact hcount.ne' (haccounted.2 rfl)

/-- The scheduler calls `Run` of a master with a session only. -/
theorem Inv.isOnline_of_taskToRun {env : Env} {s : System ι τ} (h : Inv s) {r : Record ι}
    (htask : s.taskToRun env = some r) : (s.runners r.runner).isOnline = true :=
  h.ledger.isOnline (List.mem_append_right _ (mem_of_taskToRun htask))

/-- The books while the scheduler starts a task. -/
theorem Ledger.start {s s' : System ι τ} (h : Inv s) {r : Record ι} (hstarts : Starts r s s')
    (hcurrent : s.scheduler.current = none) (hr : r ∈ s.scheduler.tasks) :
    Ledger (Function.update s.activeTasks r.runner (some r.task)) s' := by
  -- The record moves from the list to the current task and stays held.
  have hheld : ∀ r', s'.held.count r' = s.held.count r' := by
    intro r'
    rw [held, held, hstarts.current, hstarts.tasks, hcurrent]
    exact (List.perm_cons_erase hr).symm.count_eq r'
  refine ⟨fun i id => ?_, fun i => ?_, fun r' => ?_⟩
  · rw [hstarts.current]
    by_cases hi : i = r.runner
    · subst hi
      rw [Function.update_self]
      constructor
      · intro heq
        rw [Option.some.inj heq]
      · intro heq
        rw [← Option.some.inj heq]
    · rw [Function.update_of_ne hi]
      constructor
      · intro heq
        exact absurd (congrArg Record.runner (Option.some.inj heq)).symm hi
      · intro heq
        have hnone : s.activeTasks i = none := (h.isIdle hcurrent i).1
        rw [hnone] at heq
        cases heq
  · rw [hstarts.runners]
    exact h.ledger.wellFormed i
  · rw [hheld, completions, hstarts.runners]
    exact h.ledger.accounted r'

/-! ## The events of the scheduler -/

/-- `MasterSchedulerBackend::CheckForTaskRun` keeps the invariant, and the master that is given a
task is idle. -/
theorem checkForTaskRun_spec (env : Env) {s : System ι τ} (h : Inv s) :
    Inv (s.checkForTaskRun env) ∧
      (∀ j, Sends (s.runners j) ((s.checkForTaskRun env).runners j)) ∧
      (∀ r, s.taskToRun env = some r →
        (s.runners r.runner).activeTask = none ∧ (s.runners r.runner).tstate = .IDLE) ∧
      ∀ j, (s.runners j).core.kinds <+: ((s.checkForTaskRun env).runners j).core.kinds := by
  cases htask : s.taskToRun env with
  | none =>
    obtain ⟨hrunners, hcurrent, htasks⟩ := checkForTaskRun_of_none htask
    have hcalls : Calls s (s.checkForTaskRun env) := .of_runners hrunners
    have hledger := h.ledger.of_alike ⟨hrunners, hcurrent, htasks⟩
    refine ⟨⟨?_, hcalls.session h.session⟩, hcalls.sends, nofun, fun j => ?_⟩
    · rw [hcalls.activeTasks_eq]
      exact hledger
    · rw [hcalls.core]
  | some r =>
    obtain ⟨hnone, -, -⟩ := taskToRun_spec htask
    have hr := mem_of_taskToRun htask
    have hheld : r ∈ s.held := List.mem_append_right _ hr
    obtain ⟨hactive, hstate⟩ := h.isIdle hnone r.runner
    have hknown := h.ledger.known hheld
    rw [Core.kinds, List.length_map] at hknown
    obtain ⟨s', hstarts, hcheck⟩ := checkForTaskRun_of_some htask
    have hcalls : Calls s s' := .of_runners hstarts.runners
    -- The record becomes the current one, and then its master runs it.
    have hledger := Ledger.start h hstarts hnone hr
    rw [← hcalls.activeTasks_eq] at hledger
    rw [← hstarts.runners] at hactive hstate hknown
    have honline := h.isOnline_of_taskToRun htask
    rw [← hstarts.runners] at honline
    obtain ⟨hinv, hself, hother, hkinds⟩ := occur_spec env r.runner (.run r.task) hledger
      (hcalls.session h.session) ⟨hactive, hstate, hknown⟩ fun _ _ => honline
    rw [hcheck]
    refine ⟨hinv, fun j => ?_, fun r' hr' => ?_, fun j => ?_⟩
    · rw [← hstarts.runners]
      by_cases hj : j = r.runner
      · rw [hj]
        exact hself
      · exact hother j hj
    · rw [← Option.some.inj hr', ← hstarts.runners]
      exact ⟨hactive, hstate⟩
    · rw [← hstarts.runners]
      exact hkinds j

/-- The rule for a change of nothing but the timing and the blocks of tasks. -/
theorem Inv.of_calls {s s' : System ι τ} (h : Inv s) (hcalls : Calls s s')
    (hscheduler : s'.scheduler = s.scheduler)
    (hcompletions : ∀ r, s'.completions r = s.completions r) : Inv s' := by
  refine ⟨⟨?_, fun i => ?_, fun r => ?_⟩, hcalls.session h.session⟩
  · rw [hscheduler, hcalls.activeTasks_eq]
    exact h.ledger.current
  · rw [hcalls.core]
    exact h.ledger.wellFormed i
  · have haccounted := h.ledger.accounted r
    have honline : (s'.runners r.runner).isOnline = (s.runners r.runner).isOnline :=
      congrArg Core.isOnline (hcalls.core r.runner)
    rwa [hcalls.core, honline, hcompletions, held, hscheduler]

omit [IScheduledTask τ] in
/-- The scheduler makes a task due, and reports nothing. -/
theorem calls_setMinExpiration (r : Record ι) (s : System ι τ) :
    Calls s (s.modifyRunner r.runner fun c => c.setMinExpiration r.task) ∧
      ∀ r', (s.modifyRunner r.runner fun c => c.setMinExpiration r.task).completions r' =
        s.completions r' := by
  have hcore : ((s.runners r.runner).setMinExpiration r.task).core = (s.runners r.runner).core :=
    (MContext.acts_modify_behavior ..).core_eq
  have hself := modifyRunner_self r.runner (fun c => c.setMinExpiration r.task) s
  refine ⟨⟨fun j => ?_, fun j => ?_, fun j => ?_⟩, fun r' => ?_⟩
  · by_cases hj : j = r.runner
    · rw [hj, hself, hcore]
    · rw [modifyRunner_of_ne hj]
  · by_cases hj : j = r.runner
    · rw [hj, hself]
      rfl
    · rw [modifyRunner_of_ne hj]
  · by_cases hj : j = r.runner
    · rw [hj, hself]
      exact .refl _
    · rw [modifyRunner_of_ne hj]
      exact .refl _
  · by_cases hr : r'.runner = r.runner
    · rw [completions, hr, hself, completions, hr]
      rfl
    · rw [completions, modifyRunner_of_ne hr, completions]

/-- `MasterSchedulerBackend::TimeoutTasks` completes the tasks that it drops. -/
theorem timeoutTasks_spec (env : Env) {s : System ι τ} (h : Inv s) :
    Inv (s.timeoutTasks env) ∧ Calls s (s.timeoutTasks env) := by
  obtain ⟨isTimedOut, hdef⟩ : ∃ isTimedOut : Record ι → Bool, isTimedOut = fun r =>
      !s.isRecurring r && decide (s.startExpirationTime r ≤ env.now) := ⟨_, rfl⟩
  have hcompletes := completes_foldl env (by decide : TaskCompletion.FAILURE_START_TIMEOUT ≠ _)
    (s.scheduler.tasks.filter isTimedOut) (s := s) fun r hr =>
      h.ledger.known (List.mem_append_right _ (List.mem_of_mem_filter hr))
  have hrunners : (s.timeoutTasks env).runners =
      ((s.scheduler.tasks.filter isTimedOut).foldl (completeTask env .FAILURE_START_TIMEOUT)
        s).runners := by
    rw [hdef]
    rfl
  have hcalls : Calls s (s.timeoutTasks env) :=
    Calls.trans ⟨hcompletes.core, hcompletes.isSending, hcompletes.sends⟩ (.of_runners hrunners)
  have hheld : ∀ r, s.held.count r =
      (s.timeoutTasks env).held.count r + (s.scheduler.tasks.filter isTimedOut).count r := by
    intro r
    have htasks : (s.timeoutTasks env).held =
        s.scheduler.current.toList ++ s.scheduler.tasks.filter fun r => !isTimedOut r := by
      rw [hdef]
      rfl
    have hsplit := (List.filter_append_perm isTimedOut s.scheduler.tasks).count_eq r
    rw [List.count_append] at hsplit
    rw [htasks, held, List.count_append, List.count_append, ← hsplit]
    omega
  refine ⟨⟨⟨?_, fun i => ?_, fun r => ?_⟩, hcalls.session h.session⟩, hcalls⟩
  · rw [hcalls.activeTasks_eq]
    exact h.ledger.current
  · rw [hcalls.core]
    exact h.ledger.wellFormed i
  · have haccounted := h.ledger.accounted r
    have honline : ((s.timeoutTasks env).runners r.runner).isOnline =
        (s.runners r.runner).isOnline := congrArg Core.isOnline (hcalls.core r.runner)
    have hcompletions : (s.timeoutTasks env).completions r =
        s.completions r + (s.scheduler.tasks.filter isTimedOut).count r := by
      rw [completions, hrunners]
      exact hcompletes.completions r
    rw [hheld] at haccounted
    rw [hcalls.core, honline, hcompletions]
    refine haccounted.complete fun hkind => List.count_eq_zero_of_not_mem fun hmem => ?_
    -- A recurring task has no start timeout.
    have htimedOut := List.of_mem_filter hmem
    rw [hdef] at htimedOut
    simp [isRecurring_eq, hkind] at htimedOut

/-! ## Runs -/

/-- The task that the scheduler starts in an event. -/
def taskStarted (s : System ι τ) (e : Env × SystemEvent ι τ) : Option (Record ι) :=
  match e.2 with
  | .occurs _ _ | .timeoutTasks => none
  | .checkForTaskRun => s.taskToRun e.1
  | .demand r => (s.modifyRunner r.runner fun c => c.setMinExpiration r.task).taskToRun e.1

/-- The state in which an event finds the buffer of a master. -/
def startingAt (s : System ι τ) (e : Env × SystemEvent ι τ) (i : ι) : MContext τ :=
  match e.2 with
  | .occurs runner event => if runner = i then (s.runners i).starting event.1 else s.runners i
  | _ => s.runners i

/-- An event that starts a task finds its master idle, and no master writes to the buffer of a
transmission in progress, or transmits another message. -/
structure Proper (s : System ι τ) (e : Env × SystemEvent ι τ) : Prop where
  idle : ∀ r, s.taskStarted e = some r →
    (s.runners r.runner).activeTask = none ∧ (s.runners r.runner).tstate = .IDLE
  sends : ∀ i, Sends (s.startingAt e i) ((s.step e).runners i)

/-- Every event keeps the invariant, is proper, and leaves the kinds of the tasks. -/
theorem step_spec {s : System ι τ} (h : Inv s) (e : Env × SystemEvent ι τ) :
    Inv (s.step e) ∧ Proper s e ∧
      ∀ j, (s.runners j).core.kinds <+: ((s.step e).runners j).core.kinds := by
  obtain ⟨env, event⟩ := e
  cases event with
  | occurs i event =>
    obtain ⟨event, hevent⟩ := event
    -- An event from outside never is the run of a task.
    have hnotRun : ∀ id, event ≠ .run id := by
      rintro id rfl
      exact hevent
    have hactive : (s.runners i).core.activeIn event = s.activeTasks i := by
      cases event <;> first | rfl | exact absurd rfl (hnotRun _)
    have haccepts : (s.runners i).core.Accepts event := by
      cases event <;> first | exact hevent | exact absurd rfl (hnotRun _)
    have hledger : Ledger (Function.update s.activeTasks i
      ((s.runners i).core.activeIn event)) s := by
      rw [hactive, Function.update_eq_self]
      exact h.ledger
    obtain ⟨hinv, hself, hother, hkinds⟩ := occur_spec env i event hledger h.session haccepts
      fun id hrun => absurd hrun (hnotRun id)
    refine ⟨hinv, ⟨fun r hr => ?_, fun j => ?_⟩, hkinds⟩
    · cases hr
    · unfold startingAt
      dsimp only
      split_ifs with hj
      · rw [← hj]
        exact hself
      · exact hother j (Ne.symm hj)
  | checkForTaskRun =>
    obtain ⟨hinv, hsends, hidle, hkinds⟩ := checkForTaskRun_spec env h
    exact ⟨hinv, ⟨hidle, hsends⟩, hkinds⟩
  | timeoutTasks =>
    obtain ⟨hinv, hcalls⟩ := timeoutTasks_spec env h
    refine ⟨hinv, ⟨fun r hr => ?_, hcalls.sends⟩, fun j => ?_⟩
    · cases hr
    · exact (congrArg Core.kinds (hcalls.core j)).symm ▸ List.prefix_refl _
  | demand r =>
    obtain ⟨hcalls, hcompletions⟩ := calls_setMinExpiration r s
    have hdemanded := h.of_calls hcalls rfl hcompletions
    obtain ⟨hinv, hsends, hidle, hkinds⟩ := checkForTaskRun_spec env hdemanded
    refine ⟨hinv, ⟨fun r' hr' => ?_, fun j => (hcalls.sends j).trans (hsends j)⟩, fun j => ?_⟩
    · obtain ⟨hactive, hstate⟩ := hidle r' hr'
      have hcore := hcalls.core r'.runner
      exact ⟨(congrArg Core.activeTask hcore).symm.trans hactive,
        (congrArg Core.tstate hcore).symm.trans hstate⟩
    · rw [← hcalls.core j]
      exact hkinds j

/-- The invariant holds of a new system. -/
theorem inv_init (configs : ι → MasterConfig τ) : Inv (init configs) := by
  have hkinds : ∀ i id, ((init configs).runners i).core.kinds[id]? =
      if id < (configs i).objects.length then some true else none := by
    intro i id
    show (((configs i).objects.map TaskObject.task).map Task.isRecurring)[id]? = _
    rw [List.getElem?_map, List.getElem?_map]
    split_ifs with hid
    · rw [List.getElem?_eq_getElem hid]
      exact congrArg some ((configs i).isRecurring _ (List.getElem_mem hid))
    · rw [List.getElem?_eq_none (not_lt.mp hid)]
      rfl
  refine ⟨⟨fun i id => ?_, fun i => ⟨(configs i).nodup, fun id => ?_⟩, fun r => ?_⟩, fun i => ?_⟩
  · exact ⟨nofun, nofun⟩
  · rw [hkinds]
    refine ((configs i).mem_all_iff id).trans ?_
    split_ifs with hid
    · simp [hid]
    · simp [hid]
  · rw [hkinds]
    split_ifs
    · rfl
    · exact ⟨rfl, rfl⟩
  · exact .of_idle rfl rfl rfl fun _ => rfl

/-- The invariant holds after every run. -/
theorem run_inv (configs : ι → MasterConfig τ) (events : List (Env × SystemEvent ι τ)) :
    Inv (Machine.run step (init configs) events) := by
  have hstep : ∀ (s : System ι τ) (e : Env × SystemEvent ι τ), Inv s → Inv (s.step e) :=
    fun _ e h => (step_spec h e).1
  exact Machine.run_of_step step hstep (inv_init configs) events

/-- The scheduler and its masters agree on the task that is running, and every master is in the
state of its task. -/
structure Consistent (s : System ι τ) : Prop where
  current : ∀ i id, s.scheduler.current = some { runner := i, task := id } ↔
    (s.runners i).activeTask = some id
  active : ∀ i, (s.runners i).activeTask.isSome = true ↔
    (s.runners i).tstate = .TASK_READY ∨ (s.runners i).tstate = .WAIT_FOR_RESPONSE
  ready : ∀ i, (s.runners i).tstate = .TASK_READY → (s.runners i).isSending = true
  timer : ∀ i, (s.runners i).responseTimer = true ↔ (s.runners i).tstate = .WAIT_FOR_RESPONSE

/-- With the invariant the scheduler and the masters agree. -/
theorem Inv.consistent {s : System ι τ} (h : Inv s) : Consistent s := by
  refine ⟨h.ledger.current, fun i => ?_, fun i => (h.session i).ready, fun i => (h.session i).timer⟩
  refine (h.session i).active.trans ?_
  show (s.runners i).tstate ≠ .IDLE ↔ _
  cases (s.runners i).tstate <;> simp

/-- The states of every run are consistent, and every event of a run is handled properly. -/
theorem run_proper (configs : ι → MasterConfig τ) (events : List (Env × SystemEvent ι τ)) :
    Consistent (Machine.run step (init configs) events) ∧
      Machine.StepsMeet step Proper (init configs) events := by
  have hstep : ∀ (s : System ι τ) (e : Env × SystemEvent ι τ), Inv s →
      Inv (s.step e) ∧ Proper s e := fun _ e h => ⟨(step_spec h e).1, (step_spec h e).2.1⟩
  exact ⟨(run_inv configs events).consistent,
    Machine.StepsMeet.of_step step hstep (inv_init configs) events⟩

/-! ### The books of a run -/

/-- A task is held exactly once, without a completion, or is not held, with exactly one. -/
def HeldOrCompleted (s : System ι τ) (r : Record ι) : Prop :=
  (s.held.count r = 1 ∧ s.completions r = 0) ∨ (s.held.count r = 0 ∧ s.completions r = 1)

/-- Every task that a run hands to `ScheduleAdhocTask` is held once until its one completion is
reported, and every recurring task is held once while its master is online. -/
structure Accounts (configs : ι → MasterConfig τ)
    (events : List (Env × SystemEvent ι τ)) : Prop where
  adhoc : ∀ before env i object hadhoc after,
    events = before ++ (env, .occurs i ⟨.scheduleAdhocTask object, hadhoc⟩) :: after →
      HeldOrCompleted (Machine.run step (init configs) events)
        { runner := i, task := ((Machine.run step (init configs) before).runners i).objects.length }
  recurring : ∀ r, (Machine.run step (init configs) events).isRecurring r = true →
    (Machine.run step (init configs) events).held.count r =
      if ((Machine.run step (init configs) events).runners r.runner).isOnline then 1 else 0

/-- A run adds tasks, and leaves the kinds of the others. -/
theorem kinds_prefix_run {s : System ι τ} (h : Inv s) (events : List (Env × SystemEvent ι τ))
    (i : ι) : (s.runners i).core.kinds <+:
      ((Machine.run step s events).runners i).core.kinds := by
  have hstep : ∀ (s' : System ι τ) (e : Env × SystemEvent ι τ),
      Inv s' ∧ (s.runners i).core.kinds <+: (s'.runners i).core.kinds →
        Inv (s'.step e) ∧ (s.runners i).core.kinds <+: ((s'.step e).runners i).core.kinds := by
    rintro s' e ⟨hinv, hprefix⟩
    obtain ⟨hinv', -, hkinds⟩ := step_spec hinv e
    exact ⟨hinv', hprefix.trans (hkinds i)⟩
  exact (Machine.run_of_step step hstep ⟨h, List.prefix_refl _⟩ events).2

omit [DecidableEq ι] in
/-- An adhoc task is added behind the others. -/
theorem kinds_scheduleAdhocTask (env : Env) (object : TaskObject τ) (c : MContext τ) :
    (c.scheduleAdhocTask env object).core.kinds = c.core.kinds ++ [object.task.isRecurring] := by
  have hadded : ({ c with objects := c.objects ++ [object] } : MContext τ).core.kinds =
      c.core.kinds ++ [object.task.isRecurring] := by
    simp [MContext.core, Core.kinds]
  have hobject : ({ c with objects := c.objects ++ [object] } : MContext τ).objects[
      c.objects.length]? = some object := by simp
  unfold MContext.scheduleAdhocTask
  dsimp only
  split_ifs
  · exact hadded
  · have hcomplete := MContext.acts_completeTask hobject .FAILURE_NO_COMMS env.now
      fun hformat => absurd hformat (by decide)
    rw [hcomplete.core_eq, hadded]

/-- A task that `ScheduleAdhocTask` was given stays a task that is not recurring. -/
theorem kinds_adhoc {s : System ι τ} (h : Inv s) (env : Env) (i : ι) (object : TaskObject τ)
    (hadhoc : (Event.scheduleAdhocTask object).FromOutside)
    (events : List (Env × SystemEvent ι τ)) :
    ((Machine.run step (s.step (env, .occurs i ⟨.scheduleAdhocTask object, hadhoc⟩))
      events).runners i).core.kinds[(s.runners i).objects.length]? = some false := by
  obtain ⟨hinv, -, -⟩ := step_spec h (env, .occurs i ⟨.scheduleAdhocTask object, hadhoc⟩)
  have hprefix := kinds_prefix_run hinv events i
  have hnew : ((s.step (env, .occurs i ⟨.scheduleAdhocTask object, hadhoc⟩)).runners i).core.kinds =
      (s.runners i).core.kinds ++ [false] := by
    have hcalls := calls_foldl_call env i
      ((s.runners i).outputs (env, .scheduleAdhocTask object))
      (s.modifyRunner i fun c => c.step (env, .scheduleAdhocTask object))
    have hkinds := congrArg Core.kinds (hcalls.core i)
    rw [modifyRunner_self] at hkinds
    have hfalse : object.task.isRecurring = false := hadhoc
    exact hkinds.trans ((kinds_scheduleAdhocTask env object _).trans (by rw [hfalse]))
  have hlength : (s.runners i).objects.length = (s.runners i).core.kinds.length := by
    simp [MContext.core, Core.kinds]
  rw [hnew] at hprefix
  obtain ⟨rest, hrest⟩ := hprefix
  rw [hlength, ← hrest, List.append_assoc, List.singleton_append, List.getElem?_append_right le_rfl,
    Nat.sub_self, List.getElem?_cons_zero]

/-- The books of every run are right. -/
theorem run_accounts (configs : ι → MasterConfig τ) (events : List (Env × SystemEvent ι τ)) :
    Accounts configs events := by
  have hinv := run_inv configs events
  constructor
  · rintro before env i object hadhoc after rfl
    -- The kind of a task stays what it was when it was added.
    have hkind := kinds_adhoc (run_inv configs before) env i object hadhoc after
    rw [Machine.run_append] at hinv ⊢
    have haccounted := hinv.ledger.accounted
      { runner := i, task := ((Machine.run step (init configs) before).runners i).objects.length }
    dsimp only at haccounted
    rw [Machine.run_cons] at haccounted ⊢
    rw [hkind] at haccounted
    have hone := haccounted.1
    unfold HeldOrCompleted
    omega
  · intro r hrecurring
    have haccounted := hinv.ledger.accounted r
    rw [isRecurring_eq] at hrecurring
    cases hkind : ((Machine.run step (init configs) events).runners
      r.runner).core.kinds[r.task]? with
    | none =>
      rw [hkind] at hrecurring
      cases hrecurring
    | some recurring =>
      rw [hkind] at hrecurring haccounted
      obtain rfl : recurring = true := hrecurring
      exact haccounted

end System

end OpenDnp3.Master
