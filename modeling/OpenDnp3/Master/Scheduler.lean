import Mathlib.Logic.Function.Basic
import OpenDnp3.Master.ContextSpec

/-!
# The scheduler of the masters

`MasterSchedulerBackend`, with the masters of a channel, which share it. What a master calls of the
scheduler in an event is carried out after the event, since the master reads nothing of what the
scheduler changes. A posted check and a timer may run at any time after them.
-/

namespace OpenDnp3.Master

open App
open Outstation (ClassField)

/-! ## What the scheduler asks of a task -/

/-- The virtual methods of `IMasterTask` that the scheduler calls. Every class of tasks returns a
constant from `IsRecurring`, and a task that is not recurring blocks no other one, so that its
destructor removes no block. -/
class IScheduledTask (τ : Type*) extends IMasterTask τ where
  /-- `IMasterTask::IsRecurring`. -/
  isRecurring : τ → Bool
  /-- `IMasterTask::Priority`. -/
  priority : τ → ℤ
  /-- `IMasterTask::IsEnabled`. -/
  isEnabled : Env → τ → Bool
  isRecurring_initializeTask : ∀ task, isRecurring (initializeTask task) = isRecurring task
  isRecurring_buildRequest : ∀ env space seq task,
    isRecurring (buildRequest env space seq task).2 = isRecurring task
  isRecurring_processResponse : ∀ env header objects task,
    isRecurring (processResponse env header objects task).2 = isRecurring task
  isRecurring_of_blocks : ∀ task, blocksLowerPriority task = true → isRecurring task = true

/-! The constants of `TaskPriority.h`. -/

def COMMAND : ℤ := 100

def CLEAR_RESTART : ℤ := 120

def DISABLE_UNSOLICITED : ℤ := 130

def ASSIGN_CLASS : ℤ := 140

def INTEGRITY_POLL : ℤ := 150

def ENABLE_UNSOLICITED : ℤ := 170

def EVENT_SCAN : ℤ := 180

def USER_POLL : ℤ := 190

/-- `ClassField::HasEventClass`. -/
def hasEventClass (classes : ClassField) : Bool :=
  classes.class1 || classes.class2 || classes.class3

/-- `ClassField::HasAnyClass`. -/
def hasAnyClass (classes : ClassField) : Bool := classes.class0 || hasEventClass classes

namespace PollTask

/-- `IsRecurring` of the polls. -/
def isRecurring (t : PollTask) : Bool :=
  match t.kind with
  | .userPoll _ recurring => recurring
  | .startupIntegrity _ | .eventScan _ => true

/-- `Priority` of the polls. -/
def priority (t : PollTask) : ℤ :=
  match t.kind with
  | .userPoll _ _ => USER_POLL
  | .startupIntegrity _ => INTEGRITY_POLL
  | .eventScan _ => EVENT_SCAN

/-- `IsEnabled` of the polls. -/
def isEnabled (t : PollTask) : Bool :=
  match t.kind with
  | .userPoll _ _ => true
  | .startupIntegrity classes => hasAnyClass classes
  | .eventScan classes => hasEventClass classes

end PollTask

namespace StartupTask

/-- `Priority` of the tasks. -/
def priority : StartupTask → ℤ
  | clearRestart => CLEAR_RESTART
  | assignClass _ => ASSIGN_CLASS
  | enableUnsolicited _ => ENABLE_UNSOLICITED
  | disableUnsolicited => DISABLE_UNSOLICITED

/-- `IsEnabled` of the tasks. -/
def isEnabled (env : Env) : StartupTask → Bool
  | assignClass _ => env.assignClassDuringStartup
  | enableUnsolicited enabledClasses => hasEventClass enabledClasses
  | _ => true

instance instScheduledTask : IScheduledTask StartupTask where
  isRecurring _ := true
  priority := priority
  isEnabled := isEnabled
  isRecurring_initializeTask _ := rfl
  isRecurring_buildRequest _ _ _ _ := rfl
  isRecurring_processResponse _ _ _ _ := rfl
  isRecurring_of_blocks _ _ := rfl

end StartupTask

namespace Task

variable {τ : Type*} [IScheduledTask τ]

/-- `IMasterTask::IsRecurring`. -/
def isRecurring : Task τ → Bool
  | poll task => task.isRecurring
  | other task => IScheduledTask.isRecurring task

/-- `IMasterTask::Priority`. -/
def priority : Task τ → ℤ
  | poll task => task.priority
  | other task => IScheduledTask.priority task

/-- `IMasterTask::IsEnabled`. -/
def isEnabled (env : Env) : Task τ → Bool
  | poll task => task.isEnabled
  | other task => IScheduledTask.isEnabled env task

end Task

/-- `IMasterTask::ExpirationTime`. -/
def TaskObject.expirationTime {τ : Type*} [IScheduledTask τ] (env : Env) (object : TaskObject τ) :
    ℤ :=
  if object.task.isEnabled env then object.behavior.expiration else INT64_MAX

/-! ## The scheduler -/

/-- `MasterSchedulerBackend::Record`, of a task and the runner that it belongs to. -/
structure Record (ι : Type*) where
  runner : ι
  task : TaskId
  deriving DecidableEq, Repr

/-- `MasterSchedulerBackend`, with the times that its timers were last started for. -/
structure MasterSchedulerBackend (ι : Type*) where
  taskCheckPending : Bool := false
  current : Option (Record ι) := none
  tasks : List (Record ι) := []
  taskTimer : Option ℤ := none
  taskStartTimeout : Option ℤ := none
  deriving DecidableEq, Repr

/-- The scheduler and the masters that it runs tasks for. -/
structure System (ι τ : Type*) where
  scheduler : MasterSchedulerBackend ι := {}
  runners : ι → MContext τ

/-- `MasterSchedulerBackend::Comparison`. -/
inductive Comparison where
  | LEFT
  | RIGHT
  | SAME
  deriving DecidableEq, Repr

namespace System

variable {ι τ : Type*}

/-- The task object of a record. -/
def object (s : System ι τ) (r : Record ι) : Option (TaskObject τ) :=
  (s.runners r.runner).objects[r.task]?

section Tasks

variable [IScheduledTask τ]

/-- `IMasterTask::IsRecurring`. -/
def isRecurring (s : System ι τ) (r : Record ι) : Bool :=
  (s.object r).any fun object => object.task.isRecurring

/-- `IMasterTask::Priority`. -/
def priority (s : System ι τ) (r : Record ι) : ℤ :=
  (s.object r).elim 0 fun object => object.task.priority

/-- `IMasterTask::ExpirationTime`. -/
def expirationTime (env : Env) (s : System ι τ) (r : Record ι) : ℤ :=
  (s.object r).elim INT64_MAX fun object => object.expirationTime env

omit [IScheduledTask τ] in
/-- `IMasterTask::StartExpirationTime`. -/
def startExpirationTime (s : System ι τ) (r : Record ι) : ℤ :=
  (s.object r).elim INT64_MAX fun object => object.behavior.startExpiration

/-- `IMasterTask::IsExpired`. -/
def isExpired (env : Env) (s : System ι τ) (r : Record ι) : Bool :=
  s.expirationTime env r ≤ env.now

/-- `IMasterTask::IsBlocked` with `TaskContext::IsBlocked`. -/
def isBlocked (s : System ι τ) (r : Record ι) : Bool :=
  (s.runners r.runner).blocking.any fun blocking =>
    s.priority { r with task := blocking } < s.priority r && blocking ≠ r.task

/-! ## The best task -/

/-- `MasterSchedulerBackend::CompareEnabledStatus`. -/
def compareEnabledStatus (env : Env) (s : System ι τ) (left right : Record ι) : Comparison :=
  if s.expirationTime env left = INT64_MAX then
    if s.expirationTime env right = INT64_MAX then .SAME else .RIGHT
  else if s.expirationTime env right = INT64_MAX then .LEFT
  else .SAME

/-- `MasterSchedulerBackend::CompareBlockedStatus`. -/
def compareBlockedStatus (s : System ι τ) (left right : Record ι) : Comparison :=
  if s.isBlocked left then if s.isBlocked right then .SAME else .RIGHT
  else if s.isBlocked right then .LEFT else .SAME

/-- The time that `MasterSchedulerBackend::CompareTime` takes for a task: expired tasks count as
expired now. -/
def effectiveTime (env : Env) (s : System ι τ) (r : Record ι) : ℤ :=
  if s.isExpired env r then env.now else s.expirationTime env r

/-- `MasterSchedulerBackend::CompareTime`. -/
def compareTime (env : Env) (s : System ι τ) (left right : Record ι) : Comparison :=
  if s.effectiveTime env left < s.effectiveTime env right then .LEFT
  else if s.effectiveTime env right < s.effectiveTime env left then .RIGHT
  else .SAME

/-- `MasterSchedulerBackend::ComparePriority`. -/
def comparePriority (s : System ι τ) (left right : Record ι) : Comparison :=
  if s.priority left < s.priority right then .LEFT
  else if s.priority right < s.priority left then .RIGHT
  else .SAME

/-- `MasterSchedulerBackend::GetBestTaskToRun`. -/
def getBestTaskToRun (env : Env) (s : System ι τ) (left right : Record ι) : Comparison :=
  let enabled := s.compareEnabledStatus env left right
  if enabled ≠ .SAME then enabled
  else
    let blocked := s.compareBlockedStatus left right
    if blocked ≠ .SAME then blocked
    else
      let earliest := s.compareTime env left right
      if earliest = .SAME then s.comparePriority left right else earliest

/-- The loop of `MasterSchedulerBackend::CheckForTaskRun` over the tasks. -/
def bestTask (env : Env) (s : System ι τ) : Option (Record ι) :=
  match s.scheduler.tasks with
  | [] => none
  | first :: rest =>
    some (rest.foldl
      (fun best r => if s.getBestTaskToRun env best r = .RIGHT then r else best) first)

/-! ## The methods of the scheduler -/

omit [IScheduledTask τ] in
/-- `MasterSchedulerBackend::PostCheckForTaskRun`. -/
def postCheckForTaskRun (s : System ι τ) : System ι τ :=
  { s with scheduler := { s.scheduler with taskCheckPending := true } }

omit [IScheduledTask τ] in
/-- `MasterSchedulerBackend::Add`. -/
def add (r : Record ι) (s : System ι τ) : System ι τ :=
  { s with scheduler := { s.scheduler with tasks := s.scheduler.tasks ++ [r] } }.postCheckForTaskRun

/-- `MasterSchedulerBackend::RestartTimeoutTimer`. -/
def restartTimeoutTimer (s : System ι τ) : System ι τ :=
  let min := s.scheduler.tasks.foldl (fun min r =>
    if !s.isRecurring r && s.startExpirationTime r < min then s.startExpirationTime r else min)
    INT64_MAX
  { s with scheduler := { s.scheduler with taskStartTimeout := some min } }

variable [DecidableEq ι]

omit [IScheduledTask τ] in
/-- Changes a master. -/
def modifyRunner (i : ι) (f : MContext τ → MContext τ) (s : System ι τ) : System ι τ :=
  { s with runners := Function.update s.runners i (f (s.runners i)) }

/-- `IMasterTask::CompleteTask` of a record. -/
def completeTask (env : Env) (result : TaskCompletion) (s : System ι τ) (r : Record ι) :
    System ι τ :=
  s.modifyRunner r.runner fun c => c.completeTask r.task result env.now

/-- `MasterSchedulerBackend::SetRunnerOffline`. The tasks that are not recurring are told so, the
current one first. -/
def setRunnerOffline (env : Env) (i : ι) (s : System ι τ) : System ι τ :=
  let owned := (s.scheduler.current.toList ++ s.scheduler.tasks).filter fun r => r.runner = i
  let completed := (owned.filter fun r => !s.isRecurring r).foldl
    (completeTask env .FAILURE_NO_COMMS) s
  { completed with
    scheduler := { s.scheduler with
      current := s.scheduler.current.filter fun r => r.runner ≠ i
      tasks := s.scheduler.tasks.filter fun r => r.runner ≠ i } }.postCheckForTaskRun

/-- `MasterSchedulerBackend::CompleteCurrentFor`. -/
def completeCurrentFor (i : ι) (s : System ι τ) : System ι τ :=
  match s.scheduler.current with
  | none => s
  | some r =>
    if r.runner = i then
      let s := if s.isRecurring r then s.add r else s
      { s with scheduler := { s.scheduler with current := none } }.postCheckForTaskRun
    else s

/-- What a call of a master means to the scheduler. -/
def call (env : Env) (i : ι) (s : System ι τ) : Output → System ι τ
  | .add task => s.add { runner := i, task }
  | .setRunnerOffline => s.setRunnerOffline env i
  | .completeCurrentFor => s.completeCurrentFor i
  | .evaluate => s.postCheckForTaskRun
  | _ => s

/-- An event of a master, with its calls of the scheduler. -/
def occur (env : Env) (i : ι) (event : Event τ) (s : System ι τ) : System ι τ :=
  ((s.runners i).outputs (env, event)).foldl (call env i)
    (s.modifyRunner i fun c => c.step (env, event))

/-- The task that `MasterSchedulerBackend::CheckForTaskRun` starts. -/
def taskToRun (env : Env) (s : System ι τ) : Option (Record ι) :=
  if s.scheduler.current.isSome then none else (s.bestTask env).filter (s.isExpired env)

/-- `MasterSchedulerBackend::CheckForTaskRun`. -/
def checkForTaskRun (env : Env) (s : System ι τ) : System ι τ :=
  let s : System ι τ :=
    { s with scheduler := { s.scheduler with taskCheckPending := false } }.restartTimeoutTimer
  if s.scheduler.current.isSome then s
  else
    match s.bestTask env with
    | none => s
    | some best =>
      if s.isExpired env best then
        { s with
          scheduler := { s.scheduler with
            current := some best
            tasks := s.scheduler.tasks.erase best } }.occur env best.runner (.run best.task)
      else
        { s with
          scheduler := { s.scheduler with taskTimer := some (s.expirationTime env best) } }

/-- `MasterSchedulerBackend::TimeoutTasks`. -/
def timeoutTasks (env : Env) (s : System ι τ) : System ι τ :=
  let isTimedOut (r : Record ι) : Bool := !s.isRecurring r && s.startExpirationTime r ≤ env.now
  let completed := (s.scheduler.tasks.filter isTimedOut).foldl
    (completeTask env .FAILURE_START_TIMEOUT) s
  { completed with
    scheduler := { s.scheduler with
      tasks := s.scheduler.tasks.filter fun r => !isTimedOut r } }.restartTimeoutTimer

/-- The callback of `MasterSchedulerBackend::Demand`. -/
def demand (env : Env) (r : Record ι) (s : System ι τ) : System ι τ :=
  (s.modifyRunner r.runner fun c => c.setMinExpiration r.task).checkForTaskRun env

end Tasks

end System

/-! ## Runs -/

/-- An event that comes to a master from outside the scheduler. Polls of `AddScan` are recurring,
and the tasks that are handed to `ScheduleAdhocTask` are not. -/
def Event.FromOutside {τ : Type*} [IScheduledTask τ] : Event τ → Prop
  | .run _ => False
  | .scheduleRecurringPollTask object => object.task.isRecurring = true
  | .scheduleAdhocTask object => object.task.isRecurring = false
  | _ => True

/-- What happens to the masters and their scheduler. -/
inductive SystemEvent (ι τ : Type*) [IScheduledTask τ] where
  | occurs (runner : ι) (event : { event : Event τ // event.FromOutside })
  /-- A posted check, or the task timer. -/
  | checkForTaskRun
  /-- The timer of the start timeouts. -/
  | timeoutTasks
  | demand (r : Record ι)

/-- A master as its constructor leaves it: `MasterTasks` names every task object once, and all of
them are recurring. -/
structure MasterConfig (τ : Type*) [IScheduledTask τ] where
  addresses : Addresses
  params : MasterParams := {}
  tasks : MasterTasks
  objects : List (TaskObject τ)
  nodup : tasks.all.Nodup
  mem_all_iff : ∀ id, id ∈ tasks.all ↔ id < objects.length
  isRecurring : ∀ object ∈ objects, object.task.isRecurring = true

namespace System

variable {ι τ : Type*} [DecidableEq ι] [IScheduledTask τ]

/-- One event, at the time of the environment. -/
def step (s : System ι τ) (e : Env × SystemEvent ι τ) : System ι τ :=
  match e.2 with
  | .occurs runner event => s.occur e.1 runner event
  | .checkForTaskRun => s.checkForTaskRun e.1
  | .timeoutTasks => s.timeoutTasks e.1
  | .demand r => s.demand e.1 r

omit [DecidableEq ι] in
/-- The masters before their first session. -/
def init (configs : ι → MasterConfig τ) : System ι τ where
  runners i := .init (configs i).addresses (configs i).params (configs i).tasks (configs i).objects

end System

end OpenDnp3.Master
