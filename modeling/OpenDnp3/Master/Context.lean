import OpenDnp3.Lib.Run
import OpenDnp3.Master.Task

/-!
# The master

`MContext` of `master/MasterContext.cpp`, with the tasks of `MasterTasks` and the blocks of
`TaskContext`. The tasks are objects that the context, the scheduler and the user share, so the
context keeps them under numbers. The scheduler belongs to the environment: what the context calls
there is in a log, and it runs tasks by events. A scheduler check is always posted, so no such call
runs a task inside another event.
-/

namespace OpenDnp3.Master

open App
open Outstation (ClassField IINField)

/-- The identity of a task object. -/
abbrev TaskId := ℕ

/-- The parameters of `MasterParams` that the context reads after its construction. -/
structure MasterParams where
  ignoreRestartIIN : Bool := false
  integrityOnEventOverflowIIN : Bool := true
  eventScanOnEventsAvailableClassMask : ClassField := {}
  maxTxFragSize : ℕ := 2048
  deriving DecidableEq, Repr

/-- `MContext::TaskState`. -/
inductive TaskState where
  | IDLE
  | TASK_READY
  | WAIT_FOR_RESPONSE
  deriving DecidableEq, Repr

/-- A call of the context to the lower layer, the scheduler, the tasks or the application. The entry
`queueConfirm` marks the confirms that are put into the queue. -/
inductive Output where
  /-- `BeginTransmit` of the request of a task. -/
  | request (header : APDUHeader) (objects : List UInt8)
  /-- `BeginTransmit` of a confirm. -/
  | confirm (header : APDUHeader)
  | queueConfirm (header : APDUHeader)
  /-- `MeasurementHandler::ProcessMeasurements` of the objects, with its result and its calls to the
  `ISOEHandler`. -/
  | measurements (objects : List UInt8) (result : ParseResult) (soe : List SOECall)
  | onOpen
  | onClose
  | onReceiveIIN (iin : IINField)
  | onTaskStart (task : TaskId)
  | onTaskComplete (task : TaskId) (result : TaskCompletion)
  /-- `IMasterScheduler::Add`. -/
  | add (task : TaskId)
  | setRunnerOffline
  | completeCurrentFor
  | evaluate
  deriving DecidableEq, Repr

/-- `MasterTasks`. The tasks that the configuration does not ask for are absent. -/
structure MasterTasks where
  clearRestart : TaskId
  assignClass : TaskId
  startupIntegrity : TaskId
  eventScan : TaskId
  disableUnsol : Option TaskId := none
  enableUnsol : Option TaskId := none
  timeSynchronization : Option TaskId := none
  boundTasks : List TaskId := []
  deriving DecidableEq, Repr

/-- The order of `MasterTasks::Initialize`. -/
def MasterTasks.all (tasks : MasterTasks) : List TaskId :=
  [tasks.clearRestart, tasks.assignClass, tasks.startupIntegrity, tasks.eventScan] ++
    tasks.enableUnsol.toList ++ tasks.disableUnsol.toList ++ tasks.timeSynchronization.toList ++
    tasks.boundTasks

/-- A task object. -/
structure TaskObject (τ : Type*) where
  task : Task τ
  behavior : TaskBehavior

/-- `MContext`. -/
structure MContext (τ : Type*) where
  addresses : Addresses
  params : MasterParams := {}
  isOnline : Bool := false
  isSending : Bool := false
  solSeq : ℕ := 0
  unsolSeq : ℕ := 0
  activeTask : Option TaskId := none
  /-- Whether the response timer is running. -/
  responseTimer : Bool := false
  tasks : MasterTasks
  confirmQueue : List APDUHeader := []
  tstate : TaskState := .IDLE
  /-- The task objects. -/
  objects : List (TaskObject τ)
  /-- `TaskContext::blocking_tasks`. -/
  blocking : List TaskId := []
  log : List Output := []

/-- What happens to the context. -/
inductive Event (τ : Type*) where
  | lowerLayerUp
  | lowerLayerDown
  | receive (message : Message)
  | txReady
  | responseTimeout
  /-- The scheduler calls `Run`. -/
  | run (task : TaskId)
  | scheduleRecurringPollTask (object : TaskObject τ)
  | scheduleAdhocTask (object : TaskObject τ)

namespace MContext

variable {τ : Type*}

/-- `MContext::MContext`, with the tasks of `MasterTasks::MasterTasks`. -/
def init (addresses : Addresses) (params : MasterParams) (tasks : MasterTasks)
    (objects : List (TaskObject τ)) : MContext τ :=
  { addresses, params, tasks, objects }

/-- Adds to the log. -/
def emit (output : Output) (s : MContext τ) : MContext τ := { s with log := s.log ++ [output] }

/-! ## Tasks -/

/-- Changes a task object. -/
def modify (id : TaskId) (f : TaskObject τ → TaskObject τ) (s : MContext τ) : MContext τ :=
  { s with objects := s.objects.modify id f }

/-- `IMasterTask::SetMinExpiration`. -/
def setMinExpiration (id : TaskId) (s : MContext τ) : MContext τ :=
  s.modify id fun object => { object with behavior := object.behavior.reset }

/-- `TaskContext::AddBlock`, for a task that blocks others. -/
def addBlock [IMasterTask τ] (id : TaskId) (object : TaskObject τ) (s : MContext τ) : MContext τ :=
  if object.task.blocksLowerPriority then { s with blocking := s.blocking.insert id } else s

/-- `IMasterTask::CompleteTask`. -/
def completeTask [IMasterTask τ] (id : TaskId) (result : TaskCompletion) (now : ℤ)
    (s : MContext τ) : MContext τ :=
  match s.objects[id]? with
  | none => s
  | some object =>
    let change (f : TaskBehavior → TaskBehavior) (s : MContext τ) : MContext τ :=
      s.modify id fun object => { object with behavior := f object.behavior }
    let s := match result with
      | .FAILURE_NO_COMMS => change .reset s
      | .FAILURE_RESPONSE_TIMEOUT => (change (.onResponseTimeout now) s).addBlock id object
      | .SUCCESS =>
        let s := change (.onSuccess now) s
        { s with blocking := s.blocking.erase id }
      | _ => (change .disable s).addBlock id object
    s.emit (.onTaskComplete id result)

/-- `IMasterTask::OnStart`. -/
def startTask [IMasterTask τ] (id : TaskId) (s : MContext τ) : MContext τ :=
  (s.emit (.onTaskStart id)).modify id fun object =>
    { object with task := object.task.initializeTask }

/-- `IMasterTask::OnResponse`. -/
def onTaskResponse [IMasterTask τ] (env : Env) (id : TaskId) (object : TaskObject τ)
    (header : APDUResponseHeader) (objects : List UInt8) (s : MContext τ) :
    ResponseResult × MContext τ :=
  let (result, task) := object.task.processResponse env header objects
  let s := match object.task.measurements header objects with
    | none => s
    | some parsed =>
      let (result, soe) := MeasurementHandler.processMeasurements parsed
      s.emit (.measurements parsed result soe)
  let s := s.modify id fun object => { object with task }
  let s := match result with
    | .ERROR_BAD_RESPONSE => s.completeTask id .FAILURE_BAD_RESPONSE env.now
    | .OK_FINAL => s.completeTask id .SUCCESS env.now
    | _ => s
  (result, s)

/-- `MContext::CompleteActiveTask`. -/
def completeActiveTask (s : MContext τ) : MContext τ :=
  if s.activeTask.isSome then { s with activeTask := none }.emit .completeCurrentFor else s

/-! ## Transmission -/

/-- `MContext::CheckConfirmTransmit`. -/
def checkConfirmTransmit (s : MContext τ) : MContext τ :=
  if s.isSending then s
  else
    match s.confirmQueue with
    | [] => s
    | confirm :: confirmQueue =>
      { s with isSending := true, confirmQueue }.emit (.confirm confirm)

/-- `MContext::QueueConfirm`. -/
def queueConfirm (header : APDUHeader) (s : MContext τ) : MContext τ :=
  ({ s with confirmQueue := s.confirmQueue ++ [header] }.emit
    (.queueConfirm header)).checkConfirmTransmit

/-- `APDUHeader::Confirm`. -/
def confirmHeader (seq : ℕ) (unsolicited : Bool) : APDUHeader where
  control := { fir := true, fin := true, con := false, uns := unsolicited, seq }
  function := .CONFIRM

/-- `MContext::ResumeActiveTask`, with the assignment of the state that it returns. There is always
an active task here. -/
def resumeActiveTask [IMasterTask τ] (env : Env) (s : MContext τ) : MContext τ :=
  match s.activeTask with
  | none => s
  | some id =>
    match s.objects[id]? with
    | none => s
    | some object =>
      let (request, task) :=
        object.task.buildRequest env (s.params.maxTxFragSize - 2) s.solSeq
      let s := s.modify id fun object => { object with task }
      match request with
      | none =>
        { (s.completeTask id .FAILURE_MESSAGE_FORMAT_ERROR env.now).completeActiveTask with
          tstate := .IDLE }
      | some (header, objects) =>
        { s with responseTimer := true, isSending := true, tstate := .WAIT_FOR_RESPONSE }.emit
          (.request header objects)

/-! ## Responses -/

/-- `MasterTasks::Demand`, with the result that the task is there. -/
def demand (id : Option TaskId) (s : MContext τ) : Bool × MContext τ :=
  match id with
  | some id => (true, s.setMinExpiration id)
  | none => (false, s)

/-- `MasterTasks::OnRestartDetected`. -/
def onRestartDetected (s : MContext τ) : MContext τ :=
  let s := (s.demand s.tasks.clearRestart).2
  let s := (s.demand s.tasks.assignClass).2
  let s := (s.demand s.tasks.startupIntegrity).2
  (s.demand s.tasks.enableUnsol).2

/-- A demand and, when it is met, the evaluation of the scheduler. -/
def demandAndEvaluate (id : Option TaskId) (s : MContext τ) : MContext τ :=
  let (met, s) := s.demand id
  if met then s.emit .evaluate else s

/-- `MContext::ProcessIIN`. -/
def processIIN (iin : IINField) (s : MContext τ) : MContext τ :=
  let mask := s.params.eventScanOnEventsAvailableClassMask
  let s := if isSet iin IINField.deviceRestart && !s.params.ignoreRestartIIN then
      s.onRestartDetected.emit .evaluate
    else s
  let s := if isSet iin IINField.eventBufferOverflow && s.params.integrityOnEventOverflowIIN then
      s.demandAndEvaluate s.tasks.startupIntegrity
    else s
  let s := if isSet iin needTime then s.demandAndEvaluate s.tasks.timeSynchronization else s
  let s := if isSet iin IINField.class1Events && mask.class1 ||
        isSet iin IINField.class2Events && mask.class2 ||
        isSet iin IINField.class3Events && mask.class3 then
      s.demandAndEvaluate s.tasks.eventScan
    else s
  s.emit (.onReceiveIIN iin)

/-- `MContext::ProcessUnsolicitedResponse`. -/
def processUnsolicitedResponse (header : APDUResponseHeader) (objects : List UInt8)
    (s : MContext τ) : MContext τ :=
  if !header.control.uns then s
  else
    let (result, soe) := MeasurementHandler.processMeasurements objects
    let s := s.emit (.measurements objects result soe)
    let s := if result = .OK && header.control.con then
        s.queueConfirm (confirmHeader header.control.seq true)
      else s
    s.processIIN header.IIN

/-- The state after `MContext::OnResponse_WaitForResponse` has asked the task and queued its
confirm. -/
def finishResponse [IMasterTask τ] (env : Env) (result : ResponseResult) (s : MContext τ) :
    MContext τ :=
  match result with
  | .OK_CONTINUE => { s with responseTimer := true }
  | .OK_REPEAT =>
    if s.isSending then { s with tstate := .TASK_READY } else s.resumeActiveTask env
  | _ => { s.completeActiveTask with tstate := .IDLE }

/-- `MContext::OnResponse_WaitForResponse`, with the assignment of the state that it returns. There
is always an active task here. -/
def onResponseWaitForResponse [IMasterTask τ] (env : Env) (header : APDUResponseHeader)
    (objects : List UInt8) (s : MContext τ) : MContext τ :=
  if header.control.seq ≠ s.solSeq then s
  else
    let s := { s with responseTimer := false, solSeq := nextSeq s.solSeq }
    match s.activeTask with
    | none => s
    | some id =>
      match s.objects[id]? with
      | none => s
      | some object =>
        let (result, s) := s.onTaskResponse env id object header objects
        let s := if header.control.con then
            s.queueConfirm (confirmHeader header.control.seq false)
          else s
        s.finishResponse env result

/-- `MContext::ProcessResponse` with `MContext::OnResponseEvent`. -/
def processResponse [IMasterTask τ] (env : Env) (header : APDUResponseHeader)
    (objects : List UInt8) (s : MContext τ) : MContext τ :=
  let s := if s.tstate = .WAIT_FOR_RESPONSE then s.onResponseWaitForResponse env header objects
    else s
  s.processIIN header.IIN

/-- `MContext::ProcessAPDU`. -/
def processAPDU [IMasterTask τ] (env : Env) (header : APDUResponseHeader) (objects : List UInt8)
    (s : MContext τ) : MContext τ :=
  match header.function with
  | .UNSOLICITED_RESPONSE => s.processUnsolicitedResponse header objects
  | .RESPONSE => s.processResponse env header objects
  | _ => s

/-! ## Events -/

/-- `MContext::OnLowerLayerUp`. -/
def onLowerLayerUp (s : MContext τ) : MContext τ :=
  if s.isOnline then s
  else { s with isOnline := true, log := s.log ++ s.tasks.all.map .add ++ [.onOpen] }

/-- `MContext::OnLowerLayerDown`. The queue of the confirms stays as it is. -/
def onLowerLayerDown (s : MContext τ) : MContext τ :=
  if s.isOnline then
    ({ s with
        tstate := .IDLE
        responseTimer := false
        solSeq := 0
        unsolSeq := 0
        isOnline := false
        isSending := false
        activeTask := none }.emit .setRunnerOffline).emit .onClose
  else s

/-- `MContext::OnReceive`. -/
def onReceive [IMasterTask τ] (env : Env) (message : Message) (s : MContext τ) : MContext τ :=
  if !s.isOnline then s
  else if message.addresses.destination ≠ s.addresses.source then s
  else if message.addresses.source ≠ s.addresses.destination then s
  else
    match parseResponse message.payload with
    | none => s
    | some (header, objects) => s.processAPDU env header objects

/-- `MContext::OnTxReady` with `MContext::OnTransmitComplete`. -/
def onTxReady [IMasterTask τ] (env : Env) (s : MContext τ) : MContext τ :=
  if !s.isOnline || !s.isSending then s
  else
    let s := { s with isSending := false }
    let s := if s.tstate = .TASK_READY then s.resumeActiveTask env else s
    s.checkConfirmTransmit

/-- The response timer fires: `MContext::OnResponseTimeout` with
`MContext::OnResponseTimeout_WaitForResponse`. -/
def onResponseTimeout [IMasterTask τ] (env : Env) (s : MContext τ) : MContext τ :=
  if s.responseTimer then
    let s := { s with responseTimer := false }
    if s.isOnline && s.tstate = .WAIT_FOR_RESPONSE then
      let s := match s.activeTask with
        | some id => s.completeTask id .FAILURE_RESPONSE_TIMEOUT env.now
        | none => s
      { { s with solSeq := nextSeq s.solSeq }.completeActiveTask with tstate := .IDLE }
    else s
  else s

/-- `MContext::Run`. -/
def runTask [IMasterTask τ] (env : Env) (id : TaskId) (s : MContext τ) : MContext τ :=
  if s.activeTask.isSome || s.tstate ≠ .IDLE then s
  else
    let s := { s with tstate := .TASK_READY, activeTask := some id }.startTask id
    if s.isSending then s else s.resumeActiveTask env

/-- `MContext::ScheduleRecurringPollTask` of a new object. -/
def scheduleRecurringPollTask (object : TaskObject τ) (s : MContext τ) : MContext τ :=
  let id := s.objects.length
  let s :=
    { s with
      objects := s.objects ++ [object]
      tasks := { s.tasks with boundTasks := s.tasks.boundTasks ++ [id] } }
  if s.isOnline then s.emit (.add id) else s

/-- `MContext::ScheduleAdhocTask` of a new object. -/
def scheduleAdhocTask [IMasterTask τ] (env : Env) (object : TaskObject τ) (s : MContext τ) :
    MContext τ :=
  let id := s.objects.length
  let s := { s with objects := s.objects ++ [object] }
  if s.isOnline then s.emit (.add id) else s.completeTask id .FAILURE_NO_COMMS env.now

/-- One event, at the time of the environment. -/
def step [IMasterTask τ] (s : MContext τ) (e : Env × Event τ) : MContext τ :=
  match e.2 with
  | .lowerLayerUp => s.onLowerLayerUp
  | .lowerLayerDown => s.onLowerLayerDown
  | .receive message => s.onReceive e.1 message
  | .txReady => s.onTxReady e.1
  | .responseTimeout => s.onResponseTimeout e.1
  | .run task =>
    -- The scheduler only runs tasks that it was given.
    if task < s.objects.length then s.runTask e.1 task else s
  | .scheduleRecurringPollTask object => s.scheduleRecurringPollTask object
  | .scheduleAdhocTask object => s.scheduleAdhocTask e.1 object

end MContext

end OpenDnp3.Master
