import OpenDnp3.App.Apdu
import OpenDnp3.Master.MeasurementHandler

/-!
# The tasks of the master

`IMasterTask` with `TaskBehavior`, and the polls of `PollTaskBase`. The virtual methods of the other
tasks are a class over an arbitrary type. Times are in milliseconds.
-/

namespace OpenDnp3.Master

open App
open Outstation (ClassField IINField)

/-! ## Timing -/

/-- `MonotonicTimestamp::Max` and `TimeDuration::Max`. -/
def INT64_MAX : ℤ := 2 ^ 63 - 1

/-- `MonotonicTimestamp::Min` and `TimeDuration::Min`. -/
def INT64_MIN : ℤ := -2 ^ 63

/-- `MonotonicTimestamp::Add`. -/
def addDuration (milliseconds duration : ℤ) : ℤ :=
  if INT64_MAX - milliseconds ≤ duration then INT64_MAX else milliseconds + duration

/-- `TaskBehavior`. -/
structure TaskBehavior where
  period : ℤ
  minRetryDelay : ℤ
  maxRetryDelay : ℤ
  startExpiration : ℤ
  disabled : Bool := false
  expiration : ℤ
  currentRetryDelay : ℤ := minRetryDelay
  deriving DecidableEq, Repr

namespace TaskBehavior

/-- `TaskBehavior::SingleExecutionNoRetry`. -/
def singleExecutionNoRetry (startExpiration : ℤ) : TaskBehavior where
  period := INT64_MIN
  expiration := INT64_MIN
  minRetryDelay := INT64_MAX
  maxRetryDelay := INT64_MAX
  startExpiration := startExpiration

/-- `TaskBehavior::ImmediatePeriodic`. -/
def immediatePeriodic (period minRetryDelay maxRetryDelay : ℤ) : TaskBehavior where
  period := period
  expiration := INT64_MIN
  minRetryDelay := minRetryDelay
  maxRetryDelay := maxRetryDelay
  startExpiration := INT64_MAX

/-- `TaskBehavior::SingleImmediateExecutionWithRetry`. -/
def singleImmediateExecutionWithRetry (minRetryDelay maxRetryDelay : ℤ) : TaskBehavior where
  period := INT64_MIN
  expiration := INT64_MIN
  minRetryDelay := minRetryDelay
  maxRetryDelay := maxRetryDelay
  startExpiration := INT64_MAX

/-- `TaskBehavior::ReactsToIINOnly`. -/
def reactsToIINOnly : TaskBehavior where
  period := INT64_MIN
  expiration := INT64_MAX
  minRetryDelay := INT64_MAX
  maxRetryDelay := INT64_MAX
  startExpiration := INT64_MAX

/-- `TaskBehavior::CalcNextRetryTimeout`. -/
def calcNextRetryTimeout (b : TaskBehavior) : ℤ :=
  let doubled :=
    if INT64_MAX / 2 ≤ b.currentRetryDelay then b.maxRetryDelay else 2 * b.currentRetryDelay
  if b.maxRetryDelay < doubled then b.maxRetryDelay else doubled

/-- `TaskBehavior::OnSuccess`. -/
def onSuccess (now : ℤ) (b : TaskBehavior) : TaskBehavior :=
  { b with
    currentRetryDelay := b.minRetryDelay
    expiration := if b.period < 0 then INT64_MAX else addDuration now b.period }

/-- `TaskBehavior::OnResponseTimeout`. -/
def onResponseTimeout (now : ℤ) (b : TaskBehavior) : TaskBehavior :=
  { b with
    expiration := addDuration now b.currentRetryDelay
    currentRetryDelay := b.calcNextRetryTimeout }

/-- `TaskBehavior::Reset`. -/
def reset (b : TaskBehavior) : TaskBehavior :=
  { b with disabled := false, expiration := INT64_MIN, currentRetryDelay := b.minRetryDelay }

/-- `TaskBehavior::Disable`. -/
def disable (b : TaskBehavior) : TaskBehavior :=
  { b with disabled := true, expiration := INT64_MAX }

end TaskBehavior

/-! ## Tasks -/

/-- `IINBit::NEED_TIME`. -/
def needTime : IINField := 0x0010

/-- `IINField::IsSet`. -/
def isSet (iin bit : IINField) : Bool := iin &&& bit ≠ 0

/-- `APDUResponseHeader`. -/
structure APDUResponseHeader extends APDUHeader where
  IIN : IINField := 0
  deriving DecidableEq, Repr

/-- `APDUHeaderParser::ParseResponse`, with the objects that follow the header. -/
def parseResponse : List UInt8 → Option (APDUResponseHeader × List UInt8)
  | control :: function :: lsb :: msb :: objects =>
    some
      ({ control := .ofByte control
         function := .fromType function.toNat
         IIN := lsb.toUInt16 ||| (msb.toUInt16 <<< 8) },
        objects)
  | _ => none

/-- `IMasterTask::ResponseResult`. -/
inductive ResponseResult where
  | ERROR_BAD_RESPONSE
  | OK_FINAL
  | OK_REPEAT
  | OK_CONTINUE
  deriving DecidableEq, Repr

/-- `TaskCompletion`. -/
inductive TaskCompletion where
  | SUCCESS
  | FAILURE_BAD_RESPONSE
  | FAILURE_RESPONSE_TIMEOUT
  | FAILURE_START_TIMEOUT
  | FAILURE_MESSAGE_FORMAT_ERROR
  | FAILURE_NO_COMMS
  deriving DecidableEq, Repr

/-- What the executor and the application answer in a step. -/
structure Env where
  /-- `IExecutor::GetTime`. -/
  now : ℤ := 0
  /-- `IMasterApplication::Now`. -/
  applicationNow : ℤ := 0
  /-- `IMasterApplication::AssignClassDuringStartup`. -/
  assignClassDuringStartup : Bool := false
  deriving DecidableEq, Repr

/-- The virtual methods of `IMasterTask` that the master calls while it runs a task. -/
class IMasterTask (τ : Type*) where
  /-- `IMasterTask::Initialize`. -/
  initializeTask : τ → τ
  /-- `IMasterTask::BuildRequest` into a buffer with the given space for objects. It fails with no
  request. -/
  buildRequest : Env → ℕ → ℕ → τ → Option (APDUHeader × List UInt8) × τ
  /-- `IMasterTask::ProcessResponse`. -/
  processResponse : Env → APDUResponseHeader → List UInt8 → τ → ResponseResult × τ
  /-- `IMasterTask::BlocksLowerPriority`. -/
  blocksLowerPriority : τ → Bool

/-- `AppControlField::Request`. -/
def requestControl (seq : ℕ) : AppControlField :=
  { fir := true, fin := true, con := false, uns := false, seq }

/-- The headers of `build::WriteClassHeaders`. -/
def classHeaders (classes : ClassField) : List (List UInt8) :=
  (if classes.class1 then [[60, 2, 0x06]] else []) ++
    (if classes.class2 then [[60, 3, 0x06]] else []) ++
    (if classes.class3 then [[60, 4, 0x06]] else []) ++
    (if classes.class0 then [[60, 1, 0x06]] else [])

/-- `build::WriteClassHeaders` into the given space: the headers up to the first one that does not
fit. -/
def writeClassHeaders (space : ℕ) (classes : ClassField) : List UInt8 :=
  ((classHeaders classes).take (space / 3)).flatten

/-- The classes derived from `PollTaskBase`, with the builder of the user. -/
inductive PollKind where
  | userPoll (builder : ℕ → Option (List UInt8)) (recurring : Bool)
  | startupIntegrity (classes : ClassField)
  | eventScan (classes : ClassField)

/-- `PollTaskBase`. -/
structure PollTask where
  kind : PollKind
  rxCount : UInt32 := 0

namespace PollTask

/-- `PollTaskBase::Initialize`. -/
def initializeTask (t : PollTask) : PollTask := { t with rxCount := 0 }

/-- `BuildRequest` of the polls. The result of the builder of the user counts; the polls of classes
always succeed. -/
def buildRequest (space seq : ℕ) (t : PollTask) :
    Option (APDUHeader × List UInt8) × PollTask :=
  let header : APDUHeader := { control := requestControl seq, function := .READ }
  match t.kind with
  | .userPoll builder _ => ((builder space).map fun objects => (header, objects), t.initializeTask)
  | .startupIntegrity classes => (some (header, writeClassHeaders space classes), t)
  | .eventScan classes =>
    (some (header, writeClassHeaders space { classes with class0 := false }), t)

/-- `PollTaskBase::ProcessMeasurements`, with the call of
`MeasurementHandler::ProcessMeasurements`. -/
def processMeasurements (header : APDUResponseHeader) (objects : List UInt8) (t : PollTask) :
    ResponseResult × PollTask :=
  let t := { t with rxCount := t.rxCount + 1 }
  if (MeasurementHandler.processMeasurements objects).1 = .OK then
    (if header.control.fin then .OK_FINAL else .OK_CONTINUE, t)
  else (.ERROR_BAD_RESPONSE, t)

/-- Whether `PollTaskBase::ProcessResponse` reaches the objects: the first fragment, and no other,
has FIR. -/
def expects (header : APDUResponseHeader) (t : PollTask) : Bool :=
  if header.control.fir then t.rxCount = 0 else 0 < t.rxCount

/-- `PollTaskBase::ProcessResponse`. -/
def processResponse (header : APDUResponseHeader) (objects : List UInt8) (t : PollTask) :
    ResponseResult × PollTask :=
  if t.expects header then t.processMeasurements header objects else (.ERROR_BAD_RESPONSE, t)

/-- `BlocksLowerPriority` of the polls. -/
def blocksLowerPriority (t : PollTask) : Bool :=
  match t.kind with
  | .userPoll _ _ => false
  | .startupIntegrity _ | .eventScan _ => true

end PollTask

/-! ## The other tasks of the start-up -/

/-- `IMasterTask::ValidateSingleResponse`. -/
def validateSingleResponse (header : APDUResponseHeader) : Bool :=
  header.control.fir && header.control.fin

/-- `IINField::HasRequestError`. -/
def hasRequestError (iin : IINField) : Bool :=
  isSet iin (IINField.funcNotSupported ||| IINField.objectUnknown ||| IINField.paramError)

/-- `IMasterTask::ValidateNullResponse`. -/
def validateNullResponse (header : APDUResponseHeader) (objects : List UInt8) : Bool :=
  validateSingleResponse header && objects.isEmpty && !hasRequestError header.IIN

/-- `ClearRestartTask`, `AssignClassTask` with the headers that the application writes into the
given space, `EnableUnsolicitedTask` and `DisableUnsolicitedTask`. -/
inductive StartupTask where
  | clearRestart
  | assignClass (configureAssignClassRequest : ℕ → Option (List UInt8))
  | enableUnsolicited (enabledClasses : ClassField)
  | disableUnsolicited

namespace StartupTask

/-- The objects of `build::ClearRestartIIN`: the bit `DEVICE_RESTART` alone, cleared. -/
def clearRestartIIN (space : ℕ) : List UInt8 := if 6 ≤ space then [80, 1, 0x00, 7, 7, 0] else []

/-- `BuildRequest` of the tasks. -/
def buildRequest (space seq : ℕ) : StartupTask → Option (APDUHeader × List UInt8)
  | clearRestart => some ({ control := requestControl seq, function := .WRITE },
      clearRestartIIN space)
  | assignClass configureAssignClassRequest =>
    (configureAssignClassRequest space).map fun objects =>
      ({ control := requestControl seq, function := .ASSIGN_CLASS }, objects)
  | enableUnsolicited enabledClasses =>
      some ({ control := requestControl seq, function := .ENABLE_UNSOLICITED },
        writeClassHeaders space { enabledClasses with class0 := false })
  | disableUnsolicited => some ({ control := requestControl seq, function := .DISABLE_UNSOLICITED },
      writeClassHeaders space { class1 := true, class2 := true, class3 := true })

/-- `ProcessResponse` of the tasks. -/
def processResponse (header : APDUResponseHeader) (objects : List UInt8) :
    StartupTask → ResponseResult
  | clearRestart =>
    if validateSingleResponse header then
      if isSet header.IIN IINField.deviceRestart then .ERROR_BAD_RESPONSE else .OK_FINAL
    else .ERROR_BAD_RESPONSE
  | _ => if validateNullResponse header objects then .OK_FINAL else .ERROR_BAD_RESPONSE

instance : IMasterTask StartupTask where
  initializeTask task := task
  buildRequest _ space seq task := (task.buildRequest space seq, task)
  processResponse _ header objects task := (task.processResponse header objects, task)
  blocksLowerPriority _ := true

end StartupTask

/-- A task: a poll, or another one. -/
inductive Task (τ : Type*) where
  | poll (task : PollTask)
  | other (task : τ)

namespace Task

variable {τ : Type*} [IMasterTask τ]

/-- `IMasterTask::Initialize`. -/
def initializeTask : Task τ → Task τ
  | poll task => poll task.initializeTask
  | other task => other (IMasterTask.initializeTask task)

/-- `IMasterTask::BuildRequest`. -/
def buildRequest (env : Env) (space seq : ℕ) : Task τ → Option (APDUHeader × List UInt8) × Task τ
  | poll task =>
    let (request, task) := task.buildRequest space seq
    (request, poll task)
  | other task =>
    let (request, task) := IMasterTask.buildRequest env space seq task
    (request, other task)

/-- `IMasterTask::ProcessResponse`. -/
def processResponse (env : Env) (header : APDUResponseHeader) (objects : List UInt8) :
    Task τ → ResponseResult × Task τ
  | poll task =>
    let (result, task) := task.processResponse header objects
    (result, poll task)
  | other task =>
    let (result, task) := IMasterTask.processResponse env header objects task
    (result, other task)

/-- `IMasterTask::BlocksLowerPriority`. -/
def blocksLowerPriority : Task τ → Bool
  | poll task => task.blocksLowerPriority
  | other task => IMasterTask.blocksLowerPriority task

/-- The calls of `MeasurementHandler::ProcessMeasurements` in `ProcessResponse`: the objects that it
parses, if any. -/
def measurements (header : APDUResponseHeader) (objects : List UInt8) :
    Task τ → Option (List UInt8)
  | poll task => if task.expects header then some objects else none
  | other _ => none

end Task

end OpenDnp3.Master
