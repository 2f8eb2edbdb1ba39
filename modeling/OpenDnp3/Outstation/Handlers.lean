import OpenDnp3.App.Apdu
import OpenDnp3.App.Parser
import OpenDnp3.Outstation.EventBuffer

/-!
# The request handlers of the outstation

The handlers that the outstation gives to the application layer parser: `ReadHandler`,
`WriteHandler`, `CommandResponseHandler`, `ClassBasedRequestHandler` and `AssignClassHandler`, with
the state that they work on. The calls that the stack makes to the user code and to the lower layer
are kept in a log; what the user code answers in a step is in an environment.
-/

namespace OpenDnp3.Outstation

open App

/-- `CommandStatus`. -/
inductive CommandStatus where
  | SUCCESS | TIMEOUT | NO_SELECT | FORMAT_ERROR | NOT_SUPPORTED | ALREADY_ACTIVE | HARDWARE_ERROR
  | LOCAL | TOO_MANY_OPS | NOT_AUTHORIZED | AUTOMATION_INHIBIT | PROCESSING_LIMITED | OUT_OF_RANGE
  | DOWNSTREAM_LOCAL | ALREADY_COMPLETE | BLOCKED | CANCELLED | BLOCKED_OTHER_MASTER
  | DOWNSTREAM_FAIL | NON_PARTICIPATING | UNDEFINED
  deriving DecidableEq, Repr

/-- `CommandStatusToType`. -/
def CommandStatus.toType : CommandStatus → UInt8
  | SUCCESS => 0
  | TIMEOUT => 1
  | NO_SELECT => 2
  | FORMAT_ERROR => 3
  | NOT_SUPPORTED => 4
  | ALREADY_ACTIVE => 5
  | HARDWARE_ERROR => 6
  | LOCAL => 7
  | TOO_MANY_OPS => 8
  | NOT_AUTHORIZED => 9
  | AUTOMATION_INHIBIT => 10
  | PROCESSING_LIMITED => 11
  | OUT_OF_RANGE => 12
  | DOWNSTREAM_LOCAL => 13
  | ALREADY_COMPLETE => 14
  | BLOCKED => 15
  | CANCELLED => 16
  | BLOCKED_OTHER_MASTER => 17
  | DOWNSTREAM_FAIL => 18
  | NON_PARTICIPATING => 126
  | UNDEFINED => 127

/-- `CommandStatusFromType`. -/
def CommandStatus.fromType (arg : UInt8) : CommandStatus :=
  match arg.toNat with
  | 0 => SUCCESS
  | 1 => TIMEOUT
  | 2 => NO_SELECT
  | 3 => FORMAT_ERROR
  | 4 => NOT_SUPPORTED
  | 5 => ALREADY_ACTIVE
  | 6 => HARDWARE_ERROR
  | 7 => LOCAL
  | 8 => TOO_MANY_OPS
  | 9 => NOT_AUTHORIZED
  | 10 => AUTOMATION_INHIBIT
  | 11 => PROCESSING_LIMITED
  | 12 => OUT_OF_RANGE
  | 13 => DOWNSTREAM_LOCAL
  | 14 => ALREADY_COMPLETE
  | 15 => BLOCKED
  | 16 => CANCELLED
  | 17 => BLOCKED_OTHER_MASTER
  | 18 => DOWNSTREAM_FAIL
  | 126 => NON_PARTICIPATING
  | _ => UNDEFINED

/-- `OperateType`. -/
inductive OperateType where
  | SelectBeforeOperate
  | DirectOperate
  | DirectOperateNoAck
  deriving DecidableEq, Repr

/-- `RestartMode`. -/
inductive RestartMode where
  | UNSUPPORTED
  | SUPPORTED_DELAY_FINE
  | SUPPORTED_DELAY_COARSE
  deriving DecidableEq, Repr

/-- `APDUResponse`. The numbers of the event records that are in it are not in the source. -/
structure APDUResponse (α : Type*) where
  control : AppControlField := {}
  function : FunctionCode
  iin : IINField := 0
  headers : List (ObjectHeader α) := []
  events : List ℕ := []
  deriving DecidableEq, Repr

/-- A call of the stack to the lower layer, the command handler or the application. The entry
`selection` marks a call of `ControlState::Select`, with the statuses of the response. -/
inductive Output (α : Type*) where
  | transmit (destination : ℕ) (response : APDUResponse α)
  | start
  | finish
  | select (gv : GroupVariation) (object : List UInt8) (index : ℕ)
  | operate (gv : GroupVariation) (object : List UInt8) (index : ℕ) (opType : OperateType)
  | selection (seq : ℕ) (time : ℤ) (objects : List UInt8) (statuses : List CommandStatus)
  | writeAbsoluteTime (time : ℤ)
  | writeTimeAndInterval (values : List (Indexed Value))
  | coldRestart
  | warmRestart
  | recordClassAssignment (type : StaticType) (clazz : PointClass) (start stop : ℕ)
  deriving DecidableEq, Repr

/-- What the executor, the command handler and the application answer in a step. An answer to a
call may depend on the calls before it. -/
structure Env (α : Type*) where
  now : ℤ := 0
  commandHandler : List (Output α) → CommandStatus := fun _ => .SUCCESS
  applicationIIN : IINField := 0
  supportsWriteAbsoluteTime : Bool := false
  writeAbsoluteTime : List (Output α) → Bool := fun _ => false
  supportsWriteTimeAndInterval : Bool := false
  writeTimeAndInterval : List (Output α) → Bool := fun _ => false
  supportsAssignClass : Bool := false
  coldRestartSupport : RestartMode := .UNSUPPORTED
  warmRestartSupport : RestartMode := .UNSUPPORTED
  coldRestart : UInt16 := 65535
  warmRestart : UInt16 := 65535

/-- `IINFromParseResult`. -/
def iinFromParseResult : ParseResult → IINField
  | .OK => 0
  | .UNKNOWN_OBJECT => IINField.objectUnknown
  | _ => IINField.paramError

/-- The result of a parse with the errors of the handler. -/
def iinOf (result : ParseResult) (errors : IINField) : IINField :=
  if result = .OK then errors else iinFromParseResult result

/-! ## Controls -/

/-- `ControlState`. -/
structure ControlState where
  expectedSeq : ℕ := 0
  selectTime : ℤ := 0
  digest : UInt16 := 0
  length : ℕ := 0
  deriving DecidableEq, Repr

namespace ControlState

/-- `ControlState::ValidateSelection`. -/
def validateSelection (c : ControlState) (seq : ℕ) (now timeout : ℤ) (objects : List UInt8) :
    CommandStatus :=
  if c.expectedSeq = seq then
    if c.selectTime ≤ now then
      if now - c.selectTime < timeout then
        if c.length = objects.length ∧ c.digest = Link.CRC.calcCrc objects then .SUCCESS
        else .NO_SELECT
      else .TIMEOUT
    else .TIMEOUT
  else .NO_SELECT

/-- `ControlState::Select`. -/
def select (seq : ℕ) (now : ℤ) (objects : List UInt8) : ControlState where
  expectedSeq := nextSeq seq
  selectTime := now
  digest := Link.CRC.calcCrc objects
  length := objects.length

end ControlState

variable {α : Type*}

/-- `ICommandAction`: the adapter of the command handler, or a constant. -/
inductive CommandAction where
  | adapter (isSelect : Bool) (opType : OperateType)
  | constant (status : CommandStatus)
  deriving DecidableEq, Repr

/-- `CommandResponseHandler` with the action that it is given. -/
structure CommandResponseHandler (α : Type*) where
  action : CommandAction
  maxCommands : ℕ
  isStarted : Bool := false
  numRequests : ℕ := 0
  numSuccess : ℕ := 0
  writer : Option (HeaderWriter α)
  errors : IINField := 0
  statuses : List CommandStatus := []
  log : List (Output α)
  deriving DecidableEq, Repr

namespace CommandResponseHandler

/-- `CommandResponseHandler::IsAllowed`. -/
def isAllowed (gv : GroupVariation) (qc : QualifierCode) : Bool :=
  (qc = .UINT8_CNT_UINT8_INDEX || qc = .UINT16_CNT_UINT16_INDEX) &&
    (gv = .Group12Var1 || gv = .Group41Var1 || gv = .Group41Var2 || gv = .Group41Var3 ||
      gv = .Group41Var4)

/-- `ICommandAction::Action`. The adapter starts a transaction with its first command. -/
def act (env : Env α) (h : CommandResponseHandler α) (gv : GroupVariation) (object : List UInt8)
    (index : ℕ) : CommandStatus × CommandResponseHandler α :=
  match h.action with
  | .constant status => (status, h)
  | .adapter isSelect opType =>
    let call := if isSelect then .select gv object index else .operate gv object index opType
    let log := h.log ++ (if h.isStarted then [call] else [.start, call])
    (env.commandHandler log, { h with isStarted := true, log })

/-- `CommandResponseHandler::ProcessCommand`. -/
def processCommand (env : Env α) (h : CommandResponseHandler α) (gv : GroupVariation)
    (object : List UInt8) (index : ℕ) : CommandStatus × CommandResponseHandler α :=
  if h.numRequests < h.maxCommands then
    { h with numRequests := h.numRequests + 1 }.act env gv object index
  else (.TOO_MANY_OPS, h)

/-- The command with its status, which is its last byte. -/
def withStatus (object : List UInt8) (status : CommandStatus) : List UInt8 :=
  object.dropLast ++ [status.toType]

/-- The bytes of a value of a command header. -/
def objectOf : Value → List UInt8
  | .object bytes => bytes
  | _ => []

/-- The lambda of `CommandResponseHandler::RespondToHeaderWithIterator`, with the iterator and the
writer that it shares a position with. -/
def respondTo (env : Env α) (gv : GroupVariation)
    (p : CommandResponseHandler α × HeaderWriter (List UInt8) ×
      Option (PrefixedWriteIterator (List UInt8))) (pair : Indexed Value) :
    CommandResponseHandler α × HeaderWriter (List UInt8) ×
      Option (PrefixedWriteIterator (List UInt8)) :=
  let (h, w, iterator) := p
  let object := objectOf pair.value
  let (status, h) := h.processCommand env gv object pair.index
  let h : CommandResponseHandler α :=
    { h with
      numSuccess := if status = .SUCCESS then h.numSuccess + 1 else h.numSuccess
      errors := if status = .NOT_SUPPORTED then h.errors ||| IINField.paramError else h.errors
      statuses := h.statuses ++ [status] }
  -- A response that does not fit is not written.
  match iterator.bind fun iterator => iterator.write w (withStatus object status) pair.index with
  | some (w, iterator) => (h, w, some iterator)
  | none => (h, w, iterator)

/-- `CommandResponseHandler::RespondToHeader`. -/
def respondToHeader (env : Env α) (h : CommandResponseHandler α) (gv : GroupVariation)
    (index : IndexType) (values : List (Indexed Value)) : CommandResponseHandler α :=
  match h.writer with
  | none => (values.foldl (respondTo env gv) (h, { remaining := 0 }, none)).1
  | some writer =>
    let (w, iterator) := PrefixedWriteIterator.iterateOverCountWithPrefix
      ({ remaining := writer.remaining } : HeaderWriter (List UInt8)) gv.inst index
    let (h, w, iterator) := values.foldl (respondTo env gv) (h, w, iterator)
    let writer : HeaderWriter α := { writer with remaining := w.remaining }
    { h with
      writer := some (match iterator with
        | some iterator => writer.push (.commands gv index iterator.objects)
        | none => writer) }

/-- `CommandResponseHandler::ProcessHeader`. The parser delivers no other header than the commands
that the white-list allows. -/
def onHeader (env : Env α) (h : CommandResponseHandler α) : HeaderCall → CommandResponseHandler α
  | .prefixValues record _ values =>
    if isAllowed record.enumeration record.getQualifierCode then
      h.respondToHeader env record.enumeration
        (if record.getQualifierCode = .UINT8_CNT_UINT8_INDEX then .UInt8 else .UInt16) values
    else { h with errors := h.errors ||| IINField.funcNotSupported }
  | _ => { h with errors := h.errors ||| IINField.funcNotSupported }

/-- The handler for the parser. -/
def handler (env : Env α) : IAPDUHandler (CommandResponseHandler α) where
  isAllowed h _ gv qc := (isAllowed gv qc, h)
  onHeader := onHeader env

/-- `CommandResponseHandler::AllCommandsSuccessful`. -/
def allCommandsSuccessful (h : CommandResponseHandler α) : Bool := h.numRequests = h.numSuccess

/-- The handler and the action go out of scope: the adapter ends its transaction. -/
def finish (h : CommandResponseHandler α) : List (Output α) :=
  if h.isStarted then h.log ++ [.finish] else h.log

/-- A parse of commands with this handler. -/
def run (env : Env α) (action : CommandAction) (maxCommands : ℕ)
    (writer : Option (HeaderWriter α)) (objects : List UInt8) (log : List (Output α)) :
    ParseResult × CommandResponseHandler α :=
  let (result, handled) :=
    APDUParser.parse (handler env) {} objects { action, maxCommands, writer, log }
  (result, handled.state)

end CommandResponseHandler

/-! ## Reads -/

/-- `ReadHandler` with the selectors that it is given. -/
structure ReadHandler (α : Type*) where
  db : DatabaseBuffers α
  events : EventBuffer α
  errors : IINField := 0

namespace ReadHandler

variable [MeasurementSpec α]

/-- `ReadHandler::ProcessHeader`. -/
def onHeader (h : ReadHandler α) : HeaderCall → ReadHandler α
  | .allObjects record =>
    match record.type with
    | .STATIC =>
      let (iin, db) := h.db.selectAll record.enumeration
      { h with db, errors := h.errors ||| iin }
    | .EVENT =>
      let (iin, events) := h.events.selectAll record.enumeration
      { h with events, errors := h.errors ||| iin }
    | _ => { h with errors := h.errors ||| IINField.funcNotSupported }
  | .range record range =>
    let (iin, db) := h.db.selectRange record.enumeration range
    { h with db, errors := h.errors ||| iin }
  | .count record count =>
    let (iin, events) := h.events.selectCount record.enumeration count
    { h with events, errors := h.errors ||| iin }
  | _ => { h with errors := h.errors ||| IINField.funcNotSupported }

/-- The handler for the parser. -/
def handler : IAPDUHandler (ReadHandler α) where
  isAllowed h _ _ _ := (true, h)
  onHeader := onHeader

end ReadHandler

/-! ## Writes -/

/-- `TimeSyncState`. -/
structure TimeSyncState where
  valid : Bool := false
  time : ℤ := 0
  difference : ℤ := 0
  expectedSeqNum : ℕ := 0
  deriving DecidableEq, Repr

namespace TimeSyncState

/-- `TimeSyncState::RecordCurrentTime`. -/
def recordCurrentTime (t : TimeSyncState) (seq : ℕ) (now : ℤ) : TimeSyncState :=
  { t with valid := true, time := now, expectedSeqNum := nextSeq seq }

/-- `TimeSyncState::CalcTimeDifference`, which uses the recorded time up. -/
def calcTimeDifference (t : TimeSyncState) (seq : ℕ) (now : ℤ) : Option TimeSyncState :=
  if t.valid ∧ t.expectedSeqNum = seq ∧ t.time ≤ now then
    some { t with difference := now - t.time, valid := false }
  else none

end TimeSyncState

/-- `WriteHandler` with the objects that it is given. -/
structure WriteHandler (α : Type*) where
  time : TimeSyncState
  seq : ℕ
  writeIIN : IINField
  wroteTime : Bool := false
  wroteIIN : Bool := false
  errors : IINField := 0
  log : List (Output α)
  deriving DecidableEq, Repr

namespace WriteHandler

/-- `WriteHandler::ProcessHeader` of IIN bits: only the restart bit is written, once, and to 0. -/
def processIIN (h : WriteHandler α) (values : List (Indexed Value)) :
    IINField × WriteHandler α :=
  match values with
  | [pair] =>
    if h.wroteIIN ∨ pair.index ≠ 7 ∨ pair.value ≠ .bit false then (IINField.paramError, h)
    else
      (0, { h with wroteIIN := true, writeIIN := h.writeIIN &&& ~~~IINField.deviceRestart })
  | _ => (IINField.paramError, h)

/-- `IOutstationApplication::WriteAbsoluteTime`. -/
def writeAbsoluteTime (env : Env α) (h : WriteHandler α) (time : ℤ) : IINField × WriteHandler α :=
  let log := h.log ++ [.writeAbsoluteTime time]
  (if env.writeAbsoluteTime log then 0 else IINField.paramError, { h with wroteTime := true, log })

/-- `WriteHandler::ProcessHeader` of an absolute time. -/
def processGroup50Var1 (env : Env α) (h : WriteHandler α) (values : List Value) :
    IINField × WriteHandler α :=
  if h.wroteTime then (IINField.paramError, h)
  else if !env.supportsWriteAbsoluteTime then (IINField.funcNotSupported, h)
  else
    match values with
    | [.object bytes] => h.writeAbsoluteTime env (readUInt48 bytes)
    | _ => (IINField.paramError, h)

/-- `WriteHandler::ProcessHeader` of a recorded time. -/
def processGroup50Var3 (env : Env α) (h : WriteHandler α) (values : List Value) :
    IINField × WriteHandler α :=
  if h.wroteTime then (IINField.paramError, h)
  else if !env.supportsWriteAbsoluteTime then (IINField.funcNotSupported, h)
  else
    match values with
    | [.object bytes] =>
      match h.time.calcTimeDifference h.seq env.now with
      | none => (IINField.paramError, h)
      | some time => { h with time }.writeAbsoluteTime env (readUInt48 bytes + time.difference)
    | _ => (IINField.paramError, h)

/-- `WriteHandler::ProcessHeader` of times and intervals. -/
def processTimeAndInterval (env : Env α) (h : WriteHandler α) (values : List (Indexed Value)) :
    IINField × WriteHandler α :=
  if !env.supportsWriteTimeAndInterval then (IINField.funcNotSupported, h)
  else
    let log := h.log ++ [.writeTimeAndInterval values]
    (if env.writeTimeAndInterval log then 0 else IINField.paramError, { h with log })

/-- `WriteHandler::ProcessHeader`. -/
def processHeader (env : Env α) (h : WriteHandler α) : HeaderCall → IINField × WriteHandler α
  | .rangeValues record _ values =>
    if record.enumeration = .Group80Var1 then h.processIIN values
    else (IINField.funcNotSupported, h)
  | .countValues record _ values =>
    if record.enumeration = .Group50Var1 then h.processGroup50Var1 env values
    else if record.enumeration = .Group50Var3 then h.processGroup50Var3 env values
    else (IINField.funcNotSupported, h)
  | .prefixValues record _ values =>
    if record.enumeration = .Group50Var4 then h.processTimeAndInterval env values
    else (IINField.funcNotSupported, h)
  | _ => (IINField.funcNotSupported, h)

/-- The handler for the parser. -/
def handler (env : Env α) : IAPDUHandler (WriteHandler α) where
  isAllowed h _ _ _ := (true, h)
  onHeader h call :=
    let (iin, h) := h.processHeader env call
    { h with errors := h.errors ||| iin }

end WriteHandler

/-! ## Classes -/

/-- `ClassBasedRequestHandler`. -/
structure ClassBasedRequestHandler where
  classField : ClassField := {}
  errors : IINField := 0
  deriving DecidableEq, Repr

namespace ClassBasedRequestHandler

/-- `ClassBasedRequestHandler::ProcessHeader`. -/
def onHeader (h : ClassBasedRequestHandler) : HeaderCall → ClassBasedRequestHandler
  | .allObjects record =>
    match record.enumeration with
    | .Group60Var2 => { h with classField := { h.classField with class1 := true } }
    | .Group60Var3 => { h with classField := { h.classField with class2 := true } }
    | .Group60Var4 => { h with classField := { h.classField with class3 := true } }
    | _ => { h with errors := h.errors ||| IINField.funcNotSupported }
  | _ => { h with errors := h.errors ||| IINField.funcNotSupported }

/-- The handler for the parser. -/
def handler : IAPDUHandler ClassBasedRequestHandler where
  isAllowed h _ _ _ := (true, h)
  onHeader := onHeader

end ClassBasedRequestHandler

/-- `AssignClassHandler` with the assigner that it is given. The header of the class is `none` where
the source has -1. -/
structure AssignClassHandler (α : Type*) where
  db : DatabaseBuffers α
  classHeader : Option ℕ := none
  clazz : PointClass := .Class0
  numTotalHeaders : ℕ := 0
  errors : IINField := 0
  log : List (Output α)

namespace AssignClassHandler

/-- The types of the switches of `AssignClassHandler::ProcessHeader`. -/
def assignClassType : GroupVariation → Option StaticType
  | .Group1Var0 => some .Binary
  | .Group3Var0 => some .DoubleBitBinary
  | .Group10Var0 => some .BinaryOutputStatus
  | .Group20Var0 => some .Counter
  | .Group21Var0 => some .FrozenCounter
  | .Group30Var0 => some .Analog
  | .Group40Var0 => some .AnalogOutputStatus
  | _ => none

/-- `AssignClassHandler::IsExpectingAssignment`. -/
def isExpectingAssignment (h : AssignClassHandler α) : Bool × AssignClassHandler α :=
  if 0 < h.numTotalHeaders ∧ h.classHeader = some (h.numTotalHeaders - 1) then
    (true, { h with classHeader := none })
  else (false, h)

/-- `AssignClassHandler::NotifyApplicationOfAssignment`. -/
def notifyApplicationOfAssignment (h : AssignClassHandler α) (type : StaticType) (range : Range) :
    AssignClassHandler α :=
  if range.isValid then
    { h with log := h.log ++ [.recordClassAssignment type h.clazz range.start range.stop] }
  else h

/-- `AssignClassHandler::RecordClass`. -/
def recordClass (h : AssignClassHandler α) (gv : GroupVariation) :
    IINField × AssignClassHandler α :=
  let h := { h with classHeader := some h.numTotalHeaders }
  match gv with
  | .Group60Var1 => (0, { h with clazz := .Class0 })
  | .Group60Var2 => (0, { h with clazz := .Class1 })
  | .Group60Var3 => (0, { h with clazz := .Class2 })
  | .Group60Var4 => (0, { h with clazz := .Class3 })
  | _ => (IINField.paramError, { h with classHeader := none })

/-- `AssignClassHandler::ProcessHeader`, with `ProcessAssignAll` and `ProcessAssignRange`. -/
def processHeader (h : AssignClassHandler α) : HeaderCall → IINField × AssignClassHandler α
  | .allObjects record =>
    let (expecting, h) := h.isExpectingAssignment
    if expecting then
      match assignClassType record.enumeration with
      | some type =>
        let (full, db) := h.db.assignClassToAll type h.clazz
        (if full.isValid then 0 else IINField.paramError,
          { h with db }.notifyApplicationOfAssignment type full)
      | none => (IINField.funcNotSupported, h)
    else h.recordClass record.enumeration
  | .range record range =>
    let (expecting, h) := h.isExpectingAssignment
    if expecting then
      match assignClassType record.enumeration with
      | some type =>
        let (actual, db) := h.db.assignClassTo type h.clazz range
        (if actual = range then 0 else IINField.paramError,
          { h with db }.notifyApplicationOfAssignment type actual)
      | none => (IINField.funcNotSupported, h)
    else (IINField.paramError, h)
  | _ => (IINField.funcNotSupported, h)

/-- The handler for the parser. -/
def handler : IAPDUHandler (AssignClassHandler α) where
  isAllowed h _ _ _ := (true, h)
  onHeader h call :=
    let (iin, h) := h.processHeader call
    { h with errors := h.errors ||| iin, numTotalHeaders := h.numTotalHeaders + 1 }

end AssignClassHandler

end OpenDnp3.Outstation
