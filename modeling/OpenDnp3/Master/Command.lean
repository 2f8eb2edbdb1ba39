import OpenDnp3.Master.Scheduler
import OpenDnp3.Outstation.Handlers

/-!
# The command task

`CommandTask` with its `CommandSet`: the headers of a command request, what a response to it does to
their records, and the task that selects and operates.
-/

namespace OpenDnp3.Master

open App
open Outstation (CommandStatus)

/-! ## Commands -/

/-- `ControlCode`. -/
inductive ControlCode where
  | NUL | NUL_CANCEL | PULSE_ON | PULSE_ON_CANCEL | PULSE_OFF | PULSE_OFF_CANCEL | LATCH_ON
  | LATCH_ON_CANCEL | LATCH_OFF | LATCH_OFF_CANCEL | CLOSE_PULSE_ON | CLOSE_PULSE_ON_CANCEL
  | TRIP_PULSE_ON | TRIP_PULSE_ON_CANCEL | UNDEFINED
  deriving DecidableEq, Repr

/-- `ControlCodeFromType`. -/
def ControlCode.fromType (arg : UInt8) : ControlCode :=
  match arg.toNat with
  | 0x00 => NUL
  | 0x20 => NUL_CANCEL
  | 0x01 => PULSE_ON
  | 0x21 => PULSE_ON_CANCEL
  | 0x02 => PULSE_OFF
  | 0x22 => PULSE_OFF_CANCEL
  | 0x03 => LATCH_ON
  | 0x23 => LATCH_ON_CANCEL
  | 0x04 => LATCH_OFF
  | 0x24 => LATCH_OFF_CANCEL
  | 0x41 => CLOSE_PULSE_ON
  | 0x61 => CLOSE_PULSE_ON_CANCEL
  | 0x81 => TRIP_PULSE_ON
  | 0xA1 => TRIP_PULSE_ON_CANCEL
  | _ => UNDEFINED

/-- `ControlRelayOutputBlock`. -/
structure ControlRelayOutputBlock where
  functionCode : ControlCode
  rawCode : UInt8
  count : UInt8
  onTimeMS : UInt32
  offTimeMS : UInt32
  status : CommandStatus := .SUCCESS
  deriving DecidableEq, Repr

/-- `AnalogOutput`. -/
structure AnalogOutput (α : Type) where
  value : α
  status : CommandStatus := .SUCCESS
  deriving DecidableEq, Repr

/-- The bits of a `float`. -/
structure Float32Bits where
  bits : UInt32
  deriving DecidableEq, Repr

/-- The comparison `==` of two floats: a NaN is equal to nothing, and the two zeros are equal. -/
def Float32Bits.equal (x y : Float32Bits) : Bool :=
  let isNaN (x : Float32Bits) : Bool := 0x7F800000 < x.bits &&& 0x7FFFFFFF
  !isNaN x && !isNaN y && (x.bits = y.bits || (x.bits ||| y.bits) &&& 0x7FFFFFFF = 0)

/-- The bits of a `double`. -/
structure Float64Bits where
  bits : UInt64
  deriving DecidableEq, Repr

/-- The comparison `==` of two doubles. -/
def Float64Bits.equal (x y : Float64Bits) : Bool :=
  let isNaN (x : Float64Bits) : Bool := 0x7FF0000000000000 < x.bits &&& 0x7FFFFFFFFFFFFFFF
  !isNaN x && !isNaN y && (x.bits = y.bits || (x.bits ||| y.bits) &&& 0x7FFFFFFFFFFFFFFF = 0)

/-- The types that `CommandSet` has headers of. -/
inductive CommandType where
  | ControlRelayOutputBlock
  | AnalogOutputInt32
  | AnalogOutputInt16
  | AnalogOutputFloat32
  | AnalogOutputDouble64
  deriving DecidableEq, Repr

namespace CommandType

/-- The commands of a type. -/
abbrev Command : CommandType → Type
  | ControlRelayOutputBlock => Master.ControlRelayOutputBlock
  | AnalogOutputInt32 => AnalogOutput Int32
  | AnalogOutputInt16 => AnalogOutput Int16
  | AnalogOutputFloat32 => AnalogOutput Float32Bits
  | AnalogOutputDouble64 => AnalogOutput Float64Bits

/-- The object of the serializer of a type. -/
def gv : CommandType → GroupVariation
  | ControlRelayOutputBlock => .Group12Var1
  | AnalogOutputInt32 => .Group41Var1
  | AnalogOutputInt16 => .Group41Var2
  | AnalogOutputFloat32 => .Group41Var3
  | AnalogOutputDouble64 => .Group41Var4

/-- `ReadTarget` of the objects. -/
def readTarget : (t : CommandType) → List UInt8 → t.Command
  | ControlRelayOutputBlock, buffer =>
    { functionCode := .fromType (buffer.getD 0 0)
      rawCode := buffer.getD 0 0
      count := buffer.getD 1 0
      onTimeMS := readUInt32 (buffer.drop 2)
      offTimeMS := readUInt32 (buffer.drop 6)
      status := .fromType (buffer.getD 10 0) }
  | AnalogOutputInt32, buffer => ⟨(readUInt32 buffer).toInt32, .fromType (buffer.getD 4 0)⟩
  | AnalogOutputInt16, buffer => ⟨(readUInt16 buffer).toInt16, .fromType (buffer.getD 2 0)⟩
  | AnalogOutputFloat32, buffer => ⟨⟨readUInt32 buffer⟩, .fromType (buffer.getD 4 0)⟩
  | AnalogOutputDouble64, buffer => ⟨⟨readUInt64 buffer⟩, .fromType (buffer.getD 8 0)⟩

/-- `WriteTarget` of the objects. -/
def writeTarget : (t : CommandType) → t.Command → List UInt8
  | ControlRelayOutputBlock, value =>
    [value.rawCode, value.count] ++ writeUInt32 value.onTimeMS ++ writeUInt32 value.offTimeMS ++
      [value.status.toType]
  | AnalogOutputInt32, value => writeUInt32 value.value.toUInt32 ++ [value.status.toType]
  | AnalogOutputInt16, value => writeUInt16 value.value.toUInt16 ++ [value.status.toType]
  | AnalogOutputFloat32, value => writeUInt32 value.value.bits ++ [value.status.toType]
  | AnalogOutputDouble64, value => writeUInt64 value.value.bits ++ [value.status.toType]

/-- `ValuesEqual` of the types. -/
def valuesEqual : (t : CommandType) → t.Command → t.Command → Bool
  | ControlRelayOutputBlock, value, lhs =>
    value.functionCode = lhs.functionCode && value.count = lhs.count &&
      value.onTimeMS = lhs.onTimeMS && value.offTimeMS = lhs.offTimeMS
  | AnalogOutputInt32, value, lhs => value.value = lhs.value
  | AnalogOutputInt16, value, lhs => value.value = lhs.value
  | AnalogOutputFloat32, value, lhs => value.value.equal lhs.value
  | AnalogOutputDouble64, value, lhs => value.value.equal lhs.value

/-- The member `status` of the types. -/
def status : (t : CommandType) → t.Command → CommandStatus
  | ControlRelayOutputBlock, value => value.status
  | AnalogOutputInt32, value => value.status
  | AnalogOutputInt16, value => value.status
  | AnalogOutputFloat32, value => value.status
  | AnalogOutputDouble64, value => value.status

end CommandType

/-- `IndexQualifierMode`. -/
inductive IndexQualifierMode where
  | allow_one_byte
  | always_two_bytes
  deriving DecidableEq, Repr

/-- `CommandPointState`. -/
inductive CommandPointState where
  | INIT
  | SELECT_SUCCESS
  | SELECT_MISMATCH
  | SELECT_FAIL
  | OPERATE_FAIL
  | SUCCESS
  deriving DecidableEq, Repr

/-- The mode of a `CommandSetOps`. -/
inductive CommandMode where
  | Select
  | Operate
  deriving DecidableEq, Repr

/-! ## Headers -/

/-- `TypedCommandHeader::Record` with the members of `CommandState`. -/
structure CommandRecord (t : CommandType) where
  state : CommandPointState := .INIT
  status : CommandStatus := .UNDEFINED
  index : UInt16
  command : t.Command

/-- `TypedCommandHeader`. -/
structure TypedCommandHeader (t : CommandType) where
  use_single_byte_index : Bool := true
  records : List (CommandRecord t) := []

namespace TypedCommandHeader

variable {t : CommandType}

/-- `TypedCommandHeader::ExpectedQualfier`. -/
def expectedQualfier (h : TypedCommandHeader t) : QualifierCode :=
  if h.use_single_byte_index then .UINT8_CNT_UINT8_INDEX else .UINT16_CNT_UINT16_INDEX

/-- `TypedCommandHeader::Add`. -/
def add (h : TypedCommandHeader t) (command : t.Command) (index : UInt16) :
    TypedCommandHeader t where
  use_single_byte_index := if 255 < index.toNat then false else h.use_single_byte_index
  records := h.records ++ [{ index, command }]

/-- `TypedCommandHeader::AreAllSelected`. -/
def areAllSelected (h : TypedCommandHeader t) : Bool :=
  h.records.all fun rec => rec.state = .SELECT_SUCCESS

/-- The loop of `TypedCommandHeader::Write`. -/
def writeRecords : List (CommandRecord t) → HeaderWriter (List UInt8) →
    PrefixedWriteIterator (List UInt8) →
    Option (HeaderWriter (List UInt8) × PrefixedWriteIterator (List UInt8))
  | [], w, iter => some (w, iter)
  | rec :: records, w, iter =>
    match iter.write w (t.writeTarget rec.command) rec.index.toNat with
    | some (w, iter) => writeRecords records w iter
    | none => none

/-- The two branches of `TypedCommandHeader::Write`. There is no writer where the header does not
fit. -/
def writePrefixed (h : TypedCommandHeader t) (w : HeaderWriter (List UInt8)) :
    Option (HeaderWriter (List UInt8)) :=
  let index : IndexType := if h.use_single_byte_index then .UInt8 else .UInt16
  match PrefixedWriteIterator.iterateOverCountWithPrefix w t.gv.inst index with
  | (_, none) => none
  | (w, some iter) => (writeRecords h.records w iter).map fun (w, iter) => w.push iter.finish

/-- Single byte indices are allowed if they are all small enough and the optimization is allowed. -/
def restrict (mode : IndexQualifierMode) (h : TypedCommandHeader t) : TypedCommandHeader t :=
  { h with use_single_byte_index := h.use_single_byte_index && mode = .allow_one_byte }

/-- `TypedCommandHeader::Write`. -/
def write (mode : IndexQualifierMode) (h : TypedCommandHeader t) (w : HeaderWriter (List UInt8)) :
    Option (HeaderWriter (List UInt8)) × TypedCommandHeader t :=
  if h.records.isEmpty then (none, h) else ((h.restrict mode).writePrefixed w, h.restrict mode)

/-- The lambda of `TypedCommandHeader::ApplySelectResponse`. -/
def selectRecord (item : Indexed t.Command) (rec : CommandRecord t) : CommandRecord t :=
  if item.index ≠ rec.index.toNat then rec
  else if !t.valuesEqual item.value rec.command then { rec with state := .SELECT_MISMATCH }
  else if t.status item.value ≠ .SUCCESS then
    { rec with state := .SELECT_FAIL, status := t.status item.value }
  else if rec.state = .INIT then { rec with state := .SELECT_SUCCESS }
  else rec

/-- The lambda of `TypedCommandHeader::ApplyOperateResponse`. -/
def operateRecord (item : Indexed t.Command) (rec : CommandRecord t) : CommandRecord t :=
  if item.index ≠ rec.index.toNat then rec
  else if !t.valuesEqual item.value rec.command then { rec with state := .OPERATE_FAIL }
  else { rec with state := .SUCCESS, status := t.status item.value }

/-- `ForeachItem` with a lambda that counts the records. -/
def visit (f : Indexed t.Command → CommandRecord t → CommandRecord t) :
    List (Indexed t.Command) → List (CommandRecord t) → List (CommandRecord t)
  | item :: items, rec :: records => f item rec :: visit f items records
  | _, records => records

/-- What the two kinds of responses have in common, with the lambda of each. -/
def applyResponse (f : Indexed t.Command → CommandRecord t → CommandRecord t) (code : QualifierCode)
    (commands : List (Indexed t.Command)) (h : TypedCommandHeader t) : TypedCommandHeader t :=
  if code ≠ h.expectedQualfier then h
  else if h.records.length < commands.length then h
  else { h with records := visit f commands h.records }

/-- `TypedCommandHeader::ApplySelectResponse`. -/
def applySelectResponse : QualifierCode → List (Indexed t.Command) → TypedCommandHeader t →
    TypedCommandHeader t :=
  applyResponse selectRecord

/-- `TypedCommandHeader::ApplyOperateResponse`. -/
def applyOperateResponse : QualifierCode → List (Indexed t.Command) → TypedCommandHeader t →
    TypedCommandHeader t :=
  applyResponse operateRecord

end TypedCommandHeader

/-- `ICommandHeader`: a header of one of the types. -/
structure ICommandHeader where
  type : CommandType
  header : TypedCommandHeader type

/-- The value of an object in a collection of commands. -/
def readCommand (t : CommandType) (item : Indexed Value) : Indexed t.Command :=
  match item.value with
  | .object bytes => { value := t.readTarget bytes, index := item.index }
  | _ => { value := t.readTarget [], index := item.index }

/-- `ICommandHeader::ApplySelectResponse`: only the overload for the type of the header does
something. -/
def ICommandHeader.applySelectResponse (record : HeaderRecord) (values : List (Indexed Value))
    (h : ICommandHeader) : ICommandHeader :=
  if record.enumeration = h.type.gv then
    { h with
      header := h.header.applySelectResponse record.getQualifierCode
        (values.map (readCommand h.type)) }
  else h

/-- `ICommandHeader::ApplyOperateResponse`. -/
def ICommandHeader.applyOperateResponse (record : HeaderRecord) (values : List (Indexed Value))
    (h : ICommandHeader) : ICommandHeader :=
  if record.enumeration = h.type.gv then
    { h with
      header := h.header.applyOperateResponse record.getQualifierCode
        (values.map (readCommand h.type)) }
  else h

/-! ## Command sets -/

/-- `CommandSet`. -/
structure CommandSet where
  m_headers : List ICommandHeader := []

/-- The commands that a user adds to a header. -/
structure CommandItems where
  type : CommandType
  items : List (type.Command × UInt16)

/-- `CommandSet::StartHeader` and `Add` for every command. -/
def CommandItems.start (items : CommandItems) : ICommandHeader where
  type := items.type
  header := items.items.foldl (fun h item => h.add item.1 item.2) {}

/-- The command set that a user builds. -/
def CommandSet.build (headers : List CommandItems) : CommandSet where
  m_headers := headers.map CommandItems.start

/-- The bytes of a number of an index type. -/
def indexBytes : IndexType → ℕ → List UInt8
  | .UInt8, n => [UInt8.ofNat n]
  | .UInt16, n => writeUInt16 (UInt16.ofNat n)

/-- The qualifier of a header with index prefixes. -/
def prefixQualifier : IndexType → QualifierCode
  | .UInt8 => .UINT8_CNT_UINT8_INDEX
  | .UInt16 => .UINT16_CNT_UINT16_INDEX

/-- `ID` of the serializers of commands: the group and the variation. -/
def commandID : GroupVariation → List UInt8
  | .Group12Var1 => [12, 1]
  | .Group41Var1 => [41, 1]
  | .Group41Var2 => [41, 2]
  | .Group41Var3 => [41, 3]
  | .Group41Var4 => [41, 4]
  | _ => []

/-- The bytes of a header with index prefixes, whose count is kept in the index type. A command set
has no other headers. -/
def headerBytes : ObjectHeader (List UInt8) → List UInt8
  | .prefixed serializer index objects =>
    commandID serializer.gv ++ [(prefixQualifier index).toType] ++
      indexBytes index (index.cast objects.length) ++
      objects.flatMap fun object => indexBytes index object.1 ++ object.2
  | _ => []

namespace CommandSetOps

/-- The loop of `CommandSetOps::Write`. -/
def writeHeaders (mode : IndexQualifierMode) : List ICommandHeader → HeaderWriter (List UInt8) →
    Option (HeaderWriter (List UInt8)) × List ICommandHeader
  | [], w => (some w, [])
  | h :: headers, w =>
    match h.header.write mode w with
    | (none, header) => (none, { h with header } :: headers)
    | (some w, header) =>
      let (w, headers) := writeHeaders mode headers w
      (w, { h with header } :: headers)

/-- `CommandSetOps::Write` into a buffer with the given space, with the bytes that are written. -/
def write (set : CommandSet) (space : ℕ) (mode : IndexQualifierMode) :
    Option (List UInt8) × CommandSet :=
  let (w, headers) := writeHeaders mode set.m_headers { remaining := space }
  (w.map fun w => w.headers.flatMap headerBytes, { m_headers := headers })

/-- `CommandSetOps::IsAllowed`. -/
def isAllowed (gv : GroupVariation) (qc : QualifierCode) : Bool :=
  (qc = .UINT8_CNT_UINT8_INDEX || qc = .UINT16_CNT_UINT16_INDEX) &&
    (gv = .Group12Var1 || gv = .Group41Var1 || gv = .Group41Var2 || gv = .Group41Var3 ||
      gv = .Group41Var4)

/-- `CommandSetOps::ProcessAny`. The headers behind the last one of the set change nothing. -/
def processAny (mode : CommandMode) (set : CommandSet) (record : HeaderRecord)
    (values : List (Indexed Value)) : CommandSet where
  m_headers := set.m_headers.modify record.headerIndex fun h =>
    match mode with
    | .Select => h.applySelectResponse record values
    | .Operate => h.applyOperateResponse record values

/-- `CommandSetOps::ProcessHeader`. The white-list allows no other headers. -/
def onHeader (mode : CommandMode) (set : CommandSet) : HeaderCall → CommandSet
  | .prefixValues record _ values => processAny mode set record values
  | _ => set

/-- The handler for the parser. -/
def handler (mode : CommandMode) : IAPDUHandler CommandSet where
  isAllowed set _ gv qc := (isAllowed gv qc, set)
  onHeader := onHeader mode

/-- `CommandSetOps::SelectResult`. -/
inductive SelectResult where
  | OK
  | FAIL_PARSE
  | FAIL_SELECT
  deriving DecidableEq, Repr

/-- `CommandSetOps::ProcessSelectResponse`. -/
def processSelectResponse (set : CommandSet) (headers : List UInt8) : SelectResult × CommandSet :=
  let (result, handled) := APDUParser.parse (handler .Select) {} headers set
  (if result ≠ .OK then .FAIL_PARSE
    else if handled.state.m_headers.all fun h => h.header.areAllSelected then .OK
    else .FAIL_SELECT,
    handled.state)

/-- `CommandSetOps::ProcessOperateResponse`, with whether the result is `OK`. -/
def processOperateResponse (set : CommandSet) (headers : List UInt8) : Bool × CommandSet :=
  let (result, handled) := APDUParser.parse (handler .Operate) {} headers set
  (result = .OK, handled.state)

end CommandSetOps

/-! ## The task -/

/-- `CommandTask`, without its `statusResult`, which is not read, and its callback, which is told
the completion of the task and the records. -/
structure CommandTask where
  functionCodes : List FunctionCode
  commands : CommandSet
  mode : IndexQualifierMode

namespace CommandTask

/-- `CommandTask::CreateSelectAndOperate`. -/
def createSelectAndOperate (commands : CommandSet) (mode : IndexQualifierMode) : CommandTask where
  functionCodes := [.SELECT, .OPERATE]
  commands := commands
  mode := mode

/-- `CommandTask::CreateDirectOperate`. -/
def createDirectOperate (commands : CommandSet) (mode : IndexQualifierMode) : CommandTask where
  functionCodes := [.DIRECT_OPERATE]
  commands := commands
  mode := mode

/-- `CommandTask::BuildRequest`. -/
def buildRequest (space seq : ℕ) (task : CommandTask) :
    Option (APDUHeader × List UInt8) × CommandTask :=
  match task.functionCodes with
  | [] => (none, task)
  | function :: functionCodes =>
    let (objects, commands) := CommandSetOps.write task.commands space task.mode
    (objects.map fun objects => ({ control := requestControl seq, function }, objects),
      { task with functionCodes, commands })

/-- The overload of `CommandTask::ProcessResponse` for the objects. -/
def processObjects (objects : List UInt8) (task : CommandTask) : ResponseResult × CommandTask :=
  if task.functionCodes.isEmpty then
    let (ok, commands) := CommandSetOps.processOperateResponse task.commands objects
    (if ok then .OK_FINAL else .ERROR_BAD_RESPONSE, { task with commands })
  else
    let (result, commands) := CommandSetOps.processSelectResponse task.commands objects
    (match result with
      | .OK => .OK_REPEAT
      | .FAIL_SELECT => .OK_FINAL
      | .FAIL_PARSE => .ERROR_BAD_RESPONSE,
      { task with commands })

/-- `CommandTask::ProcessResponse`. -/
def processResponse (header : APDUResponseHeader) (objects : List UInt8) (task : CommandTask) :
    ResponseResult × CommandTask :=
  if validateSingleResponse header then task.processObjects objects
  else (.ERROR_BAD_RESPONSE, task)

instance instMasterTask : IMasterTask CommandTask where
  initializeTask task := task
  buildRequest _ space seq task := task.buildRequest space seq
  processResponse _ header objects task := task.processResponse header objects
  blocksLowerPriority _ := false

instance instScheduledTask : IScheduledTask CommandTask where
  isRecurring _ := false
  priority _ := COMMAND
  isEnabled _ _ := true
  isRecurring_initializeTask _ := rfl
  isRecurring_buildRequest _ _ _ _ := rfl
  isRecurring_processResponse _ _ _ _ := rfl
  isRecurring_of_blocks _ h := h

end CommandTask

/-! ## Tasks of two kinds -/

section Sum

variable {σ τ : Type*}

instance instMasterTaskSum [IMasterTask σ] [IMasterTask τ] : IMasterTask (σ ⊕ τ) where
  initializeTask := Sum.map IMasterTask.initializeTask IMasterTask.initializeTask
  buildRequest env space seq
    | .inl task => (IMasterTask.buildRequest env space seq task).map id .inl
    | .inr task => (IMasterTask.buildRequest env space seq task).map id .inr
  processResponse env header objects
    | .inl task => (IMasterTask.processResponse env header objects task).map id .inl
    | .inr task => (IMasterTask.processResponse env header objects task).map id .inr
  blocksLowerPriority := Sum.elim IMasterTask.blocksLowerPriority IMasterTask.blocksLowerPriority

instance instScheduledTaskSum [IScheduledTask σ] [IScheduledTask τ] : IScheduledTask (σ ⊕ τ) where
  isRecurring := Sum.elim IScheduledTask.isRecurring IScheduledTask.isRecurring
  priority := Sum.elim IScheduledTask.priority IScheduledTask.priority
  isEnabled env := Sum.elim (IScheduledTask.isEnabled env) (IScheduledTask.isEnabled env)
  isRecurring_initializeTask
    | .inl task => IScheduledTask.isRecurring_initializeTask task
    | .inr task => IScheduledTask.isRecurring_initializeTask task
  isRecurring_buildRequest env space seq
    | .inl task => IScheduledTask.isRecurring_buildRequest env space seq task
    | .inr task => IScheduledTask.isRecurring_buildRequest env space seq task
  isRecurring_processResponse env header objects
    | .inl task => IScheduledTask.isRecurring_processResponse env header objects task
    | .inr task => IScheduledTask.isRecurring_processResponse env header objects task
  isRecurring_of_blocks
    | .inl task => IScheduledTask.isRecurring_of_blocks task
    | .inr task => IScheduledTask.isRecurring_of_blocks task

end Sum

end OpenDnp3.Master
