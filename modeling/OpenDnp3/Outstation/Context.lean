import OpenDnp3.Outstation.Handlers

/-!
# The outstation

`OContext` with the states of `OutstationStates.cpp`. A step takes one event from the lower layer,
the confirm timer or the user, together with what the user code answers in it.
-/

namespace OpenDnp3.Outstation

open App

/-- `RequestHistory`. -/
structure RequestHistory where
  hasLast : Bool := false
  lastHeader : APDUHeader := {}
  lastDigest : UInt16 := 0
  lastObjectsLength : ℕ := 0
  deriving DecidableEq, Repr

namespace RequestHistory

/-- `RequestHistory::Reset`. -/
def reset (h : RequestHistory) : RequestHistory := { h with hasLast := false }

/-- `RequestHistory::RecordLastProcessedRequest`. -/
def recordLastProcessedRequest (header : APDUHeader) (objects : List UInt8) : RequestHistory where
  hasLast := true
  lastHeader := header
  lastObjectsLength := objects.length
  lastDigest := Link.CRC.calcCrc objects

/-- `RequestHistory::FullyEqualsLastRequest`. -/
def fullyEqualsLastRequest (h : RequestHistory) (header : APDUHeader) (objects : List UInt8) :
    Bool :=
  h.lastHeader.equals header &&
    (h.hasLast && h.lastObjectsLength = objects.length &&
      h.lastDigest = Link.CRC.calcCrc objects)

end RequestHistory

/-- `OutstationParams`, without the parameters that the database is made with and the timeouts of
the confirm timer. -/
structure OutstationParams where
  maxControlsPerRequest : UInt8 := 16
  selectTimeout : ℤ := 10000
  maxTxFragSize : ℕ := 2048
  maxRxFragSize : ℕ := 2048
  allowUnsolicited : Bool := false
  unsolClassMask : ClassField := {}
  respondToAnyMaster : Bool := false
  deriving DecidableEq, Repr

/-- `OutstationSeqNum`. -/
structure OutstationSeqNum where
  num : ℕ := 0
  confirmNum : ℕ := 0
  deriving DecidableEq, Repr

/-- The states of `OutstationStates.h`. -/
inductive OutstationState where
  | Idle
  | SolicitedConfirmWait
  | UnsolicitedConfirmWait
  deriving DecidableEq, Repr

/-- `OContext`. The last response of a transmit buffer is kept as a whole; before the first one it
is the empty slice. -/
structure OContext (α : Type*) where
  addresses : Addresses
  eventBuffer : EventBuffer α
  database : DatabaseBuffers α
  /-- `ResponseContext`, whose loaders are the database and the event buffer. -/
  fragmentCount : UInt16 := 0
  params : OutstationParams := {}
  isOnline : Bool := false
  isTransmitting : Bool := false
  staticIIN : IINField := IINField.deviceRestart
  /-- Whether the confirm timer is running. -/
  confirmTimer : Bool := false
  history : RequestHistory := {}
  deferred : Option ParsedRequest := none
  control : ControlState := {}
  time : TimeSyncState := {}
  solSeq : OutstationSeqNum := {}
  solTx : APDUResponse α := { function := .UNKNOWN }
  completedNull : Bool := false
  unsolSeq : OutstationSeqNum := {}
  unsolTx : APDUResponse α := { function := .UNKNOWN }
  state : OutstationState := .Idle
  /-- The calls that the outstation has made. -/
  log : List (Output α) := []

namespace OContext

variable {α : Type*} [MeasurementSpec α]

/-! ## Transmissions -/

omit [MeasurementSpec α] in
/-- `OContext::CanTransmit`. -/
def canTransmit (s : OContext α) : Bool := s.isOnline && !s.isTransmitting

omit [MeasurementSpec α] in
/-- `OContext::BeginTx`. -/
def beginTx (s : OContext α) (destination : ℕ) (response : APDUResponse α) : OContext α :=
  { s with isTransmitting := true, log := s.log ++ [.transmit destination response] }

omit [MeasurementSpec α] in
/-- `OContext::BeginResponseTx`. -/
def beginResponseTx (s : OContext α) (destination : ℕ) (response : APDUResponse α) : OContext α :=
  { s with solTx := response }.beginTx destination response

omit [MeasurementSpec α] in
/-- `OContext::BeginUnsolTx`. -/
def beginUnsolTx (s : OContext α) (response : APDUResponse α) : OContext α :=
  { s with
    unsolTx := response
    unsolSeq := { confirmNum := s.unsolSeq.num, num := nextSeq s.unsolSeq.num } }.beginTx
      s.addresses.destination response

omit [MeasurementSpec α] in
/-- `OContext::RestartConfirmTimer`. -/
def restartConfirmTimer (s : OContext α) : OContext α := { s with confirmTimer := true }

omit [MeasurementSpec α] in
/-- `OContext::GetResponseIIN`, with `GetDynamicIIN`. -/
def getResponseIIN (env : Env α) (s : OContext α) : IINField × OContext α :=
  let classField := s.eventBuffer.unwrittenClassField
  let (overflown, eventBuffer) := s.eventBuffer.isOverflown
  let bit (flag : Bool) (bits : IINField) : IINField := if flag then bits else 0
  (s.staticIIN ||| bit classField.class1 IINField.class1Events |||
    bit classField.class2 IINField.class2Events ||| bit classField.class3 IINField.class3Events |||
    bit overflown IINField.eventBufferOverflow ||| env.applicationIIN, { s with eventBuffer })

omit [MeasurementSpec α] in
/-- The header writer of a new response. -/
def newWriter (s : OContext α) : HeaderWriter α := { remaining := s.params.maxTxFragSize - 4 }

/-! ## Function handlers -/

omit [MeasurementSpec α] in
/-- `OContext::HandleWrite`. -/
def handleWrite (env : Env α) (objects : List UInt8) (s : OContext α) : IINField × OContext α :=
  let (result, handled) := APDUParser.parse (WriteHandler.handler env) {} objects
    { time := s.time, seq := s.solSeq.num, writeIIN := s.staticIIN, log := s.log }
  let h := handled.state
  (iinOf result h.errors, { s with time := h.time, staticIIN := h.writeIIN, log := h.log })

omit [MeasurementSpec α] in
/-- `OContext::HandleDirectOperate`. -/
def handleDirectOperate (env : Env α) (objects : List UInt8) (opType : OperateType)
    (writer : Option (HeaderWriter α)) (s : OContext α) :
    IINField × Option (HeaderWriter α) × OContext α :=
  if writer.any fun w => w.remaining < objects.length then (IINField.paramError, writer, s)
  else
    let (result, h) := CommandResponseHandler.run env (.adapter false opType)
      s.params.maxControlsPerRequest.toNat writer objects s.log
    (iinOf result h.errors, h.writer, { s with log := h.finish })

omit [MeasurementSpec α] in
/-- `OContext::HandleSelect`. -/
def handleSelect (env : Env α) (objects : List UInt8) (writer : HeaderWriter α) (s : OContext α) :
    IINField × Option (HeaderWriter α) × OContext α :=
  if writer.remaining < objects.length then (IINField.paramError, writer, s)
  else
    let (result, h) := CommandResponseHandler.run env (.adapter true .DirectOperate)
      s.params.maxControlsPerRequest.toNat (some writer) objects s.log
    if result = .OK ∧ h.allCommandsSuccessful then
      let h := { h with log := h.log ++ [Output.selection s.solSeq.num env.now objects h.statuses] }
      (h.errors, h.writer,
        { s with control := .select s.solSeq.num env.now objects, log := h.finish })
    else (iinOf result h.errors, h.writer, { s with log := h.finish })

omit [MeasurementSpec α] in
/-- `OContext::HandleCommandWithConstant`. -/
def handleCommandWithConstant (env : Env α) (objects : List UInt8) (writer : HeaderWriter α)
    (status : CommandStatus) (s : OContext α) : IINField × Option (HeaderWriter α) × OContext α :=
  let (result, h) := CommandResponseHandler.run env (.constant status)
    s.params.maxControlsPerRequest.toNat (some writer) objects s.log
  (iinFromParseResult result, h.writer, { s with log := h.finish })

omit [MeasurementSpec α] in
/-- `OContext::HandleOperate`. -/
def handleOperate (env : Env α) (objects : List UInt8) (writer : HeaderWriter α) (s : OContext α) :
    IINField × Option (HeaderWriter α) × OContext α :=
  if writer.remaining < objects.length then (IINField.paramError, writer, s)
  else
    let status := s.control.validateSelection s.solSeq.num env.now s.params.selectTimeout objects
    if status = .SUCCESS then
      let (result, h) := CommandResponseHandler.run env (.adapter false .SelectBeforeOperate)
        s.params.maxControlsPerRequest.toNat (some writer) objects s.log
      (iinOf result h.errors, h.writer, { s with log := h.finish })
    else s.handleCommandWithConstant env objects writer status

omit [MeasurementSpec α] in
/-- `OContext::HandleDelayMeasure`, which reports no delay. -/
def handleDelayMeasure (objects : List UInt8) (writer : HeaderWriter α) (s : OContext α) :
    IINField × Option (HeaderWriter α) × OContext α :=
  if objects.isEmpty then
    (0, (writer.writeSingleValue .Group52Var2 .UInt8 [0, 0]).getD writer, s)
  else (IINField.paramError, writer, s)

omit [MeasurementSpec α] in
/-- `OContext::HandleRestart`. -/
def handleRestart (env : Env α) (objects : List UInt8) (isWarmRestart : Bool)
    (writer : HeaderWriter α) (s : OContext α) : IINField × Option (HeaderWriter α) × OContext α :=
  if objects.isEmpty then
    let mode := if isWarmRestart then env.warmRestartSupport else env.coldRestartSupport
    let delay := writeUInt16 (if isWarmRestart then env.warmRestart else env.coldRestart)
    let log := s.log ++ [if isWarmRestart then .warmRestart else .coldRestart]
    match mode with
    | .UNSUPPORTED => (IINField.funcNotSupported, writer, s)
    | .SUPPORTED_DELAY_COARSE =>
      (0, (writer.writeSingleValue .Group52Var1 .UInt8 delay).getD writer, { s with log })
    | .SUPPORTED_DELAY_FINE =>
      (0, (writer.writeSingleValue .Group52Var2 .UInt8 delay).getD writer, { s with log })
  else (IINField.paramError, writer, s)

omit [MeasurementSpec α] in
/-- `OContext::HandleAssignClass`. -/
def handleAssignClass (env : Env α) (objects : List UInt8) (s : OContext α) :
    IINField × OContext α :=
  if env.supportsAssignClass then
    let (result, handled) := APDUParser.parse AssignClassHandler.handler .noContents objects
      { db := s.database, log := s.log }
    let h := handled.state
    (iinOf result h.errors, { s with database := h.db, log := h.log })
  else (IINField.funcNotSupported, s)

/-- `ClassField::Set` of a field. -/
def setClasses (a b : ClassField) : ClassField where
  class0 := a.class0 || b.class0
  class1 := a.class1 || b.class1
  class2 := a.class2 || b.class2
  class3 := a.class3 || b.class3

/-- `ClassField::Clear` of a field. -/
def clearClasses (a b : ClassField) : ClassField where
  class0 := a.class0 && !b.class0
  class1 := a.class1 && !b.class1
  class2 := a.class2 && !b.class2
  class3 := a.class3 && !b.class3

omit [MeasurementSpec α] in
/-- `OContext::HandleEnableUnsolicited` and `HandleDisableUnsolicited`. -/
def handleUnsolicited (change : ClassField → ClassField → ClassField) (objects : List UInt8)
    (s : OContext α) : IINField × OContext α :=
  if s.params.allowUnsolicited then
    let (result, handled) := APDUParser.parse ClassBasedRequestHandler.handler {} objects {}
    if result = .OK then
      (handled.state.errors, { s with
        params := { s.params with
          unsolClassMask := change s.params.unsolClassMask handled.state.classField } })
    else (iinFromParseResult result, s)
  else (IINField.funcNotSupported, s)

omit [MeasurementSpec α] in
/-- `OContext::HandleRecordCurrentTime`, for a request without objects. -/
def handleRecordCurrentTime (env : Env α) (objects : List UInt8) (s : OContext α) :
    IINField × OContext α :=
  if objects.isEmpty then
    (0, { s with time := s.time.recordCurrentTime s.solSeq.num env.now })
  else (IINField.paramError, s)

omit [MeasurementSpec α] in
/-- `OContext::HandleNonReadResponse`, with the writer as the handler leaves it. -/
def handleNonReadResponse (env : Env α) (header : APDUHeader) (objects : List UInt8)
    (writer : HeaderWriter α) (s : OContext α) : IINField × Option (HeaderWriter α) × OContext α :=
  let quiet (r : IINField × OContext α) : IINField × Option (HeaderWriter α) × OContext α :=
    (r.1, writer, r.2)
  match header.function with
  | .WRITE => quiet (s.handleWrite env objects)
  | .SELECT => s.handleSelect env objects writer
  | .OPERATE => s.handleOperate env objects writer
  | .DIRECT_OPERATE => s.handleDirectOperate env objects .DirectOperate writer
  | .COLD_RESTART => s.handleRestart env objects false writer
  | .WARM_RESTART => s.handleRestart env objects true writer
  | .ASSIGN_CLASS => quiet (s.handleAssignClass env objects)
  | .DELAY_MEASURE => s.handleDelayMeasure objects writer
  | .RECORD_CURRENT_TIME => quiet (s.handleRecordCurrentTime env objects)
  | .DISABLE_UNSOLICITED => quiet (s.handleUnsolicited clearClasses objects)
  | .ENABLE_UNSOLICITED => quiet (s.handleUnsolicited setClasses objects)
  | _ => (IINField.funcNotSupported, writer, s)

/-! ## Responses -/

/-- `ResponseContext::HasSelection`. -/
def hasSelection (s : OContext α) : Bool :=
  s.database.hasAnySelection || s.eventBuffer.hasAnySelection

/-- `ResponseContext::LoadResponse`, with the events that it has written. -/
def loadResponse (s : OContext α) (writer : HeaderWriter α) :
    AppControlField × HeaderWriter α × List ℕ × OContext α :=
  let fir : Bool := s.fragmentCount = 0
  let startingSize := writer.remaining
  let (notFull, eventBuffer, writer, events) := s.eventBuffer.load writer
  let s : OContext α := { s with fragmentCount := s.fragmentCount + 1, eventBuffer }
  let someEventsWritten : Bool := writer.remaining < startingSize
  if notFull then
    let (fin, database, writer) := s.database.load writer
    ({ fir, fin, con := !fin || someEventsWritten }, writer, events, { s with database })
  else ({ fir, fin := false, con := true }, writer, events, s)

/-- `OContext::HandleRead`. -/
def handleRead (objects : List UInt8) (writer : HeaderWriter α) (s : OContext α) :
    IINField × AppControlField × HeaderWriter α × List ℕ × OContext α :=
  let s : OContext α :=
    { s with
      fragmentCount := 0
      eventBuffer := s.eventBuffer.unselect
      database := s.database.unselect }
  let (result, handled) := APDUParser.parse ReadHandler.handler .noContents objects
    { db := s.database, events := s.eventBuffer }
  let h := handled.state
  let s : OContext α := { s with database := h.db, eventBuffer := h.events }
  if result = .OK then (h.errors, s.loadResponse writer)
  else (iinFromParseResult result, {}, writer, [], { s with fragmentCount := 0 })

omit [MeasurementSpec α] in
/-- The end of `OContext::RespondToReadRequest` and `ContinueMultiFragResponse`: the response goes
out, and the outstation waits for its confirm where it asks for one. -/
def sendFragment (env : Env α) (destination seq : ℕ) (iin : IINField) (control : AppControlField)
    (writer : HeaderWriter α) (events : List ℕ) (s : OContext α) : OContext α :=
  let control : AppControlField := { control with seq }
  let s : OContext α := { s with solSeq := { s.solSeq with confirmNum := seq } }
  let (responseIIN, s) := s.getResponseIIN env
  let s := s.beginResponseTx destination
    { control, function := .RESPONSE, iin := iin ||| responseIIN,
      headers := writer.headers, events }
  if control.con then { s.restartConfirmTimer with state := .SolicitedConfirmWait }
  else { s with state := .Idle }

/-- `OContext::RespondToReadRequest`. -/
def respondToReadRequest (env : Env α) (request : ParsedRequest) (s : OContext α) : OContext α :=
  let s : OContext α :=
    { s with history := .recordLastProcessedRequest request.header request.objects }
  let (iin, control, writer, events, s) := s.handleRead request.objects s.newWriter
  s.sendFragment env request.addresses.source request.header.control.seq iin control writer events

/-- `OContext::ContinueMultiFragResponse`. -/
def continueMultiFragResponse (env : Env α) (addresses : Addresses) (seq : ℕ) (s : OContext α) :
    OContext α :=
  let (control, writer, events, s) := s.loadResponse s.newWriter
  s.sendFragment env addresses.source seq 0 control writer events

omit [MeasurementSpec α] in
/-- `OContext::RespondToNonReadRequest`. -/
def respondToNonReadRequest (env : Env α) (request : ParsedRequest) (s : OContext α) :
    OContext α :=
  let s : OContext α :=
    { s with history := .recordLastProcessedRequest request.header request.objects }
  let (iin, writer, s) := s.handleNonReadResponse env request.header request.objects s.newWriter
  let (responseIIN, s) := s.getResponseIIN env
  s.beginResponseTx request.addresses.source
    { control := { seq := request.header.control.seq }
      function := .RESPONSE
      iin := iin ||| responseIIN
      headers := (writer.map HeaderWriter.headers).getD [] }

omit [MeasurementSpec α] in
/-- The last response goes out again. -/
def repeatResponse (request : ParsedRequest) (s : OContext α) : OContext α :=
  s.beginResponseTx request.addresses.source s.solTx

omit [MeasurementSpec α] in
/-- `DeferredRequest::Set`. Objects that do not fit into its buffer are left out. -/
def setDeferred (request : ParsedRequest) (s : OContext α) : OContext α :=
  { s with
    deferred := some
      { request with
        objects := if request.objects.length ≤ s.params.maxRxFragSize then request.objects
          else [] } }

/-! ## States -/

/-- `OutstationState::OnConfirm`. -/
def onConfirm (env : Env α) (request : ParsedRequest) (s : OContext α) : OContext α :=
  let control := request.header.control
  match s.state with
  | .Idle => s
  | .SolicitedConfirmWait =>
    if control.uns ∨ s.solSeq.confirmNum ≠ control.seq then s
    else
      -- Any time we get a confirm we can treat any request as a new request.
      let s : OContext α :=
        { s with
          history := s.history.reset
          confirmTimer := false
          eventBuffer := s.eventBuffer.clearWritten }
      if s.hasSelection then
        s.continueMultiFragResponse env request.addresses (nextSeq control.seq)
      else { s with state := .Idle }
  | .UnsolicitedConfirmWait =>
    if !control.uns ∨ s.unsolSeq.confirmNum ≠ control.seq then s
    else
      let s : OContext α := { s with history := s.history.reset, confirmTimer := false }
      if s.completedNull then
        { s with eventBuffer := s.eventBuffer.clearWritten, state := .Idle }
      else { s with completedNull := true, state := .Idle }

omit [MeasurementSpec α] in
/-- `OutstationState::OnConfirmTimeout`. -/
def onConfirmTimeout (s : OContext α) : OContext α :=
  match s.state with
  | .Idle => s
  | .SolicitedConfirmWait => { s with state := .Idle }
  | .UnsolicitedConfirmWait =>
    { s with
      eventBuffer := if s.completedNull then s.eventBuffer.unselect else s.eventBuffer
      state := .Idle }

/-- `OutstationState::OnNewReadRequest`. -/
def onNewReadRequest (env : Env α) (request : ParsedRequest) (s : OContext α) : OContext α :=
  match s.state with
  | .Idle => s.respondToReadRequest env request
  | .SolicitedConfirmWait => { s with confirmTimer := false }.respondToReadRequest env request
  | .UnsolicitedConfirmWait => s.setDeferred request

omit [MeasurementSpec α] in
/-- `OutstationState::OnNewNonReadRequest`. -/
def onNewNonReadRequest (env : Env α) (request : ParsedRequest) (s : OContext α) : OContext α :=
  match s.state with
  | .Idle => s.respondToNonReadRequest env request
  | .SolicitedConfirmWait =>
    { { s with confirmTimer := false }.respondToNonReadRequest env request with state := .Idle }
  | .UnsolicitedConfirmWait => { s with deferred := none }.respondToNonReadRequest env request

omit [MeasurementSpec α] in
/-- `OutstationState::OnRepeatNonReadRequest`. -/
def onRepeatNonReadRequest (request : ParsedRequest) (s : OContext α) : OContext α :=
  match s.state with
  | .Idle => s.repeatResponse request
  | .SolicitedConfirmWait => { s with confirmTimer := false }.repeatResponse request
  | .UnsolicitedConfirmWait => s.repeatResponse request

omit [MeasurementSpec α] in
/-- `OutstationState::OnRepeatReadRequest`. -/
def onRepeatReadRequest (request : ParsedRequest) (s : OContext α) : OContext α :=
  match s.state with
  | .Idle => s.repeatResponse request
  | .SolicitedConfirmWait => s.restartConfirmTimer.repeatResponse request
  | .UnsolicitedConfirmWait => s.setDeferred request

/-! ## Requests -/

/-- `OContext::ProcessNewRequest`. -/
def processNewRequest (env : Env α) (request : ParsedRequest) (s : OContext α) : OContext α :=
  let s : OContext α :=
    { s with solSeq := { s.solSeq with num := request.header.control.seq } }
  if request.header.function = .READ then s.onNewReadRequest env request
  else s.onNewNonReadRequest env request

omit [MeasurementSpec α] in
/-- The condition of `OContext::OnReceiveSolRequest`: the request repeats the last one. -/
def isRepeat (s : OContext α) (request : ParsedRequest) : Bool :=
  s.history.hasLast && s.solSeq.num = request.header.control.seq &&
    s.history.fullyEqualsLastRequest request.header request.objects

/-- `OContext::OnReceiveSolRequest`. -/
def onReceiveSolRequest (env : Env α) (request : ParsedRequest) (s : OContext α) : OContext α :=
  if s.isRepeat request then
    if request.header.function = .READ then s.onRepeatReadRequest request
    else s.onRepeatNonReadRequest request
  else s.processNewRequest env request

/-- `OContext::ProcessRequest`. -/
def processRequest (env : Env α) (request : ParsedRequest) (s : OContext α) : OContext α :=
  if request.header.control.uns then s else s.onReceiveSolRequest env request

omit [MeasurementSpec α] in
/-- `OContext::ProcessRequestNoAck`. -/
def processRequestNoAck (env : Env α) (request : ParsedRequest) (s : OContext α) : OContext α :=
  if request.header.function = .DIRECT_OPERATE_NR then
    (s.handleDirectOperate env request.objects .DirectOperateNoAck none).2.2
  else s

/-- `OContext::ProcessObjects`. -/
def processObjects (env : Env α) (request : ParsedRequest) (s : OContext α) : OContext α :=
  if request.header.function.isNoAckFuncCode then s.processRequestNoAck env request
  else if s.isTransmitting then s.setDeferred request
  else if request.header.function = .CONFIRM then s.onConfirm env request
  else s.processRequest env request

omit [MeasurementSpec α] in
/-- The checks of `OContext::ProcessMessage`, with the request that passes them. -/
def parseMessage (s : OContext α) (message : Message) : Option ParsedRequest :=
  if message.addresses.destination ≠ s.addresses.source then none
  else if !s.params.respondToAnyMaster ∧ message.addresses.source ≠ s.addresses.destination then
    none
  else
    match parseRequest message.payload with
    | none => none
    | some (header, objects) =>
      if header.control.fir ∧ header.control.fin ∧ !header.control.con then
        some { addresses := message.addresses, header, objects }
      else none

/-- `OContext::ProcessMessage`. -/
def processMessage (env : Env α) (message : Message) (s : OContext α) : OContext α :=
  match s.parseMessage message with
  | none => s
  | some request => s.processObjects env request

/-! ## Tasks -/

/-- `OContext::CheckForDeferredRequest`, with `ProcessDeferredRequest`. A read request waits until
the outstation is idle. -/
def checkForDeferredRequest (env : Env α) (s : OContext α) : OContext α :=
  match s.deferred with
  | none => s
  | some request =>
    if s.canTransmit then
      if request.header.function = .CONFIRM then { s.onConfirm env request with deferred := none }
      else if request.header.function = .READ ∧ s.state ≠ .Idle then s
      else { s.processRequest env request with deferred := none }
    else s

omit [MeasurementSpec α] in
/-- The common end of the two branches of `OContext::CheckForUnsolicited`. -/
def sendUnsolicited (env : Env α) (headers : List (ObjectHeader α)) (events : List ℕ)
    (s : OContext α) : OContext α :=
  let (iin, s) := s.getResponseIIN env
  { s.restartConfirmTimer with state := .UnsolicitedConfirmWait }.beginUnsolTx
    { control := { fir := true, fin := true, con := true, uns := true, seq := s.unsolSeq.num }
      function := .UNSOLICITED_RESPONSE, iin, headers, events }

/-- `OContext::CheckForUnsolicited`. -/
def checkForUnsolicited (env : Env α) (s : OContext α) : OContext α :=
  if s.canTransmit ∧ s.state = .Idle ∧ s.params.allowUnsolicited then
    if s.completedNull then
      if s.params.unsolClassMask.intersects s.eventBuffer.unwrittenClassField then
        let eventBuffer := s.eventBuffer.unselect.selectAllByClass s.params.unsolClassMask
        let (_, eventBuffer, writer, events) := eventBuffer.load s.newWriter
        { s with eventBuffer }.sendUnsolicited env writer.headers events
      else s
    else s.sendUnsolicited env [] []
  else s

/-- `OContext::CheckForTaskStart`. -/
def checkForTaskStart (env : Env α) (s : OContext α) : OContext α :=
  (s.checkForDeferredRequest env).checkForUnsolicited env

/-! ## Events -/

/-- `OContext::OnLowerLayerUp`. -/
def onLowerLayerUp (env : Env α) (s : OContext α) : OContext α :=
  if s.isOnline then s else { s with isOnline := true }.checkForTaskStart env

omit [MeasurementSpec α] in
/-- `OContext::OnLowerLayerDown`. The sequence numbers and the selection stay as they are. -/
def onLowerLayerDown (s : OContext α) : OContext α :=
  if s.isOnline then
    { s with
      state := .Idle
      isOnline := false
      isTransmitting := false
      completedNull := false
      history := s.history.reset
      deferred := none
      eventBuffer := s.eventBuffer.unselect
      fragmentCount := 0
      confirmTimer := false }
  else s

/-- `OContext::OnTxReady`. -/
def onTxReady (env : Env α) (s : OContext α) : OContext α :=
  if s.isOnline ∧ s.isTransmitting then { s with isTransmitting := false }.checkForTaskStart env
  else s

/-- `OContext::OnReceive`. -/
def onReceive (env : Env α) (message : Message) (s : OContext α) : OContext α :=
  if s.isOnline then (s.processMessage env message).checkForTaskStart env else s

/-- The callback of the confirm timer, which is no longer running. -/
def onTimer (env : Env α) (s : OContext α) : OContext α :=
  if s.confirmTimer then
    ({ s with confirmTimer := false }.onConfirmTimeout).checkForTaskStart env
  else s

/-- A call of `IUpdateHandler`, which passes the new events on to the event buffer. -/
def applyChange (change : DatabaseBuffers.Change α) (s : OContext α) : OContext α :=
  let (database, events) := change.run s.database
  { s with database, eventBuffer := events.foldl EventBuffer.update s.eventBuffer }

/-- What happens to an outstation. -/
inductive Event (α : Type*) where
  | lowerLayerUp
  | lowerLayerDown
  | txReady
  | receive (message : Message)
  | confirmTimeout
  | update (change : DatabaseBuffers.Change α)
  | checkForTaskStart
  | setRestartIIN
  deriving DecidableEq, Repr

/-- A step of the outstation. -/
def step (s : OContext α) (input : Env α × Event α) : OContext α :=
  match input.2 with
  | .lowerLayerUp => s.onLowerLayerUp input.1
  | .lowerLayerDown => s.onLowerLayerDown
  | .txReady => s.onTxReady input.1
  | .receive message => s.onReceive input.1 message
  | .confirmTimeout => s.onTimer input.1
  | .update change => s.applyChange change
  | .checkForTaskStart => s.checkForTaskStart input.1
  | .setRestartIIN => { s with staticIIN := s.staticIIN ||| IINField.deviceRestart }

omit [MeasurementSpec α] in
/-- `OContext::OContext`, with the configuration of the event buffer and the database. -/
def init (addresses : Addresses) (config : EventBufferConfig) (params : OutstationParams)
    (database : DatabaseBuffers α) : OContext α where
  addresses := addresses
  eventBuffer := { storage := .ofConfig config }
  database := database
  params := params

end OContext

end OpenDnp3.Outstation
