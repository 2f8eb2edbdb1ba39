import OpenDnp3.Outstation.Context
import OpenDnp3.Outstation.HandlersSpec

/-!
# What the handlers of the outstation do

The handler of every request other than a read as a relation between the states before and after it
(`Handled`): what becomes of the selection, and what the command handler and the application are
asked. A response to a read loads what has been selected, events before static positions, and marks
the events that it reports as written (`Sends`).
-/

namespace OpenDnp3.Outstation.OContext

open App CommandResponseHandler

variable {α : Type*}

/-! ## Requests other than reads -/

/-- What the handler of a request does to the selection, and the calls that it makes. -/
inductive Effect (env : Env α) (function : FunctionCode) (objects : List UInt8) (s : OContext α) :
    ControlState → List (Output α) → Prop where
  | quiet {new : List (Output α)} (hnew : ∀ o ∈ new, o.isQuiet) :
      Effect env function objects s s.control new
  | selected {calls rest : List (Output α)} {statuses : List CommandStatus}
      (hfunction : function = .SELECT) (hcalls : ∀ o ∈ calls, o.isQuiet)
      (hrest : ∀ o ∈ rest, o.isQuiet)
      (hstatuses : statuses.length ≤ s.params.maxControlsPerRequest.toNat →
        ∀ status ∈ statuses, status = .SUCCESS) :
      Effect env function objects s (.select s.solSeq.num env.now objects)
        (calls ++ .selection s.solSeq.num env.now objects statuses :: rest)
  | operated {new : List (Output α)} (hfunction : function = .OPERATE)
      (hvalid : s.control.validateSelection s.solSeq.num env.now s.params.selectTimeout objects =
        .SUCCESS)
      (hnew : ∀ o ∈ new, Makes (.adapter false .SelectBeforeOperate) o) :
      Effect env function objects s s.control new

/-- The handler of a request has brought the outstation from one state to the other. -/
def Handled (env : Env α) (function : FunctionCode) (objects : List UInt8)
    (s s' : OContext α) : Prop :=
  ∃ time staticIIN database unsolClassMask control new,
    s' = { s with
      time, staticIIN, database, control
      params := { s.params with unsolClassMask }
      log := s.log ++ new } ∧
    Effect env function objects s control new

/-- Nothing is done. -/
theorem Handled.same (env : Env α) (function : FunctionCode) (objects : List UInt8)
    (s : OContext α) : Handled env function objects s s :=
  ⟨s.time, s.staticIIN, s.database, s.params.unsolClassMask, s.control, [],
    by rw [List.append_nil], .quiet (by simp)⟩

/-- The calls are quiet, and the selection stays as it is. -/
theorem Handled.of_quiet {env : Env α} {function : FunctionCode} {objects : List UInt8}
    {s : OContext α} {log : List (Output α)} (time : TimeSyncState) (staticIIN : IINField)
    (database : DatabaseBuffers α) (h : Extends (fun o => o.isQuiet) s.log log) :
    Handled env function objects s { s with time, staticIIN, database, log } := by
  obtain ⟨new, rfl, hnew⟩ := h
  exact ⟨time, staticIIN, database, s.params.unsolClassMask, s.control, new, rfl, .quiet hnew⟩

/-- The calls of a command that is no select before operate are quiet. -/
theorem isQuiet_of_makes {action : CommandAction}
    (haction : ∀ isSelect, action ≠ .adapter isSelect .SelectBeforeOperate) {o : Output α}
    (h : Makes action o) : o.isQuiet := by
  match action, h with
  | .adapter true opType, .inl h => rw [h]; rfl
  | .adapter true opType, .inr (.inl h) => rw [h]; rfl
  | .adapter true opType, .inr (.inr ⟨_, _, _, h⟩) => rw [h]; rfl
  | .adapter false opType, .inl h => rw [h]; rfl
  | .adapter false opType, .inr (.inl h) => rw [h]; rfl
  | .adapter false .SelectBeforeOperate, .inr (.inr _) => exact absurd rfl (haction false)
  | .adapter false .DirectOperate, .inr (.inr ⟨_, _, _, h⟩) => rw [h]; rfl
  | .adapter false .DirectOperateNoAck, .inr (.inr ⟨_, _, _, h⟩) => rw [h]; rfl

/-- A WRITE is handled quietly. -/
theorem handleWrite_spec (env : Env α) (objects : List UInt8) (s : OContext α) :
    Handled env .WRITE objects s (s.handleWrite env objects).2 :=
  .of_quiet _ _ _ (WriteHandler.parse_quiet env objects
    { time := s.time, seq := s.solSeq.num, writeIIN := s.staticIIN, log := s.log })

/-- A direct operate makes quiet calls only. -/
theorem handleDirectOperate_log (env : Env α) (objects : List UInt8) (opType : OperateType)
    (hopType : opType ≠ .SelectBeforeOperate) (writer : Option (HeaderWriter α)) (s : OContext α) :
    ∃ new, (s.handleDirectOperate env objects opType writer).2.2 = { s with log := s.log ++ new } ∧
      ∀ o ∈ new, o.isQuiet := by
  unfold handleDirectOperate
  split_ifs
  · exact ⟨[], by rw [List.append_nil], by simp⟩
  · obtain ⟨new, hlog, hnew⟩ := (run_tallied env (.adapter false opType)
      s.params.maxControlsPerRequest.toNat writer objects s.log).finish
    refine ⟨new, by rw [← hlog], fun o ho => isQuiet_of_makes (fun isSelect h => ?_) (hnew o ho)⟩
    exact hopType (CommandAction.adapter.inj h).2

/-- A SELECT records its selection. -/
theorem handleSelect_spec (env : Env α) (objects : List UInt8) (writer : HeaderWriter α)
    (s : OContext α) : Handled env .SELECT objects s (s.handleSelect env objects writer).2.2 := by
  unfold handleSelect
  split_ifs
  · exact .same _ _ _ _
  · have htallied := run_tallied env (.adapter true .DirectOperate)
      s.params.maxControlsPerRequest.toNat (some writer) objects s.log
    dsimp only
    generalize run env (.adapter true .DirectOperate) s.params.maxControlsPerRequest.toNat
      (some writer) objects s.log = r at htallied ⊢
    obtain ⟨result, h⟩ := r
    -- A SELECT makes no call that operates a control.
    have hquiet : ∀ o : Output α, Makes (.adapter true .DirectOperate) o → o.isQuiet := fun _ =>
      isQuiet_of_makes (by simp)
    split_ifs with hsuccess
    · -- The selection stands between the calls of the parse and the end of the transaction.
      obtain ⟨calls, hcalls, hmakes⟩ := htallied.calls
      dsimp only at hcalls
      have hfinish : ∃ rest, finish { h with
            log := h.log ++ [.selection s.solSeq.num env.now objects h.statuses] } =
          s.log ++ (calls ++ .selection s.solSeq.num env.now objects h.statuses :: rest) ∧
          ∀ o ∈ rest, o.isQuiet := by
        unfold finish
        split_ifs
        · exact ⟨[.finish], by simp [hcalls], by simp [Output.isQuiet]⟩
        · exact ⟨[], by simp [hcalls], by simp⟩
      obtain ⟨rest, hlog, hrest⟩ := hfinish
      refine ⟨s.time, s.staticIIN, s.database, s.params.unsolClassMask, _, _, ?_,
        .selected rfl (fun o ho => hquiet o (hmakes o ho)) hrest
          (htallied.all_success hsuccess.2)⟩
      exact congrArg (fun log => { s with
        control := .select s.solSeq.num env.now objects, log := log }) hlog
    · -- A control was refused, so the selection is not kept.
      obtain ⟨new, hlog, hnew⟩ := htallied.finish
      exact .of_quiet s.time s.staticIIN s.database
        ⟨new, hlog, fun o ho => hquiet o (hnew o ho)⟩

/-- An OPERATE needs the selection and uses it. -/
theorem handleOperate_spec (env : Env α) (objects : List UInt8) (writer : HeaderWriter α)
    (s : OContext α) : Handled env .OPERATE objects s (s.handleOperate env objects writer).2.2 := by
  unfold handleOperate
  dsimp only
  split_ifs with _ hvalid
  · exact .same _ _ _ _
  · obtain ⟨new, hlog, hnew⟩ := (run_tallied env (.adapter false .SelectBeforeOperate)
      s.params.maxControlsPerRequest.toNat (some writer) objects s.log).finish
    exact ⟨s.time, s.staticIIN, s.database, s.params.unsolClassMask, s.control, new, by rw [← hlog],
      .operated rfl hvalid hnew⟩
  · obtain ⟨new, hlog, hnew⟩ := (run_tallied env
      (.constant (s.control.validateSelection s.solSeq.num env.now s.params.selectTimeout objects))
      s.params.maxControlsPerRequest.toNat (some writer) objects s.log).finish
    exact .of_quiet s.time s.staticIIN s.database
      ⟨new, hlog, fun o ho => isQuiet_of_makes (by simp) (hnew o ho)⟩

/-- A restart is handled quietly. -/
theorem handleRestart_spec (env : Env α) (function : FunctionCode) (objects : List UInt8)
    (isWarmRestart : Bool) (writer : HeaderWriter α) (s : OContext α) :
    Handled env function objects s (s.handleRestart env objects isWarmRestart writer).2.2 := by
  have hlog : Extends (fun o => o.isQuiet) s.log
      (s.log ++ [if isWarmRestart then Output.warmRestart else Output.coldRestart]) := by
    refine ⟨_, rfl, fun o ho => ?_⟩
    rw [List.mem_singleton.mp ho]
    cases isWarmRestart <;> rfl
  unfold handleRestart
  split
  · dsimp only
    split
    · exact .same _ _ _ _
    · exact .of_quiet s.time s.staticIIN s.database hlog
    · exact .of_quiet s.time s.staticIIN s.database hlog
  · exact .same _ _ _ _

/-- An assignment of classes is handled quietly. -/
theorem handleAssignClass_spec (env : Env α) (objects : List UInt8) (s : OContext α) :
    Handled env .ASSIGN_CLASS objects s (s.handleAssignClass env objects).2 := by
  unfold handleAssignClass
  split_ifs
  · exact .of_quiet s.time s.staticIIN _ (AssignClassHandler.parse_quiet .noContents objects
      { db := s.database, log := s.log })
  · exact .same _ _ _ _

/-- A change of the unsolicited classes is handled quietly. -/
theorem handleUnsolicited_spec (env : Env α) (function : FunctionCode)
    (change : ClassField → ClassField → ClassField) (objects : List UInt8) (s : OContext α) :
    Handled env function objects s (s.handleUnsolicited change objects).2 := by
  unfold handleUnsolicited
  split_ifs
  · dsimp only
    split_ifs
    · exact ⟨s.time, s.staticIIN, s.database, _, s.control, [], by rw [List.append_nil],
        .quiet (by simp)⟩
    · exact .same _ _ _ _
  · exact .same _ _ _ _

/-- The time is recorded quietly. -/
theorem handleRecordCurrentTime_spec (env : Env α) (objects : List UInt8) (s : OContext α) :
    Handled env .RECORD_CURRENT_TIME objects s (s.handleRecordCurrentTime env objects).2 := by
  unfold handleRecordCurrentTime
  split_ifs
  · exact .of_quiet _ s.staticIIN s.database (.refl _ _)
  · exact .same _ _ _ _

/-- One case for each function code that has a handler. -/
theorem handleNonReadResponse_spec (env : Env α) (header : APDUHeader) (objects : List UInt8)
    (writer : HeaderWriter α) (s : OContext α) :
    Handled env header.function objects s
      (s.handleNonReadResponse env header objects writer).2.2 := by
  obtain ⟨control, function⟩ := header
  unfold handleNonReadResponse
  dsimp only
  split
  · exact handleWrite_spec env objects s
  · exact handleSelect_spec env objects writer s
  · exact handleOperate_spec env objects writer s
  · obtain ⟨new, heq, hnew⟩ := handleDirectOperate_log env objects .DirectOperate nofun
      (some writer) s
    rw [heq]
    exact .of_quiet s.time s.staticIIN s.database ⟨new, rfl, hnew⟩
  · exact handleRestart_spec env _ objects false writer s
  · exact handleRestart_spec env _ objects true writer s
  · exact handleAssignClass_spec env objects s
  · unfold handleDelayMeasure
    split_ifs <;> exact .same _ _ _ _
  · exact handleRecordCurrentTime_spec env objects s
  · exact handleUnsolicited_spec env _ clearClasses objects s
  · exact handleUnsolicited_spec env _ setClasses objects s
  · exact .same _ _ _ _

/-! ## Responses -/

/-- The response to a request other than a read: the handler, then a response that asks for no
confirm. -/
structure Responds (env : Env α) (request : ParsedRequest) (s s' : OContext α) : Prop where
  exists_eq : ∃ s₁ overflow response,
    Handled env request.header.function request.objects s s₁ ∧
    s' = { s₁ with
      eventBuffer := { s₁.eventBuffer with overflow }
      solTx := response
      isTransmitting := true
      log := s₁.log ++ [.transmit request.addresses.source response] } ∧
    response.control = { seq := request.header.control.seq } ∧ response.function = .RESPONSE

/-- A request that is no READ has one response, behind what was done for it. -/
theorem respondToNonReadRequest_spec (env : Env α) (request : ParsedRequest) (s : OContext α) :
    Responds env request
      { s with history := .recordLastProcessedRequest request.header request.objects }
      (s.respondToNonReadRequest env request) :=
  ⟨_, _, _, handleNonReadResponse_spec env request.header request.objects _ _, rfl, rfl, rfl⟩

/-- A fragment of a response to a read is loaded and sent. What is written of the events after it is
in the fragment, and the outstation waits for a confirm where the fragment asks for one. -/
structure Sends (config : EventBufferConfig) (s s' : OContext α) (destination seq : ℕ)
    (response : APDUResponse α) : Prop where
  exists_eq : ∃ fragmentCount eventBuffer database, s' = { s with
    fragmentCount, eventBuffer, database
    solSeq := { s.solSeq with confirmNum := seq }
    solTx := response
    isTransmitting := true
    log := s.log ++ [.transmit destination response]
    confirmTimer := response.control.con || s.confirmTimer
    state := if response.control.con then .SolicitedConfirmWait else .Idle }
  function : response.function = .RESPONSE
  seq_eq : response.control.seq = seq
  inv : s'.eventBuffer.storage.Inv config
  ids : s'.eventBuffer.storage.ids = s.eventBuffer.storage.ids
  written : ∀ id ∈ s'.eventBuffer.storage.writtenIds, id ∈ response.events
  unwritten : response.control.con = false → s'.eventBuffer.storage.writtenIds = []

/-- What a response is loaded with: a state of the buffers whose written events are the events of
the response, and a control field that asks for a confirm of events. -/
structure Loads (config : EventBufferConfig) (s s' : OContext α) (control : AppControlField)
    (events : List ℕ) : Prop where
  exists_eq : ∃ fragmentCount eventBuffer database,
    s' = { s with fragmentCount, eventBuffer, database }
  inv : s'.eventBuffer.storage.Inv config
  ids : s'.eventBuffer.storage.ids = s.eventBuffer.storage.ids
  written : ∀ id ∈ s'.eventBuffer.storage.writtenIds, id ∈ events
  confirm : control.con = false → events = []

/-- `sendFragment` with what was loaded for it. -/
theorem sendFragment_spec {config : EventBufferConfig} (env : Env α) {s s' : OContext α}
    {control : AppControlField} {events : List ℕ} (h : Loads config s s' control events)
    (destination seq : ℕ) (iin : IINField) (writer : HeaderWriter α) :
    ∃ response, Sends config s (s'.sendFragment env destination seq iin control writer events)
      destination seq response ∧ response.control = { control with seq } := by
  obtain ⟨⟨fragmentCount, eventBuffer, database, rfl⟩, hinv, hids, hwritten, hconfirm⟩ := h
  let s₁ : OContext α :=
    { s with
      fragmentCount, eventBuffer, database, solSeq := { s.solSeq with confirmNum := seq } }
  -- The response carries the IIN bits of the state after the load.
  let response : APDUResponse α :=
    { control := { control with seq }
      function := .RESPONSE
      iin := iin ||| (s₁.getResponseIIN env).1
      headers := writer.headers
      events }
  refine ⟨response, ⟨⟨fragmentCount, (s₁.getResponseIIN env).2.eventBuffer, database, ?_⟩, rfl, rfl,
    ?_, ?_, ?_, ?_⟩, rfl⟩
  · -- With CON the context waits for the confirm, and without it does not.
    unfold sendFragment
    dsimp only
    split_ifs with hcon
    · simp only [response, hcon]
      rfl
    · rw [Bool.not_eq_true] at hcon
      simp only [response, hcon]
      rfl
  all_goals
    unfold sendFragment
    dsimp only
  · split_ifs <;> exact hinv
  · split_ifs <;> exact hids
  · split_ifs <;> exact hwritten
  · -- A fragment without CON has no events.
    intro hcon
    rw [hconfirm hcon] at hwritten
    rw [if_neg (by simpa using hcon)]
    exact List.eq_nil_iff_forall_not_mem.mpr fun id hid => nomatch hwritten id hid

/-- A header with prefixes takes space. -/
theorem iterateOverCountWithPrefix_remaining (w : HeaderWriter α) (serializer : DNP3Serializer)
    (index : IndexType) :
    (PrefixedWriteIterator.iterateOverCountWithPrefix w serializer index).1.remaining ≤
      w.remaining := by
  unfold PrefixedWriteIterator.iterateOverCountWithPrefix HeaderWriter.writeHeaderWithReserve
  split
  · exact le_rfl
  case h_2 heq =>
    split_ifs at heq
    obtain rfl := Option.some.inj heq
    split_ifs
    · exact (Nat.sub_le _ _).trans (Nat.sub_le _ _)
    · exact Nat.sub_le _ _

/-- A header with a common time takes space. -/
theorem iterateOverCountWithPrefixAndCTO_remaining (w : HeaderWriter α)
    (serializer : DNP3Serializer) (index : IndexType) (cto : GroupVariation) (time : List UInt8) :
    (PrefixedWriteIterator.iterateOverCountWithPrefixAndCTO w serializer index cto
      time).1.remaining ≤ w.remaining := by
  unfold PrefixedWriteIterator.iterateOverCountWithPrefixAndCTO
  split
  · exact le_rfl
  case h_2 w' hvalue =>
    have hle : w'.remaining ≤ w.remaining := by
      unfold HeaderWriter.writeSingleValue HeaderWriter.writeHeaderWithReserve at hvalue
      split_ifs at hvalue
      · cases hvalue
      · obtain rfl := Option.some.inj hvalue
        exact (Nat.sub_le _ _).trans (Nat.sub_le _ _)
    have hprefix := iterateOverCountWithPrefix_remaining w' serializer index
    split
    case h_1 heq =>
      rw [heq] at hprefix
      exact hprefix.trans hle
    · exact le_rfl

section Loading

variable [MeasurementSpec α]

/-- A record that is written takes at least the bytes of its index. -/
theorem asduEventWriteHandler_usesSpace :
    EventLists.UsesSpace (asduEventWriteHandler : EventLists.IEventWriteHandler α (EventWriter α))
      fun w => w.writer.remaining where
  start w variation value := by
    show (w.start variation value).writer.remaining ≤ w.writer.remaining
    unfold EventWriter.start
    split
    · exact iterateOverCountWithPrefixAndCTO_remaining _ _ _ _ _
    · exact iterateOverCountWithPrefixAndCTO_remaining _ _ _ _ _
    · exact iterateOverCountWithPrefix_remaining _ _ _
    · exact iterateOverCountWithPrefix_remaining _ _ _
  write := by
    intro w value index w' hwrite
    change w.write value index = some w' at hwrite
    unfold EventWriter.write at hwrite
    split at hwrite
    -- The iterator is of the type of the value.
    case h_1 value' iterator _ _ =>
      unfold PrefixedWriteIterator.write at hwrite
      have hsize : 0 < iterator.index.size := by cases iterator.index <;> decide
      split_ifs at hwrite with hfits
      · obtain rfl := Option.some.inj hwrite
        show w.writer.remaining - (iterator.serializer.size + iterator.index.size) <
          w.writer.remaining
        omega
      · cases hwrite
    · cases hwrite
  finish w := by
    show (EventWriter.finish w).writer.remaining ≤ w.writer.remaining
    unfold EventWriter.finish
    dsimp only
    split <;> exact le_rfl

/-- `EventBuffer::Load`, into a buffer in which nothing is written. -/
theorem load_spec {config : EventBufferConfig} {b : EventBuffer α} (hinv : b.storage.Inv config)
    (hwritten : b.storage.writtenIds = []) (writer : HeaderWriter α) :
    ∃ notFull b' writer' events, b.load writer = (notFull, b', writer', events) ∧
      b'.storage.Inv config ∧ b'.storage.ids = b.storage.ids ∧
      (∀ id ∈ b'.storage.writtenIds, id ∈ events) ∧
      (¬writer'.remaining < writer.remaining → events = []) := by
  obtain ⟨hinv', hwrites⟩ :=
    EventLists.write_spec hinv asduEventWriteHandler ({ writer } : EventWriter α)
  have hspace := EventLists.write_space asduEventWriteHandler_usesSpace b.storage
    ({ writer } : EventWriter α)
  refine ⟨_, _, _, _, rfl, hinv', hwrites.ids, fun id hid => ?_, fun hnone => ?_⟩
  · obtain hid | hid := hwrites.written id hid
    · rw [hwritten] at hid
      cases hid
    · exact hid
  · dsimp only at hspace hnone
    exact List.length_eq_zero_iff.mp (by omega)

/-- `ResponseContext::LoadResponse`. The first fragment is the one that is loaded when the count is
0. -/
theorem loadResponse_spec {config : EventBufferConfig} {s : OContext α}
    (hinv : s.eventBuffer.storage.Inv config) (hwritten : s.eventBuffer.storage.writtenIds = [])
    (writer : HeaderWriter α) :
    ∃ control writer' events s', s.loadResponse writer = (control, writer', events, s') ∧
      Loads config s s' control events ∧ control.fir = decide (s.fragmentCount = 0) := by
  obtain ⟨notFull, b', writer', events, hload, hinv', hids, hwritten', hspace⟩ :=
    load_spec hinv hwritten writer
  unfold loadResponse
  rw [hload]
  dsimp only
  split_ifs
  · refine ⟨_, _, _, _, rfl, ⟨⟨_, b', _, rfl⟩, hinv', hids, hwritten', fun hcon => hspace ?_⟩, rfl⟩
    simp only [Bool.or_eq_false_iff, decide_eq_false_iff_not] at hcon
    exact hcon.2
  · exact ⟨_, _, _, _, rfl, ⟨⟨_, b', s.database, rfl⟩, hinv', hids, hwritten', nofun⟩, rfl⟩

/-- `OContext::HandleRead`, which starts with nothing selected and nothing written. -/
theorem handleRead_spec {config : EventBufferConfig} {s : OContext α}
    (hinv : s.eventBuffer.storage.Inv config) (objects : List UInt8) (writer : HeaderWriter α) :
    ∃ iin control writer' events s',
      s.handleRead objects writer = (iin, control, writer', events, s') ∧
      Loads config s s' control events ∧ control.fir = true := by
  -- The parser only selects, from stores with nothing selected.
  have hselects := ReadHandler.parse_selects
    (h := { db := s.database.unselect, events := s.eventBuffer.unselect })
    (EventLists.unselect_inv hinv) .noContents objects
  unfold handleRead
  dsimp only
  generalize APDUParser.parse ReadHandler.handler .noContents objects
    { db := s.database.unselect, events := s.eventBuffer.unselect } = r at hselects ⊢
  obtain ⟨result, handled⟩ := r
  obtain ⟨hinv', hids, hwritten, -⟩ := hselects
  dsimp only at hinv' hids hwritten ⊢
  have hids' : handled.state.events.storage.ids = s.eventBuffer.storage.ids :=
    hids.trans (EventLists.unselect_ids _)
  have hwritten' : handled.state.events.storage.writtenIds = [] :=
    hwritten.trans (EventLists.unselect_writtenIds _)
  split_ifs
  · -- The parser accepts the request, and the selected objects are loaded.
    obtain ⟨control, writer', events, s', heq, hloads, hfir⟩ := loadResponse_spec
      (s := { s with
        fragmentCount := 0, database := handled.state.db, eventBuffer := handled.state.events })
      hinv' hwritten' writer
    obtain ⟨⟨count, b, db, rfl⟩, hinv'', hids'', hwritten'', hconfirm⟩ := hloads
    rw [heq]
    exact ⟨_, _, _, _, _, rfl, ⟨⟨count, b, db, rfl⟩, hinv'', hids''.trans hids', hwritten'',
      hconfirm⟩, hfir⟩
  · -- It does not, and the response is empty.
    exact ⟨_, _, _, _, _, rfl, ⟨⟨0, _, _, rfl⟩, hinv', hids', fun id hid => by
      rwa [hwritten'] at hid, fun _ => rfl⟩, rfl⟩

/-- A READ is answered with the first fragment of its response. -/
theorem respondToReadRequest_spec {config : EventBufferConfig} (env : Env α)
    (request : ParsedRequest) {s : OContext α} (hinv : s.eventBuffer.storage.Inv config) :
    ∃ response, Sends config
      { s with history := .recordLastProcessedRequest request.header request.objects }
      (s.respondToReadRequest env request) request.addresses.source request.header.control.seq
      response ∧ response.control.fir = true := by
  have hinv₁ : ({ s with
      history := .recordLastProcessedRequest request.header request.objects } :
        OContext α).eventBuffer.storage.Inv config := hinv
  unfold respondToReadRequest
  generalize ({ s with
    history := .recordLastProcessedRequest request.header request.objects } : OContext α) = s₁
    at hinv₁ ⊢
  obtain ⟨iin, control, writer, events, s', heq, hloads, hfir⟩ :=
    handleRead_spec hinv₁ request.objects s₁.newWriter
  obtain ⟨response, hsends, hcontrol⟩ := sendFragment_spec env hloads request.addresses.source
    request.header.control.seq iin writer
  dsimp only
  rw [heq]
  exact ⟨response, hsends, by rw [hcontrol]; exact hfir⟩

/-- A response goes on with its next fragment. -/
theorem continueMultiFragResponse_spec {config : EventBufferConfig} (env : Env α)
    (addresses : Addresses) (seq : ℕ) {s : OContext α} (hinv : s.eventBuffer.storage.Inv config)
    (hwritten : s.eventBuffer.storage.writtenIds = []) :
    ∃ response, Sends config s (s.continueMultiFragResponse env addresses seq) addresses.source seq
      response ∧ response.control.fir = decide (s.fragmentCount = 0) := by
  obtain ⟨control, writer, events, s', heq, hloads, hfir⟩ :=
    loadResponse_spec hinv hwritten s.newWriter
  obtain ⟨response, hsends, hcontrol⟩ :=
    sendFragment_spec env hloads addresses.source seq 0 writer
  unfold continueMultiFragResponse
  rw [heq]
  exact ⟨response, hsends, by rw [hcontrol]; exact hfir⟩

end Loading

end OpenDnp3.Outstation.OContext
