import OpenDnp3.App.ParserSpec
import OpenDnp3.Outstation.EventStorageSpec
import OpenDnp3.Outstation.Handlers

/-!
# What the request handlers do

For each handler, what a parse with it can add to the log and what it leaves as it is. All of it
goes through `APDUParser.parse_invariant`: it is shown for one header.
-/

namespace OpenDnp3.Outstation

open App

variable {α : Type*}

/-! ## Calls -/

/-- Neither a response goes to the lower layer, nor is a selection recorded, nor does the command
handler operate on the authority of one. -/
def Output.isQuiet : Output α → Bool
  | .transmit _ _ => false
  | .selection _ _ _ _ => false
  | .operate _ _ _ .SelectBeforeOperate => false
  | _ => true

/-- The log goes on with calls that have this property. -/
def Extends (P : Output α → Prop) (log log' : List (Output α)) : Prop :=
  ∃ new, log' = log ++ new ∧ ∀ o ∈ new, P o

/-- The log without more output. -/
theorem Extends.refl (P : Output α → Prop) (log : List (Output α)) : Extends P log log :=
  ⟨[], (List.append_nil log).symm, by simp⟩

/-- The log with more output. -/
theorem Extends.append {P : Output α → Prop} {log log' new : List (Output α)}
    (h : Extends P log log') (hnew : ∀ o ∈ new, P o) : Extends P log (log' ++ new) := by
  obtain ⟨old, rfl, hold⟩ := h
  refine ⟨old ++ new, List.append_assoc _ _ _, fun o ho => ?_⟩
  exact (List.mem_append.mp ho).elim (hold o) (hnew o)

/-! ## Commands -/

namespace CommandResponseHandler

/-- The calls that an action makes to the command handler. -/
def Makes : CommandAction → Output α → Prop
  | .adapter true _, o => o = .start ∨ o = .finish ∨ ∃ gv object index, o = .select gv object index
  | .adapter false opType, o =>
    o = .start ∨ o = .finish ∨ ∃ gv object index, o = .operate gv object index opType
  | .constant _, _ => False

/-- What holds of the handler in the course of a parse: its action has made calls of its kind only,
and the numbers count the statuses, of which all beyond the maximum are refusals. -/
structure Tallied (action : CommandAction) (maxCommands : ℕ) (log : List (Output α))
    (h : CommandResponseHandler α) : Prop where
  action_eq : h.action = action
  max_eq : h.maxCommands = maxCommands
  calls : Extends (Makes action) log h.log
  started : h.isStarted → ∃ isSelect opType, action = .adapter isSelect opType
  numRequests : h.numRequests = min h.statuses.length h.maxCommands
  numSuccess : h.numSuccess = h.statuses.count .SUCCESS

/-- The action of a command makes calls of its kind only. -/
theorem act_spec (env : Env α) {action : CommandAction} {log : List (Output α)}
    {h : CommandResponseHandler α} (haction : h.action = action)
    (hlog : Extends (Makes action) log h.log)
    (hstarted : h.isStarted → ∃ isSelect opType, action = .adapter isSelect opType)
    (gv : GroupVariation) (object : List UInt8) (index : ℕ) :
    ∃ status log' isStarted, h.act env gv object index =
      (status, { h with log := log', isStarted }) ∧
      Extends (Makes action) log log' ∧
      (isStarted → ∃ isSelect opType, action = .adapter isSelect opType) := by
  subst haction
  unfold act
  split
  · exact ⟨_, h.log, h.isStarted, rfl, hlog, hstarted⟩
  · rename_i isSelect opType haction
    refine ⟨_, _, true, rfl, hlog.append fun o ho => ?_, fun _ => ⟨isSelect, opType, haction⟩⟩
    have hcall : o = .start ∨
        o = if isSelect then .select gv object index else .operate gv object index opType := by
      split_ifs at ho ⊢ <;> simp_all
    rw [haction]
    -- The call is the one of the action's kind.
    cases isSelect with
    | true => exact hcall.imp_right fun h => .inr ⟨gv, object, index, h⟩
    | false => exact hcall.imp_right fun h => .inr ⟨gv, object, index, h⟩

/-- A command makes calls of its kind and is counted. -/
theorem processCommand_spec (env : Env α) {action : CommandAction} {maxCommands : ℕ}
    {log : List (Output α)} {h : CommandResponseHandler α}
    (htallied : Tallied action maxCommands log h)
    (gv : GroupVariation) (object : List UInt8) (index : ℕ) :
    ∃ status log' isStarted numRequests, h.processCommand env gv object index =
        (status, { h with log := log', isStarted, numRequests }) ∧
      Extends (Makes action) log log' ∧
      (isStarted → ∃ isSelect opType, action = .adapter isSelect opType) ∧
      numRequests = min (h.statuses.length + 1) h.maxCommands := by
  have hnum := htallied.numRequests
  unfold processCommand
  split_ifs with hlt
  · obtain ⟨status, log', isStarted, heq, hlog, hstarted⟩ := act_spec env
      (h := { h with numRequests := h.numRequests + 1 }) htallied.action_eq htallied.calls
        htallied.started gv object
      index
    exact ⟨status, log', isStarted, h.numRequests + 1, heq, hlog, hstarted, by omega⟩
  · exact ⟨.TOO_MANY_OPS, h.log, h.isStarted, h.numRequests, rfl, htallied.calls,
      htallied.started, by omega⟩

/-- A command of a header keeps the tally. -/
theorem respondTo_tallied (env : Env α) {action : CommandAction} {maxCommands : ℕ}
    {log : List (Output α)} (gv : GroupVariation)
    (p : CommandResponseHandler α × HeaderWriter (List UInt8) ×
      Option (PrefixedWriteIterator (List UInt8))) (pair : Indexed Value)
    (htallied : Tallied action maxCommands log p.1) :
    Tallied action maxCommands log (respondTo env gv p pair).1 := by
  obtain ⟨h, w, iterator⟩ := p
  obtain ⟨status, log', isStarted, numRequests, heq, hlog, hstarted, hnum⟩ :=
    processCommand_spec env htallied gv (objectOf pair.value) pair.index
  have hresult : Tallied action maxCommands log
      { h with
        log := log', isStarted, numRequests
        numSuccess := if status = .SUCCESS then h.numSuccess + 1 else h.numSuccess
        errors := if status = .NOT_SUPPORTED then h.errors ||| IINField.paramError else h.errors
        statuses := h.statuses ++ [status] } := by
    refine ⟨htallied.action_eq, htallied.max_eq, hlog, hstarted, ?_, ?_⟩
    · simpa using hnum
    · have hsuccess := htallied.numSuccess
      dsimp only at hsuccess ⊢
      rw [List.count_append, ← hsuccess]
      split_ifs with hs <;> simp [hs]
  -- The handler is the same whether the response to the command fits or not.
  unfold respondTo
  dsimp only
  rw [heq]
  dsimp only
  split <;> exact hresult

/-- The commands of a header keep the tally. -/
theorem respondToHeader_tallied (env : Env α) {action : CommandAction} {maxCommands : ℕ}
    {log : List (Output α)} {h : CommandResponseHandler α}
    (htallied : Tallied action maxCommands log h)
    (gv : GroupVariation) (index : IndexType) (values : List (Indexed Value)) :
    Tallied action maxCommands log (h.respondToHeader env gv index values) := by
  have hfold : ∀ (values : List (Indexed Value)) p, Tallied action maxCommands log p.1 →
      Tallied action maxCommands log (values.foldl (respondTo env gv) p).1 := by
    intro values
    induction values with
    | nil => exact fun p hp => hp
    | cons pair values ih => exact fun p hp => ih _ (respondTo_tallied env gv p pair hp)
  unfold respondToHeader
  split
  · exact hfold values _ htallied
  · rename_i writer _
    have hvalues := hfold values
      (h, PrefixedWriteIterator.iterateOverCountWithPrefix
        ({ remaining := writer.remaining } : HeaderWriter (List UInt8)) gv.inst index) htallied
    exact ⟨hvalues.action_eq, hvalues.max_eq, hvalues.calls, hvalues.started, hvalues.numRequests,
      hvalues.numSuccess⟩

/-- Every header keeps the tally. -/
theorem onHeader_tallied (env : Env α) {action : CommandAction} {maxCommands : ℕ}
    {log : List (Output α)} (h : CommandResponseHandler α) (call : HeaderCall)
    (htallied : Tallied action maxCommands log h) :
    Tallied action maxCommands log (onHeader env h call) := by
  have herrors : ∀ errors, Tallied action maxCommands log { h with errors } := fun errors =>
    ⟨htallied.action_eq, htallied.max_eq, htallied.calls, htallied.started, htallied.numRequests,
      htallied.numSuccess⟩
  unfold onHeader
  split
  · split
    · exact respondToHeader_tallied env htallied _ _ _
    · exact herrors _
  · exact herrors _

/-- The invariant holds of the handler after a parse. -/
theorem run_tallied (env : Env α) (action : CommandAction) (maxCommands : ℕ)
    (writer : Option (HeaderWriter α)) (objects : List UInt8) (log : List (Output α)) :
    Tallied action maxCommands log (run env action maxCommands writer objects log).2 := by
  have hinit : Tallied action maxCommands log { action, maxCommands, writer, log } :=
    ⟨rfl, rfl, .refl _ _, Bool.noConfusion, (Nat.zero_min _).symm, rfl⟩
  exact @APDUParser.parse_invariant _ (handler env) _ (fun _ _ _ _ h => h) (onHeader_tallied env)
    {} objects _ hinit

/-- The calls of a whole transaction. -/
theorem Tallied.finish {action : CommandAction} {maxCommands : ℕ} {log : List (Output α)}
    {h : CommandResponseHandler α} (htallied : Tallied action maxCommands log h) :
    Extends (Makes action) log h.finish := by
  unfold CommandResponseHandler.finish
  split_ifs with hstarted
  · refine htallied.calls.append fun o ho => ?_
    obtain ⟨isSelect, opType, rfl⟩ := htallied.started hstarted
    rw [List.mem_singleton.mp ho]
    cases isSelect with
    | true => exact .inr (.inl rfl)
    | false => exact .inr (.inl rfl)
  · exact htallied.calls

/-- Where no command is beyond the maximum, success of all commands is success of each. -/
theorem Tallied.all_success {action : CommandAction} {maxCommands : ℕ} {log : List (Output α)}
    {h : CommandResponseHandler α} (htallied : Tallied action maxCommands log h)
    (hsuccess : h.allCommandsSuccessful) (hle : h.statuses.length ≤ maxCommands) :
    ∀ status ∈ h.statuses, status = .SUCCESS := by
  have hnum := htallied.numRequests
  have hcount := htallied.numSuccess
  rw [htallied.max_eq] at hnum
  have heq : h.numRequests = h.numSuccess := by simpa [allCommandsSuccessful] using hsuccess
  have hlen : h.statuses.count .SUCCESS = h.statuses.length := by omega
  exact fun status hmem => (List.count_eq_length.mp hlen status hmem).symm

end CommandResponseHandler

/-! ## Writes and classes -/

namespace WriteHandler

/-- The time is written quietly. -/
theorem writeAbsoluteTime_quiet (env : Env α) {log : List (Output α)} {h : WriteHandler α}
    (hlog : Extends (fun o => o.isQuiet) log h.log) (time : ℤ) :
    Extends (fun o => o.isQuiet) log (h.writeAbsoluteTime env time).2.log :=
  hlog.append fun o ho => by rw [List.mem_singleton.mp ho]; rfl

/-- A header of a WRITE is handled quietly. -/
theorem processHeader_quiet (env : Env α) {log : List (Output α)} (h : WriteHandler α)
    (call : HeaderCall) (hlog : Extends (fun o => o.isQuiet) log h.log) :
    Extends (fun o => o.isQuiet) log (h.processHeader env call).2.log := by
  have hiin : ∀ values, Extends (fun o => o.isQuiet) log (h.processIIN values).2.log := by
    intro values
    unfold processIIN
    split
    · split <;> exact hlog
    · exact hlog
  have hvar1 : ∀ values, Extends (fun o => o.isQuiet) log
    (h.processGroup50Var1 env values).2.log := by
    intro values
    unfold processGroup50Var1
    split_ifs
    · exact hlog
    · exact hlog
    · split
      · exact writeAbsoluteTime_quiet env hlog _
      · exact hlog
  have hvar3 : ∀ values, Extends (fun o => o.isQuiet) log
    (h.processGroup50Var3 env values).2.log := by
    intro values
    unfold processGroup50Var3
    split_ifs
    · exact hlog
    · exact hlog
    · split
      · split
        · exact hlog
        · rename_i time _
          exact writeAbsoluteTime_quiet env (h := { h with time }) hlog _
      · exact hlog
  have hinterval : ∀ values,
      Extends (fun o => o.isQuiet) log (h.processTimeAndInterval env values).2.log := by
    intro values
    unfold processTimeAndInterval
    split_ifs
    · exact hlog
    · exact hlog.append fun o ho => by rw [List.mem_singleton.mp ho]; rfl
  -- Every other header is refused without a call.
  unfold processHeader
  split
  · split
    · exact hiin _
    · exact hlog
  · split
    · exact hvar1 _
    · split
      · exact hvar3 _
      · exact hlog
  · split
    · exact hinterval _
    · exact hlog
  · exact hlog

/-- A write makes quiet calls only. -/
theorem parse_quiet (env : Env α) (objects : List UInt8) (h : WriteHandler α) :
    Extends (fun o => o.isQuiet) h.log
      (APDUParser.parse (handler env) {} objects h).2.state.log :=
  @APDUParser.parse_invariant _ (handler env) (fun h' => Extends (fun o => o.isQuiet) h.log h'.log)
    (fun _ _ _ _ hlog => hlog) (fun h' call hlog => processHeader_quiet env h' call hlog) {} objects
    _ (.refl _ _)

end WriteHandler

namespace AssignClassHandler

/-- The question whether an assignment is expected has no output. -/
theorem isExpectingAssignment_log (h : AssignClassHandler α) :
    h.isExpectingAssignment.2.log = h.log := by
  unfold isExpectingAssignment
  split_ifs <;> rfl

/-- The application is told of an assignment quietly. -/
theorem notifyApplicationOfAssignment_quiet {log : List (Output α)} {h : AssignClassHandler α}
    (hlog : Extends (fun o => o.isQuiet) log h.log) (type : StaticType) (range : Range) :
    Extends (fun o => o.isQuiet) log (h.notifyApplicationOfAssignment type range).log := by
  unfold notifyApplicationOfAssignment
  split_ifs
  · exact hlog.append fun o ho => by rw [List.mem_singleton.mp ho]; rfl
  · exact hlog

/-- A header of an assignment is handled quietly. -/
theorem processHeader_quiet {log : List (Output α)} (h : AssignClassHandler α) (call : HeaderCall)
    (hlog : Extends (fun o => o.isQuiet) log h.log) :
    Extends (fun o => o.isQuiet) log (h.processHeader call).2.log := by
  have hexpecting : Extends (fun o => o.isQuiet) log h.isExpectingAssignment.2.log := by
    rwa [isExpectingAssignment_log]
  have hrecord : ∀ gv, (h.isExpectingAssignment.2.recordClass gv).2.log =
      h.isExpectingAssignment.2.log := by
    intro gv
    unfold recordClass
    split <;> rfl
  unfold processHeader
  split
  · dsimp only
    split
    · split
      · refine notifyApplicationOfAssignment_quiet ?_ _ _
        exact hexpecting
      · exact hexpecting
    · rwa [hrecord]
  · dsimp only
    split
    · split
      · refine notifyApplicationOfAssignment_quiet ?_ _ _
        exact hexpecting
      · exact hexpecting
    · exact hexpecting
  · exact hlog

/-- An assignment of classes makes quiet calls only. -/
theorem parse_quiet (settings : ParserSettings) (objects : List UInt8) (h : AssignClassHandler α) :
    Extends (fun o => o.isQuiet) h.log
      (APDUParser.parse handler settings objects h).2.state.log :=
  @APDUParser.parse_invariant _ handler (fun h' => Extends (fun o => o.isQuiet) h.log h'.log)
    (fun _ _ _ _ hlog => hlog) (fun h' call hlog => processHeader_quiet h' call hlog) settings
    objects _ (.refl _ _)

end AssignClassHandler

/-! ## Reads -/

/-- What the selection of events keeps: the invariant of the storage and the records in it. -/
def Selects (config : EventBufferConfig) (b b' : EventBuffer α) : Prop :=
  b'.storage.Inv config ∧ b.storage.SameRecords b'.storage

/-- A selection with a count selects. -/
theorem EventBuffer.selectMaxCount_selects {config : EventBufferConfig} {b b' : EventBuffer α}
    (h : Selects config b b') (gv : GroupVariation) (maximum : ℕ) :
    Selects config b (b'.selectMaxCount gv maximum).2 := by
  unfold selectMaxCount
  split
  · rename_i type variation _
    have hspec := EventLists.selectByTypeGeneric_spec h.1 type variation maximum
    exact ⟨hspec.1, h.2.trans hspec.2⟩
  · rename_i clazz _
    have hspec := EventLists.selectByClass_spec h.1 (.ofEventClass clazz) maximum
    exact ⟨hspec.1, h.2.trans hspec.2⟩
  · exact h

/-- A header of a READ selects. -/
theorem ReadHandler.onHeader_selects [MeasurementSpec α] {config : EventBufferConfig}
    {b : EventBuffer α} (h : ReadHandler α) (call : HeaderCall)
    (hselects : Selects config b h.events) :
    Selects config b (h.onHeader call).events := by
  unfold onHeader
  split
  · split
    · exact hselects
    · exact EventBuffer.selectMaxCount_selects hselects _ _
    · exact hselects
  · exact hselects
  · exact EventBuffer.selectMaxCount_selects hselects _ _
  · exact hselects

/-- The headers of a read request select from the events that there are. -/
theorem ReadHandler.parse_selects [MeasurementSpec α] {config : EventBufferConfig}
    {h : ReadHandler α} (hinv : h.events.storage.Inv config) (settings : ParserSettings)
    (objects : List UInt8) :
    Selects config h.events (APDUParser.parse handler settings objects h).2.state.events :=
  @APDUParser.parse_invariant _ handler (fun h' => Selects config h.events h'.events)
    (fun _ _ _ _ hselects => hselects) onHeader_selects settings objects _ ⟨hinv, .refl _⟩

end OpenDnp3.Outstation
