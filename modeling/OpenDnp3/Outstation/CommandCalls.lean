import OpenDnp3.App.Encoding
import OpenDnp3.Master.Command
import OpenDnp3.Outstation.Context
import OpenDnp3.Outstation.HandlersSpec

/-!
# The commands of a request

A request for commands as a list of commands, the call that each of them becomes and the status that
it is answered with. The handler goes through the values of a header in order (`Progress`): the
commands within the maximum are given to the action, those beyond it are refused, and as long as
there is space each is written back with the status of its answer.
-/

namespace OpenDnp3.Master.CommandType

open Outstation (CommandStatus)
open Outstation.CommandResponseHandler (withStatus)

/-- `response.status = status` of `CommandResponseHandler::RespondToHeaderWithIterator`. -/
def setStatus : (t : CommandType) → t.Command → CommandStatus → t.Command
  | ControlRelayOutputBlock, value, status => { value with status }
  | AnalogOutputInt32, value, status => { value with status }
  | AnalogOutputInt16, value, status => { value with status }
  | AnalogOutputFloat32, value, status => { value with status }
  | AnalogOutputDouble64, value, status => { value with status }

/-- A command that has been read from an object is written to the same bytes but for its status. -/
theorem writeTarget_setStatus (t : CommandType) {object : List UInt8}
    (h : object.length = t.gv.size) (status : CommandStatus) :
    t.writeTarget (t.setStatus (t.readTarget object) status) =
      withStatus object status := by
  cases t with
  | ControlRelayOutputBlock =>
    match object, h with
    | [code, count, b₀, b₁, b₂, b₃, c₀, c₁, c₂, c₃, old], _ =>
      simp only [writeTarget, setStatus, readTarget, List.drop_succ_cons, List.drop_zero,
        writeUInt32_readUInt32]
      rfl
  | AnalogOutputInt32 =>
    match object, h with
    | [b₀, b₁, b₂, b₃, old], _ =>
      simp only [writeTarget, setStatus, readTarget, UInt32.toUInt32_toInt32,
        writeUInt32_readUInt32]
      rfl
  | AnalogOutputInt16 =>
    match object, h with
    | [low, high, old], _ =>
      simp only [writeTarget, setStatus, readTarget, UInt16.toUInt16_toInt16,
        writeUInt16_readUInt16]
      rfl
  | AnalogOutputFloat32 =>
    match object, h with
    | [b₀, b₁, b₂, b₃, old], _ =>
      simp only [writeTarget, setStatus, readTarget, writeUInt32_readUInt32]
      rfl
  | AnalogOutputDouble64 =>
    match object, h with
    | [b₀, b₁, b₂, b₃, b₄, b₅, b₆, b₇, old], _ =>
      simp only [writeTarget, setStatus, readTarget, writeUInt64_readUInt64]
      rfl

end OpenDnp3.Master.CommandType

namespace OpenDnp3.Outstation

open App

variable {α : Type*}

/-! ## Requests -/

/-- A command of a request. -/
structure Command where
  gv : GroupVariation
  object : List UInt8
  index : ℕ
  deriving DecidableEq, Repr

/-- The commands of a header that the parser delivers. -/
def commandsOf : HeaderCall → List Command
  | .prefixValues record _ values => values.map fun pair =>
      { gv := record.enumeration, object := CommandResponseHandler.objectOf pair.value,
        index := pair.index }
  | _ => []

/-- The white-list of `CommandResponseHandler` alone. -/
def commandWhiteList : IAPDUHandler Unit where
  isAllowed _ _ gv qc := (CommandResponseHandler.isAllowed gv qc, ())
  onHeader _ _ := ()

/-- The objects of a request for commands parse. -/
def Accepted (objects : List UInt8) : Prop :=
  (APDUParser.parse commandWhiteList {} objects ()).1 = .OK

instance (objects : List UInt8) : Decidable (Accepted objects) :=
  inferInstanceAs (Decidable (_ = _))

/-- The commands of a request, in order. -/
def requested (objects : List UInt8) : List Command :=
  (APDUParser.parse commandWhiteList {} objects ()).2.calls.flatMap commandsOf

/-! ## Calls and statuses -/

/-- The call that the adapter makes for a command. -/
def callOf (isSelect : Bool) (opType : OperateType) (c : Command) : Output α :=
  if isSelect then .select c.gv c.object c.index else .operate c.gv c.object c.index opType

/-- The call is for a command. -/
def Output.isCommand : Output α → Bool
  | .select _ _ _ => true
  | .operate _ _ _ _ => true
  | _ => false

/-- The call marks one of `ControlState::Select`. -/
def Output.isSelection : Output α → Bool
  | .selection _ _ _ _ => true
  | _ => false

/-- The log that an action leaves after some commands. -/
def CommandAction.after (action : CommandAction) (log : List (Output α)) (commands : List Command) :
    List (Output α) :=
  match action with
  | .constant _ => log
  | .adapter isSelect opType =>
    if commands.isEmpty then log else log ++ .start :: commands.map (callOf isSelect opType)

/-- The calls for commands that an action makes. -/
def CommandAction.calls (action : CommandAction) (commands : List Command) : List (Output α) :=
  match action with
  | .constant _ => []
  | .adapter isSelect opType => commands.map (callOf isSelect opType)

/-- The status of the last of some commands. -/
def CommandAction.answer (env : Env α) (action : CommandAction) (log : List (Output α))
    (commands : List Command) : CommandStatus :=
  match action with
  | .constant status => status
  | .adapter _ _ => env.commandHandler (action.after log commands)

/-- The statuses of commands, of which those beyond the maximum are refused. -/
def statusesOf (env : Env α) (action : CommandAction) (maxCommands : ℕ) (log : List (Output α))
    (commands : List Command) : List CommandStatus :=
  (List.range commands.length).map fun k =>
    if k < maxCommands then action.answer env log (commands.take (k + 1)) else .TOO_MANY_OPS

/-- Every command has a status. -/
theorem length_statusesOf (env : Env α) (action : CommandAction) (maxCommands : ℕ)
    (log : List (Output α)) (commands : List Command) :
    (statusesOf env action maxCommands log commands).length = commands.length := by
  rw [statusesOf, List.length_map, List.length_range]

/-- The status of the last command depends on the commands before it. -/
theorem statusesOf_concat (env : Env α) (action : CommandAction) (maxCommands : ℕ)
    (log : List (Output α)) (done : List Command) (c : Command) :
    statusesOf env action maxCommands log (done ++ [c]) =
      statusesOf env action maxCommands log done ++
        [if done.length < maxCommands then action.answer env log (done ++ [c])
          else .TOO_MANY_OPS] := by
  have hlen : (done ++ [c]).length = done.length + 1 := List.length_append
  unfold statusesOf
  rw [hlen, List.range_succ, List.map_append]
  congr 1
  · -- The status of an earlier command does not depend on the last one.
    refine List.map_congr_left fun k hk => ?_
    have hk := List.mem_range.mp hk
    rw [List.take_append_of_le_length (by omega)]
  · rw [List.map_singleton, List.take_of_length_le (by omega)]

/-- A maximum that no command is beyond makes no difference. -/
theorem statusesOf_eq_of_le {env : Env α} {action : CommandAction} {log : List (Output α)}
    {commands : List Command} {maxCommands maxCommands' : ℕ} (h : commands.length ≤ maxCommands)
    (h' : commands.length ≤ maxCommands') :
    statusesOf env action maxCommands log commands =
      statusesOf env action maxCommands' log commands := by
  refine List.map_congr_left fun k hk => ?_
  have hk := List.mem_range.mp hk
  rw [if_pos (by omega), if_pos (by omega)]

/-- All commands beyond the maximum are refused. -/
theorem statusesOf_eq_append (env : Env α) (action : CommandAction) (maxCommands : ℕ)
    (log : List (Output α)) (commands : List Command) :
    statusesOf env action maxCommands log commands =
      statusesOf env action maxCommands log (commands.take maxCommands) ++
        List.replicate (commands.length - maxCommands) .TOO_MANY_OPS := by
  induction commands using List.reverseRecOn with
  | nil => simp [statusesOf]
  | append_singleton commands c ih =>
    rw [statusesOf_concat]
    by_cases hlt : commands.length < maxCommands
    · have hlen : (commands ++ [c]).length ≤ maxCommands := by rwa [List.length_append]
      rw [if_pos hlt, List.take_of_length_le hlen, statusesOf_concat, if_pos hlt,
        Nat.sub_eq_zero_of_le hlen, List.replicate_zero, List.append_nil]
    · have hsub : (commands ++ [c]).length - maxCommands = commands.length - maxCommands + 1 := by
        rw [List.length_append, List.length_singleton]
        omega
      rw [if_neg hlt, List.take_append_of_le_length (Nat.le_of_not_lt hlt), hsub, ih,
        List.replicate_succ', List.append_assoc]

namespace CommandResponseHandler

/-- What holds of the handler after some commands: those within the maximum have been given to the
action one after the other. -/
structure Progress (env : Env α) (action : CommandAction) (maxCommands : ℕ) (log : List (Output α))
    (done : List Command) (h : CommandResponseHandler α) : Prop where
  action_eq : h.action = action
  max_eq : h.maxCommands = maxCommands
  numRequests : h.numRequests = min done.length maxCommands
  log_eq : h.log = action.after log (done.take maxCommands)
  isStarted : ∀ isSelect opType, action = .adapter isSelect opType →
    h.isStarted = !(done.take maxCommands).isEmpty
  statuses : h.statuses = statusesOf env action maxCommands log done
  numSuccess : h.numSuccess = h.statuses.count .SUCCESS

/-- A command is answered after those before it, unless there are too many. -/
theorem processCommand_progress {env : Env α} {action : CommandAction} {maxCommands : ℕ}
    {log : List (Output α)} {done : List Command} {h : CommandResponseHandler α}
    (hprogress : Progress env action maxCommands log done h) (c : Command) :
    ∃ isStarted, h.processCommand env c.gv c.object c.index =
        (if done.length < maxCommands then action.answer env log (done ++ [c])
          else .TOO_MANY_OPS,
        { h with
          log := action.after log ((done ++ [c]).take maxCommands)
          isStarted
          numRequests := min (done.length + 1) maxCommands }) ∧
      ∀ isSelect opType, action = .adapter isSelect opType →
        isStarted = !((done ++ [c]).take maxCommands).isEmpty := by
  have hnum := hprogress.numRequests
  have hmax := hprogress.max_eq
  have hlog := hprogress.log_eq
  unfold processCommand
  by_cases hlt : done.length < maxCommands
  · have hrequest : h.numRequests < h.maxCommands := by omega
    have htake : (done ++ [c]).take maxCommands = done ++ [c] :=
      List.take_of_length_le (by rwa [List.length_append])
    have htakeDone : done.take maxCommands = done := List.take_of_length_le hlt.le
    have hsucc : h.numRequests + 1 = min (done.length + 1) maxCommands := by omega
    rw [if_pos hrequest, if_pos hlt, htake, ← hsucc]
    rw [htakeDone] at hlog
    unfold act
    dsimp only
    rw [hprogress.action_eq]
    cases action with
    | constant status =>
      refine ⟨h.isStarted, ?_, nofun⟩
      rw [show CommandAction.after (.constant status) log (done ++ [c]) = h.log from hlog.symm]
      rfl
    | adapter isSelect opType =>
      have hstarted := hprogress.isStarted isSelect opType rfl
      rw [htakeDone] at hstarted
      -- The first command of the request starts the transaction.
      have hcall : h.log ++ (if h.isStarted then [callOf isSelect opType c]
          else [.start, callOf isSelect opType c]) =
            CommandAction.after (.adapter isSelect opType) log (done ++ [c]) := by
        rw [hlog, hstarted]
        cases done with
        | nil => rfl
        | cons first done => simp [CommandAction.after]
      refine ⟨true, ?_, fun _ _ _ => by simp⟩
      rw [← hcall]
      dsimp only [CommandAction.answer]
      rw [← hcall]
      rfl
  · have hrequest : ¬h.numRequests < h.maxCommands := by omega
    have htake : (done ++ [c]).take maxCommands = done.take maxCommands :=
      List.take_append_of_le_length (by omega)
    have hsame : min (done.length + 1) maxCommands = h.numRequests := by omega
    rw [if_neg hrequest, if_neg hlt, htake, hsame, ← hlog]
    exact ⟨h.isStarted, rfl, hprogress.isStarted⟩

/-- The command of a value of a header. -/
def commandOf (gv : GroupVariation) (pair : Indexed Value) : Command where
  gv := gv
  object := objectOf pair.value
  index := pair.index

/-- A value of a header makes its command the last one. -/
theorem respondTo_progress {env : Env α} {action : CommandAction} {maxCommands : ℕ}
    {log : List (Output α)} {done : List Command}
    {p : CommandResponseHandler α × HeaderWriter (List UInt8) ×
      Option (PrefixedWriteIterator (List UInt8))}
    (hprogress : Progress env action maxCommands log done p.1) (gv : GroupVariation)
    (pair : Indexed Value) :
    ∃ status h, statusesOf env action maxCommands log (done ++ [commandOf gv pair]) =
        statusesOf env action maxCommands log done ++ [status] ∧
      Progress env action maxCommands log (done ++ [commandOf gv pair]) h ∧
      h.writer = p.1.writer ∧
      (respondTo env gv p pair).1 = h ∧
      ∀ iterator w' iterator', p.2.2 = some iterator →
        iterator.write p.2.1 (withStatus (objectOf pair.value) status) pair.index =
          some (w', iterator') → respondTo env gv p pair = (h, w', some iterator') := by
  obtain ⟨h, w, iterator⟩ := p
  obtain ⟨isStarted, heq, hstarted⟩ := processCommand_progress hprogress (commandOf gv pair)
  have hconcat := statusesOf_concat env action maxCommands log done (commandOf gv pair)
  -- The status is the handler's, or the one for too many commands.
  generalize (if done.length < maxCommands then
    action.answer env log (done ++ [commandOf gv pair]) else CommandStatus.TOO_MANY_OPS) = status
    at heq hconcat
  -- The handler has counted one more request with this status.
  have hresult : Progress env action maxCommands log (done ++ [commandOf gv pair])
      { h with
        log := action.after log ((done ++ [commandOf gv pair]).take maxCommands)
        isStarted
        numRequests := min (done.length + 1) maxCommands
        numSuccess := if status = .SUCCESS then h.numSuccess + 1 else h.numSuccess
        errors := if status = .NOT_SUPPORTED then h.errors ||| IINField.paramError else h.errors
        statuses := h.statuses ++ [status] } := by
    refine ⟨hprogress.action_eq, hprogress.max_eq, ?_, rfl, hstarted, ?_, ?_⟩
    · rw [List.length_append, List.length_singleton]
    · rw [hconcat, ← hprogress.statuses]
    · have hsuccess := hprogress.numSuccess
      dsimp only at hsuccess ⊢
      rw [List.count_append, ← hsuccess]
      split_ifs with hs <;> simp [hs]
  have hcommand : h.processCommand env gv (objectOf pair.value) pair.index = _ := heq
  refine ⟨status, _, hconcat, hresult, rfl, ?_, ?_⟩
  · unfold respondTo
    simp only [hcommand]
    split <;> rfl
  · rintro iterator w' iterator' rfl hwrite
    dsimp only at hwrite
    unfold respondTo
    simp only [hcommand, Option.bind_some, hwrite]

/-- The objects of an echo: the commands of a header with their statuses. -/
def echoObjects (values : List (Indexed Value)) (statuses : List CommandStatus) :
    List (ℕ × List UInt8) :=
  List.zipWith (fun pair status => (pair.index, withStatus (objectOf pair.value) status)) values
    statuses

/-- The values of a header make its commands the last ones. -/
theorem foldl_respondTo_progress {env : Env α} {action : CommandAction} {maxCommands : ℕ}
    {log : List (Output α)} (gv : GroupVariation) (values : List (Indexed Value))
    {done : List Command} {p : CommandResponseHandler α × HeaderWriter (List UInt8) ×
      Option (PrefixedWriteIterator (List UInt8))}
    (hprogress : Progress env action maxCommands log done p.1) :
    Progress env action maxCommands log (done ++ values.map (commandOf gv))
        (values.foldl (respondTo env gv) p).1 ∧
      (values.foldl (respondTo env gv) p).1.writer = p.1.writer := by
  induction values generalizing done p with
  | nil => simpa using hprogress
  | cons pair values ih =>
    obtain ⟨status, h, -, hstep, hwriter, hfirst, -⟩ := respondTo_progress hprogress gv pair
    rw [← hfirst] at hstep hwriter
    obtain ⟨hprogress', hwriter'⟩ := ih hstep
    rw [List.map_cons, List.foldl_cons, List.append_cons]
    exact ⟨hprogress', hwriter'.trans hwriter⟩

/-- Where there is space for all commands of a header, each is written with its status. -/
theorem foldl_respondTo_echo {env : Env α} {action : CommandAction} {maxCommands : ℕ}
    {log : List (Output α)} (gv : GroupVariation) (values : List (Indexed Value))
    (w : HeaderWriter (List UInt8)) (iterator : PrefixedWriteIterator (List UInt8))
    {done : List Command} {h : CommandResponseHandler α}
    (hprogress : Progress env action maxCommands log done h)
    (hindex : ∀ pair ∈ values, pair.index ≤ iterator.index.max)
    (hspace : values.length * (iterator.serializer.size + iterator.index.size) ≤ w.remaining) :
    ∃ statuses h', statusesOf env action maxCommands log (done ++ values.map (commandOf gv)) =
        statusesOf env action maxCommands log done ++ statuses ∧
      values.foldl (respondTo env gv) (h, w, some iterator) =
        (h', w.advance (values.length * (iterator.serializer.size + iterator.index.size)),
          some { iterator with objects := iterator.objects ++ echoObjects values statuses }) := by
  induction values generalizing done h w iterator with
  | nil => exact ⟨[], h, by simp, by simp [HeaderWriter.advance, echoObjects]⟩
  | cons pair values ih =>
    obtain ⟨status, h', hstatus, hstep, -, -, hrespond⟩ :=
      respondTo_progress (p := (h, w, some iterator)) hprogress gv pair
    rw [List.length_cons, Nat.succ_mul] at hspace
    have hcast : iterator.index.cast pair.index = pair.index :=
      cast_of_le (hindex pair (List.mem_cons_self ..))
    -- The space for the whole header is there, so this object is written.
    have hwrite : iterator.write w (withStatus (objectOf pair.value) status) pair.index =
        some (w.advance (iterator.serializer.size + iterator.index.size),
          { iterator with objects := iterator.objects ++
            [(pair.index, withStatus (objectOf pair.value) status)] }) := by
      unfold PrefixedWriteIterator.write
      rw [if_pos (by omega), hcast]
    have heq := hrespond iterator _ _ rfl hwrite
    obtain ⟨statuses, h'', hstatuses, hfold⟩ := ih
      (w.advance (iterator.serializer.size + iterator.index.size))
      { iterator with objects := iterator.objects ++
        [(pair.index, withStatus (objectOf pair.value) status)] } hstep
      (fun pair hp => hindex pair (List.mem_cons_of_mem _ hp))
      (by simp only [HeaderWriter.advance]; omega)
    refine ⟨status :: statuses, h'', ?_, ?_⟩
    · rw [List.map_cons, List.append_cons, hstatuses, hstatus, List.append_assoc,
        List.singleton_append]
    · rw [List.foldl_cons, heq]
      dsimp only at hfold ⊢
      rw [hfold, HeaderWriter.advance_advance, List.length_cons, Nat.succ_mul, Nat.add_comm,
        List.append_assoc]
      rfl

end CommandResponseHandler

end OpenDnp3.Outstation
