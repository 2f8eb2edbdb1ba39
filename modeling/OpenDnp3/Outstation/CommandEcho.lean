import OpenDnp3.Outstation.CommandHeaders

/-!
# The echo of a command request

What a request for commands asks for, which of its commands reach the command handler, and that the
response repeats the request but for the status of each command.
-/

namespace OpenDnp3.Outstation

open App

variable {α : Type*}

/-! ## What the command handler is asked -/

/-- The command of a call to the command handler. -/
def Output.command : Output α → Option Command
  | .select gv object index => some { gv, object, index }
  | .operate gv object index _ => some { gv, object, index }
  | _ => none

/-- The commands that are given to the command handler in a step, with its answers. -/
def exchanges (env : Env α) : List (Output α) → List (Output α) → List (Command × CommandStatus)
  | _, [] => []
  | log, o :: new =>
    (o.command.map fun c => (c, env.commandHandler (log ++ [o]))).toList ++
      exchanges env (log ++ [o]) new

/-- The exchanges of two parts of the output, one after the other. -/
theorem exchanges_append (env : Env α) (log new new' : List (Output α)) :
    exchanges env log (new ++ new') = exchanges env log new ++ exchanges env (log ++ new) new' := by
  induction new generalizing log with
  | nil => simp [exchanges]
  | cons o new ih => simp [exchanges, ih]

/-- Output without a command is no exchange. -/
theorem exchanges_eq_nil {env : Env α} {new : List (Output α)} (h : ∀ o ∈ new, o.command = none)
    (log : List (Output α)) : exchanges env log new = [] := by
  induction new generalizing log with
  | nil => rfl
  | cons o new ih =>
    obtain ⟨ho, hnew⟩ := List.forall_mem_cons.mp h
    rw [exchanges, ho, ih hnew]
    rfl

/-- The command of a call is the one it was made for. -/
theorem command_callOf (isSelect : Bool) (opType : OperateType) (c : Command) :
    (callOf isSelect opType c : Output α).command = some c := by
  cases isSelect <;> rfl

/-- A transaction asks the command handler for the status of each of its commands. -/
theorem exchanges_start (env : Env α) (isSelect : Bool) (opType : OperateType)
    (log : List (Output α)) (commands : List Command) :
    exchanges env log (.start :: commands.map (callOf isSelect opType)) = commands.zip
      (statusesOf env (.adapter isSelect opType) commands.length log commands) := by
  induction commands using List.reverseRecOn with
  | nil => rfl
  | append_singleton commands c ih =>
    have hlt : commands.length < (commands ++ [c]).length := by simp
    have hfewer : statusesOf env (.adapter isSelect opType) (commands ++ [c]).length log commands =
        statusesOf env (.adapter isSelect opType) commands.length log commands :=
      statusesOf_eq_of_le hlt.le le_rfl
    have hafter : (CommandAction.adapter isSelect opType).after log (commands ++ [c]) =
        log ++ (.start :: commands.map (callOf isSelect opType)) ++ [callOf isSelect opType c] := by
      simp [CommandAction.after]
    have hlast : exchanges env (log ++ (.start :: commands.map (callOf isSelect opType)))
        [callOf isSelect opType c] =
          [(c, (CommandAction.adapter isSelect opType).answer env log (commands ++ [c]))] := by
      rw [exchanges, command_callOf, CommandAction.answer, hafter]
      rfl
    rw [List.map_append, List.map_singleton, ← List.cons_append, exchanges_append, ih, hlast,
      statusesOf_concat, if_pos hlt, hfewer,
      List.zip_append (length_statusesOf ..).symm]
    rfl

/-- Calls of the handler are all commands. -/
theorem filter_isCommand_map (isSelect : Bool) (opType : OperateType) (commands : List Command) :
    (commands.map (callOf isSelect opType) : List (Output α)).filter Output.isCommand =
      commands.map (callOf isSelect opType) := by
  rw [List.filter_eq_self]
  intro o ho
  obtain ⟨c, -, rfl⟩ := List.mem_map.mp ho
  cases isSelect <;> rfl

/-- The calls for some commands, with the statuses that the command handler answers. -/
theorem exchanges_after (env : Env α) (isSelect : Bool) (opType : OperateType)
    (log : List (Output α)) (commands : List Command) :
    ∃ new, (CommandAction.adapter isSelect opType).after log commands = log ++ new ∧
      (∀ o ∈ new, o.isSelection = false) ∧
      new.filter Output.isCommand = commands.map (callOf isSelect opType) ∧
      exchanges env log new = commands.zip
        (statusesOf env (.adapter isSelect opType) commands.length log commands) := by
  by_cases hempty : commands.isEmpty
  · obtain rfl := List.isEmpty_iff.mp hempty
    exact ⟨[], (List.append_nil log).symm, by simp, rfl, rfl⟩
  · refine ⟨.start :: commands.map (callOf isSelect opType), if_neg hempty, ?_, ?_,
      exchanges_start env isSelect opType log commands⟩
    · intro o ho
      obtain rfl | ho := List.mem_cons.mp ho
      · rfl
      · obtain ⟨c, -, rfl⟩ := List.mem_map.mp ho
        cases isSelect <;> rfl
    · rw [List.filter_cons_of_neg (by simp [Output.isCommand]), filter_isCommand_map]

/-- The calls for some commands. -/
theorem after_eq_append (env : Env α) (action : CommandAction) (log : List (Output α))
    (commands : List Command) :
    ∃ new, action.after log commands = log ++ new ∧
      new.filter Output.isCommand = action.calls commands := by
  cases action with
  | constant status => exact ⟨[], (List.append_nil log).symm, rfl⟩
  | adapter isSelect opType =>
    obtain ⟨new, hafter, -, hcalls, -⟩ := exchanges_after env isSelect opType log commands
    exact ⟨new, hafter, hcalls⟩

/-! ## Selections -/

namespace OContext

open CommandResponseHandler

/-- The statuses that a writer has been given for a response since it had these headers. -/
def echoedStatuses (writer : HeaderWriter α) (writer' : Option (HeaderWriter α)) : List UInt8 :=
  (writer'.elim [] fun w => w.headers.drop writer.headers.length).flatMap echoStatuses

/-- A SELECT request is recorded if and only if its objects parse, all of its commands are given to
the command handler and the answer to each is success; where another status is echoed, the record
stays as it is. -/
def SelectsOnSuccess (env : Env α) (objects : List UInt8) (writer : HeaderWriter α)
    (s : OContext α) : Prop :=
  let (_, writer', s') := s.handleSelect env objects writer
  let new := s'.log.drop s.log.length
  ((∃ o ∈ new, o.isSelection) ↔ Accepted objects ∧
      exchanges env s.log new = (requested objects).map fun c => (c, .SUCCESS)) ∧
    ((∃ status ∈ echoedStatuses writer writer', status ≠ CommandStatus.SUCCESS.toType) →
      s'.control = s.control)

/-- The request has more commands than are processed, and all that are processed succeed. -/
def SelectsBeyondMaximum (env : Env α) (objects : List UInt8) (writer : HeaderWriter α)
    (s : OContext α) : Prop :=
  objects.length ≤ writer.remaining ∧ Accepted objects ∧
    s.params.maxControlsPerRequest.toNat < (requested objects).length ∧
    ∀ status ∈ statusesOf env (.adapter true .DirectOperate) s.params.maxControlsPerRequest.toNat
      s.log ((requested objects).take s.params.maxControlsPerRequest.toNat), status = .SUCCESS

/-- The two numbers of the handler agree where all commands within the maximum succeed. -/
theorem allCommandsSuccessful_iff {env : Env α} {action : CommandAction} {maxCommands : ℕ}
    {log : List (Output α)} {commands : List Command} {h : CommandResponseHandler α}
    (hprogress : Progress env action maxCommands log commands h) :
    h.allCommandsSuccessful ↔
      ∀ status ∈ statusesOf env action maxCommands log (commands.take maxCommands),
        status = .SUCCESS := by
  have hlen : (statusesOf env action maxCommands log (commands.take maxCommands)).length =
      min commands.length maxCommands := by
    rw [length_statusesOf, List.length_take, Nat.min_comm]
  have hcount : h.numSuccess =
      (statusesOf env action maxCommands log (commands.take maxCommands)).count .SUCCESS := by
    rw [hprogress.numSuccess, hprogress.statuses, statusesOf_eq_append, List.count_append,
      List.count_replicate]
    rfl
  rw [allCommandsSuccessful, decide_eq_true_eq, hprogress.numRequests, hcount, ← hlen, eq_comm,
    List.count_eq_length]
  exact forall₂_congr fun status _ => eq_comm

/-- A request that is not accepted records no selection. -/
theorem selectsOnSuccess_of_not_accepted {env : Env α} {objects : List UInt8}
    {writer : HeaderWriter α} {s : OContext α} (haccepted : ¬Accepted objects) :
    SelectsOnSuccess env objects writer s := by
  have hparse : (run env (.adapter true .DirectOperate) s.params.maxControlsPerRequest.toNat
      (some writer) objects s.log).1 ≠ .OK := mt (run_eq_ok_iff ..).mp haccepted
  obtain ⟨new, hlog, hnew⟩ := (run_tallied env (.adapter true .DirectOperate)
    s.params.maxControlsPerRequest.toNat (some writer) objects s.log).finish
  unfold SelectsOnSuccess handleSelect
  split_ifs with hspace
  · simp [haccepted, echoedStatuses]
  · generalize run env (.adapter true .DirectOperate) s.params.maxControlsPerRequest.toNat
      (some writer) objects s.log = r at *
    dsimp only
    rw [if_neg (fun h => hparse h.1)]
    dsimp only
    rw [hlog, List.drop_left]
    refine ⟨⟨?_, fun h => absurd h.1 haccepted⟩, fun _ => rfl⟩
    rintro ⟨o, ho, hselection⟩
    obtain rfl | rfl | ⟨gv, object, index, rfl⟩ := hnew o ho <;> cases hselection

/-- What an accepted request that fits makes of the handler: its calls are those for the commands
within the maximum, and its response is the echo. -/
structure CommandsAnswered (env : Env α) (isSelect : Bool) (opType : OperateType) (maxCommands : ℕ)
    (writer : HeaderWriter α) (objects : List UInt8) (log : List (Output α))
    (h : CommandResponseHandler α) (new : List (Output α)) (response : List (ObjectHeader α)) :
    Prop where
  progress : Progress env (.adapter isSelect opType) maxCommands log (requested objects) h
  log_eq : h.log = log ++ new
  isSelection_eq : ∀ o ∈ new, o.isSelection = false
  calls : new.filter Output.isCommand =
    ((requested objects).take maxCommands).map (callOf isSelect opType)
  exchanges_eq : exchanges env log new = ((requested objects).take maxCommands).zip
    (statusesOf env (.adapter isSelect opType) maxCommands log
      ((requested objects).take maxCommands))
  writer_eq : h.writer = some
    { remaining := writer.remaining - objects.length, headers := writer.headers ++ response }
  echo : Echo (requested objects)
    (statusesOf env (.adapter isSelect opType) maxCommands log (requested objects)) objects
    (response.flatMap echoBytes)
  echoed : response.flatMap echoStatuses = (statusesOf env (.adapter isSelect opType) maxCommands
    log (requested objects)).map CommandStatus.toType

/-- A request that is accepted and fits is answered with its echo. -/
theorem run_answered (env : Env α) (isSelect : Bool) (opType : OperateType) (maxCommands : ℕ)
    {writer : HeaderWriter α} {objects : List UInt8} (log : List (Output α))
    (haccepted : Accepted objects) (hspace : objects.length ≤ writer.remaining) :
    ∃ h new response, run env (.adapter isSelect opType) maxCommands (some writer) objects log =
        (.OK, h) ∧
      CommandsAnswered env isSelect opType maxCommands writer objects log h new response := by
  obtain ⟨response, h, hrun, hprogress, hwriter, hecho, hechoed⟩ :=
    run_echo env (.adapter isSelect opType) maxCommands log haccepted hspace
  obtain ⟨new, hnew, hselection, hcalls, hexchanges⟩ :=
    exchanges_after env isSelect opType log ((requested objects).take maxCommands)
  have hmax : statusesOf env (.adapter isSelect opType)
      ((requested objects).take maxCommands).length log ((requested objects).take maxCommands) =
        statusesOf env (.adapter isSelect opType) maxCommands log
          ((requested objects).take maxCommands) :=
    statusesOf_eq_of_le le_rfl (List.length_take_le _ _)
  rw [hmax] at hexchanges
  exact ⟨h, new, response, hrun, hprogress, hprogress.log_eq.trans hnew, hselection, hcalls,
    hexchanges, hwriter, hecho, hechoed⟩

/-- The transaction of the handler ends with a call for no command. -/
theorem finish_eq (h : CommandResponseHandler α) :
    ∃ tail, h.finish = h.log ++ tail ∧
      ∀ o ∈ tail, o.command = none ∧ o.isSelection = false ∧ o.isCommand = false := by
  unfold finish
  split_ifs
  · exact ⟨[.finish], rfl, by simp [Output.command, Output.isSelection, Output.isCommand]⟩
  · exact ⟨[], (List.append_nil _).symm, by simp⟩

/-- The exchanges with the command handler tell whether every command has succeeded. -/
theorem zip_eq_map_success_iff {commands : List Command} {statuses : List CommandStatus} {n : ℕ}
    (hlen : statuses.length = (commands.take n).length) :
    (commands.take n).zip statuses = commands.map (fun c => (c, CommandStatus.SUCCESS)) ↔
      commands.length ≤ n ∧ ∀ status ∈ statuses, status = .SUCCESS := by
  constructor
  · intro heq
    have hcount := congrArg List.length heq
    rw [List.length_zip, hlen, min_self, List.length_take, List.length_map] at hcount
    have hle : commands.length ≤ n := by omega
    refine ⟨hle, fun status hstatus => ?_⟩
    rw [List.take_of_length_le hle] at heq hlen
    have hsnd : statuses = commands.map fun _ => CommandStatus.SUCCESS := by
      have hmap := congrArg (List.map Prod.snd) heq
      rwa [List.map_snd_zip hlen.le, List.map_map] at hmap
    rw [hsnd] at hstatus
    obtain ⟨c, -, rfl⟩ := List.mem_map.mp hstatus
    rfl
  · rintro ⟨hle, hall⟩
    rw [List.take_of_length_le hle] at hlen ⊢
    have hsnd : statuses = List.replicate commands.length .SUCCESS := by
      rw [← hlen]
      exact List.eq_replicate_of_mem hall
    rw [hsnd]
    exact List.ext_getElem (by simp) fun i hi hi' => by simp

/-- A SELECT request is recorded as it should be, unless the commands beyond the maximum are the
only ones that have not succeeded. -/
theorem handleSelect_selectsOnSuccess_iff (env : Env α) (objects : List UInt8)
    (writer : HeaderWriter α) (s : OContext α) :
    SelectsOnSuccess env objects writer s ↔ ¬SelectsBeyondMaximum env objects writer s := by
  by_cases haccepted : Accepted objects
  case neg =>
    exact iff_of_true (selectsOnSuccess_of_not_accepted haccepted) fun h => haccepted h.2.1
  by_cases hspace : objects.length ≤ writer.remaining
  case neg =>
    -- A request that is too long is not parsed, and has commands that are not processed.
    have hne : requested objects ≠ [] := by
      intro hnil
      rw [requested_eq_nil haccepted hnil] at hspace
      exact hspace (Nat.zero_le _)
    refine iff_of_true ?_ fun h => hspace h.1
    unfold SelectsOnSuccess handleSelect
    rw [if_pos (Nat.lt_of_not_le hspace)]
    simp [exchanges, echoedStatuses, hne]
  obtain ⟨h, new, response, hrun, hanswered⟩ := run_answered env true .DirectOperate
    s.params.maxControlsPerRequest.toNat s.log haccepted hspace
  have hsuccess := allCommandsSuccessful_iff hanswered.progress
  have hexchanges : exchanges env s.log new = (requested objects).map (fun c => (c, .SUCCESS)) ↔
      (requested objects).length ≤ s.params.maxControlsPerRequest.toNat ∧
        h.allCommandsSuccessful := by
    rw [hanswered.exchanges_eq, hsuccess]
    exact zip_eq_map_success_iff (length_statusesOf ..)
  have hwriter : echoedStatuses writer h.writer = (statusesOf env (.adapter true .DirectOperate)
      s.params.maxControlsPerRequest.toNat s.log (requested objects)).map CommandStatus.toType := by
    rw [echoedStatuses, hanswered.writer_eq, ← hanswered.echoed]
    simp
  have hbeyond : SelectsBeyondMaximum env objects writer s ↔
      s.params.maxControlsPerRequest.toNat < (requested objects).length ∧
        h.allCommandsSuccessful := by
    rw [SelectsBeyondMaximum, hsuccess]
    simp [hspace, haccepted]
  rw [hbeyond]
  unfold SelectsOnSuccess handleSelect
  rw [if_neg (Nat.not_lt_of_le hspace), hrun]
  dsimp only
  by_cases hall : h.allCommandsSuccessful
  · -- The selection is recorded.
    rw [if_pos ⟨rfl, hall⟩]
    obtain ⟨tail, hfinish, htail⟩ := finish_eq
      { h with
        log := h.log ++ [Output.selection s.solSeq.num env.now objects h.statuses] }
    dsimp only at hfinish ⊢
    have hlog : h.log ++ [Output.selection s.solSeq.num env.now objects h.statuses] ++ tail =
        s.log ++ (new ++ (.selection s.solSeq.num env.now objects h.statuses :: tail)) := by
      rw [hanswered.log_eq, List.append_assoc, List.append_assoc, List.singleton_append]
    rw [hlog] at hfinish
    have hcommands : exchanges env s.log
        (new ++ (.selection s.solSeq.num env.now objects h.statuses :: tail)) =
          exchanges env s.log new := by
      have hnone : ∀ o ∈ Output.selection s.solSeq.num env.now objects h.statuses :: tail,
          o.command = none := List.forall_mem_cons.mpr ⟨rfl, fun o ho => (htail o ho).1⟩
      rw [exchanges_append, exchanges_eq_nil hnone, List.append_nil]
    have hrecorded : ∃ o ∈ new ++ (.selection s.solSeq.num env.now objects h.statuses :: tail),
        o.isSelection := ⟨_, List.mem_append_right _ (List.mem_cons_self ..), rfl⟩
    rw [hfinish, List.drop_left, hcommands, hexchanges, hwriter]
    have hle : (requested objects).length ≤ s.params.maxControlsPerRequest.toNat →
        ∀ status ∈ (statusesOf env (.adapter true .DirectOperate)
          s.params.maxControlsPerRequest.toNat s.log (requested objects)).map CommandStatus.toType,
          status = CommandStatus.SUCCESS.toType := by
      intro hle status hstatus
      obtain ⟨status, hmem, rfl⟩ := List.mem_map.mp hstatus
      rw [hsuccess, List.take_of_length_le hle] at hall
      rw [hall status hmem]
    constructor
    · rintro ⟨hiff, -⟩ ⟨hlt, -⟩
      exact Nat.not_le_of_lt hlt (hiff.mp hrecorded).2.1
    · intro hnot
      have hmax : (requested objects).length ≤ s.params.maxControlsPerRequest.toNat :=
        Nat.le_of_not_lt fun hlt => hnot ⟨hlt, hall⟩
      exact ⟨iff_of_true hrecorded ⟨haccepted, hmax, hall⟩,
        fun ⟨status, hstatus, hne⟩ => absurd (hle hmax status hstatus) hne⟩
  · rw [if_neg fun h => hall h.2]
    obtain ⟨tail, hfinish, htail⟩ := finish_eq h
    dsimp only
    rw [hfinish, hanswered.log_eq, List.append_assoc, List.drop_left]
    refine iff_of_true ⟨⟨?_, ?_⟩, fun _ => rfl⟩ fun h => hall h.2
    · rintro ⟨o, ho, hselection⟩
      obtain ho | ho := List.mem_append.mp ho
      · rw [hanswered.isSelection_eq o ho] at hselection
        cases hselection
      · rw [(htail o ho).2.1] at hselection
        cases hselection
    · rintro ⟨-, hnew⟩
      rw [exchanges_append, exchanges_eq_nil (fun o ho => (htail o ho).1), List.append_nil,
        hexchanges] at hnew
      exact absurd hnew.2 hall

/-- A SELECT request for two controls. -/
def selectTwice : List UInt8 :=
  [12, 1, 0x17, 2, 0, 3, 1, 100, 0, 0, 0, 100, 0, 0, 0, 0, 1, 3, 1, 100, 0, 0, 0, 100, 0, 0, 0, 0]

/-- The outstation processes one control of a request, and the command handler accepts it. -/
theorem not_selectsOnSuccess : ¬SelectsOnSuccess ({} : Env Bool) selectTwice { remaining := 2044 }
    (init { source := 10, destination := 1 } {} { maxControlsPerRequest := 1 }
      { cells := fun _ => [] }) := by
  rintro ⟨hrecorded, -⟩
  revert hrecorded
  decide +kernel

/-! ## Responses -/

/-- The action that a request for commands is processed with. -/
def commandAction (env : Env α) (function : FunctionCode) (objects : List UInt8) (s : OContext α) :
    CommandAction :=
  match function with
  | .SELECT => .adapter true .DirectOperate
  | .OPERATE =>
    let status := s.control.validateSelection s.solSeq.num env.now s.params.selectTimeout objects
    if status = .SUCCESS then .adapter false .SelectBeforeOperate else .constant status
  | _ => .adapter false .DirectOperate

/-- The commands that the handler has been given, whatever else it has been asked. -/
theorem filter_isCommand_finish {env : Env α} {action : CommandAction} {maxCommands : ℕ}
    {log : List (Output α)} {commands : List Command} {h : CommandResponseHandler α}
    (hprogress : Progress env action maxCommands log commands h) (marks : List (Output α))
    (hmarks : ∀ o ∈ marks, o.isCommand = false) :
    ((finish { h with log := h.log ++ marks }).drop log.length).filter Output.isCommand =
      action.calls (commands.take maxCommands) := by
  obtain ⟨new, hnew, hcalls⟩ := after_eq_append env action log (commands.take maxCommands)
  obtain ⟨tail, hfinish, htail⟩ := finish_eq { h with log := h.log ++ marks }
  have hlog : h.log ++ marks ++ tail = log ++ (new ++ (marks ++ tail)) := by
    rw [hprogress.log_eq, hnew, List.append_assoc, List.append_assoc]
  have hnone : (marks ++ tail).filter Output.isCommand = [] := by
    rw [List.filter_eq_nil_iff]
    intro o ho
    obtain ho | ho := List.mem_append.mp ho
    · simp [hmarks o ho]
    · simp [(htail o ho).2.2]
  rw [hfinish, hlog, List.drop_left, List.filter_append, hnone, List.append_nil, hcalls]

/-- A request for commands whose objects parse and fit the response is answered by its echo, in
which each object is the one that was read with its status. The command handler is asked once for
each command within the maximum, in order, and for none where a selection is not valid. -/
theorem handleNonReadResponse_echo {env : Env α} {header : APDUHeader}
    {objects : List UInt8} {writer : HeaderWriter α} {s : OContext α}
    (hfunction : header.function ∈ [FunctionCode.SELECT, .OPERATE, .DIRECT_OPERATE])
    (haccepted : Accepted objects) (hspace : objects.length ≤ writer.remaining) :
    let action := s.commandAction env header.function objects
    let maxCommands := s.params.maxControlsPerRequest.toNat
    let (_, writer', s') := s.handleNonReadResponse env header objects writer
    (∃ response, writer' = some
        { remaining := writer.remaining - objects.length, headers := writer.headers ++ response } ∧
      (response.flatMap echoBytes).length = objects.length ∧
      Echo (requested objects) (statusesOf env action maxCommands s.log (requested objects)) objects
        (response.flatMap echoBytes)) ∧
    (∀ c ∈ requested objects, ∃ t : Master.CommandType, t.gv = c.gv ∧ ∀ status,
      withStatus c.object status = t.writeTarget (t.setStatus (t.readTarget c.object) status)) ∧
    (s'.log.drop s.log.length).filter Output.isCommand =
      action.calls ((requested objects).take maxCommands) := by
  have hcodec : ∀ c ∈ requested objects, ∃ t : Master.CommandType, t.gv = c.gv ∧ ∀ status,
      withStatus c.object status =
        t.writeTarget (t.setStatus (t.readTarget c.object) status) := by
    intro c hc
    obtain ⟨t, hgv, hsize⟩ := requested_type haccepted c hc
    exact ⟨t, hgv, fun status => (t.writeTarget_setStatus hsize status).symm⟩
  have hpos : ∀ c ∈ requested objects, 0 < c.gv.size := by
    intro c hc
    obtain ⟨t, hgv, -⟩ := requested_type haccepted c hc
    rw [← hgv]
    cases t <;> decide
  -- All three functions run the objects through the same handler, so its echo and its calls are
  -- taken once.
  have hfits : ¬writer.remaining < objects.length := Nat.not_lt_of_le hspace
  obtain ⟨response, h, hrun, hprogress, hwriter, hecho, -⟩ := run_echo env
    (s.commandAction env header.function objects) s.params.maxControlsPerRequest.toNat s.log
    haccepted hspace
  have hcalls := fun marks => filter_isCommand_finish hprogress marks
  have hplain : (h.finish.drop s.log.length).filter Output.isCommand =
      (s.commandAction env header.function objects).calls
        ((requested objects).take s.params.maxControlsPerRequest.toNat) := by
    have hnil := hcalls [] (List.forall_mem_nil _)
    rw [List.append_nil] at hnil
    exact hnil
  intro action maxCommands
  simp only [action, maxCommands]
  rw [List.mem_cons, List.mem_cons, List.mem_singleton] at hfunction
  obtain hf | hf | hf := hfunction
  · rw [hf] at hrun hecho hplain hcalls ⊢
    simp only [handleNonReadResponse, hf]
    unfold handleSelect
    rw [if_neg hfits, show run env (.adapter true .DirectOperate) _ _ _ _ = _ from hrun]
    dsimp only
    split_ifs
    · -- The selection that is recorded is no command.
      exact ⟨⟨response, hwriter, hecho.length_eq hpos, hecho⟩, hcodec, hcalls _ fun o ho => by
        rw [List.mem_singleton.mp ho]
        rfl⟩
    · exact ⟨⟨response, hwriter, hecho.length_eq hpos, hecho⟩, hcodec, hplain⟩
  · rw [hf] at hrun hecho hplain ⊢
    simp only [handleNonReadResponse, hf]
    unfold handleOperate
    rw [if_neg hfits]
    dsimp only
    -- An OPERATE without its SELECT is answered with one constant status.
    by_cases hvalid : s.control.validateSelection s.solSeq.num env.now s.params.selectTimeout
        objects = .SUCCESS
    · rw [if_pos hvalid]
      have haction : s.commandAction env .OPERATE objects = .adapter false .SelectBeforeOperate :=
        if_pos hvalid
      rw [haction] at hrun
      rw [hrun]
      exact ⟨⟨response, hwriter, hecho.length_eq hpos, hecho⟩, hcodec, hplain⟩
    · rw [if_neg hvalid]
      have haction : s.commandAction env .OPERATE objects = .constant
          (s.control.validateSelection s.solSeq.num env.now s.params.selectTimeout objects) :=
        if_neg hvalid
      rw [haction] at hrun
      unfold handleCommandWithConstant
      rw [hrun]
      exact ⟨⟨response, hwriter, hecho.length_eq hpos, hecho⟩, hcodec, hplain⟩
  · rw [hf] at hrun hecho hplain ⊢
    simp only [handleNonReadResponse, hf]
    unfold handleDirectOperate
    rw [if_neg (by simpa using hspace),
      show run env (.adapter false .DirectOperate) _ _ _ _ = _ from hrun]
    exact ⟨⟨response, hwriter, hecho.length_eq hpos, hecho⟩, hcodec, hplain⟩

/-- The outstation processes one of two controls, and echoes the other with its refusal. -/
theorem handleNonReadResponse_echo_selectTwice :
    let s : OContext Bool := init { source := 10, destination := 1 } {}
      { maxControlsPerRequest := 1 } { cells := fun _ => [] }
    let (_, writer', s') := s.handleNonReadResponse {} { function := .SELECT } selectTwice
      { remaining := 2044 }
    (∃ response, writer' = some { remaining := 2016, headers := response } ∧
      (response.flatMap echoBytes).length = 28) ∧
    (s'.log.filter Output.isCommand).length = 1 := by
  intro s
  have hfits : selectTwice.length ≤ ({ remaining := 2044 } : HeaderWriter Bool).remaining := by
    decide
  obtain ⟨⟨response, hwriter, hlen, -⟩, -, hcalls⟩ := @handleNonReadResponse_echo Bool {}
    { function := .SELECT } selectTwice _ s (by decide) (by decide +kernel) hfits
  refine ⟨⟨response, hwriter, hlen⟩, ?_⟩
  have hcount := congrArg List.length hcalls
  exact hcount

end OContext

end OpenDnp3.Outstation
