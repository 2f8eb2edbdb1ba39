import OpenDnp3.Master.Bookkeeping
import OpenDnp3.Master.CommandSpec

/-!
# The stages of a select-and-operate task

A select-and-operate task goes through a few stages (`Stage`), and it comes to the OPERATE only by a
response that echoes its SELECT. Every event of a master leaves the task in one of the stages or
completes it, and a request that it transmits is permitted in its stage.
-/

namespace OpenDnp3.Master

open App

/-! ## What the system does to a master -/

/-- A lower layer that is busy stays so. -/
theorem busy_of_sending {out : List Output} {busy : Bool} (h : sending true out = some busy) :
    busy = true := by
  induction out with
  | nil => exact (Option.some.inj h).symm
  | cons output rest ih =>
    rw [sending] at h
    by_cases hwrites : output.writes = true
    · rw [if_pos hwrites, if_pos rfl] at h
      cases h
    · rw [if_neg hwrites] at h
      exact ih h

/-- A transmission leaves the lower layer busy. -/
theorem busy_of_transmits {out : List Output} {busy busy' : Bool}
    (h : sending busy out = some busy') {output : Output} (hmem : output ∈ out)
    (htransmits : output.transmits = true) : busy = false ∧ busy' = true := by
  induction out generalizing busy with
  | nil => cases hmem
  | cons first rest ih =>
    rw [sending] at h
    rcases List.mem_cons.mp hmem with rfl | hmem
    · have hwrites : output.writes = true := by
        cases output <;> first | rfl | cases htransmits
      rw [if_pos hwrites] at h
      split_ifs at h with hbusy
      rw [htransmits] at h
      exact ⟨by simpa using hbusy, busy_of_sending h⟩
    · split_ifs at h with hwrites hbusy
      · exact ⟨by simpa using hbusy, (ih h hmem).2⟩
      · exact ih h hmem

namespace System

variable {ι τ : Type*} [IScheduledTask τ] [DecidableEq ι]

/-- An event of the system makes a master turn its tasks. The log of the master tells what it does,
and transmits no other requests. -/
def Moves (env : Env) (e : SystemEvent ι τ) (i : ι) (c c' : MContext τ) : Prop :=
  ∃ event acts out, Turns env c.core event c'.core acts ∧ c'.log = c.log ++ out ∧
    (∀ message, event = .receive message → e = .occurs i ⟨.receive message, trivial⟩) ∧
    (∀ output ∈ acts, output ∈ out) ∧
    ∀ header objects, .request header objects ∈ out → .request header objects ∈ acts

omit [IScheduledTask τ] [DecidableEq ι] in
/-- Calls of the scheduler transmit nothing. -/
theorem Calls.not_request {s s' : System ι τ} (h : Calls s s') (i : ι) :
    ∃ out, (s'.runners i).log = (s.runners i).log ++ out ∧
      ∀ header objects, .request header objects ∉ out := by
  obtain ⟨out, hlog, hsending⟩ := h.sends i
  refine ⟨out, hlog, fun header objects hmem => ?_⟩
  obtain ⟨hfree, hbusy⟩ := busy_of_transmits hsending hmem rfl
  rw [h.isSending, hfree] at hbusy
  cases hbusy

omit [DecidableEq ι] in
/-- The calls of the scheduler after an event of the master. -/
theorem Moves.calls {env : Env} {e : SystemEvent ι τ} {i : ι} {c : MContext τ} {s s' : System ι τ}
    (h : Moves env e i c (s.runners i)) (hcalls : Calls s s') : Moves env e i c (s'.runners i) := by
  obtain ⟨event, acts, out, hturns, hlog, hevent, hacts, hrequests⟩ := h
  obtain ⟨out', hlog', hnone⟩ := hcalls.not_request i
  refine ⟨event, acts, out ++ out', ?_, ?_, hevent, fun output hmem => ?_,
    fun header objects hmem => ?_⟩
  · rw [hcalls.core]
    exact hturns
  · rw [hlog', hlog, List.append_assoc]
  · exact List.mem_append_left _ (hacts output hmem)
  · rcases List.mem_append.mp hmem with hmem | hmem
    · exact hrequests header objects hmem
    · exact absurd hmem (hnone header objects)

omit [DecidableEq ι] in
/-- The calls of the scheduler before one. -/
theorem Calls.trans_moves {env : Env} {e : SystemEvent ι τ} {i : ι} {c : MContext τ}
    {s s' : System ι τ} (hcalls : Calls s s') (h : Moves env e i (s'.runners i) c) :
    Moves env e i (s.runners i) c := by
  obtain ⟨event, acts, out, hturns, hlog, hevent, hacts, hrequests⟩ := h
  obtain ⟨out', hlog', hnone⟩ := hcalls.not_request i
  refine ⟨event, acts, out' ++ out, ?_, ?_, hevent, fun output hmem => ?_,
    fun header objects hmem => ?_⟩
  · rw [← hcalls.core]
    exact hturns
  · rw [hlog, hlog', List.append_assoc]
  · exact List.mem_append_right _ (hacts output hmem)
  · rcases List.mem_append.mp hmem with hmem | hmem
    · exact absurd hmem (hnone header objects)
    · exact hrequests header objects hmem

omit [DecidableEq ι] in
/-- A master may be left alone. -/
theorem Moves.refl (env : Env) (e : SystemEvent ι τ) (i : ι) (c : MContext τ) : Moves env e i c c :=
  ⟨.txReady, [], [], .quiet rfl, (List.append_nil _).symm, (fun _ h => by cases h),
    fun _ h => absurd h List.not_mem_nil, fun _ _ h => absurd h List.not_mem_nil⟩

omit [DecidableEq ι] in
/-- The calls of the scheduler alone. -/
theorem Calls.moves {s s' : System ι τ} (h : Calls s s') (env : Env) (e : SystemEvent ι τ) (i : ι) :
    Moves env e i (s.runners i) (s'.runners i) :=
  (Moves.refl env e i (s.runners i)).calls h

/-- An event of one master, with what the scheduler does about it. -/
theorem moves_occur (env : Env) (e : SystemEvent ι τ) {i : ι} {event : Event τ} {s : System ι τ}
    (hsession : Session (s.runners i).core (s.runners i).isSending)
    (honline : ∀ id, event = .run id → (s.runners i).isOnline = true)
    (hevent : ∀ message, event = .receive message → e = .occurs i ⟨.receive message, trivial⟩)
    (j : ι) : Moves env e j (s.runners j) ((s.occur env i event).runners j) := by
  have hcalls := calls_foldl_call env i ((s.runners i).outputs (env, event))
    (s.modifyRunner i fun c => c.step (env, event))
  refine Moves.calls ?_ hcalls
  by_cases hj : j = i
  · obtain ⟨k', acts, hturns, hacts, -, -⟩ := MContext.handles_step env event hsession honline
    obtain ⟨out, hlog, hout, -⟩ := hacts.exists_out
    have hstart : ((s.runners i).starting event).log = (s.runners i).log := by
      cases event <;> rfl
    rw [hj, modifyRunner_self]
    refine ⟨event, acts, out, hacts.core_eq ▸ hturns, hlog.trans (by rw [hstart]), hevent,
      fun output hmem => ?_, fun header objects hmem => ?_⟩
    · rw [← hout] at hmem
      exact List.mem_of_mem_filter hmem
    · rw [← hout]
      exact List.mem_filter.mpr ⟨hmem, rfl⟩
  · rw [modifyRunner_of_ne hj]
    exact .refl ..

/-- The scheduler starts a task, or none. -/
theorem moves_checkForTaskRun (env : Env) (e : SystemEvent ι τ) {s : System ι τ}
    (h : Inv s) (i : ι) :
    Moves env e i (s.runners i) ((s.checkForTaskRun env).runners i) := by
  cases htask : s.taskToRun env with
  | none =>
    rw [(checkForTaskRun_of_none htask).1]
    exact .refl ..
  | some r =>
    obtain ⟨s', hstarts, hcheck⟩ := checkForTaskRun_of_some htask
    have honline := h.isOnline_of_taskToRun htask
    rw [← hstarts.runners] at honline
    have hsession := (Calls.of_runners hstarts.runners).session h.session
    rw [hcheck, ← hstarts.runners]
    exact moves_occur env e (hsession r.runner) (fun _ _ => honline) (by simp) i

/-- Every event of the system makes every master turn its tasks. -/
theorem moves_step {s : System ι τ} (h : Inv s) (e : Env × SystemEvent ι τ) (i : ι) :
    Moves e.1 e.2 i (s.runners i) ((s.step e).runners i) := by
  obtain ⟨env, event⟩ := e
  cases event with
  | occurs j event =>
    obtain ⟨event, hevent⟩ := event
    refine moves_occur env _ (h.session j) (fun id hrun => ?_) (fun message hreceive => ?_) i
    · obtain rfl : event = .run id := hrun
      cases hevent
    · subst hreceive
      rfl
  | checkForTaskRun => exact moves_checkForTaskRun env _ h i
  | timeoutTasks => exact (timeoutTasks_spec env h).2.moves env _ i
  | demand r =>
    obtain ⟨hcalls, hcompletions⟩ := calls_setMinExpiration r s
    have hdemanded := h.of_calls hcalls rfl hcompletions
    exact hcalls.trans_moves (moves_checkForTaskRun env (.demand r) hdemanded i)

end System

/-! ## The stages of a task -/

/-- A response echoes the request for some commands. The white-list of the parser does not look at
the set. -/
def Echoes (mode : IndexQualifierMode) (headers : List CommandItems) (message : Message) (seq : ℕ) :
    Prop :=
  ∃ header objects set, parseResponse message.payload = some (header, objects) ∧
    header.function = .RESPONSE ∧ header.control.seq = seq ∧
    CommandSetOps.EchoedBy mode headers
      (APDUParser.parse (CommandSetOps.handler .Select) {} objects set)

/-- What has become of the SELECTs of a task, by their sequence numbers. -/
structure History where
  /-- It was transmitted. -/
  selected : ℕ → Prop
  /-- It was transmitted, and then a response echoed it. -/
  echoed : ℕ → Prop

section Stages

variable {τ : Type*}

/-- The stages of a select-and-operate task that has not been completed. -/
inductive Stage (headers : List CommandItems) (mode : IndexQualifierMode) (H : History)
    (k : Core (CommandTask ⊕ τ)) (id : TaskId) : Prop where
  | fresh (htask : k.taskList[id]? =
        some (.other (.inl (.createSelectAndOperate (.build headers) mode))))
      (hready : k.activeTask = some id → k.tstate = .TASK_READY)
  | selecting {objects : List UInt8} {commands : CommandSet} (hactive : k.activeTask = some id)
      (hwait : k.tstate = .WAIT_FOR_RESPONSE)
      (htask : k.taskList[id]? = some (.other (.inl ⟨[.OPERATE], commands, mode⟩)))
      (hwrite : CommandSetOps.write (.build headers) (k.params.maxTxFragSize - 2) mode =
        (some objects, commands))
      (hselected : H.selected k.solSeq)
  | selected {seq : ℕ} {commands : CommandSet} (hactive : k.activeTask = some id)
      (hready : k.tstate = .TASK_READY)
      (htask : k.taskList[id]? = some (.other (.inl ⟨[.OPERATE], commands, mode⟩)))
      (hwrite : (CommandSetOps.write commands (k.params.maxTxFragSize - 2) mode).1 =
        some (requestBytes mode headers))
      (hseq : k.solSeq = nextSeq seq) (hechoed : H.echoed seq)
  | operating {commands : CommandSet} (hactive : k.activeTask = some id)
      (hwait : k.tstate = .WAIT_FOR_RESPONSE)
      (htask : k.taskList[id]? = some (.other (.inl ⟨[], commands, mode⟩)))

/-- A request that the task may transmit. -/
def Permitted (headers : List CommandItems) (mode : IndexQualifierMode) (H : History)
    (header : APDUHeader) (objects : List UInt8) : Prop :=
  objects = requestBytes mode headers ∧
    (header.function = .SELECT ∨
      header.function = .OPERATE ∧ ∃ seq, header.control.seq = nextSeq seq ∧ H.echoed seq)

/-- The second history is the first one after an event that the task has part in. -/
structure Extends (headers : List CommandItems) (mode : IndexQualifierMode) (id : TaskId)
    (H H' : History) (k : Core (CommandTask ⊕ τ)) (event : Event (CommandTask ⊕ τ))
    (k' : Core (CommandTask ⊕ τ)) (acts : List Output) : Prop where
  selected : ∀ seq, H.selected seq → H'.selected seq
  echoed : ∀ seq, H.echoed seq → H'.echoed seq
  selects : ∀ header, k'.activeTask = some id →
    .request header (requestBytes mode headers) ∈ acts → header.function = .SELECT →
      H'.selected header.control.seq
  echoes : ∀ message, event = .receive message → k.activeTask = some id →
    k.tstate = .WAIT_FOR_RESPONSE → Echoes mode headers message k.solSeq →
      H.selected k.solSeq → H'.echoed k.solSeq

variable [IMasterTask τ] {headers : List CommandItems} {mode : IndexQualifierMode} {H H' : History}
  {env : Env} {id : TaskId} {k k' : Core (CommandTask ⊕ τ)} {acts : List Output}

omit [IMasterTask τ] in
/-- The request of a command task has its first function code and its headers. -/
theorem CommandTask.buildRequest_some {task task' : CommandTask} {space seq : ℕ}
    {header : APDUHeader} {objects : List UInt8}
    (h : task.buildRequest space seq = (some (header, objects), task')) :
    ∃ function functionCodes commands, task.functionCodes = function :: functionCodes ∧
      header = { control := requestControl seq, function } ∧
      CommandSetOps.write task.commands space task.mode = (some objects, commands) ∧
      task' = { functionCodes, commands, mode := task.mode } := by
  obtain ⟨functionCodes, commands, mode⟩ := task
  cases functionCodes with
  | nil => cases h
  | cons function functionCodes =>
    obtain ⟨result, commands', hwrite⟩ : ∃ result commands',
        CommandSetOps.write commands space mode = (result, commands') := ⟨_, _, rfl⟩
    unfold CommandTask.buildRequest at h
    dsimp only at h
    rw [hwrite] at h
    obtain ⟨hrequest, rfl⟩ := Prod.mk.inj h
    obtain ⟨objects', rfl, hpair⟩ := Option.map_eq_some_iff.mp hrequest
    obtain ⟨rfl, rfl⟩ := Prod.mk.inj hpair
    exact ⟨function, functionCodes, commands', rfl, rfl, hwrite, rfl⟩

/-- The request of a command task. -/
theorem buildRequest_inl {task : CommandTask} {task' : Task (CommandTask ⊕ τ)} {space seq : ℕ}
    {header : APDUHeader} {objects : List UInt8}
    (h : (Task.other (.inl task) : Task (CommandTask ⊕ τ)).buildRequest env space seq =
      (some (header, objects), task')) :
    ∃ function functionCodes commands, task.functionCodes = function :: functionCodes ∧
      header = { control := requestControl seq, function } ∧
      CommandSetOps.write task.commands space task.mode = (some objects, commands) ∧
      task' = .other (.inl { functionCodes, commands, mode := task.mode }) := by
  have hbuild : (Task.other (.inl task) : Task (CommandTask ⊕ τ)).buildRequest env space seq =
      ((task.buildRequest space seq).1, .other (.inl (task.buildRequest space seq).2)) := rfl
  rw [hbuild] at h
  obtain ⟨hrequest, rfl⟩ := Prod.mk.inj h
  obtain ⟨function, functionCodes, commands, hcodes, hheader, hwrite, htask⟩ :=
    CommandTask.buildRequest_some (Prod.ext hrequest rfl)
  exact ⟨function, functionCodes, commands, hcodes, hheader, hwrite,
    congrArg (fun task => Task.other (Sum.inl task)) htask⟩

/-- The task transmits its SELECT. -/
theorem Resumes.select (h : Resumes env id k k' acts) (hactive : k.activeTask = some id)
    (htask : k.taskList[id]? =
      some (.other (.inl (.createSelectAndOperate (.build headers) mode))))
    (hcomplete : ∀ result, .onTaskComplete id result ∉ acts)
    (hselects : ∀ header, k'.activeTask = some id →
      .request header (requestBytes mode headers) ∈ acts → header.function = .SELECT →
        H'.selected header.control.seq) :
    Stage headers mode H' k' id ∧ ∀ header objects, .request header objects ∈ acts →
      Permitted headers mode H' header objects := by
  cases h with
  | failed _ _ => exact absurd (List.mem_cons_self ..) (hcomplete _)
  | @sent task task' header objects htask' hbuild =>
    obtain rfl := Option.some.inj (htask.symm.trans htask')
    obtain ⟨function, functionCodes, commands, hcodes, rfl, hwrite, rfl⟩ := buildRequest_inl hbuild
    obtain ⟨rfl, rfl⟩ := List.cons.inj hcodes
    obtain ⟨rfl, -⟩ := CommandSetOps.write_eq hwrite
    have hlt := (List.getElem?_eq_some_iff.mp htask).1
    have hselected := hselects _ hactive (List.mem_singleton_self _) rfl
    refine ⟨.selecting hactive rfl (List.getElem?_set_self hlt) hwrite hselected, ?_⟩
    intro header objects hmem
    obtain ⟨rfl, rfl⟩ := Output.request.inj (List.mem_singleton.mp hmem)
    exact ⟨rfl, .inl rfl⟩

/-- The task transmits its OPERATE. -/
theorem Resumes.operate (h : Resumes env id k k' acts) (hactive : k.activeTask = some id)
    {seq : ℕ} {commands : CommandSet}
    (htask : k.taskList[id]? = some (.other (.inl ⟨[.OPERATE], commands, mode⟩)))
    (hwrite : (CommandSetOps.write commands (k.params.maxTxFragSize - 2) mode).1 =
      some (requestBytes mode headers))
    (hseq : k.solSeq = nextSeq seq) (hechoed : H'.echoed seq)
    (hcomplete : ∀ result, .onTaskComplete id result ∉ acts) :
    Stage headers mode H' k' id ∧ ∀ header objects, .request header objects ∈ acts →
      Permitted headers mode H' header objects := by
  cases h with
  | failed _ _ => exact absurd (List.mem_cons_self ..) (hcomplete _)
  | @sent task task' header objects htask' hbuild =>
    obtain rfl := Option.some.inj (htask.symm.trans htask')
    obtain ⟨function, functionCodes, commands', hcodes, rfl, hwrite', rfl⟩ :=
      buildRequest_inl hbuild
    obtain ⟨rfl, rfl⟩ := List.cons.inj hcodes
    rw [hwrite'] at hwrite
    obtain rfl := Option.some.inj hwrite
    have hlt := (List.getElem?_eq_some_iff.mp htask).1
    refine ⟨.operating hactive rfl (List.getElem?_set_self hlt), ?_⟩
    intro header objects hmem
    obtain ⟨rfl, rfl⟩ := Output.request.inj (List.mem_singleton.mp hmem)
    exact ⟨rfl, .inr ⟨rfl, seq, hseq, hechoed⟩⟩

omit [IMasterTask τ] in
/-- The task goes on to the OPERATE where the commands have been selected. -/
theorem CommandTask.processResponse_repeat {task : CommandTask} {header : APDUResponseHeader}
    {response : List UInt8} (h : (task.processResponse header response).1 = .OK_REPEAT) :
    task.functionCodes ≠ [] ∧
      (CommandSetOps.processSelectResponse task.commands response).1 = .OK ∧
      (task.processResponse header response).2 =
        { task with commands :=
            (CommandSetOps.processSelectResponse task.commands response).2 } := by
  unfold CommandTask.processResponse CommandTask.processObjects at h ⊢
  obtain ⟨result, commands, hselect⟩ : ∃ result commands,
      CommandSetOps.processSelectResponse task.commands response = (result, commands) := ⟨_, _, rfl⟩
  rw [hselect] at h ⊢
  split_ifs at h ⊢ with hvalid hlast
  · dsimp only at h
    split_ifs at h
  · refine ⟨by simpa using hlast, ?_, rfl⟩
    cases result <;> first | rfl | cases h

omit [IMasterTask τ] in
/-- A command task waits for no further fragments. -/
theorem CommandTask.processResponse_ne_continue (task : CommandTask) (header : APDUResponseHeader)
    (response : List UInt8) : (task.processResponse header response).1 ≠ .OK_CONTINUE := by
  unfold CommandTask.processResponse CommandTask.processObjects
  by_cases hvalid : validateSingleResponse header = true
  · rw [if_pos hvalid]
    by_cases hlast : task.functionCodes.isEmpty = true
    · rw [if_pos hlast]
      dsimp only
      split_ifs
      · simp
      · simp
    · rw [if_neg hlast]
      dsimp only
      split <;> simp
  · rw [if_neg hvalid]
    simp

/-- A response to the SELECT that asks for the OPERATE echoes the request. -/
theorem echoes_of_repeat {space seq : ℕ} {objects : List UInt8} {commands : CommandSet}
    (hwrite : CommandSetOps.write (.build headers) space mode = (some objects, commands))
    {message : Message} {header : APDUResponseHeader} {response : List UInt8}
    {task' : Task (CommandTask ⊕ τ)}
    (hparse : parseResponse message.payload = some (header, response))
    (hfunction : header.function = .RESPONSE) (hseq : header.control.seq = seq)
    (hprocess : (Task.other (.inl ⟨[.OPERATE], commands, mode⟩) :
      Task (CommandTask ⊕ τ)).processResponse env header response = (.OK_REPEAT, task')) :
    Echoes mode headers message seq ∧ ∃ commands',
      task' = .other (.inl ⟨[.OPERATE], commands', mode⟩) ∧
      (CommandSetOps.write commands' space mode).1 = some (requestBytes mode headers) := by
  obtain ⟨hresult, htask⟩ := Prod.mk.inj hprocess
  obtain ⟨-, hselect, hcommands⟩ := CommandTask.processResponse_repeat hresult
  obtain ⟨rfl, hwritten⟩ := CommandSetOps.write_eq hwrite
  obtain ⟨w, hw, -⟩ := Option.map_eq_some_iff.mp (congrArg Prod.fst hwrite)
  have hset : (CommandSetOps.writeHeaders mode (CommandSet.build headers).m_headers
      { remaining := space }).2 = commands.m_headers :=
    congrArg (fun result => result.2.m_headers) hwrite
  have hrecords := (CommandSetOps.writeHeaders_again hw).2
  rw [hset] at hrecords
  refine ⟨⟨header, response, commands, hparse, hfunction, hseq,
    CommandSetOps.echoedBy_of_selected hwritten hrecords hselect⟩,
    _, htask.symm.trans (congrArg (fun task => Task.other (Sum.inl task)) hcommands), ?_⟩
  refine CommandSetOps.write_twice (congrArg Prod.fst hwrite) ?_
  rw [hwrite]
  exact CommandSetOps.wire_processSelectResponse commands response

/-- A command task processes a response as the task that it is. -/
theorem processResponse_inl {task : CommandTask} {header : APDUResponseHeader}
    {response : List UInt8} {result : ResponseResult} {task' : Task (CommandTask ⊕ τ)}
    (hprocess : (Task.other (.inl task) : Task (CommandTask ⊕ τ)).processResponse env
      header response =
      (result, task')) : (task.processResponse header response).1 = result :=
  congrArg Prod.fst hprocess

omit [IMasterTask τ] in
/-- A task that is not active is as it was made. -/
theorem Stage.task_of_ne (hstage : Stage headers mode H k id) (hne : k.activeTask ≠ some id) :
    k.taskList[id]? = some (.other (.inl (.createSelectAndOperate (.build headers) mode))) := by
  cases hstage with
  | fresh htask _ => exact htask
  | selecting hactive => exact absurd hactive hne
  | selected hactive => exact absurd hactive hne
  | operating hactive => exact absurd hactive hne

omit [IMasterTask τ] in
/-- An event that the task has no part in. -/
theorem Stage.apart (hstage : Stage headers mode H k id) (hne : k.activeTask ≠ some id)
    (hne' : k'.activeTask ≠ some id)
    (htask : ∀ task, k.taskList[id]? = some task → k'.taskList[id]? = some task) :
    Stage headers mode H' k' id :=
  .fresh (htask _ (hstage.task_of_ne hne)) fun hactive => absurd hactive hne'

omit [IMasterTask τ] in
/-- An event that changes nothing of the task. -/
theorem Stage.keep (hstage : Stage headers mode H k id) (hactive : k'.activeTask = k.activeTask)
    (hstate : k'.tstate = k.tstate) (hparams : k'.params = k.params) (hseq : k'.solSeq = k.solSeq)
    (htask : ∀ task, k.taskList[id]? = some task → k'.taskList[id]? = some task)
    (hselected : ∀ seq, H.selected seq → H'.selected seq)
    (hechoed : ∀ seq, H.echoed seq → H'.echoed seq) : Stage headers mode H' k' id := by
  cases hstage with
  | fresh hfresh hready =>
    refine .fresh (htask _ hfresh) ?_
    rw [hactive, hstate]
    exact hready
  | selecting hactive' hwait htask' hwrite hsel =>
    rw [← hparams] at hwrite
    rw [← hseq] at hsel
    exact .selecting (hactive.trans hactive') (hstate.trans hwait) (htask _ htask') hwrite
      (hselected _ hsel)
  | selected hactive' hready htask' hwrite hseq' hech =>
    rw [← hparams] at hwrite
    exact .selected (hactive.trans hactive') (hstate.trans hready) (htask _ htask') hwrite
      (hseq.trans hseq') (hechoed _ hech)
  | operating hactive' hwait htask' =>
    exact .operating (hactive.trans hactive') (hstate.trans hwait) (htask _ htask')

/-- Another task that is resumed leaves this one alone. -/
theorem Resumes.frame {id₁ : TaskId} (h : Resumes env id₁ k k' acts) (hne : id₁ ≠ id) :
    k'.taskList[id]? = k.taskList[id]? ∧ (k'.activeTask = k.activeTask ∨ k'.activeTask = none) := by
  cases h with
  | failed _ _ => exact ⟨List.getElem?_set_ne hne, .inr rfl⟩
  | sent _ _ => exact ⟨List.getElem?_set_ne hne, .inl rfl⟩

/-- The response to another task leaves this one alone. -/
theorem Finishes.frame {id₁ : TaskId} {result : ResponseResult}
    (h : Finishes env id₁ k result k' acts) (hne : id₁ ≠ id) :
    k'.taskList[id]? = k.taskList[id]? ∧ (k'.activeTask = k.activeTask ∨ k'.activeTask = none) := by
  cases h with
  | bad => exact ⟨rfl, .inr rfl⟩
  | final => exact ⟨rfl, .inr rfl⟩
  | continues => exact ⟨rfl, .inl rfl⟩
  | waits => exact ⟨rfl, .inl rfl⟩
  | repeats hresumes => exact hresumes.frame hne

/-- The response to a request of the task. -/
theorem Stage.answered (hstage : Stage headers mode H k id) {message : Message}
    {header : APDUResponseHeader} {response : List UInt8} {task task' : Task (CommandTask ⊕ τ)}
    {result : ResponseResult} (hparse : parseResponse message.payload = some (header, response))
    (hfunction : header.function = .RESPONSE) (hwait : k.tstate = .WAIT_FOR_RESPONSE)
    (hseq : header.control.seq = k.solSeq) (hactive : k.activeTask = some id)
    (htask : k.taskList[id]? = some task)
    (hprocess : task.processResponse env header response = (result, task'))
    (hfinish : Finishes env id (k.answer.setTask id task') result k' acts)
    (hextends : Extends headers mode id H H' k (.receive message) k' acts)
    (hcomplete : ∀ result, .onTaskComplete id result ∉ acts) :
    Stage headers mode H' k' id ∧ ∀ header objects, .request header objects ∈ acts →
      Permitted headers mode H' header objects := by
  have hlt := (List.getElem?_eq_some_iff.mp htask).1
  -- Only the answer to the SELECT lets the task go on, and that only with an echo.
  cases hstage with
  | fresh _ hready => exact absurd ((hready hactive).symm.trans hwait) (by decide)
  | selecting _ _ htask' hwrite hselected =>
    obtain rfl := Option.some.inj (htask.symm.trans htask')
    cases hfinish with
    | bad => exact absurd (List.mem_cons_self ..) (hcomplete _)
    | final => exact absurd (List.mem_cons_self ..) (hcomplete _)
    | continues =>
      exact absurd (processResponse_inl hprocess) (CommandTask.processResponse_ne_continue _ _ _)
    | waits =>
      obtain ⟨hechoes, commands', rfl, hagain⟩ :=
        echoes_of_repeat hwrite hparse hfunction hseq hprocess
      have hechoed := hextends.echoes message rfl hactive hwait hechoes hselected
      exact ⟨.selected hactive rfl (List.getElem?_set_self hlt) hagain rfl hechoed,
        fun _ _ h => absurd h List.not_mem_nil⟩
    | repeats hresumes =>
      obtain ⟨hechoes, commands', rfl, hagain⟩ :=
        echoes_of_repeat hwrite hparse hfunction hseq hprocess
      have hechoed := hextends.echoes message rfl hactive hwait hechoes hselected
      exact hresumes.operate hactive (List.getElem?_set_self hlt) hagain rfl hechoed hcomplete
  | selected _ hready => exact absurd (hready.symm.trans hwait) (by decide)
  | operating _ _ htask' =>
    obtain rfl := Option.some.inj (htask.symm.trans htask')
    have hresult := processResponse_inl hprocess
    cases hfinish with
    | bad => exact absurd (List.mem_cons_self ..) (hcomplete _)
    | final => exact absurd (List.mem_cons_self ..) (hcomplete _)
    | continues => exact absurd hresult (CommandTask.processResponse_ne_continue _ _ _)
    | waits => exact absurd rfl (CommandTask.processResponse_repeat hresult).1
    | repeats _ => exact absurd rfl (CommandTask.processResponse_repeat hresult).1

/-- The task transmits a request when it has waited for the end of a transmission. -/
theorem Stage.resumed (hstage : Stage headers mode H k id) (hready : k.tstate = .TASK_READY)
    (hactive : k.activeTask = some id) (hresumes : Resumes env id k k' acts)
    {event : Event (CommandTask ⊕ τ)} (hextends : Extends headers mode id H H' k event k' acts)
    (hcomplete : ∀ result, .onTaskComplete id result ∉ acts) :
    Stage headers mode H' k' id ∧ ∀ header objects, .request header objects ∈ acts →
      Permitted headers mode H' header objects := by
  cases hstage with
  | fresh htask _ => exact hresumes.select hactive htask hcomplete hextends.selects
  | selecting _ hwait => exact absurd (hready.symm.trans hwait) (by decide)
  | selected _ _ htask hwrite hseq hechoed =>
    exact hresumes.operate hactive htask hwrite hseq (hextends.echoed _ hechoed) hcomplete
  | operating _ hwait => exact absurd (hready.symm.trans hwait) (by decide)

/-- The stage of a task after an event that does not complete it, and the requests that it transmits
in the event. -/
theorem Turns.stage {event : Event (CommandTask ⊕ τ)} (h : Turns env k event k' acts)
    (hstage : Stage headers mode H k id)
    (hextends : Extends headers mode id H H' k event k' acts)
    (hcomplete : ∀ result, .onTaskComplete id result ∉ acts)
    (hoffline : k.activeTask = some id → .setRunnerOffline ∉ acts) :
    Stage headers mode H' k' id ∧ ∀ header objects, k'.activeTask = some id →
      .request header objects ∈ acts → Permitted headers mode H' header objects := by
  have hkeep : ∀ {k₁ : Core (CommandTask ⊕ τ)}, k₁.activeTask = k.activeTask →
      k₁.tstate = k.tstate → k₁.params = k.params → k₁.solSeq = k.solSeq →
      (∀ task, k.taskList[id]? = some task → k₁.taskList[id]? = some task) →
      Stage headers mode H' k₁ id := fun hactive hstate hparams hseq htask =>
    hstage.keep hactive hstate hparams hseq htask hextends.selected hextends.echoed
  have happend : ∀ (new : List (Task (CommandTask ⊕ τ))) task, k.taskList[id]? = some task →
      (k.taskList ++ new)[id]? = some task := fun new task htask =>
    (List.getElem?_append_left (List.getElem?_eq_some_iff.mp htask).1).trans htask
  -- What happens to another task.
  have hapart : k.activeTask ≠ some id → k'.taskList[id]? = k.taskList[id]? →
      k'.activeTask ≠ some id → Stage headers mode H' k' id ∧ ∀ header objects,
        k'.activeTask = some id → .request header objects ∈ acts →
          Permitted headers mode H' header objects :=
    fun hne htask hne' => ⟨hstage.apart hne hne' fun _ h => htask.trans h,
      fun _ _ hactive => absurd hactive hne'⟩
  have hother : ∀ {id₁ : TaskId}, k.activeTask = some id₁ → id₁ ≠ id →
      k'.taskList[id]? = k.taskList[id]? ∧
        (k'.activeTask = k.activeTask ∨ k'.activeTask = none) →
      Stage headers mode H' k' id ∧ ∀ header objects, k'.activeTask = some id →
        .request header objects ∈ acts → Permitted headers mode H' header objects := by
    rintro id₁ hactive hid ⟨htask, hactive'⟩
    have hne : k.activeTask ≠ some id := hactive ▸ fun h => hid (Option.some.inj h)
    refine hapart hne htask ?_
    rcases hactive' with hactive' | hactive'
    · rwa [hactive']
    · rw [hactive']
      exact fun h => by cases h
  cases h with
  | quiet _ =>
    exact ⟨hkeep rfl rfl rfl rfl fun _ h => h, fun _ _ _ h => absurd h List.not_mem_nil⟩
  | rejected _ =>
    exact ⟨hkeep rfl rfl rfl rfl fun _ h => h, fun _ _ _ h => absurd h List.not_mem_nil⟩
  | up _ =>
    refine ⟨hkeep rfl rfl rfl rfl fun _ h => h, ?_⟩
    intro header objects _ hmem
    obtain ⟨task, -, hadd⟩ := List.mem_map.mp hmem
    cases hadd
  | down _ =>
    by_cases hactive : k.activeTask = some id
    · exact absurd (List.mem_singleton_self _) (hoffline hactive)
    · exact hapart hactive rfl fun h => by cases h
  | @answered _ _ _ id₁ _ _ _ _ _ hparse hfunction hwait hseq hactive htask hprocess hfinish =>
    by_cases hid : id₁ = id
    · subst hid
      obtain ⟨hstage', hpermitted⟩ := hstage.answered hparse hfunction hwait hseq hactive htask
        hprocess hfinish hextends hcomplete
      exact ⟨hstage', fun header objects _ => hpermitted header objects⟩
    · obtain ⟨htasks, hactive'⟩ := hfinish.frame hid
      exact hother hactive hid ⟨htasks.trans (List.getElem?_set_ne hid), hactive'⟩
  | @sent id₁ _ _ hready hactive hresume =>
    by_cases hid : id₁ = id
    · subst hid
      obtain ⟨hstage', hpermitted⟩ := hstage.resumed hready hactive hresume hextends hcomplete
      exact ⟨hstage', fun header objects _ => hpermitted header objects⟩
    · exact hother hactive hid (hresume.frame hid)
  | @timedOut id₁ hwait hactive =>
    by_cases hid : id₁ = id
    · subst hid
      exact absurd (List.mem_cons_self ..) (hcomplete _)
    · exact hother hactive hid ⟨rfl, .inr rfl⟩
  | @waits id₁ _ hidle htask =>
    have hne : k.activeTask ≠ some id := hidle ▸ nofun
    by_cases hid : id₁ = id
    · subst hid
      have hlt := (List.getElem?_eq_some_iff.mp htask).1
      obtain rfl := Option.some.inj (htask.symm.trans (hstage.task_of_ne hne))
      exact ⟨.fresh (List.getElem?_set_self hlt) fun _ => rfl, nofun⟩
    · exact hapart hne (List.getElem?_set_ne hid) fun h => hid (Option.some.inj h)
  | @runs id₁ _ _ _ hidle htask hresume =>
    have hne : k.activeTask ≠ some id := hidle ▸ nofun
    by_cases hid : id₁ = id
    · subst hid
      have hlt := (List.getElem?_eq_some_iff.mp htask).1
      obtain rfl := Option.some.inj (htask.symm.trans (hstage.task_of_ne hne))
      obtain ⟨hstage', hpermitted⟩ := hresume.select rfl (List.getElem?_set_self hlt) hcomplete
        hextends.selects
      exact ⟨hstage', fun header objects _ => hpermitted header objects⟩
    · obtain ⟨htasks, hactive'⟩ := hresume.frame hid
      refine hapart hne (htasks.trans (List.getElem?_set_ne hid)) ?_
      rcases hactive' with hactive' | hactive'
      · rw [hactive']
        exact fun h => hid (Option.some.inj h)
      · rw [hactive']
        exact nofun
  | recurring =>
    refine ⟨hkeep rfl rfl rfl rfl (happend _), ?_⟩
    intro header objects _ hmem
    split_ifs at hmem <;> simp at hmem
  | adhoc =>
    refine ⟨hkeep rfl rfl rfl rfl (happend _), ?_⟩
    intro header objects _ hmem
    split_ifs at hmem <;> simp at hmem

/-- A task that is resumed does not end the session. -/
theorem Resumes.not_offline {id₁ : TaskId} (h : Resumes env id₁ k k' acts) :
    .setRunnerOffline ∉ acts := by
  cases h with
  | failed _ _ => simp
  | sent _ _ => simp

/-- Nor does a response. -/
theorem Finishes.not_offline {id₁ : TaskId} {result : ResponseResult}
    (h : Finishes env id₁ k result k' acts) : .setRunnerOffline ∉ acts := by
  cases h with
  | repeats hresumes => exact hresumes.not_offline
  | _ => simp

/-- The scheduler is told the end of a session. -/
theorem Turns.isOnline_of_mem {event : Event (CommandTask ⊕ τ)} (h : Turns env k event k' acts)
    (hmem : .setRunnerOffline ∈ acts) : k'.isOnline = false := by
  cases h with
  | quiet _ => cases hmem
  | rejected _ => cases hmem
  | up _ => simp at hmem
  | down _ => rfl
  | answered _ _ _ _ _ _ _ hfinish => exact absurd hmem hfinish.not_offline
  | sent _ _ hresume => exact absurd hmem hresume.not_offline
  | timedOut _ _ => simp at hmem
  | waits _ _ => cases hmem
  | runs _ _ hresume => exact absurd hmem hresume.not_offline
  | recurring => split_ifs at hmem <;> simp at hmem
  | adhoc => split_ifs at hmem <;> simp at hmem

end Stages

end OpenDnp3.Master
