import OpenDnp3.App.ParserSpec
import OpenDnp3.Master.Confirms
import OpenDnp3.Master.Session

/-!
# The executions of a master

A recorder notes every execution of a task by a master: the request, the response fragments whose
measurements are handed over, and how the execution ends. What it notes of a step is among the acts
of the master (`Turns`), and its reports.
-/

namespace OpenDnp3.Master

open App
open MeasurementHandler (processMeasurements)

/-! ## Executions -/

/-- How an execution ends. -/
inductive Ending where
  | completed (result : TaskCompletion)
  | sessionClosed
  deriving DecidableEq, Repr

/-- An execution of a task. -/
structure Execution where
  task : TaskId
  /-- The SEQ of the request. -/
  request : Option ℕ := none
  /-- The response fragments whose measurements were handed over. -/
  fragments : List (APDUResponseHeader × List UInt8) := []
  ending : Option Ending := none
  deriving DecidableEq, Repr

/-! ## The recorder -/

namespace Output

/-- The SEQ of the request that the output transmits. -/
def requested : Output → Option ℕ
  | .request header _ => some header.control.seq
  | _ => none

/-- The output hands over measurements that the parser accepts. -/
def handsOver : Output → Bool
  | .measurements _ .OK _ => true
  | _ => false

/-- The result with which the output completes the task. -/
def result (task : TaskId) : Output → Option TaskCompletion
  | .onTaskComplete id result => if id = task then some result else none
  | _ => none

end Output

section Recorder

variable {τ : Type*}

/-- The fragment of a solicited response. -/
def Event.fragment : Event τ → Option (APDUResponseHeader × List UInt8)
  | .receive message =>
    (parseResponse message.payload).filter fun fragment => fragment.1.function = .RESPONSE
  | _ => none

/-- A master with its executions, the latest one first. -/
structure Recorder (τ : Type*) where
  context : MContext τ
  executions : List Execution := []

namespace MContext

/-- The task that is started by a call of `Run` that returns `true`. -/
def started (c : MContext τ) : Event τ → Option TaskId
  | .run id =>
    if c.activeTask = none ∧ c.tstate = .IDLE ∧ id < c.objects.length then some id else none
  | _ => none

variable [IMasterTask τ]

/-- The fragment that an event hands over for the active task. -/
def handedOver (c : MContext τ) (e : Env × Event τ) : Option (APDUResponseHeader × List UInt8) :=
  if (c.outputs e).any Output.handsOver then e.2.fragment else none

/-- How an event ends the execution of the task. -/
def ending (c : MContext τ) (e : Env × Event τ) (task : TaskId) : Option Ending :=
  if Closes c e then some .sessionClosed
  else ((c.outputs e).findSome? (Output.result task)).map .completed

end MContext

variable [IMasterTask τ]

/-- An execution in progress after an event. -/
def Execution.record (c : MContext τ) (e : Env × Event τ) (x : Execution) : Execution where
  task := x.task
  request := ((c.outputs e).findSome? Output.requested).or x.request
  fragments := x.fragments ++ (c.handedOver e).toList
  ending := c.ending e x.task

namespace Recorder

/-- The executions that are known while an event goes on. -/
def known (r : Recorder τ) (event : Event τ) : List Execution :=
  (r.context.started event).elim r.executions fun task => { task } :: r.executions

/-- One event, with a note of what it means to the execution in progress. -/
def step (r : Recorder τ) (e : Env × Event τ) : Recorder τ where
  context := r.context.step e
  executions :=
    match r.known e.2 with
    | [] => []
    | x :: xs => (if x.ending = none then x.record r.context e else x) :: xs

end Recorder

end Recorder

/-! ## Polls -/

section Polls

variable {τ : Type*}

/-- The task is a poll. -/
def Task.isPoll : Task τ → Bool
  | poll _ => true
  | other _ => false

/-- Which tasks of a master are polls. -/
def Core.polls (k : Core τ) : List Bool := k.taskList.map Task.isPoll

/-- The task with this number is a poll. -/
def Core.IsPoll (k : Core τ) (id : TaskId) : Prop := k.polls[id]? = some true

/-- A task is a poll where it is one of the polls of the master. -/
theorem Core.isPoll_iff {k : Core τ} {id : TaskId} :
    k.IsPoll id ↔ ∃ task, k.taskList[id]? = some (.poll task) := by
  unfold Core.IsPoll Core.polls
  rw [List.getElem?_map, Option.map_eq_some_iff]
  constructor
  · rintro ⟨task, htask, hpoll⟩
    cases task with
    | poll task => exact ⟨task, htask⟩
    | other task => cases hpoll
  · rintro ⟨task, htask⟩
    exact ⟨.poll task, htask, rfl⟩

/-- Every task is a poll or it is none. -/
theorem Core.length_polls (k : Core τ) : k.polls.length = k.taskList.length := List.length_map ..

/-- The tasks keep their kinds when one of them comes back from one of its methods. -/
theorem polls_setTask {k : Core τ} {id : TaskId} {task task' : Task τ}
    (htask : k.taskList[id]? = some task) (hpoll : task'.isPoll = task.isPoll) :
    (k.setTask id task').polls = k.polls := k.map_setTask Task.isPoll htask hpoll

variable [IMasterTask τ]

/-- A task that is initialized stays a poll. -/
theorem Task.isPoll_initializeTask (task : Task τ) : task.initializeTask.isPoll = task.isPoll := by
  cases task <;> rfl

/-- A task that builds its request stays a poll. -/
theorem Task.isPoll_buildRequest (env : Env) (space seq : ℕ) (task : Task τ) :
    (task.buildRequest env space seq).2.isPoll = task.isPoll := by
  cases task <;> rfl

/-- A task that processes a response stays a poll. -/
theorem Task.isPoll_processResponse (env : Env) (header : APDUResponseHeader)
    (objects : List UInt8) (task : Task τ) :
    (task.processResponse env header objects).2.isPoll = task.isPoll := by
  cases task <;> rfl

/-- A task that is resumed leaves the polls. -/
theorem Resumes.polls_eq {env : Env} {id : TaskId} {k k' : Core τ} {acts : List Output}
    (h : Resumes env id k k' acts) : k'.polls = k.polls := by
  cases h with
  | @failed task task' htask hbuild =>
    have hpoll := task.isPoll_buildRequest env (k.params.maxTxFragSize - 2) k.solSeq
    rw [hbuild] at hpoll
    exact polls_setTask htask hpoll
  | @sent task task' header objects htask hbuild =>
    have hpoll := task.isPoll_buildRequest env (k.params.maxTxFragSize - 2) k.solSeq
    rw [hbuild] at hpoll
    exact polls_setTask htask hpoll

/-- A response leaves the polls. -/
theorem Finishes.polls_eq {env : Env} {id : TaskId} {k k' : Core τ} {result : ResponseResult}
    {acts : List Output} (h : Finishes env id k result k' acts) : k'.polls = k.polls := by
  cases h with
  | repeats hresumes => exact hresumes.polls_eq
  | _ => rfl

/-- Tasks are only added. -/
theorem Turns.polls_prefix {env : Env} {event : Event τ} {k k' : Core τ} {acts : List Output}
    (h : Turns env k event k' acts) : k.polls <+: k'.polls := by
  cases h with
  | @answered _ header objects _ task _ _ _ _ _ _ _ _ _ htask hprocess hfinish =>
    have hpoll := task.isPoll_processResponse env header objects
    rw [hprocess] at hpoll
    exact (hfinish.polls_eq.trans (polls_setTask htask hpoll)).symm ▸ List.prefix_refl _
  | sent _ _ hresume => exact hresume.polls_eq ▸ List.prefix_refl _
  | waits _ htask =>
    exact (polls_setTask htask (Task.isPoll_initializeTask _)).symm ▸ List.prefix_refl _
  | runs _ htask hresume =>
    refine (hresume.polls_eq.trans ?_).symm ▸ List.prefix_refl _
    exact polls_setTask htask (Task.isPoll_initializeTask _)
  | recurring | adhoc =>
    unfold Core.polls
    rw [List.map_append]
    exact List.prefix_append ..
  | _ => exact List.prefix_refl _

/-! ## Sequence numbers -/

/-- A request leaves the sequence number. -/
theorem Resumes.solSeq_eq {env : Env} {id : TaskId} {k k' : Core τ} {acts : List Output}
    (h : Resumes env id k k' acts) : k'.solSeq = k.solSeq := by
  cases h <;> rfl

/-- A result leaves the sequence number. -/
theorem Finishes.solSeq_eq {env : Env} {id : TaskId} {k k' : Core τ} {result : ResponseResult}
    {acts : List Output} (h : Finishes env id k result k' acts) : k'.solSeq = k.solSeq := by
  cases h with
  | repeats hresumes => exact hresumes.solSeq_eq
  | _ => rfl

/-- The sequence number stays one of four bits. -/
theorem Turns.solSeq_lt {env : Env} {event : Event τ} {k k' : Core τ} {acts : List Output}
    (h : Turns env k event k' acts) (hseq : k.solSeq < 16) : k'.solSeq < 16 := by
  have hnext : nextSeq k.solSeq < 16 := Nat.mod_lt _ (by decide)
  cases h with
  | answered _ _ _ _ _ _ _ hfinish => exact hfinish.solSeq_eq ▸ hnext
  | sent _ _ hresume => exact hresume.solSeq_eq ▸ hseq
  | runs _ _ hresume => exact hresume.solSeq_eq ▸ hseq
  | timedOut _ _ => exact hnext
  | down _ => exact Nat.succ_pos 15
  | _ => exact hseq

end Polls

/-! ## Solicited responses -/

/-- No measurements of a response that the parser refuses are handed over. -/
theorem processMeasurements_of_refused {objects : List UInt8}
    (h : (processMeasurements objects).1 ≠ .OK) : (processMeasurements objects).2 = [] := by
  have hallows : APDUParser.AllowsBy MeasurementHandler.handler fun _ _ => true :=
    fun _ _ _ _ => rfl
  show (APDUParser.parse MeasurementHandler.handler {} objects {}).2.state.destroy = []
  rw [hallows.parse_refused {} objects {} h]
  rfl

namespace MContext

variable {τ : Type*}

/-- The active task waits for this response. -/
structure Awaits (c : MContext τ) (message : Message) (header : APDUResponseHeader)
    (objects : List UInt8) : Prop where
  accepted : c.accepted message = some (header, objects)
  function : header.function = .RESPONSE
  tstate : c.tstate = .WAIT_FOR_RESPONSE
  seq : header.control.seq = c.solSeq

variable [IMasterTask τ] {c : MContext τ} {message : Message} {header : APDUResponseHeader}
  {objects : List UInt8}

omit [IMasterTask τ] in
/-- The response is for the active task. -/
theorem Awaits.answering (h : c.Awaits message header objects) {id : TaskId}
    {object : TaskObject τ} (hactive : c.activeTask = some id)
    (hobject : c.objects[id]? = some object) : c.answering header = some object := by
  unfold MContext.answering
  rw [if_pos ⟨h.tstate, h.seq⟩, hactive, Option.bind_some, hobject]

/-- Any other message leaves the tasks alone. -/
theorem acts_onReceive (env : Env)
    (h : ∀ header objects, ¬c.Awaits message header objects) :
    Acts c (c.onReceive env message) c.core [] := by
  rw [onReceive_eq]
  cases haccepted : c.accepted message with
  | none => exact .refl c
  | some response =>
    obtain ⟨header, objects⟩ := response
    show Acts c (c.processAPDU env header objects) c.core []
    unfold processAPDU
    split
    case h_1 => exact acts_processUnsolicitedResponse header objects c
    case h_2 hfunction =>
      have hsame : c.processResponse env header objects = c.processIIN header.IIN := by
        unfold processResponse
        by_cases hwait : c.tstate = .WAIT_FOR_RESPONSE
        · have hseq : header.control.seq ≠ c.solSeq := fun hseq =>
            h header objects ⟨haccepted, hfunction, hwait, hseq⟩
          rw [if_pos hwait, onResponseWaitForResponse, if_pos hseq]
        · rw [if_neg hwait]
      rw [hsame]
      exact acts_processIIN ..
    case h_3 => exact .refl c

/-- The active task takes the response. -/
theorem Awaits.acts (h : c.Awaits message header objects) {env : Env} {id : TaskId}
    {object : TaskObject τ} {result : ResponseResult} {task' : Task τ}
    (hactive : c.activeTask = some id) (hobject : c.objects[id]? = some object)
    (hprocess : object.task.processResponse env header objects = (result, task')) :
    ∃ k' acts, Finishes env id (c.core.answer.setTask id task') result k' acts ∧
      Acts c (c.onReceive env message) k' acts := by
  obtain ⟨k', acts, hfinishes, hacts, -⟩ := acts_answer h.tstate h.seq hactive hobject hprocess
  have heq : c.onReceive env message =
      (c.onResponseWaitForResponse env header objects).processIIN header.IIN := by
    rw [onReceive_eq, h.accepted, Option.elim_some]
    simp only [processAPDU, h.function, processResponse, if_pos h.tstate]
  have hiin := acts_processIIN header.IIN (c.onResponseWaitForResponse env header objects)
  rw [hacts.core_eq] at hiin
  rw [heq]
  exact ⟨k', acts, hfinishes, hacts.trans_quiet hiin⟩

/-! ## What the recorder notes -/

/-- A step hands measurements over where it reports them. -/
theorem any_handsOver (c : MContext τ) (e : Env × Event τ) :
    (c.outputs e).any Output.handsOver = (c.reports e.2).any Output.handsOver := by
  rw [← filter_outputs, List.any_filter]
  refine congrArg _ (funext fun output => ?_)
  cases output <;> rfl

omit [IMasterTask τ] in
/-- Measurements are handed over where they parse. -/
theorem handsOver_delivery (objects : List UInt8) :
    (delivery objects).handsOver = ((processMeasurements objects).1 = .OK : Bool) := by
  unfold delivery
  generalize (processMeasurements objects).1 = result
  cases result <;> rfl

omit [IMasterTask τ] in
/-- The fragment of a response that is received. -/
theorem fragment_receive (h : parseResponse message.payload = some (header, objects)) :
    (Event.receive message : Event τ).fragment =
      if header.function = .RESPONSE then some (header, objects) else none := by
  show (parseResponse message.payload).filter _ = _
  rw [h]
  by_cases hfunction : header.function = .RESPONSE <;> simp [hfunction]

/-- No other message hands over a fragment. -/
theorem handedOver_of_not_awaits (env : Env)
    (h : ∀ header objects, ¬c.Awaits message header objects) :
    c.handedOver (env, .receive message) = none := by
  unfold handedOver
  rw [any_handsOver]
  cases haccepted : c.accepted message with
  | none => simp [reports, haccepted]
  | some response =>
    obtain ⟨header, objects⟩ := response
    rw [reports_receive haccepted, fragment_receive (accepted_eq_some haccepted).2]
    by_cases hfunction : header.function = .RESPONSE
    · have hanswering : c.answering header = none := by
        unfold answering
        exact if_neg fun hwait => h header objects ⟨haccepted, hfunction, hwait.1, hwait.2⟩
      simp [apduReports, hfunction, hanswering]
    · simp [hfunction]

/-- Only responses hand over fragments. -/
theorem handedOver_of_not_receive (c : MContext τ) {e : Env × Event τ}
    (hreceive : ∀ message, e.2 ≠ .receive message) : c.handedOver e = none := by
  obtain ⟨env, event⟩ := e
  unfold handedOver
  rw [any_handsOver]
  cases event with
  | receive message => exact absurd rfl (hreceive message)
  | _ => rfl

/-- An awaited response is handed over when the task has it parsed, and the parser accepts it. -/
theorem Awaits.handedOver_eq (h : c.Awaits message header objects) (env : Env) {id : TaskId}
    {object : TaskObject τ} (hactive : c.activeTask = some id)
    (hobject : c.objects[id]? = some object) :
    c.handedOver (env, .receive message) =
      if (object.task.measurements header objects).any
          fun parsed => (processMeasurements parsed).1 = .OK
      then some (header, objects) else none := by
  have hreports := apduReports_response h.function (h.answering hactive hobject) objects
  unfold handedOver
  rw [any_handsOver, reports_receive h.accepted, hreports,
    fragment_receive (accepted_eq_some h.accepted).2, if_pos h.function]
  have hany : (solicitedReports object header objects).any Output.handsOver =
      (object.task.measurements header objects).any
        fun parsed => (processMeasurements parsed).1 = .OK := by
    unfold solicitedReports
    rw [List.any_append, List.any_map]
    have hconfirm : (if header.control.con then
        [Output.queueConfirm (confirmHeader header.control.seq false)] else []).any
          Output.handsOver = false := by
      split_ifs <;> rfl
    rw [hconfirm, Bool.or_false]
    cases object.task.measurements header objects with
    | none => rfl
    | some parsed => simp [handsOver_delivery]
  rw [hany]

/-- The measurements of an awaited response are those that its task has parsed. -/
theorem Awaits.measurements_mem (h : c.Awaits message header objects) {env : Env} {id : TaskId}
    {object : TaskObject τ} (hactive : c.activeTask = some id)
    (hobject : c.objects[id]? = some object) {parsed : List UInt8} {result : ParseResult}
    {soe : List SOECall} (hmem : .measurements parsed result soe ∈
      c.outputs (env, .receive message)) :
    object.task.measurements header objects = some parsed ∧ soe =
      (processMeasurements parsed).2 := by
  rw [mem_outputs_iff rfl, reports_receive h.accepted,
    apduReports_response h.function (h.answering hactive hobject), solicitedReports] at hmem
  rcases List.mem_append.mp hmem with hmem | hmem
  · obtain ⟨parsed', hparsed, hdelivery⟩ := List.mem_map.mp hmem
    obtain ⟨rfl, -, rfl⟩ := Output.measurements.inj hdelivery
    exact ⟨Option.mem_toList.mp hparsed, rfl⟩
  · split_ifs at hmem <;> simp at hmem

omit [IMasterTask τ] in
/-- What is no act says nothing. -/
theorem findSome?_acts {β : Type*} {f : Output → Option β}
    (hf : ∀ output, output.isAct = false → f output = none) (out : List Output) :
    (out.filter Output.isAct).findSome? f = out.findSome? f := by
  rw [← List.head?_filterMap, ← List.head?_filterMap, List.filterMap_filter]
  refine congrArg (fun g => (out.filterMap g).head?) (funext fun output => ?_)
  by_cases hact : output.isAct = true
  · rw [if_pos hact]
  · rw [if_neg hact, hf output (by simpa using hact)]

/-- The requests and the completions are among the acts. -/
theorem outputs_acts {e : Env × Event τ} {k' : Core τ} {acts : List Output}
    (h : Acts (c.starting e.2) (c.step e) k' acts) :
    (c.outputs e).findSome? Output.requested = acts.findSome? Output.requested ∧
      ∀ task, (c.outputs e).findSome? (Output.result task) =
        acts.findSome? (Output.result task) := by
  obtain ⟨out, hlog, rfl, -⟩ := h.exists_out
  have hout : c.outputs e = out := by
    have hstarting : (c.starting e.2).log = c.log := by
      unfold starting
      split <;> rfl
    rw [outputs, hlog, hstarting, List.drop_left]
  rw [hout]
  constructor
  · refine (findSome?_acts (fun output houtput => ?_) out).symm
    cases output <;> first | rfl | cases houtput
  · refine fun task => (findSome?_acts (fun output houtput => ?_) out).symm
    cases output <;> first | rfl | cases houtput

end MContext

end OpenDnp3.Master
