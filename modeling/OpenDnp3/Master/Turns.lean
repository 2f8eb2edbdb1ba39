import OpenDnp3.Master.ContextSpec

/-!
# The turns of a master

What an event does to the task of a master, as a relation on a few of its fields (`Turns`), and the
invariant of a session that carries it (`Session`): a task is active in every state but `IDLE`, and
the response timer runs exactly while a response is waited for. The buffer is not written while it
is being sent (`sending`).
-/

namespace OpenDnp3.Master

open App
open Outstation (IINField)

/-! ## Outputs -/

namespace Output

/-- The output transmits a request, completes a task or calls the scheduler for one. -/
def isAct : Output → Bool
  | .request _ _ | .onTaskComplete _ _ | .add _ | .setRunnerOffline | .completeCurrentFor => true
  | _ => false

/-- The output calls `BeginTransmit`. -/
def transmits : Output → Bool
  | .request _ _ | .confirm _ => true
  | _ => false

/-- The output follows a write to `txBuffer`: of a confirm, of a request, or of what the task could
not complete. -/
def writes : Output → Bool
  | .onTaskComplete _ result => result = .FAILURE_MESSAGE_FORMAT_ERROR
  | output => output.transmits

end Output

/-- Follows `isSending` over the outputs. There is no result where the buffer is written, or a
message transmitted, while an earlier one is still being sent. -/
def sending : Bool → List Output → Option Bool
  | busy, [] => some busy
  | busy, output :: rest =>
    if output.writes then if busy then none else sending output.transmits rest
    else sending busy rest

/-- The flag follows the outputs one after the other. -/
theorem sending_append (busy : Bool) (out out' : List Output) :
    sending busy (out ++ out') = (sending busy out).bind fun busy' => sending busy' out' := by
  induction out generalizing busy with
  | nil => rfl
  | cons output rest ih =>
    rw [List.cons_append, sending, sending]
    split_ifs
    · rfl
    · exact ih _
    · exact ih _

/-- Outputs that do not write to the buffer leave the flag. -/
theorem sending_of_not_writes {out : List Output} (h : ∀ output ∈ out, output.writes = false)
    (busy : Bool) : sending busy out = some busy := by
  induction out with
  | nil => rfl
  | cons output rest ih =>
    rw [sending, h output (List.mem_cons_self ..), if_neg Bool.false_ne_true]
    exact ih fun o ho => h o (List.mem_cons_of_mem _ ho)

/-! ## The fields that the session is about -/

/-- The fields that decide what becomes of the tasks of a master. -/
structure Core (τ : Type*) where
  isOnline : Bool
  params : MasterParams
  tasks : MasterTasks
  activeTask : Option TaskId
  responseTimer : Bool
  solSeq : ℕ
  tstate : TaskState
  taskList : List (Task τ)

namespace Core

variable {τ : Type*}

/-- A task after one of its methods. -/
def setTask (id : TaskId) (task : Task τ) (k : Core τ) : Core τ :=
  { k with taskList := k.taskList.set id task }

/-- What the methods of a task keep stays the same for all tasks. -/
theorem map_setTask {β : Type*} (k : Core τ) (f : Task τ → β) {id : TaskId} {task task' : Task τ}
    (htask : k.taskList[id]? = some task) (h : f task' = f task) :
    (k.setTask id task').taskList.map f = k.taskList.map f := by
  obtain ⟨hid, rfl⟩ := List.getElem?_eq_some_iff.mp htask
  have hlt : id < (k.taskList.map f).length := by simpa using hid
  have hmap : (k.taskList.map f)[id] = f k.taskList[id] := List.getElem_map ..
  rw [setTask, List.map_set, h, ← hmap, List.set_getElem_self]

/-- `MContext::CompleteActiveTask` and the state `IDLE`. -/
def idle (k : Core τ) : Core τ := { k with activeTask := none, tstate := .IDLE }

/-- The task waits for the end of a transmission. -/
def ready (k : Core τ) : Core τ := { k with tstate := .TASK_READY }

/-- The request of the task is transmitted. -/
def await (k : Core τ) : Core τ := { k with responseTimer := true, tstate := .WAIT_FOR_RESPONSE }

/-- The response or its timeout: the sequence number goes up, and the timer stops. -/
def answer (k : Core τ) : Core τ := { k with responseTimer := false, solSeq := nextSeq k.solSeq }

end Core

/-- The scheduler calls `Run`. -/
def Event.isRun {τ : Type*} : Event τ → Bool
  | .run _ => true
  | _ => false

section Turns

variable {τ : Type*} [IMasterTask τ]

/-- `MContext::ResumeActiveTask` transmits the request of the task, or completes the task. -/
inductive Resumes (env : Env) (id : TaskId) (k : Core τ) : Core τ → List Output → Prop where
  | failed {task task' : Task τ} (htask : k.taskList[id]? = some task)
      (hbuild : task.buildRequest env (k.params.maxTxFragSize - 2) k.solSeq = (none, task')) :
      Resumes env id k (k.setTask id task').idle
        [.onTaskComplete id .FAILURE_MESSAGE_FORMAT_ERROR, .completeCurrentFor]
  | sent {task task' : Task τ} {header : APDUHeader} {objects : List UInt8}
      (htask : k.taskList[id]? = some task)
      (hbuild : task.buildRequest env (k.params.maxTxFragSize - 2) k.solSeq =
        (some (header, objects), task')) :
      Resumes env id k (k.setTask id task').await [.request header objects]

/-- A task that is resumed is no longer ready. -/
theorem Resumes.tstate_ne {env : Env} {id : TaskId} {k k' : Core τ} {acts : List Output}
    (h : Resumes env id k k' acts) : k'.tstate ≠ .TASK_READY := by
  cases h with
  | failed _ _ => exact nofun
  | sent _ _ => exact nofun

/-- A task that is resumed leaves the session. -/
theorem Resumes.isOnline_eq {env : Env} {id : TaskId} {k k' : Core τ} {acts : List Output}
    (h : Resumes env id k k' acts) : k'.isOnline = k.isOnline := by
  cases h with
  | failed _ _ => rfl
  | sent _ _ => rfl

/-- What follows from the result of `IMasterTask::ProcessResponse`. -/
inductive Finishes (env : Env) (id : TaskId) (k : Core τ) :
    ResponseResult → Core τ → List Output → Prop where
  | bad : Finishes env id k .ERROR_BAD_RESPONSE k.idle
      [.onTaskComplete id .FAILURE_BAD_RESPONSE, .completeCurrentFor]
  | final : Finishes env id k .OK_FINAL k.idle [.onTaskComplete id .SUCCESS, .completeCurrentFor]
  | continues : Finishes env id k .OK_CONTINUE { k with responseTimer := true } []
  | waits : Finishes env id k .OK_REPEAT k.ready []
  | repeats {k' : Core τ} {acts : List Output} (h : Resumes env id k k' acts) :
      Finishes env id k .OK_REPEAT k' acts

/-- A result leaves the session. -/
theorem Finishes.isOnline_eq {env : Env} {id : TaskId} {k k' : Core τ} {result : ResponseResult}
    {acts : List Output} (h : Finishes env id k result k' acts) : k'.isOnline = k.isOnline := by
  cases h with
  | repeats hresumes => exact hresumes.isOnline_eq
  | _ => rfl

/-- What an event does to the tasks of a master. -/
inductive Turns (env : Env) (k : Core τ) : Event τ → Core τ → List Output → Prop where
  | quiet {event : Event τ} (hevent : event.isRun = false) : Turns env k event k []
  | rejected {id : TaskId}
      (hbusy : k.activeTask ≠ none ∨ k.tstate ≠ .IDLE ∨ k.taskList.length ≤ id) :
      Turns env k (.run id) k []
  | up (hoffline : k.isOnline = false) :
      Turns env k .lowerLayerUp { k with isOnline := true } (k.tasks.all.map .add)
  | down (honline : k.isOnline = true) :
      Turns env k .lowerLayerDown
        { k.idle with
          isOnline := false
          responseTimer := false
          solSeq := 0 } [.setRunnerOffline]
  | answered {message : Message} {header : APDUResponseHeader} {objects : List UInt8}
      {id : TaskId} {task task' : Task τ} {result : ResponseResult} {k' : Core τ}
      {acts : List Output} (hparse : parseResponse message.payload = some (header, objects))
      (hfunction : header.function = .RESPONSE) (hwait : k.tstate = .WAIT_FOR_RESPONSE)
      (hseq : header.control.seq = k.solSeq) (hactive : k.activeTask = some id)
      (htask : k.taskList[id]? = some task)
      (hprocess : task.processResponse env header objects = (result, task'))
      (hfinish : Finishes env id (k.answer.setTask id task') result k' acts) :
      Turns env k (.receive message) k' acts
  | sent {id : TaskId} {k' : Core τ} {acts : List Output} (hready : k.tstate = .TASK_READY)
      (hactive : k.activeTask = some id) (hresume : Resumes env id k k' acts) :
      Turns env k .txReady k' acts
  | timedOut {id : TaskId} (hwait : k.tstate = .WAIT_FOR_RESPONSE)
      (hactive : k.activeTask = some id) :
      Turns env k .responseTimeout k.answer.idle
        [.onTaskComplete id .FAILURE_RESPONSE_TIMEOUT, .completeCurrentFor]
  | waits {id : TaskId} {task : Task τ} (hidle : k.activeTask = none)
      (htask : k.taskList[id]? = some task) :
      Turns env k (.run id)
        { (k.setTask id task.initializeTask).ready with activeTask := some id } []
  | runs {id : TaskId} {task : Task τ} {k' : Core τ} {acts : List Output}
      (hidle : k.activeTask = none) (htask : k.taskList[id]? = some task)
      (hresume : Resumes env id
        { (k.setTask id task.initializeTask).ready with activeTask := some id } k' acts) :
      Turns env k (.run id) k' acts
  | recurring {object : TaskObject τ} :
      Turns env k (.scheduleRecurringPollTask object)
        { k with
          tasks := { k.tasks with boundTasks := k.tasks.boundTasks ++ [k.taskList.length] }
          taskList := k.taskList ++ [object.task] }
        (if k.isOnline then [.add k.taskList.length] else [])
  | adhoc {object : TaskObject τ} :
      Turns env k (.scheduleAdhocTask object)
        { k with taskList := k.taskList ++ [object.task] }
        [if k.isOnline then .add k.taskList.length
          else .onTaskComplete k.taskList.length .FAILURE_NO_COMMS]

/-- A message leaves the session. -/
theorem Turns.isOnline_eq {env : Env} {message : Message} {k k' : Core τ} {acts : List Output}
    (h : Turns env k (.receive message) k' acts) : k'.isOnline = k.isOnline := by
  cases h with
  | quiet _ => rfl
  | answered _ _ _ _ _ _ _ hfinish => exact hfinish.isOnline_eq

end Turns

/-- The invariant of a session: a task is active exactly in the states other than `IDLE`, it waits
there for the end of a transmission or for the response, and there is neither task nor transmission
without a session. -/
structure Session {τ : Type*} (k : Core τ) (isSending : Bool) : Prop where
  active : k.activeTask.isSome = true ↔ k.tstate ≠ .IDLE
  ready : k.tstate = .TASK_READY → isSending = true
  timer : k.responseTimer = true ↔ k.tstate = .WAIT_FOR_RESPONSE
  online : k.isOnline = false → k.activeTask = none ∧ isSending = false
  valid : ∀ id, k.activeTask = some id → id < k.taskList.length

section Sessions

variable {τ : Type*} [IMasterTask τ]

omit [IMasterTask τ] in
/-- A session without an active task. -/
theorem Session.of_idle {k : Core τ} {isSending : Bool} (hactive : k.activeTask = none)
    (hstate : k.tstate = .IDLE) (htimer : k.responseTimer = false)
    (honline : k.isOnline = false → isSending = false) : Session k isSending where
  active := by simp [hactive, hstate]
  ready h := by rw [hstate] at h; cases h
  timer := by simp [htimer, hstate]
  online h := ⟨hactive, honline h⟩
  valid id h := by rw [hactive] at h; cases h

omit [IMasterTask τ] in
/-- A session that waits for a response. -/
theorem Session.of_wait {k : Core τ} {id : TaskId} (hactive : k.activeTask = some id)
    (hstate : k.tstate = .WAIT_FOR_RESPONSE) (htimer : k.responseTimer = true)
    (honline : k.isOnline = true) (hid : id < k.taskList.length) (isSending : Bool) :
    Session k isSending where
  active := by simp [hactive, hstate]
  ready h := by rw [hstate] at h; cases h
  timer := by simp [htimer, hstate]
  online h := absurd (honline.symm.trans h) (by decide)
  valid id' h := by
    obtain rfl := Option.some.inj (hactive.symm.trans h)
    exact hid

omit [IMasterTask τ] in
/-- A session whose task waits for the end of a transmission. -/
theorem Session.of_ready {k : Core τ} {id : TaskId} {isSending : Bool}
    (hactive : k.activeTask = some id) (hstate : k.tstate = .TASK_READY)
    (htimer : k.responseTimer = false) (honline : k.isOnline = true)
    (hid : id < k.taskList.length) (hsending : isSending = true) : Session k isSending where
  active := by simp [hactive, hstate]
  ready _ := hsending
  timer := by simp [htimer, hstate]
  online h := absurd (honline.symm.trans h) (by decide)
  valid id' h := by
    obtain rfl := Option.some.inj (hactive.symm.trans h)
    exact hid

/-- A task that is resumed keeps the invariant of the session. -/
theorem Resumes.session {env : Env} {id : TaskId} {k k' : Core τ} {acts : List Output}
    (h : Resumes env id k k' acts) (hactive : k.activeTask = some id)
    (htimer : k.responseTimer = false) (honline : k.isOnline = true) (isSending : Bool) :
    Session k' isSending := by
  cases h with
  | failed _ _ => exact .of_idle rfl rfl htimer fun h => absurd (honline.symm.trans h) (by decide)
  | @sent _ task' _ _ htask _ =>
    have hid := (List.getElem?_eq_some_iff.mp htask).1
    exact Session.of_wait (k := (k.setTask id task').await) hactive rfl rfl honline
      (by simpa [Core.await, Core.setTask] using hid) _

/-- So does a result. -/
theorem Finishes.session {env : Env} {id : TaskId} {k k' : Core τ} {result : ResponseResult}
    {acts : List Output} (h : Finishes env id k result k' acts) (hactive : k.activeTask = some id)
    (hid : id < k.taskList.length) (htimer : k.responseTimer = false)
    (hwait : k.tstate = .WAIT_FOR_RESPONSE) (honline : k.isOnline = true) {isSending : Bool}
    (hready : k'.tstate = .TASK_READY → isSending = true) : Session k' isSending := by
  have hlost : k.isOnline = false → isSending = false := fun h =>
    absurd (honline.symm.trans h) (by decide)
  cases h with
  | bad => exact .of_idle rfl rfl htimer hlost
  | final => exact .of_idle rfl rfl htimer hlost
  | continues =>
    exact Session.of_wait (k := { k with responseTimer := true }) hactive hwait rfl honline hid _
  | waits => exact .of_ready hactive rfl htimer honline hid (hready rfl)
  | repeats hresumes => exact hresumes.session hactive htimer honline _

omit [IMasterTask τ] in
/-- A task is active in a session only. -/
theorem Session.isOnline_of_active {k : Core τ} {isSending : Bool} (h : Session k isSending)
    {id : TaskId} (hactive : k.activeTask = some id) : k.isOnline = true := by
  by_contra hne
  rw [(h.online (by simpa using hne)).1] at hactive
  cases hactive

omit [IMasterTask τ] in
/-- The response timer runs for an active task only. -/
theorem Session.responseTimer_of_none {k : Core τ} {isSending : Bool} (h : Session k isSending)
    (hidle : k.activeTask = none) : k.responseTimer = false := by
  by_contra htimer
  have hwait := h.timer.mp (by simpa using htimer)
  have hactive := h.active.mpr (by rw [hwait]; decide)
  rw [hidle] at hactive
  cases hactive

/-- The invariant of a session is kept. -/
theorem Turns.session {env : Env} {event : Event τ} {k k' : Core τ} {acts : List Output}
    (h : Turns env k event k' acts) {isSending isSending' : Bool} (hs : Session k isSending)
    (hrun : ∀ id, event = .run id → k.isOnline = true)
    (hready : k'.tstate = .TASK_READY → isSending' = true)
    (hoffline : k'.isOnline = false → isSending' = false) : Session k' isSending' := by
  cases h with
  | quiet _ =>
    exact ⟨hs.active, hready, hs.timer, fun h => ⟨(hs.online h).1, hoffline h⟩, hs.valid⟩
  | rejected _ =>
    exact ⟨hs.active, hready, hs.timer, fun h => ⟨(hs.online h).1, hoffline h⟩, hs.valid⟩
  | up _ =>
    exact ⟨hs.active, hready, hs.timer, fun h => Bool.noConfusion h, hs.valid⟩
  | down _ => exact .of_idle rfl rfl rfl hoffline
  | answered _ _ hwait _ hactive htask _ hfinish =>
    have hid := (List.getElem?_eq_some_iff.mp htask).1
    exact hfinish.session hactive (by simpa [Core.answer, Core.setTask] using hid) rfl hwait
      (hs.isOnline_of_active hactive) hready
  | sent hready' hactive hresume =>
    refine hresume.session hactive ?_ (hs.isOnline_of_active hactive) _
    by_contra htimer
    rw [hs.timer.mp (by simpa using htimer)] at hready'
    cases hready'
  | timedOut _ hactive => exact .of_idle rfl rfl rfl hoffline
  | waits hidle htask =>
    have hid := (List.getElem?_eq_some_iff.mp htask).1
    exact .of_ready rfl rfl (hs.responseTimer_of_none hidle) (hrun _ rfl)
      (by simpa [Core.ready, Core.setTask] using hid) (hready rfl)
  | runs hidle htask hresume =>
    exact hresume.session rfl (hs.responseTimer_of_none hidle) (hrun _ rfl) _
  | recurring =>
    refine ⟨hs.active, hready, hs.timer, fun h => ⟨(hs.online h).1, hoffline h⟩, fun id hid => ?_⟩
    exact (hs.valid id hid).trans_le (by simp)
  | adhoc =>
    refine ⟨hs.active, hready, hs.timer, fun h => ⟨(hs.online h).1, hoffline h⟩, fun id hid => ?_⟩
    exact (hs.valid id hid).trans_le (by simp)

end Sessions

namespace MContext

variable {τ : Type*}

/-- The fields of the master that decide what becomes of its tasks. -/
def core (c : MContext τ) : Core τ where
  isOnline := c.isOnline
  params := c.params
  tasks := c.tasks
  activeTask := c.activeTask
  responseTimer := c.responseTimer
  solSeq := c.solSeq
  tstate := c.tstate
  taskList := c.objects.map TaskObject.task

/-- The tasks of the fields are those of the objects. -/
theorem core_getElem? {c : MContext τ} {id : TaskId} {object : TaskObject τ}
    (h : c.objects[id]? = some object) : c.core.taskList[id]? = some object.task := by
  rw [core, List.getElem?_map, h, Option.map_some]

/-- A task of the fields is one of an object. -/
theorem exists_object {c : MContext τ} {id : TaskId} {task : Task τ}
    (h : c.core.taskList[id]? = some task) :
    ∃ object, c.objects[id]? = some object ∧ object.task = task := by
  rw [core, List.getElem?_map] at h
  exact Option.map_eq_some_iff.mp h

end MContext

end OpenDnp3.Master
