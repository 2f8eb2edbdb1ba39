import Mathlib.Data.List.DropRight
import OpenDnp3.Master.ContextSpec

/-!
# The confirms of the master

Which responses the master confirms, and in which session the confirms go out.
-/

namespace OpenDnp3.Master

open App

namespace MContext

variable {τ : Type*}

/-! ## Confirms of delivered data -/

/-- The active task is a poll. -/
def PollActive (s : MContext τ) : Prop :=
  ∃ id object task, s.activeTask = some id ∧ s.objects[id]? = some object ∧
    object.task = .poll task

/-- A step queues a confirm only for a response that asks for it with the same UNS and SEQ. When the
response is unsolicited or belongs to a poll, its objects were parsed and handed to the application
in that step. -/
def ConfirmsDelivered [IMasterTask τ] (s : MContext τ) (e : Env × Event τ) : Prop :=
  ∀ confirm, .queueConfirm confirm ∈ s.outputs e → ∃ message header objects,
    e.2 = .receive message ∧ parseResponse message.payload = some (header, objects) ∧
      header.control.con = true ∧ header.control.uns = confirm.control.uns ∧
      header.control.seq = confirm.control.seq ∧
      (header.function = .UNSOLICITED_RESPONSE ∨ s.PollActive →
        ∃ soe, .measurements objects .OK soe ∈ s.outputs e)

/-- The task can take the response, when it is a poll: the fragment is the one that the poll expects
and the parser accepts its objects. -/
def Takes (object : TaskObject τ) (header : APDUResponseHeader) (objects : List UInt8) : Prop :=
  ∀ task, object.task = .poll task →
    task.expects header = true ∧ (MeasurementHandler.processMeasurements objects).1 = .OK

/-- The step does not receive the awaited response with CON for a task that cannot take it or with
UNS. -/
def Trustworthy (s : MContext τ) (e : Env × Event τ) : Prop :=
  ∀ message header objects object, e.2 = .receive message →
    s.accepted message = some (header, objects) → header.function = .RESPONSE →
    s.answering header = some object → header.control.con = true →
    header.control.uns = false ∧ Takes object header objects

/-- A message that is accepted is parsed in a session. -/
theorem accepted_eq_some {s : MContext τ} {message : Message}
    {response : APDUResponseHeader × List UInt8} (h : s.accepted message = some response) :
    s.isOnline = true ∧ parseResponse message.payload = some response := by
  unfold accepted at h
  split_ifs at h with hmessage
  exact ⟨hmessage.1, h⟩

/-- The task that a response is for is the active one. -/
theorem answering_eq_some {s : MContext τ} {header : APDUResponseHeader} {object : TaskObject τ}
    (h : s.answering header = some object) :
    ∃ id, s.activeTask = some id ∧ s.objects[id]? = some object := by
  unfold answering at h
  split_ifs at h
  exact Option.bind_eq_some_iff.mp h

/-- Measurements that parse are delivered. -/
theorem delivery_of_ok {objects : List UInt8}
    (h : (MeasurementHandler.processMeasurements objects).1 = .OK) :
    delivery objects =
      .measurements objects .OK (MeasurementHandler.processMeasurements objects).2 := by
  rw [delivery, h]

variable [IMasterTask τ]

/-- A confirm is queued for a processed response, on one of two ways. -/
theorem queueConfirm_mem_reports {s : MContext τ} {event : Event τ} {confirm : APDUHeader}
    (h : .queueConfirm confirm ∈ s.reports event) : ∃ message header objects,
      event = .receive message ∧ s.accepted message = some (header, objects) ∧
        header.control.con = true ∧
        (header.function = .UNSOLICITED_RESPONSE ∧ header.control.uns = true ∧
            (MeasurementHandler.processMeasurements objects).1 = .OK ∧
            confirm = confirmHeader header.control.seq true ∨
          ∃ object, header.function = .RESPONSE ∧ s.answering header = some object ∧
            confirm = confirmHeader header.control.seq false) := by
  cases event with
  | receive message =>
    cases haccepted : s.accepted message with
    | none => simp [reports, haccepted] at h
    | some response =>
      obtain ⟨header, objects⟩ := response
      rw [reports_receive haccepted] at h
      refine ⟨message, header, objects, rfl, haccepted, ?_⟩
      unfold apduReports at h
      split at h
      -- An unsolicited response is confirmed only when its objects were accepted.
      case h_1 hfunction =>
        unfold unsolicitedReports at h
        split_ifs at h <;> simp_all [delivery]
      -- A solicited one whatever the parser says of its objects.
      case h_2 hfunction =>
        cases hanswering : s.answering header with
        | none => simp [hanswering] at h
        | some object =>
          rw [hanswering, Option.elim_some] at h
          unfold solicitedReports at h
          split_ifs at h <;> simp_all [delivery]
      case h_3 => cases h
  | _ => cases h

/-- The objects of a response that reaches the task are delivered with the result of the parser,
when the poll expects the fragment. -/
theorem measurements_mem_solicitedReports {object : TaskObject τ} {task : PollTask}
    (htask : object.task = .poll task) (header : APDUResponseHeader) (objects : List UInt8) :
    (∃ soe, .measurements objects .OK soe ∈ solicitedReports object header objects) ↔
      task.expects header = true ∧ (MeasurementHandler.processMeasurements objects).1 = .OK := by
  unfold solicitedReports
  rw [htask, Task.measurements]
  by_cases hexpects : task.expects header
  · have hcon : ∀ soe, Output.measurements objects .OK soe ∉
        if header.control.con then [Output.queueConfirm (confirmHeader header.control.seq false)]
        else [] := by
      intro soe hmem
      split_ifs at hmem <;> simp at hmem
    rw [if_pos hexpects]
    constructor
    · rintro ⟨soe, hmem⟩
      have hdelivery := List.mem_singleton.mp ((List.mem_append.mp hmem).resolve_right (hcon soe))
      exact ⟨hexpects, (Output.measurements.inj hdelivery).2.1.symm⟩
    · rintro ⟨-, hok⟩
      refine ⟨(MeasurementHandler.processMeasurements objects).2, ?_⟩
      rw [← delivery_of_ok hok]
      exact List.mem_append_left _ (List.mem_singleton.mpr rfl)
  · simp [hexpects]

/-- The objects of an unsolicited response that the parser accepts are delivered. -/
theorem measurements_mem_unsolicited {s : MContext τ} {e : Env × Event τ} {message : Message}
    {header : APDUResponseHeader} {objects : List UInt8} (hevent : e.2 = .receive message)
    (haccepted : s.accepted message = some (header, objects))
    (hfunction : header.function = .UNSOLICITED_RESPONSE) (huns : header.control.uns = true)
    (hok : (MeasurementHandler.processMeasurements objects).1 = .OK) :
    ∃ soe, .measurements objects .OK soe ∈ s.outputs e := by
  refine ⟨(MeasurementHandler.processMeasurements objects).2, ?_⟩
  rw [mem_outputs_iff rfl, hevent, reports_receive haccepted, apduReports, hfunction,
    ← delivery_of_ok hok]
  simp [unsolicitedReports, huns]

/-- The objects of a response that a poll can take are delivered, and no others of a poll. -/
theorem measurements_mem_solicited {s : MContext τ} {e : Env × Event τ} {message : Message}
    {header : APDUResponseHeader} {objects : List UInt8} {object : TaskObject τ} {task : PollTask}
    (hevent : e.2 = .receive message) (haccepted : s.accepted message = some (header, objects))
    (hfunction : header.function = .RESPONSE) (hanswering : s.answering header = some object)
    (htask : object.task = .poll task) :
    (∃ soe, .measurements objects .OK soe ∈ s.outputs e) ↔
      task.expects header = true ∧ (MeasurementHandler.processMeasurements objects).1 = .OK := by
  rw [← measurements_mem_solicitedReports htask]
  refine exists_congr fun soe => ?_
  rw [mem_outputs_iff rfl, hevent, reports_receive haccepted,
    apduReports_response hfunction hanswering]

/-- A step confirms what it has delivered exactly where it is trustworthy. -/
theorem confirmsDelivered_iff (s : MContext τ) (e : Env × Event τ) :
    ConfirmsDelivered s e ↔ Trustworthy s e := by
  constructor
  · intro hconfirms message header objects object hevent haccepted hfunction hanswering hcon
    have hqueued : .queueConfirm (confirmHeader header.control.seq false) ∈ s.outputs e := by
      rw [mem_outputs_iff rfl, hevent, reports_receive haccepted,
        apduReports_response hfunction hanswering]
      simp [solicitedReports, hcon]
    obtain ⟨message', header', objects', hevent', hparsed, -, huns, -, hdelivered⟩ :=
      hconfirms _ hqueued
    -- The response that the confirm answers is the one received.
    obtain rfl : message = message' := Event.receive.inj (hevent.symm.trans hevent')
    obtain ⟨rfl, rfl⟩ : header = header' ∧ objects = objects' := by
      simpa [(accepted_eq_some haccepted).2] using hparsed
    refine ⟨huns, fun task htask => ?_⟩
    obtain ⟨id, hactive, hobject⟩ := answering_eq_some hanswering
    exact (measurements_mem_solicited hevent haccepted hfunction hanswering htask).mp
      (hdelivered (.inr ⟨id, object, task, hactive, hobject, htask⟩))
  · intro htrust confirm hqueued
    obtain ⟨message, header, objects, hevent, haccepted, hcon, hway⟩ :=
      queueConfirm_mem_reports ((mem_outputs_iff rfl s e).mp hqueued)
    refine ⟨message, header, objects, hevent, (accepted_eq_some haccepted).2, hcon, ?_⟩
    rcases hway with ⟨hfunction, huns, hok, rfl⟩ | ⟨object, hfunction, hanswering, rfl⟩
    · exact ⟨huns, rfl, fun _ =>
        measurements_mem_unsolicited hevent haccepted hfunction huns hok⟩
    · obtain ⟨huns, htakes⟩ :=
        htrust message header objects object hevent haccepted hfunction hanswering hcon
      refine ⟨huns, rfl, fun hpoll => ?_⟩
      rcases hpoll with hunsolicited | ⟨id, object', task, hactive, hobject, htask⟩
      · rw [hfunction] at hunsolicited
        cases hunsolicited
      · obtain ⟨id', hactive', hobject'⟩ := answering_eq_some hanswering
        obtain rfl : id = id' := by simpa [hactive] using hactive'
        obtain rfl : object = object' := by simpa [hobject] using hobject'.symm
        exact (measurements_mem_solicited hevent haccepted hfunction hanswering htask).mpr
          (htakes task htask)

/-- In a run every step confirms only what it delivered exactly when no step receives the awaited
response with CON for a poll that cannot take it or with UNS. -/
theorem run_confirmsDelivered_iff (s : MContext τ) (events : List (Env × Event τ)) :
    Machine.StepsMeet step ConfirmsDelivered s events ↔
      Machine.StepsMeet step Trustworthy s events :=
  Machine.StepsMeet.congr step confirmsDelivered_iff s events

/-- A master with the tasks of the start-up that are always there. -/
def startup : MContext StartupTask :=
  init { source := 1, destination := 1024 } {}
    { clearRestart := 0, assignClass := 1, startupIntegrity := 2, eventScan := 3 }
    [⟨.other .clearRestart, .reactsToIINOnly⟩,
      ⟨.other (.assignClass fun _ => some []), .singleImmediateExecutionWithRetry 5000 60000⟩,
      ⟨.poll { kind := .startupIntegrity ⟨true, true, true, true⟩ },
        .singleImmediateExecutionWithRetry 5000 60000⟩,
      ⟨.poll { kind := .eventScan {} }, .reactsToIINOnly⟩]

/-- A message of the outstation to this master. -/
def fromOutstation (payload : List UInt8) : Event StartupTask :=
  .receive { addresses := { source := 1024, destination := 1 }, payload }

/-- The integrity poll waits for its response. -/
def integrityPoll : List (Env × Event StartupTask) :=
  [({}, .lowerLayerUp), ({}, .run 2), ({}, .txReady)]

/-- The response ends inside an object header. -/
def truncatedResponse : Env × Event StartupTask :=
  ({}, fromOutstation [0xE0, 0x81, 0x00, 0x00, 0x02])

/-- The poll fails, and its response is confirmed. -/
theorem not_confirmsDelivered_truncated :
    ¬Machine.StepsMeet step ConfirmsDelivered startup (integrityPoll ++ [truncatedResponse]) := by
  intro h
  have hlast := (Machine.StepsMeet.of_append step h).1
  obtain ⟨message, header, objects, -, -, -, -, -, hdelivered⟩ :=
    hlast (confirmHeader 0 false) (by decide +kernel)
  obtain ⟨soe, hmem⟩ := hdelivered (.inr ⟨2, _, _, rfl, rfl, rfl⟩)
  have hnone : ((Machine.run step startup integrityPoll).outputs truncatedResponse).all
      (fun output =>
        match output with
        | .measurements _ .OK _ => false
        | _ => true) = true := by decide +kernel
  cases List.all_eq_true.mp hnone _ hmem

/-! ## Confirms of a session -/

/-- The outputs since the session was opened or closed last. -/
def session (log : List Output) : List Output := log.rtakeWhile fun output => !output.isBound

/-- Outputs that are no bound belong to the session. -/
theorem session_append {out : List Output} (h : ∀ output ∈ out, output.isBound = false)
    (log : List Output) : session (log ++ out) = session log ++ out := by
  unfold session List.rtakeWhile
  rw [List.reverse_append, List.takeWhile_append_of_pos (by simpa using h), List.reverse_append,
    List.reverse_reverse]

/-- A bound begins a new session. -/
theorem session_append_bound {bound : Output} (h : bound.isBound = true)
    (log out : List Output) : session (log ++ (out ++ [bound])) = [] := by
  unfold session
  rw [← List.append_assoc]
  exact List.rtakeWhile_concat_neg _ _ _ (by simp [h])

/-- The confirm answers a response of the run that asks for it. No step has closed the session
since. -/
def AnswersIn (s : MContext τ) (events : List (Env × Event τ)) (confirm : APDUHeader) : Prop :=
  ∃ past env message rest header objects,
    events = past ++ (env, .receive message) :: rest ∧
      (Machine.run step s past).isOnline = true ∧
      parseResponse message.payload = some (header, objects) ∧ header.control.con = true ∧
      header.control.seq = confirm.control.seq ∧
      (header.function = .UNSOLICITED_RESPONSE ↔ confirm.control.uns = true) ∧
      Machine.StepsMeet step (fun s e => ¬Closes s e)
        (Machine.run step s (past ++ [(env, .receive message)])) rest

/-- After the run, the confirms of the session were queued in it, in the order in which they are
transmitted, and answer responses of the session. -/
structure SessionConfirms (s : MContext τ) (events : List (Env × Event τ)) : Prop where
  sent_queued : sent (session (Machine.run step s events).log) <+:
    queued (session (Machine.run step s events).log)
  answers : ∀ confirm ∈ sent (session (Machine.run step s events).log), AnswersIn s events confirm

/-- The step does not close the session while confirms are in the queue. -/
def DropsNothing (s : MContext τ) (e : Env × Event τ) : Prop := Closes s e → s.confirmQueue = []

instance (s : MContext τ) (e : Env × Event τ) : Decidable (DropsNothing s e) :=
  inferInstanceAs (Decidable (Closes s e → s.confirmQueue = []))

/-- The confirms that were queued in the session are transmitted or in the queue, and answer
responses of the session. There are none in the queue without a session. -/
structure Accounted (s : MContext τ) (events : List (Env × Event τ)) : Prop where
  queued_eq : queued (session (Machine.run step s events).log) =
    sent (session (Machine.run step s events).log) ++ (Machine.run step s events).confirmQueue
  answers : ∀ confirm ∈ queued (session (Machine.run step s events).log),
    AnswersIn s events confirm
  offline : (Machine.run step s events).isOnline = false →
    (Machine.run step s events).confirmQueue = []

/-- The response stays one of the session. -/
theorem AnswersIn.append {s : MContext τ} {events : List (Env × Event τ)} {confirm : APDUHeader}
    (h : AnswersIn s events confirm) {e : Env × Event τ}
    (he : ¬Closes (Machine.run step s events) e) : AnswersIn s (events ++ [e]) confirm := by
  obtain ⟨past, env, message, rest, header, objects, rfl, honline, hparsed, hcon, hseq, huns,
    hrest⟩ := h
  refine ⟨past, env, message, rest ++ [e], header, objects, by simp, honline, hparsed, hcon, hseq,
    huns, hrest.append step ⟨?_, trivial⟩⟩
  rwa [← Machine.run_append, List.append_assoc, List.singleton_append]

/-- A confirm that the last step queues answers the response of that step. -/
theorem AnswersIn.of_mem_outputs {s : MContext τ} {events : List (Env × Event τ)}
    {e : Env × Event τ} {confirm : APDUHeader}
    (h : .queueConfirm confirm ∈ (Machine.run step s events).outputs e) :
    AnswersIn s (events ++ [e]) confirm := by
  obtain ⟨message, header, objects, hevent, haccepted, hcon, hway⟩ :=
    queueConfirm_mem_reports ((mem_outputs_iff rfl _ e).mp h)
  obtain ⟨honline, hparsed⟩ := accepted_eq_some haccepted
  obtain ⟨env, event⟩ := e
  obtain rfl : event = .receive message := hevent
  refine ⟨events, env, message, [], header, objects, rfl, honline, hparsed, hcon, ?_, ?_, trivial⟩
  · rcases hway with ⟨-, -, -, rfl⟩ | ⟨-, -, -, rfl⟩ <;> rfl
  · rcases hway with ⟨hfunction, -, -, rfl⟩ | ⟨-, hfunction, -, rfl⟩ <;>
      simp [hfunction, confirmHeader]

/-- Without a session no confirm is queued. -/
theorem reports_of_offline {s : MContext τ} (h : s.isOnline = false) (event : Event τ) :
    s.reports event = [] := by
  cases event with
  | receive message =>
    have haccepted : s.accepted message = none := by simp [accepted, h]
    rw [reports, haccepted, Option.elim_none]
  | _ => rfl

/-- The start or the end of a session leaves nothing to account for. -/
theorem Accounted.of_bounds {s : MContext τ} {events : List (Env × Event τ)}
    {e : Env × Event τ} (hbounds : Bounds (Machine.run step s events)
      ((Machine.run step s events).step e))
    (hqueue : (Machine.run step s events).confirmQueue = []) : Accounted s (events ++ [e]) := by
  obtain ⟨out, bound, hlog, hbound, -⟩ := hbounds.log_eq
  have hrun := Machine.run_concat step s events e
  have hsession : session (Machine.run step s (events ++ [e])).log = [] := by
    rw [hrun, hlog, session_append_bound hbound]
  have hqueue' : (Machine.run step s (events ++ [e])).confirmQueue = [] := by
    rw [hrun, hbounds.confirmQueue_eq, hqueue]
  refine ⟨?_, ?_, fun _ => hqueue'⟩
  · rw [hsession, hqueue']
    rfl
  · simp [hsession]

/-- A step that drops no confirm keeps the account. -/
theorem accounted_step {s : MContext τ} {events : List (Env × Event τ)}
    (h : Accounted s events) {e : Env × Event τ}
    (he : DropsNothing (Machine.run step s events) e) : Accounted s (events ++ [e]) := by
  rcases step_cases (Machine.run step s events) e with
    ⟨hevent, hbounds⟩ | ⟨hopen, out, htells, hreports⟩
  · refine .of_bounds hbounds ?_
    -- At a bound of the session nothing may be left in the queue.
    rcases hevent with ⟨-, hoffline⟩ | hcloses
    · exact h.offline hoffline
    · exact he hcloses
  · have hrun := Machine.run_concat step s events e
    have hsession : session (Machine.run step s (events ++ [e])).log =
        session (Machine.run step s events).log ++ out := by
      rw [hrun, htells.log_eq, session_append htells.inside]
    refine ⟨?_, ?_, ?_⟩
    · -- What the queue held and what the step queued is transmitted or still in the queue.
      calc queued (session (Machine.run step s (events ++ [e])).log)
          = queued (session (Machine.run step s events).log) ++ queued out := by
            rw [hsession, queued_append]
        _ = sent (session (Machine.run step s events).log) ++
            (sent out ++ ((Machine.run step s events).step e).confirmQueue) := by
            rw [h.queued_eq, List.append_assoc, htells.confirmQueue_eq]
        _ = _ := by rw [hsession, hrun, sent_append, List.append_assoc]
    · -- A confirm of this session was queued by an earlier step of it or by this one.
      intro confirm hconfirm
      rw [hsession, queued_append] at hconfirm
      rcases List.mem_append.mp hconfirm with hold | hnew
      · exact (h.answers confirm hold).append hopen
      · refine .of_mem_outputs ?_
        rw [outputs, htells.outputs_eq]
        exact mem_queued_iff.mp hnew
    · -- Off line, no response is accepted, so nothing is queued.
      intro hoffline
      rw [hrun, htells.isOnline_eq] at hoffline
      have hqueued : queued out = [] :=
        queued_eq_nil (hreports.trans (reports_of_offline hoffline e.2))
      have hqueue := htells.confirmQueue_eq
      rw [h.offline hoffline, hqueued] at hqueue
      rw [hrun]
      exact (List.append_eq_nil_iff.mp hqueue.symm).2

/-- Confirms do not leave the session of their response in a run that closes no session with
confirms in the queue. -/
theorem run_sessionConfirms (addresses : Addresses) (params : MasterParams) (tasks : MasterTasks)
    (objects : List (TaskObject τ)) (events : List (Env × Event τ))
    (h : Machine.StepsMeet step DropsNothing (init addresses params tasks objects) events) :
    SessionConfirms (init addresses params tasks objects) events := by
  have haccounted : Accounted (init addresses params tasks objects) events := by
    induction events using List.reverseRecOn with
    | nil => exact ⟨rfl, by simp [session, init], fun _ => rfl⟩
    | append_singleton events e ih =>
      exact accounted_step (ih (Machine.StepsMeet.left step h))
        (Machine.StepsMeet.of_append step h).1
  have hsent :
    sent (session (Machine.run step (init addresses params tasks objects) events).log) <+:
      queued (session (Machine.run step (init addresses params tasks objects) events).log) :=
    ⟨_, haccounted.queued_eq.symm⟩
  exact ⟨hsent, fun confirm hconfirm => haccounted.answers confirm (hsent.mem hconfirm)⟩

/-- Two sessions with an unsolicited response each. The first confirm waits for the end of a
transmission. -/
def twoSessions : List (Env × Event StartupTask) :=
  [({}, .lowerLayerUp), ({}, .run 2), ({}, fromOutstation [0xF3, 0x82, 0x00, 0x00]),
    ({}, .txReady), ({}, .lowerLayerDown), ({}, .lowerLayerUp),
    ({}, fromOutstation [0xF0, 0x82, 0x00, 0x00])]

/-- Two sessions, of which the first one ends with its confirm transmitted. -/
theorem run_sessionConfirms_twoSessions :
    Machine.StepsMeet step DropsNothing startup twoSessions ∧
      SessionConfirms startup twoSessions ∧
      sent (session (Machine.run step startup twoSessions).log) = [confirmHeader 0 true] := by
  have h : Machine.StepsMeet step DropsNothing startup twoSessions := by decide +kernel
  exact ⟨h, run_sessionConfirms _ _ _ _ _ h, by decide +kernel⟩

/-- The session ends while the confirm waits for the end of a transmission. The next session starts
with a poll. -/
def staleConfirm : List (Env × Event StartupTask) :=
  [({}, .lowerLayerUp), ({}, .run 2), ({}, fromOutstation [0xF3, 0x82, 0x00, 0x00]),
    ({}, .lowerLayerDown), ({}, .lowerLayerUp), ({}, .run 2), ({}, .txReady)]

/-- The new session transmits a confirm of the old one. -/
theorem not_sessionConfirms_stale : ¬SessionConfirms startup staleConfirm := by
  intro h
  have hsent : sent (session (Machine.run step startup staleConfirm).log) =
      [confirmHeader 3 true] := by decide +kernel
  have hqueued : queued (session (Machine.run step startup staleConfirm).log) = [] := by
    decide +kernel
  have hprefix := h.sent_queued
  rw [hsent, hqueued] at hprefix
  cases List.prefix_nil.mp hprefix

end MContext

end OpenDnp3.Master
