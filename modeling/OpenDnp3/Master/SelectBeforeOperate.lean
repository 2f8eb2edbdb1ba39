import OpenDnp3.Master.CommandStages

/-!
# Select before operate

A select-and-operate task goes through a few stages (`Stage`), and it comes to the OPERATE only by a
response that echoes its SELECT. The scheduler runs a task once, so no other way leads there.
-/

namespace OpenDnp3.Master

open App

/-! ## Runs -/

namespace System

section Requests

variable {ι τ : Type*} [IScheduledTask τ] [DecidableEq ι]

/-- A task transmits a request in a step. -/
structure Transmits (s : System ι τ) (e : Env × SystemEvent ι τ) (r : Record ι)
    (header : APDUHeader) (objects : List UInt8) : Prop where
  active : ((s.step e).runners r.runner).activeTask = some r.task
  request : .request header objects ∈
    ((s.step e).runners r.runner).log.drop (s.runners r.runner).log.length

omit [IScheduledTask τ] [DecidableEq ι] in
/-- A task keeps its kind while others are added. -/
theorem kind_kept {kinds kinds' : List Bool} (h : kinds <+: kinds') {id : TaskId} {kind : Bool}
    (hkind : kinds[id]? = some kind) : kinds'[id]? = some kind := by
  obtain ⟨hlt, rfl⟩ := List.getElem?_eq_some_iff.mp hkind
  exact List.prefix_iff_getElem?.mp h id hlt

/-- A task that transmits a request has not been completed. -/
theorem Transmits.completions_eq {s : System ι τ} {e : Env × SystemEvent ι τ} {r : Record ι}
    {header : APDUHeader} {objects : List UInt8} (h : Transmits s e r header objects)
    (hinv : Inv (s.step e))
    (hkind : ((s.step e).runners r.runner).core.kinds[r.task]? = some false) :
    (s.step e).completions r = 0 := by
  have hcurrent := (hinv.ledger.current r.runner r.task).mpr h.active
  have hheld : 0 < (s.step e).held.count r := by
    refine List.count_pos_iff.mpr (List.mem_append_left _ ?_)
    rw [hcurrent]
    exact List.mem_singleton_self r
  have haccounted := hinv.ledger.accounted r
  rw [hkind] at haccounted
  have hone := haccounted.1
  omega

end Requests

variable {ι τ : Type*} [IScheduledTask τ] [DecidableEq ι]

/-- The state that a list of events reaches. -/
abbrev reached (configs : ι → MasterConfig τ)
    (events : List (Env × SystemEvent ι τ)) : System ι τ :=
  Machine.run step (init configs) events

/-- In these events the task has transmitted a SELECT with this sequence number. -/
def Selected (configs : ι → MasterConfig (CommandTask ⊕ τ)) (r : Record ι)
    (headers : List CommandItems) (mode : IndexQualifierMode)
    (events : List (Env × SystemEvent ι (CommandTask ⊕ τ))) (seq : ℕ) : Prop :=
  ∃ before e after header, events = before ++ e :: after ∧
    Transmits (reached configs before) e r header (requestBytes mode headers) ∧
    header.function = .SELECT ∧ header.control.seq = seq

/-- In these events the task has transmitted a SELECT with this sequence number, and then the
response that it was waiting for has echoed the SELECT. -/
def Echoed (configs : ι → MasterConfig (CommandTask ⊕ τ)) (r : Record ι)
    (headers : List CommandItems) (mode : IndexQualifierMode)
    (events : List (Env × SystemEvent ι (CommandTask ⊕ τ))) (seq : ℕ) : Prop :=
  ∃ before env message hmessage after,
    events = before ++ (env, .occurs r.runner ⟨.receive message, hmessage⟩) :: after ∧
    Selected configs r headers mode before seq ∧
    ((reached configs before).runners r.runner).activeTask = some r.task ∧
    ((reached configs before).runners r.runner).tstate = .WAIT_FOR_RESPONSE ∧
    Echoes mode headers message seq

/-- What has become of the SELECTs of a task in a run. -/
def history (configs : ι → MasterConfig (CommandTask ⊕ τ)) (r : Record ι)
    (headers : List CommandItems) (mode : IndexQualifierMode)
    (events : List (Env × SystemEvent ι (CommandTask ⊕ τ))) : History where
  selected := Selected configs r headers mode events
  echoed := Echoed configs r headers mode events

section Histories

variable {configs : ι → MasterConfig (CommandTask ⊕ τ)} {r : Record ι} {headers : List CommandItems}
  {mode : IndexQualifierMode} {events : List (Env × SystemEvent ι (CommandTask ⊕ τ))}

/-- A SELECT stays one of the run. -/
theorem Selected.concat {seq : ℕ} (h : Selected configs r headers mode events seq)
    (e : Env × SystemEvent ι (CommandTask ⊕ τ)) :
    Selected configs r headers mode (events ++ [e]) seq := by
  obtain ⟨before, e', after, header, rfl, hselect⟩ := h
  exact ⟨before, e', after ++ [e], header, by simp, hselect⟩

/-- An echo stays one of the run. -/
theorem Echoed.concat {seq : ℕ} (h : Echoed configs r headers mode events seq)
    (e : Env × SystemEvent ι (CommandTask ⊕ τ)) :
    Echoed configs r headers mode (events ++ [e]) seq := by
  obtain ⟨before, env, message, hmessage, after, rfl, hechoed⟩ := h
  exact ⟨before, env, message, hmessage, after ++ [e], by simp, hechoed⟩

/-- One more event of a run. -/
theorem stage_step (hkind : ((reached configs events).runners r.runner).core.kinds[r.task]? =
      some false)
    (hstage : (reached configs events).completions r = 0 → Stage headers mode
      (history configs r headers mode events)
        ((reached configs events).runners r.runner).core r.task)
    (e : Env × SystemEvent ι (CommandTask ⊕ τ))
    (hzero : ((reached configs events).step e).completions r = 0) :
    Stage headers mode (history configs r headers mode (events ++ [e]))
        (((reached configs events).step e).runners r.runner).core r.task ∧
      ∀ header objects, Transmits (reached configs events) e r header objects →
        Permitted headers mode (history configs r headers mode (events ++ [e])) header objects := by
  have hinv := run_inv configs events
  obtain ⟨hinv', -, hkinds⟩ := step_spec hinv e
  obtain ⟨event, acts, out, hturns, hlog, hevent, hacts, hrequests⟩ :=
    moves_step hinv e r.runner
  have hcount :
      (reached configs events).completions r + out.countP (Output.completes r.task) = 0 := by
    rw [← hzero, completions, completions, hlog, List.countP_append]
  -- The task is not completed in this step, so its runner neither completes it nor goes offline:
  -- either would be in the books.
  have hcomplete : ∀ result, .onTaskComplete r.task result ∉ acts := by
    intro result hmem
    have hpos : 0 < out.countP (Output.completes r.task) :=
      List.countP_pos_iff.mpr ⟨_, hacts _ hmem, decide_eq_true rfl⟩
    omega
  have hoffline : .setRunnerOffline ∉ acts := by
    intro hmem
    have hlost : (((reached configs events).step e).runners r.runner).isOnline = false :=
      hturns.isOnline_of_mem hmem
    have haccounted := hinv'.ledger.accounted r
    rw [kind_kept (hkinds r.runner) hkind] at haccounted
    have hone := haccounted.1
    rw [haccounted.2 hlost, Nat.zero_add] at hone
    exact absurd (hone.symm.trans hzero) (by decide)
  have hrequest : ∀ header objects, Transmits (reached configs events) e r header objects →
      .request header objects ∈ acts := by
    intro header objects htransmits
    have hmem := htransmits.request
    rw [hlog, List.drop_left] at hmem
    exact hrequests header objects hmem
  -- What the step adds to the history is what the runner did in it.
  have hextends : Extends headers mode r.task (history configs r headers mode events)
      (history configs r headers mode (events ++ [e]))
        ((reached configs events).runners r.runner).core
      event (((reached configs events).step e).runners r.runner).core acts := by
    refine ⟨fun seq h => h.concat e, fun seq h => h.concat e, fun header hactive hmem hselect => ?_,
      fun message hmessage hactive hwait hechoes hselected => ?_⟩
    · refine ⟨events, e, [], header, rfl, ⟨hactive, ?_⟩, hselect, rfl⟩
      rw [hlog, List.drop_left]
      exact hacts _ hmem
    · obtain ⟨env, e⟩ := e
      obtain rfl := hevent message hmessage
      exact ⟨events, env, message, trivial, [], rfl, hselected, hactive, hwait, hechoes⟩
  obtain ⟨hstage', hpermitted⟩ := hturns.stage (hstage (by omega)) hextends hcomplete
    fun _ => hoffline
  exact ⟨hstage', fun header objects htransmits =>
    hpermitted header objects htransmits.active (hrequest header objects htransmits)⟩

end Histories

/-- The task object of a select-and-operate task. -/
def selectAndOperate (headers : List CommandItems) (mode : IndexQualifierMode)
    (behavior : TaskBehavior) : TaskObject (CommandTask ⊕ τ) where
  task := .other (.inl (.createSelectAndOperate (.build headers) mode))
  behavior := behavior

/-- A master is handed a select-and-operate task. -/
def schedulesCommand (env : Env) (i : ι) (headers : List CommandItems) (mode : IndexQualifierMode)
    (behavior : TaskBehavior) : Env × SystemEvent ι (CommandTask ⊕ τ) :=
  (env, .occurs i ⟨.scheduleAdhocTask (selectAndOperate headers mode behavior), rfl⟩)

/-- After the first events, the task transmits nothing but its SELECT and, once the response that it
was waiting for has echoed the SELECT, the same objects in its OPERATE with the next sequence
number. -/
def SelectsFirst (configs : ι → MasterConfig (CommandTask ⊕ τ)) (r : Record ι)
    (headers : List CommandItems) (mode : IndexQualifierMode)
    (before after : List (Env × SystemEvent ι (CommandTask ⊕ τ))) : Prop :=
  ∀ middle e rest header objects, after = middle ++ e :: rest →
    Transmits (reached configs (before ++ middle)) e r header objects →
      Permitted headers mode (history configs r headers mode (before ++ middle ++ [e]))
        header objects

omit [DecidableEq ι] [IScheduledTask τ] in
/-- An adhoc task is added behind the others. -/
theorem core_scheduleAdhocTask [IMasterTask τ] (env : Env) (object : TaskObject τ)
    (c : MContext τ) :
    (c.scheduleAdhocTask env object).core =
      { c.core with taskList := c.core.taskList ++ [object.task] } := by
  have hadded : ({ c with objects := c.objects ++ [object] } : MContext τ).core =
      { c.core with taskList := c.core.taskList ++ [object.task] } := by
    simp [MContext.core]
  have hobject : ({ c with objects := c.objects ++ [object] } : MContext τ).objects[
      c.objects.length]? = some object := by simp
  unfold MContext.scheduleAdhocTask
  dsimp only
  split_ifs
  · exact hadded
  · have hcomplete := MContext.acts_completeTask hobject .FAILURE_NO_COMMS env.now
      fun hformat => absurd hformat (by decide)
    exact hcomplete.core_eq.trans hadded

/-- Every select-and-operate task selects first. -/
theorem run_selectsFirst (configs : ι → MasterConfig (CommandTask ⊕ τ))
    (before after : List (Env × SystemEvent ι (CommandTask ⊕ τ))) (env : Env) (i : ι)
    (headers : List CommandItems) (mode : IndexQualifierMode) (behavior : TaskBehavior) :
    SelectsFirst configs
      { runner := i, task := ((reached configs before).runners i).objects.length } headers mode
      (before ++ [schedulesCommand env i headers mode behavior]) after := by
  obtain ⟨id, hid⟩ : ∃ id, id = ((reached configs before).runners i).objects.length := ⟨_, rfl⟩
  obtain ⟨start, hstart⟩ : ∃ start,
    start = before ++ [schedulesCommand env i headers mode behavior] := ⟨_, rfl⟩
  have hinv := run_inv configs before
  -- The task is an ad hoc one from its call on.
  have hkind : ∀ events, ((reached configs (start ++ events)).runners i).core.kinds[id]? =
      some false := by
    intro events
    have hadhoc := kinds_adhoc hinv env i (selectAndOperate headers mode behavior) rfl events
    rw [hstart, hid, List.append_assoc, reached, Machine.run_append]
    exact hadhoc
  rw [← hid, ← hstart]
  -- The stage of the task is kept by every step until the task is complete, by induction on the
  -- events after the call.
  have hstage : ∀ events, (reached configs (start ++ events)).completions
    { runner := i, task := id } = 0 →
      Stage headers mode (history configs { runner := i, task := id } headers mode
        (start ++ events))
        ((reached configs (start ++ events)).runners i).core id := by
    intro events
    induction events using List.reverseRecOn with
    | nil =>
      intro _
      have hcore : ((reached configs (start ++ [])).runners i).core =
          { ((reached configs before).runners i).core with
            taskList := ((reached configs before).runners i).core.taskList ++
              [(selectAndOperate headers mode behavior).task] } := by
        rw [List.append_nil, hstart, reached, Machine.run_concat]
        have hcalls := calls_foldl_call env i (((reached configs before).runners i).outputs
          (env, .scheduleAdhocTask (selectAndOperate headers mode behavior)))
          ((reached configs before).modifyRunner i fun c =>
            c.step (env, .scheduleAdhocTask (selectAndOperate headers mode behavior)))
        refine (hcalls.core i).trans ?_
        rw [modifyRunner_self]
        exact core_scheduleAdhocTask env _ _
      have hlength := MContext.length_taskList ((reached configs before).runners i)
      rw [hcore]
      refine .fresh ?_ fun hactive => ?_
      · show (_ ++ [_])[id]? = _
        rw [hid, ← hlength, List.getElem?_concat_length]
        rfl
      · -- A task that is active is known before.
        have hlt := (hinv.session i).valid id hactive
        rw [hlength, ← hid] at hlt
        exact absurd hlt (lt_irrefl id)
    | append_singleton events e ih =>
      intro hzero
      rw [← List.append_assoc, reached, Machine.run_concat] at hzero ⊢
      exact (stage_step (hkind events) ih e hzero).1
  rintro middle e rest header objects - htransmits
  have hreached : (reached configs (start ++ middle)).step e =
    reached configs (start ++ (middle ++ [e])) := by
    rw [← List.append_assoc, reached, reached, Machine.run_concat]
  have hzero := htransmits.completions_eq (hreached ▸ run_inv configs _)
    (by rw [hreached]; exact hkind _)
  exact (stage_step (hkind middle) (hstage middle) e hzero).2 header objects htransmits

/-- A master that has nothing to do at its start. -/
def commandConfig : MasterConfig (CommandTask ⊕ StartupTask) where
  addresses := { source := 1, destination := 1024 }
  tasks := { clearRestart := 0, assignClass := 1, startupIntegrity := 2, eventScan := 3 }
  objects := List.replicate 4 ⟨.other (.inr .clearRestart), .reactsToIINOnly⟩
  nodup := by decide
  mem_all_iff id := by
    show id ∈ List.range 4 ↔ id < 4
    exact List.mem_range
  isRecurring := by decide

/-- Latches the output 7. -/
def latchOn : CommandItems where
  type := .ControlRelayOutputBlock
  items :=
    [({ functionCode := .LATCH_ON, rawCode := 3, count := 1, onTimeMS := 100, offTimeMS := 100 },
    7)]

/-- The outstation echoes a SELECT. -/
def selectEchoed : List (Env × SystemEvent Unit (CommandTask ⊕ StartupTask)) :=
  [({}, .occurs () ⟨.lowerLayerUp, trivial⟩),
    schedulesCommand {} () [latchOn] .allow_one_byte (.singleExecutionNoRetry INT64_MAX),
    ({}, .checkForTaskRun), ({}, .occurs () ⟨.txReady, trivial⟩),
    ({}, .occurs () ⟨.receive
      { addresses := { source := 1024, destination := 1 }
        payload := [0xC0, 0x81, 0x00, 0x00] ++ requestBytes .allow_one_byte [latchOn] }, trivial⟩)]

example : ((reached (fun _ => commandConfig) selectEchoed).runners ()).log.filter Output.transmits =
    [.request { control := requestControl 0, function := .SELECT }
        (requestBytes .allow_one_byte [latchOn]),
      .request { control := requestControl 1, function := .OPERATE }
        (requestBytes .allow_one_byte [latchOn])] := by
  decide +kernel

end System

end OpenDnp3.Master
