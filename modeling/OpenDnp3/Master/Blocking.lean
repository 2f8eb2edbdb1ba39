import OpenDnp3.Lib.Run
import OpenDnp3.Master.Bookkeeping
import OpenDnp3.Master.Confirms

/-!
# Blocking tasks

A task that has failed is to keep the lower priorities of its master waiting. The scheduler only
prefers the tasks that do not wait: when the tasks that are enabled all wait, the best of them runs.
-/

namespace OpenDnp3.Master.System

variable {ι τ : Type*} [IScheduledTask τ]

/-- A task that the scheduler may choose: an enabled one, or any one where all are disabled. -/
def IsCandidate (env : Env) (s : System ι τ) (r : Record ι) : Prop :=
  r ∈ s.scheduler.tasks ∧ (s.expirationTime env r = INT64_MAX →
    ∀ r' ∈ s.scheduler.tasks, s.expirationTime env r' = INT64_MAX)

/-- The scheduler is busy, or some candidate is not blocked, or no candidate has expired. -/
def Unobstructed (env : Env) (s : System ι τ) : Prop :=
  s.scheduler.current.isSome = true ∨ (∃ r, IsCandidate env s r ∧ s.isBlocked r = false) ∨
    ∀ r, IsCandidate env s r → s.isExpired env r = false

/-- A task is not blocked where no other blocking task of its master has the higher priority. -/
theorem isBlocked_eq_false_iff (s : System ι τ) (r : Record ι) :
    s.isBlocked r = false ↔ ∀ t ∈ (s.runners r.runner).blocking, t ≠ r.task →
      s.priority r ≤ s.priority { r with task := t } := by
  simp only [isBlocked, List.any_eq_false, Bool.and_eq_true, decide_eq_true_eq, not_and, not_not]
  constructor
  · intro h t ht hne
    by_contra hlt
    exact hne (h t ht (not_le.mp hlt))
  · intro h t ht hlt
    by_contra hne
    exact absurd hlt (not_lt.mpr (h t ht hne))

/-! ## The best task -/

section Best

variable {env : Env} {s : System ι τ} {best : Record ι}

/-- The best task has the least key. -/
theorem key_le_of_bestTask (h : s.bestTask env = some best) {r : Record ι}
    (hr : r ∈ s.scheduler.tasks) : s.key env best ≤ s.key env r := by
  rw [bestTask_eq_argmin (getBestTaskToRun_eq_right_iff env s)] at h
  exact List.le_of_mem_argmin hr h

/-- The best task is a candidate. -/
theorem isCandidate_of_bestTask (h : s.bestTask env = some best) : IsCandidate env s best := by
  refine ⟨?_, fun hdisabled r hr => ?_⟩
  · rw [bestTask_eq_argmin (getBestTaskToRun_eq_right_iff env s)] at h
    exact List.argmin_mem h
  · -- A disabled task is the best one only among disabled tasks.
    have hle := Prod.Lex.monotone_fst _ _ (key_le_of_bestTask h hr)
    have hle : decide (s.expirationTime env best = INT64_MAX) ≤
      decide (s.expirationTime env r = INT64_MAX) := hle
    rw [decide_eq_true hdisabled] at hle
    exact of_decide_eq_true (top_le_iff.mp hle)

/-- Among the candidates the best task is blocked only if all are, and expires first among those
that are. -/
theorem le_of_isCandidate (h : s.bestTask env = some best) {r : Record ι}
    (hr : IsCandidate env s r) : s.isBlocked best ≤ s.isBlocked r ∧
      (s.isBlocked best = s.isBlocked r → s.effectiveTime env best ≤ s.effectiveTime env r) := by
  obtain ⟨hmem, hdisabled⟩ := isCandidate_of_bestTask h
  have henabled : decide (s.expirationTime env best = INT64_MAX) =
      decide (s.expirationTime env r = INT64_MAX) :=
    decide_eq_decide.mpr ⟨fun hbest => hdisabled hbest r hr.1, fun hr' => hr.2 hr' best hmem⟩
  have hle := key_le_of_bestTask h hr.1
  unfold key at hle
  rw [Prod.Lex.toLex_le_toLex, Prod.Lex.toLex_le_toLex, Prod.Lex.toLex_le_toLex] at hle
  rcases hle with hlt | ⟨-, hlt | ⟨heq, htime⟩⟩
  · exact absurd henabled hlt.ne
  · exact ⟨hlt.le, fun heq => absurd heq hlt.ne⟩
  · refine ⟨heq.le, fun _ => ?_⟩
    rcases htime with hlt | ⟨heq, -⟩
    · exact hlt.le
    · exact heq.le

/-- A task has expired where its time has come. -/
theorem isExpired_iff (env : Env) (s : System ι τ) (r : Record ι) :
    s.isExpired env r = true ↔ s.effectiveTime env r ≤ env.now := by
  unfold effectiveTime
  split_ifs with hexpired
  · exact ⟨fun _ => le_rfl, fun _ => hexpired⟩
  · unfold isExpired at hexpired ⊢
    exact decide_eq_true_iff

end Best

/-- The scheduler starts a blocked task exactly when it is free, every candidate is blocked, and
some candidate has expired. -/
theorem unobstructed_iff (env : Env) (s : System ι τ) :
    (∀ r, s.taskToRun env = some r → s.isBlocked r = false) ↔ Unobstructed env s := by
  constructor
  · intro hunblocked
    by_contra hobstructed
    unfold Unobstructed at hobstructed
    push Not at hobstructed
    obtain ⟨hfree, hblocked, r, hr, hexpired⟩ := hobstructed
    -- A blocked candidate that has expired makes the best one expired and blocked, and it is run.
    cases hbest : s.bestTask env with
    | none =>
      rw [bestTask_eq_argmin (getBestTaskToRun_eq_right_iff env s), List.argmin_eq_none] at hbest
      exact absurd hr.1 (hbest ▸ List.not_mem_nil)
    | some best =>
      have hcandidate := isCandidate_of_bestTask hbest
      have hbestBlocked : s.isBlocked best = true := by simpa using hblocked best hcandidate
      have hrBlocked : s.isBlocked r = true := by simpa using hblocked r hr
      have htime := (le_of_isCandidate hbest hr).2 (hbestBlocked.trans hrBlocked.symm)
      have hbestExpired : s.isExpired env best = true := (isExpired_iff ..).mpr
        (htime.trans ((isExpired_iff ..).mp (by simpa using hexpired)))
      have hrun : s.taskToRun env = some best := by
        unfold taskToRun
        rw [if_neg hfree, hbest]
        exact Option.filter_eq_some_iff.mpr ⟨rfl, hbestExpired⟩
      rw [hunblocked best hrun] at hbestBlocked
      cases hbestBlocked
  · intro hunobstructed r hrun
    obtain ⟨hcurrent, hbest, hexpired⟩ := taskToRun_spec hrun
    -- The best task is run, and it precedes any candidate that is free.
    rcases hunobstructed with hbusy | ⟨r', hr', hfree⟩ | hnone
    · rw [hcurrent] at hbusy
      cases hbusy
    · have hle := (le_of_isCandidate hbest hr').1
      rw [hfree] at hle
      exact le_bot_iff.mp hle
    · rw [hnone r (isCandidate_of_bestTask hbest)] at hexpired
      cases hexpired

/-! ## Runs -/

variable [DecidableEq ι]

/-- The state in which an event makes the scheduler look for a task. -/
def checkedState (s : System ι τ) (e : Env × SystemEvent ι τ) : Option (System ι τ) :=
  match e.2 with
  | .occurs _ _ | .timeoutTasks => none
  | .checkForTaskRun => some s
  | .demand r => some (s.modifyRunner r.runner fun c => c.setMinExpiration r.task)

/-- No task of its master that has failed and blocks the lower priorities comes before the task that
is started. -/
def Blocks (s : System ι τ) (e : Env × SystemEvent ι τ) : Prop :=
  ∀ r, s.taskStarted e = some r → ∀ t ∈ (s.runners r.runner).blocking, t ≠ r.task →
    s.priority r ≤ s.priority { r with task := t }

/-- The event does not make the scheduler choose among blocked tasks alone. -/
def ChecksUnobstructed (s : System ι τ) (e : Env × SystemEvent ι τ) : Prop :=
  ∀ s', s.checkedState e = some s' → Unobstructed e.1 s'

omit [DecidableEq ι] in
/-- The priority of a task is one of the fields of its master. -/
theorem priority_eq_of_core {s s' : System ι τ} {i : ι}
    (h : (s'.runners i).core = (s.runners i).core) (t : TaskId) :
    s'.priority { runner := i, task := t } = s.priority { runner := i, task := t } := by
  have hpriority : ∀ s : System ι τ, s.priority { runner := i, task := t } =
      ((s.runners i).core.taskList[t]?).elim 0 Task.priority := by
    intro s
    unfold priority object MContext.core
    rw [List.getElem?_map]
    cases (s.runners i).objects[t]? <;> rfl
  rw [hpriority, hpriority, h]

/-- A task that is made due is blocked as before. -/
theorem isBlocked_setMinExpiration (s : System ι τ) (r r' : Record ι) :
    (s.modifyRunner r.runner fun c => c.setMinExpiration r.task).isBlocked r' = s.isBlocked r' := by
  have hcore := (calls_setMinExpiration r s).1.core r'.runner
  have hblocking : ((s.modifyRunner r.runner fun c =>
      c.setMinExpiration r.task).runners r'.runner).blocking = (s.runners r'.runner).blocking := by
    by_cases hr : r'.runner = r.runner
    · rw [hr, modifyRunner_self]
      rfl
    · rw [modifyRunner_of_ne hr]
  obtain ⟨i, t⟩ := r'
  unfold isBlocked
  rw [hblocking]
  simp only [priority_eq_of_core hcore]

/-- A step runs no blocked task exactly where it is unobstructed. -/
theorem blocks_iff (s : System ι τ) (e : Env × SystemEvent ι τ) :
    Blocks s e ↔ ChecksUnobstructed s e := by
  have hblocks : Blocks s e ↔ ∀ r, s.taskStarted e = some r → s.isBlocked r = false := by
    unfold Blocks
    simp only [isBlocked_eq_false_iff]
  rw [hblocks]
  obtain ⟨env, event⟩ := e
  cases event with
  | occurs i event => exact ⟨fun _ _ h => (by cases h), fun _ _ h => (by cases h)⟩
  | timeoutTasks => exact ⟨fun _ _ h => (by cases h), fun _ _ h => (by cases h)⟩
  | checkForTaskRun =>
    refine (unobstructed_iff env s).trans ⟨fun h s' hs' => ?_, fun h => h s rfl⟩
    rw [← Option.some.inj hs']
    exact h
  | demand r =>
    have hdemand := unobstructed_iff env (s.modifyRunner r.runner fun c =>
      c.setMinExpiration r.task)
    simp only [isBlocked_setMinExpiration] at hdemand
    refine hdemand.trans ⟨fun h s' hs' => ?_, fun h => h _ rfl⟩
    rw [← Option.some.inj hs']
    exact h

/-- In every run, blocking tasks block exactly when the scheduler never has to choose among blocked
tasks alone. -/
theorem run_blocks_iff (configs : ι → MasterConfig τ) (events : List (Env × SystemEvent ι τ)) :
    Machine.StepsMeet step Blocks (init configs) events ↔
      Machine.StepsMeet step ChecksUnobstructed (init configs) events :=
  Machine.StepsMeet.congr step blocks_iff (init configs) events

/-- A master that polls at its start and then enables unsolicited responses. -/
def startupConfig : MasterConfig StartupTask where
  addresses := { source := 1, destination := 1024 }
  tasks :=
    { clearRestart := 0, assignClass := 1, startupIntegrity := 2, eventScan := 3,
      enableUnsol := some 4 }
  objects := MContext.startup.objects ++
    [⟨.other (.enableUnsolicited { class1 := true, class2 := true, class3 := true }),
      .singleImmediateExecutionWithRetry 5000 60000⟩]
  nodup := by decide
  mem_all_iff id := by
    show id ∈ List.range 5 ↔ id < 5
    exact List.mem_range
  isRecurring := by decide

/-- The response to the integrity poll has no FIR, so that the poll fails and is disabled. Then the
scheduler looks for the next task. -/
def failedPoll : List (Env × SystemEvent Unit StartupTask) :=
  [({}, .occurs () ⟨.lowerLayerUp, trivial⟩), ({}, .checkForTaskRun),
    ({}, .occurs () ⟨.txReady, trivial⟩),
    ({}, .occurs () ⟨MContext.fromOutstation [0x40, 0x81, 0x00, 0x00], trivial⟩),
    ({}, .checkForTaskRun)]

/-- The integrity poll has failed and blocks the lower priorities, and the next check enables
unsolicited responses. -/
theorem not_blocks_failedPoll : ¬Machine.StepsMeet step Blocks (init fun _ => startupConfig)
    failedPoll := by
  intro h
  have hlast := h.2.2.2.2.1 { runner := (), task := 4 } (by decide +kernel) 2 (by decide +kernel)
    (by decide)
  revert hlast
  decide +kernel

end OpenDnp3.Master.System
