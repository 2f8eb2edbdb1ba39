import Mathlib.Data.List.MinMax
import Mathlib.Data.Prod.Lex
import OpenDnp3.Master.Confirms
import OpenDnp3.Master.Scheduler

/-!
# The choice of a task

The pairwise comparison of `GetBestTaskToRun` is a lexicographic order (`getBestTaskToRun_eq`), so
that the loop of `CheckForTaskRun` finds the first minimum of the list (`checkForTaskRun_chooses`).
-/

namespace OpenDnp3.Master.System

variable {ι τ : Type*} [IScheduledTask τ]

/-- The place of a task in the order of `GetBestTaskToRun`: enabled tasks before disabled ones, then
unblocked tasks before blocked ones, then the earliest one, then the priority. -/
def key (env : Env) (s : System ι τ) (r : Record ι) : Bool ×ₗ Bool ×ₗ ℤ ×ₗ ℤ :=
  toLex (decide (s.expirationTime env r = INT64_MAX),
    toLex (s.isBlocked r, toLex (s.effectiveTime env r, s.priority r)))

/-- The comparison of two tasks by something of theirs. -/
def between {β : Type*} [LinearOrder β] (left right : β) : Comparison :=
  if left < right then .LEFT else if right < left then .RIGHT else .SAME

/-- Two comparisons one after the other compare pairs. -/
theorem between_toLex {β γ : Type*} [LinearOrder β] [LinearOrder γ] (left right : β)
    (left' right' : γ) :
    between (toLex (left, left')) (toLex (right, right')) =
      if between left right ≠ .SAME then between left right else between left' right' := by
  simp only [between, Prod.Lex.toLex_lt_toLex]
  rcases lt_trichotomy left right with hlt | rfl | hlt
  · simp [hlt]
  · simp
  · simp [hlt, hlt.not_gt, hlt.ne']

/-- Of two tasks the one that is enabled comes first. -/
theorem compareEnabledStatus_eq (env : Env) (s : System ι τ) (left right : Record ι) :
    s.compareEnabledStatus env left right =
      between (decide (s.expirationTime env left = INT64_MAX))
        (decide (s.expirationTime env right = INT64_MAX)) := by
  unfold compareEnabledStatus
  by_cases hleft : s.expirationTime env left = INT64_MAX <;>
    by_cases hright : s.expirationTime env right = INT64_MAX <;>
    simp [hleft, hright, between]

/-- Of two tasks the one that is not blocked comes first. -/
theorem compareBlockedStatus_eq (s : System ι τ) (left right : Record ι) :
    s.compareBlockedStatus left right = between (s.isBlocked left) (s.isBlocked right) := by
  unfold compareBlockedStatus
  cases s.isBlocked left <;> cases s.isBlocked right <;> rfl

/-- `GetBestTaskToRun` compares the places of the tasks. -/
theorem getBestTaskToRun_eq (env : Env) (s : System ι τ) (left right : Record ι) :
    s.getBestTaskToRun env left right = between (s.key env left) (s.key env right) := by
  unfold key
  rw [between_toLex, between_toLex, between_toLex, ← compareEnabledStatus_eq,
    ← compareBlockedStatus_eq]
  have htime : s.compareTime env left right =
      between (s.effectiveTime env left) (s.effectiveTime env right) := rfl
  have hpriority : s.comparePriority left right =
      between (s.priority left) (s.priority right) := rfl
  rw [← htime, ← hpriority]
  unfold getBestTaskToRun
  dsimp only
  split_ifs <;> first | rfl | contradiction

/-- `GetBestTaskToRun` prefers the right task when it comes strictly before the left one. -/
theorem getBestTaskToRun_eq_right_iff (env : Env) (s : System ι τ) (left right : Record ι) :
    s.getBestTaskToRun env left right = .RIGHT ↔ s.key env right < s.key env left := by
  rw [getBestTaskToRun_eq, between]
  split_ifs with hleft hright
  · simp [hleft.not_gt]
  · simp [hright]
  · simp [hright]

/-- The loop of `CheckForTaskRun` finds the first minimum of what `GetBestTaskToRun` compares. -/
theorem bestTask_eq_argmin {env : Env} {s : System ι τ} {κ : Type*} [LinearOrder κ]
    {f : Record ι → κ}
    (h : ∀ left right, s.getBestTaskToRun env left right = .RIGHT ↔ f right < f left) :
    s.bestTask env = s.scheduler.tasks.argmin f := by
  have hfold (first : Record ι) (rest : List (Record ι)) :
      some (rest.foldl (fun best r => if s.getBestTaskToRun env best r = .RIGHT then r else best)
        first) = (first :: rest).argmin f := by
    -- The last task of the list is compared with the best one of those before it.
    induction rest using List.reverseRecOn with
    | nil => exact List.argmin_singleton.symm
    | append_singleton rest next ih =>
      rw [List.foldl_append, List.foldl_cons, List.foldl_nil, ← List.cons_append,
        List.argmin_concat, ← ih]
      dsimp only
      simp only [h]
      exact apply_ite some ..
  unfold bestTask
  cases s.scheduler.tasks with
  | nil => exact (List.argmin_nil f).symm
  | cons first rest => exact hfold first rest

/-- The first minimum of a list comes strictly before what stands in front of it, and after nothing
that stands behind it. -/
theorem argmin_eq_some_iff {β γ : Type*} [LinearOrder γ] (f : β → γ) (l : List β) (best : β) :
    l.argmin f = some best ↔ ∃ before after, l = before ++ best :: after ∧
      (∀ b ∈ before, f best < f b) ∧ ∀ b ∈ after, f best ≤ f b := by
  constructor
  · intro h
    -- The first least element of a list is its head exactly if no later one is smaller.
    induction l generalizing best with
    | nil => cases h
    | cons first rest ih =>
      rw [List.argmin_cons] at h
      cases hrest : rest.argmin f with
      | none =>
        rw [hrest] at h
        obtain rfl := List.argmin_eq_none.mp hrest
        exact ⟨[], [], by rw [Option.some.inj h]; rfl, by simp, by simp⟩
      | some c =>
        rw [hrest] at h
        dsimp only at h
        split_ifs at h with hc
        · obtain rfl := Option.some.inj h
          obtain ⟨before, after, rfl, hbefore, hafter⟩ := ih c hrest
          exact ⟨first :: before, after, rfl, List.forall_mem_cons.mpr ⟨hc, hbefore⟩, hafter⟩
        · obtain rfl := Option.some.inj h
          exact ⟨[], rest, rfl, by simp, fun b hb =>
            (not_lt.mp hc).trans (List.le_of_mem_argmin hb hrest)⟩
  · rintro ⟨before, after, rfl, hbefore, hafter⟩
    -- Every element before the best one is greater, so the fold passes over it.
    induction before with
    | nil =>
      rw [List.nil_append, List.argmin_cons]
      cases hrest : after.argmin f with
      | none => rfl
      | some c => exact if_neg (not_lt.mpr (hafter c (List.argmin_mem hrest)))
    | cons first before ih =>
      obtain ⟨hfirst, hbefore⟩ := List.forall_mem_cons.mp hbefore
      rw [List.cons_append, List.argmin_cons, ih hbefore]
      exact if_pos hfirst

/-- The task that is run is the best one, has expired, and no other one is running. -/
theorem taskToRun_spec {env : Env} {s : System ι τ} {r : Record ι}
    (h : s.taskToRun env = some r) :
    s.scheduler.current = none ∧ s.bestTask env = some r ∧ s.isExpired env r = true := by
  unfold taskToRun at h
  split_ifs at h with hcurrent
  obtain ⟨hbest, hexpired⟩ := Option.filter_eq_some_iff.mp h
  exact ⟨by simpa using hcurrent, hbest, hexpired⟩

/-- The task that is run is one of the tasks. -/
theorem mem_of_taskToRun {env : Env} {s : System ι τ} {r : Record ι}
    (h : s.taskToRun env = some r) : r ∈ s.scheduler.tasks := by
  obtain ⟨-, hbest, -⟩ := taskToRun_spec h
  rw [bestTask_eq_argmin (getBestTaskToRun_eq_right_iff env s)] at hbest
  exact List.argmin_mem hbest

/-! ## The start of a task -/

section Start

variable [DecidableEq ι]

/-- The state in which `MasterSchedulerBackend::CheckForTaskRun` calls `Run`. -/
structure Starts (r : Record ι) (s s' : System ι τ) : Prop where
  runners : s'.runners = s.runners
  current : s'.scheduler.current = some r
  tasks : s'.scheduler.tasks = s.scheduler.tasks.erase r

/-- `MasterSchedulerBackend::CheckForTaskRun` starts a task. -/
theorem checkForTaskRun_of_some {env : Env} {s : System ι τ} {r : Record ι}
    (h : s.taskToRun env = some r) :
    ∃ s', Starts r s s' ∧ s.checkForTaskRun env = s'.occur env r.runner (.run r.task) := by
  obtain ⟨hcurrent, hbest, hexpired⟩ := taskToRun_spec h
  have hstarts : ∀ scheduler : MasterSchedulerBackend ι, Starts r s
      { s with
        scheduler := { scheduler with
          current := some r
          tasks := s.scheduler.tasks.erase r } } := fun scheduler => ⟨rfl, rfl, rfl⟩
  refine ⟨_, hstarts { s.restartTimeoutTimer.scheduler with taskCheckPending := false }, ?_⟩
  unfold checkForTaskRun
  dsimp only
  rw [if_neg (by simp [restartTimeoutTimer, hcurrent])]
  split
  case h_1 hnone => cases hbest.symm.trans hnone
  case h_2 best hsome =>
    obtain rfl : r = best := Option.some.inj (hbest.symm.trans hsome)
    exact if_pos hexpired

/-- `MasterSchedulerBackend::CheckForTaskRun` starts no task. -/
theorem checkForTaskRun_of_none {env : Env} {s : System ι τ} (h : s.taskToRun env = none) :
    (s.checkForTaskRun env).runners = s.runners ∧
      (s.checkForTaskRun env).scheduler.current = s.scheduler.current ∧
      (s.checkForTaskRun env).scheduler.tasks = s.scheduler.tasks := by
  unfold checkForTaskRun
  dsimp only
  split_ifs with hcurrent
  · exact ⟨rfl, rfl, rfl⟩
  have hnone : s.scheduler.current.isSome = false := by
    simpa [restartTimeoutTimer] using hcurrent
  rw [taskToRun, hnone, if_neg Bool.false_ne_true] at h
  split
  · exact ⟨rfl, rfl, rfl⟩
  case h_2 best hbest =>
    split_ifs with hexpired
    · exact absurd ((Option.filter_eq_some_iff.mpr ⟨hbest, hexpired⟩).symm.trans h)
        (Option.some_ne_none best)
    · exact ⟨rfl, rfl, rfl⟩

/-- `MasterSchedulerBackend::CheckForTaskRun` waits for the best task. -/
theorem checkForTaskRun_of_waits {env : Env} {s : System ι τ} {best : Record ι}
    (hcurrent : s.scheduler.current = none) (hbest : s.bestTask env = some best)
    (hlater : env.now < s.expirationTime env best) :
    (s.checkForTaskRun env).scheduler.taskTimer = some (s.expirationTime env best) := by
  unfold checkForTaskRun
  dsimp only
  rw [if_neg (by simp [restartTimeoutTimer, hcurrent])]
  split
  case h_1 hnone => cases hbest.symm.trans hnone
  case h_2 best' hsome =>
    obtain rfl : best = best' := Option.some.inj (hbest.symm.trans hsome)
    have hexpired : ¬s.isExpired env best = true := by
      simpa [isExpired] using hlater
    exact congrArg (fun s : System ι τ => s.scheduler.taskTimer) (if_neg hexpired)

end Start

/-! ## The order of the tasks -/

/-- `GetBestTaskToRun` does not prefer the right task. -/
def IsNoWorse (env : Env) (s : System ι τ) (left right : Record ι) : Prop :=
  s.getBestTaskToRun env left right ≠ .RIGHT

omit [IScheduledTask τ] in
/-- The tasks in another order. -/
def withTasks (s : System ι τ) (tasks : List (Record ι)) : System ι τ :=
  { s with scheduler := { s.scheduler with tasks } }

/-- A task is no worse than another one by its key. -/
theorem isNoWorse_iff (env : Env) (s : System ι τ) (left right : Record ι) :
    IsNoWorse env s left right ↔ s.key env left ≤ s.key env right := by
  rw [IsNoWorse, ne_eq, getBestTaskToRun_eq_right_iff, not_lt]

/-- A time that has passed counts as now. -/
theorem effectiveTime_eq (env : Env) (s : System ι τ) (r : Record ι) :
    s.effectiveTime env r = max (s.expirationTime env r) env.now := by
  unfold effectiveTime isExpired
  split_ifs with hexpired
  · exact (max_eq_right (of_decide_eq_true hexpired)).symm
  · exact (max_eq_left (not_le.mp (by simpa using hexpired)).le).symm

/-- In any order of the tasks the best task has the same place, and it is the same task where no
other one of this place comes before it. -/
theorem bestTask_withTasks {env : Env} {s : System ι τ} {best : Record ι}
    (hbest : s.bestTask env = some best) {tasks : List (Record ι)}
    (hperm : tasks.Perm s.scheduler.tasks) :
    (∃ best', (s.withTasks tasks).bestTask env = some best' ∧ s.key env best' = s.key env best) ∧
      ∀ before after, tasks = before ++ best :: after →
        (∀ r ∈ before, s.key env r ≠ s.key env best) →
        (s.withTasks tasks).bestTask env = some best := by
  have hargmin : (s.withTasks tasks).bestTask env = tasks.argmin (s.key env) :=
    bestTask_eq_argmin (getBestTaskToRun_eq_right_iff env (s.withTasks tasks))
  rw [hargmin]
  rw [bestTask_eq_argmin (getBestTaskToRun_eq_right_iff env s)] at hbest
  have hle : ∀ r ∈ tasks, s.key env best ≤ s.key env r := fun r hr =>
    List.le_of_mem_argmin (hperm.mem_iff.mp hr) hbest
  constructor
  · cases hbest' : tasks.argmin (s.key env) with
    | none =>
      rw [List.argmin_eq_none.mp hbest', List.nil_perm] at hperm
      rw [hperm] at hbest
      cases hbest
    | some best' =>
      refine ⟨best', rfl, le_antisymm ?_ (hle best' (List.argmin_mem hbest'))⟩
      exact List.le_of_mem_argmin (hperm.mem_iff.mpr (List.argmin_mem hbest)) hbest'
  · rintro before after rfl hbefore
    refine (argmin_eq_some_iff ..).mpr ⟨before, after, rfl, fun r hr => ?_, fun r hr => ?_⟩
    · exact lt_of_le_of_ne (hle r (by simp [hr])) (hbefore r hr).symm
    · exact hle r (by simp [hr])

/-- `GetBestTaskToRun` orders the tasks totally, by the key of being disabled, being blocked, the
expiration but not before now, and the priority. `CheckForTaskRun` picks the first least task. It
starts this task when its expiration is not later than now, and else waits for it with the list as
it is. Another order of the list changes the choice among tasks of the same key only. -/
theorem checkForTaskRun_chooses [DecidableEq ι] {env : Env} {s : System ι τ}
    (hcurrent : s.scheduler.current = none) (htasks : s.scheduler.tasks ≠ []) :
    (∀ a b, IsNoWorse env s a b ∨ IsNoWorse env s b a) ∧
    (∀ a b c, IsNoWorse env s a b → IsNoWorse env s b c → IsNoWorse env s a c) ∧
    (∀ a, s.key env a = toLex (decide (s.expirationTime env a = INT64_MAX),
      toLex (s.isBlocked a, toLex (max (s.expirationTime env a) env.now, s.priority a)))) ∧
    ∃ before best after, s.scheduler.tasks = before ++ best :: after ∧
      s.bestTask env = some best ∧
      (∀ r ∈ before, s.key env best < s.key env r) ∧
      (∀ r ∈ after, s.key env best ≤ s.key env r) ∧
      (s.expirationTime env best ≤ env.now → ∃ s' : System ι τ, s'.runners = s.runners ∧
        s'.scheduler.current = some best ∧ s'.scheduler.tasks = before ++ after ∧
        s.checkForTaskRun env = s'.occur env best.runner (.run best.task)) ∧
      (env.now < s.expirationTime env best →
        (s.checkForTaskRun env).runners = s.runners ∧
        (s.checkForTaskRun env).scheduler.current = none ∧
        (s.checkForTaskRun env).scheduler.tasks = s.scheduler.tasks ∧
        (s.checkForTaskRun env).scheduler.taskTimer = some (s.expirationTime env best)) ∧
      ∀ tasks, tasks.Perm s.scheduler.tasks →
        (∃ best', (s.withTasks tasks).bestTask env = some best' ∧
          s.key env best' = s.key env best) ∧
        ∀ before' after', tasks = before' ++ best :: after' →
          (∀ r ∈ before', s.key env r ≠ s.key env best) →
          (s.withTasks tasks).bestTask env = some best := by
  refine ⟨fun a b => ?_, fun a b c => ?_, fun a => ?_, ?_⟩
  · rw [isNoWorse_iff, isNoWorse_iff]
    exact le_total _ _
  · rw [isNoWorse_iff, isNoWorse_iff, isNoWorse_iff]
    exact le_trans
  · rw [key, effectiveTime_eq]
  cases hbest : s.bestTask env with
  | none =>
    rw [bestTask_eq_argmin (getBestTaskToRun_eq_right_iff env s), List.argmin_eq_none] at hbest
    exact absurd hbest htasks
  | some best =>
    have hargmin := hbest
    rw [bestTask_eq_argmin (getBestTaskToRun_eq_right_iff env s), argmin_eq_some_iff] at hargmin
    obtain ⟨before, after, hsplit, hbefore, hafter⟩ := hargmin
    refine ⟨before, best, after, hsplit, rfl, hbefore, hafter, fun hexpired => ?_, fun hlater => ?_,
      fun tasks hperm => bestTask_withTasks hbest hperm⟩
    · have hrun : s.taskToRun env = some best := by
        have hexpired' : s.isExpired env best = true := decide_eq_true hexpired
        rw [taskToRun, hcurrent, hbest, Option.filter_some, hexpired']
        rfl
      obtain ⟨s', hstarts, hcheck⟩ := checkForTaskRun_of_some hrun
      refine ⟨s', hstarts.runners, hstarts.current, ?_, hcheck⟩
      -- The record that is erased is the one behind the strictly worse ones.
      have hnot : best ∉ before := fun hmem => lt_irrefl _ (hbefore best hmem)
      rw [hstarts.tasks, hsplit, List.erase_append_right _ hnot, List.erase_cons_head]
    · have hnone : s.taskToRun env = none := by
        have hexpired : s.isExpired env best = false := decide_eq_false (not_le.mpr hlater)
        rw [taskToRun, hcurrent, hbest, Option.filter_some, hexpired]
        rfl
      obtain ⟨hrunners, hcurrent', htasks'⟩ := checkForTaskRun_of_none hnone
      exact ⟨hrunners, hcurrent'.trans hcurrent, htasks',
        checkForTaskRun_of_waits hcurrent hbest hlater⟩

/-- A user poll every second. -/
def userPoll (expiration : ℤ) : TaskObject StartupTask :=
  ⟨.poll { kind := .userPoll (fun _ => some []) true },
    { TaskBehavior.immediatePeriodic 1000 5000 60000 with expiration }⟩

/-- A master with three user polls, of which the last one is due later. -/
def userPolls (tasks : List TaskId) : System Unit StartupTask where
  scheduler := { tasks := tasks.map fun task => { runner := (), task } }
  runners _ :=
    { MContext.startup with
      tasks := { MContext.startup.tasks with boundTasks := [4, 5, 6] }
      objects := MContext.startup.objects ++ [userPoll 0, userPoll 0, userPoll 5] }

/-- The first of the two polls that are due is started. -/
theorem checkForTaskRun_chooses_userPolls :
    ∃ s' : System Unit StartupTask, s'.scheduler.current = some { runner := (), task := 4 } ∧
      (userPolls [6, 4, 5]).checkForTaskRun {} = s'.occur {} () (.run 4) := by
  obtain ⟨-, -, -, before, best, after, hsplit, hbest, -, -, hstarts, -⟩ :=
    @checkForTaskRun_chooses Unit StartupTask _ _ {} (userPolls [6, 4, 5]) rfl (by decide)
  have hfirst : (userPolls [6, 4, 5]).bestTask {} = some { runner := (), task := 4 } := by
    decide +kernel
  obtain rfl := Option.some.inj (hfirst.symm.trans hbest)
  obtain ⟨s', -, hcurrent, -, hcheck⟩ := hstarts (by decide +kernel)
  exact ⟨s', hcurrent, hcheck⟩

/-- The order of the other two polls decides which one of the two that are due is chosen. -/
theorem not_orderIndependent_userPolls :
    ¬∀ (before after before' after' : List TaskId) (task : TaskId),
      (before' ++ after').Perm (before ++ after) →
      (userPolls (before ++ task :: after)).bestTask {} = some { runner := (), task } →
      (userPolls (before' ++ task :: after')).bestTask {} = some { runner := (), task } := by
  intro h
  have hsecond := h [6] [5] [5] [6] 4 (by decide) (by decide +kernel)
  revert hsecond
  decide +kernel

end OpenDnp3.Master.System
