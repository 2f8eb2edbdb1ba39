import OpenDnp3.Master.Books

/-!
# The scheduler keeps its books

Every method of the scheduler keeps the invariant of the books (`Ledger`): it completes the tasks
that leave it, and each of them once.
-/

namespace OpenDnp3.Master

open App

namespace System

variable {ι τ : Type*}

variable [IScheduledTask τ] [DecidableEq ι]

/-! ### Completions -/

/-- From one state of a master to another, the buffer of a transmission in progress is left alone.
-/
def Sends (c c' : MContext τ) : Prop :=
  ∃ out, c'.log = c.log ++ out ∧ sending c.isSending out = some c'.isSending

omit [IScheduledTask τ] in
/-- The buffer of a transmission is left alone while nothing happens. -/
theorem Sends.refl (c : MContext τ) : Sends c c := ⟨[], (List.append_nil _).symm, rfl⟩

omit [IScheduledTask τ] in
/-- It is left alone by two steps that leave it alone. -/
theorem Sends.trans {c c' c'' : MContext τ} (h : Sends c c') (h' : Sends c' c'') : Sends c c'' := by
  obtain ⟨out, hlog, hsending⟩ := h
  obtain ⟨out', hlog', hsending'⟩ := h'
  refine ⟨out ++ out', by rw [hlog', hlog, List.append_assoc], ?_⟩
  rw [sending_append, hsending]
  exact hsending'

/-- The second state is the first one after the completions of these tasks. -/
structure Completes (records : List (Record ι)) (s s' : System ι τ) : Prop where
  scheduler : s'.scheduler = s.scheduler
  core : ∀ j, (s'.runners j).core = (s.runners j).core
  others : ∀ j, (∀ r ∈ records, r.runner ≠ j) → s'.runners j = s.runners j
  completions : ∀ r, s'.completions r = s.completions r + records.count r
  isSending : ∀ j, (s'.runners j).isSending = (s.runners j).isSending
  sends : ∀ j, Sends (s.runners j) (s'.runners j)

/-- The completions that a context reports are among its acts. -/
theorem countP_completes {out acts : List Output} (h : out.filter Output.isAct = acts)
    (id : TaskId) : out.countP (Output.completes id) = acts.countP (Output.completes id) := by
  rw [← h, List.countP_filter]
  refine List.countP_congr fun output _ => ?_
  cases output <;> simp [Output.completes, Output.isAct]

/-- A task that is told its completion is completed once. -/
theorem completes_completeTask (env : Env) {result : TaskCompletion}
    (hresult : result ≠ .FAILURE_MESSAGE_FORMAT_ERROR) {s : System ι τ} {r : Record ι}
    (hr : r.task < (s.runners r.runner).core.kinds.length) :
    Completes [r] s (s.completeTask env result r) := by
  have hid : r.task < (s.runners r.runner).objects.length := by
    simpa [Core.kinds, MContext.core] using hr
  have hacts := MContext.acts_completeTask (List.getElem?_eq_getElem hid) result env.now
    fun hformat => absurd hformat hresult
  obtain ⟨out, hlog, hout, hsending⟩ := hacts.exists_out
  -- Only the master of the task has done something.
  have hself : ∀ j, j = r.runner → (s.completeTask env result r).runners j =
      (s.runners r.runner).completeTask r.task result env.now := by
    rintro j rfl
    exact modifyRunner_self ..
  have hother : ∀ j, j ≠ r.runner → (s.completeTask env result r).runners j = s.runners j :=
    fun j hj => modifyRunner_of_ne hj ..
  refine ⟨rfl, fun j => ?_, fun j hj => hother j fun heq =>
    hj r (List.mem_singleton_self r) heq.symm,
    fun r' => ?_, fun j => ?_, fun j => ?_⟩
  · by_cases hj : j = r.runner
    · rw [hself j hj, hacts.core_eq, hj]
    · rw [hother j hj]
  · by_cases hj : r'.runner = r.runner
    · obtain ⟨j, id⟩ := r'
      obtain ⟨_, task⟩ := r
      obtain rfl : j = _ := hj
      rw [completions, hself _ rfl, hlog, List.countP_append, countP_completes hout, completions]
      congr 1
      by_cases hid : task = id <;> simp [Output.completes, hid]
    · rw [completions, hother _ hj, List.count_eq_zero_of_not_mem (by
        rintro hmem
        rw [List.mem_singleton.mp hmem] at hj
        exact hj rfl), Nat.add_zero, completions]
  · by_cases hj : j = r.runner
    · rw [hself j hj, MContext.completeTask_isSending, hj]
    · rw [hother j hj]
  · by_cases hj : j = r.runner
    · rw [hself j hj, hj]
      exact ⟨out, hlog, hsending⟩
    · rw [hother j hj]
      exact .refl _

omit [IScheduledTask τ] in
/-- Nothing is completed. -/
theorem Completes.refl (s : System ι τ) : Completes [] s s :=
  ⟨rfl, fun _ => rfl, fun _ _ => rfl, fun _ => rfl, fun _ => rfl, fun _ => .refl _⟩

omit [IScheduledTask τ] in
/-- The completions of two steps, one after the other. -/
theorem Completes.trans {records records' : List (Record ι)} {s s' s'' : System ι τ}
    (h : Completes records s s') (h' : Completes records' s' s'') :
    Completes (records ++ records') s s'' := by
  refine ⟨h'.scheduler.trans h.scheduler, fun j => (h'.core j).trans (h.core j), fun j hj => ?_,
    fun r => ?_, fun j => (h'.isSending j).trans (h.isSending j),
    fun j => (h.sends j).trans (h'.sends j)⟩
  · rw [h'.others j fun r hr => hj r (List.mem_append_right _ hr),
      h.others j fun r hr => hj r (List.mem_append_left _ hr)]
  · rw [h'.completions, h.completions, List.count_append, Nat.add_assoc]

/-- Tasks that are told their completion are completed once each. -/
theorem completes_foldl (env : Env) {result : TaskCompletion}
    (hresult : result ≠ .FAILURE_MESSAGE_FORMAT_ERROR) (records : List (Record ι))
    {s : System ι τ} (h : ∀ r ∈ records, r.task < (s.runners r.runner).core.kinds.length) :
    Completes records s (records.foldl (completeTask env result) s) := by
  induction records generalizing s with
  | nil => exact .refl s
  | cons r rest ih =>
    have hfirst := completes_completeTask env hresult (h r (List.mem_cons_self ..))
    refine hfirst.trans (ih fun r' hr' => ?_)
    rw [hfirst.core]
    exact h r' (List.mem_cons_of_mem _ hr')

omit [DecidableEq ι] in
/-- The kind of a task tells whether it is recurring. -/
theorem isRecurring_eq (s : System ι τ) (r : Record ι) :
    s.isRecurring r = ((s.runners r.runner).core.kinds[r.task]?).getD false := by
  unfold isRecurring object Core.kinds MContext.core
  rw [List.getElem?_map, List.getElem?_map]
  cases (s.runners r.runner).objects[r.task]? <;> rfl

/-- What the scheduler holds is the task of a master. -/
theorem Ledger.known {active : ι → Option TaskId} {s : System ι τ} (h : Ledger active s)
    {r : Record ι} (hr : r ∈ s.held) : r.task < (s.runners r.runner).core.kinds.length := by
  have haccounted := h.accounted r
  by_contra hlt
  rw [List.getElem?_eq_none (not_lt.mp hlt)] at haccounted
  exact absurd haccounted.1 (List.count_pos_iff.mpr hr).ne'

/-- The tasks that are completed leave the scheduler. -/
theorem Accounted.complete {kind : Option Bool} {online : Bool} {held completed lost : ℕ}
    (h : Accounted kind online (held + lost) completed) (hlost : kind = some true → lost = 0) :
    Accounted kind online held (completed + lost) := by
  match kind with
  | none =>
    obtain ⟨hheld, hcompleted⟩ := h
    exact ⟨by omega, by omega⟩
  | some true =>
    rw [hlost rfl] at h ⊢
    exact h
  | some false =>
    obtain ⟨hone, hoffline⟩ := h
    exact ⟨by omega, fun honline => by have := hoffline honline; omega⟩

/-- `MasterSchedulerBackend::SetRunnerOffline` in terms of the books. -/
structure GoesOffline (i : ι) (s s' : System ι τ) : Prop where
  current : s'.scheduler.current = s.scheduler.current.filter fun r => r.runner ≠ i
  held : s'.held = s.held.filter fun r => r.runner ≠ i
  completes : Completes ((s.held.filter fun r => r.runner = i).filter fun r => !s.isRecurring r) s
    { s' with scheduler := s.scheduler }

/-- The tasks of a master that goes offline leave the scheduler. -/
theorem goesOffline_setRunnerOffline (env : Env) (i : ι) {s : System ι τ}
    (h : ∀ r ∈ s.held, r.task < (s.runners r.runner).core.kinds.length) :
    GoesOffline i s (s.setRunnerOffline env i) := by
  refine ⟨rfl, ?_, ?_⟩
  · unfold held
    rw [List.filter_append]
    congr 1
    show (s.scheduler.current.filter fun r => r.runner ≠ i).toList =
      s.scheduler.current.toList.filter fun r => r.runner ≠ i
    cases s.scheduler.current with
    | none => rfl
    | some r => by_cases hr : r.runner = i <;> simp [Option.filter, hr]
  · have hcompletes := completes_foldl env (by decide : TaskCompletion.FAILURE_NO_COMMS ≠ _)
      ((s.held.filter fun r => r.runner = i).filter fun r => !s.isRecurring r) (s := s)
      fun r hr => h r (List.mem_of_mem_filter (List.mem_of_mem_filter hr))
    exact ⟨rfl, hcompletes.core, hcompletes.others, hcompletes.completions, hcompletes.isSending,
      hcompletes.sends⟩

omit [IScheduledTask τ] in
/-- The completions are counted in the log of the master. -/
theorem completions_modifyRunner {s : System ι τ} {i : ι} {c' : MContext τ}
    {out books : List Output}
    (hlog : c'.log = (s.runners i).log ++ out) (hbooks : out.filter Output.isBook = books)
    (id : TaskId) :
    (s.modifyRunner i fun _ => c').completions { runner := i, task := id } =
      s.completions { runner := i, task := id } + books.countP (Output.completes id) := by
  rw [completions, modifyRunner_self, hlog, List.countP_append, completions, ← hbooks,
    List.countP_filter]
  congr 1
  refine List.countP_congr fun output _ => ?_
  cases output <;> simp [Output.completes, Output.isBook]

omit [IScheduledTask τ] in
/-- A record of a master is counted by its task. -/
theorem count_map_record (i : ι) (ids : List TaskId) (r : Record ι) :
    (ids.map fun id => ({ runner := i, task := id } : Record ι)).count r =
      if r.runner = i then ids.count r.task else 0 := by
  split_ifs with hr
  · obtain ⟨_, id⟩ := r
    subst hr
    exact List.count_map_of_injective ids _ (fun a b h => by injection h) id
  · refine List.count_eq_zero_of_not_mem fun hmem => ?_
    obtain ⟨id, -, rfl⟩ := List.mem_map.mp hmem
    exact hr rfl

omit [IScheduledTask τ] in
/-- Tasks that are added are held. -/
theorem count_held_append (s : System ι τ) (records : List (Record ι)) (r : Record ι) :
    (held { s with scheduler := { s.scheduler with
      tasks := s.scheduler.tasks ++ records } }).count r = s.held.count r + records.count r := by
  unfold held
  rw [← List.append_assoc, List.count_append]

/-- In the second state the master has had its event, and the scheduler has not yet been called. -/
structure Enters (i : ι) (books : List Output) (s s' : System ι τ) : Prop where
  others : ∀ j, j ≠ i → s'.runners j = s.runners j
  scheduler : s'.scheduler = s.scheduler
  completions : ∀ id, s'.completions { runner := i, task := id } =
    s.completions { runner := i, task := id } + books.countP (Output.completes id)

omit [IScheduledTask τ] [DecidableEq ι] in
/-- The event of a master leaves what the scheduler holds. -/
theorem Enters.held {i : ι} {books : List Output} {s s' : System ι τ} (h : Enters i books s s') :
    s'.held = s.held := by
  unfold System.held
  rw [h.scheduler]

section Settle

variable {active : ι → Option TaskId} {i : ι} {s s' : System ι τ}

/-- The current task is the active one of its master. -/
theorem Ledger.current_update (h : Ledger active s) {task : Option TaskId} (ha : task = active i)
    (j : ι) (id : TaskId) : s.scheduler.current = some { runner := j, task := id } ↔
      Function.update active i task j = some id := by
  rw [ha, Function.update_eq_self]
  exact h.current j id

/-- The tasks of a master are well formed as long as neither they nor their kinds change. -/
theorem Ledger.wellFormed_of_eq (h : Ledger active s) {k : Core τ}
    (htasks : k.tasks = (s.runners i).core.tasks) (hkinds : k.kinds = (s.runners i).core.kinds) :
    k.WellFormed := by
  obtain ⟨hnodup, hmem⟩ := h.wellFormed i
  rw [← htasks] at hnodup
  refine ⟨hnodup, fun id => ?_⟩
  rw [htasks, hkinds]
  exact hmem id

/-- An event without calls of the scheduler keeps the books. -/
theorem Ledger.same (h : Ledger active s) (he : Enters i [] s s')
    (honline : (s'.runners i).isOnline = (s.runners i).isOnline)
    (htasks : (s'.runners i).core.tasks = (s.runners i).core.tasks)
    (hkinds : (s'.runners i).core.kinds = (s.runners i).core.kinds)
    (hactive : (s'.runners i).activeTask = active i) :
    Ledger (Function.update active i (s'.runners i).activeTask) s' := by
  refine h.of_runner i he.others (fun r _ => by rw [he.held]) ?_
    (h.wellFormed_of_eq htasks hkinds) fun id => ?_
  · rw [he.scheduler]
    exact h.current_update hactive
  · rw [hkinds, honline, he.held, he.completions]
    exact h.accounted { runner := i, task := id }

/-- The current task gives way, and goes back to the end of the list when it is recurring. -/
theorem completeCurrentFor_spec {r : Record ι} (hcurrent : s.scheduler.current = some r)
    (hr : r.runner = i) : (s.completeCurrentFor i).runners = s.runners ∧
      (s.completeCurrentFor i).scheduler.current = none ∧
      ∀ r', (s.completeCurrentFor i).held.count r' + (if s.isRecurring r then 0 else [r].count r') =
        s.held.count r' := by
  have hheld : ∀ r', s.held.count r' = [r].count r' + s.scheduler.tasks.count r' := by
    intro r'
    rw [held, hcurrent, Option.toList_some, List.count_append]
  unfold completeCurrentFor
  simp only [hcurrent, if_pos hr]
  split_ifs with hrecurring
  · refine ⟨rfl, rfl, fun r' => ?_⟩
    show (s.scheduler.tasks ++ [r]).count r' + 0 = _
    rw [hheld, List.count_append]
    omega
  · refine ⟨rfl, rfl, fun r' => ?_⟩
    show s.scheduler.tasks.count r' + [r].count r' = _
    rw [hheld]
    omega

/-- A task that was running is complete. -/
theorem Ledger.completed (h : Ledger active s) {id : TaskId} {result : TaskCompletion}
    (he : Enters i [.onTaskComplete id result, .completeCurrentFor] s s')
    (honline : (s'.runners i).isOnline = (s.runners i).isOnline)
    (htasks : (s'.runners i).core.tasks = (s.runners i).core.tasks)
    (hkinds : (s'.runners i).core.kinds = (s.runners i).core.kinds) (hid : active i = some id)
    (hactive : (s'.runners i).activeTask = none) :
    Ledger (Function.update active i (s'.runners i).activeTask) (s'.completeCurrentFor i) := by
  have hcurrent : s.scheduler.current = some { runner := i, task := id } := (h.current i id).mpr hid
  obtain ⟨hrunners, hnone, hheld⟩ :=
    completeCurrentFor_spec (i := i) (he.scheduler ▸ hcurrent : s'.scheduler.current = _) rfl
  have hother : ∀ r : Record ι, r ≠ { runner := i, task := id } →
      (s'.completeCurrentFor i).held.count r = s.held.count r := by
    intro r hr
    have hsame := hheld r
    have hnone : [({ runner := i, task := id } : Record ι)].count r = 0 :=
      List.count_eq_zero_of_not_mem fun hmem => hr (List.mem_singleton.mp hmem)
    rwa [hnone, ite_self, Nat.add_zero, he.held] at hsame
  -- One more completion of the task, and of no other one.
  have hcompletions : ∀ id', (s'.completeCurrentFor i).completions { runner := i, task := id' } =
      s.completions { runner := i, task := id' } + if id = id' then 1 else 0 := by
    intro id'
    rw [completions, hrunners]
    refine (he.completions id').trans (congrArg _ ?_)
    by_cases hid' : id = id' <;> simp [Output.completes, hid']
  refine h.of_runner i (fun j hj => by rw [hrunners, he.others j hj])
    (fun r hr => hother r fun heq => hr (congrArg Record.runner heq)) (fun j id' => ?_) ?_
    fun id' => ?_
  · rw [hnone, hactive]
    by_cases hj : j = i
    · subst hj
      simp
    · rw [Function.update_of_ne hj, ← h.current j id', hcurrent]
      simp [Ne.symm hj]
  · rw [hrunners]
    exact h.wellFormed_of_eq htasks hkinds
  · have haccounted := h.accounted { runner := i, task := id' }
    rw [hrunners, hkinds, honline, hcompletions]
    by_cases hid' : id = id'
    · -- A recurring task is held again, another one is completed.
      subst hid'
      have hsame := hheld { runner := i, task := id }
      rw [he.held, isRecurring_eq, hkinds, List.count_singleton_self] at hsame
      rw [if_pos rfl]
      rw [← hsame] at haccounted
      cases hkind : (s.runners i).core.kinds[id]? with
      | none =>
        rw [hkind] at haccounted
        exact absurd haccounted.1 (by simp)
      | some recurring =>
        rw [hkind] at haccounted
        cases recurring with
        | true => exact haccounted
        | false => exact haccounted.complete (by simp)
    · rw [if_neg hid', hother _ fun heq => hid' (congrArg Record.task heq).symm]
      exact haccounted

/-- A master that goes online adds its tasks. -/
theorem Ledger.up (h : Ledger active s) (env : Env)
    (he : Enters i ((s.runners i).core.tasks.all.map .add) s s')
    (hoffline : (s.runners i).isOnline = false) (honline : (s'.runners i).isOnline = true)
    (htasks : (s'.runners i).core.tasks = (s.runners i).core.tasks)
    (hkinds : (s'.runners i).core.kinds = (s.runners i).core.kinds)
    (hactive : (s'.runners i).activeTask = active i) :
    Ledger (Function.update active i (s'.runners i).activeTask)
      (((s.runners i).core.tasks.all.map .add).foldl (call env i) s') := by
  refine Ledger.of_alike ?_ (alike_foldl_add env i (s.runners i).core.tasks.all s')
  have hcount := count_held_append s'
    ((s.runners i).core.tasks.all.map fun id => ({ runner := i, task := id } : Record ι))
  refine h.of_runner i he.others (fun r hr => ?_) ?_ (h.wellFormed_of_eq htasks hkinds) fun id => ?_
  · rw [hcount, count_map_record, if_neg hr, he.held, Nat.add_zero]
  · show ∀ j id, s'.scheduler.current = some { runner := j, task := id } ↔ _
    rw [he.scheduler]
    exact h.current_update hactive
  · have haccounted := h.accounted { runner := i, task := id }
    have hmem := (h.wellFormed i).mem_all_iff id
    have hadded : (s.runners i).core.tasks.all.count id =
        if (s.runners i).core.kinds[id]? = some true then 1 else 0 := by
      rw [List.Nodup.count (h.wellFormed i).nodup]
      exact if_congr hmem rfl rfl
    have hcompletions := he.completions id
    rw [List.countP_eq_zero.mpr (by simp [Output.completes]), Nat.add_zero] at hcompletions
    rw [hcount, count_map_record, if_pos rfl, he.held, hadded]
    show Accounted (s'.runners i).core.kinds[id]? (s'.runners i).isOnline _
      (s'.completions { runner := i, task := id })
    rw [hcompletions, hkinds, honline]
    rw [hoffline] at haccounted
    cases hkind : (s.runners i).core.kinds[id]? with
    | none =>
      rw [hkind] at haccounted
      exact haccounted
    | some recurring =>
      rw [hkind] at haccounted
      cases recurring with
      | true =>
        -- A task that was not held is held once.
        have hnone : s.held.count { runner := i, task := id } = 0 := haccounted
        rw [hnone]
        rfl
      | false => exact ⟨haccounted.1, nofun⟩

/-- A master that goes offline loses its tasks. -/
theorem Ledger.down (h : Ledger active s) (env : Env) (he : Enters i [.setRunnerOffline] s s')
    (hoffline : (s'.runners i).isOnline = false)
    (htasks : (s'.runners i).core.tasks = (s.runners i).core.tasks)
    (hkinds : (s'.runners i).core.kinds = (s.runners i).core.kinds)
    (hactive : (s'.runners i).activeTask = none) :
    Ledger (Function.update active i (s'.runners i).activeTask) (s'.setRunnerOffline env i) := by
  have hknown : ∀ r ∈ s'.held, r.task < (s'.runners r.runner).core.kinds.length := by
    intro r hr
    rw [he.held] at hr
    have hlt := h.known hr
    by_cases hj : r.runner = i
    · rw [hj, hkinds]
      exact hj ▸ hlt
    · rw [he.others _ hj]
      exact hlt
  obtain ⟨hcurrent, hheld, hcompletes⟩ := goesOffline_setRunnerOffline env i hknown
  have hcore : ∀ j, ((s'.setRunnerOffline env i).runners j).core = (s'.runners j).core :=
    hcompletes.core
  refine h.of_runner i (fun j hj => ?_) (fun r hr => ?_) (fun j id => ?_) ?_ fun id => ?_
  · rw [← he.others j hj]
    refine hcompletes.others j fun r hr => ?_
    have howned := List.of_mem_filter (List.mem_of_mem_filter hr)
    exact fun heq => hj (heq.symm.trans (of_decide_eq_true howned))
  · rw [hheld, he.held, List.count_filter (by simpa using hr)]
  · rw [hcurrent, he.scheduler, hactive]
    by_cases hj : j = i
    · subst hj
      simp [Option.filter_eq_some_iff]
    · rw [Function.update_of_ne hj, ← h.current j id]
      simp [Option.filter_eq_some_iff, hj]
  · rw [hcore]
    exact h.wellFormed_of_eq htasks hkinds
  · have haccounted := h.accounted { runner := i, task := id }
    have hnone : (s'.setRunnerOffline env i).held.count { runner := i, task := id } = 0 := by
      rw [hheld]
      refine List.count_eq_zero_of_not_mem fun hmem => ?_
      have hne := List.of_mem_filter hmem
      simp at hne
    -- The completions of the tasks that are not recurring.
    have hlost : s'.isRecurring { runner := i, task := id } = false →
        (s'.setRunnerOffline env i).completions { runner := i, task := id } =
          s.completions { runner := i, task := id } +
            s.held.count { runner := i, task := id } := by
      intro hrecurring
      refine (hcompletes.completions { runner := i, task := id }).trans ?_
      rw [he.completions, he.held, List.count_filter (by simp [hrecurring]),
        List.count_filter (by simp)]
      rfl
    rw [isRecurring_eq, hkinds] at hlost
    rw [hcore, hkinds, hnone,
      show ((s'.setRunnerOffline env i).runners i).isOnline = false from
        (congrArg Core.isOnline (hcore i)).trans hoffline]
    cases hkind : (s.runners i).core.kinds[id]? with
    | none =>
      rw [hkind] at haccounted hlost
      exact ⟨rfl, by rw [hlost rfl, haccounted.1, haccounted.2]⟩
    | some recurring =>
      rw [hkind] at haccounted hlost
      cases recurring with
      | true => rfl
      | false =>
        refine ⟨?_, fun _ => rfl⟩
        have hone := haccounted.1
        rw [hlost rfl]
        omega

/-- A new task has no entry yet. -/
theorem Ledger.fresh (h : Ledger active s) {id : TaskId}
    (hid : (s.runners i).core.kinds.length ≤ id) :
    s.held.count { runner := i, task := id } = 0 ∧
      s.completions { runner := i, task := id } = 0 := by
  have haccounted := h.accounted { runner := i, task := id }
  rwa [List.getElem?_eq_none hid] at haccounted

/-- A new task is added to the list, or its completion is reported at once. -/
theorem Ledger.added (h : Ledger active s) {recurring : Bool} {records : List (Record ι)}
    {books : List Output} (he : Enters i books s s')
    (honline : (s'.runners i).isOnline = (s.runners i).isOnline)
    (hwellFormed : (s'.runners i).core.WellFormed)
    (hkinds : (s'.runners i).core.kinds = (s.runners i).core.kinds ++ [recurring])
    (hactive : (s'.runners i).activeTask = active i)
    (hother : ∀ r : Record ι, r ≠ { runner := i, task := (s.runners i).core.kinds.length } →
      records.count r = 0)
    (hbooks : ∀ id, id ≠ (s.runners i).core.kinds.length →
      books.countP (Output.completes id) = 0)
    (hnew : Accounted (some recurring) (s.runners i).isOnline
      (records.count { runner := i, task := (s.runners i).core.kinds.length })
      (books.countP (Output.completes (s.runners i).core.kinds.length))) :
    Ledger (Function.update active i (s'.runners i).activeTask)
      { s' with scheduler := { s'.scheduler with tasks := s'.scheduler.tasks ++ records } } := by
  have hcount := count_held_append s' records
  -- Records of other tasks are counted as before, and the runner's new task is the last one it
  -- knows.
  refine h.of_runner i he.others (fun r hr => ?_) ?_ hwellFormed fun id => ?_
  · rw [hcount, hother r fun heq => hr (congrArg Record.runner heq), he.held, Nat.add_zero]
  · show ∀ j id, s'.scheduler.current = some { runner := j, task := id } ↔ _
    rw [he.scheduler]
    exact h.current_update hactive
  · rw [hcount, he.held]
    show Accounted (s'.runners i).core.kinds[id]? (s'.runners i).isOnline _
      (s'.completions { runner := i, task := id })
    rw [he.completions, hkinds, honline]
    by_cases hid : id = (s.runners i).core.kinds.length
    · obtain ⟨hheld, hcompletions⟩ := h.fresh (i := i) hid.ge
      rw [hheld, hcompletions, Nat.zero_add, Nat.zero_add]
      subst hid
      rw [List.getElem?_concat_length]
      exact hnew
    · -- Every other task of this runner keeps its kind, its records and its completions.
      have haccounted := h.accounted { runner := i, task := id }
      rw [hother _ fun heq => hid (congrArg Record.task heq), hbooks id hid]
      have hsame : ((s.runners i).core.kinds ++ [recurring])[id]? =
          (s.runners i).core.kinds[id]? := by
        by_cases hlt : id < (s.runners i).core.kinds.length
        · exact List.getElem?_append_left hlt
        · rw [List.getElem?_eq_none (not_lt.mp hlt), List.getElem?_eq_none]
          rw [List.length_append, List.length_singleton]
          exact Nat.lt_of_le_of_ne (not_lt.mp hlt) (Ne.symm hid)
      rw [hsame]
      exact haccounted

omit [IScheduledTask τ] in
/-- Another record does not count. -/
theorem count_singleton_of_ne {r r' : Record ι} (h : r' ≠ r) : [r].count r' = 0 :=
  List.count_eq_zero_of_not_mem fun hmem => h (List.mem_singleton.mp hmem)

omit [DecidableEq ι] in
/-- A new recurring task is bound. -/
theorem wellFormed_bind {k k' : Core τ} (h : k.WellFormed)
    (htasks : k'.tasks.all = k.tasks.all ++ [k.kinds.length])
    (hkinds : k'.kinds = k.kinds ++ [true]) : k'.WellFormed := by
  have hnew : k.kinds.length ∉ k.tasks.all := by
    rw [h.mem_all_iff, List.getElem?_eq_none le_rfl]
    exact nofun
  refine ⟨?_, fun id => ?_⟩
  · rw [htasks, List.nodup_append]
    refine ⟨h.nodup, List.nodup_singleton _, fun a ha b hb heq => hnew ?_⟩
    rwa [← List.mem_singleton.mp hb, ← heq]
  · rw [htasks, hkinds, List.mem_append, List.mem_singleton, h.mem_all_iff]
    by_cases hid : id < k.kinds.length
    · rw [List.getElem?_append_left hid]
      simp [hid.ne]
    · by_cases heq : id = k.kinds.length
      · subst heq
        simp
      · have hlt : k.kinds.length < id := Nat.lt_of_le_of_ne (not_lt.mp hid) (Ne.symm heq)
        rw [List.getElem?_eq_none (not_lt.mp hid), List.getElem?_eq_none (by simp; exact hlt)]
        simp [heq]

omit [DecidableEq ι] in
/-- A new task that is not recurring is not bound. -/
theorem wellFormed_add {k k' : Core τ} (h : k.WellFormed) (htasks : k'.tasks = k.tasks)
    (hkinds : k'.kinds = k.kinds ++ [false]) : k'.WellFormed := by
  refine ⟨by rw [htasks]; exact h.nodup, fun id => ?_⟩
  rw [htasks, hkinds, h.mem_all_iff]
  by_cases hid : id < k.kinds.length
  · rw [List.getElem?_append_left hid]
  · rw [List.getElem?_eq_none (not_lt.mp hid)]
    by_cases heq : id = k.kinds.length
    · subst heq
      simp
    · have hlt : k.kinds.length < id := Nat.lt_of_le_of_ne (not_lt.mp hid) (Ne.symm heq)
      rw [List.getElem?_eq_none (by simp; exact hlt)]

/-- `MContext::ScheduleRecurringPollTask`. -/
theorem Ledger.recurring (h : Ledger active s) (env : Env)
    (he : Enters i (if (s.runners i).isOnline then [.add (s.runners i).core.kinds.length] else [])
      s s')
    (honline : (s'.runners i).isOnline = (s.runners i).isOnline)
    (htasks : (s'.runners i).core.tasks.all =
      (s.runners i).core.tasks.all ++ [(s.runners i).core.kinds.length])
    (hkinds : (s'.runners i).core.kinds = (s.runners i).core.kinds ++ [true])
    (hactive : (s'.runners i).activeTask = active i) :
    Ledger (Function.update active i (s'.runners i).activeTask)
      ((if (s.runners i).isOnline then [Output.add (s.runners i).core.kinds.length] else []).foldl
        (call env i) s') := by
  have hwellFormed := wellFormed_bind (h.wellFormed i) htasks hkinds
  split_ifs at he ⊢ with hsession
  · refine Ledger.of_alike ?_ (alike_foldl_add env i [(s.runners i).core.kinds.length] s')
    refine h.added he honline hwellFormed hkinds hactive
      (fun r hr => count_singleton_of_ne hr) (fun id _ => rfl) ?_
    rw [hsession]
    exact List.count_singleton_self
  · refine Ledger.of_alike (h.added he honline hwellFormed hkinds hactive
      (fun r hr => rfl) (fun id _ => rfl) ?_) ⟨rfl, rfl, (List.append_nil _).symm⟩
    rw [(Bool.not_eq_true _).mp hsession]
    rfl

/-- `MContext::ScheduleAdhocTask`. -/
theorem Ledger.adhoc (h : Ledger active s) (env : Env)
    (he : Enters i [if (s.runners i).isOnline then .add (s.runners i).core.kinds.length
      else .onTaskComplete (s.runners i).core.kinds.length .FAILURE_NO_COMMS] s s')
    (honline : (s'.runners i).isOnline = (s.runners i).isOnline)
    (htasks : (s'.runners i).core.tasks = (s.runners i).core.tasks)
    (hkinds : (s'.runners i).core.kinds = (s.runners i).core.kinds ++ [false])
    (hactive : (s'.runners i).activeTask = active i) :
    Ledger (Function.update active i (s'.runners i).activeTask)
      (([if (s.runners i).isOnline then Output.add (s.runners i).core.kinds.length
        else .onTaskComplete (s.runners i).core.kinds.length .FAILURE_NO_COMMS]).foldl
        (call env i) s') := by
  have hwellFormed := wellFormed_add (h.wellFormed i) htasks hkinds
  split_ifs at he ⊢ with hsession
  · refine Ledger.of_alike ?_ (alike_foldl_add env i [(s.runners i).core.kinds.length] s')
    refine h.added he honline hwellFormed hkinds hactive
      (fun r hr => count_singleton_of_ne hr) (fun id _ => rfl) ?_
    rw [hsession]
    exact ⟨by simp [Output.completes], nofun⟩
  · refine Ledger.of_alike (h.added he honline hwellFormed hkinds hactive
      (fun r hr => rfl) (fun id hid => ?_) ?_) ⟨rfl, rfl, (List.append_nil _).symm⟩
    · simp [Output.completes, Ne.symm hid]
    · simp [Accounted, Output.completes]

end Settle

/-- An event of a master keeps the books right. -/
theorem Ledger.settle {active : ι → Option TaskId} {s : System ι τ} (h : Ledger active s)
    (env : Env) (i : ι) {c' : MContext τ} {out books : List Output}
    (hlog : c'.log = (s.runners i).log ++ out) (hbooks : out.filter Output.isBook = books)
    (hsettles : Settles (active i) (s.runners i).core c'.core books) :
    Ledger (Function.update active i c'.activeTask)
      (out.foldl (call env i) (s.modifyRunner i fun _ => c')) := by
  refine Ledger.of_alike ?_ (alike_foldl_call env i out (.refl _))
  have he : Enters i books s (s.modifyRunner i fun _ => c') :=
    ⟨fun j hj => modifyRunner_of_ne hj .., rfl, completions_modifyRunner hlog hbooks⟩
  have hself : (s.modifyRunner i fun _ => c').runners i = c' := modifyRunner_self ..
  rw [hbooks]
  generalize (s.modifyRunner i fun _ => c') = s' at he hself ⊢
  subst hself
  cases hsettles with
  | same honline htasks hkinds hactive => exact h.same he honline htasks hkinds hactive
  | up hoffline honline htasks hkinds hactive =>
    exact h.up env he hoffline honline htasks hkinds hactive
  | down honline hoffline htasks hkinds hactive =>
    exact h.down env he hoffline htasks hkinds hactive
  | completed honline htasks hkinds hid hactive =>
    exact h.completed he honline htasks hkinds hid hactive
  | recurring honline htasks hkinds hactive =>
    exact h.recurring env he honline htasks hkinds hactive
  | adhoc honline htasks hkinds hactive =>
    exact h.adhoc env he honline htasks hkinds hactive

end System

end OpenDnp3.Master
