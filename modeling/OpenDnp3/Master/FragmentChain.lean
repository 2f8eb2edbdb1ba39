import OpenDnp3.Master.Recorder

/-!
# Chains of fragments

The fragments of an execution of a poll and what it means for them to be a chain: their sequence
numbers follow that of the request, the first fragment is the one with FIR, and the one with FIN is
the last. A chain is made longer at its end by the fragment that fits it, and that is the one which
`PollTask` takes as long as its count of fragments has not come back to zero. `KeepsChain` is what a
poll in progress does with a response.
-/

namespace OpenDnp3.Master

open App
open MeasurementHandler (processMeasurements)

/-! ## Chains -/

namespace Execution

/-- The fragments of an execution are a chain, and it is a success exactly when the chain has an
end. -/
structure IsChain (x : Execution) : Prop where
  seq : ∀ i header objects, x.fragments[i]? = some (header, objects) →
    ∃ seq, x.request = some seq ∧ header.control.seq = (seq + i) % 16
  fir : ∀ i header objects, x.fragments[i]? = some (header, objects) →
    (header.control.fir = true ↔ i = 0)
  fin : ∀ i header objects, x.fragments[i]? = some (header, objects) → header.control.fin = true →
    i + 1 = x.fragments.length
  success : x.ending = some (.completed .SUCCESS) ↔
    ∃ fragment ∈ x.fragments, fragment.1.control.fin = true

/-- The SEQ of the next fragment of the chain. -/
def nextSeq (x : Execution) : Option ℕ :=
  x.request.map fun seq => (seq + x.fragments.length) % 16

/-- The fragment goes on with the chain: it has FIR where the first one is due, and nowhere else,
and the parser accepts its objects. -/
def fits (x : Execution) (header : APDUResponseHeader) (objects : List UInt8) : Bool :=
  header.control.fir = x.fragments.isEmpty && (processMeasurements objects).1 = .OK

/-- The execution with one more fragment, after which it has succeeded if that has FIN. -/
def extend (x : Execution) (header : APDUResponseHeader) (objects : List UInt8) : Execution :=
  { x with
    fragments := x.fragments ++ [(header, objects)]
    ending := if header.control.fin then some (.completed .SUCCESS) else none }

/-- The execution with a response that it cannot take. -/
def fail (x : Execution) : Execution :=
  { x with ending := some (.completed .FAILURE_BAD_RESPONSE) }

end Execution

/-! ## What a poll does -/

section Steps

variable {τ : Type*}

/-- The execution in progress expects this response. -/
structure Execution.Expects (x : Execution) (c : MContext τ) (message : Message)
    (header : APDUResponseHeader) (objects : List UInt8) : Prop where
  accepted : c.accepted message = some (header, objects)
  function : header.function = .RESPONSE
  nextSeq : x.nextSeq = some header.control.seq

namespace Recorder

/-- The latest execution is one of a poll, and in progress. -/
structure Polls (r : Recorder τ) (x : Execution) (xs : List Execution) : Prop where
  executions : r.executions = x :: xs
  ending : x.ending = none
  isPoll : r.context.core.IsPoll x.task

/-- The fragments of the poll in progress have not all been counted away when the parser accepts one
more. -/
def Counted (r : Recorder τ) (e : Env × Event τ) : Prop :=
  ∀ x xs message header objects, r.Polls x xs → e.2 = .receive message →
    x.Expects r.context message header objects → (processMeasurements objects).1 = .OK →
      x.fragments.length < 2 ^ 32

variable [IMasterTask τ]

/-- A poll in progress goes on with the expected response that fits its chain, fails with one that
does not, for which no measurements are handed over, and ignores all other messages. -/
structure KeepsChain (r : Recorder τ) (e : Env × Event τ) : Prop where
  continues : ∀ x xs message header objects, r.Polls x xs → e.2 = .receive message →
    x.Expects r.context message header objects → x.fits header objects = true →
      (r.step e).executions = x.extend header objects :: xs
  fails : ∀ x xs message header objects, r.Polls x xs → e.2 = .receive message →
    x.Expects r.context message header objects → x.fits header objects = false →
      (r.step e).executions = x.fail :: xs ∧
        ∀ parsed result soe, .measurements parsed result soe ∈ r.context.outputs e → soe = []
  ignores : ∀ x xs message, r.Polls x xs → e.2 = .receive message →
    (∀ header objects, ¬x.Expects r.context message header objects) →
      (r.step e).executions = r.executions ∧ (r.context.step e).core = r.context.core

end Recorder

end Steps

/-! ## Longer chains -/

namespace Execution

/-- An execution without fragments. -/
theorem IsChain.of_nil {x : Execution} (hfragments : x.fragments = [])
    (hending : x.ending ≠ some (.completed .SUCCESS)) : x.IsChain where
  seq := by simp [hfragments]
  fir := by simp [hfragments]
  fin := by simp [hfragments]
  success := by simp [hfragments, hending]

/-- An execution that ends without one more fragment. -/
theorem IsChain.of_fragments {x y : Execution} (h : x.IsChain) (hopen : x.ending = none)
    (hrequest : y.request = x.request) (hfragments : y.fragments = x.fragments)
    (hending : y.ending ≠ some (.completed .SUCCESS)) : y.IsChain where
  seq := by simpa only [hrequest, hfragments] using h.seq
  fir := by simpa only [hfragments] using h.fir
  fin := by simpa only [hfragments] using h.fin
  success := by
    have hsuccess := h.success
    rw [hopen] at hsuccess
    rw [hfragments]
    exact ⟨fun hy => absurd hy hending, fun hfin => nomatch hsuccess.mpr hfin⟩

/-- No fragment of an execution in progress has FIN. -/
theorem IsChain.not_fin {x : Execution} (h : x.IsChain) (hopen : x.ending = none)
    {fragment : APDUResponseHeader × List UInt8} (hfragment : fragment ∈ x.fragments) :
    fragment.1.control.fin = false := by
  by_contra hfin
  have hsuccess := h.success.mpr ⟨fragment, hfragment, by simpa using hfin⟩
  rw [hopen] at hsuccess
  cases hsuccess

/-- The fragment that is due makes the chain longer. -/
theorem IsChain.extend {x : Execution} (h : x.IsChain) (hopen : x.ending = none)
    {header : APDUResponseHeader} (hseq : x.nextSeq = some header.control.seq)
    (hfir : header.control.fir = x.fragments.isEmpty) (objects : List UInt8) :
    (x.extend header objects).IsChain := by
  obtain ⟨seq, hrequest, hnext⟩ := Option.map_eq_some_iff.mp hseq
  -- A fragment of the longer chain is an old one or the new one.
  have hcases : ∀ i header' objects',
      (x.extend header objects).fragments[i]? = some (header', objects') →
        x.fragments[i]? = some (header', objects') ∨ i = x.fragments.length ∧ header' = header := by
    intro i header' objects' hi
    have hi : (x.fragments ++ [(header, objects)])[i]? = some (header', objects') := hi
    rw [List.getElem?_append] at hi
    split_ifs at hi with hlt
    · exact .inl hi
    · obtain ⟨hlast, hfragment⟩ := List.getElem?_eq_some_iff.mp hi
      have hzero : i - x.fragments.length = 0 := by simpa using hlast
      refine .inr ⟨by omega, ?_⟩
      simp only [hzero, List.getElem_cons_zero, Prod.mk.injEq] at hfragment
      exact hfragment.1.symm
  have hlength : (x.extend header objects).fragments.length = x.fragments.length + 1 :=
    List.length_append
  refine ⟨fun i header' objects' hi => ?_, fun i header' objects' hi => ?_,
    fun i header' objects' hi hfin => ?_, ?_⟩
  · rcases hcases i header' objects' hi with hold | ⟨rfl, rfl⟩
    · exact h.seq i header' objects' hold
    · exact ⟨seq, hrequest, hnext.symm⟩
  · rcases hcases i header' objects' hi with hold | ⟨rfl, rfl⟩
    · exact h.fir i header' objects' hold
    · rw [hfir, List.isEmpty_iff, List.length_eq_zero_iff]
  · rcases hcases i header' objects' hi with hold | ⟨rfl, rfl⟩
    · have hnot := h.not_fin hopen (List.mem_of_getElem? hold)
      rw [hfin] at hnot
      cases hnot
    · exact hlength.symm
  · show (if header.control.fin then some (Ending.completed .SUCCESS) else none) = _ ↔
      ∃ fragment ∈ x.fragments ++ [(header, objects)], fragment.1.control.fin = true
    constructor
    · intro hsuccess
      split_ifs at hsuccess with hfin
      exact ⟨(header, objects), List.mem_append_right _ (List.mem_singleton_self _), hfin⟩
    · rintro ⟨fragment, hmem, hfin⟩
      rcases List.mem_append.mp hmem with hold | hnew
      · rw [h.not_fin hopen hold] at hfin
        cases hfin
      · obtain rfl := List.mem_singleton.mp hnew
        exact if_pos hfin

variable {τ : Type*}

/-- How far the execution of a poll in progress is. The poll counts its fragments modulo 2³². -/
inductive Stage (x : Execution) (k : Core τ) (task : PollTask) : Prop where
  | ready (hstate : k.tstate = .TASK_READY) (hrequest : x.request = none)
      (hfragments : x.fragments = []) (hcount : task.rxCount = 0)
  | awaiting {seq : ℕ} (hstate : k.tstate = .WAIT_FOR_RESPONSE) (hrequest : x.request = some seq)
      (hsolSeq : k.solSeq = (seq + x.fragments.length) % 16) (hlength : x.fragments.length ≤ 2 ^ 32)
      (hcount : task.rxCount = .ofNat x.fragments.length)

/-- The latest execution agrees with the master. -/
structure Sound (x : Execution) (k : Core τ) : Prop where
  active : k.activeTask = if x.ending = none then some x.task else none
  chain : k.IsPoll x.task → x.IsChain
  stage : x.ending = none → ∀ task, k.taskList[x.task]? = some (.poll task) → x.Stage k task

/-- An execution that has ended. -/
theorem Sound.of_ended {x : Execution} {k : Core τ} (hactive : k.activeTask = none)
    (hending : x.ending ≠ none) (hchain : k.IsPoll x.task → x.IsChain) : x.Sound k where
  active := by rw [if_neg hending, hactive]
  chain := hchain
  stage hopen := absurd hopen hending

end Execution

/-- The task that is set. -/
theorem getElem?_setTask_self {τ : Type*} {k : Core τ} {id : TaskId} {task task' : Task τ}
    (htask : k.taskList[id]? = some task) : (k.setTask id task').taskList[id]? = some task' :=
  List.getElem?_set_self (List.getElem?_eq_some_iff.mp htask).1

/-- A poll that has received nothing transmits its request with the sequence number that it is
given. -/
theorem PollTask.buildRequest_some {t t' : PollTask} {space seq : ℕ} {header : APDUHeader}
    {objects : List UInt8} (h : t.buildRequest space seq = (some (header, objects), t')) :
    header.control.seq = seq ∧ (t.rxCount = 0 → t'.rxCount = 0) := by
  unfold PollTask.buildRequest at h
  split at h
  case h_1 builder _ _ =>
    obtain ⟨hrequest, rfl⟩ := Prod.mk.inj h
    obtain ⟨_, -, hheader⟩ := Option.map_eq_some_iff.mp hrequest
    obtain ⟨rfl, -⟩ := Prod.mk.inj hheader
    exact ⟨rfl, fun _ => rfl⟩
  all_goals
    obtain ⟨hrequest, rfl⟩ := Prod.mk.inj h
    obtain ⟨rfl, -⟩ := Prod.mk.inj (Option.some.inj hrequest)
    exact ⟨rfl, id⟩

/-- The poll expects what goes on with the chain, until the count of the fragments is zero again. -/
theorem PollTask.expects_eq {t : PollTask} {n : ℕ} (hcount : t.rxCount = .ofNat n)
    (header : APDUResponseHeader) :
    t.expects header = (header.control.fir = (n % 2 ^ 32 = 0 : Bool) : Bool) := by
  have hzero : t.rxCount = 0 ↔ n % 2 ^ 32 = 0 := by
    rw [hcount, ← UInt32.toNat_inj, UInt32.toNat_ofNat]
    rfl
  have hpos : 0 < t.rxCount ↔ ¬n % 2 ^ 32 = 0 := by
    rw [hcount, UInt32.lt_iff_toNat_lt, UInt32.toNat_ofNat]
    exact Nat.pos_iff_ne_zero
  unfold PollTask.expects
  cases header.control.fir <;> simp [hzero, hpos]

/-- A fragment that the poll takes is counted. -/
theorem PollTask.processResponse_of_takes {t : PollTask} {header : APDUResponseHeader}
    {objects : List UInt8}
    (h : (t.expects header && (MeasurementHandler.processMeasurements objects).1 = .OK) = true) :
    t.processResponse header objects =
      (if header.control.fin then .OK_FINAL else .OK_CONTINUE,
        { t with rxCount := t.rxCount + 1 }) := by
  obtain ⟨hexpects, hok⟩ := Bool.and_eq_true_iff.mp h
  rw [PollTask.processResponse, if_pos hexpects, PollTask.processMeasurements,
    if_pos (of_decide_eq_true hok)]

/-- The poll fails with any other fragment. -/
theorem PollTask.processResponse_of_not_takes {t : PollTask} {header : APDUResponseHeader}
    {objects : List UInt8}
    (h : (t.expects header && (MeasurementHandler.processMeasurements objects).1 = .OK) = false) :
    (t.processResponse header objects).1 = .ERROR_BAD_RESPONSE := by
  unfold PollTask.processResponse
  split_ifs with hexpects
  · have hbad : ¬(MeasurementHandler.processMeasurements objects).1 = .OK := by
      simpa [hexpects] using h
    rw [PollTask.processMeasurements, if_neg hbad]
  · rfl

namespace Execution

variable {τ : Type*} [IMasterTask τ]

/-- The execution goes on, or ends, where its request is due. -/
theorem Sound.resumed {env : Env} {k k' : Core τ} {acts : List Output} {x x' : Execution}
    (hresume : Resumes env x.task k k' acts) (hactive : k.activeTask = some x.task)
    (hseq : k.solSeq < 16) (hopen : x.ending = none) (hchain : k.IsPoll x.task → x.IsChain)
    (hready : ∀ task, k.taskList[x.task]? = some (.poll task) →
      x.Stage k task ∧ k.tstate = .TASK_READY)
    (hx' : x' = { x with
      request := (acts.findSome? Output.requested).or x.request
      ending := (acts.findSome? (Output.result x.task)).map .completed }) : x'.Sound k' := by
  have hpolls := hresume.polls_eq
  have hpoll : k'.IsPoll x.task → k.IsPoll x.task := by
    unfold Core.IsPoll
    rw [hpolls]
    exact id
  cases hresume with
  | @failed task task' htask hbuild =>
    simp only [List.findSome?, Output.requested, Output.result, if_true, Option.map_some,
      Option.none_or] at hx'
    subst hx'
    exact .of_ended rfl (by simp) fun h => (hchain (hpoll h)).of_fragments hopen rfl rfl (by simp)
  | @sent task task' header objects htask hbuild =>
    simp only [List.findSome?, Output.requested, Output.result, Option.map_none,
      Option.some_or] at hx'
    subst hx'
    -- The request of a poll goes out before its first fragment.
    have hpolled : ∀ poll : PollTask, task = .poll poll → x.fragments = [] ∧ poll.rxCount = 0 := by
      rintro poll rfl
      obtain ⟨hstage, hstate⟩ := hready poll htask
      cases hstage with
      | ready _ _ hfragments hcount => exact ⟨hfragments, hcount⟩
      | awaiting hwait => cases hwait.symm.trans hstate
    refine ⟨hactive.trans (if_pos rfl).symm, fun h => ?_, fun _ poll' hpoll' => ?_⟩
    · obtain ⟨poll, hpoll'⟩ := Core.isPoll_iff.mp (hpoll h)
      exact .of_nil (hpolled poll (Option.some.inj (htask.symm.trans hpoll'))).1 (by simp)
    · have htask' : task' = .poll poll' :=
        Option.some.inj ((getElem?_setTask_self htask).symm.trans hpoll')
      cases task with
      | other task =>
        obtain ⟨-, rfl⟩ := Prod.mk.inj hbuild
        cases htask'
      | poll poll =>
        obtain ⟨hrequest, rfl⟩ := Prod.mk.inj hbuild
        obtain rfl := Task.poll.inj htask'
        obtain ⟨hfragments, hcount⟩ := hpolled poll rfl
        obtain ⟨hheader, hzero⟩ := PollTask.buildRequest_some (Prod.ext hrequest rfl)
        refine .awaiting rfl rfl ?_ (by simp [hfragments]) ?_
        · show k.solSeq = _
          rw [hheader, hfragments, List.length_nil, Nat.add_zero, Nat.mod_eq_of_lt hseq]
        · refine (hzero hcount).trans ?_
          rw [hfragments]
          rfl

end Execution

end OpenDnp3.Master
