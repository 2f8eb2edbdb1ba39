import OpenDnp3.Master.ChainInvariant

/-!
# The fragments of a poll

The fragments of an execution of a poll are a chain: their sequence numbers follow that of the
request, the first fragment is the one with FIR, and the one with FIN is the last. `PollTaskBase`
counts its fragments modulo 2³², so that a chain begins again where the count comes back to zero.
-/

namespace OpenDnp3.Master

open App

open MeasurementHandler (processMeasurements)

namespace Recorder

variable {τ : Type*} [IMasterTask τ]

variable {r : Recorder τ} {e : Env × Event τ} {x : Execution} {xs : List Execution}

variable {env : Env} {message : Message} {header : APDUResponseHeader} {objects : List UInt8}

/-! ## Runs -/

/-- A poll keeps its chain exactly while its fragments are counted. -/
theorem Inv.keepsChain_iff (h : r.Inv) (e : Env × Event τ) : r.KeepsChain e ↔ r.Counted e := by
  obtain ⟨env, event⟩ := e
  constructor
  · rintro hkeeps x xs message header objects hpolls rfl hexpects hok
    by_contra hlt
    have hawaits := (h.expects_iff hpolls).mp hexpects
    obtain ⟨task, htask, hstage⟩ := h.exists_stage hpolls
    obtain ⟨hexecutions, -⟩ := h.step_of_poll hpolls hawaits htask env
    cases hstage with
    | ready hstate _ _ _ => cases hstate.symm.trans hawaits.tstate
    | awaiting _ _ _ hlength hcount =>
      -- The count is zero again, so the poll takes what does not go on with its chain.
      have hlast : x.fragments.length = 2 ^ 32 := by omega
      have hnil : x.fragments.isEmpty = false := by
        rw [List.isEmpty_eq_false_iff, ← List.length_pos_iff, hlast]
        decide
      have htakes : takes task header objects = header.control.fir := by
        unfold takes
        rw [PollTask.expects_eq hcount, hlast, hok]
        cases header.control.fir <;> rfl
      have hfits : x.fits header objects = !header.control.fir := by
        unfold Execution.fits
        rw [hnil, hok]
        cases header.control.fir <;> rfl
      rw [htakes] at hexecutions
      have hne : ∀ {ending : Option Ending}, ending = none ∨ ending = some (.completed .SUCCESS) →
          ending ≠ some (.completed .FAILURE_BAD_RESPONSE) := by
        rintro ending (rfl | rfl) <;> decide
      have hextend : (x.extend header objects).ending = none ∨
          (x.extend header objects).ending = some (.completed .SUCCESS) := by
        unfold Execution.extend
        cases header.control.fin
        · exact .inl rfl
        · exact .inr rfl
      cases hfir : header.control.fir with
      | true =>
        rw [hfir, if_pos rfl] at hexecutions
        have hfail := (hkeeps.fails x xs message header objects hpolls rfl hexpects
          (by rw [hfits, hfir]; rfl)).1
        have heq := (List.cons.inj (hexecutions.symm.trans hfail)).1
        exact hne hextend (congrArg Execution.ending heq)
      | false =>
        rw [hfir, if_neg Bool.false_ne_true] at hexecutions
        have hcontinue := hkeeps.continues x xs message header objects hpolls rfl hexpects
          (by rw [hfits, hfir]; rfl)
        have heq := (List.cons.inj (hcontinue.symm.trans hexecutions)).1
        exact hne hextend (congrArg Execution.ending heq)
  · intro hcounted
    refine ⟨?_, ?_, ?_⟩
    · rintro x xs message header objects hpolls rfl hexpects hfits
      rw [(h.step_of_expected hpolls hexpects
        (hcounted x xs message header objects hpolls rfl hexpects) env).1, if_pos hfits]
    · rintro x xs message header objects hpolls rfl hexpects hfits
      have hcount := hcounted x xs message header objects hpolls rfl hexpects
      refine ⟨?_, fun parsed result soe hmem => ?_⟩
      · rw [(h.step_of_expected hpolls hexpects hcount env).1, hfits, if_neg Bool.false_ne_true]
      · have hawaits := (h.expects_iff hpolls).mp hexpects
        obtain ⟨task, htask, hstage⟩ := h.exists_stage hpolls
        obtain ⟨object, hobject, hpoll⟩ := MContext.exists_object htask
        have hactive : r.context.activeTask = some x.task := by
          rw [show r.context.activeTask = _ from (h.sound x xs hpolls.executions).active,
            if_pos hpolls.ending]
        obtain ⟨hparsed, rfl⟩ := hawaits.measurements_mem hactive hobject hmem
        rw [hpoll] at hparsed
        have hparsed : (if task.expects header then some objects else none) = some parsed := hparsed
        split_ifs at hparsed with hexpected
        obtain rfl := Option.some.inj hparsed
        -- The poll parses the fragment that is due, so the parser refuses its objects.
        refine processMeasurements_of_refused fun hok => ?_
        cases hstage with
        | ready hstate _ _ _ => cases hstate.symm.trans hawaits.tstate
        | awaiting _ _ _ _ hcount' =>
          have htakes : takes task header objects = Execution.fits _ header objects :=
            takes_eq_fits hcount' hcount
          rw [hfits, takes, hexpected, hok] at htakes
          cases htakes
    · rintro x xs message hpolls rfl hnot
      have hnot' : ∀ header objects, ¬r.context.Awaits message header objects :=
        fun header objects hawaits => hnot header objects ((h.expects_iff hpolls).mpr hawaits)
      exact ⟨(h.step_of_not_awaits hnot').1, (h.step_of_not_awaits hnot').2.1⟩

omit [IMasterTask τ] in
/-- The invariant holds of a new master. -/
theorem inv_init (addresses : Addresses) (params : MasterParams) (tasks : MasterTasks)
    (objects : List (TaskObject τ)) :
    Inv { context := .init addresses params tasks objects } where
  session := .of_idle rfl rfl rfl fun _ => rfl
  solSeq_lt := Nat.succ_pos 15
  valid := by simp
  chains := by simp
  idle _ := rfl
  sound := by simp

/-- In every run, the polls keep their chains in every step, and are chains, exactly when their
fragments are counted. -/
theorem run_keepsChain_iff (addresses : Addresses) (params : MasterParams) (tasks : MasterTasks)
    (objects : List (TaskObject τ)) (events : List (Env × Event τ))
    (honline : Machine.StepsMeet step RunsOnline
      { context := .init addresses params tasks objects } events) :
    (Machine.StepsMeet step KeepsChain { context := .init addresses params tasks objects } events ∧
      ∀ x ∈ (Machine.run step { context := .init addresses params tasks objects }
        events).executions,
        (Machine.run step { context := .init addresses params tasks objects }
          events).context.core.IsPoll x.task → x.IsChain) ↔
      Machine.StepsMeet step Counted
        { context := .init addresses params tasks objects } events := by
  have hinit := inv_init addresses params tasks objects
  have hiff := Machine.StepsMeet.iff_of_invariant step
    (P := fun r e => RunsOnline r e ∧ KeepsChain r e) (Q := fun r e => RunsOnline r e ∧ Counted r e)
    (fun r e h => and_congr_right' (Inv.keepsChain_iff h e)) (fun r e h hQ =>
      h.step hQ.1 hQ.2) hinit
    events
  rw [Machine.stepsMeet_and, Machine.stepsMeet_and, and_iff_right honline,
    and_iff_right honline] at hiff
  refine ⟨fun h => hiff.mp h.1, fun h => ⟨hiff.mpr h, ?_⟩⟩
  exact (Machine.run_invariant step (fun r e h hQ => h.step hQ.1 hQ.2) _ events hinit
    ((Machine.stepsMeet_and step _ events).mpr ⟨honline, h⟩)).chains

omit [IMasterTask τ] in
/-- Without a message nothing is to be counted. -/
theorem counted_of_not_receive (r : Recorder τ) {e : Env × Event τ}
    (hreceive : ∀ message, e.2 ≠ .receive message) : r.Counted e :=
  fun _ _ message _ _ _ he => absurd he (hreceive message)

/-- The integrity poll receives nothing before its first fragment. -/
theorem counted_integrityPoll (s : Recorder StartupTask) :
    Machine.StepsMeet step Counted s MContext.integrityPoll :=
  ⟨counted_of_not_receive _ (by simp), counted_of_not_receive _ (by simp),
    counted_of_not_receive _ (by simp), trivial⟩

/-- Where no poll has taken many fragments, none has been counted away. -/
theorem Counted.of_short {r : Recorder StartupTask} {e : Env × Event StartupTask}
    (h : ∀ x ∈ r.executions, x.fragments.length < 2 ^ 32) : r.Counted e := by
  intro x xs message header objects hpolls _ _ _
  refine h x ?_
  rw [hpolls.executions]
  exact List.mem_cons_self

/-- The first fragment of a response in two. -/
def firstFragment : Env × Event StartupTask :=
  ({}, MContext.fromOutstation [0x80, 0x81, 0x00, 0x00])

/-- The last fragment of a response in two. -/
def lastFragment : Env × Event StartupTask :=
  ({}, MContext.fromOutstation [0x41, 0x81, 0x00, 0x00])

/-- A master that takes both fragments of a response, whose poll hands over both. -/
theorem run_keepsChain_twoFragments :
    let events := MContext.integrityPoll ++ [firstFragment, lastFragment]
    let s := Machine.run step { context := MContext.startup } events
    (s.executions.map fun x => x.fragments.length) = [2] ∧
      Machine.StepsMeet step KeepsChain { context := MContext.startup } events ∧
      ∀ x ∈ s.executions, s.context.core.IsPoll x.task → x.IsChain := by
  intro events s
  have honline : Machine.StepsMeet step RunsOnline { context := MContext.startup } events := by
    decide +kernel
  have hcounted : Machine.StepsMeet step Counted { context := MContext.startup } events := by
    refine (counted_integrityPoll _).append step ⟨.of_short ?_, .of_short ?_, trivial⟩
    · decide +kernel
    · decide +kernel
  exact ⟨by decide +kernel, (run_keepsChain_iff _ _ _ _ _ honline).mpr hcounted⟩

/-! ### A count that comes back to zero -/

/-- A fragment that continues the response leaves the addresses alone. -/
theorem addresses_onReceive {c : MContext τ} (h : c.Awaits message header objects) {id : TaskId}
    {object : TaskObject τ} (hactive : c.activeTask = some id)
    (hobject : c.objects[id]? = some object)
    (hresult : (object.task.processResponse env header objects).1 = .OK_CONTINUE)
    (hcon : header.control.con = false) (hiin : header.IIN = 0) :
    (c.onReceive env message).addresses = c.addresses := by
  rw [MContext.onReceive_eq, h.accepted, Option.elim_some]
  simp only [MContext.processAPDU, h.function, MContext.processResponse, if_pos h.tstate,
    MContext.onResponseWaitForResponse, h.seq, ne_eq, not_true_eq_false, if_false, hactive, hobject,
    MContext.onTaskResponse, hresult, hcon, Bool.false_eq_true, MContext.finishResponse, hiin]
  cases object.task.measurements header objects <;> rfl

/-- The header of a response fragment without FIN. -/
def fragmentHeader (fir : Bool) (seq : ℕ) : APDUResponseHeader where
  control := { fir, fin := false, con := false, uns := false, seq := seq % 16 }
  function := .RESPONSE

/-- A fragment of the outstation, without objects. -/
def fragmentMessage (fir : Bool) (seq : ℕ) : Message where
  addresses := { source := 1024, destination := 1 }
  payload := [(fragmentHeader fir seq).control.toByte, 0x81, 0x00, 0x00]

/-- The master receives the fragment. -/
def fragmentEvent (fir : Bool) (seq : ℕ) : Env × Event StartupTask :=
  ({}, .receive (fragmentMessage fir seq))

/-- The integrity poll has taken this number of fragments. -/
structure LongPoll (n : ℕ) (r : Recorder StartupTask) (x : Execution) : Prop where
  inv : r.Inv
  polls : r.Polls x []
  length : x.fragments.length = n
  isOnline : r.context.isOnline = true
  addresses : r.context.addresses = { source := 1, destination := 1024 }
  tstate : r.context.tstate = .WAIT_FOR_RESPONSE
  solSeq : r.context.solSeq = n % 16

/-- The long poll waits for its next fragment. -/
theorem LongPoll.awaits {n : ℕ} {r : Recorder StartupTask} {x : Execution} (h : LongPoll n r x)
    (fir : Bool) : r.context.Awaits (fragmentMessage fir n) (fragmentHeader fir n) [] where
  accepted := by
    have hparse : parseResponse (fragmentMessage fir n).payload =
        some (fragmentHeader fir n, []) := by
      show some (({ control := .ofByte (fragmentHeader fir n).control.toByte
                    function := .RESPONSE
                    IIN := 0 } : APDUResponseHeader), _) = _
      rw [AppControlField.ofByte_toByte]
      simp [fragmentHeader]
    unfold MContext.accepted
    rw [h.addresses, h.isOnline, if_pos ⟨rfl, rfl, rfl⟩, hparse]
  function := rfl
  tstate := h.tstate
  seq := h.solSeq.symm

/-- One more fragment. -/
theorem LongPoll.step {n : ℕ} {r : Recorder StartupTask} {x : Execution} (h : LongPoll n r x)
    (hlt : n < 2 ^ 32) :
    ∃ x', LongPoll (n + 1) (r.step (fragmentEvent (n = 0) n)) x' := by
  have hawaits := h.awaits (n = 0)
  have hexpects := (h.inv.expects_iff h.polls).mpr hawaits
  obtain ⟨task, htask, hstage⟩ := h.inv.exists_stage h.polls
  obtain ⟨object, hobject, hpoll⟩ := MContext.exists_object htask
  have hactive : r.context.activeTask = some x.task := by
    rw [show r.context.activeTask = _ from (h.inv.sound x [] h.polls.executions).active,
      if_pos h.polls.ending]
  have hok : (processMeasurements []).1 = .OK := by decide
  -- The fragment is the first one exactly where the count of the task is zero.
  have htakes : takes task (fragmentHeader (n = 0) n) [] = true := by
    cases hstage with
    | ready hstate _ _ _ => cases hstate.symm.trans hawaits.tstate
    | awaiting _ _ _ _ hcount =>
      rw [takes, PollTask.expects_eq hcount, h.length, Nat.mod_eq_of_lt hlt, hok]
      simp [fragmentHeader]
  have hfits : x.fits (fragmentHeader (n = 0) n) [] = true := by
    cases hstage with
    | ready hstate _ _ _ => cases hstate.symm.trans hawaits.tstate
    | awaiting _ _ _ _ hcount => rw [← takes_eq_fits hcount fun _ => h.length ▸ hlt, htakes]
  obtain ⟨hexecutions, hinv⟩ := h.inv.step_of_expected h.polls hexpects (fun _ => h.length ▸ hlt) {}
  obtain ⟨-, hcore⟩ := h.inv.step_of_poll h.polls hawaits htask {}
  rw [hfits, if_pos rfl] at hexecutions
  rw [htakes, if_pos ⟨rfl, rfl⟩] at hcore
  refine ⟨x.extend (fragmentHeader (n = 0) n) [], hinv, ⟨hexecutions, rfl, ?_⟩, ?_, ?_, ?_, ?_, ?_⟩
  · rw [show (r.step (fragmentEvent (n = 0) n)).context.core = _ from hcore]
    exact Core.isPoll_iff.mpr ⟨_, getElem?_setTask_self (k := r.context.core.answer) htask⟩
  · rw [← h.length]
    exact List.length_append
  · exact (congrArg Core.isOnline hcore).trans h.isOnline
  · refine (addresses_onReceive hawaits hactive hobject ?_ rfl rfl).trans h.addresses
    rw [hpoll]
    exact congrArg Prod.fst (PollTask.processResponse_of_takes htakes)
  · exact (congrArg Core.tstate hcore).trans h.tstate
  · refine (congrArg Core.solSeq hcore).trans ?_
    show nextSeq r.context.solSeq = _
    rw [h.solSeq, nextSeq]
    omega

/-- The poll takes a fragment with FIR again when the count of its fragments is back at zero. -/
theorem LongPoll.not_isChain {n : ℕ} {r : Recorder StartupTask} {x : Execution} (h : LongPoll n r x)
    (hpos : 0 < n) (hzero : n % 2 ^ 32 = 0) :
    ¬∀ y ∈ (r.step (fragmentEvent true n)).executions,
      (r.step (fragmentEvent true n)).context.core.IsPoll y.task → y.IsChain := by
  intro hchains
  have hawaits := h.awaits true
  obtain ⟨task, htask, hstage⟩ := h.inv.exists_stage h.polls
  have hok : (processMeasurements []).1 = .OK := by decide
  -- The count has come back to zero, so the task takes a first fragment again.
  have htakes : takes task (fragmentHeader true n) [] = true := by
    cases hstage with
    | ready hstate _ _ _ => cases hstate.symm.trans hawaits.tstate
    | awaiting _ _ _ _ hcount =>
      rw [takes, PollTask.expects_eq hcount, h.length, hzero, hok]
      rfl
  obtain ⟨hexecutions, hcore⟩ := h.inv.step_of_poll h.polls hawaits htask {}
  rw [htakes, if_pos rfl] at hexecutions
  rw [htakes, if_pos ⟨rfl, rfl⟩] at hcore
  have hpoll : (r.step (fragmentEvent true n)).context.core.IsPoll x.task := by
    rw [show (r.step (fragmentEvent true n)).context.core = _ from hcore]
    exact Core.isPoll_iff.mpr ⟨_, getElem?_setTask_self (k := r.context.core.answer) htask⟩
  have hmem : x.extend (fragmentHeader true n) [] ∈ (r.step (fragmentEvent true n)).executions := by
    rw [show (r.step (fragmentEvent true n)).executions = _ from hexecutions]
    exact List.mem_cons_self ..
  -- That fragment stands behind others, which a chain does not allow.
  have hchain := hchains (x.extend (fragmentHeader true n) []) hmem hpoll
  have hlast : (x.extend (fragmentHeader true n) []).fragments[n]? =
      some (fragmentHeader true n, []) := by
    rw [← h.length]
    exact List.getElem?_concat_length ..
  have hfirst := (hchain.fir n _ _ hlast).mp rfl
  omega

/-- The integrity poll, and fragments with increasing sequence numbers. -/
def manyFragments (n : ℕ) : List (Env × Event StartupTask) :=
  MContext.integrityPoll ++
    (List.range n).map fun i => fragmentEvent (i = 0) i

/-- The long poll after some of its fragments. -/
theorem longPoll_manyFragments {n : ℕ} (hn : n ≤ 2 ^ 32) :
    ∃ x, LongPoll n (Machine.run step { context := MContext.startup } (manyFragments n)) x := by
  induction n with
  | zero =>
    have hinv : (Machine.run step { context := MContext.startup } MContext.integrityPoll).Inv := by
      refine Machine.run_invariant step (P := fun r e => RunsOnline r e ∧ Counted r e)
        (fun r e h hP => h.step hP.1 hP.2) _ MContext.integrityPoll (inv_init _ _ _ _) ?_
      exact (Machine.stepsMeet_and step _ _).mpr ⟨by decide +kernel, counted_integrityPoll _⟩
    refine ⟨{ task := 2, request := some 0 }, ?_⟩
    rw [manyFragments, List.range_zero, List.map_nil, List.append_nil]
    refine ⟨hinv, ⟨by decide +kernel, rfl, ?_⟩, rfl, by decide +kernel, by decide +kernel,
      by decide +kernel, by decide +kernel⟩
    unfold Core.IsPoll
    decide +kernel
  | succ n ih =>
    obtain ⟨x, h⟩ := ih (by omega)
    rw [manyFragments, List.range_succ, List.map_append, ← List.append_assoc, List.map_singleton,
      Machine.run_concat]
    exact h.step (by omega)

/-- After 2³² fragments without FIN, a fragment with FIR is handed over. -/
theorem not_isChain_manyFragments :
    ¬∀ x ∈ (Machine.run step { context := MContext.startup }
        (manyFragments (2 ^ 32) ++ [fragmentEvent true (2 ^ 32)])).executions,
      (Machine.run step { context := MContext.startup }
        (manyFragments (2 ^ 32) ++ [fragmentEvent true (2 ^ 32)])).context.core.IsPoll x.task →
          x.IsChain := by
  obtain ⟨x, h⟩ := longPoll_manyFragments (n := 2 ^ 32) le_rfl
  rw [Machine.run_concat]
  exact h.not_isChain (Nat.two_pow_pos 32) (Nat.mod_self _)

end Recorder

end OpenDnp3.Master
