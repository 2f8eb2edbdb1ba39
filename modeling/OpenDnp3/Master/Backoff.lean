import OpenDnp3.Lib.Run
import OpenDnp3.Master.Task
import Mathlib.Tactic.Ring
import Mathlib.Tactic.Positivity

/-!
# The retry back-off

Every timeout of a task delays its next start, by the minimum delay at first and by twice the last
delay after that, up to the maximum delay (`run_backsOff`). The arithmetic of `TaskBehavior` is on
`int64_t`, where an overflow is undefined. `Checked` has every method once more with the results of
its arithmetic checked.
-/

namespace OpenDnp3.Master

/-- A time of the monotonic clock, which is not negative. -/
structure Clock where
  milliseconds : ℤ
  nonneg : 0 ≤ milliseconds
  le_max : milliseconds ≤ INT64_MAX

/-- The delays that a task is configured with. -/
structure RetryConfig where
  minRetryDelay : ℤ
  maxRetryDelay : ℤ
  pos : 0 < minRetryDelay
  min_le_max : minRetryDelay ≤ maxRetryDelay
  le_max : maxRetryDelay ≤ INT64_MAX

/-- `TaskBehavior::TaskBehavior`. -/
def RetryConfig.behavior (config : RetryConfig) (period expiration startExpiration : ℤ) :
    TaskBehavior :=
  { period, expiration, startExpiration
    minRetryDelay := config.minRetryDelay
    maxRetryDelay := config.maxRetryDelay }

/-- The methods that change a behavior. -/
inductive BehaviorCall where
  | onResponseTimeout (now : Clock)
  | onSuccess (now : Clock)
  | reset
  | disable

/-- A behavior with a record of its timeouts. -/
structure Backoff where
  behavior : TaskBehavior
  /-- The delays of the timeouts since the last `OnSuccess` or `Reset`, in order. -/
  delays : List ℤ := []

namespace Backoff

/-- A call, with the delay that `OnResponseTimeout` adds to the time. -/
def step (s : Backoff) : BehaviorCall → Backoff
  | .onResponseTimeout now =>
    { behavior := s.behavior.onResponseTimeout now.milliseconds
      delays := s.delays ++ [s.behavior.currentRetryDelay] }
  | .onSuccess now => { behavior := s.behavior.onSuccess now.milliseconds }
  | .reset => { behavior := s.behavior.reset }
  | .disable => { s with behavior := s.behavior.disable }

/-- The expiration that a call sets is a sum, or the maximum where the sum exceeds it. -/
def Saturates (s : Backoff) : BehaviorCall → Prop
  | .onResponseTimeout now =>
    (s.step (.onResponseTimeout now)).behavior.expiration =
      min (now.milliseconds + s.behavior.currentRetryDelay) INT64_MAX
  | .onSuccess now =>
    (s.step (.onSuccess now)).behavior.expiration =
      if s.behavior.period < 0 then INT64_MAX
      else min (now.milliseconds + s.behavior.period) INT64_MAX
  | .reset => (s.step .reset).behavior.expiration = INT64_MIN
  | .disable => (s.step .disable).behavior.expiration = INT64_MAX

end Backoff

/-! ## Checked arithmetic -/

namespace Checked

/-- The result of an operation on `int64_t`, unless it overflows. -/
def int64 (n : ℤ) : Option ℤ := if INT64_MIN ≤ n ∧ n ≤ INT64_MAX then some n else none

/-- `MonotonicTimestamp::Add`. -/
def addDuration (milliseconds duration : ℤ) : Option ℤ := do
  let maximum ← int64 (INT64_MAX - milliseconds)
  if maximum ≤ duration then some INT64_MAX else int64 (milliseconds + duration)

/-- `TaskBehavior::CalcNextRetryTimeout`. -/
def calcNextRetryTimeout (b : TaskBehavior) : Option ℤ := do
  let doubled ←
    if INT64_MAX / 2 ≤ b.currentRetryDelay then some b.maxRetryDelay
    else int64 (2 * b.currentRetryDelay)
  some (if b.maxRetryDelay < doubled then b.maxRetryDelay else doubled)

/-- `TaskBehavior::OnSuccess`. -/
def onSuccess (now : ℤ) (b : TaskBehavior) : Option TaskBehavior := do
  let expiration ← if b.period < 0 then some INT64_MAX else addDuration now b.period
  some { b with currentRetryDelay := b.minRetryDelay, expiration }

/-- `TaskBehavior::OnResponseTimeout`. -/
def onResponseTimeout (now : ℤ) (b : TaskBehavior) : Option TaskBehavior := do
  let expiration ← addDuration now b.currentRetryDelay
  let currentRetryDelay ← calcNextRetryTimeout b
  some { b with expiration, currentRetryDelay }

/-- A call. -/
def call (b : TaskBehavior) : BehaviorCall → Option TaskBehavior
  | .onResponseTimeout now => onResponseTimeout now.milliseconds b
  | .onSuccess now => onSuccess now.milliseconds b
  | .reset => some b.reset
  | .disable => some b.disable

/-- A number of 64 bits does not overflow. -/
theorem int64_eq {n : ℤ} (hmin : INT64_MIN ≤ n) (hmax : n ≤ INT64_MAX) : int64 n = some n :=
  if_pos ⟨hmin, hmax⟩

/-- A sum of a time and a delay never overflows. -/
theorem addDuration_eq (now : Clock) {duration : ℤ} (h : 0 ≤ duration) :
    addDuration now.milliseconds duration =
      some (Master.addDuration now.milliseconds duration) := by
  have hnonneg := now.nonneg
  have hmax := now.le_max
  unfold addDuration Master.addDuration
  rw [int64_eq (by unfold INT64_MIN; omega) (by omega)]
  dsimp only [Option.bind_eq_bind, Option.bind_some]
  split_ifs with hle
  · rfl
  · exact int64_eq (by unfold INT64_MIN; omega) (by omega)

/-- A delay is doubled below half of the maximum only. -/
theorem calcNextRetryTimeout_eq {b : TaskBehavior} (h : 0 ≤ b.currentRetryDelay) :
    calcNextRetryTimeout b = some b.calcNextRetryTimeout := by
  unfold calcNextRetryTimeout TaskBehavior.calcNextRetryTimeout
  split_ifs with hhalf
  · rfl
  · rw [int64_eq (by unfold INT64_MIN; omega) (by unfold INT64_MAX at *; omega)]
    rfl

/-- No call overflows from a delay that is not negative. -/
theorem call_eq {s : Backoff} (h : 0 ≤ s.behavior.currentRetryDelay) (c : BehaviorCall) :
    call s.behavior c = some (s.step c).behavior := by
  cases c with
  | onResponseTimeout now =>
    rw [call, onResponseTimeout, addDuration_eq now h, calcNextRetryTimeout_eq h]
    rfl
  | onSuccess now =>
    rw [call, onSuccess, Backoff.step, TaskBehavior.onSuccess]
    split_ifs with hperiod
    · rfl
    · rw [addDuration_eq now (not_lt.mp hperiod)]
      rfl
  | reset => rfl
  | disable => rfl

end Checked

/-! ## The delays -/

/-- The delays of consecutive timeouts: the minimum first, never less than before, never more than
the maximum, and doubled for as long as the product stays below the maximum and `2 ^ 62`. -/
structure Escalates (config : RetryConfig) (delays : List ℤ) : Prop where
  first : ∀ delay, delays[0]? = some delay → delay = config.minRetryDelay
  bounded : ∀ delay ∈ delays, config.minRetryDelay ≤ delay ∧ delay ≤ config.maxRetryDelay
  increasing : delays.Pairwise (· ≤ ·)
  doubled : ∀ k delay, delays[k]? = some delay →
    config.minRetryDelay * 2 ^ k < config.maxRetryDelay →
    config.minRetryDelay * 2 ^ k < 2 ^ 62 → delay = config.minRetryDelay * 2 ^ k

variable {config : RetryConfig}

/-- The first delay is the shortest one. -/
theorem Escalates.init : Escalates config [config.minRetryDelay] where
  first _ h := (Option.some.inj h).symm
  bounded delay h := by
    rw [List.mem_singleton.mp h]
    exact ⟨le_rfl, config.min_le_max⟩
  increasing := List.pairwise_singleton _ _
  doubled k delay h _ _ := by
    cases k with
    | zero => rw [← Option.some.inj h, pow_zero, mul_one]
    | succ k => cases h

/-- An element keeps its place when another one is put behind it. -/
theorem getElem?_concat_of_some {α : Type*} {l : List α} {i : ℕ} {a b : α} (h : l[i]? = some a) :
    (l ++ [b])[i]? = some a := by
  obtain ⟨hi, -⟩ := List.getElem?_eq_some_iff.mp h
  rw [List.getElem?_append_left hi, h]

/-- The delays but for the last one. -/
theorem Escalates.left {delays : List ℤ} {delay : ℤ} (h : Escalates config (delays ++ [delay])) :
    Escalates config delays where
  first d hd := h.first d (getElem?_concat_of_some hd)
  bounded d hd := h.bounded d (List.mem_append_left _ hd)
  increasing := (List.pairwise_append.mp h.increasing).1
  doubled k d hd := h.doubled k d (getElem?_concat_of_some hd)

/-- The next delay is between the last one and the maximum, and twice the last one where that stays
below the bounds. -/
theorem calcNextRetryTimeout_spec {b : TaskBehavior} (hpos : 0 < b.currentRetryDelay)
    (hle : b.currentRetryDelay ≤ b.maxRetryDelay) :
    b.currentRetryDelay ≤ b.calcNextRetryTimeout ∧ b.calcNextRetryTimeout ≤ b.maxRetryDelay ∧
      (2 * b.currentRetryDelay < b.maxRetryDelay → 2 * b.currentRetryDelay < 2 ^ 62 →
        b.calcNextRetryTimeout = 2 * b.currentRetryDelay) := by
  unfold TaskBehavior.calcNextRetryTimeout INT64_MAX
  dsimp only
  refine ⟨?_, ?_, fun hmax hbound => ?_⟩
  · split_ifs <;> omega
  · split_ifs <;> omega
  · rw [if_neg (by omega), if_neg (by omega)]

/-- The next delay follows the last one. -/
theorem Escalates.next {delays : List ℤ} {b : TaskBehavior}
    (h : Escalates config (delays ++ [b.currentRetryDelay]))
    (hmax : b.maxRetryDelay = config.maxRetryDelay) :
    Escalates config (delays ++ [b.currentRetryDelay] ++ [b.calcNextRetryTimeout]) := by
  have hlast := h.bounded b.currentRetryDelay (by simp)
  have hpos := config.pos
  obtain ⟨hge, hle, hdouble⟩ := calcNextRetryTimeout_spec (b := b) (by omega) (by omega)
  refine ⟨fun d hd => ?_, fun d hd => ?_, ?_, fun k d hd hbelow hbound => ?_⟩
  · rw [List.getElem?_append_left (by simp)] at hd
    exact h.first d hd
  · rcases List.mem_append.mp hd with hd | hd
    · exact h.bounded d hd
    · rw [List.mem_singleton.mp hd]
      omega
  · refine List.pairwise_append.mpr ⟨h.increasing, List.pairwise_singleton _ _, ?_⟩
    intro d hd d' hd'
    rw [List.mem_singleton.mp hd']
    -- The last delay is the greatest one so far.
    have hd_le : d ≤ b.currentRetryDelay := by
      rcases List.mem_append.mp hd with hd | hd
      · exact (List.pairwise_append.mp h.increasing).2.2 d hd _ (List.mem_singleton_self _)
      · exact (List.mem_singleton.mp hd).le
    exact hd_le.trans hge
  · rcases Nat.lt_trichotomy k (delays.length + 1) with hk | rfl | hk
    · rw [List.getElem?_append_left (by simpa using hk)] at hd
      exact h.doubled k d hd hbelow hbound
    · rw [List.getElem?_append_right (by simp)] at hd
      have hd : d = b.calcNextRetryTimeout := by simpa using hd.symm
      have hpower : config.minRetryDelay * 2 ^ (delays.length + 1) =
          2 * (config.minRetryDelay * 2 ^ delays.length) := by ring
      have hpower_pos : 0 < config.minRetryDelay * 2 ^ delays.length := by positivity
      have hcurrent := h.doubled delays.length b.currentRetryDelay (by simp) (by omega) (by omega)
      rw [hd, hpower, ← hcurrent]
      exact hdouble (by omega) (by omega)
    · rw [List.getElem?_eq_none (by simp; omega)] at hd
      cases hd

namespace Backoff

/-- What holds between calls. The next delay is already there. -/
structure Inv (config : RetryConfig) (s : Backoff) : Prop where
  min_eq : s.behavior.minRetryDelay = config.minRetryDelay
  max_eq : s.behavior.maxRetryDelay = config.maxRetryDelay
  escalates : Escalates config (s.delays ++ [s.behavior.currentRetryDelay])

/-- The current delay is not negative. -/
theorem Inv.nonneg {s : Backoff} (h : Inv config s) : 0 ≤ s.behavior.currentRetryDelay := by
  have hmin := (h.escalates.bounded s.behavior.currentRetryDelay (by simp)).1
  exact config.pos.le.trans hmin

/-- Every call keeps the invariant. -/
theorem Inv.step {s : Backoff} (h : Inv config s) (call : BehaviorCall) :
    Inv config (s.step call) := by
  cases call with
  | onResponseTimeout now => exact ⟨h.min_eq, h.max_eq, h.escalates.next h.max_eq⟩
  | onSuccess now =>
    refine ⟨h.min_eq, h.max_eq, ?_⟩
    change Escalates config [s.behavior.minRetryDelay]
    rw [h.min_eq]
    exact .init
  | reset =>
    refine ⟨h.min_eq, h.max_eq, ?_⟩
    change Escalates config [s.behavior.minRetryDelay]
    rw [h.min_eq]
    exact .init
  | disable => exact ⟨h.min_eq, h.max_eq, h.escalates⟩

/-- A duration is added up to the largest time that there is. -/
theorem addDuration_eq_min (milliseconds duration : ℤ) :
    addDuration milliseconds duration = min (milliseconds + duration) INT64_MAX := by
  unfold addDuration
  split_ifs <;> omega

/-- Every call saturates in place of an overflow. -/
theorem saturates (s : Backoff) (call : BehaviorCall) : s.Saturates call := by
  cases call with
  | onResponseTimeout now => exact addDuration_eq_min _ _
  | onSuccess now =>
    change (if s.behavior.period < 0 then INT64_MAX else _) = _
    rw [addDuration_eq_min]
  | reset => rfl
  | disable => rfl

/-- No call of a run overflows. -/
theorem Inv.checked {s : Backoff} (h : Inv config s) (calls : List BehaviorCall) :
    calls.foldlM Checked.call s.behavior = some (Machine.run Backoff.step s calls).behavior := by
  induction calls generalizing s with
  | nil => rfl
  | cons call calls ih =>
    rw [List.foldlM_cons, Checked.call_eq h.nonneg]
    exact ih (h.step call)

/-- Over every run the delays since the last success or reset escalate, each timeout expires after
its delay, at the maximum at the latest, and no arithmetic overflows. -/
theorem run_backsOff (config : RetryConfig) (period expiration startExpiration : ℤ)
    (calls : List BehaviorCall) :
    let behavior := config.behavior period expiration startExpiration
    let s := Machine.run step { behavior } calls
    Escalates config s.delays ∧ Machine.StepsMeet step Saturates { behavior } calls ∧
      calls.foldlM Checked.call behavior = some s.behavior := by
  intro behavior s
  have hinit : Inv config { behavior } := ⟨rfl, rfl, .init⟩
  have hinv := Machine.run_of_step step (fun _ call h => h.step call) hinit calls
  refine ⟨hinv.escalates.left, ?_, hinit.checked calls⟩
  exact Machine.StepsMeet.of_step step (fun s call h => ⟨h.step call, s.saturates call⟩) hinit calls

/-- The delays of a master, from a second to a minute. -/
def upToOneMinute : RetryConfig where
  minRetryDelay := 1000
  maxRetryDelay := 60000
  pos := by decide
  min_le_max := by decide
  le_max := by decide

/-- A time of the clock, a day after its start. -/
def oneDay : Clock where
  milliseconds := 86400000
  nonneg := by decide
  le_max := by decide

/-- Seven timeouts in a row reach the maximum, and a success puts the delay back. -/
theorem run_backsOff_upToOneMinute :
    let calls := List.replicate 7 (.onResponseTimeout oneDay) ++ [.onSuccess oneDay]
    let behavior := upToOneMinute.behavior 5000 0 INT64_MAX
    let timeouts := Machine.run step { behavior } (calls.take 7)
    let s := Machine.run step { behavior } calls
    timeouts.delays = [1000, 2000, 4000, 8000, 16000, 32000, 60000] ∧
      Escalates upToOneMinute s.delays ∧ Machine.StepsMeet step Saturates { behavior } calls ∧
      calls.foldlM Checked.call behavior = some s.behavior :=
  ⟨by decide, run_backsOff upToOneMinute 5000 0 INT64_MAX _⟩

end Backoff

end OpenDnp3.Master
