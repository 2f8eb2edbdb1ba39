import OpenDnp3.Outstation.ConfirmWait

/-!
# Select before operate

The log marks where a selection is recorded and where the command handler operates on the authority
of one. The control state of the outstation is always the one of the last mark of the first kind.
-/

namespace OpenDnp3.Outstation

open App

variable {α : Type*}

/-! ## Marks in the log -/

/-- A selection, as it is marked in the log. -/
structure Selection where
  seq : ℕ
  time : ℤ
  objects : List UInt8
  statuses : List CommandStatus
  deriving DecidableEq, Repr

/-- The selection that is recorded with this call. -/
def Output.recorded : Output α → Option Selection
  | .selection seq time objects statuses => some { seq, time, objects, statuses }
  | _ => none

/-- The call operates on the authority of a selection. -/
def Output.isSelectBeforeOperate : Output α → Bool
  | .operate _ _ _ .SelectBeforeOperate => true
  | _ => false

/-- The selection that was recorded last. -/
def lastSelection (log : List (Output α)) : Option Selection :=
  (log.filterMap Output.recorded).getLast?

/-- Whether the last selection has been operated on. -/
def isUsed (log : List (Output α)) : Bool :=
  log.foldl (fun used o =>
    if o.recorded.isSome then false else used || o.isSelectBeforeOperate) false

/-- Neither kind of mark. -/
def Output.isUnmarked (o : Output α) : Prop := o.recorded = none ∧ o.isSelectBeforeOperate = false

/-- Quiet output marks nothing. -/
theorem Output.isUnmarked_of_isQuiet {o : Output α} (h : o.isQuiet) : o.isUnmarked := by
  cases o with
  | transmit _ _ => cases h
  | selection _ _ _ _ => cases h
  | operate _ _ _ opType =>
    cases opType with
    | SelectBeforeOperate => cases h
    | _ => exact ⟨rfl, rfl⟩
  | _ => exact ⟨rfl, rfl⟩

/-- Output without a record leaves the last selection. -/
theorem lastSelection_append_of_forall {new : List (Output α)}
    (hnew : ∀ o ∈ new, o.recorded = none) (log : List (Output α)) :
    lastSelection (log ++ new) = lastSelection log := by
  unfold lastSelection
  rw [List.filterMap_append, List.filterMap_eq_nil_iff.mpr hnew, List.append_nil]

/-- The last selection is the one that was recorded last. -/
theorem lastSelection_append {calls rest : List (Output α)} {seq : ℕ} {time : ℤ}
    {objects : List UInt8} {statuses : List CommandStatus} (hrest : ∀ o ∈ rest, o.recorded = none)
    (log : List (Output α)) :
    lastSelection (log ++ (calls ++ .selection seq time objects statuses :: rest)) =
      some { seq, time, objects, statuses } := by
  have hcons : (Output.selection seq time objects statuses :: rest).filterMap Output.recorded =
      [{ seq, time, objects, statuses }] := by
    rw [List.filterMap_cons_some (f := Output.recorded) rfl, List.filterMap_eq_nil_iff.mpr hrest]
  unfold lastSelection
  rw [List.filterMap_append, List.filterMap_append, hcons]
  simp

/-- Without a new selection, a selection that is used stays used. -/
theorem isUsed_append_of_forall {new : List (Output α)} (hnew : ∀ o ∈ new, o.recorded = none)
    (log : List (Output α)) :
    isUsed (log ++ new) = (isUsed log || new.any Output.isSelectBeforeOperate) := by
  unfold isUsed
  rw [List.foldl_append]
  generalize log.foldl _ false = used
  induction new generalizing used with
  | nil => simp
  | cons o new ih =>
    have ho := hnew o (List.mem_cons_self ..)
    rw [List.foldl_cons, ih (fun o ho => hnew o (List.mem_cons_of_mem _ ho)), ho, List.any_cons]
    simp [Bool.or_assoc]

namespace OContext

open CommandResponseHandler

/-! ## The control state -/

/-- `ControlState::ValidateSelection` succeeds. -/
theorem validateSelection_eq_success_iff (c : ControlState) (seq : ℕ) (now timeout : ℤ)
    (objects : List UInt8) :
    c.validateSelection seq now timeout objects = .SUCCESS ↔
      c.expectedSeq = seq ∧ c.selectTime ≤ now ∧ now - c.selectTime < timeout ∧
        c.length = objects.length ∧ c.digest = Link.CRC.calcCrc objects := by
  unfold ControlState.validateSelection
  split_ifs <;> simp_all

/-- The control state that a log leaves. -/
def controlOf (log : List (Output α)) : ControlState :=
  match lastSelection log with
  | none => {}
  | some selection => .select selection.seq selection.time selection.objects

/-- What a selection that is validated was. Before the first one there is none: the digest of the
initial state is not the one of no objects. -/
theorem exists_selection_of_validate {log : List (Output α)} {seq : ℕ} {now timeout : ℤ}
    {objects : List UInt8}
    (h : (controlOf log).validateSelection seq now timeout objects = .SUCCESS) :
    ∃ selection, lastSelection log = some selection ∧ seq = nextSeq selection.seq ∧
      selection.time ≤ now ∧ now - selection.time < timeout ∧
      objects.length = selection.objects.length ∧
      Link.CRC.calcCrc objects = Link.CRC.calcCrc selection.objects := by
  rw [validateSelection_eq_success_iff] at h
  obtain ⟨hseq, hle, hlt, hlength, hdigest⟩ := h
  unfold controlOf at *
  cases hlast : lastSelection log with
  | none =>
    rw [hlast] at hlength hdigest
    rw [List.eq_nil_of_length_eq_zero hlength.symm] at hdigest
    exact absurd hdigest (by decide)
  | some selection =>
    rw [hlast] at hseq hle hlt hlength hdigest
    exact ⟨selection, rfl, hseq.symm, hle, hlt, hlength.symm, hdigest.symm⟩

/-- The limits for commands do not change. -/
structure SameLimits (s s' : OContext α) : Prop where
  controls : s'.params.maxControlsPerRequest = s.params.maxControlsPerRequest
  timeout : s'.params.selectTimeout = s.params.selectTimeout

/-- The limits stay over two steps. -/
theorem SameLimits.trans {s₁ s₂ s₃ : OContext α} (h : s₁.SameLimits s₂) (h' : s₂.SameLimits s₃) :
    s₁.SameLimits s₃ :=
  ⟨h'.controls.trans h.controls, h'.timeout.trans h.timeout⟩

/-- The control state is the one of the last selection, and each selection whose request had no more
objects than allowed was answered with success for all of them. -/
structure Recorded (s : OContext α) : Prop where
  control : s.control = controlOf s.log
  statuses : ∀ o ∈ s.log, ∀ selection, o.recorded = some selection →
    selection.statuses.length ≤ s.params.maxControlsPerRequest.toNat →
    ∀ status ∈ selection.statuses, status = .SUCCESS

/-- A change that neither records a selection nor operates on one. -/
structure Unmarked (s s' : OContext α) : Prop where
  control : s'.control = s.control
  limits : s.SameLimits s'
  log : ∃ new, s'.log = s.log ++ new ∧ ∀ o ∈ new, o.isUnmarked

/-- Where nothing is logged nothing is marked. -/
theorem Unmarked.of_log_eq {s s' : OContext α} (hcontrol : s'.control = s.control)
    (hparams : s'.params = s.params) (hlog : s'.log = s.log) : s.Unmarked s' :=
  ⟨hcontrol, ⟨by rw [hparams], by rw [hparams]⟩, [], by rw [hlog, List.append_nil], by simp⟩

/-- A step that marks nothing keeps the record. -/
theorem Unmarked.recorded {s s' : OContext α} (hunmarked : s.Unmarked s') (h : s.Recorded) :
    s'.Recorded := by
  obtain ⟨hcontrol, hlimits, new, hlog, hnew⟩ := hunmarked
  refine ⟨?_, fun o ho selection hrecorded => ?_⟩
  · rw [hcontrol, h.control, hlog, controlOf, controlOf,
      lastSelection_append_of_forall fun o ho => (hnew o ho).1]
  · rw [hlog, List.mem_append] at ho
    rw [hlimits.controls]
    rcases ho with ho | ho
    · exact h.statuses o ho selection hrecorded
    · rw [(hnew o ho).1] at hrecorded
      cases hrecorded

/-- An event that is no request marks nothing. -/
theorem Happens.unmarked [MeasurementSpec α] {env : Env α} {event : Event α} {s s' : OContext α}
    (hhappens : Happens env s event s') : s.Unmarked s' := by
  cases hhappens with
  | down =>
    unfold onLowerLayerDown
    split_ifs <;> exact .of_log_eq rfl rfl rfl
  | timedOut _ =>
    unfold onConfirmTimeout
    split <;> exact .of_log_eq rfl rfl rfl
  | unacknowledged hnew =>
    exact ⟨rfl, ⟨rfl, rfl⟩, _, rfl, fun o ho => Output.isUnmarked_of_isQuiet (hnew o ho)⟩
  | same => exact .of_log_eq rfl rfl rfl
  | online _ => exact .of_log_eq rfl rfl rfl
  | transmitted _ _ => exact .of_log_eq rfl rfl rfl
  | deferred _ _ _ => exact .of_log_eq rfl rfl rfl
  | updated => exact .of_log_eq rfl rfl rfl
  | restarted => exact .of_log_eq rfl rfl rfl

/-- An unsolicited response marks nothing. -/
theorem Unsolicits.unmarked {config : EventBufferConfig} {s s' : OContext α}
    (h : Unsolicits config s s') : s.Unmarked s' := by
  obtain ⟨b, response, rfl, -⟩ := h.exists_eq
  exact ⟨rfl, ⟨rfl, rfl⟩, [_], rfl, fun o ho => by rw [List.mem_singleton.mp ho]; exact ⟨rfl, rfl⟩⟩

/-- What a request does to the selection and the marks in the log. -/
inductive Marks (env : Env α) (request : ParsedRequest) (s : OContext α) : OContext α → Prop where
  | unmarked {s' : OContext α} (h : s.Unmarked s') : Marks env request s s'
  | selected {s' : OContext α} {calls rest : List (Output α)} {statuses : List CommandStatus}
      (hfunction : request.header.function = .SELECT)
      (hcontrol : s'.control = .select request.header.control.seq env.now request.objects)
      (hlimits : s.SameLimits s')
      (hlog : s'.log = s.log ++ (calls ++
        .selection request.header.control.seq env.now request.objects statuses :: rest))
      (hcalls : ∀ o ∈ calls, o.isUnmarked) (hrest : ∀ o ∈ rest, o.isUnmarked)
      (hstatuses : statuses.length ≤ s.params.maxControlsPerRequest.toNat →
        ∀ status ∈ statuses, status = .SUCCESS) :
      Marks env request s s'
  | operated {s' : OContext α} {new : List (Output α)}
      (hfunction : request.header.function = .OPERATE) (hnew : s.isRepeat request = false)
      (hvalid : s.control.validateSelection request.header.control.seq env.now
        s.params.selectTimeout request.objects = .SUCCESS)
      (hcontrol : s'.control = s.control)
      (hlimits : s.SameLimits s')
      (hlog : s'.log = s.log ++ new) (hnone : ∀ o ∈ new, o.recorded = none) :
      Marks env request s s'

/-- The calls of the command handler record nothing. -/
theorem Output.recorded_of_makes {action : CommandAction} {o : Output α} (h : Makes action o) :
    o.recorded = none := by
  match action, h with
  | .adapter true _, .inl h => rw [h]; rfl
  | .adapter true _, .inr (.inl h) => rw [h]; rfl
  | .adapter true _, .inr (.inr ⟨_, _, _, h⟩) => rw [h]; rfl
  | .adapter false _, .inl h => rw [h]; rfl
  | .adapter false _, .inr (.inl h) => rw [h]; rfl
  | .adapter false _, .inr (.inr ⟨_, _, _, h⟩) => rw [h]; rfl

/-- A request that is handled marks what it selects and what it uses. -/
theorem Handles.marks {config : EventBufferConfig} {env : Env α} {request : ParsedRequest}
    {s s' : OContext α} (h : Handles config env request s s') : Marks env request s s' := by
  cases h with
  | ignored => exact .unmarked (.of_log_eq rfl rfl rfl)
  | confirmed _ _ _ => exact .unmarked (.of_log_eq rfl rfl rfl)
  | confirmedNull _ _ _ => exact .unmarked (.of_log_eq rfl rfl rfl)
  | confirmedEvents _ _ _ => exact .unmarked (.of_log_eq rfl rfl rfl)
  | deferred _ _ _ => exact .unmarked (.of_log_eq rfl rfl rfl)
  | continued _ _ _ hsends _ =>
    obtain ⟨_, _, _, rfl⟩ := hsends.exists_eq
    exact .unmarked ⟨rfl, ⟨rfl, rfl⟩, [_], rfl, by simp [Output.isUnmarked, Output.recorded,
      Output.isSelectBeforeOperate]⟩
  | read _ _ _ _ hsends _ =>
    obtain ⟨_, _, _, rfl⟩ := hsends.exists_eq
    exact .unmarked ⟨rfl, ⟨rfl, rfl⟩, [_], rfl, by simp [Output.isUnmarked, Output.recorded,
      Output.isSelectBeforeOperate]⟩
  | repeated _ _ _ _ _ =>
    exact .unmarked ⟨rfl, ⟨rfl, rfl⟩, [_], rfl, by simp [Output.isUnmarked, Output.recorded,
      Output.isSelectBeforeOperate]⟩
  -- A request other than a READ: what its handler did, and then the response.
  | nonRead _ _ _ hnew hresponds =>
    obtain ⟨_, _, response, ⟨_, _, _, _, _, new, rfl, heffect⟩, rfl, -⟩ := hresponds.exists_eq
    have htransmit : ∀ o ∈ [Output.transmit request.addresses.source response],
        o.isUnmarked := fun o ho => by
      rw [List.mem_singleton.mp ho]
      exact ⟨rfl, rfl⟩
    cases heffect with
    | quiet hquiet =>
      refine .unmarked ⟨rfl, ⟨rfl, rfl⟩, _, List.append_assoc _ _ _, fun o ho => ?_⟩
      rcases List.mem_append.mp ho with ho | ho
      · exact Output.isUnmarked_of_isQuiet (hquiet o ho)
      · exact htransmit o ho
    | @selected calls rest statuses hfunction hcalls hrest hstatuses =>
      have hlog : (s.record request).log ++ (calls ++
            .selection request.header.control.seq env.now request.objects statuses :: rest) ++
            [.transmit request.addresses.source response] =
          s.log ++ (calls ++ .selection request.header.control.seq env.now
            request.objects statuses ::
            (rest ++ [.transmit request.addresses.source response])) := by
        simp [record]
      refine .selected hfunction rfl ⟨rfl, rfl⟩ hlog
        (fun o ho => Output.isUnmarked_of_isQuiet (hcalls o ho)) (fun o ho => ?_) hstatuses
      rcases List.mem_append.mp ho with ho | ho
      · exact Output.isUnmarked_of_isQuiet (hrest o ho)
      · exact htransmit o ho
    | operated hfunction hvalid hmakes =>
      refine .operated hfunction hnew hvalid rfl ⟨rfl, rfl⟩ (List.append_assoc _ _ _) fun o ho => ?_
      rcases List.mem_append.mp ho with ho | ho
      · exact Output.recorded_of_makes (hmakes o ho)
      · exact (htransmit o ho).1

/-- A request keeps the record. -/
theorem Marks.recorded {env : Env α} {request : ParsedRequest} {s s' : OContext α}
    (hmarks : Marks env request s s') (h : s.Recorded) : s'.Recorded := by
  cases hmarks with
  | unmarked hunmarked => exact hunmarked.recorded h
  | selected _ hcontrol hlimits hlog hcalls hrest hstatuses =>
    refine ⟨?_, fun o ho selection hrecorded => ?_⟩
    · rw [hcontrol, hlog, controlOf, lastSelection_append fun o ho => (hrest o ho).1]
    · rw [hlimits.controls]
      rw [hlog, List.mem_append, List.mem_append, List.mem_cons] at ho
      -- The only selection among the new outputs is the one that was made.
      rcases ho with ho | ho | rfl | ho
      · exact h.statuses o ho selection hrecorded
      · rw [(hcalls o ho).1] at hrecorded
        cases hrecorded
      · obtain rfl := Option.some.inj hrecorded
        exact hstatuses
      · rw [(hrest o ho).1] at hrecorded
        cases hrecorded
  | operated _ _ _ hcontrol hlimits hlog hnone =>
    refine ⟨?_, fun o ho selection hrecorded => ?_⟩
    · rw [hcontrol, h.control, hlog, controlOf, controlOf, lastSelection_append_of_forall hnone]
    · rw [hlimits.controls]
      rw [hlog, List.mem_append] at ho
      rcases ho with ho | ho
      · exact h.statuses o ho selection hrecorded
      · rw [hnone o ho] at hrecorded
        cases hrecorded

/-- A step that marks nothing leaves the last selection. -/
theorem Unmarked.lastSelection_eq {s s' : OContext α} (h : s.Unmarked s') :
    lastSelection s'.log = lastSelection s.log := by
  obtain ⟨new, hlog, hnew⟩ := h.log
  rw [hlog, lastSelection_append_of_forall fun o ho => (hnew o ho).1]

/-- A step that marks nothing leaves the selection as used as it was. -/
theorem Unmarked.isUsed_eq {s s' : OContext α} (h : s.Unmarked s') :
    isUsed s'.log = isUsed s.log := by
  obtain ⟨new, hlog, hnew⟩ := h.log
  have hany : new.any Output.isSelectBeforeOperate = false :=
    List.any_eq_false.mpr fun o ho => by simp [(hnew o ho).2]
  rw [hlog, isUsed_append_of_forall fun o ho => (hnew o ho).1, hany, Bool.or_false]

/-- A request that leaves the lower layer free is not answered. -/
theorem Handles.unmarked_of_free {config : EventBufferConfig} {env : Env α}
    {request : ParsedRequest} {s s' : OContext α} (h : Handles config env request s s')
    (hfree : s'.isTransmitting = false) : s.Unmarked s' := by
  cases h with
  | ignored => exact .of_log_eq rfl rfl rfl
  | confirmed _ _ _ => exact .of_log_eq rfl rfl rfl
  | confirmedNull _ _ _ => exact .of_log_eq rfl rfl rfl
  | confirmedEvents _ _ _ => exact .of_log_eq rfl rfl rfl
  | deferred _ _ _ => exact .of_log_eq rfl rfl rfl
  | continued _ _ _ hsends _ =>
    obtain ⟨_, _, _, rfl⟩ := hsends.exists_eq
    cases hfree
  | read _ _ _ _ hsends _ =>
    obtain ⟨_, _, _, rfl⟩ := hsends.exists_eq
    cases hfree
  | nonRead _ _ _ _ hresponds =>
    obtain ⟨_, _, _, -, rfl, -⟩ := hresponds.exists_eq
    cases hfree
  | repeated _ _ _ _ _ => cases hfree

section Steps

variable [MeasurementSpec α]

/-- A step handles its requests with the selection that it starts with. -/
theorem Processes.unmarked {config : EventBufferConfig} {env : Env α} {event : Event α}
    {s s₁ : OContext α} {request : ParsedRequest} (h : s.Inv config)
    (hprocesses : Processes env event s s₁ request) : s.Unmarked s₁ := by
  cases hprocesses with
  | received _ _ _ _ => exact .of_log_eq rfl rfl rfl
  | dequeued _ hfree _ _ =>
    have hfree' := isTransmitting_of_canTransmit hfree
    revert hfree'
    exact arrive_induction (P := fun s' => s'.isTransmitting = false → s.Unmarked s') h.storage
      (fun _ hhappens _ => hhappens.unmarked)
      fun _ _ _ hhandles hfree' => hhandles.unmarked_of_free hfree'

/-- The step handles a new OPERATE request on the authority of this selection. -/
structure Operates (env : Env α) (event : Event α) (s : OContext α) (s₁ : OContext α)
    (request : ParsedRequest) (selection : Selection) : Prop where
  processes : Processes env event s s₁ request
  function : request.header.function = .OPERATE
  new : s₁.isRepeat request = false
  valid : s₁.control.validateSelection request.header.control.seq env.now
    s₁.params.selectTimeout request.objects = .SUCCESS
  last : lastSelection s.log = some selection
  seq : request.header.control.seq = nextSeq selection.seq
  time_le : selection.time ≤ env.now
  lt_timeout : env.now - selection.time < s₁.params.selectTimeout
  length : request.objects.length = selection.objects.length
  digest : Link.CRC.calcCrc request.objects = Link.CRC.calcCrc selection.objects

/-- What a step does to the marks in the log: it operates on the authority of the last selection,
and records no other one then. -/
structure Marked (env : Env α) (event : Event α) (s s' : OContext α) : Prop where
  recorded : s'.Recorded
  limits : s.SameLimits s'
  log : ∃ new, s'.log = s.log ++ new ∧
    ((∃ o ∈ new, o.isSelectBeforeOperate = true) →
      (∃ s₁ request selection, Operates env event s s₁ request selection) ∧ isUsed s'.log = true)

/-- What follows without a mark. -/
theorem Marked.unmarked {env : Env α} {event : Event α}
    {s s₁ s₂ : OContext α} (h : Marked env event s s₁) (hunmarked : s₁.Unmarked s₂) :
    Marked env event s s₂ := by
  have hused := hunmarked.isUsed_eq
  refine ⟨hunmarked.recorded h.recorded, h.limits.trans hunmarked.limits, ?_⟩
  obtain ⟨new, hlog, hnew⟩ := h.log
  obtain ⟨new', hlog', hnew'⟩ := hunmarked.log
  refine ⟨new ++ new', by rw [hlog', hlog, List.append_assoc], ?_⟩
  rintro ⟨o, ho, hoperate⟩
  rw [hused]
  rcases List.mem_append.mp ho with ho | ho
  · exact hnew ⟨o, ho, hoperate⟩
  · rw [(hnew' o ho).2] at hoperate
    cases hoperate

/-- A request that the step handles. -/
theorem Marks.marked {config : EventBufferConfig} {env : Env α} {event : Event α}
    {s s₁ s₂ : OContext α} {request : ParsedRequest} (h : s.Inv config)
    (hprocesses : Processes env event s s₁ request) (hmarked : Marked env event s s₁)
    (hmarks : Marks env request s₁ s₂) : Marked env event s s₂ := by
  have hunmarked := hprocesses.unmarked h
  have hrecorded := hmarks.recorded hmarked.recorded
  obtain ⟨new, hlog, hnew⟩ := hunmarked.log
  cases hmarks with
  | unmarked hunmarked' => exact hmarked.unmarked hunmarked'
  | selected _ _ hlimits hlog' hcalls hrest _ =>
    refine ⟨hrecorded, hmarked.limits.trans hlimits, _, by rw [hlog', hlog, List.append_assoc], ?_⟩
    -- A selection does not operate.
    rintro ⟨o, ho, hoperate⟩
    rw [List.mem_append, List.mem_append, List.mem_cons] at ho
    rcases ho with ho | ho | rfl | ho
    · rw [(hnew o ho).2] at hoperate
      cases hoperate
    · rw [(hcalls o ho).2] at hoperate
      cases hoperate
    · cases hoperate
    · rw [(hrest o ho).2] at hoperate
      cases hoperate
  | operated hfunction hrepeat hvalid _ hlimits hlog' hnone =>
    refine ⟨hrecorded, hmarked.limits.trans hlimits, _, by rw [hlog', hlog, List.append_assoc], ?_⟩
    rintro ⟨o, ho, hoperate⟩
    rcases List.mem_append.mp ho with ho | ho
    · rw [(hnew o ho).2] at hoperate
      cases hoperate
    · have hcontrol := hvalid
      rw [hmarked.recorded.control] at hcontrol
      obtain ⟨selection, hlast, hseq, hle, hlt, hlength, hdigest⟩ :=
        exists_selection_of_validate hcontrol
      rw [hunmarked.lastSelection_eq] at hlast
      refine ⟨⟨s₁, request, selection, hprocesses, hfunction, hrepeat, hvalid, hlast,
        hseq, hle, hlt,
        hlength, hdigest⟩, ?_⟩
      rw [hlog', isUsed_append_of_forall hnone, List.any_eq_true.mpr ⟨o, ho, hoperate⟩,
        Bool.or_true]

/-- Every step marks what its request selects and uses. -/
theorem step_marked {config : EventBufferConfig} {s : OContext α} (h : s.Inv config)
    (hrecorded : s.Recorded) (env : Env α) (event : Event α) :
    Marked env event s (s.step (env, event)) := by
  have hself : Marked env event s s :=
    ⟨hrecorded, ⟨rfl, rfl⟩, [], (List.append_nil _).symm, by simp⟩
  refine (step_induction (P := fun s' => s'.Inv config ∧ Marked env event s s')
    (fun _ hP => hP.1.storage) ⟨h, hself⟩ ?_ ?_ ?_ ?_).2
  · intro s' hhappens
    exact ⟨hhappens.inv h, hself.unmarked hhappens.unmarked⟩
  · rintro s₁ request s₂ hprocesses ⟨hinv, hmarked⟩ hhandles
    exact ⟨hhandles.inv hinv, hhandles.marks.marked h hprocesses hmarked⟩
  · rintro s₁ ⟨hinv, hmarked⟩
    exact ⟨⟨hinv.storage, hinv.timer, hinv.response, hinv.solicited, hinv.unsolicited⟩,
      hmarked.unmarked (.of_log_eq rfl rfl rfl)⟩
  · rintro s₁ s₂ ⟨hinv, hmarked⟩ hunsolicits
    exact ⟨hunsolicits.inv hinv, hmarked.unmarked hunsolicits.unmarked⟩

/-- In every state that a run reaches the control state is recorded, and the limits are the ones of
the parameters. -/
theorem run_recorded (addresses : Addresses) (config : EventBufferConfig)
    (params : OutstationParams) (database : DatabaseBuffers α) (inputs : List (Env α × Event α)) :
    (Machine.run step (init addresses config params database) inputs).Recorded ∧
      (init addresses config params database).SameLimits
        (Machine.run step (init addresses config params database) inputs) := by
  have hstep : ∀ (s : OContext α) input, (s.Inv config ∧ s.Recorded ∧
      (init addresses config params database).SameLimits s) →
      (s.step input).Inv config ∧ (s.step input).Recorded ∧
        (init addresses config params database).SameLimits (s.step input) := by
    rintro s ⟨env, event⟩ ⟨hinv, hrecorded, hlimits⟩
    have hmarked := step_marked hinv hrecorded env event
    exact ⟨step_inv s _ hinv, hmarked.recorded, hlimits.trans hmarked.limits⟩
  exact (Machine.run_of_step step hstep
    ⟨init_inv addresses config params database, ⟨rfl, by simp [init]⟩, rfl, rfl⟩ inputs).2

/-- The command handler operates on the authority of a selection only for an OPERATE request whose
sequence number follows the one of the last selection, with objects of the same length, before the
timeout of the selection. -/
theorem run_selectBeforeOperate (addresses : Addresses) (config : EventBufferConfig)
    (params : OutstationParams) (database : DatabaseBuffers α) (inputs : List (Env α × Event α))
    (env : Env α) (event : Event α) :
    let s := Machine.run step (init addresses config params database) inputs
    ∀ o ∈ (s.step (env, event)).log.drop s.log.length, o.isSelectBeforeOperate = true →
      ∃ s₁ request selection, Processes env event s s₁ request ∧
        request.header.function = .OPERATE ∧ lastSelection s.log = some selection ∧
        request.header.control.seq = nextSeq selection.seq ∧
        request.objects.length = selection.objects.length ∧
        selection.time ≤ env.now ∧ env.now - selection.time < params.selectTimeout := by
  intro s o ho hoperate
  have h : s.Inv config := run_inv addresses config params database inputs
  obtain ⟨hrecorded, hlimits⟩ := run_recorded addresses config params database inputs
  obtain ⟨new, hlog, hnew⟩ := (step_marked h hrecorded env event).log
  rw [hlog, List.drop_left] at ho
  obtain ⟨⟨s₁, request, selection, hoperates⟩, -⟩ := hnew ⟨o, ho, hoperate⟩
  have htimeout : s₁.params.selectTimeout = params.selectTimeout :=
    (hlimits.trans (hoperates.processes.unmarked h).limits).timeout
  exact ⟨s₁, request, selection, hoperates.processes, hoperates.function, hoperates.last,
    hoperates.seq, hoperates.length, hoperates.time_le, htimeout ▸ hoperates.lt_timeout⟩

/-- A control relay output block for index 0, with this on-time. -/
def controlObjects (onTime : List UInt8) : List UInt8 :=
  [12, 1, 0x17, 1, 0, 0x01, 1] ++ onTime ++ [0x64, 0, 0, 0, 0]

/-- A SELECT request for the block. -/
def selectRequest (seq : UInt8) (onTime : List UInt8) : Event Bool :=
  fromMaster ([0xC0 ||| seq, 0x03] ++ controlObjects onTime)

/-- The OPERATE request that follows it. -/
def operateRequest (seq : UInt8) (onTime : List UInt8) : Event Bool :=
  fromMaster ([0xC0 ||| seq, 0x04] ++ controlObjects onTime)

/-- The block is selected for 100 ms and operated. -/
theorem run_selectBeforeOperate_oneBlock :
    let s := sample {} [.lowerLayerUp, selectRequest 0 [0x64, 0, 0, 0], .txReady]
    ∃ s₁ request selection, Processes {} (operateRequest 1 [0x64, 0, 0, 0]) s s₁ request ∧
      request.header.function = .OPERATE ∧ lastSelection s.log = some selection ∧
      request.header.control.seq = nextSeq selection.seq ∧
      request.objects.length = selection.objects.length ∧
      selection.time ≤ 0 ∧ 0 - selection.time < 10000 := by
  intro s
  exact run_selectBeforeOperate { source := 10, destination := 1 } { maxBinaryEvents := 2 } {}
    oneBinary (([.lowerLayerUp, selectRequest 0 [0x64, 0, 0, 0], .txReady] :
      List (Event Bool)).map fun event => ({}, event)) {} (operateRequest 1 [0x64, 0, 0, 0])
    (.operate .Group12Var1 [0x01, 1, 0x64, 0, 0, 0, 0x64, 0, 0, 0, 0] 0 .SelectBeforeOperate)
    (by decide +kernel) rfl

/-- The objects of an OPERATE request that is executed have the length and the digest of the objects
of the SELECT request of the last selection. -/
theorem run_operate_digest (addresses : Addresses) (config : EventBufferConfig)
    (params : OutstationParams) (database : DatabaseBuffers α) (inputs : List (Env α × Event α))
    (env : Env α) (event : Event α) :
    let s := Machine.run step (init addresses config params database) inputs
    ∀ o ∈ (s.step (env, event)).log.drop s.log.length, o.isSelectBeforeOperate = true →
      ∃ s₁ request selection, Processes env event s s₁ request ∧
        request.header.function = .OPERATE ∧ lastSelection s.log = some selection ∧
        request.objects.length = selection.objects.length ∧
        Link.CRC.calcCrc request.objects = Link.CRC.calcCrc selection.objects := by
  intro s o ho hoperate
  have h : s.Inv config := run_inv addresses config params database inputs
  obtain ⟨hrecorded, -⟩ := run_recorded addresses config params database inputs
  obtain ⟨new, hlog, hnew⟩ := (step_marked h hrecorded env event).log
  rw [hlog, List.drop_left] at ho
  obtain ⟨⟨s₁, request, selection, hoperates⟩, -⟩ := hnew ⟨o, ho, hoperate⟩
  exact ⟨s₁, request, selection, hoperates.processes, hoperates.function, hoperates.last,
    hoperates.length, hoperates.digest⟩

/-- The digest of an on-time of 100 ms is the one of an on-time of 85277 ms. -/
theorem run_operate_digest_otherBlock :
    let s := sample {} [.lowerLayerUp, selectRequest 0 [0x64, 0, 0, 0], .txReady]
    ∃ s₁ request selection, Processes {} (operateRequest 1 [0x1D, 0x4D, 0x01, 0]) s s₁ request ∧
      request.header.function = .OPERATE ∧ lastSelection s.log = some selection ∧
      request.objects.length = selection.objects.length ∧
      Link.CRC.calcCrc request.objects = Link.CRC.calcCrc selection.objects := by
  intro s
  exact run_operate_digest { source := 10, destination := 1 } { maxBinaryEvents := 2 } {} oneBinary
    (([.lowerLayerUp, selectRequest 0 [0x64, 0, 0, 0], .txReady] :
      List (Event Bool)).map fun event => ({}, event)) {} (operateRequest 1 [0x1D, 0x4D, 0x01, 0])
    (.operate .Group12Var1 [0x01, 1, 0x1D, 0x4D, 0x01, 0, 0x64, 0, 0, 0, 0] 0 .SelectBeforeOperate)
    (by decide +kernel) rfl

/-- An on-time of 100 ms is selected, and one of 85277 ms is operated on its authority. -/
theorem operate_other_objects :
    let s := sample {} [.lowerLayerUp, selectRequest 0 [0x64, 0, 0, 0], .txReady]
    let s' := s.step ({}, operateRequest 1 [0x1D, 0x4D, 0x01, 0])
    (lastSelection s.log).map Selection.objects = some (controlObjects [0x64, 0, 0, 0]) ∧
      .operate .Group12Var1 [0x01, 1, 0x1D, 0x4D, 0x01, 0, 0x64, 0, 0, 0, 0] 0
        .SelectBeforeOperate ∈ s'.log.drop s.log.length ∧
      controlObjects [0x1D, 0x4D, 0x01, 0] ≠ controlObjects [0x64, 0, 0, 0] := by
  decide +kernel

/-! ## One execution for each selection -/

/-- The step executes an OPERATE request on the authority of a selection that has been operated on
before, or whose SELECT request had more objects than allowed. -/
def Reuses (s : OContext α) (input : Env α × Event α) : Prop :=
  ∃ s₁ request selection, Operates input.1 input.2 s s₁ request selection ∧
    (isUsed s.log = true ∨
      s.params.maxControlsPerRequest.toNat < selection.statuses.length)

omit [MeasurementSpec α] in
/-- Where a used selection is followed by an unused one, the latter was recorded in between. -/
theorem exists_recorded_of_isUsed {log new : List (Output α)} (hused : isUsed log = true)
    (hunused : isUsed (log ++ new) = false) :
    ∃ o ∈ new, ∃ selection, o.recorded = some selection ∧
      lastSelection (log ++ new) = some selection := by
  cases hlast : (new.filterMap Output.recorded).getLast? with
  | none =>
    have hnil : new.filterMap Output.recorded = [] := List.getLast?_eq_none_iff.mp hlast
    rw [isUsed_append_of_forall (List.filterMap_eq_nil_iff.mp hnil), hused] at hunused
    cases hunused
  | some selection =>
    obtain ⟨o, ho, hrecorded⟩ := List.mem_filterMap.mp (List.mem_of_getLast? hlast)
    refine ⟨o, ho, selection, hrecorded, ?_⟩
    unfold lastSelection
    rw [List.filterMap_append, List.getLast?_append, hlast]
    rfl

/-- A run only adds to the log. -/
theorem run_log_append {config : EventBufferConfig} {s : OContext α} (h : s.Inv config)
    (hrecorded : s.Recorded) (inputs : List (Env α × Event α)) :
    ∃ new, (Machine.run step s inputs).log = s.log ++ new := by
  induction inputs generalizing s with
  | nil => exact ⟨[], (List.append_nil _).symm⟩
  | cons input inputs ih =>
    have hmarked := step_marked h hrecorded input.1 input.2
    obtain ⟨new, hlog, -⟩ := hmarked.log
    obtain ⟨new', hlog'⟩ := ih (step_inv s input h) hmarked.recorded
    exact ⟨new ++ new', by rw [Machine.run_cons, hlog', hlog, List.append_assoc]⟩

/-- Between two executions of OPERATE requests, a selection is recorded whose SELECT request was
answered with success for all objects, in every run that does not reuse one. -/
theorem run_operates_once (addresses : Addresses) (config : EventBufferConfig)
    (params : OutstationParams) (database : DatabaseBuffers α)
    (inputs between : List (Env α × Event α)) (first last : Env α × Event α)
    (hinputs : Machine.StepsMeet step (fun s input => ¬Reuses s input)
      (init addresses config params database) (inputs ++ first :: (between ++ [last]))) :
    let s₀ := Machine.run step (init addresses config params database) inputs
    let s₁ := s₀.step first
    let s₂ := Machine.run step s₁ between
    (∃ o ∈ s₁.log.drop s₀.log.length, o.isSelectBeforeOperate = true) →
    (∃ o ∈ (s₂.step last).log.drop s₂.log.length, o.isSelectBeforeOperate = true) →
    ∃ o ∈ s₂.log.drop s₁.log.length, ∃ selection, o.recorded = some selection ∧
      lastSelection s₂.log = some selection ∧
      ∀ status ∈ selection.statuses, status = .SUCCESS := by
  rintro s₀ s₁ s₂ ⟨o₁, ho₁, hoperate₁⟩ ⟨o₂, ho₂, hoperate₂⟩
  have hrun₂ : s₂ = Machine.run step (init addresses config params database)
      (inputs ++ first :: between) := by rw [Machine.run_append, Machine.run_cons]
  have h₀ : s₀.Inv config := run_inv addresses config params database inputs
  have h₂ : s₂.Inv config := hrun₂ ▸ run_inv addresses config params database _
  obtain ⟨hrecorded₀, -⟩ := run_recorded addresses config params database inputs
  have hrecorded₂ : s₂.Recorded := hrun₂ ▸ (run_recorded addresses config params database _).1
  -- After the first execution the selection is used.
  have hmarked₁ := step_marked h₀ hrecorded₀ first.1 first.2
  obtain ⟨new₁, hlog₁, hnew₁⟩ := hmarked₁.log
  rw [show s₁.log = _ from hlog₁, List.drop_left] at ho₁
  have hused : isUsed s₁.log = true := (hnew₁ ⟨o₁, ho₁, hoperate₁⟩).2
  -- Before the second one it is not.
  obtain ⟨new₂, hlog₂, hnew₂⟩ := (step_marked h₂ hrecorded₂ last.1 last.2).log
  rw [show (s₂.step last).log = _ from hlog₂, List.drop_left] at ho₂
  obtain ⟨⟨s', request, selection', hoperates⟩, -⟩ := hnew₂ ⟨o₂, ho₂, hoperate₂⟩
  have hmeets : ¬Reuses s₂ last := by
    rw [show inputs ++ first :: (between ++ [last]) = (inputs ++ first :: between) ++
      [last] by simp]
      at hinputs
    rw [hrun₂]
    exact (Machine.StepsMeet.of_append step hinputs).1
  obtain ⟨hunused, hlength⟩ : isUsed s₂.log = false ∧
      selection'.statuses.length ≤ s₂.params.maxControlsPerRequest.toNat := by
    constructor
    · by_contra h
      exact hmeets ⟨s', request, selection', hoperates, .inl (by simpa using h)⟩
    · by_contra h
      exact hmeets ⟨s', request, selection', hoperates, .inr (by omega)⟩
  obtain ⟨new, hlog⟩ := run_log_append (step_inv s₀ first h₀) hmarked₁.recorded between
  rw [show s₂.log = s₁.log ++ new from hlog] at hunused ⊢
  obtain ⟨o, ho, selection, hrecorded, hlast⟩ := exists_recorded_of_isUsed hused hunused
  obtain rfl : selection' = selection := by
    have hlast' := hoperates.last
    rw [show s₂.log = s₁.log ++ new from hlog, hlast] at hlast'
    exact (Option.some.inj hlast').symm
  refine ⟨o, by rwa [List.drop_left], selection', hrecorded, hlast, ?_⟩
  refine hrecorded₂.statuses o ?_ selection' hrecorded hlength
  rw [show s₂.log = s₁.log ++ new from hlog]
  exact List.mem_append_right _ ho

/-- A step reuses nothing where no request is deferred and a request that comes does not operate, or
finds a selection that is not used and has no more objects than allowed. -/
theorem not_reuses {s : OContext α} {env : Env α} {event : Event α}
    (hdeferred : (s.arrive env event).deferred = none)
    (hreceive : ∀ message, event = .receive message →
      (s.parseMessage message).all (fun request => request.header.function ≠ .OPERATE) ∨
        isUsed s.log = false ∧ (lastSelection s.log).all fun selection =>
          selection.statuses.length ≤ s.params.maxControlsPerRequest.toNat) :
    ¬Reuses s (env, event) := by
  rintro ⟨s₁, request, selection, hoperates, hreuses⟩
  cases hoperates.processes with
  | received hevent _ hparse _ =>
    rcases hreceive _ hevent with hall | ⟨hunused, hall⟩
    · rw [hparse] at hall
      exact absurd hoperates.function (by simpa using hall)
    · rw [hoperates.last] at hall
      rcases hreuses with hused | hlt
      · rw [hunused] at hused
        cases hused
      · simp at hall
        omega
  | dequeued _ _ hsome _ =>
    rw [hdeferred] at hsome
    cases hsome

/-- Two blocks are selected and operated one after the other. -/
theorem run_operates_once_twice :
    let s₀ := sample {} [.lowerLayerUp, selectRequest 0 [0x64, 0, 0, 0], .txReady]
    let s₁ := s₀.step ({}, operateRequest 1 [0x64, 0, 0, 0])
    let s₂ := Machine.run step s₁ (([.txReady, selectRequest 2 [0xC8, 0, 0, 0], .txReady] :
      List (Event Bool)).map fun event => ({}, event))
    ∃ o ∈ s₂.log.drop s₁.log.length, ∃ selection, o.recorded = some selection ∧
      lastSelection s₂.log = some selection ∧
      ∀ status ∈ selection.statuses, status = .SUCCESS := by
  intro s₀ s₁ s₂
  refine run_operates_once { source := 10, destination := 1 } { maxBinaryEvents := 2 } {} oneBinary
    (([.lowerLayerUp, selectRequest 0 [0x64, 0, 0, 0], .txReady] :
      List (Event Bool)).map fun event => ({}, event))
    (([.txReady, selectRequest 2 [0xC8, 0, 0, 0], .txReady] :
      List (Event Bool)).map fun event => ({}, event))
    ({}, operateRequest 1 [0x64, 0, 0, 0]) ({}, operateRequest 3 [0xC8, 0, 0, 0]) ?_
    ⟨.operate .Group12Var1 [0x01, 1, 0x64, 0, 0, 0, 0x64, 0, 0, 0, 0] 0 .SelectBeforeOperate,
      by decide +kernel, rfl⟩
    ⟨.operate .Group12Var1 [0x01, 1, 0xC8, 0, 0, 0, 0x64, 0, 0, 0, 0] 0 .SelectBeforeOperate,
      by decide +kernel, rfl⟩
  refine ⟨not_reuses (by decide +kernel) nofun, not_reuses (by decide +kernel) ?_,
    not_reuses (by decide +kernel) nofun, not_reuses (by decide +kernel) ?_,
    not_reuses (by decide +kernel) nofun, not_reuses (by decide +kernel) ?_,
    not_reuses (by decide +kernel) nofun, not_reuses (by decide +kernel) ?_, trivial⟩
  all_goals
    intro message hmessage
    obtain rfl := Event.receive.inj hmessage
    decide +kernel

/-- After another request the OPERATE request is no repetition of the last one, and the selection is
still there: it is executed twice. -/
theorem operate_twice :
    let s₀ := sample {} [.lowerLayerUp, selectRequest 0 [0x64, 0, 0, 0], .txReady]
    let s₁ := s₀.step ({}, operateRequest 1 [0x64, 0, 0, 0])
    let s₂ := ((s₁.step ({}, .txReady)).step ({}, fromMaster [0xC2, 0x17])).step ({}, .txReady)
    let s₃ := s₂.step ({}, operateRequest 1 [0x64, 0, 0, 0])
    (s₁.log.drop s₀.log.length).any Output.isSelectBeforeOperate = true ∧
      (s₃.log.drop s₂.log.length).any Output.isSelectBeforeOperate = true ∧
      ∀ o ∈ s₂.log.drop s₁.log.length, o.recorded = none := by
  decide +kernel

end Steps

end OContext

end OpenDnp3.Outstation
