import OpenDnp3.Lib.Run
import OpenDnp3.Outstation.ContextSpec

/-!
# Waiting for confirms

The invariant that ties the state of the outstation to the confirm timer, the request history, the
last fragments in the log and the written events, and what follows from it about the states in which
the outstation waits for a confirm.
-/

namespace OpenDnp3.Outstation

open App

variable {α : Type*}

/-! ## The last fragment -/

/-- The response that a call transmits, if it has this function code. -/
def Output.sent (function : FunctionCode) : Output α → Option (APDUResponse α)
  | .transmit _ response => if response.function = function then some response else none
  | _ => none

/-- The response with this function code that was transmitted last. -/
def lastSent (function : FunctionCode) (log : List (Output α)) : Option (APDUResponse α) :=
  (log.filterMap (Output.sent function)).getLast?

/-- Output without such a fragment leaves the last one. -/
theorem lastSent_append_of_forall {function : FunctionCode} {new : List (Output α)}
    (hnew : ∀ o ∈ new, o.sent function = none) (log : List (Output α)) :
    lastSent function (log ++ new) = lastSent function log := by
  unfold lastSent
  rw [List.filterMap_append, List.filterMap_eq_nil_iff.mpr hnew, List.append_nil]

/-- A fragment of the function that is transmitted is the last one. -/
theorem lastSent_append_transmit {function : FunctionCode} {response : APDUResponse α}
    (hfunction : response.function = function) (log : List (Output α)) (destination : ℕ) :
    lastSent function (log ++ [.transmit destination response]) = some response := by
  unfold lastSent
  rw [List.filterMap_append, List.filterMap_cons_some (b := response)
    (by simp [Output.sent, hfunction])]
  simp

/-- A fragment of another function leaves the last one. -/
theorem lastSent_append_transmit_of_ne {function : FunctionCode} {response : APDUResponse α}
    (hfunction : response.function ≠ function) (log : List (Output α)) (destination : ℕ) :
    lastSent function (log ++ [.transmit destination response]) = lastSent function log :=
  lastSent_append_of_forall (by simp [Output.sent, hfunction]) log

/-- Quiet output sends no fragment. -/
theorem Output.sent_of_isQuiet {o : Output α} (h : o.isQuiet) (function : FunctionCode) :
    o.sent function = none := by
  cases o with
  | transmit _ _ => cases h
  | _ => rfl

/-- The calls of the command handler send no fragment. -/
theorem Output.sent_of_makes {action : CommandAction} {o : Output α}
    (h : CommandResponseHandler.Makes action o) (function : FunctionCode) :
    o.sent function = none := by
  match action, h with
  | .adapter true _, .inl h => rw [h]; rfl
  | .adapter true _, .inr (.inl h) => rw [h]; rfl
  | .adapter true _, .inr (.inr ⟨_, _, _, h⟩) => rw [h]; rfl
  | .adapter false _, .inl h => rw [h]; rfl
  | .adapter false _, .inr (.inl h) => rw [h]; rfl
  | .adapter false _, .inr (.inr ⟨_, _, _, h⟩) => rw [h]; rfl

namespace OContext

/-- The handler of a request transmits nothing. -/
theorem Effect.sent {env : Env α} {fn : FunctionCode} {objects : List UInt8} {s : OContext α}
    {control : ControlState} {new : List (Output α)} (h : Effect env fn objects s control new)
    (function : FunctionCode) : ∀ o ∈ new, o.sent function = none := by
  intro o ho
  cases h with
  | quiet hnew => exact Output.sent_of_isQuiet (hnew o ho) function
  | selected _ hcalls hrest _ =>
    rcases List.mem_append.mp ho with ho | ho
    · exact Output.sent_of_isQuiet (hcalls o ho) function
    · rcases List.mem_cons.mp ho with rfl | ho
      · rfl
      · exact Output.sent_of_isQuiet (hrest o ho) function
  | operated _ _ hnew => exact Output.sent_of_makes (hnew o ho) function

/-! ## The invariant -/

/-- The invariant of the outstation between and in the course of its steps. -/
structure Inv (config : EventBufferConfig) (s : OContext α) : Prop where
  storage : s.eventBuffer.storage.Inv config
  /-- The timer runs in the two states that wait for a confirm. -/
  timer : s.confirmTimer = true ↔ s.state ≠ .Idle
  /-- The last response, while there is a last request. -/
  response : s.history.hasLast = true → s.solTx.function = .RESPONSE ∧
    s.solTx.control.fir = true ∧
    (s.history.lastHeader.function ≠ .READ → s.solTx.control.con = false)
  /-- The wait for a solicited confirm is for the last solicited fragment, which holds what is
  written of the events, and the last request is a read. -/
  solicited : s.state = .SolicitedConfirmWait →
    (s.history.hasLast = true → s.history.lastHeader.function = .READ) ∧
    s.solTx.function = .RESPONSE ∧ s.solTx.control.con = true ∧
    s.solTx.control.seq = s.solSeq.confirmNum ∧ lastSent .RESPONSE s.log = some s.solTx ∧
    ∀ id ∈ s.eventBuffer.storage.writtenIds, id ∈ s.solTx.events
  /-- The wait for an unsolicited confirm is for the last unsolicited fragment. -/
  unsolicited : s.state = .UnsolicitedConfirmWait →
    s.unsolTx.control.seq = s.unsolSeq.confirmNum ∧
    lastSent .UNSOLICITED_RESPONSE s.log = some s.unsolTx ∧
    (s.completedNull = true → ∀ id ∈ s.eventBuffer.storage.writtenIds, id ∈ s.unsolTx.events)

/-- The outstation starts with the invariant. -/
theorem init_inv (addresses : Addresses) (config : EventBufferConfig) (params : OutstationParams)
    (database : DatabaseBuffers α) : (init addresses config params database).Inv config where
  storage := EventLists.ofConfig_inv config
  timer := by simp [init]
  response := nofun
  solicited := nofun
  unsolicited := nofun

/-- A repeated request has the function code of the last one. -/
theorem isRepeat_function {s : OContext α} {request : ParsedRequest}
    (h : s.isRepeat request = true) :
    s.history.hasLast = true ∧ request.header.function = s.history.lastHeader.function := by
  unfold isRepeat RequestHistory.fullyEqualsLastRequest APDUHeader.equals at h
  simp only [Bool.and_eq_true, decide_eq_true_eq] at h
  exact ⟨h.1.1, h.2.1.1⟩

/-- A change that only appends calls, none of which transmits. -/
theorem Inv.append_log {config : EventBufferConfig} {s : OContext α} (h : s.Inv config)
    {new : List (Output α)} (hnew : ∀ o ∈ new, o.isQuiet) :
    Inv config { s with log := s.log ++ new } where
  storage := h.storage
  timer := h.timer
  response := h.response
  solicited hstate := by
    obtain ⟨hread, hfunction, hcon, hseq, hlast, hwritten⟩ := h.solicited hstate
    refine ⟨hread, hfunction, hcon, hseq, ?_, hwritten⟩
    rwa [lastSent_append_of_forall fun o ho => Output.sent_of_isQuiet (hnew o ho) _]
  unsolicited hstate := by
    obtain ⟨hseq, hlast, hwritten⟩ := h.unsolicited hstate
    refine ⟨hseq, ?_, hwritten⟩
    rwa [lastSent_append_of_forall fun o ho => Output.sent_of_isQuiet (hnew o ho) _]

/-- A change of the events that writes none. -/
theorem Inv.with_eventBuffer {config : EventBufferConfig} {s : OContext α} (h : s.Inv config)
    {eventBuffer : EventBuffer α} (hstorage : eventBuffer.storage.Inv config)
    (hsubset : eventBuffer.storage.writtenIds ⊆ s.eventBuffer.storage.writtenIds)
    (database : DatabaseBuffers α) : Inv config { s with eventBuffer, database } where
  storage := hstorage
  timer := h.timer
  response := h.response
  solicited hstate := by
    obtain ⟨hread, hfunction, hcon, hseq, hlast, hwritten⟩ := h.solicited hstate
    exact ⟨hread, hfunction, hcon, hseq, hlast, fun id hid => hwritten id (hsubset hid)⟩
  unsolicited hstate := by
    obtain ⟨hseq, hlast, hwritten⟩ := h.unsolicited hstate
    exact ⟨hseq, hlast, fun hnull id hid => hwritten hnull id (hsubset hid)⟩

/-- The way back to the idle state. -/
theorem Inv.of_idle {config : EventBufferConfig} {s : OContext α}
    (hstorage : s.eventBuffer.storage.Inv config) (hstate : s.state = .Idle)
    (htimer : s.confirmTimer = false)
    (hresponse : s.history.hasLast = true → s.solTx.function = .RESPONSE ∧
      s.solTx.control.fir = true ∧
      (s.history.lastHeader.function ≠ .READ → s.solTx.control.con = false)) : s.Inv config where
  storage := hstorage
  timer := by simp [hstate, htimer]
  response := hresponse
  solicited h := by rw [hstate] at h; cases h
  unsolicited h := by rw [hstate] at h; cases h

/-- The events of an update. -/
theorem foldl_update_spec {config : EventBufferConfig} (events : List (Outstation.Event α))
    {b : EventBuffer α} (h : b.storage.Inv config) :
    (events.foldl EventBuffer.update b).storage.Inv config ∧
      (events.foldl EventBuffer.update b).storage.writtenIds ⊆ b.storage.writtenIds := by
  induction events generalizing b with
  | nil => exact ⟨h, List.Subset.refl _⟩
  | cons event events ih =>
    obtain ⟨hinv, hsubset⟩ := ih (b := b.update event) (EventLists.update_spec h event).2
    exact ⟨hinv, List.Subset.trans hsubset (EventLists.update_writtenIds_subset h event)⟩

section Steps

variable [MeasurementSpec α]

/-- An event that is not processed as a request keeps the invariant. -/
theorem Happens.inv {config : EventBufferConfig} {env : Env α} {event : Event α}
    {s s' : OContext α} (hhappens : Happens env s event s') (h : s.Inv config) : s'.Inv config := by
  cases hhappens with
  | same => exact h
  | online _ => exact ⟨h.storage, h.timer, h.response, h.solicited, h.unsolicited⟩
  -- The selection and the written marks of a lost session are undone.
  | down =>
    unfold onLowerLayerDown
    split_ifs
    · exact .of_idle (EventLists.unselect_inv h.storage) rfl rfl nofun
    · exact h
  | transmitted _ _ => exact ⟨h.storage, h.timer, h.response, h.solicited, h.unsolicited⟩
  | unacknowledged hnew => exact h.append_log hnew
  | deferred _ _ _ => exact ⟨h.storage, h.timer, h.response, h.solicited, h.unsolicited⟩
  | timedOut htimer =>
    unfold onConfirmTimeout
    split
    -- The timer runs only while a confirm is awaited.
    case h_1 hstate => exact absurd hstate (h.timer.mp htimer)
    · exact .of_idle h.storage rfl rfl h.response
    · refine .of_idle ?_ rfl rfl h.response
      dsimp only
      split_ifs
      · exact EventLists.unselect_inv h.storage
      · exact h.storage
  | updated =>
    unfold applyChange
    exact h.with_eventBuffer (foldl_update_spec _ h.storage).1 (foldl_update_spec _ h.storage).2 _
  | restarted => exact ⟨h.storage, h.timer, h.response, h.solicited, h.unsolicited⟩

omit [MeasurementSpec α] in
/-- After a fragment of a response to a read. -/
theorem Sends.to_inv {config : EventBufferConfig} {s s' : OContext α} {destination seq : ℕ}
    {response : APDUResponse α} (hsends : Sends config s s' destination seq response)
    (htimer : s.confirmTimer = false)
    (hread : s.history.hasLast = true → s.history.lastHeader.function = .READ)
    (hfir : s.history.hasLast = true → response.control.fir = true) : s'.Inv config := by
  obtain ⟨⟨count, b, db, rfl⟩, hfunction, hseq, hstorage, -, hwritten, -⟩ := hsends
  have hresponse : s.history.hasLast = true → response.function = .RESPONSE ∧
      response.control.fir = true ∧
      (s.history.lastHeader.function ≠ .READ → response.control.con = false) := fun hlast =>
    ⟨hfunction, hfir hlast, fun hne => absurd (hread hlast) hne⟩
  cases hcon : response.control.con with
  | false => exact .of_idle hstorage (by simp) (by simp [htimer]) hresponse
  | true =>
    refine ⟨hstorage, by simp, hresponse, fun _ => ?_, fun hstate => ?_⟩
    · exact ⟨hread, hfunction, hcon, hseq, lastSent_append_transmit hfunction _ _, hwritten⟩
    · simp at hstate

omit [MeasurementSpec α] in
/-- After the response to a request other than a read. -/
theorem Responds.to_inv {config : EventBufferConfig} {env : Env α} {request : ParsedRequest}
    {s s' : OContext α} (h : s.Inv config)
    (hresponds : Responds env request (s.record request) s') : s'.Inv config := by
  obtain ⟨_, overflow, response, ⟨time, iin, database, mask, control, new, rfl, heffect⟩, rfl,
    hcontrol, hresponse⟩ := hresponds.exists_eq
  have hcon : response.control.con = false := by rw [hcontrol]
  have hfir : response.control.fir = true := by rw [hcontrol]
  refine ⟨h.storage, ?_, fun _ =>
    ⟨hresponse, hfir, fun _ => hcon⟩, fun hstate => ?_, fun hstate => ?_⟩
  · have htimer := h.timer
    simp only [record]
    cases hs : s.state <;> simp_all
  · -- No response to such a request waits for a solicited confirm.
    simp only [record] at hstate
    split_ifs at hstate with hs
    rw [hs] at hstate
    cases hstate
  · -- The outstation goes on waiting for the confirm of the unsolicited response.
    have hs : s.state = .UnsolicitedConfirmWait := by
      simp only [record] at hstate
      split_ifs at hstate with hs
      exact hs
    obtain ⟨hseq, hlast, hwritten⟩ := h.unsolicited hs
    refine ⟨hseq, ?_, hwritten⟩
    show lastSent _ (s.log ++ new ++ [_]) = _
    rw [lastSent_append_transmit_of_ne (by simp [hresponse]),
      lastSent_append_of_forall (heffect.sent _)]
    exact hlast

omit [MeasurementSpec α] in
/-- A request that is processed keeps the invariant. -/
theorem Handles.inv {config : EventBufferConfig} {env : Env α} {request : ParsedRequest}
    {s s' : OContext α} (hhandles : Handles config env request s s') (h : s.Inv config) :
    s'.Inv config := by
  cases hhandles with
  | ignored => exact h
  | confirmed _ _ _ => exact .of_idle (EventLists.clearWritten_inv h.storage) rfl rfl nofun
  | continued _ _ _ hsends _ => exact hsends.to_inv rfl nofun nofun
  | confirmedNull _ _ _ => exact .of_idle h.storage rfl rfl nofun
  | confirmedEvents _ _ _ => exact .of_idle (EventLists.clearWritten_inv h.storage) rfl rfl nofun
  | deferred _ _ _ => exact ⟨h.storage, h.timer, h.response, h.solicited, h.unsolicited⟩
  | read _ hfunction _ hstate hsends hfir =>
    refine hsends.to_inv ?_ (fun _ => hfunction) fun _ => hfir
    have htimer := h.timer
    simp only [record]
    cases hs : s.state <;> simp_all
  | nonRead _ _ _ _ hresponds => exact hresponds.to_inv h
  | repeated _ hrepeat _ hstate htimer =>
    obtain ⟨hlast, hfunction⟩ := isRepeat_function hrepeat
    obtain ⟨hresponse, -⟩ := h.response hlast
    refine ⟨h.storage, ?_, h.response, fun hs => ?_, fun hs => ?_⟩
    · -- In the wait for a solicited confirm the repeated request is a read.
      dsimp only
      rw [htimer]
      split_ifs with hs
      · rw [hfunction, (h.solicited hs).1 hlast, hs]
        simp
      · exact h.timer
    · -- The response that is sent again is the last one of its kind.
      obtain ⟨hread, hfun, hcon, hseq, -, hwritten⟩ := h.solicited hs
      exact ⟨hread, hfun, hcon, hseq, lastSent_append_transmit hresponse _ _, hwritten⟩
    · obtain ⟨hseq, hsent, hwritten⟩ := h.unsolicited hs
      refine ⟨hseq, ?_, hwritten⟩
      rwa [lastSent_append_transmit_of_ne (by simp [hresponse])]

omit [MeasurementSpec α] in
/-- An unsolicited response keeps the invariant. -/
theorem Unsolicits.inv {config : EventBufferConfig} {s s' : OContext α}
    (hunsolicits : Unsolicits config s s') (h : s.Inv config) : s'.Inv config := by
  obtain ⟨b, response, rfl, hfunction, hcontrol, hstorage, -, hwritten⟩ := hunsolicits.exists_eq
  refine ⟨hstorage, by simp, h.response, nofun, fun _ => ⟨?_, ?_, fun hnull => ?_⟩⟩
  · rw [hcontrol]
  · exact lastSent_append_transmit hfunction _ _
  · rwa [if_pos hnull] at hwritten

/-- The invariant holds in the states in which a step handles requests. -/
theorem Processes.inv {config : EventBufferConfig} {env : Env α} {event : Event α}
    {s s₁ : OContext α} {request : ParsedRequest} (hprocesses : Processes env event s s₁ request)
    (h : s.Inv config) : s₁.Inv config := by
  cases hprocesses with
  | received _ _ _ _ => exact h
  | dequeued _ _ _ _ =>
    exact arrive_induction h.storage (fun s' hhappens => hhappens.inv h)
      fun request s₂ _ hhandles => hhandles.inv h

/-- Every step keeps the invariant. -/
theorem step_inv {config : EventBufferConfig} (s : OContext α) (input : Env α × Event α)
    (h : s.Inv config) : (s.step input).Inv config :=
  step_induction (fun _ h => h.storage) h (fun _ hhappens => hhappens.inv h)
    (fun _ _ _ _ h hhandles => hhandles.inv h)
    (fun _ h => ⟨h.storage, h.timer, h.response, h.solicited, h.unsolicited⟩)
    fun _ _ h hunsolicits => hunsolicits.inv h

/-- What is deferred after a step was received in it or deferred before it. -/
theorem step_comes {config : EventBufferConfig} {s : OContext α} (h : s.Inv config) (env : Env α)
    (event : Event α) : ∀ request, (s.step (env, event)).deferred = some request →
      Comes event s request.header := by
  have hstep : (s.step (env, event)).Inv config ∧ ∀ request,
      (s.step (env, event)).deferred = some request → Comes event s request.header := by
    refine step_induction (P := fun s' => s'.Inv config ∧ ∀ request, s'.deferred = some request →
      Comes event s request.header) (fun _ hP => hP.1.storage)
      ⟨h, fun request hrequest => .inl ⟨request, hrequest, rfl⟩⟩ ?_ ?_ ?_ ?_
    · intro s' hhappens
      exact ⟨hhappens.inv h, fun _ => hhappens.comes⟩
    · rintro s₁ request s₂ hprocesses ⟨hinv, hcomes⟩ hhandles
      exact ⟨hhandles.inv hinv, hhandles.comes hprocesses hcomes⟩
    · rintro s₁ ⟨hinv, -⟩
      exact ⟨⟨hinv.storage, hinv.timer, hinv.response, hinv.solicited, hinv.unsolicited⟩,
        fun _ h => by cases h⟩
    · rintro s₁ s₂ ⟨hinv, hcomes⟩ hunsolicits
      refine ⟨hunsolicits.inv hinv, ?_⟩
      obtain ⟨_, _, rfl, -⟩ := hunsolicits.exists_eq
      exact hcomes
  exact hstep.2

/-- The invariant holds in every state that a run reaches. -/
theorem run_inv (addresses : Addresses) (config : EventBufferConfig) (params : OutstationParams)
    (database : DatabaseBuffers α) (inputs : List (Env α × Event α)) :
    (Machine.run step (init addresses config params database) inputs).Inv config :=
  Machine.run_of_step step step_inv (init_inv addresses config params database) inputs

/-- The timer runs exactly in the states that wait for a confirm. In the wait for a solicited
confirm there is no last request or it is a read, so that no request that is handled there repeats
another one, and the timer never fires in the idle state. -/
theorem run_timer (addresses : Addresses) (config : EventBufferConfig) (params : OutstationParams)
    (database : DatabaseBuffers α) (inputs : List (Env α × Event α)) :
    let s := Machine.run step (init addresses config params database) inputs
    (s.confirmTimer = true ↔
      s.state = .SolicitedConfirmWait ∨ s.state = .UnsolicitedConfirmWait) ∧
    (s.state = .SolicitedConfirmWait →
      s.history.hasLast = false ∨ s.history.lastHeader.function = .READ) ∧
    (∀ env event s₁ request, Processes env event s s₁ request →
      s₁.state = .SolicitedConfirmWait → s₁.isRepeat request = true →
      request.header.function = .READ) ∧
    (s.confirmTimer = true → s.state ≠ .Idle) := by
  intro s
  have h : s.Inv config := run_inv addresses config params database inputs
  refine ⟨?_, fun hstate => ?_,
    fun env event s₁ request hprocesses hstate hrepeat => ?_, h.timer.mp⟩
  · rw [h.timer]
    cases s.state <;> simp
  · cases hlast : s.history.hasLast with
    | false => exact .inl rfl
    | true => exact .inr ((h.solicited hstate).1 hlast)
  · obtain ⟨hlast, hfunction⟩ := isRepeat_function hrepeat
    rw [hfunction]
    exact ((hprocesses.inv h).solicited hstate).1 hlast

end Steps

/-! ## A small outstation -/

/-- One binary, with events of class 1 that have a time. -/
def oneBinary : DatabaseBuffers Bool where
  cells
    | .Binary => [{
        value := false
        config := { vIndex := 0, svariation := .Group1Var2, evariation := .Group2Var2 }
        lastEvent := false
        selection := { value := false, variation := .Group1Var2 } }]
    | _ => []

/-- A run of an outstation with this binary and space for two events. -/
def sample (params : OutstationParams) (events : List (Event Bool)) : OContext Bool :=
  Machine.run step (init { source := 10, destination := 1 } { maxBinaryEvents := 2 }
    params oneBinary)
    (events.map fun event => ({}, event))

/-- A fragment from the master of this outstation. -/
def fromMaster (payload : List UInt8) : Event Bool :=
  .receive { addresses := { source := 1, destination := 10 }, payload }

/-- An event of the binary. -/
def binaryEvent : Event Bool := .update (.update .Binary true 0 .Force)

end OContext

end OpenDnp3.Outstation
