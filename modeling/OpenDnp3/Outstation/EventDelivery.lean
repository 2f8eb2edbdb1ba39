import OpenDnp3.Outstation.ConfirmWait

/-!
# Events between the buffer and the master

An event leaves the buffer of the outstation only by an overflow of its type or with the confirm of
the fragment that it was written to. Where no fragment with events is abandoned without their
release, all events in the buffer are visible in the idle state.
-/

namespace OpenDnp3.Outstation

open App

variable {α : Type*}

/-! ## Overflow -/

namespace EventLists

/-- The number of the oldest record of a type. -/
def oldest (s : EventLists α) (type : EventType) : Option ℕ :=
  (s.events.used.find? fun n => n.2.type = type).map fun n => n.2.id

/-- An event that is appended removes no other one. -/
theorem mem_ids_of_appends {s s' : EventLists α} {event : Outstation.Event α} {a b : ℕ}
    (h : s.Appends event s' a b) {id : ℕ} (hid : id ∈ s.ids) : id ∈ s'.ids := by
  unfold ids at *
  rw [h.events, List.map_append]
  exact List.mem_append_left _ hid

/-- The event that is evicted is the oldest one of its type. -/
theorem oldest_of_evicts {s s' : EventLists α} {type : EventType} (h : s.Evicts type s') {id : ℕ}
    (hid : id ∈ s.ids) (hgone : id ∉ s'.ids) : s.oldest type = some id := by
  unfold ids at *
  rw [h.events] at hgone
  unfold oldest
  generalize s.events.used = used at hid hgone ⊢
  -- The one record that the list loses is the first one of the type.
  induction used with
  | nil => cases hid
  | cons n nodes ih =>
    by_cases htype : n.2.type = type
    · rw [List.find?_cons_of_pos (by simpa using htype)]
      rw [List.eraseP_cons_of_pos (by simpa using htype)] at hgone
      rw [List.map_cons] at hid
      obtain hid | hid := List.mem_cons.mp hid
      · rw [hid]
        rfl
      · exact absurd hid hgone
    · rw [List.find?_cons_of_neg (by simpa using htype)]
      rw [List.eraseP_cons_of_neg (by simpa using htype), List.map_cons, List.mem_cons] at hgone
      rw [List.map_cons] at hid
      push Not at hgone
      obtain hid | hid := List.mem_cons.mp hid
      · exact absurd hid hgone.1
      · exact ih hid hgone.2

/-- A record that is gone after an update was the oldest one of its type, whose list was full. -/
theorem oldest_of_not_mem_update {config : EventBufferConfig} {s : EventLists α}
    (h : s.Inv config) (event : Outstation.Event α) {id : ℕ} (hid : id ∈ s.ids)
    (hgone : id ∉ (s.update event).2.ids) :
    (s.getList event.type).isFull = true ∧ s.oldest event.type = some id := by
  obtain ⟨hupdates, -⟩ := update_spec h event
  generalize s.update event = r at hupdates hgone
  cases hupdates with
  | ignored _ => exact absurd hid hgone
  | appended _ _ happends => exact absurd (mem_ids_of_appends happends hid) hgone
  | evicted _ hfull hevicts happends =>
    refine ⟨hfull, oldest_of_evicts hevicts hid fun hkept => ?_⟩
    exact hgone (mem_ids_of_appends happends hkept)

end EventLists

namespace OContext

/-- The record is evicted by one of these events: it is the oldest one of the type of the event when
it comes, and the list of this type is full. -/
def Evicted (b : EventBuffer α) (events : List (Outstation.Event α)) (id : ℕ) : Prop :=
  ∃ before event after, events = before ++ event :: after ∧
    ((before.foldl EventBuffer.update b).storage.getList event.type).isFull = true ∧
    (before.foldl EventBuffer.update b).storage.oldest event.type = some id

/-- An event that is gone after an update was evicted by it. -/
theorem evicted_of_not_mem {config : EventBufferConfig} (events : List (Outstation.Event α))
    {b : EventBuffer α} (h : b.storage.Inv config) {id : ℕ} (hid : id ∈ b.storage.ids)
    (hgone : id ∉ (events.foldl EventBuffer.update b).storage.ids) : Evicted b events id := by
  induction events generalizing b with
  | nil => exact absurd hid hgone
  | cons event events ih =>
    by_cases hkept : id ∈ (b.update event).storage.ids
    · obtain ⟨before, event', after, rfl, hevicted⟩ :=
        ih (EventLists.update_spec h event).2 hkept hgone
      exact ⟨event :: before, event', after, rfl, hevicted⟩
    · exact ⟨[], event, events, rfl, EventLists.oldest_of_not_mem_update h event hid hkept⟩

/-! ## No event is lost -/

section Steps

variable [MeasurementSpec α]

/-- The step handles a confirm that has the UNS flag and the sequence number of the last fragment of
its kind, and the record is in this fragment. -/
def Confirmed (env : Env α) (event : Event α) (s : OContext α) (id : ℕ) : Prop :=
  ∃ s₁ request response, Processes env event s s₁ request ∧
    request.header.function = .CONFIRM ∧
    lastSent (if request.header.control.uns then .UNSOLICITED_RESPONSE else .RESPONSE) s₁.log =
      some response ∧
    request.header.control.seq = response.control.seq ∧ id ∈ response.events

/-- A matching confirm is the confirm of the events that are written. -/
theorem confirmed_of_written {config : EventBufferConfig} {env : Env α} {event : Event α}
    {s s₁ : OContext α} {request : ParsedRequest} (hprocesses : Processes env event s s₁ request)
    (h : s₁.Inv config) (hmatches : Matches request s₁)
    (hnull : s₁.state = .UnsolicitedConfirmWait → s₁.completedNull = true) {id : ℕ}
    (hid : id ∈ s₁.eventBuffer.storage.writtenIds) : Confirmed env event s id := by
  obtain ⟨hstate, huns, hseq⟩ | ⟨hstate, huns, hseq⟩ := hmatches.waits
  · obtain ⟨-, -, -, hnum, hlast, hwritten⟩ := h.solicited hstate
    refine ⟨s₁, request, s₁.solTx, hprocesses, hmatches.function, ?_, ?_, hwritten id hid⟩
    · rwa [if_neg (by simp [huns])]
    · rw [hnum, hseq]
  · obtain ⟨hnum, hlast, hwritten⟩ := h.unsolicited hstate
    refine ⟨s₁, request, s₁.unsolTx, hprocesses, hmatches.function, ?_, ?_,
      hwritten (hnull hstate) id hid⟩
    · rwa [if_pos huns]
    · rw [hnum, hseq]

/-- How a record can leave the buffer in a step. -/
def Leaves (env : Env α) (event : Event α) (s : OContext α) (id : ℕ) : Prop :=
  (∃ change, event = .update change ∧
    Evicted s.eventBuffer (change.run s.database).2 id) ∨ Confirmed env event s id

/-- An event that is no request lets a record leave only by eviction. -/
theorem Happens.keeps {config : EventBufferConfig} {env : Env α} {event : Event α}
    {s s' : OContext α} (hhappens : Happens env s event s') (h : s.Inv config) {id : ℕ}
    (hid : id ∈ s.eventBuffer.storage.ids) :
    id ∈ s'.eventBuffer.storage.ids ∨ Leaves env event s id := by
  have hunselect : id ∈ s.eventBuffer.unselect.storage.ids := by
    show id ∈ s.eventBuffer.storage.unselect.ids
    rwa [EventLists.unselect_ids]
  cases hhappens with
  | down =>
    unfold onLowerLayerDown
    split_ifs
    · exact .inl hunselect
    · exact .inl hid
  | timedOut _ =>
    unfold onConfirmTimeout
    split
    · exact .inl hid
    · exact .inl hid
    · dsimp only
      split_ifs
      · exact .inl hunselect
      · exact .inl hid
  -- Only an update may evict a record.
  | @updated change =>
    by_cases hkept : id ∈ (s.applyChange change).eventBuffer.storage.ids
    · exact .inl hkept
    · exact .inr (.inl ⟨change, rfl, evicted_of_not_mem _ h.storage hid hkept⟩)
  | same => exact .inl hid
  | online _ => exact .inl hid
  | transmitted _ _ => exact .inl hid
  | unacknowledged _ => exact .inl hid
  | deferred _ _ _ => exact .inl hid
  | restarted => exact .inl hid

/-- A request lets a record leave only with its confirm. -/
theorem Handles.keeps {config : EventBufferConfig} {env : Env α} {event : Event α}
    {request : ParsedRequest} {s s₁ s₂ : OContext α}
    (hprocesses : Processes env event s s₁ request) (h : s₁.Inv config)
    (hhandles : Handles config env request s₁ s₂) {id : ℕ}
    (hid : id ∈ s₁.eventBuffer.storage.ids) :
    id ∈ s₂.eventBuffer.storage.ids ∨ Leaves env event s id := by
  -- What the removal of the written records takes away was in the confirmed fragment.
  have hclear : Matches request s₁ →
      (s₁.state = .UnsolicitedConfirmWait → s₁.completedNull = true) →
      id ∈ s₁.confirm.eventBuffer.storage.ids ∨ Leaves env event s id := by
    intro hmatches hnull
    by_cases hkept : id ∈ s₁.eventBuffer.storage.clearWritten.ids
    · exact .inl hkept
    · exact .inr (.inr (confirmed_of_written hprocesses h hmatches hnull
        (EventLists.mem_writtenIds_of_not_mem_clearWritten hid hkept)))
  cases hhandles with
  | ignored => exact .inl hid
  | confirmed hmatches hstate _ => exact hclear hmatches (by simp [hstate])
  | continued hmatches hstate _ hsends _ =>
    rw [hsends.ids]
    exact hclear hmatches (by simp [hstate])
  | confirmedNull _ _ _ => exact .inl hid
  | confirmedEvents hmatches _ hnull => exact hclear hmatches fun _ => hnull
  | deferred _ _ _ => exact .inl hid
  | read _ _ _ _ hsends _ =>
    rw [hsends.ids]
    exact .inl hid
  | nonRead _ _ _ _ hresponds =>
    obtain ⟨_, _, _, ⟨_, _, _, _, _, _, rfl, _⟩, rfl, _⟩ := hresponds.exists_eq
    exact .inl hid
  | repeated _ _ _ _ _ => exact .inl hid

/-- Every step keeps a record, or the record leaves as it may. -/
theorem step_keeps {config : EventBufferConfig} {s : OContext α} (h : s.Inv config) (env : Env α)
    (event : Event α) {id : ℕ} (hid : id ∈ s.eventBuffer.storage.ids) :
    id ∈ (s.step (env, event)).eventBuffer.storage.ids ∨ Leaves env event s id := by
  have hstep : (s.step (env, event)).Inv config ∧
      (id ∈ (s.step (env, event)).eventBuffer.storage.ids ∨ Leaves env event s id) := by
    refine step_induction (P := fun s' => s'.Inv config ∧
      (id ∈ s'.eventBuffer.storage.ids ∨ Leaves env event s id)) (fun _ hP => hP.1.storage)
      ⟨h, .inl hid⟩ ?_ ?_ ?_ ?_
    · intro s' hhappens
      exact ⟨hhappens.inv h, hhappens.keeps h hid⟩
    · rintro s₁ request s₂ hprocesses ⟨hinv, hkept⟩ hhandles
      exact ⟨hhandles.inv hinv, hkept.elim (Handles.keeps hprocesses hinv hhandles) .inr⟩
    · rintro s₁ ⟨hinv, hkept⟩
      exact ⟨⟨hinv.storage, hinv.timer, hinv.response, hinv.solicited, hinv.unsolicited⟩, hkept⟩
    · rintro s₁ s₂ ⟨hinv, hkept⟩ hunsolicits
      refine ⟨hunsolicits.inv hinv, ?_⟩
      obtain ⟨b, response, rfl, -, -, -, hids, -⟩ := hunsolicits.exists_eq
      rwa [show _ = s₁.eventBuffer.storage.ids from hids]
  exact hstep.2

/-- A record leaves the buffer only as the oldest one of its type, by an update of this type while
its list is full, or with the confirm of the last solicited or unsolicited fragment, which it is in.
-/
theorem run_keeps (addresses : Addresses) (config : EventBufferConfig) (params : OutstationParams)
    (database : DatabaseBuffers α) (inputs : List (Env α × Event α)) (env : Env α)
    (event : Event α) :
    let s := Machine.run step (init addresses config params database) inputs
    ∀ id ∈ s.eventBuffer.storage.ids,
      id ∉ (s.step (env, event)).eventBuffer.storage.ids →
        (∃ change, event = .update change ∧
          Evicted s.eventBuffer (change.run s.database).2 id) ∨ Confirmed env event s id := by
  intro s id hid hgone
  have h : s.Inv config := run_inv addresses config params database inputs
  exact (step_keeps h env event hid).resolve_left hgone

/-- The one event of a read leaves with its confirm. -/
theorem run_keeps_oneEvent :
    let s := sample {} [.lowerLayerUp, binaryEvent, fromMaster [0xC0, 0x01, 60, 2, 0x06], .txReady]
    Confirmed {} (fromMaster [0xC0, 0x00]) s 0 := by
  intro s
  have hleaves := run_keeps { source := 10, destination := 1 } { maxBinaryEvents := 2 } {} oneBinary
    ([.lowerLayerUp, binaryEvent, fromMaster [0xC0, 0x01, 60, 2, 0x06], .txReady].map
      fun event => ({}, event)) {} (fromMaster [0xC0, 0x00]) 0 (by decide +kernel)
    (by decide +kernel)
  refine hleaves.resolve_left ?_
  rintro ⟨change, hevent, -⟩
  cases hevent

/-! ## Visible events -/

omit [MeasurementSpec α] in
/-- In the idle state no event counts as written, and likewise in the wait for the confirm of the
null response. -/
structure Released (s : OContext α) : Prop where
  idle : s.state = .Idle → s.eventBuffer.storage.writtenIds = []
  null : s.state = .UnsolicitedConfirmWait → s.completedNull = false →
    s.eventBuffer.storage.writtenIds = []

/-- A fragment with events is abandoned without their release: its confirm times out, or a request
other than a read comes in its place. -/
def Abandons (s : OContext α) (input : Env α × Event α) : Prop :=
  (input.2 = .confirmTimeout ∧ s.state = .SolicitedConfirmWait ∧
      s.eventBuffer.storage.writtenIds ≠ []) ∨
    ∃ s₁ request, Processes input.1 input.2 s s₁ request ∧ s₁.state = .SolicitedConfirmWait ∧
      request.header.function ≠ .CONFIRM ∧ request.header.function ≠ .READ ∧
      request.header.control.uns = false ∧ s₁.isRepeat request = false ∧
      s₁.eventBuffer.storage.writtenIds ≠ []

omit [MeasurementSpec α] in
/-- Where nothing is written, everything is released. -/
theorem Released.of_nil {s : OContext α} (h : s.eventBuffer.storage.writtenIds = []) :
    s.Released := ⟨fun _ => h, fun _ _ => h⟩

/-- An event that does not abandon a response keeps the release. -/
theorem Happens.released {config : EventBufferConfig} {env : Env α} {event : Event α}
    {s s' : OContext α} (hhappens : Happens env s event s') (h : s.Inv config)
    (hreleased : s.Released) (habandons : ¬Abandons s (env, event)) : s'.Released := by
  cases hhappens with
  | down =>
    unfold onLowerLayerDown
    split_ifs
    · exact .of_nil (EventLists.unselect_writtenIds _)
    · exact hreleased
  | timedOut _ =>
    unfold onConfirmTimeout
    split
    · exact ⟨hreleased.idle, hreleased.null⟩
    case h_2 hstate =>
      refine .of_nil ?_
      by_contra hwritten
      exact habandons (.inl ⟨rfl, hstate, hwritten⟩)
    case h_3 hstate =>
      refine .of_nil ?_
      dsimp only
      split_ifs with hnull
      · exact EventLists.unselect_writtenIds _
      · exact hreleased.null hstate (by simpa using hnull)
  | @updated change =>
    -- An update writes no event.
    have hsubset := (foldl_update_spec (change.run s.database).2 h.storage).2
    exact ⟨fun hstate => List.subset_nil.mp (hreleased.idle hstate ▸ hsubset),
      fun hstate hnull => List.subset_nil.mp (hreleased.null hstate hnull ▸ hsubset)⟩
  | same => exact hreleased
  | online _ => exact ⟨hreleased.idle, hreleased.null⟩
  | transmitted _ _ => exact ⟨hreleased.idle, hreleased.null⟩
  | unacknowledged _ => exact ⟨hreleased.idle, hreleased.null⟩
  | deferred _ _ _ => exact ⟨hreleased.idle, hreleased.null⟩
  | restarted => exact ⟨hreleased.idle, hreleased.null⟩

omit [MeasurementSpec α] in
/-- A fragment that is sent is waited for or has no event. -/
theorem Sends.released {config : EventBufferConfig} {s s' : OContext α} {destination seq : ℕ}
    {response : APDUResponse α} (hsends : Sends config s s' destination seq response) :
    s'.Released := by
  have hunwritten := hsends.unwritten
  obtain ⟨_, _, _, rfl⟩ := hsends.exists_eq
  cases hcon : response.control.con with
  | false => exact .of_nil (hunwritten hcon)
  | true => exact ⟨fun hstate => by simp at hstate, fun hstate => by simp at hstate⟩

/-- A request that does not abandon a response keeps the release. -/
theorem Handles.released {config : EventBufferConfig} {env : Env α} {event : Event α}
    {request : ParsedRequest} {s s₁ s₂ : OContext α}
    (hprocesses : Processes env event s s₁ request) (hreleased : s₁.Released)
    (hhandles : Handles config env request s₁ s₂) (habandons : ¬Abandons s (env, event)) :
    s₂.Released := by
  cases hhandles with
  | ignored => exact hreleased
  | confirmed _ _ _ => exact .of_nil (EventLists.clearWritten_writtenIds _)
  | continued _ _ _ hsends _ => exact hsends.released
  | confirmedNull _ hstate hnull => exact .of_nil (hreleased.null hstate hnull)
  | confirmedEvents _ _ _ => exact .of_nil (EventLists.clearWritten_writtenIds _)
  | deferred _ _ _ => exact ⟨hreleased.idle, hreleased.null⟩
  | read _ _ _ _ hsends _ => exact hsends.released
  | nonRead huns hconfirm hfunction hnew hresponds =>
    obtain ⟨_, _, _, ⟨_, _, _, _, _, _, rfl, _⟩, rfl, _⟩ := hresponds.exists_eq
    cases hs : s₁.state with
    | Idle => exact .of_nil (hreleased.idle hs)
    | SolicitedConfirmWait =>
      -- The condition excludes a request in place of the confirm while events are written.
      refine .of_nil ?_
      by_contra hwritten
      exact habandons (.inr ⟨s₁, request, hprocesses, hs, hconfirm, hfunction, huns,
        hnew, hwritten⟩)
    | UnsolicitedConfirmWait =>
      refine ⟨fun hidle => ?_, fun _ hnull => hreleased.null hs hnull⟩
      simp [record, hs] at hidle
  | repeated _ _ _ _ _ => exact ⟨hreleased.idle, hreleased.null⟩

omit [MeasurementSpec α] in
/-- An unsolicited response keeps the release. -/
theorem Unsolicits.released {config : EventBufferConfig} {s s' : OContext α}
    (hunsolicits : Unsolicits config s s') (hreleased : s.Released) : s'.Released := by
  have hidle := hunsolicits.idle
  obtain ⟨b, response, rfl, -, -, -, -, hwritten⟩ := hunsolicits.exists_eq
  refine ⟨nofun, fun _ hnull => ?_⟩
  rw [if_neg (by simpa using hnull)] at hwritten
  rw [show _ = s.eventBuffer.storage from hwritten]
  exact hreleased.idle hidle

/-- A step that does not abandon a response keeps the release. -/
theorem step_released {config : EventBufferConfig} (s : OContext α) (input : Env α × Event α)
    (h : s.Inv config ∧ s.Released) (habandons : ¬Abandons s input) :
    (s.step input).Inv config ∧ (s.step input).Released := by
  obtain ⟨env, event⟩ := input
  refine step_induction (P := fun s' => s'.Inv config ∧ s'.Released) (fun _ hP => hP.1.storage) h
    ?_ ?_ ?_ ?_
  · intro s' hhappens
    exact ⟨hhappens.inv h.1, hhappens.released h.1 h.2 habandons⟩
  · rintro s₁ request s₂ hprocesses ⟨hinv, hreleased⟩ hhandles
    exact ⟨hhandles.inv hinv, hhandles.released hprocesses hreleased habandons⟩
  · rintro s₁ ⟨hinv, hreleased⟩
    exact ⟨⟨hinv.storage, hinv.timer, hinv.response, hinv.solicited, hinv.unsolicited⟩,
      hreleased.idle, hreleased.null⟩
  · rintro s₁ s₂ ⟨hinv, hreleased⟩ hunsolicits
    exact ⟨hunsolicits.inv hinv, hunsolicits.released hreleased⟩

omit [MeasurementSpec α] in
/-- Where nothing is written, every event counts as unwritten. -/
theorem numUnwritten_of_released {config : EventBufferConfig} {s : EventLists α}
    (h : s.Inv config) (hwritten : s.writtenIds = []) (clazz : EventClass) :
    (s.numUnwritten clazz).toNat = s.count fun r => r.clazz = clazz := by
  have hnone : s.count (fun r => r.clazz = clazz ∧ r.state = .written) = 0 := by
    unfold EventLists.count
    rw [List.countP_eq_zero]
    intro n hn hstate
    have hmem : n.2.id ∈ s.writtenIds :=
      List.mem_map.mpr ⟨n, List.mem_filter.mpr ⟨hn, by simp at hstate; simp [hstate.2]⟩, rfl⟩
    rw [hwritten] at hmem
    cases hmem
  have hsum := s.count_unwritten clazz
  rw [h.countersExact.unwritten clazz]
  omega

/-- In every run that abandons no fragment with events, all events in the buffer are visible in the
idle state: they are counted as unwritten, and show in the class bits. -/
theorem run_visible (addresses : Addresses) (config : EventBufferConfig)
    (params : OutstationParams) (database : DatabaseBuffers α) (inputs : List (Env α × Event α))
    (hinputs : Machine.StepsMeet step (fun s input => ¬Abandons s input)
      (init addresses config params database) inputs) :
    let s := Machine.run step (init addresses config params database) inputs
    s.state = .Idle → ∀ clazz,
      (s.eventBuffer.storage.numUnwritten clazz).toNat =
        s.eventBuffer.storage.count (fun r => r.clazz = clazz) ∧
      s.eventBuffer.unwrittenClassField.hasEventType clazz =
        decide (0 < s.eventBuffer.storage.count fun r => r.clazz = clazz) := by
  intro s hidle clazz
  obtain ⟨hinv, hreleased⟩ : s.Inv config ∧ s.Released :=
    Machine.run_invariant step step_released _ inputs
      ⟨init_inv addresses config params database, .of_nil rfl⟩ hinputs
  have hcount := numUnwritten_of_released hinv.storage (hreleased.idle hidle) clazz
  refine ⟨hcount, ?_⟩
  rw [← hcount]
  cases clazz <;> exact decide_eq_decide.mpr UInt32.lt_iff_toNat_lt

/-- A step abandons nothing where no request is deferred, the outstation is not waiting at a
timeout, and a request that comes while it waits is a confirm. -/
theorem not_abandons {s : OContext α} {env : Env α} {event : Event α}
    (hdeferred : (s.arrive env event).deferred = none)
    (htimeout : event = .confirmTimeout → s.state ≠ .SolicitedConfirmWait)
    (hreceive : ∀ message, event = .receive message → s.state = .SolicitedConfirmWait →
      (s.parseMessage message).all fun request => request.header.function = .CONFIRM) :
    ¬Abandons s (env, event) := by
  rintro (⟨hevent, hstate, -⟩ | ⟨s₁, request, hprocesses, hstate, hconfirm, -⟩)
  · exact htimeout hevent hstate
  · cases hprocesses with
    | received hevent _ hparse _ =>
      have hall := hreceive _ hevent hstate
      rw [hparse] at hall
      exact hconfirm (by simpa using hall)
    | dequeued _ _ hsome _ =>
      rw [hdeferred] at hsome
      cases hsome

/-- The second event comes while the outstation waits for the confirm of the first one, and is
visible after it. -/
theorem run_visible_secondEvent :
    let s := sample {} [.lowerLayerUp, binaryEvent, fromMaster [0xC0, 0x01, 60, 2, 0x06], .txReady,
      binaryEvent, fromMaster [0xC0, 0x00]]
    (s.eventBuffer.storage.numUnwritten .EC1).toNat = 1 ∧
      s.eventBuffer.unwrittenClassField.class1 = true := by
  intro s
  have hvisible := run_visible { source := 10, destination := 1 } { maxBinaryEvents := 2 } {}
    oneBinary ([.lowerLayerUp, binaryEvent, fromMaster [0xC0, 0x01, 60, 2, 0x06], .txReady,
      binaryEvent, fromMaster [0xC0, 0x00]].map fun event => ({}, event))
    ⟨not_abandons (by decide +kernel) nofun nofun, not_abandons (by decide +kernel) nofun nofun,
      not_abandons (by decide +kernel) nofun (fun _ _ h => absurd h (by decide +kernel)),
      not_abandons (by decide +kernel) nofun nofun, not_abandons (by decide +kernel) nofun nofun,
      not_abandons (by decide +kernel) nofun (fun _ h _ => by
        obtain rfl := Event.receive.inj h
        decide +kernel), trivial⟩ (by decide +kernel) .EC1
  exact ⟨hvisible.1.trans (by decide +kernel), hvisible.2.trans (by decide +kernel)⟩

/-- After the timeout of a solicited confirm the event stays written: it is in the buffer, but not
visible. -/
theorem not_visible_after_timeout :
    let s := sample {} [.lowerLayerUp, binaryEvent, fromMaster [0xC0, 0x01, 60, 2, 0x06], .txReady,
      .confirmTimeout]
    s.state = .Idle ∧ s.isTransmitting = false ∧
      (s.eventBuffer.storage.numUnwritten .EC1).toNat = 0 ∧
      s.eventBuffer.storage.count (fun r => r.clazz = .EC1) = 1 := by
  decide +kernel

end Steps

end OContext

end OpenDnp3.Outstation
