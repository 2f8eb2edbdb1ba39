import OpenDnp3.Outstation.EventEncoding
import OpenDnp3.Outstation.EventVariation

/-!
# The overflow of the event buffer

A discarded event sets the flag of the buffer, and `IsOverflown` clears it once no list is full. A
list without capacity counts as full, so that the flag is cleared only where every type has
capacity.
-/

namespace OpenDnp3.Outstation

open App

namespace EventLists

variable {α : Type*}

/-- Some type is full. -/
theorem isAnyTypeFull_iff (s : EventLists α) :
    s.isAnyTypeFull = true ↔ ∃ type, (s.getList type).isFull = true := by
  unfold isAnyTypeFull
  simp only [Bool.or_eq_true]
  constructor
  · rintro (((((((h | h) | h) | h) | h) | h) | h) | h) <;> exact ⟨_, h⟩
  · rintro ⟨type, h⟩
    cases type <;> simp [h]

/-- A list is full when it holds as many events as the configuration allows. -/
theorem Inv.isFull_iff {config : EventBufferConfig} {s : EventLists α} (h : s.Inv config)
    (type : EventType) :
    (s.getList type).isFull = true ↔ (s.getList type).size = config.capacity type := by
  rw [NodeList.isFull_iff, h.sized.lists]

/-- A list is no longer than its capacity. -/
theorem Inv.size_le {config : EventBufferConfig} {s : EventLists α} (h : s.Inv config)
    (type : EventType) : (s.getList type).size ≤ config.capacity type := by
  rw [← h.sized.lists, ← NodeList.size_add_free]
  exact Nat.le_add_right ..

/-- An event of the one storage is not in the other. -/
def loses (s s' : EventLists α) : Bool := s.ids.any fun id => id ∉ s'.ids

/-- An update says that an event was lost exactly when one is gone, and then its type has capacity.
-/
theorem update_loses {config : EventBufferConfig} {s : EventLists α} (h : s.Inv config)
    (event : Event α) (hlost : (s.update event).1 = true) :
    s.loses (s.update event).2 = true ∧ config.capacity event.type ≠ 0 := by
  obtain ⟨hupdates, -⟩ := update_spec h event
  generalize s.update event = result at hupdates hlost
  cases hupdates with
  | ignored _ => cases hlost
  | appended _ _ _ => cases hlost
  | @evicted s₁ s' a b hcapacity hfull hevicts happends =>
    rw [h.sized.lists] at hcapacity
    refine ⟨?_, hcapacity⟩
    -- The oldest record of the type is gone, and no other record has its number.
    have hsize := (h.isFull_iff event.type).mp hfull
    obtain ⟨n, hn, htype⟩ : ∃ n ∈ s.events.used, n.2.type = event.type := by
      have hpos : 0 < (s.getList event.type).size := by omega
      rw [h.linked.size_eq] at hpos
      obtain ⟨n, hn, htype⟩ := List.countP_pos_iff.mp hpos
      exact ⟨n, hn, of_decide_eq_true htype⟩
    obtain ⟨m, before, behind, -, -, hsplit, herase⟩ :=
      List.exists_of_eraseP (p := fun n => decide (n.2.type = event.type)) hn (decide_eq_true htype)
    have hm : m ∈ s.events.used := by
      rw [hsplit]
      exact List.mem_append_right _ (List.mem_cons_self ..)
    refine List.any_eq_true.mpr ⟨m.2.id, List.mem_map_of_mem (f := fun n => n.2.id) hm, ?_⟩
    rw [decide_eq_true_eq, ids, happends.events, hevicts.events, herase, List.map_append,
      List.mem_append]
    rintro (hold | hnew)
    · have hnodup := h.numbered.nodup
      rw [ids, hsplit, List.map_append, List.map_cons, List.nodup_middle,
        ← List.map_append] at hnodup
      exact (List.nodup_cons.mp hnodup).1 hold
    · have hlt := h.numbered.lt_made _ (List.mem_map_of_mem (f := fun n => n.2.id) hm)
      have hmade : m.2.id = s₁.made := List.mem_singleton.mp hnew
      rw [hevicts.made] at hmade
      omega

/-- A clearing makes no list longer. -/
theorem clearWritten_size_le {config : EventBufferConfig} {s : EventLists α} (h : s.Inv config)
    (type : EventType) : (s.clearWritten.getList type).size ≤ (s.getList type).size := by
  rw [h.linked.size_eq, (clearWritten_inv h).linked.size_eq, count, clearWritten_used]
  exact List.filter_sublist.countP_le

/-- The list of the type of a written record gets shorter. -/
theorem clearWritten_size {config : EventBufferConfig} {s : EventLists α} (h : s.Inv config)
    {n : ℕ × EventRecord} (hn : n ∈ s.events.used) (hwritten : n.2.state = .written) :
    (s.clearWritten.getList n.2.type).size < (s.getList n.2.type).size := by
  obtain ⟨before, behind, hsplit⟩ := List.append_of_mem hn
  rw [h.linked.size_eq, (clearWritten_inv h).linked.size_eq, count, clearWritten_used,
    count_of_split hsplit, hsplit, List.filter_append, List.filter_cons_of_neg (by simp [hwritten]),
    ← List.filter_append, if_pos (decide_eq_true rfl)]
  exact Nat.lt_succ_of_le List.filter_sublist.countP_le

end EventLists

namespace EventBuffer

open EventLists

variable {α : Type*} [MeasurementSpec α]

/-! ## Runs -/

/-- The buffer, and whether an event has been discarded since the flag was last cleared. -/
structure Watched (α : Type*) where
  buffer : EventBuffer α
  discarded : Bool := false

/-- One operation on the buffer. An update may discard an event, and `IsOverflown` may clear the
flag. -/
def Watched.step (s : Watched α) (op : Operation α) : Watched α where
  buffer := s.buffer.step op
  discarded := match op with
    | .update _ => s.discarded || s.buffer.storage.loses (s.buffer.step op).storage
    | .isOverflown =>
      if s.buffer.overflow = true ∧ s.buffer.isOverflown.1 = false then false else s.discarded
    | _ => s.discarded

/-- `IsOverflown` says so only if an event has been discarded since the flag was cleared, and not
when every type with capacity has space for an event. -/
structure Watched.Sound (config : EventBufferConfig) (s : Watched α) : Prop where
  discarded : s.buffer.isOverflown.1 = true → s.discarded = true
  drained : (∀ type, config.capacity type ≠ 0 →
      (s.buffer.storage.getList type).size < config.capacity type) →
    s.buffer.isOverflown.1 = false

/-- The flag is set only after an event of a type with capacity has been discarded. -/
structure Watched.Inv (config : EventBufferConfig) (s : Watched α) : Prop where
  buffer : s.buffer.Inv config
  discarded : s.buffer.overflow = true → s.discarded = true
  capacity : s.buffer.overflow = true → ∃ type, config.capacity type ≠ 0

/-- An operation other than an update and `IsOverflown` leaves the flag. -/
theorem overflow_step (b : EventBuffer α) {op : Operation α} (hupdate : ∀ event, op ≠ .update event)
    (hoverflown : op ≠ .isOverflown) : (b.step op).overflow = b.overflow := by
  have hselect : ∀ gv maximum, (b.selectMaxCount gv maximum).2.overflow = b.overflow := by
    intro gv maximum
    unfold selectMaxCount
    split <;> rfl
  cases op with
  | update event => exact absurd rfl (hupdate event)
  | isOverflown => exact absurd rfl hoverflown
  | selectAll gv => exact hselect gv _
  | selectCount gv count => exact hselect gv _
  | selectAllByClass clazz => rfl
  | unselect => rfl
  | load size => rfl
  | clearWritten => rfl

/-- Every operation keeps the invariant of the watched storage. -/
theorem Watched.Inv.step_inv {config : EventBufferConfig} {s : Watched α} (h : s.Inv config)
    (op : Operation α) : (s.step op).Inv config := by
  have hbuffer := EventBuffer.step_inv h.buffer op
  -- Only an update can set the flag, and only IsOverflown can clear it.
  by_cases hupdate : ∃ event, op = .update event
  · obtain ⟨event, rfl⟩ := hupdate
    have hflag : (s.step (.update event)).buffer.overflow =
        (s.buffer.overflow || (s.buffer.storage.update event.toEvent).1) := rfl
    have hdiscarded : (s.step (.update event)).discarded =
        (s.discarded || s.buffer.storage.loses (s.buffer.storage.update event.toEvent).2) := rfl
    refine ⟨hbuffer, fun hset => ?_, fun hset => ?_⟩
    · rw [hflag, Bool.or_eq_true] at hset
      rw [hdiscarded, Bool.or_eq_true]
      rcases hset with hold | hnew
      · exact .inl (h.discarded hold)
      · exact .inr (EventLists.update_loses h.buffer.storage _ hnew).1
    · rw [hflag, Bool.or_eq_true] at hset
      rcases hset with hold | hnew
      · exact h.capacity hold
      · exact ⟨_, (EventLists.update_loses h.buffer.storage _ hnew).2⟩
  · by_cases hoverflown : op = .isOverflown
    · subst hoverflown
      have hflag : (s.step .isOverflown).buffer.overflow = s.buffer.isOverflown.1 := rfl
      -- The answer is true only if the flag was.
      have himplies : s.buffer.isOverflown.1 = true → s.buffer.overflow = true := fun hset =>
        (Bool.and_eq_true_iff.mp hset).1
      refine ⟨hbuffer, fun hset => ?_, fun hset => h.capacity (himplies (hflag ▸ hset))⟩
      rw [hflag] at hset
      have hnot : ¬(s.buffer.overflow = true ∧ s.buffer.isOverflown.1 = false) := by
        rw [hset]
        simp
      exact (if_neg hnot).trans (h.discarded (himplies hset))
    · have hflag : (s.step op).buffer.overflow = s.buffer.overflow :=
        overflow_step s.buffer (fun event heq => hupdate ⟨event, heq⟩) hoverflown
      have hdiscarded : (s.step op).discarded = s.discarded := by
        cases op with
        | update event => exact absurd ⟨event, rfl⟩ hupdate
        | isOverflown => exact absurd rfl hoverflown
        | _ => rfl
      refine ⟨hbuffer, fun hset => ?_, fun hset => h.capacity (hflag ▸ hset)⟩
      rw [hdiscarded]
      exact h.discarded (hflag ▸ hset)

omit [MeasurementSpec α] in
/-- The flag is sound where every type has capacity, or none has. -/
theorem Watched.Inv.sound {config : EventBufferConfig} {s : Watched α} (h : s.Inv config)
    (hconfig : (∀ type, config.capacity type ≠ 0) ∨ ∀ type, config.capacity type = 0) :
    s.Sound config := by
  have himplies : s.buffer.isOverflown.1 = true →
      s.buffer.overflow = true ∧ s.buffer.storage.isAnyTypeFull = true := fun hset =>
    Bool.and_eq_true_iff.mp hset
  refine ⟨fun hset => h.discarded (himplies hset).1, fun hspace => ?_⟩
  rw [← Bool.not_eq_true]
  intro hset
  obtain ⟨hflag, hfull⟩ := himplies hset
  rcases hconfig with hall | hnone
  · obtain ⟨type, hfull⟩ := (EventLists.isAnyTypeFull_iff _).mp hfull
    have hsize := (h.buffer.storage.isFull_iff type).mp hfull
    have hlt := hspace type (hall type)
    omega
  · obtain ⟨type, hcapacity⟩ := h.capacity hflag
    exact hcapacity (hnone type)

/-! ## A type without capacity -/

/-- The buffer holds the last of `n` events of one type, none of them selected, and has overflowed
if not all of them fit. -/
structure Filled (config : EventBufferConfig) (e : Event α) (n : ℕ) (b : EventBuffer α) : Prop where
  inv : b.Inv config
  records : ∀ r ∈ b.storage.events.used, r.2.state = .unselected ∧ r.2.clazz = e.clazz
  size : (b.storage.getList e.type).size = min n (config.capacity e.type)
  others : ∀ type, type ≠ e.type → (b.storage.getList type).size = 0
  overflow : config.capacity e.type < n → b.overflow = true

/-- One more event fills the list further. -/
theorem Filled.update {config : EventBufferConfig} {e : TypedEvent α} {n : ℕ} {b : EventBuffer α}
    (h : Filled config e.toEvent n b) (hcapacity : config.capacity e.type ≠ 0) :
    Filled config e.toEvent (n + 1) (b.step (.update e)) := by
  have hstep : b.step (.update e) =
      { overflow := b.overflow || (b.storage.update e.toEvent).1
        storage := (b.storage.update e.toEvent).2 } := rfl
  have hinv := step_inv h.inv (.update e)
  obtain ⟨hupdates, -⟩ := update_spec h.inv.storage e.toEvent
  have hsize := h.size
  rw [hstep] at hinv ⊢
  generalize b.storage.update e.toEvent = result at hinv hupdates ⊢
  -- The type has a capacity, so the event is appended, behind an eviction where the list is full.
  cases hupdates with
  | ignored hnone =>
    rw [h.inv.storage.sized.lists] at hnone
    exact absurd hnone hcapacity
  | @appended s' a a' _ hspace happends =>
    have hle := h.inv.storage.size_le e.type
    have hne : (b.storage.getList e.type).size ≠ config.capacity e.type := fun heq => by
      rw [(h.inv.storage.isFull_iff e.type).mpr heq] at hspace
      cases hspace
    refine ⟨hinv, fun r hr => ?_, ?_, fun type htype => ?_, fun hlt => ?_⟩
    · rw [happends.events, List.mem_append, List.mem_singleton] at hr
      rcases hr with hold | rfl
      · exact h.records r hold
      · exact ⟨rfl, rfl⟩
    · rw [NodeList.size, happends.list, List.length_append, List.length_singleton]
      rw [NodeList.size] at hsize hne hle
      omega
    · rw [happends.others type htype]
      exact h.others type htype
    · omega
  | @evicted s₁ s' a a' _ hfull hevicts happends =>
    have hfull := (h.inv.storage.isFull_iff e.type).mp hfull
    refine ⟨hinv, fun r hr => ?_, ?_, fun type htype => ?_, fun _ => ?_⟩
    · rw [happends.events, List.mem_append, List.mem_singleton, hevicts.events] at hr
      rcases hr with hold | rfl
      · exact h.records r (List.eraseP_sublist.subset hold)
      · exact ⟨rfl, rfl⟩
    · rw [NodeList.size, happends.list, List.length_append, List.length_singleton, hevicts.list,
        List.length_tail]
      rw [NodeList.size] at hsize hfull
      omega
    · rw [happends.others type htype, hevicts.others type htype]
      exact h.others type htype
    · exact Bool.or_true _

/-- The list after so many events of its type. -/
theorem filled_replicate (config : EventBufferConfig) (e : TypedEvent α)
    (hcapacity : config.capacity e.type ≠ 0) (n : ℕ) :
    Filled config e.toEvent n (Machine.run step (ofConfig config)
      (List.replicate n (.update e))) := by
  induction n with
  | zero =>
    refine ⟨run_inv config [], fun r hr => absurd hr List.not_mem_nil, ?_, fun _ _ => rfl,
      fun h => absurd h (Nat.not_lt_zero _)⟩
    exact (Nat.zero_min _).symm
  | succ n ih =>
    rw [List.replicate_succ', Machine.run_concat]
    exact ih.update hcapacity

/-- A header with its first object needs at most 272 bytes. -/
theorem startSize_le (variation : GroupVariation) (value : α) :
    startSize variation value ≤ 272 := by
  have hsize : variation.size ≤ 15 := by cases variation <;> decide
  have hoctets := (MeasurementSpec.octetSize value).toNat_lt
  have hserializer : (serializerOf variation value).size ≤ 255 := by
    unfold serializerOf
    split_ifs
    · exact Nat.le_of_lt_succ hoctets
    · exact hsize.trans (by decide)
  unfold startSize
  split_ifs <;> omega

/-- A load with space for an event writes one if one is selected. -/
theorem load_writes {config : EventBufferConfig} {b : EventBuffer α} (h : b.Inv config)
    (hselected : b.storage.selectedReports ≠ []) :
    ∃ n ∈ (b.load { remaining := 272 }).2.1.storage.events.used, n.2.state = .written := by
  obtain ⟨passed, rest, groups, hused, hemits, hheaders, -, hmarked, -⟩ :=
    write_emits h.storage asduEventWriteHandler { writer := { remaining := 272 } }
  obtain ⟨-, hspace, -, hleft⟩ := emits_spec hemits
  have hpassed : b.storage.reports passed ≠ [] := by
    intro hnil
    have happend := hemits.eq_append
    rw [hheaders, hnil, List.nil_append] at happend
    obtain ⟨e, events, heq⟩ := List.exists_cons_of_ne_nil (happend ▸ hselected)
    -- Nothing is written, so that the space is what it was.
    have hgroups : groups = [] := by
      refine List.eq_nil_iff_forall_not_mem.mpr fun group hgroup => (hemits.same group hgroup).1 ?_
      exact List.flatten_eq_nil_iff.mp (hheaders.trans hnil) group hgroup
    have hless := hleft e events heq
    have hle := startSize_le e.variation e.value
    rw [hgroups, List.map_nil, List.sum_nil] at hspace
    dsimp only at hspace
    omega
  obtain ⟨report, reports, hreports⟩ := List.exists_cons_of_ne_nil hpassed
  have hmem : report ∈ b.storage.reports passed := by
    rw [hreports]
    exact List.mem_cons_self ..
  obtain ⟨n, hn, -⟩ := List.mem_filterMap.mp hmem
  obtain ⟨hn, hstate⟩ := List.mem_filter.mp hn
  refine ⟨markNode n, ?_, ?_⟩
  · change _ ∈ (b.storage.write asduEventWriteHandler
      { writer := { remaining := 272 } }).lists.events.used
    rw [hmarked]
    exact List.mem_append_left _ (List.mem_map_of_mem hn)
  · rw [markNode, if_pos (of_decide_eq_true hstate)]

/-- A selection of all classes selects an event if there is one and none is selected or written. -/
theorem selectAllByClass_selects {config : EventBufferConfig} {b : EventBuffer α} (h : b.Inv config)
    (hne : b.storage.events.used ≠ [])
    (hall : ∀ n ∈ b.storage.events.used, n.2.state = .unselected) :
    (b.selectAllByClass ⟨false, true, true, true⟩).storage.selectedReports ≠ [] := by
  have hinv := step_inv h (.selectAllByClass ⟨false, true, true, true⟩)
  obtain ⟨hused, -⟩ := b.storage.selectByClass_used ⟨false, true, true, true⟩ (2 ^ 32 - 1)
  have hfilter : b.storage.events.used.filter
      (fun n => isUnselectedOf ⟨false, true, true, true⟩ n.2) = b.storage.events.used := by
    refine List.filter_eq_self.mpr fun n hn => ?_
    rw [isUnselectedOf, hall n hn]
    cases n.2.clazz <;> rfl
  obtain ⟨n, nodes, hnodes⟩ := List.exists_cons_of_ne_nil hne
  have htake : n ∈ (b.storage.events.used.filter
      (fun n => isUnselectedOf ⟨false, true, true, true⟩ n.2)).take (2 ^ 32 - 1) := by
    rw [hfilter, hnodes]
    exact List.mem_cons_self ..
  have hpicked := mem_pick_of_mem_take htake
  rw [← hused] at hpicked
  obtain ⟨data, hdata, -⟩ := hinv.storage.oneToOne.toTyped _ hpicked
  exact List.ne_nil_of_mem (mem_selectedReports.mpr ⟨_, data, ⟨_, hpicked, hdata⟩, rfl, rfl⟩)

/-- All events are selected, one fragment of them is written and confirmed. -/
def drain (b : EventBuffer α) : EventBuffer α :=
  Machine.run step b [.selectAllByClass ⟨false, true, true, true⟩, .load 272, .clearWritten]

/-- When all events have one type, the list of this type gets shorter, and no other gets longer. -/
theorem drain_size {config : EventBufferConfig} {b : EventBuffer α} (h : b.Inv config)
    (hall : ∀ n ∈ b.storage.events.used, n.2.state = .unselected) {type : EventType}
    (hpos : 0 < (b.storage.getList type).size)
    (hothers : ∀ t, t ≠ type → (b.storage.getList t).size = 0) :
    (b.drain.storage.getList type).size < (b.storage.getList type).size ∧
      ∀ t, (b.drain.storage.getList t).size ≤ (b.storage.getList t).size := by
  have hne : b.storage.events.used ≠ [] := by
    rw [h.storage.linked.size_eq] at hpos
    obtain ⟨n, hn, -⟩ := List.countP_pos_iff.mp hpos
    exact List.ne_nil_of_mem hn
  have hselected := selectAllByClass_selects h hne hall
  have hinv := step_inv h (.selectAllByClass ⟨false, true, true, true⟩)
  change (b.selectAllByClass ⟨false, true, true, true⟩).Inv config at hinv
  obtain ⟨n, hn, hwritten⟩ := load_writes hinv hselected
  have hinv' := step_inv hinv (.load 272)
  have hinv'' := step_inv hinv' .clearWritten
  -- Neither the selection nor the load changes the lists of the types.
  have hlists : ∀ t, (((b.selectAllByClass ⟨false, true, true, true⟩).load
      { remaining := 272 }).2.1.storage.getList t).size = (b.storage.getList t).size := by
    intro t
    obtain ⟨-, hselect⟩ := b.storage.selectByClass_used ⟨false, true, true, true⟩ (2 ^ 32 - 1)
    obtain ⟨-, -, -, -, -, -, -, -, hload, -⟩ := write_emits hinv.storage asduEventWriteHandler
      { writer := { remaining := 272 } }
    exact congrArg (fun lists => (lists t).size) (hload.trans hselect)
  change EventBuffer.Inv config ((b.selectAllByClass ⟨false, true, true, true⟩).load
    { remaining := 272 }).2.1 at hinv'
  change (((b.selectAllByClass ⟨false, true, true, true⟩).load
      { remaining := 272 }).2.1.storage.clearWritten.getList type).size < _ ∧
    ∀ t, (((b.selectAllByClass ⟨false, true, true, true⟩).load
      { remaining := 272 }).2.1.storage.clearWritten.getList t).size ≤ _
  generalize ((b.selectAllByClass ⟨false, true, true, true⟩).load { remaining := 272 }).2.1 = c
    at hn hinv' hlists ⊢
  have hless := clearWritten_size hinv'.storage hn hwritten
  have htype : n.2.type = type := by
    by_contra htype
    have hzero := hothers n.2.type htype
    have hsize := hlists n.2.type
    omega
  rw [htype, hlists] at hless
  refine ⟨hless, fun t => ?_⟩
  rw [← hlists t]
  exact clearWritten_size_le hinv'.storage t

/-- Where one type has capacity and another has none, the flag stays set after the buffer has
overflowed and an event has been read and confirmed. -/
theorem stays_set {config : EventBufferConfig} {e : TypedEvent α}
    (hcapacity : config.capacity e.type ≠ 0) {type : EventType} (hnone : config.capacity type = 0) :
    ¬(Machine.run Watched.step { buffer := (ofConfig config : EventBuffer α) }
      (List.replicate (config.capacity e.type + 1) (.update e) ++
        [.selectAllByClass ⟨false, true, true, true⟩, .load 272, .clearWritten])).Sound config := by
  have hbuffer : ∀ (s : Watched α) (ops : List (Operation α)),
      (Machine.run Watched.step s ops).buffer = Machine.run step s.buffer ops := by
    intro s ops
    induction ops generalizing s with
    | nil => rfl
    | cons op ops ih => exact ih (s.step op)
  intro hsound
  have hdrained := hsound.drained
  rw [hbuffer, Machine.run_append] at hdrained
  have hfilled := filled_replicate config e hcapacity (config.capacity e.type + 1)
  generalize Machine.run step (ofConfig config) (List.replicate (config.capacity e.type + 1)
    (.update e)) = b at hfilled hdrained
  have hoverflow := hfilled.overflow (Nat.lt_succ_self _)
  have hsize := hfilled.size
  rw [min_eq_right (Nat.le_succ _)] at hsize
  have hpos : 0 < (b.storage.getList e.type).size := by omega
  have hlt := drain_size hfilled.inv (fun n hn => (hfilled.records n hn).1) hpos hfilled.others
  have hinv := step_inv (step_inv (step_inv hfilled.inv
    (.selectAllByClass ⟨false, true, true, true⟩)) (.load 272)) .clearWritten
  change (∀ type, _ → (b.drain.storage.getList type).size < _) → b.drain.isOverflown.1 = false
    at hdrained
  change b.drain.Inv config at hinv
  -- The list without capacity counts as full.
  have hfull : b.drain.storage.isAnyTypeFull = true := by
    refine (isAnyTypeFull_iff _).mpr ⟨type, (hinv.storage.isFull_iff type).mpr ?_⟩
    have hle := hinv.storage.size_le type
    omega
  have hset : b.drain.isOverflown.1 = true := by
    unfold isOverflown
    rw [Bool.and_eq_true]
    exact ⟨hoverflow, hfull⟩
  rw [hdrained fun t ht => ?_] at hset
  · cases hset
  · by_cases heq : t = e.type
    · subst heq
      exact hlt.1.trans_eq hsize
    · have hzero := hlt.2 t
      have hnone := hfilled.others t heq
      omega

/-- In every run of a buffer the flag is set only if an event has been discarded since it was last
cleared, and is not set when every type with capacity has space, exactly when the configuration
gives capacity to every type, or to none. -/
theorem overflow_sound_iff (config : EventBufferConfig) (value : α) :
    (∀ ops : List (Operation α),
        (Machine.run Watched.step { buffer := ofConfig config } ops).Sound config) ↔
      (∀ type, config.capacity type ≠ 0) ∨ ∀ type, config.capacity type = 0 := by
  constructor
  · intro hsound
    by_contra hmixed
    simp only [not_or, not_forall, not_not] at hmixed
    obtain ⟨⟨type, hnone⟩, type', hcapacity⟩ := hmixed
    obtain ⟨variation, htyped⟩ : ∃ variation, variation ∈ type'.variations := by
      cases type' <;> exact ⟨_, List.mem_cons_self ..⟩
    exact stays_set (e := ⟨⟨type', value, 0, .EC1, variation⟩, htyped⟩) hcapacity hnone (hsound _)
  · intro hconfig ops
    have hinit : Watched.Inv config ({ buffer := ofConfig config } : Watched α) :=
      ⟨run_inv config [], (fun h => by cases h), (fun h => by cases h)⟩
    have hstep : ∀ (s : Watched α) (op : Operation α), s.Inv config → (s.step op).Inv config :=
      fun s op h => h.step_inv op
    exact (Machine.run_of_step _ hstep hinit ops).sound hconfig

/-- The first variation of a binary event belongs to its type. -/
theorem eventBinary_first : GroupVariation.Group2Var1 ∈ EventType.Binary.variations := by decide

/-- Two binaries are recorded where there is space for one, and the one that is left is read and
confirmed. -/
def overflowed : List (Operation Bool) :=
  List.replicate 2 (.update ⟨⟨.Binary, true, 0, .EC1, .Group2Var1⟩, eventBinary_first⟩) ++
    [.selectAllByClass ⟨false, true, true, true⟩, .load 272, .clearWritten]

/-- The buffer is empty, and the flag is still set. -/
theorem not_sound_overflowed :
    let s : Watched Bool := Machine.run Watched.step
      { buffer := ofConfig { maxBinaryEvents := 1 } } overflowed
    ¬s.Sound { maxBinaryEvents := 1 } ∧ s.buffer.storage.events.used = [] ∧
      s.buffer.isOverflown.1 = true := by
  intro s
  have hempty : s.buffer.storage.events.used = [] := by decide +kernel
  have hset : s.buffer.isOverflown.1 = true := by decide +kernel
  refine ⟨fun hsound => ?_, hempty, hset⟩
  have hspace : ∀ type, ({ maxBinaryEvents := 1 } : EventBufferConfig).capacity type ≠ 0 →
      (s.buffer.storage.getList type).size <
        ({ maxBinaryEvents := 1 } : EventBufferConfig).capacity type := by
    intro type
    cases type <;> decide +kernel
  rw [hsound.drained hspace] at hset
  cases hset

end EventBuffer

end OpenDnp3.Outstation
