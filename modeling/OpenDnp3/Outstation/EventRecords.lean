import OpenDnp3.Lib.Run
import OpenDnp3.Outstation.EventStorage

/-!
# The records of the event storage

The invariant of the event storage: the list of all records and the lists of the types point to each
other in the same order, every counter is the number of records that it counts, and no two records
have the same number. A change of one record and its removal keep it, and so does an update, which
takes the place of the oldest event of its type where there is no other.
-/

namespace OpenDnp3.Outstation.EventLists

open App

variable {α ω : Type*}

/-- The number of records with a property. -/
def count (s : EventLists α) (p : EventRecord → Bool) : ℕ := s.events.used.countP fun n => p n.2

/-- For every type, the records of the type in the list of all records and the nodes of the list of
the type name each other, in the same order. -/
def Linked (s : EventLists α) : Prop :=
  ∀ type, (s.events.used.filter fun n => n.2.type = type).map (fun n => (n.1, n.2.storageNode)) =
    (s.getList type).used.map fun n => (n.2.record, n.1)

/-- Every counter is the number of records that it counts, as a `uint32_t`. -/
structure Counted (s : EventLists α) : Prop where
  total : ∀ clazz, s.counters.total.get clazz = UInt32.ofNat (s.count fun r => r.clazz = clazz)
  written : ∀ clazz, s.counters.written.get clazz =
    UInt32.ofNat (s.count fun r => r.clazz = clazz ∧ r.state = .written)
  selected : s.counters.selected = UInt32.ofNat (s.count fun r => r.state = .selected)

/-- The lists have the capacities of the configuration. -/
structure Sized (config : EventBufferConfig) (s : EventLists α) : Prop where
  events : s.events.capacity = config.totalEvents
  lists : ∀ type, (s.getList type).capacity = config.capacity type

/-- The numbers of the records, in the order of the list. -/
def ids (s : EventLists α) : List ℕ := s.events.used.map fun n => n.2.id

/-- No two records have the same number, and all have been made. -/
structure Numbered (s : EventLists α) : Prop where
  nodup : s.ids.Nodup
  lt_made : ∀ id ∈ s.ids, id < s.made

/-- The invariant of the event storage. -/
structure Inv (config : EventBufferConfig) (s : EventLists α) : Prop where
  linked : s.Linked
  counted : s.Counted
  sized : s.Sized config
  numbered : s.Numbered

/-! ## Small facts -/

/-- The list that was put in. -/
@[simp]
theorem getList_setList (s : EventLists α) (type t : EventType)
    (list : NodeList (TypedEventRecord α)) :
    (s.setList type list).getList t = if t = type then list else s.getList t := rfl

/-- A list of a type is put in without a change of the records. -/
@[simp]
theorem setList_events (s : EventLists α) (type : EventType)
    (list : NodeList (TypedEventRecord α)) : (s.setList type list).events = s.events := rfl

/-- A list of a type is put in without a change of the counters. -/
@[simp]
theorem setList_counters (s : EventLists α) (type : EventType)
    (list : NodeList (TypedEventRecord α)) : (s.setList type list).counters = s.counters := rfl

/-- A list of a type is put in without a new record. -/
@[simp]
theorem setList_made (s : EventLists α) (type : EventType)
    (list : NodeList (TypedEventRecord α)) : (s.setList type list).made = s.made := rfl

/-- Only the count of the class grows. -/
@[simp]
theorem ClazzCount.get_increment (c : ClazzCount) (clazz k : EventClass) :
    (c.increment clazz).get k = c.get k + if clazz = k then 1 else 0 := by
  cases clazz <;> cases k <;> simp [ClazzCount.increment, ClazzCount.get]

/-- Only the count of the class becomes less. -/
@[simp]
theorem ClazzCount.get_decrement (c : ClazzCount) (clazz k : EventClass) :
    (c.decrement clazz).get k = c.get k - if clazz = k then 1 else 0 := by
  cases clazz <;> cases k <;> simp [ClazzCount.decrement, ClazzCount.get]

/-- The storage starts with the invariant. -/
theorem ofConfig_inv (config : EventBufferConfig) :
    (ofConfig config : EventLists α).Inv config where
  linked _ := rfl
  counted := ⟨fun clazz => by cases clazz <;> rfl, fun clazz => by cases clazz <;> rfl, rfl⟩
  sized := ⟨rfl, fun _ => rfl⟩
  numbered := ⟨List.nodup_nil, fun _ h => by cases h⟩

/-! ## One record changes its state -/

/-- A change of a record that keeps its type and its node keeps the links. -/
theorem Linked.modify_events {s s' : EventLists α} (h : s.Linked) {a : ℕ}
    {f : EventRecord → EventRecord} (hevents : s'.events = s.events.modify a f)
    (htype : ∀ r, (f r).type = r.type) (hnode : ∀ r, (f r).storageNode = r.storageNode)
    (hlists : ∀ type, (s'.getList type).used.map (fun n => (n.2.record, n.1)) =
      (s.getList type).used.map fun n => (n.2.record, n.1)) : s'.Linked := by
  intro type
  rw [hlists, ← h type, hevents]
  change ((s.events.used.map fun n => if n.1 = a then (n.1, f n.2) else n).filter _).map _ = _
  rw [List.filter_map, List.map_map]
  have hfilter : (s.events.used.filter ((fun n => decide (n.2.type = type)) ∘
      fun n => if n.1 = a then (n.1, f n.2) else n)) =
      s.events.used.filter fun n => n.2.type = type := by
    refine List.filter_congr fun n _ => ?_
    by_cases hn : n.1 = a <;> simp [hn, htype]
  rw [hfilter]
  refine List.map_congr_left fun n _ => ?_
  by_cases hn : n.1 = a <;> simp [hn, hnode]

/-- The count of the records without one of them. -/
theorem count_of_split {s : EventLists α} {pre post : List (ℕ × EventRecord)} {a : ℕ}
    {r : EventRecord} (h : s.events.used = pre ++ (a, r) :: post) (p : EventRecord → Bool) :
    s.count p = (pre ++ post).countP (fun n => p n.2) + if p r then 1 else 0 := by
  rw [count, h, List.countP_append, List.countP_append, List.countP_cons, Nat.add_assoc]

/-- An unselected record is selected. -/
theorem Counted.select {s s' : EventLists α} (h : s.Counted) {a : ℕ} {r : EventRecord}
    (hget : s.events.get? a = some r) (hstate : r.state = .unselected)
    (hevents : s'.events = s.events.modify a (fun r => { r with state := .selected }))
    (hcounters : s'.counters = s.counters.onSelect) : s'.Counted := by
  obtain ⟨pre, post, hsplit⟩ := List.append_of_mem (NodeList.get?_eq_some_iff.mp hget)
  have hsplit' : s'.events.used = pre ++ (a, { r with state := .selected }) :: post := by
    rw [hevents, NodeList.modify_of_split hsplit]
  refine ⟨fun clazz => ?_, fun clazz => ?_, ?_⟩
  · rw [hcounters, count_of_split hsplit']
    simpa [EventClassCounters.onSelect, count_of_split hsplit] using h.total clazz
  · rw [hcounters, count_of_split hsplit']
    simpa [EventClassCounters.onSelect, count_of_split hsplit, hstate] using h.written clazz
  · rw [hcounters, count_of_split hsplit']
    have hold := h.selected
    rw [count_of_split hsplit] at hold
    simp [EventClassCounters.onSelect, hold, hstate, UInt32.ofNat_add]

/-- A selected record is written. -/
theorem Counted.write {s s' : EventLists α} (h : s.Counted) {a : ℕ} {r : EventRecord}
    (hget : s.events.get? a = some r) (hstate : r.state = .selected)
    (hevents : s'.events = s.events.modify a (fun r => { r with state := .written }))
    (hcounters : s'.counters = s.counters.onWrite r.clazz) : s'.Counted := by
  obtain ⟨pre, post, hsplit⟩ := List.append_of_mem (NodeList.get?_eq_some_iff.mp hget)
  have hsplit' : s'.events.used = pre ++ (a, { r with state := .written }) :: post := by
    rw [hevents, NodeList.modify_of_split hsplit]
  refine ⟨fun clazz => ?_, fun clazz => ?_, ?_⟩
  · rw [hcounters, count_of_split hsplit']
    simpa [EventClassCounters.onWrite, count_of_split hsplit] using h.total clazz
  · have hold := h.written clazz
    rw [count_of_split hsplit] at hold
    rw [hcounters, count_of_split hsplit']
    by_cases hclazz : r.clazz = clazz <;>
      simp [EventClassCounters.onWrite, hold, hstate, hclazz, UInt32.ofNat_add]
  · have hold := h.selected
    rw [count_of_split hsplit] at hold
    rw [hcounters, count_of_split hsplit']
    simp [EventClassCounters.onWrite, hold, hstate, UInt32.ofNat_add]

/-- A record is removed. -/
theorem Counted.remove {s s' : EventLists α} (h : s.Counted) {a : ℕ} {r : EventRecord}
    (hget : s.events.get? a = some r) (hevents : s'.events = s.events.remove a)
    (hcounters : s'.counters = s.counters.onRemove r.clazz r.state) : s'.Counted := by
  obtain ⟨pre, post, hsplit⟩ := List.append_of_mem (NodeList.get?_eq_some_iff.mp hget)
  have hcount : ∀ p, s'.count p = (pre ++ post).countP fun n => p n.2 := by
    intro p
    rw [count, hevents, NodeList.remove_of_split hsplit]
  refine ⟨fun clazz => ?_, fun clazz => ?_, ?_⟩
  · have hold := h.total clazz
    rw [count_of_split hsplit] at hold
    rw [hcounters, hcount]
    by_cases hclazz : r.clazz = clazz <;> cases hstate : r.state <;>
      simp [EventClassCounters.onRemove, hold, hclazz, UInt32.ofNat_add]
  · have hold := h.written clazz
    rw [count_of_split hsplit] at hold
    rw [hcounters, hcount]
    by_cases hclazz : r.clazz = clazz <;> cases hstate : r.state <;>
      simp [EventClassCounters.onRemove, hold, hclazz, hstate, UInt32.ofNat_add]
  · have hold := h.selected
    rw [count_of_split hsplit] at hold
    rw [hcounters, hcount]
    cases hstate : r.state <;>
      simp [EventClassCounters.onRemove, hold, hstate, UInt32.ofNat_add]

/-- A record is added. -/
theorem Counted.add {s s' : EventLists α} (h : s.Counted) {a : ℕ} {r : EventRecord}
    (hstate : r.state = .unselected) (hevents : s'.events.used = s.events.used ++ [(a, r)])
    (hcounters : s'.counters = s.counters.onAdd r.clazz) : s'.Counted := by
  have hcount : ∀ p, s'.count p = s.count p + if p r then 1 else 0 := by
    intro p
    rw [count_of_split hevents, List.append_nil, count]
  refine ⟨fun clazz => ?_, fun clazz => ?_, ?_⟩
  · rw [hcounters, hcount]
    by_cases hclazz : r.clazz = clazz <;>
      simp [EventClassCounters.onAdd, h.total, hclazz, UInt32.ofNat_add]
  · rw [hcounters, hcount]
    simp [EventClassCounters.onAdd, h.written, hstate]
  · rw [hcounters, hcount]
    simp [EventClassCounters.onAdd, h.selected, hstate]

/-- A change of a record that keeps its number keeps all numbers. -/
theorem ids_modify {s s' : EventLists α} {a : ℕ} {f : EventRecord → EventRecord}
    (hevents : s'.events = s.events.modify a f) (hid : ∀ r, (f r).id = r.id) : s'.ids = s.ids := by
  rw [ids, hevents]
  change (s.events.used.map fun n => if n.1 = a then (n.1, f n.2) else n).map _ = _
  rw [List.map_map]
  refine List.map_congr_left fun n _ => ?_
  by_cases hn : n.1 = a <;> simp [hn, hid]

/-- The numbers depend on the records only. -/
theorem Numbered.of_ids_eq {s s' : EventLists α} (h : s.Numbered) (hids : s'.ids = s.ids)
    (hmade : s'.made = s.made) : s'.Numbered :=
  ⟨hids ▸ h.nodup, fun id hid => hmade ▸ h.lt_made id (hids ▸ hid)⟩

/-! ## Removal of a record -/

/-- The node of a record in the list of its type. -/
theorem Linked.exists_typed {s : EventLists α} (h : s.Linked) {pre post : List (ℕ × EventRecord)}
    {a : ℕ} {r : EventRecord} (hsplit : s.events.used = pre ++ (a, r) :: post) :
    ∃ tpre d tpost, (s.getList r.type).used = tpre ++ (r.storageNode, d) :: tpost ∧ d.record = a ∧
      (tpre ++ tpost).map (fun n => (n.2.record, n.1)) =
        ((pre ++ post).filter fun n => n.2.type = r.type).map fun n => (n.1, n.2.storageNode) := by
  have hlinked := h r.type
  rw [hsplit, List.filter_append, List.filter_cons_of_pos (by simp), List.map_append,
    List.map_cons] at hlinked
  obtain ⟨tpre, trest, hused, hpre, hrest⟩ := List.map_eq_append_iff.mp hlinked.symm
  obtain ⟨⟨b, d⟩, tpost, rfl, hnode, hpost⟩ := List.map_eq_cons_iff.mp hrest
  simp only [Prod.mk.injEq] at hnode
  obtain ⟨hrecord, rfl⟩ := hnode
  refine ⟨tpre, d, tpost, hused, hrecord, ?_⟩
  rw [List.map_append, List.filter_append, List.map_append, hpre, hpost]

/-- The records and the lists stay linked when both lose a node. -/
theorem removeNode_linked {s : EventLists α} (h : s.Linked) {a : ℕ} {r : EventRecord}
    (hget : s.events.get? a = some r) : (s.removeNode a r).Linked := by
  obtain ⟨pre, post, hsplit⟩ := List.append_of_mem (NodeList.get?_eq_some_iff.mp hget)
  obtain ⟨tpre, d, tpost, hused, -, hmap⟩ := h.exists_typed hsplit
  intro type
  rw [removeNode, setList_events, getList_setList]
  dsimp only
  rw [NodeList.remove_of_split hsplit]
  split_ifs with htype
  · subst htype
    rw [NodeList.remove_of_split hused, hmap]
  · have hold := h type
    rw [hsplit, List.filter_append, List.filter_cons_of_neg (by simpa using Ne.symm htype),
      ← List.filter_append] at hold
    exact hold

/-- A removal keeps the invariant. -/
theorem removeNode_inv {config : EventBufferConfig} {s : EventLists α} (h : s.Inv config) {a : ℕ}
    {r : EventRecord} (hget : s.events.get? a = some r) : (s.removeNode a r).Inv config where
  linked := removeNode_linked h.linked hget
  counted := h.counted.remove hget rfl rfl
  sized := by
    refine ⟨by simpa [removeNode] using h.sized.events, fun type => ?_⟩
    rw [removeNode, getList_setList]
    split_ifs with htype
    · rw [NodeList.remove_capacity, htype, h.sized.lists]
    · exact h.sized.lists type
  numbered := by
    obtain ⟨pre, post, hsplit⟩ := List.append_of_mem (NodeList.get?_eq_some_iff.mp hget)
    have hsub : (s.removeNode a r).ids.Sublist s.ids := by
      rw [ids, ids, removeNode, setList_events]
      dsimp only
      rw [NodeList.remove_of_split hsplit, hsplit]
      exact List.Sublist.map _ (List.Sublist.append_left (List.sublist_cons_self _ _) _)
    exact ⟨h.numbered.nodup.sublist hsub, fun id hid => h.numbered.lt_made id (hsub.subset hid)⟩

/-- The first node of the list of a type is the node of the first record of the type, and to remove
the two is to remove the record. -/
theorem removeFirst_eq {s : EventLists α} (h : s.Linked) {type : EventType} {b : ℕ}
    {d : TypedEventRecord α} {rest : List (ℕ × TypedEventRecord α)}
    (hused : (s.getList type).used = (b, d) :: rest) :
    ∃ r pre post, s.events.used = pre ++ (d.record, r) :: post ∧ r.type = type ∧
      r.storageNode = b ∧ (∀ n ∈ pre, n.2.type ≠ type) ∧
      s.removeFirst type = s.removeNode d.record r := by
  have hlinked := h type
  rw [hused, List.map_cons] at hlinked
  obtain ⟨⟨a, r⟩, frest, hfilter, hnode, -⟩ := List.map_eq_cons_iff.mp hlinked
  simp only [Prod.mk.injEq] at hnode
  obtain ⟨rfl, hstorage⟩ := hnode
  obtain ⟨pre, post, hsplit, hpre, htype, -⟩ := List.filter_eq_cons_iff.mp hfilter
  have htype : r.type = type := by simpa using htype
  refine ⟨r, pre, post, hsplit, htype, hstorage, fun n hn => by simpa using hpre n hn, ?_⟩
  rw [removeFirst, hused]
  dsimp only
  rw [NodeList.get?_of_split hsplit]
  simp only [removeNode, htype, hstorage]

/-! ## Space in the lists -/

/-- The list of a type is as long as there are records of the type. -/
theorem Linked.size_eq {s : EventLists α} (h : s.Linked) (type : EventType) :
    (s.getList type).size = s.count fun r => r.type = type := by
  have hlen := congrArg List.length (h type)
  rw [List.length_map, List.length_map, ← List.countP_eq_length_filter] at hlen
  exact hlen.symm

/-- The sizes of the lists of the types sum up to the size of the list of all records. -/
theorem Linked.sum_size {s : EventLists α} (h : s.Linked) :
    (EventType.all.map fun type => (s.getList type).size).sum = s.events.size := by
  have hcount : ∀ nodes : List (ℕ × EventRecord),
      (EventType.all.map fun type => nodes.countP fun n => n.2.type = type).sum = nodes.length := by
    intro nodes
    induction nodes with
    | nil => rfl
    | cons n nodes ih =>
      simp only [EventType.all, List.map_cons, List.map_nil, List.sum_cons, List.sum_nil,
        List.countP_cons, List.length_cons] at ih ⊢
      cases n.2.type <;> simp <;> omega
  simp only [h.size_eq]
  exact hcount s.events.used

/-- Where the list of a type has space, the list of all records has. -/
theorem Inv.isFull_events {config : EventBufferConfig} {s : EventLists α} (h : s.Inv config)
    {type : EventType} (hspace : (s.getList type).isFull = false) : s.events.isFull = false := by
  have hle : ∀ t, (s.getList t).size ≤ config.capacity t := by
    intro t
    have hsize := (s.getList t).size_add_free
    rw [h.sized.lists] at hsize
    omega
  have hlt : (s.getList type).size < config.capacity type := by
    have hne : (s.getList type).size ≠ config.capacity type := by
      intro heq
      rw [← h.sized.lists, ← NodeList.isFull_iff, hspace] at heq
      cases heq
    exact lt_of_le_of_ne (hle type) hne
  -- The list of all records is as long as the lists of the types together.
  rw [← Bool.not_eq_true, NodeList.isFull_iff, h.sized.events, ← h.linked.sum_size]
  have hBinary := hle .Binary
  have hAnalog := hle .Analog
  have hCounter := hle .Counter
  have hFrozenCounter := hle .FrozenCounter
  have hDoubleBitBinary := hle .DoubleBitBinary
  have hBinaryOutputStatus := hle .BinaryOutputStatus
  have hAnalogOutputStatus := hle .AnalogOutputStatus
  have hOctetString := hle .OctetString
  simp only [EventType.all, List.map_cons, List.map_nil, List.sum_cons, List.sum_nil,
    EventBufferConfig.totalEvents, EventBufferConfig.capacity] at *
  cases type <;> simp only at hlt <;> omega

/-- The number of records fits into 32 bits. -/
theorem Inv.size_lt {config : EventBufferConfig} {s : EventLists α} (h : s.Inv config) :
    s.events.size < 2 ^ 32 := by
  have hsize := s.events.size_add_free
  rw [h.sized.events, EventBufferConfig.totalEvents] at hsize
  have h1 := config.maxBinaryEvents.toNat_lt
  have h2 := config.maxDoubleBinaryEvents.toNat_lt
  have h3 := config.maxAnalogEvents.toNat_lt
  have h4 := config.maxCounterEvents.toNat_lt
  have h5 := config.maxFrozenCounterEvents.toNat_lt
  have h6 := config.maxBinaryOutputStatusEvents.toNat_lt
  have h7 := config.maxAnalogOutputStatusEvents.toNat_lt
  have h8 := config.maxOctetStringEvents.toNat_lt
  omega

/-! ## Updates -/

/-- The record of a new event. -/
def newRecord (s : EventLists α) (event : Event α) (node : ℕ) : EventRecord where
  id := s.made
  index := event.index
  clazz := event.clazz
  type := event.type
  storageNode := node

/-- The value of a new event. -/
def newTyped (event : Event α) (node : ℕ) : TypedEventRecord α where
  value := event.value
  defaultVariation := event.variation
  selectedVariation := event.variation
  record := node

/-- The event is at the end of the list of all records and of the list of its type, at the nodes
`a` and `b`, and nothing else has changed. -/
structure Appends (s : EventLists α) (event : Event α) (s' : EventLists α) (a b : ℕ) : Prop where
  events : s'.events.used = s.events.used ++ [(a, s.newRecord event b)]
  list : (s'.getList event.type).used = (s.getList event.type).used ++ [(b, newTyped event a)]
  others : ∀ type, type ≠ event.type → s'.getList type = s.getList type
  eventsCapacity : s'.events.capacity = s.events.capacity
  listCapacity : (s'.getList event.type).capacity = (s.getList event.type).capacity
  counters : s'.counters = s.counters.onAdd event.clazz
  made : s'.made = s.made + 1

/-- Where both lists have space, neither `Add` returns null. -/
theorem append_spec {s : EventLists α} (event : Event α) (hevents : s.events.isFull = false)
    (hlist : (s.getList event.type).isFull = false) :
    ∃ a b, s.Appends event (s.append event) a b := by
  obtain ⟨a, events, hadd, -, hused, hcapacity⟩ := NodeList.exists_add hevents
    { id := s.made, index := event.index, clazz := event.clazz, type := event.type : EventRecord }
  obtain ⟨b, list, htadd, -, htused, htcapacity⟩ := NodeList.exists_add hlist (newTyped event a)
  refine ⟨a, b, ?_⟩
  simp only [newTyped] at htadd
  simp only [append, hadd, htadd]
  refine ⟨?_, ?_, fun type htype => ?_, hcapacity, ?_, rfl, rfl⟩
  · rw [setList_events]
    dsimp only
    rw [NodeList.modify_of_split hused]
    rfl
  · rw [getList_setList, if_pos rfl, htused]
  · rw [getList_setList, if_neg htype]
    rfl
  · rw [getList_setList, if_pos rfl, htcapacity]

/-- A record that is appended keeps the invariant. -/
theorem Appends.inv {config : EventBufferConfig} {s s' : EventLists α} {event : Event α} {a b : ℕ}
    (h : s.Inv config) (happends : s.Appends event s' a b) : s'.Inv config where
  linked := by
    intro type
    rw [happends.events, List.filter_append, List.map_append, h.linked type]
    by_cases htype : type = event.type
    · subst htype
      rw [happends.list, List.map_append]
      simp [newRecord, newTyped]
    · rw [happends.others type htype]
      simp [newRecord, Ne.symm htype]
  counted := h.counted.add rfl happends.events happends.counters
  sized := by
    refine ⟨happends.eventsCapacity.trans h.sized.events, fun type => ?_⟩
    by_cases htype : type = event.type
    · subst htype
      exact happends.listCapacity.trans (h.sized.lists _)
    · rw [happends.others type htype]
      exact h.sized.lists type
  numbered := by
    have hids : s'.ids = s.ids ++ [s.made] := by
      rw [ids, happends.events, List.map_append]
      rfl
    -- The new number is `made`, above every number in the store.
    refine ⟨?_, fun id hid => ?_⟩
    · rw [hids, List.nodup_append]
      refine ⟨h.numbered.nodup, List.nodup_singleton _, fun id hid made hmade => ?_⟩
      rw [List.mem_singleton.mp hmade]
      exact (h.numbered.lt_made id hid).ne
    · rw [hids, List.mem_append, List.mem_singleton] at hid
      rw [happends.made]
      obtain hid | rfl := hid
      · exact (h.numbered.lt_made id hid).trans (Nat.lt_succ_self _)
      · exact Nat.lt_succ_self _

/-- The oldest record of the type is gone from both lists, and nothing else has changed. -/
structure Evicts (s : EventLists α) (type : EventType) (s' : EventLists α) : Prop where
  events : s'.events.used = s.events.used.eraseP fun n => n.2.type = type
  list : (s'.getList type).used = (s.getList type).used.tail
  others : ∀ t, t ≠ type → s'.getList t = s.getList t
  made : s'.made = s.made

/-- A full type loses its oldest record and is full no longer. -/
theorem removeFirst_spec {config : EventBufferConfig} {s : EventLists α} (h : s.Inv config)
    {type : EventType} (hfull : (s.getList type).isFull = true)
    (hcapacity : (s.getList type).capacity ≠ 0) :
    (s.removeFirst type).Inv config ∧ s.Evicts type (s.removeFirst type) ∧
      ((s.removeFirst type).getList type).isFull = false := by
  have hsize := (NodeList.isFull_iff _).mp hfull
  -- A full list of a capacity other than 0 has a first node.
  obtain ⟨⟨b, d⟩, rest, hused⟩ : ∃ n rest, (s.getList type).used = n :: rest := by
    refine List.exists_cons_of_ne_nil fun hnil => hcapacity ?_
    rw [← hsize, NodeList.size, hnil]
    rfl
  obtain ⟨r, pre, post, hsplit, rfl, rfl, hpre, heq⟩ := removeFirst_eq h.linked hused
  have hused' : (s.getList r.type).used = [] ++ (r.storageNode, d) :: rest := hused
  rw [heq]
  refine ⟨removeNode_inv h (NodeList.get?_of_split hsplit), ⟨?_, ?_, fun t ht => ?_, rfl⟩, ?_⟩
  · rw [removeNode, setList_events]
    dsimp only
    rw [NodeList.remove_of_split hsplit, hsplit, List.eraseP_append_right _ (by simpa using hpre),
      List.eraseP_cons_of_pos (by simp)]
  · rw [removeNode, getList_setList, if_pos rfl, NodeList.remove_of_split hused', hused]
    rfl
  · rw [removeNode, getList_setList, if_neg ht]
    rfl
  · rw [removeNode, getList_setList, if_pos rfl]
    exact NodeList.remove_isFull_of_split hused'

/-- What an update does: without capacity for the type nothing; else it makes space where the list
of the type is full, and appends the event. -/
inductive Updates (s : EventLists α) (event : Event α) : Bool × EventLists α → Prop where
  | ignored (hcapacity : (s.getList event.type).capacity = 0) : Updates s event (false, s)
  | appended {s' : EventLists α} {a b : ℕ} (hcapacity : (s.getList event.type).capacity ≠ 0)
      (hspace : (s.getList event.type).isFull = false) (happends : s.Appends event s' a b) :
      Updates s event (false, s')
  | evicted {s₁ s' : EventLists α} {a b : ℕ} (hcapacity : (s.getList event.type).capacity ≠ 0)
      (hfull : (s.getList event.type).isFull = true) (hevicts : s.Evicts event.type s₁)
      (happends : s₁.Appends event s' a b) : Updates s event (true, s')

/-- An update does nothing, appends the event, or does so after an eviction. -/
theorem update_spec {config : EventBufferConfig} {s : EventLists α} (h : s.Inv config)
    (event : Event α) : s.Updates event (s.update event) ∧ (s.update event).2.Inv config := by
  unfold update
  split_ifs with hcapacity
  · exact ⟨.ignored hcapacity, h⟩
  · dsimp only
    cases hfull : (s.getList event.type).isFull with
    | false =>
      rw [if_neg (by simp)]
      obtain ⟨a, b, happends⟩ := append_spec event (h.isFull_events hfull) hfull
      exact ⟨.appended hcapacity hfull happends, happends.inv h⟩
    | true =>
      rw [if_pos rfl]
      obtain ⟨hinv, hevicts, hspace⟩ := removeFirst_spec h hfull hcapacity
      obtain ⟨a, b, happends⟩ := append_spec event (hinv.isFull_events hspace) hspace
      exact ⟨.evicted hcapacity hfull hevicts happends, happends.inv hinv⟩

end OpenDnp3.Outstation.EventLists
