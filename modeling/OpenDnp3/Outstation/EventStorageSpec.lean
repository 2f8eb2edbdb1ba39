import OpenDnp3.Outstation.EventRecords

/-!
# The lists and counters of the event storage agree

The invariant of the event storage: the list of all records and the lists of the types point to
each other in the same order, and every counter is the number of records that it counts. Every
operation of the storage keeps it.
-/

namespace OpenDnp3.Outstation.EventLists

open App

variable {α ω : Type*}

/-! ## Selection -/

/-- The numbers of the records that are written. -/
def writtenIds (s : EventLists α) : List ℕ :=
  (s.events.used.filter fun n => n.2.state = .written).map fun n => n.2.id

/-- The same records, and the same of them written. -/
structure SameRecords (s s' : EventLists α) : Prop where
  ids : s'.ids = s.ids
  written : s'.writtenIds = s.writtenIds
  made : s'.made = s.made

/-- Nothing is changed. -/
theorem SameRecords.refl (s : EventLists α) : s.SameRecords s := ⟨rfl, rfl, rfl⟩

/-- Two changes that keep the records. -/
theorem SameRecords.trans {s₁ s₂ s₃ : EventLists α} (h : s₁.SameRecords s₂)
    (h' : s₂.SameRecords s₃) : s₁.SameRecords s₃ :=
  ⟨h'.ids.trans h.ids, h'.written.trans h.written, h'.made.trans h.made⟩

/-- A new record is not written. -/
theorem Appends.writtenIds_eq {s s' : EventLists α} {event : Event α} {a b : ℕ}
    (h : s.Appends event s' a b) : s'.writtenIds = s.writtenIds := by
  unfold writtenIds
  rw [h.events, List.filter_append, List.filter_cons_of_neg (by simp [newRecord]),
    List.filter_nil, List.append_nil]

/-- An eviction writes nothing. -/
theorem Evicts.writtenIds_subset {s s' : EventLists α} {type : EventType} (h : s.Evicts type s') :
    s'.writtenIds ⊆ s.writtenIds := by
  unfold writtenIds
  rw [h.events]
  exact ((List.eraseP_sublist.filter _).map _).subset

/-- An update writes no record. -/
theorem update_writtenIds_subset {config : EventBufferConfig} {s : EventLists α}
    (h : s.Inv config) (event : Event α) : (s.update event).2.writtenIds ⊆ s.writtenIds := by
  obtain ⟨hupdates, -⟩ := update_spec h event
  generalize s.update event = r at hupdates ⊢
  cases hupdates with
  | ignored _ => exact List.Subset.refl _
  | appended _ _ happends => rw [happends.writtenIds_eq]; exact List.Subset.refl _
  | evicted _ _ hevicts happends =>
    rw [happends.writtenIds_eq]
    exact hevicts.writtenIds_subset

/-- A record that is unselected is selected. -/
theorem select_spec {config : EventBufferConfig} {s s' : EventLists α} (h : s.Inv config) {a : ℕ}
    {r : EventRecord} (hget : s.events.get? a = some r) (hstate : r.state = .unselected)
    (hevents : s'.events = s.events.modify a (fun r => { r with state := .selected }))
    (hcounters : s'.counters = s.counters.onSelect) (hmade : s'.made = s.made)
    (hcapacity : ∀ type, (s'.getList type).capacity = (s.getList type).capacity)
    (hlists : ∀ type, (s'.getList type).used.map (fun n => (n.2.record, n.1)) =
      (s.getList type).used.map fun n => (n.2.record, n.1)) :
    s'.Inv config ∧ s.SameRecords s' := by
  have hids : s'.ids = s.ids := ids_modify hevents fun _ => rfl
  refine ⟨⟨?_, ?_, ⟨?_, fun type => ?_⟩, h.numbered.of_ids_eq hids hmade⟩, ⟨hids, ?_, hmade⟩⟩
  · exact h.linked.modify_events hevents (fun _ => rfl) (fun _ => rfl) hlists
  · exact h.counted.select hget hstate hevents hcounters
  · rw [hevents]
    exact h.sized.events
  · rw [hcapacity]
    exact h.sized.lists type
  · obtain ⟨pre, post, hsplit⟩ := List.append_of_mem (NodeList.get?_eq_some_iff.mp hget)
    rw [writtenIds, writtenIds, hevents, NodeList.modify_of_split hsplit, hsplit,
      List.filter_append, List.filter_append, List.filter_cons_of_neg (by simp),
      List.filter_cons_of_neg (by simp [hstate])]

/-- The selection of a node keeps the records. -/
theorem selectNode_spec {config : EventBufferConfig} {s : EventLists α} (h : s.Inv config)
    {type : EventType} {node : ℕ} {data : TypedEventRecord α} {r : EventRecord}
    (hget : s.events.get? data.record = some r) (hstate : r.state = .unselected)
    (variation : Option GroupVariation) :
    (s.selectNode type variation node data).Inv config ∧
      s.SameRecords (s.selectNode type variation node data) := by
  refine select_spec h hget hstate rfl rfl rfl (fun t => ?_) fun t => ?_
  · rw [selectNode, getList_setList]
    split_ifs with ht
    · rw [ht, NodeList.modify_capacity]
    · rfl
  · rw [selectNode, getList_setList]
    split_ifs with ht
    · subst ht
      change ((s.getList t).used.map _).map _ = _
      rw [List.map_map]
      refine List.map_congr_left fun n _ => ?_
      by_cases hn : n.1 = node <;> simp [hn]
    · rfl

/-- A selection of nodes of a type keeps the records. -/
theorem selectTypeNodes_spec {config : EventBufferConfig} (type : EventType)
    (variation : Option GroupVariation) (max : ℕ) (nodes : List ℕ) (numSelected : ℕ)
    {s : EventLists α} (h : s.Inv config) :
    (selectTypeNodes type variation max nodes numSelected s).2.Inv config ∧
      s.SameRecords (selectTypeNodes type variation max nodes numSelected s).2 := by
  induction nodes generalizing numSelected s with
  | nil => exact ⟨h, .refl s⟩
  | cons node nodes ih =>
    unfold selectTypeNodes
    split_ifs with hmax
    · exact ⟨h, .refl s⟩
    · split
      · exact ih _ h
      case h_2 data hdata =>
        split
        · exact ih _ h
        case h_2 record hrecord =>
          split_ifs with hstate
          · obtain ⟨hinv, hsame⟩ := selectNode_spec h hrecord hstate variation
            obtain ⟨hinv', hsame'⟩ := ih (numSelected + 1) hinv
            exact ⟨hinv', hsame.trans hsame'⟩
          · exact ih _ h

/-- The selection of a record keeps the records. -/
theorem selectRecord_spec {config : EventBufferConfig} {s : EventLists α} (h : s.Inv config)
    {node : ℕ} {r : EventRecord} (hget : s.events.get? node = some r)
    (hstate : r.state = .unselected) :
    (s.selectRecord node).Inv config ∧ s.SameRecords (s.selectRecord node) :=
  select_spec h hget hstate rfl rfl rfl (fun _ => rfl) fun _ => rfl

/-- A selection of nodes by class keeps the records. -/
theorem selectClassNodes_spec {config : EventBufferConfig} (clazz : ClassField) (max : ℕ)
    (nodes : List ℕ) (numSelected : ℕ) {s : EventLists α} (h : s.Inv config) :
    (selectClassNodes clazz max nodes numSelected s).2.Inv config ∧
      s.SameRecords (selectClassNodes clazz max nodes numSelected s).2 := by
  induction nodes generalizing numSelected s with
  | nil => exact ⟨h, .refl s⟩
  | cons node nodes ih =>
    unfold selectClassNodes
    split_ifs with hmax
    · split
      · exact ih _ h
      case h_2 record hrecord =>
        split_ifs with hselect
        · obtain ⟨hinv, hsame⟩ := selectRecord_spec h hrecord hselect.1
          obtain ⟨hinv', hsame'⟩ := ih (numSelected + 1) hinv
          exact ⟨hinv', hsame.trans hsame'⟩
        · exact ih _ h
    · exact ⟨h, .refl s⟩

/-- A selection by type keeps the records. -/
theorem selectByTypeGeneric_spec {config : EventBufferConfig} {s : EventLists α} (h : s.Inv config)
    (type : EventType) (variation : Option GroupVariation) (max : ℕ) :
    (s.selectByTypeGeneric type variation max).2.Inv config ∧
      s.SameRecords (s.selectByTypeGeneric type variation max).2 :=
  selectTypeNodes_spec type variation max _ 0 h

/-- A selection by class keeps the records. -/
theorem selectByClass_spec {config : EventBufferConfig} {s : EventLists α} (h : s.Inv config)
    (clazz : ClassField) (max : ℕ) :
    (s.selectByClass clazz max).2.Inv config ∧ s.SameRecords (s.selectByClass clazz max).2 :=
  selectClassNodes_spec clazz max _ 0 h

/-! ## Writing -/

/-- The same records, of which some more are written: those of the list. -/
structure Writes (s s' : EventLists α) (new : List ℕ) : Prop where
  ids : s'.ids = s.ids
  written : ∀ id ∈ s'.writtenIds, id ∈ s.writtenIds ∨ id ∈ new
  made : s'.made = s.made

/-- Nothing is written. -/
theorem Writes.refl (s : EventLists α) : s.Writes s [] := ⟨rfl, fun _ h => .inl h, rfl⟩

/-- What is written is written one part after the other. -/
theorem Writes.trans {s₁ s₂ s₃ : EventLists α} {new new' : List ℕ} (h : s₁.Writes s₂ new)
    (h' : s₂.Writes s₃ new') : s₁.Writes s₃ (new ++ new') := by
  refine ⟨h'.ids.trans h.ids, fun id hid => ?_, h'.made.trans h.made⟩
  rw [List.mem_append]
  obtain hid | hid := h'.written id hid
  · exact (h.written id hid).imp_right .inl
  · exact .inr (.inr hid)

/-- A record that is selected is written. -/
theorem markWritten_spec {config : EventBufferConfig} {s : EventLists α} (h : s.Inv config)
    {node : ℕ} {r : EventRecord} (hget : s.events.get? node = some r)
    (hstate : r.state = .selected) :
    (s.markWritten node r).Inv config ∧ s.Writes (s.markWritten node r) [r.id] := by
  have hevents : (s.markWritten node r).events =
      s.events.modify node (fun r => { r with state := .written }) := rfl
  have hids : (s.markWritten node r).ids = s.ids := ids_modify hevents fun _ => rfl
  refine ⟨⟨?_, ?_, ⟨h.sized.events, h.sized.lists⟩, h.numbered.of_ids_eq hids rfl⟩,
    ⟨hids, fun id hid => ?_, rfl⟩⟩
  · exact h.linked.modify_events hevents (fun _ => rfl) (fun _ => rfl) fun _ => rfl
  · exact h.counted.write hget hstate hevents rfl
  · obtain ⟨pre, post, hsplit⟩ := List.append_of_mem (NodeList.get?_eq_some_iff.mp hget)
    rw [writtenIds, markWritten] at hid
    rw [NodeList.modify_of_split hsplit, List.filter_append,
      List.filter_cons_of_pos (by simp)] at hid
    rw [writtenIds, hsplit, List.filter_append, List.filter_cons_of_neg (by simp [hstate])]
    simp only [List.map_append, List.map_cons, List.mem_append, List.mem_cons] at hid ⊢
    tauto

/-- A part of a write: the invariant is kept, and the records written are those whose numbers the
list has grown by. -/
def WritesTo (config : EventBufferConfig) (s : EventLists α) (ids : List ℕ) (p : Writing α ω) :
    Prop :=
  p.lists.Inv config ∧ ∃ new, p.ids = ids ++ new ∧ s.Writes p.lists new

/-- The write that has done nothing yet. -/
theorem WritesTo.refl {config : EventBufferConfig} {s : EventLists α} (h : s.Inv config)
    (iterator : List ℕ) (w : ω) (ids : List ℕ) :
    WritesTo config s ids { iterator, lists := s, handler := w, ids } :=
  ⟨h, [], by simp, .refl s⟩

/-- A part of the write before the others. -/
theorem WritesTo.trans {config : EventBufferConfig} {s s' : EventLists α} {ids ids' new : List ℕ}
    {p : Writing α ω} (h : s.Writes s' new) (hids : ids' = ids ++ new)
    (hp : WritesTo config s' ids' p) : WritesTo config s ids p := by
  obtain ⟨hinv, new', hids', hwrites⟩ := hp
  exact ⟨hinv, new ++ new', by rw [hids', hids, List.append_assoc], h.trans hwrites⟩

/-- A header writes some of the records. -/
theorem writeSomeOf_spec {config : EventBufferConfig} (handler : IEventWriteHandler α ω)
    (type : EventType) (variation : GroupVariation) (nodes : List ℕ) {s : EventLists α}
    (h : s.Inv config) (w : ω) (ids : List ℕ) :
    WritesTo config s ids (writeSomeOf handler type variation nodes s w ids) := by
  induction nodes generalizing s w ids with
  | nil => exact .refl h _ w ids
  | cons node nodes ih =>
    unfold writeSomeOf
    dsimp only
    split_ifs with hselected
    · exact .refl h _ w ids
    · split
      · exact .refl h _ w ids
      case h_2 record hrecord =>
        split_ifs with hstate htype
        · -- A record that is not selected is skipped.
          exact ih h w ids
        · exact .refl h _ w ids
        · split
          · exact .refl h _ w ids
          case h_2 data hdata =>
            split_ifs with hvariation
            · exact .refl h _ w ids
            · split
              · exact .refl h _ w ids
              case h_2 w' hwrite =>
                obtain ⟨hinv, hwrites⟩ := markWritten_spec h hrecord (not_not.mp hstate)
                exact .trans hwrites rfl (ih hinv w' _)

/-- A round of the write writes some of the records. -/
theorem writeSome_spec {config : EventBufferConfig} (handler : IEventWriteHandler α ω)
    {p : Writing α ω} (h : p.lists.Inv config) :
    WritesTo config p.lists p.ids (writeSome handler p) := by
  unfold writeSome
  dsimp only
  split_ifs with hselected
  · exact .refl h _ _ _
  · split
    · exact .refl h _ _ _
    · split
      · exact .refl h _ _ _
      · split
        · exact .refl h _ _ _
        · exact writeSomeOf_spec handler _ _ _ h _ _

/-- The rounds of the write write some of the records. -/
theorem writeLoop_spec {config : EventBufferConfig} (handler : IEventWriteHandler α ω) (fuel : ℕ)
    {p : Writing α ω} (h : p.lists.Inv config) :
    WritesTo config p.lists p.ids (writeLoop handler fuel p) := by
  induction fuel generalizing p with
  | zero => exact .refl h _ _ _
  | succ fuel ih =>
    have hsome := writeSome_spec handler h
    unfold writeLoop
    split_ifs
    · exact hsome
    · obtain ⟨hinv, new, hids, hwrites⟩ := hsome
      exact .trans hwrites hids (ih hinv)

/-- A write marks the records it gives to the handler, and no other. -/
theorem write_spec {config : EventBufferConfig} {s : EventLists α} (h : s.Inv config)
    (handler : IEventWriteHandler α ω) (w : ω) :
    (s.write handler w).lists.Inv config ∧
      s.Writes (s.write handler w).lists (s.write handler w).ids := by
  obtain ⟨hinv, new, hids, hwrites⟩ := writeLoop_spec handler (s.events.size + 1)
    (p := { iterator := s.events.addresses, lists := s, handler := w }) h
  rw [List.nil_append] at hids
  exact ⟨hinv, hids ▸ hwrites⟩

/-! ## Space -/

section Space

/-- Every record that the handler takes uses up some of the space that it has. -/
structure UsesSpace (handler : IEventWriteHandler α ω) (space : ω → ℕ) : Prop where
  start : ∀ w variation value, space (handler.start w variation value) ≤ space w
  write : ∀ {w value index w'}, handler.write w value index = some w' → space w' < space w
  finish : ∀ w, space (handler.finish w) ≤ space w

variable {handler : IEventWriteHandler α ω} {space : ω → ℕ}

/-- A header has no more events than there is space for. -/
theorem writeSomeOf_space (h : UsesSpace handler space) (type : EventType)
    (variation : GroupVariation) (nodes : List ℕ) (s : EventLists α) (w : ω) (ids : List ℕ) :
    space (writeSomeOf handler type variation nodes s w ids).handler +
      (writeSomeOf handler type variation nodes s w ids).ids.length ≤ space w + ids.length := by
  induction nodes generalizing s w ids with
  | nil => exact le_rfl
  | cons node nodes ih =>
    unfold writeSomeOf
    dsimp only
    split_ifs
    · exact le_rfl
    · split
      · exact le_rfl
      case h_2 record _ =>
        split_ifs
        · exact ih s w ids
        · exact le_rfl
        · split
          · exact le_rfl
          · split_ifs
            · exact le_rfl
            · split
              · exact le_rfl
              case h_2 w' hwrite =>
                -- One record more, and at least one byte less.
                have hlt := h.write hwrite
                have hrest := ih (s.markWritten node record) w' (ids ++ [record.id])
                rw [List.length_append, List.length_singleton] at hrest
                omega

/-- A round has no more events than there is space for. -/
theorem writeSome_space (h : UsesSpace handler space) (p : Writing α ω) :
    space (writeSome handler p).handler + (writeSome handler p).ids.length ≤
      space p.handler + p.ids.length := by
  unfold writeSome
  dsimp only
  split_ifs
  · exact le_rfl
  · split
    · exact le_rfl
    · split
      · exact le_rfl
      · split
        · exact le_rfl
        case h_2 node nodes _ _ record _ _ data _ =>
          have hstart := h.start p.handler data.selectedVariation data.value
          have hsome := writeSomeOf_space h record.type data.selectedVariation (node :: nodes)
            p.lists (handler.start p.handler data.selectedVariation data.value) p.ids
          exact (Nat.add_le_add_right (h.finish _) _).trans
            (hsome.trans (Nat.add_le_add_right hstart _))

/-- The rounds have no more events than there is space for. -/
theorem writeLoop_space (h : UsesSpace handler space) (fuel : ℕ) (p : Writing α ω) :
    space (writeLoop handler fuel p).handler + (writeLoop handler fuel p).ids.length ≤
      space p.handler + p.ids.length := by
  induction fuel generalizing p with
  | zero => exact le_rfl
  | succ fuel ih =>
    unfold writeLoop
    split_ifs
    · exact writeSome_space h p
    · exact (ih _).trans (writeSome_space h p)

/-- The space that is left bounds the number of records that have been written. -/
theorem write_space (h : UsesSpace handler space) (s : EventLists α) (w : ω) :
    space (s.write handler w).handler + (s.write handler w).ids.length ≤ space w :=
  writeLoop_space h (s.events.size + 1) { iterator := s.events.addresses, lists := s, handler := w }

end Space

/-! ## Removal of the written records -/

/-- A clearing of nodes keeps the invariant. -/
theorem clearNodes_inv {config : EventBufferConfig} (nodes : List ℕ) {s : EventLists α}
    (h : s.Inv config) : (clearNodes nodes s).Inv config ∧ (clearNodes nodes s).made = s.made := by
  induction nodes generalizing s with
  | nil => exact ⟨h, rfl⟩
  | cons node nodes ih =>
    unfold clearNodes
    split
    · exact ih h
    case h_2 record hrecord =>
      split_ifs
      · exact ih (removeNode_inv h hrecord)
      · exact ih h

/-- The written records among the nodes are removed. -/
theorem clearNodes_used (nodes : List ℕ) (s : EventLists α) :
    (clearNodes nodes s).events.used =
      s.events.used.filter fun n => !(decide (n.1 ∈ nodes) && decide (n.2.state = .written)) := by
  induction nodes generalizing s with
  | nil => simp [clearNodes]
  | cons node nodes ih =>
    unfold clearNodes
    split
    case h_1 hnone =>
      rw [ih]
      refine List.filter_congr fun n hn => ?_
      -- No record has this node.
      have hne : n.1 ≠ node := by
        rintro rfl
        rw [NodeList.get?_eq_some_iff.mpr hn] at hnone
        cases hnone
      simp [hne]
    case h_2 record hrecord =>
      split_ifs with hstate
      · obtain ⟨pre, post, hsplit⟩ := List.append_of_mem (NodeList.get?_eq_some_iff.mp hrecord)
        have hne := NodeList.ne_of_split hsplit
        rw [ih, removeNode, setList_events]
        dsimp only
        rw [NodeList.remove_of_split hsplit, hsplit, List.filter_append,
          List.filter_append, List.filter_cons_of_neg (by simp [hstate])]
        congr 1
        · exact List.filter_congr fun n hn => by simp [hne n (List.mem_append_left _ hn)]
        · exact List.filter_congr fun n hn => by simp [hne n (List.mem_append_right _ hn)]
      · rw [ih]
        refine List.filter_congr fun n hn => ?_
        -- The record of the node is not written, so it stays.
        by_cases hnode : n.1 = node
        · have hget := NodeList.get?_eq_some_iff.mpr hn
          rw [hnode, hrecord, Option.some.injEq] at hget
          simp [← hget, hstate]
        · simp [hnode]

/-- A clearing leaves the records that are not written. -/
theorem clearWritten_used (s : EventLists α) :
    s.clearWritten.events.used = s.events.used.filter fun n => n.2.state ≠ .written := by
  rw [clearWritten, clearNodes_used]
  refine List.filter_congr fun n hn => ?_
  have hmem : n.1 ∈ s.events.addresses := List.mem_map_of_mem hn
  simp [hmem]

/-- A clearing keeps the invariant. -/
theorem clearWritten_inv {config : EventBufferConfig} {s : EventLists α} (h : s.Inv config) :
    s.clearWritten.Inv config :=
  (clearNodes_inv _ h).1

/-- A clearing leaves the number of selected records. -/
theorem clearNodes_numSelected (nodes : List ℕ) (s : EventLists α) :
    (clearNodes nodes s).numSelected = s.numSelected := by
  induction nodes generalizing s with
  | nil => rfl
  | cons node nodes ih =>
    unfold clearNodes
    split
    · exact ih s
    case h_2 record _ =>
      split_ifs with hstate
      · rw [ih]
        simp [numSelected, removeNode, EventClassCounters.onRemove, hstate]
      · exact ih s

/-- The removal leaves the selected records. -/
theorem clearWritten_numSelected (s : EventLists α) :
    s.clearWritten.numSelected = s.numSelected := clearNodes_numSelected _ s

/-- A record that is gone after the removal was written. -/
theorem mem_writtenIds_of_not_mem_clearWritten {s : EventLists α} {id : ℕ} (h : id ∈ s.ids)
    (hgone : id ∉ s.clearWritten.ids) : id ∈ s.writtenIds := by
  obtain ⟨n, hn, rfl⟩ := List.mem_map.mp h
  refine List.mem_map.mpr ⟨n, List.mem_filter.mpr ⟨hn, ?_⟩, rfl⟩
  by_contra hstate
  refine hgone (List.mem_map.mpr ⟨n, ?_, rfl⟩)
  rw [clearWritten_used]
  exact List.mem_filter.mpr ⟨hn, by simpa using hstate⟩

/-- No written record is left by a clearing. -/
theorem clearWritten_writtenIds (s : EventLists α) : s.clearWritten.writtenIds = [] := by
  rw [writtenIds, clearWritten_used, List.filter_filter, List.map_eq_nil_iff]
  refine List.filter_eq_nil_iff.mpr fun n _ => ?_
  simp

/-! ## Unselect -/

/-- The end of a selection keeps the invariant. -/
theorem unselect_inv {config : EventBufferConfig} {s : EventLists α} (h : s.Inv config) :
    s.unselect.Inv config where
  linked := by
    intro type
    change ((s.events.used.map _).filter _).map _ = _
    rw [List.filter_map, List.map_map]
    exact h.linked type
  counted := by
    -- Every count after is the one before, taken of the records made unselected.
    have hcount : ∀ p : EventRecord → Bool,
        s.unselect.count p = s.count fun r => p { r with state := .unselected } := by
      intro p
      change (s.events.used.map _).countP _ = _
      rw [List.countP_map]
      rfl
    refine ⟨fun clazz => ?_, fun clazz => ?_, ?_⟩
    · rw [hcount]
      exact h.counted.total clazz
    · rw [hcount]
      cases clazz <;> simp [unselect, EventClassCounters.resetOnFail, ClazzCount.get, count]
    · rw [hcount]
      simp [unselect, EventClassCounters.resetOnFail, count]
  sized := ⟨h.sized.events, h.sized.lists⟩
  numbered := by
    refine h.numbered.of_ids_eq ?_ rfl
    change (s.events.used.map _).map _ = _
    rw [List.map_map]
    rfl

/-- The end of a selection keeps the records. -/
theorem unselect_ids (s : EventLists α) : s.unselect.ids = s.ids := by
  change (s.events.used.map _).map _ = _
  rw [List.map_map]
  rfl

/-- No written record is left by the end of a selection. -/
theorem unselect_writtenIds (s : EventLists α) : s.unselect.writtenIds = [] := by
  change ((s.events.used.map _).filter _).map _ = _
  rw [List.filter_map, List.map_map, List.map_eq_nil_iff]
  exact List.filter_eq_nil_iff.mpr fun n _ => by simp

/-! ## Runs -/

/-- The operations of `EventStorage`. -/
inductive Operation (α ω : Type*) where
  | update (event : Event α)
  | selectByType (type : EventType) (variation : Option GroupVariation) (max : ℕ)
  | selectByClass (clazz : ClassField) (max : ℕ)
  | write (handler : IEventWriteHandler α ω) (w : ω)
  | clearWritten
  | unselect

/-- One operation on the storage. -/
def step (s : EventLists α) : Operation α ω → EventLists α
  | .update event => (s.update event).2
  | .selectByType type variation max => (s.selectByTypeGeneric type variation max).2
  | .selectByClass clazz max => (s.selectByClass clazz max).2
  | .write handler w => (s.write handler w).lists
  | .clearWritten => s.clearWritten
  | .unselect => s.unselect

/-- Every operation keeps the invariant. -/
theorem step_inv {config : EventBufferConfig} {s : EventLists α} (h : s.Inv config)
    (op : Operation α ω) : (s.step op).Inv config := by
  cases op with
  | update event => exact (update_spec h event).2
  | selectByType type variation max => exact (selectByTypeGeneric_spec h type variation max).1
  | selectByClass clazz max => exact (selectByClass_spec h clazz max).1
  | write handler w => exact (write_spec h handler w).1
  | clearWritten => exact clearWritten_inv h
  | unselect => exact unselect_inv h

/-- The invariant holds after every run. -/
theorem run_inv (config : EventBufferConfig) (ops : List (Operation α ω)) :
    (Machine.run step (ofConfig config : EventLists α) ops).Inv config := by
  induction ops using List.reverseRecOn with
  | nil => exact ofConfig_inv config
  | append_singleton ops op ih =>
    rw [Machine.run, List.foldl_append]
    exact step_inv ih op

/-- Every counter is the number of records that it counts. -/
structure CountersExact (s : EventLists α) : Prop where
  total : ∀ clazz, (s.counters.total.get clazz).toNat = s.count fun r => r.clazz = clazz
  written : ∀ clazz, (s.counters.written.get clazz).toNat =
    s.count fun r => r.clazz = clazz ∧ r.state = .written
  selected : s.numSelected.toNat = s.count fun r => r.state = .selected
  written_le_total : ∀ clazz, s.counters.written.get clazz ≤ s.counters.total.get clazz
  unwritten : ∀ clazz, (s.numUnwritten clazz).toNat =
    s.count fun r => r.clazz = clazz ∧ r.state ≠ .written

/-- Every count of records fits into 32 bits. -/
theorem count_lt {config : EventBufferConfig} {s : EventLists α} (h : s.Inv config)
    (p : EventRecord → Bool) : s.count p < 2 ^ 32 :=
  lt_of_le_of_lt List.countP_le_length h.size_lt

/-- The records of a class are the unwritten and the written ones. -/
theorem count_unwritten (s : EventLists α) (clazz : EventClass) :
    s.count (fun r => r.clazz = clazz ∧ r.state ≠ .written) +
      s.count (fun r => r.clazz = clazz ∧ r.state = .written) =
      s.count fun r => r.clazz = clazz := by
  unfold count
  induction s.events.used with
  | nil => rfl
  | cons n nodes ih =>
    simp only [List.countP_cons]
    by_cases hclazz : n.2.clazz = clazz <;> by_cases hstate : n.2.state = .written <;>
      simp [hclazz, hstate] at ih ⊢ <;> omega

/-- The counters are the numbers of the records. -/
theorem Inv.countersExact {config : EventBufferConfig} {s : EventLists α} (h : s.Inv config) :
    s.CountersExact := by
  have htoNat : ∀ p, (UInt32.ofNat (s.count p)).toNat = s.count p := fun p =>
    UInt32.toNat_ofNat_of_lt' (count_lt h p)
  have htotal : ∀ clazz, (s.counters.total.get clazz).toNat = s.count fun r => r.clazz = clazz :=
    fun clazz => by rw [h.counted.total, htoNat]
  have hwritten : ∀ clazz, (s.counters.written.get clazz).toNat =
      s.count fun r => r.clazz = clazz ∧ r.state = .written :=
    fun clazz => by rw [h.counted.written, htoNat]
  have hle : ∀ clazz, s.counters.written.get clazz ≤ s.counters.total.get clazz := by
    intro clazz
    rw [UInt32.le_iff_toNat_le, htotal, hwritten, ← s.count_unwritten clazz]
    omega
  refine ⟨htotal, hwritten, ?_, hle, fun clazz => ?_⟩
  · rw [numSelected, h.counted.selected, htoNat]
  · rw [numUnwritten, UInt32.toNat_sub_of_le _ _ (hle clazz), htotal, hwritten,
      ← s.count_unwritten clazz]
    omega

/-- The records and the nodes of the types name each other one to one and in the same order, and
there is space for a record wherever there is space for its value. -/
structure OneToOne (s : EventLists α) : Prop where
  toTyped : ∀ n ∈ s.events.used, ∃ data,
    (s.getList n.2.type).get? n.2.storageNode = some data ∧ data.record = n.1
  toRecord : ∀ type, ∀ n ∈ (s.getList type).used, ∃ record,
    s.events.get? n.2.record = some record ∧ record.type = type ∧ record.storageNode = n.1
  order : ∀ type, (s.getList type).used.map (fun n => n.2.record) =
    (s.events.used.filter fun n => n.2.type = type).map Prod.fst
  sizes : (EventType.all.map fun type => (s.getList type).size).sum = s.events.size
  space : ∀ type, (s.getList type).isFull = false → s.events.isFull = false

/-- The nodes of the lists are those of the records. -/
theorem Inv.oneToOne {config : EventBufferConfig} {s : EventLists α} (h : s.Inv config) :
    s.OneToOne where
  toTyped := by
    rintro ⟨a, r⟩ hn
    obtain ⟨pre, post, hsplit⟩ := List.append_of_mem hn
    obtain ⟨tpre, d, tpost, hused, hrecord, -⟩ := h.linked.exists_typed hsplit
    exact ⟨d, NodeList.get?_of_split hused, hrecord⟩
  toRecord := by
    rintro type ⟨b, d⟩ hn
    -- The records of a type in order of age are the nodes of its list.
    have hmem : (d.record, b) ∈ (s.getList type).used.map fun n => (n.2.record, n.1) :=
      List.mem_map_of_mem hn
    rw [← h.linked type] at hmem
    obtain ⟨⟨a, r⟩, hr, heq⟩ := List.mem_map.mp hmem
    obtain ⟨hused, htype⟩ := List.mem_filter.mp hr
    simp only [Prod.mk.injEq, decide_eq_true_eq] at heq htype
    obtain ⟨rfl, rfl⟩ := heq
    exact ⟨r, NodeList.get?_eq_some_iff.mpr hused, htype, rfl⟩
  order := by
    intro type
    have hfst := congrArg (List.map Prod.fst) (h.linked type)
    rw [List.map_map, List.map_map] at hfst
    exact hfst.symm
  sizes := h.linked.sum_size
  space _ hspace := h.isFull_events hspace

/-- After any operations on a storage of any configuration, the counters are exact, the lists are
linked one to one, and an update changes nothing else than to remove the oldest record of its type,
exactly where the list of the type is full, and to append the event. -/
theorem run_consistent (config : EventBufferConfig) (ops : List (Operation α ω)) :
    let s := Machine.run step (ofConfig config : EventLists α) ops
    s.CountersExact ∧ s.OneToOne ∧ ∀ event, s.Updates event (s.update event) := by
  have h := run_inv config ops
  exact ⟨h.countersExact, h.oneToOne, fun event => (update_spec h event).1⟩

end OpenDnp3.Outstation.EventLists
