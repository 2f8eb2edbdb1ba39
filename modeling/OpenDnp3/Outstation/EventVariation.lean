import OpenDnp3.Outstation.EventWriting

/-!
# The variation of a selected event

An event is recorded with the default variation of its point, and a selection by type may ask for
another one, which stays in the record. What every operation does to the records and their
variations is described here, and from it when an event that is selected without a variation is
written with its default.
-/

namespace OpenDnp3.Outstation.EventLists

open App

variable {α ω : Type*}

/-! ## Records with their values -/

/-- The record is in the storage, with these data in the list of its type. -/
def Holds (s : EventLists α) (r : EventRecord) (d : TypedEventRecord α) : Prop :=
  ∃ node, (node, r) ∈ s.events.used ∧ (s.getList r.type).get? r.storageNode = some d

/-- The reports are those of the selected records. -/
theorem mem_selectedReports {s : EventLists α} {report : Report α} :
    report ∈ s.selectedReports ↔ ∃ r d, s.Holds r d ∧ r.state = .selected ∧
      report = ⟨r.id, r.type, d.selectedVariation, d.value, r.index⟩ := by
  unfold selectedReports reports reportOf
  rw [List.mem_filterMap]
  constructor
  · rintro ⟨⟨node, r⟩, hmem, hreport⟩
    obtain ⟨hused, hstate⟩ := List.mem_filter.mp hmem
    obtain ⟨d, hdata, rfl⟩ := Option.map_eq_some_iff.mp hreport
    exact ⟨r, d, ⟨node, hused, hdata⟩, of_decide_eq_true hstate, rfl⟩
  · rintro ⟨r, d, ⟨node, hused, hdata⟩, hstate, rfl⟩
    refine ⟨(node, r), List.mem_filter.mpr ⟨hused, decide_eq_true hstate⟩, ?_⟩
    dsimp only
    rw [hdata, Option.map_some]

/-- Two records with the same number are the same. -/
theorem Numbered.eq_of_id {s : EventLists α} (h : s.Numbered) {n n' : ℕ × EventRecord}
    (hn : n ∈ s.events.used) (hn' : n' ∈ s.events.used) (hid : n.2.id = n'.2.id) : n = n' :=
  List.inj_on_of_nodup_map h.nodup hn hn' hid

/-- The numbers of the selected records. -/
def selectedIds (s : EventLists α) : List ℕ :=
  (s.events.used.filter fun n => n.2.state = .selected).map fun n => n.2.id

/-- The numbers are those of the selected records. -/
theorem mem_selectedIds {s : EventLists α} {id : ℕ} :
    id ∈ s.selectedIds ↔ ∃ n ∈ s.events.used, n.2.state = .selected ∧ n.2.id = id := by
  simp [selectedIds, and_assoc]

/-- A record that is selected has its number among the selected ones. -/
theorem Holds.mem_selectedIds {s : EventLists α} {r : EventRecord} {d : TypedEventRecord α}
    (h : s.Holds r d) (hstate : r.state = .selected) : r.id ∈ s.selectedIds := by
  obtain ⟨node, hused, -⟩ := h
  exact EventLists.mem_selectedIds.mpr ⟨_, hused, hstate, rfl⟩

/-- The number of an unselected record is not that of a selected one. -/
theorem Holds.not_mem_selectedIds {config : EventBufferConfig} {s : EventLists α}
    {r : EventRecord} {d : TypedEventRecord α} (h : s.Holds r d) (hinv : s.Inv config)
    (hunselected : r.state = .unselected) : r.id ∉ s.selectedIds := by
  obtain ⟨node, hused, -⟩ := h
  intro hmem
  obtain ⟨n, hn, hselected, hid⟩ := EventLists.mem_selectedIds.mp hmem
  cases hinv.numbered.eq_of_id hn hused hid
  rw [hunselected] at hselected
  cases hselected

/-! ## Updates -/

/-- After an update every record is an old one with its data, or the new one. -/
theorem Appends.holds {s s' : EventLists α} {event : Event α} {a b : ℕ} (hlinked : s.Linked)
    (h : s.Appends event s' a b) {r : EventRecord} {d : TypedEventRecord α}
    (hholds : s'.Holds r d) :
    s.Holds r d ∨ r.id = s.made ∧ r.state = .unselected ∧ d.defaultVariation = event.variation := by
  obtain ⟨node, hused, hdata⟩ := hholds
  rw [h.events, List.mem_append, List.mem_singleton] at hused
  rw [NodeList.get?_eq_some_iff] at hdata
  rcases hused with hold | hnew
  · left
    obtain ⟨pre, post, hsplit⟩ := List.append_of_mem hold
    obtain ⟨tpre, d', tpost, htyped, -, -⟩ := hlinked.exists_typed hsplit
    have hdata' : (r.storageNode, d') ∈ (s.getList r.type).used := by
      rw [htyped]
      exact List.mem_append_right _ (List.mem_cons_self ..)
    refine ⟨node, hold, ?_⟩
    rw [NodeList.get?_eq_some_iff]
    by_cases htype : r.type = event.type
    · -- The node of an old record is not the new one.
      have hgrown : (r.storageNode, d') ∈ (s'.getList r.type).used := by
        rw [htype, h.list, ← htype]
        exact List.mem_append_left _ hdata'
      have heq := (NodeList.get?_eq_some_iff.mpr hgrown).symm.trans
        (NodeList.get?_eq_some_iff.mpr hdata)
      cases heq
      exact hdata'
    · rwa [h.others _ htype] at hdata
  · right
    cases hnew
    refine ⟨rfl, rfl, ?_⟩
    have hgrown : (b, newTyped event a) ∈ (s'.getList event.type).used := by
      rw [h.list]
      exact List.mem_append_right _ (List.mem_singleton_self _)
    have heq := (NodeList.get?_eq_some_iff.mpr hgrown).symm.trans
      (NodeList.get?_eq_some_iff.mpr hdata)
    cases heq
    rfl

/-- What is held after an eviction was held before. -/
theorem Evicts.holds {s s' : EventLists α} {type : EventType} (h : s.Evicts type s')
    {r : EventRecord} {d : TypedEventRecord α} (hholds : s'.Holds r d) : s.Holds r d := by
  obtain ⟨node, hused, hdata⟩ := hholds
  rw [h.events] at hused
  refine ⟨node, List.eraseP_sublist.subset hused, ?_⟩
  rw [NodeList.get?_eq_some_iff] at hdata ⊢
  by_cases htype : r.type = type
  · rw [htype, h.list] at hdata
    rw [htype]
    exact List.mem_of_mem_tail hdata
  · rwa [h.others _ htype] at hdata

/-- What is held after an update was held before or is the new event. -/
theorem update_holds {config : EventBufferConfig} {s : EventLists α} (h : s.Inv config)
    (event : Event α) {r : EventRecord} {d : TypedEventRecord α}
    (hholds : (s.update event).2.Holds r d) :
    s.Holds r d ∨ r.id = s.made ∧ r.state = .unselected ∧ d.defaultVariation = event.variation := by
  unfold update at hholds
  split_ifs at hholds with hcapacity
  · exact .inl hholds
  · dsimp only at hholds
    cases hfull : (s.getList event.type).isFull with
    | false =>
      rw [hfull, if_neg (by simp)] at hholds
      obtain ⟨a, b, happends⟩ := append_spec event (h.isFull_events hfull) hfull
      exact happends.holds h.linked hholds
    | true =>
      rw [hfull, if_pos rfl] at hholds
      obtain ⟨hinv, hevicts, hspace⟩ := removeFirst_spec h hfull hcapacity
      obtain ⟨a, b, happends⟩ := append_spec event (hinv.isFull_events hspace) hspace
      rcases happends.holds hinv.linked hholds with hold | ⟨hid, hnew⟩
      · exact .inl (hevicts.holds hold)
      · exact .inr ⟨hid.trans hevicts.made, hnew⟩

/-! ## Selection by type -/

/-- Every record is one of before with its data, or one that was not selected, with the variation
that the selection gives it. -/
def Selects (variation : Option GroupVariation) (s s' : EventLists α) : Prop :=
  ∀ (r' : EventRecord) (d' : TypedEventRecord α), s'.Holds r' d' → s.Holds r' d' ∨
    ∃ r d, s.Holds r d ∧ r.state = .unselected ∧ r' = { r with state := .selected } ∧
      d' = { d with selectedVariation := variation.getD d.defaultVariation }

/-- Nothing is selected. -/
theorem Selects.refl (variation : Option GroupVariation) (s : EventLists α) :
    Selects variation s s := fun _ _ => .inl

/-- One selection after the other. -/
theorem Selects.trans {variation : Option GroupVariation} {s₁ s₂ s₃ : EventLists α}
    (h : Selects variation s₁ s₂) (h' : Selects variation s₂ s₃) : Selects variation s₁ s₃ := by
  intro r' d' hholds
  rcases h' r' d' hholds with hold | ⟨r, d, hold, hstate, rfl, rfl⟩
  · exact h r' d' hold
  · rcases h r d hold with hold | ⟨r₁, d₁, -, -, rfl, -⟩
    · exact .inr ⟨r, d, hold, hstate, rfl, rfl⟩
    · cases hstate

/-- A node is selected with the variation asked for or its own. -/
theorem selectNode_selects {config : EventBufferConfig} {s : EventLists α} (h : s.Inv config)
    {type : EventType} {node : ℕ} {data : TypedEventRecord α} {record : EventRecord}
    (hdata : (s.getList type).get? node = some data)
    (hrecord : s.events.get? data.record = some record) (hstate : record.state = .unselected)
    (variation : Option GroupVariation) :
    Selects variation s (s.selectNode type variation node data) := by
  intro r' d' hholds
  obtain ⟨a, hused, hdata'⟩ := hholds
  obtain ⟨⟨a', r⟩, hr, heq⟩ := List.mem_map.mp hused
  have htyped := h.oneToOne.toTyped _ hr
  obtain ⟨d, hd, hback⟩ := htyped
  dsimp only at hd hback heq
  by_cases ha : a' = data.record
  · -- The record of the node.
    rw [if_pos ha] at heq
    cases heq
    have hsame := (NodeList.get?_eq_some_iff.mpr hr).symm.trans (ha ▸ hrecord)
    cases hsame
    obtain ⟨record', hrecord', htype, hnode⟩ :=
      h.oneToOne.toRecord type _ (NodeList.get?_eq_some_iff.mp hdata)
    cases hrecord.symm.trans hrecord'
    right
    refine ⟨record, d, ⟨_, hr, hd⟩, hstate, rfl, ?_⟩
    change ((s.selectNode type variation node data).getList record.type).get?
      record.storageNode = _ at hdata'
    dsimp only at hnode
    rw [selectNode, getList_setList, if_pos htype, NodeList.get?_modify, if_pos hnode] at hdata'
    rw [← htype, hd, Option.map_some] at hdata'
    exact (Option.some.inj hdata').symm
  · rw [if_neg ha] at heq
    cases heq
    left
    refine ⟨a, hr, ?_⟩
    rw [selectNode, getList_setList] at hdata'
    split_ifs at hdata' with htype
    · rw [NodeList.get?_modify] at hdata'
      split_ifs at hdata' with hnode
      · -- The node names one record only.
        rw [hnode, htype, hdata] at hd
        cases hd
        exact absurd hback.symm ha
      · rwa [htype]
    · exact hdata'

/-- Nodes of a type are selected with the variation asked for or their own. -/
theorem selectTypeNodes_selects {config : EventBufferConfig} (type : EventType)
    (variation : Option GroupVariation) (max : ℕ) (nodes : List ℕ) (numSelected : ℕ)
    {s : EventLists α} (h : s.Inv config) :
    Selects variation s (selectTypeNodes type variation max nodes numSelected s).2 := by
  induction nodes generalizing numSelected s with
  | nil => exact .refl variation s
  | cons node nodes ih =>
    unfold selectTypeNodes
    split_ifs with hmax
    · exact .refl variation s
    · split
      · exact ih _ h
      case h_2 data hdata =>
        split
        · exact ih _ h
        case h_2 record hrecord =>
          split_ifs with hstate
          · obtain ⟨hinv, -⟩ := selectNode_spec h hrecord hstate variation
            exact .trans (selectNode_selects h hdata hrecord hstate variation) (ih _ hinv)
          · exact ih _ h

/-! ## Selection by class -/

/-- The first `max` records with a property are selected. -/
def pick (p : EventRecord → Bool) : ℕ → List (ℕ × EventRecord) → List (ℕ × EventRecord)
  | 0, nodes => nodes
  | _ + 1, [] => []
  | max + 1, n :: nodes =>
    if p n.2 then (n.1, { n.2 with state := .selected }) :: pick p max nodes
    else n :: pick p (max + 1) nodes

/-- An entry after a pick was there before or was picked. -/
theorem mem_pick {p : EventRecord → Bool} {max : ℕ} {nodes : List (ℕ × EventRecord)}
    {n : ℕ × EventRecord} (h : n ∈ pick p max nodes) :
    n ∈ nodes ∨ ∃ m ∈ (nodes.filter fun m => p m.2).take max,
      n = (m.1, { m.2 with state := .selected }) := by
  induction nodes generalizing max with
  | nil => cases max <;> exact .inl h
  | cons m nodes ih =>
    cases max with
    | zero => exact .inl h
    | succ max =>
      unfold pick at h
      split_ifs at h with hp
      · rw [List.filter_cons_of_pos (by simpa using hp), List.take_succ_cons]
        rcases List.mem_cons.mp h with rfl | hrest
        · exact .inr ⟨m, List.mem_cons_self .., rfl⟩
        · rcases ih hrest with hold | ⟨m', hm', rfl⟩
          · exact .inl (List.mem_cons_of_mem _ hold)
          · exact .inr ⟨m', List.mem_cons_of_mem _ hm', rfl⟩
      · rw [List.filter_cons_of_neg (by simpa using hp)]
        rcases List.mem_cons.mp h with rfl | hrest
        · exact .inl (List.mem_cons_self ..)
        · rcases ih hrest with hold | hpicked
          · exact .inl (List.mem_cons_of_mem _ hold)
          · exact .inr hpicked

/-- The first entries that are wanted are picked. -/
theorem mem_pick_of_mem_take {p : EventRecord → Bool} {max : ℕ} {nodes : List (ℕ × EventRecord)}
    {m : ℕ × EventRecord} (h : m ∈ (nodes.filter fun m => p m.2).take max) :
    (m.1, { m.2 with state := .selected }) ∈ pick p max nodes := by
  induction nodes generalizing max with
  | nil => simp at h
  | cons n nodes ih =>
    cases max with
    | zero => simp at h
    | succ max =>
      unfold pick
      split_ifs with hp
      · rw [List.filter_cons_of_pos (by simpa using hp), List.take_succ_cons] at h
        rcases List.mem_cons.mp h with rfl | hrest
        · exact List.mem_cons_self ..
        · exact List.mem_cons_of_mem _ (ih hrest)
      · rw [List.filter_cons_of_neg (by simpa using hp)] at h
        exact List.mem_cons_of_mem _ (ih h)

/-- The records that a selection by class selects. -/
def isUnselectedOf (clazz : ClassField) (r : EventRecord) : Bool :=
  r.state = .unselected ∧ clazz.hasEventType r.clazz

/-- The first records of the classes are selected, in the order of the list. -/
theorem selectClassNodes_used (clazz : ClassField) (max : ℕ) (todo : List (ℕ × EventRecord))
    {done : List (ℕ × EventRecord)} (numSelected : ℕ) {s : EventLists α}
    (h : s.events.used = done ++ todo) :
    let s' := (selectClassNodes clazz max (todo.map Prod.fst) numSelected s).2
    s'.events.used = done ++ pick (isUnselectedOf clazz) (max - numSelected) todo ∧
      s'.lists = s.lists := by
  induction todo generalizing done numSelected s with
  | nil =>
    -- Nothing is left to be picked from.
    have hpick : ∀ n, pick (isUnselectedOf clazz) n [] = [] := fun n => by cases n <;> rfl
    exact ⟨by rw [hpick]; exact h, rfl⟩
  | cons n todo ih =>
    obtain ⟨node, record⟩ := n
    rw [List.map_cons]
    unfold selectClassNodes
    by_cases hmax : numSelected < max
    · obtain ⟨rest, hrest⟩ : ∃ rest, max - numSelected = rest + 1 :=
        ⟨max - numSelected - 1, by omega⟩
      rw [if_pos hmax, NodeList.get?_of_split h, hrest]
      dsimp only
      unfold pick
      by_cases hselect : record.state = .unselected ∧ clazz.hasEventType record.clazz
      · have hused : (s.selectRecord node).events.used =
            (done ++ [(node, { record with state := .selected })]) ++ todo := by
          rw [selectRecord]
          dsimp only
          rw [NodeList.modify_of_split h, List.append_assoc]
          rfl
        obtain ⟨hused', hlists⟩ := ih (numSelected + 1) hused
        have hless : max - (numSelected + 1) = rest := by omega
        rw [if_pos hselect, if_pos (by simpa [isUnselectedOf] using hselect)]
        refine ⟨?_, hlists⟩
        rw [hused', hless, List.append_assoc]
        rfl
      · have hused : s.events.used = (done ++ [(node, record)]) ++ todo := by
          rw [h, List.append_assoc]
          rfl
        obtain ⟨hused', hlists⟩ := ih numSelected hused
        rw [if_neg hselect, if_neg (by simpa [isUnselectedOf] using hselect)]
        refine ⟨?_, hlists⟩
        rw [hused', hrest, List.append_assoc]
        rfl
    · -- The limit is reached.
      have hzero : max - numSelected = 0 := by omega
      rw [if_neg hmax, hzero]
      exact ⟨h, rfl⟩

/-- `SelectByClass` selects the first `max` unselected records of the classes, and changes nothing
else. -/
theorem selectByClass_used (s : EventLists α) (clazz : ClassField) (max : ℕ) :
    (s.selectByClass clazz max).2.events.used = pick (isUnselectedOf clazz) max s.events.used ∧
      (s.selectByClass clazz max).2.lists = s.lists := by
  have h := selectClassNodes_used clazz max s.events.used 0 (List.nil_append _).symm
  rwa [List.nil_append, Nat.sub_zero] at h

/-- What is selected by class keeps the variation that it had. -/
theorem selectByClass_selects {s : EventLists α} (clazz : ClassField) (max : ℕ) {r' : EventRecord}
    {d : TypedEventRecord α} (hholds : (s.selectByClass clazz max).2.Holds r' d) :
    s.Holds r' d ∨ ∃ n ∈ (s.events.used.filter fun n => isUnselectedOf clazz n.2).take max,
      s.Holds n.2 d ∧ r' = { n.2 with state := .selected } := by
  obtain ⟨hused, hlists⟩ := s.selectByClass_used clazz max
  obtain ⟨node, hmem, hdata⟩ := hholds
  rw [getList, hlists] at hdata
  rw [hused] at hmem
  rcases mem_pick hmem with hold | ⟨n, hn, heq⟩
  · exact .inl ⟨node, hold, hdata⟩
  · cases heq
    have hold := List.mem_of_mem_filter (List.mem_of_mem_take hn)
    exact .inr ⟨n, hn, ⟨n.1, hold, hdata⟩, rfl⟩

/-! ## The other operations -/

/-- What is held after a write was held before, at most written now. -/
theorem write_holds {config : EventBufferConfig} {s : EventLists α} (h : s.Inv config)
    (handler : IEventWriteHandler α ω) (w : ω) {r' : EventRecord} {d : TypedEventRecord α}
    (hholds : (s.write handler w).lists.Holds r' d) :
    ∃ r, s.Holds r d ∧ (r' = r ∨ r' = { r with state := .written }) := by
  obtain ⟨passed, rest, headers, hused, -, -, -, hmarked, hlists, -⟩ := write_emits h handler w
  obtain ⟨node, hmem, hdata⟩ := hholds
  rw [getList, hlists] at hdata
  rw [hmarked, List.mem_append, List.mem_map] at hmem
  rcases hmem with ⟨⟨node', r⟩, hn, heq⟩ | hn
  · have hold : (node', r) ∈ s.events.used := by
      rw [hused]
      exact List.mem_append_left _ hn
    unfold markNode at heq
    split_ifs at heq with hstate
    · cases heq
      exact ⟨r, ⟨_, hold, hdata⟩, .inr rfl⟩
    · cases heq
      exact ⟨r', ⟨_, hold, hdata⟩, .inl rfl⟩
  · refine ⟨r', ⟨node, ?_, hdata⟩, .inl rfl⟩
    rw [hused]
    exact List.mem_append_right _ hn

/-- A removal adds nothing. -/
theorem mem_of_mem_remove {β : Type*} {l : NodeList β} {a : ℕ} {n : ℕ × β}
    (h : n ∈ (l.remove a).used) : n ∈ l.used := by
  unfold NodeList.remove at h
  split_ifs at h
  · exact List.mem_of_mem_filter h
  · exact h

/-- What is held after a removal was held before. -/
theorem removeNode_holds {s : EventLists α} {node : ℕ} {record r : EventRecord}
    {d : TypedEventRecord α} (hholds : (s.removeNode node record).Holds r d) : s.Holds r d := by
  obtain ⟨a, hused, hdata⟩ := hholds
  refine ⟨a, mem_of_mem_remove hused, ?_⟩
  rw [NodeList.get?_eq_some_iff] at hdata ⊢
  rw [removeNode, getList_setList] at hdata
  split_ifs at hdata with htype
  · rw [htype]
    exact mem_of_mem_remove hdata
  · exact hdata

/-- What is held after a clearing was held before. -/
theorem clearWritten_holds {s : EventLists α} {r : EventRecord} {d : TypedEventRecord α}
    (hholds : s.clearWritten.Holds r d) : s.Holds r d := by
  have hnodes : ∀ (nodes : List ℕ) (s : EventLists α), (clearNodes nodes s).Holds r d →
      s.Holds r d := by
    intro nodes
    induction nodes with
    | nil => exact fun s h => h
    | cons node nodes ih =>
      intro s hholds
      unfold clearNodes at hholds
      split at hholds
      · exact ih s hholds
      · split_ifs at hholds
        · exact removeNode_holds (ih _ hholds)
        · exact ih s hholds
  exact hnodes _ s hholds

/-- What is held after the end of a selection was held before. -/
theorem unselect_holds {s : EventLists α} {r' : EventRecord} {d : TypedEventRecord α}
    (hholds : s.unselect.Holds r' d) :
    ∃ r, s.Holds r d ∧ r' = { r with state := .unselected } := by
  obtain ⟨node, hused, hdata⟩ := hholds
  obtain ⟨⟨node', r⟩, hmem, heq⟩ := List.mem_map.mp hused
  cases heq
  exact ⟨r, ⟨_, hmem, hdata⟩, rfl⟩

/-! ## Runs -/

/-- The storage, the variation that each event was recorded with, and the events that were last
selected without a variation. -/
structure Traced (α : Type*) where
  storage : EventLists α
  recorded : ℕ → GroupVariation := fun _ => .UNKNOWN
  byDefault : ℕ → Bool := fun _ => false

namespace Traced

/-- The operation selects without a variation (`true`) or with one (`false`). -/
def selectsByDefault : Operation α ω → Option Bool
  | .selectByType _ variation _ => some variation.isNone
  | .selectByClass _ _ => some true
  | _ => none

/-- One operation on the storage, with the variation of the event that it records and the events
that it selects. -/
def step (s : Traced α) (op : Operation α ω) : Traced α where
  storage := s.storage.step op
  recorded := match op with
    | .update event => fun id => if id = s.storage.made then event.variation else s.recorded id
    | _ => s.recorded
  byDefault := fun id =>
    if id ∈ (s.storage.step op).selectedIds ∧ id ∉ s.storage.selectedIds then
      (selectsByDefault op).getD (s.byDefault id)
    else s.byDefault id

/-- An operation decides for the records that it selects. -/
theorem byDefault_step (s : Traced α) (op : Operation α ω) (id : ℕ) :
    (s.step op).byDefault id =
      if id ∈ (s.storage.step op).selectedIds ∧ id ∉ s.storage.selectedIds then
        (selectsByDefault op).getD (s.byDefault id)
      else s.byDefault id := rfl

/-- The events that were selected without a variation would be written with the one that they were
recorded with. -/
def Honours (s : Traced α) : Prop :=
  ∀ report ∈ s.storage.selectedReports, s.byDefault report.id = true →
    report.variation = s.recorded report.id

/-- Every event that is selected by class has not kept the variation of an earlier selection. -/
def Resets (s : Traced α) : Operation α ω → Prop
  | .selectByClass clazz max =>
    ∀ n ∈ (s.storage.events.used.filter fun n => isUnselectedOf clazz n.2).take max,
      ∀ data ∈ (s.storage.getList n.2.type).get? n.2.storageNode,
        data.selectedVariation = data.defaultVariation
  | _ => True

/-- The events keep the variation that they were recorded with as their default. -/
structure Inv (config : EventBufferConfig) (s : Traced α) : Prop where
  storage : s.storage.Inv config
  recorded : ∀ r d, s.storage.Holds r d → d.defaultVariation = s.recorded r.id

/-- After an operation every record is one of before, with its number and its default. -/
theorem holds_step {config : EventBufferConfig} {s : Traced α} (h : s.Inv config)
    (op : Operation α ω) {r' : EventRecord} {d' : TypedEventRecord α}
    (hholds : (s.step op).storage.Holds r' d') :
    (∃ r d, s.storage.Holds r d ∧ r'.id = r.id ∧ d'.defaultVariation = d.defaultVariation) ∨
      ∃ event, op = .update event ∧ r'.id = s.storage.made ∧ r'.state = .unselected ∧
        d'.defaultVariation = event.variation := by
  cases op with
  | update event =>
    rcases update_holds h.storage event hholds with hold | hnew
    · exact .inl ⟨r', d', hold, rfl, rfl⟩
    · exact .inr ⟨event, rfl, hnew⟩
  | selectByType type variation max =>
    rcases selectTypeNodes_selects type variation max _ 0 h.storage r' d' hholds with
      hold | ⟨r, d, hold, -, rfl, rfl⟩
    · exact .inl ⟨r', d', hold, rfl, rfl⟩
    · exact .inl ⟨r, d, hold, rfl, rfl⟩
  | selectByClass clazz max =>
    rcases selectByClass_selects clazz max hholds with hold | ⟨n, -, hold, rfl⟩
    · exact .inl ⟨r', d', hold, rfl, rfl⟩
    · exact .inl ⟨n.2, d', hold, rfl, rfl⟩
  | write handler w =>
    obtain ⟨r, hold, rfl | rfl⟩ := write_holds h.storage handler w hholds
    · exact .inl ⟨r', d', hold, rfl, rfl⟩
    · exact .inl ⟨r, d', hold, rfl, rfl⟩
  | clearWritten => exact .inl ⟨r', d', clearWritten_holds hholds, rfl, rfl⟩
  | unselect =>
    obtain ⟨r, hold, rfl⟩ := unselect_holds hholds
    exact .inl ⟨r, d', hold, rfl, rfl⟩

/-- Every operation keeps the invariant of the trace. -/
theorem step_inv {config : EventBufferConfig} {s : Traced α} (h : s.Inv config)
    (op : Operation α ω) : (s.step op).Inv config := by
  refine ⟨EventLists.step_inv h.storage op, fun r' d' hholds => ?_⟩
  rcases holds_step h op hholds with ⟨r, d, hold, hid, hdefault⟩ | ⟨event, rfl, hid, -, hdefault⟩
  · have hlt : r.id < s.storage.made := by
      obtain ⟨node, hused, -⟩ := hold
      exact h.storage.numbered.lt_made _ (List.mem_map_of_mem (f := fun n => n.2.id) hused)
    rw [hdefault, hid, h.recorded r d hold]
    cases op with
    | update event => exact (if_neg hlt.ne).symm
    | _ => rfl
  · rw [hdefault, hid]
    exact (if_pos rfl).symm

/-- The first unselected records are unselected. -/
theorem unselected_of_mem_take {clazz : ClassField} {max : ℕ} {nodes : List (ℕ × EventRecord)}
    {n : ℕ × EventRecord} (h : n ∈ (nodes.filter fun n => isUnselectedOf clazz n.2).take max) :
    n ∈ nodes ∧ n.2.state = .unselected := by
  obtain ⟨hmem, hp⟩ := List.mem_filter.mp (List.mem_of_mem_take h)
  simp only [isUnselectedOf, decide_eq_true_eq] at hp
  exact ⟨hmem, hp.1⟩

/-- What a record that an operation selects looks like. -/
inductive Chosen (s : Traced α) (r' : EventRecord) (d' : TypedEventRecord α) :
    Operation α ω → Prop where
  | byType (type : EventType) (variation : Option GroupVariation) (max : ℕ)
      (hvariation : d'.selectedVariation = variation.getD d'.defaultVariation) :
      Chosen s r' d' (.selectByType type variation max)
  | byClass (clazz : ClassField) (max : ℕ) {n : ℕ × EventRecord}
      (hn : n ∈ (s.storage.events.used.filter fun n => isUnselectedOf clazz n.2).take max)
      (hholds : s.storage.Holds n.2 d') (hr : r' = { n.2 with state := .selected }) :
      Chosen s r' d' (.selectByClass clazz max)

/-- A record that is selected after an operation was selected before, or is selected by it. -/
theorem selected_step {config : EventBufferConfig} {s : Traced α} (h : s.Inv config)
    (op : Operation α ω) {r' : EventRecord} {d' : TypedEventRecord α}
    (hholds : (s.step op).storage.Holds r' d') (hstate : r'.state = .selected) :
    s.storage.Holds r' d' ∨ r'.id ∉ s.storage.selectedIds ∧ s.Chosen r' d' op := by
  cases op with
  | update event =>
    rcases update_holds h.storage event hholds with hold | ⟨-, hnew, -⟩
    · exact .inl hold
    · rw [hnew] at hstate
      cases hstate
  | selectByType type variation max =>
    rcases selectTypeNodes_selects type variation max _ 0 h.storage r' d' hholds with
      hold | ⟨r, d, hold, hunselected, rfl, rfl⟩
    · exact .inl hold
    · -- An event that is not selected before is chosen by this call.
      have hid := hold.not_mem_selectedIds h.storage hunselected
      exact .inr ⟨hid, .byType type variation max rfl⟩
  | selectByClass clazz max =>
    rcases selectByClass_selects clazz max hholds with hold | ⟨n, hn, hold, rfl⟩
    · exact .inl hold
    · have hid := hold.not_mem_selectedIds h.storage (unselected_of_mem_take hn).2
      exact .inr ⟨hid, .byClass clazz max hn hold rfl⟩
  | write handler w =>
    obtain ⟨r, hold, rfl | rfl⟩ := write_holds h.storage handler w hholds
    · exact .inl hold
    · cases hstate
  | clearWritten => exact .inl (clearWritten_holds hholds)
  | unselect =>
    obtain ⟨r, -, rfl⟩ := unselect_holds hholds
    cases hstate

/-- A step keeps the events under their defaults exactly when a selection by class does not find
another variation. -/
theorem step_honours_iff {config : EventBufferConfig} {s : Traced α} (h : s.Inv config)
    (hhonours : s.Honours) (op : Operation α ω) : (s.step op).Honours ↔ s.Resets op := by
  constructor
  · intro hnext
    cases op with
    | selectByClass clazz max =>
      intro n hn data hdata
      have hdata : (s.storage.getList n.2.type).get? n.2.storageNode = some data := hdata
      obtain ⟨hold, hunselected⟩ := unselected_of_mem_take hn
      have hholds : s.storage.Holds n.2 data := ⟨n.1, hold, hdata⟩
      obtain ⟨hused, hlists⟩ := s.storage.selectByClass_used clazz max
      -- The record is selected, and reported with the variation that it has.
      have hpicked : (s.storage.selectByClass clazz max).2.Holds
          { n.2 with state := .selected } data := by
        refine ⟨n.1, ?_, ?_⟩
        · rw [hused]
          exact mem_pick_of_mem_take hn
        · rw [getList, hlists]
          exact hdata
      have hreport := mem_selectedReports.mpr ⟨_, _, hpicked, rfl, rfl⟩
      have hnew := hpicked.mem_selectedIds rfl
      have hvariation := hnext _ hreport
        (if_pos ⟨hnew, hholds.not_mem_selectedIds h.storage hunselected⟩)
      exact hvariation.trans (h.recorded _ _ hholds).symm
    | _ => trivial
  · intro hresets report hmem hdefault
    obtain ⟨r', d', hholds, hstate, rfl⟩ := mem_selectedReports.mp hmem
    have hrecorded := (step_inv h op).recorded r' d' hholds
    have hnow := hholds.mem_selectedIds hstate
    dsimp only at hdefault ⊢
    rcases selected_step h op hholds hstate with hold | ⟨hid, hchosen⟩
    · -- Selected before the operation, with the same data.
      have hdefault : s.byDefault r'.id = true := by
        rwa [byDefault_step, if_neg (fun hnew => hnew.2 (hold.mem_selectedIds hstate))] at hdefault
      rw [← hrecorded, h.recorded r' d' hold]
      exact hhonours _ (mem_selectedReports.mpr ⟨r', d', hold, hstate, rfl⟩) hdefault
    · rw [← hrecorded]
      rw [byDefault_step, if_pos ⟨hnow, hid⟩] at hdefault
      cases hchosen with
      | byType type variation max hvariation =>
        cases variation with
        | none => exact hvariation
        | some gv => cases hdefault
      | byClass clazz max hn hold hr => exact hresets _ hn _ hold.choose_spec.2

/-- What a write hands to its handler of the events that were selected without a variation. -/
def WritesDefaults (s : Traced α) (handler : IEventWriteHandler α ω) (w : ω) : Prop :=
  ∃ headers left,
    handler.Emits w s.storage.selectedReports headers left (s.storage.write handler w).handler ∧
    (s.storage.write handler w).ids = headers.flatten.map Report.id ∧
    ∀ report ∈ headers.flatten, s.byDefault report.id = true →
      report.variation = s.recorded report.id

/-- Where the default variations are honoured, they are written. -/
theorem Honours.writesDefaults {config : EventBufferConfig} {s : Traced α} (h : s.Inv config)
    (hhonours : s.Honours) (handler : IEventWriteHandler α ω) (w : ω) :
    s.WritesDefaults handler w := by
  obtain ⟨passed, rest, headers, -, hemits, -, hids, -⟩ := write_emits h.storage handler w
  refine ⟨headers, _, hemits, hids, fun report hmem => hhonours report ?_⟩
  rw [hemits.eq_append]
  exact List.mem_append_left _ hmem

/-- In a run of the storage, the events that were selected without a variation are under the
variation that they were recorded with after every operation, exactly when no selection by class
selects one that an earlier selection has left with another variation. They are then written with
the recorded variation. -/
theorem run_honours_iff (config : EventBufferConfig) {υ : Type*} (ops : List (Operation α ω)) :
    let s : Traced α := { storage := ofConfig config }
    (Machine.StepsMeet step (fun s op => (s.step op).Honours) s ops ↔
        Machine.StepsMeet step Resets s ops) ∧
      (Machine.StepsMeet step Resets s ops → ∀ (handler : IEventWriteHandler α υ) (w : υ),
        (Machine.run step s ops).WritesDefaults handler w) := by
  dsimp only
  have hinit : Inv config ({ storage := ofConfig config } : Traced α) ∧
      Honours ({ storage := ofConfig config } : Traced α) := by
    refine ⟨⟨ofConfig_inv config, ?_⟩, ?_⟩
    · rintro r d ⟨node, hused, -⟩
      cases hused
    · intro report hmem
      obtain ⟨r, d, ⟨node, hused, -⟩, -⟩ := mem_selectedReports.mp hmem
      cases hused
  have hstep : ∀ (s : Traced α) (op : Operation α ω), Inv config s ∧ s.Honours → s.Resets op →
      Inv config (s.step op) ∧ (s.step op).Honours :=
    fun s op hs hresets => ⟨step_inv hs.1 op, (step_honours_iff hs.1 hs.2 op).mpr hresets⟩
  refine ⟨Machine.StepsMeet.iff_of_invariant step
    (fun s op hs => step_honours_iff hs.1 hs.2 op) hstep hinit ops, fun hresets handler w => ?_⟩
  obtain ⟨hinv, hhonours⟩ := Machine.run_invariant step hstep _ ops hinit hresets
  exact hhonours.writesDefaults hinv handler w

/-- An event that is selected with a variation, and after an `Unselect` by its class. -/
def abandoned : List (Operation Bool Unit) :=
  [.update ⟨.Binary, true, 3, .EC1, .Group2Var1⟩, .selectByType .Binary (some .Group2Var2) 1,
    .unselect, .selectByClass ⟨false, true, true, true⟩ 10]

/-- A handler that takes every event. -/
def takesAll : IEventWriteHandler Bool Unit where
  start _ _ _ := ()
  write _ _ _ := some ()
  finish w := w

/-- The event is selected by class and written with the variation of the selection that was
abandoned. -/
theorem not_writesDefaults_abandoned :
    let s := Machine.run step { storage := ofConfig { maxBinaryEvents := 1 } } abandoned
    ¬s.Honours ∧ ¬s.WritesDefaults takesAll () := by
  intro s
  have hnot : ∀ report ∈ s.storage.selectedReports,
      s.byDefault report.id = true ∧ report.variation ≠ s.recorded report.id := by decide +kernel
  obtain ⟨report, hreports⟩ : ∃ report, s.storage.selectedReports = [report] := ⟨_, rfl⟩
  have hone : report ∈ s.storage.selectedReports := by
    rw [hreports]
    exact List.mem_singleton_self report
  obtain ⟨hdefault, hne⟩ := hnot report hone
  refine ⟨fun hhonours => hne (hhonours report hone hdefault), ?_⟩
  rintro ⟨headers, left, hemits, hids, hall⟩
  -- The only selected event is written.
  have hlength : (s.storage.write takesAll ()).ids.length = 1 := by decide +kernel
  have happend := hemits.eq_append
  rw [hids, List.length_map] at hlength
  rw [hreports] at happend
  obtain ⟨written, hwritten⟩ := List.length_eq_one_iff.mp hlength
  rw [hwritten] at happend
  have hreport : report = written := (List.cons.inj happend).1
  refine hne (hall report ?_ hdefault)
  rw [hwritten, hreport]
  exact List.mem_singleton_self written

end Traced

end OpenDnp3.Outstation.EventLists
