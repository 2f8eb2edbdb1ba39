import OpenDnp3.Outstation.EventStorageSpec

/-!
# What a write reports

The headers that `EventStorage::Write` makes: the events that the handler is given, their order, and
where the write stops.
-/

namespace OpenDnp3.Outstation.EventLists

variable {α ω : Type*}

/-- What a write reports of a record. -/
structure Report (α : Type*) where
  id : ℕ
  type : EventType
  variation : App.GroupVariation
  value : α
  index : UInt16
  deriving DecidableEq, Repr

namespace IEventWriteHandler

/-- The writer of a header takes these events one after the other. -/
def writeAll (handler : IEventWriteHandler α ω) : ω → List (Report α) → Option ω
  | w, [] => some w
  | w, e :: events => (handler.write w e.value e.index).bind fun w => handler.writeAll w events

/-- The handler is given the events of a list, header by header, and leaves the last ones. Each
header is for the variation of its first event. The handler leaves an event only when a new header
for it does not take it. -/
inductive Emits (handler : IEventWriteHandler α ω) :
    ω → List (Report α) → List (List (Report α)) → List (Report α) → ω → Prop where
  | done (w : ω) : Emits handler w [] [] [] w
  | refused {w : ω} {e : Report α} {events : List (Report α)}
      (hwrite : handler.write (handler.start w e.variation e.value) e.value e.index = none) :
      Emits handler w (e :: events) [] (e :: events)
        (handler.finish (handler.start w e.variation e.value))
  | header {w w' w'' : ω} {e : Report α} {events rest left : List (Report α)}
      {headers : List (List (Report α))}
      (hsame : ∀ x ∈ events, x.type = e.type ∧ x.variation = e.variation)
      (hwrite : handler.writeAll (handler.start w e.variation e.value) (e :: events) = some w')
      (hrest : Emits handler (handler.finish w') rest headers left w'') :
      Emits handler w (e :: events ++ rest) ((e :: events) :: headers) left w''

variable {handler : IEventWriteHandler α ω}

/-- What is emitted and what is left are all events. -/
theorem Emits.eq_append {w w' : ω} {events left : List (Report α)}
    {headers : List (List (Report α))}
    (h : handler.Emits w events headers left w') : events = headers.flatten ++ left := by
  induction h with
  | done w => rfl
  | refused hwrite => rfl
  | header hsame hwrite hrest ih => rw [List.flatten_cons, List.append_assoc, ← ih]

/-- The events of a header have one type and one variation. -/
theorem Emits.same {w w' : ω} {events left : List (Report α)} {headers : List (List (Report α))}
    (h : handler.Emits w events headers left w') :
    ∀ header ∈ headers, header ≠ [] ∧ ∀ a ∈ header, ∀ b ∈ header,
      a.type = b.type ∧ a.variation = b.variation := by
  induction h with
  | done w => exact List.forall_mem_nil _
  | refused hwrite => exact List.forall_mem_nil _
  | @header w w' w'' e events rest left headers hsame hwrite hrest ih =>
    refine List.forall_mem_cons.mpr ⟨⟨List.cons_ne_nil _ _, fun a ha b hb => ?_⟩, ih⟩
    have hfirst : ∀ x ∈ e :: events, x.type = e.type ∧ x.variation = e.variation :=
      List.forall_mem_cons.mpr ⟨⟨rfl, rfl⟩, hsame⟩
    obtain ⟨hta, hva⟩ := hfirst a ha
    obtain ⟨htb, hvb⟩ := hfirst b hb
    exact ⟨hta.trans htb.symm, hva.trans hvb.symm⟩

/-- The first event that is left is one that the handler has refused. -/
theorem Emits.refused_of_left {w w' : ω} {events left : List (Report α)}
    {headers : List (List (Report α))} (h : handler.Emits w events headers left w')
    (hleft : left ≠ []) :
    ∃ w e rest, left = e :: rest ∧
      handler.write (handler.start w e.variation e.value) e.value e.index = none := by
  induction h with
  | done w => exact absurd rfl hleft
  | @refused w e events hwrite => exact ⟨w, e, events, rfl, hwrite⟩
  | header hsame hwrite hrest ih => exact ih hleft

end IEventWriteHandler

/-! ## Reports -/

/-- What is reported of a record. -/
def reportOf (s : EventLists α) (r : EventRecord) : Option (Report α) :=
  ((s.getList r.type).get? r.storageNode).map fun data =>
    { id := r.id, type := r.type, variation := data.selectedVariation, value := data.value,
      index := r.index }

/-- What is reported of the selected ones of some nodes. -/
def reports (s : EventLists α) (nodes : List (ℕ × EventRecord)) : List (Report α) :=
  (nodes.filter fun n => n.2.state = .selected).filterMap fun n => s.reportOf n.2

/-- What there is to report, in the order in which the events came. -/
def selectedReports (s : EventLists α) : List (Report α) := s.reports s.events.used

/-- A node that is selected is written. -/
def markNode (n : ℕ × EventRecord) : ℕ × EventRecord :=
  if n.2.state = .selected then (n.1, { n.2 with state := .written }) else n

/-- The reports depend on the lists only. -/
theorem reports_congr {s s' : EventLists α} (h : s'.lists = s.lists)
    (nodes : List (ℕ × EventRecord)) : s'.reports nodes = s.reports nodes := by
  unfold reports reportOf getList
  rw [h]

/-- The reports of nodes one after the other. -/
theorem reports_append (s : EventLists α) (nodes nodes' : List (ℕ × EventRecord)) :
    s.reports (nodes ++ nodes') = s.reports nodes ++ s.reports nodes' := by
  rw [reports, List.filter_append, List.filterMap_append]
  rfl

/-- A node that is not selected has no report. -/
theorem reports_cons_of_ne (s : EventLists α) {n : ℕ × EventRecord} (h : n.2.state ≠ .selected)
    (nodes : List (ℕ × EventRecord)) : s.reports (n :: nodes) = s.reports nodes := by
  rw [reports, List.filter_cons_of_neg (by simpa using h)]
  rfl

/-- Where no node is selected there is no report. -/
theorem reports_eq_nil (s : EventLists α) {nodes : List (ℕ × EventRecord)}
    (h : ∀ n ∈ nodes, n.2.state ≠ .selected) : s.reports nodes = [] := by
  have hfilter : (nodes.filter fun n => n.2.state = .selected) = [] :=
    List.filter_eq_nil_iff.mpr fun n hn => by simpa using h n hn
  rw [reports, hfilter]
  rfl

/-- A node that is selected has a report. -/
theorem reports_cons (s : EventLists α) {n : ℕ × EventRecord} {data : TypedEventRecord α}
    (hstate : n.2.state = .selected)
    (hdata : (s.getList n.2.type).get? n.2.storageNode = some data)
    (nodes : List (ℕ × EventRecord)) :
    s.reports (n :: nodes) =
      ⟨n.2.id, n.2.type, data.selectedVariation, data.value, n.2.index⟩ :: s.reports nodes := by
  rw [reports, List.filter_cons_of_pos (by simpa using hstate), List.filterMap_cons,
    reportOf, hdata]
  rfl

/-- Every selected record is reported. -/
theorem map_id_reports {config : EventBufferConfig} {s : EventLists α} (h : s.Inv config)
    {nodes : List (ℕ × EventRecord)} (hnodes : nodes ⊆ s.events.used) :
    (s.reports nodes).map Report.id =
      (nodes.filter fun n => n.2.state = .selected).map fun n => n.2.id := by
  induction nodes with
  | nil => rfl
  | cons n nodes ih =>
    obtain ⟨hn, hrest⟩ := List.cons_subset.mp hnodes
    have htail := ih hrest
    by_cases hstate : n.2.state = .selected
    · obtain ⟨data, hdata, -⟩ := h.oneToOne.toTyped n hn
      rw [s.reports_cons hstate hdata, List.map_cons, htail,
        List.filter_cons_of_pos (by simpa using hstate), List.map_cons]
    · rw [s.reports_cons_of_ne hstate, htail, List.filter_cons_of_neg (by simpa using hstate)]

/-- The counter is zero when no record is selected. -/
theorem Inv.not_selected {config : EventBufferConfig} {s : EventLists α} (h : s.Inv config)
    (hzero : s.counters.selected = 0) : ∀ n ∈ s.events.used, n.2.state ≠ .selected := by
  have hcount := h.countersExact.selected
  rw [numSelected, hzero, UInt32.toNat_zero, eq_comm, count, List.countP_eq_zero] at hcount
  intro n hn
  simpa using hcount n hn

/-! ## One header -/

/-- A part of a write has passed over some nodes, and the selected ones of them are written. -/
structure Passes (s : EventLists α) (done passed rest : List (ℕ × EventRecord)) (ids : List ℕ)
    (p : Writing α ω) : Prop where
  iterator : p.iterator = rest.map Prod.fst
  ids : p.ids = ids ++ (s.reports passed).map Report.id
  used : p.lists.events.used = done ++ (passed.map markNode ++ rest)
  lists : p.lists.lists = s.lists

/-- No node is passed. -/
theorem Passes.refl {s : EventLists α} {done todo : List (ℕ × EventRecord)}
    (hused : s.events.used = done ++ todo) (w : ω) (ids : List ℕ) :
    s.Passes done [] todo ids
      { iterator := todo.map Prod.fst, lists := s, handler := w, ids } where
  iterator := rfl
  ids := (List.append_nil ids).symm
  used := hused
  lists := rfl

/-- More nodes are passed after the first ones. -/
theorem Passes.trans {s s' : EventLists α} {done : List (ℕ × EventRecord)}
    (passed : List (ℕ × EventRecord)) {passed' rest : List (ℕ × EventRecord)} {ids ids' : List ℕ}
    {p : Writing α ω} (hlists : s'.lists = s.lists)
    (hids : ids' = ids ++ (s.reports passed).map Report.id)
    (h : s'.Passes (done ++ passed.map markNode) passed' rest ids' p) :
    s.Passes done (passed ++ passed') rest ids p where
  iterator := h.iterator
  ids := by
    rw [h.ids, hids, reports_append, reports_congr hlists, List.map_append, List.append_assoc]
  used := by
    rw [h.used, List.map_append, List.append_assoc, List.append_assoc]
  lists := h.lists.trans hlists

/-- A node that is written is marked. -/
theorem markWritten_used {s : EventLists α} {done todo : List (ℕ × EventRecord)}
    {n : ℕ × EventRecord} (hused : s.events.used = done ++ n :: todo)
    (hstate : n.2.state = .selected) :
    (s.markWritten n.1 n.2).events.used = done ++ [n].map markNode ++ todo := by
  rw [markWritten, List.map_singleton, markNode, if_pos hstate, List.append_assoc,
    List.singleton_append]
  exact NodeList.modify_of_split hused _

/-- A header of this type and variation has taken the selected events of some nodes, and it stops
before the next one only when that one is of another kind or is refused. -/
def TakesHeader (handler : IEventWriteHandler α ω) (type : EventType)
    (variation : App.GroupVariation) (s : EventLists α) (done todo : List (ℕ × EventRecord)) (w : ω)
    (ids : List ℕ) (p : Writing α ω) : Prop :=
  ∃ passed rest, todo = passed ++ rest ∧ s.Passes done passed rest ids p ∧
    (∀ e ∈ s.reports passed, e.type = type ∧ e.variation = variation) ∧
    handler.writeAll w (s.reports passed) = some p.handler ∧
    ∀ e left, s.reports rest = e :: left → e.type = type → e.variation = variation →
      handler.write p.handler e.value e.index = none

/-- A header stops before the first node. -/
theorem TakesHeader.stop {handler : IEventWriteHandler α ω} {type : EventType}
    {variation : App.GroupVariation} {s : EventLists α} {done todo : List (ℕ × EventRecord)}
    (hused : s.events.used = done ++ todo) (w : ω) (ids : List ℕ)
    (hstop : ∀ e left, s.reports todo = e :: left → e.type = type → e.variation = variation →
      handler.write w e.value e.index = none) :
    TakesHeader handler type variation s done todo w ids
      { iterator := todo.map Prod.fst, lists := s, handler := w, ids } :=
  ⟨[], todo, rfl, .refl hused w ids, List.forall_mem_nil _, rfl, hstop⟩

/-- A header takes events of one type and variation as they come. -/
theorem writeSomeOf_takesHeader {config : EventBufferConfig} (handler : IEventWriteHandler α ω)
    (type : EventType) (variation : App.GroupVariation) {s : EventLists α} (h : s.Inv config)
    {done todo : List (ℕ × EventRecord)} (hused : s.events.used = done ++ todo) (w : ω)
    (ids : List ℕ) :
    TakesHeader handler type variation s done todo w ids
      (writeSomeOf handler type variation (todo.map Prod.fst) s w ids) := by
  induction todo generalizing s done w ids with
  | nil => exact .stop hused w ids fun e left he => by cases he
  | cons n todo ih =>
    have hmem : n ∈ s.events.used := by
      rw [hused]
      exact List.mem_append_right _ (List.mem_cons_self ..)
    have hget : s.events.get? n.1 = some n.2 := NodeList.get?_eq_some_iff.mpr hmem
    obtain ⟨data, hdata, -⟩ := h.oneToOne.toTyped n hmem
    rw [List.map_cons, writeSomeOf]
    by_cases hselected : s.counters.selected = 0
    · rw [if_pos hselected]
      have hnone := s.reports_eq_nil fun m hm =>
        h.not_selected hselected m (hused ▸ List.mem_append_right done hm)
      exact .stop hused w ids fun e left he => by rw [hnone] at he; cases he
    rw [if_neg hselected, hget]
    dsimp only
    by_cases hstate : n.2.state = .selected
    case neg =>
      -- The iterator passes over a record that is not selected.
      have hmark : markNode n = n := if_neg hstate
      rw [if_pos hstate]
      have hnext : s.events.used = (done ++ [n]) ++ todo := by
        rw [hused, List.append_assoc, List.singleton_append]
      obtain ⟨passed, rest, rfl, hpasses, hrest⟩ := ih h hnext w ids
      have hskip : s.reports (n :: passed) = s.reports passed := s.reports_cons_of_ne hstate passed
      have hids : ids = ids ++ (s.reports [n]).map Report.id := by
        rw [s.reports_cons_of_ne hstate]
        exact (List.append_nil ids).symm
      refine ⟨n :: passed, rest, rfl, Passes.trans [n] rfl hids ?_, by rwa [hskip]⟩
      rw [List.map_singleton, hmark]
      exact hpasses
    have hreport := s.reports_cons hstate hdata todo
    rw [if_neg (not_not.mpr hstate)]
    by_cases htype : n.2.type = type
    case neg =>
      rw [if_pos htype]
      exact .stop hused w ids fun e left he hsame => by
        rw [hreport] at he
        cases he
        exact absurd hsame htype
    subst htype
    rw [if_neg (not_not.mpr rfl), hdata]
    dsimp only
    by_cases hvariation : data.selectedVariation = variation
    case neg =>
      rw [if_pos hvariation]
      exact .stop hused w ids fun e left he _ hsame => by
        rw [hreport] at he
        cases he
        exact absurd hsame hvariation
    subst hvariation
    rw [if_neg (not_not.mpr rfl)]
    cases hwrite : handler.write w data.value n.2.index with
    | none =>
      exact .stop hused w ids fun e left he _ _ => by
        rw [hreport] at he
        cases he
        exact hwrite
    | some w' =>
      dsimp only
      obtain ⟨passed, rest, rfl, hpasses, hsame, hall, hstop⟩ :=
        ih (markWritten_spec h hget hstate).1 (markWritten_used hused hstate) w' (ids ++ [n.2.id])
      have hlists : (s.markWritten n.1 n.2).lists = s.lists := rfl
      rw [reports_congr hlists] at hsame hall hstop
      refine ⟨n :: passed, rest, rfl, ?_, ?_, ?_, hstop⟩
      · refine Passes.trans [n] hlists ?_ hpasses
        rw [s.reports_cons hstate hdata]
        rfl
      · rw [s.reports_cons hstate hdata]
        exact List.forall_mem_cons.mpr ⟨⟨rfl, rfl⟩, hsame⟩
      · rw [s.reports_cons hstate hdata, IEventWriteHandler.writeAll, hwrite]
        exact hall

/-! ## All headers -/

/-- `Find` skips what is not selected. -/
theorem find_spec {s : EventLists α} {todo : List (ℕ × EventRecord)}
    (hmem : ∀ n ∈ todo, n ∈ s.events.used) :
    ∃ skipped found, todo = skipped ++ found ∧ (∀ n ∈ skipped, n.2.state ≠ .selected) ∧
      (todo.map Prod.fst).dropWhile (fun node => !s.isSelected node) = found.map Prod.fst ∧
      ∀ n nodes, found = n :: nodes → n.2.state = .selected := by
  induction todo with
  | nil => exact ⟨[], [], rfl, List.forall_mem_nil _, rfl, fun n nodes h => by cases h⟩
  | cons n todo ih =>
    obtain ⟨hn, hrest⟩ := List.forall_mem_cons.mp hmem
    have hget : s.events.get? n.1 = some n.2 := NodeList.get?_eq_some_iff.mpr hn
    have hselected : s.isSelected n.1 = decide (n.2.state = .selected) := by
      rw [isSelected, hget]
    by_cases hstate : n.2.state = .selected
    · refine ⟨[], n :: todo, rfl, List.forall_mem_nil _, ?_, fun m nodes h => ?_⟩
      · rw [List.map_cons, List.dropWhile_cons_of_neg (by simp [hselected, hstate])]
      · cases h
        exact hstate
    · obtain ⟨skipped, found, rfl, hskipped, hfound, hfirst⟩ := ih hrest
      refine ⟨n :: skipped, found, rfl, List.forall_mem_cons.mpr ⟨hstate, hskipped⟩, ?_, hfirst⟩
      rw [List.map_cons, List.dropWhile_cons_of_pos (by simp [hselected, hstate]), hfound]

/-- What a round of a write does with the events that it takes and those that it leaves. -/
inductive Round (handler : IEventWriteHandler α ω) :
    List (Report α) → List (Report α) → ω → ω → Prop where
  | idle (w : ω) : Round handler [] [] w w
  | refused {w : ω} {e : Report α} {events : List (Report α)}
      (hwrite : handler.write (handler.start w e.variation e.value) e.value e.index = none) :
      Round handler [] (e :: events) w (handler.finish (handler.start w e.variation e.value))
  | header {w w' : ω} {e : Report α} {events left : List (Report α)}
      (hsame : ∀ x ∈ events, x.type = e.type ∧ x.variation = e.variation)
      (hwrite : handler.writeAll (handler.start w e.variation e.value) (e :: events) = some w') :
      Round handler (e :: events) left w (handler.finish w')

/-- A round that finds a selected record makes a header for it. -/
theorem writeSome_of_found (handler : IEventWriteHandler α ω) {p : Writing α ω}
    {n : ℕ × EventRecord} {nodes : List ℕ} {data : TypedEventRecord α}
    (hselected : p.lists.counters.selected ≠ 0)
    (hfound : p.iterator.dropWhile (fun node => !p.lists.isSelected node) = n.1 :: nodes)
    (hget : p.lists.events.get? n.1 = some n.2)
    (hdata : (p.lists.getList n.2.type).get? n.2.storageNode = some data) :
    writeSome handler p =
      let r := writeSomeOf handler n.2.type data.selectedVariation (n.1 :: nodes) p.lists
        (handler.start p.handler data.selectedVariation data.value) p.ids
      { r with handler := handler.finish r.handler } := by
  unfold writeSome
  rw [if_neg hselected, hfound]
  dsimp only
  rw [hget]
  dsimp only
  rw [hdata]

/-- A round writes one header, or there is nothing more to write. -/
theorem writeSome_round {config : EventBufferConfig} (handler : IEventWriteHandler α ω)
    {p : Writing α ω} (h : p.lists.Inv config) {done todo : List (ℕ × EventRecord)}
    (hused : p.lists.events.used = done ++ todo) (hiterator : p.iterator = todo.map Prod.fst) :
    ∃ passed rest, todo = passed ++ rest ∧
      p.lists.Passes done passed rest p.ids (writeSome handler p) ∧
      Round handler (p.lists.reports passed) (p.lists.reports rest) p.handler
        (writeSome handler p).handler := by
  have hmem : ∀ n ∈ todo, n ∈ p.lists.events.used := fun n hn =>
    hused ▸ List.mem_append_right done hn
  by_cases hselected : p.lists.counters.selected = 0
  · refine ⟨[], todo, rfl, ?_, ?_⟩
    · rw [writeSome, if_pos hselected]
      exact ⟨hiterator, (List.append_nil _).symm, hused, rfl⟩
    · rw [writeSome, if_pos hselected,
        reports_eq_nil _ fun n hn => h.not_selected hselected n (hmem n hn)]
      exact .idle p.handler
  obtain ⟨skipped, found, rfl, hskipped, hfound, hfirst⟩ := find_spec hmem
  rw [← hiterator] at hfound
  have hids : p.ids = p.ids ++ (p.lists.reports skipped).map Report.id := by
    rw [reports_eq_nil _ hskipped]
    exact (List.append_nil _).symm
  have hmark : skipped.map markNode = skipped := by
    conv_rhs => rw [← List.map_id skipped]
    exact List.map_congr_left fun n hn => if_neg (hskipped n hn)
  cases found with
  | nil =>
    have hnone : writeSome handler p = { p with iterator := [] } := by
      rw [writeSome, if_neg hselected, hfound]
      rfl
    rw [hnone]
    refine ⟨skipped, [], rfl, ⟨rfl, hids, ?_, rfl⟩, ?_⟩
    · rw [hmark]
      exact hused
    · rw [reports_eq_nil _ hskipped]
      exact .idle p.handler
  | cons n nodes =>
    have hstate := hfirst n nodes rfl
    have hn : n ∈ p.lists.events.used := hmem n (by simp)
    have hget : p.lists.events.get? n.1 = some n.2 := NodeList.get?_eq_some_iff.mpr hn
    obtain ⟨data, hdata, -⟩ := h.oneToOne.toTyped n hn
    have hreport := p.lists.reports_cons hstate hdata nodes
    have hafter : p.lists.events.used = (done ++ skipped.map markNode) ++ n :: nodes := by
      rw [hmark, hused, List.append_assoc]
    obtain ⟨passed, rest, hsplit, hpasses, hsame, hwrite, hstop⟩ :=
      writeSomeOf_takesHeader handler n.2.type data.selectedVariation h hafter
        (handler.start p.handler data.selectedVariation data.value) p.ids
    rw [List.map_cons] at hfound hpasses hwrite hstop
    rw [writeSome_of_found handler hselected hfound hget hdata]
    generalize writeSomeOf handler n.2.type data.selectedVariation
      (n.1 :: nodes.map Prod.fst) p.lists
      (handler.start p.handler data.selectedVariation data.value) p.ids = r at *
    have hfinish : p.lists.Passes (done ++ skipped.map markNode) passed rest p.ids
        { r with handler := handler.finish r.handler } :=
      ⟨hpasses.iterator, hpasses.ids, hpasses.used, hpasses.lists⟩
    refine ⟨skipped ++ passed, rest, by rw [hsplit, List.append_assoc],
      Passes.trans skipped rfl hids hfinish, ?_⟩
    rw [reports_append, reports_eq_nil _ hskipped, List.nil_append]
    rw [hsplit, reports_append] at hreport
    dsimp only
    cases htaken : p.lists.reports passed with
    | nil =>
      -- The first event fits the header, so that the writer has refused it.
      rw [htaken, List.nil_append] at hreport
      rw [htaken] at hwrite
      have hrefused := hstop _ _ hreport rfl rfl
      rw [← Option.some.inj hwrite] at hrefused ⊢
      rw [hreport]
      exact .refused hrefused
    | cons e events =>
      rw [htaken, List.cons_append] at hreport
      rw [htaken] at hwrite hsame
      obtain ⟨rfl, -⟩ := List.cons.inj hreport
      exact .header (List.forall_mem_cons.mp hsame).2 hwrite

/-- The rounds of a write hand the handler one header after the other. -/
theorem writeLoop_emits {config : EventBufferConfig} (handler : IEventWriteHandler α ω) {fuel : ℕ}
    {p : Writing α ω} (h : p.lists.Inv config) {done todo : List (ℕ × EventRecord)}
    (hused : p.lists.events.used = done ++ todo) (hiterator : p.iterator = todo.map Prod.fst)
    (hfuel : (p.lists.reports todo).length < fuel) :
    ∃ passed rest headers, todo = passed ++ rest ∧
      p.lists.Passes done passed rest p.ids (writeLoop handler fuel p) ∧
      headers.flatten = p.lists.reports passed ∧
      handler.Emits p.handler (p.lists.reports todo) headers (p.lists.reports rest)
        (writeLoop handler fuel p).handler := by
  induction fuel generalizing p done todo with
  | zero => omega
  | succ fuel ih =>
    obtain ⟨passed, rest, rfl, hpasses, hround⟩ := writeSome_round handler h hused hiterator
    have hinv := (writeSome_spec handler h).1
    have hlen : (writeSome handler p).ids.length =
        p.ids.length + (p.lists.reports passed).length := by
      rw [hpasses.ids, List.length_append, List.length_map]
    rw [reports_append] at hfuel ⊢
    rw [writeLoop]
    generalize writeSome handler p = p' at *
    obtain ⟨iterator', lists', handler', ids'⟩ := p'
    generalize htaken : p.lists.reports passed = taken at hround hlen hfuel ⊢
    generalize hleft : p.lists.reports rest = left at hround hfuel ⊢
    cases hround with
    | idle w =>
      rw [if_pos (hlen.trans (Nat.add_zero _))]
      refine ⟨passed, rest, [], rfl, hpasses, htaken.symm, ?_⟩
      rw [hleft]
      exact .done _
    | refused hwrite =>
      rw [if_pos (hlen.trans (Nat.add_zero _))]
      refine ⟨passed, rest, [], rfl, hpasses, htaken.symm, ?_⟩
      rw [hleft]
      exact .refused hwrite
    | @header w w' e events left hsame hwrite =>
      -- The iterator has moved, and the loop goes on with the rest.
      have hmoved : ids'.length ≠ p.ids.length := by
        rw [hlen, List.length_cons]
        omega
      have hused' : lists'.events.used = (done ++ passed.map markNode) ++ rest :=
        hpasses.used.trans (List.append_assoc ..).symm
      have hreports : ∀ nodes, lists'.reports nodes = p.lists.reports nodes :=
        reports_congr hpasses.lists
      have hrest : (lists'.reports rest).length < fuel := by
        rw [hreports, hleft]
        rw [List.length_append, List.length_cons] at hfuel
        omega
      rw [if_neg hmoved]
      obtain ⟨passed', rest', headers, rfl, hpasses', hheaders, hemits⟩ :=
        ih hinv hused' hpasses.iterator hrest
      dsimp only at hheaders hemits
      rw [hreports] at hheaders
      rw [hreports, hreports, hleft] at hemits
      refine ⟨passed ++ passed', rest', (e :: events) :: headers, (List.append_assoc ..).symm,
        .trans passed hpasses.lists hpasses.ids hpasses', ?_, .header hsame hwrite hemits⟩
      rw [reports_append, htaken, List.flatten_cons, hheaders]

/-! ## The written prefix -/

/-- The nodes that are marked are those of the records that are reported. -/
theorem map_markNode {config : EventBufferConfig} {s : EventLists α} (h : s.Inv config)
    {passed rest : List (ℕ × EventRecord)} (hused : s.events.used = passed ++ rest) :
    passed.map markNode ++ rest = s.events.used.map fun n =>
      if n.2.id ∈ (s.reports passed).map Report.id then
        (n.1, { n.2 with state := EventState.written })
      else n := by
  have hnodup := h.numbered.nodup
  rw [ids, hused, List.map_append, List.nodup_append] at hnodup
  obtain ⟨hpassed, -, hdisjoint⟩ := hnodup
  rw [map_id_reports h (hused ▸ List.subset_append_left passed rest), hused, List.map_append]
  congr 1
  · refine List.map_congr_left fun n hn => ?_
    rw [markNode]
    congr 1
    rw [eq_iff_iff]
    constructor
    · intro hstate
      exact List.mem_map_of_mem (List.mem_filter.mpr ⟨hn, by simpa using hstate⟩)
    · intro hid
      obtain ⟨m, hm, hmid⟩ := List.mem_map.mp hid
      obtain ⟨hmem, hstate⟩ := List.mem_filter.mp hm
      rw [List.inj_on_of_nodup_map hpassed hmem hn hmid] at hstate
      simpa using hstate
  · conv_lhs => rw [← List.map_id rest]
    refine List.map_congr_left fun n hn => (if_neg fun hid => ?_).symm
    obtain ⟨m, hm, hmid⟩ := List.mem_map.mp hid
    exact hdisjoint _ (List.mem_map_of_mem (List.mem_of_mem_filter hm)) _
      (List.mem_map_of_mem hn) hmid

/-- There are no more reports of a type than records of the type. -/
theorem countP_reports_le (s : EventLists α) (type : EventType) (nodes : List (ℕ × EventRecord)) :
    (s.reports nodes).countP (fun e => e.type = type) ≤
      nodes.countP fun n => n.2.type = type := by
  induction nodes with
  | nil => exact le_rfl
  | cons n nodes ih =>
    rw [List.countP_cons]
    by_cases hstate : n.2.state = .selected
    · cases hdata : (s.getList n.2.type).get? n.2.storageNode with
      | none =>
        have hnone : s.reports (n :: nodes) = s.reports nodes := by
          rw [reports, List.filter_cons_of_pos (by simpa using hstate),
            List.filterMap_cons, reportOf,
            hdata]
          rfl
        rw [hnone]
        omega
      | some data =>
        rw [s.reports_cons hstate hdata, List.countP_cons]
        exact Nat.add_le_add_right ih _
    · rw [s.reports_cons_of_ne hstate]
      omega

/-- A header has fewer events than a `uint16_t` can count. -/
theorem length_header_lt {config : EventBufferConfig} {s : EventLists α} (h : s.Inv config)
    {headers : List (List (Report α))} {left header : List (Report α)}
    (heq : s.selectedReports = headers.flatten ++ left) (hmem : header ∈ headers)
    (hsame : ∀ a ∈ header, ∀ b ∈ header, a.type = b.type) : header.length < 2 ^ 16 := by
  cases header with
  | nil => exact Nat.two_pow_pos 16
  | cons e events =>
    have hcount : (e :: events).length = (e :: events).countP fun x => x.type = e.type := by
      rw [eq_comm, List.countP_eq_length]
      exact fun x hx => by simpa using hsame x hx e (List.mem_cons_self ..)
    have hsublist : (e :: events).Sublist s.selectedReports := by
      rw [heq]
      exact (List.sublist_flatten_of_mem hmem).trans (List.sublist_append_left _ _)
    have hcapacity : (s.getList e.type).size ≤ config.capacity e.type := by
      have hsize := (s.getList e.type).size_add_free
      rw [h.sized.lists] at hsize
      omega
    have hlt : config.capacity e.type < 2 ^ 16 := by
      cases e.type <;> exact UInt16.toNat_lt _
    calc (e :: events).length
        ≤ s.selectedReports.countP fun x => x.type = e.type := hcount ▸ hsublist.countP_le
      _ ≤ (s.getList e.type).size := by
        rw [h.linked.size_eq]
        exact countP_reports_le s e.type s.events.used
      _ < 2 ^ 16 := by omega

/-- A write hands the handler the first of the events that are selected, in headers that a
`uint16_t` can count, and changes the states of their records only. -/
theorem write_emits {config : EventBufferConfig} {s : EventLists α} (h : s.Inv config)
    (handler : IEventWriteHandler α ω) (w : ω) :
    ∃ passed rest headers, s.events.used = passed ++ rest ∧
      handler.Emits w s.selectedReports headers (s.reports rest) (s.write handler w).handler ∧
      headers.flatten = s.reports passed ∧
      (s.write handler w).ids = headers.flatten.map Report.id ∧
      (s.write handler w).lists.events.used = passed.map markNode ++ rest ∧
      (s.write handler w).lists.lists = s.lists ∧
      ∀ header ∈ headers, header.length < 2 ^ 16 ∧
        ∀ a ∈ header, ∀ b ∈ header, a.type = b.type ∧ a.variation = b.variation := by
  have hlen : s.selectedReports.length ≤ s.events.size := by
    have hmap := congrArg List.length (map_id_reports h (List.Subset.refl s.events.used))
    rw [List.length_map, List.length_map] at hmap
    exact hmap ▸ List.length_filter_le ..
  obtain ⟨passed, rest, headers, hused, hpasses, hheaders, hemits⟩ :=
    writeLoop_emits handler (p := { iterator := s.events.addresses, lists := s, handler := w }) h
      (List.nil_append _).symm rfl (Nat.lt_succ_of_le hlen)
  refine ⟨passed, rest, headers, hused, hemits, hheaders, ?_, hpasses.used, hpasses.lists,
    fun header hmem => ?_⟩
  · rw [hheaders]
    exact hpasses.ids
  · have hsame := (hemits.same header hmem).2
    exact ⟨length_header_lt h hemits.eq_append hmem fun a ha b hb => (hsame a ha b hb).1, hsame⟩

/-- After any operations on a storage of any configuration, a write hands the handler the first
events of those that are selected, in the order in which they came, each once, in headers of one
type and one variation. These and no others become written, and the first one that is left has been
refused. -/
theorem write_emits_prefix (config : EventBufferConfig) {υ : Type*} (ops : List (Operation α υ))
    (handler : IEventWriteHandler α ω) (w : ω) :
    let s := Machine.run step (ofConfig config : EventLists α) ops
    let p := s.write handler w
    ∃ headers left, handler.Emits w s.selectedReports headers left p.handler ∧
      (∀ header ∈ headers, header.length < 2 ^ 16 ∧
        ∀ a ∈ header, ∀ b ∈ header, a.type = b.type ∧ a.variation = b.variation) ∧
      s.selectedReports.map Report.id =
        (s.events.values.filter fun r => r.state = .selected).map EventRecord.id ∧
      (s.selectedReports.map Report.id).Nodup ∧
      p.ids.length < 2 ^ 32 ∧
      headers.flatten = s.selectedReports.take p.ids.length ∧
      p.ids = headers.flatten.map Report.id ∧
      p.lists.events.used = s.events.used.map (fun n =>
        if n.2.id ∈ p.ids then (n.1, { n.2 with state := EventState.written }) else n) ∧
      p.lists.lists = s.lists ∧
      (p.ids.length < s.selectedReports.length → ∃ w' e rest, left = e :: rest ∧
        handler.write (handler.start w' e.variation e.value) e.value e.index = none) := by
  intro s p
  have h : s.Inv config := run_inv config ops
  have hids := map_id_reports h (List.Subset.refl s.events.used)
  have hselected : s.selectedReports.map Report.id =
      (s.events.values.filter fun r => r.state = .selected).map EventRecord.id := by
    rw [NodeList.values, List.filter_map, List.map_map]
    exact hids
  have hnodup : (s.selectedReports.map Report.id).Nodup := by
    rw [show s.selectedReports.map Report.id = _ from hids]
    exact h.numbered.nodup.sublist (List.filter_sublist.map _)
  -- The count of the events fits the 32 bits of the loop.
  have hlen : s.selectedReports.length ≤ s.events.size := by
    have hmap := congrArg List.length hids
    rw [List.length_map, List.length_map] at hmap
    exact hmap ▸ List.length_filter_le ..
  obtain ⟨passed, rest, headers, hused, hemits, hheaders, hpids, hmarked, hlists, hsame⟩ :=
    write_emits h handler w
  have heq := hemits.eq_append
  refine ⟨headers, s.reports rest, hemits, hsame, hselected, hnodup, ?_, ?_, hpids, ?_, hlists,
    fun hlt => ?_⟩
  · have hle := congrArg List.length heq
    rw [List.length_append] at hle
    rw [hpids, List.length_map]
    have hsize := h.size_lt
    omega
  · rw [hpids, List.length_map, heq, List.take_left]
  · rw [hmarked, map_markNode h hused, hpids, hheaders]
  · -- Events are left only where the handler has refused one.
    refine hemits.refused_of_left fun hnil => ?_
    have hall := congrArg List.length heq
    rw [hnil, List.append_nil] at hall
    rw [hpids, List.length_map] at hlt
    exact absurd hall (Nat.ne_of_gt hlt)

end OpenDnp3.Outstation.EventLists
