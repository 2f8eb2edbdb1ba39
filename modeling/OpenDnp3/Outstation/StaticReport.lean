import OpenDnp3.Outstation.StaticSelection

/-!
# The report of a read request

A read request clears the old selection, selects points and is answered by a series of loads, with
updates of the database at any time. Beside the database runs a record of the value that every
point had when it was selected; what the loads report is this record.
-/

namespace OpenDnp3.Outstation.DatabaseBuffers

open App

variable {α : Type*}

variable [MeasurementSpec α]

/-! ## Loads -/

/-- A load reports, with these headers, the first of the points that are pending. -/
structure Reports (type : StaticType) (db db' : DatabaseBuffers α)
    (headers : List (ObjectHeader α)) : Prop where
  pending : pending (db.cells type) = pointsOf type headers ++ pending (db'.cells type)
  window : Window (db'.cells type) (db'.ranges type)
  vIndices : vIndices (db'.cells type) = vIndices (db.cells type)
  fixedSize : FixedSize type (db'.cells type)
  count : (db'.ranges type).count ≤ (db.ranges type).count

omit [MeasurementSpec α] in
/-- Two parts of a load report their points one after the other. -/
theorem Reports.trans {type : StaticType} {db₁ db₂ db₃ : DatabaseBuffers α}
    {headers headers' : List (ObjectHeader α)} (h : Reports type db₁ db₂ headers)
    (h' : Reports type db₂ db₃ headers') : Reports type db₁ db₃ (headers ++ headers') where
  pending := by rw [h.pending, h'.pending, pointsOf_append, List.append_assoc]
  window := h'.window
  vIndices := h'.vIndices.trans h.vIndices
  fixedSize := h'.fixedSize
  count := h'.count.trans h.count

/-- The load of a type reports the points of that type only. -/
theorem loadType_reports {db : DatabaseBuffers α} {type : StaticType}
    (hwindow : Window (db.cells type) (db.ranges type)) (hincreasing : Increasing (db.cells type))
    (hfixed : FixedSize type (db.cells type)) (type' : StaticType) (writer : HeaderWriter α) :
    ∃ headers, (db.loadType type' writer).2.2.headers = writer.headers ++ headers ∧
      Reports type db (db.loadType type' writer).2.1 headers ∧
      ((db.loadType type' writer).1 = true → type' = type →
        ¬((db.loadType type' writer).2.1.ranges type).isValid) := by
  obtain ⟨headers, hheaders, htypes⟩ := Loading.loop_appends type' (db.ranges type').count
    { cells := db.cells type', range := db.ranges type', writer }
  refine ⟨headers, hheaders, ?_⟩
  unfold loadType
  dsimp only
  -- The load of another type changes nothing of this one, and reports no point of it.
  by_cases htype : type = type'
  · subst htype
    obtain ⟨headers', hheaders', hlists, hdone⟩ := Loading.loop_spec type (db.ranges type).count
      (p := { cells := db.cells type, range := db.ranges type, writer }) le_rfl hwindow hincreasing
      hfixed
    rw [List.append_cancel_left (hheaders'.symm.trans hheaders)] at hlists
    rw [← pointsOf_eq htypes] at hlists
    rw [set_ranges_self]
    refine ⟨⟨?_, ?_, ?_, ?_, ?_⟩, fun hret _ => hdone hret⟩
    · rw [set_cells_self]
      exact hlists.pending
    · rw [set_cells_self, set_ranges_self]
      exact hlists.window
    · rw [set_cells_self]
      exact hlists.vIndices
    · rw [set_cells_self]
      exact hfixed.of_lists hlists
    · rw [set_ranges_self]
      exact hlists.count
  · refine ⟨⟨?_, ?_, ?_, ?_, ?_⟩, fun _ h => absurd h.symm htype⟩
    · rw [set_cells_of_ne _ htype, pointsOf_eq_nil htype htypes, List.nil_append]
    · rw [set_cells_of_ne _ htype, set_ranges_of_ne _ htype]
      exact hwindow
    · rw [set_cells_of_ne _ htype]
    · rw [set_cells_of_ne _ htype]
      exact hfixed
    · rw [set_ranges_of_ne _ htype]

/-- The load of some types reports the points of each of them. -/
theorem loadTypes_reports {type : StaticType} (types : List StaticType) {db : DatabaseBuffers α}
    (hwindow : Window (db.cells type) (db.ranges type)) (hincreasing : Increasing (db.cells type))
    (hfixed : FixedSize type (db.cells type)) (writer : HeaderWriter α) :
    ∃ headers, (loadTypes types db writer).2.2.headers = writer.headers ++ headers ∧
      Reports type db (loadTypes types db writer).2.1 headers ∧
      ((loadTypes types db writer).1 = true → type ∈ types →
        ¬((loadTypes types db writer).2.1.ranges type).isValid) := by
  induction types generalizing db writer with
  | nil =>
    exact ⟨[], (List.append_nil _).symm, ⟨rfl, hwindow, rfl, hfixed, le_rfl⟩,
      fun _ hmem => absurd hmem List.not_mem_nil⟩
  | cons type' types ih =>
    obtain ⟨headers, hheaders, hreports, hdone⟩ :=
      loadType_reports hwindow hincreasing hfixed type' writer
    unfold loadTypes
    generalize db.loadType type' writer = result at hheaders hreports hdone ⊢
    obtain ⟨ret, db', writer'⟩ := result
    dsimp only at hheaders hreports hdone ⊢
    cases ret with
    | false => exact ⟨headers, hheaders, hreports, fun hret => by cases hret⟩
    | true =>
      obtain ⟨headers', hheaders', hreports', hdone'⟩ := ih hreports.window
        (hincreasing.of_vIndices hreports.vIndices) hreports.fixedSize writer'
      refine ⟨headers ++ headers', ?_, hreports.trans hreports', fun hret hmem => ?_⟩
      · rw [if_pos rfl, hheaders', hheaders, List.append_assoc]
      · obtain rfl | hmem := List.mem_cons.mp hmem
        · -- The range of a type that is done stays empty.
          have hcount : (db'.ranges type).count = 0 := if_neg (hdone rfl rfl)
          have hle := hreports'.count
          exact count_eq_zero (by rw [if_pos rfl]; omega)
        · exact hdone' hret hmem

/-- A load reports the points of every type. -/
theorem load_reports {type : StaticType} {db : DatabaseBuffers α}
    (hwindow : Window (db.cells type) (db.ranges type)) (hincreasing : Increasing (db.cells type))
    (hfixed : FixedSize type (db.cells type)) (size : ℕ) :
    Reports type db (db.load { remaining := size }).2.1
        (db.load { remaining := size }).2.2.headers ∧
      ((db.load { remaining := size }).1 = true →
        Cleared type (db.load { remaining := size }).2.1) := by
  obtain ⟨headers, hheaders, hreports, hdone⟩ :=
    loadTypes_reports StaticType.all hwindow hincreasing hfixed { remaining := size }
  unfold load
  rw [hheaders, List.nil_append]
  exact ⟨hreports, fun hret =>
    hreports.window.cleared (hdone hret (by cases type <;> decide))⟩

/-! A load of any type but the octet strings keeps the window, also where it writes a bitfield. -/

omit [MeasurementSpec α] in
/-- The writer has nothing to do with what is listed. -/
theorem Lists.with_writer {p p' : Loading α} {points : List (ℕ × α)} (h : Lists p p' points)
    (w w' : HeaderWriter α) : Lists { p with writer := w } { p' with writer := w' } points :=
  ⟨h.pending, h.window, h.vIndices, h.selected, h.count⟩

omit [MeasurementSpec α] in
/-- A header lists points. -/
theorem Loading.loadWithRangeIterator_lists (variation : GroupVariation) (fuel : ℕ)
    (nextIndex : UInt16) (iterator : RangeWriteIterator α) {p : Loading α}
    (h : Window p.cells p.range) :
    ∃ points, Lists p (loadWithRangeIterator variation fuel nextIndex iterator p).2.2 points := by
  induction fuel generalizing nextIndex iterator p with
  | zero => exact ⟨[], .refl h⟩
  | succ fuel ih =>
    unfold loadWithRangeIterator
    split
    · exact ⟨[], .refl h⟩
    case h_2 cell hcontinues =>
      split
      · exact ⟨[], .refl h⟩
      case h_2 writer iterator' hwrite =>
        obtain ⟨hvalid, hcell, hselected, -⟩ := continues_eq_some hcontinues
        obtain ⟨hlists, -⟩ := next_lists h hvalid hcell hselected writer
        obtain ⟨points, hlists'⟩ := ih (nextIndex + 1) iterator' hlists.window
        exact ⟨_, hlists.trans hlists'⟩

/-- A bitfield lists points. -/
theorem Loading.loadWithBitfieldIterator_lists (variation : GroupVariation) (fuel : ℕ)
    (nextIndex : UInt16) (iterator : BitfieldRangeWriteIterator) {p : Loading α}
    (h : Window p.cells p.range) :
    ∃ points,
      Lists p (loadWithBitfieldIterator variation fuel nextIndex iterator p).2.2 points := by
  induction fuel generalizing nextIndex iterator p with
  | zero => exact ⟨[], .refl h⟩
  | succ fuel ih =>
    unfold loadWithBitfieldIterator
    split
    · exact ⟨[], .refl h⟩
    case h_2 cell hcontinues =>
      split
      · exact ⟨[], .refl h⟩
      case h_2 iterator' hwrite =>
        obtain ⟨hvalid, hcell, hselected, -⟩ := continues_eq_some hcontinues
        obtain ⟨hlists, -⟩ := next_lists h hvalid hcell hselected p.writer
        obtain ⟨points, hlists'⟩ := ih (nextIndex + 1) iterator' hlists.window
        exact ⟨_, hlists.trans hlists'⟩

/-- Every writer but that of the octet strings lists points. -/
theorem Loading.writeFun_lists {writer : StaticWriter} (hwriter : writer ≠ .write) (start : Cell α)
    {p : Loading α} (h : Window p.cells p.range) :
    ∃ points, Lists p (p.writeFun writer start).2 points := by
  cases writer with
  | writeSingleBitfield =>
    unfold writeFun writeSingleBitfield
    dsimp only
    split
    · exact ⟨[], .refl h⟩
    case h_2 w iterator hiter =>
      obtain ⟨points, hlists⟩ := loadWithBitfieldIterator_lists start.selection.variation
        p.range.count start.config.vIndex iterator (p := { p with writer := w }) h
      exact ⟨points, hlists.with_writer p.writer _⟩
  | writeWithSerializer gv =>
    unfold writeFun writeWithSerializer
    dsimp only
    split
    · exact ⟨[], .refl h⟩
    case h_2 w iterator hiter =>
      obtain ⟨points, hlists⟩ := loadWithRangeIterator_lists start.selection.variation
        p.range.count start.config.vIndex iterator (p := { p with writer := w }) h
      exact ⟨points, hlists.with_writer p.writer _⟩
  | write => exact absurd rfl hwriter

/-- A load of a type lists points. -/
theorem Loading.loop_lists {type : StaticType} (htype : type ≠ .OctetString) (fuel : ℕ)
    {p : Loading α} (h : Window p.cells p.range) :
    ∃ points, Lists p (loop type fuel p).2 points := by
  induction fuel generalizing p with
  | zero => exact ⟨[], .refl h⟩
  | succ fuel ih =>
    unfold loop
    split
    case isFalse => exact ⟨[], .refl h⟩
    case isTrue hvalid =>
      split
      · exact ⟨[], .refl h⟩
      case h_2 cell hcell =>
        split
        case isTrue hselected =>
          -- Only octet strings have a writer of their own.
          have hwriter : StaticWriter.get type cell.selection.variation ≠ .write := by
            unfold StaticWriter.get
            split <;> simp_all
          obtain ⟨points, hlists⟩ := p.writeFun_lists hwriter cell h
          dsimp only
          split
          · obtain ⟨points', hlists'⟩ := ih hlists.window
            exact ⟨_, hlists.trans hlists'⟩
          · exact ⟨points, hlists⟩
        case isFalse hselected =>
          rw [Bool.not_eq_true] at hselected
          have hlists := Lists.advance h hvalid hcell hselected
          obtain ⟨points', hlists'⟩ := ih hlists.window
          exact ⟨_, hlists.trans hlists'⟩

/-- A load keeps the window and the indices. -/
theorem loadTypes_window {type : StaticType} (htype : type ≠ .OctetString) (types : List StaticType)
    {db : DatabaseBuffers α} (h : Window (db.cells type) (db.ranges type))
    (writer : HeaderWriter α) :
    Window ((loadTypes types db writer).2.1.cells type)
        ((loadTypes types db writer).2.1.ranges type) ∧
      vIndices ((loadTypes types db writer).2.1.cells type) = vIndices (db.cells type) := by
  induction types generalizing db writer with
  | nil => exact ⟨h, rfl⟩
  | cons type' types ih =>
    -- One type at a time, and only the load of `type` itself touches its cells.
    have hstep : Window ((db.loadType type' writer).2.1.cells type)
          ((db.loadType type' writer).2.1.ranges type) ∧
        vIndices ((db.loadType type' writer).2.1.cells type) = vIndices (db.cells type) := by
      unfold loadType
      dsimp only
      by_cases heq : type = type'
      · subst heq
        obtain ⟨points, hlists⟩ := Loading.loop_lists htype (db.ranges type).count
          (p := { cells := db.cells type, range := db.ranges type, writer }) h
        rw [set_cells_self, set_ranges_self]
        exact ⟨hlists.window, hlists.vIndices⟩
      · rw [set_cells_of_ne _ heq, set_ranges_of_ne _ heq]
        exact ⟨h, rfl⟩
    unfold loadTypes
    dsimp only
    split
    · obtain ⟨hwindow, hv⟩ := ih hstep.1 (db.loadType type' writer).2.2
      exact ⟨hwindow, hv.trans hstep.2⟩
    · exact hstep

/-! ## Runs -/

/-- What happens while a request selects. -/
inductive Selecting (α : Type*) where
  | all (gv : GroupVariation)
  | range (gv : GroupVariation) (r : Range)
  | change (change : Change α)
  deriving DecidableEq, Repr

/-- What happens while the selection is reported: loads into fragments of given sizes. -/
inductive Reporting (α : Type*) where
  | load (size : ℕ)
  | change (change : Change α)
  deriving DecidableEq, Repr

/-- What has happened before. -/
inductive Operation (α : Type*) where
  | select (selecting : Selecting α)
  | unselect
  | load (size : ℕ)
  deriving DecidableEq, Repr

/-- The database after a selection or an update. -/
def Selecting.apply (db : DatabaseBuffers α) : Selecting α → DatabaseBuffers α
  | .all gv => (db.selectAll gv).2
  | .range gv r => (db.selectRange gv r).2
  | .change c => (c.run db).1

/-- The database after an operation. -/
def Operation.apply (db : DatabaseBuffers α) : Operation α → DatabaseBuffers α
  | .select selecting => selecting.apply db
  | .unselect => db.unselect
  | .load size => (db.load { remaining := size }).2.1

/-- A database with the record of the values at selection. -/
structure Tracked (α : Type*) where
  db : DatabaseBuffers α
  snapshots : StaticType → ℕ → Option α := fun _ _ => none

/-- A step of the selection, with the record. -/
def Tracked.step (s : Tracked α) (selecting : Selecting α) : Tracked α where
  db := selecting.apply s.db
  snapshots type := record (s.db.cells type) ((selecting.apply s.db).cells type) (s.snapshots type)

/-- A report in progress: the headers of all fragments so far, and the result of the last load. -/
structure Report (α : Type*) where
  db : DatabaseBuffers α
  headers : List (ObjectHeader α) := []
  complete : Bool := false

/-- A step of the report. -/
def Report.step (s : Report α) : Reporting α → Report α
  | .load size =>
    let (complete, db, writer) := s.db.load { remaining := size }
    { db, headers := s.headers ++ writer.headers, complete }
  | .change change => { s with db := (change.run s.db).1 }

/-- A change leaves what is selected. -/
theorem Change.run_untouched (type : StaticType) (db : DatabaseBuffers α) (change : Change α) :
    Untouched type db (change.run db).1 := by
  cases change with
  | update type' value index mode => exact db.update_untouched type type' value index mode
  | modify type' start stop flags => exact db.modify_untouched type type' start stop flags

/-- A selection keeps what was selected, and the window. -/
theorem Selecting.apply_keeps {type : StaticType} {db : DatabaseBuffers α}
    (h : Window (db.cells type) (db.ranges type)) (selecting : Selecting α) :
    Keeps (db.cells type) ((selecting.apply db).cells type) ∧
      Window ((selecting.apply db).cells type) ((selecting.apply db).ranges type) := by
  cases selecting with
  | all gv =>
    have hselects := db.selectAll_selects type gv
    exact ⟨hselects.keeps, hselects.window h⟩
  | range gv r =>
    have hselects := db.selectRange_selects type gv r
    exact ⟨hselects.keeps, hselects.window h⟩
  | change change =>
    have huntouched := change.run_untouched type db
    refine ⟨huntouched.keeps, ?_⟩
    have hwindow := h.congr huntouched.cells
    rw [← huntouched.ranges] at hwindow
    exact hwindow

/-- Every operation keeps the window and the indices. -/
theorem Operation.apply_window {type : StaticType} (htype : type ≠ .OctetString)
    {db : DatabaseBuffers α} (h : Window (db.cells type) (db.ranges type))
    (operation : Operation α) :
    Window ((operation.apply db).cells type) ((operation.apply db).ranges type) ∧
      vIndices ((operation.apply db).cells type) = vIndices (db.cells type) := by
  cases operation with
  | select selecting =>
    obtain ⟨hkeeps, hwindow⟩ := selecting.apply_keeps h
    exact ⟨hwindow, hkeeps.vIndices⟩
  | unselect =>
    obtain ⟨hcleared, hv⟩ := unselect_cleared htype h
    rw [show Operation.apply db .unselect = db.unselect from rfl]
    exact ⟨hcleared.window, hv⟩
  | load size => exact loadTypes_window htype StaticType.all h _

/-- The invariant of the selection: the record holds the values of the selected cells. -/
structure Tracked.Inv (type : StaticType) (vIndices : List ℕ) (s : Tracked α) : Prop where
  window : Window (s.db.cells type) (s.db.ranges type)
  vIndices : DatabaseBuffers.vIndices (s.db.cells type) = vIndices
  snapshots : held (s.db.cells type) = s.snapshots type

/-- A selection keeps the invariant of the record. -/
theorem Tracked.step_inv {type : StaticType} {vIndices : List ℕ} (s : Tracked α)
    (selecting : Selecting α) (h : s.Inv type vIndices) : (s.step selecting).Inv type vIndices := by
  obtain ⟨hkeeps, hwindow⟩ := selecting.apply_keeps h.window
  refine ⟨hwindow, hkeeps.vIndices.trans h.vIndices, ?_⟩
  change _ = record _ _ (s.snapshots type)
  rw [← h.snapshots]
  exact held_eq_record hkeeps

/-- The invariant of the report: what has been listed and what is pending are the points of the
selection, and after a load that has reported completion nothing is selected. -/
structure Report.Inv (type : StaticType) (points : List (ℕ × α)) (s : Report α) : Prop where
  pending : pointsOf type s.headers ++ pending (s.db.cells type) = points
  window : Window (s.db.cells type) (s.db.ranges type)
  increasing : Increasing (s.db.cells type)
  fixedSize : FixedSize type (s.db.cells type)
  complete : s.complete → Cleared type s.db

omit [MeasurementSpec α] in
/-- What is pending depends on what the cells report. -/
theorem pending_congr {cells cells' : List (Cell α)} (h : cells'.map report = cells.map report) :
    pending cells' = pending cells := by
  have hmap : ∀ cells : List (Cell α), pending cells =
      (cells.map report).filterMap fun r =>
        if r.2.selected then some (r.1.toNat, r.2.value) else none := by
    intro cells
    rw [pending_eq_filterMap, List.filterMap_map]
    rfl
  rw [hmap, hmap, h]

omit [MeasurementSpec α] in
/-- A cell that reports the same has the same selection. -/
theorem exists_mem_of_report {cells cells' : List (Cell α)}
    (h : cells'.map report = cells.map report) {cell : Cell α} (hcell : cell ∈ cells') :
    ∃ cell' ∈ cells, cell'.selection = cell.selection := by
  have hmem : report cell ∈ cells.map report := h ▸ List.mem_map_of_mem hcell
  obtain ⟨cell', hcell', hreport⟩ := List.mem_map.mp hmem
  exact ⟨cell', hcell', congrArg Prod.snd hreport⟩

/-- A step keeps the invariant of the report. -/
theorem Report.step_inv {type : StaticType} {points : List (ℕ × α)} (s : Report α)
    (reporting : Reporting α) (h : s.Inv type points) : (s.step reporting).Inv type points := by
  cases reporting with
  | load size =>
    obtain ⟨hreports, hdone⟩ := load_reports h.window h.increasing h.fixedSize size
    refine ⟨?_, hreports.window, h.increasing.of_vIndices hreports.vIndices, hreports.fixedSize,
      hdone⟩
    rw [← h.pending, hreports.pending, ← List.append_assoc, ← pointsOf_append]
    rfl
  | change change =>
    -- A change of the values leaves the selection as it is.
    have huntouched := change.run_untouched type s.db
    have hselection := fun cell => @exists_mem_of_report _ _ _ huntouched.cells cell
    have hwindow := h.window.congr huntouched.cells
    rw [← huntouched.ranges] at hwindow
    refine ⟨?_, hwindow, h.increasing.of_vIndices huntouched.keeps.vIndices, ?_,
      fun hcomplete => ?_⟩
    · rw [← h.pending, ← pending_congr huntouched.cells]
      rfl
    · intro cell hcell hselected
      obtain ⟨cell', hcell', heq⟩ := hselection cell hcell
      rw [← heq] at hselected ⊢
      exact h.fixedSize cell' hcell' hselected
    · have hcleared := h.complete hcomplete
      refine ⟨fun cell hcell => ?_, huntouched.ranges.trans hcleared.range⟩
      obtain ⟨cell', hcell', heq⟩ := hselection cell hcell
      rw [← heq]
      exact hcleared.cells cell' hcell'

omit [MeasurementSpec α] in
/-- Every type but the octet strings is written through serializers of fixed size, but for the
bitfield of the binaries. -/
theorem FixedSize.of_ne {type : StaticType} (htype : type ≠ .OctetString) {cells : List (Cell α)}
    (h : ∀ cell ∈ cells, cell.selection.selected → type = .Binary →
      cell.selection.variation ≠ .Group1Var1) : FixedSize type cells := by
  intro cell hcell hselected
  have hvariation := h cell hcell hselected
  unfold StaticWriter.get
  split <;> first | exact ⟨_, rfl⟩ | simp_all

omit [MeasurementSpec α] in
/-- The pending points have increasing indices. -/
theorem Increasing.pending {cells : List (Cell α)} (h : Increasing cells) :
    ((pending cells).map Prod.fst).Pairwise (· < ·) := by
  rw [DatabaseBuffers.pending, List.map_map]
  exact h.sublist (List.filter_sublist.map _)

omit [MeasurementSpec α] in
/-- A point is held where its cell is selected. -/
theorem isSome_held (cells : List (Cell α)) (i : ℕ) :
    (held cells i).isSome = isSelected cells i := by
  unfold held isSelected
  cases hcell : cells[i]? with
  | none => rfl
  | some cell =>
    rw [Option.bind_some, Option.any_some]
    cases cell.selection.selected <;> rfl

omit [MeasurementSpec α] in
/-- A type without a selection holds nothing. -/
theorem Cleared.held {type : StaticType} {db : DatabaseBuffers α} (h : Cleared type db) :
    held (db.cells type) = fun _ => none := by
  funext i
  unfold DatabaseBuffers.held
  cases hcell : (db.cells type)[i]? with
  | none => rfl
  | some cell => rw [Option.bind_some, h.cells cell (List.mem_of_getElem? hcell)]; rfl

omit [MeasurementSpec α] in
/-- A type without a selection has nothing pending. -/
theorem Cleared.pending {type : StaticType} {db : DatabaseBuffers α} (h : Cleared type db) :
    pending (db.cells type) = [] := by
  have hnil : (db.cells type).filter (fun cell => cell.selection.selected) = [] :=
    List.filter_eq_nil_iff.mpr fun cell hcell => by rw [h.cells cell hcell]; decide
  rw [DatabaseBuffers.pending, hnil, List.map_nil]

/-- Any operations keep the window and the virtual indices of a type. -/
theorem run_window {type : StaticType} (htype : type ≠ .OctetString) {db : DatabaseBuffers α}
    (h : Window (db.cells type) (db.ranges type)) (history : List (Operation α)) :
    Window ((Machine.run Operation.apply db history).cells type)
        ((Machine.run Operation.apply db history).ranges type) ∧
      vIndices ((Machine.run Operation.apply db history).cells type) =
        vIndices (db.cells type) := by
  induction history generalizing db with
  | nil => exact ⟨h, rfl⟩
  | cons operation history ih =>
    obtain ⟨hwindow, hv⟩ := operation.apply_window htype h
    obtain ⟨hwindow', hv'⟩ := ih hwindow
    exact ⟨hwindow', hv'.trans hv⟩

/-- The invariant of the record holds after any selections. -/
theorem Tracked.run_inv {type : StaticType} {db : DatabaseBuffers α} (h : Cleared type db)
    (selections : List (Selecting α)) :
    (Machine.run Tracked.step { db } selections).Inv type (vIndices (db.cells type)) := by
  have hinit : Tracked.Inv type (vIndices (db.cells type)) { db } := ⟨h.window, rfl, h.held⟩
  exact Machine.run_of_step Tracked.step (fun s e hs => s.step_inv e hs) hinit selections

/-- The invariant of the report holds after any fragments. -/
theorem Report.run_inv {type : StaticType} {db : DatabaseBuffers α}
    (hwindow : Window (db.cells type) (db.ranges type)) (hincreasing : Increasing (db.cells type))
    (hfixed : FixedSize type (db.cells type)) (reports : List (Reporting α)) :
    (Machine.run Report.step { db } reports).Inv type (pending (db.cells type)) := by
  have hinit : Report.Inv type (pending (db.cells type)) { db } :=
    ⟨rfl, hwindow, hincreasing, hfixed, fun h => by cases h⟩
  exact Machine.run_of_step Report.step (fun s e hs => s.step_inv e hs) hinit reports

/-- A read request is answered exactly. The old selection is cleared, points are selected and the
selection is loaded into fragments of any sizes, with updates at any time, after any operations on
a new database. For a type that is written through serializers of fixed size, the fragments up to
one whose load reports completion list the selected points and no others, once and in the order of
their virtual indices, with the values at selection; then nothing of the type is selected. -/
theorem report_exact {type : StaticType} (htype : type ≠ .OctetString) (db : DatabaseBuffers α)
    (hincreasing : Increasing (db.cells type)) (hnew : Cleared type db)
    (history : List (Operation α)) (selections : List (Selecting α))
    (reports : List (Reporting α)) :
    let before := Machine.run Operation.apply db history
    let selection := Machine.run Tracked.step { db := before.unselect } selections
    let report := Machine.run Report.step { db := selection.db } reports
    (∀ cell ∈ selection.db.cells type, cell.selection.selected → type = .Binary →
      cell.selection.variation ≠ .Group1Var1) →
    report.complete →
      pointsOf type report.headers =
          recorded (vIndices (db.cells type)) (selection.snapshots type) ∧
        (∀ i, (selection.snapshots type i).isSome = isSelected (selection.db.cells type) i) ∧
        ((pointsOf type report.headers).map Prod.fst).Pairwise (· < ·) ∧
        Cleared type report.db := by
  obtain ⟨hwindow, hv⟩ := run_window htype hnew.window history
  obtain ⟨hcleared, hv'⟩ := unselect_cleared htype hwindow
  dsimp only
  generalize (Machine.run Operation.apply db history).unselect = db' at hcleared hv' ⊢
  intro hvariation hcomplete
  -- After the selections the snapshots are what the operations recorded.
  have hselection := Tracked.run_inv hcleared selections
  rw [hv', hv] at hselection
  generalize Machine.run Tracked.step { db := db' } selections = selection
    at hselection hvariation hcomplete ⊢
  have hinc := hincreasing.of_vIndices hselection.vIndices
  have hreport := Report.run_inv hselection.window hinc (.of_ne htype hvariation) reports
  -- A complete report has no point left.
  have hdone := hreport.complete hcomplete
  have hpoints := hreport.pending
  rw [hdone.pending, List.append_nil] at hpoints
  refine ⟨?_, fun i => ?_, ?_, hdone⟩
  · rw [hpoints, pending_eq_recorded, hselection.vIndices, hselection.snapshots]
  · rw [← hselection.snapshots, isSome_held]
  · rw [hpoints]
    exact hinc.pending

/-- A cell of a binary that is not selected. -/
def binaryCell (vIndex : UInt16) (value : Bool) : Cell Bool where
  value := value
  config := { vIndex, svariation := .Group1Var2, evariation := .Group2Var1 }
  lastEvent := value
  selection := { value, variation := .Group1Var2 }

/-- Three binaries, with a gap in the virtual indices. -/
def threeBinaries : DatabaseBuffers Bool where
  cells
    | .Binary => [binaryCell 1 true, binaryCell 2 false, binaryCell 7 true]
    | _ => []
  indexMode := .Discontiguous

/-- The points come in two fragments; the update of point 7 in between does not show. -/
theorem report_exact_threeBinaries :
    let report := Machine.run Report.step
      { db := (Machine.run Tracked.step { db := threeBinaries.unselect }
          [Selecting.all .Group1Var2]).db }
      [.load 8, .change (.update .Binary false 7 .Detect), .load 100]
    pointsOf .Binary report.headers = [(1, true), (2, false), (7, true)] ∧
      Cleared .Binary report.db := by
  obtain ⟨hpoints, -, -, hcleared⟩ := @report_exact Bool _ .Binary (by decide) threeBinaries
    (by unfold Increasing; decide) ⟨by decide, rfl⟩ [] [Selecting.all .Group1Var2]
    [.load 8, .change (.update .Binary false 7 .Detect), .load 100] (by decide +kernel)
    (by decide +kernel)
  exact ⟨hpoints.trans (by decide +kernel), hcleared⟩

end OpenDnp3.Outstation.DatabaseBuffers
