import OpenDnp3.Outstation.VariationLoads

/-!
# The variation of a report

`StaticWriters::Get` maps the selected variation to a write function. The report has every point
under the variation that it has been selected with, unless a frozen counter is selected with another
one than Group21Var1, the only one that is written, or the points are given up with the bitfield of
256 packed binaries.
-/

namespace OpenDnp3.Outstation.DatabaseBuffers

open App

variable {α : Type*}

variable [MeasurementSpec α]

/-! ## Loads -/

/-- A load takes these cells of the type, which were the first ones selected, and its headers have
those, in the variations in which they are written. -/
structure Answers (type : StaticType) (db db' : DatabaseBuffers α) (headers : List (ObjectHeader α))
    (taken emitted : List (Cell α)) : Prop where
  cells : selectedCells (db.cells type) = taken ++ selectedCells (db'.cells type)
  window : Window (db'.cells type) (db'.ranges type)
  vIndices : vIndices (db'.cells type) = vIndices (db.cells type)
  count : (db'.ranges type).count ≤ (db.ranges type).count
  variations : variationsOf type headers = emitted.map (writtenCell type)

omit [MeasurementSpec α] in
/-- Two parts of a load answer one after the other. -/
theorem Answers.trans {type : StaticType} {db₁ db₂ db₃ : DatabaseBuffers α}
    {headers headers' : List (ObjectHeader α)} {taken taken' emitted emitted' : List (Cell α)}
    (h : Answers type db₁ db₂ headers taken emitted)
    (h' : Answers type db₂ db₃ headers' taken' emitted') :
    Answers type db₁ db₃ (headers ++ headers') (taken ++ taken') (emitted ++ emitted') where
  cells := by rw [h.cells, h'.cells, List.append_assoc]
  window := h'.window
  vIndices := h'.vIndices.trans h.vIndices
  count := h'.count.trans h.count
  variations := by
    rw [variationsOf, List.flatMap_append, ← variationsOf, ← variationsOf, h.variations,
      h'.variations, List.map_append]

omit [MeasurementSpec α] in
/-- A load of another type leaves the cells as they are. -/
theorem Answers.of_eq {type : StaticType} {db db' : DatabaseBuffers α}
    {headers : List (ObjectHeader α)} (h : Window (db.cells type) (db.ranges type))
    (hcells : db'.cells type = db.cells type) (hranges : db'.ranges type = db.ranges type)
    (hheaders : variationsOf type headers = []) : Answers type db db' headers [] [] where
  cells := by rw [hcells, List.nil_append]
  window := by
    rw [hcells, hranges]
    exact h
  vIndices := by rw [hcells]
  count := by rw [hranges]
  variations := hheaders

/-- What the load of the type itself emits. -/
theorem Emits.answers {type : StaticType} {db : DatabaseBuffers α} {writer : HeaderWriter α}
    {taken emitted : List (Cell α)}
    (h : Emits type { cells := db.cells type, range := db.ranges type, writer }
      (Loading.loop type (db.ranges type).count
        { cells := db.cells type, range := db.ranges type, writer }).2 taken emitted) :
    ∃ headers, (db.loadType type writer).2.2.headers = writer.headers ++ headers ∧
      Answers type db (db.loadType type writer).2.1 headers taken emitted := by
  obtain ⟨headers, hheaders, hvariations⟩ := h.headers
  obtain ⟨headers', hheaders', htypes⟩ := Loading.loop_appends type (db.ranges type).count
    { cells := db.cells type, range := db.ranges type, writer }
  obtain rfl := List.append_cancel_left (hheaders.symm.trans hheaders')
  obtain ⟨points, hlists⟩ := h.lists
  refine ⟨headers, hheaders, ?_, ?_, ?_, ?_, ?_⟩
  · unfold loadType
    dsimp only
    rw [set_cells_self]
    exact h.takes.cells
  · unfold loadType
    dsimp only
    rw [set_cells_self, set_ranges_self]
    exact hlists.window
  · unfold loadType
    dsimp only
    rw [set_cells_self]
    exact hlists.vIndices
  · unfold loadType
    dsimp only
    rw [set_ranges_self]
    exact hlists.count
  · rw [← hvariations]
    exact List.flatMap_congr fun header hmem => if_pos (htypes header hmem)

/-- The load of a type emits what it takes, unless it loses it. -/
theorem loadType_answers {type : StaticType} (htype : type ≠ .OctetString)
    {db : DatabaseBuffers α} (hwindow : Window (db.cells type) (db.ranges type))
    (hincreasing : Increasing (db.cells type)) (hlength : (db.cells type).length < 2 ^ 16)
    (type' : StaticType) (writer : HeaderWriter α)
    (hkeeps : type' = type →
      ¬Loading.Loses type { cells := db.cells type, range := db.ranges type, writer }) :
    ∃ headers taken, (db.loadType type' writer).2.2.headers = writer.headers ++ headers ∧
      Answers type db (db.loadType type' writer).2.1 headers taken taken ∧
      ((db.loadType type' writer).1 = true → type' = type →
        ¬((db.loadType type' writer).2.1.ranges type).isValid) := by
  by_cases heq : type' = type
  · subst heq
    obtain ⟨taken, hemits, hdone⟩ := Loading.loop_emits htype (db.ranges type').count
      (p := { cells := db.cells type', range := db.ranges type', writer }) le_rfl
        hwindow hincreasing
      hlength (hkeeps rfl)
    obtain ⟨headers, hheaders, hanswers⟩ := hemits.answers
    refine ⟨headers, taken, hheaders, hanswers, fun hret _ => ?_⟩
    unfold loadType
    dsimp only
    rw [set_ranges_self]
    exact hdone hret
  · obtain ⟨headers, hheaders, htypes⟩ := Loading.loop_appends type' (db.ranges type').count
      { cells := db.cells type', range := db.ranges type', writer }
    have hne : type ≠ type' := fun h => heq h.symm
    have hnone : variationsOf type headers = [] := by
      refine List.flatMap_eq_nil_iff.mpr fun header hmem => if_neg ?_
      rw [htypes header hmem, Option.some.injEq]
      exact heq
    exact ⟨headers, [], hheaders, .of_eq hwindow (set_cells_of_ne _ hne _ _)
      (set_ranges_of_ne _ hne _ _) hnone, fun _ h => absurd h heq⟩

/-- The loads of the types emit what they take, where the binaries are not among them. -/
theorem loadTypes_answers {type : StaticType} (htype : type ≠ .OctetString)
    (types : List StaticType) (hbinary : type = .Binary → type ∉ types) {db : DatabaseBuffers α}
    (hwindow : Window (db.cells type) (db.ranges type)) (hincreasing : Increasing (db.cells type))
    (hlength : (db.cells type).length < 2 ^ 16) (writer : HeaderWriter α) :
    ∃ headers taken, (loadTypes types db writer).2.2.headers = writer.headers ++ headers ∧
      Answers type db (loadTypes types db writer).2.1 headers taken taken ∧
      ((loadTypes types db writer).1 = true → type ∈ types →
        ¬((loadTypes types db writer).2.1.ranges type).isValid) := by
  induction types generalizing db writer with
  | nil =>
    exact ⟨[], [], (List.append_nil _).symm, .of_eq hwindow rfl rfl rfl,
      fun _ hmem => absurd hmem List.not_mem_nil⟩
  | cons type' types ih =>
    -- The first type is loaded, whether it is the asked one or another.
    obtain ⟨headers, taken, hheaders, hanswers, hdone⟩ := loadType_answers htype hwindow hincreasing
      hlength type' writer fun heq hloses => hbinary hloses.1 (heq ▸ List.mem_cons_self)
    unfold loadTypes
    generalize db.loadType type' writer = result at hheaders hanswers hdone ⊢
    obtain ⟨ret, db', writer'⟩ := result
    dsimp only at hheaders hanswers hdone ⊢
    cases ret with
    | false => exact ⟨headers, taken, hheaders, hanswers, fun hret => by cases hret⟩
    | true =>
      obtain ⟨headers', taken', hheaders', hanswers', hdone'⟩ := ih
        (fun h hmem => hbinary h (List.mem_cons_of_mem _ hmem)) hanswers.window
        (hincreasing.of_vIndices hanswers.vIndices)
        (by rw [length_of_vIndices hanswers.vIndices]; exact hlength) writer'
      refine ⟨headers ++ headers', taken ++ taken', ?_, hanswers.trans hanswers',
        fun hret hmem => ?_⟩
      · rw [if_pos rfl, hheaders', hheaders, List.append_assoc]
      · obtain rfl | hmem := List.mem_cons.mp hmem
        · -- The range of a type that is done stays empty.
          have hcount : (db'.ranges type).count = 0 := if_neg (hdone rfl rfl)
          have hle := hanswers'.count
          exact count_eq_zero (by rw [if_pos rfl]; omega)
        · exact hdone' hret hmem

/-- A load into a fragment of this size loses the 256 points of a one-byte range. -/
def Loses (type : StaticType) (db : DatabaseBuffers α) (size : ℕ) : Prop :=
  type = .Binary ∧ db.Overruns size ∧ Packed (db.cells .Binary)

/-- A load emits the cells of the type that it takes, or fewer where it loses them. -/
theorem load_answers {type : StaticType} (htype : type ≠ .OctetString) {db : DatabaseBuffers α}
    (hwindow : Window (db.cells type) (db.ranges type)) (hincreasing : Increasing (db.cells type))
    (hlength : (db.cells type).length < 2 ^ 16) (size : ℕ) :
    ∃ taken emitted, Answers type db (db.load { remaining := size }).2.1
        (db.load { remaining := size }).2.2.headers taken emitted ∧
      (¬db.Loses type size → emitted = taken) ∧
      (db.Loses type size → emitted.length < taken.length) ∧
      ((db.load { remaining := size }).1 = true →
        Cleared type (db.load { remaining := size }).2.1) := by
  by_cases hbinary : type = .Binary
  swap
  · -- The other types lose nothing.
    obtain ⟨headers, taken, hheaders, hanswers, hdone⟩ := loadTypes_answers htype StaticType.all
      (fun h => absurd h hbinary) hwindow hincreasing hlength { remaining := size }
    unfold load
    rw [hheaders, List.nil_append]
    exact ⟨taken, taken, hanswers, fun _ => rfl, fun h => absurd h.1 hbinary, fun hret =>
      hanswers.window.cleared (hdone hret (by cases type <;> decide))⟩
  subst hbinary
  -- The binaries come first.
  have hfirst : ∃ headers taken emitted,
      (db.loadType .Binary { remaining := size }).2.2.headers = headers ∧
      Answers .Binary db (db.loadType .Binary { remaining := size }).2.1 headers taken emitted ∧
      (¬db.Loses .Binary size → emitted = taken) ∧
      (db.Loses .Binary size → emitted.length < taken.length) ∧
      ((db.loadType .Binary { remaining := size }).1 = true →
        ¬((db.loadType .Binary { remaining := size }).2.1.ranges .Binary).isValid) := by
    by_cases hloses : db.Loses .Binary size
    · obtain ⟨taken, hne, hemits, hdone⟩ := @Loading.loop_of_loses _ _ .Binary
        (db.ranges .Binary).count
        { cells := db.cells .Binary, range := db.ranges .Binary, writer := { remaining := size } }
        le_rfl hwindow hincreasing hloses
      obtain ⟨headers, hheaders, hanswers⟩ := hemits.answers
      refine ⟨headers, taken, [], hheaders, hanswers, fun h => absurd hloses h,
        fun _ => List.length_pos_iff.mpr hne, fun _ => ?_⟩
      unfold loadType
      dsimp only
      rw [set_ranges_self]
      exact hdone
    · obtain ⟨headers, taken, hheaders, hanswers, hdone⟩ := loadType_answers htype hwindow
        hincreasing hlength .Binary { remaining := size } fun _ => hloses
      exact ⟨headers, taken, taken, hheaders, hanswers, fun _ => rfl, fun h => absurd h hloses,
        fun hret => hdone hret rfl⟩
  obtain ⟨headers, taken, emitted, hheaders, hanswers, hkeeps, hlost, hdone⟩ := hfirst
  unfold load StaticType.all loadTypes
  generalize db.loadType .Binary { remaining := size } = result at hheaders hanswers hdone ⊢
  obtain ⟨ret, db', writer'⟩ := result
  dsimp only at hheaders hanswers hdone ⊢
  cases ret with
  | false =>
    rw [if_neg Bool.false_ne_true, hheaders]
    exact ⟨taken, emitted, hanswers, hkeeps, hlost, fun hret => by cases hret⟩
  | true =>
    rw [if_pos rfl]
    obtain ⟨headers', taken', hheaders', hanswers', -⟩ := loadTypes_answers htype
      [.DoubleBitBinary, .Counter, .FrozenCounter, .Analog, .BinaryOutputStatus,
        .AnalogOutputStatus,
        .TimeAndInterval, .OctetString] (fun _ => by decide) hanswers.window
      (hincreasing.of_vIndices hanswers.vIndices)
      (by rw [length_of_vIndices hanswers.vIndices]; exact hlength) writer'
    rw [hheaders', hheaders]
    refine ⟨taken ++ taken', emitted ++ taken', hanswers.trans hanswers', fun h => ?_, fun h => ?_,
      fun _ => hanswers'.window.cleared ?_⟩
    · rw [hkeeps h]
    · have hlt := hlost h
      rw [List.length_append, List.length_append]
      omega
    · -- Nothing is left in the range, and it does not grow.
      have hcount : (db'.ranges .Binary).count = 0 := if_neg (hdone rfl)
      have hle := hanswers'.count
      exact count_eq_zero (by omega)

/-! ## Earlier operations -/

/-- A load keeps the configurations. -/
theorem loadTypes_sameConfigs {type : StaticType} (htype : type ≠ .OctetString)
    (types : List StaticType) {db : DatabaseBuffers α}
    (h : Window (db.cells type) (db.ranges type)) (writer : HeaderWriter α) :
    SameConfigs (db.cells type) ((loadTypes types db writer).2.1.cells type) := by
  induction types generalizing db writer with
  | nil => exact .refl _
  | cons type' types ih =>
    -- One type at a time, and only the load of `type` itself touches its cells.
    have hstep : Window ((db.loadType type' writer).2.1.cells type)
          ((db.loadType type' writer).2.1.ranges type) ∧
        SameConfigs (db.cells type) ((db.loadType type' writer).2.1.cells type) := by
      unfold loadType
      dsimp only
      by_cases heq : type = type'
      · subst heq
        obtain ⟨points, hlists⟩ := Loading.loop_lists htype (db.ranges type).count
          (p := { cells := db.cells type, range := db.ranges type, writer }) h
        obtain ⟨taken, htakes⟩ := Loading.loop_takes htype (db.ranges type).count
          (p := { cells := db.cells type, range := db.ranges type, writer }) h
        rw [set_cells_self, set_ranges_self]
        exact ⟨hlists.window, htakes.configs⟩
      · rw [set_cells_of_ne _ heq, set_ranges_of_ne _ heq]
        exact ⟨h, .refl _⟩
    unfold loadTypes
    dsimp only
    split
    · exact hstep.2.trans (ih hstep.1 _)
    · exact hstep.2

/-- Every operation keeps the configurations. -/
theorem Operation.apply_sameConfigs {type : StaticType} (htype : type ≠ .OctetString)
    {db : DatabaseBuffers α} (h : Window (db.cells type) (db.ranges type))
    (operation : Operation α) : SameConfigs (db.cells type) ((operation.apply db).cells type) := by
  cases operation with
  | select selecting =>
    cases selecting with
    | all gv => exact (selectAll_asks htype db gv).sameConfigs
    | range gv r => exact (selectRange_asks type db gv r).sameConfigs
    | change change => exact change.run_sameConfigs type db
  | unselect =>
    rw [show Operation.apply db .unselect = db.unselect from rfl]
    exact db.unselect_sameConfigs type
  | load size =>
    rw [show Operation.apply db (.load size) = (loadTypes StaticType.all db _).2.1 from rfl]
    exact loadTypes_sameConfigs htype StaticType.all h _

/-- Nothing that happens before the request changes a configuration. -/
theorem run_sameConfigs {type : StaticType} (htype : type ≠ .OctetString) {db : DatabaseBuffers α}
    (h : Window (db.cells type) (db.ranges type)) (history : List (Operation α)) :
    SameConfigs (db.cells type) ((Machine.run Operation.apply db history).cells type) := by
  induction history generalizing db with
  | nil => exact .refl _
  | cons operation history ih =>
    rw [Machine.run_cons]
    exact (operation.apply_sameConfigs htype h).trans (ih (operation.apply_window htype h).1)

/-! ## Runs -/

/-- The load of the step does not lose the 256 points of a one-byte range. -/
def Report.Preserves (type : StaticType) (s : Report α) : Reporting α → Prop
  | .load size => ¬s.db.Loses type size
  | .change _ => True

/-- What the headers have, and what is still selected, are these points in these variations. -/
def Report.Accounts (type : StaticType) (points : List (ℕ × GroupVariation))
    (s : Report α) : Prop :=
  variationsOf type s.headers ++ (selectedCells (s.db.cells type)).map (writtenCell type) = points

omit [MeasurementSpec α] in
/-- What is written depends on what the cells report. -/
theorem map_writtenCell_congr (type : StaticType) {cells cells' : List (Cell α)}
    (h : cells'.map report = cells.map report) :
    (selectedCells cells').map (writtenCell type) =
      (selectedCells cells).map (writtenCell type) := by
  have hmap (cells : List (Cell α)) : (selectedCells cells).map (writtenCell type) =
      (cells.map report).filterMap fun entry =>
        if entry.2.selected then some (entry.1.toNat, writtenVariation type entry.2.variation)
        else none := by
    rw [selectedCells, List.filterMap_map]
    induction cells with
    | nil => rfl
    | cons cell cells ih =>
      rw [List.filter_cons, List.filterMap_cons, ← ih]
      cases hselected : cell.selection.selected <;> simp [report, writtenCell, hselected]
  rw [hmap, hmap, h]

/-- The invariant of the report: there are no more points than these. -/
structure Report.Sound (type : StaticType) (points : List (ℕ × GroupVariation)) (s : Report α) :
    Prop where
  window : Window (s.db.cells type) (s.db.ranges type)
  increasing : Increasing (s.db.cells type)
  length : (s.db.cells type).length < 2 ^ 16
  count : (variationsOf type s.headers).length + (selectedCells (s.db.cells type)).length ≤
    points.length
  complete : s.complete → Cleared type s.db

omit [MeasurementSpec α] in
/-- Every point is reported or still selected. -/
theorem Report.Accounts.length {type : StaticType} {points : List (ℕ × GroupVariation)}
    {s : Report α} (h : s.Accounts type points) :
    (variationsOf type s.headers).length + (selectedCells (s.db.cells type)).length =
      points.length := by
  rw [← h, List.length_append, List.length_map]

/-- A step keeps the account if and only if it does not lose points. -/
theorem Report.step_accounts_iff {type : StaticType} (htype : type ≠ .OctetString)
    {points : List (ℕ × GroupVariation)} (s : Report α) (e : Reporting α)
    (h : s.Sound type points) :
    (s.step e).Sound type points ∧
      ((s.step e).Accounts type points ↔ s.Accounts type points ∧ s.Preserves type e) := by
  cases e with
  | load size =>
    obtain ⟨taken, emitted, hanswers, hkeeps, hloses, hdone⟩ :=
      load_answers htype h.window h.increasing h.length size
    have hheaders : variationsOf type (s.step (.load size)).headers =
        variationsOf type s.headers ++ emitted.map (writtenCell type) := by
      rw [← hanswers.variations]
      exact List.flatMap_append
    have hcells : selectedCells (s.db.cells type) =
        taken ++ selectedCells ((s.step (.load size)).db.cells type) := hanswers.cells
    have hlength := congrArg List.length hheaders
    have hlength' := congrArg List.length hcells
    rw [List.length_append, List.length_map] at hlength
    rw [List.length_append] at hlength'
    have hle : emitted.length ≤ taken.length := by
      by_cases hcase : s.db.Loses type size
      · exact (hloses hcase).le
      · rw [hkeeps hcase]
    have hcount := h.count
    refine ⟨⟨hanswers.window, h.increasing.of_vIndices hanswers.vIndices, ?_, by omega, hdone⟩, ?_⟩
    · change (((s.db.load { remaining := size }).2.1).cells type).length < _
      rw [length_of_vIndices hanswers.vIndices]
      exact h.length
    · constructor
      · intro haccounts
        have hall := haccounts.length
        have hpreserves : ¬s.db.Loses type size := by
          intro hcase
          have hlt := hloses hcase
          omega
        refine ⟨?_, hpreserves⟩
        unfold Report.Accounts at haccounts ⊢
        rw [← haccounts, hheaders, hcells, List.map_append, hkeeps hpreserves, List.append_assoc]
      · rintro ⟨haccounts, hpreserves⟩
        unfold Report.Accounts at haccounts ⊢
        rw [← haccounts, hheaders, hcells, List.map_append, hkeeps hpreserves, List.append_assoc]
  | change change =>
    -- A change of the values leaves the selection as it is.
    have huntouched := change.run_untouched type s.db
    have hwritten : (selectedCells ((change.run s.db).1.cells type)).map (writtenCell type) =
        (selectedCells (s.db.cells type)).map (writtenCell type) :=
      map_writtenCell_congr type huntouched.cells
    have hlength := congrArg List.length hwritten
    rw [List.length_map, List.length_map] at hlength
    have hwindow := h.window.congr huntouched.cells
    rw [← huntouched.ranges] at hwindow
    have hv := huntouched.keeps.vIndices
    refine ⟨⟨hwindow, h.increasing.of_vIndices hv, ?_, ?_, fun hcomplete => ?_⟩, ?_⟩
    · rw [Report.step, length_of_vIndices hv]
      exact h.length
    · rw [Report.step, hlength]
      exact h.count
    · have hcleared := h.complete hcomplete
      refine ⟨fun cell hcell => ?_, huntouched.ranges.trans hcleared.range⟩
      obtain ⟨cell', hcell', heq⟩ := exists_mem_of_report huntouched.cells hcell
      rw [← heq]
      exact hcleared.cells cell' hcell'
    · unfold Report.Accounts Report.step Report.Preserves
      dsimp only
      rw [hwritten]
      exact (and_iff_left trivial).symm

omit [MeasurementSpec α] in
/-- The selected points are written in the variations of the record, unless a frozen counter has
another one than Group21Var1. -/
theorem writtenCells_eq_iff {type : StaticType} {vIndices : List ℕ} {s : Wanted α}
    (h : s.Inv type vIndices) :
    (selectedCells (s.db.cells type)).map (writtenCell type) =
        (selectedCells (s.db.cells type)).map (fun cell =>
          (cell.config.vIndex.toNat, cell.selection.variation)) ↔
      (type = .FrozenCounter → ∀ i v, s.wanted type i = some v → v = .Group21Var1) := by
  have hcell : ∀ cell ∈ selectedCells (s.db.cells type),
      writtenCell type cell = (cell.config.vIndex.toNat, cell.selection.variation) ↔
        (type = .FrozenCounter → cell.selection.variation = .Group21Var1) := by
    intro cell hcell
    obtain ⟨hmem, hselected⟩ := List.mem_filter.mp hcell
    rw [← writtenVariation_eq_iff type _ (h.typed cell hmem hselected), writtenCell, Prod.mk.injEq]
    exact and_iff_right rfl
  rw [List.map_inj_left]
  constructor
  · intro hwritten htype i v hv
    rw [← h.wanted] at hv
    obtain ⟨cell, hget, hv⟩ := Option.bind_eq_some_iff.mp hv
    split_ifs at hv with hselected
    have hmem : cell ∈ selectedCells (s.db.cells type) :=
      List.mem_filter.mpr ⟨List.mem_of_getElem? hget, hselected⟩
    rw [← Option.some.inj hv]
    exact (hcell cell hmem).mp (hwritten cell hmem) htype
  · intro hwanted cell hmem
    refine (hcell cell hmem).mpr fun htype => ?_
    obtain ⟨hmem, hselected⟩ := List.mem_filter.mp hmem
    obtain ⟨i, hi, rfl⟩ := List.getElem_of_mem hmem
    refine hwanted htype i _ ?_
    rw [← h.wanted, heldVariation, List.getElem?_eq_getElem hi, Option.bind_some, if_pos hselected]

/-- The variation that is asked for is honoured, but for two defects. The old selection is cleared,
points are selected and the selection is loaded into fragments of any sizes, with updates at any
time, after any operations on a new database. Where the report completes, its headers have the
selected points of the type, once and in order, each in the variation that it has been selected
with, if and only if every frozen counter has been selected as Group21Var1 and no load of the
binaries loses the 256 points of a one-byte range. -/
theorem variation_honoured_iff {type : StaticType} (htype : type ≠ .OctetString)
    (db : DatabaseBuffers α) (hincreasing : Increasing (db.cells type))
    (hlength : (db.cells type).length < 2 ^ 16)
    (hdefaults : ∀ cell ∈ db.cells type, cell.config.svariation ∈ type.variations)
    (hnew : Cleared type db) (history : List (Operation α)) (selections : List (Selecting α))
    (reports : List (Reporting α)) :
    let before := Machine.run Operation.apply db history
    let selection := Machine.run Wanted.step { db := before.unselect } selections
    let report := Machine.run Report.step { db := selection.db } reports
    (∀ i, (selection.wanted type i).isSome = isSelected (selection.db.cells type) i) ∧
      (report.complete →
        (variationsOf type report.headers =
            recorded (vIndices (db.cells type)) (selection.wanted type) ↔
          (type = .FrozenCounter →
              ∀ i v, selection.wanted type i = some v → v = .Group21Var1) ∧
            Machine.StepsMeet Report.step (Report.Preserves type) { db := selection.db }
              reports)) := by
  obtain ⟨hwindow, hv⟩ := run_window htype hnew.window history
  have hconfigs := (run_sameConfigs htype hnew.window history).trans
    ((Machine.run Operation.apply db history).unselect_sameConfigs type)
  obtain ⟨hcleared, hv'⟩ := unselect_cleared htype hwindow
  dsimp only
  generalize (Machine.run Operation.apply db history).unselect = db' at hconfigs hcleared hv' ⊢
  have hdefaults' : ∀ cell ∈ db'.cells type, cell.config.svariation ∈ type.variations := by
    intro cell hcell
    obtain ⟨cell', hcell', hconfig⟩ := hconfigs cell hcell
    rw [hconfig]
    exact hdefaults cell' hcell'
  -- After the selections the record is what the selected cells hold.
  have hselection := Wanted.run_inv htype hcleared hdefaults' selections
  rw [hv', hv] at hselection
  generalize Machine.run Wanted.step { db := db' } selections = selection at hselection ⊢
  have hrecorded : recorded (vIndices (db.cells type)) (selection.wanted type) =
      (selectedCells (selection.db.cells type)).map fun cell =>
        (cell.config.vIndex.toNat, cell.selection.variation) := by
    rw [← hselection.vIndices, ← hselection.wanted]
    exact recorded_eq_map (fun cell => cell.selection.variation) _
  refine ⟨fun i => ?_, fun hcomplete => ?_⟩
  · rw [← hselection.wanted, isSome_heldVariation]
  -- The report accounts for the selected points as they are written.
  let points := (selectedCells (selection.db.cells type)).map (writtenCell type)
  have hinit : Report.Sound type points { db := selection.db } := by
    refine ⟨hselection.window, hincreasing.of_vIndices hselection.vIndices, ?_, ?_,
      fun h => by cases h⟩
    · rw [length_of_vIndices hselection.vIndices]
      exact hlength
    · rw [List.length_map]
      exact (Nat.zero_add _).le
  have haccounts := Machine.run_iff_stepsMeet Report.step
    (fun s e hs => s.step_accounts_iff htype e hs) hinit reports
  have hsound := Machine.run_of_step Report.step
    (fun s e hs => (s.step_accounts_iff htype e hs).1) hinit reports
  generalize Machine.run Report.step { db := selection.db } reports = report
    at hcomplete haccounts hsound ⊢
  -- A complete report has no point left.
  have hnone : selectedCells (report.db.cells type) = [] := by
    refine List.filter_eq_nil_iff.mpr fun cell hcell => ?_
    rw [(hsound.complete hcomplete).cells cell hcell]
    exact Bool.false_ne_true
  have hemitted : variationsOf type report.headers = points ↔
      Machine.StepsMeet Report.step (Report.Preserves type) { db := selection.db } reports := by
    have hpoints : report.Accounts type points ↔ variationsOf type report.headers = points := by
      rw [Report.Accounts, hnone, List.map_nil, List.append_nil]
    rw [← hpoints, haccounts]
    exact and_iff_right rfl
  have hwritten : points = recorded (vIndices (db.cells type)) (selection.wanted type) ↔
      (type = .FrozenCounter → ∀ i v, selection.wanted type i = some v → v = .Group21Var1) := by
    rw [hrecorded]
    exact writtenCells_eq_iff hselection
  rw [← hwritten, ← hemitted]
  constructor
  · intro heq
    by_cases hbinary : type = .Binary
    · have hpoints := hwritten.mpr fun h => by rw [hbinary] at h; cases h
      exact ⟨hpoints, heq.trans hpoints.symm⟩
    · -- No other type loses points.
      have hkept : Machine.StepsMeet Report.step (Report.Preserves type) { db := selection.db }
          reports := by
        refine @Machine.StepsMeet.of_step _ _ Report.step (fun _ => True) _
          (fun s e _ => ⟨trivial, ?_⟩) _ trivial reports
        cases e with
        | load size => exact fun hloses => hbinary hloses.1
        | change change => trivial
      have hpoints := hemitted.mpr hkept
      exact ⟨hpoints.symm.trans heq, hpoints⟩
  · rintro ⟨hpoints, heq⟩
    exact heq.trans hpoints

/-- Two points are asked for as packed binaries, the third one is not. -/
theorem variation_honoured_threeBinaries :
    let selection := Machine.run Wanted.step { db := threeBinaries.unselect }
      [Selecting.range .Group1Var1 ⟨1, 2⟩, .all .Group1Var0]
    let report := Machine.run Report.step { db := selection.db } [.load 10, .load 100]
    variationsOf .Binary report.headers =
      [(1, .Group1Var1), (2, .Group1Var1), (7, .Group1Var2)] := by
  obtain ⟨-, hiff⟩ := @variation_honoured_iff Bool _ .Binary (by decide) threeBinaries
    (by unfold Increasing; decide) (by decide) (by decide) ⟨by decide, rfl⟩ []
    [Selecting.range .Group1Var1 ⟨1, 2⟩, .all .Group1Var0] [.load 10, .load 100]
  refine ((hiff (by decide +kernel)).mpr ⟨(fun h => by cases h), fun h => ?_, fun h => ?_,
    trivial⟩).trans (by decide +kernel)
  · exact absurd h.2.1.1.range (by decide +kernel)
  · exact absurd h.2.1.1.range (by decide +kernel)

/-- Frozen counters that are always online and carry no time. -/
structure FrozenCounter where
  value : ℕ
  deriving DecidableEq, Repr

instance FrozenCounter.measurementSpec : MeasurementSpec FrozenCounter where
  isEvent _ last value _ := last != value
  isQualityOnlineOnly _ := true
  bit _ := false
  octetSize _ := 0
  time _ := 0
  withTime value _ := value
  withFlags value _ := value

/-- A database with one frozen counter. -/
def oneFrozenCounter : DatabaseBuffers FrozenCounter where
  cells
    | .FrozenCounter =>
      [{ value := ⟨5⟩
         config := { vIndex := 0, svariation := .Group21Var1, evariation := .Group23Var1 }
         lastEvent := ⟨0⟩
         selection := { value := ⟨0⟩, variation := .Group21Var1 } }]
    | _ => []

/-- A frozen counter that is read as Group21Var5 is reported as Group21Var1. -/
theorem not_variation_honoured_oneFrozenCounter :
    let selection := Machine.run Wanted.step { db := oneFrozenCounter.unselect }
      [Selecting.all .Group21Var5]
    let report := Machine.run Report.step { db := selection.db } [.load 100]
    ¬(report.complete → variationsOf .FrozenCounter report.headers =
      recorded (vIndices (oneFrozenCounter.cells .FrozenCounter))
        (selection.wanted .FrozenCounter)) := by
  intro selection report h
  exact absurd (h (by decide +kernel)) (by decide +kernel)

end OpenDnp3.Outstation.DatabaseBuffers
