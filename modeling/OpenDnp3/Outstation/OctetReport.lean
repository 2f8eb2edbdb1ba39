import OpenDnp3.Outstation.StaticReport

/-!
# Octet strings stay selected

`StaticWriters::Write` of the octet strings moves the range on but deselects no cell, and
`DatabaseBuffers::Unselect` leaves the octet strings out. So a string that has been selected once is
selected for good (`OctetsStay`): an abandoned selection is cleared completely if and only if it
had no octet string (`unselect_complete_iff`), and a report of octet strings leaves them deselected
if and only if there was none to report (`octet_report_exact_iff`).
-/

namespace OpenDnp3.Outstation.DatabaseBuffers

open App

variable {α : Type*}

/-! ## What is not a selection -/

/-- A range that has been passed over in part, over the same cells. -/
structure Passes (p p' : Loading α) : Prop where
  cells : p'.cells = p.cells
  valid : p'.range.isValid → p.range.isValid
  empty : (¬p.range.isValid → p.range = {}) → ¬p'.range.isValid → p'.range = {}

/-- The range does not move. -/
theorem Passes.of_eq {p p' : Loading α} (hcells : p'.cells = p.cells)
    (hrange : p'.range = p.range) :
    Passes p p' := by
  refine ⟨hcells, fun h => ?_, fun h h' => ?_⟩
  · rw [← hrange]
    exact h
  · rw [hrange] at h' ⊢
    exact h h'

/-- The range passes over more cells. -/
theorem Passes.trans {p₁ p₂ p₃ : Loading α} (h : Passes p₁ p₂) (h' : Passes p₂ p₃) :
    Passes p₁ p₃ :=
  ⟨h'.cells.trans h.cells, h.valid ∘ h'.valid, h'.empty ∘ h.empty⟩

/-- The range passes over a cell. -/
theorem Passes.advance {p p' : Loading α} (hvalid : p.range.isValid) (hcells : p'.cells = p.cells)
    (hrange : p'.range = p.range.advance) : Passes p p' := by
  refine ⟨hcells, fun _ => hvalid, fun _ hinvalid => ?_⟩
  rw [hrange] at hinvalid ⊢
  unfold Range.advance at hinvalid ⊢
  rw [if_pos hvalid] at hinvalid ⊢
  split_ifs at hinvalid ⊢ with hlt
  · rw [isValid_iff] at hinvalid
    exact absurd hlt hinvalid
  · rfl

/-- What every operation but a selection does to the octet strings: their selections stay, and a
range that is empty stays so. -/
structure OctetsStay (db db' : DatabaseBuffers α) : Prop where
  cells : (db'.cells .OctetString).map report = (db.cells .OctetString).map report
  valid : (db'.ranges .OctetString).isValid → (db.ranges .OctetString).isValid
  empty : (¬(db.ranges .OctetString).isValid → db.ranges .OctetString = {}) →
    ¬(db'.ranges .OctetString).isValid → db'.ranges .OctetString = {}

/-- Where the octet strings are untouched they stay. -/
theorem OctetsStay.of_untouched {db db' : DatabaseBuffers α}
    (h : Untouched .OctetString db db') : OctetsStay db db' := by
  refine ⟨h.cells, fun hvalid => ?_, fun hempty hinvalid => ?_⟩
  · rw [← h.ranges]
    exact hvalid
  · rw [h.ranges] at hinvalid ⊢
    exact hempty hinvalid

/-- The octet strings stay over two steps. -/
theorem OctetsStay.trans {db₁ db₂ db₃ : DatabaseBuffers α} (h : OctetsStay db₁ db₂)
    (h' : OctetsStay db₂ db₃) : OctetsStay db₁ db₃ :=
  ⟨h'.cells.trans h.cells, h.valid ∘ h'.valid, h'.empty ∘ h.empty⟩

/-- A selected octet string stays selected. -/
theorem OctetsStay.selected_iff {db db' : DatabaseBuffers α} (h : OctetsStay db db') :
    (∃ cell ∈ db'.cells .OctetString, cell.selection.selected) ↔
      ∃ cell ∈ db.cells .OctetString, cell.selection.selected := by
  constructor
  · rintro ⟨cell, hcell, hselected⟩
    obtain ⟨cell', hcell', heq⟩ := exists_mem_of_report h.cells hcell
    exact ⟨cell', hcell', by rw [heq]; exact hselected⟩
  · rintro ⟨cell, hcell, hselected⟩
    obtain ⟨cell', hcell', heq⟩ := exists_mem_of_report h.cells.symm hcell
    exact ⟨cell', hcell', by rw [heq]; exact hselected⟩

/-- `DatabaseBuffers::Unselect` does not touch the octet strings. -/
theorem foldl_deselect_octets (types : List StaticType) (hnot : .OctetString ∉ types)
    (db : DatabaseBuffers α) :
    (types.foldl deselect db).cells .OctetString = db.cells .OctetString ∧
      (types.foldl deselect db).ranges .OctetString = db.ranges .OctetString := by
  induction types generalizing db with
  | nil => exact ⟨rfl, rfl⟩
  | cons type types ih =>
    have hne : StaticType.OctetString ≠ type := by
      rintro rfl
      exact hnot List.mem_cons_self
    obtain ⟨hcells, hranges⟩ := db.deselect_of_ne hne
    obtain ⟨hcells', hranges'⟩ := ih (fun h => hnot (List.mem_cons_of_mem _ h)) (db.deselect type)
    exact ⟨hcells'.trans hcells, hranges'.trans hranges⟩

/-- The end of a report leaves the octet strings as they are. -/
theorem unselect_octets (db : DatabaseBuffers α) :
    db.unselect.cells .OctetString = db.cells .OctetString ∧
      db.unselect.ranges .OctetString = db.ranges .OctetString := by
  unfold unselect
  exact foldl_deselect_octets _ (by decide) db

/-- The end of a report does not touch the octet strings. -/
theorem unselect_untouched (db : DatabaseBuffers α) : Untouched .OctetString db db.unselect :=
  ⟨congrArg _ db.unselect_octets.1, db.unselect_octets.2⟩

variable [MeasurementSpec α]

/-- A header of octet strings passes over the cells. -/
theorem Loading.writeSomeOctetString_passes (size : UInt8) (fuel numWritten : ℕ)
    (iterator : RangeWriteIterator α) (p : Loading α) :
    Passes p (writeSomeOctetString size fuel numWritten iterator p).2.2 := by
  induction fuel generalizing numWritten iterator p with
  | zero => exact .of_eq rfl rfl
  | succ fuel ih =>
    unfold writeSomeOctetString
    split
    case isFalse => exact .of_eq rfl rfl
    case isTrue hvalid =>
      split
      · exact .of_eq rfl rfl
      · split
        · exact .of_eq rfl rfl
        · split
          · exact .of_eq rfl rfl
          case h_2 writer iterator' hwrite =>
            have hadvance : Passes p { p with writer, range := p.range.advance } :=
              .advance hvalid rfl rfl
            exact hadvance.trans (ih _ _ _)

/-- The headers of octet strings pass over the cells. -/
theorem Loading.writeOctetStrings_passes (fuel : ℕ) (p : Loading α) :
    Passes p (p.writeOctetStrings fuel).2 := by
  induction fuel generalizing p with
  | zero => exact .of_eq rfl rfl
  | succ fuel ih =>
    unfold writeOctetStrings
    split
    · split
      · exact .of_eq rfl rfl
      case h_2 cell hcell =>
        dsimp only
        split
        · exact .of_eq rfl rfl
        case h_2 w iterator hiter =>
          have hpasses := writeSomeOctetString_passes
            (MeasurementSpec.octetSize cell.selection.value) p.range.count 0 iterator
            { p with writer := w }
          generalize @writeSomeOctetString α _ _ _ _ _ _ = result at hpasses ⊢
          have hpasses' : Passes p { result.2.2 with
              writer := result.2.2.writer.push result.2.1.finish } :=
            ⟨hpasses.cells, hpasses.valid, hpasses.empty⟩
          split_ifs
          · exact hpasses'
          · exact hpasses'.trans (ih _)
    · exact .of_eq rfl rfl

/-- The load of the octet strings leaves the cells as they are. -/
theorem Loading.loop_passes (fuel : ℕ) (p : Loading α) :
    Passes p (loop .OctetString fuel p).2 := by
  induction fuel generalizing p with
  | zero => exact .of_eq rfl rfl
  | succ fuel ih =>
    unfold loop
    split
    case isFalse => exact .of_eq rfl rfl
    case isTrue hvalid =>
      split
      · exact .of_eq rfl rfl
      case h_2 cell hcell =>
        split
        · have hpasses := p.writeOctetStrings_passes p.range.count
          have hwriter : p.writeFun (StaticWriter.get .OctetString cell.selection.variation) cell =
              p.writeOctetStrings p.range.count := rfl
          rw [hwriter]
          dsimp only
          split
          · exact hpasses.trans (ih _)
          · exact hpasses
        · have hadvance : Passes p { p with range := p.range.advance } := .advance hvalid rfl rfl
          exact hadvance.trans (ih _)

/-- The load of a type leaves the octet strings selected. -/
theorem loadType_octets (db : DatabaseBuffers α) (type : StaticType) (writer : HeaderWriter α) :
    OctetsStay db (db.loadType type writer).2.1 := by
  unfold loadType
  dsimp only
  by_cases htype : StaticType.OctetString = type
  · subst htype
    have hpasses := Loading.loop_passes (db.ranges .OctetString).count
      { cells := db.cells .OctetString, range := db.ranges .OctetString, writer }
    refine ⟨?_, ?_, ?_⟩
    · rw [set_cells_self, hpasses.cells]
    · rw [set_ranges_self]
      exact hpasses.valid
    · rw [set_ranges_self]
      exact hpasses.empty
  · exact .of_untouched
      ⟨by rw [set_cells_of_ne _ htype], set_ranges_of_ne _ htype _ _⟩

/-- The load of some types leaves the octet strings selected. -/
theorem loadTypes_octets (types : List StaticType) (db : DatabaseBuffers α)
    (writer : HeaderWriter α) : OctetsStay db (loadTypes types db writer).2.1 := by
  induction types generalizing db writer with
  | nil => exact .of_untouched (.refl _ db)
  | cons type types ih =>
    have hstep := db.loadType_octets type writer
    unfold loadTypes
    dsimp only
    split
    · exact hstep.trans (ih _ _)
    · exact hstep

/-- A load leaves the octet strings selected. -/
theorem load_octets (db : DatabaseBuffers α) (writer : HeaderWriter α) :
    OctetsStay db (db.load writer).2.1 :=
  loadTypes_octets _ db writer

/-! ## Selections -/

/-- Every position that is selected and exists holds a selected cell. -/
theorem selectCells_selected (type : StaticType) (variation : Option GroupVariation) (is : List ℕ)
    (ret : IINField) (cells : List (Cell α)) {i : ℕ} (hmem : i ∈ is) (hi : i < cells.length) :
    ∃ cell, (selectCells type variation is ret cells).2[i]? = some cell ∧
      cell.selection.selected := by
  induction is generalizing ret cells with
  | nil => cases hmem
  | cons j js ih =>
    obtain ⟨cell, hcell⟩ : ∃ cell, cells[i]? = some cell := ⟨_, List.getElem?_eq_getElem hi⟩
    by_cases hij : j = i
    swap
    · have hmem' : i ∈ js := (List.mem_cons.mp hmem).resolve_left (Ne.symm hij)
      unfold selectCells
      split
      · exact ih _ _ hmem' hi
      · split_ifs
        · exact ih _ _ hmem' hi
        · exact ih _ _ hmem' (by rw [List.length_set]; exact hi)
    subst hij
    -- A cell that is selected stays so for the rest of the loop.
    have hkeeps (cells' : List (Cell α)) {cell' : Cell α} (hcell' : cells'[j]? = some cell')
        (hselected' : cell'.selection.selected) (ret' : IINField) :
        ∃ cell, (selectCells type variation js ret' cells').2[j]? = some cell ∧
          cell.selection.selected := by
      obtain heq | ⟨-, cell'', hget, hnot, -⟩ := selectCells_spec type variation js ret' cells' j
      · exact ⟨cell', heq.trans hcell', hselected'⟩
      · rw [hcell', Option.some.injEq] at hget
        subst hget
        rw [hnot] at hselected'
        cases hselected'
    rw [selectCells, hcell]
    dsimp only
    split_ifs with hselected
    · exact hkeeps cells hcell hselected _
    · exact hkeeps _ (List.getElem?_set_self hi) rfl _

/-- What holds of a database through every selection of a range and every update holds after any
selecting step. -/
theorem Selecting.apply_induction {P : DatabaseBuffers α → Prop}
    (hselect : ∀ db type range variation, P db → P (genericSelect db type range variation).2)
    (hchange : ∀ db (change : Change α), P db → P (change.run db).1) (db : DatabaseBuffers α)
    (selecting : Selecting α) (h : P db) : P (selecting.apply db) := by
  have hclass0 (types : List StaticType) (db : DatabaseBuffers α) (h : P db) :
      P (db.selectClass0 types) := by
    induction types generalizing db with
    | nil => exact h
    | cons type types ih =>
      unfold selectClass0
      split_ifs
      · exact ih _ (hselect _ _ _ _ h)
      · exact ih _ h
  cases selecting with
  | all gv =>
    change P (db.selectAll gv).2
    unfold selectAll
    split
    · exact hclass0 _ db h
    · split
      · exact hselect _ _ _ _ h
      · exact h
  | range gv r =>
    change P (db.selectRange gv r).2
    unfold selectRange
    split
    · unfold selectVirtualRange
      split
      · exact hselect _ _ _ _ h
      · dsimp only
        split
        · exact hselect _ _ _ _ h
        · exact h
    · exact h
  | change change => exact hchange db change h

/-- The range of the octet strings is empty, or one of them is selected. -/
structure OctetInv (db : DatabaseBuffers α) : Prop where
  empty : ¬(db.ranges .OctetString).isValid → db.ranges .OctetString = {}
  selected : (db.ranges .OctetString).isValid →
    ∃ cell ∈ db.cells .OctetString, cell.selection.selected

omit [MeasurementSpec α] in
/-- The invariant holds where no octet string is selected. -/
theorem OctetInv.of_cleared {db : DatabaseBuffers α} (h : Cleared .OctetString db) :
    OctetInv db := by
  refine ⟨fun _ => h.range, fun hvalid => ?_⟩
  rw [h.range] at hvalid
  cases hvalid

omit [MeasurementSpec α] in
/-- The invariant stays with the octet strings. -/
theorem OctetInv.stays {db db' : DatabaseBuffers α} (h : OctetInv db) (hstay : OctetsStay db db') :
    OctetInv db' :=
  ⟨hstay.empty h.empty, fun hvalid => hstay.selected_iff.mpr (h.selected (hstay.valid hvalid))⟩

omit [MeasurementSpec α] in
/-- Where no octet string is selected, none is pending. -/
theorem OctetInv.cleared {db : DatabaseBuffers α} (h : OctetInv db)
    (hnone : ∀ cell ∈ db.cells .OctetString, cell.selection.selected = false) :
    Cleared .OctetString db := by
  refine ⟨hnone, h.empty fun hvalid => ?_⟩
  obtain ⟨cell, hcell, hselected⟩ := h.selected hvalid
  rw [hnone cell hcell] at hselected
  cases hselected

/-- A selection of a range keeps the invariant. -/
theorem genericSelect_octetInv (db : DatabaseBuffers α) (type : StaticType) (range : Range)
    (variation : Option GroupVariation) (h : OctetInv db) :
    OctetInv (db.genericSelect type range variation).2 := by
  unfold genericSelect
  split
  swap
  · exact h
  dsimp only
  split
  swap
  · exact h
  case isTrue hallowed =>
    dsimp only
    by_cases htype : StaticType.OctetString = type
    swap
    · exact h.stays (.of_untouched
        ⟨by rw [set_cells_of_ne _ htype], set_ranges_of_ne _ htype _ _⟩)
    subst htype
    have hstop := intersection_rangeOf_stop_lt hallowed
    have hle := (isValid_iff _).mp hallowed
    generalize range.intersection (rangeOf (db.cells .OctetString).length) = allowed
      at hallowed hstop hle ⊢
    have hmem : allowed.start ∈ List.range' allowed.start allowed.count := by
      rw [List.mem_range'_1, Range.count, if_pos hallowed]
      omega
    refine ⟨fun hinvalid => ?_, fun _ => ?_⟩
    · -- The union with a valid range is valid.
      rw [set_ranges_self, isValid_iff] at hinvalid
      exact absurd ((min_le_right _ _).trans (hle.trans (le_max_right _ _))) hinvalid
    · rw [set_cells_self]
      obtain ⟨cell, hcell, hselected⟩ := selectCells_selected .OctetString variation _ _
        (db.cells .OctetString) hmem (by omega)
      exact ⟨cell, List.mem_of_getElem? hcell, hselected⟩

/-- Every selection keeps the invariant. -/
theorem Selecting.apply_octetInv (db : DatabaseBuffers α) (selecting : Selecting α)
    (h : OctetInv db) : OctetInv (selecting.apply db) :=
  Selecting.apply_induction genericSelect_octetInv
    (fun db change h => h.stays (.of_untouched (change.run_untouched .OctetString db))) db
    selecting h

/-- Every operation keeps the invariant. -/
theorem Operation.apply_octetInv (db : DatabaseBuffers α) (operation : Operation α)
    (h : OctetInv db) : OctetInv (operation.apply db) := by
  cases operation with
  | select selecting => exact selecting.apply_octetInv db h
  | unselect => exact h.stays (.of_untouched db.unselect_untouched)
  | load size => exact h.stays (db.load_octets _)

/-- Any operations keep the invariant of the octet strings. -/
theorem run_octetInv {db : DatabaseBuffers α} (h : OctetInv db) (history : List (Operation α)) :
    OctetInv (Machine.run Operation.apply db history) :=
  Machine.run_of_step Operation.apply (fun db e h => Operation.apply_octetInv db e h) h history

/-! ## Clearing a selection -/

/-- `DatabaseBuffers::Unselect` is complete where no octet string is selected, and only there: after
any operations on a new database it leaves no cell of any type selected and every range empty if and
only if no octet string was selected before. -/
theorem unselect_complete_iff (db : DatabaseBuffers α) (hnew : ∀ type, Cleared type db)
    (history : List (Operation α)) :
    let before := Machine.run Operation.apply db history
    ((∀ type, ∀ cell ∈ before.unselect.cells type, cell.selection.selected = false) ∧
        before.unselect.hasAnySelection = false) ↔
      ∀ cell ∈ before.cells .OctetString, cell.selection.selected = false := by
  intro before
  have hoctets := before.unselect_octets
  constructor
  · rintro ⟨hnone, -⟩ cell hcell
    exact hnone .OctetString cell (by rw [hoctets.1]; exact hcell)
  · intro hnone
    have hinv : OctetInv before := run_octetInv (.of_cleared (hnew .OctetString)) history
    have hcleared : ∀ type, Cleared type before.unselect := by
      intro type
      by_cases htype : type = .OctetString
      · subst htype
        have hbefore := hinv.cleared hnone
        exact ⟨by rw [hoctets.1]; exact hbefore.cells, hoctets.2.trans hbefore.range⟩
      · -- The window of every other type covers its selected cells, also after partial loads.
        obtain ⟨hwindow, -⟩ := run_window htype (hnew type).window history
        exact (unselect_cleared htype hwindow).1
    refine ⟨fun type => (hcleared type).cells, ?_⟩
    rw [hasAnySelection, List.any_eq_false]
    intro type _
    rw [(hcleared type).range]
    decide

/-- A binary or an octet string. -/
inductive Sample where
  | Binary (value : Bool)
  | OctetString (octets : List UInt8)
  deriving DecidableEq, Repr

/-- A binary that is always online, and a string without flags. -/
instance Sample.measurementSpec : MeasurementSpec Sample where
  isEvent _ last value _ := last != value
  isQualityOnlineOnly _ := true
  bit
    | .Binary value => value
    | .OctetString _ => false
  octetSize
    | .Binary _ => 0
    | .OctetString octets => UInt8.ofNat octets.length
  time _ := 0
  withTime value _ := value
  withFlags value _ := value

/-- The cell of an octet string of one byte. -/
def stringCell : Cell Sample where
  value := .OctetString [0x61]
  config := { vIndex := 0, svariation := .Group110Var0, evariation := .Group111Var0 }
  lastEvent := .OctetString [0x61]
  selection := { value := .OctetString [0x61], variation := .Group110Var0 }

/-- The cell of a binary. -/
def sampleCell (vIndex : UInt16) (value : Bool) : Cell Sample where
  value := .Binary value
  config := { vIndex, svariation := .Group1Var2, evariation := .Group2Var1 }
  lastEvent := .Binary value
  selection := { value := .Binary value, variation := .Group1Var2 }

/-- A database with one octet string. -/
def oneString : DatabaseBuffers Sample where
  cells
    | .OctetString => [stringCell]
    | _ => []

/-- A database with two binaries and an octet string. -/
def binariesAndString : DatabaseBuffers Sample where
  cells
    | .Binary => [sampleCell 0 true, sampleCell 1 false]
    | .OctetString => [stringCell]
    | _ => []

/-- A read of the binaries is abandoned after a fragment, and cleared. The string was not selected.
-/
theorem unselect_complete_binariesAndString :
    let before := Machine.run Operation.apply binariesAndString
      [.select (.all .Group1Var2), .load 6]
    (∀ type, ∀ cell ∈ before.unselect.cells type, cell.selection.selected = false) ∧
      before.unselect.hasAnySelection = false := by
  have hnew (type : StaticType) : Cleared type binariesAndString := by
    refine ⟨?_, rfl⟩
    cases type <;> decide
  have hnone : ∀ cell ∈ (Machine.run Operation.apply binariesAndString
      [.select (.all .Group1Var2), .load 6]).cells .OctetString,
      cell.selection.selected = false := by
    decide +kernel
  exact (unselect_complete_iff binariesAndString hnew
    [.select (.all .Group1Var2), .load 6]).mpr hnone

/-- A read of one octet string is abandoned before its first fragment, and is not cleared. -/
theorem not_unselect_complete_oneString :
    ¬((∀ type, ∀ cell ∈ (Machine.run Operation.apply oneString
          [.select (.all .Group110Var0)]).unselect.cells type, cell.selection.selected = false) ∧
        (Machine.run Operation.apply oneString
          [.select (.all .Group110Var0)]).unselect.hasAnySelection = false) := by
  rintro ⟨-, hnone⟩
  revert hnone
  decide +kernel

/-! ## Reports of octet strings -/

omit [MeasurementSpec α] in
/-- Octet strings that are not selected stay so. -/
theorem Cleared.octets {db db' : DatabaseBuffers α} (h : Cleared .OctetString db)
    (hstay : OctetsStay db db') : Cleared .OctetString db' := by
  refine ((OctetInv.of_cleared h).stays hstay).cleared fun cell hcell => ?_
  by_contra hselected
  rw [Bool.not_eq_false] at hselected
  obtain ⟨cell', hcell', hselected'⟩ := hstay.selected_iff.mp ⟨cell, hcell, hselected⟩
  rw [h.cells cell' hcell'] at hselected'
  cases hselected'

/-- Where no octet string is selected, a load lists none. -/
theorem loadTypes_of_cleared (types : List StaticType) {db : DatabaseBuffers α}
    (h : Cleared .OctetString db) (writer : HeaderWriter α) :
    pointsOf .OctetString (loadTypes types db writer).2.2.headers =
      pointsOf .OctetString writer.headers := by
  induction types generalizing db writer with
  | nil => rfl
  | cons type types ih =>
    have hstep : pointsOf .OctetString (db.loadType type writer).2.2.headers =
        pointsOf .OctetString writer.headers := by
      by_cases htype : StaticType.OctetString = type
      · subst htype
        have hcount : (db.ranges .OctetString).count = 0 := by
          rw [h.range]
          rfl
        unfold loadType
        rw [hcount]
        rfl
      · obtain ⟨headers, hheaders, htypes⟩ := Loading.loop_appends type (db.ranges type).count
          { cells := db.cells type, range := db.ranges type, writer }
        have happend : (db.loadType type writer).2.2.headers = writer.headers ++ headers := hheaders
        rw [happend, pointsOf_append, pointsOf_eq_nil htype htypes, List.append_nil]
    have hcleared := h.octets (db.loadType_octets type writer)
    unfold loadTypes
    dsimp only
    split
    · exact (ih hcleared _).trans hstep
    · exact hstep

/-- A step of the report leaves the octet strings selected. -/
theorem Report.step_octets (s : Report α) (reporting : Reporting α) :
    OctetsStay s.db (s.step reporting).db := by
  cases reporting with
  | load size => exact s.db.load_octets _
  | change change => exact .of_untouched (change.run_untouched .OctetString s.db)

/-- A report leaves the octet strings selected that were selected before it. -/
theorem Report.run_octets (s : Report α) (reports : List (Reporting α)) :
    OctetsStay s.db (Machine.run Report.step s reports).db := by
  induction reports generalizing s with
  | nil => exact .of_untouched (.refl _ s.db)
  | cons reporting reports ih => exact (s.step_octets reporting).trans (ih _)

/-- A report that begins with no octet string selected lists none. -/
theorem Report.run_of_cleared {s : Report α} (h : Cleared .OctetString s.db)
    (hnone : pointsOf .OctetString s.headers = []) (reports : List (Reporting α)) :
    pointsOf .OctetString (Machine.run Report.step s reports).headers = [] := by
  induction reports generalizing s with
  | nil => exact hnone
  | cons reporting reports ih =>
    refine ih (h.octets (s.step_octets reporting)) ?_
    cases reporting with
    | load size =>
      have hload : pointsOf .OctetString (s.db.load { remaining := size }).2.2.headers = [] :=
        loadTypes_of_cleared StaticType.all h _
      change pointsOf .OctetString (s.headers ++ (s.db.load { remaining := size }).2.2.headers) = []
      rw [pointsOf_append, hnone, hload]
      rfl
    | change change => exact hnone

/-- The record holds values of selected points only. -/
theorem Tracked.run_snapshots (type : StaticType) {s : Tracked α}
    (h : ∀ i, isSelected (s.db.cells type) i = false → s.snapshots type i = none)
    (selections : List (Selecting α)) (i : ℕ)
    (hnot : isSelected ((Machine.run Tracked.step s selections).db.cells type) i = false) :
    (Machine.run Tracked.step s selections).snapshots type i = none := by
  induction selections generalizing s with
  | nil => exact h i hnot
  | cons selecting selections ih =>
    refine ih (fun j hj => ?_) hnot
    exact if_neg (by rw [Bool.not_eq_true]; exact hj)

/-- The invariant holds after any selections. -/
theorem Tracked.run_octetInv {s : Tracked α} (h : OctetInv s.db)
    (selections : List (Selecting α)) : OctetInv (Machine.run Tracked.step s selections).db := by
  induction selections generalizing s with
  | nil => exact h
  | cons selecting selections ih => exact ih (selecting.apply_octetInv s.db h)

/-- A read of octet strings is answered exactly where there is none to report, and only there. The
old selection is cleared, points are selected and the selection is loaded into fragments of any
sizes, with updates at any time, after any operations on a new database. The fragments up to one
whose load reports completion list the selected octet strings, each once under its virtual index
with its value at selection, and leave all of them deselected, if and only if no octet string was
selected. -/
theorem octet_report_exact_iff (db : DatabaseBuffers α) (hnew : Cleared .OctetString db)
    (history : List (Operation α)) (selections : List (Selecting α))
    (reports : List (Reporting α)) :
    let before := Machine.run Operation.apply db history
    let selection := Machine.run Tracked.step { db := before.unselect } selections
    let report := Machine.run Report.step { db := selection.db } reports
    report.complete →
      ((pointsOf .OctetString report.headers =
            recorded (vIndices (db.cells .OctetString)) (selection.snapshots .OctetString) ∧
          Cleared .OctetString report.db) ↔
        ∀ cell ∈ selection.db.cells .OctetString, cell.selection.selected = false) := by
  have hbefore : OctetInv (Machine.run Operation.apply db history).unselect :=
    (run_octetInv (.of_cleared hnew) history).stays (.of_untouched (unselect_untouched _))
  dsimp only
  generalize (Machine.run Operation.apply db history).unselect = db' at hbefore ⊢
  intro _
  have hinv := Tracked.run_octetInv (s := { db := db' }) hbefore selections
  have hsnapshots := Tracked.run_snapshots .OctetString (s := { db := db' }) (fun _ _ => rfl)
    selections
  generalize Machine.run Tracked.step { db := db' } selections = selection at hinv hsnapshots ⊢
  have hstay := Report.run_octets { db := selection.db } reports
  dsimp only at hstay
  constructor
  · -- What has been selected would still be so.
    rintro ⟨-, hcleared⟩ cell hcell
    by_contra hselected
    rw [Bool.not_eq_false] at hselected
    obtain ⟨cell', hcell', hselected'⟩ := hstay.selected_iff.mpr ⟨cell, hcell, hselected⟩
    rw [hcleared.cells cell' hcell'] at hselected'
    cases hselected'
  · intro hnone
    -- Without a selected string the report of the strings is empty, and so is the record.
    have hcleared := hinv.cleared hnone
    have hlist := Report.run_of_cleared (s := { db := selection.db }) hcleared rfl reports
    refine ⟨?_, hcleared.octets hstay⟩
    rw [hlist, eq_comm, recorded, List.filterMap_eq_nil_iff]
    intro entry _
    have hnot : isSelected (selection.db.cells .OctetString) entry.2 = false := by
      unfold isSelected
      cases hcell : (selection.db.cells .OctetString)[entry.2]? with
      | none => rfl
      | some cell => exact hnone cell (List.mem_of_getElem? hcell)
    rw [hsnapshots entry.2 hnot]
    rfl

/-- A read of the binaries reports them, and leaves the string alone. -/
theorem octet_report_exact_binariesAndString :
    let selection := Machine.run Tracked.step { db := binariesAndString.unselect }
      [Selecting.all .Group1Var2]
    let report := Machine.run Report.step { db := selection.db } [.load 6, .load 100]
    pointsOf .OctetString report.headers =
        recorded (vIndices (binariesAndString.cells .OctetString))
          (selection.snapshots .OctetString) ∧
      Cleared .OctetString report.db := by
  have hnew : Cleared .OctetString binariesAndString := ⟨by decide, rfl⟩
  have hcomplete : (Machine.run Report.step { db := (Machine.run Tracked.step
      { db := binariesAndString.unselect } [Selecting.all .Group1Var2]).db }
      [.load 6, .load 100]).complete = true := by
    decide +kernel
  exact (octet_report_exact_iff binariesAndString hnew [] [Selecting.all .Group1Var2]
    [.load 6, .load 100] hcomplete).mpr (by decide +kernel)

/-- A read of one octet string completes and leaves it selected. -/
theorem not_octet_report_exact_oneString :
    let selection := Machine.run Tracked.step { db := oneString.unselect }
      [Selecting.all .Group110Var0]
    let report := Machine.run Report.step { db := selection.db } [.load 100]
    report.complete ∧
      ¬(pointsOf .OctetString report.headers =
            recorded (vIndices (oneString.cells .OctetString)) (selection.snapshots .OctetString) ∧
          Cleared .OctetString report.db) := by
  refine ⟨by decide +kernel, fun h => ?_⟩
  have hnone := h.2.cells
  revert hnone
  decide +kernel

end OpenDnp3.Outstation.DatabaseBuffers
