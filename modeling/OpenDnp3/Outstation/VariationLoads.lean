import OpenDnp3.Outstation.BitfieldReport
import OpenDnp3.Outstation.VariationSelection

/-!
# The variation of a load

`StaticWriters::Get` maps the selected variation to a write function. A header takes cells that are
selected with the variation of its first cell (`TakesVariation`), and emits them under the variation
that its write function writes (`Emits`), unless they are lost with the bitfield of 256 packed
binaries.
-/

namespace OpenDnp3.Outstation.DatabaseBuffers

open App

variable {α : Type*}

/-! ## Definitions -/

/-- The points of a header, with its variation. -/
def headerVariations : ObjectHeader α → List (ℕ × GroupVariation)
  | .range serializer index start stop objects =>
    (ObjectHeader.range serializer index start stop objects).points.map fun point =>
      (point.1, serializer.gv)
  | .bitfield gv _ start (some stop) _ =>
    (List.range' start (stop + 1 - start)).map fun index => (index, gv)
  | _ => []

/-- The points of a type that the headers list, each with the variation of its header. -/
def variationsOf (type : StaticType) (headers : List (ObjectHeader α)) :
    List (ℕ × GroupVariation) :=
  headers.flatMap fun header =>
    if headerType header = some type then headerVariations header else []

/-- The cells that are selected. -/
def selectedCells (cells : List (Cell α)) : List (Cell α) :=
  cells.filter fun cell => cell.selection.selected

/-- The variation that `StaticWriters::Get` has a selected variation written as. -/
def writtenVariation (type : StaticType) (variation : GroupVariation) : GroupVariation :=
  match StaticWriter.get type variation with
  | .writeSingleBitfield => .Group1Var1
  | .writeWithSerializer gv => gv
  | .write => .Group110Var0

/-- A cell as it is written. -/
def writtenCell (type : StaticType) (cell : Cell α) : ℕ × GroupVariation :=
  (cell.config.vIndex.toNat, writtenVariation type cell.selection.variation)

/-! ## The writer table -/

/-- Every variation of a type is written as itself, but for those of the frozen counters. -/
theorem writtenVariation_eq_iff (type : StaticType) :
    ∀ variation ∈ type.variations, writtenVariation type variation = variation ↔
      (type = .FrozenCounter → variation = .Group21Var1) := by
  cases type <;> decide

variable [MeasurementSpec α]

/-! ## What a part of a load takes -/

/-- A part of a load takes these cells, which were the first ones selected. -/
structure Takes (p p' : Loading α) (taken : List (Cell α)) : Prop where
  cells : selectedCells p.cells = taken ++ selectedCells p'.cells
  configs : SameConfigs p.cells p'.cells
  range : p'.range.isValid → p.range.isValid ∧ p'.range.stop = p.range.stop ∧
    p.range.start + taken.length ≤ p'.range.start

omit [MeasurementSpec α] in
/-- Nothing is taken. -/
theorem Takes.refl (p : Loading α) : Takes p p [] :=
  ⟨rfl, .refl _, fun hvalid => ⟨hvalid, rfl, le_rfl⟩⟩

omit [MeasurementSpec α] in
/-- Two parts of a load take their cells one after the other. -/
theorem Takes.trans {p₁ p₂ p₃ : Loading α} {taken taken' : List (Cell α)} (h : Takes p₁ p₂ taken)
    (h' : Takes p₂ p₃ taken') : Takes p₁ p₃ (taken ++ taken') := by
  refine ⟨?_, h.configs.trans h'.configs, fun hvalid => ?_⟩
  · rw [h.cells, h'.cells, List.append_assoc]
  · obtain ⟨hvalid₂, hstop, hstart⟩ := h'.range hvalid
    obtain ⟨hvalid₁, hstop', hstart'⟩ := h.range hvalid₂
    rw [List.length_append]
    exact ⟨hvalid₁, hstop.trans hstop', by omega⟩

omit [MeasurementSpec α] in
/-- The writer has nothing to do with what is taken. -/
theorem Takes.with_writer {p p' : Loading α} {taken : List (Cell α)} (h : Takes p p' taken)
    (w w' : HeaderWriter α) : Takes { p with writer := w } { p' with writer := w' } taken :=
  ⟨h.cells, h.configs, h.range⟩

omit [MeasurementSpec α] in
/-- An advance that leaves a cell moves the start by one. -/
theorem advance_spec {range : Range} (hvalid : range.isValid) (h : range.advance.isValid) :
    range.advance.stop = range.stop ∧ range.advance.start = range.start + 1 := by
  unfold Range.advance at h ⊢
  rw [if_pos hvalid] at h ⊢
  split_ifs at h ⊢ with hlt
  · exact ⟨rfl, rfl⟩
  · cases h

omit [MeasurementSpec α] in
/-- The next cell is taken. -/
theorem Takes.next {p : Loading α} (h : Window p.cells p.range) (hvalid : p.range.isValid)
    {cell : Cell α} (hcell : p.cells[p.range.start]? = some cell)
    (hselected : cell.selection.selected) (writer : HeaderWriter α) :
    Takes p ({ p with writer }.next cell) [cell] := by
  refine ⟨h.filter_take hcell hselected, .set hcell rfl, fun hvalid' => ?_⟩
  obtain ⟨hstop, hstart⟩ := advance_spec hvalid hvalid'
  exact ⟨hvalid, hstop, hstart.ge⟩

omit [MeasurementSpec α] in
/-- The points that a part of a load lists are those of the cells that it takes. -/
theorem Takes.points {p p' : Loading α} {taken : List (Cell α)} {points : List (ℕ × α)}
    (h : Takes p p' taken) (hlists : Lists p p' points) : points = taken.map point := by
  have hpending := hlists.pending
  have hcells := congrArg (List.map point) h.cells
  rw [List.map_append] at hcells
  exact List.append_cancel_right (hpending.symm.trans hcells)

omit [MeasurementSpec α] in
/-- A header goes on with cells of its variation. -/
theorem Loading.variation_of_continues {p : Loading α} {variation : GroupVariation}
    {nextIndex : UInt16} {cell : Cell α} (h : p.continues variation nextIndex = some cell) :
    cell.selection.variation = variation := by
  unfold continues at h
  split_ifs at h with hvalid
  split at h
  · cases h
  · split_ifs at h with hcond
    cases h
    exact hcond.2.1

/-- The cells that a header takes are selected with the variation of its first cell. -/
def TakesVariation (variation : GroupVariation) (p p' : Loading α) : Prop :=
  ∃ taken, Takes p p' taken ∧ ∀ cell ∈ taken, cell.selection.variation = variation

omit [MeasurementSpec α] in
/-- Nothing is taken. -/
theorem TakesVariation.refl (variation : GroupVariation) (p : Loading α) :
    TakesVariation variation p p :=
  ⟨[], .refl p, by simp⟩

omit [MeasurementSpec α] in
/-- A cell of the variation is taken before the others. -/
theorem TakesVariation.next {variation : GroupVariation} {nextIndex : UInt16} {p p' : Loading α}
    {cell : Cell α} (h : Window p.cells p.range)
    (hcontinues : p.continues variation nextIndex = some cell) (writer : HeaderWriter α)
    (htakes : TakesVariation variation ({ p with writer }.next cell) p') :
    TakesVariation variation p p' := by
  obtain ⟨hvalid, hcell, hselected, -⟩ := Loading.continues_eq_some hcontinues
  obtain ⟨taken, htakes, hvariation⟩ := htakes
  refine ⟨[cell] ++ taken, (Takes.next h hvalid hcell hselected writer).trans htakes, ?_⟩
  rw [List.singleton_append, List.forall_mem_cons]
  exact ⟨Loading.variation_of_continues hcontinues, hvariation⟩

omit [MeasurementSpec α] in
/-- A header takes cells of its variation. -/
theorem Loading.loadWithRangeIterator_takes (variation : GroupVariation) (fuel : ℕ)
    (nextIndex : UInt16) (iterator : RangeWriteIterator α) {p : Loading α}
    (h : Window p.cells p.range) :
    TakesVariation variation p (loadWithRangeIterator variation fuel nextIndex iterator p).2.2 := by
  induction fuel generalizing nextIndex iterator p with
  | zero => exact .refl variation p
  | succ fuel ih =>
    unfold loadWithRangeIterator
    split
    · exact .refl variation p
    case h_2 cell hcontinues =>
      split
      · exact .refl variation p
      case h_2 writer iterator' hwrite =>
        obtain ⟨hvalid, hcell, hselected, -⟩ := continues_eq_some hcontinues
        have hwindow := (next_lists h hvalid hcell hselected writer).1.window
        exact .next h hcontinues writer (ih (nextIndex + 1) iterator' hwindow)

/-- A bitfield takes cells of its variation. -/
theorem Loading.loadWithBitfieldIterator_takes (variation : GroupVariation) (fuel : ℕ)
    (nextIndex : UInt16) (iterator : BitfieldRangeWriteIterator) {p : Loading α}
    (h : Window p.cells p.range) :
    TakesVariation variation p
      (loadWithBitfieldIterator variation fuel nextIndex iterator p).2.2 := by
  induction fuel generalizing nextIndex iterator p with
  | zero => exact .refl variation p
  | succ fuel ih =>
    unfold loadWithBitfieldIterator
    split
    · exact .refl variation p
    case h_2 cell hcontinues =>
      split
      · exact .refl variation p
      case h_2 iterator' hwrite =>
        obtain ⟨hvalid, hcell, hselected, -⟩ := continues_eq_some hcontinues
        have hwindow := (next_lists h hvalid hcell hselected p.writer).1.window
        exact .next h hcontinues p.writer (ih (nextIndex + 1) iterator' hwindow)

/-- A writer takes cells of the variation that it started with. -/
theorem Loading.writeFun_takes {writer : StaticWriter} (hwriter : writer ≠ .write) (start : Cell α)
    {p : Loading α} (h : Window p.cells p.range) :
    TakesVariation start.selection.variation p (p.writeFun writer start).2 := by
  cases writer with
  | writeSingleBitfield =>
    unfold writeFun writeSingleBitfield
    dsimp only
    split
    · exact .refl _ p
    case h_2 w iterator hiter =>
      obtain ⟨taken, htakes, hvariation⟩ := loadWithBitfieldIterator_takes start.selection.variation
        p.range.count start.config.vIndex iterator (p := { p with writer := w }) h
      exact ⟨taken, htakes.with_writer p.writer _, hvariation⟩
  | writeWithSerializer gv =>
    unfold writeFun writeWithSerializer
    dsimp only
    split
    · exact .refl _ p
    case h_2 w iterator hiter =>
      obtain ⟨taken, htakes, hvariation⟩ := loadWithRangeIterator_takes start.selection.variation
        p.range.count start.config.vIndex iterator (p := { p with writer := w }) h
      exact ⟨taken, htakes.with_writer p.writer _, hvariation⟩
  | write => exact absurd rfl hwriter

omit [MeasurementSpec α] in
/-- Only octet strings have the writer of octet strings. -/
theorem writer_ne_write {type : StaticType} (htype : type ≠ .OctetString)
    (variation : GroupVariation) : StaticWriter.get type variation ≠ .write := by
  unfold StaticWriter.get
  split <;> simp_all

omit [MeasurementSpec α] in
/-- A cell that is passed over is not taken. -/
theorem Takes.advance {p : Loading α} (hvalid : p.range.isValid) :
    Takes p { p with range := p.range.advance } [] := by
  refine ⟨rfl, .refl _, fun hvalid' => ?_⟩
  obtain ⟨hstop, hstart⟩ := advance_spec hvalid hvalid'
  exact ⟨hvalid, hstop, by dsimp only; rw [hstart]; exact Nat.le_succ _⟩

/-- A load of a type takes cells. -/
theorem Loading.loop_takes {type : StaticType} (htype : type ≠ .OctetString) (fuel : ℕ)
    {p : Loading α} (h : Window p.cells p.range) : ∃ taken, Takes p (loop type fuel p).2 taken := by
  induction fuel generalizing p with
  | zero => exact ⟨[], .refl p⟩
  | succ fuel ih =>
    unfold loop
    split
    case isFalse => exact ⟨[], .refl p⟩
    case isTrue hvalid =>
      split
      · exact ⟨[], .refl p⟩
      case h_2 cell hcell =>
        split
        case isTrue hselected =>
          -- Only the strings have a writer of their own.
          have hwriter := writer_ne_write htype cell.selection.variation
          obtain ⟨points, hlists⟩ := p.writeFun_lists hwriter cell h
          obtain ⟨taken, htakes, -⟩ := p.writeFun_takes hwriter cell h
          dsimp only
          split
          · obtain ⟨taken', htakes'⟩ := ih hlists.window
            exact ⟨_, htakes.trans htakes'⟩
          · exact ⟨taken, htakes⟩
        case isFalse hselected =>
          rw [Bool.not_eq_true] at hselected
          have hlists := Lists.advance h hvalid hcell hselected
          obtain ⟨taken, htakes⟩ := ih hlists.window
          exact ⟨_, (Takes.advance hvalid).trans htakes⟩

/-! ## What a part of a load emits -/

/-- The load of the binaries begins with the 256 points of a one-byte range, all as packed binaries,
and has the space for them. -/
def Loading.Loses (type : StaticType) (p : Loading α) : Prop :=
  type = .Binary ∧ p.Overruns ∧ Packed p.cells

/-- A part of a load takes some cells and emits headers with others, in the variations in which they
are written. -/
structure Emits (type : StaticType) (p p' : Loading α) (taken emitted : List (Cell α)) : Prop where
  takes : Takes p p' taken
  lists : ∃ points, Lists p p' points
  headers : ∃ headers, p'.writer.headers = p.writer.headers ++ headers ∧
    headers.flatMap headerVariations = emitted.map (writtenCell type)

omit [MeasurementSpec α] in
/-- Nothing is taken and nothing is emitted. -/
theorem Emits.refl (type : StaticType) {p : Loading α} (h : Window p.cells p.range) :
    Emits type p p [] [] :=
  ⟨.refl p, ⟨[], .refl h⟩, [], (List.append_nil _).symm, rfl⟩

omit [MeasurementSpec α] in
/-- Two parts of a load emit one after the other. -/
theorem Emits.trans {type : StaticType} {p₁ p₂ p₃ : Loading α}
    {taken taken' emitted emitted' : List (Cell α)} (h : Emits type p₁ p₂ taken emitted)
    (h' : Emits type p₂ p₃ taken' emitted') :
    Emits type p₁ p₃ (taken ++ taken') (emitted ++ emitted') := by
  obtain ⟨points, hlists⟩ := h.lists
  obtain ⟨points', hlists'⟩ := h'.lists
  obtain ⟨headers, hheaders, hvariations⟩ := h.headers
  obtain ⟨headers', hheaders', hvariations'⟩ := h'.headers
  refine ⟨h.takes.trans h'.takes, ⟨_, hlists.trans hlists'⟩, headers ++ headers', ?_, ?_⟩
  · rw [hheaders', hheaders, List.append_assoc]
  · rw [List.flatMap_append, hvariations, hvariations', List.map_append]

omit [MeasurementSpec α] in
/-- After a header with a cell the range does not begin with its first point any more. -/
theorem Takes.not_full {p p' : Loading α} {taken : List (Cell α)} (h : Takes p p' taken)
    (hcount : p'.range.count < p.range.count) : ¬IsFull p'.cells p'.range := by
  intro hfull
  have hvalid : p'.range.isValid := by
    rw [hfull.range]
    rfl
  obtain ⟨hvalid', hstop, hstart⟩ := h.range hvalid
  have hrange := hfull.range
  have hsum : p'.range.count = p'.range.stop - p'.range.start + 1 := if_pos hvalid
  have hsum' : p.range.count = p.range.stop - p.range.start + 1 := if_pos hvalid'
  rw [hrange] at hstart hstop hsum
  dsimp only at hstart hstop hsum
  rw [hrange] at hcount
  omega

omit [MeasurementSpec α] in
/-- A range header emits the cells that it takes. -/
theorem Loading.writeWithSerializer_emits {type : StaticType} {gv : GroupVariation} {p : Loading α}
    (hwindow : Window p.cells p.range) (hincreasing : Increasing p.cells) (hvalid : p.range.isValid)
    {start : Cell α} (hstart : p.cells[p.range.start]? = some start)
    (hselected : start.selection.selected)
    (hwriter : StaticWriter.get type start.selection.variation = .writeWithSerializer gv)
    (htakes : TakesVariation start.selection.variation p (p.writeWithSerializer gv start).2) :
    ∃ taken, Emits type p (p.writeWithSerializer gv start).2 taken taken ∧
      ((p.writeWithSerializer gv start).1 = true →
        (p.writeWithSerializer gv start).2.range.count < p.range.count) := by
  obtain ⟨headers, hheaders, hlists, hcount⟩ :=
    p.writeWithSerializer_spec gv hwindow hincreasing hvalid hstart hselected
  obtain ⟨taken, htakes, hvariation⟩ := htakes
  have hpoints := htakes.points hlists
  refine ⟨taken, ⟨htakes, ⟨_, hlists⟩, headers, hheaders, ?_⟩, hcount⟩
  -- The headers have the variation of the serializer.
  have hserializer : headers.flatMap headerVariations =
      (headers.flatMap ObjectHeader.points).map fun point => (point.1, gv) := by
    obtain heq | ⟨index, first, stop, objects, heq⟩ := p.writeWithSerializer_headers gv start
    · obtain rfl := List.append_right_eq_self.mp (hheaders.symm.trans heq)
      rfl
    · obtain rfl := List.append_cancel_left (hheaders.symm.trans heq)
      rw [List.flatMap_singleton, List.flatMap_singleton]
      rfl
  rw [hserializer, hpoints, List.map_map]
  refine List.map_congr_left fun cell hcell => ?_
  have hwritten : writtenVariation type cell.selection.variation = gv := by
    rw [hvariation cell hcell, writtenVariation, hwriter]
  rw [writtenCell, hwritten]
  rfl

/-- A bitfield emits the cells that it takes, unless it loses them. -/
theorem Loading.writeSingleBitfield_emits {p : Loading α} (hwindow : Window p.cells p.range)
    (hincreasing : Increasing p.cells) (hlength : p.cells.length < 2 ^ 16)
    (hvalid : p.range.isValid) {start : Cell α} (hstart : p.cells[p.range.start]? = some start)
    (hselected : start.selection.selected) (hpacked : start.selection.variation = .Group1Var1)
    (htakes : TakesVariation start.selection.variation p
      (p.writeSingleBitfield .Group1Var1 start).2)
    (hkeeps : ¬p.Loses .Binary) :
    ∃ taken, Emits .Binary p (p.writeSingleBitfield .Group1Var1 start).2 taken taken ∧
      ((p.writeSingleBitfield .Group1Var1 start).1 = true →
        (p.writeSingleBitfield .Group1Var1 start).2.range.count < p.range.count) := by
  obtain ⟨taken, htakes, hvariation⟩ := htakes
  obtain ⟨-, hnone⟩ | ⟨ret, iterator, objects, p', hsome, hrow⟩ :=
    p.writeSingleBitfield_row hwindow hincreasing hvalid hstart hselected
  · rw [hnone]
    exact ⟨[], .refl .Binary hwindow, fun hret => by cases hret⟩
  rw [hsome] at htakes ⊢
  have hlists := hrow.row.lists.with_writer p.writer (iterator.finish p'.writer)
  have hpoints := htakes.points hlists
  have hpos := List.length_pos_iff.mpr hrow.ne_nil
  have hcount : p'.range.count + objects.length = p.range.count := hrow.row.count
  have hlen : taken.length = objects.length := by
    have h := congrArg List.length hpoints
    rw [List.length_zip, List.length_range', Nat.min_self, List.length_map] at h
    exact h.symm
  have hle : objects.length ≤ iterator.index.max := by
    rw [hrow.index_eq]
    refine (hrow.length_le_or_overruns rfl hwindow hincreasing hvalid hstart
      hlength).resolve_right ?_
    rintro ⟨-, hfull, hoverruns⟩
    -- The header takes all of the points, so that all of them are packed.
    refine hkeeps ⟨rfl, hoverruns, fun cell hcell hsel => ?_⟩
    have hzero : p'.range.count = 0 := by
      rw [hoverruns.1.range] at hcount
      have hsum : ({ start := 0, stop := 255 } : Range).count = 256 := rfl
      omega
    have hnone : selectedCells p'.cells = [] := by
      refine List.filter_eq_nil_iff.mpr fun cell hcell => ?_
      rw [hrow.row.lists.window.none_selected (count_eq_zero hzero) cell hcell]
      exact Bool.false_ne_true
    have hall : selectedCells p.cells = taken := by
      rw [htakes.cells]
      dsimp only
      rw [hnone, List.append_nil]
    have hmem : cell ∈ selectedCells p.cells := List.mem_filter.mpr ⟨hcell, hsel⟩
    rw [hall] at hmem
    rw [hvariation cell hmem, hpacked]
  have hfits := hrow.fits
  rw [← hrow.start_eq, ← hrow.index_eq] at hfits
  obtain ⟨bytes, -, hheaders⟩ := (BitfieldRangeWriteIterator.finish_packed hrow.gv_eq hrow.packs
    hrow.ne_nil hfits p'.writer).1 hle
  refine ⟨taken, ⟨htakes, ⟨_, hlists⟩, _, hheaders.trans (by rw [hrow.headers]), ?_⟩, fun _ => ?_⟩
  · -- The indices of the header are those of the cells.
    have hindices : List.range' iterator.start objects.length =
        taken.map fun cell => cell.config.vIndex.toNat := by
      have hfst := congrArg (List.map Prod.fst) hpoints
      rw [List.map_fst_zip (by rw [List.length_range']), List.map_map, ← hrow.start_eq] at hfst
      exact hfst
    have hnum : iterator.start + objects.length - 1 + 1 - iterator.start = objects.length := by
      omega
    rw [List.flatMap_singleton, headerVariations, hnum, hindices, List.map_map]
    refine List.map_congr_left fun cell hcell => ?_
    rw [writtenCell, hvariation cell hcell, hpacked]
    rfl
  · dsimp only
    omega

/-- The write function of a cell emits what it takes, unless it loses it, and takes something
wherever it goes on. -/
theorem Loading.writeFun_emits {type : StaticType} (htype : type ≠ .OctetString) {p : Loading α}
    (hwindow : Window p.cells p.range) (hincreasing : Increasing p.cells)
    (hlength : p.cells.length < 2 ^ 16) (hvalid : p.range.isValid) {start : Cell α}
    (hstart : p.cells[p.range.start]? = some start) (hselected : start.selection.selected)
    (hkeeps : ¬p.Loses type) :
    ∃ taken, Emits type p
        (p.writeFun (StaticWriter.get type start.selection.variation) start).2 taken taken ∧
      ((p.writeFun (StaticWriter.get type start.selection.variation) start).1 = true →
        (p.writeFun (StaticWriter.get type start.selection.variation) start).2.range.count <
          p.range.count) := by
  have hwriter := writer_ne_write htype start.selection.variation
  have htakes := p.writeFun_takes hwriter start hwindow
  cases hget : StaticWriter.get type start.selection.variation with
  | writeSingleBitfield =>
    rw [hget] at htakes
    -- Only binaries that are selected as Group1Var1 are packed.
    have hpacked : type = .Binary ∧ start.selection.variation = .Group1Var1 := by
      revert hget
      unfold StaticWriter.get
      split <;> simp_all
    obtain ⟨rfl, hvariation⟩ := hpacked
    exact p.writeSingleBitfield_emits hwindow hincreasing hlength hvalid hstart hselected hvariation
      htakes hkeeps
  | writeWithSerializer gv =>
    rw [hget] at htakes
    exact p.writeWithSerializer_emits hwindow hincreasing hvalid hstart hselected hget htakes
  | write => exact absurd hget hwriter

/-- The load of a type emits the cells that it takes, unless it loses them, and takes all of them
unless it runs out of space. -/
theorem Loading.loop_emits {type : StaticType} (htype : type ≠ .OctetString) (fuel : ℕ)
    {p : Loading α} (hfuel : p.range.count ≤ fuel) (hwindow : Window p.cells p.range)
    (hincreasing : Increasing p.cells) (hlength : p.cells.length < 2 ^ 16)
    (hkeeps : ¬p.Loses type) :
    ∃ taken, Emits type p (loop type fuel p).2 taken taken ∧
      ((loop type fuel p).1 = true → ¬(loop type fuel p).2.range.isValid) := by
  induction fuel generalizing p with
  | zero => exact ⟨[], .refl type hwindow, fun _ => count_eq_zero (Nat.le_zero.mp hfuel)⟩
  | succ fuel ih =>
    unfold loop
    by_cases hvalid : p.range.isValid
    swap
    · rw [if_neg hvalid]
      exact ⟨[], .refl type hwindow, fun _ => hvalid⟩
    -- The induction is on the cells that are left in the range, which every turn makes fewer.
    have hlt : p.range.start < p.cells.length :=
      lt_of_le_of_lt ((isValid_iff _).mp hvalid) (hwindow.inside hvalid)
    obtain ⟨cell, hcell⟩ : ∃ cell, p.cells[p.range.start]? = some cell :=
      ⟨_, List.getElem?_eq_getElem hlt⟩
    rw [if_pos hvalid, hcell]
    dsimp only
    by_cases hselected : cell.selection.selected
    · rw [if_pos hselected]
      obtain ⟨taken, hemits, hcount⟩ := p.writeFun_emits htype hwindow hincreasing hlength hvalid
        hcell hselected hkeeps
      generalize p.writeFun (StaticWriter.get type cell.selection.variation) cell = result
        at hemits hcount ⊢
      obtain ⟨ret, p'⟩ := result
      dsimp only at hemits hcount ⊢
      cases ret with
      | false => exact ⟨taken, hemits, fun hret => by cases hret⟩
      | true =>
        have hless := hcount rfl
        obtain ⟨points, hlists⟩ := hemits.lists
        obtain ⟨taken', hemits', hdone⟩ := ih (by omega) hlists.window
          (hincreasing.of_vIndices hlists.vIndices) (by rw [hlists.length_eq]; exact hlength)
          fun hloses => hemits.takes.not_full hless hloses.2.1.1
        exact ⟨_, hemits.trans hemits', hdone⟩
    · -- A cell that is not selected is passed over.
      rw [Bool.not_eq_true] at hselected
      rw [if_neg (by simp [hselected])]
      have hlists := Lists.advance hwindow hvalid hcell hselected
      have hcount := count_advance hvalid
      have htakes := Takes.advance hvalid
      have hemits : Emits type p { p with range := p.range.advance } [] [] :=
        ⟨htakes, ⟨[], hlists⟩, [], (List.append_nil _).symm, rfl⟩
      obtain ⟨taken, hemits', hdone⟩ := ih (p := { p with range := p.range.advance })
        (by dsimp only; omega) hlists.window hincreasing hlength
        fun hloses => htakes.not_full (by dsimp only; omega) hloses.2.1.1
      exact ⟨taken, hemits.trans hemits', hdone⟩

/-- Where the load of the binaries loses them, it takes some and emits none. -/
theorem Loading.loop_of_loses {type : StaticType} {fuel : ℕ} {p : Loading α}
    (hfuel : p.range.count ≤ fuel) (hwindow : Window p.cells p.range)
    (hincreasing : Increasing p.cells) (hloses : p.Loses type) :
    ∃ taken, taken ≠ [] ∧ Emits type p (loop type fuel p).2 taken [] ∧
      ¬(loop type fuel p).2.range.isValid := by
  obtain ⟨rfl, hover, hpacked⟩ := hloses
  obtain ⟨taken, htakes⟩ := Loading.loop_takes
    (by decide : StaticType.Binary ≠ .OctetString) fuel hwindow
  obtain ⟨p', points, hloop, hheaders, hlists, hdone⟩ :=
    Loading.loop_of_overruns hfuel hwindow hincreasing hpacked hover
  rw [hloop] at htakes ⊢
  refine ⟨taken, ?_, ⟨htakes, ⟨points, hlists⟩, _, hheaders, rfl⟩, hdone⟩
  -- The first point was selected, and nothing is left selected.
  rintro rfl
  obtain ⟨cell, hcell, hselected, -⟩ := hover.1.cells 0 (by omega)
  have hmem : cell ∈ selectedCells p.cells :=
    List.mem_filter.mpr ⟨List.mem_of_getElem? hcell, hselected⟩
  rw [htakes.cells, List.nil_append] at hmem
  obtain ⟨hmem, hselected'⟩ := List.mem_filter.mp hmem
  rw [hlists.window.none_selected hdone cell hmem] at hselected'
  cases hselected'

end OpenDnp3.Outstation.DatabaseBuffers
