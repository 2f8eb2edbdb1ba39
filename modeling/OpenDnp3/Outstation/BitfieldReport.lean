import OpenDnp3.Outstation.Bitfields

/-!
# The report of packed binaries

The binaries that are selected as Group1Var1 are loaded as bitfields. The parser takes from the
bitfields of every fragment the points of the selection, as long as no load begins with exactly the
256 points of a one-byte range and has the space for them: there the counter of the iterator comes
round to zero, the header is left without a stop index and the bits are given up.
-/

namespace OpenDnp3.Outstation.DatabaseBuffers

open App

variable {α : Type*}

variable [MeasurementSpec α]

/-! ## The load of the binaries -/

/-- The load of the binaries decodes to the points that it takes, and takes all of them unless it
runs out of space. -/
theorem Loading.loop_packed (fuel : ℕ) {p : Loading α} (hfuel : p.range.count ≤ fuel)
    (hwindow : Window p.cells p.range) (hincreasing : Increasing p.cells)
    (hlength : p.cells.length < 2 ^ 16) (hpacked : Packed p.cells) (hover : ¬p.Overruns) :
    ∃ headers points, (loop .Binary fuel p).2.writer.headers = p.writer.headers ++ headers ∧
      Decodes headers (points.map bitPoint) ∧ Lists p (loop .Binary fuel p).2 points ∧
      ((loop .Binary fuel p).1 = true → ¬(loop .Binary fuel p).2.range.isValid) := by
  induction fuel generalizing p with
  | zero =>
    exact ⟨[], [], (List.append_nil _).symm, .nil, .refl hwindow,
      fun _ => count_eq_zero (Nat.le_zero.mp hfuel)⟩
  | succ fuel ih =>
    unfold loop
    by_cases hvalid : p.range.isValid
    swap
    · rw [if_neg hvalid]
      exact ⟨[], [], (List.append_nil _).symm, .nil, .refl hwindow, fun _ => hvalid⟩
    -- The induction is on the cells that are left in the range, which every turn makes fewer.
    have hlt : p.range.start < p.cells.length :=
      lt_of_le_of_lt ((isValid_iff _).mp hvalid) (hwindow.inside hvalid)
    obtain ⟨cell, hcell⟩ : ∃ cell, p.cells[p.range.start]? = some cell :=
      ⟨_, List.getElem?_eq_getElem hlt⟩
    rw [if_pos hvalid, hcell]
    dsimp only
    by_cases hselected : cell.selection.selected
    · have hwriter : StaticWriter.get .Binary cell.selection.variation = .writeSingleBitfield := by
        rw [hpacked cell (List.mem_of_getElem? hcell) hselected]
        rfl
      rw [if_pos hselected, hwriter]
      obtain ⟨headers, points, hheaders, hdecodes, hlists, hmoves⟩ :=
        p.writeSingleBitfield_spec hwindow hincreasing hlength hvalid hcell hselected hover
      rw [show p.writeFun .writeSingleBitfield cell =
        p.writeSingleBitfield .Group1Var1 cell from rfl]
      generalize p.writeSingleBitfield .Group1Var1 cell = result at hheaders hlists hmoves ⊢
      obtain ⟨ret, p'⟩ := result
      dsimp only at hheaders hlists hmoves ⊢
      cases ret with
      | false => exact ⟨headers, points, hheaders, hdecodes, hlists, fun hret => by cases hret⟩
      | true =>
        obtain ⟨hless, hover'⟩ := hmoves rfl
        obtain ⟨headers', points', hheaders', hdecodes', hlists', hdone⟩ := ih (by omega)
          hlists.window (hincreasing.of_vIndices hlists.vIndices)
          (by rw [hlists.length_eq]; exact hlength) (hpacked.of_lists hlists) hover'
        refine ⟨headers ++ headers', points ++ points', ?_, ?_, hlists.trans hlists', hdone⟩
        · rw [if_pos rfl, hheaders', hheaders, List.append_assoc]
        · rw [List.map_append]
          exact hdecodes.append hdecodes'
    · -- A cell that is not selected is passed over.
      rw [Bool.not_eq_true] at hselected
      rw [if_neg (by simp [hselected])]
      have hlists := Lists.advance hwindow hvalid hcell hselected
      have hcount := count_advance hvalid
      have hover' : ¬({ p with range := p.range.advance } : Loading α).Overruns := by
        intro h
        have hrange : p.range.advance = { start := 0, stop := 255 } := h.1.range
        unfold Range.advance at hrange
        rw [if_pos hvalid] at hrange
        split_ifs at hrange <;> simp at hrange
      obtain ⟨headers, points, hheaders, hdecodes, hlists', hdone⟩ :=
        ih (p := { p with range := p.range.advance }) (by dsimp only; omega)
          hlists.window hincreasing
          hlength hpacked hover'
      exact ⟨headers, points, hheaders, hdecodes, hlists.trans hlists', hdone⟩

/-- The load that overruns writes one bitfield, whose header has a count of zero. -/
theorem Loading.loop_of_overruns {fuel : ℕ} {p : Loading α} (hfuel : p.range.count ≤ fuel)
    (hwindow : Window p.cells p.range) (hincreasing : Increasing p.cells) (hpacked : Packed p.cells)
    (hover : p.Overruns) :
    ∃ p' points, loop .Binary fuel p = (true, p') ∧
      p'.writer.headers = p.writer.headers ++ [.bitfield .Group1Var1 .UInt8 0 none []] ∧
      Lists p p' points ∧ ¬p'.range.isValid := by
  obtain ⟨cell, hcell, hselected, -⟩ := hover.1.cells 0 (by omega)
  have hvalid : p.range.isValid := by
    rw [hover.1.range]
    rfl
  have hcount : p.range.count = 256 := by
    rw [hover.1.range]
    rfl
  have hstart : p.cells[p.range.start]? = some cell := by
    rw [hover.1.range]
    exact hcell
  have hwriter : StaticWriter.get .Binary cell.selection.variation = .writeSingleBitfield := by
    rw [hpacked cell (List.mem_of_getElem? hcell) hselected]
    rfl
  obtain ⟨p', points, hwrite, hheaders, hlists, hdone⟩ := p.writeSingleBitfield_of_overruns hwindow
    hincreasing hvalid hstart hselected hpacked hover
  obtain ⟨fuel, rfl⟩ : ∃ n, fuel = n + 1 := ⟨fuel - 1, by omega⟩
  refine ⟨p', points, ?_, hheaders, hlists, hdone⟩
  rw [loop, if_pos hvalid, hstart]
  dsimp only
  rw [if_pos hselected, hwriter]
  rw [show p.writeFun .writeSingleBitfield cell = p.writeSingleBitfield .Group1Var1 cell from rfl,
    hwrite]
  -- Nothing is left in the range.
  dsimp only
  rw [if_pos rfl]
  cases fuel with
  | zero => rfl
  | succ fuel => rw [loop, if_neg hdone]

/-! ## Loads -/

/-- A load into a fragment of this size begins with the 256 points of a one-byte range and has the
space for them. -/
def Overruns (db : DatabaseBuffers α) (size : ℕ) : Prop :=
  IsFull (db.cells .Binary) (db.ranges .Binary) ∧ 37 ≤ size

/-- The load of the binaries into a fragment of this size. -/
def loadingBinaries (db : DatabaseBuffers α) (size : ℕ) : Loading α where
  cells := db.cells .Binary
  range := db.ranges .Binary
  writer := { remaining := size }

/-- The types after the binaries leave them as they are. -/
theorem loadTypes_others {types : List StaticType} (hnot : .Binary ∉ types)
    (db : DatabaseBuffers α) (writer : HeaderWriter α) :
    (loadTypes types db writer).2.1.cells .Binary = db.cells .Binary ∧
      (loadTypes types db writer).2.1.ranges .Binary = db.ranges .Binary ∧
      ∃ headers, (loadTypes types db writer).2.2.headers = writer.headers ++ headers ∧
        ∀ stale, headers.flatMap (packedBytes stale) = [] := by
  induction types generalizing db writer with
  | nil => exact ⟨rfl, rfl, [], (List.append_nil _).symm, fun _ => rfl⟩
  | cons type types ih =>
    have hne : StaticType.Binary ≠ type := by
      rintro rfl
      exact hnot (List.mem_cons_self ..)
    have hnot : .Binary ∉ types := fun h => hnot (List.mem_cons_of_mem _ h)
    obtain ⟨headers, hheaders, htypes⟩ := Loading.loop_appends type (db.ranges type).count
      { cells := db.cells type, range := db.ranges type, writer }
    -- No header of another type is packed, and the points of the binaries are not touched.
    have hbytes := packedBytes_of_headerType hne.symm htypes
    have hcells : (db.loadType type writer).2.1.cells .Binary = db.cells .Binary :=
      set_cells_of_ne _ hne _ _
    have hranges : (db.loadType type writer).2.1.ranges .Binary = db.ranges .Binary :=
      set_ranges_of_ne _ hne _ _
    unfold loadTypes
    dsimp only
    split
    · obtain ⟨hcells', hranges', headers', hheaders', hbytes'⟩ :=
        ih hnot (db.loadType type writer).2.1 (db.loadType type writer).2.2
      refine ⟨hcells'.trans hcells, hranges'.trans hranges, headers ++ headers', ?_,
        fun stale => ?_⟩
      · rw [hheaders', ← List.append_assoc]
        exact congrArg (· ++ headers') hheaders
      · rw [List.flatMap_append, hbytes, hbytes', List.append_nil]
    · exact ⟨hcells, hranges, headers, hheaders, hbytes⟩

/-- A load takes these binaries, which were the first ones pending. -/
structure TakesBinaries (db db' : DatabaseBuffers α) (points : List (ℕ × α)) : Prop where
  pending : pending (db.cells .Binary) = points ++ pending (db'.cells .Binary)
  window : Window (db'.cells .Binary) (db'.ranges .Binary)
  vIndices : vIndices (db'.cells .Binary) = vIndices (db.cells .Binary)
  packed : Packed (db'.cells .Binary)

/-- What the parser takes from a load of packed binaries are the points that the load has taken,
unless it overruns. -/
theorem load_packed {db : DatabaseBuffers α}
    (hwindow : Window (db.cells .Binary) (db.ranges .Binary))
    (hincreasing : Increasing (db.cells .Binary)) (hlength : (db.cells .Binary).length < 2 ^ 16)
    (hpacked : Packed (db.cells .Binary)) (size : ℕ) :
    ∃ points, TakesBinaries db (db.load { remaining := size }).2.1 points ∧
      ((db.load { remaining := size }).1 = true →
        Cleared .Binary (db.load { remaining := size }).2.1) ∧
      (¬db.Overruns size →
        Decodes (db.load { remaining := size }).2.2.headers (points.map bitPoint)) ∧
      (db.Overruns size → ∀ stale,
        (db.load { remaining := size }).2.2.headers.flatMap (packedBytes stale) =
          bitfieldBytes .Group1Var1 .UInt8 0 none stale []) := by
  -- The binaries come first.
  obtain ⟨ret, p, hloop, headers, points, hheaders, hlists, hdone, hdecodes, hover⟩ :
      ∃ ret p, Loading.loop .Binary (db.ranges .Binary).count (db.loadingBinaries size) = (ret, p) ∧
        ∃ headers points, p.writer.headers = headers ∧ Lists (db.loadingBinaries size) p points ∧
          (ret = true → ¬p.range.isValid) ∧
          (¬db.Overruns size → Decodes headers (points.map bitPoint)) ∧
          (db.Overruns size → headers = [.bitfield .Group1Var1 .UInt8 0 none []]) := by
    by_cases hover : db.Overruns size
    · obtain ⟨p, points, hloop, hheaders, hlists, hdone⟩ := Loading.loop_of_overruns
        (p := db.loadingBinaries size) le_rfl hwindow hincreasing hpacked hover
      exact ⟨true, p, hloop, _, points, hheaders, hlists, fun _ => hdone,
        fun hnot => absurd hover hnot, fun _ => rfl⟩
    · obtain ⟨headers, points, hheaders, hdecodes, hlists, hdone⟩ := Loading.loop_packed
        (db.ranges .Binary).count (p := db.loadingBinaries size) le_rfl hwindow hincreasing hlength
        hpacked hover
      exact ⟨_, _, rfl, headers, points, hheaders, hlists, hdone, fun _ => hdecodes,
        fun h => absurd h hover⟩
  have htakes : TakesBinaries db (db.set .Binary p.cells p.range) points := by
    refine ⟨?_, ?_, ?_, ?_⟩
    · rw [set_cells_self]
      exact hlists.pending
    · rw [set_cells_self, set_ranges_self]
      exact hlists.window
    · rw [set_cells_self]
      exact hlists.vIndices
    · rw [set_cells_self]
      exact hpacked.of_lists hlists
  have htype : db.loadType .Binary { remaining := size } =
      (ret, db.set .Binary p.cells p.range, p.writer) := by
    unfold loadType
    unfold loadingBinaries at hloop
    rw [hloop]
  unfold load StaticType.all loadTypes
  rw [htype]
  dsimp only
  cases ret with
  | false =>
    rw [if_neg (by decide)]
    refine ⟨points, htakes, fun hret => (by cases hret), fun hnot => ?_, fun h stale => ?_⟩
    · rw [hheaders]
      exact hdecodes hnot
    · rw [hheaders, hover h]
      exact List.flatMap_singleton ..
  | true =>
    rw [if_pos rfl]
    have hothers : StaticType.Binary ∉ [.DoubleBitBinary, .Counter, .FrozenCounter, .Analog,
        .BinaryOutputStatus, .AnalogOutputStatus, .TimeAndInterval, .OctetString] := by
      decide
    obtain ⟨hcells, hranges, headers', hheaders', hbytes⟩ :=
      loadTypes_others hothers (db.set .Binary p.cells p.range) p.writer
    have htakes' := htakes
    obtain ⟨hpending, hwindow', hv, hpacked'⟩ := htakes'
    rw [← hcells] at hpending hv hpacked'
    rw [← hcells, ← hranges] at hwindow'
    refine ⟨points, ⟨hpending, hwindow', hv, hpacked'⟩, fun _ =>
      hwindow'.cleared ?_, fun hnot => ?_,
      fun h stale => ?_⟩
    · rw [hranges, set_ranges_self]
      exact hdone rfl
    · rw [hheaders', hheaders, ← List.append_nil (points.map bitPoint)]
      exact (hdecodes hnot).append (.of_packedBytes hbytes)
    · rw [hheaders', hheaders, List.flatMap_append, hbytes, List.append_nil, hover h]
      exact List.flatMap_singleton ..

/-! ## Runs -/

/-- A report in progress: the bytes of the packed binaries of every fragment so far, and the result
of the last load. -/
structure PackedReport (α : Type*) where
  db : DatabaseBuffers α
  fragments : List (List UInt8) := []
  complete : Bool := false

/-- A step of the report. A fragment is written over a buffer that held `stale`. -/
def PackedReport.step (s : PackedReport α) : ℕ × Reporting α → PackedReport α
  | (stale, .load size) =>
    let (complete, db, writer) := s.db.load { remaining := size }
    { db, fragments := s.fragments ++ [writer.headers.flatMap (packedBytes stale)], complete }
  | (_, .change change) => { s with db := (change.run s.db).1 }

/-- The step does not load exactly the 256 points of a one-byte range with the space for them. -/
def PackedReport.Fits (s : PackedReport α) : ℕ × Reporting α → Prop
  | (_, .load size) => ¬s.db.Overruns size
  | (_, .change _) => True

/-- The parser takes from the fragments the first of these points, each once, and the others are
still selected. There are none of these when the report is complete. -/
def PackedReport.Exact (points : List (ℕ × Bool)) (s : PackedReport α) : Prop :=
  ∃ parsed, s.fragments.mapM parsedBits = some parsed ∧
    parsed.flatten ++ pendingBits (s.db.cells .Binary) = points ∧
    (s.complete → parsed.flatten = points)

/-- The invariant of the report. -/
structure PackedReport.Inv (s : PackedReport α) : Prop where
  window : Window (s.db.cells .Binary) (s.db.ranges .Binary)
  increasing : Increasing (s.db.cells .Binary)
  length : (s.db.cells .Binary).length < 2 ^ 16
  packed : Packed (s.db.cells .Binary)
  complete : s.complete → Cleared .Binary s.db

omit [MeasurementSpec α] in
/-- Cells with the same indices are as many. -/
theorem length_of_vIndices {cells cells' : List (Cell α)} (h : vIndices cells' = vIndices cells) :
    cells'.length = cells.length := by
  simpa [vIndices] using congrArg List.length h

/-- A header without a stop index is not parsed, whatever the buffer held. -/
theorem parsedBits_stale (stale : ℕ) :
    parsedBits (bitfieldBytes .Group1Var1 .UInt8 0 none stale []) = none := by
  rw [parsedBits, Option.map_eq_none_iff]
  suffices herror : APDUParser.headerReader {} 0
    (bitfieldBytes .Group1Var1 .UInt8 0 none stale []) =
      .error .NOT_ENOUGH_DATA_FOR_OBJECTS from parsedHeaders_of_error (List.cons_ne_nil _ _) herror
  set record := headerRecord GroupVariation.Group1Var1.inst (startStopCode .UInt8) 0 with hrecord
  have hlt : (UInt8.ofNat stale).toNat < 256 := UInt8.toNat_lt _
  -- What the buffer held is read as the stop index, of a range with one point or more.
  have hrange : (numParser .UInt8).rangeReader
    (writeNum .UInt8 0 ++ (writeNum .UInt8 stale ++ [])) =
      .ok ({ start := 0, stop := (UInt8.ofNat stale).toNat }, []) := by
    have h : (numParser .UInt8).rangeReader (writeNum .UInt8 0 ++
        (writeNum .UInt8 (UInt8.ofNat stale).toNat ++ [])) = _ :=
      rangeReader_writeNum (Nat.zero_le _) (Nat.le_of_lt_succ hlt) []
    rwa [writeNum, writeNum, UInt8.ofNat_toNat] at h
  have hqualifier : ∀ buffer, APDUParser.qualifierReader {} record buffer =
      RangeParser.reader (numParser .UInt8) {} record buffer := by
    intro buffer
    unfold APDUParser.qualifierReader
    rw [hrecord, getQualifierCode_headerRecord]
    rfl
  have henum : record.enumeration = .Group1Var1 := enumeration_headerRecord _ _ _
  simp only [bitfieldBytes, APDUParser.headerReader, Reader.bind,
    recordReader_headerBytes (s := GroupVariation.Group1Var1.inst) (by decide), ← hrecord,
    hqualifier, RangeParser.reader, Option.getD_none, hrange]
  -- The bits of one point or more take a byte, and there is none.
  have hobjects : RangeParser.objects record { start := 0, stop := (UInt8.ofNat stale).toNat } =
      (RangeParser.fromBitfieldType record
        { start := 0, stop := (UInt8.ofNat stale).toNat }).reader := by
    unfold RangeParser.objects RangeParser.select
    rw [henum]
    rfl
  have hrequired : 0 < (RangeParser.fromBitfieldType record
      { start := 0, stop := (UInt8.ofNat stale).toNat }).requiredSize := by
    have hcount : 0 < ({ start := 0, stop := (UInt8.ofNat stale).toNat } : Range).count := by
      rw [Range.count, if_pos (by simp [Range.isValid])]
      exact Nat.succ_pos _
    simp only [RangeParser.fromBitfieldType, numBytesInBits]
    split_ifs <;> omega
  change RangeParser.objects record _ [] = _
  rw [hobjects]
  unfold ObjectParser.reader Reader.block
  exact if_pos hrequired

/-- The fragments are parsed if the earlier ones and the last one are. -/
theorem mapM_concat_eq_some {fragments : List (List UInt8)} {fragment : List UInt8}
    {parsed : List (List (ℕ × Bool))} :
    (fragments ++ [fragment]).mapM parsedBits = some parsed ↔
      ∃ before points, fragments.mapM parsedBits = some before ∧
        parsedBits fragment = some points ∧ before ++ [points] = parsed := by
  rw [List.mapM_append]
  cases hfragments : fragments.mapM parsedBits with
  | none => simp
  | some before => cases hfragment : parsedBits fragment <;> simp [hfragment]

/-- A load or a change keeps the invariant of the report. -/
theorem PackedReport.step_inv (s : PackedReport α) (e : ℕ × Reporting α) (h : s.Inv) :
    (s.step e).Inv := by
  obtain ⟨stale, reporting⟩ := e
  cases reporting with
  | load size =>
    obtain ⟨points, htakes, hdone, -, -⟩ :=
      load_packed h.window h.increasing h.length h.packed size
    exact ⟨htakes.window, h.increasing.of_vIndices htakes.vIndices,
      by rw [PackedReport.step, length_of_vIndices htakes.vIndices]; exact h.length, htakes.packed,
      hdone⟩
  | change change =>
    -- A change of the values leaves the selection as it is.
    have huntouched := change.run_untouched .Binary s.db
    have hselection := fun cell => @exists_mem_of_report _ _ _ huntouched.cells cell
    have hwindow := h.window.congr huntouched.cells
    rw [← huntouched.ranges] at hwindow
    have hv := huntouched.keeps.vIndices
    refine ⟨hwindow, h.increasing.of_vIndices hv, ?_, fun cell hcell hselected => ?_,
      fun hcomplete => ?_⟩
    · rw [PackedReport.step, length_of_vIndices hv]
      exact h.length
    · obtain ⟨cell', hcell', heq⟩ := hselection cell hcell
      rw [← heq] at hselected ⊢
      exact h.packed cell' hcell' hselected
    · have hcleared := h.complete hcomplete
      refine ⟨fun cell hcell => ?_, huntouched.ranges.trans hcleared.range⟩
      obtain ⟨cell', hcell', heq⟩ := hselection cell hcell
      rw [← heq]
      exact hcleared.cells cell' hcell'

/-- A step keeps the report exact if and only if it fits. -/
theorem PackedReport.step_exact_iff (points : List (ℕ × Bool)) (s : PackedReport α)
    (e : ℕ × Reporting α) (h : s.Inv) : (s.step e).Exact points ↔ s.Exact points ∧ s.Fits e := by
  obtain ⟨stale, reporting⟩ := e
  cases reporting with
  | load size =>
    obtain ⟨taken, htakes, hdone, hdecodes, hover⟩ :=
      load_packed h.window h.increasing h.length h.packed size
    have hpending : pendingBits (s.db.cells .Binary) = taken.map bitPoint ++
        pendingBits ((s.db.load { remaining := size }).2.1.cells .Binary) := by
      rw [pendingBits, htakes.pending, List.map_append]
      rfl
    unfold PackedReport.step PackedReport.Exact PackedReport.Fits
    dsimp only
    simp only [mapM_concat_eq_some]
    by_cases hfits : s.db.Overruns size
    · -- The fragment is not parsed.
      constructor
      · rintro ⟨parsed, ⟨before, points', -, hparsed, -⟩, -⟩
        rw [hover hfits stale, parsedBits_stale] at hparsed
        cases hparsed
      · rintro ⟨-, hnot⟩
        exact absurd hfits hnot
    · have hfragment := (hdecodes hfits).parsedBits stale
      constructor
      · rintro ⟨parsed, ⟨before, points', hbefore, hparsed, rfl⟩, hpoints, -⟩
        rw [hfragment] at hparsed
        obtain rfl := Option.some.inj hparsed
        rw [List.flatten_append, List.flatten_singleton, List.append_assoc, ← hpending] at hpoints
        refine ⟨⟨before, hbefore, hpoints, fun hcomplete => ?_⟩, hfits⟩
        rw [← hpoints, pendingBits, (h.complete hcomplete).pending]
        exact (List.append_nil _).symm
      · rintro ⟨⟨before, hbefore, hpoints, -⟩, -⟩
        have hall : (before ++ [taken.map bitPoint]).flatten ++
            pendingBits ((s.db.load { remaining := size }).2.1.cells .Binary) = points := by
          rw [List.flatten_append, List.flatten_singleton, List.append_assoc, ← hpending, hpoints]
        refine ⟨_, ⟨before, _, hbefore, hfragment, rfl⟩, hall, fun hcomplete => ?_⟩
        rw [← hall, pendingBits, (hdone hcomplete).pending]
        exact (List.append_nil _).symm
  | change change =>
    have hpending : pendingBits ((change.run s.db).1.cells .Binary) =
        pendingBits (s.db.cells .Binary) := by
      rw [pendingBits, pending_congr (change.run_untouched .Binary s.db).cells]
      rfl
    unfold PackedReport.step PackedReport.Exact PackedReport.Fits
    dsimp only
    rw [hpending]
    exact (and_iff_left trivial).symm

/-- A read of packed binaries is answered exactly, unless a load overruns. The old selection is
cleared, binaries are selected as Group1Var1 and loaded into fragments of any sizes, with updates at
any time, after any operations on a new database. The parser takes from the bitfields of the
fragments the selected points, each once with its virtual index and its value at selection, if and
only if no load begins with the 256 points of a one-byte range and has the space for them. -/
theorem packed_report_exact_iff (db : DatabaseBuffers α)
    (hincreasing : Increasing (db.cells .Binary)) (hlength : (db.cells .Binary).length < 2 ^ 16)
    (hnew : Cleared .Binary db) (history : List (Operation α)) (selections : List (Selecting α))
    (steps : List (ℕ × Reporting α)) :
    let before := Machine.run Operation.apply db history
    let selection := Machine.run Tracked.step { db := before.unselect } selections
    let points := (recorded (vIndices (db.cells .Binary))
      (selection.snapshots .Binary)).map bitPoint
    let report := Machine.run PackedReport.step { db := selection.db } steps
    Packed (selection.db.cells .Binary) →
      (∀ i, (selection.snapshots .Binary i).isSome = isSelected (selection.db.cells .Binary) i) ∧
        (points.map Prod.fst).Pairwise (· < ·) ∧
        (report.Exact points ↔
          Machine.StepsMeet PackedReport.step PackedReport.Fits { db := selection.db } steps) := by
  obtain ⟨hwindow, hv⟩ := run_window (by decide) hnew.window history
  obtain ⟨hcleared, hv'⟩ := unselect_cleared (by decide) hwindow
  dsimp only
  generalize (Machine.run Operation.apply db history).unselect = db' at hcleared hv' ⊢
  intro hpacked
  -- After the selections the snapshots are what the operations recorded.
  have hselection := Tracked.run_inv hcleared selections
  rw [hv', hv] at hselection
  generalize Machine.run Tracked.step { db := db' } selections = selection at hselection hpacked ⊢
  have hinc := hincreasing.of_vIndices hselection.vIndices
  have hpending : pendingBits (selection.db.cells .Binary) =
      (recorded (vIndices (db.cells .Binary)) (selection.snapshots .Binary)).map bitPoint := by
    rw [pendingBits, pending_eq_recorded, hselection.vIndices, hselection.snapshots]
  have hinit : PackedReport.Inv { db := selection.db } := ⟨hselection.window, hinc,
    by rw [length_of_vIndices hselection.vIndices]; exact hlength, hpacked, fun h => by cases h⟩
  refine ⟨fun i => ?_, ?_, ?_⟩
  · rw [← hselection.snapshots, isSome_held]
  · rw [← hpending, pendingBits, List.map_map]
    exact hinc.pending
  · let points := (recorded (vIndices (db.cells .Binary))
      (selection.snapshots .Binary)).map bitPoint
    have hstep : ∀ (s : PackedReport α) (e : ℕ × Reporting α), s.Inv →
        (s.step e).Inv ∧ ((s.step e).Exact points ↔ s.Exact points ∧ s.Fits e) :=
      fun s e hs => ⟨s.step_inv e hs, s.step_exact_iff points e hs⟩
    rw [Machine.run_iff_stepsMeet PackedReport.step hstep hinit]
    exact and_iff_right ⟨[], rfl, hpending, fun h => by cases h⟩

/-- The points come in two fragments; the update of point 7 in between does not show. -/
theorem packed_report_exact_threeBinaries :
    PackedReport.Exact [(1, true), (2, false), (7, true)] (Machine.run PackedReport.step
      { db := (Machine.run Tracked.step { db := threeBinaries.unselect }
          [Selecting.all .Group1Var1]).db }
      [(0, .load 8), (0, .change (.update .Binary false 7 .Detect)), (0, .load 100)]) := by
  obtain ⟨-, -, hiff⟩ := @packed_report_exact_iff Bool _ threeBinaries
    (by unfold Increasing; decide) (by decide) ⟨by decide, rfl⟩ [] [Selecting.all .Group1Var1]
    [(0, .load 8), (0, .change (.update .Binary false 7 .Detect)), (0, .load 100)]
    (by unfold Packed; decide +kernel)
  refine hiff.mpr ⟨fun h => ?_, trivial, fun h => ?_, trivial⟩
  · exact absurd h.1.range (by decide +kernel)
  · exact absurd h.1.range (by decide +kernel)

/-! ## The load of 256 points -/

/-- A selection of all cells selects each of them. -/
theorem selectCells_range' (type : StaticType) (variation : Option GroupVariation) (ret : IINField)
    (done todo : List (Cell α)) (h : ∀ cell ∈ todo, cell.selection.selected = false) :
    selectCells type variation (List.range' done.length todo.length) ret (done ++ todo) =
      (ret, done ++ todo.map (selectCell type variation)) := by
  induction todo generalizing done with
  | nil => rfl
  | cons cell todo ih =>
    obtain ⟨hcell, htodo⟩ := List.forall_mem_cons.mp h
    have hget : (done ++ cell :: todo)[done.length]? = some cell := by simp
    have hrest := ih (done ++ [selectCell type variation cell]) htodo
    rw [List.length_append, List.length_singleton, List.append_assoc, List.append_assoc] at hrest
    rw [List.length_cons, List.range'_succ, selectCells, hget]
    dsimp only
    rw [if_neg (by simp [hcell]), set_split, List.map_cons]
    exact hrest

/-- `SelectAll` of a type of which nothing is selected selects all of its points. -/
theorem selectAllOf_of_cleared {db : DatabaseBuffers α} {type : StaticType}
    (h : Cleared type db) (hne : db.cells type ≠ []) (variation : Option GroupVariation) :
    (db.selectAllOf type variation).2 =
      db.set type ((db.cells type).map (selectCell type variation))
        (rangeOf (db.cells type).length) := by
  have hpos : 0 < (db.cells type).length := List.length_pos_iff.mpr hne
  have hrange : rangeOf (db.cells type).length =
      { start := 0, stop := (db.cells type).length - 1 } := if_pos hpos
  have hself : (rangeOf (db.cells type).length).intersection (rangeOf (db.cells type).length) =
      rangeOf (db.cells type).length := by
    simp only [Range.intersection, max_self, min_self]
  have hvalid : (rangeOf (db.cells type).length).isValid = true := by
    rw [hrange, isValid_iff]
    exact Nat.zero_le _
  have hcount : (rangeOf (db.cells type).length).count = (db.cells type).length := by
    rw [Range.count, if_pos hvalid, hrange]
    dsimp only
    omega
  have hunion : (db.ranges type).union (rangeOf (db.cells type).length) =
      rangeOf (db.cells type).length := by
    rw [h.range, hrange]
    simp [Range.union]
  have hcells := selectCells_range' type variation 0 [] (db.cells type) h.cells
  rw [List.length_nil, List.nil_append, List.nil_append] at hcells
  unfold selectAllOf genericSelect
  rw [if_pos hvalid, hself]
  dsimp only
  rw [if_pos hvalid, if_pos rfl, hcount, hunion, show (rangeOf (db.cells type).length).start = 0 by
    rw [hrange], hcells]

/-- The 256 points of a one-byte range. -/
def fullRange : DatabaseBuffers Bool where
  cells
    | .Binary => (List.range 256).map fun i => binaryCell (UInt16.ofNat i) true
    | _ => []

/-- The selection of the 256 points as packed binaries. -/
theorem selectAll_fullRange :
    (Machine.run Tracked.step { db := fullRange.unselect } [Selecting.all .Group1Var1]).db =
      fullRange.set .Binary
        ((List.range 256).map fun i =>
          selectCell .Binary (some .Group1Var1) (binaryCell (UInt16.ofNat i) true))
        { start := 0, stop := 255 } := by
  have hunselect : fullRange.unselect = fullRange := rfl
  have hcells : fullRange.cells .Binary =
      (List.range 256).map fun i => binaryCell (UInt16.ofNat i) true := rfl
  have hcleared : Cleared .Binary fullRange := by
    refine ⟨fun cell hcell => ?_, rfl⟩
    obtain ⟨i, -, rfl⟩ := List.mem_map.mp hcell
    rfl
  have hselect := selectAllOf_of_cleared hcleared
    (by rw [hcells]; exact List.cons_ne_nil _ _) (some .Group1Var1)
  rw [hcells, List.map_map, List.length_map, List.length_range, Function.comp_def] at hselect
  have hselectAll : ∀ db : DatabaseBuffers Bool,
      (Machine.run Tracked.step { db } [Selecting.all .Group1Var1]).db =
        (db.selectAllOf .Binary (some .Group1Var1)).2 := fun _ => rfl
  have hrange : rangeOf 256 = { start := 0, stop := 255 } := rfl
  rw [hunselect, hselectAll, hselect, hrange]

/-- The cell of the selection at a position. -/
theorem selected_fullRange (i : ℕ) (hi : i < 256) :
    ((List.range 256).map fun i =>
      selectCell .Binary (some .Group1Var1) (binaryCell (UInt16.ofNat i) true))[i]? =
        some (selectCell .Binary (some .Group1Var1) (binaryCell (UInt16.ofNat i) true)) := by
  rw [List.getElem?_map, List.getElem?_range hi]
  rfl

/-- The cells of the whole one-byte range have increasing indices. -/
theorem increasing_fullRange (f : Cell Bool → Cell Bool)
    (h : ∀ cell, (f cell).config.vIndex = cell.config.vIndex) :
    Increasing ((List.range 256).map fun i => f (binaryCell (UInt16.ofNat i) true)) := by
  rw [Increasing, List.map_map, List.pairwise_map]
  refine List.Pairwise.imp_of_mem ?_ (List.pairwise_lt_range (n := 256))
  intro i j hi hj hij
  have hi := List.mem_range.mp hi
  have hj := List.mem_range.mp hj
  simp only [Function.comp_apply, h, binaryCell]
  rw [UInt16.toNat_ofNat_of_lt' (by omega : i < 65536),
    UInt16.toNat_ofNat_of_lt' (by omega : j < 65536)]
  exact hij

/-- A report with the space for the 256 points does not deliver them. -/
theorem packed_not_exact_fullRange {selection : Tracked Bool}
    (hselection : selection.db = fullRange.set .Binary
      ((List.range 256).map fun i =>
        selectCell .Binary (some .Group1Var1) (binaryCell (UInt16.ofNat i) true))
      { start := 0, stop := 255 }) :
    Packed (selection.db.cells .Binary) ∧ ∀ points,
      ¬(Machine.run PackedReport.step { db := selection.db } [(0, .load 2048)]).Exact points := by
  have hcells := congrFun (congrArg DatabaseBuffers.cells hselection) .Binary
  have hrange := congrFun (congrArg DatabaseBuffers.ranges hselection) .Binary
  rw [set_cells_self] at hcells
  rw [set_ranges_self] at hrange
  have hlength : (selection.db.cells .Binary).length = 256 := by
    rw [hcells, List.length_map, List.length_range]
  have hpacked : Packed (selection.db.cells .Binary) := by
    intro cell hcell _
    rw [hcells] at hcell
    obtain ⟨i, -, rfl⟩ := List.mem_map.mp hcell
    rfl
  have hwindow : Window (selection.db.cells .Binary) (selection.db.ranges .Binary) := by
    rw [hrange]
    refine ⟨fun _ => by rw [hlength]; decide, fun h => absurd rfl h, fun i cell hcell _ => ?_⟩
    have hi := (List.getElem?_eq_some_iff.mp hcell).1
    rw [hlength] at hi
    exact ⟨Nat.zero_le i, Nat.le_of_lt_succ hi⟩
  have hinit : PackedReport.Inv { db := selection.db } := by
    refine ⟨hwindow, ?_, by dsimp only; rw [hlength]; decide, hpacked, fun h => by cases h⟩
    dsimp only
    rw [hcells]
    exact increasing_fullRange _ fun _ => rfl
  -- All 256 points are selected and have room, so the 8-bit count of the header wraps.
  have hover : selection.db.Overruns 2048 := by
    refine ⟨⟨hrange, fun i hi => ?_⟩, by decide⟩
    rw [hcells]
    refine ⟨_, selected_fullRange i hi, rfl, ?_⟩
    exact UInt16.toNat_ofNat_of_lt' (lt_trans hi (by decide))
  refine ⟨hpacked, fun points hexact => ?_⟩
  rw [Machine.run_cons, Machine.run_nil, PackedReport.step_exact_iff _ _ _ hinit] at hexact
  exact hexact.2 hover

/-- The load begins with the 256 points and has the space for them, so that the parser takes none of
them, while they are no longer selected. -/
theorem packed_report_not_exact_fullRange :
    let selection := Machine.run Tracked.step { db := fullRange.unselect }
      [Selecting.all .Group1Var1]
    let report := Machine.run PackedReport.step { db := selection.db } [(0, .load 2048)]
    Increasing (fullRange.cells .Binary) ∧ Packed (selection.db.cells .Binary) ∧
      ¬report.Exact ((recorded (vIndices (fullRange.cells .Binary))
        (selection.snapshots .Binary)).map bitPoint) := by
  dsimp only
  obtain ⟨hpacked, hnot⟩ := packed_not_exact_fullRange selectAll_fullRange
  exact ⟨increasing_fullRange id fun _ => rfl, hpacked, hnot _⟩

end OpenDnp3.Outstation.DatabaseBuffers
