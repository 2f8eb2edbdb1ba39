import OpenDnp3.App.Bitfield
import OpenDnp3.Outstation.StaticReport

/-!
# The bitfields of a load

The packed binaries of a header as the parser takes them, and a bitfield as
`LoadWithBitfieldIterator` writes it: a start and a stop index of one or two bytes, and one bit for
each point. The counter of the iterator is as wide as the indices. While the points of a bitfield do
not fill it, the parser takes from the bytes exactly the points that were written.
-/

namespace OpenDnp3.Outstation.DatabaseBuffers

open App

variable {α : Type*}

/-! ## What is parsed -/

/-- The bytes of a header of packed binaries, over a buffer that held `stale` in the place of the
stop index. -/
def packedBytes (stale : ℕ) : ObjectHeader α → List UInt8
  | .bitfield .Group1Var1 index start stop bytes =>
    bitfieldBytes .Group1Var1 index start stop stale bytes
  | _ => []

/-- The bits of a header that the parser delivers. -/
def bitsOf : HeaderCall → List (ℕ × Bool)
  | .rangeValues _ _ values => values.filterMap fun entry =>
    match entry.value with
    | .bit value => some (entry.index, value)
    | _ => none
  | _ => []

/-- The bits of a fragment that the parser accepts. -/
def parsedBits (fragment : List UInt8) : Option (List (ℕ × Bool)) :=
  (parsedHeaders fragment).map fun headers => headers.flatMap bitsOf

/-- The parser takes these points from the packed binaries of the headers. -/
def Decodes (headers : List (ObjectHeader α)) (points : List (ℕ × Bool)) : Prop :=
  ∀ stale place, ∃ calls,
    Reader.Segments (APDUParser.headerReader {}) place (headers.flatMap (packedBytes stale)) calls ∧
      calls.flatMap bitsOf = points

/-- No header has no point. -/
theorem Decodes.nil : Decodes ([] : List (ObjectHeader α)) [] :=
  fun _ place => ⟨[], .nil place, rfl⟩

/-- The points of headers one after the other. -/
theorem Decodes.append {headers headers' : List (ObjectHeader α)} {points points' : List (ℕ × Bool)}
    (h : Decodes headers points) (h' : Decodes headers' points') :
    Decodes (headers ++ headers') (points ++ points') := by
  intro stale place
  obtain ⟨calls, hsegments, hpoints⟩ := h stale place
  obtain ⟨calls', hsegments', hpoints'⟩ := h' stale (place + calls.length)
  refine ⟨calls ++ calls', ?_, by rw [List.flatMap_append, hpoints, hpoints']⟩
  rw [List.flatMap_append]
  exact hsegments.append hsegments'

/-- The parser takes the points from a fragment of the headers. -/
theorem Decodes.parsedBits {headers : List (ObjectHeader α)} {points : List (ℕ × Bool)}
    (h : Decodes headers points) (stale : ℕ) :
    parsedBits (headers.flatMap (packedBytes stale)) = some points := by
  obtain ⟨calls, hsegments, hpoints⟩ := h stale 0
  rw [DatabaseBuffers.parsedBits, parsedHeaders_of_segments hsegments, Option.map_some, hpoints]

/-- The parsed values of a range have consecutive indices. -/
theorem bitsOf_bitValues (record : HeaderRecord) (range : Range) (start : ℕ) (bits : List Bool) :
    bitsOf (.rangeValues record range (bitValues start bits)) =
      (List.range' start bits.length).zip bits := by
  rw [bitsOf, bitValues, List.filterMap_map]
  exact List.filterMap_some ..

/-- A bitfield that is complete decodes to its bits. -/
theorem Decodes.bitfield {index : IndexType} {start : ℕ} {bytes : List UInt8} {bits : List Bool}
    (hne : bits ≠ []) (hfits : start + bits.length ≤ index.max + 1) (hpacks : Packs bytes bits) :
    Decodes [(.bitfield .Group1Var1 index start (some (start + bits.length - 1)) bytes :
      ObjectHeader α)] ((List.range' start bits.length).zip bits) := by
  intro stale place
  have htakes := takes_bitfieldBytes hne hfits hpacks stale place
  generalize headerRecord GroupVariation.Group1Var1.inst (startStopCode index) place = record
    at htakes
  have hbytes : [(.bitfield .Group1Var1 index start (some (start + bits.length - 1)) bytes :
      ObjectHeader α)].flatMap (packedBytes stale) =
        bitfieldBytes .Group1Var1 index start (some (start + bits.length - 1))
          stale bytes ++ [] := by
    rw [List.flatMap_singleton, List.append_nil]
    rfl
  refine ⟨[.rangeValues record { start, stop := start + bits.length - 1 } (bitValues start bits)],
    ?_, ?_⟩
  · rw [hbytes]
    exact .cons (List.cons_ne_nil _ _) htakes (.nil _)
  · rw [List.flatMap_singleton, bitsOf_bitValues]

/-- Headers of other types have no packed binaries. -/
theorem packedBytes_of_headerType {type : StaticType} (htype : type ≠ .Binary)
    {headers : List (ObjectHeader α)} (h : ∀ header ∈ headers, headerType header = some type)
    (stale : ℕ) : headers.flatMap (packedBytes stale) = [] := by
  refine List.flatMap_eq_nil_iff.mpr fun header hmem => ?_
  have hheader := h header hmem
  unfold packedBytes
  split
  · exact absurd (Option.some.inj hheader).symm htype
  · rfl

/-- Headers without packed binaries have no point. -/
theorem Decodes.of_packedBytes {headers : List (ObjectHeader α)}
    (h : ∀ stale, headers.flatMap (packedBytes stale) = []) : Decodes headers [] := by
  intro stale place
  rw [h]
  exact ⟨[], .nil place, rfl⟩

/-! ## One bitfield -/

variable [MeasurementSpec α]

/-- The point of a binary, with its value. -/
def bitPoint (point : ℕ × α) : ℕ × Bool := (point.1, MeasurementSpec.bit point.2)

/-- The binaries that are selected, in the order of the cells. -/
def pendingBits (cells : List (Cell α)) : List (ℕ × Bool) := (pending cells).map bitPoint

/-- The range is that of the 256 points of a one-byte index, which are all selected. -/
structure IsFull (cells : List (Cell α)) (range : Range) : Prop where
  range : range = { start := 0, stop := 255 }
  cells : ∀ i < 256, ∃ cell, cells[i]? = some cell ∧ cell.selection.selected ∧
    cell.config.vIndex.toNat = i

/-- The bits of a row of points are the bits of its values. -/
theorem map_bitPoint_zip (start : ℕ) (values : List α) :
    ((List.range' start values.length).zip values).map bitPoint =
      (List.range' start (values.map MeasurementSpec.bit).length).zip
        (values.map MeasurementSpec.bit) := by
  rw [List.length_map, List.zip_map_right]
  rfl

/-- The bits that the iterator has packed are those of the objects that a range header would have.
-/
structure PacksObjects (iterator : BitfieldRangeWriteIterator) (objects : List α) : Prop where
  packs : Packs iterator.bytes (objects.map MeasurementSpec.bit)
  count : iterator.count = iterator.index.cast objects.length

/-- The range header with the indices of the bitfield. -/
def asRange (iterator : BitfieldRangeWriteIterator) (objects : List α) : RangeWriteIterator α where
  serializer := iterator.gv.inst
  index := iterator.index
  start := iterator.start
  objects := objects

/-- What a part of a load has taken: the cells of a variation in a row, with these objects. -/
structure TakesRow (variation : GroupVariation) (p p' : Loading α) (start : ℕ) (objects : List α) :
    Prop where
  lists : Lists p p' ((List.range' start objects.length).zip objects)
  count : p'.range.count + objects.length = p.range.count
  writer : p'.writer = p.writer
  range : p'.range.isValid →
    p'.range = { start := p.range.start + objects.length, stop := p.range.stop }
  kept : p'.range.isValid → ∀ i, p.range.start + objects.length ≤ i → p'.cells[i]? = p.cells[i]?
  cells : ∀ i < objects.length, ∃ cell, p.cells[p.range.start + i]? = some cell ∧
    cell.selection.selected ∧ cell.config.vIndex.toNat = start + i ∧
    cell.selection.variation = variation

omit [MeasurementSpec α] in
/-- The row without an object. -/
theorem TakesRow.refl (variation : GroupVariation) {p : Loading α} (h : Window p.cells p.range)
    (start : ℕ) : TakesRow variation p p start [] :=
  ⟨.refl h, rfl, rfl, fun _ => rfl, fun _ _ _ => rfl, fun _ hi => absurd hi (Nat.not_lt_zero _)⟩

omit [MeasurementSpec α] in
/-- The next range starts one position later. -/
theorem range_next {p : Loading α} {cell : Cell α} (hvalid : p.range.isValid)
    (h : (p.next cell).range.isValid) :
    (p.next cell).range = { start := p.range.start + 1, stop := p.range.stop } := by
  change p.range.advance.isValid at h
  change p.range.advance = _
  unfold Range.advance at h ⊢
  rw [if_pos hvalid] at h ⊢
  split_ifs at h ⊢ with hlt
  · rfl
  · cases h

omit [MeasurementSpec α] in
/-- A cell in front of a row makes a longer row. -/
theorem TakesRow.cons {variation : GroupVariation} {p p' : Loading α} {cell : Cell α} {start : ℕ}
    {objects : List α} (hwindow : Window p.cells p.range) (hvalid : p.range.isValid)
    (hcell : p.cells[p.range.start]? = some cell) (hselected : cell.selection.selected)
    (hvariation : cell.selection.variation = variation)
    (hindex : cell.config.vIndex.toNat = start)
    (h : TakesRow variation (p.next cell) p' (start + 1) objects) :
    TakesRow variation p p' start (cell.selection.value :: objects) := by
  obtain ⟨hlists, hcount⟩ := Loading.next_lists hwindow hvalid hcell hselected p.writer
  have hnext : ({ p with writer := p.writer } : Loading α).next cell = p.next cell := rfl
  rw [hnext] at hlists hcount
  have hcount' := h.count
  -- The range has moved to the second cell, if there is one.
  have hmiddle : 0 < (p.next cell).range.count →
      (p.next cell).range = { start := p.range.start + 1, stop := p.range.stop } := by
    intro hpos
    refine range_next hvalid ?_
    by_contra hnot
    have hzero : (p.next cell).range.count = 0 := if_neg hnot
    omega
  have hkeep : ∀ i, p.range.start + 1 ≤ i → (p.next cell).cells[i]? = p.cells[i]? :=
    fun i hi => List.getElem?_set_ne (by omega)
  have hpos : p'.range.isValid → 0 < p'.range.count := by
    intro hvalid'
    by_contra hzero
    exact count_eq_zero (Nat.eq_zero_of_not_pos hzero) hvalid'
  refine ⟨?_, ?_, h.writer, fun hvalid' => ?_, fun hvalid' i hi => ?_, fun i hi => ?_⟩
  · have hall := hlists.trans h.lists
    rw [point, hindex] at hall
    exact hall
  · rw [List.length_cons]
    omega
  · have hcount'' := hpos hvalid'
    rw [h.range hvalid', hmiddle (by omega), List.length_cons]
    simp only [Range.mk.injEq, and_true]
    omega
  · rw [List.length_cons] at hi
    have hcount'' := hpos hvalid'
    have hstart := congrArg Range.start (hmiddle (by omega))
    dsimp only at hstart
    rw [h.kept hvalid' i (by omega), hkeep i (by omega)]
  · cases i with
    | zero => exact ⟨cell, hcell, hselected, hindex, hvariation⟩
    | succ i =>
      have hlt : i < objects.length := Nat.lt_of_succ_lt_succ hi
      have hstart := congrArg Range.start (hmiddle (by omega))
      dsimp only at hstart
      obtain ⟨other, hother, hsel, hvindex, hsame⟩ := h.cells i hlt
      rw [hstart, hkeep _ (by omega)] at hother
      exact ⟨other, by rw [← hother]; congr 1; omega, hsel, by omega, hsame⟩

/-- The loop of a bitfield takes cells in a row and packs their bits. It stops where no cell goes on
with the header or the space is used up. -/
theorem Loading.loadWithBitfieldIterator_spec (variation : GroupVariation) (fuel : ℕ)
    {nextIndex : UInt16} {iterator : BitfieldRangeWriteIterator} {p : Loading α} {objects : List α}
    (hwindow : Window p.cells p.range) (hincreasing : Increasing p.cells)
    (haligned : Aligned (asRange iterator objects) nextIndex p)
    (hpacks : PacksObjects iterator objects) (hspace : objects.length ≤ iterator.maxCount) :
    ∃ ret new count bytes p', loadWithBitfieldIterator variation fuel nextIndex iterator p =
        (ret, { iterator with count, bytes }, p') ∧
      PacksObjects { iterator with count, bytes } (objects ++ new) ∧
      TakesRow variation p p' (iterator.start + objects.length) new ∧
      (objects ++ new ≠ [] →
        iterator.start + (objects ++ new).length ≤ iterator.index.max + 1) ∧
      (objects ++ new).length ≤ iterator.maxCount ∧
      (ret = false → iterator.maxCount ≤ (objects ++ new).length ∧ p'.range.isValid) ∧
      (ret = true → p.range.count ≤ fuel →
        p'.continues variation (nextIndex + UInt16.ofNat new.length) = none) := by
  induction fuel generalizing nextIndex iterator p objects with
  | zero =>
    refine ⟨true, [], iterator.count, iterator.bytes, p, rfl, ?_, .refl _ hwindow _, ?_, ?_,
      fun hret => (by cases hret), fun _ hcount => ?_⟩
    · rw [List.append_nil]
      exact hpacks
    · rw [List.append_nil]
      exact haligned.fits
    · rw [List.append_nil]
      exact hspace
    · exact if_neg (count_eq_zero (Nat.le_zero.mp hcount))
  | succ fuel ih =>
    unfold loadWithBitfieldIterator
    cases hcontinues : p.continues variation nextIndex with
    | none =>
      refine ⟨true, [], iterator.count, iterator.bytes, p, rfl, ?_, .refl _ hwindow _, ?_, ?_,
        fun hret => (by cases hret), fun _ _ => ?_⟩
      · rw [List.append_nil]
        exact hpacks
      · rw [List.append_nil]
        exact haligned.fits
      · rw [List.append_nil]
        exact hspace
      · rw [← hcontinues]
        exact congrArg (p.continues variation) (UInt16.add_zero nextIndex)
    | some cell =>
      obtain ⟨hvalid, hcell, hselected, hindex, hvariation⟩ := continues_eq_some hcontinues
      obtain ⟨heq, hnext⟩ := haligned.next hincreasing hvalid hcell hindex p.writer
      -- The counter has not come round yet.
      have hfits := hnext.fits (by simp)
      rw [List.length_append, List.length_singleton] at hfits
      dsimp only [asRange] at hfits heq
      have hcount : iterator.count = objects.length := by
        rw [hpacks.count, cast_of_le (by omega)]
      dsimp only
      by_cases hless : objects.length < iterator.maxCount
      · have hmap : iterator.count = (objects.map MeasurementSpec.bit).length := by
          rw [hcount, List.length_map]
        obtain ⟨bytes, hwrite, hpacks'⟩ := BitfieldRangeWriteIterator.write_packs hmap hpacks.packs
          (by rw [hcount]; exact hless) (MeasurementSpec.bit cell.selection.value)
        rw [hwrite]
        dsimp only
        have hwindow' := (next_lists hwindow hvalid hcell hselected p.writer).1
        rw [List.length_map]
        let iterator' := { iterator with count := iterator.index.cast (objects.length + 1), bytes }
        have hobjects : PacksObjects iterator' (objects ++ [cell.selection.value]) :=
          ⟨by rw [List.map_append]; exact hpacks', by rw [List.length_append]; rfl⟩
        have hnext' : Aligned (asRange iterator' (objects ++ [cell.selection.value]))
            (nextIndex + 1) (p.next cell) := hnext
        obtain ⟨ret, new, count, bytes', p', hrun, hpacks'', hrow, hfits', hlen, hfull, hdone⟩ :=
          ih hwindow'.window (hincreasing.of_vIndices hwindow'.vIndices) hnext' hobjects
            (by rw [List.length_append]; exact hless)
        rw [List.append_assoc, List.singleton_append] at hpacks'' hfits' hlen hfull
        rw [List.length_append, List.length_singleton, ← Nat.add_assoc] at hrow
        refine ⟨ret, cell.selection.value :: new, count, bytes', p', hrun, hpacks'',
          .cons hwindow hvalid hcell hselected hvariation heq hrow, hfits', hlen, hfull,
            fun hret hfuel => ?_⟩
        have hcount' := (next_lists hwindow hvalid hcell hselected p.writer).2
        change (p.next cell).range.count + 1 = p.range.count at hcount'
        have hnone := hdone hret (show (p.next cell).range.count ≤ fuel by omega)
        rw [List.length_cons, Nat.add_comm, UInt16.ofNat_add, ← UInt16.add_assoc]
        exact hnone
      · have hwrite : iterator.write (MeasurementSpec.bit cell.selection.value) = none := by
          unfold BitfieldRangeWriteIterator.write
          exact if_neg (by omega)
        rw [hwrite]
        refine ⟨false, [], iterator.count, iterator.bytes, p, rfl, ?_, .refl _ hwindow _, ?_, ?_,
          fun _ => ?_, fun hret => (by cases hret)⟩
        · rw [List.append_nil]
          exact hpacks
        · rw [List.append_nil]
          exact haligned.fits
        · rw [List.append_nil]
          exact hspace
        · rw [List.append_nil]
          exact ⟨by omega, hvalid⟩

/-- The header of a bitfield is complete, unless the counter has come round to zero. -/
theorem BitfieldRangeWriteIterator.finish_packed {iterator : BitfieldRangeWriteIterator}
    {objects : List α} (hgv : iterator.gv = .Group1Var1) (hpacks : PacksObjects iterator objects)
    (hne : objects ≠ []) (hfits : iterator.start + objects.length ≤ iterator.index.max + 1)
    (w : HeaderWriter α) :
    (objects.length ≤ iterator.index.max → ∃ bytes, Packs bytes (objects.map MeasurementSpec.bit) ∧
      (iterator.finish w).headers = w.headers ++ [.bitfield .Group1Var1 iterator.index
        iterator.start (some (iterator.start + objects.length - 1)) bytes]) ∧
    (objects.length = iterator.index.max + 1 → (iterator.finish w).headers =
      w.headers ++ [.bitfield .Group1Var1 iterator.index iterator.start none []]) := by
  have hcount := hpacks.count
  constructor
  · intro hle
    have hpos := List.length_pos_iff.mpr hne
    have hbytes := hpacks.packs.length
    rw [numBytesInBits_eq, List.length_map] at hbytes
    rw [cast_of_le hle] at hcount
    refine ⟨iterator.bytes, hpacks.packs, ?_⟩
    unfold BitfieldRangeWriteIterator.finish
    rw [if_neg (by omega), hcount, cast_of_le (by omega)]
    dsimp only [HeaderWriter.push, HeaderWriter.advance]
    rw [List.take_of_length_le (by omega), hgv]
  · intro hlen
    have hzero : iterator.count = 0 := by
      rw [hcount, IndexType.cast, hlen, Nat.mod_self]
    unfold BitfieldRangeWriteIterator.finish
    rw [if_pos hzero, hgv]
    rfl

/-- The cells that a bitfield takes, and where it stops: at the end of the space, or where no cell
goes on with it. -/
structure BitfieldRow (variation : GroupVariation) (p : Loading α) (vIndex : ℕ) (index : IndexType)
    (ret : Bool) (iterator : BitfieldRangeWriteIterator) (objects : List α) (p' : Loading α) :
    Prop where
  gv_eq : iterator.gv = .Group1Var1
  index_eq : iterator.index = index
  start_eq : iterator.start = vIndex
  packs : PacksObjects iterator objects
  ne_nil : objects ≠ []
  fits : vIndex + objects.length ≤ index.max + 1
  headers : p'.writer.headers = p.writer.headers
  row : TakesRow variation { p with writer := p'.writer } p' vIndex objects
  space : objects.length ≤ (p.writer.remaining - 3 - 2 * index.size) * 8
  full : ret = false →
    (p.writer.remaining - 3 - 2 * index.size) * 8 ≤ objects.length ∧ p'.range.isValid
  stopped : ret = true → p'.continues variation (UInt16.ofNat (vIndex + objects.length)) = none

/-- The bitfield takes a row and has the bits of its objects, as far as there is space. -/
theorem Loading.writeSingleBitfield_row {p : Loading α} (hwindow : Window p.cells p.range)
    (hincreasing : Increasing p.cells) (hvalid : p.range.isValid) {start : Cell α}
    (hstart : p.cells[p.range.start]? = some start) (hselected : start.selection.selected) :
    let index : IndexType := if (p.mapped start).isOneByte then .UInt8 else .UInt16
    (p.writer.remaining < 4 + 2 * index.size ∧
      p.writeSingleBitfield .Group1Var1 start = (false, p)) ∨
      ∃ ret iterator objects p', p.writeSingleBitfield .Group1Var1 start =
          (ret, { p' with writer := iterator.finish p'.writer }) ∧
        BitfieldRow start.selection.variation p start.config.vIndex.toNat index ret iterator objects
          p' := by
  intro index
  have haligned := p.aligned_start hwindow hincreasing hvalid hstart GroupVariation.Group1Var1.inst
  unfold writeSingleBitfield BitfieldRangeWriteIterator.iterateOverSingleBitfield
    HeaderWriter.writeHeaderWithReserve
  dsimp only at haligned ⊢
  by_cases hless : p.writer.remaining < 3 + (2 * index.size + 1)
  · left
    rw [if_pos hless]
    exact ⟨by omega, rfl⟩
  · right
    rw [if_neg hless]
    dsimp only [HeaderWriter.advance]
    have hcast : index.cast (p.mapped start).start = start.config.vIndex.toNat := by
      have hlow := (haligned p.writer).high _ _ hstart hvalid ((isValid_iff _).mp hvalid)
      exact cast_of_le hlow
    let p₀ : Loading α := { p with writer :=
      { p.writer with remaining := p.writer.remaining - 3 - 2 * index.size } }
    let iterator : BitfieldRangeWriteIterator := ⟨.Group1Var1, index,
      index.cast (p.mapped start).start, 0, (p.writer.remaining - 3 - 2 * index.size) * 8, []⟩
    have hinit : PacksObjects iterator ([] : List α) := ⟨.nil, (Nat.zero_mod _).symm⟩
    have hwindow' : Window p₀.cells p₀.range := hwindow
    have haligned' : Aligned (asRange iterator ([] : List α)) start.config.vIndex p₀ := haligned _
    obtain ⟨ret, new, count, bytes, p', hrun, hpacks, hrow, hfits, hspace, hfull, hstopped⟩ :=
      loadWithBitfieldIterator_spec start.selection.variation p.range.count hwindow' hincreasing
        haligned' hinit (Nat.zero_le _)
    rw [hrun]
    rw [List.nil_append] at hpacks hfits hspace hfull
    rw [List.length_nil, Nat.add_zero] at hrow
    dsimp only [iterator, p₀] at hrow hfits hspace hfull
    rw [hcast] at hrow hfits
    have hne : new ≠ [] := by
      rintro rfl
      cases ret with
      | false =>
        have hle := (hfull rfl).1
        rw [List.length_nil] at hle
        omega
      | true =>
        -- The first cell goes on with the header.
        have hcount : p'.range.count = p.range.count := hrow.count
        have hvalid' : p'.range.isValid := by
          by_contra hnot
          have hzero : p'.range.count = 0 := if_neg hnot
          exact count_eq_zero (hcount.symm.trans hzero) hvalid
        have hrange : p'.range = p.range := hrow.range hvalid'
        have hcell : p'.cells[p.range.start]? = some start :=
          (hrow.kept hvalid' _ le_rfl).trans hstart
        have hnone := hstopped rfl le_rfl
        rw [continues, hrange, if_pos hvalid, hcell] at hnone
        simp [hselected] at hnone
    refine ⟨ret, _, new, p', rfl, rfl, rfl, hcast, hpacks, hne, hfits hne, ?_, ?_,
      hspace, hfull, ?_⟩
    · rw [hrow.writer]
    · rw [hrow.writer]
      exact hrow
    · intro hret
      have hnone := hstopped hret le_rfl
      rw [UInt16.ofNat_add, UInt16.ofNat_toNat]
      exact hnone

omit [MeasurementSpec α] in
/-- The window is no larger than the cells. -/
theorem Window.count_le {cells : List (Cell α)} {range : Range} (h : Window cells range) :
    range.count ≤ cells.length := by
  unfold Range.count
  split_ifs with hvalid
  · have hstop := h.inside hvalid
    omega
  · exact Nat.zero_le _

/-- The load begins with the 256 points of a one-byte range and has the space for them. -/
def Loading.Overruns (p : Loading α) : Prop := IsFull p.cells p.range ∧ 37 ≤ p.writer.remaining

/-- The counter of a bitfield comes round to zero at 256 points of a one-byte range only. -/
theorem BitfieldRow.length_le_or_overruns {variation : GroupVariation} {p p' : Loading α}
    {start : Cell α} {ret : Bool} {iterator : BitfieldRangeWriteIterator} {objects : List α}
    {index : IndexType}
    (h : BitfieldRow variation p start.config.vIndex.toNat index ret iterator objects p')
    (hindex : index = if (p.mapped start).isOneByte then .UInt8 else .UInt16)
    (hwindow : Window p.cells p.range) (hincreasing : Increasing p.cells)
    (hvalid : p.range.isValid) (hstart : p.cells[p.range.start]? = some start)
    (hlength : p.cells.length < 2 ^ 16) :
    objects.length ≤ index.max ∨ index = .UInt8 ∧ objects.length = 256 ∧ p.Overruns := by
  have hfits := h.fits
  have hspace := h.space
  have hcount : p'.range.count + objects.length = p.range.count := h.row.count
  have hle := hwindow.count_le
  by_cases hone : (p.mapped start).isOneByte
  swap
  · -- There are fewer points than a two-byte counter can count.
    rw [if_neg hone] at hindex
    subst hindex
    left
    change objects.length ≤ 65535
    omega
  rw [if_pos hone] at hindex
  subst hindex
  by_cases hsmall : objects.length ≤ IndexType.UInt8.max
  · exact .inl hsmall
  right
  dsimp only [IndexType.max] at hfits hsmall
  have hlen : objects.length = 256 := by omega
  have hzero : start.config.vIndex.toNat = 0 := by omega
  -- The first cell has index 0, so that it is at position 0, and the last one has at most 255.
  have hstop := hwindow.inside hvalid
  have hle' := (isValid_iff _).mp hvalid
  obtain ⟨first, hfirst⟩ : ∃ first, p.cells[0]? = some first :=
    ⟨_, List.getElem?_eq_getElem (by omega)⟩
  obtain ⟨last, hlast⟩ : ∃ last, p.cells[p.range.stop]? = some last :=
    ⟨_, List.getElem?_eq_getElem hstop⟩
  have hadd := hincreasing.add_le hfirst hstart (Nat.zero_le _)
  have hadd' := hincreasing.add_le hstart hlast hle'
  have hmax : last.config.vIndex.toNat ≤ 255 := by
    simp only [Range.isOneByte, Loading.mapped, hlast, Bool.and_eq_true, decide_eq_true_eq] at hone
    exact hone.2
  have hsum : p.range.count = p.range.stop - p.range.start + 1 := if_pos hvalid
  have hrange : p.range = { start := 0, stop := 255 } := by
    have hpos : p.range.start = 0 := by omega
    have hlast' : p.range.stop = 255 := by omega
    rw [← hpos, ← hlast']
  refine ⟨rfl, hlen, ⟨hrange, fun i hi => ?_⟩, ?_⟩
  · obtain ⟨cell, hcell, hselected, hvindex, -⟩ := h.row.cells i (by omega)
    dsimp only at hcell
    rw [hrange, Nat.zero_add] at hcell
    exact ⟨cell, hcell, hselected, by omega⟩
  · dsimp only [IndexType.size] at hspace
    omega

/-- Where the load begins with the 256 points of a one-byte range and has the space for them, the
bitfield takes all of them. -/
theorem BitfieldRow.of_overruns {p p' : Loading α} {start : Cell α} {ret : Bool}
    {iterator : BitfieldRangeWriteIterator} {objects : List α} {index : IndexType}
    (h : BitfieldRow start.selection.variation p start.config.vIndex.toNat index ret
      iterator objects
      p')
    (hindex : index = if (p.mapped start).isOneByte then .UInt8 else .UInt16)
    (hstart : p.cells[p.range.start]? = some start)
    (hpacked : ∀ cell ∈ p.cells, cell.selection.selected → cell.selection.variation = .Group1Var1)
    (hoverruns : p.Overruns) :
    index = .UInt8 ∧ objects.length = 256 ∧ start.config.vIndex.toNat = 0 ∧ ret = true ∧
      p'.range.count = 0 := by
  obtain ⟨⟨hrange, hcells⟩, hremaining⟩ := hoverruns
  obtain ⟨first, hfirst, hselected, hzero⟩ := hcells 0 (by omega)
  obtain ⟨last, hlast, -, hmax⟩ := hcells 255 (by omega)
  have hrow := h.row
  have hfits := h.fits
  rw [hrange] at hstart
  obtain rfl : first = start := Option.some.inj (hfirst.symm.trans hstart)
  have hone : (p.mapped first).isOneByte = true := by
    have hstop : p.cells[p.range.stop]? = some last := by rw [hrange]; exact hlast
    simp only [Range.isOneByte, Loading.mapped, hstop, hzero, hmax]
    decide
  rw [if_pos hone] at hindex
  subst hindex
  dsimp only [IndexType.max] at hfits
  have hcount : p'.range.count + objects.length = 256 := by
    have hcount := hrow.count
    dsimp only at hcount
    rw [hcount, hrange]
    rfl
  have hlen : objects.length = 256 := by
    by_contra hne
    -- Otherwise the next cell goes on with the header.
    have hvalid : p'.range.isValid := by
      by_contra hnot
      have hnone : p'.range.count = 0 := if_neg hnot
      omega
    obtain ⟨cell, hcell, hsel, hvindex⟩ := hcells objects.length (by omega)
    have hrange' := hrow.range hvalid
    dsimp only at hrange'
    rw [hrange, Nat.zero_add] at hrange'
    have hkept := hrow.kept hvalid objects.length
      (by dsimp only; rw [hrange]; exact (Nat.zero_add _).le)
    dsimp only at hkept
    cases ret with
    | false =>
      have hfull := (h.full rfl).1
      dsimp only [IndexType.size] at hfull
      omega
    | true =>
      have hnone := h.stopped rfl
      have hvariation : cell.selection.variation = first.selection.variation := by
        rw [hpacked _ (List.mem_of_getElem? hcell) hsel,
          hpacked _ (List.mem_of_getElem? hfirst) hselected]
      have hnext : cell.config.vIndex =
        UInt16.ofNat (first.config.vIndex.toNat + objects.length) := by
        rw [hzero, Nat.zero_add, ← hvindex, UInt16.ofNat_toNat]
      rw [Loading.continues, if_pos hvalid, hrange'] at hnone
      dsimp only at hnone
      rw [hkept, hcell] at hnone
      simp [hsel, hvariation, hnext] at hnone
  refine ⟨rfl, hlen, hzero, ?_, by omega⟩
  by_contra hret
  rw [Bool.not_eq_true] at hret
  exact count_eq_zero (by omega : p'.range.count = 0) (h.full hret).2

/-- The cells that are selected are selected as packed binaries. -/
def Packed (cells : List (Cell α)) : Prop :=
  ∀ cell ∈ cells, cell.selection.selected → cell.selection.variation = .Group1Var1

omit [MeasurementSpec α] in
/-- What remains selected is still packed. -/
theorem Packed.of_lists {p p' : Loading α} {points : List (ℕ × α)} (h : Packed p.cells)
    (hlists : Lists p p' points) : Packed p'.cells :=
  fun cell hcell hselected => h cell (hlists.selected cell hcell hselected) hselected

omit [MeasurementSpec α] in
/-- A load leaves as many cells as there were. -/
theorem Lists.length_eq {p p' : Loading α} {points : List (ℕ × α)} (h : Lists p p' points) :
    p'.cells.length = p.cells.length := by
  simpa [DatabaseBuffers.vIndices] using congrArg List.length h.vIndices

/-- A bitfield decodes to the points that it takes, and takes one wherever it goes on. -/
theorem Loading.writeSingleBitfield_spec {p : Loading α} (hwindow : Window p.cells p.range)
    (hincreasing : Increasing p.cells) (hlength : p.cells.length < 2 ^ 16)
    (hvalid : p.range.isValid) {start : Cell α} (hstart : p.cells[p.range.start]? = some start)
    (hselected : start.selection.selected) (hover : ¬p.Overruns) :
    ∃ headers points, (p.writeSingleBitfield .Group1Var1 start).2.writer.headers =
        p.writer.headers ++ headers ∧
      Decodes headers (points.map bitPoint) ∧
      Lists p (p.writeSingleBitfield .Group1Var1 start).2 points ∧
      ((p.writeSingleBitfield .Group1Var1 start).1 = true →
        (p.writeSingleBitfield .Group1Var1 start).2.range.count < p.range.count ∧
        ¬(p.writeSingleBitfield .Group1Var1 start).2.Overruns) := by
  -- Either the header has no room, or one header holds a row of points in index order.
  obtain ⟨-, hnone⟩ | ⟨ret, iterator, objects, p', hsome, hrow⟩ :=
    p.writeSingleBitfield_row hwindow hincreasing hvalid hstart hselected
  · rw [hnone]
    exact ⟨[], [], (List.append_nil _).symm, .nil, .refl hwindow, fun hret => by cases hret⟩
  · rw [hsome]
    have hpos := List.length_pos_iff.mpr hrow.ne_nil
    have hcount : p'.range.count + objects.length = p.range.count := hrow.row.count
    have hfits := hrow.fits
    have hle := (hrow.length_le_or_overruns rfl hwindow hincreasing hvalid hstart
      hlength).resolve_right fun h => hover h.2.2
    rw [← hrow.start_eq, ← hrow.index_eq] at hfits
    rw [← hrow.index_eq] at hle
    obtain ⟨bytes, hbytes, hheaders⟩ :=
      (BitfieldRangeWriteIterator.finish_packed hrow.gv_eq hrow.packs hrow.ne_nil hfits
        p'.writer).1 hle
    have hdecodes : Decodes [(.bitfield .Group1Var1 iterator.index iterator.start
        (some (iterator.start + objects.length - 1)) bytes : ObjectHeader α)]
        (((List.range' iterator.start objects.length).zip objects).map bitPoint) := by
      have hne : objects.map MeasurementSpec.bit ≠ [] := by simpa using hrow.ne_nil
      have hbitfield := Decodes.bitfield (α := α) hne
        (by rw [List.length_map]; exact hfits) hbytes
      rw [map_bitPoint_zip]
      rw [List.length_map] at hbitfield ⊢
      exact hbitfield
    refine ⟨_, _, by rw [hheaders, hrow.headers], hdecodes, ?_, fun _ => ⟨?_, fun h => ?_⟩⟩
    · rw [hrow.start_eq]
      exact hrow.row.lists.with_writer p.writer _
    · dsimp only
      omega
    · -- The range has moved away from the first cell.
      have hrange : p'.range = { start := 0, stop := 255 } := h.1.range
      have hmoved := hrow.row.range (by rw [hrange]; decide)
      dsimp only at hmoved
      rw [hmoved, Range.mk.injEq] at hrange
      omega

/-- With the 256 points of a one-byte range the header is left without a stop index, and the points
are given up. -/
theorem Loading.writeSingleBitfield_of_overruns {p : Loading α} (hwindow : Window p.cells p.range)
    (hincreasing : Increasing p.cells) (hvalid : p.range.isValid) {start : Cell α}
    (hstart : p.cells[p.range.start]? = some start) (hselected : start.selection.selected)
    (hpacked : Packed p.cells) (hover : p.Overruns) :
    ∃ p' points, p.writeSingleBitfield .Group1Var1 start = (true, p') ∧
      p'.writer.headers = p.writer.headers ++ [.bitfield .Group1Var1 .UInt8 0 none []] ∧
      Lists p p' points ∧ ¬p'.range.isValid := by
  obtain ⟨hless, -⟩ | ⟨ret, iterator, objects, p', hsome, hrow⟩ :=
    p.writeSingleBitfield_row hwindow hincreasing hvalid hstart hselected
  · have hremaining := hover.2
    have hsize : ∀ index : IndexType, index.size ≤ 2 := by
      intro index
      cases index <;> decide
    have hle := hsize (if (p.mapped start).isOneByte then .UInt8 else .UInt16)
    omega
  · obtain ⟨hindex, hlen, hzero, rfl, hcount⟩ := hrow.of_overruns rfl hstart hpacked hover
    have hfits := hrow.fits
    have hindex' := hrow.index_eq.trans hindex
    rw [← hrow.start_eq, ← hrow.index_eq] at hfits
    have hheaders := (BitfieldRangeWriteIterator.finish_packed hrow.gv_eq hrow.packs hrow.ne_nil
      hfits p'.writer).2 (by rw [hindex', hlen]; rfl)
    rw [hindex', hrow.start_eq, hzero, hrow.headers] at hheaders
    exact ⟨_, _, hsome, hheaders, hrow.row.lists.with_writer p.writer _, count_eq_zero hcount⟩

end OpenDnp3.Outstation.DatabaseBuffers
