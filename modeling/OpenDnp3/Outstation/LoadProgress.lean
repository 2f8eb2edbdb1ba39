import Mathlib.Algebra.Order.BigOperators.Group.List
import Mathlib.Algebra.Order.Group.Nat
import OpenDnp3.App.CheckedParserSpec
import OpenDnp3.Outstation.OctetReport

/-!
# The progress of a load

A load of the static data moves the selected ranges forward and never back, and it says that it is
complete exactly when every range is empty. Where something is selected, a fragment that has room
for a header with its largest object takes at least one position, so the positions that are left
bound the number of fragments that a report needs.
-/

namespace OpenDnp3.App.Range

/-- An advance takes one from the count, if there is one. -/
theorem count_advance (range : Range) : range.advance.count = range.count - 1 := by
  by_cases hvalid : range.isValid
  · have hcount := Outstation.DatabaseBuffers.count_advance hvalid
    omega
  · rw [advance, if_neg hvalid, count, if_neg hvalid]

/-- Every turn takes one position. -/
theorem count_iterate_advance (range : Range) (n : ℕ) :
    (advance^[n] range).count = range.count - n := by
  induction n with
  | zero => rfl
  | succ n ih =>
    rw [Function.iterate_succ_apply', count_advance, ih]
    omega

/-- A range is valid where its count is positive. -/
theorem isValid_iff_count (range : Range) : range.isValid = true ↔ 0 < range.count := by
  rw [count]
  split_ifs with hvalid
  · simp [hvalid]
  · simp [hvalid]

end OpenDnp3.App.Range

namespace OpenDnp3.Outstation

open App

variable {α : Type*}

/-! ## Room for an object -/

/-- The room for a header with 16-bit indices and the largest object, an octet string of 255 bytes.
-/
def maxObjectSpace : ℕ := 3 + 2 * 2 + 255

/-- An object has at most 255 bytes. -/
theorem size_inst_le (gv : GroupVariation) : gv.inst.size ≤ 255 :=
  (Checked.size_le gv).trans (by decide)

/-- An index has at most two bytes. -/
theorem indexType_size_le (index : IndexType) : index.size ≤ 2 := by
  cases index <;> decide

/-- The header fits, and so does the first object behind it. -/
theorem iterateOverRange_room {w : HeaderWriter α} {serializer : DNP3Serializer}
    (hsize : serializer.size ≤ 255) (hroom : maxObjectSpace ≤ w.remaining) (index : IndexType)
    (start : ℕ) :
    ∃ w', RangeWriteIterator.iterateOverRange w serializer index start =
        (w', some { serializer, index, start := index.cast start }) ∧
      serializer.size ≤ w'.remaining := by
  have hindex := indexType_size_le index
  unfold maxObjectSpace at hroom
  unfold RangeWriteIterator.iterateOverRange HeaderWriter.writeHeaderWithReserve
  rw [if_neg (by omega)]
  dsimp only
  rw [if_pos (by omega)]
  refine ⟨_, rfl, ?_⟩
  rw [HeaderWriter.advance]
  dsimp only
  omega

/-- A bitfield is started where there is space for the largest object. -/
theorem iterateOverSingleBitfield_room {w : HeaderWriter α}
    (hroom : maxObjectSpace ≤ w.remaining) (gv : GroupVariation) (index : IndexType) (start : ℕ) :
    ∃ w' iterator, BitfieldRangeWriteIterator.iterateOverSingleBitfield w gv index start =
        (w', some iterator) ∧
      iterator.count < iterator.maxCount := by
  have hindex := indexType_size_le index
  unfold maxObjectSpace at hroom
  unfold BitfieldRangeWriteIterator.iterateOverSingleBitfield HeaderWriter.writeHeaderWithReserve
  rw [if_neg (by omega)]
  refine ⟨_, _, rfl, ?_⟩
  rw [HeaderWriter.advance]
  dsimp only
  omega

end OpenDnp3.Outstation

namespace OpenDnp3.Outstation.DatabaseBuffers

open App

variable {α : Type*}

/-! ## Ranges that move forward -/

/-- A range is empty or lies in the cells of its type. -/
structure Inside (length : ℕ) (range : Range) : Prop where
  stop : range.isValid → range.stop < length
  empty : ¬range.isValid → range = {}

/-- An advance stays inside. -/
theorem Inside.advance {length : ℕ} {range : Range} (h : Inside length range) :
    Inside length range.advance := by
  unfold Range.advance
  split_ifs with hvalid hlt
  · refine ⟨fun _ => h.stop hvalid, fun hinvalid => ?_⟩
    rw [isValid_iff] at hinvalid
    exact absurd hlt hinvalid
  · exact ⟨fun hempty => absurd hempty (by decide), fun _ => rfl⟩
  · exact h

/-- Advances stay inside. -/
theorem Inside.iterate {length : ℕ} {range : Range} (h : Inside length range) (n : ℕ) :
    Inside length (Range.advance^[n] range) := by
  induction n with
  | zero => exact h
  | succ n ih =>
    rw [Function.iterate_succ_apply']
    exact ih.advance

/-- There is a cell at the start of the range. -/
theorem Inside.exists_cell {cells : List (Cell α)} {range : Range} (h : Inside cells.length range)
    (hvalid : range.isValid) : ∃ cell, cells[range.start]? = some cell := by
  have hlt : range.start < cells.length :=
    lt_of_le_of_lt ((isValid_iff range).mp hvalid) (h.stop hvalid)
  exact ⟨_, List.getElem?_eq_getElem hlt⟩

/-- A part of a load takes this number of positions. -/
structure Moves (p p' : Loading α) (n : ℕ) : Prop where
  range : p'.range = Range.advance^[n] p.range
  length : p'.cells.length = p.cells.length

/-- The range does not move. -/
theorem Moves.of_eq {p p' : Loading α} (hcells : p'.cells = p.cells) (hrange : p'.range = p.range) :
    Moves p p' 0 :=
  ⟨hrange, congrArg List.length hcells⟩

/-- One move after the other. -/
theorem Moves.trans {p₁ p₂ p₃ : Loading α} {m n : ℕ} (h : Moves p₁ p₂ m) (h' : Moves p₂ p₃ n) :
    Moves p₁ p₃ (n + m) := by
  refine ⟨?_, h'.length.trans h.length⟩
  rw [h'.range, h.range, Function.iterate_add_apply]

/-- A move takes its length from the count. -/
theorem Moves.count {p p' : Loading α} {n : ℕ} (h : Moves p p' n) :
    p'.range.count = p.range.count - n := by
  rw [h.range, Range.count_iterate_advance]

/-- A move stays inside. -/
theorem Moves.inside {p p' : Loading α} {n : ℕ} (h : Moves p p' n)
    (hinside : Inside p.cells.length p.range) : Inside p'.cells.length p'.range := by
  rw [h.length, h.range]
  exact hinside.iterate n

/-- An advance moves by one. -/
theorem Moves.advance (p : Loading α) (writer : HeaderWriter α) :
    Moves p { p with writer, range := p.range.advance } 1 :=
  ⟨rfl, rfl⟩

/-- The next cell moves by one. -/
theorem Loading.next_moves (p : Loading α) (writer : HeaderWriter α) (cell : Cell α) :
    Moves p ({ p with writer }.next cell) 1 :=
  ⟨rfl, List.length_set ..⟩

/-- The writer has nothing to do with the move. -/
theorem Moves.of_writer {p p' : Loading α} {n : ℕ} {writer : HeaderWriter α}
    (h : Moves { p with writer } p' n) (writer' : HeaderWriter α) :
    Moves p { p' with writer := writer' } n :=
  ⟨h.range, h.length⟩

/-! ## One header -/

/-- What a part of a load does to the range: it takes some positions, at least one unless it runs
out of space, and where it runs out of space there is a position left. -/
structure Progresses (p : Loading α) (result : Bool × Loading α) (n : ℕ) : Prop where
  moves : Moves p result.2 n
  more : result.1 = true → 0 < n
  left : result.1 = false → result.2.range.isValid

/-- A header moves, and the range is not empty where the space was too small. -/
theorem Loading.loadWithRangeIterator_moves (variation : GroupVariation) (fuel : ℕ)
    (nextIndex : UInt16) (iterator : RangeWriteIterator α) (p : Loading α) :
    ∃ n, Moves p (loadWithRangeIterator variation fuel nextIndex iterator p).2.2 n ∧
      ((loadWithRangeIterator variation fuel nextIndex iterator p).1 = false →
        (loadWithRangeIterator variation fuel nextIndex iterator p).2.2.range.isValid) := by
  induction fuel generalizing nextIndex iterator p with
  | zero => exact ⟨0, .of_eq rfl rfl, fun h => by cases h⟩
  | succ fuel ih =>
    unfold loadWithRangeIterator
    split
    · exact ⟨0, .of_eq rfl rfl, fun h => by cases h⟩
    case h_2 cell hcontinues =>
      split
      · exact ⟨0, .of_eq rfl rfl, fun _ => (continues_eq_some hcontinues).1⟩
      case h_2 writer iterator' hwrite =>
        obtain ⟨n, hmoves, hleft⟩ := ih (nextIndex + 1) iterator' ({ p with writer }.next cell)
        exact ⟨n + 1, (p.next_moves writer cell).trans hmoves, hleft⟩

/-- Where the first cell goes on with the header, it is taken unless there is no space for it. -/
theorem Loading.loadWithRangeIterator_progresses {variation : GroupVariation} {fuel : ℕ}
    (hfuel : 0 < fuel) {nextIndex : UInt16} (iterator : RangeWriteIterator α) {p : Loading α}
    {cell : Cell α} (hcontinues : p.continues variation nextIndex = some cell) :
    ∃ n, Progresses p ((loadWithRangeIterator variation fuel nextIndex iterator p).1,
        (loadWithRangeIterator variation fuel nextIndex iterator p).2.2) n ∧
      (iterator.serializer.size ≤ p.writer.remaining → iterator.objects = [] → 0 < n) := by
  obtain ⟨fuel, rfl⟩ := Nat.exists_eq_add_of_le' hfuel
  unfold loadWithRangeIterator
  rw [hcontinues]
  dsimp only
  split
  case h_1 hwrite =>
    refine ⟨0, ⟨.of_eq rfl rfl, fun h => (by cases h), fun _ => (continues_eq_some hcontinues).1⟩,
      fun hspace hempty => ?_⟩
    -- The iterator has no object yet, so the space alone decides.
    rw [RangeWriteIterator.write, if_pos ⟨hspace, by rw [hempty]; exact Nat.zero_le _⟩] at hwrite
    cases hwrite
  case h_2 writer iterator' hwrite =>
    obtain ⟨n, hmoves, hleft⟩ := loadWithRangeIterator_moves variation fuel
      (nextIndex + 1) iterator'
      ({ p with writer }.next cell)
    exact ⟨n + 1, ⟨(p.next_moves writer cell).trans hmoves, fun _ => n.succ_pos, hleft⟩,
      fun _ _ => n.succ_pos⟩

/-- The cell at the start of the range goes on with a header of its own. -/
theorem Loading.continues_start {p : Loading α} (hvalid : p.range.isValid) {start : Cell α}
    (hstart : p.cells[p.range.start]? = some start) (hselected : start.selection.selected)
    (writer : HeaderWriter α) :
    ({ p with writer } : Loading α).continues start.selection.variation start.config.vIndex =
      some start := by
  simp [continues, hvalid, hstart, hselected]

/-- A valid range has a cell. -/
theorem Loading.count_pos {p : Loading α} (hvalid : p.range.isValid) : 0 < p.range.count :=
  (Range.isValid_iff_count _).mp hvalid

/-- A header of objects makes progress where there is space for the largest object. -/
theorem Loading.writeWithSerializer_progresses (gv : GroupVariation) {p : Loading α}
    (hvalid : p.range.isValid) {start : Cell α} (hstart : p.cells[p.range.start]? = some start)
    (hselected : start.selection.selected) :
    ∃ n, Progresses p (p.writeWithSerializer gv start) n ∧
      (maxObjectSpace ≤ p.writer.remaining → 0 < n) := by
  unfold writeWithSerializer
  dsimp only
  generalize (if (p.mapped start).isOneByte then IndexType.UInt8 else .UInt16) = index
  cases hiter : RangeWriteIterator.iterateOverRange p.writer gv.inst index
      (p.mapped start).start with
  | mk w iterator =>
    cases iterator with
    | none =>
      refine ⟨0, ⟨.of_eq rfl rfl, fun h => (by cases h), fun _ => hvalid⟩, fun hroom => ?_⟩
      obtain ⟨w', heq, -⟩ := iterateOverRange_room (size_inst_le gv) hroom index
        (p.mapped start).start
      rw [hiter] at heq
      cases heq
    | some iterator =>
      obtain ⟨n, hprogress, htakes⟩ := loadWithRangeIterator_progresses (count_pos hvalid) iterator
        (p.continues_start hvalid hstart hselected w)
      refine ⟨n, ⟨hprogress.moves.of_writer _, hprogress.more, hprogress.left⟩, fun hroom => ?_⟩
      obtain ⟨w', heq, hspace⟩ :=
        iterateOverRange_room (size_inst_le gv) hroom index (p.mapped start).start
      rw [hiter] at heq
      cases heq
      exact htakes hspace rfl

variable [MeasurementSpec α]

/-- A bitfield moves, and the range is not empty where the space was too small. -/
theorem Loading.loadWithBitfieldIterator_moves (variation : GroupVariation) (fuel : ℕ)
    (nextIndex : UInt16) (iterator : BitfieldRangeWriteIterator) (p : Loading α) :
    ∃ n, Moves p (loadWithBitfieldIterator variation fuel nextIndex iterator p).2.2 n ∧
      ((loadWithBitfieldIterator variation fuel nextIndex iterator p).1 = false →
        (loadWithBitfieldIterator variation fuel nextIndex iterator p).2.2.range.isValid) := by
  induction fuel generalizing nextIndex iterator p with
  | zero => exact ⟨0, .of_eq rfl rfl, fun h => by cases h⟩
  | succ fuel ih =>
    unfold loadWithBitfieldIterator
    split
    · exact ⟨0, .of_eq rfl rfl, fun h => by cases h⟩
    case h_2 cell hcontinues =>
      split
      · exact ⟨0, .of_eq rfl rfl, fun _ => (continues_eq_some hcontinues).1⟩
      case h_2 iterator' hwrite =>
        obtain ⟨n, hmoves, hleft⟩ := ih (nextIndex + 1) iterator' (p.next cell)
        exact ⟨n + 1, (p.next_moves p.writer cell).trans hmoves, hleft⟩

/-- A bitfield makes progress where there is space for one more bit. -/
theorem Loading.loadWithBitfieldIterator_progresses {variation : GroupVariation} {fuel : ℕ}
    (hfuel : 0 < fuel) {nextIndex : UInt16} (iterator : BitfieldRangeWriteIterator) {p : Loading α}
    {cell : Cell α} (hcontinues : p.continues variation nextIndex = some cell) :
    ∃ n, Progresses p ((loadWithBitfieldIterator variation fuel nextIndex iterator p).1,
        (loadWithBitfieldIterator variation fuel nextIndex iterator p).2.2) n ∧
      (iterator.count < iterator.maxCount → 0 < n) := by
  obtain ⟨fuel, rfl⟩ := Nat.exists_eq_add_of_le' hfuel
  unfold loadWithBitfieldIterator
  rw [hcontinues]
  dsimp only
  split
  case h_1 hwrite =>
    refine ⟨0, ⟨.of_eq rfl rfl, fun h => (by cases h), fun _ => (continues_eq_some hcontinues).1⟩,
      fun hspace => ?_⟩
    rw [BitfieldRangeWriteIterator.write, if_pos hspace] at hwrite
    cases hwrite
  case h_2 iterator' hwrite =>
    obtain ⟨n, hmoves, hleft⟩ := loadWithBitfieldIterator_moves variation fuel (nextIndex + 1)
      iterator' (p.next cell)
    exact ⟨n + 1, ⟨(p.next_moves p.writer cell).trans hmoves, fun _ => n.succ_pos, hleft⟩,
      fun _ => n.succ_pos⟩

/-- A header of packed binaries makes progress where there is space for the largest object. -/
theorem Loading.writeSingleBitfield_progresses (gv : GroupVariation) {p : Loading α}
    (hvalid : p.range.isValid) {start : Cell α} (hstart : p.cells[p.range.start]? = some start)
    (hselected : start.selection.selected) :
    ∃ n, Progresses p (p.writeSingleBitfield gv start) n ∧
      (maxObjectSpace ≤ p.writer.remaining → 0 < n) := by
  unfold writeSingleBitfield
  dsimp only
  generalize (if (p.mapped start).isOneByte then IndexType.UInt8 else .UInt16) = index
  cases hiter : BitfieldRangeWriteIterator.iterateOverSingleBitfield p.writer gv index
      (p.mapped start).start with
  | mk w iterator =>
    cases iterator with
    | none =>
      refine ⟨0, ⟨.of_eq rfl rfl, fun h => (by cases h), fun _ => hvalid⟩, fun hroom => ?_⟩
      obtain ⟨w', iterator, heq, -⟩ :=
        iterateOverSingleBitfield_room hroom gv index (p.mapped start).start
      rw [hiter] at heq
      cases heq
    | some iterator =>
      obtain ⟨n, hprogress, htakes⟩ := loadWithBitfieldIterator_progresses (count_pos hvalid)
        iterator (p.continues_start hvalid hstart hselected w)
      refine ⟨n, ⟨hprogress.moves.of_writer _, hprogress.more, hprogress.left⟩, fun hroom => ?_⟩
      obtain ⟨w', iterator', heq, hspace⟩ :=
        iterateOverSingleBitfield_room hroom gv index (p.mapped start).start
      rw [hiter] at heq
      cases heq
      exact htakes hspace

/-! ## Octet strings -/

/-- Every string that is written takes a position, and no other does. -/
theorem Loading.writeSomeOctetString_moves (size : UInt8) (fuel numWritten : ℕ)
    (iterator : RangeWriteIterator α) (p : Loading α) :
    ∃ n, Moves p (writeSomeOctetString size fuel numWritten iterator p).2.2 n ∧
      (writeSomeOctetString size fuel numWritten iterator p).1 = numWritten + n := by
  induction fuel generalizing numWritten iterator p with
  | zero => exact ⟨0, .of_eq rfl rfl, rfl⟩
  | succ fuel ih =>
    unfold writeSomeOctetString
    split
    case isFalse => exact ⟨0, .of_eq rfl rfl, rfl⟩
    case isTrue hvalid =>
      split
      · exact ⟨0, .of_eq rfl rfl, rfl⟩
      · split
        · exact ⟨0, .of_eq rfl rfl, rfl⟩
        · split
          · exact ⟨0, .of_eq rfl rfl, rfl⟩
          case h_2 writer iterator' hwrite =>
            obtain ⟨n, hmoves, hcount⟩ := ih (numWritten + 1) iterator'
              { p with writer, range := p.range.advance }
            refine ⟨n + 1, (Moves.advance p writer).trans hmoves, ?_⟩
            rw [hcount]
            omega

/-- The first string has the size of the header, so it is taken where there is space for it. -/
theorem Loading.writeSomeOctetString_takes {fuel : ℕ} (hfuel : 0 < fuel)
    {iterator : RangeWriteIterator α} {p : Loading α} (hvalid : p.range.isValid) {cell : Cell α}
    (hcell : p.cells[p.range.start]? = some cell)
    (hspace : iterator.serializer.size ≤ p.writer.remaining) (hempty : iterator.objects = []) :
    0 < (writeSomeOctetString (MeasurementSpec.octetSize cell.selection.value) fuel
      0 iterator p).1 := by
  obtain ⟨fuel, rfl⟩ := Nat.exists_eq_add_of_le' hfuel
  unfold writeSomeOctetString
  rw [if_pos hvalid, hcell]
  dsimp only
  rw [if_neg (not_not.mpr rfl), RangeWriteIterator.write,
    if_pos ⟨hspace, by rw [hempty]; exact Nat.zero_le _⟩]
  dsimp only
  obtain ⟨n, -, hcount⟩ := writeSomeOctetString_moves
    (MeasurementSpec.octetSize cell.selection.value) fuel (0 + 1)
    { iterator with objects := iterator.objects ++ [cell.selection.value] }
    { p with
      writer := p.writer.advance iterator.serializer.size
      range := p.range.advance }
  rw [hcount]
  omega

/-- The octet strings are complete exactly when the range is empty. -/
theorem Loading.writeOctetStrings_progresses (fuel : ℕ) {p : Loading α}
    (hinside : Inside p.cells.length p.range) :
    ∃ n, Moves p (p.writeOctetStrings fuel).2 n ∧
      (p.writeOctetStrings fuel).1 = !(p.writeOctetStrings fuel).2.range.isValid ∧
      (0 < fuel → p.range.isValid → maxObjectSpace ≤ p.writer.remaining → 0 < n) := by
  induction fuel generalizing p with
  | zero => exact ⟨0, .of_eq rfl rfl, rfl, fun h => absurd h (Nat.lt_irrefl 0)⟩
  | succ fuel ih =>
    unfold writeOctetStrings
    by_cases hvalid : p.range.isValid
    swap
    · rw [if_neg hvalid]
      exact ⟨0, .of_eq rfl rfl, by simp [hvalid], fun _ h => absurd h hvalid⟩
    obtain ⟨cell, hcell⟩ := hinside.exists_cell hvalid
    rw [if_pos hvalid, hcell]
    dsimp only
    generalize (if p.range.isOneByte then IndexType.UInt8 else .UInt16) = index
    generalize hserializer : ({ gv := .Group110Var0
                                size := (MeasurementSpec.octetSize cell.selection.value).toNat } :
      DNP3Serializer) = serializer
    have hsize : serializer.size ≤ 255 := by
      rw [← hserializer]
      exact Nat.le_of_lt_succ (UInt8.toNat_lt _)
    cases hiter : RangeWriteIterator.iterateOverRange p.writer serializer index p.range.start with
    | mk w iterator =>
      cases iterator with
      | none =>
        refine ⟨0, .of_eq rfl rfl, by simp [hvalid], fun _ _ hroom => ?_⟩
        obtain ⟨w', heq, -⟩ := iterateOverRange_room hsize hroom index p.range.start
        rw [hiter] at heq
        cases heq
      | some iterator =>
        dsimp only
        obtain ⟨n, hmoves, hcount⟩ := writeSomeOctetString_moves
          (MeasurementSpec.octetSize cell.selection.value) p.range.count 0 iterator
          { p with writer := w }
        -- With room for the largest object at least one string is written.
        have htakes : maxObjectSpace ≤ p.writer.remaining →
            0 < (writeSomeOctetString (MeasurementSpec.octetSize cell.selection.value)
              p.range.count 0
              iterator { p with writer := w }).1 := by
          intro hroom
          obtain ⟨w', heq, hspace⟩ := iterateOverRange_room hsize hroom index p.range.start
          rw [hiter] at heq
          cases heq
          exact writeSomeOctetString_takes (p := { p with writer := w }) (count_pos hvalid) hvalid
            hcell hspace rfl
        generalize writeSomeOctetString (MeasurementSpec.octetSize cell.selection.value)
          p.range.count 0 iterator { p with writer := w } = result at hmoves hcount htakes ⊢
        rw [Nat.zero_add] at hcount
        rw [hcount] at htakes ⊢
        have hmoves' := hmoves.of_writer (p := p) (result.2.2.writer.push result.2.1.finish)
        split_ifs with hzero
        · -- Nothing has been written, so that the range is as it was.
          subst hzero
          refine ⟨0, hmoves', ?_, fun _ _ => htakes⟩
          rw [hmoves'.range]
          simp [hvalid]
        · -- A string of another size begins a new header.
          obtain ⟨n', hrest, hdone, -⟩ := ih (hmoves'.inside hinside)
          refine ⟨n' + n, hmoves'.trans hrest, hdone, fun _ _ _ => ?_⟩
          omega

/-! ## The load of a type -/

/-- Every writer makes progress where there is space for the largest object. -/
theorem Loading.writeFun_progresses (writer : StaticWriter) {p : Loading α}
    (hinside : Inside p.cells.length p.range) (hvalid : p.range.isValid) {start : Cell α}
    (hstart : p.cells[p.range.start]? = some start) (hselected : start.selection.selected) :
    ∃ n, Progresses p (p.writeFun writer start) n ∧
      (maxObjectSpace ≤ p.writer.remaining → 0 < n) := by
  cases writer with
  | writeSingleBitfield =>
    exact p.writeSingleBitfield_progresses .Group1Var1 hvalid hstart hselected
  | writeWithSerializer gv => exact p.writeWithSerializer_progresses gv hvalid hstart hselected
  | write =>
    have hpos := count_pos hvalid
    obtain ⟨n, hmoves, hdone, htakes⟩ := writeOctetStrings_progresses p.range.count hinside
    refine ⟨n, ⟨hmoves, fun hret => ?_, fun hret => ?_⟩, htakes hpos hvalid⟩
    · -- The range is empty now and was not before.
      have hempty : ¬(p.writeOctetStrings p.range.count).2.range.isValid := by
        intro hleft
        have hret : (p.writeOctetStrings p.range.count).1 = true := hret
        rw [hdone, hleft] at hret
        cases hret
      rw [Range.isValid_iff_count, hmoves.count] at hempty
      omega
    · have hret : (p.writeOctetStrings p.range.count).1 = false := hret
      rwa [hdone, Bool.not_eq_false'] at hret

/-- The load of a type is complete exactly when the range is empty, and it takes a position where
there is one and there is room for it. -/
theorem Loading.loop_progresses (type : StaticType) (fuel : ℕ) {p : Loading α}
    (hfuel : p.range.count ≤ fuel) (hinside : Inside p.cells.length p.range) :
    ∃ n, Moves p (loop type fuel p).2 n ∧
      (loop type fuel p).1 = !(loop type fuel p).2.range.isValid ∧
      (p.range.isValid → maxObjectSpace ≤ p.writer.remaining → 0 < n) := by
  induction fuel generalizing p with
  | zero =>
    have hinvalid : ¬p.range.isValid := count_eq_zero (Nat.le_zero.mp hfuel)
    exact ⟨0, .of_eq rfl rfl, by simp [loop, hinvalid], fun h => absurd h hinvalid⟩
  | succ fuel ih =>
    unfold loop
    by_cases hvalid : p.range.isValid
    swap
    · rw [if_neg hvalid]
      exact ⟨0, .of_eq rfl rfl, by simp [hvalid], fun h => absurd h hvalid⟩
    obtain ⟨cell, hcell⟩ := hinside.exists_cell hvalid
    rw [if_pos hvalid, hcell]
    dsimp only
    by_cases hselected : cell.selection.selected
    · rw [if_pos hselected]
      -- The write of the variation moves the range, by at least one point where there is room.
      obtain ⟨n, hprogress, htakes⟩ := p.writeFun_progresses
        (StaticWriter.get type cell.selection.variation) hinside hvalid hcell hselected
      generalize p.writeFun (StaticWriter.get type cell.selection.variation) cell = result
        at hprogress ⊢
      obtain ⟨ret, p'⟩ := result
      obtain ⟨hmoves, hmore, hleft⟩ := hprogress
      dsimp only at hmoves hmore hleft ⊢
      cases ret with
      | false => exact ⟨n, hmoves, by simp [hleft rfl], fun _ => htakes⟩
      | true =>
        have hpos := hmore rfl
        have hcount := hmoves.count
        obtain ⟨n', hrest, hdone, -⟩ := ih (by omega) (hmoves.inside hinside)
        exact ⟨n' + n, hmoves.trans hrest, hdone, fun _ _ => by omega⟩
    · -- A position that is not selected is passed over.
      rw [if_neg hselected]
      have hmoves := Moves.advance p p.writer
      have hcount := hmoves.count
      obtain ⟨n, hrest, hdone, -⟩ := ih (p := { p with range := p.range.advance })
        (by dsimp only at hcount ⊢; omega) (hmoves.inside hinside)
      exact ⟨n + 1, hmoves.trans hrest, hdone, fun _ _ => n.succ_pos⟩

/-! ## The load of all types -/

/-- The range of every type lies in its cells. -/
def Contained (db : DatabaseBuffers α) : Prop :=
  ∀ type, Inside (db.cells type).length (db.ranges type)

/-- The positions that the selected ranges still have. -/
def positions (db : DatabaseBuffers α) : ℕ :=
  (StaticType.all.map fun type => (db.ranges type).count).sum

/-- The ranges of the types move forward. -/
def Advances (db db' : DatabaseBuffers α) : Prop :=
  ∀ type, (db'.cells type).length = (db.cells type).length ∧
    ∃ n, db'.ranges type = Range.advance^[n] (db.ranges type)

omit [MeasurementSpec α] in
/-- No range advances. -/
theorem Advances.refl (db : DatabaseBuffers α) : Advances db db := fun _ => ⟨rfl, 0, rfl⟩

omit [MeasurementSpec α] in
/-- The ranges advance further. -/
theorem Advances.trans {db₁ db₂ db₃ : DatabaseBuffers α} (h : Advances db₁ db₂)
    (h' : Advances db₂ db₃) : Advances db₁ db₃ := by
  intro type
  obtain ⟨hlength, m, hrange⟩ := h type
  obtain ⟨hlength', n, hrange'⟩ := h' type
  refine ⟨hlength'.trans hlength, n + m, ?_⟩
  rw [hrange', hrange, Function.iterate_add_apply]

omit [MeasurementSpec α] in
/-- An advance makes no range larger. -/
theorem Advances.count_le {db db' : DatabaseBuffers α} (h : Advances db db') (type : StaticType) :
    (db'.ranges type).count ≤ (db.ranges type).count := by
  obtain ⟨-, n, hrange⟩ := h type
  rw [hrange, Range.count_iterate_advance]
  omega

omit [MeasurementSpec α] in
/-- The ranges stay in the cells. -/
theorem Advances.contained {db db' : DatabaseBuffers α} (h : Advances db db')
    (hcontained : Contained db) : Contained db' := by
  intro type
  obtain ⟨hlength, n, hrange⟩ := h type
  rw [hlength, hrange]
  exact (hcontained type).iterate n

/-- The load of a type is complete exactly when its range is empty, and leaves the other types as
they are. -/
theorem loadType_advances {db : DatabaseBuffers α} (hcontained : Contained db) (type : StaticType)
    (writer : HeaderWriter α) :
    Advances db (db.loadType type writer).2.1 ∧
      (db.loadType type writer).1 = !((db.loadType type writer).2.1.ranges type).isValid ∧
      ((db.ranges type).isValid → maxObjectSpace ≤ writer.remaining →
        ((db.loadType type writer).2.1.ranges type).count < (db.ranges type).count) := by
  obtain ⟨n, hmoves, hdone, htakes⟩ := Loading.loop_progresses type (db.ranges type).count
    (p := { cells := db.cells type, range := db.ranges type, writer }) le_rfl (hcontained type)
  have hrange : (db.loadType type writer).2.1.ranges type = (Loading.loop type
      (db.ranges type).count { cells := db.cells type, range := db.ranges type, writer }).2.range :=
    set_ranges_self ..
  refine ⟨fun type' => ?_, ?_, fun hvalid hroom => ?_⟩
  · by_cases hne : type' = type
    · subst hne
      refine ⟨?_, n, hrange.trans hmoves.range⟩
      exact (congrArg List.length (set_cells_self ..)).trans hmoves.length
    · exact ⟨congrArg List.length (set_cells_of_ne _ hne _ _), 0, set_ranges_of_ne _ hne _ _⟩
  · rw [hrange]
    exact hdone
  · have hpos := Loading.count_pos
      (p := { cells := db.cells type, range := db.ranges type, writer })
      hvalid
    have hcount := hmoves.count
    have hn := htakes hvalid hroom
    rw [hrange, hcount]
    dsimp only at hpos ⊢
    omega

/-- An empty range leaves the writer as it is. -/
theorem loadType_of_invalid {db : DatabaseBuffers α} {type : StaticType}
    (hinvalid : ¬(db.ranges type).isValid) (writer : HeaderWriter α) :
    (db.loadType type writer).1 = true ∧ (db.loadType type writer).2.1.ranges = db.ranges ∧
      (db.loadType type writer).2.2 = writer := by
  have hcount : (db.ranges type).count = 0 := if_neg hinvalid
  unfold loadType
  rw [hcount]
  refine ⟨rfl, ?_, rfl⟩
  funext type'
  by_cases hne : type' = type
  · subst hne
    exact set_ranges_self ..
  · exact set_ranges_of_ne _ hne _ _

/-- The load of some types is complete exactly when their ranges are empty. Where there is a
position and room for it, one is taken. -/
theorem loadTypes_advances (types : List StaticType) {db : DatabaseBuffers α}
    (hcontained : Contained db) (writer : HeaderWriter α) :
    Advances db (loadTypes types db writer).2.1 ∧
      (loadTypes types db writer).1 =
        (types.all fun type => !((loadTypes types db writer).2.1.ranges type).isValid) ∧
      (maxObjectSpace ≤ writer.remaining → (∃ type ∈ types, (db.ranges type).isValid) →
        ∃ type ∈ types,
          ((loadTypes types db writer).2.1.ranges type).count < (db.ranges type).count) := by
  induction types generalizing db writer with
  | nil =>
    refine ⟨.refl db, rfl, fun _ hsome => ?_⟩
    obtain ⟨_, hmem, _⟩ := hsome
    exact absurd hmem List.not_mem_nil
  | cons type types ih =>
    obtain ⟨hadvances, hdone, htakes⟩ := loadType_advances hcontained type writer
    have hempty : ¬(db.ranges type).isValid → (db.loadType type writer).1 = true ∧
        (db.loadType type writer).2.1.ranges = db.ranges ∧
        (db.loadType type writer).2.2 = writer :=
      fun hinvalid => loadType_of_invalid hinvalid writer
    unfold loadTypes
    dsimp only
    generalize db.loadType type writer = result at hadvances hdone htakes hempty ⊢
    obtain ⟨ret, db', writer'⟩ := result
    dsimp only at hadvances hdone htakes hempty ⊢
    cases ret with
    | false =>
      rw [if_neg Bool.false_ne_true]
      have hleft : (db'.ranges type).isValid = true := by simpa using hdone
      refine ⟨hadvances, by simp [hleft], fun hroom _ => ⟨type, List.mem_cons_self, ?_⟩⟩
      -- The range was not empty before, since a range that is empty stays so.
      have hbefore := hadvances.count_le type
      refine htakes ?_ hroom
      rw [Range.isValid_iff_count] at hleft ⊢
      omega
    | true =>
      rw [if_pos rfl]
      have hinvalid : ¬(db'.ranges type).isValid := by simpa using hdone
      obtain ⟨hrest, hall, hsome⟩ := ih (hadvances.contained hcontained) writer'
      have hlater : ((loadTypes types db' writer').2.1.ranges type).isValid = false := by
        have hcount := hrest.count_le type
        rw [Range.isValid_iff_count] at hinvalid
        rw [← Bool.not_eq_true, Range.isValid_iff_count]
        omega
      refine ⟨hadvances.trans hrest, ?_, fun hroom hvalids => ?_⟩
      · rw [List.all_cons, hlater, hall, Bool.not_false, Bool.true_and]
      · obtain ⟨type', hmem, hvalid⟩ := hvalids
        by_cases hfirst : (db.ranges type).isValid
        · have hlt := htakes hfirst hroom
          have hle := hrest.count_le type
          exact ⟨type, List.mem_cons_self, by omega⟩
        · -- The first type has nothing, and the writer is still a new one.
          obtain ⟨-, hranges, hwriter⟩ := hempty hfirst
          have hmem' : type' ∈ types := by
            rcases List.mem_cons.mp hmem with rfl | hmem
            · exact absurd hvalid hfirst
            · exact hmem
          obtain ⟨type'', hmem'', hlt⟩ := hsome (by rwa [hwriter])
            ⟨type', hmem', by rw [hranges]; exact hvalid⟩
          rw [hranges] at hlt
          exact ⟨type'', List.mem_cons_of_mem _ hmem'', hlt⟩

/-- A load takes positions, and at least one where there is one and there is room for it. It is
complete exactly when nothing is selected any more. -/
theorem load_advances {db : DatabaseBuffers α} (hcontained : Contained db)
    (writer : HeaderWriter α) :
    Contained (db.load writer).2.1 ∧
      (db.load writer).1 = !(db.load writer).2.1.hasAnySelection ∧
      (db.load writer).2.1.positions ≤ db.positions ∧
      (maxObjectSpace ≤ writer.remaining → db.hasAnySelection →
        (db.load writer).2.1.positions < db.positions) := by
  obtain ⟨hadvances, hdone, hsome⟩ := loadTypes_advances StaticType.all hcontained writer
  refine ⟨hadvances.contained hcontained, ?_, ?_, fun hroom hany => ?_⟩
  · refine hdone.trans ?_
    rw [hasAnySelection, List.not_any_eq_all_not]
    rfl
  · exact List.sum_le_sum fun type _ => hadvances.count_le type
  · have hany' : ∃ type ∈ StaticType.all, (db.ranges type).isValid := by
      rwa [hasAnySelection, List.any_eq_true] at hany
    exact List.sum_lt_sum _ _ (fun type _ => hadvances.count_le type) (hsome hroom hany')

end OpenDnp3.Outstation.DatabaseBuffers
