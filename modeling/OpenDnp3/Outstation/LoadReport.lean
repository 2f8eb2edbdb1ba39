import OpenDnp3.Outstation.BitfieldReport
import OpenDnp3.Outstation.LoadProgress

/-!
# What a load reports

A load with room for a header and its largest object writes an object before it runs out of space.
The one exception are the 256 packed binaries of a one-byte range, whose counter comes round to
zero: their header is left without objects.
-/

namespace OpenDnp3.App

variable {α : Type*}

/-- The header has objects of the selection. A common time has none, and a header of static points
that is left without its stop index has none either. -/
def ObjectHeader.hasObjects : ObjectHeader α → Bool
  | range _ _ _ stop _ => stop.isSome
  | bitfield _ _ _ stop _ => stop.isSome
  | prefixed _ _ objects => !objects.isEmpty
  | commands _ _ objects => !objects.isEmpty
  | single _ _ _ => false

/-- One of the headers has objects. -/
def reportsObjects (headers : List (ObjectHeader α)) : Bool := headers.any ObjectHeader.hasObjects

/-- Headers that follow do not change it. -/
theorem reportsObjects_append {headers : List (ObjectHeader α)} (h : reportsObjects headers = true)
    (more : List (ObjectHeader α)) : reportsObjects (headers ++ more) = true := by
  rw [reportsObjects, List.any_append, Bool.or_eq_true]
  exact .inl h

/-- A header with objects makes a report of them. -/
theorem reportsObjects_concat (headers : List (ObjectHeader α)) {header : ObjectHeader α}
    (h : header.hasObjects = true) : reportsObjects (headers ++ [header]) = true := by
  rw [reportsObjects, List.any_append, Bool.or_eq_true]
  exact .inr (by simp [h])

/-- A range header has objects as soon as one has been written. -/
theorem RangeWriteIterator.finish_hasObjects {iterator : RangeWriteIterator α}
    (h : iterator.objects ≠ []) : iterator.finish.hasObjects = true := by
  have hne : iterator.objects.isEmpty = false := by simpa using h
  simp [finish, ObjectHeader.hasObjects, hne]

end OpenDnp3.App

namespace OpenDnp3.Outstation.DatabaseBuffers

open App

variable {α : Type*}

/-! ## One header -/

/-- An iterator keeps what it has written. -/
theorem Loading.loadWithRangeIterator_objects (variation : GroupVariation) (fuel : ℕ)
    (nextIndex : UInt16) (iterator : RangeWriteIterator α) (p : Loading α) :
    iterator.objects <+:
      (loadWithRangeIterator variation fuel nextIndex iterator p).2.1.objects := by
  induction fuel generalizing nextIndex iterator p with
  | zero => exact List.prefix_refl _
  | succ fuel ih =>
    unfold loadWithRangeIterator
    split
    · exact List.prefix_refl _
    · split
      · exact List.prefix_refl _
      case h_2 cell hcontinues writer iterator' hwrite =>
        have hgrows : iterator.objects <+: iterator'.objects := by
          unfold RangeWriteIterator.write at hwrite
          split_ifs at hwrite
          obtain ⟨-, rfl⟩ := Prod.mk.inj (Option.some.inj hwrite)
          exact List.prefix_append ..
        exact hgrows.trans (ih _ _ _)

/-- The point at the start of the range is written where there is room for it. -/
theorem Loading.writeWithSerializer_reports (gv : GroupVariation) {p : Loading α}
    (hvalid : p.range.isValid) {start : Cell α} (hstart : p.cells[p.range.start]? = some start)
    (hselected : start.selection.selected) (hroom : maxObjectSpace ≤ p.writer.remaining) :
    reportsObjects (p.writeWithSerializer gv start).2.writer.headers = true := by
  unfold writeWithSerializer
  dsimp only
  generalize (if (p.mapped start).isOneByte then IndexType.UInt8 else .UInt16) = index
  obtain ⟨w, hiter, hspace⟩ := iterateOverRange_room (size_inst_le gv) hroom index
    (p.mapped start).start
  rw [hiter]
  obtain ⟨fuel, hfuel⟩ := Nat.exists_eq_add_of_le' (count_pos hvalid)
  -- The first turn writes the point, and the later ones keep it.
  have hfirst : ({ serializer := gv.inst, index, start := index.cast (p.mapped start).start } :
      RangeWriteIterator α).write w start.selection.value = some (w.advance gv.inst.size,
        { serializer := gv.inst, index, start := index.cast (p.mapped start).start,
          objects := [start.selection.value] }) := if_pos ⟨hspace, Nat.zero_le _⟩
  refine reportsObjects_concat _ (RangeWriteIterator.finish_hasObjects fun hnil => ?_)
  rw [hfuel, loadWithRangeIterator, p.continues_start hvalid hstart hselected w] at hnil
  dsimp only at hnil
  rw [hfirst] at hnil
  have hkept := loadWithRangeIterator_objects start.selection.variation fuel
    (start.config.vIndex + 1)
    { serializer := gv.inst, index, start := index.cast (p.mapped start).start,
      objects := [start.selection.value] }
        (({ p with writer := w.advance gv.inst.size }).next start)
  dsimp only at hkept
  rw [hnil] at hkept
  exact absurd (List.prefix_nil.mp hkept) (List.cons_ne_nil _ _)

variable [MeasurementSpec α]

/-- A string is written for every position that is taken. -/
theorem Loading.writeSomeOctetString_objects (size : UInt8) (fuel numWritten : ℕ)
    (iterator : RangeWriteIterator α) (p : Loading α)
    (hcount : numWritten = iterator.objects.length) :
    (writeSomeOctetString size fuel numWritten iterator p).1 =
      (writeSomeOctetString size fuel numWritten iterator p).2.1.objects.length := by
  induction fuel generalizing numWritten iterator p with
  | zero => exact hcount
  | succ fuel ih =>
    unfold writeSomeOctetString
    split
    case isFalse => exact hcount
    case isTrue =>
      split
      · exact hcount
      · split
        · exact hcount
        · split
          · exact hcount
          case h_2 writer iterator' hwrite =>
            refine ih _ _ _ ?_
            unfold RangeWriteIterator.write at hwrite
            split_ifs at hwrite
            obtain ⟨-, rfl⟩ := Prod.mk.inj (Option.some.inj hwrite)
            rw [List.length_append, List.length_singleton, hcount]

/-- The first string is written where there is room for it. -/
theorem Loading.writeOctetStrings_reports {fuel : ℕ} (hfuel : 0 < fuel) {p : Loading α}
    (hvalid : p.range.isValid) {cell : Cell α} (hcell : p.cells[p.range.start]? = some cell)
    (hroom : maxObjectSpace ≤ p.writer.remaining) :
    reportsObjects (p.writeOctetStrings fuel).2.writer.headers = true := by
  obtain ⟨fuel, rfl⟩ := Nat.exists_eq_add_of_le' hfuel
  unfold writeOctetStrings
  rw [if_pos hvalid, hcell]
  dsimp only
  generalize (if p.range.isOneByte then IndexType.UInt8 else .UInt16) = index
  generalize hserializer : ({ gv := .Group110Var0
                              size := (MeasurementSpec.octetSize cell.selection.value).toNat } :
    DNP3Serializer) = serializer
  have hsize : serializer.size ≤ 255 := by
    rw [← hserializer]
    exact Nat.le_of_lt_succ (UInt8.toNat_lt _)
  obtain ⟨w, hiter, hspace⟩ := iterateOverRange_room hsize hroom index p.range.start
  rw [hiter]
  dsimp only
  have htakes : 0 < (writeSomeOctetString (MeasurementSpec.octetSize cell.selection.value)
      p.range.count 0 { serializer, index, start := index.cast p.range.start }
      { p with writer := w }).1 :=
    writeSomeOctetString_takes (p := { p with writer := w }) (count_pos hvalid) hvalid
      hcell hspace rfl
  have hobjects := writeSomeOctetString_objects (MeasurementSpec.octetSize cell.selection.value)
    p.range.count 0 { serializer, index, start := index.cast p.range.start }
    { p with writer := w } rfl
  generalize @writeSomeOctetString α _ _ _ _ _ _ = result at htakes hobjects ⊢
  have hne : result.2.1.objects ≠ [] := by
    intro hnil
    rw [hnil, List.length_nil] at hobjects
    omega
  rw [if_neg (by omega)]
  -- The headers of the strings that follow come behind this one.
  obtain ⟨more, hmore, -⟩ := writeOctetStrings_appends fuel
    { result.2.2 with writer := result.2.2.writer.push result.2.1.finish }
  rw [hmore]
  exact reportsObjects_append
    (reportsObjects_concat _ (RangeWriteIterator.finish_hasObjects hne)) more

omit [MeasurementSpec α] in
/-- Where the 256 points of a one-byte range are in one header, all selected cells are packed. -/
theorem packed_of_row {p p' : Loading α} {start : ℕ} {objects : List α}
    (h : TakesRow .Group1Var1 p p' start objects) (hwindow : Window p.cells p.range)
    (hrange : p.range = { start := 0, stop := 255 }) (hlength : objects.length = 256) :
    Packed p.cells := by
  intro cell hmem hselected
  obtain ⟨i, hcell⟩ := List.mem_iff_getElem?.mp hmem
  have hstop := (hwindow.selected i cell hcell hselected).2
  rw [hrange] at hstop
  dsimp only at hstop
  obtain ⟨cell', hcell', -, -, hvariation⟩ := h.cells i (by omega)
  rw [hrange, Nat.zero_add, hcell] at hcell'
  obtain rfl := Option.some.inj hcell'
  exact hvariation

/-- A bitfield has objects unless its counter comes round to zero. -/
theorem Loading.writeSingleBitfield_reports {p : Loading α} (hwindow : Window p.cells p.range)
    (hincreasing : Increasing p.cells) (hlength : p.cells.length < 2 ^ 16)
    (hvalid : p.range.isValid) {start : Cell α} (hstart : p.cells[p.range.start]? = some start)
    (hselected : start.selection.selected)
    (hvariation : start.selection.variation = .Group1Var1) (hover : Packed p.cells → ¬p.Overruns)
    (hroom : maxObjectSpace ≤ p.writer.remaining) :
    reportsObjects (p.writeSingleBitfield .Group1Var1 start).2.writer.headers = true := by
  obtain ⟨hless, -⟩ | ⟨ret, iterator, objects, p', hsome, hrow⟩ :=
    p.writeSingleBitfield_row hwindow hincreasing hvalid hstart hselected
  · have hsize := indexType_size_le (if (p.mapped start).isOneByte then .UInt8 else .UInt16)
    unfold maxObjectSpace at hroom
    omega
  · have hfits := hrow.fits
    have hpacked : p.Overruns → objects.length = 256 → Packed p.cells := by
      intro hoverruns hall
      have hrow' := hrow.row
      rw [hvariation] at hrow'
      exact packed_of_row (p := { p with writer := p'.writer }) hrow' hwindow hoverruns.1.range hall
    have hle := (hrow.length_le_or_overruns rfl hwindow hincreasing hvalid hstart
      hlength).resolve_right fun h => hover (hpacked h.2.2 h.2.1) h.2.2
    rw [← hrow.start_eq, ← hrow.index_eq] at hfits
    rw [← hrow.index_eq] at hle
    obtain ⟨bytes, -, hheaders⟩ := (BitfieldRangeWriteIterator.finish_packed hrow.gv_eq hrow.packs
      hrow.ne_nil hfits p'.writer).1 hle
    rw [hsome]
    dsimp only
    rw [hheaders]
    exact reportsObjects_concat _ rfl

/-! ## The load of a type -/

/-- What the load of the binaries needs, so that the counter of a bitfield does not come round to
zero. -/
structure Countable (p : Loading α) : Prop where
  window : Window p.cells p.range
  increasing : Increasing p.cells
  length : p.cells.length < 2 ^ 16
  notOverruns : Packed p.cells → ¬p.Overruns

/-- The write function of a type writes the point at the start of the range. -/
theorem Loading.writeFun_reports {type : StaticType} {p : Loading α}
    (hcountable : type = .Binary → Countable p) (hvalid : p.range.isValid) {start : Cell α}
    (hstart : p.cells[p.range.start]? = some start) (hselected : start.selection.selected)
    (hroom : maxObjectSpace ≤ p.writer.remaining) :
    reportsObjects (p.writeFun (StaticWriter.get type start.selection.variation)
      start).2.writer.headers = true := by
  by_cases hbits : StaticWriter.get type start.selection.variation = .writeSingleBitfield
  · -- Only binaries are packed.
    have hbinary : type = .Binary ∧ start.selection.variation = .Group1Var1 := by
      revert hbits
      cases type with
      | Binary => cases start.selection.variation <;> simp [StaticWriter.get]
      | _ => cases start.selection.variation <;> exact nofun
    obtain ⟨hwindow, hincreasing, hlength, hover⟩ := hcountable hbinary.1
    rw [hbits]
    exact writeSingleBitfield_reports hwindow hincreasing hlength hvalid hstart hselected hbinary.2
      hover hroom
  · generalize StaticWriter.get type start.selection.variation = writer at hbits
    cases writer with
    | writeSingleBitfield => exact absurd rfl hbits
    | writeWithSerializer gv => exact writeWithSerializer_reports gv hvalid hstart hselected hroom
    | write => exact writeOctetStrings_reports (count_pos hvalid) hvalid hstart hroom

omit [MeasurementSpec α] in
/-- A range that has moved on does not start at the first position. -/
theorem Countable.advance {p : Loading α} (h : Countable p) (hvalid : p.range.isValid)
    {cell : Cell α} (hcell : p.cells[p.range.start]? = some cell)
    (hselected : cell.selection.selected = false) :
    Countable { p with range := p.range.advance } where
  window := h.window.advance hvalid hcell hselected
  increasing := h.increasing
  length := h.length
  notOverruns := by
    intro _ hover
    have hrange : p.range.advance = { start := 0, stop := 255 } := hover.1.range
    unfold Range.advance at hrange
    rw [if_pos hvalid] at hrange
    split_ifs at hrange <;> simp at hrange

/-- The load of a type writes a point, or is complete with nothing written. -/
theorem Loading.loop_reports (type : StaticType) (fuel : ℕ) {p : Loading α}
    (hcountable : type = .Binary → Countable p) (hroom : maxObjectSpace ≤ p.writer.remaining) :
    reportsObjects (loop type fuel p).2.writer.headers = true ∨
      (loop type fuel p).1 = true ∧ (loop type fuel p).2.writer = p.writer := by
  induction fuel generalizing p with
  | zero => exact .inr ⟨rfl, rfl⟩
  | succ fuel ih =>
    unfold loop
    by_cases hvalid : p.range.isValid
    swap
    · rw [if_neg hvalid]
      exact .inr ⟨rfl, rfl⟩
    rw [if_pos hvalid]
    cases hcell : p.cells[p.range.start]? with
    | none => exact .inr ⟨rfl, rfl⟩
    | some cell =>
      dsimp only
      by_cases hselected : cell.selection.selected
      · -- The first point is written, and what the loop writes later comes behind it.
        have hreports := writeFun_reports hcountable hvalid hcell hselected hroom
        rw [if_pos hselected]
        refine .inl ?_
        split
        · obtain ⟨more, hmore, -⟩ := loop_appends type fuel
            (p.writeFun (StaticWriter.get type cell.selection.variation) cell).2
          rw [hmore]
          exact reportsObjects_append hreports more
        · exact hreports
      · rw [if_neg hselected]
        -- A position that is not selected is passed over with the writer unchanged.
        have hnot : cell.selection.selected = false := by simpa using hselected
        exact ih (p := { p with range := p.range.advance })
          (fun hbinary => (hcountable hbinary).advance hvalid hcell hnot) hroom

/-! ## The load of all types -/

/-- The load of some types writes a point, or is complete with nothing written. -/
theorem loadTypes_reportsObjects {types : List StaticType} (hnot : .Binary ∉ types)
    {db : DatabaseBuffers α} {writer : HeaderWriter α} (hroom : maxObjectSpace ≤ writer.remaining) :
    reportsObjects (loadTypes types db writer).2.2.headers = true ∨
      (loadTypes types db writer).1 = true ∧ (loadTypes types db writer).2.2 = writer := by
  induction types generalizing db with
  | nil => exact .inr ⟨rfl, rfl⟩
  | cons type types ih =>
    have hne : type ≠ .Binary := fun heq => hnot (heq ▸ List.mem_cons_self)
    have hrest : .Binary ∉ types := fun hmem => hnot (List.mem_cons_of_mem _ hmem)
    have hloop := Loading.loop_reports type (db.ranges type).count
      (p := { cells := db.cells type, range := db.ranges type, writer })
      (fun heq => absurd heq hne) hroom
    unfold loadTypes loadType
    dsimp only
    rcases hloop with hreports | ⟨hdone, hsame⟩
    · refine .inl ?_
      split
      · obtain ⟨-, -, more, hmore, -⟩ := loadTypes_others hrest (db.set type _ _) _
        rw [hmore]
        exact reportsObjects_append hreports more
      · exact hreports
    · rw [hdone, if_pos rfl, hsame]
      exact ih hrest

/-- A load that is not complete has written a point, where it had room for one and did not begin
with the 256 packed points of a one-byte range. -/
theorem load_reportsObjects {db : DatabaseBuffers α} {writer : HeaderWriter α}
    (hwindow : Window (db.cells .Binary) (db.ranges .Binary))
    (hincreasing : Increasing (db.cells .Binary)) (hlength : (db.cells .Binary).length < 2 ^ 16)
    (hover : Packed (db.cells .Binary) → ¬db.Overruns writer.remaining)
    (hroom : maxObjectSpace ≤ writer.remaining)
    (hmore : (db.load writer).1 = false) :
    reportsObjects (db.load writer).2.2.headers = true := by
  have hall : StaticType.all = .Binary :: StaticType.all.tail := rfl
  have hothers : StaticType.Binary ∉ StaticType.all.tail := by decide
  have hloop := Loading.loop_reports .Binary (db.ranges .Binary).count
    (p := { cells := db.cells .Binary, range := db.ranges .Binary, writer })
    (fun _ => ⟨hwindow, hincreasing, hlength, hover⟩) hroom
  rw [load, hall, loadTypes, loadType] at hmore ⊢
  dsimp only at hmore ⊢
  rcases hloop with hreports | ⟨hdone, hsame⟩
  · split
    · obtain ⟨-, -, more, hheaders, -⟩ := loadTypes_others hothers (db.set .Binary _ _) _
      rw [hheaders]
      exact reportsObjects_append hreports more
    · exact hreports
  · rw [hdone, if_pos rfl, hsame] at hmore ⊢
    rcases loadTypes_reportsObjects hothers hroom with hreports | ⟨hcomplete, -⟩
    · exact hreports
    · rw [hcomplete] at hmore
      cases hmore

end OpenDnp3.Outstation.DatabaseBuffers
