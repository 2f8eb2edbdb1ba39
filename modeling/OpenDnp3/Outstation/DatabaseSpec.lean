import OpenDnp3.Lib.Run
import OpenDnp3.Outstation.Database

/-!
# Static data is reported exactly

The loads of a selection, over any number of fragments, list every selected point once. A type has
a window: outside of its selected range no cell is selected. A step of a load takes the first
selected cell, and what is still to be listed is what remains selected.
-/

namespace OpenDnp3.Outstation.DatabaseBuffers

open App

variable {α : Type*}

/-- What a cell reports: the virtual index and the value at the time of the selection. -/
def point (cell : Cell α) : ℕ × α := (cell.config.vIndex.toNat, cell.selection.value)

/-- The points that are selected, in the order of the cells. -/
def pending (cells : List (Cell α)) : List (ℕ × α) :=
  (cells.filter fun cell => cell.selection.selected).map point

/-- The virtual indices of the cells go up. -/
def Increasing (cells : List (Cell α)) : Prop :=
  (cells.map fun cell => cell.config.vIndex.toNat).Pairwise (· < ·)

/-- The range is empty or lies in the cells, and no cell outside of it is selected. -/
structure Window (cells : List (Cell α)) (range : Range) : Prop where
  inside : range.isValid → range.stop < cells.length
  empty : ¬range.isValid → range = {}
  selected : ∀ i cell, cells[i]? = some cell → cell.selection.selected →
    range.start ≤ i ∧ i ≤ range.stop

/-! ## One cell -/

/-- A range is valid where it does not stop before its start. -/
theorem isValid_iff (range : Range) : range.isValid = true ↔ range.start ≤ range.stop := by
  simp [Range.isValid]

/-- A range that moves on past a cell that is not selected is still a window. -/
theorem Window.advance {cells : List (Cell α)} {range : Range} (h : Window cells range)
    (hvalid : range.isValid) {cell : Cell α} (hcell : cells[range.start]? = some cell)
    (hselected : cell.selection.selected = false) : Window cells range.advance := by
  have hinside := h.inside hvalid
  -- The cell at the start is not selected, so every selected one comes after it.
  have hlater : ∀ i c, cells[i]? = some c → c.selection.selected →
      range.start < i ∧ i ≤ range.stop := by
    intro i c hc hsel
    obtain ⟨hstart, hstop⟩ := h.selected i c hc hsel
    refine ⟨lt_of_le_of_ne hstart ?_, hstop⟩
    rintro rfl
    rw [hcell, Option.some.injEq] at hc
    subst hc
    rw [hselected] at hsel
    cases hsel
  unfold Range.advance
  rw [if_pos hvalid]
  split_ifs with hlt
  · refine ⟨fun _ => hinside, fun hnot => ?_, hlater⟩
    rw [isValid_iff] at hnot
    dsimp only at hnot
    omega
  · refine ⟨fun hempty => absurd hempty (by decide), fun _ => rfl, fun i c hc hsel => ?_⟩
    obtain ⟨hi, hi'⟩ := hlater i c hc hsel
    omega

/-- A cell that is no longer selected. -/
def deselected (cell : Cell α) : Cell α :=
  { cell with selection := { cell.selection with selected := false } }

/-- The cells before a cell and those after it. -/
theorem exists_split {cells : List (Cell α)} {i : ℕ} {cell : Cell α} (h : cells[i]? = some cell) :
    ∃ pre post, cells = pre ++ cell :: post ∧ pre.length = i := by
  obtain ⟨hi, rfl⟩ := List.getElem?_eq_some_iff.mp h
  exact ⟨cells.take i, cells.drop (i + 1), by rw [List.cons_getElem_drop_succ,
    List.take_append_drop], by rw [List.length_take]; omega⟩

/-- A cell is replaced between those before it and those after it. -/
theorem set_split {pre post : List (Cell α)} {cell cell' : Cell α} :
    (pre ++ cell :: post).set pre.length cell' = pre ++ cell' :: post := by
  simp

/-- The cell at the start of the window is the first one that is selected. -/
theorem Window.filter_take {cells : List (Cell α)} {range : Range} (h : Window cells range)
    {cell : Cell α} (hcell : cells[range.start]? = some cell)
    (hselected : cell.selection.selected) :
    cells.filter (fun cell => cell.selection.selected) =
      cell :: (cells.set range.start (deselected cell)).filter fun cell =>
        cell.selection.selected := by
  obtain ⟨pre, post, rfl, hlen⟩ := exists_split hcell
  rw [← hlen, set_split]
  -- Nothing before the start of the window is selected.
  have hpre : pre.filter (fun c => c.selection.selected) = [] := by
    refine List.filter_eq_nil_iff.mpr fun c hc hsel => ?_
    obtain ⟨i, hi, hget⟩ := List.getElem_of_mem hc
    have hget? : (pre ++ cell :: post)[i]? = some c := by
      rw [List.getElem?_append_left hi, List.getElem?_eq_getElem hi, hget]
    have hle := (h.selected i c hget? hsel).1
    omega
  simp [hpre, hselected, deselected]

/-- What is pending begins with the cell at the start of the window, and the others stay in the
window behind it. -/
theorem Window.take {cells : List (Cell α)} {range : Range} (h : Window cells range)
    (hvalid : range.isValid) {cell : Cell α} (hcell : cells[range.start]? = some cell)
    (hselected : cell.selection.selected) :
    Window (cells.set range.start (deselected cell)) range.advance ∧
      pending cells = point cell :: pending (cells.set range.start (deselected cell)) := by
  constructor
  · obtain ⟨pre, post, rfl, hlen⟩ := exists_split hcell
    rw [← hlen, set_split]
    have hwindow : Window (pre ++ deselected cell :: post) range := by
      refine ⟨fun hv => by simpa using h.inside hv, h.empty, fun i c hc hsel => ?_⟩
      by_cases hi : i = pre.length
      · subst hi
        rw [List.getElem?_append_right le_rfl, Nat.sub_self, List.getElem?_cons_zero,
          Option.some.injEq] at hc
        subst hc
        cases hsel
      · refine h.selected i c ?_ hsel
        have hset := List.getElem?_set_ne (l := pre ++ cell :: post) (a := deselected cell)
          (Ne.symm hi)
        rw [set_split] at hset
        rw [← hset, hc]
    have hget : (pre ++ deselected cell :: post)[range.start]? = some (deselected cell) := by
      rw [← hlen, List.getElem?_append_right le_rfl, Nat.sub_self, List.getElem?_cons_zero]
    exact hwindow.advance hvalid hget rfl
  · rw [pending, h.filter_take hcell hselected]
    rfl

/-! ## Virtual indices -/

/-- The virtual indices of the cells. -/
def vIndices (cells : List (Cell α)) : List ℕ := cells.map fun cell => cell.config.vIndex.toNat

/-- A cell that keeps its index keeps those of all. -/
theorem vIndices_set {cells : List (Cell α)} {i : ℕ} {cell cell' : Cell α}
    (h : cells[i]? = some cell) (hconfig : cell'.config.vIndex = cell.config.vIndex) :
    vIndices (cells.set i cell') = vIndices cells := by
  obtain ⟨pre, post, rfl, rfl⟩ := exists_split h
  rw [set_split]
  simp [vIndices, hconfig]

/-- The order depends on the indices only. -/
theorem Increasing.of_vIndices {cells cells' : List (Cell α)} (h : Increasing cells)
    (hv : vIndices cells' = vIndices cells) : Increasing cells' := by
  rw [vIndices, vIndices] at hv
  rw [Increasing, hv]
  exact h

/-- From one cell to a later one the virtual index goes up by at least the distance. -/
theorem Increasing.add_le {cells : List (Cell α)} (h : Increasing cells) {i j : ℕ}
    {cell cell' : Cell α} (hi : cells[i]? = some cell) (hj : cells[j]? = some cell') (hij : i ≤ j) :
    cell.config.vIndex.toNat + (j - i) ≤ cell'.config.vIndex.toNat := by
  obtain ⟨k, rfl⟩ := Nat.exists_eq_add_of_le hij
  rw [Nat.add_sub_cancel_left]
  induction k generalizing cell' with
  | zero =>
    rw [Nat.add_zero, hi, Option.some.injEq] at hj
    rw [hj, Nat.add_zero]
  | succ k ih =>
    obtain ⟨hlt, hget⟩ := List.getElem?_eq_some_iff.mp hj
    have hk : i + k < cells.length := by omega
    have hstep := ih (List.getElem?_eq_getElem hk) (by omega)
    have hpair := List.pairwise_iff_getElem.mp h (i + k) (i + (k + 1)) (by simpa using hk)
      (by simpa using hlt) (by omega)
    simp only [List.getElem_map, hget] at hpair
    omega

/-! ## One range header -/

/-- The next object of the iterator has the virtual index of the cell at the start of the range, if
any cell has it, and the indices up to the stop of the range fit into the index type. -/
structure Aligned (iterator : RangeWriteIterator α) (nextIndex : UInt16) (p : Loading α) :
    Prop where
  nextIndex : nextIndex = UInt16.ofNat (iterator.start + iterator.objects.length)
  low : ∀ i cell, p.cells[i]? = some cell → p.range.isValid → p.range.start ≤ i →
    iterator.start + iterator.objects.length ≤ cell.config.vIndex.toNat
  high : ∀ i cell, p.cells[i]? = some cell → p.range.isValid → i ≤ p.range.stop →
    cell.config.vIndex.toNat ≤ iterator.index.max
  fits : iterator.objects ≠ [] →
    iterator.start + iterator.objects.length ≤ iterator.index.max + 1

/-- A part of a load lists these points, which were the first ones pending. -/
structure Lists (p p' : Loading α) (points : List (ℕ × α)) : Prop where
  pending : pending p.cells = points ++ pending p'.cells
  window : Window p'.cells p'.range
  vIndices : vIndices p'.cells = vIndices p.cells
  selected : ∀ cell ∈ p'.cells, cell.selection.selected → cell ∈ p.cells
  count : p'.range.count ≤ p.range.count

/-- A load that takes nothing lists nothing. -/
theorem Lists.refl {p : Loading α} (h : Window p.cells p.range) : Lists p p [] :=
  ⟨rfl, h, rfl, fun _ hcell _ => hcell, le_rfl⟩

/-- Two parts of a load list their points one after the other. -/
theorem Lists.trans {p₁ p₂ p₃ : Loading α} {points points' : List (ℕ × α)}
    (h : Lists p₁ p₂ points) (h' : Lists p₂ p₃ points') : Lists p₁ p₃ (points ++ points') where
  pending := by rw [h.pending, h'.pending, List.append_assoc]
  window := h'.window
  vIndices := h'.vIndices.trans h.vIndices
  selected cell hcell hselected := h.selected cell (h'.selected cell hcell hselected) hselected
  count := h'.count.trans h.count

/-- An advance makes the range smaller by one. -/
theorem count_advance {range : Range} (h : range.isValid) :
    range.advance.count + 1 = range.count := by
  have hle := (isValid_iff range).mp h
  unfold Range.advance
  rw [if_pos h]
  split_ifs with hlt
  · have hvalid : ({ range with start := range.start + 1 } : Range).isValid = true := by
      rw [isValid_iff]
      exact hlt
    rw [Range.count, Range.count, if_pos h, if_pos hvalid]
    dsimp only
    omega
  · rw [Range.count, Range.count, if_pos h, if_neg (by decide)]
    omega

/-- The next cell is listed. -/
theorem Loading.next_lists {p : Loading α} (h : Window p.cells p.range) (hvalid : p.range.isValid)
    {cell : Cell α} (hcell : p.cells[p.range.start]? = some cell)
    (hselected : cell.selection.selected) (writer : HeaderWriter α) :
    Lists p ({ p with writer }.next cell) [point cell] ∧
      ({ p with writer }.next cell).range.count + 1 = p.range.count := by
  obtain ⟨hwindow, hpending⟩ := h.take hvalid hcell hselected
  have hcount := count_advance hvalid
  refine ⟨⟨hpending, hwindow, vIndices_set hcell rfl, fun c hc hsel => ?_, ?_⟩, hcount⟩
  · obtain hc | rfl := List.mem_or_eq_of_mem_set hc
    · exact hc
    · cases hsel
  · change p.range.advance.count ≤ _
    omega

/-- A header goes on with the selected cell at the start of the range, of the next index and of its
variation. -/
theorem Loading.continues_eq_some {p : Loading α} {variation : GroupVariation} {nextIndex : UInt16}
    {cell : Cell α} (h : p.continues variation nextIndex = some cell) :
    p.range.isValid ∧ p.cells[p.range.start]? = some cell ∧ cell.selection.selected ∧
      cell.config.vIndex = nextIndex ∧ cell.selection.variation = variation := by
  unfold continues at h
  split_ifs at h with hvalid
  split at h
  · cases h
  case h_2 cell' hcell =>
    split_ifs at h with hcond
    cases h
    exact ⟨hvalid, hcell, hcond.1, hcond.2.2, hcond.2.1⟩

/-- The header is aligned after the next cell. -/
theorem Aligned.next {iterator : RangeWriteIterator α} {nextIndex : UInt16} {p : Loading α}
    (h : Aligned iterator nextIndex p) (hincreasing : Increasing p.cells)
    {cell : Cell α} (hvalid : p.range.isValid)
    (hcell : p.cells[p.range.start]? = some cell) (hindex : cell.config.vIndex = nextIndex)
    (writer : HeaderWriter α) :
    cell.config.vIndex.toNat = iterator.start + iterator.objects.length ∧
      Aligned { iterator with objects := iterator.objects ++ [cell.selection.value] }
        (nextIndex + 1) ({ p with writer }.next cell) := by
  have hlow := h.low _ _ hcell hvalid le_rfl
  have hlt := cell.config.vIndex.toNat_lt
  have heq : cell.config.vIndex.toNat = iterator.start + iterator.objects.length := by
    have hsize : iterator.start + iterator.objects.length < UInt16.size :=
      lt_of_le_of_lt hlow hlt
    rw [hindex, h.nextIndex, UInt16.toNat_ofNat_of_lt' hsize]
  have hstop := (isValid_iff _).mp hvalid
  -- The cells keep their virtual indices.
  have hcells : ∀ (i : ℕ) (c : Cell α), ({ p with writer }.next cell).cells[i]? = some c →
      ∃ c' : Cell α, p.cells[i]? = some c' ∧ c'.config.vIndex = c.config.vIndex := by
    intro i c hc
    by_cases hi : p.range.start = i
    · subst hi
      have hlen := (List.getElem?_eq_some_iff.mp hcell).1
      rw [Loading.next, List.getElem?_set_self hlen, Option.some.injEq] at hc
      exact ⟨cell, hcell, by rw [← hc]⟩
    · rw [Loading.next, List.getElem?_set_ne hi] at hc
      exact ⟨c, hc, rfl⟩
  -- Where the range is still valid, it has moved by one.
  have hadvance : ({ p with writer }.next cell).range.isValid →
      ({ p with writer }.next cell).range = { p.range with start := p.range.start + 1 } := by
    intro hv
    change p.range.advance.isValid at hv
    change p.range.advance = _
    unfold Range.advance at hv ⊢
    rw [if_pos hvalid] at hv ⊢
    split_ifs at hv ⊢ with hlt'
    · rfl
    · cases hv
  refine ⟨heq, ⟨?_, fun i c hc hv hi => ?_, fun i c hc hv hi => ?_, fun _ => ?_⟩⟩
  · rw [h.nextIndex, List.length_append, List.length_singleton]
    dsimp only
    rw [← Nat.add_assoc, UInt16.ofNat_add (_ + _) 1]
    rfl
  · obtain ⟨c', hc', hv'⟩ := hcells i c hc
    rw [hadvance hv] at hi
    dsimp only at hi
    have hadd := hincreasing.add_le hcell hc' (by omega)
    rw [List.length_append, List.length_singleton, ← hv']
    dsimp only
    omega
  · obtain ⟨c', hc', hv'⟩ := hcells i c hc
    rw [hadvance hv] at hi
    rw [← hv']
    exact h.high i c' hc' hvalid hi
  · have hhigh := h.high _ _ hcell hvalid hstop
    rw [List.length_append, List.length_singleton]
    dsimp only
    omega

/-- The loop of a range header lists the points of the cells that it takes, and takes one wherever
there is one to go on with and it does not run out of space. -/
theorem Loading.loadWithRangeIterator_spec (variation : GroupVariation) (fuel : ℕ)
    {nextIndex : UInt16} {iterator : RangeWriteIterator α} {p : Loading α}
    (hwindow : Window p.cells p.range) (hincreasing : Increasing p.cells)
    (haligned : Aligned iterator nextIndex p) :
    ∃ ret new p', loadWithRangeIterator variation fuel nextIndex iterator p =
        (ret, { iterator with objects := iterator.objects ++ new }, p') ∧
      Lists p p' ((List.range' (iterator.start + iterator.objects.length) new.length).zip new) ∧
      p'.writer.headers = p.writer.headers ∧
      (iterator.objects ++ new ≠ [] →
        iterator.start + (iterator.objects ++ new).length ≤ iterator.index.max + 1) ∧
      (ret = true → 0 < fuel → (p.continues variation nextIndex).isSome →
        p'.range.count < p.range.count) := by
  induction fuel generalizing nextIndex iterator p with
  | zero =>
    exact ⟨true, [], p, by simp [loadWithRangeIterator], .refl hwindow, rfl,
      by simpa using haligned.fits, fun _ hfuel => absurd hfuel (Nat.lt_irrefl 0)⟩
  | succ fuel ih =>
    unfold loadWithRangeIterator
    cases hcontinues : p.continues variation nextIndex with
    -- No cell to go on with: the header ends here.
    | none =>
      exact ⟨true, [], p, by simp, .refl hwindow, rfl, by simpa using haligned.fits,
        fun _ _ hsome => by cases hsome⟩
    | some cell =>
      obtain ⟨hvalid, hcell, hselected, hindex, -⟩ := continues_eq_some hcontinues
      dsimp only
      unfold RangeWriteIterator.write
      split_ifs with hspace
      · dsimp only
        obtain ⟨hlists, hcount⟩ := next_lists hwindow hvalid hcell hselected
          (p.writer.advance iterator.serializer.size)
        obtain ⟨heq, hnext⟩ := haligned.next hincreasing hvalid hcell hindex
          (p.writer.advance iterator.serializer.size)
        have hincreasing' := hincreasing.of_vIndices hlists.vIndices
        obtain ⟨ret, new, p', hrun, hlists', hheaders, hfits, -⟩ :=
          ih hlists.window hincreasing' hnext
        have hcount' := hlists'.count
        refine ⟨ret, cell.selection.value :: new, p', ?_, ?_, hheaders, ?_, fun _ _ _ => by omega⟩
        · rw [hrun]
          simp
        · have hall := hlists.trans hlists'
          rw [point, heq] at hall
          simpa [List.range'_succ, Nat.add_assoc] using hall
        · simpa [Nat.add_assoc] using hfits
      · -- The point does not fit any more.
        exact ⟨false, [], p, by simp, .refl hwindow, rfl, by simpa using haligned.fits,
          fun hret => by cases hret⟩

/-- The header that an iterator leaves lists its objects, if their indices fit. -/
theorem RangeWriteIterator.points_finish {iterator : RangeWriteIterator α}
    (h : iterator.objects ≠ [] →
      iterator.start + iterator.objects.length ≤ iterator.index.max + 1) :
    iterator.finish.points =
      (List.range' iterator.start iterator.objects.length).zip iterator.objects := by
  unfold RangeWriteIterator.finish
  by_cases hnil : iterator.objects = []
  · simp [hnil, ObjectHeader.points]
  · have hpos := List.length_pos_iff.mpr hnil
    have hle := h hnil
    have hcast : iterator.index.cast (iterator.start + iterator.objects.length - 1) =
        iterator.start + iterator.objects.length - 1 := by
      rw [IndexType.cast, Nat.mod_eq_of_lt (by omega)]
    rw [if_neg (by simpa using hnil), hcast, ObjectHeader.points]
    congr 2
    omega

/-- A new header is aligned with the first cell. -/
theorem Loading.aligned_start {p : Loading α} (hwindow : Window p.cells p.range)
    (hincreasing : Increasing p.cells) (hvalid : p.range.isValid) {start : Cell α}
    (hstart : p.cells[p.range.start]? = some start) (serializer : DNP3Serializer)
    (writer : HeaderWriter α) :
    let index : IndexType := if (p.mapped start).isOneByte then .UInt8 else .UInt16
    Aligned { serializer, index, start := index.cast (p.mapped start).start } start.config.vIndex
      { p with writer } := by
  intro index
  have hstop := hwindow.inside hvalid
  obtain ⟨last, hlast⟩ : ∃ last, p.cells[p.range.stop]? = some last :=
    ⟨_, List.getElem?_eq_getElem hstop⟩
  -- The indices increase, so the index of the last cell bounds them all.
  have hmax : ∀ i cell, p.cells[i]? = some cell → i ≤ p.range.stop →
      cell.config.vIndex.toNat ≤ index.max := by
    intro i cell hcell hi
    have hadd := hincreasing.add_le hcell hlast hi
    by_cases hone : (p.mapped start).isOneByte
    · have hle : last.config.vIndex.toNat ≤ 255 := by
        simp only [Range.isOneByte, Loading.mapped, hlast, Bool.and_eq_true,
          decide_eq_true_eq] at hone
        exact hone.2
      simp only [index, if_pos hone, IndexType.max]
      omega
    · have hlt := cell.config.vIndex.toNat_lt
      simp only [index, if_neg hone, IndexType.max]
      omega
  have hcast : index.cast (p.mapped start).start = start.config.vIndex.toNat := by
    have hle := hmax _ _ hstart ((isValid_iff _).mp hvalid)
    exact Nat.mod_eq_of_lt (Nat.lt_succ_of_le hle)
  refine ⟨?_, fun i cell hcell _ hi => ?_, fun i cell hcell _ hi => hmax i cell hcell hi,
    fun hne => absurd rfl hne⟩
  · rw [hcast]
    simp
  · have hadd := hincreasing.add_le hstart hcell hi
    rw [hcast]
    simp only [List.length_nil, Nat.add_zero]
    omega

/-- A range header is started with its first index, where there is space. -/
theorem RangeWriteIterator.iterateOverRange_spec (w : HeaderWriter α) (serializer : DNP3Serializer)
    (index : IndexType) (start : ℕ) :
    (∃ w', RangeWriteIterator.iterateOverRange w serializer index start = (w', none)) ∨
      ∃ w', RangeWriteIterator.iterateOverRange w serializer index start =
          (w', some { serializer, index, start := index.cast start }) ∧
        w'.headers = w.headers := by
  unfold RangeWriteIterator.iterateOverRange HeaderWriter.writeHeaderWithReserve
  split_ifs
  · exact .inl ⟨w, rfl⟩
  · dsimp only
    split_ifs
    · exact .inr ⟨_, rfl, rfl⟩
    · exact .inl ⟨_, rfl⟩

/-- A range header lists the points that it takes, and takes one wherever it does not run out of
space. -/
theorem Loading.writeWithSerializer_spec (gv : GroupVariation) {p : Loading α}
    (hwindow : Window p.cells p.range) (hincreasing : Increasing p.cells)
    (hvalid : p.range.isValid) {start : Cell α} (hstart : p.cells[p.range.start]? = some start)
    (hselected : start.selection.selected) :
    ∃ headers, (p.writeWithSerializer gv start).2.writer.headers = p.writer.headers ++ headers ∧
      Lists p (p.writeWithSerializer gv start).2 (headers.flatMap ObjectHeader.points) ∧
      ((p.writeWithSerializer gv start).1 = true →
        (p.writeWithSerializer gv start).2.range.count < p.range.count) := by
  unfold writeWithSerializer
  dsimp only
  have haligned := p.aligned_start hwindow hincreasing hvalid hstart gv.inst
  dsimp only at haligned
  -- Both index widths are treated alike.
  generalize (if (p.mapped start).isOneByte then IndexType.UInt8 else .UInt16) = index
    at haligned ⊢
  obtain ⟨w, hiter⟩ | ⟨w, hiter, hw⟩ := RangeWriteIterator.iterateOverRange_spec p.writer gv.inst
    index (p.mapped start).start
  · -- The header alone does not fit.
    rw [hiter]
    exact ⟨[], by simp, .refl hwindow, fun hret => by cases hret⟩
  · rw [hiter]
    dsimp only
    obtain ⟨ret, new, p', hrun, hlists, hheaders, hfits, hcount⟩ :=
      loadWithRangeIterator_spec start.selection.variation p.range.count
        (p := { p with writer := w }) hwindow hincreasing (haligned w)
    rw [hrun]
    dsimp only at hlists hheaders hfits hcount ⊢
    -- The header lists exactly the points that the loop has taken.
    have hpoints := @RangeWriteIterator.points_finish α
      { serializer := gv.inst, index, start := index.cast (p.mapped start).start,
        objects := [] ++ new }
      hfits
    refine ⟨[_], by rw [HeaderWriter.push, hheaders, hw], ?_, fun hret => ?_⟩
    · rw [List.flatMap_singleton, hpoints]
      exact ⟨hlists.pending, hlists.window, hlists.vIndices, hlists.selected, hlists.count⟩
    · refine hcount hret ?_ ?_
      · rw [Range.count, if_pos hvalid]
        omega
      · simp [continues, hvalid, hstart, hselected]

/-! ## The load of a type -/

variable [MeasurementSpec α]

/-- The selected cells are written through serializers of fixed size. -/
def FixedSize (type : StaticType) (cells : List (Cell α)) : Prop :=
  ∀ cell ∈ cells, cell.selection.selected →
    ∃ gv, StaticWriter.get type cell.selection.variation = .writeWithSerializer gv

omit [MeasurementSpec α] in
/-- What remains selected has the fixed sizes. -/
theorem FixedSize.of_lists {type : StaticType} {p p' : Loading α} {points : List (ℕ × α)}
    (h : FixedSize type p.cells) (hlists : Lists p p' points) : FixedSize type p'.cells :=
  fun cell hcell hselected => h cell (hlists.selected cell hcell hselected) hselected

omit [MeasurementSpec α] in
/-- A window that is empty has nothing selected. -/
theorem Window.none_selected {cells : List (Cell α)} {range : Range} (h : Window cells range)
    (hinvalid : ¬range.isValid) : ∀ cell ∈ cells, cell.selection.selected = false := by
  intro cell hcell
  obtain ⟨i, hi, hget⟩ := List.getElem_of_mem hcell
  by_contra hselected
  rw [Bool.not_eq_false] at hselected
  obtain ⟨hstart, hstop⟩ := h.selected i cell (by rw [List.getElem?_eq_getElem hi, hget]) hselected
  exact hinvalid ((isValid_iff range).mpr (hstart.trans hstop))

omit [MeasurementSpec α] in
/-- A cell that is not selected is passed over. -/
theorem Lists.advance {p : Loading α} (h : Window p.cells p.range) (hvalid : p.range.isValid)
    {cell : Cell α} (hcell : p.cells[p.range.start]? = some cell)
    (hselected : cell.selection.selected = false) :
    Lists p { p with range := p.range.advance } [] := by
  have hcount := count_advance hvalid
  exact ⟨rfl, h.advance hvalid hcell hselected, rfl, fun _ hc _ => hc, by dsimp only; omega⟩

omit [MeasurementSpec α] in
/-- An empty range is not valid. -/
theorem count_eq_zero {range : Range} (h : range.count = 0) : ¬range.isValid := by
  intro hvalid
  rw [Range.count, if_pos hvalid] at h
  omega

/-- The load of a type lists the points that it takes, and takes all of them unless it runs out of
space. -/
theorem Loading.loop_spec (type : StaticType) (fuel : ℕ) {p : Loading α}
    (hfuel : p.range.count ≤ fuel) (hwindow : Window p.cells p.range)
    (hincreasing : Increasing p.cells) (hfixed : FixedSize type p.cells) :
    ∃ headers, (loop type fuel p).2.writer.headers = p.writer.headers ++ headers ∧
      Lists p (loop type fuel p).2 (headers.flatMap ObjectHeader.points) ∧
      ((loop type fuel p).1 = true → ¬(loop type fuel p).2.range.isValid) := by
  induction fuel generalizing p with
  | zero =>
    have hzero : p.range.count = 0 := by omega
    exact ⟨[], by simp [loop], .refl hwindow, fun _ => count_eq_zero hzero⟩
  | succ fuel ih =>
    unfold loop
    by_cases hvalid : p.range.isValid
    swap
    · rw [if_neg hvalid]
      exact ⟨[], by simp, .refl hwindow, fun _ => hvalid⟩
    -- The induction is on the cells that are left in the range, which every turn makes fewer.
    have hlt : p.range.start < p.cells.length :=
      lt_of_le_of_lt ((isValid_iff _).mp hvalid) (hwindow.inside hvalid)
    obtain ⟨cell, hcell⟩ : ∃ cell, p.cells[p.range.start]? = some cell :=
      ⟨_, List.getElem?_eq_getElem hlt⟩
    rw [if_pos hvalid, hcell]
    dsimp only
    by_cases hselected : cell.selection.selected
    · obtain ⟨gv, hgv⟩ := hfixed cell (List.mem_of_getElem? hcell) hselected
      rw [if_pos hselected, hgv]
      obtain ⟨headers, hheaders, hlists, hcount⟩ :=
        p.writeWithSerializer_spec gv hwindow hincreasing hvalid hcell hselected
      rw [show p.writeFun (.writeWithSerializer gv) cell = p.writeWithSerializer gv cell from rfl]
      generalize p.writeWithSerializer gv cell = result at hheaders hlists hcount ⊢
      obtain ⟨ret, p'⟩ := result
      dsimp only at hheaders hlists hcount ⊢
      cases ret with
      | false => exact ⟨headers, hheaders, hlists, fun hret => by cases hret⟩
      | true =>
        have hle := hcount rfl
        obtain ⟨headers', hheaders', hlists', hdone⟩ := ih (by omega) hlists.window
          (hincreasing.of_vIndices hlists.vIndices) (hfixed.of_lists hlists)
        refine ⟨headers ++ headers', ?_, ?_, hdone⟩
        · rw [if_pos rfl, hheaders', hheaders, List.append_assoc]
        · rw [List.flatMap_append]
          exact hlists.trans hlists'
    · -- A cell that is not selected is passed over.
      rw [Bool.not_eq_true] at hselected
      rw [if_neg (by simp [hselected])]
      have hlists := Lists.advance hwindow hvalid hcell hselected
      have hcount := count_advance hvalid
      obtain ⟨headers, hheaders, hlists', hdone⟩ := ih (p := { p with range := p.range.advance })
        (by dsimp only; omega) hlists.window hincreasing hfixed
      exact ⟨headers, hheaders, hlists.trans hlists', hdone⟩

/-! ## The headers of a type -/

/-- The type of the points of a static header, by its object group. -/
def headerType : ObjectHeader α → Option StaticType
  | .range serializer _ _ _ _ => (staticSelection serializer.gv).map Prod.fst
  | .bitfield gv _ _ _ _ => (staticSelection gv).map Prod.fst
  | _ => none

/-- The points of a type that the headers list. -/
def pointsOf (type : StaticType) (headers : List (ObjectHeader α)) : List (ℕ × α) :=
  headers.flatMap fun header => if headerType header = some type then header.points else []

/-- A writer has gone on with headers of this type only. -/
def Appends (type : StaticType) (w w' : HeaderWriter α) : Prop :=
  ∃ headers, w'.headers = w.headers ++ headers ∧ ∀ header ∈ headers, headerType header = some type

omit [MeasurementSpec α] in
/-- No header is appended. -/
theorem Appends.of_eq {type : StaticType} {w w' : HeaderWriter α} (h : w'.headers = w.headers) :
    Appends type w w' :=
  ⟨[], by simp [h], by simp⟩

omit [MeasurementSpec α] in
/-- One header of the type is appended. -/
theorem Appends.push {type : StaticType} {w w' : HeaderWriter α} {header : ObjectHeader α}
    (h : w'.headers = w.headers ++ [header]) (htype : headerType header = some type) :
    Appends type w w' :=
  ⟨[header], h, by simpa using htype⟩

omit [MeasurementSpec α] in
/-- Headers are appended one after the other. -/
theorem Appends.trans {type : StaticType} {w₁ w₂ w₃ : HeaderWriter α} (h : Appends type w₁ w₂)
    (h' : Appends type w₂ w₃) : Appends type w₁ w₃ := by
  obtain ⟨headers, heq, htype⟩ := h
  obtain ⟨headers', heq', htype'⟩ := h'
  refine ⟨headers ++ headers', by rw [heq', heq, List.append_assoc], fun header hmem => ?_⟩
  exact (List.mem_append.mp hmem).elim (htype header) (htype' header)

omit [MeasurementSpec α] in
/-- The points of headers one after the other. -/
theorem pointsOf_append (type : StaticType) (headers headers' : List (ObjectHeader α)) :
    pointsOf type (headers ++ headers') = pointsOf type headers ++ pointsOf type headers' :=
  List.flatMap_append

omit [MeasurementSpec α] in
/-- The points of headers of one type are all of its type. -/
theorem pointsOf_eq {type : StaticType} {headers : List (ObjectHeader α)}
    (h : ∀ header ∈ headers, headerType header = some type) :
    pointsOf type headers = headers.flatMap ObjectHeader.points :=
  List.flatMap_congr fun header hmem => if_pos (h header hmem)

omit [MeasurementSpec α] in
/-- Headers of another type have no point of the type. -/
theorem pointsOf_eq_nil {type type' : StaticType} (hne : type ≠ type')
    {headers : List (ObjectHeader α)}
    (h : ∀ header ∈ headers, headerType header = some type') : pointsOf type headers = [] := by
  refine List.flatMap_eq_nil_iff.mpr fun header hmem => if_neg ?_
  rw [h header hmem, Option.some.injEq]
  exact hne.symm

omit [MeasurementSpec α] in
/-- The cells of a header change only the space. -/
theorem Loading.loadWithRangeIterator_headers (variation : GroupVariation) (fuel : ℕ)
    (nextIndex : UInt16) (iterator : RangeWriteIterator α) (p : Loading α) :
    (loadWithRangeIterator variation fuel nextIndex iterator p).2.1.serializer =
        iterator.serializer ∧
      (loadWithRangeIterator variation fuel nextIndex iterator p).2.2.writer.headers =
        p.writer.headers := by
  induction fuel generalizing nextIndex iterator p with
  | zero => exact ⟨rfl, rfl⟩
  | succ fuel ih =>
    unfold loadWithRangeIterator RangeWriteIterator.write
    split
    · exact ⟨rfl, rfl⟩
    · split_ifs
      · exact ih _ _ _
      · exact ⟨rfl, rfl⟩

/-- A bitfield keeps its variation. -/
theorem BitfieldRangeWriteIterator.write_gv {iterator iterator' : BitfieldRangeWriteIterator}
    {value : Bool} (h : iterator.write value = some iterator') : iterator'.gv = iterator.gv := by
  unfold BitfieldRangeWriteIterator.write at h
  split at h
  · cases h
    rfl
  · cases h

/-- The cells of a bitfield change only the space. -/
theorem Loading.loadWithBitfieldIterator_headers (variation : GroupVariation) (fuel : ℕ)
    (nextIndex : UInt16) (iterator : BitfieldRangeWriteIterator) (p : Loading α) :
    (loadWithBitfieldIterator variation fuel nextIndex iterator p).2.1.gv = iterator.gv ∧
      (loadWithBitfieldIterator variation fuel nextIndex iterator p).2.2.writer.headers =
        p.writer.headers := by
  induction fuel generalizing nextIndex iterator p with
  | zero => exact ⟨rfl, rfl⟩
  | succ fuel ih =>
    unfold loadWithBitfieldIterator
    split
    · exact ⟨rfl, rfl⟩
    · split
      · exact ⟨rfl, rfl⟩
      case h_2 iterator' hwrite =>
        rw [← BitfieldRangeWriteIterator.write_gv hwrite]
        exact ih _ _ _

/-- The octet strings of a header change only the space. -/
theorem Loading.writeSomeOctetString_headers (size : UInt8) (fuel numWritten : ℕ)
    (iterator : RangeWriteIterator α) (p : Loading α) :
    (writeSomeOctetString size fuel numWritten iterator p).2.1.serializer = iterator.serializer ∧
      (writeSomeOctetString size fuel numWritten iterator p).2.2.writer.headers =
        p.writer.headers := by
  induction fuel generalizing numWritten iterator p with
  | zero => exact ⟨rfl, rfl⟩
  | succ fuel ih =>
    unfold writeSomeOctetString RangeWriteIterator.write
    split
    · split
      · exact ⟨rfl, rfl⟩
      · split
        · exact ⟨rfl, rfl⟩
        · split_ifs
          · exact ih _ _ _
          · exact ⟨rfl, rfl⟩
    · exact ⟨rfl, rfl⟩

omit [MeasurementSpec α] in
/-- `WriteWithSerializer` writes no header, or one of its serializer. -/
theorem Loading.writeWithSerializer_headers (gv : GroupVariation) (start : Cell α) (p : Loading α) :
    (p.writeWithSerializer gv start).2.writer.headers = p.writer.headers ∨
      ∃ index first stop objects, (p.writeWithSerializer gv start).2.writer.headers =
        p.writer.headers ++ [.range gv.inst index first stop objects] := by
  unfold writeWithSerializer
  dsimp only
  generalize (if (p.mapped start).isOneByte then IndexType.UInt8 else .UInt16) = index
  obtain ⟨w, hiter⟩ | ⟨w, hiter, hw⟩ := RangeWriteIterator.iterateOverRange_spec p.writer gv.inst
    index (p.mapped start).start
  · rw [hiter]
    exact .inl rfl
  · rw [hiter]
    dsimp only
    obtain ⟨hserializer, hheaders⟩ := loadWithRangeIterator_headers start.selection.variation
      p.range.count start.config.vIndex
      { serializer := gv.inst, index, start := index.cast (p.mapped start).start }
      { p with writer := w }
    generalize loadWithRangeIterator start.selection.variation p.range.count start.config.vIndex
      { serializer := gv.inst, index, start := index.cast (p.mapped start).start }
      { p with writer := w } = result at hserializer hheaders ⊢
    have hfinish : ∃ index first stop objects, result.2.1.finish =
        .range gv.inst index first stop objects := by
      rw [RangeWriteIterator.finish, hserializer]
      exact ⟨_, _, _, _, rfl⟩
    obtain ⟨index', first, stop, objects, hfinish⟩ := hfinish
    refine .inr ⟨index', first, stop, objects, ?_⟩
    rw [← hfinish, HeaderWriter.push, hheaders, hw]

omit [MeasurementSpec α] in
/-- A run of cells becomes a header of the type. -/
theorem Loading.writeWithSerializer_appends (gv : GroupVariation) (start : Cell α) (p : Loading α)
    {type : StaticType} (htype : (staticSelection gv).map Prod.fst = some type) :
    Appends type p.writer (p.writeWithSerializer gv start).2.writer := by
  obtain heq | ⟨_, _, _, _, heq⟩ := p.writeWithSerializer_headers gv start
  · exact .of_eq heq
  · exact .push heq htype

/-- A run of packed binaries becomes a header of binaries. -/
theorem Loading.writeSingleBitfield_appends (start : Cell α) (p : Loading α) :
    Appends .Binary p.writer (p.writeSingleBitfield .Group1Var1 start).2.writer := by
  unfold writeSingleBitfield BitfieldRangeWriteIterator.iterateOverSingleBitfield
    HeaderWriter.writeHeaderWithReserve
  dsimp only
  generalize (if (p.mapped start).isOneByte then IndexType.UInt8 else .UInt16) = index
  split_ifs with hspace
  · exact .of_eq rfl
  · obtain ⟨hgv, hheaders⟩ := loadWithBitfieldIterator_headers start.selection.variation
      p.range.count start.config.vIndex
      { gv := .Group1Var1, index, start := index.cast (p.mapped start).start,
        maxCount := (p.writer.remaining - 3 - 2 * index.size) * 8 }
      { p with writer := { p.writer with remaining := p.writer.remaining - 3 - 2 * index.size } }
    unfold BitfieldRangeWriteIterator.finish
    dsimp only [HeaderWriter.advance]
    split_ifs
    · refine .push (congrArg (· ++ [_]) hheaders) ?_
      rw [headerType, hgv]
      rfl
    · refine .push (congrArg (· ++ [_]) hheaders) ?_
      rw [headerType, hgv]
      rfl

/-- Octet strings become headers of octet strings. -/
theorem Loading.writeOctetStrings_appends (fuel : ℕ) (p : Loading α) :
    Appends .OctetString p.writer (p.writeOctetStrings fuel).2.writer := by
  induction fuel generalizing p with
  | zero => exact .of_eq rfl
  | succ fuel ih =>
    unfold writeOctetStrings
    split
    · split
      · exact .of_eq rfl
      case h_2 cell hcell =>
        dsimp only
        generalize (if p.range.isOneByte then IndexType.UInt8 else .UInt16) = index
        obtain ⟨w, hiter⟩ | ⟨w, hiter, hw⟩ := RangeWriteIterator.iterateOverRange_spec p.writer
          { gv := .Group110Var0, size := (MeasurementSpec.octetSize cell.selection.value).toNat }
          index p.range.start
        · rw [hiter]
          exact .of_eq rfl
        · rw [hiter]
          dsimp only
          obtain ⟨hserializer, hheaders⟩ := writeSomeOctetString_headers
            (MeasurementSpec.octetSize cell.selection.value) p.range.count 0
            { serializer :=
                { gv := .Group110Var0
                  size := (MeasurementSpec.octetSize cell.selection.value).toNat }
              index, start := index.cast p.range.start }
            { p with writer := w }
          generalize @writeSomeOctetString α _ _ _ _ _ _ = result at hserializer hheaders ⊢
          -- The header is appended whether the loop goes on or not.
          have happends : Appends .OctetString p.writer
              (result.2.2.writer.push result.2.1.finish) := by
            refine .push (congrArg (· ++ [_]) (hheaders.trans hw)) ?_
            rw [RangeWriteIterator.finish, headerType, hserializer]
            rfl
          split_ifs
          · exact happends
          · exact happends.trans (ih _)
    · exact .of_eq rfl

/-- The write function of a type writes headers of this type. -/
theorem Loading.writeFun_appends (type : StaticType) (variation : GroupVariation) (start : Cell α)
    (p : Loading α) :
    Appends type p.writer (p.writeFun (StaticWriter.get type variation) start).2.writer := by
  unfold StaticWriter.get
  split
  case h_1 => exact writeSingleBitfield_appends start p
  case h_21 => exact writeOctetStrings_appends _ p
  all_goals exact writeWithSerializer_appends _ start p rfl

/-- A load of a type appends headers of the type. -/
theorem Loading.loop_appends (type : StaticType) (fuel : ℕ) (p : Loading α) :
    Appends type p.writer (loop type fuel p).2.writer := by
  induction fuel generalizing p with
  | zero => exact .of_eq rfl
  | succ fuel ih =>
    unfold loop
    split
    · split
      · exact .of_eq rfl
      case h_2 cell hcell =>
        split
        · have happends := p.writeFun_appends type cell.selection.variation cell
          dsimp only
          split
          · exact happends.trans (ih _)
          · exact happends
        · exact ih { p with range := p.range.advance }
    · exact .of_eq rfl

end OpenDnp3.Outstation.DatabaseBuffers
