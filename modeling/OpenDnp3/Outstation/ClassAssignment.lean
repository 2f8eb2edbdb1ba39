import OpenDnp3.Outstation.Handlers
import OpenDnp3.Outstation.StaticReport

/-!
# Which points an assignment of a class reaches

`DatabaseBuffers::AssignClassTo` takes the requested range for a range of positions of the array,
while `SelectVirtualRange` looks the virtual indices up. `assigns_exactly_iff` says on which
databases this makes no difference: on those in contiguous mode (`reachable_of_contiguous`), but not
on a database with gaps.
-/

namespace OpenDnp3.Outstation.AssignClassHandler

open App

variable {α : Type*}

/-! ## Definitions -/

/-- The class that a header of the group 60 stands for. -/
def requestedClass : GroupVariation → Option PointClass
  | .Group60Var1 => some .Class0
  | .Group60Var2 => some .Class1
  | .Group60Var3 => some .Class2
  | .Group60Var4 => some .Class3
  | _ => none

/-- The handler after the header of a class and the header of a range of points. -/
def assignRange (h : AssignClassHandler α) (clazz points : HeaderRecord) (range : Range) :
    AssignClassHandler α :=
  handler.onHeader (handler.onHeader h (.allObjects clazz)) (.range points range)

/-- The virtual index of the point lies in the requested range. -/
def Addressed (range : Range) (cell : Cell α) : Prop :=
  range.start ≤ cell.config.vIndex.toNat ∧ cell.config.vIndex.toNat ≤ range.stop

instance Addressed.instDecidable (range : Range) (cell : Cell α) :
    Decidable (Addressed range cell) :=
  inferInstanceAs (Decidable (_ ∧ _))

/-- The point with the class assigned to it. -/
def assigned (clazz : PointClass) (cell : Cell α) : Cell α :=
  { cell with config := { cell.config with clazz } }

/-- The application has been told of an assignment that includes this virtual index. -/
def Covered (type : StaticType) (clazz : PointClass) (calls : List (Output α))
    (vIndex : ℕ) : Prop :=
  ∃ start stop, Output.recordClassAssignment type clazz start stop ∈ calls ∧
    start ≤ vIndex ∧ vIndex ≤ stop

/-- The addressed points of the type, and no others, have been assigned the class; no other part of
the database has changed, and the application has been told of these points. -/
structure AssignsExactly (type : StaticType) (clazz : PointClass) (range : Range)
    (h h' : AssignClassHandler α) : Prop where
  assigns : h'.db = h.db.set type
    ((h.db.cells type).map fun cell => if Addressed range cell then assigned clazz cell else cell)
    (h.db.ranges type)
  reports : ∃ calls, h'.log = h.log ++ calls ∧
    ∀ cell ∈ h.db.cells type, Covered type clazz calls cell.config.vIndex.toNat ↔
      Addressed range cell

/-- Of the points that are not of the class yet, those in the range are the addressed ones, and the
addressed virtual indices are all less than the number of points. -/
structure Reachable (clazz : PointClass) (range : Range) (cells : List (Cell α)) : Prop where
  positions : ∀ i cell, cells[i]? = some cell → cell.config.clazz ≠ clazz →
    ((range.start ≤ i ∧ i ≤ range.stop) ↔ Addressed range cell)
  indices : ∀ cell ∈ cells, Addressed range cell → cell.config.vIndex.toNat < cells.length

/-! ## The two headers -/

/-- A header of a class is remembered with its place in the request. -/
theorem recordClass_spec (h : AssignClassHandler α) {gv : GroupVariation} {requested : PointClass}
    (hclazz : requestedClass gv = some requested) :
    (h.recordClass gv).2 =
      { h with classHeader := some h.numTotalHeaders, clazz := requested } := by
  unfold requestedClass at hclazz
  split at hclazz <;> cases hclazz <;> rfl

/-- What the two headers do together. -/
theorem assignRange_spec (h : AssignClassHandler α) (hexpecting : h.isExpectingAssignment.1 = false)
    (clazz points : HeaderRecord) (range : Range) {requested : PointClass} {type : StaticType}
    (hclazz : requestedClass clazz.enumeration = some requested)
    (htype : assignClassType points.enumeration = some type) :
    (h.assignRange clazz points range).db = (h.db.assignClassTo type requested range).2 ∧
      (h.assignRange clazz points range).log = h.log ++
        if (h.db.assignClassTo type requested range).1.isValid then
          [.recordClassAssignment type requested (h.db.assignClassTo type requested range).1.start
            (h.db.assignClassTo type requested range).1.stop]
        else [] := by
  have hrecord : h.isExpectingAssignment.2 = h := by
    unfold isExpectingAssignment at hexpecting ⊢
    split_ifs at hexpecting ⊢
    rfl
  -- The first header leaves its class and its place.
  have hfirst : ∃ iin, handler.onHeader h (.allObjects clazz) =
      { h with
        classHeader := some h.numTotalHeaders
        clazz := requested
        errors := h.errors ||| iin
        numTotalHeaders := h.numTotalHeaders + 1 } := by
    refine ⟨(h.recordClass clazz.enumeration).1, ?_⟩
    simp only [handler, processHeader, hexpecting, hrecord, Bool.false_eq_true, if_false]
    rw [recordClass_spec h hclazz]
  obtain ⟨iin, hfirst⟩ := hfirst
  have hsecond : (AssignClassHandler.mk h.db (some h.numTotalHeaders) requested
      (h.numTotalHeaders + 1) (h.errors ||| iin) h.log).isExpectingAssignment =
      (true, ⟨h.db, none, requested, h.numTotalHeaders + 1, h.errors ||| iin, h.log⟩) :=
    if_pos ⟨Nat.succ_pos _, rfl⟩
  unfold assignRange
  rw [hfirst]
  simp only [handler, processHeader, hsecond, htype, if_true, notifyApplicationOfAssignment]
  split_ifs with hvalid
  · exact ⟨rfl, rfl⟩
  · exact ⟨rfl, (List.append_nil _).symm⟩

/-! ## The points -/

/-- Of the positions in the array, those in the clipped range are those in the range. -/
theorem mem_clipped_iff {range : Range} {n i : ℕ} (hi : i < n) :
    ((range.intersection (DatabaseBuffers.rangeOf n)).start ≤ i ∧
      i ≤ (range.intersection (DatabaseBuffers.rangeOf n)).stop) ↔
      range.start ≤ i ∧ i ≤ range.stop := by
  unfold DatabaseBuffers.rangeOf Range.intersection
  rw [if_pos (by omega)]
  constructor
  · rintro ⟨hstart, hstop⟩
    constructor
    · exact (le_max_left _ _).trans hstart
    · exact hstop.trans (min_le_left _ _)
  · rintro ⟨hstart, hstop⟩
    constructor
    · exact max_le hstart (Nat.zero_le i)
    · exact le_min hstop (Nat.le_sub_one_of_lt hi)

/-- A number in the clipped range is the number of a position. -/
theorem lt_of_mem_clipped {range : Range} {n i : ℕ}
    (hstart : (range.intersection (DatabaseBuffers.rangeOf n)).start ≤ i)
    (hstop : i ≤ (range.intersection (DatabaseBuffers.rangeOf n)).stop) : i < n := by
  unfold DatabaseBuffers.rangeOf Range.intersection at hstart hstop
  split_ifs at hstart hstop with hpos
  · have hle : i ≤ n - 1 := hstop.trans (min_le_right _ _)
    omega
  · have hone : 1 ≤ i := (le_max_right _ _).trans hstart
    have hzero : i ≤ 0 := hstop.trans (min_le_right _ _)
    omega

/-- An assignment leaves a cell that is in the class already. -/
theorem assigned_eq_self_iff {clazz : PointClass} {cell : Cell α} :
    assigned clazz cell = cell ↔ cell.config.clazz = clazz := by
  constructor
  · intro h
    exact (congrArg (·.config.clazz) h).symm
  · rintro rfl
    rfl

/-- The cells come out as if they had been found by their virtual indices if and only if, of those
that change, the ones in the range are the addressed ones. -/
theorem assigned_cells_iff (clazz : PointClass) (range : Range) (cells : List (Cell α)) :
    (cells.mapIdx fun i cell =>
      if (range.intersection (DatabaseBuffers.rangeOf cells.length)).start ≤ i ∧
          i ≤ (range.intersection (DatabaseBuffers.rangeOf cells.length)).stop then
        assigned clazz cell
      else cell) = cells.map (fun cell =>
        if Addressed range cell then assigned clazz cell else cell) ↔
      ∀ i cell, cells[i]? = some cell → cell.config.clazz ≠ clazz →
        ((range.start ≤ i ∧ i ≤ range.stop) ↔ Addressed range cell) := by
  -- One point: the positions of the clipped range are compared with the indices of the request.
  have hcell (i : ℕ) (cell : Cell α) (h : cells[i]? = some cell) :
      ((if (range.intersection (DatabaseBuffers.rangeOf cells.length)).start ≤ i ∧
          i ≤ (range.intersection (DatabaseBuffers.rangeOf cells.length)).stop then
        assigned clazz cell
      else cell) = if Addressed range cell then assigned clazz cell else cell) ↔
      (cell.config.clazz ≠ clazz → ((range.start ≤ i ∧ i ≤ range.stop) ↔
        Addressed range cell)) := by
    rw [if_congr (mem_clipped_iff (List.getElem?_eq_some_iff.mp h).1) rfl rfl]
    by_cases hclazz : cell.config.clazz = clazz
    · rw [assigned_eq_self_iff.mpr hclazz, ite_self, ite_self]
      exact iff_of_true rfl fun hne => absurd hclazz hne
    · have hne : assigned clazz cell ≠ cell := fun h => hclazz (assigned_eq_self_iff.mp h)
      split_ifs with hposition hindex hindex
      · exact iff_of_true rfl fun _ => iff_of_true hposition hindex
      · exact iff_of_false hne fun h => hindex ((h hclazz).mp hposition)
      · exact iff_of_false hne.symm fun h => hposition ((h hclazz).mpr hindex)
      · exact iff_of_true rfl fun _ => iff_of_false hposition hindex
  -- The lists agree exactly if they agree at every position.
  constructor
  · intro h i cell hi
    rw [← hcell i cell hi]
    simpa [hi] using congrArg (·[i]?) h
  · intro h
    refine List.ext_getElem? fun i => ?_
    rw [List.getElem?_mapIdx, List.getElem?_map]
    rcases hi : cells[i]? with - | cell
    · rfl
    · exact congrArg some ((hcell i cell hi).mpr (h i cell hi))

/-- The clipped range covers the addressed points if and only if there are no virtual indices beyond
the number of points among them. -/
theorem covered_iff (clazz : PointClass) (type : StaticType) (range : Range)
    (cells : List (Cell α)) :
    (∀ cell ∈ cells, Covered type clazz
      (if (range.intersection (DatabaseBuffers.rangeOf cells.length)).isValid then
        [Output.recordClassAssignment type clazz
          (range.intersection (DatabaseBuffers.rangeOf cells.length)).start
          (range.intersection (DatabaseBuffers.rangeOf cells.length)).stop]
      else ([] : List (Output α))) cell.config.vIndex.toNat ↔ Addressed range cell) ↔
      ∀ cell ∈ cells, Addressed range cell → cell.config.vIndex.toNat < cells.length := by
  -- What has been reported are the numbers in the clipped range.
  have hcovered (v : ℕ) : Covered type clazz
      (if (range.intersection (DatabaseBuffers.rangeOf cells.length)).isValid then
        [Output.recordClassAssignment type clazz
          (range.intersection (DatabaseBuffers.rangeOf cells.length)).start
          (range.intersection (DatabaseBuffers.rangeOf cells.length)).stop]
      else ([] : List (Output α))) v ↔
      (range.intersection (DatabaseBuffers.rangeOf cells.length)).start ≤ v ∧
        v ≤ (range.intersection (DatabaseBuffers.rangeOf cells.length)).stop := by
    generalize range.intersection (DatabaseBuffers.rangeOf cells.length) = clipped
    constructor
    · rintro ⟨start, stop, hmem, hstart, hstop⟩
      split_ifs at hmem with hvalid
      · obtain ⟨-, -, rfl, rfl⟩ := Output.recordClassAssignment.inj (List.mem_singleton.mp hmem)
        exact ⟨hstart, hstop⟩
      · exact absurd hmem List.not_mem_nil
    · rintro ⟨hstart, hstop⟩
      have hvalid : clipped.isValid := decide_eq_true (hstart.trans hstop)
      refine ⟨_, _, ?_, hstart, hstop⟩
      rw [if_pos hvalid]
      exact List.mem_singleton_self _
  constructor
  · intro h cell hcell haddressed
    obtain ⟨hstart, hstop⟩ := (hcovered _).mp ((h cell hcell).mpr haddressed)
    exact lt_of_mem_clipped hstart hstop
  · intro h cell hcell
    rw [hcovered]
    constructor
    · rintro ⟨hstart, hstop⟩
      exact (mem_clipped_iff (lt_of_mem_clipped hstart hstop)).mp ⟨hstart, hstop⟩
    · intro haddressed
      exact (mem_clipped_iff (h cell hcell haddressed)).mpr haddressed

/-! ## The assignment -/

/-- In contiguous mode the virtual index of a point is its position, so every range is fine. -/
theorem reachable_of_contiguous {cells : List (Cell α)}
    (h : ∀ (i : ℕ) (cell : Cell α), cells[i]? = some cell → cell.config.vIndex.toNat = i)
    (clazz : PointClass)
    (range : Range) : Reachable clazz range cells := by
  refine ⟨fun i cell hcell _ => ?_, fun cell hcell _ => ?_⟩
  · unfold Addressed
    rw [h i cell hcell]
  · obtain ⟨i, hi, rfl⟩ := List.getElem_of_mem hcell
    rw [h i _ (List.getElem?_eq_getElem hi)]
    exact hi

/-- An assignment of a class to a range reaches the addressed points, no others, and reports them,
if and only if the points that it changes stand at the positions of their virtual indices, as far as
the range can tell. -/
theorem assigns_exactly_iff (h : AssignClassHandler α)
    (hexpecting : h.isExpectingAssignment.1 = false)
    (clazz points : HeaderRecord) (range : Range) {requested : PointClass} {type : StaticType}
    (hclazz : requestedClass clazz.enumeration = some requested)
    (htype : assignClassType points.enumeration = some type) :
    AssignsExactly type requested range h (h.assignRange clazz points range) ↔
      Reachable requested range (h.db.cells type) := by
  obtain ⟨hdb, hlog⟩ := assignRange_spec h hexpecting clazz points range hclazz htype
  have hcells := assigned_cells_iff requested range (h.db.cells type)
  have hcovered := covered_iff requested type range (h.db.cells type)
  constructor
  · rintro ⟨hassigns, calls, hcalls, hreports⟩
    obtain rfl := List.append_cancel_left (hlog.symm.trans hcalls)
    refine ⟨hcells.mp ?_, hcovered.mp hreports⟩
    have hset := congrArg (·.cells type) (hdb.symm.trans hassigns)
    simp only [DatabaseBuffers.assignClassTo, DatabaseBuffers.set_cells_self] at hset
    exact hset
  · rintro ⟨hpositions, hindices⟩
    refine ⟨?_, _, hlog, hcovered.mpr hindices⟩
    rw [hdb, ← hcells.mpr hpositions]
    rfl

/-- The header of class 2. -/
def class2Header : HeaderRecord :=
  { GroupVariationRecord.getRecord 60 3 with qualifier := 6, headerIndex := 0 }

/-- The header of a range of binaries. -/
def binaryRangeHeader : HeaderRecord :=
  { GroupVariationRecord.getRecord 1 0 with qualifier := 0, headerIndex := 1 }

/-- The points 0 and 1 in contiguous mode. -/
def twoBinaries : DatabaseBuffers Bool where
  cells
    | .Binary => [DatabaseBuffers.binaryCell 0 true, DatabaseBuffers.binaryCell 1 false]
    | _ => []

/-- The assignment of the first of two binaries. -/
theorem assigns_exactly_twoBinaries :
    AssignsExactly .Binary .Class2 ⟨0, 0⟩ { db := twoBinaries, log := [] }
      (assignRange { db := twoBinaries, log := [] } class2Header binaryRangeHeader ⟨0, 0⟩) := by
  refine (assigns_exactly_iff { db := twoBinaries, log := [] } (by decide) class2Header
    binaryRangeHeader ⟨0, 0⟩ (by decide) (by decide)).mpr (reachable_of_contiguous ?_ _ _)
  intro i cell hcell
  match i, hcell with
  | 0, hcell => rw [← Option.some.inj hcell]; rfl
  | 1, hcell => rw [← Option.some.inj hcell]; rfl

/-- Of the points 1, 2 and 7, an assignment to the range from 1 to 2 reaches the points 2 and 7. -/
theorem not_assigns_exactly_threeBinaries :
    ¬AssignsExactly .Binary .Class2 ⟨1, 2⟩ { db := DatabaseBuffers.threeBinaries, log := [] }
      (assignRange { db := DatabaseBuffers.threeBinaries, log := [] } class2Header binaryRangeHeader
        ⟨1, 2⟩) := by
  intro h
  have hcells := congrArg (fun db => (db.cells .Binary)[2]?.map (·.config.clazz)) h.assigns
  revert hcells
  decide

end OpenDnp3.Outstation.AssignClassHandler
