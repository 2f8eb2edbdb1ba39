import OpenDnp3.Lib.Run
import OpenDnp3.Outstation.DatabaseSpec

/-!
# The selection of static positions

A cell that is selected keeps the value that it has then. Updates change neither the selection nor
the virtual indices (`Untouched`), a selection adds cells to it and keeps the window around them
(`Selects`), and `Unselect` clears every type but the octet strings.
-/

namespace OpenDnp3.Outstation.DatabaseBuffers

open App

variable {α : Type*}

/-! ## The selection of a type -/

/-- What an update leaves as it is: the virtual index and the selection of a cell. -/
def report (cell : Cell α) : UInt16 × SelectedValue α := (cell.config.vIndex, cell.selection)

/-- Whether the cell at a position is selected. -/
def isSelected (cells : List (Cell α)) (i : ℕ) : Bool :=
  cells[i]?.any fun cell => cell.selection.selected

/-- The value with which the cell at a position is selected. -/
def held (cells : List (Cell α)) (i : ℕ) : Option α :=
  cells[i]?.bind fun cell => if cell.selection.selected then some cell.selection.value else none

/-- The record of the values at selection: where a cell becomes selected, its current value. -/
def record (cells cells' : List (Cell α)) (snapshots : ℕ → Option α) (i : ℕ) : Option α :=
  if isSelected cells' i then
    if isSelected cells i then snapshots i else cells[i]?.map fun cell => cell.value
  else none

/-- The points of a record, in the order of the cells. -/
def recorded (vIndices : List ℕ) (snapshots : ℕ → Option α) : List (ℕ × α) :=
  vIndices.zipIdx.filterMap fun entry => (snapshots entry.2).map fun value => (entry.1, value)

/-- A cell keeps its virtual index and its selection, or becomes selected with its value. -/
def Kept (old new : Option (Cell α)) : Prop :=
  new.map report = old.map report ∨
    ∃ cell cell', old = some cell ∧ new = some cell' ∧ cell.selection.selected = false ∧
      cell'.config.vIndex = cell.config.vIndex ∧ cell'.selection.selected ∧
      cell'.selection.value = cell.value

/-- Every cell is kept so. -/
def Keeps (cells cells' : List (Cell α)) : Prop := ∀ i : ℕ, Kept cells[i]? cells'[i]?

/-- The pending points are those of the selected cells. -/
theorem pending_eq_filterMap (cells : List (Cell α)) :
    pending cells = cells.filterMap fun cell =>
      if cell.selection.selected then some (point cell) else none := by
  induction cells with
  | nil => rfl
  | cons cell cells ih =>
    rw [pending, List.filter_cons, List.filterMap_cons, ← ih]
    cases cell.selection.selected <;> rfl

/-- The record of something about the selected cells lists it in their order. -/
theorem recorded_eq_map {β : Type*} (f : Cell α → β) (cells : List (Cell α)) :
    recorded (vIndices cells) (fun i =>
      cells[i]?.bind fun cell => if cell.selection.selected then some (f cell) else none) =
      (cells.filter fun cell => cell.selection.selected).map fun cell =>
        (cell.config.vIndex.toNat, f cell) := by
  have hfilter (cells : List (Cell α)) : ((cells.filter fun cell => cell.selection.selected).map
      fun cell => (cell.config.vIndex.toNat, f cell)) = cells.filterMap fun cell =>
        if cell.selection.selected then some (cell.config.vIndex.toNat, f cell) else none := by
    induction cells with
    | nil => rfl
    | cons cell cells ih =>
      rw [List.filter_cons, List.filterMap_cons, ← ih]
      cases cell.selection.selected <;> rfl
  have hzip : cells.zipIdx.map Prod.fst = cells := List.zipIdx_map_fst 0 cells
  rw [hfilter, recorded, vIndices, List.zipIdx_map, List.filterMap_map]
  conv_rhs => rw [← hzip, List.filterMap_map]
  refine List.filterMap_congr fun entry hentry => ?_
  have hget : cells[entry.2]? = some entry.1 := List.mem_zipIdx_iff_getElem?.mp hentry
  simp only [Function.comp_apply, Prod.map_fst, Prod.map_snd, hget, Option.bind_some, id_eq]
  cases entry.1.selection.selected <;> rfl

/-- What is pending is what the record of the held values lists. -/
theorem pending_eq_recorded (cells : List (Cell α)) :
    pending cells = recorded (vIndices cells) (held cells) :=
  (recorded_eq_map (fun cell => cell.selection.value) cells).symm

/-- What is held is what was recorded. -/
theorem held_eq_record {cells cells' : List (Cell α)} (h : Keeps cells cells') :
    held cells' = record cells cells' (held cells) := by
  funext i
  unfold held record isSelected
  obtain heq | ⟨cell, cell', hold, hnew, hselected, -, hselected', hvalue⟩ := h i
  · cases hold : cells[i]? with
    | none =>
      rw [hold] at heq
      rw [Option.map_eq_none_iff.mp heq]
      rfl
    | some cell =>
      rw [hold] at heq
      obtain ⟨cell', hnew, hreport⟩ := Option.map_eq_some_iff.mp heq
      have hselection : cell'.selection = cell.selection := congrArg Prod.snd hreport
      rw [hnew]
      simp only [hold, Option.bind_some, Option.any_some, hselection]
      cases cell.selection.selected <;> rfl
  · rw [hold, hnew]
    simp [hselected, hselected', hvalue]

/-- A selection keeps the indices. -/
theorem Keeps.vIndices {cells cells' : List (Cell α)} (h : Keeps cells cells') :
    vIndices cells' = vIndices cells := by
  refine List.ext_getElem? fun i => ?_
  rw [DatabaseBuffers.vIndices, DatabaseBuffers.vIndices, List.getElem?_map, List.getElem?_map]
  obtain heq | ⟨cell, cell', hold, hnew, -, hindex, -⟩ := h i
  · have hmap := congrArg (Option.map fun r : UInt16 × SelectedValue α => r.1.toNat) heq
    rwa [Option.map_map, Option.map_map] at hmap
  · rw [hold, hnew, Option.map_some, Option.map_some, hindex]

/-! ## Updates -/

/-- An update leaves the virtual indices and the selections as they are. -/
structure Untouched (type : StaticType) (db db' : DatabaseBuffers α) : Prop where
  cells : (db'.cells type).map report = (db.cells type).map report
  ranges : db'.ranges type = db.ranges type

/-- A database that is not changed is untouched. -/
theorem Untouched.refl (type : StaticType) (db : DatabaseBuffers α) : Untouched type db db :=
  ⟨rfl, rfl⟩

/-- An untouched type keeps its selection. -/
theorem Untouched.keeps {type : StaticType} {db db' : DatabaseBuffers α}
    (h : Untouched type db db') : Keeps (db.cells type) (db'.cells type) := by
  intro i
  have hget := congrArg (·[i]?) h.cells
  simp only [List.getElem?_map] at hget
  exact .inl hget

/-- The window depends on what the cells report. -/
theorem Window.congr {cells cells' : List (Cell α)} {range : Range} (h : Window cells range)
    (heq : cells'.map report = cells.map report) : Window cells' range := by
  have hlen : cells'.length = cells.length := by simpa using congrArg List.length heq
  refine ⟨fun hvalid => by rw [hlen]; exact h.inside hvalid, h.empty, fun i cell hcell hsel => ?_⟩
  have hget := congrArg (·[i]?) heq
  simp only [List.getElem?_map, hcell, Option.map_some] at hget
  obtain ⟨cell', hcell', hreport⟩ := Option.map_eq_some_iff.mp hget.symm
  have hselection : cell'.selection = cell.selection := congrArg Prod.snd hreport
  exact h.selected i cell' hcell' (by rw [hselection]; exact hsel)

/-- A cell is replaced by one that reports the same. -/
theorem map_report_set {cells : List (Cell α)} {i : ℕ} {cell cell' : Cell α}
    (h : cells[i]? = some cell) (hreport : report cell' = report cell) :
    (cells.set i cell').map report = cells.map report := by
  obtain ⟨pre, post, rfl, rfl⟩ := exists_split h
  rw [set_split]
  simp [hreport]

/-- The cells of the type are those that were put in. -/
theorem set_cells_self (db : DatabaseBuffers α) (type : StaticType) (cells : List (Cell α))
    (range : Range) : (db.set type cells range).cells type = cells :=
  if_pos rfl

/-- The range of the type is the one that was put in. -/
theorem set_ranges_self (db : DatabaseBuffers α) (type : StaticType) (cells : List (Cell α))
    (range : Range) : (db.set type cells range).ranges type = range :=
  if_pos rfl

/-- The cells of another type are left. -/
theorem set_cells_of_ne (db : DatabaseBuffers α) {type type' : StaticType} (h : type' ≠ type)
    (cells : List (Cell α)) (range : Range) :
    (db.set type cells range).cells type' = db.cells type' :=
  if_neg h

/-- The range of another type is left. -/
theorem set_ranges_of_ne (db : DatabaseBuffers α) {type type' : StaticType} (h : type' ≠ type)
    (cells : List (Cell α)) (range : Range) :
    (db.set type cells range).ranges type' = db.ranges type' :=
  if_neg h

/-- Cells that report the same leave a type untouched. -/
theorem Untouched.set {db : DatabaseBuffers α} {type type' : StaticType} {cells : List (Cell α)}
    (h : cells.map report = (db.cells type').map report) :
    Untouched type db (db.set type' cells (db.ranges type')) := by
  by_cases htype : type = type'
  · subst htype
    exact ⟨by rw [set_cells_self, h], set_ranges_self _ _ _ _⟩
  · exact ⟨by rw [set_cells_of_ne _ htype], set_ranges_of_ne _ htype _ _⟩

variable [MeasurementSpec α]

/-- An update leaves what the cell reports. -/
theorem report_updateAny (type : StaticType) (cell : Cell α) (value : α) (mode : EventMode) :
    report (updateAny type cell value mode).1 = report cell := by
  have hcreate : report (tryCreateEvent type cell value).1 = report cell := by
    unfold tryCreateEvent
    split <;> rfl
  unfold updateAny
  split_ifs <;> first | exact hcreate | rfl

/-- An update leaves what is selected. -/
theorem update_untouched (db : DatabaseBuffers α) (type type' : StaticType) (value : α) (index : ℕ)
    (mode : EventMode) : Untouched type db (db.update type' value index mode).2.1 := by
  unfold update
  dsimp only
  split
  · exact .refl type db
  case h_2 cell hcell =>
    exact .set (map_report_set hcell (report_updateAny type' cell value mode))

/-- A change of flags leaves what the cells report. -/
theorem map_report_modifyCells (type : StaticType) (flags : UInt8) (is : List ℕ)
    (cells : List (Cell α)) :
    (modifyCells type flags is cells).1.map report = cells.map report := by
  induction is generalizing cells with
  | nil => rfl
  | cons i is ih =>
    unfold modifyCells
    split
    · exact ih cells
    case h_2 cell hcell =>
      exact (ih _).trans (map_report_set hcell (report_updateAny type cell _ .Detect))

/-- A change of flags leaves what is selected. -/
theorem modify_untouched (db : DatabaseBuffers α) (type type' : StaticType) (start stop : ℕ)
    (flags : UInt8) : Untouched type db (db.modify type' start stop flags).2.1 := by
  unfold modify
  dsimp only
  split
  · exact .set (map_report_modifyCells type' flags _ _)
  · exact .refl type db

/-! ## Selections -/

/-- A selection keeps the cells of a type, and its window. -/
structure Selects (type : StaticType) (db db' : DatabaseBuffers α) : Prop where
  cells : ∀ i : ℕ, (db'.cells type)[i]? = (db.cells type)[i]? ∨
    ∃ cell variation, (db.cells type)[i]? = some cell ∧ cell.selection.selected = false ∧
      (db'.cells type)[i]? = some (selectCell type variation cell)
  window : Window (db.cells type) (db.ranges type) → Window (db'.cells type) (db'.ranges type)

/-- Nothing is selected. -/
theorem Selects.refl (type : StaticType) (db : DatabaseBuffers α) : Selects type db db :=
  ⟨fun _ => .inl rfl, id⟩

/-- One selection after the other. -/
theorem Selects.trans {type : StaticType} {db₁ db₂ db₃ : DatabaseBuffers α}
    (h : Selects type db₁ db₂) (h' : Selects type db₂ db₃) : Selects type db₁ db₃ := by
  refine ⟨fun i => ?_, h'.window ∘ h.window⟩
  obtain heq' | ⟨cell, variation, hold, hselected, hnew⟩ := h'.cells i
  · rw [heq']
    exact h.cells i
  · obtain heq | ⟨cell', variation', -, -, hnew'⟩ := h.cells i
    · exact .inr ⟨cell, variation, heq ▸ hold, hselected, hnew⟩
    · -- What has been selected is not selected again.
      rw [hnew', Option.some.injEq] at hold
      subst hold
      cases hselected

/-- A selection keeps what was selected before. -/
theorem Selects.keeps {type : StaticType} {db db' : DatabaseBuffers α} (h : Selects type db db') :
    Keeps (db.cells type) (db'.cells type) := by
  intro i
  obtain heq | ⟨cell, variation, hold, hselected, hnew⟩ := h.cells i
  · exact .inl (by rw [heq])
  · exact .inr ⟨cell, _, hold, hnew, hselected, rfl, rfl, rfl⟩

/-- A cell of the range is selected unless it is already, and no other one is. -/
theorem selectCells_spec (type : StaticType) (variation : Option GroupVariation) (is : List ℕ)
    (ret : IINField) (cells : List (Cell α)) (i : ℕ) :
    (selectCells type variation is ret cells).2[i]? = cells[i]? ∨
      i ∈ is ∧ ∃ cell, cells[i]? = some cell ∧ cell.selection.selected = false ∧
        (selectCells type variation is ret cells).2[i]? =
          some (selectCell type variation cell) := by
  induction is generalizing ret cells with
  | nil => exact .inl rfl
  | cons j js ih =>
    have hmem : ∀ {P : Prop}, i ∈ js ∧ P → i ∈ j :: js ∧ P := fun h =>
      ⟨List.mem_cons_of_mem _ h.1, h.2⟩
    unfold selectCells
    split
    · exact (ih ret cells).imp_right hmem
    case h_2 cell hcell =>
      split_ifs with hselected
      · -- A cell that is selected already stays as it is.
        exact (ih _ cells).imp_right hmem
      · rw [Bool.not_eq_true] at hselected
        by_cases hij : j = i
        · subst hij
          have hset : (cells.set j (selectCell type variation cell))[j]? =
              some (selectCell type variation cell) :=
            List.getElem?_set_self (List.getElem?_eq_some_iff.mp hcell).1
          -- Later turns do not select the cell again.
          refine .inr ⟨List.mem_cons_self, cell, hcell, hselected, ?_⟩
          obtain heq | ⟨-, cell', hcell', hselected', -⟩ :=
            ih ret (cells.set j (selectCell type variation cell))
          · rw [heq, hset]
          · rw [hset, Option.some.injEq] at hcell'
            subst hcell'
            cases hselected'
        · have hset := List.getElem?_set_ne (l := cells) (a := selectCell type variation cell) hij
          have hrec := ih ret (cells.set j (selectCell type variation cell))
          rw [hset] at hrec
          exact hrec.imp_right hmem

omit [MeasurementSpec α] in
/-- A range cut to the cells stops before their end. -/
theorem intersection_rangeOf_stop_lt {size : ℕ} {range : Range}
    (h : (range.intersection (rangeOf size)).isValid) :
    (range.intersection (rangeOf size)).stop < size := by
  rw [isValid_iff] at h
  unfold rangeOf Range.intersection at h ⊢
  split_ifs at h ⊢ with hsize
  · dsimp only at h ⊢
    omega
  · dsimp only at h
    omega

omit [MeasurementSpec α] in
/-- A window is extended by the positions that have become selected. -/
theorem Window.union {cells cells' : List (Cell α)} {range allowed : Range}
    (h : Window cells range) (hvalid : allowed.isValid) (hstop : allowed.stop < cells.length)
    (hlen : cells'.length = cells.length)
    (hcells : ∀ (i : ℕ) (cell : Cell α), cells'[i]? = some cell → cell.selection.selected →
      cells[i]? = some cell ∨ allowed.start ≤ i ∧ i ≤ allowed.stop) :
    Window cells' (range.union allowed) := by
  rw [isValid_iff] at hvalid
  have hold : range.stop < cells.length := by
    by_cases hrange : range.isValid
    · exact h.inside hrange
    · rw [h.empty hrange]
      exact lt_of_le_of_lt (Nat.zero_le _) hstop
  refine ⟨fun _ => ?_, fun hinvalid => ?_, fun i cell hcell hselected => ?_⟩
  · rw [hlen]
    exact max_lt hold hstop
  · rw [isValid_iff] at hinvalid
    exact absurd ((min_le_right _ _).trans (hvalid.trans (le_max_right _ _))) hinvalid
  · dsimp only [Range.union]
    rw [min_le_iff, le_max_iff]
    obtain hcell' | ⟨hstart, hstop'⟩ := hcells i cell hcell hselected
    · obtain ⟨hstart, hstop'⟩ := h.selected i cell hcell' hselected
      exact ⟨.inl hstart, .inl hstop'⟩
    · exact ⟨.inr hstart, .inr hstop'⟩

/-- A selection leaves the number of the cells. -/
theorem length_selectCells (type : StaticType) (variation : Option GroupVariation) (is : List ℕ)
    (ret : IINField) (cells : List (Cell α)) :
    (selectCells type variation is ret cells).2.length = cells.length := by
  induction is generalizing ret cells with
  | nil => rfl
  | cons j js ih =>
    unfold selectCells
    split
    · exact ih _ _
    · split_ifs
      · exact ih _ _
      · rw [ih, List.length_set]

/-- A range is selected by its positions. -/
theorem genericSelect_selects (db : DatabaseBuffers α) (type type' : StaticType) (range : Range)
    (variation : Option GroupVariation) :
    Selects type db (db.genericSelect type' range variation).2 := by
  unfold genericSelect
  split
  swap
  · exact .refl type db
  dsimp only
  split
  swap
  · exact .refl type db
  case isTrue hallowed =>
    dsimp only
    -- The cells and the range of the other types stay as they are.
    by_cases htype : type = type'
    swap
    · exact ⟨fun i => .inl (by rw [set_cells_of_ne _ htype]),
        by rw [set_cells_of_ne _ htype, set_ranges_of_ne _ htype]; exact id⟩
    subst htype
    have hstop := intersection_rangeOf_stop_lt hallowed
    generalize range.intersection (rangeOf (db.cells type).length) = allowed at hallowed hstop ⊢
    generalize (if allowed = range then (0 : IINField) else IINField.paramError) = ret
    have hspec := selectCells_spec type variation (List.range' allowed.start allowed.count) ret
      (db.cells type)
    constructor
    · intro i
      rw [set_cells_self]
      exact (hspec i).imp_right fun ⟨_, cell, hcell, hrest⟩ => ⟨cell, variation, hcell, hrest⟩
    · intro hwindow
      rw [set_cells_self, set_ranges_self]
      refine hwindow.union hallowed hstop (length_selectCells ..) fun i cell hcell _ => ?_
      obtain heq | ⟨hmem, -⟩ := hspec i
      · exact .inl (heq ▸ hcell)
      · have hle := (isValid_iff allowed).mp hallowed
        rw [List.mem_range'_1, Range.count, if_pos hallowed] at hmem
        exact .inr ⟨hmem.1, by omega⟩

/-- A range is selected by its indices. -/
theorem selectVirtualRange_selects (db : DatabaseBuffers α) (type type' : StaticType)
    (range : Range) (variation : Option GroupVariation) :
    Selects type db (db.selectVirtualRange type' range variation).2 := by
  unfold selectVirtualRange
  split
  · exact db.genericSelect_selects type type' range variation
  · dsimp only
    split
    · exact db.genericSelect_selects type type' _ variation
    · exact .refl type db

/-- A range of a READ is selected. -/
theorem selectRange_selects (db : DatabaseBuffers α) (type : StaticType) (gv : GroupVariation)
    (range : Range) : Selects type db (db.selectRange gv range).2 := by
  unfold selectRange
  split
  · exact db.selectVirtualRange_selects type _ range _
  · exact .refl type db

/-- A READ of class 0 selects. -/
theorem selectClass0_selects (type : StaticType) (types : List StaticType)
    (db : DatabaseBuffers α) : Selects type db (db.selectClass0 types) := by
  induction types generalizing db with
  | nil => exact .refl type db
  | cons type' types ih =>
    unfold selectClass0
    split_ifs
    · exact (db.genericSelect_selects type type' _ none).trans (ih _)
    · exact ih db

/-- A READ of all objects selects. -/
theorem selectAll_selects (db : DatabaseBuffers α) (type : StaticType) (gv : GroupVariation) :
    Selects type db (db.selectAll gv).2 := by
  unfold selectAll
  split
  · exact selectClass0_selects type _ db
  · split
    · exact db.genericSelect_selects type _ _ _
    · exact .refl type db

/-! ## Clearing a selection -/

/-- Nothing of the type is selected. -/
structure Cleared (type : StaticType) (db : DatabaseBuffers α) : Prop where
  cells : ∀ cell ∈ db.cells type, cell.selection.selected = false
  range : db.ranges type = {}

omit [MeasurementSpec α] in
/-- A type without a selection has an empty window. -/
theorem Cleared.window {type : StaticType} {db : DatabaseBuffers α} (h : Cleared type db) :
    Window (db.cells type) (db.ranges type) := by
  rw [h.range]
  refine ⟨fun hvalid => absurd hvalid (by decide), fun _ => rfl, fun i cell hcell hselected => ?_⟩
  rw [h.cells cell (List.mem_of_getElem? hcell)] at hselected
  cases hselected

omit [MeasurementSpec α] in
/-- Where the window is empty nothing is selected. -/
theorem Window.cleared {type : StaticType} {db : DatabaseBuffers α}
    (h : Window (db.cells type) (db.ranges type)) (hinvalid : ¬(db.ranges type).isValid) :
    Cleared type db :=
  ⟨h.none_selected hinvalid, h.empty hinvalid⟩

omit [MeasurementSpec α] in
/-- Another type is not deselected. -/
theorem deselect_of_ne (db : DatabaseBuffers α) {type type' : StaticType} (h : type ≠ type') :
    (db.deselect type').cells type = db.cells type ∧
      (db.deselect type').ranges type = db.ranges type := by
  unfold deselect
  split_ifs
  · exact ⟨set_cells_of_ne _ h _ _, set_ranges_of_ne _ h _ _⟩
  · exact ⟨rfl, rfl⟩

omit [MeasurementSpec α] in
/-- A type that is deselected has no selection. -/
theorem deselect_cleared {db : DatabaseBuffers α} {type : StaticType}
    (h : Window (db.cells type) (db.ranges type)) :
    Cleared type (db.deselect type) ∧
      vIndices ((db.deselect type).cells type) = vIndices (db.cells type) := by
  unfold deselect
  split_ifs with hvalid
  swap
  · exact ⟨h.cleared hvalid, rfl⟩
  refine ⟨⟨fun cell hcell => ?_, set_ranges_self _ _ _ _⟩, ?_⟩
  · rw [set_cells_self] at hcell
    obtain ⟨i, hi, rfl⟩ := List.mem_mapIdx.mp hcell
    split_ifs with hrange
    · rfl
    · by_contra hselected
      rw [Bool.not_eq_false] at hselected
      exact hrange (h.selected i _ (List.getElem?_eq_getElem hi) hselected)
  · rw [set_cells_self, vIndices, vIndices]
    refine List.ext_getElem (by simp) fun i hi hi' => ?_
    simp only [List.getElem_mapIdx, List.getElem_map]
    split_ifs <;> rfl

omit [MeasurementSpec α] in
/-- The types that are deselected have no selection. -/
theorem foldl_deselect (type : StaticType) (types : List StaticType) {db : DatabaseBuffers α}
    (h : Window (db.cells type) (db.ranges type)) :
    Window ((types.foldl deselect db).cells type) ((types.foldl deselect db).ranges type) ∧
      vIndices ((types.foldl deselect db).cells type) = vIndices (db.cells type) ∧
      (type ∈ types ∨ Cleared type db → Cleared type (types.foldl deselect db)) := by
  induction types generalizing db with
  | nil => exact ⟨h, rfl, fun hor => hor.resolve_left List.not_mem_nil⟩
  | cons type' types ih =>
    rw [List.foldl_cons]
    by_cases htype : type = type'
    · subst htype
      obtain ⟨hcleared, hv⟩ := deselect_cleared h
      obtain ⟨hwindow, hv', hstays⟩ := ih hcleared.window
      exact ⟨hwindow, hv'.trans hv, fun _ => hstays (.inr hcleared)⟩
    · obtain ⟨hcells, hranges⟩ := db.deselect_of_ne htype
      have hwindow : Window ((db.deselect type').cells type) ((db.deselect type').ranges type) := by
        rw [hcells, hranges]
        exact h
      obtain ⟨hwindow', hv, hstays⟩ := ih hwindow
      refine ⟨hwindow', by rw [hv, hcells], fun hor => hstays ?_⟩
      refine hor.imp (fun hmem => (List.mem_cons.mp hmem).resolve_left htype) fun hcleared => ?_
      exact ⟨hcells ▸ hcleared.cells, hranges ▸ hcleared.range⟩

omit [MeasurementSpec α] in
/-- `DatabaseBuffers::Unselect` clears every type but the octet strings. -/
theorem unselect_cleared {db : DatabaseBuffers α} {type : StaticType} (htype : type ≠ .OctetString)
    (h : Window (db.cells type) (db.ranges type)) :
    Cleared type db.unselect ∧ vIndices (db.unselect.cells type) = vIndices (db.cells type) := by
  unfold unselect
  obtain ⟨-, hv, hcleared⟩ := foldl_deselect type [StaticType.Binary, .DoubleBitBinary, .Counter,
    .FrozenCounter, .Analog, .BinaryOutputStatus, .AnalogOutputStatus, .TimeAndInterval] h
  exact ⟨hcleared (.inl (by revert htype; cases type <;> decide)), hv⟩

end OpenDnp3.Outstation.DatabaseBuffers
