import OpenDnp3.Outstation.StaticReport

/-!
# The variation of a selection

`SelectAll` and `SelectRange` accept a list of variations. Beside the selection runs a record of the
variation that every point is to be reported with, the one asked for or its default, and the
selected cells hold this variation (`Wanted.run_inv`). It is always one of the enumeration of the
type, as nothing but an assignment of a class changes the configuration of a point.
-/

namespace OpenDnp3.Outstation

open App

/-- The enumerations `StaticBinaryVariation` to `StaticOctetStringVariation`. -/
def StaticType.variations : StaticType → List GroupVariation
  | Binary => [.Group1Var1, .Group1Var2]
  | DoubleBitBinary => [.Group3Var2]
  | Counter => [.Group20Var1, .Group20Var2, .Group20Var5, .Group20Var6]
  | FrozenCounter => [.Group21Var1, .Group21Var2, .Group21Var5, .Group21Var6, .Group21Var9,
      .Group21Var10]
  | Analog => [.Group30Var1, .Group30Var2, .Group30Var3, .Group30Var4, .Group30Var5, .Group30Var6]
  | BinaryOutputStatus => [.Group10Var2]
  | AnalogOutputStatus => [.Group40Var1, .Group40Var2, .Group40Var3, .Group40Var4]
  | TimeAndInterval => [.Group50Var4]
  | OctetString => [.Group110Var0]

namespace DatabaseBuffers

variable {α : Type*}

/-! ## Definitions -/

/-- The variation that a header of a request asks for: none with variation 0 and with class 0. -/
def askedVariation : GroupVariation → Option GroupVariation
  | .Group1Var0 | .Group3Var0 | .Group10Var0 | .Group20Var0 | .Group21Var0 | .Group30Var0
  | .Group40Var0 | .Group60Var1 => none
  | gv => some gv

/-- The variation that a selecting step asks for. -/
def Selecting.asked : Selecting α → Option GroupVariation
  | .all gv => askedVariation gv
  | .range gv _ => askedVariation gv
  | .change _ => none

/-- The variation that a point is to be reported with: the one asked for or else its default, but
Group1Var2 instead of Group1Var1 for a binary that is not online only. -/
def wantedVariation [MeasurementSpec α] (type : StaticType) (asked : Option GroupVariation)
    (cell : Cell α) : GroupVariation :=
  let variation := asked.getD cell.config.svariation
  if type = .Binary ∧ variation = .Group1Var1 ∧
      MeasurementSpec.isQualityOnlineOnly cell.value = false then .Group1Var2
  else variation

/-- A database with the record of the variations at selection. -/
structure Wanted (α : Type*) where
  db : DatabaseBuffers α
  wanted : StaticType → ℕ → Option GroupVariation := fun _ _ => none

/-- A step of the selection, with the record. -/
def Wanted.step [MeasurementSpec α] (s : Wanted α) (selecting : Selecting α) : Wanted α where
  db := selecting.apply s.db
  wanted type i :=
    if isSelected ((selecting.apply s.db).cells type) i then
      if isSelected (s.db.cells type) i then s.wanted type i
      else (s.db.cells type)[i]?.map (wantedVariation type selecting.asked)
    else none

/-! ## The variations of a type -/

/-- The switches select what the header asks for, in a variation of the type. -/
theorem staticSelection_spec {gv : GroupVariation} {type : StaticType}
    {variation : Option GroupVariation} (h : staticSelection gv = some (type, variation)) :
    variation = askedVariation gv ∧ ∀ v ∈ variation, v ∈ type.variations := by
  unfold staticSelection at h
  split at h <;> cases h <;> decide

/-- The selection takes the variation that is wanted. -/
theorem selectCell_variation [MeasurementSpec α] (type : StaticType) (asked : Option GroupVariation)
    (cell : Cell α) :
    (selectCell type asked cell).selection.variation = wantedVariation type asked cell := by
  unfold selectCell checkForPromotion wantedVariation
  dsimp only
  generalize asked.getD cell.config.svariation = variation
  by_cases hpacked : type = .Binary ∧ variation = .Group1Var1
  · rw [if_pos hpacked]
    cases hquality : MeasurementSpec.isQualityOnlineOnly cell.value with
    | true => simp
    | false => rw [if_neg Bool.false_ne_true, if_pos ⟨hpacked.1, hpacked.2, rfl⟩]
  · rw [if_neg hpacked, if_neg fun h => hpacked ⟨h.1, h.2.1⟩]

/-- What is wanted of a point is a variation of its type, if what is asked for is one. -/
theorem wantedVariation_mem [MeasurementSpec α] {type : StaticType} {asked : Option GroupVariation}
    {cell : Cell α} (hasked : ∀ v ∈ asked, v ∈ type.variations)
    (hdefault : cell.config.svariation ∈ type.variations) :
    wantedVariation type asked cell ∈ type.variations := by
  unfold wantedVariation
  dsimp only
  split_ifs with hpromoted
  · rw [hpromoted.1]
    decide
  · cases asked with
    | none => exact hdefault
    | some v => exact hasked v rfl

/-! ## Configurations -/

/-- The cells have configurations that these cells had. -/
def SameConfigs (cells cells' : List (Cell α)) : Prop :=
  ∀ cell' ∈ cells', ∃ cell ∈ cells, cell'.config = cell.config

/-- Cells that are not changed keep their configurations. -/
theorem SameConfigs.refl (cells : List (Cell α)) : SameConfigs cells cells :=
  fun cell hcell => ⟨cell, hcell, rfl⟩

/-- The configurations stay over two steps. -/
theorem SameConfigs.trans {cells₁ cells₂ cells₃ : List (Cell α)} (h : SameConfigs cells₁ cells₂)
    (h' : SameConfigs cells₂ cells₃) : SameConfigs cells₁ cells₃ := by
  intro cell₃ hcell₃
  obtain ⟨cell₂, hcell₂, heq⟩ := h' cell₃ hcell₃
  obtain ⟨cell₁, hcell₁, heq'⟩ := h cell₂ hcell₂
  exact ⟨cell₁, hcell₁, heq.trans heq'⟩

/-- A cell that keeps its configuration keeps those of all. -/
theorem SameConfigs.set {cells : List (Cell α)} {i : ℕ} {cell cell' : Cell α}
    (hcell : cells[i]? = some cell) (hconfig : cell'.config = cell.config) :
    SameConfigs cells (cells.set i cell') := by
  intro cell₁ hcell₁
  obtain hold | rfl := List.mem_or_eq_of_mem_set hcell₁
  · exact ⟨cell₁, hold, rfl⟩
  · exact ⟨cell, List.mem_of_getElem? hcell, hconfig⟩

/-- The configurations of a type stay where those of each type do. -/
theorem SameConfigs.set_cells {db : DatabaseBuffers α} {type' : StaticType} {cells : List (Cell α)}
    (h : SameConfigs (db.cells type') cells) (range : Range) (type : StaticType) :
    SameConfigs (db.cells type) ((db.set type' cells range).cells type) := by
  by_cases htype : type = type'
  · subst htype
    rw [set_cells_self]
    exact h
  · rw [set_cells_of_ne _ htype]
    exact .refl _

/-- A type that is deselected keeps its configurations. -/
theorem deselect_sameConfigs (db : DatabaseBuffers α) (type type' : StaticType) :
    SameConfigs (db.cells type) ((db.deselect type').cells type) := by
  unfold deselect
  split_ifs
  · refine .set_cells (fun cell' hcell' => ?_) _ type
    obtain ⟨i, hi, rfl⟩ := List.mem_mapIdx.mp hcell'
    refine ⟨_, List.getElem_mem hi, ?_⟩
    split_ifs <;> rfl
  · exact .refl _

/-- The end of a report keeps the configurations. -/
theorem unselect_sameConfigs (db : DatabaseBuffers α) (type : StaticType) :
    SameConfigs (db.cells type) (db.unselect.cells type) := by
  unfold unselect
  generalize [StaticType.Binary, .DoubleBitBinary, .Counter, .FrozenCounter, .Analog,
    .BinaryOutputStatus, .AnalogOutputStatus, .TimeAndInterval] = types
  induction types generalizing db with
  | nil => exact .refl _
  | cons type' types ih => exact (db.deselect_sameConfigs type type').trans (ih _)

section

variable [MeasurementSpec α]

/-- An update keeps the configuration. -/
theorem config_updateAny (type : StaticType) (cell : Cell α) (value : α) (mode : EventMode) :
    (updateAny type cell value mode).1.config = cell.config := by
  have hcreate : (tryCreateEvent type cell value).1.config = cell.config := by
    unfold tryCreateEvent
    split <;> rfl
  unfold updateAny
  split_ifs <;> first | exact hcreate | rfl

/-- A change of flags keeps the configurations. -/
theorem modifyCells_sameConfigs (type : StaticType) (flags : UInt8) (is : List ℕ)
    (cells : List (Cell α)) : SameConfigs cells (modifyCells type flags is cells).1 := by
  induction is generalizing cells with
  | nil => exact .refl _
  | cons i is ih =>
    unfold modifyCells
    split
    · exact ih cells
    case h_2 cell hcell =>
      exact (SameConfigs.set hcell (config_updateAny type cell _ .Detect)).trans (ih _)

/-- Every change keeps the configurations. -/
theorem Change.run_sameConfigs (type : StaticType) (db : DatabaseBuffers α) (change : Change α) :
    SameConfigs (db.cells type) ((change.run db).1.cells type) := by
  cases change with
  | update type' value index mode =>
    change SameConfigs _ ((db.update type' value index mode).2.1.cells type)
    unfold DatabaseBuffers.update
    dsimp only
    split
    · exact .refl _
    case h_2 cell hcell =>
      exact .set_cells (.set hcell (config_updateAny type' cell value mode)) _ type
  | modify type' start stop flags =>
    change SameConfigs _ ((db.modify type' start stop flags).2.1.cells type)
    unfold DatabaseBuffers.modify
    dsimp only
    split
    · exact .set_cells (modifyCells_sameConfigs type' flags _ _) _ type
    · exact .refl _

/-! ## The selection -/

/-- Every cell of the type stays as it is, or is selected with the variation asked for, which is one
of the type. -/
def Asks (type : StaticType) (asked : Option GroupVariation) (db db' : DatabaseBuffers α) : Prop :=
  ∀ i : ℕ, (db'.cells type)[i]? = (db.cells type)[i]? ∨
    (∀ v ∈ asked, v ∈ type.variations) ∧ ∃ cell, (db.cells type)[i]? = some cell ∧
      cell.selection.selected = false ∧ (db'.cells type)[i]? = some (selectCell type asked cell)

/-- Nothing is asked for. -/
theorem Asks.refl (type : StaticType) (asked : Option GroupVariation) (db : DatabaseBuffers α) :
    Asks type asked db db :=
  fun _ => .inl rfl

/-- What is asked for in one part and then in the other. -/
theorem Asks.trans {type : StaticType} {asked : Option GroupVariation}
    {db₁ db₂ db₃ : DatabaseBuffers α} (h : Asks type asked db₁ db₂) (h' : Asks type asked db₂ db₃) :
    Asks type asked db₁ db₃ := by
  intro i
  obtain heq' | ⟨hasked, cell, hold, hselected, hnew⟩ := h' i
  · rw [heq']
    exact h i
  · obtain heq | ⟨-, cell', -, -, hnew'⟩ := h i
    · exact .inr ⟨hasked, cell, heq ▸ hold, hselected, hnew⟩
    · -- What has been selected is not selected again.
      rw [hnew', Option.some.injEq] at hold
      subst hold
      cases hselected

/-- A request keeps the configurations. -/
theorem Asks.sameConfigs {type : StaticType} {asked : Option GroupVariation}
    {db db' : DatabaseBuffers α} (h : Asks type asked db db') :
    SameConfigs (db.cells type) (db'.cells type) := by
  intro cell' hcell'
  obtain ⟨i, hi, rfl⟩ := List.getElem_of_mem hcell'
  have hget := List.getElem?_eq_getElem hi
  obtain heq | ⟨-, cell, hold, -, hnew⟩ := h i
  · exact ⟨_, List.mem_of_getElem? (heq.symm.trans hget), rfl⟩
  · rw [hget, Option.some.injEq] at hnew
    refine ⟨cell, List.mem_of_getElem? hold, ?_⟩
    rw [hnew]
    rfl

/-- A range is selected with the variation asked for. -/
theorem genericSelect_asks {type type' : StaticType} {asked variation : Option GroupVariation}
    (h : type = type' → variation = asked ∧ ∀ v ∈ asked, v ∈ type.variations)
    (db : DatabaseBuffers α) (range : Range) :
    Asks type asked db (db.genericSelect type' range variation).2 := by
  unfold genericSelect
  split
  swap
  · exact .refl type asked db
  dsimp only
  split
  swap
  · exact .refl type asked db
  case isTrue hallowed =>
    intro i
    by_cases htype : type = type'
    · subst htype
      obtain ⟨rfl, htyped⟩ := h rfl
      dsimp only
      rw [set_cells_self]
      obtain heq | ⟨-, cell, hcell, hselected, hnew⟩ := selectCells_spec type variation _ _
        (db.cells type) i
      · exact .inl heq
      · exact .inr ⟨htyped, cell, hcell, hselected, hnew⟩
    · dsimp only
      rw [set_cells_of_ne _ htype]
      exact .inl rfl

/-- A READ of class 0 asks for no variation. -/
theorem selectClass0_asks (type : StaticType) (types : List StaticType) (db : DatabaseBuffers α) :
    Asks type none db (db.selectClass0 types) := by
  induction types generalizing db with
  | nil => exact .refl type none db
  | cons type' types ih =>
    unfold selectClass0
    split_ifs
    · exact (genericSelect_asks (fun _ => ⟨rfl, by simp⟩) db _).trans (ih _)
    · exact ih db

/-- A selecting step asks for the variation of its header. -/
theorem selectAll_asks {type : StaticType} (htype : type ≠ .OctetString) (db : DatabaseBuffers α)
    (gv : GroupVariation) : Asks type (askedVariation gv) db (db.selectAll gv).2 := by
  unfold selectAll
  split
  case isTrue hclass =>
    rw [hclass]
    exact selectClass0_asks type _ db
  case isFalse hclass =>
    split
    case h_1 type' variation hswitch =>
      obtain ⟨hvariation, htyped⟩ := staticSelection_spec hswitch
      refine genericSelect_asks (fun heq => ?_) db _
      subst heq
      -- Only the octet strings have a variation that is not asked for.
      have hgv : gv ≠ .Group110Var0 := by
        rintro rfl
        cases hswitch
        exact htype rfl
      rw [if_neg hgv, ← hvariation]
      exact ⟨rfl, htyped⟩
    · exact .refl type _ db

/-- A range of a READ asks for its variation. -/
theorem selectRange_asks (type : StaticType) (db : DatabaseBuffers α) (gv : GroupVariation)
    (range : Range) : Asks type (askedVariation gv) db (db.selectRange gv range).2 := by
  unfold selectRange
  split
  case h_1 type' variation hswitch =>
    obtain ⟨hvariation, htyped⟩ := staticSelection_spec hswitch
    have hasked : type = type' → variation = askedVariation gv ∧
        ∀ v ∈ askedVariation gv, v ∈ type.variations := by
      rintro rfl
      rw [← hvariation]
      exact ⟨rfl, htyped⟩
    unfold selectVirtualRange
    split
    · exact genericSelect_asks hasked db range
    · dsimp only
      split
      · exact genericSelect_asks hasked db _
      · exact .refl type _ db
  · exact .refl type _ db

/-- The variation with which the cell at a position is selected. -/
def heldVariation (cells : List (Cell α)) (i : ℕ) : Option GroupVariation :=
  cells[i]?.bind fun cell =>
    if cell.selection.selected then some cell.selection.variation else none

/-- The invariant of the record: it holds the variations of the selected cells, which are of the
type, and so are the defaults. -/
structure Wanted.Inv (type : StaticType) (vIndices : List ℕ) (s : Wanted α) : Prop where
  window : Window (s.db.cells type) (s.db.ranges type)
  vIndices : DatabaseBuffers.vIndices (s.db.cells type) = vIndices
  wanted : heldVariation (s.db.cells type) = s.wanted type
  defaults : ∀ cell ∈ s.db.cells type, cell.config.svariation ∈ type.variations
  typed : ∀ cell ∈ s.db.cells type, cell.selection.selected →
    cell.selection.variation ∈ type.variations

omit [MeasurementSpec α] in
/-- A variation is held where the cell is selected. -/
theorem isSome_heldVariation (cells : List (Cell α)) (i : ℕ) :
    (heldVariation cells i).isSome = isSelected cells i := by
  unfold heldVariation isSelected
  cases hcell : cells[i]? with
  | none => rfl
  | some cell =>
    rw [Option.bind_some, Option.any_some]
    cases cell.selection.selected <;> rfl

/-- A step that asks for a variation records it. -/
theorem heldVariation_of_asks {type : StaticType} {asked : Option GroupVariation}
    {db db' : DatabaseBuffers α} (h : Asks type asked db db') (i : ℕ) :
    heldVariation (db'.cells type) i =
      if isSelected (db'.cells type) i then
        if isSelected (db.cells type) i then heldVariation (db.cells type) i
        else (db.cells type)[i]?.map (wantedVariation type asked)
      else none := by
  obtain heq | ⟨-, cell, hold, hselected, hnew⟩ := h i
  · have hsame : isSelected (db'.cells type) i = isSelected (db.cells type) i := by
      rw [isSelected, isSelected, heq]
    have hheld : heldVariation (db'.cells type) i = heldVariation (db.cells type) i := by
      rw [heldVariation, heldVariation, heq]
    rw [hsame, hheld]
    have hsome := isSome_heldVariation (db.cells type) i
    split_ifs with hsel
    · rfl
    · rw [← hsome, Option.not_isSome_iff_eq_none] at hsel
      exact hsel
  · have hbefore : isSelected (db.cells type) i = false := by
      rw [isSelected, hold, Option.any_some, hselected]
    have hafter : isSelected (db'.cells type) i = true := by
      rw [isSelected, hnew]
      rfl
    rw [if_pos hafter, hbefore, if_neg Bool.false_ne_true, hold, heldVariation, hnew,
      Option.map_some, ← selectCell_variation]
    rfl

omit [MeasurementSpec α] in
/-- What is held depends on what the cells report. -/
theorem heldVariation_congr {cells cells' : List (Cell α)}
    (h : cells'.map report = cells.map report) :
    heldVariation cells' = heldVariation cells ∧ isSelected cells' = isSelected cells := by
  have hat (i : ℕ) : cells'[i]?.map report = cells[i]?.map report := by
    have hget := congrArg (·[i]?) h
    simpa only [List.getElem?_map] using hget
  constructor <;> funext i
  · have hmap (cells : List (Cell α)) : heldVariation cells i =
        (cells[i]?.map report).bind fun entry =>
          if entry.2.selected then some entry.2.variation else none := by
      rw [heldVariation, Option.bind_map]
      rfl
    rw [hmap, hmap, hat]
  · have hmap (cells : List (Cell α)) : isSelected cells i =
        (cells[i]?.map report).any fun entry => entry.2.selected := by
      rw [isSelected, Option.any_map]
      rfl
    rw [hmap, hmap, hat]

/-- A selection keeps the invariant of what is wanted. -/
theorem Wanted.step_inv {type : StaticType} (htype : type ≠ .OctetString) {vIndices : List ℕ}
    (s : Wanted α) (selecting : Selecting α) (h : s.Inv type vIndices) :
    (s.step selecting).Inv type vIndices := by
  obtain ⟨hkeeps, hwindow⟩ := selecting.apply_keeps h.window
  have hv := hkeeps.vIndices.trans h.vIndices
  -- A selecting step records what it asks for.
  have hselect {db' : DatabaseBuffers α} (hdb : selecting.apply s.db = db')
      (hasks : Asks type selecting.asked s.db db') : (s.step selecting).Inv type vIndices := by
    subst hdb
    refine ⟨hwindow, hv, ?_, fun cell hcell => ?_, fun cell hcell hselected => ?_⟩
    · funext i
      change heldVariation ((selecting.apply s.db).cells type) i = _
      rw [heldVariation_of_asks hasks i, h.wanted]
      rfl
    · obtain ⟨cell', hcell', hconfig⟩ := hasks.sameConfigs cell hcell
      rw [hconfig]
      exact h.defaults cell' hcell'
    · obtain ⟨i, hi, rfl⟩ := List.getElem_of_mem hcell
      obtain heq | ⟨htyped, cell, hold, -, hnew⟩ := hasks i
      · exact h.typed _ (List.mem_of_getElem? (heq.symm.trans (List.getElem?_eq_getElem hi)))
          hselected
      · have hget := (List.getElem?_eq_getElem hi).symm.trans hnew
        rw [Option.some.inj hget, selectCell_variation]
        exact wantedVariation_mem htyped (h.defaults cell (List.mem_of_getElem? hold))
  cases selecting with
  | all gv => exact hselect rfl (selectAll_asks htype s.db gv)
  | range gv r => exact hselect rfl (selectRange_asks type s.db gv r)
  | change change =>
    -- A change of the values leaves the selection as it is.
    have huntouched := change.run_untouched type s.db
    have hconfigs := Change.run_sameConfigs type s.db change
    obtain ⟨hheld, hselected⟩ := heldVariation_congr huntouched.cells
    refine ⟨hwindow, hv, ?_, fun cell hcell => ?_, fun cell hcell hsel => ?_⟩
    · funext i
      have hsome := isSome_heldVariation (s.db.cells type) i
      change heldVariation ((change.run s.db).1.cells type) i =
        if isSelected ((change.run s.db).1.cells type) i then _ else _
      rw [hheld, hselected, ← h.wanted]
      split_ifs with hsel
      · rfl
      · rw [← hsome, Option.not_isSome_iff_eq_none] at hsel
        exact hsel
    · obtain ⟨cell', hcell', hconfig⟩ := hconfigs cell hcell
      rw [hconfig]
      exact h.defaults cell' hcell'
    · obtain ⟨cell', hcell', hselection⟩ := exists_mem_of_report huntouched.cells hcell
      rw [← hselection] at hsel ⊢
      exact h.typed cell' hcell' hsel

/-- After any selections of a cleared type the record is what the selected cells hold. -/
theorem Wanted.run_inv {type : StaticType} (htype : type ≠ .OctetString) {db : DatabaseBuffers α}
    (h : Cleared type db)
    (hdefaults : ∀ cell ∈ db.cells type, cell.config.svariation ∈ type.variations)
    (selections : List (Selecting α)) :
    (Machine.run Wanted.step { db } selections).Inv type (vIndices (db.cells type)) := by
  have hnone : heldVariation (db.cells type) = fun _ => none := by
    funext i
    have hsome := isSome_heldVariation (db.cells type) i
    have hselected : isSelected (db.cells type) i = false := by
      unfold isSelected
      rw [Option.any_eq_false_iff_get]
      intro hget
      rw [h.cells _ (List.mem_of_getElem? (Option.some_get hget).symm)]
    rw [hselected] at hsome
    exact Option.not_isSome_iff_eq_none.mp (by rw [hsome]; exact Bool.false_ne_true)
  have hinit : Wanted.Inv type (vIndices (db.cells type)) { db } := by
    refine ⟨h.window, rfl, hnone, hdefaults, fun cell hcell hselected => ?_⟩
    rw [h.cells cell hcell] at hselected
    cases hselected
  exact Machine.run_of_step Wanted.step (fun s e hs => s.step_inv htype e hs) hinit selections

end

end DatabaseBuffers

end OpenDnp3.Outstation
