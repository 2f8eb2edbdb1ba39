import OpenDnp3.Lib.Run
import OpenDnp3.Outstation.Measurements
import OpenDnp3.Outstation.VariationSelection

/-!
# The two copies of a binary state

A binary, a double-bit binary and a binary output status keep their state in their value, which the
packed format is written from, and in their flags, which the objects with flags and the events are
written from. The constructors keep both in step, except for the one of a new double-bit binary
(`agrees_ofConfigs_iff`). `Database::Modify` puts flags with any state bits next to a value that
stays as it was. So both copies agree through a run exactly where every step brings in a measurement
whose copies agree (`run_agrees_iff`).
-/

namespace OpenDnp3.Outstation

namespace Measured

variable {β : Type*}

/-- The value is the state that the flags encode, in the types that keep their state in both. -/
def IsConsistent : Measured β → Prop
  | .Binary m => m.value = getBinaryValue m.flags
  | .DoubleBitBinary m => m.value = getDoubleBitValue m.flags
  | .BinaryOutputStatus m => m.value = getBinaryValue m.flags
  | .Counter _ => True
  | .FrozenCounter _ => True
  | .other _ => True

instance (m : Measured β) : Decidable m.IsConsistent := by
  cases m <;> unfold IsConsistent <;> infer_instance

/-- The measurements that the constructors with arguments make. -/
inductive IsConstructed : Measured β → Prop where
  | binaryOfFlags (flags : UInt8) (time : ℤ) : IsConstructed (.Binary (.binaryOfFlags flags time))
  | binaryOfValue (value : Bool) (flags : UInt8) (time : ℤ) :
    IsConstructed (.Binary (.binaryOfValue value flags time))
  | statusOfFlags (flags : UInt8) (time : ℤ) :
    IsConstructed (.BinaryOutputStatus (.binaryOfFlags flags time))
  | statusOfValue (value : Bool) (flags : UInt8) (time : ℤ) :
    IsConstructed (.BinaryOutputStatus (.binaryOfValue value flags time))
  | doubleBitOfFlags (flags : UInt8) (time : ℤ) :
    IsConstructed (.DoubleBitBinary (.doubleBitOfFlags flags time))
  | doubleBitOfValue (value : DoubleBit) (flags : UInt8) (time : ℤ) :
    IsConstructed (.DoubleBitBinary (.doubleBitOfValue value flags time))

/-- The constructors with arguments keep both copies in step. -/
theorem IsConstructed.isConsistent {m : Measured β} (h : m.IsConstructed) : m.IsConsistent := by
  cases h with
  | binaryOfFlags flags time => rfl
  | binaryOfValue value flags time => exact (getBinaryValue_getBinaryFlags flags value).symm
  | statusOfFlags flags time => rfl
  | statusOfValue value flags time => exact (getBinaryValue_getBinaryFlags flags value).symm
  | doubleBitOfFlags flags time => rfl
  | doubleBitOfValue value flags time =>
    exact (getDoubleBitValue_getDoubleBitFlags flags value).symm

/-- The type keeps its state in the value and in the flags. -/
def KeepsState : Measured β → Prop
  | .Binary _ => True
  | .DoubleBitBinary _ => True
  | .BinaryOutputStatus _ => True
  | .Counter _ => False
  | .FrozenCounter _ => False
  | .other _ => False

/-- There is nothing to keep in step in the other types. -/
theorem isConsistent_of_not_keepsState {m : Measured β} (h : ¬m.KeepsState) : m.IsConsistent := by
  cases m with
  | Binary => exact absurd trivial h
  | DoubleBitBinary => exact absurd trivial h
  | BinaryOutputStatus => exact absurd trivial h
  | Counter => trivial
  | FrozenCounter => trivial
  | other => trivial

/-- Of the default constructors, that of `DoubleBitBinary` does not. -/
theorem isConsistent_new_iff [Inhabited β] (type : StaticType) :
    (new type : Measured β).IsConsistent ↔ type ≠ .DoubleBitBinary := by
  have hbinary : TypedMeasurement.newBinary.value =
      getBinaryValue TypedMeasurement.newBinary.flags := by decide
  have hdouble : TypedMeasurement.newDoubleBit.value ≠
      getDoubleBitValue TypedMeasurement.newDoubleBit.flags := by decide
  cases type with
  | DoubleBitBinary => exact iff_of_false hdouble (by decide)
  | Binary => exact iff_of_true hbinary (by decide)
  | BinaryOutputStatus => exact iff_of_true hbinary (by decide)
  | Counter => exact iff_of_true trivial (by decide)
  | FrozenCounter => exact iff_of_true trivial (by decide)
  | Analog => exact iff_of_true trivial (by decide)
  | AnalogOutputStatus => exact iff_of_true trivial (by decide)
  | TimeAndInterval => exact iff_of_true trivial (by decide)
  | OctetString => exact iff_of_true trivial (by decide)

end Measured

namespace DatabaseBuffers

variable {β : Type*}

/-- The cells hold consistent values. -/
def Consistent (cells : List (Cell (Measured β))) : Prop := ∀ cell ∈ cells, cell.value.IsConsistent

/-- Every point has one state. -/
def Agrees (db : DatabaseBuffers (Measured β)) : Prop := ∀ type, Consistent (db.cells type)

/-- The points of a new database have one state each, but for the double-bit binaries. -/
theorem agrees_ofConfigs_iff [Inhabited β] (configs : StaticType → List MeasurementConfig)
    (indexMode : IndexMode) :
    Agrees (ofConfigs configs indexMode : DatabaseBuffers (Measured β)) ↔
      configs .DoubleBitBinary = [] := by
  constructor
  · intro hagrees
    by_contra hne
    obtain ⟨config, hconfig⟩ := List.exists_mem_of_ne_nil _ hne
    have hnew := hagrees .DoubleBitBinary _ (List.mem_map.mpr ⟨config, hconfig, rfl⟩)
    exact (Measured.isConsistent_new_iff .DoubleBitBinary).mp hnew rfl
  · intro hnil type cell hcell
    obtain ⟨config, hconfig, rfl⟩ := List.mem_map.mp hcell
    refine (Measured.isConsistent_new_iff type).mpr ?_
    rintro rfl
    rw [hnil] at hconfig
    cases hconfig

/-- A changed type decides whether the database still agrees. -/
theorem agrees_set_iff {db : DatabaseBuffers (Measured β)} (h : Agrees db) (type : StaticType)
    (cells : List (Cell (Measured β))) (range : App.Range) :
    Agrees (db.set type cells range) ↔ Consistent cells := by
  constructor
  · intro hset
    have hcells := hset type
    rwa [set_cells_self] at hcells
  · intro hcells type'
    by_cases htype : type' = type
    · subst htype
      rwa [set_cells_self]
    · rw [set_cells_of_ne _ htype]
      exact h type'

/-- The cell that is put in decides whether the cells are still consistent. -/
theorem consistent_set_iff {cells : List (Cell (Measured β))} (h : Consistent cells) {i : ℕ}
    {old : Cell (Measured β)} (hold : cells[i]? = some old) (cell : Cell (Measured β)) :
    Consistent (cells.set i cell) ↔ cell.value.IsConsistent := by
  obtain ⟨hi, -⟩ := List.getElem?_eq_some_iff.mp hold
  constructor
  · exact fun hset => hset cell (List.mem_set hi cell)
  · intro hcell other hother
    obtain hmem | rfl := List.mem_or_eq_of_mem_set hother
    · exact h other hmem
    · exact hcell

variable [MeasurementSpec β]

/-! ## Steps -/

section

variable {α : Type*} [MeasurementSpec α]

/-- An update that stores nothing reports an event unless the point has no events or is of class
0. -/
theorem isSome_updateAny_eventOnly (type : StaticType) (cell : Cell α) (value : α) :
    (updateAny type cell value .EventOnly).2.isSome ↔
      type.eventType ≠ none ∧ cell.config.clazz ≠ .Class0 := by
  have hupdate : (updateAny type cell value .EventOnly).2 =
    (tryCreateEvent type cell value).2 := rfl
  rw [hupdate, tryCreateEvent]
  cases type.eventType <;> cases cell.config.clazz <;> simp [convertToEventClass]

/-- The loop of `Modify` leaves the other positions alone. -/
theorem modifyCells_of_notMem (type : StaticType) (flags : UInt8) {is : List ℕ}
    (cells : List (Cell α)) {i : ℕ} (h : i ∉ is) :
    (modifyCells type flags is cells).1[i]? = cells[i]? := by
  induction is generalizing cells with
  | nil => rfl
  | cons j is ih =>
    obtain ⟨hne, hrest⟩ := not_or.mp (List.mem_cons.not.mp h)
    unfold modifyCells
    split
    · exact ih cells hrest
    · refine (ih _ hrest).trans ?_
      exact List.getElem?_set_ne (Ne.symm hne)

end

/-- The measurements that a change brings into the database are consistent. -/
def Change.Keeps (db : DatabaseBuffers (Measured β)) : Change (Measured β) → Prop
  | .update type value index mode =>
    ∀ cell, (db.cells type)[db.getRawIndex type index]? = some cell →
      (mode = .EventOnly → type.eventType ≠ none ∧ cell.config.clazz ≠ .Class0) →
        value.IsConsistent
  | .modify type start stop flags =>
    db.getRawIndex type start < (db.cells type).length →
      db.getRawIndex type stop < (db.cells type).length →
        ∀ i, db.getRawIndex type start ≤ i → i ≤ db.getRawIndex type stop →
          ∀ cell, (db.cells type)[i]? = some cell →
            (MeasurementSpec.withFlags cell.value flags).IsConsistent

/-- After a change every point has one state, and the events that it creates report one state. -/
def Change.ReportsOneState (db : DatabaseBuffers (Measured β))
    (change : Change (Measured β)) : Prop :=
  Agrees (change.run db).1 ∧ ∀ e ∈ (change.run db).2, e.value.IsConsistent

/-- The loop of `Modify` brings in consistent measurements exactly where the flags encode the state
that each of the points has. -/
theorem modifyCells_consistent_iff (type : StaticType) (flags : UInt8) {is : List ℕ}
    (hnodup : is.Nodup) {cells : List (Cell (Measured β))} (h : Consistent cells) :
    (Consistent (modifyCells type flags is cells).1 ∧
        ∀ e ∈ (modifyCells type flags is cells).2, e.value.IsConsistent) ↔
      ∀ i ∈ is, ∀ cell, cells[i]? = some cell →
        (MeasurementSpec.withFlags cell.value flags).IsConsistent := by
  induction is generalizing cells with
  | nil => exact iff_of_true ⟨h, fun e he => by cases he⟩ fun i hi => by cases hi
  | cons i is ih =>
    obtain ⟨hi, hnodup⟩ := List.nodup_cons.mp hnodup
    rw [List.forall_mem_cons]
    cases hcell : cells[i]? with
    | none =>
      have hskip : modifyCells type flags (i :: is) cells = modifyCells type flags is cells := by
        rw [modifyCells, hcell]
      rw [hskip, ih hnodup h]
      exact (and_iff_right fun cell hcell => by cases hcell).symm
    | some cell =>
      obtain ⟨hvalue, hevent⟩ :=
        updateAny_value type cell (MeasurementSpec.withFlags cell.value flags) .Detect
      rw [if_neg (by decide)] at hvalue
      have hstep : modifyCells type flags (i :: is) cells =
          ((modifyCells type flags is (cells.set i (updateAny type cell
              (MeasurementSpec.withFlags cell.value flags) .Detect).1)).1,
            (updateAny type cell (MeasurementSpec.withFlags cell.value flags) .Detect).2.toList ++
              (modifyCells type flags is (cells.set i (updateAny type cell
                (MeasurementSpec.withFlags cell.value flags) .Detect).1)).2) := by
        rw [modifyCells, hcell]
      rw [hstep]
      generalize updateAny type cell (MeasurementSpec.withFlags cell.value flags) .Detect = updated
        at hvalue hevent ⊢
      by_cases hflags : (MeasurementSpec.withFlags cell.value flags).IsConsistent
      · -- The point has been set to a consistent value, and the loop goes on with the others.
        have hset : Consistent (cells.set i updated.1) := by
          rwa [consistent_set_iff h hcell, hvalue]
        have hothers : (∀ j ∈ is, ∀ other, (cells.set i updated.1)[j]? = some other →
            (MeasurementSpec.withFlags other.value flags).IsConsistent) ↔
              ∀ j ∈ is, ∀ other, cells[j]? = some other →
                (MeasurementSpec.withFlags other.value flags).IsConsistent := by
          refine forall₂_congr fun j hj => ?_
          have hne : i ≠ j := by
            rintro rfl
            exact hi hj
          rw [List.getElem?_set_ne hne]
        have hthis : ∀ other, some cell = some other →
            (MeasurementSpec.withFlags other.value flags).IsConsistent := by
          rintro other ⟨⟩
          exact hflags
        rw [and_iff_right hthis, ← hothers, ← ih hnodup hset]
        refine and_congr_right fun _ => ?_
        rw [List.forall_mem_append]
        refine and_iff_right fun e he => ?_
        rw [hevent e (Option.mem_toList.mp he)]
        exact hflags
      · -- The point stays as it has been set.
        refine iff_of_false (fun hall => hflags ?_) fun hall => hflags (hall.1 cell rfl)
        obtain ⟨hlt, -⟩ := List.getElem?_eq_some_iff.mp hcell
        have hget := modifyCells_of_notMem type flags (cells.set i updated.1) hi
        rw [List.getElem?_set_self hlt] at hget
        rw [← hvalue]
        exact hall.1 _ (List.mem_of_getElem? hget)

/-- An update reports one state exactly where it keeps the agreement. -/
theorem update_reportsOneState_iff {db : DatabaseBuffers (Measured β)} (h : Agrees db)
    (type : StaticType) (value : Measured β) (index : ℕ) (mode : EventMode) :
    (Change.update type value index mode).ReportsOneState db ↔
      (Change.update type value index mode).Keeps db := by
  unfold Change.ReportsOneState Change.Keeps Change.run update
  dsimp only
  cases hcell : (db.cells type)[db.getRawIndex type index]? with
  | none => exact iff_of_true ⟨h, fun e he => by cases he⟩ fun cell hcell => by cases hcell
  | some cell =>
    obtain ⟨hvalue, hevent⟩ := updateAny_value type cell value mode
    have honly := isSome_updateAny_eventOnly type cell value
    dsimp only
    rw [agrees_set_iff h, consistent_set_iff (h type) hcell, hvalue]
    have hold := h type cell (List.mem_of_getElem? hcell)
    -- An update for the event alone leaves the point as it is, so only the event can disagree.
    by_cases hmode : mode = .EventOnly
    · subst hmode
      rw [if_pos rfl, and_iff_right hold]
      constructor
      · rintro hall cell' ⟨⟩ hreports
        obtain ⟨e, he⟩ := Option.isSome_iff_exists.mp (honly.mpr (hreports rfl))
        rw [← hevent e he]
        exact hall e (Option.mem_toList.mpr he)
      · intro hkeeps e he
        have he := Option.mem_toList.mp he
        rw [hevent e he]
        exact hkeeps cell rfl fun _ => honly.mp (Option.isSome_iff_exists.mpr ⟨e, he⟩)
    · rw [if_neg hmode]
      constructor
      · rintro ⟨hconsistent, -⟩ cell' ⟨⟩ -
        exact hconsistent
      · intro hkeeps
        have hconsistent := hkeeps cell rfl fun h => absurd h hmode
        refine ⟨hconsistent, fun e he => ?_⟩
        rw [hevent e (Option.mem_toList.mp he)]
        exact hconsistent

/-- A change of flags reports one state exactly where it keeps the agreement. -/
theorem modify_reportsOneState_iff {db : DatabaseBuffers (Measured β)} (h : Agrees db)
    (type : StaticType) (start stop : ℕ) (flags : UInt8) :
    (Change.modify type start stop flags : Change (Measured β)).ReportsOneState db ↔
      (Change.modify type start stop flags : Change (Measured β)).Keeps db := by
  unfold Change.ReportsOneState Change.Keeps Change.run modify
  dsimp only
  by_cases hrange : db.getRawIndex type start < (db.cells type).length ∧
      db.getRawIndex type stop < (db.cells type).length ∧
        db.getRawIndex type start ≤ db.getRawIndex type stop
  · rw [if_pos hrange]
    obtain ⟨hstart, hstop, hle⟩ := hrange
    dsimp only
    rw [agrees_set_iff h, modifyCells_consistent_iff type flags List.nodup_range' (h type)]
    simp only [hstart, hstop, forall_true_left]
    refine forall_congr' fun i => ?_
    rw [List.mem_range'_1]
    constructor
    · exact fun hall hi hi' => hall ⟨hi, by omega⟩
    · exact fun hall hi => hall hi.1 (by omega)
  · rw [if_neg hrange]
    refine iff_of_true ⟨h, fun e he => by cases he⟩ fun hstart hstop i hi hi' => ?_
    exact absurd ⟨hstart, hstop, hi.trans hi'⟩ hrange

/-- From a database whose points have one state each, exactly the changes that bring in consistent
measurements leave it so. -/
theorem Change.reportsOneState_iff {db : DatabaseBuffers (Measured β)} (h : Agrees db)
    (change : Change (Measured β)) : change.ReportsOneState db ↔ change.Keeps db := by
  cases change with
  | update type value index mode => exact update_reportsOneState_iff h type value index mode
  | modify type start stop flags => exact modify_reportsOneState_iff h type start stop flags

/-! ## Runs -/

/-- The database after a change. -/
def changed (db : DatabaseBuffers (Measured β)) (change : Change (Measured β)) :
    DatabaseBuffers (Measured β) :=
  (change.run db).1

/-- From a database whose points have one state each, a run leaves it so if and only if every step
brings in consistent measurements. -/
theorem stepsMeet_reportsOneState_iff {db : DatabaseBuffers (Measured β)} (hdb : Agrees db)
    (changes : List (Change (Measured β))) :
    Machine.StepsMeet changed Change.ReportsOneState db changes ↔
      Machine.StepsMeet changed Change.Keeps db changes := by
  have hstep : ∀ (db : DatabaseBuffers (Measured β)) (change : Change (Measured β)), Agrees db →
      (change.ReportsOneState db ↔ change.Keeps db) :=
    fun db change h => change.reportsOneState_iff h
  exact Machine.StepsMeet.iff_of_invariant changed hstep
    (fun db change h hkeeps => ((hstep db change h).mpr hkeeps).1) hdb changes

/-- In every state of a run from any database every point has one state, and so do the events, if
and only if the points have one at the start and every step brings in consistent measurements. -/
theorem run_agrees_iff (db : DatabaseBuffers (Measured β)) (changes : List (Change (Measured β))) :
    Agrees db ∧ Machine.StepsMeet changed Change.ReportsOneState db changes ↔
      Agrees db ∧ Machine.StepsMeet changed Change.Keeps db changes :=
  and_congr_right fun hdb => stepsMeet_reportsOneState_iff hdb changes

/-- A database with one binary. -/
def oneBinary : DatabaseBuffers (Measured Bool) :=
  ofConfigs (fun
    | .Binary => [{ vIndex := 0, svariation := .Group1Var1, evariation := .Group2Var1 }]
    | _ => []) .Contiguous

/-- Flags with the state bit set, for a binary that is off. -/
theorem not_agrees_oneBinary :
    ¬(Agrees oneBinary ∧ Machine.StepsMeet changed Change.ReportsOneState oneBinary
      [.modify .Binary 0 0 0x81]) := by
  rintro ⟨-, ⟨hagrees, -⟩, -⟩
  have hcell : ∃ cell ∈ (changed oneBinary (.modify .Binary 0 0 0x81)).cells .Binary,
      ¬cell.value.IsConsistent := by decide +kernel
  obtain ⟨cell, hmem, hnot⟩ := hcell
  exact hnot (hagrees .Binary cell hmem)

/-! ## Runs of updates -/

/-- An update with what a constructor with arguments has made, if the type keeps its state twice. -/
def Change.UsesConstructors : Change (Measured β) → Prop
  | .update _ value _ _ => value.KeepsState → value.IsConstructed
  | .modify .. => False

/-- An update with what a constructor with arguments has made brings in a consistent measurement. -/
theorem Change.UsesConstructors.keeps {change : Change (Measured β)} (h : change.UsesConstructors)
    (db : DatabaseBuffers (Measured β)) : change.Keeps db := by
  cases change with
  | modify => exact h.elim
  | update type value index mode =>
    intro cell _ _
    by_cases hstate : value.KeepsState
    · exact (h hstate).isConsistent
    · exact Measured.isConsistent_of_not_keepsState hstate

/-- From a new database, in a run of updates with what the constructors with arguments make, every
point has one state, and so do the events, if and only if there are no double-bit binaries: their
default constructor is the only one that does not keep the copies in step. -/
theorem run_agrees_ofConfigs_iff [Inhabited β] (configs : StaticType → List MeasurementConfig)
    (indexMode : IndexMode) {changes : List (Change (Measured β))}
    (h : ∀ change ∈ changes, change.UsesConstructors) :
    let db : DatabaseBuffers (Measured β) := ofConfigs configs indexMode
    Agrees db ∧ Machine.StepsMeet changed Change.ReportsOneState db changes ↔
      configs .DoubleBitBinary = [] := by
  intro db
  have hnew : Agrees db ↔ configs .DoubleBitBinary = [] := agrees_ofConfigs_iff configs indexMode
  rw [← hnew]
  refine and_iff_left_of_imp fun hagrees => (stepsMeet_reportsOneState_iff hagrees changes).mpr ?_
  have huses : Machine.StepsMeet changed (fun _ change => change.UsesConstructors) db changes :=
    Machine.StepsMeet.of_forall changed h db
  have hstep : ∀ (db : DatabaseBuffers (Measured β)) (change : Change (Measured β)), True →
      change.UsesConstructors → True ∧ change.Keeps db :=
    fun db change _ hchange => ⟨trivial, hchange.keeps db⟩
  exact Machine.StepsMeet.of_invariant changed hstep trivial huses

/-- The binary goes on, is forced to its restart flags with the state kept, and goes off. -/
theorem run_agrees_ofConfigs_oneBinary :
    Agrees oneBinary ∧ Machine.StepsMeet changed Change.ReportsOneState oneBinary
      [.update .Binary (.Binary (.binaryOfValue true 0x01 5)) 0 .Detect,
        .update .Binary (.Binary (.binaryOfFlags 0x82 6)) 0 .Force,
        .update .Binary (.Binary (.binaryOfValue false 0x01 7)) 0 .Suppress] := by
  refine (run_agrees_ofConfigs_iff _ _ ?_).mpr rfl
  simp only [List.forall_mem_cons, List.not_mem_nil, false_imp_iff, implies_true, and_true]
  refine ⟨?_, ?_, ?_⟩
  · exact fun _ => .binaryOfValue true 0x01 5
  · exact fun _ => .binaryOfFlags 0x82 6
  · exact fun _ => .binaryOfValue false 0x01 7

end DatabaseBuffers

end OpenDnp3.Outstation
