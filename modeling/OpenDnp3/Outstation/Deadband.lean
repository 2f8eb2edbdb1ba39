import OpenDnp3.Lib.Run
import OpenDnp3.Outstation.Measurements
import OpenDnp3.Outstation.VariationSelection

/-!
# Events of counters

Counters and frozen counters report an event when their value has moved further than the deadband
from the last reported one. The values are unsigned, and their difference is taken in 64 bits from
the larger one (`isDeadbandEvent_iff`), so that nothing comes round. What has been reported last is
in the event cell, which an update moves on exactly when it creates an event (`update_reports`); so
the value that the point has never leaves the deadband unnoticed (`run_reports`).
-/

namespace OpenDnp3.Outstation

/-! ## The deadband -/

/-- The distance between the values of two counters, over the integers. -/
def distance (x y : UInt32) : ℕ := ((x.toNat : ℤ) - y.toNat).natAbs

/-- The difference is the distance, at both ends of the range too. -/
theorem isDeadbandEvent_iff (val1 val2 deadband : UInt32) :
    isDeadbandEvent val1 val2 deadband = true ↔ deadband.toNat < distance val2 val1 := by
  have h1 := val1.toNat_lt
  have h2 := val2.toNat_lt
  unfold isDeadbandEvent distance
  dsimp only
  rw [decide_eq_true_eq, UInt64.lt_iff_toNat_lt, UInt32.toNat_toUInt64]
  by_cases hlt : val1 < val2
  · rw [if_pos hlt]
    rw [UInt32.lt_iff_toNat_lt] at hlt
    have hle : val1.toUInt64 ≤ val2.toUInt64 := by
      rw [UInt64.le_iff_toNat_le, UInt32.toNat_toUInt64, UInt32.toNat_toUInt64]
      exact hlt.le
    rw [UInt64.toNat_sub_of_le _ _ hle, UInt32.toNat_toUInt64, UInt32.toNat_toUInt64]
    omega
  · rw [if_neg hlt]
    rw [UInt32.lt_iff_toNat_lt] at hlt
    have hle : val2.toUInt64 ≤ val1.toUInt64 := by
      rw [UInt64.le_iff_toNat_le, UInt32.toNat_toUInt64, UInt32.toNat_toUInt64]
      exact Nat.le_of_not_lt hlt
    rw [UInt64.toNat_sub_of_le _ _ hle, UInt32.toNat_toUInt64, UInt32.toNat_toUInt64]
    omega

/-- A counter is reported when it has other flags than the last event, or has left the deadband
around it. -/
theorem isCounterEvent_iff (oldValue newValue : TypedMeasurement UInt32) (deadband : UInt32) :
    isCounterEvent oldValue newValue deadband = true ↔
      newValue.flags ≠ oldValue.flags ∨
        deadband.toNat < distance newValue.value oldValue.value := by
  unfold isCounterEvent
  by_cases hflags : oldValue.flags = newValue.flags
  · rw [if_neg (not_not.mpr hflags), isDeadbandEvent_iff]
    exact (or_iff_right (not_not.mpr hflags.symm)).symm
  · rw [if_pos hflags]
    exact iff_of_true rfl (.inl (Ne.symm hflags))

/-! ## Positions -/

namespace DatabaseBuffers

variable {α : Type*}

/-- The search depends on the indices only. -/
theorem findClosestLoop_congr {cells cells' : List (Cell α)} (h : vIndices cells = vIndices cells')
    (vIndex fuel lower upper midpoint : ℕ) :
    findClosestLoop cells vIndex fuel lower upper midpoint =
      findClosestLoop cells' vIndex fuel lower upper midpoint := by
  induction fuel generalizing lower upper midpoint with
  | zero => rfl
  | succ fuel ih =>
    have hget : (cells[(upper - lower) / 2 + lower]?).map (fun cell => cell.config.vIndex.toNat) =
        (cells'[(upper - lower) / 2 + lower]?).map fun cell => cell.config.vIndex.toNat := by
      rw [← List.getElem?_map, ← List.getElem?_map]
      exact congrArg (fun indices => indices[(upper - lower) / 2 + lower]?) h
    unfold findClosestLoop
    dsimp only
    cases hcell : cells[(upper - lower) / 2 + lower]? with
    | none =>
      rw [hcell] at hget
      rw [Option.map_eq_none_iff.mp hget.symm]
    | some cell =>
      rw [hcell] at hget
      obtain ⟨cell', hcell', hindex⟩ := Option.map_eq_some_iff.mp hget.symm
      rw [hcell']
      dsimp only
      rw [hindex]
      simp only [ih]

/-- The search depends on the virtual indices only. -/
theorem findClosestRawIndex_congr {cells cells' : List (Cell α)}
    (h : vIndices cells = vIndices cells') (vIndex : ℕ) :
    findClosestRawIndex cells vIndex = findClosestRawIndex cells' vIndex := by
  have hlen : cells.length = cells'.length := by
    have hmap := congrArg List.length h
    simpa [vIndices] using hmap
  have hempty : cells.isEmpty = cells'.isEmpty := by
    rw [Bool.eq_iff_iff, List.isEmpty_iff_length_eq_zero, List.isEmpty_iff_length_eq_zero, hlen]
  unfold findClosestRawIndex
  rw [hempty, hlen, findClosestLoop_congr h]

/-- A changed type leaves the mode of the indices. -/
theorem indexMode_set (db : DatabaseBuffers α) (type : StaticType) (cells : List (Cell α))
    (range : App.Range) : (db.set type cells range).indexMode = db.indexMode := rfl

variable [MeasurementSpec α]

/-- An update of a point that exists. -/
theorem update_eq {db : DatabaseBuffers α} {type : StaticType} {index : ℕ} {cell : Cell α}
    (hcell : (db.cells type)[db.getRawIndex type index]? = some cell) (value : α)
    (mode : EventMode) :
    db.update type value index mode =
      (true,
        db.set type ((db.cells type).set (db.getRawIndex type index)
          (updateAny type cell value mode).1) (db.ranges type),
        (updateAny type cell value mode).2) := by
  unfold update
  dsimp only
  rw [hcell]

/-- A point that has been updated is found at its position. -/
theorem getElem?_update {db : DatabaseBuffers α} {type : StaticType} {index : ℕ} {cell : Cell α}
    (hcell : (db.cells type)[db.getRawIndex type index]? = some cell) (value : α)
    (mode : EventMode) :
    ((db.update type value index mode).2.1.cells type)[
        (db.update type value index mode).2.1.getRawIndex type index]? =
      some (updateAny type cell value mode).1 := by
  have hindices := (update_untouched db type type value index mode).keeps.vIndices
  have hraw : (db.update type value index mode).2.1.getRawIndex type index =
      db.getRawIndex type index := by
    unfold getRawIndex
    rw [findClosestRawIndex_congr hindices, update_eq hcell, indexMode_set]
  obtain ⟨hlt, -⟩ := List.getElem?_eq_some_iff.mp hcell
  rw [hraw, update_eq hcell, set_cells_self, List.getElem?_set_self hlt]

end DatabaseBuffers

/-! ## Updates of a point -/

/-- The types of counters. -/
inductive CounterType where
  | Counter
  | FrozenCounter
  deriving DecidableEq, Repr

namespace CounterType

variable {β : Type*}

/-- The static type of the counters of a type. -/
def static : CounterType → StaticType
  | Counter => .Counter
  | FrozenCounter => .FrozenCounter

/-- A counter of a type. -/
def measured : CounterType → TypedMeasurement UInt32 → Measured β
  | Counter, value => .Counter value
  | FrozenCounter, value => .FrozenCounter value

/-- A counter has an event where the flags differ or the distance exceeds the deadband. -/
theorem isEvent_iff [MeasurementSpec β] (type : CounterType) (event : EventType)
    (oldValue newValue : TypedMeasurement UInt32) (deadband : UInt64) :
    MeasurementSpec.isEvent event (type.measured oldValue : Measured β) (type.measured newValue)
        deadband = true ↔
      newValue.flags ≠ oldValue.flags ∨
        deadband.toUInt32.toNat < distance newValue.value oldValue.value := by
  cases type with
  | Counter => exact isCounterEvent_iff oldValue newValue deadband.toUInt32
  | FrozenCounter => exact isCounterEvent_iff oldValue newValue deadband.toUInt32

end CounterType

/-- An update of a counter that may report it. -/
structure CounterUpdate where
  value : TypedMeasurement UInt32
  mode : DatabaseBuffers.EventMode
  reporting : mode = .Detect ∨ mode = .Force

/-- A database, with the measurement that a point of it has reported last. -/
structure Watched (β : Type*) where
  db : DatabaseBuffers (Measured β)
  last : TypedMeasurement UInt32

namespace Watched

open DatabaseBuffers

variable {β : Type*} [MeasurementSpec β]

/-- The point is updated. -/
def step (type : CounterType) (index : ℕ) (s : Watched β) (u : CounterUpdate) : Watched β :=
  let (_, db, event) := s.db.update type.static (type.measured u.value) index u.mode
  { db, last := if event.isSome then u.value else s.last }

/-- The point exists, is in an event class, and has the stored measurement, with the flags that have
been reported last. -/
structure Watches (type : CounterType) (index : ℕ) (deadband : UInt32)
    (stored : TypedMeasurement UInt32) (s : Watched β) : Prop where
  cell : ∃ cell, (s.db.cells type.static)[s.db.getRawIndex type.static index]? = some cell ∧
    cell.value = type.measured stored ∧ cell.lastEvent = type.measured s.last ∧
      cell.config.deadband.toUInt32 = deadband ∧ cell.config.clazz ≠ .Class0
  flags : stored.flags = s.last.flags

/-- An update creates an event exactly when it is forced, changes the flags or moves the value
further than the deadband from the last reported one. After it the stored flags are those of the
last event, and the stored value is within the deadband around it. -/
def Reports (type : CounterType) (index : ℕ) (deadband : UInt32) (s : Watched β)
    (u : CounterUpdate) : Prop :=
  ∃ stored, Watches type index deadband stored s ∧
    ((s.db.update type.static (type.measured u.value) index u.mode).2.2.isSome ↔
      u.mode = .Force ∨ u.value.flags ≠ stored.flags ∨
        deadband.toNat < distance u.value.value s.last.value) ∧
    (∀ e ∈ (s.db.update type.static (type.measured u.value) index u.mode).2.2,
      e.value = type.measured u.value) ∧
    Watches type index deadband u.value (s.step type index u) ∧
    distance u.value.value (s.step type index u).last.value ≤ deadband.toNat

/-- The type of the events of a counter. -/
theorem eventType_static (type : CounterType) : ∃ event, type.static.eventType = some event := by
  cases type with
  | Counter => exact ⟨_, rfl⟩
  | FrozenCounter => exact ⟨_, rfl⟩

/-- What an update of a counter creates, and what is left in its cell. -/
theorem updateAny_counter {type : CounterType} {cell : Cell (Measured β)}
    {last : TypedMeasurement UInt32} (hlast : cell.lastEvent = type.measured last)
    (hclass : cell.config.clazz ≠ .Class0) (u : CounterUpdate) :
    ((updateAny type.static cell (type.measured u.value) u.mode).2.isSome ↔
      u.mode = .Force ∨ u.value.flags ≠ last.flags ∨
        cell.config.deadband.toUInt32.toNat < distance u.value.value last.value) ∧
    (updateAny type.static cell (type.measured u.value) u.mode).1 =
      { cell with
        value := type.measured u.value
        lastEvent :=
          if (updateAny type.static cell (type.measured u.value) u.mode).2.isSome then
            type.measured u.value
          else cell.lastEvent } := by
  obtain ⟨event, hevent⟩ := eventType_static type
  obtain ⟨ec, hec⟩ : ∃ ec, convertToEventClass cell.config.clazz = some ec := by
    cases hclazz : cell.config.clazz with
    | Class0 => exact absurd hclazz hclass
    | Class1 => exact ⟨_, rfl⟩
    | Class2 => exact ⟨_, rfl⟩
    | Class3 => exact ⟨_, rfl⟩
  have hstored : u.mode ≠ .EventOnly := by
    obtain hmode | hmode := u.reporting <;> rw [hmode] <;> decide
  -- The event is created exactly under the condition of the statement.
  have hcreate : createsEvent type.static cell (type.measured u.value) u.mode = true ↔
      u.mode = .Force ∨ u.value.flags ≠ last.flags ∨
        cell.config.deadband.toUInt32.toNat < distance u.value.value last.value := by
    unfold createsEvent
    obtain hmode | hmode := u.reporting
    · rw [hmode, hevent, hlast]
      dsimp only
      rw [type.isEvent_iff]
      exact (or_iff_right (by decide)).symm
    · rw [hmode]
      exact iff_of_true rfl (.inl rfl)
  rw [← hcreate]
  unfold updateAny
  -- The last event follows the value only where one is created.
  by_cases hcreates : createsEvent type.static cell (type.measured u.value) u.mode = true
  · rw [if_pos hcreates, tryCreateEvent, hevent, hec]
    dsimp only
    rw [if_neg hstored]
    exact ⟨iff_of_true rfl hcreates, rfl⟩
  · rw [if_neg hcreates]
    dsimp only
    rw [if_neg hstored]
    exact ⟨iff_of_false (by simp) hcreates, rfl⟩

/-- One update of a point. -/
theorem update_reports {type : CounterType} {index : ℕ} {deadband : UInt32}
    {stored : TypedMeasurement UInt32} {s : Watched β} (h : Watches type index deadband stored s)
    (u : CounterUpdate) :
    Watches type index deadband u.value (s.step type index u) ∧
      s.Reports type index deadband u := by
  have hwatches := h
  obtain ⟨⟨cell, hfound, -, hlast, rfl, hclass⟩, hflags⟩ := h
  obtain ⟨hcreates, hcell⟩ := updateAny_counter hlast hclass u
  obtain ⟨-, hvalues⟩ := updateAny_value type.static cell (type.measured u.value) u.mode
  have hget := getElem?_update hfound (type.measured u.value) u.mode
  have hevent : (s.db.update type.static (type.measured u.value) index u.mode).2.2 =
      (updateAny type.static cell (type.measured u.value) u.mode).2 := by
    rw [update_eq hfound]
  have hnext : (s.step type index u).last =
      if (updateAny type.static cell (type.measured u.value) u.mode).2.isSome then u.value
      else s.last := by
    rw [← hevent]
    rfl
  generalize updateAny type.static cell (type.measured u.value) u.mode = updated at *
  -- The point has the flags of the last event and is near it, which is this one if there is one.
  have hsettled : u.value.flags = (s.step type index u).last.flags ∧
      distance u.value.value (s.step type index u).last.value ≤
        cell.config.deadband.toUInt32.toNat := by
    rw [hnext]
    by_cases hsome : updated.2.isSome = true
    · rw [if_pos hsome]
      exact ⟨rfl, by simp [distance]⟩
    · rw [if_neg hsome]
      have hnone := hcreates.not.mp hsome
      rw [not_or, not_or, not_not, Nat.not_lt] at hnone
      exact hnone.2
  have hafter : Watches type index cell.config.deadband.toUInt32 u.value (s.step type index u) := by
    refine ⟨⟨updated.1, hget, ?_, ?_, ?_, ?_⟩, hsettled.1⟩
    · rw [hcell]
    · rw [hcell, hnext]
      dsimp only
      split_ifs
      · rfl
      · exact hlast
    · rw [hcell]
    · rw [hcell]
      exact hclass
  refine ⟨hafter, stored, hwatches, ?_, ?_, hafter, hsettled.2⟩
  · rw [hevent, hcreates, hflags]
  · rw [hevent]
    exact hvalues

/-- The events of every run of updates of a counter in an event class. -/
theorem run_reports {type : CounterType} {index : ℕ} {deadband : UInt32}
    {stored : TypedMeasurement UInt32} {s : Watched β} (h : Watches type index deadband stored s)
    (updates : List CounterUpdate) :
    Machine.StepsMeet (step type index) (Reports type index deadband) s updates := by
  have hstep : ∀ (s : Watched β) (u : CounterUpdate),
      (∃ stored, Watches type index deadband stored s) →
        (∃ stored, Watches type index deadband stored (s.step type index u)) ∧
          s.Reports type index deadband u := by
    rintro s u ⟨stored, h⟩
    obtain ⟨hafter, hreports⟩ := update_reports h u
    exact ⟨⟨_, hafter⟩, hreports⟩
  exact Machine.StepsMeet.of_step (step type index) hstep ⟨stored, h⟩ updates

omit [MeasurementSpec β] in
/-- The counters of a new database have reported nothing, and stand at the values that their event
cells begin with. -/
theorem watches_ofConfigs [Inhabited β] {configs : StaticType → List MeasurementConfig}
    {indexMode : IndexMode} {type : CounterType} {index : ℕ} {config : MeasurementConfig}
    (hconfig : (configs type.static)[
      (ofConfigs configs indexMode : DatabaseBuffers (Measured β)).getRawIndex type.static index]? =
        some config)
    (hclass : config.clazz ≠ .Class0) :
    Watches type index config.deadband.toUInt32 .newCounter
      { db := (ofConfigs configs indexMode : DatabaseBuffers (Measured β)),
        last := .newCounter } := by
  have hnew : (Measured.new type.static : Measured β) = type.measured .newCounter := by
    cases type <;> rfl
  refine ⟨⟨{ value := .new type.static, config, lastEvent := .new type.static
             selection := { value := .new type.static, variation := config.svariation } },
    ?_, hnew, hnew, rfl, hclass⟩, rfl⟩
  show ((configs type.static).map _)[_]? = _
  rw [List.getElem?_map, hconfig]
  rfl

/-- A counter whose value must change by more than 5 before it is reported. -/
def counterConfig : MeasurementConfig where
  vIndex := 0
  svariation := .Group20Var1
  evariation := .Group22Var1
  deadband := 5

/-- A database with one counter. -/
def oneCounter : DatabaseBuffers (Measured Bool) :=
  ofConfigs (fun type => if type = .Counter then [counterConfig] else []) .Contiguous

/-- The counter goes to 5 and to 6, and then the largest value is forced. -/
def threeUpdates : List CounterUpdate :=
  [⟨⟨5, 0x02, 0⟩, .Detect, .inl rfl⟩, ⟨⟨6, 0x02, 0⟩, .Detect, .inl rfl⟩,
    ⟨⟨4294967295, 0x02, 0⟩, .Force, .inr rfl⟩]

/-- The value 6 is reported, and not the 5 before it. -/
theorem run_reports_oneCounter :
    Machine.StepsMeet (step .Counter 0) (Reports .Counter 0 5)
        { db := oneCounter, last := .newCounter } threeUpdates ∧
      (Machine.run (step .Counter 0) { db := oneCounter, last := .newCounter }
        (threeUpdates.take 1)).last.value = 0 ∧
      (Machine.run (step .Counter 0) { db := oneCounter, last := .newCounter }
        (threeUpdates.take 2)).last.value = 6 := by
  have hwatches : Watches .Counter 0 5 .newCounter { db := oneCounter, last := .newCounter } :=
    @watches_ofConfigs Bool _ _ .Contiguous .Counter 0 counterConfig rfl (by decide)
  exact ⟨run_reports hwatches threeUpdates, by decide +kernel, by decide +kernel⟩

end Watched

end OpenDnp3.Outstation
