import OpenDnp3.Outstation.Database

/-!
# Binaries and counters

The measurement types of `MeasurementTypes.h` that keep their state twice, in their value and in
their flags, and those with a deadband over integers, with what `MeasurementTypeSpecs.h` says about
them. The database holds these and measurements of an arbitrary type (`Measured`). A state that a
constructor puts into the flags is read from them again (`getBinaryValue_getBinaryFlags`,
`getDoubleBitValue_getDoubleBitFlags`), and an update stores and reports the measurement that it is
given (`updateAny_value`).
-/

namespace OpenDnp3.Outstation

/-! ## Values and flags -/

/-- `DoubleBit`. -/
inductive DoubleBit where
  | INTERMEDIATE
  | DETERMINED_OFF
  | DETERMINED_ON
  | INDETERMINATE
  deriving DecidableEq, Repr

/-- `DoubleBitToType`. -/
def DoubleBit.toType : DoubleBit → UInt8
  | INTERMEDIATE => 0
  | DETERMINED_OFF => 1
  | DETERMINED_ON => 2
  | INDETERMINATE => 3

/-- `DoubleBitFromType`. -/
def DoubleBit.fromType (arg : UInt8) : DoubleBit :=
  match arg.toNat with
  | 0x0 => INTERMEDIATE
  | 0x1 => DETERMINED_OFF
  | 0x2 => DETERMINED_ON
  | _ => INDETERMINATE

/-- `flags::GetBinaryValue`. -/
def getBinaryValue (flags : UInt8) : Bool := flags &&& 0x80 ≠ 0

/-- `flags::GetBinaryFlags`. -/
def getBinaryFlags (flags : UInt8) (value : Bool) : UInt8 :=
  if value then flags ||| 0x80 else flags &&& ~~~(0x80 : UInt8)

/-- `DoubleBitBinary::GetValue`. -/
def getDoubleBitValue (flags : UInt8) : DoubleBit := .fromType (flags >>> 6)

/-- `DoubleBitBinary::GetFlags`. -/
def getDoubleBitFlags (flags : UInt8) (state : DoubleBit) : UInt8 :=
  ((0x3F : UInt8) &&& flags) ||| (state.toType <<< 6)

/-- `TypedMeasurement`. -/
structure TypedMeasurement (τ : Type) where
  value : τ
  flags : UInt8
  time : ℤ := 0
  deriving DecidableEq, Repr

/-- The flag `RESTART` of every type. -/
def flagsRestart : UInt8 := 0x02

/-- The default constructor of `Binary` and `BinaryOutputStatus`. -/
def TypedMeasurement.newBinary : TypedMeasurement Bool where
  value := false
  flags := flagsRestart

/-- The constructors of `Binary` and `BinaryOutputStatus` that take the value from the flags. -/
def TypedMeasurement.binaryOfFlags (flags : UInt8) (time : ℤ) : TypedMeasurement Bool where
  value := getBinaryValue flags
  flags := flags
  time := time

/-- The constructors of `Binary` and `BinaryOutputStatus` that put the value into the flags. -/
def TypedMeasurement.binaryOfValue (value : Bool) (flags : UInt8) (time : ℤ) :
    TypedMeasurement Bool where
  value := value
  flags := getBinaryFlags flags value
  time := time

/-- The default constructor of `DoubleBitBinary`. -/
def TypedMeasurement.newDoubleBit : TypedMeasurement DoubleBit where
  value := .INDETERMINATE
  flags := flagsRestart

/-- The constructors of `DoubleBitBinary` that take the value from the flags. -/
def TypedMeasurement.doubleBitOfFlags (flags : UInt8) (time : ℤ) :
    TypedMeasurement DoubleBit where
  value := getDoubleBitValue flags
  flags := flags
  time := time

/-- The constructors of `DoubleBitBinary` that put the value into the flags. -/
def TypedMeasurement.doubleBitOfValue (value : DoubleBit) (flags : UInt8) (time : ℤ) :
    TypedMeasurement DoubleBit where
  value := value
  flags := getDoubleBitFlags flags value
  time := time

/-- The default constructor of `Counter` and `FrozenCounter`. -/
def TypedMeasurement.newCounter : TypedMeasurement UInt32 where
  value := 0
  flags := flagsRestart

/-- What holds of every byte. -/
theorem forall_byte {P : UInt8 → Prop} (h : ∀ i : Fin 256, P (UInt8.ofNat i)) (byte : UInt8) :
    P byte := by
  have hbyte := h ⟨byte.toNat, byte.toNat_lt⟩
  rwa [UInt8.ofNat_toNat] at hbyte

/-- The state of a binary is read from the flags as it was put into them. -/
theorem getBinaryValue_getBinaryFlags (flags : UInt8) (value : Bool) :
    getBinaryValue (getBinaryFlags flags value) = value := by
  revert flags
  cases value with
  | false => exact forall_byte (by decide +kernel)
  | true => exact forall_byte (by decide +kernel)

/-- The state of a double-bit binary is read from the flags as it was put into them. -/
theorem getDoubleBitValue_getDoubleBitFlags (flags : UInt8) (state : DoubleBit) :
    getDoubleBitValue (getDoubleBitFlags flags state) = state := by
  revert flags
  cases state with
  | INTERMEDIATE => exact forall_byte (by decide +kernel)
  | DETERMINED_OFF => exact forall_byte (by decide +kernel)
  | DETERMINED_ON => exact forall_byte (by decide +kernel)
  | INDETERMINATE => exact forall_byte (by decide +kernel)

/-! ## Specifications of the types -/

/-- `BinarySpec::IsEvent`, `DoubleBitBinarySpec::IsEvent` and `BinaryOutputStatusSpec::IsEvent`. -/
def isFlagsEvent {τ : Type} (oldValue newValue : TypedMeasurement τ) : Bool :=
  oldValue.flags != newValue.flags

/-- `measurements::IsEvent<uint32_t, uint64_t>`. -/
def isDeadbandEvent (val1 val2 deadband : UInt32) : Bool :=
  let diff : UInt64 :=
    if val1 < val2 then val2.toUInt64 - val1.toUInt64 else val1.toUInt64 - val2.toUInt64
  deadband.toUInt64 < diff

/-- `CounterSpec::IsEvent` and `FrozenCounterSpec::IsEvent`. -/
def isCounterEvent (oldValue newValue : TypedMeasurement UInt32) (deadband : UInt32) : Bool :=
  if oldValue.flags ≠ newValue.flags then true
  else isDeadbandEvent oldValue.value newValue.value deadband

/-- A measurement of the database. The types that are left out, `Analog`, `AnalogOutputStatus`,
`TimeAndInterval` and `OctetString`, are of an arbitrary type. -/
inductive Measured (β : Type*) where
  | Binary (value : TypedMeasurement Bool)
  | DoubleBitBinary (value : TypedMeasurement DoubleBit)
  | Counter (value : TypedMeasurement UInt32)
  | FrozenCounter (value : TypedMeasurement UInt32)
  | BinaryOutputStatus (value : TypedMeasurement Bool)
  | other (value : β)
  deriving DecidableEq, Repr

namespace Measured

variable {β : Type*}

/-- What the templates do with the measurements of every type. An event cell holds values of the
type of its point, and the deadband of a counter is of its value type. -/
instance measurementSpec [MeasurementSpec β] : MeasurementSpec (Measured β) where
  isEvent
    | _, .Binary oldValue, .Binary newValue, _ => isFlagsEvent oldValue newValue
    | _, .DoubleBitBinary oldValue, .DoubleBitBinary newValue, _ => isFlagsEvent oldValue newValue
    | _, .Counter oldValue, .Counter newValue, deadband =>
      isCounterEvent oldValue newValue deadband.toUInt32
    | _, .FrozenCounter oldValue, .FrozenCounter newValue, deadband =>
      isCounterEvent oldValue newValue deadband.toUInt32
    | _, .BinaryOutputStatus oldValue, .BinaryOutputStatus newValue, _ =>
      isFlagsEvent oldValue newValue
    | type, .other oldValue, .other newValue, deadband =>
      MeasurementSpec.isEvent type oldValue newValue deadband
    | _, _, _, _ => false
  isQualityOnlineOnly
    | .Binary value => value.flags &&& 0x7F = 0x01
    | .other value => MeasurementSpec.isQualityOnlineOnly value
    | _ => false
  bit
    | .Binary value => value.value
    | .other value => MeasurementSpec.bit value
    | _ => false
  octetSize
    | .other value => MeasurementSpec.octetSize value
    | _ => 0
  time
    | .Binary value => value.time
    | .DoubleBitBinary value => value.time
    | .Counter value => value.time
    | .FrozenCounter value => value.time
    | .BinaryOutputStatus value => value.time
    | .other value => MeasurementSpec.time value
  withTime
    | .Binary value, time => .Binary { value with time }
    | .DoubleBitBinary value, time => .DoubleBitBinary { value with time }
    | .Counter value, time => .Counter { value with time }
    | .FrozenCounter value, time => .FrozenCounter { value with time }
    | .BinaryOutputStatus value, time => .BinaryOutputStatus { value with time }
    | .other value, time => .other (MeasurementSpec.withTime value time)
  withFlags
    | .Binary value, flags => .Binary { value with flags }
    | .DoubleBitBinary value, flags => .DoubleBitBinary { value with flags }
    | .Counter value, flags => .Counter { value with flags }
    | .FrozenCounter value, flags => .FrozenCounter { value with flags }
    | .BinaryOutputStatus value, flags => .BinaryOutputStatus { value with flags }
    | .other value, flags => .other (MeasurementSpec.withFlags value flags)

/-- The value of a new cell, from the default constructor of its type. -/
def new [Inhabited β] : StaticType → Measured β
  | .Binary => .Binary .newBinary
  | .DoubleBitBinary => .DoubleBitBinary .newDoubleBit
  | .Counter => .Counter .newCounter
  | .FrozenCounter => .FrozenCounter .newCounter
  | .BinaryOutputStatus => .BinaryOutputStatus .newBinary
  | _ => .other default

end Measured

/-! ## Updates -/

namespace DatabaseBuffers

variable {α : Type*}

/-- The search for an event keeps the value, and the event has the new one. -/
theorem tryCreateEvent_value (type : StaticType) (cell : Cell α) (value : α) :
    (tryCreateEvent type cell value).1.value = cell.value ∧
      ∀ e ∈ (tryCreateEvent type cell value).2, e.value = value := by
  unfold tryCreateEvent
  split
  · refine ⟨rfl, fun e he => ?_⟩
    obtain rfl := Option.some.inj he
    rfl
  · exact ⟨rfl, fun e he => by cases he⟩

variable [MeasurementSpec α]

/-- What an update stores, and what it reports. -/
theorem updateAny_value (type : StaticType) (cell : Cell α) (value : α) (mode : EventMode) :
    (updateAny type cell value mode).1.value = (if mode = .EventOnly then cell.value else value) ∧
      ∀ e ∈ (updateAny type cell value mode).2, e.value = value := by
  obtain ⟨hvalue, hevent⟩ := tryCreateEvent_value type cell value
  unfold updateAny
  by_cases hcreate : createsEvent type cell value mode = true
  · rw [if_pos hcreate]
    refine ⟨?_, hevent⟩
    split_ifs
    · exact hvalue
    · rfl
  · rw [if_neg hcreate]
    refine ⟨?_, fun e he => by cases he⟩
    split_ifs <;> rfl

end DatabaseBuffers

/-- The cells of a new database, with the configurations that the application has given them. -/
def DatabaseBuffers.ofConfigs {β : Type*} [Inhabited β]
    (configs : StaticType → List MeasurementConfig) (indexMode : IndexMode) :
    DatabaseBuffers (Measured β) where
  cells type := (configs type).map fun config =>
    { value := .new type, config, lastEvent := .new type
      selection := { value := .new type, variation := config.svariation } }
  indexMode := indexMode

end OpenDnp3.Outstation
