import OpenDnp3.App.HeaderWriter
import OpenDnp3.Outstation.EventStorage

/-!
# The database of the outstation

`DatabaseBuffers` with its selections and the writers of `StaticWriters.cpp`, and the updates of
`Database`. The values of the points are of an arbitrary type; what the code reads of a value is
in `MeasurementSpec`.
-/

namespace OpenDnp3.Outstation

open App

/-- What the templates over the measurement types read of a value. -/
class MeasurementSpec (α : Type*) where
  /-- `Spec::IsEvent`, of the last event, the new value and the deadband. -/
  isEvent : EventType → α → α → UInt64 → Bool
  /-- `BinarySpec::IsQualityOnlineOnly`. -/
  isQualityOnlineOnly : α → Bool
  /-- The value of a binary. -/
  bit : α → Bool
  /-- `OctetString::Size`. -/
  octetSize : α → UInt8
  /-- The time of a measurement, in milliseconds. -/
  time : α → ℤ
  /-- The measurement with another time. -/
  withTime : α → ℤ → α
  /-- The measurement with other flags. -/
  withFlags : α → UInt8 → α

/-- Binaries that are always online and carry no time. -/
instance : MeasurementSpec Bool where
  isEvent _ last value _ := last != value
  isQualityOnlineOnly _ := true
  bit value := value
  octetSize _ := 0
  time _ := 0
  withTime value _ := value
  withFlags value _ := value

/-- `IINField`, with the bits of the two bytes in one number. -/
abbrev IINField := UInt16

namespace IINField

/-- `IINBit::CLASS1_EVENTS`. -/
def class1Events : IINField := 0x0002

/-- `IINBit::CLASS2_EVENTS`. -/
def class2Events : IINField := 0x0004

/-- `IINBit::CLASS3_EVENTS`. -/
def class3Events : IINField := 0x0008

/-- `IINBit::DEVICE_RESTART`. -/
def deviceRestart : IINField := 0x0080

/-- `IINBit::FUNC_NOT_SUPPORTED`. -/
def funcNotSupported : IINField := 0x0100

/-- `IINBit::OBJECT_UNKNOWN`. -/
def objectUnknown : IINField := 0x0200

/-- `IINBit::PARAM_ERROR`. -/
def paramError : IINField := 0x0400

/-- `IINBit::EVENT_BUFFER_OVERFLOW`. -/
def eventBufferOverflow : IINField := 0x0800

end IINField

/-- The types of the static data, in the order in which they are loaded. -/
inductive StaticType where
  | Binary
  | DoubleBitBinary
  | Counter
  | FrozenCounter
  | Analog
  | BinaryOutputStatus
  | AnalogOutputStatus
  | TimeAndInterval
  | OctetString
  deriving DecidableEq, Repr

/-- The order of `DatabaseBuffers::Load`. -/
def StaticType.all : List StaticType :=
  [Binary, DoubleBitBinary, Counter, FrozenCounter, Analog, BinaryOutputStatus,
    AnalogOutputStatus, TimeAndInterval, OctetString]

/-- The type of the events of a static type. -/
def StaticType.eventType : StaticType → Option EventType
  | Binary => some .Binary
  | DoubleBitBinary => some .DoubleBitBinary
  | Counter => some .Counter
  | FrozenCounter => some .FrozenCounter
  | Analog => some .Analog
  | BinaryOutputStatus => some .BinaryOutputStatus
  | AnalogOutputStatus => some .AnalogOutputStatus
  | TimeAndInterval => none
  | OctetString => some .OctetString

/-- `PointClass`. -/
inductive PointClass where
  | Class0
  | Class1
  | Class2
  | Class3
  deriving DecidableEq, Repr

/-- The configuration of a point, of `outstation/MeasurementConfig.h`. -/
structure MeasurementConfig where
  vIndex : UInt16
  svariation : GroupVariation
  clazz : PointClass := .Class1
  evariation : GroupVariation
  deadband : UInt64 := 0
  deriving DecidableEq, Repr

/-- `SelectedValue`. -/
structure SelectedValue (α : Type*) where
  selected : Bool := false
  value : α
  variation : GroupVariation
  deriving DecidableEq, Repr

/-- `Cell`. The event cell holds the value of the last event. -/
structure Cell (α : Type*) where
  value : α
  config : MeasurementConfig
  lastEvent : α
  selection : SelectedValue α
  deriving DecidableEq, Repr

/-- `IndexMode`. -/
inductive IndexMode where
  | Contiguous
  | Discontiguous
  deriving DecidableEq, Repr

/-- `DatabaseBuffers`: the cells and the selected range of every type. -/
structure DatabaseBuffers (α : Type*) where
  cells : StaticType → List (Cell α)
  ranges : StaticType → Range := fun _ => {}
  class0 : StaticType → Bool := fun _ => true
  indexMode : IndexMode := .Contiguous

namespace DatabaseBuffers

variable {α : Type*}

/-- Put back the cells and the range of a type. -/
def set (db : DatabaseBuffers α) (type : StaticType) (cells : List (Cell α)) (range : Range) :
    DatabaseBuffers α :=
  { db with
    cells := fun t => if t = type then cells else db.cells t
    ranges := fun t => if t = type then range else db.ranges t }

/-- `DatabaseBuffers::RangeOf`. -/
def rangeOf (size : ℕ) : Range := if 0 < size then { start := 0, stop := size - 1 } else {}

/-! ## Selection -/

variable [MeasurementSpec α]

/-- `DatabaseBuffers::CheckForPromotion`. -/
def checkForPromotion (type : StaticType) (value : α) (variation : GroupVariation) :
    GroupVariation :=
  if type = .Binary ∧ variation = .Group1Var1 then
    if MeasurementSpec.isQualityOnlineOnly value then variation else .Group1Var2
  else variation

/-- A cell with its current value selected. Without a variation the default of the point is used.
-/
def selectCell (type : StaticType) (variation : Option GroupVariation) (cell : Cell α) : Cell α :=
  { cell with
    selection :=
      { selected := true
        value := cell.value
        variation :=
          checkForPromotion type cell.value (variation.getD cell.config.svariation) } }

/-- The loop of `DatabaseBuffers::GenericSelect` over the positions of the range. -/
def selectCells (type : StaticType) (variation : Option GroupVariation) :
    List ℕ → IINField → List (Cell α) → IINField × List (Cell α)
  | [], ret, cells => (ret, cells)
  | i :: is, ret, cells =>
    match cells[i]? with
    | none => selectCells type variation is ret cells
    | some cell =>
      if cell.selection.selected then
        selectCells type variation is (ret ||| IINField.paramError) cells
      else selectCells type variation is ret (cells.set i (selectCell type variation cell))

/-- `DatabaseBuffers::GenericSelect`. -/
def genericSelect (db : DatabaseBuffers α) (type : StaticType) (range : Range)
    (variation : Option GroupVariation) : IINField × DatabaseBuffers α :=
  if range.isValid then
    let allowed := range.intersection (rangeOf (db.cells type).length)
    if allowed.isValid then
      let (ret, cells) := selectCells type variation (List.range' allowed.start allowed.count)
        (if allowed = range then 0 else IINField.paramError) (db.cells type)
      (ret, db.set type cells ((db.ranges type).union allowed))
    else (IINField.paramError, db)
  else (0, db)

/-- `DatabaseBuffers::SelectAll<T>` and `SelectAllUsing<T>`. -/
def selectAllOf (db : DatabaseBuffers α) (type : StaticType) (variation : Option GroupVariation) :
    IINField × DatabaseBuffers α :=
  db.genericSelect type (rangeOf (db.cells type).length) variation

omit [MeasurementSpec α] in
/-- The loop of `IndexSearch::FindClosestRawIndex`. -/
def findClosestLoop (cells : List (Cell α)) (vIndex : ℕ) :
    ℕ → ℕ → ℕ → ℕ → Bool × ℕ
  | 0, _, _, midpoint => (false, midpoint)
  | fuel + 1, lower, upper, midpoint =>
    if lower ≤ upper then
      let midpoint := (upper - lower) / 2 + lower
      match cells[midpoint]? with
      | none => (false, midpoint)
      | some cell =>
        let index := cell.config.vIndex.toNat
        if index = vIndex then (true, midpoint)
        else if index < vIndex then
          if lower < 65535 then findClosestLoop cells vIndex fuel (midpoint + 1) upper midpoint
          else (false, midpoint)
        else if 0 < upper ∧ 0 < midpoint then
          findClosestLoop cells vIndex fuel lower (midpoint - 1) midpoint
        else (false, midpoint)
    else (false, midpoint)

omit [MeasurementSpec α] in
/-- `IndexSearch::FindClosestRawIndex`. Every round halves the interval. -/
def findClosestRawIndex (cells : List (Cell α)) (vIndex : ℕ) : Bool × ℕ :=
  if cells.isEmpty then (false, 0)
  else findClosestLoop cells vIndex (cells.length + 1) 0 (cells.length - 1) 0

omit [MeasurementSpec α] in
/-- `IndexSearch::FindRawRange`. -/
def findRawRange (cells : List (Cell α)) (range : Range) : Range :=
  if range.isValid ∧ cells ≠ [] then
    let start := (findClosestRawIndex cells range.start).2
    let stop := (findClosestRawIndex cells range.stop).2
    match cells[start]?, cells[stop]? with
    | some first, some last =>
      let start := if first.config.vIndex.toNat < range.start then start + 1 else start
      if range.stop < last.config.vIndex.toNat ∧ stop = 0 then {}
      else
        let stop := if range.stop < last.config.vIndex.toNat then stop - 1 else stop
        if start < cells.length ∧ stop < cells.length then { start, stop } else {}
    | _, _ => {}
  else {}

/-- `DatabaseBuffers::SelectVirtualRange`. -/
def selectVirtualRange (db : DatabaseBuffers α) (type : StaticType) (range : Range)
    (variation : Option GroupVariation) : IINField × DatabaseBuffers α :=
  match db.indexMode with
  | .Contiguous => db.genericSelect type range variation
  | .Discontiguous =>
    let mapped := findRawRange (db.cells type) range
    if mapped.isValid then
      let clipped : IINField := if range.count = mapped.count then 0 else IINField.paramError
      let (ret, db) := db.genericSelect type mapped variation
      (clipped ||| ret, db)
    else (IINField.paramError, db)

/-- The types and variations of the switches of `DatabaseBuffers::SelectAll` and `SelectRange`. -/
def staticSelection : GroupVariation → Option (StaticType × Option GroupVariation)
  | .Group1Var0 => some (.Binary, none)
  | .Group1Var1 => some (.Binary, some .Group1Var1)
  | .Group1Var2 => some (.Binary, some .Group1Var2)
  | .Group3Var0 => some (.DoubleBitBinary, none)
  | .Group3Var2 => some (.DoubleBitBinary, some .Group3Var2)
  | .Group10Var0 => some (.BinaryOutputStatus, none)
  | .Group10Var2 => some (.BinaryOutputStatus, some .Group10Var2)
  | .Group20Var0 => some (.Counter, none)
  | .Group20Var1 => some (.Counter, some .Group20Var1)
  | .Group20Var2 => some (.Counter, some .Group20Var2)
  | .Group20Var5 => some (.Counter, some .Group20Var5)
  | .Group20Var6 => some (.Counter, some .Group20Var6)
  | .Group21Var0 => some (.FrozenCounter, none)
  | .Group21Var1 => some (.FrozenCounter, some .Group21Var1)
  | .Group21Var2 => some (.FrozenCounter, some .Group21Var2)
  | .Group21Var5 => some (.FrozenCounter, some .Group21Var5)
  | .Group21Var6 => some (.FrozenCounter, some .Group21Var6)
  | .Group21Var9 => some (.FrozenCounter, some .Group21Var9)
  | .Group21Var10 => some (.FrozenCounter, some .Group21Var10)
  | .Group30Var0 => some (.Analog, none)
  | .Group30Var1 => some (.Analog, some .Group30Var1)
  | .Group30Var2 => some (.Analog, some .Group30Var2)
  | .Group30Var3 => some (.Analog, some .Group30Var3)
  | .Group30Var4 => some (.Analog, some .Group30Var4)
  | .Group30Var5 => some (.Analog, some .Group30Var5)
  | .Group30Var6 => some (.Analog, some .Group30Var6)
  | .Group40Var0 => some (.AnalogOutputStatus, none)
  | .Group40Var1 => some (.AnalogOutputStatus, some .Group40Var1)
  | .Group40Var2 => some (.AnalogOutputStatus, some .Group40Var2)
  | .Group40Var3 => some (.AnalogOutputStatus, some .Group40Var3)
  | .Group40Var4 => some (.AnalogOutputStatus, some .Group40Var4)
  | .Group50Var4 => some (.TimeAndInterval, some .Group50Var4)
  | .Group110Var0 => some (.OctetString, some .Group110Var0)
  | _ => none

/-- `DatabaseBuffers::SelectAllClass0` for one type after the other. -/
def selectClass0 (db : DatabaseBuffers α) : List StaticType → DatabaseBuffers α
  | [] => db
  | type :: types =>
    if db.class0 type then (db.selectAllOf type none).2.selectClass0 types
    else db.selectClass0 types

/-- `DatabaseBuffers::SelectAll`. An octet string has only its default variation. -/
def selectAll (db : DatabaseBuffers α) (gv : GroupVariation) : IINField × DatabaseBuffers α :=
  if gv = .Group60Var1 then
    (0, db.selectClass0 [.Binary, .DoubleBitBinary, .Counter, .FrozenCounter, .Analog,
      .BinaryOutputStatus, .AnalogOutputStatus, .OctetString, .TimeAndInterval])
  else
    match staticSelection gv with
    | some (type, variation) =>
      db.selectAllOf type (if gv = .Group110Var0 then none else variation)
    | none => (IINField.funcNotSupported, db)

/-- `DatabaseBuffers::SelectRange`. -/
def selectRange (db : DatabaseBuffers α) (gv : GroupVariation) (range : Range) :
    IINField × DatabaseBuffers α :=
  match staticSelection gv with
  | some (type, variation) => db.selectVirtualRange type range variation
  | none => (IINField.funcNotSupported, db)

omit [MeasurementSpec α] in
/-- `DatabaseBuffers::Deselect`. -/
def deselect (db : DatabaseBuffers α) (type : StaticType) : DatabaseBuffers α :=
  if (db.ranges type).isValid then
    db.set type
      ((db.cells type).mapIdx fun i cell =>
        if (db.ranges type).start ≤ i ∧ i ≤ (db.ranges type).stop then
          { cell with selection := { cell.selection with selected := false } }
        else cell) {}
  else db

omit [MeasurementSpec α] in
/-- `DatabaseBuffers::Unselect`, which leaves out the octet strings. -/
def unselect (db : DatabaseBuffers α) : DatabaseBuffers α :=
  [StaticType.Binary, .DoubleBitBinary, .Counter, .FrozenCounter, .Analog, .BinaryOutputStatus,
    .AnalogOutputStatus, .TimeAndInterval].foldl deselect db

omit [MeasurementSpec α] in
/-- `SelectedRanges::HasAnySelection`. -/
def hasAnySelection (db : DatabaseBuffers α) : Bool :=
  StaticType.all.any fun type => (db.ranges type).isValid

/-! ## Writing -/

/-- The state of a load of one type: its cells, its range and the writer. -/
structure Loading (α : Type*) where
  cells : List (Cell α)
  range : Range
  writer : HeaderWriter α

/-- The write functions of `StaticWriters`. -/
inductive StaticWriter where
  | writeSingleBitfield
  | writeWithSerializer (gv : GroupVariation)
  | write
  deriving DecidableEq, Repr

/-- `StaticWriters::Get`. -/
def StaticWriter.get : StaticType → GroupVariation → StaticWriter
  | .Binary, .Group1Var1 => .writeSingleBitfield
  | .Binary, _ => .writeWithSerializer .Group1Var2
  | .DoubleBitBinary, _ => .writeWithSerializer .Group3Var2
  | .Counter, .Group20Var2 => .writeWithSerializer .Group20Var2
  | .Counter, .Group20Var5 => .writeWithSerializer .Group20Var5
  | .Counter, .Group20Var6 => .writeWithSerializer .Group20Var6
  | .Counter, _ => .writeWithSerializer .Group20Var1
  | .FrozenCounter, _ => .writeWithSerializer .Group21Var1
  | .Analog, .Group30Var2 => .writeWithSerializer .Group30Var2
  | .Analog, .Group30Var3 => .writeWithSerializer .Group30Var3
  | .Analog, .Group30Var4 => .writeWithSerializer .Group30Var4
  | .Analog, .Group30Var5 => .writeWithSerializer .Group30Var5
  | .Analog, .Group30Var6 => .writeWithSerializer .Group30Var6
  | .Analog, _ => .writeWithSerializer .Group30Var1
  | .BinaryOutputStatus, _ => .writeWithSerializer .Group10Var2
  | .AnalogOutputStatus, .Group40Var2 => .writeWithSerializer .Group40Var2
  | .AnalogOutputStatus, .Group40Var3 => .writeWithSerializer .Group40Var3
  | .AnalogOutputStatus, .Group40Var4 => .writeWithSerializer .Group40Var4
  | .AnalogOutputStatus, _ => .writeWithSerializer .Group40Var1
  | .TimeAndInterval, _ => .writeWithSerializer .Group50Var4
  | .OctetString, _ => .write

namespace Loading

omit [MeasurementSpec α] in
/-- The cell at the start of the range is deselected, and the range moves on. -/
def next (p : Loading α) (cell : Cell α) : Loading α :=
  { p with
    cells := p.cells.set p.range.start
      { cell with selection := { cell.selection with selected := false } }
    range := p.range.advance }

omit [MeasurementSpec α] in
/-- The condition of the loops of `LoadWithRangeIterator` and `LoadWithBitfieldIterator`: the cell
at the start of the range that goes on with the header. -/
def continues (p : Loading α) (variation : GroupVariation) (nextIndex : UInt16) :
    Option (Cell α) :=
  if p.range.isValid then
    match p.cells[p.range.start]? with
    | none => none
    | some cell =>
      if cell.selection.selected ∧ cell.selection.variation = variation ∧
          cell.config.vIndex = nextIndex then some cell else none
  else none

omit [MeasurementSpec α] in
/-- `LoadWithRangeIterator`. -/
def loadWithRangeIterator (variation : GroupVariation) :
    ℕ → UInt16 → RangeWriteIterator α → Loading α → Bool × RangeWriteIterator α × Loading α
  | 0, _, iterator, p => (true, iterator, p)
  | fuel + 1, nextIndex, iterator, p =>
    match p.continues variation nextIndex with
    | none => (true, iterator, p)
    | some cell =>
      match iterator.write p.writer cell.selection.value with
      | none => (false, iterator, p)
      | some (writer, iterator) =>
        loadWithRangeIterator variation fuel (nextIndex + 1) iterator
          ({ p with writer }.next cell)

omit [MeasurementSpec α] in
/-- The range of the virtual indices of `WriteWithSerializer` and `WriteSingleBitfield`. -/
def mapped (p : Loading α) (start : Cell α) : Range where
  start := start.config.vIndex.toNat
  stop := match p.cells[p.range.stop]? with
    | some stop => stop.config.vIndex.toNat
    | none => 0

omit [MeasurementSpec α] in
/-- `WriteWithSerializer`, for the cell at the start of the range. An iterator that is not valid
refuses the first value. -/
def writeWithSerializer (gv : GroupVariation) (start : Cell α) (p : Loading α) :
    Bool × Loading α :=
  let index : IndexType := if (p.mapped start).isOneByte then .UInt8 else .UInt16
  match RangeWriteIterator.iterateOverRange p.writer gv.inst index (p.mapped start).start with
  | (_, none) => (false, p)
  | (writer, some iterator) =>
    let (ret, iterator, p) := loadWithRangeIterator start.selection.variation p.range.count
      start.config.vIndex iterator { p with writer }
    (ret, { p with writer := p.writer.push iterator.finish })

/-- `LoadWithBitfieldIterator`. -/
def loadWithBitfieldIterator (variation : GroupVariation) :
    ℕ → UInt16 → BitfieldRangeWriteIterator → Loading α →
      Bool × BitfieldRangeWriteIterator × Loading α
  | 0, _, iterator, p => (true, iterator, p)
  | fuel + 1, nextIndex, iterator, p =>
    match p.continues variation nextIndex with
    | none => (true, iterator, p)
    | some cell =>
      match iterator.write (MeasurementSpec.bit cell.selection.value) with
      | none => (false, iterator, p)
      | some iterator =>
        loadWithBitfieldIterator variation fuel (nextIndex + 1) iterator (p.next cell)

/-- `WriteSingleBitfield`, for the cell at the start of the range. -/
def writeSingleBitfield (gv : GroupVariation) (start : Cell α) (p : Loading α) :
    Bool × Loading α :=
  let index : IndexType := if (p.mapped start).isOneByte then .UInt8 else .UInt16
  match BitfieldRangeWriteIterator.iterateOverSingleBitfield p.writer gv index
      (p.mapped start).start with
  | (_, none) => (false, p)
  | (writer, some iterator) =>
    let (ret, iterator, p) := loadWithBitfieldIterator start.selection.variation p.range.count
      start.config.vIndex iterator { p with writer }
    (ret, { p with writer := iterator.finish p.writer })

/-- `WriteSomeOctetString`: it does not look whether a string is selected, and leaves it so. -/
def writeSomeOctetString (size : UInt8) :
    ℕ → ℕ → RangeWriteIterator α → Loading α → ℕ × RangeWriteIterator α × Loading α
  | 0, numWritten, iterator, p => (numWritten, iterator, p)
  | fuel + 1, numWritten, iterator, p =>
    if p.range.isValid then
      match p.cells[p.range.start]? with
      | none => (numWritten, iterator, p)
      | some cell =>
        if MeasurementSpec.octetSize cell.selection.value ≠ size then (numWritten, iterator, p)
        else
          match iterator.write p.writer cell.selection.value with
          | none => (numWritten, iterator, p)
          | some (writer, iterator) =>
            writeSomeOctetString size fuel (numWritten + 1) iterator
              { p with writer, range := p.range.advance }
    else (numWritten, iterator, p)

/-- `StaticWriters::Write` of octet strings. Every round that writes moves the range. -/
def writeOctetStrings : ℕ → Loading α → Bool × Loading α
  | 0, p => (!p.range.isValid, p)
  | fuel + 1, p =>
    if p.range.isValid then
      match p.cells[p.range.start]? with
      | none => (false, p)
      | some cell =>
        let size := MeasurementSpec.octetSize cell.selection.value
        let index : IndexType := if p.range.isOneByte then .UInt8 else .UInt16
        match RangeWriteIterator.iterateOverRange p.writer
            { gv := .Group110Var0, size := size.toNat } index p.range.start with
        | (_, none) => (false, p)
        | (writer, some iterator) =>
          let (numWritten, iterator, p) := writeSomeOctetString size p.range.count 0 iterator
            { p with writer }
          let p : Loading α := { p with writer := p.writer.push iterator.finish }
          if numWritten = 0 then (false, p) else writeOctetStrings fuel p
    else (true, p)

/-- A write function at the cell at the start of the range. -/
def writeFun (writer : StaticWriter) (start : Cell α) (p : Loading α) : Bool × Loading α :=
  match writer with
  | .writeSingleBitfield => p.writeSingleBitfield .Group1Var1 start
  | .writeWithSerializer gv => p.writeWithSerializer gv start
  | .write => p.writeOctetStrings p.range.count

/-- The loop of `DatabaseBuffers::LoadType`. Every round with space moves the range. -/
def loop (type : StaticType) : ℕ → Loading α → Bool × Loading α
  | 0, p => (true, p)
  | fuel + 1, p =>
    if p.range.isValid then
      match p.cells[p.range.start]? with
      | none => (true, p)
      | some cell =>
        if cell.selection.selected then
          let (spaceRemaining, p) := p.writeFun
            (StaticWriter.get type cell.selection.variation) cell
          if spaceRemaining then loop type fuel p else (false, p)
        else loop type fuel { p with range := p.range.advance }
    else (true, p)

end Loading

/-- `DatabaseBuffers::LoadType`. -/
def loadType (db : DatabaseBuffers α) (type : StaticType) (writer : HeaderWriter α) :
    Bool × DatabaseBuffers α × HeaderWriter α :=
  let (spaceRemaining, p) := Loading.loop type (db.ranges type).count
    { cells := db.cells type, range := db.ranges type, writer }
  (spaceRemaining, db.set type p.cells p.range, p.writer)

/-- The loop of `DatabaseBuffers::Load` over the types. -/
def loadTypes : List StaticType → DatabaseBuffers α → HeaderWriter α →
    Bool × DatabaseBuffers α × HeaderWriter α
  | [], db, writer => (true, db, writer)
  | type :: types, db, writer =>
    let (spaceRemaining, db, writer) := db.loadType type writer
    if spaceRemaining then loadTypes types db writer else (false, db, writer)

/-- `DatabaseBuffers::Load`. -/
def load (db : DatabaseBuffers α) (writer : HeaderWriter α) :
    Bool × DatabaseBuffers α × HeaderWriter α :=
  loadTypes StaticType.all db writer

/-! ## Updates -/

/-- `EventMode`. -/
inductive EventMode where
  | Detect
  | Force
  | Suppress
  | EventOnly
  deriving DecidableEq, Repr

/-- `Database::ConvertToEventClass`. -/
def convertToEventClass : PointClass → Option EventClass
  | .Class0 => none
  | .Class1 => some .EC1
  | .Class2 => some .EC2
  | .Class3 => some .EC3

omit [MeasurementSpec α] in
/-- `Database::TryCreateEvent`, with the event that goes to the event receiver. -/
def tryCreateEvent (type : StaticType) (cell : Cell α) (value : α) : Cell α × Option (Event α) :=
  match type.eventType, convertToEventClass cell.config.clazz with
  | some eventType, some ec =>
    ({ cell with lastEvent := value },
      some
        { type := eventType, value, index := cell.config.vIndex, clazz := ec
          variation := cell.config.evariation })
  | _, _ => (cell, none)

/-- Whether `Database::UpdateAny` tries to create an event. -/
def createsEvent (type : StaticType) (cell : Cell α) (value : α) : EventMode → Bool
  | .Force | .EventOnly => true
  | .Detect =>
    match type.eventType with
    | some eventType =>
      MeasurementSpec.isEvent eventType cell.lastEvent value cell.config.deadband
    | none => false
  | .Suppress => false

/-- `Database::UpdateAny`. The static value is updated unless the mode is `EventOnly`. -/
def updateAny (type : StaticType) (cell : Cell α) (value : α) (mode : EventMode) :
    Cell α × Option (Event α) :=
  let (cell, event) :=
    if createsEvent type cell value mode then tryCreateEvent type cell value else (cell, none)
  (if mode = .EventOnly then cell else { cell with value }, event)

omit [MeasurementSpec α] in
/-- `Database::GetRawIndex`. -/
def getRawIndex (db : DatabaseBuffers α) (type : StaticType) (index : ℕ) : ℕ :=
  match db.indexMode with
  | .Contiguous => index
  | .Discontiguous =>
    let (found, raw) := findClosestRawIndex (db.cells type) index
    if found then raw else 65535

/-- `Database::Update` of a measurement, with the event that it creates. An update of a point that
does not exist fails. -/
def update (db : DatabaseBuffers α) (type : StaticType) (value : α) (index : ℕ) (mode : EventMode) :
    Bool × DatabaseBuffers α × Option (Event α) :=
  let raw := db.getRawIndex type index
  match (db.cells type)[raw]? with
  | none => (false, db, none)
  | some cell =>
    let (cell, event) := updateAny type cell value mode
    (true, db.set type ((db.cells type).set raw cell) (db.ranges type), event)

/-- The loop of `Database::Modify` over the positions. -/
def modifyCells (type : StaticType) (flags : UInt8) :
    List ℕ → List (Cell α) → List (Cell α) × List (Event α)
  | [], cells => (cells, [])
  | i :: is, cells =>
    match cells[i]? with
    | none => modifyCells type flags is cells
    | some cell =>
      let (cell, event) :=
        updateAny type cell (MeasurementSpec.withFlags cell.value flags) .Detect
      let (cells, events) := modifyCells type flags is (cells.set i cell)
      (cells, event.toList ++ events)

/-- `Database::Modify`, with the events that it creates. -/
def modify (db : DatabaseBuffers α) (type : StaticType) (start stop : ℕ) (flags : UInt8) :
    Bool × DatabaseBuffers α × List (Event α) :=
  let rawStart := db.getRawIndex type start
  let rawStop := db.getRawIndex type stop
  let size := (db.cells type).length
  if rawStart < size ∧ rawStop < size ∧ rawStart ≤ rawStop then
    let (cells, events) :=
      modifyCells type flags (List.range' rawStart (rawStop - rawStart + 1)) (db.cells type)
    (true, db.set type cells (db.ranges type), events)
  else (false, db, [])

/-- A call of the update handler by the application. -/
inductive Change (α : Type*) where
  | update (type : StaticType) (value : α) (index : ℕ) (mode : EventMode)
  | modify (type : StaticType) (start stop : ℕ) (flags : UInt8)
  deriving DecidableEq, Repr

/-- The database after an update, with the events that it creates. -/
def Change.run (db : DatabaseBuffers α) : Change α → DatabaseBuffers α × List (Event α)
  | .update type value index mode =>
    let (_, db, event) := db.update type value index mode
    (db, event.toList)
  | .modify type start stop flags => (db.modify type start stop flags).2

/-! ## Class assignment -/

omit [MeasurementSpec α] in
/-- `DatabaseBuffers::AssignClassTo`, with the range that it has assigned. -/
def assignClassTo (db : DatabaseBuffers α) (type : StaticType) (clazz : PointClass)
    (range : Range) : Range × DatabaseBuffers α :=
  let clipped := range.intersection (rangeOf (db.cells type).length)
  let cells := (db.cells type).mapIdx fun i cell =>
    if clipped.start ≤ i ∧ i ≤ clipped.stop then
      { cell with config := { cell.config with clazz } }
    else cell
  (clipped, db.set type cells (db.ranges type))

omit [MeasurementSpec α] in
/-- `DatabaseBuffers::AssignClassToAll`. -/
def assignClassToAll (db : DatabaseBuffers α) (type : StaticType) (clazz : PointClass) :
    Range × DatabaseBuffers α :=
  db.assignClassTo type clazz (rangeOf (db.cells type).length)

end DatabaseBuffers

end OpenDnp3.Outstation
