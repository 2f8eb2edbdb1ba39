import OpenDnp3.Outstation.Database

/-!
# The event buffer of the outstation

`EventBuffer` over the event storage, with the writers of `ASDUEventWriteHandler` and
`EventWriters`.
-/

namespace OpenDnp3.Outstation

open App EventLists

variable {α : Type*} [MeasurementSpec α]

/-! ## The writers -/

/-- The write handler: the header writer, and the writer of the current header with its iterator,
its common time of occurrence and the size of its octet strings. -/
structure EventWriter (α : Type*) where
  writer : HeaderWriter α
  iterator : Option (PrefixedWriteIterator α) := none
  cto : Option ℤ := none
  size : Option UInt8 := none

namespace EventWriter

/-- The constructors of `BasicEventWriter`, `CTOEventWriter` and `OctetStringEventWriter`, as
`ASDUEventWriteHandler::Write` chooses them. -/
def start (w : EventWriter α) (variation : GroupVariation) (first : α) : EventWriter α :=
  match variation with
  | .Group2Var3 | .Group4Var3 =>
    let time := MeasurementSpec.time first
    let (writer, iterator) := PrefixedWriteIterator.iterateOverCountWithPrefixAndCTO w.writer
      variation.inst .UInt16 .Group51Var1 (writeUInt48 time)
    { writer, iterator, cto := some time }
  | .Group111Var0 =>
    let size := MeasurementSpec.octetSize first
    let (writer, iterator) := PrefixedWriteIterator.iterateOverCountWithPrefix w.writer
      { gv := .Group111Var0, size := size.toNat } .UInt16
    { writer, iterator, size := some size }
  | _ =>
    let (writer, iterator) := PrefixedWriteIterator.iterateOverCountWithPrefix w.writer
      variation.inst .UInt16
    { writer, iterator }

/-- What the writer hands to its iterator. A time has to lie within 65535 ms behind the common
time, and a string has to have the size of the first one. -/
def prepare (w : EventWriter α) (value : α) : Option α :=
  match w.cto, w.size with
  | some cto, _ =>
    let time := MeasurementSpec.time value
    -- Timestamps that go backwards or too far cannot be encoded.
    if time < cto ∨ 65535 < time - cto then none
    else some (MeasurementSpec.withTime value (time - cto))
  | none, some size => if MeasurementSpec.octetSize value ≠ size then none else some value
  | none, none => some value

/-- `IEventWriter::Write`. -/
def write (w : EventWriter α) (value : α) (index : UInt16) : Option (EventWriter α) :=
  match w.prepare value, w.iterator with
  | some value, some iterator =>
    (iterator.write w.writer value index.toNat).map fun (writer, iterator) =>
      { w with writer, iterator := some iterator }
  | _, _ => none

omit [MeasurementSpec α] in
/-- The writer goes out of scope, and its iterator completes the header. -/
def finish (w : EventWriter α) : EventWriter α where
  writer := match w.iterator with
    | some iterator => w.writer.push iterator.finish
    | none => w.writer

end EventWriter

/-- `ASDUEventWriteHandler`. -/
def asduEventWriteHandler : IEventWriteHandler α (EventWriter α) where
  start := EventWriter.start
  write := EventWriter.write
  finish := EventWriter.finish

/-! ## The buffer -/

/-- `EventBuffer`. -/
structure EventBuffer (α : Type*) where
  overflow : Bool := false
  storage : EventLists α

namespace EventBuffer

omit [MeasurementSpec α] in
/-- `EventBuffer::UpdateAny`. -/
def update (b : EventBuffer α) (event : Event α) : EventBuffer α :=
  let (overflow, storage) := b.storage.update event
  { overflow := b.overflow || overflow, storage }

omit [MeasurementSpec α] in
/-- `EventBuffer::Unselect`. -/
def unselect (b : EventBuffer α) : EventBuffer α := { b with storage := b.storage.unselect }

/-- What a header of a read request selects from the events. -/
inductive EventSelection where
  | byType (type : EventType) (variation : Option GroupVariation)
  | byClass (clazz : EventClass)
  deriving DecidableEq, Repr

omit [MeasurementSpec α] in
/-- The switch of `EventBuffer::SelectMaxCount`. -/
def eventSelection : GroupVariation → Option EventSelection
  | .Group2Var0 => some (.byType .Binary none)
  | .Group2Var1 => some (.byType .Binary (some .Group2Var1))
  | .Group2Var2 => some (.byType .Binary (some .Group2Var2))
  | .Group2Var3 => some (.byType .Binary (some .Group2Var3))
  | .Group4Var0 => some (.byType .DoubleBitBinary none)
  | .Group4Var1 => some (.byType .DoubleBitBinary (some .Group4Var1))
  | .Group4Var2 => some (.byType .DoubleBitBinary (some .Group4Var2))
  | .Group4Var3 => some (.byType .DoubleBitBinary (some .Group4Var3))
  | .Group11Var0 => some (.byType .BinaryOutputStatus none)
  | .Group11Var1 => some (.byType .BinaryOutputStatus (some .Group11Var1))
  | .Group11Var2 => some (.byType .BinaryOutputStatus (some .Group11Var2))
  | .Group22Var0 => some (.byType .Counter none)
  | .Group22Var1 => some (.byType .Counter (some .Group22Var1))
  | .Group22Var2 => some (.byType .Counter (some .Group22Var2))
  | .Group22Var5 => some (.byType .Counter (some .Group22Var5))
  | .Group22Var6 => some (.byType .Counter (some .Group22Var6))
  | .Group23Var0 => some (.byType .FrozenCounter none)
  | .Group23Var1 => some (.byType .FrozenCounter (some .Group23Var1))
  | .Group23Var2 => some (.byType .FrozenCounter (some .Group23Var2))
  | .Group23Var5 => some (.byType .FrozenCounter (some .Group23Var5))
  | .Group23Var6 => some (.byType .FrozenCounter (some .Group23Var6))
  | .Group32Var0 => some (.byType .Analog none)
  | .Group32Var1 => some (.byType .Analog (some .Group32Var1))
  | .Group32Var2 => some (.byType .Analog (some .Group32Var2))
  | .Group32Var3 => some (.byType .Analog (some .Group32Var3))
  | .Group32Var4 => some (.byType .Analog (some .Group32Var4))
  | .Group32Var5 => some (.byType .Analog (some .Group32Var5))
  | .Group32Var6 => some (.byType .Analog (some .Group32Var6))
  | .Group32Var7 => some (.byType .Analog (some .Group32Var7))
  | .Group32Var8 => some (.byType .Analog (some .Group32Var8))
  | .Group42Var0 => some (.byType .AnalogOutputStatus none)
  | .Group42Var1 => some (.byType .AnalogOutputStatus (some .Group42Var1))
  | .Group42Var2 => some (.byType .AnalogOutputStatus (some .Group42Var2))
  | .Group42Var3 => some (.byType .AnalogOutputStatus (some .Group42Var3))
  | .Group42Var4 => some (.byType .AnalogOutputStatus (some .Group42Var4))
  | .Group42Var5 => some (.byType .AnalogOutputStatus (some .Group42Var5))
  | .Group42Var6 => some (.byType .AnalogOutputStatus (some .Group42Var6))
  | .Group42Var7 => some (.byType .AnalogOutputStatus (some .Group42Var7))
  | .Group42Var8 => some (.byType .AnalogOutputStatus (some .Group42Var8))
  | .Group60Var2 => some (.byClass .EC1)
  | .Group60Var3 => some (.byClass .EC2)
  | .Group60Var4 => some (.byClass .EC3)
  | .Group111Var0 => some (.byType .OctetString (some .Group111Var0))
  | _ => none

omit [MeasurementSpec α] in
/-- `EventBuffer::SelectMaxCount`. -/
def selectMaxCount (b : EventBuffer α) (gv : GroupVariation) (maximum : ℕ) :
    IINField × EventBuffer α :=
  match eventSelection gv with
  | some (.byType type variation) =>
    (0, { b with storage := (b.storage.selectByTypeGeneric type variation maximum).2 })
  | some (.byClass clazz) =>
    (0, { b with storage := (b.storage.selectByClass (.ofEventClass clazz) maximum).2 })
  | none => (IINField.funcNotSupported, b)

omit [MeasurementSpec α] in
/-- `EventBuffer::SelectAll`. -/
def selectAll (b : EventBuffer α) (gv : GroupVariation) : IINField × EventBuffer α :=
  b.selectMaxCount gv (2 ^ 32 - 1)

omit [MeasurementSpec α] in
/-- `EventBuffer::SelectCount`. -/
def selectCount (b : EventBuffer α) (gv : GroupVariation) (count : ℕ) : IINField × EventBuffer α :=
  b.selectMaxCount gv count

omit [MeasurementSpec α] in
/-- `EventBuffer::SelectAllByClass`. -/
def selectAllByClass (b : EventBuffer α) (clazz : ClassField) : EventBuffer α :=
  { b with storage := (b.storage.selectByClass clazz (2 ^ 32 - 1)).2 }

omit [MeasurementSpec α] in
/-- `EventBuffer::HasAnySelection`. -/
def hasAnySelection (b : EventBuffer α) : Bool := 0 < b.storage.numSelected

/-- `EventBuffer::Load`, with the numbers of the records that it has written. -/
def load (b : EventBuffer α) (writer : HeaderWriter α) :
    Bool × EventBuffer α × HeaderWriter α × List ℕ :=
  let p := b.storage.write asduEventWriteHandler { writer }
  (p.lists.numSelected = 0, { b with storage := p.lists }, p.handler.writer, p.ids)

omit [MeasurementSpec α] in
/-- `EventBuffer::UnwrittenClassField`. -/
def unwrittenClassField (b : EventBuffer α) : ClassField where
  class1 := 0 < b.storage.numUnwritten .EC1
  class2 := 0 < b.storage.numUnwritten .EC2
  class3 := 0 < b.storage.numUnwritten .EC3

omit [MeasurementSpec α] in
/-- `EventBuffer::IsOverflown`, which clears the flag once no type is full. -/
def isOverflown (b : EventBuffer α) : Bool × EventBuffer α :=
  let overflow := b.overflow && b.storage.isAnyTypeFull
  (overflow, { b with overflow })

omit [MeasurementSpec α] in
/-- `EventBuffer::ClearWritten`. -/
def clearWritten (b : EventBuffer α) : EventBuffer α :=
  { b with storage := b.storage.clearWritten }

end EventBuffer

end OpenDnp3.Outstation
