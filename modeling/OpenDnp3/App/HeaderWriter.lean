import OpenDnp3.App.GroupVariation

/-!
# Writing object headers

`HeaderWriter` with the iterators that it hands out. What has been written is kept as a list of
headers, and the position in the buffer as the number of bytes that remain behind it. An iterator
completes its header when it goes out of scope; where the source then leaves the stop index
unwritten, it is `none`.
-/

namespace OpenDnp3.App

/-- The index types of the iterators, `openpal::UInt8` and `openpal::UInt16`. -/
inductive IndexType where
  | UInt8
  | UInt16
  deriving DecidableEq, Repr

namespace IndexType

/-- `SIZE` of the type. -/
def size : IndexType → ℕ
  | UInt8 => 1
  | UInt16 => 2

/-- `Max` of the type. -/
def max : IndexType → ℕ
  | UInt8 => 255
  | UInt16 => 65535

/-- A conversion to the type. -/
def cast (index : IndexType) (n : ℕ) : ℕ := n % (index.max + 1)

end IndexType

/-- `DNP3Serializer`: the object that it writes, and its size. The variation of an octet string is
its size. -/
structure DNP3Serializer where
  gv : GroupVariation
  size : ℕ
  deriving DecidableEq, Repr

/-- The serializer of an object of fixed size, `Inst` of the object. -/
def GroupVariation.inst (gv : GroupVariation) : DNP3Serializer := { gv, size := gv.size }

/-- An object header in a buffer, with its objects. -/
inductive ObjectHeader (α : Type*) where
  | range (serializer : DNP3Serializer) (index : IndexType) (start : ℕ) (stop : Option ℕ)
      (objects : List α)
  | bitfield (gv : GroupVariation) (index : IndexType) (start : ℕ) (stop : Option ℕ)
      (bytes : List UInt8)
  | prefixed (serializer : DNP3Serializer) (index : IndexType) (objects : List (ℕ × α))
  | commands (gv : GroupVariation) (index : IndexType) (objects : List (ℕ × List UInt8))
  | single (gv : GroupVariation) (index : IndexType) (object : List UInt8)
  deriving DecidableEq, Repr

/-- The points that a range header lists: the objects from its start index to its stop index. -/
def ObjectHeader.points {α : Type*} : ObjectHeader α → List (ℕ × α)
  | range _ _ start (some stop) objects => (List.range' start (stop + 1 - start)).zip objects
  | _ => []

/-- `HeaderWriter`. -/
structure HeaderWriter (α : Type*) where
  remaining : ℕ
  headers : List (ObjectHeader α) := []
  deriving DecidableEq, Repr

namespace HeaderWriter

variable {α : Type*}

/-- `HeaderWriter::WriteHeaderWithReserve`, whose header takes three bytes. -/
def writeHeaderWithReserve (w : HeaderWriter α) (reserve : ℕ) : Option (HeaderWriter α) :=
  if w.remaining < 3 + reserve then none else some { w with remaining := w.remaining - 3 }

/-- The position moves behind bytes that have been written. -/
def advance (w : HeaderWriter α) (n : ℕ) : HeaderWriter α := { w with remaining := w.remaining - n }

/-- Two advances are one by both numbers of bytes. -/
theorem advance_advance (w : HeaderWriter α) (m n : ℕ) :
    (w.advance m).advance n = w.advance (m + n) := by
  rw [advance, advance, advance, Nat.sub_sub]

/-- A header is complete. -/
def push (w : HeaderWriter α) (header : ObjectHeader α) : HeaderWriter α :=
  { w with headers := w.headers ++ [header] }

/-- `HeaderWriter::WriteSingleValue`. -/
def writeSingleValue (w : HeaderWriter α) (gv : GroupVariation) (index : IndexType)
    (object : List UInt8) : Option (HeaderWriter α) :=
  (w.writeHeaderWithReserve (index.size + gv.size)).map fun w =>
    (w.advance (index.size + gv.size)).push (.single gv index object)

end HeaderWriter

/-- `RangeWriteIterator`, without the position that it shares with the writer. -/
structure RangeWriteIterator (α : Type*) where
  serializer : DNP3Serializer
  index : IndexType
  start : ℕ
  objects : List α := []
  deriving DecidableEq, Repr

namespace RangeWriteIterator

variable {α : Type*}

/-- `HeaderWriter::IterateOverRange`. An iterator that is not valid is `none`. -/
def iterateOverRange (w : HeaderWriter α) (serializer : DNP3Serializer) (index : IndexType)
    (start : ℕ) : HeaderWriter α × Option (RangeWriteIterator α) :=
  match w.writeHeaderWithReserve (2 * index.size + serializer.size) with
  | none => (w, none)
  | some w =>
    if 2 * index.size ≤ w.remaining then
      (w.advance (2 * index.size), some { serializer, index, start := index.cast start })
    else (w, none)

/-- `RangeWriteIterator::Write` of a valid iterator. -/
def write (iterator : RangeWriteIterator α) (w : HeaderWriter α) (value : α) :
    Option (HeaderWriter α × RangeWriteIterator α) :=
  if iterator.serializer.size ≤ w.remaining ∧ iterator.objects.length ≤ iterator.index.max then
    some (w.advance iterator.serializer.size,
      { iterator with objects := iterator.objects ++ [value] })
  else none

/-- `RangeWriteIterator::~RangeWriteIterator`, with the header that it leaves. -/
def finish (iterator : RangeWriteIterator α) : ObjectHeader α :=
  .range iterator.serializer iterator.index iterator.start
    (if iterator.objects.isEmpty then none
      else some (iterator.index.cast (iterator.start + iterator.objects.length - 1)))
    iterator.objects

end RangeWriteIterator

/-- `BitfieldRangeWriteIterator`: the number of bits is kept in the index type. -/
structure BitfieldRangeWriteIterator where
  gv : GroupVariation
  index : IndexType
  start : ℕ
  count : ℕ := 0
  maxCount : ℕ
  bytes : List UInt8 := []
  deriving DecidableEq, Repr

namespace BitfieldRangeWriteIterator

variable {α : Type*}

/-- `HeaderWriter::IterateOverSingleBitfield`. -/
def iterateOverSingleBitfield (w : HeaderWriter α) (gv : GroupVariation) (index : IndexType)
    (start : ℕ) : HeaderWriter α × Option BitfieldRangeWriteIterator :=
  match w.writeHeaderWithReserve (2 * index.size + 1) with
  | none => (w, none)
  | some w =>
    let w := w.advance (2 * index.size)
    (w, some { gv, index, start := index.cast start, maxCount := w.remaining * 8 })

/-- `BitfieldRangeWriteIterator::Write` of a valid iterator. -/
def write (iterator : BitfieldRangeWriteIterator) (value : Bool) :
    Option BitfieldRangeWriteIterator :=
  if iterator.count < iterator.maxCount then
    let byte := iterator.count / 8
    let bit := iterator.count % 8
    -- The first bit of a byte sets it to 0, also where the count has come round to it again.
    let bytes := if bit = 0 then
        if byte < iterator.bytes.length then iterator.bytes.set byte 0 else iterator.bytes ++ [0]
      else iterator.bytes
    let bytes := if value then
        bytes.set byte (bytes.getD byte 0 ||| UInt8.ofNat (1 <<< bit)) else bytes
    some { iterator with count := iterator.index.cast (iterator.count + 1), bytes }
  else none

/-- `BitfieldRangeWriteIterator::~BitfieldRangeWriteIterator`. -/
def finish (iterator : BitfieldRangeWriteIterator) (w : HeaderWriter α) : HeaderWriter α :=
  if iterator.count = 0 then
    w.push (.bitfield iterator.gv iterator.index iterator.start none [])
  else
    let num := (iterator.count + 7) / 8
    (w.advance num).push (.bitfield iterator.gv iterator.index iterator.start
      (some (iterator.index.cast (iterator.start + iterator.count - 1))) (iterator.bytes.take num))

end BitfieldRangeWriteIterator

/-- `PrefixedWriteIterator`. -/
structure PrefixedWriteIterator (α : Type*) where
  serializer : DNP3Serializer
  index : IndexType
  objects : List (ℕ × α) := []
  deriving DecidableEq, Repr

namespace PrefixedWriteIterator

variable {α : Type*}

/-- `HeaderWriter::IterateOverCountWithPrefix`. -/
def iterateOverCountWithPrefix (w : HeaderWriter α) (serializer : DNP3Serializer)
    (index : IndexType) : HeaderWriter α × Option (PrefixedWriteIterator α) :=
  match w.writeHeaderWithReserve (2 * index.size + serializer.size) with
  | none => (w, none)
  | some w =>
    if index.size ≤ w.remaining then (w.advance index.size, some { serializer, index })
    else (w, none)

/-- `HeaderWriter::IterateOverCountWithPrefixAndCTO`. Where there is no space for a value behind the
common time, the writer rolls back to its mark. -/
def iterateOverCountWithPrefixAndCTO (w : HeaderWriter α) (serializer : DNP3Serializer)
    (index : IndexType) (cto : GroupVariation) (time : List UInt8) :
    HeaderWriter α × Option (PrefixedWriteIterator α) :=
  match w.writeSingleValue cto .UInt8 time with
  | none => (w, none)
  | some w' =>
    match iterateOverCountWithPrefix w' serializer index with
    | (w', some iterator) => (w', some iterator)
    | (_, none) => (w, none)

/-- `PrefixedWriteIterator::Write` of a valid iterator. -/
def write (iterator : PrefixedWriteIterator α) (w : HeaderWriter α) (value : α) (index : ℕ) :
    Option (HeaderWriter α × PrefixedWriteIterator α) :=
  if iterator.serializer.size + iterator.index.size ≤ w.remaining then
    some (w.advance (iterator.serializer.size + iterator.index.size),
      { iterator with objects := iterator.objects ++ [(iterator.index.cast index, value)] })
  else none

/-- `PrefixedWriteIterator::~PrefixedWriteIterator`, with the header that it leaves. -/
def finish (iterator : PrefixedWriteIterator α) : ObjectHeader α :=
  .prefixed iterator.serializer iterator.index iterator.objects

end PrefixedWriteIterator

end OpenDnp3.App
