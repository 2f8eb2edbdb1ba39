import OpenDnp3.App.ParserSpec

/-!
# The parser with its reads and sizes checked

The parser once more, with every condition that its code relies on and does not test: reads that do
not look at the size of the buffer, objects whose `Read` may come up short, the assertions of the
bit reader, and sizes and indices of a fixed width.
-/

namespace OpenDnp3.App

/-- The bytes that the fields of an object take, in the order of the `Parse::Many` of its `Read`. -/
def GroupVariation.fields : GroupVariation → List ℕ
  | Group1Var2 | Group2Var1 | Group3Var2 | Group4Var1 | Group10Var2 | Group11Var1
  | Group13Var1 => [1]
  | Group12Var1 => [1, 1, 4, 4, 1]
  | Group2Var3 | Group4Var3 | Group20Var2 | Group21Var2 | Group22Var2 | Group23Var2
  | Group30Var2 | Group32Var2 | Group40Var2 | Group42Var2 | Group43Var2 => [1, 2]
  | Group121Var1 | Group122Var1 => [1, 2, 4]
  | Group122Var2 => [1, 2, 4, 6]
  | Group21Var6 | Group22Var6 | Group23Var6 | Group32Var4 | Group42Var4 | Group43Var4 => [1, 2, 6]
  | Group20Var1 | Group21Var1 | Group22Var1 | Group23Var1 | Group30Var1 | Group30Var5
  | Group32Var1 | Group32Var5 | Group40Var1 | Group40Var3 | Group42Var1 | Group42Var5
  | Group43Var1 | Group43Var5 => [1, 4]
  | Group21Var5 | Group22Var5 | Group23Var5 | Group32Var3 | Group32Var7 | Group42Var3
  | Group42Var7 | Group43Var3 | Group43Var7 => [1, 4, 6]
  | Group2Var2 | Group4Var2 | Group11Var2 | Group13Var2 => [1, 6]
  | Group30Var6 | Group32Var6 | Group40Var4 | Group42Var6 | Group43Var6 => [1, 8]
  | Group32Var8 | Group42Var8 | Group43Var8 => [1, 8, 6]
  | Group20Var6 | Group21Var10 | Group30Var4 | Group52Var1 | Group52Var2 | Group120Var4 => [2]
  | Group41Var2 => [2, 1]
  | Group20Var5 | Group21Var9 | Group30Var3 => [4]
  | Group41Var1 | Group41Var3 => [4, 1]
  | Group120Var3 => [4, 2]
  | Group50Var1 | Group50Var3 | Group51Var1 | Group51Var2 => [6]
  | Group50Var4 => [6, 4, 1]
  | Group41Var4 => [8, 1]
  | _ => []

/-- The fields of an object take as many bytes as its `Size` says. -/
theorem GroupVariation.sum_fields (gv : GroupVariation) : gv.fields.sum = gv.size := by
  cases gv <;> rfl

/-- What the parser relies on not to happen. -/
inductive Fault where
  /-- A read beyond the buffer, or an object that is read short. -/
  | shortRead
  /-- `assert` of `GetBit` or `GetDoubleBit`. -/
  | assertion
  /-- A size that does not fit into a `uint32_t`. -/
  | size
  /-- An index that does not fit into a `uint16_t`. -/
  | index
  /-- A header that takes less than three bytes. -/
  | progress
  deriving DecidableEq, Repr

namespace Checked

/-- A size that is computed in a `uint32_t`. -/
def uint32 (size : ℕ) : Except Fault ℕ := if size < 2 ^ 32 then .ok size else .error .size

/-- The index of `WithIndex`, which is a `uint16_t`. -/
def uint16 (index : ℕ) : Except Fault ℕ := if index < 2 ^ 16 then .ok index else .error .index

/-! ## Reads -/

/-- `ReadBuffer` of a serializer, or `Take` with `Advance`. -/
def readBuffer (size : ℕ) (buffer : List UInt8) : Except Fault (List UInt8 × List UInt8) :=
  if size ≤ buffer.length then .ok (buffer.take size, buffer.drop size) else .error .shortRead

/-- `Parse::Many`. -/
def many : List ℕ → List UInt8 → Except Fault (List UInt8 × List UInt8)
  | [], buffer => .ok ([], buffer)
  | field :: fields, buffer => do
    let (bytes, buffer) ← readBuffer field buffer
    let (more, buffer) ← many fields buffer
    .ok (bytes ++ more, buffer)

/-- `NumParser::ReadNum`. -/
def readNum (p : NumParser) (buffer : List UInt8) : Except Fault (ℕ × List UInt8) := do
  let (bytes, buffer) ← readBuffer p.numBytes buffer
  .ok ((p.readNum bytes).1, buffer)

/-- `NumParser::ParseCount`. -/
def parseCount (p : NumParser) (buffer : List UInt8) :
    Except Fault (Except ParseResult (ℕ × List UInt8)) :=
  if buffer.length < p.numBytes then .ok (.error .NOT_ENOUGH_DATA_FOR_RANGE)
  else do
    let (count, buffer) ← readNum p buffer
    .ok (if count = 0 then .error .COUNT_OF_ZERO else .ok (count, buffer))

/-- `NumParser::ParseRange`. -/
def parseRange (p : NumParser) (buffer : List UInt8) :
    Except Fault (Except ParseResult (Range × List UInt8)) :=
  if buffer.length < 2 * p.numBytes then .ok (.error .NOT_ENOUGH_DATA_FOR_RANGE)
  else do
    let (start, buffer) ← readNum p buffer
    let (stop, buffer) ← readNum p buffer
    let range : Range := { start, stop }
    .ok (if range.isValid then .ok (range, buffer) else .error .BAD_START_STOP)

/-- `BufferedCollection::Foreach`. -/
def foreach {α : Type} (read : List UInt8 → ℕ → Except Fault (α × List UInt8)) (pos : ℕ) :
    ℕ → List UInt8 → Except Fault (List α)
  | 0, _ => .ok []
  | count + 1, buffer => do
    let (value, buffer) ← read buffer pos
    let values ← foreach read (pos + 1) count buffer
    .ok (value :: values)

/-- `GetBit`. -/
def getBit (buffer : List UInt8) (position : ℕ) : Except Fault Bool :=
  if position / 8 < buffer.length then .ok (App.getBit buffer position) else .error .assertion

/-- `GetDoubleBit`. -/
def getDoubleBit (buffer : List UInt8) (index : ℕ) : Except Fault DoubleBit :=
  if index / 4 < buffer.length then .ok (App.getDoubleBit buffer index) else .error .assertion

/-- `Read` of an object with these fields. An octet string is one field. -/
def readObject (fields : List ℕ) (buffer : List UInt8) : Except Fault (Value × List UInt8) := do
  let (bytes, buffer) ← many fields buffer
  .ok (.object bytes, buffer)

/-- The read functions of the range collections with fixed-size objects. -/
def readAtStart (start : ℕ) (fields : List ℕ) (buffer : List UInt8) (pos : ℕ) :
    Except Fault (Indexed Value × List UInt8) := do
  let (value, buffer) ← readObject fields buffer
  let index ← uint16 (start + pos)
  .ok ({ value, index }, buffer)

/-- The read function of a collection of bits. -/
def readBit (start : ℕ) (buffer : List UInt8) (pos : ℕ) :
    Except Fault (Indexed Value × List UInt8) := do
  let value ← getBit buffer pos
  let index ← uint16 (start + pos)
  .ok ({ value := .bit value, index }, buffer)

/-- The read function of a collection of double bits. -/
def readDoubleBit (start : ℕ) (buffer : List UInt8) (pos : ℕ) :
    Except Fault (Indexed Value × List UInt8) := do
  let value ← getDoubleBit buffer pos
  let index ← uint16 (start + pos)
  .ok ({ value := .doubleBit value, index }, buffer)

/-- The read functions of the index-prefixed collections. -/
def readPrefixed (numparser : NumParser) (fields : List ℕ) (buffer : List UInt8) (_pos : ℕ) :
    Except Fault (Indexed Value × List UInt8) := do
  let (index, buffer) ← readNum numparser buffer
  let (value, buffer) ← readObject fields buffer
  .ok ({ value, index }, buffer)

/-! ## Object parsers -/

/-- A count, range or index parser. -/
structure ObjectParser where
  requiredSize : Except Fault ℕ
  call : List UInt8 → Except Fault HeaderCall

variable {σ : Type} (pHandler pWhiteList : Option (IAPDUHandler σ))

/-- `Process`, with the values that the handler takes from the bytes of the header. -/
def ObjectParser.process (p : ObjectParser) (buffer : List UInt8) (s : Handled σ) :
    Except Fault (Outcome σ) := do
  let requiredSize ← p.requiredSize
  if buffer.length < requiredSize then .ok ⟨.NOT_ENOUGH_DATA_FOR_OBJECTS, buffer, s⟩
  else
    match pHandler with
    | none => .ok ⟨.OK, buffer.drop requiredSize, s⟩
    | some handler =>
      let call ← p.call (buffer.take requiredSize)
      .ok ⟨.OK, buffer.drop requiredSize, invoke (some handler) call s⟩

namespace CountParser

/-- `CountParser::From` with `InvokeCountOf`. -/
def from' (record : HeaderRecord) (count : ℕ) (fields : List ℕ) : ObjectParser where
  requiredSize := uint32 (count * fields.sum)
  call buffer := do
    let values ← foreach (fun b _ => readObject fields b) 0 count buffer
    .ok (.countValues record count values)

/-- `CountParser::ParseCountOfObjects`. -/
def parseCountOfObjects (record : HeaderRecord) (count : ℕ) (buffer : List UInt8)
    (s : Handled σ) : Except Fault (Outcome σ) :=
  if App.CountParser.supports record.enumeration then
    (from' record count record.enumeration.fields).process pHandler buffer s
  else .ok ⟨.INVALID_OBJECT_QUALIFIER, buffer, s⟩

/-- `CountParser::ParseHeader`. -/
def parseHeader (numparser : NumParser) (settings : ParserSettings) (record : HeaderRecord)
    (buffer : List UInt8) (s : Handled σ) : Except Fault (Outcome σ) := do
  match ← parseCount numparser buffer with
  | .error result => .ok ⟨result, buffer, s⟩
  | .ok (count, buffer) =>
    if settings.expectContents then parseCountOfObjects pHandler record count buffer s
    else .ok ⟨.OK, buffer, invoke pHandler (.count record count) s⟩

end CountParser

namespace RangeParser

/-- `RangeParser::FromFixedSize` and `FromFixedSizeType`. -/
def fromFixedSize (record : HeaderRecord) (range : Range) (fields : List ℕ) : ObjectParser where
  requiredSize := do
    let count ← uint32 range.count
    uint32 (count * fields.sum)
  call buffer := do
    let values ← foreach (readAtStart range.start fields) 0 range.count buffer
    .ok (.rangeValues record range values)

/-- `RangeParser::FromBitfieldType`. -/
def fromBitfieldType (record : HeaderRecord) (range : Range) : ObjectParser where
  requiredSize := do
    let count ← uint32 range.count
    uint32 (numBytesInBits count)
  call buffer := do
    let values ← foreach (readBit range.start) 0 range.count buffer
    .ok (.rangeValues record range values)

/-- `RangeParser::FromDoubleBitfieldType`. -/
def fromDoubleBitfieldType (record : HeaderRecord) (range : Range) : ObjectParser where
  requiredSize := do
    let count ← uint32 range.count
    uint32 (numBytesInDoubleBits count)
  call buffer := do
    let values ← foreach (readDoubleBit range.start) 0 range.count buffer
    .ok (.rangeValues record range values)

/-- The parsers of the switch of `RangeParser::ParseRangeOfObjects`. -/
def select (record : HeaderRecord) (range : Range) : Option ObjectParser :=
  match record.enumeration with
  | .Group1Var1 | .Group10Var1 | .Group80Var1 => some (fromBitfieldType record range)
  | .Group3Var1 => some (fromDoubleBitfieldType record range)
  | .Group1Var2 | .Group3Var2 | .Group10Var2
  | .Group20Var1 | .Group20Var2 | .Group20Var5 | .Group20Var6
  | .Group21Var1 | .Group21Var2 | .Group21Var5 | .Group21Var6 | .Group21Var9 | .Group21Var10
  | .Group30Var1 | .Group30Var2 | .Group30Var3 | .Group30Var4 | .Group30Var5 | .Group30Var6
  | .Group40Var1 | .Group40Var2 | .Group40Var3 | .Group40Var4
  | .Group50Var4 | .Group121Var1 =>
    some (fromFixedSize record range record.enumeration.fields)
  | _ => none

/-- `RangeParser::ParseRangeOfOctetData`. -/
def parseRangeOfOctetData (record : HeaderRecord) (range : Range) (buffer : List UInt8)
    (s : Handled σ) : Except Fault (Outcome σ) :=
  if 0 < record.variation then
    (fromFixedSize record range [record.variation.toNat]).process pHandler buffer s
  else .ok ⟨.INVALID_OBJECT, buffer, s⟩

/-- `RangeParser::ParseRangeOfObjects`. -/
def parseRangeOfObjects (record : HeaderRecord) (range : Range) (buffer : List UInt8)
    (s : Handled σ) : Except Fault (Outcome σ) :=
  if record.enumeration = .Group110Var0 then parseRangeOfOctetData pHandler record range buffer s
  else
    match select record range with
    | some parser => parser.process pHandler buffer s
    | none => .ok ⟨.INVALID_OBJECT_QUALIFIER, buffer, s⟩

/-- `RangeParser::ParseHeader`. -/
def parseHeader (numparser : NumParser) (settings : ParserSettings) (record : HeaderRecord)
    (buffer : List UInt8) (s : Handled σ) : Except Fault (Outcome σ) := do
  match ← parseRange numparser buffer with
  | .error result => .ok ⟨result, buffer, s⟩
  | .ok (range, buffer) =>
    if settings.expectContents then parseRangeOfObjects pHandler record range buffer s
    else .ok ⟨.OK, buffer, invoke pHandler (.range record range) s⟩

end RangeParser

namespace CountIndexParser

/-- `CountIndexParser::From` and `FromType`. -/
def from' (record : HeaderRecord) (numparser : NumParser) (count : ℕ) (fields : List ℕ) :
    ObjectParser where
  requiredSize := do
    let size ← uint32 (fields.sum + numparser.numBytes)
    uint32 (count * size)
  call buffer := do
    let values ← foreach (readPrefixed numparser fields) 0 count buffer
    .ok (.prefixValues record count values)

/-- `CountIndexParser::ParseIndexPrefixedOctetData`. -/
def parseIndexPrefixedOctetData (record : HeaderRecord) (numparser : NumParser) (count : ℕ)
    (buffer : List UInt8) (s : Handled σ) : Except Fault (Outcome σ) :=
  if record.variation = 0 then .ok ⟨.INVALID_OBJECT, buffer, s⟩
  else (from' record numparser count [record.variation.toNat]).process pHandler buffer s

/-- `CountIndexParser::ParseCountOfObjects`. -/
def parseCountOfObjects (record : HeaderRecord) (numparser : NumParser) (count : ℕ)
    (buffer : List UInt8) (s : Handled σ) : Except Fault (Outcome σ) :=
  if record.enumeration = .Group111Var0 then
    parseIndexPrefixedOctetData pHandler record numparser count buffer s
  else if App.CountIndexParser.supports record.enumeration then
    (from' record numparser count record.enumeration.fields).process pHandler buffer s
  else .ok ⟨.INVALID_OBJECT_QUALIFIER, buffer, s⟩

/-- `CountIndexParser::ParseHeader`. -/
def parseHeader (numparser : NumParser) (record : HeaderRecord) (buffer : List UInt8)
    (s : Handled σ) : Except Fault (Outcome σ) := do
  match ← parseCount numparser buffer with
  | .error result => .ok ⟨result, buffer, s⟩
  | .ok (count, buffer) => parseCountOfObjects pHandler record numparser count buffer s

end CountIndexParser

namespace FreeFormatParser

open App.FreeFormatParser (Layout layout readFields)

/-- The lengths that `PrefixFields::Read` reads. -/
def readLengths : ℕ → List UInt8 → Except Fault (List ℕ × List UInt8)
  | 0, input => .ok ([], input)
  | n + 1, input => do
    let (bytes, input) ← readBuffer 2 input
    let (lengths, input) ← readLengths n input
    .ok ((readUInt16 bytes).toNat :: lengths, input)

/-- `PrefixFields::Read`. -/
def readPrefixFields (n : ℕ) (input : List UInt8) :
    Except Fault (Option (List (List UInt8) × List UInt8)) :=
  if input.length < 2 * n then .ok none
  else do
    let (lengths, input) ← readLengths n input
    let sum ← uint32 lengths.sum
    .ok (if input.length < sum then none else some (readFields lengths input, input.drop sum))

/-- `Read` of an object of group 120. -/
def read (layout : Layout) (object : List UInt8) : Except Fault (Option FreeFormatObject) :=
  if object.length < layout.minSize then .ok none
  else do
    let (fixedFields, object) ← readBuffer layout.fixedSize object
    match ← readPrefixFields layout.numPrefix object with
    | none => .ok none
    | some (prefixFields, remainder) =>
      .ok (if !layout.hasRemainder && !remainder.isEmpty then none
        else some { fixedFields, prefixFields, remainder })

/-- `FreeFormatParser::ParseFreeFormat` with `ParseAny`. -/
def parseFreeFormat (layout : Layout) (record : HeaderRecord) (count : ℕ)
    (object buffer : List UInt8) (s : Handled σ) : Except Fault (Outcome σ) := do
  match ← read layout object with
  | some value => .ok ⟨.OK, buffer, invoke pHandler (.freeFormat record count value object) s⟩
  | none => .ok ⟨.NOT_ENOUGH_DATA_FOR_OBJECTS, buffer, s⟩

/-- `FreeFormatParser::ParseHeader`. -/
def parseHeader (record : HeaderRecord) (buffer : List UInt8) (s : Handled σ) :
    Except Fault (Outcome σ) :=
  if buffer.length < 3 then .ok ⟨.NOT_ENOUGH_DATA_FOR_HEADER, buffer, s⟩
  else do
    let (count, buffer) ← readBuffer 1 buffer
    let (size, buffer) ← readBuffer 2 buffer
    let count := (count.getD 0 0).toNat
    let size := (readUInt16 size).toNat
    if count ≠ 1 then .ok ⟨.UNREASONABLE_OBJECT_COUNT, buffer, s⟩
    else if buffer.length < size then .ok ⟨.NOT_ENOUGH_DATA_FOR_OBJECTS, buffer, s⟩
    else
      match layout record.enumeration with
      | some layout =>
        parseFreeFormat pHandler layout record count (buffer.take size) (buffer.drop size) s
      | none => .ok ⟨.INVALID_OBJECT_QUALIFIER, buffer.drop size, s⟩

end FreeFormatParser

/-! ## Fragments -/

namespace APDUParser

/-- `APDUParser::ParseQualifier`. -/
def parseQualifier (settings : ParserSettings) (record : HeaderRecord) (buffer : List UInt8)
    (s : Handled σ) : Except Fault (Outcome σ) :=
  match record.getQualifierCode with
  | .ALL_OBJECTS => .ok (App.APDUParser.handleAllObjectsHeader pHandler record buffer s)
  | .UINT8_CNT => CountParser.parseHeader pHandler .oneByte settings record buffer s
  | .UINT16_CNT => CountParser.parseHeader pHandler .twoByte settings record buffer s
  | .UINT8_START_STOP => RangeParser.parseHeader pHandler .oneByte settings record buffer s
  | .UINT16_START_STOP => RangeParser.parseHeader pHandler .twoByte settings record buffer s
  | .UINT8_CNT_UINT8_INDEX => CountIndexParser.parseHeader pHandler .oneByte record buffer s
  | .UINT16_CNT_UINT16_INDEX => CountIndexParser.parseHeader pHandler .twoByte record buffer s
  | .UINT16_FREE_FORMAT => FreeFormatParser.parseHeader pHandler record buffer s
  | .UNDEFINED => .ok ⟨.UNKNOWN_QUALIFIER, buffer, s⟩

/-- `APDUParser::ParseHeader`, with `ObjectHeaderParser::ParseObjectHeader`. -/
def parseHeader (settings : ParserSettings) (count : ℕ) (buffer : List UInt8) (s : Handled σ) :
    Except Fault (Outcome σ) :=
  if buffer.length < 3 then .ok ⟨.NOT_ENOUGH_DATA_FOR_HEADER, buffer, s⟩
  else do
    let (group, buffer) ← readBuffer 1 buffer
    let (variation, buffer) ← readBuffer 1 buffer
    let (qualifier, buffer) ← readBuffer 1 buffer
    let record : HeaderRecord :=
      { GroupVariationRecord.getRecord (group.getD 0 0) (variation.getD 0 0) with
        qualifier := qualifier.getD 0 0, headerIndex := count }
    if record.enumeration = .UNKNOWN then .ok ⟨.UNKNOWN_OBJECT, buffer, s⟩
    else
      let (allowed, s) := App.APDUParser.isAllowed pWhiteList count record s
      if allowed then parseQualifier pHandler settings record buffer s
      else .ok ⟨.NOT_ON_WHITELIST, buffer, s⟩

/-- The loop of `APDUParser::ParseSinglePass`, in which every header has to take three bytes. -/
def parseHeaders (settings : ParserSettings) :
    ℕ → ℕ → List UInt8 → Handled σ → Except Fault (ParseResult × Handled σ)
  | _, _, [], s => .ok (.OK, s)
  | 0, _, _ :: _, _ => .error .progress
  | rounds + 1, count, byte :: bytes, s => do
    let outcome ← parseHeader pHandler pWhiteList settings count (byte :: bytes) s
    if outcome.result = .OK then
      if outcome.buffer.length + 3 ≤ (byte :: bytes).length then
        parseHeaders settings rounds (count + 1) outcome.buffer outcome.handled
      else .error .progress
    else .ok (outcome.result, outcome.handled)

/-- `APDUParser::ParseSinglePass`. There is one round for every three bytes, and one for what
remains. -/
def parseSinglePass (settings : ParserSettings) (buffer : List UInt8) (s : Handled σ) :
    Except Fault (ParseResult × Handled σ) :=
  parseHeaders pHandler pWhiteList settings (buffer.length / 3 + 1) 0 buffer s

/-- `APDUParser::Parse`. -/
def parse (handler : IAPDUHandler σ) (settings : ParserSettings) (buffer : List UInt8) (state : σ) :
    Except Fault (ParseResult × Handled σ) := do
  let (result, s) ← parseSinglePass none (some handler) settings buffer { state }
  if result = .OK then parseSinglePass (some handler) none settings buffer s else .ok (result, s)

end APDUParser

end Checked

end OpenDnp3.App
