import OpenDnp3.App.GroupVariation

/-!
# The application layer parser

The parsers of `app/parsing`: the object headers of a fragment are read twice, first against the
white-list and then with the handler.
-/

namespace OpenDnp3.App

/-- `ParseResult`. -/
inductive ParseResult where
  | OK
  | NOT_ON_WHITELIST
  | NOT_ENOUGH_DATA_FOR_HEADER
  | NOT_ENOUGH_DATA_FOR_RANGE
  | NOT_ENOUGH_DATA_FOR_OBJECTS
  | UNREASONABLE_OBJECT_COUNT
  | UNKNOWN_OBJECT
  | UNKNOWN_QUALIFIER
  | INVALID_OBJECT_QUALIFIER
  | INVALID_OBJECT
  | BAD_START_STOP
  | COUNT_OF_ZERO
  deriving DecidableEq, Repr

/-- `ParserSettings`. The log filters have no effect on parsing. -/
structure ParserSettings where
  expectContents : Bool := true
  deriving DecidableEq, Repr

/-- `ParserSettings::NoContents`. -/
def ParserSettings.noContents : ParserSettings := { expectContents := false }

/-- `DoubleBit`. -/
inductive DoubleBit where
  | INTERMEDIATE
  | DETERMINED_OFF
  | DETERMINED_ON
  | INDETERMINATE
  deriving DecidableEq, Repr

/-- `DoubleBitFromType`. -/
def DoubleBit.fromType : ℕ → DoubleBit
  | 0x0 => INTERMEDIATE
  | 0x1 => DETERMINED_OFF
  | 0x2 => DETERMINED_ON
  | _ => INDETERMINATE

/-- One value of a collection: the bytes of an object or octet string, or an element of a
bitfield. -/
inductive Value where
  | object (bytes : List UInt8)
  | bit (value : Bool)
  | doubleBit (value : DoubleBit)
  deriving DecidableEq, Repr

/-- `Indexed`. -/
structure Indexed (α : Type*) where
  value : α
  index : ℕ
  deriving DecidableEq, Repr

/-- A variable-size object of `objects/Group120.h`: the bytes of its fixed-size fields, its fields
with a length, and what remains. -/
structure FreeFormatObject where
  fixedFields : List UInt8
  prefixFields : List (List UInt8)
  remainder : List UInt8
  deriving DecidableEq, Repr

/-- The overloads of `IAPDUHandler::OnHeader` with their arguments. -/
inductive HeaderCall where
  | allObjects (record : HeaderRecord)
  | count (record : HeaderRecord) (count : ℕ)
  | range (record : HeaderRecord) (range : Range)
  | freeFormat (record : HeaderRecord) (count : ℕ) (value : FreeFormatObject) (object : List UInt8)
  | countValues (record : HeaderRecord) (count : ℕ) (values : List Value)
  | rangeValues (record : HeaderRecord) (range : Range) (values : List (Indexed Value))
  | prefixValues (record : HeaderRecord) (count : ℕ) (values : List (Indexed Value))
  deriving DecidableEq, Repr

/-- The record of the header that the handler is called with. -/
def HeaderCall.record : HeaderCall → HeaderRecord
  | allObjects record | count record _ | range record _ | freeFormat record _ _ _
  | countValues record _ _ | rangeValues record _ _ | prefixValues record _ _ => record

/-- `IAPDUHandler`, with `IWhiteList::IsAllowed`, over the state of the object. -/
structure IAPDUHandler (σ : Type*) where
  isAllowed : σ → ℕ → GroupVariation → QualifierCode → Bool × σ
  onHeader : σ → HeaderCall → σ

/-- The state of the handler, with every `OnHeader` call that it has received. -/
structure Handled (σ : Type*) where
  state : σ
  calls : List HeaderCall := []
  deriving DecidableEq, Repr

/-- What a parse function returns: its result, the buffer as it leaves it, and the handler. -/
structure Outcome (σ : Type*) where
  result : ParseResult
  buffer : List UInt8
  handled : Handled σ
  deriving DecidableEq, Repr

variable {σ : Type*} (pHandler pWhiteList : Option (IAPDUHandler σ))

/-- `if (pHandler) pHandler->OnHeader(...)`. -/
def invoke (call : HeaderCall) (s : Handled σ) : Handled σ :=
  match pHandler with
  | some handler => { state := handler.onHeader s.state call, calls := s.calls ++ [call] }
  | none => s

/-! ## Numbers -/

/-- `NumParser`. -/
inductive NumParser where
  | oneByte
  | twoByte
  deriving DecidableEq, Repr

namespace NumParser

/-- `NumParser::NumBytes`. -/
def numBytes : NumParser → ℕ
  | oneByte => 1
  | twoByte => 2

/-- `NumParser::ReadNum`. -/
def readNum (p : NumParser) (buffer : List UInt8) : ℕ × List UInt8 :=
  match p with
  | oneByte => ((buffer.getD 0 0).toNat, buffer.drop 1)
  | twoByte => ((readUInt16 buffer).toNat, buffer.drop 2)

/-- `NumParser::ParseCount`. -/
def parseCount (p : NumParser) (buffer : List UInt8) : Except ParseResult (ℕ × List UInt8) :=
  if buffer.length < p.numBytes then .error .NOT_ENOUGH_DATA_FOR_RANGE
  else
    let (count, buffer) := p.readNum buffer
    if count = 0 then .error .COUNT_OF_ZERO else .ok (count, buffer)

/-- `NumParser::ParseRange`. -/
def parseRange (p : NumParser) (buffer : List UInt8) : Except ParseResult (Range × List UInt8) :=
  if buffer.length < 2 * p.numBytes then .error .NOT_ENOUGH_DATA_FOR_RANGE
  else
    let (start, buffer) := p.readNum buffer
    let (stop, buffer) := p.readNum buffer
    let range : Range := { start, stop }
    if range.isValid then .ok (range, buffer) else .error .BAD_START_STOP

end NumParser

/-! ## Collections -/

/-- `BufferedCollection::Foreach`: the values that the read function takes from the buffer, one
for each position from `pos` on. -/
def foreach {α : Type*} (read : List UInt8 → ℕ → α × List UInt8) (pos : ℕ) :
    ℕ → List UInt8 → List α
  | 0, _ => []
  | count + 1, buffer =>
    (read buffer pos).1 :: foreach read (pos + 1) count (read buffer pos).2

/-- `NumBytesInBits`. -/
def numBytesInBits (numBits : ℕ) : ℕ :=
  if numBits % 8 = 0 then numBits / 8 else numBits / 8 + 1

/-- `GetBit`. -/
def getBit (buffer : List UInt8) (position : ℕ) : Bool :=
  (buffer.getD (position / 8) 0).toNat &&& (1 <<< (position % 8)) ≠ 0

/-- `NumBytesInDoubleBits`. -/
def numBytesInDoubleBits (numBits : ℕ) : ℕ :=
  if numBits % 4 = 0 then numBits / 4 else numBits / 4 + 1

/-- `GetDoubleBit`. -/
def getDoubleBit (buffer : List UInt8) (index : ℕ) : DoubleBit :=
  DoubleBit.fromType (((buffer.getD (index / 4) 0).toNat >>> (2 * (index % 4))) &&& 0x03)

/-- `Read` of an object of `size` bytes. -/
def readObject (size : ℕ) (buffer : List UInt8) : Value × List UInt8 :=
  (.object (buffer.take size), buffer.drop size)

/-- The read functions of the range collections with fixed-size objects. -/
def readAtStart (start size : ℕ) (buffer : List UInt8) (pos : ℕ) : Indexed Value × List UInt8 :=
  let (value, rest) := readObject size buffer
  ({ value, index := start + pos }, rest)

/-- The read function of a collection of bits, which does not move the buffer. -/
def readBit (start : ℕ) (buffer : List UInt8) (pos : ℕ) : Indexed Value × List UInt8 :=
  ({ value := .bit (getBit buffer pos), index := start + pos }, buffer)

/-- The read function of a collection of double bits, which does not move the buffer. -/
def readDoubleBit (start : ℕ) (buffer : List UInt8) (pos : ℕ) : Indexed Value × List UInt8 :=
  ({ value := .doubleBit (getDoubleBit buffer pos), index := start + pos }, buffer)

/-- The read functions of the index-prefixed collections. -/
def readPrefixed (numparser : NumParser) (size : ℕ) (buffer : List UInt8) (_pos : ℕ) :
    Indexed Value × List UInt8 :=
  let (index, buffer) := numparser.readNum buffer
  let (value, rest) := readObject size buffer
  ({ value, index }, rest)

/-- A count, range or index parser: the bytes that its objects take and the call that they give.
-/
structure ObjectParser where
  requiredSize : ℕ
  call : List UInt8 → HeaderCall

/-- `Process` of `CountParser`, `RangeParser` and `CountIndexParser`. -/
def ObjectParser.process (p : ObjectParser) (buffer : List UInt8) (s : Handled σ) : Outcome σ :=
  if buffer.length < p.requiredSize then ⟨.NOT_ENOUGH_DATA_FOR_OBJECTS, buffer, s⟩
  else ⟨.OK, buffer.drop p.requiredSize, invoke pHandler (p.call buffer) s⟩

/-! ## Headers with a count -/

namespace CountParser

/-- `CountParser::From` with `InvokeCountOf`. -/
def from' (record : HeaderRecord) (count size : ℕ) : ObjectParser where
  requiredSize := count * size
  call buffer := .countValues record count (foreach (fun b _ => readObject size b) 0 count buffer)

/-- The objects of the switch of `CountParser::ParseCountOfObjects`. -/
def supports : GroupVariation → Bool
  | .Group50Var1 | .Group50Var3 | .Group51Var1 | .Group51Var2 | .Group52Var1 | .Group52Var2
  | .Group120Var3 | .Group120Var4 => true
  | _ => false

/-- `CountParser::ParseCountOfObjects`. -/
def parseCountOfObjects (record : HeaderRecord) (count : ℕ) (buffer : List UInt8)
    (s : Handled σ) : Outcome σ :=
  if supports record.enumeration then
    (from' record count record.enumeration.size).process pHandler buffer s
  else ⟨.INVALID_OBJECT_QUALIFIER, buffer, s⟩

/-- `CountParser::ParseHeader`. -/
def parseHeader (numparser : NumParser) (settings : ParserSettings) (record : HeaderRecord)
    (buffer : List UInt8) (s : Handled σ) : Outcome σ :=
  match numparser.parseCount buffer with
  | .error result => ⟨result, buffer, s⟩
  | .ok (count, buffer) =>
    if settings.expectContents then parseCountOfObjects pHandler record count buffer s
    else ⟨.OK, buffer, invoke pHandler (.count record count) s⟩

end CountParser

/-! ## Headers with a range -/

namespace RangeParser

/-- `RangeParser::FromFixedSize` and `FromFixedSizeType`. -/
def fromFixedSize (record : HeaderRecord) (range : Range) (size : ℕ) : ObjectParser where
  requiredSize := range.count * size
  call buffer :=
    .rangeValues record range (foreach (readAtStart range.start size) 0 range.count buffer)

/-- `RangeParser::FromBitfieldType`. -/
def fromBitfieldType (record : HeaderRecord) (range : Range) : ObjectParser where
  requiredSize := numBytesInBits range.count
  call buffer := .rangeValues record range (foreach (readBit range.start) 0 range.count buffer)

/-- `RangeParser::FromDoubleBitfieldType`. -/
def fromDoubleBitfieldType (record : HeaderRecord) (range : Range) : ObjectParser where
  requiredSize := numBytesInDoubleBits range.count
  call buffer :=
    .rangeValues record range (foreach (readDoubleBit range.start) 0 range.count buffer)

/-- The parsers of the switch of `RangeParser::ParseRangeOfObjects`. -/
def select (record : HeaderRecord) (range : Range) : Option ObjectParser :=
  match record.enumeration with
  | .Group1Var1 | .Group10Var1 | .Group80Var1 => some (fromBitfieldType record range)
  | .Group3Var1 => some (fromDoubleBitfieldType record range)
  | .Group1Var2 | .Group3Var2 | .Group10Var2
  | .Group20Var1 | .Group20Var2 | .Group20Var5 | .Group20Var6
  | .Group21Var1 | .Group21Var2 | .Group21Var5 | .Group21Var6 | .Group21Var9 | .Group21Var10
  | .Group30Var1 | .Group30Var2 | .Group30Var3 | .Group30Var4 | .Group30Var5 | .Group30Var6
  | .Group40Var1 | .Group40Var2 | .Group40Var3 | .Group40Var4
  | .Group50Var4 | .Group121Var1 =>
    some (fromFixedSize record range record.enumeration.size)
  | _ => none

/-- `RangeParser::ParseRangeOfOctetData`: the variation is the length of every string. -/
def parseRangeOfOctetData (record : HeaderRecord) (range : Range) (buffer : List UInt8)
    (s : Handled σ) : Outcome σ :=
  if 0 < record.variation then
    (fromFixedSize record range record.variation.toNat).process pHandler buffer s
  else ⟨.INVALID_OBJECT, buffer, s⟩

/-- `RangeParser::ParseRangeOfObjects`. -/
def parseRangeOfObjects (record : HeaderRecord) (range : Range) (buffer : List UInt8)
    (s : Handled σ) : Outcome σ :=
  if record.enumeration = .Group110Var0 then parseRangeOfOctetData pHandler record range buffer s
  else
    match select record range with
    | some parser => parser.process pHandler buffer s
    | none => ⟨.INVALID_OBJECT_QUALIFIER, buffer, s⟩

/-- `RangeParser::ParseHeader`. -/
def parseHeader (numparser : NumParser) (settings : ParserSettings) (record : HeaderRecord)
    (buffer : List UInt8) (s : Handled σ) : Outcome σ :=
  match numparser.parseRange buffer with
  | .error result => ⟨result, buffer, s⟩
  | .ok (range, buffer) =>
    if settings.expectContents then parseRangeOfObjects pHandler record range buffer s
    else ⟨.OK, buffer, invoke pHandler (.range record range) s⟩

end RangeParser

/-! ## Headers with a count and index prefixes -/

namespace CountIndexParser

/-- `CountIndexParser::From` and `FromType`. -/
def from' (record : HeaderRecord) (numparser : NumParser) (count size : ℕ) : ObjectParser where
  requiredSize := count * (size + numparser.numBytes)
  call buffer :=
    .prefixValues record count (foreach (readPrefixed numparser size) 0 count buffer)

/-- The objects of the switch of `CountIndexParser::ParseCountOfObjects`. -/
def supports : GroupVariation → Bool
  | .Group2Var1 | .Group2Var2 | .Group2Var3 | .Group4Var1 | .Group4Var2 | .Group4Var3
  | .Group11Var1 | .Group11Var2 | .Group12Var1 | .Group13Var1 | .Group13Var2
  | .Group22Var1 | .Group22Var2 | .Group22Var5 | .Group22Var6
  | .Group23Var1 | .Group23Var2 | .Group23Var5 | .Group23Var6
  | .Group32Var1 | .Group32Var2 | .Group32Var3 | .Group32Var4
  | .Group32Var5 | .Group32Var6 | .Group32Var7 | .Group32Var8
  | .Group41Var1 | .Group41Var2 | .Group41Var3 | .Group41Var4
  | .Group42Var1 | .Group42Var2 | .Group42Var3 | .Group42Var4
  | .Group42Var5 | .Group42Var6 | .Group42Var7 | .Group42Var8
  | .Group43Var1 | .Group43Var2 | .Group43Var3 | .Group43Var4
  | .Group43Var5 | .Group43Var6 | .Group43Var7 | .Group43Var8
  | .Group50Var4 | .Group122Var1 | .Group122Var2 => true
  | _ => false

/-- `CountIndexParser::ParseIndexPrefixedOctetData`. -/
def parseIndexPrefixedOctetData (record : HeaderRecord) (numparser : NumParser) (count : ℕ)
    (buffer : List UInt8) (s : Handled σ) : Outcome σ :=
  if record.variation = 0 then ⟨.INVALID_OBJECT, buffer, s⟩
  else (from' record numparser count record.variation.toNat).process pHandler buffer s

/-- `CountIndexParser::ParseCountOfObjects`. -/
def parseCountOfObjects (record : HeaderRecord) (numparser : NumParser) (count : ℕ)
    (buffer : List UInt8) (s : Handled σ) : Outcome σ :=
  if record.enumeration = .Group111Var0 then
    parseIndexPrefixedOctetData pHandler record numparser count buffer s
  else if supports record.enumeration then
    (from' record numparser count record.enumeration.size).process pHandler buffer s
  else ⟨.INVALID_OBJECT_QUALIFIER, buffer, s⟩

/-- `CountIndexParser::ParseHeader`, which does not look at the settings. -/
def parseHeader (numparser : NumParser) (record : HeaderRecord) (buffer : List UInt8)
    (s : Handled σ) : Outcome σ :=
  match numparser.parseCount buffer with
  | .error result => ⟨result, buffer, s⟩
  | .ok (count, buffer) => parseCountOfObjects pHandler record numparser count buffer s

end CountIndexParser

/-! ## Free format headers -/

namespace FreeFormatParser

/-- How an object of group 120 is laid out: the least size, the size of the fixed fields, the
number of fields with a length, and whether a remainder is allowed. -/
structure Layout where
  minSize : ℕ
  fixedSize : ℕ
  numPrefix : ℕ
  hasRemainder : Bool

/-- The objects of the switch of `FreeFormatParser::ParseHeader` with their `Read` functions. -/
def layout : GroupVariation → Option Layout
  | .Group120Var1 => some ⟨8, 8, 0, true⟩
  | .Group120Var2 => some ⟨6, 6, 0, true⟩
  | .Group120Var5 => some ⟨11, 9, 1, true⟩
  | .Group120Var6 => some ⟨6, 6, 0, true⟩
  | .Group120Var7 => some ⟨15, 15, 0, true⟩
  | .Group120Var8 => some ⟨2, 2, 0, true⟩
  | .Group120Var9 | .Group120Var14 | .Group120Var15 => some ⟨0, 0, 0, true⟩
  | .Group120Var10 => some ⟨16, 10, 3, false⟩
  | .Group120Var11 => some ⟨5, 1, 2, false⟩
  | .Group120Var12 | .Group120Var13 => some ⟨8, 6, 1, false⟩
  | _ => none

/-- The lengths that `PrefixFields::Read` reads. -/
def readLengths : ℕ → List UInt8 → List ℕ
  | 0, _ => []
  | n + 1, input => (readUInt16 input).toNat :: readLengths n (input.drop 2)

/-- `PrefixFields::ReadFields`. -/
def readFields : List ℕ → List UInt8 → List (List UInt8)
  | [], _ => []
  | length :: lengths, input => input.take length :: readFields lengths (input.drop length)

/-- `PrefixFields::Read`. -/
def readPrefixFields (n : ℕ) (input : List UInt8) : Option (List (List UInt8) × List UInt8) :=
  if input.length < 2 * n then none
  else
    let lengths := readLengths n input
    let input := input.drop (2 * n)
    if input.length < lengths.sum then none
    else some (readFields lengths input, input.drop lengths.sum)

/-- `Read` of an object of group 120. -/
def read (layout : Layout) (object : List UInt8) : Option FreeFormatObject :=
  if object.length < layout.minSize then none
  else
    match readPrefixFields layout.numPrefix (object.drop layout.fixedSize) with
    | none => none
    | some (prefixFields, remainder) =>
      -- Without a remainder field the object has to be fully consumed.
      if !layout.hasRemainder && !remainder.isEmpty then none
      else some { fixedFields := object.take layout.fixedSize, prefixFields, remainder }

/-- `FreeFormatParser::ParseFreeFormat` with `ParseAny`. -/
def parseFreeFormat (layout : Layout) (record : HeaderRecord) (count : ℕ)
    (object buffer : List UInt8) (s : Handled σ) : Outcome σ :=
  match read layout object with
  | some value => ⟨.OK, buffer, invoke pHandler (.freeFormat record count value object) s⟩
  | none => ⟨.NOT_ENOUGH_DATA_FOR_OBJECTS, buffer, s⟩

/-- `FreeFormatParser::ParseHeader`. -/
def parseHeader (record : HeaderRecord) (buffer : List UInt8) (s : Handled σ) : Outcome σ :=
  if buffer.length < 3 then ⟨.NOT_ENOUGH_DATA_FOR_HEADER, buffer, s⟩
  else
    let count := (buffer.getD 0 0).toNat
    let size := (readUInt16 (buffer.drop 1)).toNat
    let buffer := buffer.drop 3
    if count ≠ 1 then ⟨.UNREASONABLE_OBJECT_COUNT, buffer, s⟩
    else if buffer.length < size then ⟨.NOT_ENOUGH_DATA_FOR_OBJECTS, buffer, s⟩
    else
      match layout record.enumeration with
      | some layout =>
        parseFreeFormat pHandler layout record count (buffer.take size) (buffer.drop size) s
      | none => ⟨.INVALID_OBJECT_QUALIFIER, buffer.drop size, s⟩

end FreeFormatParser

/-! ## Fragments -/

namespace APDUParser

/-- `APDUParser::HandleAllObjectsHeader`. -/
def handleAllObjectsHeader (record : HeaderRecord) (buffer : List UInt8) (s : Handled σ) :
    Outcome σ :=
  ⟨.OK, buffer, invoke pHandler (.allObjects record) s⟩

/-- `APDUParser::ParseQualifier`. -/
def parseQualifier (settings : ParserSettings) (record : HeaderRecord) (buffer : List UInt8)
    (s : Handled σ) : Outcome σ :=
  match record.getQualifierCode with
  | .ALL_OBJECTS => handleAllObjectsHeader pHandler record buffer s
  | .UINT8_CNT => CountParser.parseHeader pHandler .oneByte settings record buffer s
  | .UINT16_CNT => CountParser.parseHeader pHandler .twoByte settings record buffer s
  | .UINT8_START_STOP => RangeParser.parseHeader pHandler .oneByte settings record buffer s
  | .UINT16_START_STOP => RangeParser.parseHeader pHandler .twoByte settings record buffer s
  | .UINT8_CNT_UINT8_INDEX => CountIndexParser.parseHeader pHandler .oneByte record buffer s
  | .UINT16_CNT_UINT16_INDEX => CountIndexParser.parseHeader pHandler .twoByte record buffer s
  | .UINT16_FREE_FORMAT => FreeFormatParser.parseHeader pHandler record buffer s
  | .UNDEFINED => ⟨.UNKNOWN_QUALIFIER, buffer, s⟩

/-- `pWhiteList && !pWhiteList->IsAllowed(...)`, negated. -/
def isAllowed (count : ℕ) (record : HeaderRecord) (s : Handled σ) : Bool × Handled σ :=
  match pWhiteList with
  | none => (true, s)
  | some whiteList =>
    let (allowed, state) :=
      whiteList.isAllowed s.state count record.enumeration record.getQualifierCode
    (allowed, { s with state })

/-- `APDUParser::ParseHeader`. -/
def parseHeader (settings : ParserSettings) (count : ℕ) (buffer : List UInt8) (s : Handled σ) :
    Outcome σ :=
  match buffer with
  | group :: variation :: qualifier :: buffer =>
    let record : HeaderRecord :=
      { GroupVariationRecord.getRecord group variation with qualifier, headerIndex := count }
    if record.enumeration = .UNKNOWN then ⟨.UNKNOWN_OBJECT, buffer, s⟩
    else
      let (allowed, s) := isAllowed pWhiteList count record s
      if allowed then parseQualifier pHandler settings record buffer s
      else ⟨.NOT_ON_WHITELIST, buffer, s⟩
  | buffer => ⟨.NOT_ENOUGH_DATA_FOR_HEADER, buffer, s⟩

/-- The loop of `APDUParser::ParseSinglePass`. A header takes three bytes or more, so the length
of the buffer bounds the number of rounds. -/
def parseHeaders (settings : ParserSettings) :
    ℕ → ℕ → List UInt8 → Handled σ → ParseResult × Handled σ
  | _, _, [], s => (.OK, s)
  | 0, _, _ :: _, s => (.OK, s)
  | fuel + 1, count, byte :: bytes, s =>
    let outcome := parseHeader pHandler pWhiteList settings count (byte :: bytes) s
    if outcome.result = .OK then
      parseHeaders settings fuel (count + 1) outcome.buffer outcome.handled
    else (outcome.result, outcome.handled)

/-- `APDUParser::ParseSinglePass`. -/
def parseSinglePass (settings : ParserSettings) (buffer : List UInt8) (s : Handled σ) :
    ParseResult × Handled σ :=
  parseHeaders pHandler pWhiteList settings buffer.length 0 buffer s

/-- `APDUParser::Parse`: a pass with the white-list and no handler, and then, when it has
succeeded, a pass with the handler and no white-list. -/
def parse (handler : IAPDUHandler σ) (settings : ParserSettings) (buffer : List UInt8) (state : σ) :
    ParseResult × Handled σ :=
  let (result, s) := parseSinglePass none (some handler) settings buffer { state }
  if result = .OK then parseSinglePass (some handler) none settings buffer s else (result, s)

end APDUParser

end OpenDnp3.App
