import OpenDnp3.App.Parser
import OpenDnp3.Lib.Reader
import Mathlib.Data.List.GetD

/-!
# The parser as a reader of bytes

For every parse function a reader without a handler, which takes the bytes of the function from a
buffer and returns the call or the error. The function hands the call to the handler, if there is
one, and returns what the reader returns (`Delivers`). The values of a header lie in the bytes that
the reader takes.
-/

namespace OpenDnp3.App

/-! ## Values lie in the bytes of their header -/

/-- The read function takes `size` bytes and looks at no others. -/
def ReadsSize {α : Type*} (read : List UInt8 → ℕ → α × List UInt8) (size : ℕ) : Prop :=
  ∀ pos bytes rest, size ≤ bytes.length →
    (read (bytes ++ rest) pos).1 = (read bytes pos).1 ∧
      (read (bytes ++ rest) pos).2 = (read bytes pos).2 ++ rest ∧
      (read bytes pos).2.length = bytes.length - size

/-- Values that lie in the first bytes do not depend on the others. -/
theorem foreach_append {α : Type*} {read : List UInt8 → ℕ → α × List UInt8} {size : ℕ}
    (hread : ReadsSize read size) (count pos : ℕ) (bytes rest : List UInt8)
    (h : count * size ≤ bytes.length) :
    foreach read pos count (bytes ++ rest) = foreach read pos count bytes := by
  induction count generalizing pos bytes with
  | zero => rfl
  | succ count ih =>
    rw [Nat.succ_mul] at h
    obtain ⟨hvalue, hrest, hlen⟩ := hread pos bytes rest (by omega)
    simp only [foreach, hvalue, hrest]
    rw [ih (pos + 1) _ (by omega)]

/-- An object that lies in the first bytes is read from them, and the others are left. -/
theorem readObject_append (size : ℕ) (bytes rest : List UInt8) (h : size ≤ bytes.length) :
    (readObject size (bytes ++ rest)).1 = (readObject size bytes).1 ∧
      (readObject size (bytes ++ rest)).2 = (readObject size bytes).2 ++ rest ∧
      (readObject size bytes).2.length = bytes.length - size := by
  simp [readObject, List.take_append_of_le_length h, List.drop_append_of_le_length h]

/-- The two bytes of a number decide it. -/
theorem readUInt16_append (bytes rest : List UInt8) (h : 2 ≤ bytes.length) :
    readUInt16 (bytes ++ rest) = readUInt16 bytes := by
  rw [readUInt16, readUInt16, List.getD_append _ _ _ _ (by omega),
    List.getD_append _ _ _ _ (by omega)]

/-- A number that lies in the first bytes is read from them, and the others are left. -/
theorem NumParser.readNum_append (p : NumParser) (bytes rest : List UInt8)
    (h : p.numBytes ≤ bytes.length) :
    (p.readNum (bytes ++ rest)).1 = (p.readNum bytes).1 ∧
      (p.readNum (bytes ++ rest)).2 = (p.readNum bytes).2 ++ rest ∧
      (p.readNum bytes).2.length = bytes.length - p.numBytes := by
  cases p with
  | oneByte =>
    rw [numBytes] at h
    simp only [readNum, numBytes]
    rw [List.getD_append _ _ _ _ (by omega), List.drop_append_of_le_length h]
    exact ⟨rfl, rfl, by simp⟩
  | twoByte =>
    rw [numBytes] at h
    simp only [readNum, numBytes]
    rw [readUInt16_append _ _ h, List.drop_append_of_le_length h]
    exact ⟨rfl, rfl, by simp⟩

/-- An object of a range takes its size. -/
theorem readAtStart_readsSize (start size : ℕ) : ReadsSize (readAtStart start size) size := by
  intro pos bytes rest h
  obtain ⟨hvalue, hrest, hlen⟩ := readObject_append size bytes rest h
  simp only [readAtStart, hvalue, hrest, hlen, true_and]

/-- An object with an index prefix takes its size and that of the index. -/
theorem readPrefixed_readsSize (p : NumParser) (size : ℕ) :
    ReadsSize (readPrefixed p size) (size + p.numBytes) := by
  intro pos bytes rest h
  obtain ⟨hnum, hbytes, hnumLen⟩ := p.readNum_append bytes rest (by omega)
  obtain ⟨hvalue, hrest, hlen⟩ := readObject_append size (p.readNum bytes).2 rest (by omega)
  simp only [readPrefixed, hnum, hbytes, hvalue, hrest, hlen, true_and]
  omega

/-- Bits that lie in the first bytes do not depend on the others. -/
theorem foreach_readBit_append (start count pos : ℕ) (bytes rest : List UInt8)
    (h : pos + count ≤ 8 * bytes.length) :
    foreach (readBit start) pos count (bytes ++ rest) =
      foreach (readBit start) pos count bytes := by
  induction count generalizing pos with
  | zero => rfl
  | succ count ih =>
    simp only [foreach, readBit, getBit]
    rw [List.getD_append _ _ _ _ (by omega)]
    exact congrArg _ (ih (pos + 1) (by omega))

/-- Double bits that lie in the first bytes do not depend on the others. -/
theorem foreach_readDoubleBit_append (start count pos : ℕ) (bytes rest : List UInt8)
    (h : pos + count ≤ 4 * bytes.length) :
    foreach (readDoubleBit start) pos count (bytes ++ rest) =
      foreach (readDoubleBit start) pos count bytes := by
  induction count generalizing pos with
  | zero => rfl
  | succ count ih =>
    simp only [foreach, readDoubleBit, getDoubleBit]
    rw [List.getD_append _ _ _ _ (by omega)]
    exact congrArg _ (ih (pos + 1) (by omega))

/-- The call depends only on the bytes that the parser requires. -/
def ObjectParser.IsLocal (p : ObjectParser) : Prop :=
  ∀ bytes rest, bytes.length = p.requiredSize → p.call (bytes ++ rest) = p.call bytes

/-- The objects of a count lie in the bytes that they require. -/
theorem CountParser.from'_isLocal (record : HeaderRecord) (count size : ℕ) :
    (CountParser.from' record count size).IsLocal := by
  intro bytes rest h
  have hread : ReadsSize (fun b (_ : ℕ) => readObject size b) size := fun _ bytes rest h =>
    readObject_append size bytes rest h
  exact congrArg (HeaderCall.countValues record count)
    (foreach_append hread count 0 bytes rest h.ge)

/-- The objects with index prefixes lie in the bytes that they require. -/
theorem CountIndexParser.from'_isLocal (record : HeaderRecord) (numparser : NumParser)
    (count size : ℕ) : (CountIndexParser.from' record numparser count size).IsLocal := by
  intro bytes rest h
  exact congrArg (HeaderCall.prefixValues record count)
    (foreach_append (readPrefixed_readsSize numparser size) count 0 bytes rest h.ge)

namespace RangeParser

/-- The objects of a range lie in the bytes that they require. -/
theorem fromFixedSize_isLocal (record : HeaderRecord) (range : Range) (size : ℕ) :
    (fromFixedSize record range size).IsLocal := by
  intro bytes rest h
  exact congrArg (HeaderCall.rangeValues record range)
    (foreach_append (readAtStart_readsSize range.start size) range.count 0 bytes rest h.ge)

/-- The bits of a range lie in the bytes that they require. -/
theorem fromBitfieldType_isLocal (record : HeaderRecord) (range : Range) :
    (fromBitfieldType record range).IsLocal := by
  intro bytes rest h
  refine congrArg (HeaderCall.rangeValues record range)
    (foreach_readBit_append range.start range.count 0 bytes rest ?_)
  simp only [fromBitfieldType, numBytesInBits] at h
  split_ifs at h <;> omega

/-- The double bits of a range lie in the bytes that they require. -/
theorem fromDoubleBitfieldType_isLocal (record : HeaderRecord) (range : Range) :
    (fromDoubleBitfieldType record range).IsLocal := by
  intro bytes rest h
  refine congrArg (HeaderCall.rangeValues record range)
    (foreach_readDoubleBit_append range.start range.count 0 bytes rest ?_)
  simp only [fromDoubleBitfieldType, numBytesInDoubleBits] at h
  split_ifs at h <;> omega

/-- Every parser of the objects of a range is local. -/
theorem select_isLocal {record : HeaderRecord} {range : Range} {p : ObjectParser}
    (h : select record range = some p) : p.IsLocal := by
  unfold select at h
  split at h <;> simp only [Option.some.injEq, reduceCtorEq] at h <;> subst h
  all_goals
    first
    | exact fromBitfieldType_isLocal record range
    | exact fromDoubleBitfieldType_isLocal record range
    | exact fromFixedSize_isLocal record range _

end RangeParser

/-! ## Readers of the objects of a header -/

/-- A reader of the bytes of a fragment. -/
abbrev ByteReader (α : Type) := Reader UInt8 ParseResult α

/-- The count of a header. -/
def NumParser.countReader (p : NumParser) : ByteReader ℕ :=
  Reader.block p.numBytes .NOT_ENOUGH_DATA_FOR_RANGE fun bytes =>
    if (p.readNum bytes).1 = 0 then .error .COUNT_OF_ZERO else .ok (p.readNum bytes).1

/-- The range of a header. -/
def NumParser.rangeReader (p : NumParser) : ByteReader Range :=
  Reader.block (2 * p.numBytes) .NOT_ENOUGH_DATA_FOR_RANGE fun bytes =>
    let range : Range :=
      { start := (p.readNum bytes).1, stop := (p.readNum (p.readNum bytes).2).1 }
    if range.isValid then .ok range else .error .BAD_START_STOP

/-- The objects of a count, range or index parser. -/
def ObjectParser.reader (p : ObjectParser) : ByteReader HeaderCall :=
  Reader.block p.requiredSize .NOT_ENOUGH_DATA_FOR_OBJECTS fun bytes => .ok (p.call bytes)

/-- A count, followed by objects where the settings expect them. -/
def CountParser.reader (numparser : NumParser) (settings : ParserSettings)
    (record : HeaderRecord) : ByteReader HeaderCall :=
  numparser.countReader.bind fun count =>
    if settings.expectContents then
      if supports record.enumeration then (from' record count record.enumeration.size).reader
      else Reader.fail .INVALID_OBJECT_QUALIFIER
    else Reader.pure (.count record count)

/-- The objects of a range. -/
def RangeParser.objects (record : HeaderRecord) (range : Range) : ByteReader HeaderCall :=
  if record.enumeration = .Group110Var0 then
    if 0 < record.variation then (fromFixedSize record range record.variation.toNat).reader
    else Reader.fail .INVALID_OBJECT
  else
    match select record range with
    | some parser => parser.reader
    | none => Reader.fail .INVALID_OBJECT_QUALIFIER

/-- A range, followed by objects where the settings expect them. -/
def RangeParser.reader (numparser : NumParser) (settings : ParserSettings)
    (record : HeaderRecord) : ByteReader HeaderCall :=
  numparser.rangeReader.bind fun range =>
    if settings.expectContents then objects record range else Reader.pure (.range record range)

/-- The index-prefixed objects of a count. -/
def CountIndexParser.objects (record : HeaderRecord) (numparser : NumParser) (count : ℕ) :
    ByteReader HeaderCall :=
  if record.enumeration = .Group111Var0 then
    if record.variation = 0 then Reader.fail .INVALID_OBJECT
    else (from' record numparser count record.variation.toNat).reader
  else if supports record.enumeration then
    (from' record numparser count record.enumeration.size).reader
  else Reader.fail .INVALID_OBJECT_QUALIFIER

/-- A count, followed by index-prefixed objects. -/
def CountIndexParser.reader (numparser : NumParser) (record : HeaderRecord) :
    ByteReader HeaderCall :=
  numparser.countReader.bind fun count => objects record numparser count

/-- The count and the size of a free format header. -/
def FreeFormatParser.sizeReader : ByteReader ℕ :=
  Reader.block 3 .NOT_ENOUGH_DATA_FOR_HEADER fun bytes =>
    if (bytes.getD 0 0).toNat ≠ 1 then .error .UNREASONABLE_OBJECT_COUNT
    else .ok (readUInt16 (bytes.drop 1)).toNat

/-- A free format header with its one object. -/
def FreeFormatParser.reader (record : HeaderRecord) : ByteReader HeaderCall :=
  sizeReader.bind fun size =>
    Reader.block size .NOT_ENOUGH_DATA_FOR_OBJECTS fun object =>
      match layout record.enumeration with
      | none => .error .INVALID_OBJECT_QUALIFIER
      | some layout =>
        match read layout object with
        | some value => .ok (.freeFormat record 1 value object)
        | none => .error .NOT_ENOUGH_DATA_FOR_OBJECTS

namespace APDUParser

/-- What follows the record of a header, by its qualifier. -/
def qualifierReader (settings : ParserSettings) (record : HeaderRecord) :
    ByteReader HeaderCall :=
  match record.getQualifierCode with
  | .ALL_OBJECTS => Reader.pure (.allObjects record)
  | .UINT8_CNT => CountParser.reader .oneByte settings record
  | .UINT16_CNT => CountParser.reader .twoByte settings record
  | .UINT8_START_STOP => RangeParser.reader .oneByte settings record
  | .UINT16_START_STOP => RangeParser.reader .twoByte settings record
  | .UINT8_CNT_UINT8_INDEX => CountIndexParser.reader .oneByte record
  | .UINT16_CNT_UINT16_INDEX => CountIndexParser.reader .twoByte record
  | .UINT16_FREE_FORMAT => FreeFormatParser.reader record
  | .UNDEFINED => Reader.fail .UNKNOWN_QUALIFIER

/-- The record of a header, from its first three bytes. -/
def recordReader (count : ℕ) : ByteReader HeaderRecord :=
  Reader.block 3 .NOT_ENOUGH_DATA_FOR_HEADER fun bytes =>
    let record : HeaderRecord :=
      { GroupVariationRecord.getRecord (bytes.getD 0 0) (bytes.getD 1 0) with
        qualifier := bytes.getD 2 0, headerIndex := count }
    if record.enumeration = .UNKNOWN then .error .UNKNOWN_OBJECT else .ok record

/-- The object header with this place in the fragment, with everything that belongs to it. -/
def headerReader (settings : ParserSettings) (count : ℕ) : ByteReader HeaderCall :=
  (recordReader count).bind (qualifierReader settings)

end APDUParser

/-! ## The parse functions deliver what the readers take -/

variable {σ : Type*}

/-- The outcome is what the reader returns: a value goes to the handler, if there is one, and an
error leaves the handler alone. -/
def Delivers (pHandler : Option (IAPDUHandler σ)) (s : Handled σ) (outcome : Outcome σ) :
    Except ParseResult (HeaderCall × List UInt8) → Prop
  | .ok (call, rest) => outcome = ⟨.OK, rest, invoke pHandler call s⟩
  | .error result => result ≠ .OK ∧ outcome.result = result ∧ outcome.handled = s

variable (pHandler : Option (IAPDUHandler σ)) (s : Handled σ)

/-- A local parser delivers what its reader takes. -/
theorem ObjectParser.process_delivers {p : ObjectParser} (hp : p.IsLocal) (buffer : List UInt8) :
    Delivers pHandler s (p.process pHandler buffer s) (p.reader buffer) := by
  unfold process reader Reader.block
  split_ifs with hlen
  · exact ⟨by decide, rfl, rfl⟩
  · have htake := hp (buffer.take p.requiredSize) (buffer.drop p.requiredSize)
      (by rw [List.length_take]; omega)
    rw [List.take_append_drop] at htake
    simp only [Delivers, htake]

/-- The count parser is a reader. -/
theorem NumParser.parseCount_eq (p : NumParser) (buffer : List UInt8) :
    p.parseCount buffer = p.countReader buffer := by
  unfold parseCount countReader Reader.block
  split_ifs with hlen
  · rfl
  · have hread := p.readNum_append (buffer.take p.numBytes) (buffer.drop p.numBytes)
      (by rw [List.length_take]; omega)
    rw [List.take_append_drop] at hread
    obtain ⟨hvalue, hrest, hrestLen⟩ := hread
    have hnil : (p.readNum (buffer.take p.numBytes)).2 = [] := by
      apply List.eq_nil_of_length_eq_zero
      rw [hrestLen, List.length_take]
      omega
    rw [hnil, List.nil_append] at hrest
    simp only [hvalue, hrest]
    split_ifs <;> rfl

/-- The range parser is a reader. -/
theorem NumParser.parseRange_eq (p : NumParser) (buffer : List UInt8) :
    p.parseRange buffer = p.rangeReader buffer := by
  unfold parseRange rangeReader Reader.block
  split_ifs with hlen
  · rfl
  · have hfirst := p.readNum_append (buffer.take (2 * p.numBytes)) (buffer.drop (2 * p.numBytes))
      (by rw [List.length_take]; omega)
    rw [List.take_append_drop] at hfirst
    obtain ⟨hstart, hmiddle, hmiddleLen⟩ := hfirst
    rw [List.length_take] at hmiddleLen
    obtain ⟨hstop, hrest, hrestLen⟩ := p.readNum_append (p.readNum (buffer.take (2 * p.numBytes))).2
      (buffer.drop (2 * p.numBytes)) (by omega)
    have hnil : (p.readNum (p.readNum (buffer.take (2 * p.numBytes))).2).2 = [] := by
      apply List.eq_nil_of_length_eq_zero
      omega
    rw [hnil, List.nil_append] at hrest
    simp only [hstart, hmiddle, hstop, hrest]
    split_ifs <;> rfl

/-- The error of a count is a parse result other than success. -/
theorem NumParser.countReader_error {p : NumParser} {buffer : List UInt8} {result : ParseResult}
    (h : p.countReader buffer = .error result) : result ≠ .OK := by
  unfold countReader Reader.block at h
  grind

/-- The error of a range is a parse result other than success. -/
theorem NumParser.rangeReader_error {p : NumParser} {buffer : List UInt8} {result : ParseResult}
    (h : p.rangeReader buffer = .error result) : result ≠ .OK := by
  unfold rangeReader Reader.block at h
  grind

/-- A header with a count is delivered as its reader takes it. -/
theorem CountParser.parseHeader_delivers (numparser : NumParser) (settings : ParserSettings)
    (record : HeaderRecord) (buffer : List UInt8) :
    Delivers pHandler s (parseHeader pHandler numparser settings record buffer s)
      (reader numparser settings record buffer) := by
  unfold parseHeader reader Reader.bind
  rw [numparser.parseCount_eq]
  cases hcount : numparser.countReader buffer with
  | error result => exact ⟨NumParser.countReader_error hcount, rfl, rfl⟩
  | ok value =>
    obtain ⟨count, buffer⟩ := value
    simp only [parseCountOfObjects]
    split_ifs
    · exact ObjectParser.process_delivers pHandler s (from'_isLocal record count _) buffer
    · exact ⟨by decide, rfl, rfl⟩
    · rfl

/-- The objects of a range are delivered as their reader takes them. -/
theorem RangeParser.parseRangeOfObjects_delivers (record : HeaderRecord) (range : Range)
    (buffer : List UInt8) :
    Delivers pHandler s (parseRangeOfObjects pHandler record range buffer s)
      (objects record range buffer) := by
  unfold parseRangeOfObjects parseRangeOfOctetData objects
  split_ifs
  · exact ObjectParser.process_delivers pHandler s (fromFixedSize_isLocal record range _) buffer
  · exact ⟨by decide, rfl, rfl⟩
  · cases hselect : select record range with
    | some parser => exact ObjectParser.process_delivers pHandler s (select_isLocal hselect) buffer
    | none => exact ⟨by decide, rfl, rfl⟩

/-- A header with a range is delivered as its reader takes it. -/
theorem RangeParser.parseHeader_delivers (numparser : NumParser) (settings : ParserSettings)
    (record : HeaderRecord) (buffer : List UInt8) :
    Delivers pHandler s (parseHeader pHandler numparser settings record buffer s)
      (reader numparser settings record buffer) := by
  unfold parseHeader reader Reader.bind
  rw [numparser.parseRange_eq]
  cases hrange : numparser.rangeReader buffer with
  | error result => exact ⟨NumParser.rangeReader_error hrange, rfl, rfl⟩
  | ok value =>
    obtain ⟨range, buffer⟩ := value
    dsimp only
    split_ifs
    · exact parseRangeOfObjects_delivers pHandler s record range buffer
    · rfl

/-- The objects with index prefixes are delivered as their reader takes them. -/
theorem CountIndexParser.parseCountOfObjects_delivers (record : HeaderRecord)
    (numparser : NumParser) (count : ℕ) (buffer : List UInt8) :
    Delivers pHandler s (parseCountOfObjects pHandler record numparser count buffer s)
      (objects record numparser count buffer) := by
  unfold parseCountOfObjects parseIndexPrefixedOctetData objects
  split_ifs
  · exact ⟨by decide, rfl, rfl⟩
  · exact ObjectParser.process_delivers pHandler s (from'_isLocal record numparser count _) buffer
  · exact ObjectParser.process_delivers pHandler s (from'_isLocal record numparser count _) buffer
  · exact ⟨by decide, rfl, rfl⟩

/-- A header with a count and index prefixes is delivered as its reader takes it. -/
theorem CountIndexParser.parseHeader_delivers (numparser : NumParser) (record : HeaderRecord)
    (buffer : List UInt8) :
    Delivers pHandler s (parseHeader pHandler numparser record buffer s)
      (reader numparser record buffer) := by
  unfold parseHeader reader Reader.bind
  rw [numparser.parseCount_eq]
  cases hcount : numparser.countReader buffer with
  | error result => exact ⟨NumParser.countReader_error hcount, rfl, rfl⟩
  | ok value =>
    exact parseCountOfObjects_delivers pHandler s record numparser value.1 value.2

/-- A buffer of three bytes or more has the record of a header. -/
theorem exists_three_cons {buffer : List UInt8} (h : ¬buffer.length < 3) :
    ∃ a b c rest, buffer = a :: b :: c :: rest := by
  match buffer with
  | [] | [_] | [_, _] => simp at h
  | a :: b :: c :: rest => exact ⟨a, b, c, rest, rfl⟩

/-- A free format header is delivered as its reader takes it. -/
theorem FreeFormatParser.parseHeader_delivers (record : HeaderRecord) (buffer : List UInt8) :
    Delivers pHandler s (parseHeader pHandler record buffer s) (reader record buffer) := by
  unfold parseHeader reader Reader.bind sizeReader Reader.block
  by_cases hlen : buffer.length < 3
  · rw [if_pos hlen, if_pos hlen]
    exact ⟨by decide, rfl, rfl⟩
  · obtain ⟨count, low, high, rest, rfl⟩ := exists_three_cons hlen
    simp only [hlen, if_false, List.take_succ_cons, List.take_zero, List.getD_cons_zero,
      List.drop_succ_cons, List.drop_zero]
    -- The size is in the two bytes after the count.
    have hsize : readUInt16 (low :: high :: rest) = readUInt16 [low, high] :=
      readUInt16_append [low, high] rest le_rfl
    rw [hsize]
    by_cases hcount : count.toNat ≠ 1
    · simp only [if_pos hcount]
      exact ⟨by decide, rfl, rfl⟩
    · simp only [if_neg hcount]
      split_ifs
      · exact ⟨by decide, rfl, rfl⟩
      · cases layout record.enumeration with
        | none => exact ⟨by decide, rfl, rfl⟩
        | some layout =>
          simp only [parseFreeFormat]
          cases read layout (rest.take (readUInt16 [low, high]).toNat) with
          | none => exact ⟨by decide, rfl, rfl⟩
          | some value =>
            rw [not_not.mp hcount]
            rfl

namespace APDUParser

/-- Every qualifier is delivered as its reader takes it. -/
theorem parseQualifier_delivers (settings : ParserSettings) (record : HeaderRecord)
    (buffer : List UInt8) :
    Delivers pHandler s (parseQualifier pHandler settings record buffer s)
      (qualifierReader settings record buffer) := by
  unfold parseQualifier qualifierReader
  cases record.getQualifierCode with
  | UINT8_START_STOP => exact RangeParser.parseHeader_delivers pHandler s _ _ _ _
  | UINT16_START_STOP => exact RangeParser.parseHeader_delivers pHandler s _ _ _ _
  | ALL_OBJECTS => rfl
  | UINT8_CNT => exact CountParser.parseHeader_delivers pHandler s _ _ _ _
  | UINT16_CNT => exact CountParser.parseHeader_delivers pHandler s _ _ _ _
  | UINT8_CNT_UINT8_INDEX => exact CountIndexParser.parseHeader_delivers pHandler s _ _ _
  | UINT16_CNT_UINT16_INDEX => exact CountIndexParser.parseHeader_delivers pHandler s _ _ _
  | UINT16_FREE_FORMAT => exact FreeFormatParser.parseHeader_delivers pHandler s _ _
  | UNDEFINED => exact ⟨by decide, rfl, rfl⟩

end APDUParser

end OpenDnp3.App
