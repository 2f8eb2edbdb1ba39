import OpenDnp3.App.CheckedParser

/-!
# No fault of the parser

The parser with its reads and sizes checked is the parser: none of the conditions that its code
relies on is ever broken. The values of a header are read from the bytes that the header takes and
from no others, and every call has as many values as its header announces.
-/

namespace OpenDnp3.App

/-! ## No fault occurs -/

/-- A range that ends below `2 ^ 16` has no more points than that. -/
theorem Range.start_add_count {range : Range} (hvalid : range.isValid)
    (hstop : range.stop < 2 ^ 16) : range.start + range.count ≤ 2 ^ 16 ∧ 0 < range.count := by
  rw [Range.count, if_pos hvalid]
  simp only [Range.isValid, decide_eq_true_eq] at hvalid
  omega

/-- A number of one or two bytes fits 16 bits. -/
theorem NumParser.readNum_lt (p : NumParser) (buffer : List UInt8) :
    (p.readNum buffer).1 < 2 ^ 16 := by
  cases p with
  | oneByte =>
    have hbyte := (buffer.getD 0 0).toNat_lt
    rw [readNum]
    omega
  | twoByte => exact (readUInt16 buffer).toNat_lt

/-- A count that has been parsed fits 16 bits. -/
theorem NumParser.parseCount_lt {p : NumParser} {buffer rest : List UInt8} {count : ℕ}
    (h : p.parseCount buffer = .ok (count, rest)) : count < 2 ^ 16 := by
  unfold parseCount at h
  dsimp only at h
  split_ifs at h
  cases h
  exact p.readNum_lt buffer

/-- A range that has been parsed is valid, and its indices fit 16 bits. -/
theorem NumParser.parseRange_spec {p : NumParser} {buffer rest : List UInt8} {range : Range}
    (h : p.parseRange buffer = .ok (range, rest)) : range.isValid ∧ range.stop < 2 ^ 16 := by
  unfold parseRange at h
  dsimp only at h
  split_ifs at h with hlen hvalid
  cases h
  exact ⟨hvalid, p.readNum_lt _⟩

namespace Checked

/-- A size below 2³² is a `uint32_t`. -/
theorem uint32_of_lt {size : ℕ} (h : size < 2 ^ 32) : uint32 size = .ok size := if_pos h

/-- An index below 2¹⁶ is a `uint16_t`. -/
theorem uint16_of_lt {index : ℕ} (h : index < 2 ^ 16) : uint16 index = .ok index := if_pos h

/-- A read that the buffer is long enough for takes the first bytes. -/
theorem readBuffer_of_le {size : ℕ} {buffer : List UInt8} (h : size ≤ buffer.length) :
    readBuffer size buffer = .ok (buffer.take size, buffer.drop size) := if_pos h

/-- Fields that the buffer has are read one after the other. -/
theorem many_eq {fields : List ℕ} {buffer : List UInt8} (h : fields.sum ≤ buffer.length) :
    many fields buffer = .ok (buffer.take fields.sum, buffer.drop fields.sum) := by
  induction fields generalizing buffer with
  | nil => rfl
  | cons field fields ih =>
    rw [List.sum_cons] at h ⊢
    have hrest : fields.sum ≤ (buffer.drop field).length := by
      rw [List.length_drop]
      omega
    rw [many, readBuffer_of_le (by omega)]
    change (many fields (buffer.drop field)).bind _ = _
    rw [ih hrest, List.drop_drop, List.take_add]
    rfl

/-- A number is read without a fault where the buffer has its bytes. -/
theorem readNum_eq {p : NumParser} {buffer : List UInt8} (h : p.numBytes ≤ buffer.length) :
    readNum p buffer = .ok (p.readNum buffer) := by
  have hread := p.readNum_append (buffer.take p.numBytes) (buffer.drop p.numBytes)
    (by rw [List.length_take]; omega)
  rw [List.take_append_drop] at hread
  obtain ⟨hnum, hrest, -⟩ := hread
  have hdrop : (p.readNum buffer).2 = buffer.drop p.numBytes := by
    cases p <;> rfl
  rw [readNum, readBuffer_of_le h]
  change Except.ok ((p.readNum (buffer.take p.numBytes)).1, buffer.drop p.numBytes) = _
  rw [← hnum, ← hdrop]

/-- The count parser looks at the size of the buffer before it reads, so that no fault occurs. -/
theorem parseCount_eq (p : NumParser) (buffer : List UInt8) :
    parseCount p buffer = .ok (p.parseCount buffer) := by
  unfold parseCount NumParser.parseCount
  split_ifs with hlen
  · rfl
  · rw [readNum_eq (Nat.le_of_not_lt hlen)]
    rfl

/-- The range parser does the same. -/
theorem parseRange_eq (p : NumParser) (buffer : List UInt8) :
    parseRange p buffer = .ok (p.parseRange buffer) := by
  unfold parseRange NumParser.parseRange
  split_ifs with hlen
  · rfl
  · have hrest : (p.readNum buffer).2.length = buffer.length - p.numBytes := by
      cases p <;> exact List.length_drop
    rw [readNum_eq (by omega)]
    change (readNum p (p.readNum buffer).2).bind _ = _
    rw [readNum_eq (by omega)]
    rfl

/-- A collection is read without a fault when every one of its reads is, from the buffer that the
reads before have left. -/
theorem foreach_eq {α : Type} {checked : List UInt8 → ℕ → Except Fault (α × List UInt8)}
    {read : List UInt8 → ℕ → α × List UInt8} (Ready : ℕ → ℕ → List UInt8 → Prop)
    (hstep : ∀ pos count buffer, Ready pos (count + 1) buffer →
      checked buffer pos = .ok (read buffer pos) ∧ Ready (pos + 1) count (read buffer pos).2)
    {pos count : ℕ} {buffer : List UInt8} (h : Ready pos count buffer) :
    foreach checked pos count buffer = .ok (App.foreach read pos count buffer) := by
  induction count generalizing pos buffer with
  | zero => rfl
  | succ count ih =>
    obtain ⟨hread, hrest⟩ := hstep pos count buffer h
    rw [foreach, hread]
    change (foreach checked (pos + 1) count (read buffer pos).2).bind _ = _
    rw [ih hrest]
    rfl

/-- An object is read without a fault where the buffer has its bytes. -/
theorem readObject_eq {fields : List ℕ} {buffer : List UInt8} (h : fields.sum ≤ buffer.length) :
    readObject fields buffer = .ok (App.readObject fields.sum buffer) := by
  rw [readObject, many_eq h]
  rfl

/-- A collection of objects that each take `size` bytes is read without a fault from as many bytes
as its objects take. -/
theorem foreach_objects {α : Type} {checked : List UInt8 → ℕ → Except Fault (α × List UInt8)}
    {read : List UInt8 → ℕ → α × List UInt8} {size count : ℕ} (hread : ReadsSize read size)
    (hchecked : ∀ pos buffer, size ≤ buffer.length → pos < count →
      checked buffer pos = .ok (read buffer pos))
    {buffer : List UInt8} (h : buffer.length = count * size) :
    foreach checked 0 count buffer = .ok (App.foreach read 0 count buffer) := by
  refine foreach_eq (fun pos n bytes => n * size ≤ bytes.length ∧ pos + n = count) ?_
    ⟨h.ge, Nat.zero_add count⟩
  rintro pos n bytes ⟨hlen, hpos⟩
  rw [Nat.succ_mul] at hlen
  obtain ⟨-, -, hrest⟩ := hread pos bytes [] (by omega)
  exact ⟨hchecked pos bytes (by omega) (by omega), by omega, by omega⟩

/-- The objects of a range are read without a fault, and no index goes beyond 16 bits. -/
theorem foreach_readAtStart {start count : ℕ} {fields : List ℕ} {buffer : List UInt8}
    (h : buffer.length = count * fields.sum) (hindex : start + count ≤ 2 ^ 16) :
    foreach (readAtStart start fields) 0 count buffer =
      .ok (App.foreach (App.readAtStart start fields.sum) 0 count buffer) := by
  refine foreach_objects (readAtStart_readsSize start fields.sum) ?_ h
  intro pos buffer hlen hpos
  rw [readAtStart, readObject_eq hlen]
  change (uint16 (start + pos)).bind _ = _
  rw [uint16_of_lt (by omega)]
  rfl

/-- The objects with index prefixes are read without a fault. -/
theorem foreach_readPrefixed {numparser : NumParser} {count : ℕ} {fields : List ℕ}
    {buffer : List UInt8} (h : buffer.length = count * (fields.sum + numparser.numBytes)) :
    foreach (readPrefixed numparser fields) 0 count buffer =
      .ok (App.foreach (App.readPrefixed numparser fields.sum) 0 count buffer) := by
  refine foreach_objects (readPrefixed_readsSize numparser fields.sum) ?_ h
  intro pos buffer hlen hpos
  obtain ⟨-, -, hrest⟩ := numparser.readNum_append buffer [] (by omega)
  rw [readPrefixed, readNum_eq (by omega)]
  change (readObject fields (numparser.readNum buffer).2).bind _ = _
  rw [readObject_eq (by omega)]
  rfl

/-- The bits of a range are read without a fault: none lies behind the last byte. -/
theorem foreach_readBit {start count : ℕ} {buffer : List UInt8} (h : count ≤ 8 * buffer.length)
    (hindex : start + count ≤ 2 ^ 16) :
    foreach (readBit start) 0 count buffer =
      .ok (App.foreach (App.readBit start) 0 count buffer) := by
  refine foreach_eq (fun pos n bytes => bytes = buffer ∧ pos + n = count) ?_
    ⟨rfl, Nat.zero_add count⟩
  rintro pos n bytes ⟨rfl, hpos⟩
  refine ⟨?_, rfl, by omega⟩
  rw [readBit, getBit, if_pos (by omega)]
  change (uint16 (start + pos)).bind _ = _
  rw [uint16_of_lt (by omega)]
  rfl

/-- The double bits of a range are read without a fault. -/
theorem foreach_readDoubleBit {start count : ℕ} {buffer : List UInt8}
    (h : count ≤ 4 * buffer.length) (hindex : start + count ≤ 2 ^ 16) :
    foreach (readDoubleBit start) 0 count buffer =
      .ok (App.foreach (App.readDoubleBit start) 0 count buffer) := by
  refine foreach_eq (fun pos n bytes => bytes = buffer ∧ pos + n = count) ?_
    ⟨rfl, Nat.zero_add count⟩
  rintro pos n bytes ⟨rfl, hpos⟩
  refine ⟨?_, rfl, by omega⟩
  rw [readDoubleBit, getDoubleBit, if_pos (by omega)]
  change (uint16 (start + pos)).bind _ = _
  rw [uint16_of_lt (by omega)]
  rfl

/-- The checked parser does what the parser does: its size is in range, and the bytes of that size
are all that it reads. -/
structure ObjectParser.Refines (q : ObjectParser) (p : App.ObjectParser) : Prop where
  requiredSize : q.requiredSize = .ok p.requiredSize
  call : ∀ bytes, bytes.length = p.requiredSize → q.call bytes = .ok (p.call bytes)
  isLocal : p.IsLocal

variable {σ : Type} (pHandler pWhiteList : Option (IAPDUHandler σ)) (s : Handled σ)

/-- A parser that refines one of the model processes a buffer like it, without a fault. -/
theorem ObjectParser.Refines.process_eq {q : ObjectParser} {p : App.ObjectParser}
    (h : q.Refines p) (buffer : List UInt8) :
    q.process pHandler buffer s = .ok (p.process pHandler buffer s) := by
  unfold process App.ObjectParser.process
  rw [h.requiredSize]
  change (if buffer.length < p.requiredSize then _ else _) = _
  split_ifs with hlen
  · rfl
  · have htake : (buffer.take p.requiredSize).length = p.requiredSize := by
      rw [List.length_take]
      omega
    have hlocal := h.isLocal (buffer.take p.requiredSize) (buffer.drop p.requiredSize) htake
    rw [List.take_append_drop] at hlocal
    cases pHandler with
    | none => rfl
    | some handler =>
      dsimp only
      rw [h.call _ htake, hlocal]
      rfl

/-- The objects of the parsers are small. -/
theorem size_le (gv : GroupVariation) : gv.size ≤ 15 := by
  cases gv <;> decide

namespace CountParser

/-- The objects of a count are parsed as in the model. -/
theorem from'_refines (record : HeaderRecord) {count : ℕ} (hcount : count < 2 ^ 16)
    (gv : GroupVariation) :
    (from' record count gv.fields).Refines (App.CountParser.from' record count gv.size) where
  requiredSize := by
    have hsize : count * gv.size ≤ 2 ^ 16 * 15 := Nat.mul_le_mul hcount.le (size_le gv)
    rw [from', gv.sum_fields, App.CountParser.from']
    exact uint32_of_lt (by omega)
  call bytes hlen := by
    have hread : ReadsSize (fun b (_ : ℕ) => App.readObject gv.size b) gv.size :=
      fun _ bytes rest h => readObject_append gv.size bytes rest h
    have hvalues : foreach (fun b _ => readObject gv.fields b) 0 count bytes =
        .ok (App.foreach (fun b _ => App.readObject gv.size b) 0 count bytes) :=
      foreach_objects hread
        (fun pos buffer h _ => by rw [readObject_eq (gv.sum_fields ▸ h), gv.sum_fields]) hlen
    simp only [from', hvalues]
    rfl
  isLocal := App.CountParser.from'_isLocal record count gv.size

/-- A header with a count is parsed without a fault. -/
theorem parseHeader_eq (numparser : NumParser) (settings : ParserSettings) (record : HeaderRecord)
    (buffer : List UInt8) :
    parseHeader pHandler numparser settings record buffer s =
      .ok (App.CountParser.parseHeader pHandler numparser settings record buffer s) := by
  unfold parseHeader App.CountParser.parseHeader
  rw [parseCount_eq]
  cases hcount : numparser.parseCount buffer with
  | error result => rfl
  | ok value =>
    obtain ⟨count, rest⟩ := value
    change (if settings.expectContents then _ else _) = _
    dsimp only
    unfold parseCountOfObjects App.CountParser.parseCountOfObjects
    split_ifs
    · exact (from'_refines record (NumParser.parseCount_lt hcount) _).process_eq pHandler s rest
    · rfl
    · rfl

end CountParser

namespace RangeParser

/-- The objects of a range are parsed as in the model. -/
theorem fromFixedSize_refines (record : HeaderRecord) {range : Range} (hvalid : range.isValid)
    (hstop : range.stop < 2 ^ 16) (fields : List ℕ) (hfields : fields.sum < 256) :
    (fromFixedSize record range fields).Refines
      (App.RangeParser.fromFixedSize record range fields.sum) where
  requiredSize := by
    obtain ⟨hindex, -⟩ := range.start_add_count hvalid hstop
    have hsize : range.count * fields.sum ≤ 2 ^ 16 * 255 := Nat.mul_le_mul (by omega) (by omega)
    simp only [fromFixedSize, App.RangeParser.fromFixedSize]
    rw [uint32_of_lt (by omega)]
    exact uint32_of_lt (by omega)
  call bytes hlen := by
    simp only [fromFixedSize, foreach_readAtStart hlen (range.start_add_count hvalid hstop).1]
    rfl
  isLocal := App.RangeParser.fromFixedSize_isLocal record range fields.sum

/-- A bitfield is parsed as in the model. -/
theorem fromBitfieldType_refines (record : HeaderRecord) {range : Range} (hvalid : range.isValid)
    (hstop : range.stop < 2 ^ 16) :
    (fromBitfieldType record range).Refines (App.RangeParser.fromBitfieldType record range) where
  requiredSize := by
    obtain ⟨hindex, -⟩ := range.start_add_count hvalid hstop
    simp only [fromBitfieldType, App.RangeParser.fromBitfieldType]
    rw [uint32_of_lt (by omega)]
    refine uint32_of_lt ?_
    unfold numBytesInBits
    split_ifs <;> omega
  call bytes hlen := by
    have hbits : range.count ≤ 8 * bytes.length := by
      simp only [App.RangeParser.fromBitfieldType, numBytesInBits] at hlen
      split_ifs at hlen <;> omega
    simp only [fromBitfieldType, foreach_readBit hbits (range.start_add_count hvalid hstop).1]
    rfl
  isLocal := App.RangeParser.fromBitfieldType_isLocal record range

/-- A double bitfield is parsed as in the model. -/
theorem fromDoubleBitfieldType_refines (record : HeaderRecord) {range : Range}
    (hvalid : range.isValid) (hstop : range.stop < 2 ^ 16) :
    (fromDoubleBitfieldType record range).Refines
      (App.RangeParser.fromDoubleBitfieldType record range) where
  requiredSize := by
    obtain ⟨hindex, -⟩ := range.start_add_count hvalid hstop
    simp only [fromDoubleBitfieldType, App.RangeParser.fromDoubleBitfieldType]
    rw [uint32_of_lt (by omega)]
    refine uint32_of_lt ?_
    unfold numBytesInDoubleBits
    split_ifs <;> omega
  call bytes hlen := by
    have hbits : range.count ≤ 4 * bytes.length := by
      simp only [App.RangeParser.fromDoubleBitfieldType, numBytesInDoubleBits] at hlen
      split_ifs at hlen <;> omega
    simp only [fromDoubleBitfieldType,
      foreach_readDoubleBit hbits (range.start_add_count hvalid hstop).1]
    rfl
  isLocal := App.RangeParser.fromDoubleBitfieldType_isLocal record range

/-- The switches of the two parsers have the same cases. -/
theorem select_refines (record : HeaderRecord) {range : Range} (hvalid : range.isValid)
    (hstop : range.stop < 2 ^ 16) :
    (select record range = none ∧ App.RangeParser.select record range = none) ∨
      ∃ q p, select record range = some q ∧ App.RangeParser.select record range = some p ∧
        q.Refines p := by
  have hbits := fromBitfieldType_refines record hvalid hstop
  have hdouble := fromDoubleBitfieldType_refines record hvalid hstop
  have hfixed : (fromFixedSize record range record.enumeration.fields).Refines
      (App.RangeParser.fromFixedSize record range record.enumeration.size) := by
    rw [← record.enumeration.sum_fields]
    refine fromFixedSize_refines record hvalid hstop _ ?_
    have hsize := size_le record.enumeration
    rw [← record.enumeration.sum_fields] at hsize
    omega
  unfold select App.RangeParser.select
  generalize record.enumeration = gv at hfixed ⊢
  cases gv <;>
    first
    | exact .inl ⟨rfl, rfl⟩
    | exact .inr ⟨_, _, rfl, rfl, hfixed⟩
    | exact .inr ⟨_, _, rfl, rfl, hbits⟩
    | exact .inr ⟨_, _, rfl, rfl, hdouble⟩

/-- The objects of a valid range are parsed without a fault. -/
theorem parseRangeOfObjects_eq (record : HeaderRecord) {range : Range} (hvalid : range.isValid)
    (hstop : range.stop < 2 ^ 16) (buffer : List UInt8) :
    parseRangeOfObjects pHandler record range buffer s =
      .ok (App.RangeParser.parseRangeOfObjects pHandler record range buffer s) := by
  unfold parseRangeOfObjects App.RangeParser.parseRangeOfObjects
  split_ifs
  · unfold parseRangeOfOctetData App.RangeParser.parseRangeOfOctetData
    split_ifs
    · have hrefines := fromFixedSize_refines record hvalid hstop
        [record.variation.toNat] (by simpa using record.variation.toNat_lt)
      rw [List.sum_singleton] at hrefines
      exact hrefines.process_eq pHandler s buffer
    · rfl
  · obtain ⟨hnone, hnone'⟩ | ⟨q, p, hq, hp, hrefines⟩ := select_refines record hvalid hstop
    · rw [hnone, hnone']
    · rw [hq, hp]
      exact hrefines.process_eq pHandler s buffer

/-- A header with a range is parsed without a fault. -/
theorem parseHeader_eq (numparser : NumParser) (settings : ParserSettings) (record : HeaderRecord)
    (buffer : List UInt8) :
    parseHeader pHandler numparser settings record buffer s =
      .ok (App.RangeParser.parseHeader pHandler numparser settings record buffer s) := by
  unfold parseHeader App.RangeParser.parseHeader
  rw [parseRange_eq]
  cases hrange : numparser.parseRange buffer with
  | error result => rfl
  | ok value =>
    obtain ⟨range, rest⟩ := value
    obtain ⟨hvalid, hstop⟩ := NumParser.parseRange_spec hrange
    change (if settings.expectContents then _ else _) = _
    dsimp only
    split_ifs
    · exact parseRangeOfObjects_eq pHandler s record hvalid hstop rest
    · rfl

end RangeParser

namespace CountIndexParser

/-- The objects with index prefixes are parsed as in the model. -/
theorem from'_refines (record : HeaderRecord) (numparser : NumParser) {count : ℕ}
    (hcount : count < 2 ^ 16) (fields : List ℕ) (hfields : fields.sum < 256) :
    (from' record numparser count fields).Refines
      (App.CountIndexParser.from' record numparser count fields.sum) where
  requiredSize := by
    have hbytes : numparser.numBytes ≤ 2 := by
      cases numparser <;> decide
    have hsize : count * (fields.sum + numparser.numBytes) ≤ 2 ^ 16 * 257 :=
      Nat.mul_le_mul hcount.le (by omega)
    simp only [from', App.CountIndexParser.from']
    rw [uint32_of_lt (by omega)]
    exact uint32_of_lt (by omega)
  call bytes hlen := by
    simp only [from', foreach_readPrefixed hlen]
    rfl
  isLocal := App.CountIndexParser.from'_isLocal record numparser count fields.sum

/-- The objects of a count with index prefixes are parsed without a fault. -/
theorem parseCountOfObjects_eq (record : HeaderRecord) (numparser : NumParser) {count : ℕ}
    (hcount : count < 2 ^ 16) (buffer : List UInt8) :
    parseCountOfObjects pHandler record numparser count buffer s =
      .ok (App.CountIndexParser.parseCountOfObjects pHandler record numparser count buffer s) := by
  unfold parseCountOfObjects App.CountIndexParser.parseCountOfObjects
  split_ifs
  · unfold parseIndexPrefixedOctetData App.CountIndexParser.parseIndexPrefixedOctetData
    split_ifs
    · rfl
    · have hrefines := from'_refines record numparser hcount
        [record.variation.toNat] (by simpa using record.variation.toNat_lt)
      rw [List.sum_singleton] at hrefines
      exact hrefines.process_eq pHandler s buffer
  · have hsize := size_le record.enumeration
    have hrefines := from'_refines record numparser hcount record.enumeration.fields
      (by rw [record.enumeration.sum_fields]; omega)
    rw [record.enumeration.sum_fields] at hrefines
    exact hrefines.process_eq pHandler s buffer
  · rfl

/-- A header with a count and index prefixes is parsed without a fault. -/
theorem parseHeader_eq (numparser : NumParser) (record : HeaderRecord) (buffer : List UInt8) :
    parseHeader pHandler numparser record buffer s =
      .ok (App.CountIndexParser.parseHeader pHandler numparser record buffer s) := by
  unfold parseHeader App.CountIndexParser.parseHeader
  rw [parseCount_eq]
  cases hcount : numparser.parseCount buffer with
  | error result => rfl
  | ok value =>
    obtain ⟨count, rest⟩ := value
    exact parseCountOfObjects_eq pHandler s record numparser (NumParser.parseCount_lt hcount) rest

end CountIndexParser

namespace FreeFormatParser

open App.FreeFormatParser (Layout layout)

/-- The lengths at the start of a free format object are read without a fault. -/
theorem readLengths_eq {n : ℕ} {input : List UInt8} (h : 2 * n ≤ input.length) :
    readLengths n input = .ok (App.FreeFormatParser.readLengths n input, input.drop (2 * n)) := by
  induction n generalizing input with
  | zero => rfl
  | succ n ih =>
    have htake : (readUInt16 (input.take 2)) = readUInt16 input := by
      rw [← readUInt16_append (input.take 2) (input.drop 2) (by rw [List.length_take]; omega),
        List.take_append_drop]
    rw [readLengths, readBuffer_of_le (by omega)]
    change (readLengths n (input.drop 2)).bind _ = _
    rw [ih (by rw [List.length_drop]; omega), List.drop_drop, Nat.mul_succ, Nat.add_comm (2 * n)]
    change Except.ok ((readUInt16 (input.take 2)).toNat :: _, _) = _
    rw [htake]
    rfl

/-- The lengths of a few fields are far below `2 ^ 32`. -/
theorem sum_readLengths_le (n : ℕ) (input : List UInt8) :
    (App.FreeFormatParser.readLengths n input).sum ≤ n * 2 ^ 16 := by
  induction n generalizing input with
  | zero => exact Nat.zero_le _
  | succ n ih =>
    have hlength := (readUInt16 input).toNat_lt
    have hrest := ih (input.drop 2)
    rw [App.FreeFormatParser.readLengths, List.sum_cons]
    omega

/-- The fields that these are the lengths of are read without a fault. -/
theorem readPrefixFields_eq {n : ℕ} (hn : n ≤ 3) (input : List UInt8) :
    readPrefixFields n input = .ok (App.FreeFormatParser.readPrefixFields n input) := by
  unfold readPrefixFields App.FreeFormatParser.readPrefixFields
  split_ifs with hlen
  · rfl
  · have hsum := sum_readLengths_le n input
    rw [readLengths_eq (Nat.le_of_not_lt hlen)]
    change (uint32 (App.FreeFormatParser.readLengths n input).sum).bind _ = _
    rw [uint32_of_lt (by omega)]
    rfl

/-- An object has its fixed fields when it is not below its least size. -/
theorem layout_spec {gv : GroupVariation} {l : Layout} (h : layout gv = some l) :
    l.fixedSize ≤ l.minSize ∧ l.numPrefix ≤ 3 := by
  unfold layout at h
  split at h <;> cases h <;> decide

/-- An object of a free format is read without a fault. -/
theorem read_eq {gv : GroupVariation} {l : Layout} (h : layout gv = some l) (object : List UInt8) :
    read l object = .ok (App.FreeFormatParser.read l object) := by
  obtain ⟨hfixed, hprefix⟩ := layout_spec h
  unfold read App.FreeFormatParser.read
  split_ifs with hlen
  · rfl
  · rw [readBuffer_of_le (by omega)]
    change (readPrefixFields l.numPrefix (object.drop l.fixedSize)).bind _ = _
    rw [readPrefixFields_eq hprefix]
    cases App.FreeFormatParser.readPrefixFields l.numPrefix (object.drop l.fixedSize) <;> rfl

/-- A free format header is parsed without a fault. -/
theorem parseHeader_eq (record : HeaderRecord) (buffer : List UInt8) :
    parseHeader pHandler record buffer s =
      .ok (App.FreeFormatParser.parseHeader pHandler record buffer s) := by
  unfold parseHeader App.FreeFormatParser.parseHeader
  split_ifs with hlen
  · rfl
  · obtain ⟨count, low, high, rest, rfl⟩ := exists_three_cons hlen
    let size := (readUInt16 [low, high]).toNat
    -- The count and the size have been read, and the object decides what follows.
    cases hlayout : layout record.enumeration with
    | none =>
      change (if count.toNat ≠ 1 then .ok ⟨.UNREASONABLE_OBJECT_COUNT, rest, s⟩
        else if rest.length < size then .ok ⟨.NOT_ENOUGH_DATA_FOR_OBJECTS, rest, s⟩
        else .ok ⟨.INVALID_OBJECT_QUALIFIER, rest.drop size, s⟩ : Except Fault (Outcome σ)) =
        .ok (if count.toNat ≠ 1 then ⟨.UNREASONABLE_OBJECT_COUNT, rest, s⟩
          else if rest.length < size then ⟨.NOT_ENOUGH_DATA_FOR_OBJECTS, rest, s⟩
          else ⟨.INVALID_OBJECT_QUALIFIER, rest.drop size, s⟩)
      split_ifs <;> rfl
    | some l =>
      change (if count.toNat ≠ 1 then Except.ok ⟨.UNREASONABLE_OBJECT_COUNT, rest, s⟩
        else if rest.length < size then .ok ⟨.NOT_ENOUGH_DATA_FOR_OBJECTS, rest, s⟩
        else parseFreeFormat pHandler l record count.toNat (rest.take size) (rest.drop size) s) =
        .ok (if count.toNat ≠ 1 then ⟨.UNREASONABLE_OBJECT_COUNT, rest, s⟩
          else if rest.length < size then ⟨.NOT_ENOUGH_DATA_FOR_OBJECTS, rest, s⟩
          else App.FreeFormatParser.parseFreeFormat pHandler l record count.toNat (rest.take size)
            (rest.drop size) s)
      split_ifs with hone hshort
      · rfl
      · rfl
      · rw [parseFreeFormat, read_eq hlayout, App.FreeFormatParser.parseFreeFormat]
        cases App.FreeFormatParser.read l (rest.take size) <;> rfl

end FreeFormatParser

namespace APDUParser

/-- What follows the record of a header is parsed without a fault, whatever its qualifier. -/
theorem parseQualifier_eq (settings : ParserSettings) (record : HeaderRecord)
    (buffer : List UInt8) :
    parseQualifier pHandler settings record buffer s =
      .ok (App.APDUParser.parseQualifier pHandler settings record buffer s) := by
  unfold parseQualifier App.APDUParser.parseQualifier
  cases record.getQualifierCode with
  | UINT8_START_STOP => exact RangeParser.parseHeader_eq pHandler s _ _ _ _
  | UINT16_START_STOP => exact RangeParser.parseHeader_eq pHandler s _ _ _ _
  | ALL_OBJECTS => rfl
  | UINT8_CNT => exact CountParser.parseHeader_eq pHandler s _ _ _ _
  | UINT16_CNT => exact CountParser.parseHeader_eq pHandler s _ _ _ _
  | UINT8_CNT_UINT8_INDEX => exact CountIndexParser.parseHeader_eq pHandler s _ _ _
  | UINT16_CNT_UINT16_INDEX => exact CountIndexParser.parseHeader_eq pHandler s _ _ _
  | UINT16_FREE_FORMAT => exact FreeFormatParser.parseHeader_eq pHandler s _ _
  | UNDEFINED => rfl

/-- A header is parsed without a fault. -/
theorem parseHeader_eq (settings : ParserSettings) (count : ℕ) (buffer : List UInt8) :
    parseHeader pHandler pWhiteList settings count buffer s =
      .ok (App.APDUParser.parseHeader pHandler pWhiteList settings count buffer s) := by
  unfold parseHeader
  split_ifs with hlen
  · match buffer with
    | [] | [_] | [_, _] => rfl
    | _ :: _ :: _ :: _ =>
      simp only [List.length_cons] at hlen
      omega
  · obtain ⟨group, variation, qualifier, rest, rfl⟩ := exists_three_cons hlen
    let record : HeaderRecord :=
      { GroupVariationRecord.getRecord group variation with qualifier, headerIndex := count }
    let allowed := App.APDUParser.isAllowed pWhiteList count record s
    change (if record.enumeration = .UNKNOWN then Except.ok ⟨.UNKNOWN_OBJECT, rest, s⟩
      else if allowed.1 then parseQualifier pHandler settings record rest allowed.2
      else .ok ⟨.NOT_ON_WHITELIST, rest, allowed.2⟩) =
      .ok (if record.enumeration = .UNKNOWN then ⟨.UNKNOWN_OBJECT, rest, s⟩
        else if allowed.1 then App.APDUParser.parseQualifier pHandler settings record rest allowed.2
        else ⟨.NOT_ON_WHITELIST, rest, allowed.2⟩)
    split_ifs
    · rfl
    · exact parseQualifier_eq pHandler allowed.2 settings record rest
    · rfl

/-- A header that is parsed takes three bytes or more. -/
theorem length_of_ok {settings : ParserSettings} {count : ℕ} {buffer : List UInt8}
    (h : (App.APDUParser.parseHeader pHandler pWhiteList settings count buffer s).result = .OK) :
    (App.APDUParser.parseHeader pHandler pWhiteList settings count buffer s).buffer.length + 3 ≤
      buffer.length := by
  cases hrecord : App.APDUParser.recordReader count buffer with
  | error result =>
    obtain ⟨hne, hresult, -⟩ :=
      App.APDUParser.parseHeader_of_error pHandler s pWhiteList settings hrecord
    exact absurd (hresult.symm.trans h) hne
  | ok value =>
    obtain ⟨record, middle⟩ := value
    rw [App.APDUParser.parseHeader_of_record pHandler s pWhiteList hrecord] at h ⊢
    obtain ⟨hlen, -, rfl⟩ := Reader.block_eq_ok hrecord
    split_ifs at h with hallowed
    rw [if_pos hallowed]
    -- What follows the record is taken from the front of the rest.
    have hdelivers := App.APDUParser.parseQualifier_delivers pHandler
      (App.APDUParser.isAllowed pWhiteList count record s).2 settings record (buffer.drop 3)
    cases hread : App.APDUParser.qualifierReader settings record (buffer.drop 3) with
    | error result =>
      rw [hread] at hdelivers
      exact absurd (hdelivers.2.1.symm.trans h) hdelivers.1
    | ok value =>
      obtain ⟨call, rest⟩ := value
      rw [hread] at hdelivers
      obtain ⟨bytes, hbytes, -⟩ :=
        App.APDUParser.qualifierReader_isLocal settings record _ _ _ hread
      have hsum := congrArg List.length hbytes
      rw [List.length_append, List.length_drop] at hsum
      rw [show App.APDUParser.parseQualifier _ _ _ _ _ = _ from hdelivers]
      change rest.length + 3 ≤ buffer.length
      omega

/-- The rounds are enough, since every header takes three bytes or more. -/
theorem parseHeaders_eq (settings : ParserSettings) {rounds fuel count : ℕ} {buffer : List UInt8}
    (hrounds : buffer.length < 3 * rounds) (hfuel : buffer.length ≤ fuel) :
    parseHeaders pHandler pWhiteList settings rounds count buffer s =
      .ok (App.APDUParser.parseHeaders pHandler pWhiteList settings fuel count buffer s) := by
  induction rounds generalizing fuel count buffer s with
  | zero => omega
  | succ rounds ih =>
    match buffer, fuel with
    | [], fuel => simp [parseHeaders, App.APDUParser.parseHeaders]
    | byte :: bytes, 0 => simp at hfuel
    | byte :: bytes, fuel + 1 =>
      rw [parseHeaders, parseHeader_eq]
      change (if _ then _ else _) = _
      rw [App.APDUParser.parseHeaders]
      split_ifs with hok hlen
      · exact ih _ (by omega) (by omega)
      · exact absurd (length_of_ok pHandler pWhiteList s hok) hlen
      · rfl

/-- A pass over the headers is made without a fault. -/
theorem parseSinglePass_eq (settings : ParserSettings) (buffer : List UInt8) :
    parseSinglePass pHandler pWhiteList settings buffer s =
      .ok (App.APDUParser.parseSinglePass pHandler pWhiteList settings buffer s) :=
  parseHeaders_eq pHandler pWhiteList s settings (by omega) le_rfl

end APDUParser

end Checked

/-! ## What is delivered -/

/-- The handler is given as many values as the header says, with the indices that it says. -/
def HeaderCall.IsComplete (call : HeaderCall) : Prop :=
  match call with
  | .countValues _ n values => values.length = n
  | .rangeValues _ r values =>
    values.map Indexed.index = List.range' r.start r.count ∧ r.start + r.count ≤ 2 ^ 16
  | .prefixValues _ n values => values.length = n ∧ ∀ value ∈ values, value.index < 2 ^ 16
  | _ => True

/-- A collection has one value for each position. -/
theorem length_foreach {α : Type*} (read : List UInt8 → ℕ → α × List UInt8) (pos count : ℕ)
    (buffer : List UInt8) : (foreach read pos count buffer).length = count := by
  induction count generalizing pos buffer with
  | zero => rfl
  | succ count ih => rw [foreach, List.length_cons, ih]

/-- What every read has, the values of a collection have. -/
theorem forall_mem_foreach {α : Type*} {P : α → Prop} {read : List UInt8 → ℕ → α × List UInt8}
    (hread : ∀ buffer pos, P (read buffer pos).1) (pos count : ℕ) (buffer : List UInt8) :
    ∀ value ∈ foreach read pos count buffer, P value := by
  induction count generalizing pos buffer with
  | zero => exact List.forall_mem_nil _
  | succ count ih => exact List.forall_mem_cons.mpr ⟨hread buffer pos, ih _ _⟩

/-- The values of a range are delivered at the points of the range, in order. -/
theorem map_index_foreach {read : List UInt8 → ℕ → Indexed Value × List UInt8} {start : ℕ}
    (hread : ∀ buffer pos, (read buffer pos).1.index = start + pos) (pos count : ℕ)
    (buffer : List UInt8) :
    (foreach read pos count buffer).map Indexed.index = List.range' (start + pos) count := by
  induction count generalizing pos buffer with
  | zero => rfl
  | succ count ih =>
    rw [foreach, List.map_cons, hread, ih, List.range'_succ]
    rfl

/-- The calls for a count are complete. -/
theorem CountParser.reader_isComplete (numparser : NumParser) (settings : ParserSettings)
    (record : HeaderRecord) :
    (reader numparser settings record).Yields HeaderCall.IsComplete := by
  refine Reader.Yields.bind (fun _ _ _ _ => trivial) fun count _ => ?_
  split_ifs
  · exact ObjectParser.reader_yields fun _ => length_foreach ..
  · exact Reader.yields_fail _ _
  · exact Reader.yields_pure trivial

/-- The objects of a valid range are as many as its positions. -/
theorem RangeParser.select_isComplete {record : HeaderRecord} {range : Range} {p : ObjectParser}
    (hvalid : range.isValid) (hstop : range.stop < 2 ^ 16) (h : select record range = some p)
    (bytes : List UInt8) : (p.call bytes).IsComplete := by
  obtain ⟨hindex, -⟩ := range.start_add_count hvalid hstop
  unfold select at h
  split at h <;> simp only [Option.some.injEq, reduceCtorEq] at h <;> subst h <;>
    exact ⟨map_index_foreach (fun _ _ => rfl) 0 _ bytes, hindex⟩

/-- The calls for a range are complete. -/
theorem RangeParser.reader_isComplete (numparser : NumParser) (settings : ParserSettings)
    (record : HeaderRecord) :
    (reader numparser settings record).Yields HeaderCall.IsComplete := by
  have hrange : numparser.rangeReader.Yields fun range => range.isValid ∧ range.stop < 2 ^ 16 := by
    intro input range rest h
    rw [← numparser.parseRange_eq] at h
    exact NumParser.parseRange_spec h
  refine hrange.bind fun range hspec => ?_
  obtain ⟨hvalid, hstop⟩ := hspec
  unfold objects
  split_ifs
  · exact ObjectParser.reader_yields fun bytes =>
      ⟨map_index_foreach (fun _ _ => rfl) 0 _ bytes, (range.start_add_count hvalid hstop).1⟩
  · exact Reader.yields_fail _ _
  · split
    case h_1 parser hselect =>
      exact ObjectParser.reader_yields (select_isComplete hvalid hstop hselect)
    case h_2 hselect => exact Reader.yields_fail _ _
  · exact Reader.yields_pure trivial

/-- The calls for a count with index prefixes are complete. -/
theorem CountIndexParser.reader_isComplete (numparser : NumParser) (record : HeaderRecord) :
    (reader numparser record).Yields HeaderCall.IsComplete := by
  refine Reader.Yields.bind (fun _ _ _ _ => trivial) fun count _ => ?_
  have hvalues : ∀ size bytes, ((from' record numparser count size).call bytes).IsComplete := by
    intro size bytes
    refine ⟨length_foreach .., ?_⟩
    -- An index is read by the number parser.
    exact forall_mem_foreach (P := fun value : Indexed Value => value.index < 2 ^ 16)
      (fun buffer _ => numparser.readNum_lt buffer) 0 count bytes
  unfold objects
  split_ifs
  · exact Reader.yields_fail _ _
  · exact ObjectParser.reader_yields (hvalues _)
  · exact ObjectParser.reader_yields (hvalues _)
  · exact Reader.yields_fail _ _

/-- The calls for a free format object are complete. -/
theorem FreeFormatParser.reader_isComplete (record : HeaderRecord) :
    (reader record).Yields HeaderCall.IsComplete := by
  refine Reader.Yields.bind (fun _ _ _ _ => trivial) fun size _ => ?_
  refine Reader.yields_block fun object call h => ?_
  grind [HeaderCall.IsComplete]

namespace APDUParser

/-- The calls for a header are complete, whatever its qualifier. -/
theorem headerReader_isComplete (settings : ParserSettings) (count : ℕ) :
    (headerReader settings count).Yields HeaderCall.IsComplete := by
  refine Reader.Yields.bind (fun _ _ _ _ => trivial) fun record _ => ?_
  unfold qualifierReader
  cases record.getQualifierCode with
  | UINT8_START_STOP => exact RangeParser.reader_isComplete _ _ _
  | UINT16_START_STOP => exact RangeParser.reader_isComplete _ _ _
  | ALL_OBJECTS => exact Reader.yields_pure trivial
  | UINT8_CNT => exact CountParser.reader_isComplete _ _ _
  | UINT16_CNT => exact CountParser.reader_isComplete _ _ _
  | UINT8_CNT_UINT8_INDEX => exact CountIndexParser.reader_isComplete _ _
  | UINT16_CNT_UINT16_INDEX => exact CountIndexParser.reader_isComplete _ _
  | UINT16_FREE_FORMAT => exact FreeFormatParser.reader_isComplete _
  | UNDEFINED => exact Reader.yields_fail _ _

/-- No fault occurs while a fragment is parsed: the passes end, every header takes three bytes or
more, every value that the handler takes lies in the bytes of its header, and sizes and indices stay
in range. Every header is delivered with all of its values at their indices. -/
theorem parse_checked (handler : IAPDUHandler σ) (settings : ParserSettings) (buffer : List UInt8)
    (state : σ) :
    Checked.APDUParser.parse handler settings buffer state =
        .ok (parse handler settings buffer state) ∧
      ∀ call ∈ (parse handler settings buffer state).2.calls, call.IsComplete := by
  constructor
  · unfold Checked.APDUParser.parse parse
    rw [Checked.APDUParser.parseSinglePass_eq]
    generalize parseSinglePass none (some handler) settings buffer { state } = first
    obtain ⟨result, s⟩ := first
    change (if result = .OK then Checked.APDUParser.parseSinglePass (some handler) none settings
      buffer s else .ok (result, s)) = _
    dsimp only
    split_ifs
    · exact Checked.APDUParser.parseSinglePass_eq ..
    · rfl
  · have hparsed := (parse_parsed handler settings buffer state).1
    generalize parse handler settings buffer state = r at hparsed
    cases hparsed with
    | refused hresult hcalls =>
      rw [hcalls]
      exact List.forall_mem_nil _
    | accepted hsegments hallows => exact hsegments.forall_mem (headerReader_isComplete settings)

end APDUParser

end OpenDnp3.App
