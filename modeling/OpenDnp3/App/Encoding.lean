import OpenDnp3.App.HeaderWriter
import OpenDnp3.App.ParserSpec
import Mathlib.Tactic.Ring

/-!
# The bytes of object headers

What the iterators of `HeaderWriter` leave in the buffer, and that the parser takes it back: the
readers of `ParserSpec` undo what is written here, and what they take is written again to the same
bytes.
-/

namespace OpenDnp3.App

/-- `GroupVariationToType`. -/
def GroupVariation.toType : GroupVariation → ℕ
  | Group1Var0 => 0x100
  | Group1Var1 => 0x101
  | Group1Var2 => 0x102
  | Group2Var0 => 0x200
  | Group2Var1 => 0x201
  | Group2Var2 => 0x202
  | Group2Var3 => 0x203
  | Group3Var0 => 0x300
  | Group3Var1 => 0x301
  | Group3Var2 => 0x302
  | Group4Var0 => 0x400
  | Group4Var1 => 0x401
  | Group4Var2 => 0x402
  | Group4Var3 => 0x403
  | Group10Var0 => 0xA00
  | Group10Var1 => 0xA01
  | Group10Var2 => 0xA02
  | Group11Var0 => 0xB00
  | Group11Var1 => 0xB01
  | Group11Var2 => 0xB02
  | Group12Var0 => 0xC00
  | Group12Var1 => 0xC01
  | Group13Var1 => 0xD01
  | Group13Var2 => 0xD02
  | Group20Var0 => 0x1400
  | Group20Var1 => 0x1401
  | Group20Var2 => 0x1402
  | Group20Var5 => 0x1405
  | Group20Var6 => 0x1406
  | Group21Var0 => 0x1500
  | Group21Var1 => 0x1501
  | Group21Var2 => 0x1502
  | Group21Var5 => 0x1505
  | Group21Var6 => 0x1506
  | Group21Var9 => 0x1509
  | Group21Var10 => 0x150A
  | Group22Var0 => 0x1600
  | Group22Var1 => 0x1601
  | Group22Var2 => 0x1602
  | Group22Var5 => 0x1605
  | Group22Var6 => 0x1606
  | Group23Var0 => 0x1700
  | Group23Var1 => 0x1701
  | Group23Var2 => 0x1702
  | Group23Var5 => 0x1705
  | Group23Var6 => 0x1706
  | Group30Var0 => 0x1E00
  | Group30Var1 => 0x1E01
  | Group30Var2 => 0x1E02
  | Group30Var3 => 0x1E03
  | Group30Var4 => 0x1E04
  | Group30Var5 => 0x1E05
  | Group30Var6 => 0x1E06
  | Group32Var0 => 0x2000
  | Group32Var1 => 0x2001
  | Group32Var2 => 0x2002
  | Group32Var3 => 0x2003
  | Group32Var4 => 0x2004
  | Group32Var5 => 0x2005
  | Group32Var6 => 0x2006
  | Group32Var7 => 0x2007
  | Group32Var8 => 0x2008
  | Group40Var0 => 0x2800
  | Group40Var1 => 0x2801
  | Group40Var2 => 0x2802
  | Group40Var3 => 0x2803
  | Group40Var4 => 0x2804
  | Group41Var0 => 0x2900
  | Group41Var1 => 0x2901
  | Group41Var2 => 0x2902
  | Group41Var3 => 0x2903
  | Group41Var4 => 0x2904
  | Group42Var0 => 0x2A00
  | Group42Var1 => 0x2A01
  | Group42Var2 => 0x2A02
  | Group42Var3 => 0x2A03
  | Group42Var4 => 0x2A04
  | Group42Var5 => 0x2A05
  | Group42Var6 => 0x2A06
  | Group42Var7 => 0x2A07
  | Group42Var8 => 0x2A08
  | Group43Var1 => 0x2B01
  | Group43Var2 => 0x2B02
  | Group43Var3 => 0x2B03
  | Group43Var4 => 0x2B04
  | Group43Var5 => 0x2B05
  | Group43Var6 => 0x2B06
  | Group43Var7 => 0x2B07
  | Group43Var8 => 0x2B08
  | Group50Var1 => 0x3201
  | Group50Var3 => 0x3203
  | Group50Var4 => 0x3204
  | Group51Var1 => 0x3301
  | Group51Var2 => 0x3302
  | Group52Var1 => 0x3401
  | Group52Var2 => 0x3402
  | Group60Var1 => 0x3C01
  | Group60Var2 => 0x3C02
  | Group60Var3 => 0x3C03
  | Group60Var4 => 0x3C04
  | Group70Var1 => 0x4601
  | Group70Var2 => 0x4602
  | Group70Var3 => 0x4603
  | Group70Var4 => 0x4604
  | Group70Var5 => 0x4605
  | Group70Var6 => 0x4606
  | Group70Var7 => 0x4607
  | Group70Var8 => 0x4608
  | Group80Var1 => 0x5001
  | Group110Var0 => 0x6E00
  | Group111Var0 => 0x6F00
  | Group112Var0 => 0x7000
  | Group113Var0 => 0x7100
  | Group120Var1 => 0x7801
  | Group120Var2 => 0x7802
  | Group120Var3 => 0x7803
  | Group120Var4 => 0x7804
  | Group120Var5 => 0x7805
  | Group120Var6 => 0x7806
  | Group120Var7 => 0x7807
  | Group120Var8 => 0x7808
  | Group120Var9 => 0x7809
  | Group120Var10 => 0x780A
  | Group120Var11 => 0x780B
  | Group120Var12 => 0x780C
  | Group120Var13 => 0x780D
  | Group120Var14 => 0x780E
  | Group120Var15 => 0x780F
  | Group121Var0 => 0x7900
  | Group121Var1 => 0x7901
  | Group122Var0 => 0x7A00
  | Group122Var1 => 0x7A01
  | Group122Var2 => 0x7A02
  | UNKNOWN => 0xFFFF

/-- A known object is told by its number. -/
theorem GroupVariation.fromType_toType (gv : GroupVariation) : fromType gv.toType = gv := by
  cases gv <;> rfl

/-- Group and variation take two bytes. -/
theorem GroupVariation.toType_lt (gv : GroupVariation) : gv.toType < 2 ^ 16 := by
  cases gv <;> decide

/-- The number of an object that is known. -/
theorem GroupVariation.toType_fromType {n : ℕ} (h : fromType n ≠ .UNKNOWN) :
    (fromType n).toType = n := by
  revert h
  unfold fromType
  split <;> intro h <;> first | rfl | exact absurd rfl h

/-! ## Numbers -/

/-- `WriteBuffer` of an index type. -/
def writeNum : IndexType → ℕ → List UInt8
  | .UInt8, n => [UInt8.ofNat n]
  | .UInt16, n => writeUInt16 (UInt16.ofNat n)

/-- The number parser for what an index type writes. -/
def numParser : IndexType → NumParser
  | .UInt8 => .oneByte
  | .UInt16 => .twoByte

/-- The qualifier of a count with index prefixes. -/
def countIndexCode : IndexType → QualifierCode
  | .UInt8 => .UINT8_CNT_UINT8_INDEX
  | .UInt16 => .UINT16_CNT_UINT16_INDEX

/-- The qualifier of a start and a stop index. -/
def startStopCode : IndexType → QualifierCode
  | .UInt8 => .UINT8_START_STOP
  | .UInt16 => .UINT16_START_STOP

/-- The qualifier of a count. -/
def countCode : IndexType → QualifierCode
  | .UInt8 => .UINT8_CNT
  | .UInt16 => .UINT16_CNT

/-- A number takes the bytes of its type of index. -/
@[simp]
theorem length_writeNum (index : IndexType) (n : ℕ) : (writeNum index n).length = index.size := by
  cases index <;> rfl

/-- The parser of a number reads the bytes of its type of index. -/
@[simp]
theorem numBytes_numParser (index : IndexType) : (numParser index).numBytes = index.size := by
  cases index <;> rfl

/-- A number that the type of index has is kept by a cast to it. -/
theorem cast_of_le {index : IndexType} {n : ℕ} (h : n ≤ index.max) : index.cast n = n :=
  Nat.mod_eq_of_lt (Nat.lt_succ_of_le h)

/-- A cast to a type of index leads to one of its numbers. -/
theorem cast_le (index : IndexType) (n : ℕ) : index.cast n ≤ index.max :=
  Nat.le_of_lt_succ (Nat.mod_lt _ (Nat.succ_pos _))

/-- A number of the type is read as it was written. -/
theorem readNum_writeNum {index : IndexType} {n : ℕ} (h : n ≤ index.max) (rest : List UInt8) :
    (numParser index).readNum (writeNum index n ++ rest) = (n, rest) := by
  cases index with
  | UInt8 =>
    have hlt : n < 2 ^ 8 := Nat.lt_succ_of_le h
    simpa [numParser, writeNum, NumParser.readNum] using hlt
  | UInt16 =>
    have hlt : n < 2 ^ 16 := Nat.lt_succ_of_le h
    have hnum := readUInt16_writeUInt16 (UInt16.ofNat n) rest
    simp only [numParser, writeNum, NumParser.readNum, hnum]
    rw [UInt16.toNat_ofNat_of_lt' hlt]
    rfl

/-- A number is written as it was read. -/
theorem writeNum_readNum (index : IndexType) (buffer : List UInt8)
    (h : index.size ≤ buffer.length) :
    writeNum index ((numParser index).readNum buffer).1 = buffer.take index.size ∧
      ((numParser index).readNum buffer).2 = buffer.drop index.size ∧
      ((numParser index).readNum buffer).1 ≤ index.max := by
  cases index with
  | UInt8 =>
    obtain ⟨byte, rest, rfl⟩ := List.exists_cons_of_length_pos h
    refine ⟨?_, rfl, Nat.le_of_lt_succ byte.toNat_lt⟩
    simp [numParser, writeNum, NumParser.readNum, IndexType.size]
  | UInt16 =>
    obtain ⟨low, tail, rfl⟩ := List.exists_cons_of_length_pos
      (Nat.lt_of_succ_le (Nat.le_of_succ_le h))
    obtain ⟨high, rest, rfl⟩ := List.exists_cons_of_length_pos (Nat.le_of_succ_le_succ h)
    refine ⟨?_, rfl, Nat.le_of_lt_succ (readUInt16 _).toNat_lt⟩
    simp only [numParser, writeNum, NumParser.readNum, UInt16.ofNat_toNat, writeUInt16_readUInt16]
    rfl

/-! ## Headers -/

/-- `ID` of a serializer. The variation of an octet string is its size. -/
def DNP3Serializer.id (s : DNP3Serializer) : UInt8 × UInt8 :=
  match s.gv with
  | .Group110Var0 => (110, UInt8.ofNat s.size)
  | .Group111Var0 => (111, UInt8.ofNat s.size)
  | gv => (UInt8.ofNat (gv.toType / 256), UInt8.ofNat (gv.toType % 256))

/-- The first three bytes of a header. -/
def headerBytes (s : DNP3Serializer) (code : QualifierCode) : List UInt8 :=
  [s.id.1, s.id.2, code.toType]

/-- A byte that is a qualifier code is the one that the code is written as. -/
theorem QualifierCode.toType_fromType {byte : UInt8} (h : fromType byte ≠ .UNDEFINED) :
    (fromType byte).toType = byte := by
  apply UInt8.toNat_inj.mp
  revert h
  unfold fromType
  split <;> intro h <;> first | exact (by assumption : byte.toNat = _).symm | exact absurd rfl h

/-- The record that the parser makes of the first three bytes of a header. -/
def headerRecord (s : DNP3Serializer) (code : QualifierCode) (count : ℕ) : HeaderRecord :=
  { GroupVariationRecord.getRecord s.id.1 s.id.2 with
    qualifier := code.toType, headerIndex := count }

/-- The octet strings and their events are the only objects of their groups. -/
theorem GroupVariation.octets_of_toType {gv : GroupVariation} :
    (gv.toType / 256 = 110 → gv = .Group110Var0) ∧
    (gv.toType / 256 = 111 → gv = .Group111Var0) := by
  constructor <;> intro h <;> cases gv <;> first | rfl | exact absurd h (by decide)

/-- Every variation of the groups 110 and 111 is an octet string. -/
theorem getEnum_octets (variation : UInt8) :
    GroupVariationRecord.getEnum 110 variation = .Group110Var0 ∧
      GroupVariationRecord.getEnum 111 variation = .Group111Var0 := by
  have hlt := variation.toNat_lt
  -- Whatever the variation, the number is of no other object.
  have hnumber : ∀ {n}, GroupVariation.fromType n ≠ .UNKNOWN →
      (GroupVariation.fromType n).toType / 256 = n / 256 := fun h =>
    congrArg (· / 256) (GroupVariation.toType_fromType h)
  unfold GroupVariationRecord.getEnum
  constructor <;> split
  · rfl
  · rename_i hne
    exact GroupVariation.octets_of_toType.1 ((hnumber hne).trans (by simp; omega))
  · rfl
  · rename_i hne
    exact GroupVariation.octets_of_toType.2 ((hnumber hne).trans (by simp; omega))

/-- The identification of an object is known for the object. -/
theorem getEnum_id (s : DNP3Serializer) : GroupVariationRecord.getEnum s.id.1 s.id.2 = s.gv := by
  obtain ⟨gv, size⟩ := s
  by_cases h110 : gv = .Group110Var0
  · subst h110
    exact (getEnum_octets _).1
  by_cases h111 : gv = .Group111Var0
  · subst h111
    exact (getEnum_octets _).2
  have hid : DNP3Serializer.id { gv, size } =
      (UInt8.ofNat (gv.toType / 256), UInt8.ofNat (gv.toType % 256)) := by
    unfold DNP3Serializer.id
    split <;> first | contradiction | rfl
  have hlt := gv.toType_lt
  have hgroup : (UInt8.ofNat (gv.toType / 256)).toNat = gv.toType / 256 :=
    UInt8.toNat_ofNat_of_lt' (by change _ < 256; omega)
  have hvariation : (UInt8.ofNat (gv.toType % 256)).toNat = gv.toType % 256 :=
    UInt8.toNat_ofNat_of_lt' (by change _ < 256; omega)
  -- The two bytes make up the number of the object again.
  have hnumber : gv.toType / 256 * 256 + gv.toType % 256 = gv.toType := by omega
  rw [hid]
  unfold GroupVariationRecord.getEnum
  rw [hgroup, hvariation, hnumber, GroupVariation.fromType_toType]
  cases gv <;> rfl

/-- An object with a number of its own is known by no other identification. -/
theorem id_getEnum {group variation : UInt8} {gv : GroupVariation}
    (h : GroupVariationRecord.getEnum group variation = gv) (hunknown : gv ≠ .UNKNOWN)
    (h110 : gv ≠ .Group110Var0) (h111 : gv ≠ .Group111Var0) (h112 : gv ≠ .Group112Var0)
    (h113 : gv ≠ .Group113Var0) (size : ℕ) :
    DNP3Serializer.id { gv, size } = (group, variation) := by
  have hnumber : gv.toType = group.toNat * 256 + variation.toNat := by
    unfold GroupVariationRecord.getEnum at h
    split at h
    · split at h <;> exact absurd h.symm (by assumption)
    · rename_i hne
      subst h
      exact GroupVariation.toType_fromType fun hunknown => hne hunknown
  have hid : DNP3Serializer.id { gv, size } =
      (UInt8.ofNat (gv.toType / 256), UInt8.ofNat (gv.toType % 256)) := by
    unfold DNP3Serializer.id
    split <;> first | contradiction | rfl
  have hlt := variation.toNat_lt
  have hgroup : gv.toType / 256 = group.toNat := by omega
  have hvariation : gv.toType % 256 = variation.toNat := by omega
  rw [hid, hgroup, hvariation, UInt8.ofNat_toNat, UInt8.ofNat_toNat]

/-- A qualifier code is read back from its byte. -/
theorem QualifierCode.fromType_toType (code : QualifierCode) : fromType code.toType = code := by
  cases code <;> rfl

/-- The record of a header that was written has the enumeration of its serializer. -/
@[simp]
theorem enumeration_headerRecord (s : DNP3Serializer) (code : QualifierCode) (count : ℕ) :
    (headerRecord s code count).enumeration = s.gv :=
  getEnum_id s

/-- The record of a header that was written has its qualifier code. -/
@[simp]
theorem getQualifierCode_headerRecord (s : DNP3Serializer) (code : QualifierCode) (count : ℕ) :
    (headerRecord s code count).getQualifierCode = code :=
  QualifierCode.fromType_toType code

/-- The variation of an octet string is its size. -/
theorem variation_headerRecord {s : DNP3Serializer}
    (hgv : s.gv = .Group110Var0 ∨ s.gv = .Group111Var0) (hsize : s.size < 256)
    (code : QualifierCode) (count : ℕ) :
    (headerRecord s code count).variation.toNat = s.size := by
  have hvariation : (headerRecord s code count).variation = UInt8.ofNat s.size := by
    obtain ⟨gv, size⟩ := s
    obtain rfl | rfl : gv = .Group110Var0 ∨ gv = .Group111Var0 := hgv <;> rfl
  rw [hvariation, UInt8.toNat_ofNat_of_lt' hsize]

/-- The first three bytes of a header are read as its record. -/
theorem recordReader_headerBytes {s : DNP3Serializer} (h : s.gv ≠ .UNKNOWN) (code : QualifierCode)
    (count : ℕ) (rest : List UInt8) :
    APDUParser.recordReader count (headerBytes s code ++ rest) =
      .ok (headerRecord s code count, rest) := by
  have hlen : ¬(headerBytes s code ++ rest).length < 3 := by simp [headerBytes]
  have hknown : (headerRecord s code count).enumeration ≠ .UNKNOWN := by simpa using h
  unfold APDUParser.recordReader Reader.block
  rw [if_neg hlen]
  simp only [headerBytes, List.cons_append, List.nil_append, List.take_succ_cons, List.take_zero,
    List.getD_cons_zero, List.getD_cons_succ]
  rw [if_neg (by exact hknown)]
  rfl

/-- A count that is not zero is read as it was written. -/
theorem countReader_writeNum {index : IndexType} {n : ℕ} (hpos : 0 < n) (h : n ≤ index.max)
    (rest : List UInt8) :
    (numParser index).countReader (writeNum index n ++ rest) = .ok (n, rest) := by
  have hread := readNum_writeNum h rest
  rw [← NumParser.parseCount_eq]
  unfold NumParser.parseCount
  rw [if_neg (by simp), hread]
  exact if_neg hpos.ne'

/-! ## Fragments -/

/-- A handler with every header on its white-list, which does nothing. -/
def everyHeader : IAPDUHandler Unit where
  isAllowed _ _ _ _ := (true, ())
  onHeader _ _ := ()

/-- The headers of objects that the parser accepts. -/
def parsedHeaders (objects : List UInt8) : Option (List HeaderCall) :=
  let (result, handled) := APDUParser.parse everyHeader {} objects ()
  if result = .OK then some handled.calls else none

/-- Every header is allowed, so the white-list decides nothing. -/
theorem allows_of_forall {σ : Type*} {handler : IAPDUHandler σ}
    (h : ∀ state count gv qc, handler.isAllowed state count gv qc = (true, state)) (state : σ)
    (headers : List HeaderCall) : APDUParser.Allows handler state headers state := by
  induction headers with
  | nil => rfl
  | cons header headers ih => exact ⟨state, h .., ih⟩

/-- Where the readers of headers segment the objects, the parser accepts these headers. -/
theorem parsedHeaders_of_segments {objects : List UInt8} {headers : List HeaderCall}
    (h : Reader.Segments (APDUParser.headerReader {}) 0 objects headers) :
    parsedHeaders objects = some headers := by
  unfold parsedHeaders
  rw [APDUParser.parse_of_segments everyHeader h (allows_of_forall (fun _ _ _ _ => rfl) () headers)]
  rfl

/-- Nothing is accepted when a header is not read, whatever comes before it. -/
theorem parsedHeaders_append_of_error {before objects : List UInt8} {headers : List HeaderCall}
    (hbefore : Reader.Segments (APDUParser.headerReader {}) 0 before headers) {result : ParseResult}
    (hne : objects ≠ []) (h : APDUParser.headerReader {} headers.length objects = .error result) :
    parsedHeaders (before ++ objects) = none := by
  unfold parsedHeaders
  have hparsed := (APDUParser.parse_parsed everyHeader {} (before ++ objects) ()).1
  generalize APDUParser.parse everyHeader {} (before ++ objects) () = outcome at hparsed ⊢
  cases hparsed with
  | refused hresult _ => exact if_neg hresult
  | accepted hsegments _ =>
    obtain ⟨more, -, hmore⟩ := hbefore.right hsegments
    rw [Nat.zero_add] at hmore
    cases hmore with
    | nil _ => exact absurd rfl hne
    | cons _ htakes _ =>
      rw [htakes] at h
      cases h

/-- Nothing is accepted when the first header is not read. -/
theorem parsedHeaders_of_error {objects : List UInt8} {result : ParseResult} (hne : objects ≠ [])
    (h : APDUParser.headerReader {} 0 objects = .error result) : parsedHeaders objects = none :=
  parsedHeaders_append_of_error (.nil 0) hne h

/-- The first header that is accepted is the one that is read first. -/
theorem headerReader_of_parsedHeaders {objects : List UInt8} {header : HeaderCall}
    {headers : List HeaderCall} (h : parsedHeaders objects = some (header :: headers)) :
    ∃ rest, APDUParser.headerReader {} 0 objects = .ok (header, rest) := by
  unfold parsedHeaders at h
  have hparsed := (APDUParser.parse_parsed everyHeader {} objects ()).1
  generalize APDUParser.parse everyHeader {} objects () = outcome at hparsed h
  cases hparsed with
  | refused hresult _ =>
    exact absurd ((if_neg hresult).symm.trans h) (by simp)
  | accepted hsegments _ =>
    obtain rfl := Option.some.inj h
    cases hsegments with
    | cons _ htakes _ => exact ⟨_, htakes _⟩

/-! ## Objects with an index prefix -/

/-- The bytes that `PrefixedWriteIterator::Write` puts for each object. -/
def prefixedBytes (index : IndexType) (objects : List (ℕ × List UInt8)) : List UInt8 :=
  objects.flatMap fun object => writeNum index object.1 ++ object.2

/-- The first object is written before the others, with its index. -/
theorem prefixedBytes_cons (index : IndexType) (object : ℕ × List UInt8)
    (objects : List (ℕ × List UInt8)) :
    prefixedBytes index (object :: objects) =
      writeNum index object.1 ++ (object.2 ++ prefixedBytes index objects) := by
  simp only [prefixedBytes, List.flatMap_cons, List.append_assoc]

/-- The bytes of a header that a `PrefixedWriteIterator` has completed. -/
def countIndexBytes (s : DNP3Serializer) (index : IndexType) (objects : List (ℕ × List UInt8)) :
    List UInt8 :=
  headerBytes s (countIndexCode index) ++
    (writeNum index (index.cast objects.length) ++ prefixedBytes index objects)

/-- The values that the parser delivers for the objects. -/
def prefixedValues (objects : List (ℕ × List UInt8)) : List (Indexed Value) :=
  objects.map fun object => { value := .object object.2, index := object.1 }

/-- The object may stand in a header with index prefixes. -/
def DNP3Serializer.IsPrefixed (s : DNP3Serializer) : Prop :=
  s.gv = .Group111Var0 ∧ 0 < s.size ∧ s.size < 256 ∨
    s.gv ≠ .Group111Var0 ∧ CountIndexParser.supports s.gv ∧ s.size = s.gv.size

/-- The objects with index prefixes have a known group and variation. -/
theorem DNP3Serializer.IsPrefixed.ne_unknown {s : DNP3Serializer} (h : s.IsPrefixed) :
    s.gv ≠ .UNKNOWN := by
  intro hgv
  rw [IsPrefixed, hgv] at h
  simp [CountIndexParser.supports] at h

/-- The objects fit the header: their indices the index type and their bytes the serializer. -/
def FitsIn (s : DNP3Serializer) (index : IndexType) (objects : List (ℕ × List UInt8)) : Prop :=
  ∀ object ∈ objects, object.1 ≤ index.max ∧ object.2.length = s.size

/-- Objects are written one after the other. -/
theorem prefixedBytes_append (index : IndexType) (objects objects' : List (ℕ × List UInt8)) :
    prefixedBytes index (objects ++ objects') =
      prefixedBytes index objects ++ prefixedBytes index objects' :=
  List.flatMap_append

/-- Every object takes its own bytes and those of its index. -/
theorem length_prefixedBytes {s : DNP3Serializer} {index : IndexType}
    {objects : List (ℕ × List UInt8)} (h : FitsIn s index objects) :
    (prefixedBytes index objects).length = objects.length * (s.size + index.size) := by
  induction objects with
  | nil => simp [prefixedBytes]
  | cons object objects ih =>
    have hobject := (h object (List.mem_cons_self ..)).2
    have hrest := ih fun object ho => h object (List.mem_cons_of_mem _ ho)
    simp only [prefixedBytes_cons, List.length_append, length_writeNum, hobject, hrest,
      List.length_cons]
    ring

/-- The header with a count takes its three bytes, the count and the objects. -/
theorem length_countIndexBytes {s : DNP3Serializer} {index : IndexType}
    {objects : List (ℕ × List UInt8)} (h : FitsIn s index objects) :
    (countIndexBytes s index objects).length =
      3 + index.size + objects.length * (s.size + index.size) := by
  simp only [countIndexBytes, headerBytes, List.length_append, length_writeNum,
    length_prefixedBytes h, List.length_cons, List.length_nil]
  omega

/-- The objects are read as they were written. -/
theorem foreach_prefixedBytes {s : DNP3Serializer} {index : IndexType}
    {objects : List (ℕ × List UInt8)} (h : FitsIn s index objects) (pos : ℕ) (rest : List UInt8) :
    foreach (readPrefixed (numParser index) s.size) pos objects.length
      (prefixedBytes index objects ++ rest) = prefixedValues objects := by
  induction objects generalizing pos with
  | nil => rfl
  | cons object objects ih =>
    obtain ⟨hindex, hsize⟩ := h object (List.mem_cons_self ..)
    have hrest := ih (fun object ho => h object (List.mem_cons_of_mem _ ho)) (pos + 1)
    have hread : readPrefixed (numParser index) s.size
        (prefixedBytes index (object :: objects) ++ rest) pos =
          ({ value := .object object.2, index := object.1 },
            prefixedBytes index objects ++ rest) := by
      simp only [prefixedBytes_cons, List.append_assoc, readPrefixed, readNum_writeNum hindex,
        readObject, ← hsize, List.take_left, List.drop_left]
    rw [List.length_cons, foreach, hread, hrest]
    rfl

/-- The objects behind the record that was written are read with the size of the serializer. -/
theorem CountIndexParser.objects_headerRecord {s : DNP3Serializer} (h : s.IsPrefixed)
    (code : QualifierCode) (place : ℕ) (p : NumParser) (count : ℕ) :
    CountIndexParser.objects (headerRecord s code place) p count =
      (CountIndexParser.from' (headerRecord s code place) p count s.size).reader := by
  unfold CountIndexParser.objects
  rw [enumeration_headerRecord]
  obtain ⟨hgv, hpos, hlt⟩ | ⟨hgv, hsupports, hsize⟩ := h
  · have hvariation := variation_headerRecord (.inr hgv) hlt code place
    have hne : (headerRecord s code place).variation ≠ 0 := by
      intro hzero
      rw [hzero] at hvariation
      exact hpos.ne hvariation
    rw [if_pos hgv, if_neg hne, hvariation]
  · rw [if_neg hgv, if_pos hsupports, hsize]

/-- The qualifier code of a count with index prefixes selects the parser of the type of index. -/
theorem qualifierReader_countIndexCode (settings : ParserSettings) (s : DNP3Serializer)
    (index : IndexType) (place : ℕ) (buffer : List UInt8) :
    APDUParser.qualifierReader settings (headerRecord s (countIndexCode index) place) buffer =
      CountIndexParser.reader (numParser index) (headerRecord s (countIndexCode index) place)
        buffer := by
  unfold APDUParser.qualifierReader
  rw [getQualifierCode_headerRecord]
  cases index <;> rfl

/-- The parser takes a header with index prefixes as it was written. -/
theorem takes_countIndexBytes {s : DNP3Serializer} (hs : s.IsPrefixed) {index : IndexType}
    {objects : List (ℕ × List UInt8)} (hne : objects ≠ []) (hlen : objects.length ≤ index.max)
    (hfits : FitsIn s index objects) (settings : ParserSettings) (place : ℕ) :
    (APDUParser.headerReader settings place).Takes (countIndexBytes s index objects)
      (.prefixValues (headerRecord s (countIndexCode index) place) objects.length
        (prefixedValues objects)) := by
  intro rest
  have hpos : 0 < objects.length := List.length_pos_iff.mpr hne
  simp only [countIndexBytes, List.append_assoc, APDUParser.headerReader, Reader.bind,
    recordReader_headerBytes hs.ne_unknown, qualifierReader_countIndexCode,
    CountIndexParser.reader, cast_of_le hlen, countReader_writeNum hpos hlen]
  rw [CountIndexParser.objects_headerRecord hs]
  -- Exactly the bytes of the objects are required.
  have hrequired : (CountIndexParser.from' (headerRecord s (countIndexCode index) place)
      (numParser index) objects.length s.size).requiredSize =
        (prefixedBytes index objects).length := by
    rw [length_prefixedBytes hfits]
    simp [CountIndexParser.from']
  unfold ObjectParser.reader Reader.block
  rw [hrequired, if_neg (by simp), List.take_left, List.drop_left]
  have hvalues := foreach_prefixedBytes hfits 0 []
  rw [List.append_nil] at hvalues
  simp only [CountIndexParser.from', hvalues]

/-! ## Single values -/

/-- The bytes of a header that `HeaderWriter::WriteSingleValue` writes. -/
def singleBytes (gv : GroupVariation) (index : IndexType) (object : List UInt8) : List UInt8 :=
  headerBytes gv.inst (countCode index) ++ (writeNum index 1 ++ object)

/-- The parser takes a single value as it was written. -/
theorem takes_singleBytes {gv : GroupVariation} (hgv : CountParser.supports gv) (index : IndexType)
    {object : List UInt8} (hsize : object.length = gv.size) (place : ℕ) :
    (APDUParser.headerReader {} place).Takes (singleBytes gv index object)
      (.countValues (headerRecord gv.inst (countCode index) place) 1 [.object object]) := by
  intro rest
  have hknown : gv.inst.gv ≠ .UNKNOWN := by
    rintro hunknown
    rw [show gv = .UNKNOWN from hunknown] at hgv
    cases hgv
  have hqualifier : ∀ buffer, APDUParser.qualifierReader {}
      (headerRecord gv.inst (countCode index) place) buffer =
        CountParser.reader (numParser index) {} (headerRecord gv.inst (countCode index) place)
          buffer := by
    intro buffer
    unfold APDUParser.qualifierReader
    rw [getQualifierCode_headerRecord]
    cases index <;> rfl
  have hmax : 1 ≤ index.max := by cases index <;> decide
  simp only [singleBytes, List.append_assoc, APDUParser.headerReader, Reader.bind,
    recordReader_headerBytes hknown, hqualifier, CountParser.reader,
    countReader_writeNum Nat.one_pos hmax]
  rw [enumeration_headerRecord, if_pos trivial, show gv.inst.gv = gv from rfl, if_pos hgv]
  -- Exactly the bytes of the value are required.
  have hrequired : (CountParser.from' (headerRecord gv.inst (countCode index) place) 1
      gv.size).requiredSize = object.length := by
    rw [hsize]
    exact Nat.one_mul _
  unfold ObjectParser.reader Reader.block
  rw [hrequired, if_neg (by simp), List.take_left, List.drop_left]
  simp only [CountParser.from', foreach, readObject, ← hsize, List.take_length]

/-! ## What the parser has taken -/

/-- The bytes of an object that the parser delivers. -/
def Value.bytes : Value → List UInt8
  | .object bytes => bytes
  | _ => []

/-- The objects that the parser delivers, as they are written. -/
def objectsOf (values : List (Indexed Value)) : List (ℕ × List UInt8) :=
  values.map fun value => (value.index, value.value.bytes)

/-- The objects are written as they were read. -/
theorem prefixedBytes_foreach (index : IndexType) (size count pos : ℕ) (buffer : List UInt8)
    (h : buffer.length = count * (size + index.size)) :
    prefixedBytes index (objectsOf
      (foreach (readPrefixed (numParser index) size) pos count buffer)) =
        buffer ∧
      (foreach (readPrefixed (numParser index) size) pos count buffer).length = count ∧
      ∀ value ∈ foreach (readPrefixed (numParser index) size) pos count buffer,
        value.index ≤ index.max ∧ ∃ bytes, value.value = .object bytes ∧ bytes.length = size := by
  induction count generalizing pos buffer with
  | zero =>
    rw [Nat.zero_mul] at h
    obtain rfl := List.eq_nil_of_length_eq_zero h
    exact ⟨rfl, rfl, by simp [foreach]⟩
  | succ count ih =>
    rw [Nat.succ_mul] at h
    -- The first object is written back as it was read, and the others follow by induction.
    obtain ⟨hwrite, hdrop, hmax⟩ := writeNum_readNum index buffer (by omega)
    have hread : readPrefixed (numParser index) size buffer pos =
        ({ value := .object ((buffer.drop index.size).take size)
           index := ((numParser index).readNum buffer).1 }, buffer.drop (index.size + size)) := by
      simp only [readPrefixed, hdrop, readObject, List.drop_drop]
    obtain ⟨hbytes, hlen, hvalues⟩ := ih (pos + 1) (buffer.drop (index.size + size))
      (by rw [List.length_drop]; omega)
    rw [foreach, hread]
    refine ⟨?_, by rw [List.length_cons, hlen], ?_⟩
    · rw [objectsOf] at hbytes
      rw [objectsOf, List.map_cons, prefixedBytes_cons, hbytes, hwrite, Value.bytes,
        ← List.drop_drop, List.take_append_drop, List.take_append_drop]
    · intro value hvalue
      obtain rfl | hvalue := List.mem_cons.mp hvalue
      · refine ⟨hmax, _, rfl, ?_⟩
        rw [List.length_take, List.length_drop]
        omega
      · exact hvalues value hvalue

/-- The record of a header that is not an octet string tells its first three bytes. -/
theorem eq_headerBytes {place : ℕ} {bytes tail : List UInt8} {record : HeaderRecord}
    {gv : GroupVariation} {code : QualifierCode}
    (h : APDUParser.recordReader place bytes = .ok (record, tail))
    (hgv : record.enumeration = gv) (hcode : record.getQualifierCode = code)
    (hdefined : code ≠ .UNDEFINED) (hunknown : gv ≠ .UNKNOWN) (h110 : gv ≠ .Group110Var0)
    (h111 : gv ≠ .Group111Var0) (h112 : gv ≠ .Group112Var0) (h113 : gv ≠ .Group113Var0) :
    bytes = headerBytes gv.inst code ++ tail ∧ record = headerRecord gv.inst code place := by
  obtain ⟨hlen, hmake, rfl⟩ := Reader.block_eq_ok h
  obtain ⟨group, variation, qualifier, tail, rfl⟩ := exists_three_cons (Nat.not_lt.mpr hlen)
  dsimp only [List.take_succ_cons, List.take_zero, List.getD_cons_zero,
    List.getD_cons_succ] at hmake
  split_ifs at hmake
  have hrecord := Except.ok.inj hmake
  have hid : DNP3Serializer.id gv.inst = (group, variation) := by
    refine id_getEnum ?_ hunknown h110 h111 h112 h113 gv.size
    rw [← hgv, ← hrecord]
    rfl
  have hqualifier : code.toType = qualifier := by
    have hread : QualifierCode.fromType qualifier = code := by
      rw [← hcode, ← hrecord]
      rfl
    rw [← hread, QualifierCode.toType_fromType]
    rwa [hread]
  constructor
  · simp [headerBytes, hid, hqualifier]
  · rw [headerRecord, hid, hqualifier, ← hrecord]
    rfl

/-- A header with index prefixes that the parser takes has the bytes that it would be written
with. -/
theorem eq_countIndexBytes {settings : ParserSettings} {place : ℕ} {bytes : List UInt8}
    {call : HeaderCall} {gv : GroupVariation} {index : IndexType}
    (h : (APDUParser.headerReader settings place).Takes bytes call)
    (hgv : call.record.enumeration = gv)
    (hcode : call.record.getQualifierCode = countIndexCode index)
    (hsupports : CountIndexParser.supports gv) :
    ∃ values, call = .prefixValues (headerRecord gv.inst (countIndexCode index) place)
        values.length values ∧
      bytes = countIndexBytes gv.inst index (objectsOf values) ∧
      FitsIn gv.inst index (objectsOf values) ∧ 0 < values.length ∧ values.length ≤ index.max ∧
      ∀ value ∈ values, ∃ object, value.value = .object object := by
  have hread := h []
  rw [List.append_nil] at hread
  obtain ⟨record, tail, hrecord, hqualifier⟩ := Reader.bind_eq_ok hread
  obtain rfl := APDUParser.qualifierReader_record settings record tail call [] hqualifier
  have hne : ∀ other, CountIndexParser.supports other = false → gv ≠ other := by
    rintro other hother rfl
    rw [hsupports] at hother
    cases hother
  obtain ⟨hbytes, hrecordEq⟩ := eq_headerBytes hrecord hgv hcode (by cases index <;> decide)
    (hne _ rfl) (hne _ rfl) (hne _ rfl) (hne _ rfl) (hne _ rfl)
  have hreader : CountIndexParser.reader (numParser index) call.record tail = .ok (call, []) := by
    unfold APDUParser.qualifierReader at hqualifier
    rw [hcode] at hqualifier
    cases index <;> exact hqualifier
  obtain ⟨count, rest, hcount, hobjects⟩ := Reader.bind_eq_ok hreader
  -- The count is written as it was read.
  obtain ⟨htail, hpos, hmax⟩ :
      tail = writeNum index count ++ rest ∧ 0 < count ∧ count ≤ index.max := by
    obtain ⟨hlen, hnum, rfl⟩ := Reader.block_eq_ok hcount
    rw [numBytes_numParser] at hlen hnum
    obtain ⟨hwrite, -, hmax⟩ := writeNum_readNum index (tail.take index.size)
      (by rw [List.length_take]; omega)
    split_ifs at hnum with hzero
    cases hnum
    rw [numBytes_numParser, hwrite, List.take_take, min_self, List.take_append_drop]
    exact ⟨rfl, Nat.pos_of_ne_zero hzero, hmax⟩
  have hparser : (CountIndexParser.from' call.record (numParser index) count gv.size).reader rest =
      .ok (call, []) := by
    rw [hrecordEq, CountIndexParser.objects_headerRecord] at hobjects
    · rwa [hrecordEq]
    · exact .inr ⟨hne _ rfl, hsupports, rfl⟩
  obtain ⟨hlen, hcall, hrest⟩ := Reader.block_eq_ok hparser
  have hrequired :
      (CountIndexParser.from' call.record (numParser index) count gv.size).requiredSize =
      count * (gv.size + index.size) := by
    simp [CountIndexParser.from']
  have hexact : rest.length = count * (gv.size + index.size) := by
    have hdrop := congrArg List.length hrest
    rw [List.length_drop, List.length_nil] at hdrop
    omega
  rw [hrequired, ← hexact, List.take_length] at hcall
  obtain ⟨hbytesOf, hcountOf, hvalues⟩ := prefixedBytes_foreach index gv.size count 0 rest hexact
  have hcallEq := Except.ok.inj hcall
  simp only [CountIndexParser.from'] at hcallEq
  generalize foreach (readPrefixed (numParser index) gv.size) 0 count rest = values at *
  subst hcountOf
  refine ⟨values, ?_, ?_, ?_, hpos, hmax, ?_⟩
  · rw [← hcallEq, hrecordEq]
  · rw [hbytes, htail, countIndexBytes, hbytesOf, objectsOf, List.length_map, cast_of_le hmax]
  · intro object hobject
    obtain ⟨value, hvalue, rfl⟩ := List.mem_map.mp hobject
    obtain ⟨hindex, bytes, hobject, hsize⟩ := hvalues value hvalue
    refine ⟨hindex, ?_⟩
    rw [hobject]
    exact hsize
  · intro value hvalue
    obtain ⟨-, bytes, hobject, -⟩ := hvalues value hvalue
    exact ⟨bytes, hobject⟩

end OpenDnp3.App
