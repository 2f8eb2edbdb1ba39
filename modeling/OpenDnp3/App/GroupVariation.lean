import OpenDnp3.Serialization

/-!
# Object groups and variations

The enumeration `gen/GroupVariation.h`, the record of `app/GroupVariationRecord.cpp` and the sizes
of the objects under `objects/`.
-/

namespace OpenDnp3.App

/-- `GroupVariation`. -/
inductive GroupVariation where
  | Group1Var0 | Group1Var1 | Group1Var2 | Group2Var0 | Group2Var1 | Group2Var2 | Group2Var3
  | Group3Var0 | Group3Var1 | Group3Var2 | Group4Var0 | Group4Var1 | Group4Var2 | Group4Var3
  | Group10Var0 | Group10Var1 | Group10Var2 | Group11Var0 | Group11Var1 | Group11Var2
  | Group12Var0 | Group12Var1 | Group13Var1 | Group13Var2 | Group20Var0 | Group20Var1
  | Group20Var2 | Group20Var5 | Group20Var6 | Group21Var0 | Group21Var1 | Group21Var2
  | Group21Var5 | Group21Var6 | Group21Var9 | Group21Var10 | Group22Var0 | Group22Var1
  | Group22Var2 | Group22Var5 | Group22Var6 | Group23Var0 | Group23Var1 | Group23Var2
  | Group23Var5 | Group23Var6 | Group30Var0 | Group30Var1 | Group30Var2 | Group30Var3
  | Group30Var4 | Group30Var5 | Group30Var6 | Group32Var0 | Group32Var1 | Group32Var2
  | Group32Var3 | Group32Var4 | Group32Var5 | Group32Var6 | Group32Var7 | Group32Var8
  | Group40Var0 | Group40Var1 | Group40Var2 | Group40Var3 | Group40Var4 | Group41Var0
  | Group41Var1 | Group41Var2 | Group41Var3 | Group41Var4 | Group42Var0 | Group42Var1
  | Group42Var2 | Group42Var3 | Group42Var4 | Group42Var5 | Group42Var6 | Group42Var7
  | Group42Var8 | Group43Var1 | Group43Var2 | Group43Var3 | Group43Var4 | Group43Var5
  | Group43Var6 | Group43Var7 | Group43Var8 | Group50Var1 | Group50Var3 | Group50Var4
  | Group51Var1 | Group51Var2 | Group52Var1 | Group52Var2 | Group60Var1 | Group60Var2
  | Group60Var3 | Group60Var4 | Group70Var1 | Group70Var2 | Group70Var3 | Group70Var4
  | Group70Var5 | Group70Var6 | Group70Var7 | Group70Var8 | Group80Var1 | Group110Var0
  | Group111Var0 | Group112Var0 | Group113Var0 | Group120Var1 | Group120Var2 | Group120Var3
  | Group120Var4 | Group120Var5 | Group120Var6 | Group120Var7 | Group120Var8 | Group120Var9
  | Group120Var10 | Group120Var11 | Group120Var12 | Group120Var13 | Group120Var14 | Group120Var15
  | Group121Var0 | Group121Var1 | Group122Var0 | Group122Var1 | Group122Var2 | UNKNOWN
  deriving DecidableEq, Repr

namespace GroupVariation

/-- `GroupVariationFromType`, of the group and the variation as one number. -/
def fromType : ℕ → GroupVariation
  | 0x100 => Group1Var0
  | 0x101 => Group1Var1
  | 0x102 => Group1Var2
  | 0x200 => Group2Var0
  | 0x201 => Group2Var1
  | 0x202 => Group2Var2
  | 0x203 => Group2Var3
  | 0x300 => Group3Var0
  | 0x301 => Group3Var1
  | 0x302 => Group3Var2
  | 0x400 => Group4Var0
  | 0x401 => Group4Var1
  | 0x402 => Group4Var2
  | 0x403 => Group4Var3
  | 0xA00 => Group10Var0
  | 0xA01 => Group10Var1
  | 0xA02 => Group10Var2
  | 0xB00 => Group11Var0
  | 0xB01 => Group11Var1
  | 0xB02 => Group11Var2
  | 0xC00 => Group12Var0
  | 0xC01 => Group12Var1
  | 0xD01 => Group13Var1
  | 0xD02 => Group13Var2
  | 0x1400 => Group20Var0
  | 0x1401 => Group20Var1
  | 0x1402 => Group20Var2
  | 0x1405 => Group20Var5
  | 0x1406 => Group20Var6
  | 0x1500 => Group21Var0
  | 0x1501 => Group21Var1
  | 0x1502 => Group21Var2
  | 0x1505 => Group21Var5
  | 0x1506 => Group21Var6
  | 0x1509 => Group21Var9
  | 0x150A => Group21Var10
  | 0x1600 => Group22Var0
  | 0x1601 => Group22Var1
  | 0x1602 => Group22Var2
  | 0x1605 => Group22Var5
  | 0x1606 => Group22Var6
  | 0x1700 => Group23Var0
  | 0x1701 => Group23Var1
  | 0x1702 => Group23Var2
  | 0x1705 => Group23Var5
  | 0x1706 => Group23Var6
  | 0x1E00 => Group30Var0
  | 0x1E01 => Group30Var1
  | 0x1E02 => Group30Var2
  | 0x1E03 => Group30Var3
  | 0x1E04 => Group30Var4
  | 0x1E05 => Group30Var5
  | 0x1E06 => Group30Var6
  | 0x2000 => Group32Var0
  | 0x2001 => Group32Var1
  | 0x2002 => Group32Var2
  | 0x2003 => Group32Var3
  | 0x2004 => Group32Var4
  | 0x2005 => Group32Var5
  | 0x2006 => Group32Var6
  | 0x2007 => Group32Var7
  | 0x2008 => Group32Var8
  | 0x2800 => Group40Var0
  | 0x2801 => Group40Var1
  | 0x2802 => Group40Var2
  | 0x2803 => Group40Var3
  | 0x2804 => Group40Var4
  | 0x2900 => Group41Var0
  | 0x2901 => Group41Var1
  | 0x2902 => Group41Var2
  | 0x2903 => Group41Var3
  | 0x2904 => Group41Var4
  | 0x2A00 => Group42Var0
  | 0x2A01 => Group42Var1
  | 0x2A02 => Group42Var2
  | 0x2A03 => Group42Var3
  | 0x2A04 => Group42Var4
  | 0x2A05 => Group42Var5
  | 0x2A06 => Group42Var6
  | 0x2A07 => Group42Var7
  | 0x2A08 => Group42Var8
  | 0x2B01 => Group43Var1
  | 0x2B02 => Group43Var2
  | 0x2B03 => Group43Var3
  | 0x2B04 => Group43Var4
  | 0x2B05 => Group43Var5
  | 0x2B06 => Group43Var6
  | 0x2B07 => Group43Var7
  | 0x2B08 => Group43Var8
  | 0x3201 => Group50Var1
  | 0x3203 => Group50Var3
  | 0x3204 => Group50Var4
  | 0x3301 => Group51Var1
  | 0x3302 => Group51Var2
  | 0x3401 => Group52Var1
  | 0x3402 => Group52Var2
  | 0x3C01 => Group60Var1
  | 0x3C02 => Group60Var2
  | 0x3C03 => Group60Var3
  | 0x3C04 => Group60Var4
  | 0x4601 => Group70Var1
  | 0x4602 => Group70Var2
  | 0x4603 => Group70Var3
  | 0x4604 => Group70Var4
  | 0x4605 => Group70Var5
  | 0x4606 => Group70Var6
  | 0x4607 => Group70Var7
  | 0x4608 => Group70Var8
  | 0x5001 => Group80Var1
  | 0x6E00 => Group110Var0
  | 0x6F00 => Group111Var0
  | 0x7000 => Group112Var0
  | 0x7100 => Group113Var0
  | 0x7801 => Group120Var1
  | 0x7802 => Group120Var2
  | 0x7803 => Group120Var3
  | 0x7804 => Group120Var4
  | 0x7805 => Group120Var5
  | 0x7806 => Group120Var6
  | 0x7807 => Group120Var7
  | 0x7808 => Group120Var8
  | 0x7809 => Group120Var9
  | 0x780A => Group120Var10
  | 0x780B => Group120Var11
  | 0x780C => Group120Var12
  | 0x780D => Group120Var13
  | 0x780E => Group120Var14
  | 0x780F => Group120Var15
  | 0x7900 => Group121Var0
  | 0x7901 => Group121Var1
  | 0x7A00 => Group122Var0
  | 0x7A01 => Group122Var1
  | 0x7A02 => Group122Var2
  | _ => UNKNOWN

/-- `Descriptor::Size()` of the objects of a fixed size; zero for all others. -/
def size : GroupVariation → ℕ
  | Group1Var2 | Group2Var1 | Group3Var2 | Group4Var1 | Group10Var2 | Group11Var1
  | Group13Var1 => 1
  | Group20Var6 | Group21Var10 | Group30Var4 | Group52Var1 | Group52Var2 | Group120Var4 => 2
  | Group2Var3 | Group4Var3 | Group20Var2 | Group21Var2 | Group22Var2 | Group23Var2
  | Group30Var2 | Group32Var2 | Group40Var2 | Group41Var2 | Group42Var2 | Group43Var2 => 3
  | Group20Var5 | Group21Var9 | Group30Var3 => 4
  | Group20Var1 | Group21Var1 | Group22Var1 | Group23Var1 | Group30Var1 | Group30Var5
  | Group32Var1 | Group32Var5 | Group40Var1 | Group40Var3 | Group41Var1 | Group41Var3
  | Group42Var1 | Group42Var5 | Group43Var1 | Group43Var5 => 5
  | Group50Var1 | Group50Var3 | Group51Var1 | Group51Var2 | Group120Var3 => 6
  | Group2Var2 | Group4Var2 | Group11Var2 | Group13Var2 | Group121Var1 | Group122Var1 => 7
  | Group21Var6 | Group22Var6 | Group23Var6 | Group30Var6 | Group32Var4 | Group32Var6
  | Group40Var4 | Group41Var4 | Group42Var4 | Group42Var6 | Group43Var4 | Group43Var6 => 9
  | Group12Var1 | Group21Var5 | Group22Var5 | Group23Var5 | Group32Var3 | Group32Var7
  | Group42Var3 | Group42Var7 | Group43Var3 | Group43Var7 | Group50Var4 => 11
  | Group122Var2 => 13
  | Group32Var8 | Group42Var8 | Group43Var8 => 15
  | _ => 0

end GroupVariation

/-- `GroupVariationType`. -/
inductive GroupVariationType where
  | STATIC
  | EVENT
  | OTHER
  deriving DecidableEq, Repr

/-- `QualifierCode`. -/
inductive QualifierCode where
  | UINT8_START_STOP
  | UINT16_START_STOP
  | ALL_OBJECTS
  | UINT8_CNT
  | UINT16_CNT
  | UINT8_CNT_UINT8_INDEX
  | UINT16_CNT_UINT16_INDEX
  | UINT16_FREE_FORMAT
  | UNDEFINED
  deriving DecidableEq, Repr

/-- `QualifierCodeFromType`. -/
def QualifierCode.fromType (arg : UInt8) : QualifierCode :=
  match arg.toNat with
  | 0x00 => UINT8_START_STOP
  | 0x01 => UINT16_START_STOP
  | 0x06 => ALL_OBJECTS
  | 0x07 => UINT8_CNT
  | 0x08 => UINT16_CNT
  | 0x17 => UINT8_CNT_UINT8_INDEX
  | 0x28 => UINT16_CNT_UINT16_INDEX
  | 0x5B => UINT16_FREE_FORMAT
  | _ => UNDEFINED

/-- `QualifierCodeToType`. -/
def QualifierCode.toType : QualifierCode → UInt8
  | UINT8_START_STOP => 0x00
  | UINT16_START_STOP => 0x01
  | ALL_OBJECTS => 0x06
  | UINT8_CNT => 0x07
  | UINT16_CNT => 0x08
  | UINT8_CNT_UINT8_INDEX => 0x17
  | UINT16_CNT_UINT16_INDEX => 0x28
  | UINT16_FREE_FORMAT => 0x5B
  | UNDEFINED => 0xFF

/-- `GroupVariationRecord`. -/
structure GroupVariationRecord where
  enumeration : GroupVariation
  type : GroupVariationType
  group : UInt8
  variation : UInt8
  deriving DecidableEq, Repr

namespace GroupVariationRecord

/-- `GroupVariationRecord::GetType`. -/
def getType (group variation : UInt8) : GroupVariationType :=
  match group.toNat with
  | 1 | 3 | 10 | 20 | 21 | 30 | 40 | 110 | 121 => .STATIC
  | 2 | 4 | 11 | 13 | 22 | 23 | 32 | 41 | 42 | 43 | 111 | 122 => .EVENT
  | 50 => if variation = 4 then .STATIC else .OTHER
  | 60 => if variation = 1 then .STATIC else .EVENT
  | _ => .OTHER

/-- The enumeration of `GroupVariationRecord::GetEnumAndType`: the variation of an octet string is
its length, so any variation of their groups is known. -/
def getEnum (group variation : UInt8) : GroupVariation :=
  match GroupVariation.fromType (group.toNat * 256 + variation.toNat) with
  | .UNKNOWN =>
    match group.toNat with
    | 110 => .Group110Var0
    | 111 => .Group111Var0
    | 112 => .Group112Var0
    | 113 => .Group113Var0
    | _ => .UNKNOWN
  | enumeration => enumeration

/-- `GroupVariationRecord::GetRecord`. -/
def getRecord (group variation : UInt8) : GroupVariationRecord where
  enumeration := getEnum group variation
  type := getType group variation
  group := group
  variation := variation

end GroupVariationRecord

/-- `HeaderRecord`: the record of an object header, with its qualifier and its place in the
fragment. -/
structure HeaderRecord extends GroupVariationRecord where
  qualifier : UInt8
  headerIndex : ℕ
  deriving DecidableEq, Repr

/-- `HeaderRecord::GetQualifierCode`. -/
def HeaderRecord.getQualifierCode (record : HeaderRecord) : QualifierCode :=
  QualifierCode.fromType record.qualifier

/-- `Range`. An empty range is written as `[1, 0]`. -/
structure Range where
  start : ℕ := 1
  stop : ℕ := 0
  deriving DecidableEq, Repr

namespace Range

/-- `Range::IsValid`. -/
def isValid (r : Range) : Bool := r.start ≤ r.stop

/-- `Range::Count`. -/
def count (r : Range) : ℕ := if r.isValid then r.stop - r.start + 1 else 0

/-- `Range::Advance`, without its return value. -/
def advance (r : Range) : Range :=
  if r.isValid then
    if r.start < r.stop then { r with start := r.start + 1 } else {}
  else r

/-- `Range::Intersection`. -/
def intersection (r other : Range) : Range where
  start := max r.start other.start
  stop := min r.stop other.stop

/-- `Range::Union`. -/
def union (r other : Range) : Range where
  start := min r.start other.start
  stop := max r.stop other.stop

/-- `Range::IsOneByte`. -/
def isOneByte (r : Range) : Bool := r.isValid && r.start ≤ 255 && r.stop ≤ 255

end Range

end OpenDnp3.App
