import OpenDnp3.Link.Crc
import OpenDnp3.App.HeaderWriter

/-!
# Application fragments

The control field, the function codes and the headers of application fragments, of `app/` and
`gen/`, and the parser of a request header.
-/

namespace OpenDnp3.App

/-- `FunctionCode`. -/
inductive FunctionCode where
  | CONFIRM | READ | WRITE | SELECT | OPERATE | DIRECT_OPERATE | DIRECT_OPERATE_NR | IMMED_FREEZE
  | IMMED_FREEZE_NR | FREEZE_CLEAR | FREEZE_CLEAR_NR | FREEZE_AT_TIME | FREEZE_AT_TIME_NR
  | COLD_RESTART | WARM_RESTART | INITIALIZE_DATA | INITIALIZE_APPLICATION | START_APPLICATION
  | STOP_APPLICATION | SAVE_CONFIGURATION | ENABLE_UNSOLICITED | DISABLE_UNSOLICITED
  | ASSIGN_CLASS | DELAY_MEASURE | RECORD_CURRENT_TIME | OPEN_FILE | CLOSE_FILE | DELETE_FILE
  | GET_FILE_INFO | AUTHENTICATE_FILE | ABORT_FILE | AUTH_REQUEST | AUTH_REQUEST_NO_ACK
  | RESPONSE | UNSOLICITED_RESPONSE | AUTH_RESPONSE | UNKNOWN
  deriving DecidableEq, Repr

namespace FunctionCode

/-- `FunctionCodeFromType`. -/
def fromType : ℕ → FunctionCode
  | 0x0 => CONFIRM
  | 0x1 => READ
  | 0x2 => WRITE
  | 0x3 => SELECT
  | 0x4 => OPERATE
  | 0x5 => DIRECT_OPERATE
  | 0x6 => DIRECT_OPERATE_NR
  | 0x7 => IMMED_FREEZE
  | 0x8 => IMMED_FREEZE_NR
  | 0x9 => FREEZE_CLEAR
  | 0xA => FREEZE_CLEAR_NR
  | 0xB => FREEZE_AT_TIME
  | 0xC => FREEZE_AT_TIME_NR
  | 0xD => COLD_RESTART
  | 0xE => WARM_RESTART
  | 0xF => INITIALIZE_DATA
  | 0x10 => INITIALIZE_APPLICATION
  | 0x11 => START_APPLICATION
  | 0x12 => STOP_APPLICATION
  | 0x13 => SAVE_CONFIGURATION
  | 0x14 => ENABLE_UNSOLICITED
  | 0x15 => DISABLE_UNSOLICITED
  | 0x16 => ASSIGN_CLASS
  | 0x17 => DELAY_MEASURE
  | 0x18 => RECORD_CURRENT_TIME
  | 0x19 => OPEN_FILE
  | 0x1A => CLOSE_FILE
  | 0x1B => DELETE_FILE
  | 0x1C => GET_FILE_INFO
  | 0x1D => AUTHENTICATE_FILE
  | 0x1E => ABORT_FILE
  | 0x20 => AUTH_REQUEST
  | 0x21 => AUTH_REQUEST_NO_ACK
  | 0x81 => RESPONSE
  | 0x82 => UNSOLICITED_RESPONSE
  | 0x83 => AUTH_RESPONSE
  | _ => UNKNOWN

/-- `FunctionCodeToType`. -/
def toType : FunctionCode → UInt8
  | CONFIRM => 0x0
  | READ => 0x1
  | WRITE => 0x2
  | SELECT => 0x3
  | OPERATE => 0x4
  | DIRECT_OPERATE => 0x5
  | DIRECT_OPERATE_NR => 0x6
  | IMMED_FREEZE => 0x7
  | IMMED_FREEZE_NR => 0x8
  | FREEZE_CLEAR => 0x9
  | FREEZE_CLEAR_NR => 0xA
  | FREEZE_AT_TIME => 0xB
  | FREEZE_AT_TIME_NR => 0xC
  | COLD_RESTART => 0xD
  | WARM_RESTART => 0xE
  | INITIALIZE_DATA => 0xF
  | INITIALIZE_APPLICATION => 0x10
  | START_APPLICATION => 0x11
  | STOP_APPLICATION => 0x12
  | SAVE_CONFIGURATION => 0x13
  | ENABLE_UNSOLICITED => 0x14
  | DISABLE_UNSOLICITED => 0x15
  | ASSIGN_CLASS => 0x16
  | DELAY_MEASURE => 0x17
  | RECORD_CURRENT_TIME => 0x18
  | OPEN_FILE => 0x19
  | CLOSE_FILE => 0x1A
  | DELETE_FILE => 0x1B
  | GET_FILE_INFO => 0x1C
  | AUTHENTICATE_FILE => 0x1D
  | ABORT_FILE => 0x1E
  | AUTH_REQUEST => 0x20
  | AUTH_REQUEST_NO_ACK => 0x21
  | RESPONSE => 0x81
  | UNSOLICITED_RESPONSE => 0x82
  | AUTH_RESPONSE => 0x83
  | UNKNOWN => 0xFF

/-- The code of a function is read as that function. -/
theorem fromType_toType (function : FunctionCode) : fromType function.toType.toNat = function := by
  cases function <;> rfl

/-- `Functions::IsNoAckFuncCode`. -/
def isNoAckFuncCode : FunctionCode → Bool
  | DIRECT_OPERATE_NR | IMMED_FREEZE_NR | FREEZE_AT_TIME_NR | FREEZE_CLEAR_NR => true
  | _ => false

end FunctionCode

/-- `AppSeqNum::Next`, of the sequence numbers modulo 16. -/
def nextSeq (seq : ℕ) : ℕ := (seq + 1) % 16

/-- `AppControlField`. -/
structure AppControlField where
  fir : Bool := true
  fin : Bool := true
  con : Bool := false
  uns : Bool := false
  seq : ℕ := 0
  deriving DecidableEq, Repr

namespace AppControlField

/-- `AppControlField::AppControlField(uint8_t)`. -/
def ofByte (byte : UInt8) : AppControlField where
  fir := byte &&& 0x80 ≠ 0
  fin := byte &&& 0x40 ≠ 0
  con := byte &&& 0x20 ≠ 0
  uns := byte &&& 0x10 ≠ 0
  seq := (byte &&& 0x0F).toNat

/-- `AppControlField::ToByte`. -/
def toByte (control : AppControlField) : UInt8 :=
  (if control.fir then 0x80 else 0) ||| (if control.fin then 0x40 else 0) |||
    (if control.con then 0x20 else 0) ||| (if control.uns then 0x10 else 0) |||
      UInt8.ofNat (control.seq % 16)

/-- The control field keeps its flags on the wire, and its sequence number modulo 16. -/
theorem ofByte_toByte (control : AppControlField) :
    ofByte control.toByte = { control with seq := control.seq % 16 } := by
  -- The fields are disjoint bits of the byte.
  have hbits : ∀ fir fin con uns : Bool, ∀ n : Fin 16,
      ofByte (toByte { fir, fin, con, uns, seq := n }) = { fir, fin, con, uns, seq := n } := by
    decide
  have hbyte : control.toByte = toByte { control with seq := control.seq % 16 } := by
    simp [toByte]
  rw [hbyte]
  exact hbits control.fir control.fin control.con control.uns
    ⟨control.seq % 16, Nat.mod_lt _ (by decide)⟩

end AppControlField

/-- `APDUHeader`. -/
structure APDUHeader where
  control : AppControlField := {}
  function : FunctionCode := .UNKNOWN
  deriving DecidableEq, Repr

/-- `APDUHeader::Equals`. -/
def APDUHeader.equals (a b : APDUHeader) : Bool :=
  b.function = a.function && b.control.toByte == a.control.toByte

/-- `APDUHeaderParser::ParseRequest`, with the objects that follow the header. -/
def parseRequest : List UInt8 → Option (APDUHeader × List UInt8)
  | control :: function :: objects =>
    some ({ control := .ofByte control, function := .fromType function.toNat }, objects)
  | _ => none

/-- `Addresses`. -/
structure Addresses where
  source : ℕ
  destination : ℕ
  deriving DecidableEq, Repr

/-- `Message`. -/
structure Message where
  addresses : Addresses
  payload : List UInt8
  deriving DecidableEq, Repr

/-- `ParsedRequest`. -/
structure ParsedRequest where
  addresses : Addresses
  header : APDUHeader
  objects : List UInt8
  deriving DecidableEq, Repr

end OpenDnp3.App
