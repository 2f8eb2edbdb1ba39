import Mathlib.Data.Fin.Basic
import OpenDnp3.App.Apdu

/-!
# The transport function

The header, the transmitter and the receiver of `transport/`. The transmitter cuts a message into
segments of at most 249 bytes, each behind a header byte. The receiver joins the segments of one
message in a buffer of a fixed size.
-/

namespace OpenDnp3.Transport

open App (Addresses Message)

/-- `MAX_TPDU_PAYLOAD`. -/
def MAX_TPDU_PAYLOAD : ℕ := 249

/-- `TransportSeqNum`. `SequenceNum` starts at zero and counts modulo 64, and the receiver takes it
from the lower six bits of a header, so the number stays below the modulus. -/
abbrev TransportSeqNum := Fin 64

scoped instance modulus_neZero : NeZero 64 := ⟨by decide⟩

/-! ## The header -/

/-- `TransportHeader::FIN_MASK`. -/
def FIN_MASK : UInt8 := 0x80
/-- `TransportHeader::FIR_MASK`. -/
def FIR_MASK : UInt8 := 0x40
/-- `TransportHeader::SEQ_MASK`. -/
def SEQ_MASK : UInt8 := 0x3F

/-- `TransportHeader`. -/
structure TransportHeader where
  fir : Bool
  fin : Bool
  seq : TransportSeqNum
  deriving DecidableEq, Repr

namespace TransportHeader

/-- `TransportHeader::TransportHeader`. -/
def ofByte (byte : UInt8) : TransportHeader where
  fir := byte &&& FIR_MASK != 0
  fin := byte &&& FIN_MASK != 0
  seq := Fin.ofNat 64 (byte &&& SEQ_MASK).toNat

/-- `TransportHeader::ToByte`. -/
def toByte (fir fin : Bool) (seq : TransportSeqNum) : UInt8 :=
  (if fir then FIR_MASK else 0) ||| (if fin then FIN_MASK else 0) |||
    (SEQ_MASK &&& UInt8.ofNat seq.val)

/-- A header is read back as it was written. -/
@[simp]
theorem ofByte_toByte (fir fin : Bool) (seq : TransportSeqNum) :
    ofByte (toByte fir fin seq) = ⟨fir, fin, seq⟩ := by
  revert fir fin seq
  decide

end TransportHeader

/-! ## The transmitter -/

/-- `TransportTx`, with the count of its statistics. -/
structure TransportTx where
  message : Message
  txSegment : Option (List UInt8) := none
  sequence : TransportSeqNum := 0
  tpduCount : ℕ := 0
  numTransportTx : ℕ := 0
  deriving DecidableEq, Repr

namespace TransportTx

/-- `TransportTx::Configure`. The sequence number goes on from the message before. -/
def configure (message : Message) (tx : TransportTx) : TransportTx :=
  { tx with txSegment := none, message, tpduCount := 0 }

/-- The number of payload bytes of the current segment, of `GetSegment` and `Advance`. -/
def numToSend (tx : TransportTx) : ℕ :=
  if tx.message.payload.length < MAX_TPDU_PAYLOAD then tx.message.payload.length
  else MAX_TPDU_PAYLOAD

/-- `TransportTx::GetSegment`. The segment is formatted once and kept until `Advance`. -/
def getSegment (tx : TransportTx) : List UInt8 × TransportTx :=
  match tx.txSegment with
  | some segment => (segment, tx)
  | none =>
    let fir := tx.tpduCount = 0
    let fin := tx.numToSend = tx.message.payload.length
    let segment := TransportHeader.toByte fir fin tx.sequence ::
      tx.message.payload.take tx.numToSend
    (segment, { tx with numTransportTx := tx.numTransportTx + 1, txSegment := some segment })

/-- `TransportTx::Advance`: whether there is more to send. -/
def advance (tx : TransportTx) : Bool × TransportTx :=
  let payload := tx.message.payload.drop tx.numToSend
  (!payload.isEmpty,
    { tx with
        txSegment := none
        message := { tx.message with payload }
        tpduCount := tx.tpduCount + 1
        sequence := tx.sequence + 1 })

/-- A segment is taken without a change of the message. -/
theorem message_getSegment (tx : TransportTx) : tx.getSegment.2.message = tx.message := by
  unfold getSegment
  split <;> rfl

/-- A segment takes at least one byte of a message that is not empty. -/
theorem numToSend_pos {tx : TransportTx} (h : tx.message.payload ≠ []) : 0 < tx.numToSend := by
  have hlength := List.length_pos_iff.mpr h
  unfold numToSend MAX_TPDU_PAYLOAD
  split <;> omega

/-- While there is more to send, the message gets shorter. -/
theorem length_advance_lt {tx : TransportTx} (h : tx.advance.1) :
    tx.advance.2.message.payload.length < tx.message.payload.length := by
  have hmore : tx.message.payload.drop tx.numToSend ≠ [] := by simpa [advance] using h
  have hne : tx.message.payload ≠ [] := by
    intro hnil
    simp [hnil] at hmore
  have hpos := numToSend_pos hne
  have hlength := List.length_pos_iff.mpr hne
  simp only [advance, List.length_drop]
  omega

/-- The segments with their addresses, in the order of transmission: `GetSegment` and `Advance`
until `Advance` returns false. -/
def segments (tx : TransportTx) : List Message :=
  let segment : Message := ⟨tx.message.addresses, tx.getSegment.1⟩
  if _ : tx.getSegment.2.advance.1 then segment :: segments tx.getSegment.2.advance.2
  else [segment]
termination_by tx.message.payload.length
decreasing_by
  have hlt := length_advance_lt ‹_›
  rw [message_getSegment] at hlt
  exact hlt

end TransportTx

/-! ## The receiver -/

/-- `StackStatistics::Transport::Rx`. -/
structure RxStatistics where
  numTransportRx : ℕ := 0
  numTransportErrorRx : ℕ := 0
  numTransportBufferOverflow : ℕ := 0
  numTransportDiscard : ℕ := 0
  numTransportIgnore : ℕ := 0
  deriving DecidableEq, Repr

/-- `TransportRx`. Of the buffer, only the bytes before `numBytesRead` are ever read again. -/
structure TransportRx where
  /-- The size of the buffer. -/
  maxRxFragSize : ℕ
  /-- The first `numBytesRead` bytes of the buffer. -/
  rxBuffer : List UInt8 := []
  lastAddresses : Addresses := ⟨0, 0⟩
  expectedSeq : TransportSeqNum := 0
  statistics : RxStatistics := {}
  /-- What was read fits in the buffer. -/
  numBytesRead_le : rxBuffer.length ≤ maxRxFragSize := by exact Nat.zero_le _
  deriving DecidableEq, Repr

namespace TransportRx

/-- `TransportRx::numBytesRead`. -/
def numBytesRead (rx : TransportRx) : ℕ := rx.rxBuffer.length

/-- The message of `Message()`. -/
def noMessage : Message := ⟨⟨0, 0⟩, []⟩

/-- `TransportRx::ClearRxBuffer`. -/
def clearRxBuffer (rx : TransportRx) : TransportRx :=
  { rx with rxBuffer := [], numBytesRead_le := by simp }

/-- Counts in the statistics. -/
def count (update : RxStatistics → RxStatistics) (rx : TransportRx) : TransportRx :=
  { rx with statistics := update rx.statistics }

/-- A segment is dropped, and what was read stays. -/
def ignore (rx : TransportRx) : Message × TransportRx :=
  (noMessage, rx.count fun n => { n with numTransportIgnore := n.numTransportIgnore + 1 })

/-- The last part of `TransportRx::ProcessReceive`, from the check of the available space on. -/
def append (header : TransportHeader) (addresses : Addresses) (payload : List UInt8)
    (rx : TransportRx) : Message × TransportRx :=
  if h : rx.maxRxFragSize - rx.numBytesRead < payload.length then
    (noMessage, (rx.count fun n =>
      { n with numTransportBufferOverflow := n.numTransportBufferOverflow + 1 }).clearRxBuffer)
  else
    have hfits : (rx.rxBuffer ++ payload).length ≤ rx.maxRxFragSize := by
      have := rx.numBytesRead_le
      unfold numBytesRead at h
      rw [List.length_append]
      omega
    let rx : TransportRx :=
      { rx with
          rxBuffer := rx.rxBuffer ++ payload
          numBytesRead_le := hfits
          lastAddresses := addresses
          expectedSeq := header.seq + 1 }
    if header.fin then (⟨addresses, rx.rxBuffer⟩, rx.clearRxBuffer) else (noMessage, rx)

/-- `TransportRx::ProcessReceive`. -/
def processReceive (segment : Message) (rx : TransportRx) : Message × TransportRx :=
  let rx := rx.count fun n => { n with numTransportRx := n.numTransportRx + 1 }
  match segment.payload with
  | [] =>
    (noMessage, rx.count fun n => { n with numTransportErrorRx := n.numTransportErrorRx + 1 })
  | byte :: payload =>
    let header := TransportHeader.ofByte byte
    -- A first segment in the middle of a message drops what was read before.
    let rx := if header.fir ∧ 0 < rx.numBytesRead then
        (rx.count fun n =>
          { n with numTransportDiscard := n.numTransportDiscard + 1 }).clearRxBuffer
      else rx
    if !header.fir then
      if rx.numBytesRead = 0 then rx.ignore
      else if header.seq ≠ rx.expectedSeq then rx.ignore
      else if segment.addresses ≠ rx.lastAddresses then rx.ignore
      else rx.append header segment.addresses payload
    else rx.append header segment.addresses payload

/-- The messages that `ProcessReceive` returns for the segments of a list, one by one. -/
def receiveAll : List Message → TransportRx → List Message × TransportRx
  | [], rx => ([], rx)
  | segment :: segments, rx =>
    let (message, rx) := rx.processReceive segment
    let (messages, rx) := receiveAll segments rx
    (message :: messages, rx)

end TransportRx

end OpenDnp3.Transport
