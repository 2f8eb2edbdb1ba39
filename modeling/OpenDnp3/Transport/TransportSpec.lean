import Mathlib.Data.List.Chain
import OpenDnp3.Transport.Transport
import OpenDnp3.Lib.Run

/-!
# Segmentation and reassembly

What one call of the receiver can do, the round trip of a message through its segments, and the
chain of segments behind every message that the receiver returns.
-/

namespace OpenDnp3.Transport

open App (Addresses Message)

/-! ## The parts of a segment -/

/-- The header of a segment, unless it is empty. -/
def header (segment : Message) : Option TransportHeader :=
  segment.payload.head?.map .ofByte

/-- The segment is the first one of a message. -/
def isFir (segment : Message) : Bool := (header segment).any (·.fir)

/-- The segment is the last one of a message. -/
def isFin (segment : Message) : Bool := (header segment).any (·.fin)

/-- The bytes after the header. -/
def data (segment : Message) : List UInt8 := segment.payload.drop 1

/-- The sequence number of the second segment is the next one modulo 64. -/
def Follows (segment segment' : Message) : Prop :=
  ∃ h ∈ header segment, ∃ h' ∈ header segment', h'.seq = h.seq + 1

/-- The header of a segment is read back. -/
@[simp]
theorem header_toByte (addresses : Addresses) (fir fin : Bool) (seq : TransportSeqNum)
    (payload : List UInt8) :
    header ⟨addresses, TransportHeader.toByte fir fin seq :: payload⟩ = some ⟨fir, fin, seq⟩ := by
  simp [header]

/-! ## One call of the receiver -/

namespace TransportRx

/-- What the receiver has read of the message that a segment belongs to. -/
def kept (h : TransportHeader) (rx : TransportRx) : List UInt8 :=
  if h.fir then [] else rx.rxBuffer

/-- The segment starts a message or is the next one of the message in the buffer. -/
def Continues (h : TransportHeader) (addresses : Addresses) (rx : TransportRx) : Prop :=
  h.fir = false → rx.rxBuffer ≠ [] ∧ h.seq = rx.expectedSeq ∧ addresses = rx.lastAddresses

/-- What the receiver does with a segment. -/
inductive Receives (rx : TransportRx) (segment : Message) : Message → TransportRx → Prop
  /-- The segment is dropped, and the receiver waits for the same one as before. -/
  | dropped {rx' : TransportRx} (hmax : rx'.maxRxFragSize = rx.maxRxFragSize)
      (hignored : ∀ h ∈ header segment, ¬ rx.Continues h segment.addresses)
      (hbuffer : rx'.rxBuffer = rx.rxBuffer) (haddresses : rx'.lastAddresses = rx.lastAddresses)
      (hseq : rx'.expectedSeq = rx.expectedSeq) : Receives rx segment noMessage rx'
  /-- The segment does not fit, and the whole message is lost. -/
  | overflowed {rx' : TransportRx} (hmax : rx'.maxRxFragSize = rx.maxRxFragSize)
      {h : TransportHeader} (hheader : h ∈ header segment)
      (hfull : rx.maxRxFragSize < (rx.kept h ++ data segment).length)
      (hbuffer : rx'.rxBuffer = []) : Receives rx segment noMessage rx'
  /-- The segment is appended to what was read. -/
  | continued {rx' : TransportRx} (hmax : rx'.maxRxFragSize = rx.maxRxFragSize)
      {h : TransportHeader} (hheader : h ∈ header segment)
      (hnext : rx.Continues h segment.addresses) (hfin : h.fin = false)
      (hbuffer : rx'.rxBuffer = rx.kept h ++ data segment)
      (haddresses : rx'.lastAddresses = segment.addresses)
      (hseq : rx'.expectedSeq = h.seq + 1) : Receives rx segment noMessage rx'
  /-- The segment ends the message. -/
  | completed {rx' : TransportRx} (hmax : rx'.maxRxFragSize = rx.maxRxFragSize)
      {h : TransportHeader} (hheader : h ∈ header segment)
      (hnext : rx.Continues h segment.addresses) (hfin : h.fin = true)
      (hfits : (rx.kept h ++ data segment).length ≤ rx.maxRxFragSize)
      (hbuffer : rx'.rxBuffer = []) :
      Receives rx segment ⟨segment.addresses, rx.kept h ++ data segment⟩ rx'

/-- The last part of the call, from a buffer that holds what was read of the same message. -/
theorem append_receives {rx s : TransportRx} {segment : Message} {byte : UInt8}
    {payload : List UInt8} (hsegment : segment.payload = byte :: payload)
    (hmax : s.maxRxFragSize = rx.maxRxFragSize)
    (hkept : s.rxBuffer = rx.kept (.ofByte byte))
    (hnext : rx.Continues (.ofByte byte) segment.addresses) :
    Receives rx segment (s.append (.ofByte byte) segment.addresses payload).1
      (s.append (.ofByte byte) segment.addresses payload).2 := by
  have hheader : TransportHeader.ofByte byte ∈ header segment := by simp [header, hsegment]
  have hdata : payload = data segment := by simp [data, hsegment]
  have hlength : (rx.kept (.ofByte byte) ++ data segment).length =
      s.numBytesRead + payload.length := by
    rw [← hkept, ← hdata, List.length_append, numBytesRead]
  have hread : s.numBytesRead ≤ s.maxRxFragSize := s.numBytesRead_le
  -- The buffer is full, the message is complete, or more segments follow.
  generalize TransportHeader.ofByte byte = h at *
  unfold append
  split_ifs with hfull hfin
  · exact .overflowed hmax hheader (by omega) rfl
  · have hmessage : (⟨segment.addresses, s.rxBuffer ++ payload⟩ : Message) =
        ⟨segment.addresses, rx.kept h ++ data segment⟩ := by
      rw [hkept, hdata]
    dsimp only
    rw [hmessage]
    refine .completed ?_ hheader hnext hfin (by omega) rfl
    exact hmax
  · refine .continued hmax hheader hnext (by simpa using hfin) ?_ rfl rfl
    rw [← hkept, ← hdata]

/-- A segment is received in one of the ways that `Receives` lists. -/
theorem processReceive_receives (rx : TransportRx) (segment : Message) :
    Receives rx segment (rx.processReceive segment).1 (rx.processReceive segment).2 := by
  unfold processReceive
  rcases hsegment : segment.payload with _ | ⟨byte, payload⟩
  · exact .dropped rfl (by simp [header, hsegment]) rfl rfl rfl
  have hheader : header segment = some (.ofByte byte) := by simp [header, hsegment]
  dsimp only
  rcases hfir : (TransportHeader.ofByte byte).fir
  · -- A segment that is not the first one has to be the one that the receiver waits for.
    have hignore : ¬ rx.Continues (.ofByte byte) segment.addresses →
        ∀ h ∈ header segment, ¬ rx.Continues h segment.addresses := by
      simp [hheader]
    simp only [Bool.false_eq_true, false_and, if_false, Bool.not_false, if_true]
    split_ifs with hempty hseq haddresses
    · refine .dropped rfl (hignore fun hnext => ?_) rfl rfl rfl
      exact (hnext hfir).1 (List.length_eq_zero_iff.mp hempty)
    · exact .dropped rfl (hignore fun hnext => hseq (hnext hfir).2.1) rfl rfl rfl
    · exact .dropped rfl (hignore fun hnext => haddresses (hnext hfir).2.2) rfl rfl rfl
    · refine append_receives hsegment rfl (by simp [kept, hfir, count]) fun _ => ?_
      exact ⟨fun hnil => hempty (List.length_eq_zero_iff.mpr hnil), not_not.mp hseq,
        not_not.mp haddresses⟩
  · -- A first segment is appended to an empty buffer.
    simp only [true_and, Bool.not_true, Bool.false_eq_true, if_false]
    refine append_receives hsegment ?_ ?_ fun h => ?_
    · split_ifs <;> rfl
    · split_ifs with hread
      · simp [kept, hfir, clearRxBuffer]
      · simpa [kept, hfir, count, numBytesRead] using hread
    · rw [hfir] at h
      cases h

/-- The size of the buffer stays. -/
theorem Receives.max_eq {rx rx' : TransportRx} {segment message : Message}
    (h : Receives rx segment message rx') : rx'.maxRxFragSize = rx.maxRxFragSize := by
  rcases h with ⟨hmax⟩ | ⟨hmax⟩ | ⟨hmax⟩ | ⟨hmax⟩ <;> exact hmax

end TransportRx

/-! ## The round trip -/

/-- The stream of segments of a payload, from a given sequence number on. -/
inductive Segments (addresses : Addresses) :
    Bool → TransportSeqNum → List UInt8 → List Message → Prop
  | last {fir : Bool} {seq : TransportSeqNum} {payload : List UInt8} :
      Segments addresses fir seq payload
        [⟨addresses, TransportHeader.toByte fir true seq :: payload⟩]
  | cons (fir : Bool) {seq : TransportSeqNum} {part payload : List UInt8} {segments : List Message}
      (hpart : part ≠ []) (hpayload : payload ≠ [])
      (hrest : Segments addresses false (seq + 1) payload segments) :
      Segments addresses fir seq (part ++ payload)
        (⟨addresses, TransportHeader.toByte fir false seq :: part⟩ :: segments)

namespace TransportTx

/-- A segment takes what is left of the message, up to its maximum. -/
theorem numToSend_eq (tx : TransportTx) :
    tx.numToSend = min tx.message.payload.length MAX_TPDU_PAYLOAD := by
  unfold numToSend
  split <;> omega

/-- There are more segments while the message is larger than one. -/
theorem advance_fst (tx : TransportTx) :
    tx.advance.1 = decide (MAX_TPDU_PAYLOAD < tx.message.payload.length) := by
  have hnil : tx.message.payload.drop tx.numToSend = [] ↔
      tx.message.payload.length ≤ MAX_TPDU_PAYLOAD := by
    rw [List.drop_eq_nil_iff, numToSend_eq]
    omega
  rw [Bool.eq_iff_iff]
  simp [advance, hnil]

/-- A segment that was formatted does not change what `Advance` does. -/
theorem advance_getSegment (tx : TransportTx) :
    tx.getSegment.2.advance =
      (tx.advance.1, { tx.advance.2 with numTransportTx := tx.getSegment.2.numTransportTx }) := by
  unfold getSegment
  split <;> rfl

/-- What is left fits in one segment. -/
theorem segments_last {tx : TransportTx} (hfresh : tx.txSegment = none)
    (h : tx.message.payload.length ≤ MAX_TPDU_PAYLOAD) :
    tx.segments = [⟨tx.message.addresses,
      TransportHeader.toByte (tx.tpduCount = 0) true tx.sequence :: tx.message.payload⟩] := by
  have hall : tx.numToSend = tx.message.payload.length := by
    rw [numToSend_eq]
    omega
  have hdone : tx.getSegment.2.advance.1 = false := by
    rw [advance_getSegment, advance_fst]
    simpa using h
  rw [segments, dif_neg (by simp [hdone])]
  simp [getSegment, hfresh, hall]

/-- More than one segment is left. -/
theorem segments_more {tx : TransportTx} (hfresh : tx.txSegment = none)
    (h : MAX_TPDU_PAYLOAD < tx.message.payload.length) :
    tx.segments = ⟨tx.message.addresses, TransportHeader.toByte (tx.tpduCount = 0) false
      tx.sequence :: tx.message.payload.take MAX_TPDU_PAYLOAD⟩ ::
        tx.getSegment.2.advance.2.segments := by
  have hfull : tx.numToSend = MAX_TPDU_PAYLOAD := by
    rw [numToSend_eq]
    omega
  have hmore : tx.getSegment.2.advance.1 = true := by
    rw [advance_getSegment, advance_fst]
    simpa using h
  rw [segments, dif_pos hmore]
  simp [getSegment, hfresh, hfull, h.ne]

/-- The transmitter cuts what is left of its message into such a stream. -/
theorem segments_spec (tx : TransportTx) (hfresh : tx.txSegment = none) :
    Segments tx.message.addresses (tx.tpduCount = 0) tx.sequence tx.message.payload
      tx.segments := by
  by_cases h : tx.message.payload.length ≤ MAX_TPDU_PAYLOAD
  · rw [segments_last hfresh h]
    exact .last
  -- A full segment, and the stream of what is left.
  have hlt := not_le.mp h
  obtain ⟨hmessage, hseq, hcount⟩ : tx.getSegment.2.advance.2.message =
        ⟨tx.message.addresses, tx.message.payload.drop MAX_TPDU_PAYLOAD⟩ ∧
      tx.getSegment.2.advance.2.sequence = tx.sequence + 1 ∧
      tx.getSegment.2.advance.2.tpduCount = tx.tpduCount + 1 := by
    rw [advance_getSegment]
    simp [advance, numToSend_eq, min_eq_right hlt.le]
  have hrest := segments_spec tx.getSegment.2.advance.2 rfl
  rw [hmessage, hseq, hcount] at hrest
  have hpart : tx.message.payload.take MAX_TPDU_PAYLOAD ≠ [] := by
    apply List.ne_nil_of_length_pos
    rw [List.length_take, min_eq_left hlt.le]
    decide
  have hpayload : tx.message.payload.drop MAX_TPDU_PAYLOAD ≠ [] := by
    rw [Ne, List.drop_eq_nil_iff]
    exact h
  rw [segments_more hfresh hlt]
  have hstream := Segments.cons (tx.tpduCount = 0) hpart hpayload hrest
  rwa [List.take_append_drop] at hstream
termination_by tx.message.payload.length
decreasing_by
  rw [hmessage, List.length_drop]
  have : 0 < MAX_TPDU_PAYLOAD := by decide
  omega

end TransportTx

namespace TransportRx

/-- The receiver waits for the rest of a message, of which it has read the given bytes. -/
def Awaits (addresses : Addresses) (fir : Bool) (seq : TransportSeqNum) (before : List UInt8)
    (rx : TransportRx) : Prop :=
  if fir then before = []
  else rx.rxBuffer = before ∧ before ≠ [] ∧ rx.expectedSeq = seq ∧ rx.lastAddresses = addresses

/-- The next segment of a message that fits is appended, or ends the message. -/
theorem processReceive_of_awaits {rx : TransportRx} {segment : Message} {h : TransportHeader}
    {before : List UInt8} (hheader : header segment = some h) (hdata : data segment ≠ [])
    (hawaits : rx.Awaits segment.addresses h.fir h.seq before)
    (hfits : (before ++ data segment).length ≤ rx.maxRxFragSize) :
    let result := rx.processReceive segment
    if h.fin then result.1 = ⟨segment.addresses, before ++ data segment⟩
    else result.1 = noMessage ∧ result.2.maxRxFragSize = rx.maxRxFragSize ∧
      result.2.Awaits segment.addresses false (h.seq + 1) (before ++ data segment) := by
  intro result
  have hkept : rx.kept h = before := by
    unfold Awaits at hawaits
    unfold kept
    split_ifs at hawaits ⊢
    · exact hawaits.symm
    · exact hawaits.1
  have hnext : rx.Continues h segment.addresses := by
    intro hfir
    rw [hfir] at hawaits
    obtain ⟨hbuffer, hne, hseq, haddresses⟩ := hawaits
    exact ⟨hbuffer ▸ hne, hseq.symm, haddresses.symm⟩
  have hreceives : Receives rx segment result.1 result.2 := rx.processReceive_receives segment
  generalize result.1 = message, result.2 = rx' at hreceives
  have hthis {h' : TransportHeader} (hmem : h' ∈ header segment) : h' = h := by
    rw [hheader] at hmem
    exact (Option.mem_some_iff.mp hmem).symm
  -- The segment is the one that the receiver waits for, and there is space for it.
  rcases hreceives with ⟨_, hignored⟩ | ⟨_, hmem, hfull⟩ | ⟨hmax, hmem, _, hfin, hbuffer, hlast,
    hseq⟩ | ⟨_, hmem, _, hfin⟩
  · exact absurd hnext (hignored h hheader)
  · rw [hthis hmem, hkept] at hfull
    exact absurd hfull (not_lt.mpr hfits)
  · rw [hthis hmem] at hbuffer hseq hfin
    rw [hkept] at hbuffer
    rw [hfin, if_neg Bool.false_ne_true]
    refine ⟨rfl, hmax, hbuffer, ?_, hseq, hlast⟩
    exact List.append_ne_nil_of_right_ne_nil _ hdata
  · rw [hthis hmem] at hfin ⊢
    rw [if_pos hfin, hkept]

/-- The receiver returns nothing until the stream of a message ends, and then the message. -/
theorem receiveAll_segments {addresses : Addresses} {fir : Bool} {seq : TransportSeqNum}
    {payload : List UInt8} {segments : List Message}
    (h : Segments addresses fir seq payload segments) {rx : TransportRx} {before : List UInt8}
    (hawaits : rx.Awaits addresses fir seq before) (hpayload : payload ≠ [])
    (hfits : (before ++ payload).length ≤ rx.maxRxFragSize) :
    (rx.receiveAll segments).1 =
      List.replicate (segments.length - 1) noMessage ++ [⟨addresses, before ++ payload⟩] := by
  induction h generalizing rx before with
  | @last fir seq payload =>
    have hlast := processReceive_of_awaits (header_toByte addresses fir true seq payload) hpayload
      hawaits hfits
    rw [if_pos rfl] at hlast
    simp only [receiveAll, List.length_singleton, Nat.sub_self, List.replicate_zero,
      List.nil_append]
    rw [hlast]
    rfl
  | @cons fir seq part payload segments hpart hrest hsegments ih =>
    have hfits' : (before ++ part).length ≤ rx.maxRxFragSize := by
      simp only [List.length_append] at hfits ⊢
      omega
    obtain ⟨hnone, hmax, hawaits'⟩ :=
      processReceive_of_awaits (header_toByte addresses fir false seq part) hpart hawaits hfits'
    -- The induction is on the stream, for every buffer that holds what came before.
    have htail := ih hawaits' hrest (by rw [hmax]; simpa [data] using hfits)
    have hlength : 0 < segments.length := by
      cases hsegments <;> exact Nat.succ_pos _
    obtain ⟨n, hn⟩ := Nat.exists_eq_add_one.mpr hlength
    simp only [receiveAll, hnone, htail, List.length_cons, hn, Nat.add_sub_cancel,
      List.replicate_succ, List.cons_append]
    simp [data]

/-- A message that fits comes back from its segments with its addresses, from every state of the
transmitter and of the receiver. -/
theorem receiveAll_configure (tx : TransportTx) (rx : TransportRx) (message : Message)
    (hne : message.payload ≠ []) (hfits : message.payload.length ≤ rx.maxRxFragSize) :
    let segments := (tx.configure message).segments
    (rx.receiveAll segments).1 = List.replicate (segments.length - 1) noMessage ++ [message] := by
  intro segments
  have hstream : Segments message.addresses true tx.sequence message.payload segments :=
    (tx.configure message).segments_spec rfl
  have hawaits : rx.Awaits message.addresses true tx.sequence [] := rfl
  exact receiveAll_segments hstream hawaits hne hfits

/-- A full last segment, in the middle of another message and at the end of the sequence. -/
theorem receiveAll_configure_full :
    let tx : TransportTx := { message := noMessage, sequence := 63 }
    let rx : TransportRx :=
      { maxRxFragSize := 498, rxBuffer := [1, 2], lastAddresses := ⟨3, 4⟩, expectedSeq := 63
        numBytesRead_le := by decide }
    let message : Message := ⟨⟨1, 10⟩, List.replicate 498 7⟩
    let segments := (tx.configure message).segments
    (rx.receiveAll segments).1 = List.replicate (segments.length - 1) noMessage ++ [message] := by
  intro tx rx message
  have hlength : message.payload.length = 498 := List.length_replicate
  have hne : message.payload ≠ [] := List.ne_nil_of_length_pos (by omega)
  exact receiveAll_configure tx rx message hne hlength.le

end TransportRx

/-! ## The chain behind a message -/

/-- The parts are segments out of those received, in order. The first one is the last FIR segment,
and the later ones follow it with consecutive sequence numbers and the same addresses. -/
structure Chain (received parts : List Message) (addresses : Addresses) : Prop where
  received_eq : ∃ before after, received = before ++ after ∧ parts.Sublist after ∧
    parts.head? = after.head? ∧ ∀ segment ∈ after.tail, isFir segment = false
  first : ∃ segment ∈ parts.head?, isFir segment = true
  consecutive : parts.IsChain Follows
  addresses_eq : ∀ segment ∈ parts, segment.addresses = addresses

namespace Chain

variable {received parts : List Message} {addresses : Addresses} {segment : Message}

/-- A chain has a segment. -/
theorem ne_nil (hchain : Chain received parts addresses) : parts ≠ [] := by
  rintro rfl
  obtain ⟨_, hmem, _⟩ := hchain.first
  cases hmem

/-- A FIR segment is a chain of its own. -/
theorem start (received : List Message) (hfir : isFir segment = true) :
    Chain (received ++ [segment]) [segment] segment.addresses where
  received_eq := ⟨received, [segment], rfl, .refl _, rfl, by simp⟩
  first := ⟨segment, rfl, hfir⟩
  consecutive := .singleton _
  addresses_eq := by simp

/-- Any other segment comes after the first part too. -/
theorem received_append (hchain : Chain received parts addresses) (hfir : isFir segment = false) :
    ∃ before after, received ++ [segment] = before ++ (after ++ [segment]) ∧
      parts.Sublist after ∧ parts.head? = (after ++ [segment]).head? ∧
        ∀ later ∈ (after ++ [segment]).tail, isFir later = false := by
  obtain ⟨before, after, hreceived, hsublist, hhead, htail⟩ := hchain.received_eq
  have hafter : after ≠ [] := by
    rintro rfl
    exact hchain.ne_nil (List.sublist_nil.mp hsublist)
  refine ⟨before, after, ?_, hsublist, ?_, ?_⟩
  · rw [hreceived, List.append_assoc]
  · rw [hhead, List.head?_append_of_ne_nil _ hafter]
  · rw [List.tail_append_of_ne_nil hafter]
    simpa [or_imp, forall_and] using ⟨htail, hfir⟩

/-- Any other segment leaves a chain as it is. -/
theorem skip (hchain : Chain received parts addresses) (hfir : isFir segment = false) :
    Chain (received ++ [segment]) parts addresses := by
  obtain ⟨before, after, hreceived, hsublist, hhead, htail⟩ := hchain.received_append hfir
  have hsublist' : parts.Sublist (after ++ [segment]) :=
    hsublist.trans (List.sublist_append_left _ _)
  exact ⟨⟨before, after ++ [segment], hreceived, hsublist', hhead, htail⟩, hchain.first,
    hchain.consecutive, hchain.addresses_eq⟩

/-- The next segment of the same message makes a chain longer. -/
theorem snoc (hchain : Chain received parts addresses) (hfir : isFir segment = false)
    (haddresses : segment.addresses = addresses)
    (hfollows : ∀ last ∈ parts.getLast?, Follows last segment) :
    Chain (received ++ [segment]) (parts ++ [segment]) addresses := by
  obtain ⟨before, after, hreceived, hsublist, hhead, htail⟩ := hchain.received_append hfir
  have hparts : (parts ++ [segment]).head? = parts.head? :=
    List.head?_append_of_ne_nil _ hchain.ne_nil
  constructor
  · exact ⟨before, after ++ [segment], hreceived, hsublist.append_right _, hparts.trans hhead,
      htail⟩
  · rw [hparts]
    exact hchain.first
  · refine hchain.consecutive.append (.singleton _) fun last hlast next hnext => ?_
    obtain rfl : segment = next := by simpa using hnext
    exact hfollows last hlast
  · simpa [or_imp, forall_and] using ⟨hchain.addresses_eq, haddresses⟩

end Chain

namespace TransportRx

/-- The bytes in the buffer are those of a chain without its end, and the receiver waits for the
sequence number after its last part. -/
def Buffers (received : List Message) (rx : TransportRx) : Prop :=
  rx.rxBuffer ≠ [] → ∃ parts, Chain received parts rx.lastAddresses ∧
    (∀ segment ∈ parts, isFin segment = false) ∧ rx.rxBuffer = parts.flatMap data ∧
      ∀ last ∈ parts.getLast?, ∃ h ∈ header last, rx.expectedSeq = h.seq + 1

/-- A segment that the receiver accepts makes a chain with what was kept. -/
theorem Buffers.joins {received : List Message} {rx : TransportRx} {segment : Message}
    {h : TransportHeader} (hbuffers : rx.Buffers received) (hheader : h ∈ header segment)
    (hnext : rx.Continues h segment.addresses) :
    ∃ parts, Chain (received ++ [segment]) (parts ++ [segment]) segment.addresses ∧
      (∀ part ∈ parts, isFin part = false) ∧
        rx.kept h ++ data segment = (parts ++ [segment]).flatMap data := by
  have hisFir : isFir segment = h.fir := by
    rw [isFir, Option.mem_def.mp hheader, Option.any_some]
  rcases hfir : h.fir
  · obtain ⟨hne, hseq, haddresses⟩ := hnext hfir
    obtain ⟨parts, hchain, hfin, hbytes, hlast⟩ := hbuffers hne
    refine ⟨parts, ?_, hfin, by simp [kept, hfir, hbytes]⟩
    rw [haddresses]
    refine hchain.snoc (hisFir.trans hfir) haddresses fun last hmem => ?_
    obtain ⟨h', hheader', hexpected⟩ := hlast last hmem
    exact ⟨h', hheader', h, hheader, hseq.trans hexpected⟩
  · refine ⟨[], Chain.start received (hisFir.trans hfir), by simp, by simp [kept, hfir]⟩

/-- One call keeps the chain behind the buffer. -/
theorem Receives.buffers {received : List Message} {rx rx' : TransportRx}
    {segment message : Message} (h : Receives rx segment message rx')
    (hbuffers : rx.Buffers received) : rx'.Buffers (received ++ [segment]) := by
  rcases h with ⟨_, hignored, hbuffer, haddresses, hseq⟩ | ⟨_, _, _, hbuffer⟩ |
    ⟨_, hheader, hnext, hfin, hbuffer, haddresses, hseq⟩ | ⟨_, _, _, _, _, hbuffer⟩
  · -- A FIR segment is never ignored.
    have hfir : isFir segment = false := by
      unfold isFir
      rcases hheader : header segment with _ | h
      · rfl
      · rw [Option.any_some, ← Bool.not_eq_true]
        intro hfir
        exact hignored h hheader fun hfalse => by simp [hfir] at hfalse
    intro hne
    rw [hbuffer] at hne
    obtain ⟨parts, hchain, hparts⟩ := hbuffers hne
    rw [← hbuffer, ← hseq] at hparts
    exact ⟨parts, haddresses ▸ hchain.skip hfir, hparts⟩
  · -- A call that ends a message or overflows leaves the buffer empty.
    exact fun hne => absurd hbuffer hne
  · intro _
    -- The segment continues the chain that is in the buffer.
    obtain ⟨parts, hchain, hparts, hbytes⟩ := hbuffers.joins hheader hnext
    refine ⟨parts ++ [segment], haddresses ▸ hchain, ?_, hbuffer.trans hbytes, ?_⟩
    · have hisFin : isFin segment = false := by
        rw [isFin, Option.mem_def.mp hheader, Option.any_some, hfin]
      simpa [or_imp, forall_and] using ⟨hparts, hisFin⟩
    · intro last hlast
      obtain rfl : segment = last := by simpa using hlast
      exact ⟨_, hheader, hseq⟩
  · exact fun hne => absurd hbuffer hne

/-- The receiver after one more segment. -/
def step (rx : TransportRx) (segment : Message) : TransportRx := (rx.processReceive segment).2

open Machine in
/-- After every run from an empty buffer, the buffer holds a chain without its end. -/
theorem run_buffers (maxRxFragSize : ℕ) (segments : List Message) :
    let rx := run step { maxRxFragSize } segments
    rx.maxRxFragSize = maxRxFragSize ∧ rx.Buffers segments := by
  induction segments using List.reverseRecOn with
  | nil => exact ⟨rfl, fun hne => absurd rfl hne⟩
  | append_singleton segments segment ih =>
    obtain ⟨hmax, hbuffers⟩ := ih
    rw [run_append]
    have hreceives := (run step { maxRxFragSize } segments).processReceive_receives segment
    exact ⟨hreceives.max_eq.trans hmax, hreceives.buffers hbuffers⟩

open Machine in
/-- A message that the receiver returns after any run consists of the data of a chain, from a FIR
segment to the current one, which is the only one with FIN. -/
theorem chain_of_processReceive (maxRxFragSize : ℕ) (earlier : List Message) (current : Message)
    (h : ((run step { maxRxFragSize } earlier).processReceive current).1.payload ≠ []) :
    let message := ((run step { maxRxFragSize } earlier).processReceive current).1
    ∃ parts, Chain (earlier ++ [current]) (parts ++ [current]) current.addresses ∧
      isFin current = true ∧ (∀ segment ∈ parts, isFin segment = false) ∧
      message = ⟨current.addresses, (parts ++ [current]).flatMap data⟩ ∧
        message.payload.length ≤ maxRxFragSize := by
  intro message
  obtain ⟨hmax, hbuffers⟩ := run_buffers maxRxFragSize earlier
  have hreceives : Receives _ current message _ :=
    (run step { maxRxFragSize } earlier).processReceive_receives current
  change message.payload ≠ [] at h
  generalize message = message' at h hreceives
  -- The other ways of a call return nothing.
  rcases hreceives with ⟨_⟩ | ⟨_⟩ | ⟨_⟩ | ⟨_, hheader, hnext, hfin, hfits⟩
  · exact absurd rfl h
  · exact absurd rfl h
  · exact absurd rfl h
  obtain ⟨parts, hchain, hparts, hbytes⟩ := hbuffers.joins hheader hnext
  refine ⟨parts, hchain, ?_, hparts, by rw [hbytes], hfits.trans hmax.le⟩
  rw [isFin, Option.mem_def.mp hheader, Option.any_some, hfin]

open Machine in
/-- A message of two segments, between which a segment from another source is dropped. -/
theorem chain_of_processReceive_two :
    let earlier : List Message := [⟨⟨1, 10⟩, [0x45, 1, 2]⟩, ⟨⟨7, 10⟩, [0x06, 9]⟩]
    let current : Message := ⟨⟨1, 10⟩, [0x86, 3]⟩
    let message := ((run step { maxRxFragSize := 3 } earlier).processReceive current).1
    message = ⟨⟨1, 10⟩, [1, 2, 3]⟩ ∧
      ∃ parts, Chain (earlier ++ [current]) (parts ++ [current]) current.addresses ∧
        isFin current = true ∧ (∀ segment ∈ parts, isFin segment = false) ∧
        message = ⟨current.addresses, (parts ++ [current]).flatMap data⟩ ∧
          message.payload.length ≤ 3 := by
  intro earlier current message
  have hmessage : message = ⟨⟨1, 10⟩, [1, 2, 3]⟩ := by decide
  exact ⟨hmessage, chain_of_processReceive 3 earlier current (by decide)⟩

end TransportRx

end OpenDnp3.Transport
