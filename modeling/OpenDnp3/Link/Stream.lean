import OpenDnp3.Channel.LinkSession
import OpenDnp3.Link.FormatSpec
import OpenDnp3.Link.Unconfirmed

/-!
# Frames on a stream of bytes

What a link layer without confirms hands to its channel is a stream of well formed frames, of which
the parser at the other end loses none, however the bytes are cut into reads.
-/

namespace OpenDnp3.Link

/-! ## The frames -/

/-- The frame as a parser reads it. -/
def LinkLayerFrame.sink (frame : LinkLayerFrame (List UInt8)) : SinkFrame :=
  ⟨frame.fields, frame.payload.getD []⟩

/-- The bytes of a frame. -/
def LinkLayerFrame.bytes (frame : LinkLayerFrame (List UInt8)) : List UInt8 := encode frame.sink

/-- The frames that a layer without confirms formats. -/
inductive Formats {α : Type*} (config : LinkLayerConfig) : LinkLayerFrame α → Prop
  | userData (addresses : Addresses) (segment : α) :
      Formats config (config.formatPrimaryBufferWithUnconfirmed addresses segment)
  | requestLinkStatus (destination : UInt16) :
      Formats config (config.headerFrame .PRI_REQUEST_LINK_STATUS destination)
  | ack (destination : UInt16) : Formats config (config.headerFrame .SEC_ACK destination)
  | linkStatus (destination : UInt16) :
      Formats config (config.headerFrame .SEC_LINK_STATUS destination)

/-- A segment that fits in a frame. -/
def Fits (segment : List UInt8) : Prop :=
  0 < segment.length ∧ segment.length ≤ LPDU_MAX_USER_DATA_SIZE

/-- The user data of the frame fits in it. -/
def LinkLayerFrame.FitsData (frame : LinkLayerFrame (List UInt8)) : Prop :=
  ∀ message ∈ frame.userData, ∃ segment, message.payload = some segment ∧ Fits segment

/-- The frames that are formatted pass the checks of the parser. -/
theorem Formats.wellFormed {config : LinkLayerConfig} {frame : LinkLayerFrame (List UInt8)}
    (h : Formats config frame) (hfits : frame.FitsData) : WellFormed frame.sink := by
  cases h with
  | userData addresses segment =>
    obtain ⟨segment', hsome, hpos, hle⟩ := hfits _ rfl
    obtain rfl : segment = segment' := Option.some.inj hsome
    refine ⟨nofun, fun _ => rfl, fun _ => rfl, ?_, hle⟩
    exact (decide_eq_true hpos).symm
  | requestLinkStatus destination => exact ⟨nofun, fun _ => rfl, fun _ => rfl, rfl, Nat.zero_le _⟩
  | ack destination => exact ⟨nofun, nofun, fun _ => rfl, rfl, Nat.zero_le _⟩
  | linkStatus destination => exact ⟨nofun, nofun, fun _ => rfl, rfl, Nat.zero_le _⟩

/-- The frame that is parsed reaches the link layer as it was formatted. -/
theorem Formats.linkFrame_sink {config : LinkLayerConfig} {frame : LinkLayerFrame (List UInt8)}
    (h : Formats config frame) : Channel.linkFrame frame.sink = frame := by
  cases h <;> rfl

namespace Station

open LinkContext

variable {α : Type*}

/-- What a station without confirms hands to the channel. -/
theorem Inv.formats {s : Station α} (h : Inv s) {e : LinkEvent α} (ho : s.occurs e = true)
    (hu : Unconfirmed (s.handled e)) {frame : LinkLayerFrame α}
    (hmem : frame ∈ (s.handled e).transmitted) : Formats (s.handled e).config frame := by
  have hlanes := (h.handles e ho).settled.lanes
  generalize s.handled e = ctx at *
  generalize s.stillInFlight e = base at hlanes
  -- The channel had nothing left to send, so this is the frame in flight.
  have hbusy : ctx.txMode ≠ .Idle := by
    intro hidle
    have hnil := hlanes.idle hidle
    rw [List.append_eq_nil_iff] at hnil
    rw [hnil.2] at hmem
    cases hmem
  obtain ⟨frame', hflight⟩ := hlanes.busy hbusy
  have hthis : frame' = frame := by
    have hmem' : frame ∈ base ++ ctx.transmitted := List.mem_append_right _ hmem
    rw [hflight] at hmem'
    exact (List.mem_singleton.mp hmem').symm
  subst hthis
  rcases mode_cases true hbusy with hmode | hmode
  · have hqueued : ctx.PriQueued frame' := hlanes.queued true frame' (.inl ⟨hmode, hflight⟩)
    have hstate := hu.state
    unfold PriQueued at hqueued
    rcases hpri : ctx.pPriState <;> simp only [hpri] at hqueued hstate
    case SendUnconfirmedTransmitWait =>
      obtain ⟨segments, -, rfl⟩ := hqueued
      exact .userData ..
    case RequestLinkStatusTransmitWait =>
      rw [hqueued]
      exact .requestLinkStatus _
    case LinkResetTransmitWait => cases hstate
    case ConfUserDataTransmitWait => cases hstate
  · have hqueued : ctx.SecQueued frame' := hlanes.queued false frame' (.inl ⟨hmode, hflight⟩)
    unfold SecQueued at hqueued
    split at hqueued
    · obtain ⟨destination, rfl | rfl⟩ := hqueued
      · exact .ack _
      · exact .linkStatus _
    · obtain ⟨destination, rfl⟩ := hqueued
      exact .linkStatus _
    · exact hqueued.elim

/-- The frames that have been handed to the channel, oldest first. -/
def transmissions (s : Station α) : List (LinkLayerFrame α) :=
  s.history.filterMap LinkOutput.transmitted

/-- The station has handed more frames to the channel. The user data in them, and what it still
holds, is what it held before and what it has taken. -/
structure Conveys (s s' : Station α) (frames : List (LinkLayerFrame α)) (taken : List (Message α)) :
    Prop where
  transmissions : s'.transmissions = s.transmissions ++ frames
  formats : ∀ frame ∈ frames, Formats s.ctx.config frame
  data : frames.filterMap LinkLayerFrame.userData ++ s'.ctx.unsent = s.ctx.unsent ++ taken
  config : s'.ctx.config = s.ctx.config
  unconfirmed : Unconfirmed s'.ctx

/-- Nothing is handed over and nothing is sent. -/
theorem Conveys.refl {s : Station α} (hu : Unconfirmed s.ctx) : Conveys s s [] [] :=
  ⟨(List.append_nil _).symm, nofun, (List.append_nil _).symm, rfl, hu⟩

/-- A step that occurs adds what the layer transmits in it. -/
theorem transmissions_step {s : Station α} {e : LinkEvent α} (ho : s.occurs e = true) :
    (s.step e).transmissions = s.transmissions ++ (s.handled e).transmitted := by
  unfold transmissions Station.step
  rw [if_pos ho]
  exact List.filterMap_append

/-- As long as the session lasts. -/
theorem Inv.conveys {s : Station α} (h : Inv s) (hu : Unconfirmed s.ctx) {e : LinkEvent α}
    (hdown : e ≠ .lowerLayerDown) :
    ∃ frames, Conveys s (s.step e) frames
      ((s.takes e).elim [] TransportSegment.messages) := by
  rcases ho : s.occurs e with _ | _
  · -- The channel has nothing to report, and the station takes nothing.
    have hstep : s.step e = s := if_neg (by simp [ho])
    have htakes : s.takes e = none := by
      cases e with
      | txReady => rfl
      | _ => cases ho
    rw [hstep, htakes]
    exact ⟨[], .refl hu⟩
  have hconserves := h.conserves hu e ho hdown
  have hctx : (s.step e).ctx = s.handled e := by
    unfold Station.step
    rw [if_pos ho]
  refine ⟨(s.handled e).transmitted, transmissions_step ho, ?_, ?_, ?_, ?_⟩
  · intro frame hmem
    have hformats := h.formats ho hconserves.unconfirmed hmem
    rwa [hconserves.config] at hformats
  · rw [hctx]
    exact hconserves.data
  · rw [hctx]
    exact hconserves.config
  · rw [hctx]
    exact hconserves.unconfirmed

/-- The end of a session hands nothing to the channel. -/
theorem conveys_down {s : Station α} (hu : Unconfirmed s.ctx) (hon : s.ctx.isOnline = true) :
    (s.step .lowerLayerDown).transmissions = s.transmissions ∧
      (s.step .lowerLayerDown).ctx.config = s.ctx.config ∧
      Unconfirmed (s.step .lowerLayerDown).ctx := by
  have heq : s.handled .lowerLayerDown = _ := onLowerLayerDown_eq
    (show ({ s.ctx with outputs := [] } : LinkContext α).isOnline = true from hon)
  have hctx : (s.step .lowerLayerDown).ctx = s.handled .lowerLayerDown := rfl
  refine ⟨?_, ?_, ?_⟩
  · rw [transmissions_step rfl, heq]
    exact List.append_nil _
  · rw [hctx, heq]
    rfl
  · rw [hctx, heq]
    exact ⟨hu.config, rfl⟩

end Station

/-! ## The parser at the other end -/

/-- The parser delivers these frames from the bytes that are on their way, and after them whatever
well formed frames follow. -/
structure Pends (p : LinkLayerParser) (bytes : List UInt8) (frames : List SinkFrame) : Prop where
  quiet : p.Quiet
  pending : ∀ more : List SinkFrame, (∀ frame ∈ more, WellFormed frame) →
    (p.pending (bytes ++ more.flatMap encode)).1 = frames ++ more

namespace Pends

variable {p : LinkLayerParser} {bytes : List UInt8} {frames : List SinkFrame}

/-- A parser that has been reset waits for the next frame. -/
theorem reset (p : LinkLayerParser) : Pends p.reset [] [] := by
  refine ⟨p.reset_quiet, fun more hmore => ?_⟩
  rw [LinkLayerParser.pending_of_ne _ _ p.reset_quiet.not_complete]
  have hunread : p.reset.unread = [] := by
    simp [LinkLayerParser.unread, LinkLayerParser.reset, ShiftableBuffer.reset,
      ShiftableBuffer.readBuffer]
  rw [hunread, List.nil_append, List.nil_append, scan_encode hmore]
  rfl

/-- Well formed frames follow. -/
theorem arrive (h : Pends p bytes frames) {more : List SinkFrame}
    (hmore : ∀ frame ∈ more, WellFormed frame) :
    Pends p (bytes ++ more.flatMap encode) (frames ++ more) := by
  refine ⟨h.quiet, fun later hlater => ?_⟩
  have hall : ∀ frame ∈ more ++ later, WellFormed frame := by
    intro frame hmem
    rcases List.mem_append.mp hmem with hmem | hmem
    · exact hmore frame hmem
    · exact hlater frame hmem
  calc (p.pending (bytes ++ more.flatMap encode ++ later.flatMap encode)).1
      = (p.pending (bytes ++ (more ++ later).flatMap encode)).1 := by
        rw [List.flatMap_append, List.append_assoc]
    _ = frames ++ (more ++ later) := h.pending _ hall
    _ = frames ++ more ++ later := (List.append_assoc ..).symm

/-- The first of the bytes are read: what is delivered are the first of the frames. -/
theorem read {rest : List UInt8} (h : Pends p (bytes ++ rest) frames)
    (hfit : bytes.length ≤ p.buffer.numWriteBytes) :
    ∃ later, frames = (p.onRead bytes hfit).1 ++ later ∧
      Pends (p.onRead bytes hfit).2 rest later := by
  obtain ⟨hquiet, -, hread⟩ := LinkLayerParser.onRead_spec p bytes hfit h.quiet
  generalize p.onRead bytes hfit = result at hquiet hread
  have hsplit (more : List SinkFrame) (hmore : ∀ frame ∈ more, WellFormed frame) :
      frames ++ more = result.1 ++ (result.2.pending (rest ++ more.flatMap encode)).1 := by
    rw [← h.pending more hmore, List.append_assoc, hread]
  have hnow := hsplit [] nofun
  rw [List.append_nil, List.flatMap_nil, List.append_nil] at hnow
  refine ⟨(result.2.pending rest).1, hnow, hquiet, fun more hmore => ?_⟩
  have hlater := hsplit more hmore
  rw [hnow, List.append_assoc, List.append_cancel_left_eq] at hlater
  exact hlater.symm

/-- Without bytes on their way there is nothing left to deliver. -/
theorem frames_eq_nil (h : Pends p [] frames) : frames = [] := by
  have hnone := h.pending [] nofun
  rwa [List.flatMap_nil, List.append_nil, List.append_nil, h.quiet.pending_nil, eq_comm] at hnone

end Pends

end OpenDnp3.Link
