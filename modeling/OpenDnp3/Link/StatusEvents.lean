import OpenDnp3.Link.StatusReports

/-!
# The events of a link layer and its reports

A layer is `Honest` while the last status that the listener was told is the truth about the flag.
What the secondary transmits has nothing to do with it. The acknowledgement of a reset sets the flag
and reports `RESET`, and every other frame leaves the layer steady, unless it refuses confirmed
data. So does the end of a transmission.
-/

namespace OpenDnp3.Link

namespace LinkContext

open LinkOutput

variable {α : Type*}

/-! ## The secondary station and the events -/

/-- The last status that the listener was told is the truth about the flag. -/
structure Honest (history : List (LinkOutput α)) (ctx : LinkContext α) : Prop where
  careful : Careful history ctx
  truthful : lastStatus (history ++ ctx.outputs) = some .RESET ↔ ctx.isRemoteReset = true

/-- A steady step leaves the layer honest. -/
theorem Steady.honest {history : List (LinkOutput α)} {ctx ctx' : LinkContext α}
    (hs : Steady history ctx ctx') (h : Honest history ctx) : Honest history ctx' := by
  refine ⟨hs.careful, ?_⟩
  have hstatus := hs.statuses
  unfold LinkContext.statuses at hstatus
  rw [hs.flag, ← h.truthful]
  unfold lastStatus
  rw [List.filterMap_append, List.filterMap_append, hstatus]

/-- A report of `UNRESET` by an idle primary with the flag clear. -/
theorem Honest.of_unreset {history : List (LinkOutput α)} {ctx : LinkContext α}
    (hfirst : ResetFirst history) (hout : ctx.outputs = [.OnStateChange .UNRESET])
    (hp : ctx.pPriState = .Idle) (hflag : ctx.isRemoteReset = false) : Honest history ctx := by
  refine ⟨⟨fun hs => ?_, fun hf => ?_, fun hr => ?_, ?_⟩, ?_⟩
  · rw [hp] at hs
    cases hs
  · rw [hflag] at hf
    cases hf
  · rw [hp] at hr
    rcases hr with hr | ⟨hr, -⟩ <;> cases hr
  · rw [hout]
    exact resetFirst_concat hfirst fun frame hf => by cases hf
  · rw [hout, hflag]
    have hlast : lastStatus (history ++ [.OnStateChange .UNRESET]) = some .UNRESET := by
      unfold lastStatus
      rw [List.filterMap_append]
      exact List.getLast?_concat ..
    rw [hlast]
    decide

section Secondary

variable {history : List (LinkOutput α)} {ctx : LinkContext α} (hc : Careful history ctx)

include hc

/-- A response of the secondary is neutral. -/
theorem Careful.queueSec (free : ctx.holds false = false) (frame : LinkLayerFrame α)
    (hn : (LinkOutput.BeginTransmit frame).Neutral) :
    Steady history ctx (ctx.queueTransmit frame false) := by
  by_cases hidle : ctx.txMode = .Idle
  · rw [queueTransmit_idle free hidle]
    have hmode : Steady history ctx { ctx with
        txMode := stationMode false
        formatted := ctx.formatted ++ [frame] } :=
      hc.move rfl rfl hc.data (by
        rintro (hr | ⟨-, hm⟩)
        · exact hc.resetting (.inl hr)
        · cases hm)
    exact hmode.trans (hmode.careful.emit hn)
  · rw [queueTransmit_busy free hidle]
    exact hc.same rfl rfl rfl rfl

/-- The acknowledgement of the secondary is neutral. -/
theorem queueAck_steady (free : ctx.holds false = false) (source : UInt16) :
    Steady history ctx (ctx.queueAck source) :=
  hc.queueSec free _ (.headerFrame _ (by decide) (by decide) _)

/-- The status that the secondary responds with is neutral. -/
theorem queueLinkStatus_steady (free : ctx.holds false = false) (source : UInt16) :
    Steady history ctx (ctx.queueLinkStatus source) :=
  hc.queueSec free _ (.headerFrame _ (by decide) (by decide) _)

variable (hw : ctx.transmitWait false = ctx.holds false) (source : UInt16)

include hw

/-- A reset by the remote station has nothing to do with the reports. -/
theorem onResetLinkStates_steady : Steady history ctx (ctx.onResetLinkStates source) := by
  unfold onResetLinkStates
  split
  case h_1 hs =>
    have hack := queueAck_steady hc (free_of_secState hw hs rfl) source
    exact hack.trans (hack.careful.same rfl rfl rfl rfl)
  case h_2 hs =>
    have hack := queueAck_steady hc (free_of_secState hw hs rfl) source
    exact hack.trans (hack.careful.same rfl rfl rfl rfl)
  case h_3 => exact hc.steady

/-- Nor has a request for the status. -/
theorem onRequestLinkStatus_steady : Steady history ctx (ctx.onRequestLinkStatus source) := by
  unfold onRequestLinkStatus
  split
  case h_1 hs =>
    have hq := queueLinkStatus_steady hc (free_of_secState hw hs rfl) source
    exact hq.trans (hq.careful.same rfl rfl rfl rfl)
  case h_2 hs =>
    have hq := queueLinkStatus_steady hc (free_of_secState hw hs rfl) source
    exact hq.trans (hq.careful.same rfl rfl rfl rfl)
  case h_3 => exact hc.steady

/-- Nor has a test of the link. -/
theorem onTestLinkStatus_steady (fcb : Bool) :
    Steady history ctx (ctx.onTestLinkStatus source fcb) := by
  unfold onTestLinkStatus
  split
  case h_1 => exact hc.same rfl rfl rfl rfl
  case h_2 hs =>
    split_ifs
    · have hack := queueAck_steady hc (free_of_secState hw hs rfl) source
      exact hack.trans (hack.careful.same rfl rfl rfl rfl)
    · exact hc.steady
  case h_3 => exact hc.steady

end Secondary

section Events

variable {history : List (LinkOutput α)} {base : List (LinkLayerFrame α)} {ctx : LinkContext α}

/-- The start of a transmission is steady: a link that is not reset is reset first. -/
theorem tryStartTransmission_steady (h : Settled base ctx) (hc : Careful history ctx) :
    Steady history ctx ctx.tryStartTransmission := by
  unfold tryStartTransmission
  generalize hm : (if ctx.keepAliveTimeout then ctx.trySendRequestLinkStatus else ctx) = m
  have hboth : Steady history ctx m ∧ Settled base m := by
    rw [← hm]
    split_ifs
    · exact ⟨trySendRequestLinkStatus_steady hc (h.waits true),
        (h.pri (trySendRequestLinkStatus_work h.ready (h.waits true))).settled⟩
    · exact ⟨hc.steady, h⟩
  obtain ⟨hsteady, hset⟩ := hboth
  simp only
  cases hseg : m.pSegments with
  | none => exact hsteady
  | some segments =>
    show Steady history ctx (if m.config.UseConfirms then _ else _)
    split_ifs
    · exact hsteady.trans (trySendConfirmed_steady hsteady.careful (hset.waits true) hseg)
    · exact hsteady.trans (trySendUnconfirmed_steady hsteady.careful (hset.waits true) hseg)

/-- A message that is sent is steady. -/
theorem send_steady (h : Settled base ctx) (hc : Careful history ctx)
    (segments : TransportSegment α) : Steady history ctx (ctx.send segments) := by
  unfold send
  split_ifs with hfree
  swap
  · exact hc.steady
  have hset : Steady history ctx { ctx with pSegments := some segments } := hc.same rfl rfl rfl rfl
  exact hset.trans (tryStartTransmission_steady
    (h.setSegments hfree.2 segments).settled hset.careful)

/-- So are the messages that the upper layer sends before it returns. -/
theorem sendAll_steady (h : Settled base ctx) (hs : Started ctx) (hc : Careful history ctx)
    (replies : List (TransportSegment α)) : Steady history ctx (ctx.sendAll replies) := by
  unfold sendAll
  induction replies generalizing ctx with
  | nil => exact hc.steady
  | cons segments replies ih =>
    have hsend := send_steady h hc segments
    obtain ⟨hkeep, hstarted⟩ := send_keeps h hs segments
    exact hsend.trans (ih hkeep.settled hstarted hsend.careful)

/-- The upper layer is told something neutral, and sends. -/
theorem tell_steady (h : Settled base ctx) (hs : Started ctx) (hc : Careful history ctx)
    {output : LinkOutput α} (ho : output.transmitted = none) (hn : output.Neutral)
    (replies : List (TransportSegment α)) :
    Steady history ctx ((ctx.emit output).sendAll replies) := by
  have htold := hc.emit hn
  have hset := (tell_keeps h hs ho []).1.settled
  exact htold.trans (sendAll_steady hset hs htold.careful replies)

end Events

section Dispatch

variable {history : List (LinkOutput α)} {base : List (LinkLayerFrame α)} {ctx : LinkContext α}
  (h : Settled base ctx)

include h

/-- Confirmed data of the remote station is acknowledged and handed up steadily. -/
theorem onConfirmedUserDataSending_steady (hs : Started ctx) (hc : Careful history ctx)
    (source : UInt16) (fcb : Bool) (message : Message α) (replies : List (TransportSegment α)) :
    Steady history ctx (ctx.onConfirmedUserDataSending source fcb message replies) := by
  unfold onConfirmedUserDataSending
  split
  case h_1 => exact hc.same rfl rfl rfl rfl
  case h_2 hr =>
    have free := free_of_secState (h.waits false) hr rfl
    have hack := queueAck_steady hc free source
    split_ifs
    · -- The upper layer sends as if the secondary already waited for its acknowledgement.
      have hwait : Steady history ctx ({ ctx.queueAck source with
          nextReadFCB := !ctx.nextReadFCB }.secState .TransmitWaitReset) :=
        hack.trans (hack.careful.same rfl rfl rfl rfl)
      have hwork := queueAck_work source free (!ctx.nextReadFCB)
      have htell := tell_steady (h.sec hwork).settled (hwork.started hs) hwait.careful
        (show (LinkOutput.OnReceive message).transmitted = none from rfl) (.of_none rfl rfl) replies
      have hcomm := sendAll_secState
        (pushDataUp { ctx.queueAck source with nextReadFCB := !ctx.nextReadFCB } message)
        .TransmitWaitReset replies
      show Steady history ctx ((sendAll (pushDataUp { ctx.queueAck source with
        nextReadFCB := !ctx.nextReadFCB } message) replies).secState .TransmitWaitReset)
      rw [← hcomm]
      exact hwait.trans htell
    · exact hack.trans (hack.careful.same rfl rfl rfl rfl)
  case h_3 => exact hc.steady

/-- The acknowledgement of a reset sets the flag, sends the segment that waited for it and reports
`RESET`. -/
theorem onAck_honest (hh : Honest history ctx) (full : Bool) :
    Honest history (ctx.onAck full) := by
  by_cases hs : ctx.pPriState = .ResetLinkWait
  swap
  · exact (onAck_steady hh.careful (h.waits true) full hs).honest hh
  have free := free_of_state (h.waits true) hs rfl
  obtain ⟨segments, hseg⟩ := h.ready.exists_segments hs rfl
  -- The answer to a reset: the report follows the data that is sent at once.
  have howes := hh.careful.resetting (.inl hs)
  have hset : Careful history
      (cancelTimer { ctx with isRemoteReset := true, nextWriteFCB := true }) :=
    ⟨fun _ => rfl, fun _ => howes, fun _ => howes, hh.careful.first⟩
  have hsend := sendConfirmed_steady hset free rfl hseg
  have heq : ctx.onAck full = (sendConfirmed (cancelTimer
      { ctx with isRemoteReset := true, nextWriteFCB := true }) segments).emit
        (.OnStateChange .RESET) := by
    unfold onAck
    split
    case h_1 => simp only [cancelTimer, hseg]
    case h_2 hs' => rw [hs] at hs'; cases hs'
    case h_3 hne _ => exact absurd hs hne
  rw [heq]
  generalize sendConfirmed (cancelTimer
    { ctx with isRemoteReset := true, nextWriteFCB := true }) segments = m at hsend
  -- The report stands behind what was sent before it.
  have hout : history ++ (m.emit (.OnStateChange .RESET)).outputs =
      (history ++ m.outputs) ++ [.OnStateChange .RESET] := (List.append_assoc ..).symm
  have hsame : owesReset (history ++ (m.emit (.OnStateChange .RESET)).outputs) =
      owesReset (history ++ m.outputs) := by
    rw [hout, owesReset_concat]
    rfl
  refine ⟨⟨hsend.careful.data, fun hf => ?_, fun hr => ?_, ?_⟩, ?_⟩
  · rw [hsame]
    exact hsend.careful.paid hf
  · rw [hsame]
    exact hsend.careful.resetting hr
  · rw [hout]
    exact resetFirst_concat hsend.careful.first fun frame hf => by cases hf
  · rw [hout]
    have hlast : lastStatus (history ++ m.outputs ++ [.OnStateChange .RESET]) = some .RESET := by
      unfold lastStatus
      rw [List.filterMap_append]
      exact List.getLast?_concat ..
    have hflag : (m.emit (.OnStateChange .RESET)).isRemoteReset = true := hsend.flag
    rw [hlast, hflag]
    exact iff_of_true rfl rfl

/-- A frame keeps the layer honest, unless it refuses confirmed data. -/
theorem dispatchSending_honest (hs : Started ctx) (hh : Honest history ctx)
    (frame : LinkLayerFrame α) (replies : List (TransportSegment α))
    (hkeep : frame.fields.func = .SEC_NACK → ctx.pPriState ≠ .ConfDataWait) :
    Honest history (ctx.dispatchSending frame replies) := by
  unfold dispatchSending
  dsimp only
  split
  case h_1 => exact (onConfirmedUserDataSending_steady h hs hh.careful _ _ _ replies).honest hh
  case h_2 =>
    have hn : (LinkOutput.OnReceive (⟨⟨frame.fields.src, frame.fields.dest⟩, frame.payload⟩ :
      Message α)).Neutral := .of_none rfl rfl
    exact (tell_steady h hs hh.careful rfl hn replies).honest hh
  case h_3 h1 h2 =>
    unfold dispatch
    dsimp only
    split
    case h_1 => exact onAck_honest h hh _
    case h_2 hf => exact (onNack_steady hh.careful _ (hkeep hf)).honest hh
    case h_3 => exact (onLinkStatus_steady hh.careful _).honest hh
    case h_4 => exact (onNotSupported_steady hh.careful _).honest hh
    case h_5 => exact (onTestLinkStatus_steady hh.careful (h.waits false) _ _).honest hh
    case h_6 => exact (onResetLinkStates_steady hh.careful (h.waits false) _).honest hh
    case h_7 => exact (onRequestLinkStatus_steady hh.careful (h.waits false) _).honest hh
    case h_8 hf => exact absurd hf h1
    case h_9 hf => exact absurd hf h2
    case h_10 => exact hh

end Dispatch

/-- A frame that is not for the layer. -/
theorem onFrame_rejected_steady {history : List (LinkOutput α)} {ctx : LinkContext α}
    (hc : Careful history ctx) (frame : LinkLayerFrame α) (now : ℤ)
    (hno : ctx.accepts frame = false) : Steady history ctx (ctx.onFrame frame now) := by
  unfold onFrame
  dsimp only
  split_ifs with hon hmaster hdest hsrc
  · exact hc.steady
  · exact hc.same rfl rfl rfl rfl
  · have hcount : Steady history ctx { ctx with statistics := { ctx.statistics with
        numUnknownDestination := ctx.statistics.numUnknownDestination + 1 } } :=
      hc.same rfl rfl rfl rfl
    exact hcount.trans (hcount.careful.emit (.of_none rfl rfl))
  · have hcount : Steady history ctx { ctx with statistics := { ctx.statistics with
        numUnknownSource := ctx.statistics.numUnknownSource + 1 } } :=
      hc.same rfl rfl rfl rfl
    exact hcount.trans (hcount.careful.emit (.of_none rfl rfl))
  · exfalso
    revert hno
    simp_all [accepts]

/-- What the secondary queues is neutral. -/
theorem SecQueued.neutral {ctx : LinkContext α} {frame : LinkLayerFrame α}
    (hq : ctx.SecQueued frame) : (LinkOutput.BeginTransmit frame).Neutral := by
  cases hs : ctx.pSecState <;> simp only [SecQueued, hs] at hq
  · obtain ⟨destination, rfl | rfl⟩ := hq
    · exact .headerFrame _ (by decide) (by decide) _
    · exact .headerFrame _ (by decide) (by decide) _
  · obtain ⟨destination, rfl⟩ := hq
    exact .headerFrame _ (by decide) (by decide) _

section TxReady

variable {history : List (LinkOutput α)} {base : List (LinkLayerFrame α)} {ctx : LinkContext α}
  (h : Settled base ctx) (hc : Careful history ctx)

include h hc

/-- The transmission of the primary has ended, and a frame of the secondary may have gone out. A
reset that was in flight has been transmitted. -/
theorem reported_steady_pri (hm : ctx.txMode = .Primary) :
    Steady history ctx ctx.reported ∧ (ctx.pPriState = .LinkResetTransmitWait →
      owesReset (history ++ ctx.reported.outputs) = false) := by
  have hmode : Steady history ctx { ctx with
      txMode := stationMode false, pendingPriTx := none, pendingSecTx := none } :=
    hc.move rfl rfl hc.data (by
      rintro (hr | ⟨-, hm⟩)
      · exact hc.resetting (.inl hr)
      · cases hm)
  rcases reported_eq h.lanes (show ctx.txMode = stationMode true from hm) with
    ⟨-, heq⟩ | ⟨frame, hsome, heq⟩
  · rw [heq]
    refine ⟨hc.move rfl rfl hc.data ?_, fun hp => hc.resetting (.inr ⟨hp, hm⟩)⟩
    rintro (hr | ⟨-, hm⟩)
    · exact hc.resetting (.inl hr)
    · cases hm
  · have hq : ctx.SecQueued frame := h.lanes.queued _ _ (.inr hsome)
    rw [heq]
    refine ⟨hmode.trans (hmode.careful.emit hq.neutral), fun hp => ?_⟩
    show owesReset (history ++ (ctx.outputs ++ [.BeginTransmit frame])) = false
    rw [← List.append_assoc, owesReset_concat, owes_of_neutral hq.neutral]
    exact hc.resetting (.inr ⟨hp, hm⟩)

/-- The transmission of the secondary has ended, and what the primary has queued may have gone
out. -/
theorem reported_steady_sec (hm : ctx.txMode = .Secondary) : Steady history ctx ctx.reported := by
  rcases reported_eq h.lanes (show ctx.txMode = stationMode false from hm) with
    ⟨-, heq⟩ | ⟨frame, hsome, heq⟩
  · rw [heq]
    refine hc.move rfl rfl hc.data ?_
    rintro (hr | ⟨-, hm⟩)
    · exact hc.resetting (.inl hr)
    · cases hm
  · have hq : ctx.PriQueued frame := h.lanes.queued _ _ (.inr hsome)
    rw [heq]
    exact hc.transmit frame rfl rfl hc.data hq

/-- The end of a transmission. -/
theorem onTxReady_steady (hm : ctx.txMode ≠ .Idle) (hout : ctx.transmitted = []) :
    Steady history ctx ctx.onTxReady := by
  unfold onTxReady
  cases hmode : ctx.txMode with
  | Idle => exact absurd hmode hm
  | Primary =>
    have hr := h.reported true hmode hout
    obtain ⟨hrep, hreset⟩ := reported_steady_pri h hc hmode
    have hkeep := (priOnTxReady_work hr.ready hr.free hr.wait).keeps hr.lanes hr.other
    -- What the primary does at the end of its transmission depends on its state.
    have hdone : Steady history ctx.reported ctx.reported.priOnTxReady := by
      obtain ⟨-, hpri, -⟩ := Station.reported_state ctx
      unfold priOnTxReady
      split
      case h_1 =>
        exact advance_steady hrep.careful fun m segments hm hholds _ hseg =>
          sendUnconfirmed_steady hm (hholds.trans hr.free) hseg
      case h_2 hs =>
        exact hrep.careful.move rfl rfl nofun fun _ => hreset (hpri.symm.trans hs)
      case h_3 hs =>
        exact hrep.careful.move rfl rfl (fun _ => hrep.careful.data (by rw [hs]; rfl))
          (by rintro (h | ⟨h, -⟩) <;> cases h)
      case h_4 =>
        exact hrep.careful.move rfl rfl nofun (by rintro (h | ⟨h, -⟩) <;> cases h)
      case h_5 => exact hrep.careful.steady
    exact hrep.trans (hdone.trans (tryStartTransmission_steady hkeep.settled hdone.careful))
  | Secondary =>
    have hr := h.reported false hmode hout
    have hrep := reported_steady_sec h hc hmode
    have hkeep := (secOnTxReady_work hr.free hr.wait).keeps hr.lanes hr.ready hr.other
    have hdone : Steady history ctx.reported ctx.reported.secOnTxReady := by
      unfold secOnTxReady
      split
      case h_1 => exact hrep.careful.same rfl rfl rfl rfl
      case h_2 => exact hrep.careful.same rfl rfl rfl rfl
      case h_3 => exact hrep.careful.steady
    exact hrep.trans (hdone.trans (tryStartTransmission_steady hkeep.settled hdone.careful))

end TxReady

end LinkContext

end OpenDnp3.Link
