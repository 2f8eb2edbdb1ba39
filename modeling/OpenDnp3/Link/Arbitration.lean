import OpenDnp3.Link.Wire

/-!
# When the transmitter is arbitrated

In a run in which no transmission begins with a frame of an earlier session in flight, the layer and
its channel agree about what is in flight. The layer is then one of `Station`, or it rests and waits
for the report of an earlier session. The first transmission that begins too early breaks this.
-/

namespace OpenDnp3.Link

namespace Wire

open LinkContext

variable {α : Type*} {w : Wire α}

/-! ## Frames of the present session and of earlier ones -/

/-- The frames that the present session has handed over. -/
def own (flights : List (Flight α)) : List (LinkLayerFrame α) :=
  (flights.filter Flight.current).map Flight.frame

/-- A frame of the present session is in flight. -/
theorem mem_of_mem_own {flights : List (Flight α)} {frame : LinkLayerFrame α}
    (h : frame ∈ own flights) : { frame } ∈ flights := by
  obtain ⟨flight, hflight, rfl⟩ := List.mem_map.1 h
  obtain ⟨hmem, hcurrent⟩ := List.mem_filter.1 hflight
  rwa [← hcurrent]

/-- There is a frame of an earlier session. -/
def stale (flights : List (Flight α)) : Bool := flights.any fun flight => !flight.current

/-- The frames of the present session, of two parts of the queue. -/
@[simp]
theorem own_append (flights flights' : List (Flight α)) :
    own (flights ++ flights') = own flights ++ own flights' := by
  simp [own]

/-- What a session hands over is its own. -/
@[simp]
theorem own_handOver (frames : List (LinkLayerFrame α)) : own (handOver frames) = frames := by
  induction frames with
  | nil => rfl
  | cons frame frames ih => exact congrArg (frame :: ·) ih

/-- A session that ends has nothing in flight any more. -/
@[simp]
theorem own_ended (flights : List (Flight α)) :
    own (flights.map fun flight => { flight with current := false }) = [] := by
  simp [own]

/-- A frame of an earlier session is in one of the two parts. -/
@[simp]
theorem stale_append (flights flights' : List (Flight α)) :
    stale (flights ++ flights') = (stale flights || stale flights') := by
  simp [stale]

/-- What a session hands over is of the present one. -/
@[simp]
theorem stale_handOver (frames : List (LinkLayerFrame α)) : stale (handOver frames) = false := by
  simp [stale, handOver]

/-- Without a frame of an earlier session there are those of the present one. -/
theorem eq_handOver {flights : List (Flight α)} (h : stale flights = false) :
    flights = handOver (own flights) := by
  have hcurrent : ∀ flight ∈ flights, flight.current = true := by simpa [stale] using h
  have hall : flights.map ((fun frame => ({ frame } : Flight α)) ∘ Flight.frame) = flights := by
    refine (List.map_congr_left fun flight hmem => ?_).trans (List.map_id _)
    show ({ frame := flight.frame } : Flight α) = flight
    rw [← hcurrent flight hmem]
  rw [own, List.filter_eq_self.2 hcurrent, handOver, List.map_map]
  exact hall.symm

/-- The layer with the frames of its session. -/
def station (w : Wire α) : Station α where
  ctx := { w.ctx with formatted := [] }
  inFlight := own w.sending

/-- What holds of a link layer and its channel while no transmission begins too early. -/
structure Inv (w : Wire α) : Prop where
  station : w.station.Inv
  /-- With a frame of an earlier session in flight, the layer is at rest. -/
  rests : stale w.sending = true →
    own w.sending = [] ∧ Rests { w.ctx with outputs := [], formatted := [] }

/-- The invariant holds of a station without a session. -/
theorem Inv.of_init (config : LinkLayerConfig) : Inv (init config : Wire α) where
  station := Station.Inv.of_init config
  rests := nofun

/-- An event that finds no frame of an earlier session is one of the session. -/
theorem handled_eq (w : Wire α) (e : LinkEvent α) : w.handled e = w.station.handled e := rfl

/-- Without frames of earlier sessions the wire has the events of the station. -/
theorem occurs_eq (h : stale w.sending = false) (e : LinkEvent α) :
    w.station.occurs e = w.occurs e := by
  cases e with
  | txReady =>
    show (!(own w.sending).isEmpty) = !w.sending.isEmpty
    conv_rhs => rw [eq_handOver h]
    rw [handOver, List.isEmpty_map]
  | _ => rfl

/-- What the session still has in flight. -/
theorem own_stillSending (h : stale w.sending = false) (e : LinkEvent α) :
    own (w.stillSending e) = w.station.stillInFlight e := by
  cases e with
  | txReady =>
    show own w.sending.tail = (own w.sending).tail
    conv_lhs => rw [eq_handOver h]
    rw [handOver, ← List.map_tail]
    exact own_handOver _
  | lowerLayerDown => exact own_ended _
  | _ => rfl

/-- A step that occurs: the layer handles the event, and what it transmits is handed over. -/
theorem step_eq {e : LinkEvent α} (ho : w.occurs e = true) :
    w.step e = ⟨w.handled e, w.stillSending e ++ handOver (w.handled e).transmitted⟩ := if_pos ho

/-- Only the end of a session leaves frames of an earlier one behind. -/
theorem eq_down_of_stale (hcurrent : stale w.sending = false) {e : LinkEvent α}
    (hstale : stale (w.stillSending e) = true) : e = .lowerLayerDown := by
  cases e with
  | lowerLayerDown => rfl
  | txReady =>
    have hall : ∀ flight ∈ w.sending, flight.current = true := by simpa [stale] using hcurrent
    have hno : stale w.sending.tail = false := by
      simpa [stale] using fun flight hflight => hall flight (List.mem_of_mem_tail hflight)
    exact absurd hstale (by simp [stillSending, hno])
  | _ => exact absurd hstale (by simp [stillSending, hcurrent])

/-- The end of a session hands nothing over and formats nothing. -/
theorem handled_down (w : Wire α) : (w.handled .lowerLayerDown).transmitted = [] ∧
    (w.handled .lowerLayerDown).formatted = [] := by
  show (onLowerLayerDown _).transmitted = [] ∧ (onLowerLayerDown _).formatted = []
  unfold onLowerLayerDown
  split_ifs
  · exact ⟨rfl, rfl⟩
  · exact ⟨rfl, rfl⟩

/-- The end of a session with a frame in flight leaves the layer at rest. -/
theorem Inv.rests_of_stale (h : Inv w) (hcurrent : stale w.sending = false)
    (hstale : stale (w.stillSending .lowerLayerDown) = true) :
    Rests { w.handled .lowerLayerDown with outputs := [], formatted := [] } := by
  have hon : w.ctx.isOnline = true := by
    by_contra hon
    have hoff : w.ctx.isOnline = false := by simpa using hon
    -- Without a session nothing is in flight.
    have hnone : own w.sending = [] := h.station.inFlight_iff.2 (h.station.dormant hoff).txMode
    have hsending : w.sending = [] := by
      rw [eq_handOver hcurrent, hnone]
      rfl
    rw [stillSending, hsending] at hstale
    cases hstale
  have hdown : w.handled .lowerLayerDown = _ := onLowerLayerDown_eq
    (show ({ w.ctx with outputs := [], formatted := [] } : LinkContext α).isOnline = true from hon)
  rw [hdown]
  exact ⟨⟨rfl, rfl, rfl, rfl, rfl, rfl, rfl, rfl⟩, rfl, rfl, rfl,
    h.station.settled.lanes.overwrites⟩

/-- A step that finds no frame of an earlier session keeps the invariant. -/
theorem Inv.step_of_current (h : Inv w) (hcurrent : stale w.sending = false) {e : LinkEvent α}
    (ho : w.occurs e = true) : Inv (w.step e) := by
  have hstation := h.station.step e
  unfold Station.step at hstation
  rw [if_pos ((occurs_eq hcurrent e).trans ho), ← handled_eq, ← own_stillSending hcurrent]
    at hstation
  rw [step_eq ho]
  refine ⟨⟨?_, hstation.started, fun hoff => ?_⟩, fun hstale => ?_⟩
  · have hsettled := hstation.settled.unformatted
    show Settled (own (w.stillSending e ++ handOver (w.handled e).transmitted)) _
    rw [own_append, own_handOver]
    exact hsettled
  · exact (hstation.dormant hoff).collected _ []
  · have hstale' : stale (w.stillSending e) = true := by simpa using hstale
    obtain rfl := eq_down_of_stale hcurrent hstale'
    exact ⟨by simp [stillSending, (handled_down w).1], h.rests_of_stale hcurrent hstale'⟩

/-- With a frame of an earlier session in flight, what is still in flight is so as well. -/
theorem own_stillSending_of_nil (h : own w.sending = []) (e : LinkEvent α) :
    own (w.stillSending e) = [] := by
  have hnot : ∀ flight ∈ w.sending, flight.current = false := by
    simpa [own, List.filter_eq_nil_iff] using h
  cases e with
  | lowerLayerDown => exact own_ended _
  | txReady =>
    have htail : ∀ flight ∈ w.sending.tail, flight.current = false :=
      fun flight hmem => hnot flight (List.mem_of_mem_tail hmem)
    simpa [stillSending, own, List.filter_eq_nil_iff] using htail
  | _ => exact h

/-- A layer at rest has nothing in flight. -/
theorem Inv.of_rests {ctx : LinkContext α} {sending : List (Flight α)}
    (hrests : Rests { ctx with outputs := [], formatted := [] }) (hown : own sending = []) :
    Inv { ctx, sending } where
  station := by
    refine ⟨?_, fun hs => ?_, fun _ => ?_⟩
    · show Settled (own sending) _
      rw [hown]
      exact Settled.fresh hrests.txMode hrests.pendingPriTx hrests.pendingSecTx hrests.pPriState
        hrests.pSecState hrests.timer rfl hrests.overwrites
    · have hnone : ctx.pSegments = none := hrests.pSegments
      rw [show ({ ctx, sending } : Wire α).station.ctx.pSegments = none from hnone] at hs
      cases hs
    · exact hrests.toDormant.collected _ []
  rests := fun _ => ⟨hown, hrests⟩

/-- What begins a transmission does not depend on earlier outputs. -/
theorem begins_cleared (ctx : LinkContext α) (e : LinkEvent α) :
    begins { ctx with outputs := [], formatted := [] } e = begins ctx e := by
  cases e <;> rfl

/-- The layer stays at rest while it waits for the report of an earlier session. -/
theorem Inv.handled_rests (h : Inv w) (hstale : stale w.sending = true) {e : LinkEvent α}
    (hw : WaitsOut w e) : Rests (w.handled e) :=
  (h.rests hstale).2.handle ((begins_cleared w.ctx e).trans (hw hstale))

/-- A step keeps the invariant, unless it begins a transmission too early. -/
theorem Inv.step (h : Inv w) {e : LinkEvent α} (hw : WaitsOut w e) : Inv (w.step e) := by
  by_cases ho : w.occurs e = true
  swap
  · rwa [show w.step e = w from if_neg ho]
  cases hstale : stale w.sending with
  | false => exact h.step_of_current hstale ho
  | true =>
    have hrests := h.handled_rests hstale hw
    rw [step_eq ho]
    refine .of_rests ⟨hrests.toDormant.collected [] [], hrests.keepAlive, rfl, rfl,
      hrests.overwrites⟩ ?_
    rw [own_append, own_handOver, hrests.transmitted,
      own_stillSending_of_nil (h.rests hstale).1 e]
    rfl

/-! ## What the invariant says -/

/-- While the layer transmits, the channel is sending one frame, which the session has handed
over. -/
theorem Inv.sending_of_busy (h : Inv w) (hbusy : w.ctx.txMode ≠ .Idle) :
    ∃ frame, own w.sending = [frame] ∧ w.sending = [{ frame }] := by
  have hcurrent : stale w.sending = false := by
    rw [Bool.eq_false_iff]
    exact fun hstale => hbusy (h.rests hstale).2.txMode
  obtain ⟨frame, hframe⟩ := h.station.inFlight_of_busy hbusy
  have hown : own w.sending = [frame] := hframe
  refine ⟨frame, hown, ?_⟩
  rw [eq_handOver hcurrent, hown]
  rfl

/-- In every state with the invariant one transmission is under way. -/
theorem Inv.arbitrated (h : Inv w) : Arbitrated w := by
  obtain ⟨hpri, hpriFlight, hpriPending⟩ := h.station.station true
  obtain ⟨hsec, hsecFlight, hsecPending⟩ := h.station.station false
  obtain ⟨hcfg, hp, hs, hseg, hfcb, -⟩ := Station.reported_state w.ctx
  refine ⟨hpri, hsec, fun flight later hsending hm => ?_, fun flight later hsending hm => ?_,
    hpriPending, hsecPending, h.station.settled.lanes.overwrites⟩
  · obtain ⟨frame, hown, heq⟩ := h.sending_of_busy (by rw [hm]; decide)
    obtain ⟨frame', hframe', hq⟩ := hpriFlight hm
    obtain rfl : frame = frame' := List.singleton_inj.1 (hown.symm.trans hframe')
    obtain ⟨rfl, -⟩ := List.cons.inj (hsending.symm.trans heq)
    refine ⟨rfl, by rw [hp]; exact hpri.1 (.inl hm), ?_⟩
    have hq : w.ctx.PriQueued frame := hq
    simpa only [LinkContext.PriQueued, hcfg, hp, hseg, hfcb] using hq
  · obtain ⟨frame, hown, heq⟩ := h.sending_of_busy (by rw [hm]; decide)
    obtain ⟨frame', hframe', hq⟩ := hsecFlight hm
    obtain rfl : frame = frame' := List.singleton_inj.1 (hown.symm.trans hframe')
    obtain ⟨rfl, -⟩ := List.cons.inj (hsending.symm.trans heq)
    refine ⟨rfl, by rw [hs]; exact hsec.1 (.inl hm), ?_⟩
    have hq : w.ctx.SecQueued frame := hq
    simpa only [LinkContext.SecQueued, hcfg, hs] using hq

/-- A layer at rest does nothing with the transmitter until an event begins a transmission. -/
theorem Inv.arbitrates_of_stale (h : Inv w) (hstale : stale w.sending = true) {e : LinkEvent α}
    (hw : WaitsOut w e) : Arbitrates w e := by
  have hrests := h.handled_rests hstale hw
  obtain ⟨-, hbefore⟩ := h.rests hstale
  have hpri : w.ctx.pendingPriTx = none := hbefore.pendingPriTx
  have hsec : w.ctx.pendingSecTx = none := hbefore.pendingSecTx
  refine ⟨by simp [hrests.transmitted], fun hne => absurd hrests.transmitted hne,
    fun frame hf => ?_, fun frame hf => ?_, fun frame hf => ?_⟩
  · simp [hpri] at hf
  · simp [hsec] at hf
  · simp [hrests.formatted] at hf

/-- An event of a session. -/
theorem Inv.arbitrates_of_current (h : Inv w) (hcurrent : stale w.sending = false)
    {e : LinkEvent α} (ho : w.occurs e = true) : Arbitrates w e := by
  have hh := h.station.handles e ((occurs_eq hcurrent e).trans ho)
  have hsettled : Settled (own (w.stillSending e)) (w.handled e) := by
    rw [own_stillSending hcurrent]
    exact hh.settled
  -- What the channel sends afterwards is what it still sends and what the event has handed over.
  have hlen : (own (w.stillSending e) ++ (w.handled e).transmitted).length ≤ 1 := by
    by_cases hm : (w.handled e).txMode = .Idle
    · rw [hsettled.lanes.idle hm]
      exact Nat.zero_le 1
    · obtain ⟨frame, hf⟩ := hsettled.lanes.busy hm
      rw [hf]
      exact le_refl 1
  rw [List.length_append] at hlen
  have hcarried (primary : Bool) (frame : LinkLayerFrame α)
      (hf : w.ctx.pending primary = some frame) (hon : (w.step e).ctx.isOnline = true) :
      (w.step e).ctx.pending primary = some frame ∨
        (w.step e).ctx.txMode = stationMode primary ∧ { frame } ∈ (w.step e).sending := by
    rw [step_eq ho] at hon ⊢
    have hcarries := hh.carries primary frame (by cases primary <;> exact hf) hon
    refine hcarries.symm.imp id fun ⟨hmode, hone⟩ => ⟨hmode, ?_⟩
    rw [← own_stillSending hcurrent] at hone
    refine mem_of_mem_own ?_
    rw [own_append, own_handOver]
    exact List.mem_of_mem_head? (congrArg List.head? hone)
  refine ⟨by omega, fun hne => ?_, hcarried true, hcarried false, fun frame hf flight hflight => ?_⟩
  · -- With a frame in flight nothing more is handed over.
    have hnone : own (w.stillSending e) = [] := by
      have hpos := List.length_pos_iff.2 hne
      exact List.length_eq_zero_iff.1 (by omega)
    cases e with
    | txReady => exact .inr rfl
    | lowerLayerDown => exact absurd (handled_down w).1 hne
    | _ => exact .inl (h.station.inFlight_iff.1 hnone)
  · cases hflightCurrent : flight.current with
    | true =>
      have hmem : flight.frame ∈ own (w.stillSending e) :=
        List.mem_map_of_mem (List.mem_filter.2 ⟨hflight, hflightCurrent⟩)
      rw [own_stillSending hcurrent] at hmem
      exact (hh.spares.inFlight frame hf).resolve_left List.not_mem_nil flight.frame hmem
    | false =>
      -- The session has ended by this event, which formats nothing.
      have hstale : stale (w.stillSending e) = true :=
        List.any_eq_true.2 ⟨flight, hflight, by simp [hflightCurrent]⟩
      obtain rfl := eq_down_of_stale hcurrent hstale
      rw [(handled_down w).2] at hf
      cases hf

/-- A channel that sends nothing reports nothing. -/
theorem Inv.arbitrates_of_not_occurs (h : Inv w) {e : LinkEvent α} (ho : ¬w.occurs e = true) :
    Arbitrates w e := by
  cases e with
  | txReady =>
    have hsending : w.sending = [] := by simpa [occurs] using ho
    have hnone : own w.sending = [] := by rw [hsending]; rfl
    have hidle : w.ctx.txMode = .Idle := h.station.inFlight_iff.1 hnone
    have hstep : w.step .txReady = w := if_neg ho
    have hhandled : w.handled .txReady = { w.ctx with outputs := [], formatted := [] } := by
      simp only [handled, LinkContext.handle, onTxReady, hidle]
    refine ⟨?_, fun _ => .inl hidle, fun frame hf _ => ?_, fun frame hf _ => ?_,
      fun frame hf => ?_⟩
    · rw [hhandled]
      exact Nat.zero_le 1
    · rw [hstep]
      exact .inl hf
    · rw [hstep]
      exact .inl hf
    · rw [hhandled] at hf
      cases hf
  | _ => exact absurd rfl ho

/-- A step that waits for the frame of an earlier session keeps to one transmission. -/
theorem Inv.arbitrates (h : Inv w) {e : LinkEvent α} (hw : WaitsOut w e) : Arbitrates w e := by
  by_cases ho : w.occurs e = true
  · cases hstale : stale w.sending with
    | false => exact h.arbitrates_of_current hstale ho
    | true => exact h.arbitrates_of_stale hstale hw
  · exact h.arbitrates_of_not_occurs ho

/-- A transmission that begins too early would be taken to be over when the channel reports the end
of the frame of an earlier session. -/
theorem Inv.waitsOut (h : Inv w) {e : LinkEvent α} (ha : Arbitrated (w.step e)) :
    WaitsOut w e := by
  intro hstale
  by_contra hbegins
  have he : begins w.ctx e = true := by simpa using hbegins
  obtain ⟨hown, hrests⟩ := h.rests hstale
  have hbusy : (w.handled e).txMode ≠ .Idle := hrests.txMode_ne ((begins_cleared w.ctx e).trans he)
  have hstill : w.stillSending e = w.sending ∧ w.occurs e = true := by
    cases e with
    | lowerLayerDown | txReady | responseTimeout => cases he
    | _ => exact ⟨rfl, rfl⟩
  -- The oldest frame in flight is one of an earlier session.
  obtain ⟨flight, later, hsending⟩ : ∃ flight later, w.sending = flight :: later := by
    refine List.exists_cons_of_ne_nil fun hnil => ?_
    rw [hnil] at hstale
    cases hstale
  have hearlier : ¬flight.current = true := by
    have hall : ∀ flight ∈ w.sending, ¬flight.current = true := by
      simpa [own, List.filter_eq_nil_iff] using hown
    exact hall flight (hsending ▸ List.mem_cons_self)
  rw [step_eq hstill.2, hstill.1, hsending] at ha
  rcases mode_cases true hbusy with hmode | hmode
  · exact hearlier (ha.dispatchPri flight _ rfl hmode).1
  · exact hearlier (ha.dispatchSec flight _ rfl hmode).1

/-- In a run the two stations share the transmitter without a collision exactly when no transmission
begins while a frame of an earlier session is in flight: the channel is given one frame at a time,
every report that is dispatched goes to the state that queued the frame, a waiting frame is neither
lost nor replaced, and no frame is formatted over one that is in flight or waits. -/
theorem run_arbitrates_iff (config : LinkLayerConfig) (events : List (LinkEvent α)) :
    Machine.StepsMeet step (fun w e => Arbitrates w e ∧ Arbitrated (w.step e))
        (init config : Wire α) events ↔
      Machine.StepsMeet step WaitsOut (init config : Wire α) events := by
  have hiff (w : Wire α) (e : LinkEvent α) (h : Inv w) :
      Arbitrates w e ∧ Arbitrated (w.step e) ↔ WaitsOut w e :=
    ⟨fun ha => h.waitsOut ha.2, fun hw => ⟨h.arbitrates hw, (h.step hw).arbitrated⟩⟩
  exact Machine.StepsMeet.iff_of_invariant step hiff (fun w e h hw => h.step hw)
    (.of_init config) events

/-- A session ends while a frame is in flight, and the next one sends at once. -/
def restarted : List (LinkEvent ℕ) :=
  [.lowerLayerUp 0 [], .send ⟨⟨1, 1024⟩, 10, []⟩, .lowerLayerDown, .lowerLayerUp 1 [],
    .send ⟨⟨1, 1024⟩, 20, []⟩]

/-- The report of the first frame is taken for that of the second one: the upper layer is told that
its message has been sent while the channel is still sending it. -/
example :
    let w := Machine.run step (init ⟨true, false, 0, 1, 1024, 60000, false⟩)
      (restarted ++ [.txReady])
    w.ctx.outputs = [.Advance 20, .OnTxReady] ∧
      w.sending.map (fun flight => flight.frame.payload) = [some 20] := by decide

/-- So the transmitter is not arbitrated. -/
theorem not_arbitrates_restarted :
    ¬Machine.StepsMeet step (fun w e => Arbitrates w e ∧ Arbitrated (w.step e))
      (init ⟨true, false, 0, 1, 1024, 60000, false⟩) restarted := by
  rintro ⟨-, -, -, -, ⟨-, h⟩, -⟩
  have hearlier := (h.dispatchPri _ _ rfl rfl).1
  revert hearlier
  decide

end Wire

end OpenDnp3.Link
