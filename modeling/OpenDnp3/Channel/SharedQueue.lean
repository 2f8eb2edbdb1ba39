import OpenDnp3.Channel.Connecting
import OpenDnp3.Channel.LifeCycle
import OpenDnp3.Link.Progress

/-!
# A queue that link layers share

The link layers of a channel share its queue. They are `Joined` to it while it holds what they have
in flight, in the order in which they began. The log says for every transmission in the queue
whether its session has gone offline since (`pending`). A call of a session other than the end of
its transmission keeps the link layers joined, unless it takes a session offline that has a frame in
the queue.
-/

namespace OpenDnp3.Channel

open Link

/-! ## What the log says of the queue -/

section Logs

variable {δ : Type*}

/-- A session has gone online or offline: its transmissions are not those of its present time
online. -/
def age (session : SessionId) (pending : List (SessionId × Bool)) : List (SessionId × Bool) :=
  pending.map fun entry => if entry.1 = session then (session, false) else entry

/-- What an output does to the transmissions that are not completed, oldest first. The flag says
that the session has neither gone offline nor come online since. -/
def pendingStep (pending : List (SessionId × Bool)) : Output δ → List (SessionId × Bool)
  | .BeginTransmit session _ => pending ++ [(session, true)]
  | .call _ .OnTxReady => pending.tail
  | .call session .OnLowerLayerUp | .call session .OnLowerLayerDown => age session pending
  | .Shutdown => []
  | _ => pending

/-- The transmissions of a log that are not completed. -/
def pending (log : List (Output δ)) : List (SessionId × Bool) := log.foldl pendingStep []

/-- The end of a transmission that is told to an online session is that of the oldest transmission,
which this session began after it last came online. -/
def Completion (log : List (Output δ)) : Output δ → Prop
  | .call session .OnTxReady =>
    isUp log session = true → (pending log).head? = some (session, true)
  | _ => True

/-- The transmissions that are not completed after one more output. -/
theorem pending_concat (log : List (Output δ)) (output : Output δ) :
    pending (log ++ [output]) = pendingStep (pending log) output := List.foldl_append

end Logs

namespace IOHandler

section Queue

variable {α σ δ : Type*}

/-- Transmissions have been added to the queue, and nothing has been completed or told. -/
structure Grows (h h' : IOHandler α σ δ) (new : List (Transmission δ)) : Prop where
  txQueue : h'.txQueue = h.txQueue ++ new
  channel : h'.channel.isSome = h.channel.isSome
  pending : pending h'.log = pending h.log ++ new.map fun transmission =>
    (transmission.session, true)
  up : ∀ session, isUp h'.log session = isUp h.log session
  completions : History.Each Completion h.log → History.Each Completion h'.log

/-- Nothing is added to the queue. -/
theorem Grows.refl (h : IOHandler α σ δ) : Grows h h [] :=
  ⟨(List.append_nil _).symm, rfl, (List.append_nil _).symm, fun _ => rfl, id⟩

/-- What two steps add to the queue, one after the other. -/
theorem Grows.trans {h h' h'' : IOHandler α σ δ} {new new' : List (Transmission δ)}
    (hg : Grows h h' new) (hg' : Grows h' h'' new') : Grows h h'' (new ++ new') where
  txQueue := by rw [hg'.txQueue, hg.txQueue, List.append_assoc]
  channel := hg'.channel.trans hg.channel
  pending := by rw [hg'.pending, hg.pending, List.map_append, List.append_assoc]
  up session := (hg'.up session).trans (hg.up session)
  completions hc := hg'.completions (hg.completions hc)

/-- A step that only writes to the log, and nothing that matters to the queue. -/
theorem Grows.of_emit {h h' : IOHandler α σ δ} (output : Output δ)
    (hquiet : ∀ pending, pendingStep pending output = pending)
    (hupDown : ∀ session, output.upDown session = none) (hcompletion : Completion h.log output)
    (hlog : h'.log = h.log ++ [output]) (hqueue : h'.txQueue = h.txQueue)
    (hchannel : h'.channel.isSome = h.channel.isSome) : Grows h h' [] where
  txQueue := hqueue.trans (List.append_nil _).symm
  channel := hchannel
  pending := by rw [hlog, pending_concat, hquiet, List.map_nil, List.append_nil]
  up session := by rw [hlog, isUp_concat, hupDown, Option.getD_none]
  completions hc := by
    rw [hlog]
    exact (History.each_concat _ _).mpr ⟨hc, hcompletion⟩

/-- To write the first transmission leaves the queue. -/
theorem checkForSend_grows (h : IOHandler α σ δ) : Grows h h.checkForSend [] := by
  unfold checkForSend
  split
  case h_1 transmission queue channel hqueue hchannel =>
    split_ifs
    · exact .of_emit (.BeginWrite transmission.txdata) (fun _ => rfl) (fun _ => rfl) trivial rfl rfl
        (by simp [emit, hchannel])
    · exact .refl h
  case h_2 => exact .refl h

/-- A transmission that begins is added to the queue. -/
theorem beginTransmit_grows {h : IOHandler α σ δ} (hopen : h.channel.isSome = true)
    (session : SessionId) (data : δ) :
    Grows h (h.beginTransmit session data) [⟨data, session⟩] := by
  unfold beginTransmit
  rw [if_pos hopen]
  have hbegin : Grows h ({ h with txQueue := h.txQueue ++ [Transmission.mk data session] }.emit
      (.BeginTransmit session data)) [⟨data, session⟩] := by
    refine ⟨rfl, rfl, ?_, fun session' => ?_, fun hc => ?_⟩
    · exact pending_concat _ _
    · exact (isUp_concat _ _ _).trans rfl
    · exact (History.each_concat _ _).mpr ⟨hc, trivial⟩
  simpa using hbegin.trans (checkForSend_grows _)

/-- What a session transmits before a call returns. Without a channel it is to transmit nothing. -/
theorem transmits_grows {h : IOHandler α σ δ} (session : SessionId) {result : σ × List δ}
    (hopen : h.channel.isSome = true ∨ result.2 = []) :
    Grows h (h.transmits session result) (result.2.map fun data => ⟨data, session⟩) ∧
      (h.transmits session result).links = Function.update h.links session result.1 := by
  obtain ⟨link, frames⟩ := result
  unfold transmits
  have hlinks : Grows h { h with links := Function.update h.links session link } [] :=
    ⟨(List.append_nil _).symm, rfl, (List.append_nil _).symm, fun _ => rfl, id⟩
  -- The frames are added one after the other while there is a channel.
  have hloop : ∀ (frames : List δ) (h' : IOHandler α σ δ), h'.channel.isSome = true →
      Grows h' (frames.foldl (fun h data => h.beginTransmit session data) h')
          (frames.map fun data => ⟨data, session⟩) ∧
        (frames.foldl (fun h data => h.beginTransmit session data) h').links = h'.links := by
    intro frames
    induction frames with
    | nil => exact fun h' _ => ⟨.refl h', rfl⟩
    | cons data frames ih =>
      intro h' hopen'
      have hone := beginTransmit_grows hopen' session data
      obtain ⟨hgrows, hsame⟩ := ih (h'.beginTransmit session data) (hone.channel.trans hopen')
      refine ⟨hone.trans hgrows, hsame.trans ?_⟩
      unfold beginTransmit checkForSend
      rw [if_pos hopen']
      split
      · split_ifs <;> rfl
      · rfl
  rcases hopen with hopen | rfl
  · obtain ⟨hgrows, hsame⟩ := hloop frames
      { h with links := Function.update h.links session link } hopen
    exact ⟨hlinks.trans hgrows, hsame⟩
  · exact ⟨hlinks, rfl⟩

end Queue

/-! ## Link layers that share the queue -/

section Links

variable {α : Type*} {h h' : IOHandler α (LinkContext (List UInt8)) (LinkLayerFrame (List UInt8))}

/-- The frames of a session in the queue. -/
def inFlight (h : IOHandler α (LinkContext (List UInt8)) (LinkLayerFrame (List UInt8)))
    (session : SessionId) : List (LinkLayerFrame (List UInt8)) :=
  (h.txQueue.filter fun transmission => transmission.session = session).map Transmission.txdata

/-- A session and its frames in the queue. -/
def station (h : IOHandler α (LinkContext (List UInt8)) (LinkLayerFrame (List UInt8)))
    (session : SessionId) : Station (List UInt8) where
  ctx := h.links session
  inFlight := h.inFlight session

/-- The queue is what the link layers have in flight. -/
structure Joined (h : IOHandler α (LinkContext (List UInt8)) (LinkLayerFrame (List UInt8))) :
    Prop where
  station : ∀ session, (h.station session).Held
  online : ∀ session, (h.links session).isOnline = isUp h.log session
  pending : pending h.log = h.txQueue.map fun transmission => (transmission.session, true)
  completions : History.Each Completion h.log

/-- The link layers are in order, each with frames of its own in flight. Without a channel the log
knows of none. -/
structure Loose (h : IOHandler α (LinkContext (List UInt8)) (LinkLayerFrame (List UInt8))) :
    Prop where
  station : ∀ session, ∃ inFlight, Station.Held { ctx := h.links session, inFlight := inFlight }
  online : ∀ session, (h.links session).isOnline = isUp h.log session
  cleared : h.channel = none → pending h.log = []
  completions : History.Each Completion h.log

/-- The link layers, the queue and the log decide whether they are joined. -/
theorem Joined.congr (hj : h.Joined) (hlinks : h'.links = h.links) (hqueue : h'.txQueue = h.txQueue)
    (hlog : h'.log = h.log) : h'.Joined where
  station session := by
    have hstation : h'.station session = h.station session := by
      unfold IOHandler.station inFlight
      rw [hlinks, hqueue]
    rw [hstation]
    exact hj.station session
  online session := by
    rw [hlinks, hlog]
    exact hj.online session
  pending := by
    rw [hlog, hqueue]
    exact hj.pending
  completions := hlog ▸ hj.completions

/-- Something is put into the log that neither the queue nor the link layers have to do with. -/
theorem Joined.emit (hj : h.Joined) (output : Output (LinkLayerFrame (List UInt8)))
    (hquiet : ∀ pending, pendingStep pending output = pending)
    (hupDown : ∀ session, output.upDown session = none) (hcompletion : Completion h.log output) :
    (h.emit output).Joined where
  station := hj.station
  online session := by
    refine (hj.online session).trans (Eq.symm ?_)
    exact (isUp_concat _ _ _).trans (by rw [hupDown, Option.getD_none])
  pending := (pending_concat _ _).trans ((hquiet _).trans hj.pending)
  completions := (History.each_concat _ _).mpr ⟨hj.completions, hcompletion⟩

/-- A state that the listener is told leaves them joined. -/
theorem Joined.onStateChange (hj : h.Joined) (state : ChannelState) :
    (h.emit (.OnStateChange state)).Joined :=
  hj.emit (.OnStateChange state) (fun _ => rfl) (fun _ => rfl) trivial

/-- Nothing is in flight of a session that the queue has no transmission of. -/
theorem inFlight_eq_nil_iff (session : SessionId) :
    h.inFlight session = [] ↔ ∀ transmission ∈ h.txQueue, transmission.session ≠ session := by
  unfold inFlight
  rw [List.map_eq_nil_iff, List.filter_eq_nil_iff]
  exact forall₂_congr fun transmission _ => by rw [decide_eq_true_iff]

/-- Transmissions of a session have been added to the queue. -/
theorem inFlight_append (session session' : SessionId) {frames : List (LinkLayerFrame (List UInt8))}
    (hqueue : h'.txQueue = h.txQueue ++ frames.map fun data => ⟨data, session⟩) :
    h'.inFlight session' = h.inFlight session' ++ if session' = session then frames else [] := by
  unfold inFlight
  rw [hqueue, List.filter_append, List.map_append, List.filter_map, List.map_map]
  congr 1
  split_ifs with hsame
  · subst hsame
    simp [Function.comp_def]
  · have hne : session ≠ session' := fun heq => hsame heq.symm
    simp [Function.comp_def, hne]

/-- A session without transmissions in the queue may come and go. -/
theorem age_of_not_mem {session : SessionId}
    {queue : List (Transmission (LinkLayerFrame (List UInt8)))}
    (hnone : ∀ transmission ∈ queue, transmission.session ≠ session) :
    age session (queue.map fun transmission => (transmission.session, true)) =
      queue.map fun transmission => (transmission.session, true) := by
  unfold age
  rw [List.map_map]
  refine List.map_congr_left fun transmission hmem => ?_
  exact if_neg (hnone transmission hmem)

/-- Nothing is in flight of a session that is offline. -/
theorem inFlight_of_offline {s : Station (List UInt8)} (hs : s.Inv)
    (hoff : s.ctx.isOnline = false) :
    s.inFlight = [] := hs.inFlight_iff.mpr (hs.dormant hoff).txMode

/-- The frame of a transmission in the queue is what its buffer holds. -/
theorem Joined.buffer_of_mem (hj : h.Joined)
    {transmission : Transmission (LinkLayerFrame (List UInt8))} (hmem : transmission ∈ h.txQueue) :
    (h.links transmission.session).txBuffer transmission.txdata.fields.func.isPri =
      some transmission.txdata := by
  have hs := hj.station transmission.session
  have hflight : transmission.txdata ∈ h.inFlight transmission.session :=
    List.mem_map_of_mem (List.mem_filter.mpr ⟨hmem, by simp⟩)
  -- The session is transmitting, and this is the one frame that it has in flight.
  have hbusy : (h.links transmission.session).txMode ≠ .Idle := by
    intro hidle
    have hnone : h.inFlight transmission.session = [] := hs.inFlight_iff.mpr hidle
    rw [hnone] at hflight
    cases hflight
  obtain ⟨frame, hone⟩ := hs.inFlight_of_busy hbusy
  obtain rfl : transmission.txdata = frame := List.mem_singleton.mp (hone ▸ hflight)
  obtain ⟨primary, hmode⟩ : ∃ primary, (h.links transmission.session).txMode =
    stationMode primary :=
    (LinkContext.mode_cases true hbusy).elim (fun hm => ⟨_, hm⟩) fun hm => ⟨_, hm⟩
  obtain ⟨-, hqueued, -⟩ := hs.station primary
  obtain ⟨frame, hframe, hq⟩ := hqueued hmode
  obtain rfl := List.singleton_inj.mp (hone.symm.trans hframe)
  rw [hq.isPri]
  exact hs.buffered primary _ (.inl ⟨hmode, (List.append_nil _).trans hone⟩)

/-- Whether a link layer is online after an event. -/
def onlineAfter (online : Bool) : LinkEvent (List UInt8) → Bool
  | .lowerLayerUp .. => true
  | .lowerLayerDown => false
  | _ => online

/-- What an event does with a session: it stays in order, and it transmits nothing when it goes
offline or stays so. -/
theorem handling_spec {s : Station (List UInt8)} (hs : s.Held) (e : LinkEvent (List UInt8))
    (ho : s.occurs e = true) :
    Station.Held { ctx := (handling s.ctx e).1,
                   inFlight := s.stillInFlight e ++ (handling s.ctx e).2 } ∧
      (handling s.ctx e).1.isOnline = onlineAfter s.ctx.isOnline e ∧
      (onlineAfter s.ctx.isOnline e = false → (handling s.ctx e).2 = []) := by
  have hstep := hs.step e
  unfold Station.step at hstep
  rw [if_pos ho] at hstep
  refine ⟨⟨⟨hstep.settled, hstep.started, hstep.dormant⟩,
    hs.buffered.handled hs.toInv (hs.handles e ho)⟩, ?_⟩
  show (s.handled e).isOnline = _ ∧ (_ → (s.handled e).transmitted = [])
  cases hon : s.ctx.isOnline with
  | false =>
    have hd := hs.dormant hon
    have hd' : LinkContext.Dormant { s.ctx with outputs := [] } := hd.collected [] _
    -- An offline layer is dormant and only its start makes it handle anything.
    by_cases hup : ∃ now replies, e = .lowerLayerUp now replies
    · obtain ⟨now, replies, rfl⟩ := hup
      obtain ⟨-, -, honline, -⟩ := LinkContext.onLowerLayerUpSending_keeps hd' hon rfl
        hs.settled.lanes.overwrites now replies
      exact ⟨honline, nofun⟩
    · have hsame : s.handled e = { s.ctx with outputs := [] } :=
        LinkContext.handle_dormant hd' hon e fun now replies he => hup ⟨now, replies, he⟩
      have hoff : onlineAfter false e = false := by
        cases e with
        | lowerLayerUp now replies => exact absurd ⟨now, replies, rfl⟩ hup
        | _ => rfl
      rw [hsame, hoff]
      exact ⟨hon, fun _ => rfl⟩
  | true =>
    -- An online layer stays so unless its session ends.
    by_cases hdown : e = .lowerLayerDown
    · subst hdown
      have hon' : ({ s.ctx with outputs := [] } : LinkContext (List UInt8)).isOnline = true := hon
      have hended : s.handled .lowerLayerDown = _ := LinkContext.onLowerLayerDown_eq hon'
      rw [hended]
      exact ⟨rfl, fun _ => rfl⟩
    · have hstays : onlineAfter true e = true := by
        cases e with
        | lowerLayerDown => exact absurd rfl hdown
        | _ => rfl
      rw [hstays]
      exact ⟨hs.isOnline_handled hon e ho hdown, nofun⟩

/-! ### Calls of a session -/

/-- What has happened to the queue and the log before a session handles an event. -/
structure Tells (h h' : IOHandler α (LinkContext (List UInt8)) (LinkLayerFrame (List UInt8)))
    (session : SessionId) (e : LinkEvent (List UInt8)) : Prop where
  links : h'.links = h.links
  inFlight : h'.inFlight session = (h.station session).stillInFlight e
  others : ∀ session', session' ≠ session → h'.inFlight session' = h.inFlight session'
  online : ∀ session', isUp h'.log session' =
    if session' = session then onlineAfter (isUp h.log session) e else isUp h.log session'
  pending : pending h'.log = h'.txQueue.map fun transmission => (transmission.session, true)
  completions : History.Each Completion h'.log

/-- A session handles an event. Without a channel it is offline afterwards. -/
theorem Joined.transmits (hj : h.Joined) {session : SessionId} {e : LinkEvent (List UInt8)}
    (ht : Tells h h' session e) (ho : (h.station session).occurs e = true)
    (hopen : h'.channel.isSome = true ∨ onlineAfter (isUp h.log session) e = false) :
    (h'.transmits session (handling (h.links session) e)).Joined := by
  have hspec := handling_spec (hj.station session) e ho
  rw [show (h.station session).ctx = h.links session from rfl, hj.online] at hspec
  obtain ⟨hstation, honline, hnone⟩ := hspec
  obtain ⟨hgrows, hlinks⟩ := transmits_grows (h := h') session (hopen.imp_right hnone)
  rw [ht.links] at hlinks
  refine ⟨fun session' => ?_, fun session' => ?_, ?_, hgrows.completions ht.completions⟩
  · have hinFlight := inFlight_append session session' hgrows.txQueue
    unfold IOHandler.station
    rw [hinFlight, hlinks]
    by_cases hsame : session' = session
    · subst hsame
      rw [if_pos rfl, Function.update_self, ht.inFlight]
      exact hstation
    · rw [if_neg hsame, Function.update_of_ne hsame, ht.others session' hsame, List.append_nil]
      exact hj.station session'
  · rw [hgrows.up, ht.online, hlinks]
    by_cases hsame : session' = session
    · subst hsame
      rw [if_pos rfl, Function.update_self]
      exact honline
    · rw [if_neg hsame, Function.update_of_ne hsame]
      exact hj.online session'
  · rw [hgrows.pending, ht.pending, hgrows.txQueue, List.map_append]

/-- A method of a session is called, other than `OnTxReady`. -/
theorem tells_call (hj : h.Joined) (session : SessionId) {call : SessionCall}
    {e : LinkEvent (List UInt8)}
    (hstill : (h.station session).stillInFlight e = h.inFlight session)
    (hupDown : ∀ session', (isUp (h.log ++ [.call session call]) session') =
      if session' = session then onlineAfter (isUp h.log session) e else isUp h.log session')
    (hpending : pendingStep (pending h.log)
      (.call session call : Output (LinkLayerFrame (List UInt8))) = pending h.log)
    (hcompletion : Completion h.log (.call session call)) :
    Tells h (h.emit (.call session call)) session e where
  links := rfl
  inFlight := hstill.symm
  others _ _ := rfl
  online := hupDown
  pending := (pending_concat _ _).trans (hpending.trans hj.pending)
  completions := (History.each_concat _ _).mpr ⟨hj.completions, hcompletion⟩

/-- A frame that a session is given leaves them joined. -/
theorem Joined.onFrame (hj : h.Joined) (hopen : h.channel.isSome = true)
    (env : SessionId → LinkSurroundings) (session : SessionId) (frame : SinkFrame) :
    (h.callSession env session (.OnFrame frame)).Joined := by
  refine hj.transmits (tells_call hj session rfl (fun session' => ?_) rfl trivial) rfl (.inl hopen)
  rw [isUp_concat]
  by_cases hsame : session' = session
  · subst hsame
    exact (if_pos rfl).symm
  · exact (if_neg hsame).symm

/-- A session that goes online begins its transmissions behind the others. -/
theorem Joined.onLowerLayerUp (hj : h.Joined) (hopen : h.channel.isSome = true)
    (env : SessionId → LinkSurroundings) {session : SessionId} (hoff : isUp h.log session = false) :
    (h.callSession env session .OnLowerLayerUp).Joined := by
  have hnone : h.inFlight session = [] :=
    inFlight_of_offline (hj.station session).toInv ((hj.online session).trans hoff)
  refine hj.transmits (tells_call hj session rfl (fun session' => ?_) ?_ trivial) rfl (.inl hopen)
  · rw [isUp_concat]
    by_cases hsame : session' = session
    · subst hsame
      simp [Output.upDown, onlineAfter, SessionCall.event]
    · simp [Output.upDown, hsame, Ne.symm hsame]
  · rw [hj.pending]
    exact age_of_not_mem ((inFlight_eq_nil_iff session).mp hnone)

/-- A session goes offline without transmissions in the queue. -/
theorem Joined.onLowerLayerDown (hj : h.Joined) (env : SessionId → LinkSurroundings)
    {session : SessionId}
    (hnone : ∀ transmission ∈ h.txQueue, transmission.session ≠ session) :
    (h.callSession env session .OnLowerLayerDown).Joined := by
  refine hj.transmits (tells_call hj session ?_ (fun session' => ?_) ?_ trivial) rfl (.inr rfl)
  · exact ((inFlight_eq_nil_iff session).mpr hnone).symm
  · rw [isUp_concat]
    by_cases hsame : session' = session
    · subst hsame
      simp [Output.upDown, onlineAfter, SessionCall.event]
    · simp [Output.upDown, hsame, Ne.symm hsame]
  · rw [hj.pending]
    exact age_of_not_mem hnone

/-- The oldest transmission ends. -/
theorem Joined.onTxReady (hj : h.Joined) (hopen : h.channel.isSome = true)
    (env : SessionId → LinkSurroundings)
    {transmission : Transmission (LinkLayerFrame (List UInt8))}
    {rest : List (Transmission (LinkLayerFrame (List UInt8)))}
    (hqueue : h.txQueue = transmission :: rest) :
    ({ h with txQueue := rest }.callSession env transmission.session .OnTxReady).Joined := by
  have hpending := hj.pending
  rw [hqueue, List.map_cons] at hpending
  have hflight : h.inFlight transmission.session = transmission.txdata ::
      ({ h with txQueue := rest } : IOHandler α _ _).inFlight transmission.session := by
    unfold inFlight
    rw [hqueue, List.filter_cons_of_pos (by simp), List.map_cons]
  -- The session hears of its own frame, which was the oldest one.
  have htells : Tells h ({ h with txQueue := rest }.emit (.call transmission.session .OnTxReady))
      transmission.session .txReady := by
    refine ⟨rfl, ?_, fun session' hne => ?_, fun session' => ?_, ?_, ?_⟩
    · exact (congrArg List.tail hflight).symm
    · unfold inFlight
      rw [hqueue, List.filter_cons_of_neg (by simpa using hne.symm)]
      rfl
    · refine (isUp_concat _ _ _).trans ?_
      by_cases hsame : session' = transmission.session
      · subst hsame
        exact (if_pos rfl).symm
      · exact (if_neg hsame).symm
    · exact (pending_concat _ _).trans (congrArg List.tail hpending)
    · exact (History.each_concat _ _).mpr
        ⟨hj.completions, fun _ => congrArg List.head? hpending⟩
  refine hj.transmits htells ?_ (.inl hopen)
  show (!(h.inFlight transmission.session).isEmpty) = true
  rw [hflight]
  rfl

/-- A session acts by itself. Without a channel it is offline. -/
theorem Joined.act (hj : h.Joined) {session : SessionId}
    (hopen : h.channel.isSome = true ∨ isUp h.log session = false) (activity : LinkActivity) :
    (h.transmits session (ILinkSession.act (h.links session) activity)).Joined := by
  have hsame : onlineAfter (isUp h.log session) activity.event = isUp h.log session := by
    cases activity <;> rfl
  have htells : Tells h h session activity.event := by
    refine ⟨rfl, ?_, fun _ _ => rfl, fun session' => ?_, hj.pending, hj.completions⟩
    · cases activity <;> rfl
    · rw [hsame]
      split_ifs with heq
      · rw [heq]
      · rfl
  refine hj.transmits htells ?_ (hopen.imp_right hsame.trans)
  cases activity <;> rfl

/-- To write the first transmission leaves them joined. -/
theorem Joined.checkForSend (hj : h.Joined) : h.checkForSend.Joined := by
  unfold IOHandler.checkForSend
  split
  case h_1 transmission queue channel hqueue hchannel =>
    split_ifs
    · exact (hj.emit (.BeginWrite transmission.txdata) (fun _ => rfl) (fun _ => rfl) trivial).congr
        rfl rfl rfl
    · exact hj
  case h_2 => exact hj

end Links

end IOHandler

end OpenDnp3.Channel
