import OpenDnp3.Transport.Reassembly

/-!
# What passes through a stack

Over a link layer without confirms, a stack hands the segments of every message that it accepts to
the channel, once and in order (`Sends`). What it hands to the application depends only on the user
data that reaches its link layer (`Hears`).
-/

namespace OpenDnp3.Transport

open App (Message)
open Link (Formats LinkContext LinkEvent LinkLayerConfig LinkLayerFrame LinkOutput Station)

namespace TransportStack

variable {s s' s'' : TransportStack} {config : LinkLayerConfig}

/-! ## The way down -/

/-- A sound stack whose link layer does not use confirms. -/
structure Plain (config : LinkLayerConfig) (s : TransportStack) : Prop where
  sound : Sound s
  config : s.station.ctx.config = config
  unconfirmed : LinkContext.Unconfirmed s.station.ctx

/-- The stack has accepted messages and handed frames to the channel. The user data in them, and
what the link layer still holds, is what it held before and what the messages were cut into. -/
structure Sends (config : LinkLayerConfig) (s s' : TransportStack) (messages : List Message)
    (frames : List (LinkLayerFrame (List UInt8))) (taken : List (Link.Message (List UInt8))) :
    Prop where
  plain : Plain config s'
  accepted : s'.accepted = s.accepted ++ messages
  transmissions : s'.station.transmissions = s.station.transmissions ++ frames
  formats : ∀ frame ∈ frames, Formats config frame
  data : frames.filterMap LinkLayerFrame.userData ++ s'.station.ctx.unsent =
    s.station.ctx.unsent ++ taken
  cut : ∀ before data, Cut before data → Cut (before ++ messages) (data ++ taken)

/-- Nothing is sent. -/
theorem Sends.refl (h : Plain config s) : Sends config s s [] [] [] := by
  refine ⟨h, (List.append_nil _).symm, (List.append_nil _).symm, fun _ hmem => ?_,
    (List.append_nil _).symm, fun before data hcut => ?_⟩
  · cases hmem
  · rwa [List.append_nil, List.append_nil]

/-- What two steps send, one after the other. -/
theorem Sends.trans {messages messages' : List Message}
    {frames frames' : List (LinkLayerFrame (List UInt8))}
    {taken taken' : List (Link.Message (List UInt8))} (h : Sends config s s' messages frames taken)
    (h' : Sends config s' s'' messages' frames' taken') :
    Sends config s s'' (messages ++ messages') (frames ++ frames') (taken ++ taken') := by
  refine ⟨h'.plain, ?_, ?_, ?_, ?_, ?_⟩
  · rw [h'.accepted, h.accepted, List.append_assoc]
  · rw [h'.transmissions, h.transmissions, List.append_assoc]
  · intro frame hmem
    exact (List.mem_append.mp hmem).elim (h.formats frame) (h'.formats frame)
  · calc (frames ++ frames').filterMap LinkLayerFrame.userData ++ s''.station.ctx.unsent
        = frames.filterMap LinkLayerFrame.userData ++ (s'.station.ctx.unsent ++ taken') := by
          rw [List.filterMap_append, List.append_assoc, h'.data]
      _ = s.station.ctx.unsent ++ (taken ++ taken') := by
          rw [← List.append_assoc, h.data, List.append_assoc]
  · intro before data hcut
    rw [← List.append_assoc, ← List.append_assoc]
    exact h'.cut _ _ (h.cut _ _ hcut)

/-- What the link layer conveys is what the stack sends. -/
theorem Plain.sends (h : Plain config s) (hsound : Sound s') {e : LinkEvent (List UInt8)}
    (hdown : e ≠ .lowerLayerDown) (hstation : s'.station = s.station.step e)
    {messages : List Message} (haccepted : s'.accepted = s.accepted ++ messages)
    (hcut : ∀ before data, Cut before data → Cut (before ++ messages)
      (data ++ (s.station.takes e).elim [] Link.TransportSegment.messages)) :
    ∃ frames taken, Sends config s s' messages frames taken := by
  obtain ⟨frames, hconveys⟩ := h.sound.station.conveys h.unconfirmed hdown
  rw [← hstation] at hconveys
  refine ⟨frames, _, ⟨hsound, hconveys.config.trans h.config, hconveys.unconfirmed⟩, haccepted,
    hconveys.transmissions, ?_, hconveys.data, hcut⟩
  have hformats := hconveys.formats
  rwa [h.config] at hformats

/-- A step in which no message is accepted too early, and the session does not end. -/
theorem Plain.step_sends (h : Plain config s) {e : StackEvent} (hdown : e ≠ .lowerLayerDown)
    (hprompt : s.Prompt e) :
    ∃ messages frames taken, messages ⊆ e.messages ∧
      Sends config s (s.step e) messages frames taken := by
  obtain ⟨hsound, messages, hsubset, hdrives⟩ := step_steps h.sound hdown hprompt
  refine ⟨messages, ?_⟩
  generalize s.step e = s' at *
  cases hdrives with
  | still hstation haccepted =>
    have hplain : Plain config s' := ⟨hsound, by rw [hstation, h.config], by
      rw [hstation]
      exact h.unconfirmed⟩
    refine ⟨[], [], hsubset, hplain, by simp [haccepted], by simp [hstation], ?_, ?_, ?_⟩
    · exact fun _ hmem => absurd hmem List.not_mem_nil
    · simp [hstation]
    · intro before data hcut
      rwa [List.append_nil, List.append_nil]
  | nothing hdown' hstation htakes haccepted =>
    have haccepted' : s'.accepted = s.accepted ++ [] := by rw [haccepted, List.append_nil]
    obtain ⟨frames, taken, hsends⟩ := h.sends hsound hdown' hstation haccepted'
      (by simp [htakes])
    exact ⟨frames, taken, hsubset, hsends⟩
  | @one e' message hdown' hstation hne htakes haccepted =>
    -- The segments of the accepted message follow those of the earlier ones.
    have hcut : ∀ before data, Cut before data → Cut (before ++ [message])
        (data ++ (s.station.takes e').elim [] Link.TransportSegment.messages) := by
      intro before data hcut
      rw [htakes]
      exact hcut.snoc s.transport.transmitter message hne
    obtain ⟨frames, taken, hsends⟩ := h.sends hsound hdown' hstation haccepted hcut
    exact ⟨frames, taken, hsubset, hsends⟩

/-- The end of a session: nothing is sent any more. -/
theorem Plain.step_down (h : Plain config s) :
    Plain config (s.step .lowerLayerDown) ∧
      (s.step .lowerLayerDown).accepted = s.accepted ∧
      (s.step .lowerLayerDown).station.transmissions = s.station.transmissions := by
  have hsound := step_lowerLayerDown h.sound
  rcases hon : s.station.ctx.isOnline with _ | _
  · have hsame : s.step .lowerLayerDown = s := if_neg (by simp [hon])
    rw [hsame]
    exact ⟨h, rfl, rfl⟩
  have hstep : s.step .lowerLayerDown =
      s.handle .lowerLayerDown s.transport.onLowerLayerDown.2 [] := if_pos hon
  obtain ⟨htransmissions, hconfig, hunconfirmed⟩ := Station.conveys_down h.unconfirmed hon
  -- No message is left, so that the transmitter does not matter.
  have hstation : (s.step .lowerLayerDown).station = s.station.step .lowerLayerDown := by
    rw [hstep]
    refine pointed_eq fun segments hsome => ?_
    obtain ⟨hnone, -, -⟩ := Station.handled_down hon
    have hnone : (s.station.step .lowerLayerDown).ctx.pSegments = none := hnone
    rw [hnone] at hsome
    cases hsome
  refine ⟨⟨hsound, ?_, ?_⟩, ?_, ?_⟩
  · rw [hstation, hconfig, h.config]
  · rw [hstation]
    exact hunconfirmed
  · rw [hstep]
    exact List.append_nil _
  · rw [hstation, htransmissions]

/-! ## The way up -/

/-- The stack has heard the segments, and handed to the application what the receiver makes of them.
-/
structure Hears (s s' : TransportStack) (segments : List Message) : Prop where
  delivered : s'.delivered = s.delivered ++ s.transport.receiver.deliver segments
  receiver : s'.transport.receiver = (s.transport.receiver.receiveAll segments).2

/-- Nothing is heard. -/
theorem hears_nil (hdelivered : s'.delivered = s.delivered)
    (hreceiver : s'.transport.receiver = s.transport.receiver) : Hears s s' [] := by
  refine ⟨?_, hreceiver⟩
  rw [hdelivered]
  exact (List.append_nil _).symm

/-- What two steps hear, one after the other. -/
theorem Hears.trans {segments segments' : List Message} (h : Hears s s' segments)
    (h' : Hears s' s'' segments') : Hears s s'' (segments ++ segments') := by
  refine ⟨?_, ?_⟩
  · rw [h'.delivered, h.delivered, h.receiver, TransportRx.deliver_append, List.append_assoc]
  · rw [h'.receiver, h.receiver, TransportRx.receiveAll_append]

/-- What the application sends does not touch the receiver. -/
theorem beginTransmits_kept (t : TransportLayer) (messages : List Message) :
    (t.beginTransmits messages).2.receiver = t.receiver ∧
      (t.beginTransmits messages).2.isOnline = t.isOnline := by
  have hsends := t.beginTransmits_sends messages
  generalize t.beginTransmits messages = result at hsends
  rcases hsends with _ | _ <;> exact ⟨rfl, rfl⟩

/-- The calls of the link layer that are no data leave the receiver alone. -/
theorem hear_receiver (t : TransportLayer) (calls : List (LinkOutput (List UInt8))) :
    (calls.foldl TransportLayer.hear t).receiver = t.receiver := by
  induction calls generalizing t with
  | nil => rfl
  | cons call calls ih =>
    rw [List.foldl_cons, ih]
    cases call <;> rfl

/-- What the link layer does apart from its calls does not touch the receiver. -/
theorem handle_kept (s : TransportStack) (e : LinkEvent (List UInt8)) (t : TransportLayer)
    (messages : List Message) :
    (s.handle e t messages).delivered = s.delivered ∧
      (s.handle e t messages).transport.receiver = t.receiver ∧
      (s.handle e t messages).transport.isOnline = t.isOnline :=
  ⟨rfl, hear_receiver .., (hear_flags ..).1⟩

/-- To send messages delivers nothing. -/
theorem sends_kept (s : TransportStack) (messages : List Message) :
    (s.sends messages).delivered = s.delivered ∧
      (s.sends messages).transport.receiver = s.transport.receiver ∧
      (s.sends messages).transport.isOnline = s.transport.isOnline := by
  have hkept := beginTransmits_kept s.transport messages
  unfold sends
  generalize s.transport.beginTransmits messages = result at hkept
  rcases result with ⟨_ | ⟨⟨message, segments⟩, accepted⟩, t⟩
  · exact ⟨rfl, rfl, rfl⟩
  · obtain ⟨hdelivered, hreceiver, honline⟩ := handle_kept s (.send segments) t [message]
    exact ⟨hdelivered, hreceiver.trans hkept.1, honline.trans hkept.2⟩

/-- Only the start and the end of a session and the frames concern what the stack hears. -/
def isInner : StackEvent → Bool
  | .lowerLayerUp _ _ | .lowerLayerDown | .frame _ _ _ => false
  | _ => true

/-- What is heard of a frame. -/
def heard (s : TransportStack) (frame : LinkLayerFrame (List UInt8)) : List Message :=
  ((s.station.ctx.handsUp frame).map appMessage).toList

/-- A segment is received, and the message that it ends is delivered. -/
theorem onReceive_deliver {t : TransportLayer} (hon : t.isOnline = true) (message : Message) :
    (t.onReceive message).1.toList = t.receiver.deliver [message] ∧
      (t.onReceive message).2.receiver = (t.receiver.receiveAll [message]).2 ∧
      (t.onReceive message).2.isOnline = t.isOnline := by
  unfold TransportLayer.onReceive TransportRx.deliver
  simp only [hon, if_true, TransportRx.receiveAll]
  rcases hempty : (t.receiver.processReceive message).1.payload.isEmpty with _ | _ <;> simp [hempty]

/-- The other events. -/
theorem step_hears_nil {e : StackEvent} (h : isInner e = true) :
    Hears s (s.step e) [] ∧ (s.step e).transport.isOnline = s.transport.isOnline := by
  -- An event of the link layer below reaches the receiver with no message.
  have hhandle (le : LinkEvent (List UInt8)) :
      Hears s (s.handle le s.transport []) [] ∧
        (s.handle le s.transport []).transport.isOnline = s.transport.isOnline := by
    obtain ⟨hdelivered, hreceiver, honline⟩ := handle_kept s le s.transport []
    exact ⟨hears_nil hdelivered hreceiver, honline⟩
  cases e with
  | txReady => exact hhandle .txReady
  | responseTimeout => exact hhandle .responseTimeout
  | keepAliveTimeout now => exact hhandle (.keepAliveTimeout now)
  | beginTransmit message =>
    obtain ⟨hdelivered, hreceiver, honline⟩ := sends_kept s [message]
    exact ⟨hears_nil hdelivered hreceiver, honline⟩
  | runPosted replies =>
    rcases hposted : s.posted with _ | ⟨n, posted⟩
    · rw [show s.step (.runPosted replies) = s by simp [step, hposted]]
      exact ⟨hears_nil rfl rfl, rfl⟩
    have hstep : s.step (.runPosted replies) =
        { s with posted, transport := s.transport.onTxReady.2 }.sends
          (if s.transport.onTxReady.1 then replies else []) := by
      simp [step, hposted]
    have hready : s.transport.onTxReady.2.receiver = s.transport.receiver ∧
        s.transport.onTxReady.2.isOnline = s.transport.isOnline := by
      unfold TransportLayer.onTxReady
      split_ifs <;> exact ⟨rfl, rfl⟩
    rw [hstep]
    obtain ⟨hdelivered, hreceiver, honline⟩ := sends_kept
      { s with posted, transport := s.transport.onTxReady.2 }
      (if s.transport.onTxReady.1 then replies else [])
    exact ⟨hears_nil hdelivered (hreceiver.trans hready.1), honline.trans hready.2⟩
  | _ => cases h

/-- While there is no session, they do not lead to a message that is accepted. -/
theorem step_accepted_of_offline (hoff : s.transport.isOnline = false) {e : StackEvent}
    (h : isInner e = true) : (s.step e).accepted = s.accepted := by
  have hhandle (le : LinkEvent (List UInt8)) :
      (s.handle le s.transport []).accepted = s.accepted := List.append_nil _
  cases e with
  | txReady => exact hhandle .txReady
  | responseTimeout => exact hhandle .responseTimeout
  | keepAliveTimeout now => exact hhandle (.keepAliveTimeout now)
  | beginTransmit message =>
    show (s.sends [message]).accepted = s.accepted
    rw [sends, TransportLayer.beginTransmits_refused (.inl hoff)]
  | runPosted replies =>
    rcases hposted : s.posted with _ | ⟨n, posted⟩
    · rw [show s.step (.runPosted replies) = s by simp [step, hposted]]
    have hstep : s.step (.runPosted replies) = { s with posted } := by
      simp [step, hposted, TransportLayer.onTxReady, hoff, sends, TransportLayer.beginTransmits]
    rw [hstep]
  | _ => cases h

/-- A session starts, unless there is one. -/
theorem step_hears_up (h : Sound s) (now : ℤ) (replies : List Message) :
    Hears s (s.step (.lowerLayerUp now replies)) [] ∧
      (s.step (.lowerLayerUp now replies)).transport.isOnline = true := by
  rcases hon : s.station.ctx.isOnline with _ | _
  swap
  · rw [show s.step (.lowerLayerUp now replies) = s from if_pos hon]
    exact ⟨hears_nil rfl rfl, h.online.trans hon⟩
  have hoff : s.transport.isOnline = false := h.online.trans hon
  have hstep : s.step (.lowerLayerUp now replies) =
      let result := TransportLayer.beginTransmits { s.transport with isOnline := true } replies
      s.handle (.lowerLayerUp now (result.1.map Prod.snd)) result.2 (result.1.map Prod.fst) := by
    simp [step, hon, TransportLayer.onLowerLayerUp, hoff]
  rw [hstep]
  obtain ⟨hreceiver, honline⟩ :=
    beginTransmits_kept { s.transport with isOnline := true } replies
  dsimp only
  generalize TransportLayer.beginTransmits { s.transport with isOnline := true } replies = result
    at hreceiver honline
  obtain ⟨hdelivered, hreceiver', honline'⟩ := handle_kept s
    (.lowerLayerUp now (result.1.map Prod.snd)) result.2 (result.1.map Prod.fst)
  exact ⟨hears_nil hdelivered (hreceiver'.trans hreceiver), honline'.trans honline⟩

/-- A session ends. What was read of a message is forgotten. -/
theorem step_hears_down (h : Sound s) :
    (s.step .lowerLayerDown).delivered = s.delivered ∧
      (s.step .lowerLayerDown).transport.receiver.maxRxFragSize =
        s.transport.receiver.maxRxFragSize ∧
      (s.step .lowerLayerDown).transport.isOnline = false := by
  rcases hon : s.station.ctx.isOnline with _ | _
  · rw [show s.step .lowerLayerDown = s from if_neg (by simp [hon])]
    exact ⟨rfl, rfl, h.online.trans hon⟩
  rw [show s.step .lowerLayerDown = s.handle .lowerLayerDown s.transport.onLowerLayerDown.2 [] from
    if_pos hon]
  obtain ⟨hdelivered, hreceiver, honline⟩ := handle_kept s .lowerLayerDown
    s.transport.onLowerLayerDown.2 []
  rw [hdelivered, hreceiver, honline]
  simp [TransportLayer.onLowerLayerDown, h.online, hon, TransportRx.clearRxBuffer]

/-- A frame arrives. -/
theorem step_hears_frame (hon : s.transport.isOnline = true)
    (frame : LinkLayerFrame (List UInt8)) (now : ℤ) (replies : List Message) :
    Hears s (s.step (.frame frame now replies)) (s.heard frame) ∧
      (s.step (.frame frame now replies)).transport.isOnline = true := by
  unfold heard
  rcases hup : s.station.ctx.handsUp frame with _ | message
  · have hstep : s.step (.frame frame now replies) =
      s.handle (.frame frame now []) s.transport [] := by
      simp [step, hup]
    rw [hstep]
    obtain ⟨hdelivered, hreceiver, honline⟩ := handle_kept s (.frame frame now []) s.transport []
    exact ⟨hears_nil hdelivered hreceiver, honline.trans hon⟩
  have hstep : s.step (.frame frame now replies) =
      let asdu := (s.transport.onReceive (appMessage message)).1
      let t := (s.transport.onReceive (appMessage message)).2
      let result := t.beginTransmits (if asdu.isSome then replies else [])
      { s with delivered := s.delivered ++ asdu.toList }.handle
        (.frame frame now (result.1.map Prod.snd)) result.2 (result.1.map Prod.fst) := by
    simp [step, hup]
  rw [hstep]
  -- The receiver reads the message, and what it completes is delivered.
  obtain ⟨hasdu, hread, honline⟩ := onReceive_deliver hon (appMessage message)
  dsimp only
  generalize s.transport.onReceive (appMessage message) = received at hasdu hread honline
  obtain ⟨hreceiver', honline'⟩ :=
    beginTransmits_kept received.2 (if received.1.isSome then replies else [])
  generalize received.2.beginTransmits (if received.1.isSome then replies else []) = result
    at hreceiver' honline'
  obtain ⟨hdelivered'', hreceiver'', honline''⟩ := handle_kept
    { s with delivered := s.delivered ++ received.1.toList }
    (.frame frame now (result.1.map Prod.snd)) result.2 (result.1.map Prod.fst)
  refine ⟨⟨?_, ?_⟩, ?_⟩
  · calc _ = s.delivered ++ received.1.toList := hdelivered''
      _ = s.delivered ++ s.transport.receiver.deliver [appMessage message] := by rw [hasdu]
  · calc _ = result.2.receiver := hreceiver''
      _ = received.2.receiver := hreceiver'
      _ = (s.transport.receiver.receiveAll [appMessage message]).2 := hread
  · calc _ = result.2.isOnline := honline''
      _ = received.2.isOnline := honline'
      _ = true := honline.trans hon

/-- No event changes the size of the buffer, or takes back what was delivered. -/
structure Keeps (s s' : TransportStack) : Prop where
  maxRxFragSize : s'.transport.receiver.maxRxFragSize = s.transport.receiver.maxRxFragSize
  delivered : s.delivered <+: s'.delivered

/-- What is heard is added to what has been delivered. -/
theorem Hears.keeps {segments : List Message} (h : Hears s s' segments) : Keeps s s' := by
  refine ⟨?_, ?_⟩
  · rw [h.receiver, TransportRx.maxRxFragSize_receiveAll]
  · rw [h.delivered]
    exact List.prefix_append ..

/-- A step delivers something or nothing, and takes nothing back. -/
theorem step_keeps (h : Sound s) (e : StackEvent) : Keeps s (s.step e) := by
  rcases hinner : isInner e with _ | _
  swap
  · exact (step_hears_nil hinner).1.keeps
  cases e with
  | lowerLayerUp now replies => exact (step_hears_up h now replies).1.keeps
  | lowerLayerDown =>
    obtain ⟨hdelivered, hmax, -⟩ := step_hears_down h
    exact ⟨hmax, by rw [hdelivered]⟩
  | frame frame now replies =>
    rcases hon : s.transport.isOnline with _ | _
    · -- Without a session nothing is handed up.
      have hoff : s.station.ctx.isOnline = false := h.online.symm.trans hon
      have hstep : s.step (.frame frame now replies) =
          s.handle (.frame frame now []) s.transport [] := by
        simp [step, LinkContext.handsUp, LinkContext.accepts, hoff]
      rw [hstep]
      obtain ⟨hdelivered, hreceiver, -⟩ := handle_kept s (.frame frame now []) s.transport []
      exact (hears_nil hdelivered hreceiver).keeps
    · exact (step_hears_frame hon frame now replies).1.keeps
  | _ => cases hinner

/-- A run takes nothing back that has been delivered. -/
theorem run_keepsDelivered {events : List StackEvent} (h : Sound s)
    (hprompt : Machine.StepsMeet step Prompt s events) : Keeps s (Machine.run step s events) := by
  induction events generalizing s with
  | nil => exact ⟨rfl, List.prefix_rfl⟩
  | cons e events ih =>
    have hfirst := step_keeps h e
    have hrest := ih (h.step e hprompt.1) hprompt.2
    exact ⟨hrest.maxRxFragSize.trans hfirst.maxRxFragSize, hfirst.delivered.trans hrest.delivered⟩

/-! ## Between two link layers -/

/-- A link layer of the other side, with the addresses the other way round, has formatted the frame.
-/
structure FromPeer (config : LinkLayerConfig) (frame : LinkLayerFrame (List UInt8)) : Prop where
  formats : ∃ peer : LinkLayerConfig, peer.IsMaster = !config.IsMaster ∧ Formats peer frame
  data : ∀ message ∈ frame.userData,
    message.addresses = ⟨config.RemoteAddr, config.LocalAddr⟩ ∧
      ∃ payload, message.payload = some payload ∧ Link.Fits payload

/-- A frame of the peer is well formed. -/
theorem FromPeer.wellFormed {frame : LinkLayerFrame (List UInt8)} (h : FromPeer config frame) :
    Link.WellFormed frame.sink := by
  obtain ⟨peer, -, hformats⟩ := h.formats
  exact hformats.wellFormed fun message hmem => (h.data message hmem).2

/-- User data from the other side is heard, and nothing else is. -/
theorem heard_of_fromPeer (hconfig : s.station.ctx.config = config)
    (hon : s.station.ctx.isOnline = true) {frame : LinkLayerFrame (List UInt8)}
    (h : FromPeer config frame) :
    s.heard frame = (frame.userData.map appMessage).toList := by
  obtain ⟨⟨peer, hmaster, hformats⟩, hdata⟩ := h
  unfold heard LinkContext.handsUp
  cases hformats with
  | userData addresses segment =>
    -- The addresses are right, so that the frame is dispatched.
    obtain ⟨haddresses, -⟩ := hdata ⟨addresses, some segment⟩ rfl
    have haddresses : addresses = ⟨config.RemoteAddr, config.LocalAddr⟩ := haddresses
    have haccepts : s.station.ctx.accepts
        (peer.formatPrimaryBufferWithUnconfirmed addresses segment) = true := by
      simp [LinkContext.accepts, LinkLayerConfig.formatPrimaryBufferWithUnconfirmed,
        LinkLayerConfig.formatHeader, hon, hconfig, hmaster, haddresses]
    rw [if_pos haccepts]
    rfl
  | requestLinkStatus destination => split_ifs <;> rfl
  | ack destination => split_ifs <;> rfl
  | linkStatus destination => split_ifs <;> rfl

end TransportStack

end OpenDnp3.Transport
