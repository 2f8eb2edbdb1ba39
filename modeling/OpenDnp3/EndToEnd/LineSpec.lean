import OpenDnp3.EndToEnd.Line
import OpenDnp3.Transport.Traffic

/-!
# Messages over a line

Between two stacks whose link layers do not use confirms, the messages that one application is
handed in a connection are the first of those that the other stack has accepted in it
(`run_delivers`): the user data that has been taken from the messages has been received, is on the
line, or is still held by the link layer.
-/

namespace OpenDnp3.EndToEnd

open App (Message)
open Link (LinkContext LinkLayerConfig LinkLayerFrame LinkLayerParser Pends SinkFrame Station)
open Transport (Carried Cut StackEvent TransportRx TransportStack)
open Transport.TransportStack (FromPeer Hears Plain Prompt Sends isInner)

/-! ## What may happen -/

/-- The application sends the message in the event. -/
def PeerEvent.Sends (message : Message) : PeerEvent → Prop
  | .up _ replies => message ∈ replies
  | .lost => False
  | .act activity => message ∈ activity.event.messages
  | .read _ _ replies => ∃ i, message ∈ replies i

/-- The addresses that the user data to a link layer has to have. -/
def addressesTo (config : LinkLayerConfig) : Link.Addresses :=
  ⟨config.RemoteAddr, config.LocalAddr⟩

/-- The messages that are sent are for the other side, and fit in the buffer of its receiver. -/
def LineEvent.Fits (maxRxFragSize : Side → ℕ) (config : Side → LinkLayerConfig) :
    LineEvent → Prop
  | .connect => True
  | .peer side e => ∀ message, e.Sends message →
      Carried (addressesTo (config side.other)) (maxRxFragSize side.other) message

namespace Line

/-- No message is accepted at an end while the end of an earlier one is still posted there. -/
def Prompt (l : Line) : LineEvent → Prop
  | .connect => True
  | .peer side e =>
    Machine.StepsMeet TransportStack.step TransportStack.Prompt (l side).stack ((l side).events e)

end Line

/-- What the receiver has been handed comes from the sender. -/
structure Delivers (sender receiver : Peer) : Prop where
  /-- Over all connections, nothing comes twice or out of order. -/
  all : receiver.stack.delivered.Sublist sender.stack.accepted
  /-- In the present connection, nothing is left out either. -/
  now : receiver.delivered <+: sender.accepted
  /-- When nothing is on its way, everything has been delivered. -/
  done : sender.isOnline = true → receiver.isOnline = true →
    sender.stack.station.ctx.pSegments = none → receiver.incoming = [] →
      receiver.delivered = sender.accepted

/-! ## Runs of a stack -/

section Runs

variable {s : TransportStack} {config : LinkLayerConfig}

/-- A run in which the session does not end. -/
theorem run_sends {events : List StackEvent} (h : Plain config s)
    (hdown : ∀ e ∈ events, e ≠ .lowerLayerDown)
    (hprompt : Machine.StepsMeet TransportStack.step TransportStack.Prompt s events) :
    ∃ messages frames taken, (∀ message ∈ messages, ∃ e ∈ events, message ∈ e.messages) ∧
      Sends config s (Machine.run TransportStack.step s events) messages frames taken := by
  induction events generalizing s with
  | nil => exact ⟨[], [], [], fun _ hmem => absurd hmem List.not_mem_nil, .refl h⟩
  | cons e events ih =>
    obtain ⟨messages, frames, taken, hmem, hsends⟩ :=
      h.step_sends (hdown e List.mem_cons_self) hprompt.1
    obtain ⟨messages', frames', taken', hmem', hsends'⟩ := ih hsends.plain
      (fun e' he' => hdown e' (List.mem_cons_of_mem _ he')) hprompt.2
    refine ⟨messages ++ messages', frames ++ frames', taken ++ taken', fun message hm => ?_,
      hsends.trans hsends'⟩
    rcases List.mem_append.mp hm with hm | hm
    · exact ⟨e, List.mem_cons_self, hmem hm⟩
    · obtain ⟨e', he', hm⟩ := hmem' message hm
      exact ⟨e', List.mem_cons_of_mem _ he', hm⟩

/-- The events are the arrivals of these frames. -/
def Arrivals (frames : List (LinkLayerFrame (List UInt8))) (events : List StackEvent) : Prop :=
  List.Forall₂ (fun frame e => ∃ now replies, e = StackEvent.frame frame now replies) frames events

/-- A run in which frames of the other side arrive. -/
theorem run_hears {frames : List (LinkLayerFrame (List UInt8))} {events : List StackEvent}
    (harrivals : Arrivals frames events) (h : Plain config s) (hon : s.station.ctx.isOnline = true)
    (hfrom : ∀ frame ∈ frames, FromPeer config frame)
    (hprompt : Machine.StepsMeet TransportStack.step TransportStack.Prompt s events) :
    Hears s (Machine.run TransportStack.step s events)
        ((frames.filterMap LinkLayerFrame.userData).map Transport.appMessage) ∧
      (Machine.run TransportStack.step s events).station.ctx.isOnline = true := by
  induction harrivals generalizing s with
  | nil => exact ⟨Transport.TransportStack.hears_nil rfl rfl, hon⟩
  | @cons frame e frames events hthis hrest ih =>
    obtain ⟨now, replies, rfl⟩ := hthis
    obtain ⟨_, _, _, -, hsends⟩ := h.step_sends (by simp) hprompt.1
    obtain ⟨hhears, honline⟩ := Transport.TransportStack.step_hears_frame
      (h.sound.online.trans hon) frame now replies
    rw [Transport.TransportStack.heard_of_fromPeer h.config hon (hfrom frame List.mem_cons_self)]
      at hhears
    have hon' := hsends.plain.sound.online.symm.trans honline
    obtain ⟨hhears', hon''⟩ := ih hsends.plain hon'
      (fun frame' hmem => hfrom frame' (List.mem_cons_of_mem _ hmem)) hprompt.2
    refine ⟨?_, hon''⟩
    have hall := hhears.trans hhears'
    rcases hdata : frame.userData with _ | message <;> simpa [hdata] using hall

end Runs

/-! ## One end -/

/-- An end whose stack is sound and has the given configuration. -/
structure Peer.Fine (maxRxFragSize : ℕ) (config : LinkLayerConfig) (p : Peer) : Prop where
  plain : Plain config p.stack
  maxRxFragSize : p.stack.transport.receiver.maxRxFragSize = maxRxFragSize
  isNew : p.isNew = true → p.isOnline = false
  acceptedBefore : p.acceptedBefore ≤ p.stack.accepted.length
  deliveredBefore : p.deliveredBefore ≤ p.stack.delivered.length

/-- The end takes part in the present connection, or is about to. -/
def Peer.isLive (p : Peer) : Bool := p.isNew || p.isOnline

/-- The messages are what the application sends in the event. -/
theorem Peer.sends_of_mem {p : Peer} {e : PeerEvent} {event : StackEvent}
    (hmem : event ∈ p.events e) {message : Message} (hsent : message ∈ event.messages) :
    e.Sends message := by
  cases e with
  | up now replies =>
    simp only [Peer.events] at hmem
    split_ifs at hmem
    · rw [List.mem_singleton] at hmem
      subst hmem
      exact hsent
    · cases hmem
  | lost =>
    rw [List.mem_singleton.mp hmem] at hsent
    cases hsent
  | act activity =>
    rw [List.mem_singleton.mp hmem] at hsent
    exact hsent
  | read numBytes now replies =>
    simp only [Peer.events] at hmem
    split_ifs at hmem
    · obtain ⟨frame, -, rfl⟩ := List.mem_map.mp hmem
      exact ⟨frame.2, hsent⟩
    · cases hmem

/-- What a peer does by itself neither begins nor ends a session. -/
theorem Activity.isInner_event (activity : Activity) : isInner activity.event = true := by
  cases activity <;> rfl

/-- Only a lost line ends the session of a peer. -/
theorem Peer.events_ne_down {p : Peer} {e : PeerEvent} (hlost : e ≠ .lost) :
    ∀ event ∈ p.events e, event ≠ .lowerLayerDown := by
  intro event hmem
  cases e with
  | up now replies =>
    simp only [Peer.events] at hmem
    split_ifs at hmem
    · rw [List.mem_singleton.mp hmem]
      simp
    · cases hmem
  | lost => exact absurd rfl hlost
  | act activity =>
    rw [List.mem_singleton.mp hmem]
    cases activity <;> simp [Activity.event]
  | read numBytes now replies =>
    simp only [Peer.events] at hmem
    split_ifs at hmem
    · obtain ⟨frame, -, rfl⟩ := List.mem_map.mp hmem
      simp
    · cases hmem

/-! ## From one end to the other -/

/-- The user data that has been taken from the messages of this connection has been received, is on
the line in front of a receiver that is as it would be without the line, or is still held by the
link layer of the sender. -/
inductive Carries (config : LinkLayerConfig) (sender receiver : Peer) : Prop
  | mk (rx : TransportRx) (received rest : List (Link.Message (List UInt8)))
    (left : List (LinkLayerFrame (List UInt8)))
    (maxRxFragSize : rx.maxRxFragSize = receiver.stack.transport.receiver.maxRxFragSize)
    (cut : Cut sender.accepted (received ++ left.filterMap LinkLayerFrame.userData ++ rest))
    (delivered : receiver.delivered = rx.deliver (received.map Transport.appMessage))
    (read : receiver.stack.transport.receiver =
      (rx.receiveAll (received.map Transport.appMessage)).2)
    (pends : Pends receiver.parser receiver.incoming (left.map LinkLayerFrame.sink))
    (fromPeer : ∀ frame ∈ left, FromPeer config frame)
    (rest_eq : sender.isLive = true → rest = sender.stack.station.ctx.unsent)

/-- What one end has sent, and the other one has received. The configuration is that of the
receiver. -/
structure Flow (config : LinkLayerConfig) (sender receiver : Peer) : Prop where
  past : (receiver.stack.delivered.take receiver.deliveredBefore).Sublist
    (sender.stack.accepted.take sender.acceptedBefore)
  now : receiver.delivered <+: sender.accepted
  carried : ∀ message ∈ sender.accepted, Carried (addressesTo config)
    receiver.stack.transport.receiver.maxRxFragSize message
  carries : receiver.isLive = true → Carries config sender receiver

variable {config : LinkLayerConfig} {s s' r r' : Peer}

/-- What has been delivered are the first of the messages. -/
theorem Carries.now (h : Carries config s r)
    (hcarried : ∀ message ∈ s.accepted, Carried (addressesTo config)
      r.stack.transport.receiver.maxRxFragSize message) : r.delivered <+: s.accepted := by
  obtain ⟨rx, received, rest, left, hmax, hcut, hdelivered, -, -, -, -⟩ := h
  have hfit : ∀ message ∈ s.accepted, Carried (addressesTo config) rx.maxRxFragSize message := by
    rwa [hmax]
  have hall := hcut.deliver rx hfit
  rw [hdelivered, ← hall, List.append_assoc, List.map_append, TransportRx.deliver_append]
  exact List.prefix_append ..

/-- Nothing is on its way. -/
theorem Flow.delivers (h : Flow config s r) : Delivers s r := by
  refine ⟨?_, h.now, fun hs hr hnone hincoming => ?_⟩
  · have hall := h.past.append h.now.sublist
    rwa [Peer.delivered, Peer.accepted, List.take_append_drop, List.take_append_drop] at hall
  obtain ⟨rx, received, rest, left, hmax, hcut, hdelivered, -, hpends, -, hrest⟩ :=
    h.carries (by simp [Peer.isLive, hr])
  have hleft : left = [] := by
    rw [hincoming] at hpends
    exact List.map_eq_nil_iff.mp hpends.frames_eq_nil
  have hunsent : rest = [] := by
    rw [hrest (by simp [Peer.isLive, hs]), LinkContext.unsent_of_none hnone]
  have hfit : ∀ message ∈ s.accepted, Carried (addressesTo config) rx.maxRxFragSize message := by
    rw [hmax]
    exact h.carried
  have hall := hcut.deliver rx hfit
  rw [hleft, hunsent, List.filterMap_nil, List.append_nil, List.append_nil] at hall
  rw [hdelivered, hall]

/-! ## The sender -/

/-- What the sender becomes, when it has accepted messages and written frames. -/
structure Writes (s s' : Peer) (messages : List Message)
    (frames : List (LinkLayerFrame (List UInt8))) (taken : List (Link.Message (List UInt8))) :
    Prop where
  accepted : s'.accepted = s.accepted ++ messages
  past : s'.stack.accepted.take s'.acceptedBefore = s.stack.accepted.take s.acceptedBefore
  written : s.written s' = frames.flatMap LinkLayerFrame.bytes
  cut : ∀ before data, Cut before data → Cut (before ++ messages) (data ++ taken)
  /-- What is written continues what was left. -/
  rest : ∀ rest, (s.isLive = true → rest = s.stack.station.ctx.unsent) →
    ∃ rest', frames.filterMap LinkLayerFrame.userData ++ rest' = rest ++ taken ∧
      (s'.isLive = true → rest' = s'.stack.station.ctx.unsent)

/-- While an end takes no part in a connection, its stack holds no user data. -/
theorem unsent_of_offline {stack : TransportStack} (h : stack.Sound)
    (hoff : stack.station.ctx.isOnline = false) : stack.station.ctx.unsent = [] := by
  have hsending := h.offline (h.online.trans hoff)
  exact LinkContext.unsent_of_none (h.idle hsending)

/-- A stack without a session that is not told of one accepts nothing. -/
theorem Sends.of_offline {messages : List Message}
    {frames : List (LinkLayerFrame (List UInt8))} {taken : List (Link.Message (List UInt8))}
    {stack stack' : TransportStack}
    (h : Transport.TransportStack.Sends config stack stack' messages frames taken)
    (hsound : stack.Sound) (hoff : stack.station.ctx.isOnline = false)
    (hsame : stack'.accepted = stack.accepted) :
    messages = [] ∧ taken = [] ∧ frames.filterMap LinkLayerFrame.userData = [] := by
  have hmessages : messages = [] := by
    have hall := h.accepted
    rw [hsame] at hall
    exact List.append_right_eq_self.mp hall.symm
  subst hmessages
  obtain rfl : taken = [] := (h.cut [] [] .nil).eq_nil rfl
  refine ⟨rfl, rfl, ?_⟩
  have hdata := h.data
  rw [unsent_of_offline hsound hoff, List.append_nil] at hdata
  exact (List.append_eq_nil_iff.mp hdata).1

/-- The frames are for the other side. -/
theorem Flow.write {messages : List Message} {frames : List (LinkLayerFrame (List UInt8))}
    {taken : List (Link.Message (List UInt8))} (h : Flow config s r)
    (hwrites : Writes s s' messages frames taken)
    (hfits : ∀ message ∈ messages, Carried (addressesTo config)
      r.stack.transport.receiver.maxRxFragSize message)
    (hformats : ∃ peer : LinkLayerConfig, peer.IsMaster = !config.IsMaster ∧
      ∀ frame ∈ frames, Link.Formats peer frame) :
    Flow config s' (r.arrive (s.written s')) := by
  have hcarried : ∀ message ∈ s'.accepted, Carried (addressesTo config)
      r.stack.transport.receiver.maxRxFragSize message := by
    rw [hwrites.accepted]
    intro message hmem
    exact (List.mem_append.mp hmem).elim (h.carried message) (hfits message)
  refine ⟨?_, ?_, hcarried, fun hlive => ?_⟩
  · rw [hwrites.past]
    exact h.past
  · show r.delivered <+: s'.accepted
    rw [hwrites.accepted]
    exact h.now.trans (List.prefix_append ..)
  obtain ⟨rx, received, rest, left, hmax, hcut, hdelivered, hreceiver, hpends, hfrom, hrest⟩ :=
    h.carries hlive
  obtain ⟨rest', hdata, hrest'⟩ := hwrites.rest rest hrest
  obtain ⟨peer, hmaster, hformats⟩ := hformats
  -- The user data is that of the old and the new messages.
  have hcut' : Cut s'.accepted
      (received ++ (left ++ frames).filterMap LinkLayerFrame.userData ++ rest') := by
    have hall := hwrites.cut _ _ hcut
    rw [← hwrites.accepted] at hall
    have heq : received ++ (left ++ frames).filterMap LinkLayerFrame.userData ++ rest' =
        received ++ left.filterMap LinkLayerFrame.userData ++ rest ++ taken := by
      simp only [List.filterMap_append, List.append_assoc, hdata]
    rwa [heq]
  have hfrom' : ∀ frame ∈ frames, FromPeer config frame := by
    intro frame hmem
    refine ⟨⟨peer, hmaster, hformats frame hmem⟩, fun message hmessage => ?_⟩
    refine hcut'.fits hcarried message ?_
    have hmem' : message ∈ (left ++ frames).filterMap LinkLayerFrame.userData :=
      List.mem_filterMap.mpr ⟨frame, List.mem_append_right _ hmem, hmessage⟩
    simp only [List.mem_append]
    exact .inl (.inr hmem')
  refine .mk rx received rest' (left ++ frames) hmax hcut' hdelivered hreceiver ?_ ?_ hrest'
  · have hwell : ∀ frame ∈ frames.map LinkLayerFrame.sink, Link.WellFormed frame := by
      intro frame hmem
      obtain ⟨frame', hmem', rfl⟩ := List.mem_map.mp hmem
      exact (hfrom' frame' hmem').wellFormed
    have hbytes : s.written s' = (frames.map LinkLayerFrame.sink).flatMap Link.encode := by
      rw [hwrites.written, List.flatMap_map]
      rfl
    rw [hbytes, List.map_append]
    exact hpends.arrive hwell
  · intro frame hmem
    exact (List.mem_append.mp hmem).elim (hfrom frame) (hfrom' frame)

/-! ## What one end does -/

section Handle

variable {maxRxFragSize : ℕ} {p : Peer}

/-- What the stack is told in an event other than the end of its session. -/
theorem Peer.Fine.sends (h : p.Fine maxRxFragSize config) {e : PeerEvent} (hlost : e ≠ .lost)
    (hprompt : Machine.StepsMeet TransportStack.step TransportStack.Prompt p.stack (p.events e)) :
    ∃ messages frames taken, (∀ message ∈ messages, e.Sends message) ∧
      Sends config p.stack (p.handle e).stack messages frames taken := by
  obtain ⟨messages, frames, taken, hmem, hsends⟩ :=
    run_sends h.plain (Peer.events_ne_down hlost) hprompt
  refine ⟨messages, frames, taken, fun message hm => ?_, hsends⟩
  obtain ⟨event, hevent, hsent⟩ := hmem message hm
  exact Peer.sends_of_mem hevent hsent

/-- A peer keeps what it knew of the time before. -/
theorem Peer.handle_acceptedBefore (p : Peer) (e : PeerEvent) :
    (p.handle e).acceptedBefore = p.acceptedBefore ∧
      (p.handle e).deliveredBefore = p.deliveredBefore := by
  cases e with
  | read numBytes now replies =>
    simp only [Peer.handle, Peer.channel]
    split_ifs <;> exact ⟨rfl, rfl⟩
  | _ => exact ⟨rfl, rfl⟩

/-- What a stack does by itself neither starts nor ends a session. -/
theorem Peer.Fine.act_isOnline (h : p.Fine maxRxFragSize config) {activity : Activity}
    (hplain : Plain config (p.handle (.act activity)).stack) :
    (p.handle (.act activity)).isOnline = p.isOnline := by
  obtain ⟨-, honline⟩ :=
    Transport.TransportStack.step_hears_nil (s := p.stack) activity.isInner_event
  calc (p.handle (.act activity)).stack.station.ctx.isOnline
      = (p.handle (.act activity)).stack.transport.isOnline := hplain.sound.online.symm
    _ = p.stack.transport.isOnline := honline
    _ = p.stack.station.ctx.isOnline := h.plain.sound.online

/-- An end that has no session reads nothing. -/
theorem Peer.handle_read_of_offline (hoff : p.isOnline = false) (numBytes : ℕ) (now : ℤ)
    (replies : ℕ → List Message) : p.handle (.read numBytes now replies) = p := by
  unfold Peer.handle Peer.channel Peer.events
  simp only [hoff, Bool.false_eq_true, if_false]
  rfl

/-- A stack that has not been told of the connection has no session. -/
theorem Peer.Fine.handle_isNew (h : p.Fine maxRxFragSize config) {e : PeerEvent}
    (hplain : Plain config (p.handle e).stack) (hnew : (p.handle e).isNew = true) :
    (p.handle e).isOnline = false := by
  cases e with
  | up now replies => cases hnew
  | lost => cases hnew
  | act activity => exact (h.act_isOnline hplain).trans (h.isNew hnew)
  | read numBytes now replies =>
    rcases hon : p.isOnline with _ | _
    · rw [Peer.handle_read_of_offline hon]
      exact hon
    · have hnew' : p.isNew = true := by
        simpa [Peer.handle, Peer.channel, hon] using hnew
      rw [h.isNew hnew'] at hon
      cases hon

/-- A peer is fine after an event. -/
theorem Peer.Fine.handle (h : p.Fine maxRxFragSize config) {e : PeerEvent}
    (hprompt : Machine.StepsMeet TransportStack.step TransportStack.Prompt p.stack (p.events e)) :
    (p.handle e).Fine maxRxFragSize config := by
  have hkeeps := Transport.TransportStack.run_keepsDelivered h.plain.sound hprompt
  obtain ⟨haccepted, hdelivered⟩ := p.handle_acceptedBefore e
  have hplain : Plain config (p.handle e).stack ∧
      p.stack.accepted.length ≤ (p.handle e).stack.accepted.length := by
    by_cases hlost : e = .lost
    · subst hlost
      obtain ⟨hplain, hsame, -⟩ := h.plain.step_down
      have hsame : (p.handle .lost).stack.accepted = p.stack.accepted := hsame
      exact ⟨hplain, hsame ▸ le_rfl⟩
    · obtain ⟨messages, frames, taken, -, hsends⟩ := h.sends hlost hprompt
      refine ⟨hsends.plain, ?_⟩
      rw [hsends.accepted, List.length_append]
      omega
  refine ⟨hplain.1, ?_, h.handle_isNew hplain.1, ?_, ?_⟩
  · exact hkeeps.maxRxFragSize.trans h.maxRxFragSize
  · rw [haccepted]
    exact h.acceptedBefore.trans hplain.2
  · rw [hdelivered]
    exact h.deliveredBefore.trans hkeeps.delivered.length_le

/-- A stack that takes part in no connection accepts nothing. -/
theorem Peer.Fine.handle_of_not_live (h : p.Fine maxRxFragSize config) {e : PeerEvent}
    (hplain : Plain config (p.handle e).stack) (hlost : e ≠ .lost) (hlive : p.isLive = false) :
    (p.handle e).stack.accepted = p.stack.accepted ∧ (p.handle e).isLive = false := by
  obtain ⟨hnew, hoff⟩ := Bool.or_eq_false_iff.mp hlive
  cases e with
  | lost => exact absurd rfl hlost
  | up now replies =>
    have hstack : (p.handle (.up now replies)).stack = p.stack := by
      simp [Peer.handle, Peer.events, hnew]
    refine ⟨by rw [hstack], Bool.or_eq_false_iff.mpr ⟨rfl, ?_⟩⟩
    rw [Peer.isOnline, hstack]
    exact hoff
  | act activity =>
    have hoff' : p.stack.transport.isOnline = false := h.plain.sound.online.trans hoff
    refine ⟨Transport.TransportStack.step_accepted_of_offline hoff' activity.isInner_event, ?_⟩
    exact Bool.or_eq_false_iff.mpr ⟨hnew, (h.act_isOnline hplain).trans hoff⟩
  | read numBytes now replies =>
    rw [Peer.handle_read_of_offline hoff]
    exact ⟨rfl, hlive⟩

/-- What an end writes is what it has accepted and not written before. -/
theorem Peer.Fine.writes (h : p.Fine maxRxFragSize config) {e : PeerEvent}
    (hprompt : Machine.StepsMeet TransportStack.step TransportStack.Prompt p.stack (p.events e)) :
    ∃ messages frames taken, (∀ message ∈ messages, e.Sends message) ∧
      (∀ frame ∈ frames, Link.Formats config frame) ∧
      Writes p (p.handle e) messages frames taken := by
  have hfine := h.handle hprompt
  obtain ⟨hbefore, -⟩ := p.handle_acceptedBefore e
  have hpast {messages : List Message}
      (haccepted : (p.handle e).stack.accepted = p.stack.accepted ++ messages) :
      (p.handle e).accepted = p.accepted ++ messages ∧
        (p.handle e).stack.accepted.take (p.handle e).acceptedBefore =
          p.stack.accepted.take p.acceptedBefore := by
    rw [Peer.accepted, hbefore, haccepted]
    exact ⟨List.drop_append_of_le_length h.acceptedBefore,
      List.take_append_of_le_length h.acceptedBefore⟩
  have hwritten {frames : List (LinkLayerFrame (List UInt8))}
      (htransmissions : (p.handle e).stack.station.transmissions =
        p.stack.station.transmissions ++ frames) :
      p.written (p.handle e) = frames.flatMap LinkLayerFrame.bytes := by
    rw [Peer.written, htransmissions, List.drop_left]
  by_cases hlost : e = .lost
  · -- What the link layer still holds is lost.
    subst hlost
    obtain ⟨-, haccepted, htransmissions⟩ := h.plain.step_down
    obtain ⟨hnow, hpast⟩ := hpast (haccepted.trans (List.append_nil _).symm)
    refine ⟨[], [], [], fun _ hmem => ?_, fun _ hmem => ?_, hnow, hpast,
      hwritten (htransmissions.trans (List.append_nil _).symm), fun before data hcut => ?_,
      fun rest _ => ⟨rest, (List.append_nil _).symm, fun hlive => ?_⟩⟩
    · cases hmem
    · cases hmem
    · rwa [List.append_nil, List.append_nil]
    · obtain ⟨-, -, hoff⟩ := Transport.TransportStack.step_hears_down h.plain.sound
      have hoff' : (p.handle .lost).isOnline = false := hfine.plain.sound.online.symm.trans hoff
      simp [Peer.isLive, hoff', show (p.handle .lost).isNew = false from rfl] at hlive
  obtain ⟨messages, frames, taken, hmem, hsends⟩ := h.sends hlost hprompt
  obtain ⟨hnow, hpast⟩ := hpast hsends.accepted
  refine ⟨messages, frames, taken, hmem, hsends.formats, hnow, hpast,
    hwritten hsends.transmissions, hsends.cut, fun rest hrest => ?_⟩
  rcases hlive : p.isLive with _ | _
  · obtain ⟨hsame, hlive'⟩ := h.handle_of_not_live hfine.plain hlost hlive
    obtain ⟨-, hoff⟩ := Bool.or_eq_false_iff.mp hlive
    obtain ⟨-, rfl, hnone⟩ := Sends.of_offline hsends h.plain.sound hoff hsame
    refine ⟨rest, by rw [hnone, List.append_nil]; rfl, fun hyes => ?_⟩
    rw [hlive'] at hyes
    cases hyes
  · exact ⟨_, by rw [hrest hlive]; exact hsends.data, fun _ => rfl⟩

end Handle

/-! ## The receiver -/

section Listen

variable {maxRxFragSize : ℕ}

/-- The end has been handed nothing. -/
theorem Flow.same (h : Flow config s r) (hdelivered : r'.stack.delivered = r.stack.delivered)
    (hbefore : r'.deliveredBefore = r.deliveredBefore)
    (hmax : r'.stack.transport.receiver.maxRxFragSize =
      r.stack.transport.receiver.maxRxFragSize)
    (hcarries : r'.isLive = true → r.isLive = true ∧ r'.parser = r.parser ∧
      r'.incoming = r.incoming ∧ r'.stack.transport.receiver = r.stack.transport.receiver) :
    Flow config s r' := by
  have hnow : r'.delivered = r.delivered := by
    rw [Peer.delivered, Peer.delivered, hdelivered, hbefore]
  refine ⟨?_, ?_, ?_, fun hlive => ?_⟩
  · rw [hdelivered, hbefore]
    exact h.past
  · rw [hnow]
    exact h.now
  · rw [hmax]
    exact h.carried
  · obtain ⟨hlive', hparser, hincoming, hreceiver⟩ := hcarries hlive
    obtain ⟨rx, received, rest, left, hmax', hcut, hdelivered', hread, hpends, hfrom, hrest⟩ :=
      h.carries hlive'
    refine .mk rx received rest left ?_ hcut ?_ ?_ ?_ hfrom hrest
    · rw [hreceiver, hmax']
    · rw [hnow, hdelivered']
    · rw [hreceiver, hread]
    · rw [hparser, hincoming]
      exact hpends

/-- The stack is told of the frames of a read, one after the other. -/
theorem arrivals_zipIdx (frames : List (LinkLayerFrame (List UInt8)))
    (hself : ∀ frame ∈ frames, Channel.linkFrame frame.sink = frame) (now : ℤ)
    (replies : ℕ → List Message) (n : ℕ) :
    Arrivals frames (((frames.map LinkLayerFrame.sink).zipIdx n).map fun frame =>
      .frame (Channel.linkFrame frame.1) now (replies frame.2)) := by
  induction frames generalizing n with
  | nil => exact .nil
  | cons frame frames ih =>
    have hrest := ih (fun frame' hmem => hself frame' (List.mem_cons_of_mem _ hmem)) (n + 1)
    have hthis := hself frame List.mem_cons_self
    exact .cons ⟨now, replies n, by dsimp only; rw [hthis]⟩ hrest

/-- The receiver reads some of the bytes that are on the line. -/
theorem Flow.read (h : Flow config s r) (hr : r.Fine maxRxFragSize config)
    (hon : r.isOnline = true) {numBytes : ℕ} {now : ℤ} {replies : ℕ → List Message}
    (hprompt : Machine.StepsMeet TransportStack.step TransportStack.Prompt r.stack
      (r.events (.read numBytes now replies))) :
    Flow config s (r.handle (.read numBytes now replies)) := by
  obtain ⟨rx, received, rest, left, hmax, hcut, hdelivered, hread, hpends, hfrom, hrest⟩ :=
    h.carries (by simp [Peer.isLive, hon])
  have hkeeps := Transport.TransportStack.run_keepsDelivered hr.plain.sound hprompt
  -- The frames that the parser delivers are the first ones on the line.
  have hsplit : r.incoming = r.readBytes numBytes ++
      r.incoming.drop (r.readBytes numBytes).length := by
    have htake : r.readBytes numBytes = r.incoming.take (r.readBytes numBytes).length :=
      List.prefix_iff_eq_take.mp <| List.take_prefix ..
    calc r.incoming = r.incoming.take (r.readBytes numBytes).length ++
          r.incoming.drop (r.readBytes numBytes).length := (List.take_append_drop ..).symm
      _ = _ := by rw [← htake]
  rw [hsplit] at hpends
  obtain ⟨later, hlater, hpends'⟩ := hpends.read (r.length_readBytes_le numBytes)
  obtain ⟨first, last, rfl, hfirst, rfl⟩ := List.map_eq_append_iff.mp hlater
  have hfrom' : ∀ frame ∈ first, FromPeer config frame := fun frame hmem =>
    hfrom frame (List.mem_append_left _ hmem)
  have hself : ∀ frame ∈ first, Channel.linkFrame frame.sink = frame := by
    intro frame hmem
    obtain ⟨peer, -, hformats⟩ := (hfrom' frame hmem).formats
    exact hformats.linkFrame_sink
  have hevents : Arrivals first (r.events (.read numBytes now replies)) := by
    have harrivals := arrivals_zipIdx first hself now replies 0
    rw [hfirst] at harrivals
    simp only [Peer.events, hon, if_true]
    exact harrivals
  obtain ⟨hhears, hon'⟩ := run_hears hevents hr.plain hon hfrom' hprompt
  generalize hnext : r.handle (.read numBytes now replies) = r'
  have hstack : Machine.run TransportStack.step r.stack (r.events (.read numBytes now replies)) =
      r'.stack := by
    rw [← hnext]
    rfl
  have hbefore : r'.deliveredBefore = r.deliveredBefore := by
    rw [← hnext]
    exact (r.handle_acceptedBefore _).2
  have hparser : r'.parser = (r.onRead numBytes).2 := by
    rw [← hnext]
    simp [Peer.handle, Peer.channel, hon]
  have hincoming : r'.incoming = r.incoming.drop (r.readBytes numBytes).length := by
    rw [← hnext]
    simp [Peer.handle, Peer.channel, hon]
  rw [hstack] at hkeeps hhears hon'
  have hmax' := hkeeps.maxRxFragSize
  have hcarried : ∀ message ∈ s.accepted, Carried (addressesTo config)
      r'.stack.transport.receiver.maxRxFragSize message := by
    rw [hmax']
    exact h.carried
  have hcarries : Carries config s r' := by
    refine .mk rx (received ++ first.filterMap LinkLayerFrame.userData) rest last ?_ ?_ ?_ ?_ ?_ ?_
      hrest
    · rw [hmax, hmax']
    · rwa [List.filterMap_append, ← List.append_assoc] at hcut
    · calc r'.delivered
          = r.delivered ++ r.stack.transport.receiver.deliver
              ((first.filterMap LinkLayerFrame.userData).map Transport.appMessage) := by
            rw [Peer.delivered, hbefore, hhears.delivered,
              List.drop_append_of_le_length hr.deliveredBefore]
            rfl
        _ = _ := by rw [List.map_append, TransportRx.deliver_append, ← hdelivered, ← hread]
    · rw [hhears.receiver, List.map_append, TransportRx.receiveAll_append, ← hread]
    · rw [hparser, hincoming]
      exact hpends'
    · exact fun frame hmem => hfrom frame (List.mem_append_right _ hmem)
  refine ⟨?_, hcarries.now hcarried, hcarried, fun _ => hcarries⟩
  obtain ⟨new, hnew⟩ := hkeeps.delivered
  rw [hbefore, ← hnew, List.take_append_of_le_length hr.deliveredBefore]
  exact h.past

/-- Whatever happens at the receiver. -/
theorem Flow.listen (h : Flow config s r) (hr : r.Fine maxRxFragSize config) {e : PeerEvent}
    (hprompt : Machine.StepsMeet TransportStack.step TransportStack.Prompt r.stack (r.events e)) :
    Flow config s (r.handle e) := by
  have hfine := hr.handle hprompt
  cases e with
  | up now replies =>
    -- Only a new connection starts the receiver.
    rcases hnew : r.isNew with _ | _
    · have hstack : (r.handle (.up now replies)).stack = r.stack := by
        simp [Peer.handle, Peer.events, hnew]
      refine h.same (by rw [hstack]) rfl (by rw [hstack]) fun hlive =>
        ⟨?_, rfl, rfl, by rw [hstack]⟩
      have hlive : (r.handle (.up now replies)).isOnline = true := hlive
      rw [Peer.isOnline, hstack] at hlive
      simp [Peer.isLive, Peer.isOnline, hlive]
    · obtain ⟨hhears, -⟩ :=
        Transport.TransportStack.step_hears_up hr.plain.sound now replies
      have hstack : (r.handle (.up now replies)).stack =
          r.stack.step (.lowerLayerUp now replies) := by
        simp [Peer.handle, Peer.events, hnew]
      rw [← hstack] at hhears
      refine h.same ?_ rfl hhears.keeps.maxRxFragSize fun _ =>
        ⟨by simp [Peer.isLive, hnew], rfl, rfl, hhears.receiver⟩
      exact hhears.delivered.trans (List.append_nil _)
  | lost =>
    obtain ⟨hdelivered, hmax, hoff⟩ := Transport.TransportStack.step_hears_down hr.plain.sound
    have hoff' : (r.handle .lost).isOnline = false := hfine.plain.sound.online.symm.trans hoff
    refine h.same hdelivered rfl hmax fun hlive => ?_
    simp [Peer.isLive, hoff', show (r.handle .lost).isNew = false from rfl] at hlive
  | act activity =>
    obtain ⟨hhears, -⟩ :=
      Transport.TransportStack.step_hears_nil (s := r.stack) activity.isInner_event
    refine h.same (hhears.delivered.trans (List.append_nil _)) rfl hhears.keeps.maxRxFragSize
      fun hlive => ⟨?_, rfl, rfl, hhears.receiver⟩
    rw [Peer.isLive, hr.act_isOnline hfine.plain] at hlive
    exact hlive
  | read numBytes now replies =>
    -- Without a session nothing is read.
    rcases hon : r.isOnline with _ | _
    · rw [Peer.handle_read_of_offline hon]
      exact h
    · exact h.read hr hon hprompt

end Listen

/-! ## The line -/

/-- A new connection starts with nothing on the line. -/
theorem Flow.connect {maxRxFragSize : ℕ} {config' : LinkLayerConfig}
    (h : Flow config s r) (hs : s.Fine maxRxFragSize config') (hoff : s.isOnline = false) :
    Flow config s.connect r.connect := by
  have hnone : s.connect.accepted = [] := List.drop_length
  have hnone' : r.connect.delivered = [] := List.drop_length
  refine ⟨?_, ?_, ?_, fun _ => ?_⟩
  · show (r.stack.delivered.take r.stack.delivered.length).Sublist
      (s.stack.accepted.take s.stack.accepted.length)
    rw [List.take_length, List.take_length]
    exact h.delivers.all
  · rw [hnone']
    exact List.nil_prefix
  · rw [hnone]
    exact fun _ hmem => absurd hmem List.not_mem_nil
  · refine .mk r.stack.transport.receiver [] [] [] rfl ?_ ?_ rfl (.reset _) ?_ fun _ => ?_
    · rw [hnone]
      exact .nil
    · rw [hnone']
      rfl
    · exact fun _ hmem => absurd hmem List.not_mem_nil
    · exact (unsent_of_offline hs.plain.sound hoff).symm

/-- The bytes on the way to the sender do not matter. -/
theorem Flow.arrive (h : Flow config s r) (bytes : List UInt8) :
    Flow config (s.arrive bytes) r := by
  refine ⟨h.past, h.now, h.carried, fun hlive => ?_⟩
  obtain ⟨rx, received, rest, left, hmax, hcut, hdelivered, hread, hpends, hfrom, hrest⟩ :=
    h.carries hlive
  exact .mk rx received rest left hmax hcut hdelivered hread hpends hfrom hrest

/-- The other side of the other side is this one. -/
theorem Side.other_other (side : Side) : side.other.other = side := by cases side <;> rfl

/-- The other side is another one. -/
theorem Side.other_ne (side : Side) : side.other ≠ side := by cases side <;> simp [Side.other]

/-- Both ends are fine, and what is on its way between them is accounted for. -/
structure Line.Sound (maxRxFragSize : Side → ℕ) (config : Side → LinkLayerConfig) (l : Line) :
    Prop where
  fine : ∀ side, (l side).Fine (maxRxFragSize side) (config side)
  flow : ∀ side, Flow (config side.other) (l side) (l side.other)

section Line

variable {maxRxFragSize : Side → ℕ} {config : Side → LinkLayerConfig} {l : Line}

/-- A peer handles its own event. -/
theorem Line.step_self (l : Line) (side : Side) (e : PeerEvent) :
    l.step (.peer side e) side = (l side).handle e := if_pos rfl

/-- What a peer writes arrives at the other one. -/
theorem Line.step_other (l : Line) (side : Side) (e : PeerEvent) :
    l.step (.peer side e) side.other =
      (l side.other).arrive ((l side).written ((l side).handle e)) := if_neg side.other_ne

/-- Every event of the line keeps both directions sound. -/
theorem Line.Sound.step (h : l.Sound maxRxFragSize config)
    (hmaster : ∀ side, (config side).IsMaster = decide (side = .master)) {e : LineEvent}
    (hprompt : l.Prompt e) (hfits : e.Fits maxRxFragSize config) :
    (l.step e).Sound maxRxFragSize config := by
  cases e with
  | connect =>
    rcases hon : (l .master).isOnline || (l .outstation).isOnline with _ | _
    swap
    · rw [show l.step .connect = l from if_pos hon]
      exact h
    rw [show l.step .connect = fun side => (l side).connect from if_neg (by simp [hon])]
    have hoff : ∀ side, (l side).isOnline = false := by
      obtain ⟨hmaster, houtstation⟩ := Bool.or_eq_false_iff.mp hon
      intro side
      cases side
      · exact hmaster
      · exact houtstation
    refine ⟨fun side => ?_, fun side =>
      (h.flow side).connect (h.fine side) (hoff side)⟩
    have hfine := h.fine side
    exact ⟨hfine.plain, hfine.maxRxFragSize, fun _ => hoff side, le_rfl, le_rfl⟩
  | peer side e =>
    have hprompt : Machine.StepsMeet TransportStack.step TransportStack.Prompt (l side).stack
      ((l side).events e) := hprompt
    have hself := l.step_self side e
    have hother := l.step_other side e
    have hfine := h.fine side.other
    -- One end has handled the event, and what it wrote is on the way to the other one.
    have hfines : (l.step (.peer side e) side).Fine (maxRxFragSize side) (config side) ∧
        (l.step (.peer side e) side.other).Fine (maxRxFragSize side.other)
          (config side.other) := by
      rw [hself, hother]
      exact ⟨(h.fine side).handle hprompt, hfine.plain, hfine.maxRxFragSize, hfine.isNew,
        hfine.acceptedBefore, hfine.deliveredBefore⟩
    obtain ⟨messages, frames, taken, hmem, hformats, hwrites⟩ := (h.fine side).writes hprompt
    have hsend : Flow (config side.other) (l.step (.peer side e) side)
        (l.step (.peer side e) side.other) := by
      rw [hself, hother]
      refine (h.flow side).write hwrites (fun message hm => ?_) ⟨config side, ?_, hformats⟩
      · rw [hfine.maxRxFragSize]
        exact hfits message (hmem message hm)
      · rw [hmaster, hmaster]
        cases side <;> rfl
    have hlisten : Flow (config side) (l.step (.peer side e) side.other)
        (l.step (.peer side e) side) := by
      rw [hself, hother]
      have hflow := h.flow side.other
      rw [side.other_other] at hflow
      exact (hflow.listen (h.fine side) hprompt).arrive _
    refine ⟨fun side' => ?_, fun side' => ?_⟩
    · cases side <;> cases side'
      · exact hfines.1
      · exact hfines.2
      · exact hfines.2
      · exact hfines.1
    · cases side <;> cases side'
      · exact hsend
      · exact hlisten
      · exact hlisten
      · exact hsend

/-- A new line is sound. -/
theorem Line.init_sound (hconfirms : ∀ side, (config side).UseConfirms = false) :
    (Line.init maxRxFragSize config).Sound maxRxFragSize config := by
  have hnil : ∀ message ∈ ([] : List Message), ∀ P : Prop, P := fun _ hmem =>
    absurd hmem List.not_mem_nil
  refine ⟨fun side => ⟨⟨Transport.TransportStack.init_sound .., rfl, hconfirms side, rfl⟩, rfl,
    fun _ => rfl, le_rfl, le_rfl⟩, fun side => ⟨List.Sublist.refl _, List.prefix_rfl, ?_, ?_⟩⟩
  · exact fun message hmem => hnil message hmem _
  · exact fun hlive => absurd hlive Bool.false_ne_true

end Line

/-- In every run of a line between stacks whose link layers do not use confirms, in which no message
is accepted too early and every message is for the other side, each application has been handed
messages that the other stack has accepted, in order: in the present connection the first ones, and
all of them once nothing is on its way. -/
theorem run_delivers (maxRxFragSize : Side → ℕ) (config : Side → LinkLayerConfig)
    (hmaster : ∀ side, (config side).IsMaster = decide (side = .master))
    (hconfirms : ∀ side, (config side).UseConfirms = false) (events : List LineEvent)
    (hfits : ∀ e ∈ events, e.Fits maxRxFragSize config)
    (hprompt : Machine.StepsMeet Line.step Line.Prompt (Line.init maxRxFragSize config) events)
    (side : Side) :
    Delivers (Machine.run Line.step (Line.init maxRxFragSize config) events side)
      (Machine.run Line.step (Line.init maxRxFragSize config) events side.other) := by
  have hall := (Machine.stepsMeet_and Line.step _ events).mpr
    ⟨hprompt, Machine.StepsMeet.of_forall Line.step hfits _⟩
  have hsound := Machine.run_invariant Line.step
    (fun l e (h : l.Sound maxRxFragSize config) hmeets => h.step hmaster hmeets.1 hmeets.2) _ events
    (Line.init_sound hconfirms) hall
  exact (hsound.flow side).delivers

/-- An event in which the application sends nothing. -/
theorem Line.prompt_of_silent (l : Line) (side : Side) {e : PeerEvent}
    (h : ∀ message, ¬ e.Sends message) : l.Prompt (.peer side e) := by
  have hsilent : ∀ event ∈ (l side).events e, event.messages = [] := by
    intro event hmem
    rw [List.eq_nil_iff_forall_not_mem]
    exact fun message hsent => h message (Peer.sends_of_mem hmem hsent)
  show Machine.StepsMeet TransportStack.step TransportStack.Prompt _ _
  generalize (l side).events e = events at hsilent
  generalize (l side).stack = stack
  induction events generalizing stack with
  | nil => trivial
  | cons event events ih =>
    refine ⟨fun haccepts => ?_, ih (fun event' hmem => hsilent event'
      (List.mem_cons_of_mem _ hmem)) _⟩
    have hnone := Transport.TransportStack.not_accepts_of_silent stack
      (hsilent event List.mem_cons_self)
    rw [hnone] at haccepts
    cases haccepts

/-- A run in which the applications send nothing. -/
theorem Line.stepsMeet_of_silent (l : Line) {events : List LineEvent}
    (h : ∀ side e, .peer side e ∈ events → ∀ message, ¬ PeerEvent.Sends message e) :
    Machine.StepsMeet Line.step Line.Prompt l events := by
  induction events generalizing l with
  | nil => trivial
  | cons e events ih =>
    refine ⟨?_, ih _ fun side e' hmem => h side e' (List.mem_cons_of_mem _ hmem)⟩
    cases e with
    | connect => trivial
    | peer side e => exact l.prompt_of_silent side (h side e List.mem_cons_self)

/-- The configuration of a master with the address 1, and an outstation with the address 10. -/
def twoEnds (side : Side) : LinkLayerConfig where
  IsMaster := decide (side = .master)
  UseConfirms := false
  NumRetry := 0
  LocalAddr := if side = .master then 1 else 10
  RemoteAddr := if side = .master then 10 else 1
  KeepAliveTimeout := 60000
  respondToAnySource := false

/-- A request that is sent as soon as there is a connection, and read in one piece. -/
theorem run_delivers_request :
    let events : List LineEvent :=
      [.connect, .peer .master (.up 0 [⟨⟨1, 10⟩, [0xC0, 0x01]⟩]), .peer .outstation (.up 0 []),
        .peer .outstation (.read 292 1 fun _ => [])]
    let line := Machine.run Line.step (Line.init (fun _ => 2048) twoEnds) events
    Delivers (line .master) (line .outstation) := by
  refine run_delivers (fun _ => 2048) twoEnds (fun _ => rfl) (fun _ => rfl) _ ?_ ?_ .master
  · simp only [List.mem_cons, List.not_mem_nil, or_false, forall_eq_or_imp, forall_eq,
      LineEvent.Fits, PeerEvent.Sends, exists_const, false_imp_iff, implies_true,
        true_and, and_true]
    exact ⟨rfl, rfl, by decide⟩
  · refine ⟨trivial, ⟨fun _ => rfl, trivial⟩, Line.stepsMeet_of_silent _ ?_⟩
    intro side e hmem message hsent
    simp only [List.mem_cons, List.not_mem_nil, or_false, LineEvent.peer.injEq] at hmem
    obtain ⟨-, rfl⟩ | ⟨-, rfl⟩ := hmem
    · cases hsent
    · cases hsent.choose_spec

end OpenDnp3.EndToEnd
