import OpenDnp3.Transport.Layer

/-!
# One message at a time

The transport layer is sending exactly while the link layer holds its message or the end of that
message is posted, as long as no message is accepted while an earlier end is still in the queue of
the executor. The code does not know which message a posted call belongs to, so a message that is
accepted behind an old one is taken to be done by it.
-/

namespace OpenDnp3.Transport

open App (Message)
open Link (LinkContext LinkEvent LinkLayerConfig LinkLayerFrame LinkOutput Station)

/-! ## The segments of a transmitter -/

namespace TransportTx

/-- The stream of segments begins with the current one. -/
theorem segments_eq_cons (tx : TransportTx) :
    tx.segments = ⟨tx.message.addresses, tx.getSegment.1⟩ :: tx.segments.tail := by
  rw [segments]
  split_ifs <;> rfl

/-- The rest of the stream is what is left after the current segment. -/
theorem segments_tail (tx : TransportTx) :
    tx.segments.tail = if tx.getSegment.2.advance.1 then tx.advanced.segments else [] := by
  rw [segments]
  split_ifs <;> rfl

/-- The segments of a message have its addresses. -/
theorem addresses_advanced (tx : TransportTx) :
    tx.advanced.message.addresses = tx.message.addresses := by
  unfold advanced
  rw [advance_getSegment]
  rfl

/-- After `Advance` the link layer sees the rest of the message. -/
theorem view_advanced {tx : TransportTx} {addresses : Link.Addresses} {current next : List UInt8}
    {rest : List (List UInt8)} (h : tx.view = ⟨addresses, current, next :: rest⟩) :
    tx.advanced.view = ⟨addresses, next, rest⟩ := by
  obtain ⟨haddresses, -, hrest⟩ := Link.TransportSegment.mk.inj h
  rw [segments_tail] at hrest
  split_ifs at hrest
  · rw [segments_eq_cons, List.map_cons, List.cons.injEq] at hrest
    have hcurrent : tx.advanced.getSegment.1 = next := hrest.1
    rw [view, addresses_advanced, haddresses, hcurrent, hrest.2]
  · cases hrest

end TransportTx

namespace TransportLayer

/-! ## What the application sends -/

/-- The layer accepts one of the messages. -/
def accepts (t : TransportLayer) (messages : List Message) : Bool :=
  t.isOnline && !t.isSending && messages.any fun message => !message.payload.isEmpty

/-- The layer with a message that it has accepted. -/
def sending (t : TransportLayer) (message : Message) : TransportLayer :=
  { t with isSending := true, transmitter := t.transmitter.configure message }

/-- A message is refused outside of a session and while another one is being sent. -/
theorem beginTransmit_refused {t : TransportLayer}
    (h : t.isOnline = false ∨ t.isSending = true) (message : Message) :
    t.beginTransmit message = (none, t) := by
  unfold beginTransmit
  rcases h with h | h
  · rw [if_pos (by simp [h])]
  · split_ifs <;> rfl

/-- While the layer is offline or sending, every message is refused. -/
theorem beginTransmits_refused {t : TransportLayer}
    (h : t.isOnline = false ∨ t.isSending = true) (messages : List Message) :
    t.beginTransmits messages = ([], t) := by
  induction messages with
  | nil => rfl
  | cons message messages ih => simp [beginTransmits, beginTransmit_refused h, ih]

/-- Either nothing is accepted, or one message is. -/
inductive Sends (t : TransportLayer) (messages : List Message) :
    List (Message × Link.TransportSegment (List UInt8)) × TransportLayer → Prop
  | nothing (h : t.accepts messages = false) : Sends t messages ([], t)
  | one {message : Message} (h : t.accepts messages = true) (hmem : message ∈ messages)
      (hne : message.payload ≠ []) :
      Sends t messages ([(message, (t.sending message).transmitter.view)], t.sending message)

/-- Of the messages that the application sends, the first one that is not empty is accepted. -/
theorem beginTransmits_sends (t : TransportLayer) (messages : List Message) :
    Sends t messages (t.beginTransmits messages) := by
  by_cases hready : t.isOnline = true ∧ t.isSending = false
  swap
  · have hrefused : t.isOnline = false ∨ t.isSending = true := by
      rcases hon : t.isOnline with _ | _
      · exact .inl rfl
      · exact .inr (by simpa [hon] using hready)
    rw [beginTransmits_refused hrefused]
    refine .nothing ?_
    rcases hrefused with h | h <;> simp [accepts, h]
  obtain ⟨hon, hsending⟩ := hready
  induction messages with
  | nil => exact .nothing (by simp [accepts])
  | cons message messages ih =>
    rcases hempty : message.payload.isEmpty with _ | _
    · -- This one is accepted, and the later ones are refused.
      have hbegin : t.beginTransmit message =
          (some (t.sending message).transmitter.view, t.sending message) := by
        simp [beginTransmit, hon, hempty, hsending, sending]
      have hrest : (t.sending message).beginTransmits messages = ([], t.sending message) :=
        beginTransmits_refused (.inr rfl) messages
      have hall : t.beginTransmits (message :: messages) =
          ([(message, (t.sending message).transmitter.view)], t.sending message) := by
        simp [beginTransmits, hbegin, hrest]
      rw [hall]
      exact .one (by simp [accepts, hon, hsending, hempty]) List.mem_cons_self
        (by simpa using hempty)
    · -- An empty message is refused and the layer stays free.
      have hbegin : t.beginTransmit message = (none, t) := by
        simp [beginTransmit, hon, hempty]
      have hall : t.beginTransmits (message :: messages) = t.beginTransmits messages := by
        simp [beginTransmits, hbegin]
      have haccepts : t.accepts (message :: messages) = t.accepts messages := by
        simp [accepts, hempty]
      rw [hall]
      generalize t.beginTransmits messages = result at ih
      rcases ih with h | ⟨h, hmem, hne⟩
      · exact .nothing (haccepts.trans h)
      · exact .one (haccepts.trans h) (List.mem_cons_of_mem _ hmem) hne

/-! ## What the link layer tells -/

/-- Only the calls to the upper layer reach the transmitter. -/
theorem foldl_hear (outputs : List (LinkOutput (List UInt8))) (t : TransportLayer) :
    outputs.foldl hear t = (outputs.filter LinkOutput.isUpper).foldl hear t := by
  induction outputs generalizing t with
  | nil => rfl
  | cons output outputs ih => cases output <;> exact ih _

end TransportLayer

namespace TransportStack

open TransportLayer

variable {s : TransportStack}

/-- The ends of messages are among the calls of the upper layer. -/
theorem filter_isTxReady (outputs : List (LinkOutput (List UInt8))) :
    outputs.filter isTxReady = (outputs.filter LinkOutput.isUpper).filter isTxReady := by
  rw [List.filter_filter]
  congr 1
  funext output
  cases output <;> rfl

/-- Where the link layer has the transmitter's segments nothing is to be pointed at. -/
theorem pointed_eq {station : Station (List UInt8)} {transmitter : TransportTx}
    (h : ∀ segments, station.ctx.pSegments = some segments → segments = transmitter.view) :
    pointed station transmitter = station := by
  have hsegments : station.ctx.pSegments.map (fun _ => transmitter.view) =
      station.ctx.pSegments := by
    rcases hsome : station.ctx.pSegments with _ | segments
    · rfl
    · rw [h segments hsome]
      rfl
  unfold pointed
  rw [hsegments]

/-! ## The stack between events -/

/-- The layer is sending exactly while the link layer holds its message, which is the one that the
transmitter has, or the end of that message is posted. -/
structure Sound (s : TransportStack) : Prop where
  station : s.station.Inv
  online : s.transport.isOnline = s.station.ctx.isOnline
  offline : s.transport.isOnline = false → s.transport.isSending = false
  view : ∀ segments, s.station.ctx.pSegments = some segments →
    segments = s.transport.transmitter.view
  idle : s.transport.isSending = false → s.station.ctx.pSegments = none
  busy : s.transport.isSending = true →
    s.station.ctx.pSegments.isSome = true ∧ s.posted = [] ∨
      s.station.ctx.pSegments = none ∧ s.posted = [s.accepted.length]
  numbers : ∀ n ∈ s.posted, n ≤ s.accepted.length

/-- A layer that differs at most in what it has received. -/
structure SameSender (t t' : TransportLayer) : Prop where
  isOnline : t'.isOnline = t.isOnline
  isSending : t'.isSending = t.isSending
  transmitter : t'.transmitter = t.transmitter

/-- The sender is the same as long as nothing happens. -/
theorem SameSender.refl (t : TransportLayer) : SameSender t t := ⟨rfl, rfl, rfl⟩

/-- What is received leaves the sender alone. -/
theorem onReceive_sameSender (t : TransportLayer) (message : Message) :
    SameSender t (t.onReceive message).2 := by
  unfold onReceive
  split_ifs <;> exact ⟨rfl, rfl, rfl⟩

/-- The outputs of an event that occurs. -/
theorem outputs_of_occurs {station : Station (List UInt8)} {e : LinkEvent (List UInt8)}
    (h : station.occurs e = true) : outputs station e = (station.handled e).outputs := if_pos h

/-- The link layer after an event that occurs. -/
theorem step_ctx {station : Station (List UInt8)} {e : LinkEvent (List UInt8)}
    (h : station.occurs e = true) : (station.step e).ctx = station.handled e := by
  unfold Station.step
  rw [if_pos h]

/-- What the link layer tells the layers above decides what becomes of them. -/
theorem handle_eq {e : LinkEvent (List UInt8)} (ho : s.station.occurs e = true)
    (t : TransportLayer) (messages : List Message) {calls : List (LinkOutput (List UInt8))}
    (hcalls : (s.station.handled e).upperCalls = calls) :
    s.handle e t messages =
      { s with
        station := pointed (s.station.step e) (calls.foldl hear t).transmitter
        transport := calls.foldl hear t
        posted := s.posted ++ (calls.filter isTxReady).map fun _ =>
          (s.accepted ++ messages).length
        accepted := s.accepted ++ messages } := by
  subst hcalls
  unfold handle LinkContext.upperCalls
  dsimp only
  rw [outputs_of_occurs ho, foldl_hear, filter_isTxReady (s.station.handled e).outputs]

/-- An event of which nothing comes. -/
theorem handle_of_not_occurs {e : LinkEvent (List UInt8)} (ho : s.station.occurs e = false)
    (h : Sound s) : s.handle e s.transport [] = s := by
  have hstep : s.station.step e = s.station := if_neg (by simp [ho])
  have houtputs : outputs s.station e = [] := if_neg (by simp [ho])
  have hpointed : pointed s.station s.transport.transmitter = s.station := pointed_eq h.view
  unfold handle
  simp [houtputs, hstep, hpointed]

/-- The calls of the link layer change no flag before they are run. -/
theorem hear_flags (t : TransportLayer) (calls : List (LinkOutput (List UInt8))) :
    (calls.foldl hear t).isOnline = t.isOnline ∧ (calls.foldl hear t).isSending = t.isSending := by
  induction calls generalizing t with
  | nil => exact ⟨rfl, rfl⟩
  | cons call calls ih =>
    obtain ⟨honline, hsending⟩ := ih (t.hear call)
    rw [List.foldl_cons, honline, hsending]
    cases call <;> exact ⟨rfl, rfl⟩

/-- What has to be seen to of an event: the message of the link layer is the one that the
transmitter has, and the layer is sending as long as it is there or its end is posted. -/
structure Settles (s : TransportStack) (e : LinkEvent (List UInt8)) (t : TransportLayer)
    (messages : List Message) (calls : List (LinkOutput (List UInt8))) : Prop where
  occurs : s.station.occurs e = true
  upperCalls : (s.station.handled e).upperCalls = calls
  online : t.isOnline = (s.station.handled e).isOnline
  offline : t.isOnline = false → t.isSending = false
  view : ∀ segments, (s.station.handled e).pSegments = some segments →
    segments = (calls.foldl hear t).transmitter.view
  idle : t.isSending = false → (s.station.handled e).pSegments = none
  busy : t.isSending = true →
    (s.station.handled e).pSegments.isSome = true ∧ s.posted = [] ∧ calls.filter isTxReady = [] ∨
      (s.station.handled e).pSegments = none ∧
        s.posted ++ (calls.filter isTxReady).map (fun _ => (s.accepted ++ messages).length) =
          [(s.accepted ++ messages).length]

/-- An event that settles leaves the stack sound, and the link layer makes its step. -/
theorem Settles.sound {e : LinkEvent (List UInt8)} {t : TransportLayer} {messages : List Message}
    {calls : List (LinkOutput (List UInt8))} (h' : Settles s e t messages calls)
    (hinv : s.station.Inv) (hnumbers : ∀ n ∈ s.posted, n ≤ s.accepted.length) :
    Sound (s.handle e t messages) ∧ (s.handle e t messages).station = s.station.step e := by
  obtain ⟨honline, hsending⟩ := hear_flags t calls
  have hctx := step_ctx h'.occurs
  have hpointed : pointed (s.station.step e) (calls.foldl hear t).transmitter =
      s.station.step e := by
    apply pointed_eq
    rw [hctx]
    exact h'.view
  rw [handle_eq h'.occurs t messages h'.upperCalls, hpointed]
  refine ⟨⟨hinv.step e, ?_, ?_, ?_, ?_, ?_, ?_⟩, rfl⟩
  · show (calls.foldl hear t).isOnline = (s.station.step e).ctx.isOnline
    rw [honline, hctx]
    exact h'.online
  · show (calls.foldl hear t).isOnline = false → (calls.foldl hear t).isSending = false
    rw [honline, hsending]
    exact h'.offline
  · show ∀ segments, (s.station.step e).ctx.pSegments = some segments → _
    rw [hctx]
    exact h'.view
  · show (calls.foldl hear t).isSending = false → (s.station.step e).ctx.pSegments = none
    rw [hsending, hctx]
    exact h'.idle
  · -- While the layer sends, either the link layer has its segments or the notification is posted.
    show (calls.foldl hear t).isSending = true →
      (s.station.step e).ctx.pSegments.isSome = true ∧ s.posted ++ _ = [] ∨
        (s.station.step e).ctx.pSegments = none ∧ s.posted ++ _ = [_]
    rw [hsending, hctx]
    intro hbusy
    rcases h'.busy hbusy with ⟨hsome, hposted, hnone⟩ | hdone
    · exact .inl ⟨hsome, by rw [hposted, hnone]; rfl⟩
    · exact .inr hdone
  · intro n hmem
    show n ≤ (s.accepted ++ messages).length
    rcases List.mem_append.mp hmem with hold | hnew
    · have hle := hnumbers n hold
      rw [List.length_append]
      omega
    · obtain ⟨-, -, rfl⟩ := List.mem_map.mp hnew
      exact le_rfl

/-- While the link layer has a message the transport layer is sending, and no end of one is posted.
-/
theorem isSome_of_busy (h : Sound s) (hsome : s.station.ctx.pSegments.isSome = true) :
    s.transport.isSending = true ∧ s.posted = [] := by
  have hsending : s.transport.isSending = true := by
    by_contra hno
    rw [h.idle (by simpa using hno)] at hsome
    cases hsome
  rcases h.busy hsending with ⟨-, hposted⟩ | ⟨hnone, -⟩
  · exact ⟨hsending, hposted⟩
  · rw [hnone] at hsome
    cases hsome

/-- The transmitter and the executor hear of nothing. -/
structure Quiet (calls : List (LinkOutput (List UInt8))) : Prop where
  hear : ∀ t : TransportLayer, calls.foldl TransportLayer.hear t = t
  posted : calls.filter isTxReady = []

/-- Without calls nothing is told. -/
theorem quiet_nil : Quiet [] := ⟨fun _ => rfl, rfl⟩

section Events

variable {e : LinkEvent (List UInt8)} (ho : s.station.occurs e = true)
  {calls : List (LinkOutput (List UInt8))} (hcalls : (s.station.handled e).upperCalls = calls)
  (hquiet : Quiet calls)

include ho hcalls hquiet

/-- The message in progress is left alone. -/
theorem settles_same (h : Sound s)
    (hsegments : (s.station.handled e).pSegments = s.station.ctx.pSegments)
    (honline : (s.station.handled e).isOnline = s.station.ctx.isOnline) {t : TransportLayer}
    (ht : SameSender s.transport t) : Settles s e t [] calls := by
  refine ⟨ho, hcalls, by rw [ht.isOnline, h.online, honline], ?_, ?_, ?_, ?_⟩
  · rw [ht.isOnline, ht.isSending]
    exact h.offline
  · rw [hsegments, hquiet.hear, ht.transmitter]
    exact h.view
  · rw [hsegments, ht.isSending]
    exact h.idle
  · rw [hsegments, ht.isSending, hquiet.posted]
    intro hsending
    rcases h.busy hsending with ⟨hsome, hposted⟩ | ⟨hnone, hposted⟩
    · exact .inl ⟨hsome, hposted, rfl⟩
    · exact .inr ⟨hnone, by simp [hposted]⟩

omit hquiet in
/-- There is no message in progress afterwards. -/
theorem settles_idle {t : TransportLayer} (honline : t.isOnline = (s.station.handled e).isOnline)
    (hsending : t.isSending = false) (hsegments : (s.station.handled e).pSegments = none) :
    Settles s e t [] calls := by
  refine ⟨ho, hcalls, honline, fun _ => hsending, ?_, fun _ => hsegments, ?_⟩
  · rw [hsegments]
    exact nofun
  · rw [hsending]
    exact nofun

/-- The link layer takes the message that was accepted, while nothing is posted. -/
theorem settles_sending {t : TransportLayer} (hon : t.isOnline = true)
    (honline : (s.station.handled e).isOnline = true) (message : Message)
    (hsegments : (s.station.handled e).pSegments = some (t.sending message).transmitter.view)
    (hposted : s.posted = []) : Settles s e (t.sending message) [message] calls := by
  refine ⟨ho, hcalls, hon.trans honline.symm, ?_, ?_, nofun, fun _ => .inl ⟨?_, hposted, ?_⟩⟩
  · intro hoff
    rw [show (t.sending message).isOnline = t.isOnline from rfl, hon] at hoff
    cases hoff
  · rw [hsegments, hquiet.hear]
    intro segments hsome
    exact (Option.some.inj hsome).symm
  · rw [hsegments]
    rfl
  · exact hquiet.posted

end Events

/-- What became of the messages that were accepted: the link layer has handled an event other than
the end of its session, in which it has taken exactly these. -/
inductive Drives (s s' : TransportStack) : List Message → Prop
  | still (station : s'.station = s.station) (accepted : s'.accepted = s.accepted) : Drives s s' []
  | nothing {e : LinkEvent (List UInt8)} (hdown : e ≠ .lowerLayerDown)
      (station : s'.station = s.station.step e) (takes : s.station.takes e = none)
      (accepted : s'.accepted = s.accepted) : Drives s s' []
  | one {e : LinkEvent (List UInt8)} {message : Message} (hdown : e ≠ .lowerLayerDown)
      (station : s'.station = s.station.step e) (hne : message.payload ≠ [])
      (takes : s.station.takes e = some (s.transport.transmitter.configure message).view)
      (accepted : s'.accepted = s.accepted ++ [message]) : Drives s s' [message]

/-- A step in which the application may send the given messages keeps the stack sound, and the link
layer takes what is accepted. -/
def Steps (s : TransportStack) (messages : List Message) (s' : TransportStack) : Prop :=
  Sound s' ∧ ∃ accepted, accepted ⊆ messages ∧ Drives s s' accepted

/-- An event that takes no message makes a step. -/
theorem steps_of_nothing {s' : TransportStack} {e : LinkEvent (List UInt8)}
    (h : Sound s' ∧ s'.station = s.station.step e) (hdown : e ≠ .lowerLayerDown)
    (takes : s.station.takes e = none) (accepted : s'.accepted = s.accepted)
    (messages : List Message) : Steps s messages s' :=
  ⟨h.1, [], List.nil_subset _, .nothing hdown h.2 takes accepted⟩

/-- An event that takes a message makes a step. -/
theorem steps_of_one {s' : TransportStack} {e : LinkEvent (List UInt8)} {message : Message}
    (h : Sound s' ∧ s'.station = s.station.step e) (hdown : e ≠ .lowerLayerDown)
    (takes : s.station.takes e = some (s.transport.transmitter.configure message).view)
    (accepted : s'.accepted = s.accepted ++ [message]) {messages : List Message}
    (hmem : message ∈ messages) (hne : message.payload ≠ []) : Steps s messages s' :=
  ⟨h.1, [message], by simpa using hmem, .one hdown h.2 hne takes accepted⟩

/-- An event in which the application does not send, and the message makes progress. -/
theorem handle_progress (h : Sound s) {e : LinkEvent (List UInt8)}
    (he : Station.Inner s.station.ctx e) :
    Sound (s.handle e s.transport []) ∧
      (s.handle e s.transport []).station = s.station.step e := by
  rcases ho : s.station.occurs e with _ | _
  · rw [handle_of_not_occurs ho h]
    exact ⟨h, (if_neg (by simp [ho])).symm⟩
  obtain ⟨hprogress, honline⟩ := h.station.handled_progress he ho
  have ht := SameSender.refl s.transport
  set t := s.transport
  have hon : t.isOnline = (s.station.handled e).isOnline := by rw [ht.isOnline, h.online, honline]
  have hoffline : t.isOnline = false → t.isSending = false := by
    rw [ht.isOnline, ht.isSending]
    exact h.offline
  have hsettles {calls : List (LinkOutput (List UInt8))} (hs : Settles s e t [] calls) :=
    hs.sound h.station h.numbers
  cases hprogress with
  | kept silent =>
    exact hsettles (settles_same ho silent.calls quiet_nil h silent.segments honline ht)
  | @advanced addresses current next rest before after calls =>
    have before : s.station.ctx.pSegments = some ⟨addresses, current, next :: rest⟩ := before
    have hcalls : (s.station.handled e).upperCalls = [.Advance current] := calls
    obtain ⟨hsending, hposted⟩ := isSome_of_busy h (by rw [before]; rfl)
    refine hsettles ⟨ho, hcalls, hon, hoffline, ?_, ?_, ?_⟩
    · -- The link layer and the transmitter go to the next segment together.
      intro segments hsegments
      rw [after, Option.some.injEq] at hsegments
      rw [← hsegments]
      have hview := h.view _ before
      rw [← ht.transmitter] at hview
      exact (TransportTx.view_advanced hview.symm).symm
    · rw [ht.isSending, hsending]
      exact nofun
    · exact fun _ => .inl ⟨by rw [after]; rfl, hposted, rfl⟩
  -- The last segment is confirmed, so the notification is posted.
  | @completed addresses current before after calls =>
    have before : s.station.ctx.pSegments = some ⟨addresses, current, []⟩ := before
    have hcalls : (s.station.handled e).upperCalls = [.Advance current, .OnTxReady] := calls
    obtain ⟨-, hposted⟩ := isSome_of_busy h (by rw [before]; rfl)
    refine hsettles ⟨ho, hcalls, hon, hoffline, ?_, fun _ => after, fun _ => .inr ⟨after, ?_⟩⟩
    · rw [after]
      exact nofun
    · rw [hposted]
      rfl
  -- The transmission has failed, which the layer hears in the same way.
  | failed before after calls =>
    have hcalls : (s.station.handled e).upperCalls = [.OnTxReady] := calls
    obtain ⟨-, hposted⟩ := isSome_of_busy h before
    refine hsettles ⟨ho, hcalls, hon, hoffline, ?_, fun _ => after, fun _ => .inr ⟨after, ?_⟩⟩
    · rw [after]
      exact nofun
    · rw [hposted]
      rfl

/-- An event inside of the link layer makes a step. -/
theorem progress_steps (h : Sound s) {e : LinkEvent (List UInt8)}
    (he : Station.Inner s.station.ctx e) (messages : List Message) :
    Steps s messages (s.handle e s.transport []) := by
  refine steps_of_nothing (handle_progress h he) ?_ he.takes (List.append_nil _) messages
  cases he <;> simp

/-- The application sends outside of a call of the link layer. -/
theorem sends_steps (h : Sound s) (messages : List Message)
    (hposted : s.transport.accepts messages = true → s.posted = []) :
    Steps s messages (s.sends messages) := by
  have hsends := s.transport.beginTransmits_sends messages
  unfold sends
  generalize s.transport.beginTransmits messages = result at hsends
  rcases hsends with hno | ⟨haccepts, hmem, hne⟩
  · exact ⟨h, [], List.nil_subset _, .still rfl rfl⟩
  rename_i message
  simp only [TransportLayer.accepts, Bool.and_eq_true, Bool.not_eq_true'] at haccepts hposted
  obtain ⟨⟨hon, hsending⟩, hany⟩ := haccepts
  have hnone : s.station.ctx.pSegments = none := h.idle hsending
  have htakes : s.station.ctx.takes = true := by
    simp [LinkContext.takes, ← h.online, hon, hnone]
  obtain ⟨hsegments, hcalls, honline⟩ := h.station.handled_send htakes
    (s.transport.sending message).transmitter.view
  have hsettles := settles_sending rfl hcalls quiet_nil hon honline message hsegments
    (hposted ⟨⟨hon, hsending⟩, hany⟩)
  refine steps_of_one (hsettles.sound h.station h.numbers) (by simp) ?_ rfl hmem hne
  rw [Station.takes, LinkContext.taken, if_pos htakes]
  rfl

/-! ## One step -/

/-- The transport layer accepts a message in the event. -/
def accepts (s : TransportStack) : StackEvent → Bool
  | .lowerLayerUp _ replies =>
    !s.station.ctx.isOnline && s.transport.onLowerLayerUp.1 &&
      s.transport.onLowerLayerUp.2.accepts replies
  | .frame frame _ replies =>
    match s.station.ctx.handsUp frame with
    | none => false
    | some message =>
      (s.transport.onReceive (appMessage message)).1.isSome && s.transport.accepts replies
  | .beginTransmit message => s.transport.accepts [message]
  | .runPosted replies =>
    match s.posted with
    | [] => false
    | _ :: _ => s.transport.onTxReady.1 && s.transport.onTxReady.2.accepts replies
  | _ => false

/-- The posted calls that have not run when the application sends in the event. -/
def queued (s : TransportStack) : StackEvent → List ℕ
  | .runPosted _ => s.posted.tail
  | _ => s.posted

/-- No message is accepted while the end of an earlier one is still posted. -/
def Prompt (s : TransportStack) (e : StackEvent) : Prop := s.accepts e = true → s.queued e = []

/-- Nothing is accepted while the application sends nothing. -/
theorem not_accepts_of_silent (s : TransportStack) {e : StackEvent} (h : e.messages = []) :
    s.accepts e = false := by
  have hnone (t : TransportLayer) : t.accepts [] = false := by simp [TransportLayer.accepts]
  cases e with
  | lowerLayerUp now replies =>
    have h : replies = [] := h
    simp [accepts, h, hnone]
  | frame frame now replies =>
    have h : replies = [] := h
    rcases hup : s.station.ctx.handsUp frame with _ | message <;> simp [accepts, hup, h, hnone]
  | beginTransmit message => cases h
  | runPosted replies =>
    have h : replies = [] := h
    rcases hposted : s.posted with _ | ⟨n, posted⟩ <;> simp [accepts, hposted, h, hnone]
  | _ => rfl

/-- A posted call that finds the layer sending is the end of the message that was accepted last. The
link layer has no message while the layer is not sending, so that `Send` takes the next one and
`Configure` replaces none, and the message that it has is the one in the transmitter, of which no
end is posted. -/
structure Completes (s : TransportStack) : Prop where
  posted : s.transport.isSending = true → ∀ n ∈ s.posted, n = s.accepted.length
  idle : s.transport.isSending = false → s.station.ctx.pSegments = none
  busy : ∀ segments, s.station.ctx.pSegments = some segments →
    segments = s.transport.transmitter.view ∧ s.posted = []
  online : s.transport.isOnline = s.station.ctx.isOnline

/-- In a sound stack the link layer has the message in the transmitter or none, and no end of it is
posted. -/
theorem Sound.completes (h : Sound s) : Completes s := by
  refine ⟨fun hsending => ?_, h.idle, fun segments hsegments => ?_, h.online⟩
  · rcases h.busy hsending with ⟨-, hposted⟩ | ⟨-, hposted⟩ <;> simp [hposted]
  · exact ⟨h.view segments hsegments, (isSome_of_busy h (by rw [hsegments]; rfl)).2⟩

/-- What the transport layer accepts depends on the sender. -/
theorem accepts_of_sameSender {t t' : TransportLayer} (h : SameSender t t')
    (messages : List Message) : t'.accepts messages = t.accepts messages := by
  rw [TransportLayer.accepts, TransportLayer.accepts, h.isOnline, h.isSending]

/-- A session begins. -/
theorem step_lowerLayerUp (h : Sound s) (now : ℤ) (replies : List Message)
    (hprompt : s.Prompt (.lowerLayerUp now replies)) :
    Steps s replies (s.step (.lowerLayerUp now replies)) := by
  rcases hon : s.station.ctx.isOnline with _ | _
  swap
  · rw [show s.step (.lowerLayerUp now replies) = s from if_pos hon]
    exact ⟨h, [], List.nil_subset _, .still rfl rfl⟩
  have hoff : s.transport.isOnline = false := h.online.trans hon
  have hsending := h.offline hoff
  have hup : s.transport.onLowerLayerUp = (true, { s.transport with isOnline := true }) := by
    simp [onLowerLayerUp, hoff]
  have haccepts : s.accepts (.lowerLayerUp now replies) =
      TransportLayer.accepts { s.transport with isOnline := true } replies := by
    simp [accepts, hon, hup]
  unfold Prompt at hprompt
  rw [haccepts] at hprompt
  have hquiet : Quiet [LinkOutput.OnLowerLayerUp] := ⟨fun _ => rfl, rfl⟩
  have hstep : s.step (.lowerLayerUp now replies) =
      let result := TransportLayer.beginTransmits { s.transport with isOnline := true } replies
      s.handle (.lowerLayerUp now (result.1.map Prod.snd)) result.2 (result.1.map Prod.fst) := by
    simp [step, hon, hup]
  rw [hstep]
  have hsends := beginTransmits_sends { s.transport with isOnline := true } replies
  generalize TransportLayer.beginTransmits { s.transport with isOnline := true } replies = result
    at hsends
  -- The link layer starts its session with what was accepted.
  rcases hsends with hno | ⟨hyes, hmem, hne⟩
  · obtain ⟨hsegments, hcalls, honline⟩ := h.station.handled_up hon now []
    have hon' : ({ s.transport with isOnline := true } : TransportLayer).isOnline =
        (s.station.handled (.lowerLayerUp now [])).isOnline := honline.symm
    refine steps_of_nothing ((settles_idle rfl hcalls hon' hsending hsegments).sound h.station
      h.numbers) (by simp) ?_ (List.append_nil _) _
    simp [Station.takes]
  · rename_i message
    obtain ⟨hsegments, hcalls, honline⟩ := h.station.handled_up hon now
      [(TransportLayer.sending { s.transport with isOnline := true } message).transmitter.view]
    refine steps_of_one ((settles_sending rfl hcalls hquiet rfl honline message hsegments
      (hprompt hyes)).sound h.station h.numbers) (by simp) ?_ rfl hmem hne
    rw [Station.takes, if_neg (by simp [hon])]
    rfl

/-- A session ends, and the message in progress with it. -/
theorem step_lowerLayerDown (h : Sound s) : Sound (s.step .lowerLayerDown) := by
  rcases hon : s.station.ctx.isOnline with _ | _
  · rw [show s.step .lowerLayerDown = s from if_neg (by simp [hon])]
    exact h
  obtain ⟨hsegments, hcalls, honline⟩ := Station.handled_down hon
  have hdown : s.transport.onLowerLayerDown.2.isOnline = false ∧
      s.transport.onLowerLayerDown.2.isSending = false := by
    simp [onLowerLayerDown, h.online, hon]
  rw [show s.step .lowerLayerDown = s.handle .lowerLayerDown s.transport.onLowerLayerDown.2 [] from
    if_pos hon]
  exact ((settles_idle rfl hcalls (hdown.1.trans honline.symm) hdown.2 hsegments).sound h.station
    h.numbers).1

/-- What the application is handed does not concern the transmission. -/
theorem Sound.delivered (h : Sound s) (delivered : List Message) :
    Sound { s with delivered } :=
  ⟨h.station, h.online, h.offline, h.view, h.idle, h.busy, h.numbers⟩

/-- What is delivered does not matter to what is sent. -/
theorem Drives.delivered {s' : TransportStack} {messages : List Message} (h : Drives s s' messages)
    (delivered : List Message) : Drives s { s' with delivered } messages := by
  cases h with
  | still station accepted => exact .still station accepted
  | nothing hdown station takes accepted => exact .nothing hdown station takes accepted
  | one hdown station hne takes accepted => exact .one hdown station hne takes accepted

/-- Nor does it matter to a step. -/
theorem Steps.delivered {s' : TransportStack} {messages : List Message} (h : Steps s messages s')
    (delivered : List Message) : Steps s messages { s' with delivered } := by
  obtain ⟨hsound, accepted, hsubset, hdrives⟩ := h
  exact ⟨hsound.delivered delivered, accepted, hsubset, hdrives.delivered delivered⟩

/-- A frame that the link layer is given makes a step. -/
theorem step_frame (h : Sound s) (frame : LinkLayerFrame (List UInt8)) (now : ℤ)
    (replies : List Message) (hprompt : s.Prompt (.frame frame now replies)) :
    Steps s replies (s.step (.frame frame now replies)) := by
  rcases hup : s.station.ctx.handsUp frame with _ | message
  · have hstep : s.step (.frame frame now replies) =
      s.handle (.frame frame now []) s.transport [] := by
      simp [step, hup]
    rw [hstep]
    exact progress_steps h (.frame hup now) replies
  have ht := onReceive_sameSender s.transport (appMessage message)
  unfold Prompt at hprompt
  simp only [accepts, hup] at hprompt
  have hstep : s.step (.frame frame now replies) =
      let asdu := (s.transport.onReceive (appMessage message)).1
      let t := (s.transport.onReceive (appMessage message)).2
      let result := t.beginTransmits (if asdu.isSome then replies else [])
      { s with delivered := s.delivered ++ asdu.toList }.handle
        (.frame frame now (result.1.map Prod.snd)) result.2 (result.1.map Prod.fst) := by
    simp [step, hup]
  rw [hstep]
  dsimp only
  generalize (s.transport.onReceive (appMessage message)).1 = asdu at hprompt ⊢
  generalize (s.transport.onReceive (appMessage message)).2 = t at ht ⊢
  -- Handing a message up moves no transmission.
  have hquiet : Quiet [LinkOutput.OnReceive message] := ⟨fun _ => rfl, rfl⟩
  have hsends := beginTransmits_sends t (if asdu.isSome then replies else [])
  generalize t.beginTransmits (if asdu.isSome then replies else []) = result at hsends
  rcases hsends with hno | ⟨hyes, hmem, hne⟩
  · obtain ⟨hsegments, hcalls, honline, hon⟩ := h.station.handled_hands hup now []
    have hkept : (s.station.handled (.frame frame now [])).pSegments = s.station.ctx.pSegments := by
      rw [hsegments, LinkContext.taken]
      split_ifs <;> rfl
    refine (steps_of_nothing ((settles_same rfl hcalls hquiet h hkept (honline.trans hon.symm)
      ht).sound h.station h.numbers) (by simp) ?_ (List.append_nil _) _).delivered _
    rw [Station.takes, LinkContext.takenOnFrame, hup]
    show LinkContext.taken _ [] = none
    rw [LinkContext.taken]
    split_ifs <;> rfl
  · rename_i sent
    have hsome : asdu.isSome = true := by
      by_contra hnone
      rw [if_neg hnone] at hmem
      cases hmem
    rw [if_pos hsome] at hyes
    have hyes' : s.transport.accepts replies = true :=
      (accepts_of_sameSender ht replies).symm.trans hyes
    have hposted := hprompt (by simp [hsome, hyes'])
    simp only [TransportLayer.accepts, Bool.and_eq_true, Bool.not_eq_true'] at hyes
    obtain ⟨⟨hon, hsending⟩, -⟩ := hyes
    obtain ⟨hsegments, hcalls, honline, hon'⟩ := h.station.handled_hands hup now
      [(t.sending sent).transmitter.view]
    -- The layer is free, so the link layer has nothing to send either.
    have hnone : s.station.ctx.pSegments = none := h.idle (ht.isSending.symm.trans hsending)
    have htaken : (s.station.handled (.frame frame now
        [(t.sending sent).transmitter.view])).pSegments =
          some (t.sending sent).transmitter.view := by
      rw [hsegments, LinkContext.taken, LinkContext.takes, hon', hnone]
      rfl
    have hmem' : sent ∈ replies := by rwa [if_pos hsome] at hmem
    refine (steps_of_one ((settles_sending rfl hcalls hquiet hon honline sent htaken hposted).sound
      h.station h.numbers) (by simp) ?_ rfl hmem' hne).delivered _
    rw [Station.takes, LinkContext.takenOnFrame, hup, ← ht.transmitter]
    show LinkContext.taken _ [_] = some _
    rw [LinkContext.taken, LinkContext.takes, hon', hnone]
    rfl

/-- The oldest posted call runs. -/
theorem step_runPosted (h : Sound s) (replies : List Message) :
    Steps s replies (s.step (.runPosted replies)) := by
  rcases hposted : s.posted with _ | ⟨n, posted⟩
  · rw [show s.step (.runPosted replies) = s by simp [step, hposted]]
    exact ⟨h, [], List.nil_subset _, .still rfl rfl⟩
  have hstep : s.step (.runPosted replies) =
      { s with posted, transport := s.transport.onTxReady.2 }.sends
        (if s.transport.onTxReady.1 then replies else []) := by
    simp [step, hposted]
  have hnumbers : ∀ m ∈ posted, m ≤ s.accepted.length := fun m hmem =>
    h.numbers m (by rw [hposted]; exact List.mem_cons_of_mem _ hmem)
  rw [hstep]
  rcases hsending : s.transport.isSending with _ | _
  · -- A call that is not expected is ignored.
    have hignored : s.transport.onTxReady = (false, s.transport) := by
      simp [onTxReady, hsending]
    rw [hignored]
    have hsound : Sound { s with posted } := by
      refine ⟨h.station, h.online, h.offline, h.view, h.idle, fun hbusy => ?_, hnumbers⟩
      rw [show s.transport.isSending = true from hbusy] at hsending
      cases hsending
    exact ⟨hsound, [], List.nil_subset _, .still rfl rfl⟩
  · -- The layer was sending, so the call is the only one and the message is done.
    have hon : s.transport.isOnline = true := by
      by_contra hoff
      rw [h.offline (by simpa using hoff)] at hsending
      cases hsending
    have hdone : s.station.ctx.pSegments = none ∧ posted = [] := by
      rcases h.busy hsending with ⟨-, hnone⟩ | ⟨hnone, hone⟩
      · rw [hposted] at hnone
        cases hnone
      · rw [hposted, List.cons.injEq] at hone
        exact ⟨hnone, hone.2⟩
    have htold : s.transport.onTxReady = (true, { s.transport with isSending := false }) := by
      simp [onTxReady, hon, hsending]
    rw [htold]
    have hsound : Sound { s with posted, transport := { s.transport with isSending := false } } :=
      ⟨h.station, h.online, fun _ => rfl, h.view, fun _ => hdone.1, nofun, hnumbers⟩
    obtain ⟨hsound', accepted, hsubset, hdrives⟩ := sends_steps hsound replies fun _ => hdone.2
    refine ⟨hsound', accepted, hsubset, ?_⟩
    cases hdrives with
    | still station accepted => exact .still station accepted
    | nothing hdown station takes accepted => exact .nothing hdown station takes accepted
    | one hdown station hne takes accepted => exact .one hdown station hne takes accepted

/-- Every event in which no message is accepted too early. -/
theorem step_steps (h : Sound s) {e : StackEvent} (hdown : e ≠ .lowerLayerDown)
    (hprompt : s.Prompt e) : Steps s e.messages (s.step e) := by
  cases e with
  | lowerLayerUp now replies => exact step_lowerLayerUp h now replies hprompt
  | lowerLayerDown => exact absurd rfl hdown
  | frame frame now replies => exact step_frame h frame now replies hprompt
  | txReady => exact progress_steps h .txReady _
  | responseTimeout => exact progress_steps h .responseTimeout _
  | keepAliveTimeout now => exact progress_steps h (.keepAliveTimeout now) _
  | beginTransmit message => exact sends_steps h [message] hprompt
  | runPosted replies => exact step_runPosted h replies

/-- A prompt step keeps the stack sound. -/
theorem Sound.step (h : Sound s) (e : StackEvent) (hprompt : s.Prompt e) : Sound (s.step e) := by
  by_cases hdown : e = .lowerLayerDown
  · rw [hdown]
    exact step_lowerLayerDown h
  · exact (step_steps h hdown hprompt).1

/-! ## A message that is accepted too early -/

/-- The stack after it has accepted a message: the layer is sending the last of the accepted ones,
and the calls that were posted before are still there. -/
structure Took (queued : List ℕ) (s s' : TransportStack) : Prop where
  sending : s'.transport.isSending = true
  accepted : s'.accepted.length = s.accepted.length + 1
  posted : queued <+: s'.posted

/-- A message that the transport layer has begun is taken. -/
theorem handle_took (s : TransportStack) (e : LinkEvent (List UInt8)) (t : TransportLayer)
    (message : Message) : Took s.posted s (s.handle e (t.sending message) [message]) := by
  refine ⟨?_, ?_, List.prefix_append ..⟩
  · exact (hear_flags _ _).2
  · exact List.length_append

/-- A message that is accepted is taken. -/
theorem sends_took {messages : List Message} (h : s.transport.accepts messages = true) :
    Took s.posted s (s.sends messages) := by
  have hsends := s.transport.beginTransmits_sends messages
  unfold sends
  generalize s.transport.beginTransmits messages = result at hsends
  rcases hsends with hno | ⟨haccepts, hmem, hne⟩
  · rw [hno] at h
    cases h
  · exact handle_took ..

/-- In an event with a message that is accepted it is taken. -/
theorem step_took {e : StackEvent} (h : s.accepts e = true) : Took (s.queued e) s (s.step e) := by
  cases e with
  | lowerLayerUp now replies =>
    simp only [accepts, Bool.and_eq_true, Bool.not_eq_true'] at h
    obtain ⟨⟨hoff, htold⟩, hyes⟩ := h
    have hsends := s.transport.onLowerLayerUp.2.beginTransmits_sends replies
    have hstep : s.step (.lowerLayerUp now replies) =
        let result := s.transport.onLowerLayerUp.2.beginTransmits replies
        s.handle (.lowerLayerUp now (result.1.map Prod.snd)) result.2 (result.1.map Prod.fst) := by
      simp [step, hoff, htold]
    rw [hstep]
    generalize s.transport.onLowerLayerUp.2.beginTransmits replies = result at hsends
    rcases hsends with hno | ⟨haccepts, hmem, hne⟩
    · rw [hno] at hyes
      cases hyes
    · exact handle_took ..
  | frame frame now replies =>
    rcases hup : s.station.ctx.handsUp frame with _ | message
    · simp [accepts, hup] at h
    simp only [accepts, hup, Bool.and_eq_true] at h
    have ht := onReceive_sameSender s.transport (appMessage message)
    have hstep : s.step (.frame frame now replies) =
        let asdu := (s.transport.onReceive (appMessage message)).1
        let result := (s.transport.onReceive (appMessage message)).2.beginTransmits replies
        { s with delivered := s.delivered ++ asdu.toList }.handle
          (.frame frame now (result.1.map Prod.snd)) result.2 (result.1.map Prod.fst) := by
      simp [step, hup, h.1]
    rw [hstep]
    -- The receiver leaves the sender alone, so it accepts as before.
    have hsends := beginTransmits_sends (s.transport.onReceive (appMessage message)).2 replies
    dsimp only
    generalize TransportLayer.beginTransmits _ replies = result at hsends
    rcases hsends with hno | ⟨haccepts, hmem, hne⟩
    · rw [accepts_of_sameSender ht, h.2] at hno
      cases hno
    · obtain ⟨hsending, haccepted, hposted⟩ := handle_took
        { s with delivered := s.delivered ++
          (s.transport.onReceive (appMessage message)).1.toList } _ _ _
      exact ⟨hsending, haccepted, hposted⟩
  | beginTransmit message => exact sends_took h
  | runPosted replies =>
    rcases hposted : s.posted with _ | ⟨n, posted⟩
    · simp [accepts, hposted] at h
    simp only [accepts, hposted, Bool.and_eq_true] at h
    have hstep : s.step (.runPosted replies) =
        { s with posted, transport := s.transport.onTxReady.2 }.sends replies := by
      simp [step, hposted, h.1]
    rw [hstep, queued, hposted]
    obtain ⟨hsending, haccepted, hkept⟩ := sends_took
      (s := { s with posted, transport := s.transport.onTxReady.2 }) h.2
    exact ⟨hsending, haccepted, hkept⟩
  | _ => simp [accepts] at h

/-- A step leaves no posted call that would be mistaken exactly when it accepts no message too
early. -/
theorem completes_step_iff (h : Sound s) (e : StackEvent) :
    Completes (s.step e) ↔ s.Prompt e := by
  refine ⟨fun hcompletes haccepts => ?_, fun hprompt => (h.step e hprompt).completes⟩
  obtain ⟨hsending, haccepted, hkept⟩ := step_took haccepts
  by_contra hne
  obtain ⟨n, hmem⟩ := List.exists_mem_of_ne_nil _ hne
  have hnew := hcompletes.posted hsending n (hkept.subset hmem)
  -- The call that is still there is the end of an earlier message.
  have hold : n ≤ s.accepted.length := by
    cases e with
    | runPosted replies => exact h.numbers n (List.mem_of_mem_tail hmem)
    | _ => exact h.numbers n hmem
  omega

/-- A new stack is sound. -/
theorem init_sound (maxRxFragSize : ℕ) (config : LinkLayerConfig) :
    Sound (init maxRxFragSize config) :=
  ⟨.of_init config, rfl, fun _ => rfl, nofun, fun _ => rfl, nofun, nofun⟩

/-- In a run of a stack, every state that is reached completes its messages as it should, exactly
when no message is accepted while the end of an earlier one is still posted. -/
theorem completes_iff_prompt (maxRxFragSize : ℕ) (config : LinkLayerConfig)
    (events : List StackEvent) :
    Machine.StepsMeet step (fun s e => Completes (s.step e)) (init maxRxFragSize config) events ↔
      Machine.StepsMeet step Prompt (init maxRxFragSize config) events := by
  have hiff : ∀ (s : TransportStack) e, s.Sound → (Completes (s.step e) ↔ s.Prompt e) :=
    fun _ e h => completes_step_iff h e
  exact Machine.StepsMeet.iff_of_invariant step hiff (fun _ e h => h.step e)
    (init_sound maxRxFragSize config) events

/-- The end of a message is posted, and runs when the next session has begun to send. -/
def late : List StackEvent :=
  let message (data : UInt8) : Message := ⟨⟨10, 1⟩, [data]⟩
  [.lowerLayerUp 0 [], .beginTransmit (message 1), .txReady, .lowerLayerDown, .lowerLayerUp 1 [],
    .beginTransmit (message 2), .runPosted []]

/-- The transport layer takes the next message while the link layer still has the one before it. -/
theorem not_completes_late :
    ¬Completes (Machine.run step (init 2048 ⟨true, false, 0, 10, 1, 60000, false⟩) late) := by
  intro h
  have hidle := h.idle (by decide +kernel)
  revert hidle
  decide +kernel

end TransportStack

end OpenDnp3.Transport
