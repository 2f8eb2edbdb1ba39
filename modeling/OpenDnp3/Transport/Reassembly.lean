import OpenDnp3.Link.Stream
import OpenDnp3.Transport.LayerSpec

/-!
# Messages through the segments of the link layer

What a receiver hands up for a list of segments, and what it hands up for the segments that a
transmitter has cut a list of messages into: these messages.
-/

namespace OpenDnp3.Transport

open App (Message)
open Link (Fits)

/-! ## What is handed up -/

namespace TransportRx

/-- What the transport layer hands up for a list of segments. -/
def deliver (rx : TransportRx) (segments : List Message) : List Message :=
  (rx.receiveAll segments).1.filter fun message => !message.payload.isEmpty

/-- Segments one after the other are received one after the other. -/
theorem receiveAll_append (rx : TransportRx) (segments segments' : List Message) :
    rx.receiveAll (segments ++ segments') =
      ((rx.receiveAll segments).1 ++ ((rx.receiveAll segments).2.receiveAll segments').1,
        ((rx.receiveAll segments).2.receiveAll segments').2) := by
  induction segments generalizing rx with
  | nil => rfl
  | cons segment segments ih => simp [receiveAll, ih]

/-- What two series of segments deliver. -/
theorem deliver_append (rx : TransportRx) (segments segments' : List Message) :
    rx.deliver (segments ++ segments') =
      rx.deliver segments ++ (rx.receiveAll segments).2.deliver segments' := by
  rw [deliver, receiveAll_append, List.filter_append]
  rfl

/-- The size of the buffer stays. -/
theorem maxRxFragSize_receiveAll (rx : TransportRx) (segments : List Message) :
    (rx.receiveAll segments).2.maxRxFragSize = rx.maxRxFragSize := by
  induction segments generalizing rx with
  | nil => rfl
  | cons segment segments ih =>
    calc (rx.receiveAll (segment :: segments)).2.maxRxFragSize
        = ((rx.processReceive segment).2.receiveAll segments).2.maxRxFragSize := rfl
      _ = (rx.processReceive segment).2.maxRxFragSize := ih _
      _ = rx.maxRxFragSize := (rx.processReceive_receives segment).max_eq

/-- The segments of a message that fits are handed up as that message, whatever the receiver has
read before. -/
theorem deliver_segments_configure (tx : TransportTx) (rx : TransportRx) {message : Message}
    (hne : message.payload ≠ []) (hfits : message.payload.length ≤ rx.maxRxFragSize) :
    rx.deliver (tx.configure message).segments = [message] := by
  have hempty : noMessage.payload.isEmpty = true := rfl
  have hfull : message.payload.isEmpty = false := by simpa using hne
  rw [deliver, receiveAll_configure tx rx message hne hfits, List.filter_append]
  simp [hempty, hfull]

end TransportRx

/-! ## The segments of a message -/

namespace TransportTx

/-- Every segment has the addresses of the message and fits in a frame. -/
theorem segments_fit (tx : TransportTx) (hfresh : tx.txSegment = none) :
    ∀ segment ∈ tx.segments,
      segment.addresses = tx.message.addresses ∧ Fits segment.payload := by
  have hmax : MAX_TPDU_PAYLOAD + 1 = Link.LPDU_MAX_USER_DATA_SIZE := rfl
  by_cases h : tx.message.payload.length ≤ MAX_TPDU_PAYLOAD
  · rw [segments_last hfresh h]
    intro segment hmem
    rw [List.mem_singleton] at hmem
    subst hmem
    refine ⟨rfl, Nat.succ_pos _, ?_⟩
    rw [List.length_cons]
    omega
  have hlt := not_le.mp h
  -- The message that is left has the same addresses, and is shorter.
  have hmessage : tx.getSegment.2.advance.2.message =
      ⟨tx.message.addresses, tx.message.payload.drop MAX_TPDU_PAYLOAD⟩ := by
    rw [advance_getSegment]
    simp [advance, numToSend_eq, min_eq_right hlt.le]
  have hrest := segments_fit tx.getSegment.2.advance.2 rfl
  rw [hmessage] at hrest
  rw [segments_more hfresh hlt]
  intro segment hmem
  rcases List.mem_cons.mp hmem with rfl | hmem
  · refine ⟨rfl, Nat.succ_pos _, ?_⟩
    rw [List.length_cons, List.length_take]
    omega
  · exact hrest segment hmem
termination_by tx.message.payload.length
decreasing_by
  rw [hmessage, List.length_drop]
  have : 0 < MAX_TPDU_PAYLOAD := by decide
  omega

/-- The messages of a view are the segments, with the addresses of the link. -/
theorem messages_view (tx : TransportTx) :
    tx.view.messages =
      tx.segments.map fun segment =>
        ⟨linkAddresses tx.message.addresses, some segment.payload⟩ := by
  rw [segments_eq_cons]
  simp [view, Link.TransportSegment.messages, Function.comp_def]

end TransportTx

/-! ## What a transmitter has cut -/

/-- Messages that the link layer can carry to a receiver with a buffer of the given size: the
addresses are those of the link layer, and the payload fits. -/
structure Carried (addresses : Link.Addresses) (maxRxFragSize : ℕ) (message : Message) : Prop where
  source : message.addresses.source = addresses.source.toNat
  destination : message.addresses.destination = addresses.destination.toNat
  payload : message.payload.length ≤ maxRxFragSize

/-- A message that was carried has the addresses of the link. -/
theorem Carried.linkAddresses {addresses : Link.Addresses} {maxRxFragSize : ℕ} {message : Message}
    (h : Carried addresses maxRxFragSize message) :
    Transport.linkAddresses message.addresses = addresses := by
  rw [Transport.linkAddresses, h.source, h.destination, UInt16.ofNat_toNat, UInt16.ofNat_toNat]

/-- The user data is what a transmitter has cut the messages into, one after the other, whatever it
had sent before each. -/
inductive Cut : List Message → List (Link.Message (List UInt8)) → Prop
  | nil : Cut [] []
  | snoc {messages : List Message} {data : List (Link.Message (List UInt8))} (h : Cut messages data)
      (tx : TransportTx) (message : Message) (hne : message.payload ≠ []) :
      Cut (messages ++ [message]) (data ++ (tx.configure message).view.messages)

namespace Cut

variable {messages : List Message} {data : List (Link.Message (List UInt8))}
  {addresses : Link.Addresses} {maxRxFragSize : ℕ}

/-- Without messages there are no segments. -/
theorem eq_nil (h : Cut messages data) (hnil : messages = []) : data = [] := by
  cases h with
  | nil => rfl
  | snoc => simp at hnil

/-- All user data has the addresses, and fits in frames. -/
theorem fits (h : Cut messages data)
    (hcarried : ∀ message ∈ messages, Carried addresses maxRxFragSize message) :
    ∀ segment ∈ data, segment.addresses = addresses ∧
      ∃ payload, segment.payload = some payload ∧ Fits payload := by
  induction h with
  | nil => exact fun _ hmem => absurd hmem List.not_mem_nil
  | snoc h tx message hne ih =>
    intro segment hmem
    rcases List.mem_append.mp hmem with hmem | hmem
    · exact ih (fun message hmessage => hcarried message (List.mem_append_left _ hmessage)) segment
        hmem
    · have hlast := hcarried message (by simp)
      rw [TransportTx.messages_view] at hmem
      obtain ⟨part, hpart, rfl⟩ := List.mem_map.mp hmem
      have hfit := (tx.configure message).segments_fit rfl part hpart
      exact ⟨hlast.linkAddresses, part.payload, rfl, hfit.2⟩

/-- A receiver hands up the messages, whatever it has read before. -/
theorem deliver (h : Cut messages data) (rx : TransportRx)
    (hcarried : ∀ message ∈ messages, Carried addresses rx.maxRxFragSize message) :
    rx.deliver (data.map appMessage) = messages := by
  induction h with
  | nil => rfl
  | @snoc messages data h tx message hne ih =>
    have hfirst := ih fun message hmessage => hcarried message (List.mem_append_left _ hmessage)
    have hlast := hcarried message (by simp)
    -- The segments come back with the addresses that they were given.
    have hsegments : (tx.configure message).view.messages.map appMessage =
        (tx.configure message).segments := by
      have hself : ∀ segment ∈ (tx.configure message).segments,
          appMessage ⟨Transport.linkAddresses message.addresses, some segment.payload⟩ =
            segment := by
        intro segment hmem
        obtain ⟨haddresses, -⟩ := (tx.configure message).segments_fit rfl segment hmem
        have haddresses : segment.addresses = message.addresses := haddresses
        rw [hlast.linkAddresses]
        have hback : (⟨addresses.source.toNat, addresses.destination.toNat⟩ : App.Addresses) =
            segment.addresses := by
          rw [haddresses, ← hlast.source, ← hlast.destination]
        exact congrArg₂ Message.mk hback rfl
      rw [TransportTx.messages_view, List.map_map]
      exact (List.map_congr_left hself).trans (List.map_id _)
    have hfits : message.payload.length ≤
        (rx.receiveAll (data.map appMessage)).2.maxRxFragSize := by
      rw [TransportRx.maxRxFragSize_receiveAll]
      exact hlast.payload
    rw [List.map_append, hsegments, TransportRx.deliver_append, hfirst,
      TransportRx.deliver_segments_configure tx _ hne hfits]

end Cut

end OpenDnp3.Transport
