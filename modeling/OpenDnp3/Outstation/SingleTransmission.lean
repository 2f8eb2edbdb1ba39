import OpenDnp3.Outstation.Transmission

/-!
# One transmission at a time

Message processing, the deferred request and the unsolicited response run one after another in the
same step, and each of them may transmit. Each asks first whether the lower layer is free, and a
transmit buffer is only ever written for the transmission that begins with it.
-/

namespace OpenDnp3.Outstation

open App

variable {α : Type*}

/-- The response of a call of `lower->BeginTransmit`. -/
def Output.transmitted : Output α → Option (APDUResponse α)
  | .transmit _ response => some response
  | _ => none

namespace OContext

/-- The responses of the calls of `lower->BeginTransmit`. -/
def transmissions (log : List (Output α)) : List (APDUResponse α) :=
  log.filterMap Output.transmitted

/-- The transmissions of two parts of the log, one after the other. -/
@[simp]
theorem transmissions_append (log log' : List (Output α)) :
    transmissions (log ++ log') = transmissions log ++ transmissions log' :=
  List.filterMap_append

/-- A transmission is one. -/
@[simp]
theorem transmissions_transmit (destination : ℕ) (response : APDUResponse α) :
    transmissions [.transmit destination response] = [response] := rfl

/-- Output that sends no fragment has no transmission. -/
theorem transmissions_of_sent {new : List (Output α)}
    (h : ∀ function, ∀ o ∈ new, o.sent function = none) : transmissions new = [] := by
  rw [transmissions, List.filterMap_eq_nil_iff]
  intro o ho
  cases o with
  | transmit destination response => exact absurd ho (not_transmit_of_sent h _ _)
  | _ => rfl

/-- Quiet output has no transmission. -/
theorem transmissions_of_isQuiet {new : List (Output α)} (h : ∀ o ∈ new, o.isQuiet) :
    transmissions new = [] :=
  transmissions_of_sent fun function o ho => Output.sent_of_isQuiet (h o ho) function

/-! ## What becomes of the transmit buffers -/

/-- From the first state to the second one, nothing is transmitted and neither transmit buffer is
written. -/
structure Withholds (s s' : OContext α) (new : List (Output α)) : Prop where
  none : transmissions new = []
  solTx : s'.solTx = s.solTx
  unsolTx : s'.unsolTx = s.unsolTx

/-- From the first state to the second one, one fragment is transmitted. Its buffer holds it, the
other buffer is not written, and the transmission is still in progress. -/
structure Begins (s s' : OContext α) (new : List (Output α)) : Prop where
  busy : s'.isTransmitting = true
  buffer : transmissions new = [s'.solTx] ∧ s'.unsolTx = s.unsolTx ∨
    transmissions new = [s'.unsolTx] ∧ s'.solTx = s.solTx

/-- Nothing is transmitted. -/
theorem Withholds.refl (s : OContext α) : Withholds s s [] := ⟨rfl, rfl, rfl⟩

/-- Nothing is transmitted in two parts. -/
theorem Withholds.trans {s s' s'' : OContext α} {new new' : List (Output α)}
    (h : Withholds s s' new) (h' : Withholds s' s'' new') : Withholds s s'' (new ++ new') :=
  ⟨by rw [transmissions_append, h.none, h'.none, List.append_nil], h'.solTx.trans h.solTx,
    h'.unsolTx.trans h.unsolTx⟩

/-- A transmission begins after a part without one. -/
theorem Withholds.begins {s s' s'' : OContext α} {new new' : List (Output α)}
    (h : Withholds s s' new) (h' : Begins s' s'' new') : Begins s s'' (new ++ new') := by
  refine ⟨h'.busy, ?_⟩
  rw [transmissions_append, h.none, List.nil_append]
  obtain ⟨hnew, hunsolTx⟩ | ⟨hnew, hsolTx⟩ := h'.buffer
  · exact .inl ⟨hnew, hunsolTx.trans h.unsolTx⟩
  · exact .inr ⟨hnew, hsolTx.trans h.solTx⟩

/-- What happens before a request is handled transmits nothing. Only `OnTxReady` and the loss of the
session end a transmission. -/
theorem Happens.withholds [MeasurementSpec α] {env : Env α} {event : Event α} {s s' : OContext α}
    (h : Happens env s event s') :
    ∃ new, s'.log = s.log ++ new ∧ Withholds s s' new ∧
      (event ≠ .txReady ∧ event ≠ .lowerLayerDown → s'.isTransmitting = s.isTransmitting) := by
  have hsame : s.log = s.log ++ [] := (List.append_nil _).symm
  cases h with
  | same => exact ⟨[], hsame, .refl s, fun _ => rfl⟩
  | online _ => exact ⟨[], hsame, ⟨rfl, rfl, rfl⟩, fun _ => rfl⟩
  | down =>
    unfold onLowerLayerDown
    split_ifs <;> exact ⟨[], hsame, ⟨rfl, rfl, rfl⟩, fun hne => absurd rfl hne.2⟩
  | transmitted _ _ => exact ⟨[], hsame, ⟨rfl, rfl, rfl⟩, fun hne => absurd rfl hne.1⟩
  | unacknowledged hnew =>
    exact ⟨_, rfl, ⟨transmissions_of_isQuiet hnew, rfl, rfl⟩, fun _ => rfl⟩
  | deferred _ _ _ => exact ⟨[], hsame, ⟨rfl, rfl, rfl⟩, fun _ => rfl⟩
  | timedOut _ =>
    unfold onConfirmTimeout
    split <;> exact ⟨[], hsame, ⟨rfl, rfl, rfl⟩, fun _ => rfl⟩
  | updated => exact ⟨[], hsame, ⟨rfl, rfl, rfl⟩, fun _ => rfl⟩
  | restarted => exact ⟨[], hsame, ⟨rfl, rfl, rfl⟩, fun _ => rfl⟩

/-- A request is answered with one fragment, which the solicited buffer holds, or with none. -/
theorem Handles.begins {config : EventBufferConfig} {env : Env α} {request : ParsedRequest}
    {s s' : OContext α} (h : Handles config env request s s') :
    ∃ new, s'.log = s.log ++ new ∧ (Withholds s s' new ∨ Begins s s' new) := by
  have hsame : s.log = s.log ++ [] := (List.append_nil _).symm
  cases h with
  | ignored => exact ⟨[], hsame, .inl (.refl s)⟩
  | confirmed _ _ _ => exact ⟨[], hsame, .inl ⟨rfl, rfl, rfl⟩⟩
  | confirmedNull _ _ _ => exact ⟨[], hsame, .inl ⟨rfl, rfl, rfl⟩⟩
  | confirmedEvents _ _ _ => exact ⟨[], hsame, .inl ⟨rfl, rfl, rfl⟩⟩
  | deferred _ _ _ => exact ⟨[], hsame, .inl ⟨rfl, rfl, rfl⟩⟩
  | continued _ _ _ hsends _ =>
    obtain ⟨_, _, _, rfl⟩ := hsends.exists_eq
    exact ⟨[_], rfl, .inr ⟨rfl, .inl ⟨rfl, rfl⟩⟩⟩
  | read _ _ _ _ hsends _ =>
    obtain ⟨_, _, _, rfl⟩ := hsends.exists_eq
    exact ⟨[_], rfl, .inr ⟨rfl, .inl ⟨rfl, rfl⟩⟩⟩
  | nonRead _ _ _ _ hresponds =>
    obtain ⟨_, _, response, ⟨_, _, _, _, _, new, rfl, heffect⟩, rfl, _⟩ := hresponds.exists_eq
    refine ⟨new ++ [.transmit request.addresses.source response], List.append_assoc _ _ _,
      .inr ⟨rfl, .inl ⟨?_, rfl⟩⟩⟩
    -- The handler itself transmits nothing.
    rw [transmissions_append, transmissions_of_sent heffect.sent, List.nil_append,
      transmissions_transmit]
  | repeated _ _ _ _ _ => exact ⟨[_], rfl, .inr ⟨rfl, .inl ⟨rfl, rfl⟩⟩⟩

/-- An unsolicited response begins at most one transmission. -/
theorem Unsolicits.begins {config : EventBufferConfig} {s s' : OContext α}
    (h : Unsolicits config s s') : ∃ new, s'.log = s.log ++ new ∧ Begins s s' new := by
  obtain ⟨b, response, rfl, -⟩ := h.exists_eq
  exact ⟨[.transmit s.addresses.destination response], rfl, rfl, .inr ⟨rfl, rfl⟩⟩

/-- How far a step has come after these calls. Other events than `OnTxReady` and the loss of the
session leave a transmission in progress as it is. -/
def Proceeds (event : Event α) (s s' : OContext α) (new : List (Output α)) : Prop :=
  Withholds s s' new ∧ (event ≠ .txReady ∧ event ≠ .lowerLayerDown →
      s.isTransmitting = true → s'.isTransmitting = true) ∨
    Begins s s' new ∧ (event ≠ .txReady ∧ event ≠ .lowerLayerDown → s.isTransmitting = false)

/-- Where the lower layer is free, the step has transmitted nothing yet. -/
theorem Proceeds.of_canTransmit {event : Event α} {s s' : OContext α} {new : List (Output α)}
    (h : Proceeds event s s' new) (hfree : s'.canTransmit = true) :
    Withholds s s' new ∧
      (event ≠ .txReady ∧ event ≠ .lowerLayerDown → s.isTransmitting = false) := by
  have hidle := isTransmitting_of_canTransmit hfree
  obtain ⟨hwithholds, hbusy⟩ | ⟨hbegins, -⟩ := h
  · refine ⟨hwithholds, fun hevent => ?_⟩
    by_contra hne
    rw [hbusy hevent (by simpa using hne)] at hidle
    cases hidle
  · rw [hbegins.busy] at hidle
    cases hidle

/-! ## Steps -/

section Steps

variable [MeasurementSpec α]

/-- The step begins no transmission while one is in progress, and at most one in all. A transmit
buffer is written for a transmission that begins with it, and then left alone until `OnTxReady` or
the loss of the session. -/
structure TransmitsOnce (s : OContext α) (input : Env α × Event α) : Prop where
  /-- The calls of a step are appended to the log. -/
  log : s.log <+: (s.step input).log
  /-- A transmission in progress goes on, but for `OnTxReady` and the loss of the session. -/
  progress : s.isTransmitting = true → input.2 ≠ .txReady → input.2 ≠ .lowerLayerDown →
    Withholds s (s.step input) ((s.step input).log.drop s.log.length) ∧
      (s.step input).isTransmitting = true
  /-- Neither the loss of the session nor an `OnTxReady` out of turn begins a transmission. -/
  idle : input.2 = .lowerLayerDown ∨ input.2 = .txReady ∧ s.isTransmitting = false →
    Withholds s (s.step input) ((s.step input).log.drop s.log.length)
  /-- At most one fragment is transmitted. -/
  once : Withholds s (s.step input) ((s.step input).log.drop s.log.length) ∨
    Begins s (s.step input) ((s.step input).log.drop s.log.length)

/-- A step begins at most one transmission, and only while there is none. -/
theorem step_transmitsOnce {config : EventBufferConfig} {s : OContext α} (h : s.Inv config)
    (input : Env α × Event α) : TransmitsOnce s input := by
  obtain ⟨env, event⟩ := input
  -- A fragment goes out from a state where the lower layer is free, and makes it busy.
  have hstep : (s.step (env, event)).Inv config ∧
      ∃ new, (s.step (env, event)).log = s.log ++ new ∧
        Proceeds event s (s.step (env, event)) new := by
    refine step_induction (P := fun s' => s'.Inv config ∧
      ∃ new, s'.log = s.log ++ new ∧ Proceeds event s s' new) (fun _ hP => hP.1.storage)
      ⟨h, [], (List.append_nil _).symm, .inl ⟨.refl s, fun _ htransmitting => htransmitting⟩⟩
      ?_ ?_ ?_ ?_
    · intro s' hhappens
      obtain ⟨new, hlog, hwithholds, hbusy⟩ := hhappens.withholds
      exact ⟨hhappens.inv h, new, hlog, .inl ⟨hwithholds, fun hevent htransmitting =>
        (hbusy hevent).trans htransmitting⟩⟩
    · rintro s₁ request s₂ hprocesses ⟨hinv, new, hlog, hnew⟩ hhandles
      obtain ⟨hwithholds, hidle⟩ := hnew.of_canTransmit hprocesses.free
      obtain ⟨new', hlog', hnew'⟩ := hhandles.begins
      refine ⟨hhandles.inv hinv, new ++ new', by rw [hlog', hlog, List.append_assoc], ?_⟩
      obtain hwithholds' | hbegins := hnew'
      · exact .inl ⟨hwithholds.trans hwithholds', fun hevent htransmitting =>
          absurd ((hidle hevent).symm.trans htransmitting) (by decide)⟩
      · exact .inr ⟨hwithholds.begins hbegins, hidle⟩
    · rintro s₁ ⟨hinv, new, hlog, hnew⟩
      exact ⟨⟨hinv.storage, hinv.timer, hinv.response, hinv.solicited, hinv.unsolicited⟩, new, hlog,
        hnew.imp (fun hwithholds => ⟨⟨hwithholds.1.none, hwithholds.1.solTx, hwithholds.1.unsolTx⟩,
          hwithholds.2⟩) fun hbegins => ⟨⟨hbegins.1.busy, hbegins.1.buffer⟩, hbegins.2⟩⟩
    · rintro s₁ s₂ ⟨hinv, new, hlog, hnew⟩ hunsolicits
      obtain ⟨hwithholds, hidle⟩ := hnew.of_canTransmit hunsolicits.free
      obtain ⟨new', hlog', hbegins⟩ := hunsolicits.begins
      exact ⟨hunsolicits.inv hinv, new ++ new', by rw [hlog', hlog, List.append_assoc],
        .inr ⟨hwithholds.begins hbegins, hidle⟩⟩
  obtain ⟨-, new, hlog, hnew⟩ := hstep
  have hdrop : (s.step (env, event)).log.drop s.log.length = new := by rw [hlog, List.drop_left]
  refine ⟨⟨new, hlog.symm⟩, fun hbusy hready hdown => ?_, fun hidle => ?_,
    hdrop ▸ hnew.imp And.left And.left⟩
  · rw [hdrop]
    obtain ⟨hwithholds, hprogress⟩ | ⟨-, hidle⟩ := hnew
    · exact ⟨hwithholds, hprogress ⟨hready, hdown⟩ hbusy⟩
    · rw [hidle ⟨hready, hdown⟩] at hbusy
      cases hbusy
  · obtain rfl | ⟨rfl, hidle⟩ := hidle
    · have hhappens : Happens env s .lowerLayerDown s.onLowerLayerDown := .down
      obtain ⟨new', hlog', hwithholds, -⟩ := hhappens.withholds
      rw [show s.step (env, .lowerLayerDown) = s.onLowerLayerDown from rfl, hlog', List.drop_left]
      exact hwithholds
    · have hstep : s.step (env, .txReady) = s := by
        show s.onTxReady env = s
        rw [onTxReady, if_neg (by simp [hidle])]
      rw [hstep, List.drop_length]
      exact .refl s

/-- Every step of every run begins no transmission while one is in progress, at most one in all, and
leaves the buffer of a transmission alone until it is complete. -/
theorem run_transmitsOnce (addresses : Addresses) (config : EventBufferConfig)
    (params : OutstationParams) (database : DatabaseBuffers α) (inputs : List (Env α × Event α)) :
    Machine.StepsMeet step TransmitsOnce (init addresses config params database) inputs :=
  Machine.StepsMeet.of_step step
    (fun s input h => ⟨step_inv s input h, step_transmitsOnce h input⟩)
    (init_inv addresses config params database) inputs

end Steps

end OContext

end OpenDnp3.Outstation
