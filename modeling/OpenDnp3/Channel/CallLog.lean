import OpenDnp3.Channel.IOHandlerSpec

/-!
# The log of a channel

The log says what has been told to whom and how far the writing has come since the channel was
opened. An output is allowed after a log (`Allowed`): a session is told in turns that the channel is
up and down, and what is transmitted is written in order, one at a time. The log agrees with the
state between any two statements of the channel (`Sound`), and a session that transmits keeps this.
-/

namespace OpenDnp3.Channel

open Link

section Logs

variable {δ : Type*}

namespace Output

/-- The output tells the session that the channel is up (`true`) or down (`false`). -/
def upDown (session : SessionId) : Output δ → Option Bool
  | .call session' .OnLowerLayerUp => if session' = session then some true else none
  | .call session' .OnLowerLayerDown => if session' = session then some false else none
  | _ => none

/-- The transmission that a session begins. -/
def begun : Output δ → Option (Transmission δ)
  | .BeginTransmit session data => some ⟨data, session⟩
  | _ => none

/-- The data that is given to the channel. -/
def written : Output δ → Option δ
  | .BeginWrite data => some data
  | _ => none

/-- The session that is told the end of a transmission. -/
def completed : Output δ → Option SessionId
  | .call session .OnTxReady => some session
  | _ => none

end Output

/-- The last that the session has been told is that the channel is up. -/
def isUp (log : List (Output δ)) (session : SessionId) : Bool :=
  (log.filterMap (Output.upDown session)).getLast?.getD false

/-- The log since the current channel was opened. -/
def sinceOpen (log : List (Output δ)) : List (Output δ) :=
  log.foldl (fun log output =>
    match output with
    | .SetCallbacks => []
    | output => log ++ [output]) []

/-- How far the writing has come since the channel was opened: some transmissions are done, the
others are in the queue, and the first of these is being written or not. -/
structure Progress (log : List (Output δ)) (queue : List (Transmission δ)) (writing : Bool) :
    Prop where
  nonempty : writing = true → queue ≠ []
  done : ∃ done, (sinceOpen log).filterMap Output.begun = done ++ queue ∧
    (sinceOpen log).filterMap Output.completed = done.map Transmission.session ∧
    (sinceOpen log).filterMap Output.written =
      (done ++ if writing then queue.take 1 else []).map Transmission.txdata

/-- An output is allowed after a log. A session is told in turns that the channel is up and down, up
first. The data of the first transmission that is not done is written while no other is, and the
session is told the end of a transmission when its data is being written. -/
def Allowed (log : List (Output δ)) : Output δ → Prop
  | .call session .OnLowerLayerUp => isUp log session = false
  | .call session .OnLowerLayerDown => isUp log session = true
  | .call session .OnTxReady => ∃ transmission queue,
      Progress log (transmission :: queue) true ∧ transmission.session = session
  | .BeginWrite data => ∃ transmission queue,
      Progress log (transmission :: queue) false ∧ transmission.txdata = data
  | _ => True

/-- One more output decides for its session whether the channel is up, and for no other one. -/
theorem isUp_concat (log : List (Output δ)) (output : Output δ) (session : SessionId) :
    isUp (log ++ [output]) session = (output.upDown session).getD (isUp log session) := by
  unfold isUp
  cases h : output.upDown session with
  | none => simp [h]
  | some up => simp [h]

/-- One more output belongs to the current channel, unless it opens one. -/
theorem sinceOpen_concat (log : List (Output δ)) (output : Output δ) :
    sinceOpen (log ++ [output]) =
      match output with
      | .SetCallbacks => []
      | output => sinceOpen log ++ [output] := by
  unfold sinceOpen
  rw [List.foldl_append]
  rfl

namespace Progress

variable {log : List (Output δ)} {queue : List (Transmission δ)} {writing : Bool}

/-- A channel that has just been opened. -/
theorem opened (log : List (Output δ)) : Progress (log ++ [.SetCallbacks]) [] false := by
  refine ⟨by simp, [], ?_⟩
  rw [sinceOpen_concat]
  simp

/-- Outputs that have nothing to do with the writing. -/
theorem quiet (h : Progress log queue writing) {output : Output δ} (hopen : output ≠ .SetCallbacks)
    (hbegun : output.begun = none) (hcompleted : output.completed = none)
    (hwritten : output.written = none) : Progress (log ++ [output]) queue writing := by
  refine ⟨h.nonempty, ?_⟩
  have hsince : sinceOpen (log ++ [output]) = sinceOpen log ++ [output] := by
    rw [sinceOpen_concat]
    cases output with
    | SetCallbacks => exact absurd rfl hopen
    | _ => rfl
  rw [hsince]
  simpa [hbegun, hcompleted, hwritten] using h.done

/-- A session begins a transmission. -/
theorem begin (h : Progress log queue writing) (session : SessionId) (data : δ) :
    Progress (log ++ [.BeginTransmit session data]) (queue ++ [⟨data, session⟩]) writing := by
  obtain ⟨hnonempty, done, hbegun, hcompleted, hwritten⟩ := h
  refine ⟨fun _ => by simp, done, ?_, ?_, ?_⟩
  · rw [sinceOpen_concat]
    simp [hbegun, Output.begun]
  · rw [sinceOpen_concat]
    simp [hcompleted, Output.completed]
  · rw [sinceOpen_concat]
    have htake : (if writing then (queue ++ [Transmission.mk data session]).take 1 else []) =
        if writing then queue.take 1 else [] := by
      cases writing with
      | false => rfl
      | true =>
        cases queue with
        | nil => exact absurd rfl (hnonempty rfl)
        | cons => rfl
    rw [htake]
    simp [hwritten, Output.written]

/-- The first transmission of the queue is written. -/
theorem write {transmission : Transmission δ} (h : Progress log (transmission :: queue) false) :
    Progress (log ++ [.BeginWrite transmission.txdata]) (transmission :: queue) true := by
  obtain ⟨-, done, hbegun, hcompleted, hwritten⟩ := h
  refine ⟨fun _ => by simp, done, ?_, ?_, ?_⟩
  · rw [sinceOpen_concat]
    simp [hbegun, Output.begun]
  · rw [sinceOpen_concat]
    simp [hcompleted, Output.completed]
  · rw [sinceOpen_concat]
    simp [hwritten, Output.written]

/-- The write of the first transmission ends. -/
theorem complete {transmission : Transmission δ} (h : Progress log (transmission :: queue) true) :
    Progress (log ++ [.call transmission.session .OnTxReady]) queue false := by
  obtain ⟨-, done, hbegun, hcompleted, hwritten⟩ := h
  refine ⟨by simp, done ++ [transmission], ?_, ?_, ?_⟩
  · rw [sinceOpen_concat]
    simp [hbegun, Output.begun]
  · rw [sinceOpen_concat]
    simp [hcompleted, Output.completed]
  · rw [sinceOpen_concat]
    simp [hwritten, Output.written]

end Progress

end Logs

namespace IOHandler

variable {α σ κ ω δ ε ω' : Type*}

/-! ## What holds between any two statements -/

/-- A record of the session says that it is online. -/
def isOnline (h : IOHandler α σ δ) (session : SessionId) : Bool :=
  h.sessions.any fun record => record.session = session && record.online

/-- Every output was allowed, and the records agree with what the sessions have been told. -/
structure Told (h : IOHandler α σ δ) : Prop where
  allowed : History.Each Allowed h.log
  up : ∀ session, isUp h.log session = h.isOnline session
  distinct : h.sessions.Pairwise fun a b => a.session ≠ b.session

/-- The queue agrees with the log while there is a channel. -/
def Ordered (h : IOHandler α σ δ) : Prop :=
  ∀ channel, h.channel = some channel → channel.callbacks = true ∧
    channel.is_shutting_down = false ∧ Progress h.log h.txQueue channel.writing

/-- The channel writes while there is something to write. -/
def Busy (h : IOHandler α σ δ) : Prop :=
  ∀ channel, h.channel = some channel → h.txQueue ≠ [] → channel.writing = true

/-- The log agrees with the state. -/
structure Sound (h : IOHandler α σ δ) : Prop where
  told : h.Told
  ordered : h.Ordered

/-- The records and the log are what the sessions have been told. -/
theorem Told.congr {h h' : IOHandler α σ δ} (ht : h.Told) (hlog : h'.log = h.log)
    (hsessions : h'.sessions = h.sessions) : h'.Told where
  allowed := hlog ▸ ht.allowed
  up session := by
    unfold isOnline
    rw [hlog, hsessions]
    exact ht.up session
  distinct := hsessions ▸ ht.distinct

/-- An output that does not tell a session that the channel is up or down. -/
theorem Told.output {h h' : IOHandler α σ δ} (ht : h.Told) (output : Output δ)
    (hallowed : Allowed h.log output) (hquiet : ∀ session, output.upDown session = none)
    (hlog : h'.log = h.log ++ [output]) (hsessions : h'.sessions = h.sessions) : h'.Told where
  allowed := by
    rw [hlog]
    exact (History.each_concat _ _).mpr ⟨ht.allowed, hallowed⟩
  up session := by
    unfold isOnline
    rw [hlog, hsessions, isUp_concat, hquiet]
    exact ht.up session
  distinct := hsessions ▸ ht.distinct

/-- An output that has nothing to do with the writing, nor tells a session that the channel is up or
down. -/
theorem Sound.emit {h : IOHandler α σ δ} (hs : h.Sound) (output : Output δ)
    (hallowed : Allowed h.log output) (hquiet : ∀ session, output.upDown session = none)
    (hopen : output ≠ .SetCallbacks) (hbegun : output.begun = none)
    (hcompleted : output.completed = none) (hwritten : output.written = none) :
    (h.emit output).Sound where
  told := hs.told.output output hallowed hquiet rfl rfl
  ordered channel hchannel := by
    obtain ⟨hcallbacks, hrunning, hprogress⟩ := hs.ordered channel hchannel
    exact ⟨hcallbacks, hrunning, hprogress.quiet hopen hbegun hcompleted hwritten⟩

/-- A state that the listener is told has nothing to do with the sessions. -/
theorem Sound.onStateChange {h : IOHandler α σ δ} (hs : h.Sound) (state : ChannelState) :
    (h.emit (.OnStateChange state)).Sound :=
  hs.emit (.OnStateChange state) trivial (fun _ => rfl) nofun rfl rfl rfl

/-! ### Transmitting -/

/-- The first transmission of the queue is written, if the channel is free. -/
theorem Sound.checkForSend {h : IOHandler α σ δ} (hs : h.Sound) :
    h.checkForSend.Sound ∧ h.checkForSend.Busy := by
  unfold IOHandler.checkForSend
  split
  case h_1 transmission queue channel hqueue hchannel =>
    obtain ⟨hcallbacks, hrunning, hprogress⟩ := hs.ordered channel hchannel
    have hcan : channel.canWrite = !channel.writing := by
      simp [IAsyncChannel.canWrite, hcallbacks, hrunning]
    -- The channel may be free, and then the head of the queue is written.
    split_ifs with hwrite
    · have hfree : channel.writing = false := by simpa [hcan] using hwrite
      have hbegin : channel.beginWrite = { channel with writing := true } := if_pos hwrite
      rw [hqueue, hfree] at hprogress
      refine ⟨⟨?_, ?_⟩, ?_⟩
      · exact hs.told.output (.BeginWrite transmission.txdata)
          ⟨transmission, queue, hprogress, rfl⟩ (fun _ => rfl) rfl rfl
      · intro channel' hchannel'
        obtain rfl := Option.some.inj hchannel'
        rw [hbegin]
        refine ⟨hcallbacks, hrunning, ?_⟩
        show Progress _ h.txQueue true
        rw [hqueue]
        exact hprogress.write
      · intro channel' hchannel' _
        obtain rfl := Option.some.inj hchannel'
        rw [hbegin]
    · refine ⟨hs, fun channel' hchannel' _ => ?_⟩
      obtain rfl := Option.some.inj (hchannel.symm.trans hchannel')
      simpa [hcan] using hwrite
  case h_2 hno =>
    -- Without a channel or a transmission nothing is written.
    refine ⟨hs, fun channel hchannel hqueue => ?_⟩
    obtain ⟨transmission, queue, hcons⟩ := List.exists_cons_of_ne_nil hqueue
    exact (hno transmission queue channel hcons hchannel).elim

/-- A transmission that begins is put at the end of the queue. -/
theorem Sound.beginTransmit {h : IOHandler α σ δ} (hs : h.Sound) (session : SessionId) (data : δ) :
    (h.beginTransmit session data).Sound ∧ (h.beginTransmit session data).Busy := by
  unfold IOHandler.beginTransmit
  split_ifs with hsome
  · refine Sound.checkForSend ⟨?_, ?_⟩
    · exact hs.told.output (.BeginTransmit session data) trivial (fun _ => rfl) rfl rfl
    · intro channel hchannel
      obtain ⟨hcallbacks, hrunning, hprogress⟩ := hs.ordered channel hchannel
      exact ⟨hcallbacks, hrunning, hprogress.begin session data⟩
  · refine ⟨hs, fun channel hchannel _ => ?_⟩
    rw [hchannel] at hsome
    exact absurd rfl hsome

/-- What a session transmits is put at the end of the queue. -/
theorem Sound.transmits {h : IOHandler α σ δ} (hs : h.Sound) (session : SessionId)
    (result : σ × List δ) :
    (h.transmits session result).Sound ∧ (h.Busy → (h.transmits session result).Busy) := by
  have hlinks : Sound { h with links := Function.update h.links session result.1 } :=
    ⟨hs.told.congr rfl rfl, hs.ordered⟩
  refine History.foldl_invariant (fun h' => Sound h' ∧ (h.Busy → h'.Busy)) _
    (fun h' data hh => ?_) ⟨hlinks, id⟩ _
  obtain ⟨hsound, hbusy⟩ := hh.1.beginTransmit session data
  exact ⟨hsound, fun _ => hbusy⟩

end IOHandler

end OpenDnp3.Channel
