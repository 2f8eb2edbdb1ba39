import OpenDnp3.Channel.CallLog

/-!
# The calls of a channel

Every function of the channel calls the sessions only as the log allows. While it runs the log
agrees with the state, and where it returns nothing waits for a channel that is free (`Settled`).
-/

namespace OpenDnp3.Channel

open Link

namespace IOHandler

variable {α σ κ ω δ ε ω' : Type*}

/-! ### Calling the sessions -/

section Calls

variable [ILinkSession σ κ ω δ]

/-- A frame that a session is given keeps the log sound. -/
theorem Sound.onFrame {h : IOHandler α σ δ} (hs : h.Sound) (env : SessionId → κ)
    (session : SessionId) (frame : SinkFrame) :
    (h.callSession env session (.OnFrame frame)).Sound ∧
      (h.Busy → (h.callSession env session (.OnFrame frame)).Busy) :=
  (hs.emit (.call session (.OnFrame frame)) trivial (fun _ => rfl) nofun rfl rfl
    rfl).transmits session _

/-- Two records of one session are the same record. -/
theorem Told.unique {h : IOHandler α σ δ} (ht : h.Told) {i j : ℕ} {record record' : Session}
    (hi : h.sessions[i]? = some record) (hj : h.sessions[j]? = some record')
    (hsession : record.session = record'.session) : i = j := by
  obtain ⟨hilt, rfl⟩ := List.getElem?_eq_some_iff.mp hi
  obtain ⟨hjlt, rfl⟩ := List.getElem?_eq_some_iff.mp hj
  have hdistinct := List.pairwise_iff_getElem.mp ht.distinct
  rcases Nat.lt_trichotomy i j with hlt | heq | hgt
  · exact absurd hsession (hdistinct i j hilt hjlt hlt)
  · exact heq
  · exact absurd hsession.symm (hdistinct j i hjlt hilt hgt)

/-- A session is online where one of its records says so. -/
theorem isOnline_iff (h : IOHandler α σ δ) (session : SessionId) :
    h.isOnline session = true ↔
      ∃ (i : ℕ) (record : Session), h.sessions[i]? = some record ∧ record.session = session ∧
        record.online = true := by
  unfold isOnline
  rw [List.any_eq_true]
  constructor
  · rintro ⟨record, hmem, honline⟩
    obtain ⟨i, hi⟩ := List.mem_iff_getElem?.mp hmem
    exact ⟨i, record, hi, by simpa using honline⟩
  · rintro ⟨i, record, hi, hsession, honline⟩
    exact ⟨record, List.mem_of_getElem? hi, by simp [hsession, honline]⟩

/-- The session of a record is online when the record says so. -/
theorem Told.isOnline_of_getElem? {h : IOHandler α σ δ} (ht : h.Told) {i : ℕ} {record : Session}
    (hrecord : h.sessions[i]? = some record) : h.isOnline record.session = record.online := by
  rw [Bool.eq_iff_iff, isOnline_iff]
  constructor
  · rintro ⟨j, record', hj, hsession, honline⟩
    obtain rfl := ht.unique hj hrecord hsession
    obtain rfl := Option.some.inj (hj.symm.trans hrecord)
    exact honline
  · exact fun honline => ⟨i, record, hrecord, rfl, honline⟩

/-- A session is told that the channel is up or down, and its record is set. -/
theorem Told.turn {h h' : IOHandler α σ δ} (ht : h.Told) {i : ℕ} {record : Session}
    (hrecord : h.sessions[i]? = some record) (record' : Session)
    (hsession : record'.session = record.session)
    (output : Output δ) (hallowed : Allowed h.log output)
    (hupDown : ∀ session, output.upDown session =
      if record.session = session then some record'.online else none)
    (hlog : h'.log = h.log ++ [output]) (hsessions : h'.sessions = h.sessions.set i record') :
    h'.Told where
  allowed := by
    rw [hlog]
    exact (History.each_concat _ _).mpr ⟨ht.allowed, hallowed⟩
  distinct := by
    rw [hsessions, List.pairwise_iff_getElem]
    intro j k hj hk hlt
    simp only [List.length_set] at hj hk
    have hdistinct := List.pairwise_iff_getElem.mp ht.distinct j k hj hk hlt
    have hsame : ∀ l (hset : l < (h.sessions.set i record').length) (hl : l < h.sessions.length),
        (h.sessions.set i record')[l].session = h.sessions[l].session := by
      intro l hset hl
      rw [List.getElem_set]
      split_ifs with hil
      · subst hil
        rw [hsession, (List.getElem?_eq_some_iff.mp hrecord).2]
      · rfl
    rwa [hsame j _ hj, hsame k _ hk]
  up session := by
    -- The output concerns the session of the record, and no other session has a record of it.
    obtain ⟨hi, -⟩ := List.getElem?_eq_some_iff.mp hrecord
    rw [hlog, isUp_concat, hupDown, ht.up, Bool.eq_iff_iff, isOnline_iff, hsessions]
    split_ifs with heq
    · constructor
      · intro honline
        exact ⟨i, record', List.getElem?_set_self hi, hsession.trans heq, honline⟩
      · rintro ⟨j, record'', hj, hsession'', honline⟩
        by_cases hij : i = j
        · subst hij
          obtain rfl := Option.some.inj ((List.getElem?_set_self hi).symm.trans hj)
          exact honline
        · rw [List.getElem?_set_ne hij] at hj
          exact absurd (ht.unique hrecord hj (heq.trans hsession''.symm)) hij
    · show h.isOnline session = true ↔ _
      rw [isOnline_iff]
      -- The records of the other sessions are as before.
      have hother : ∀ (j : ℕ) (record'' : Session), record''.session = session →
          ((h.sessions.set i record')[j]? = some record'' ↔ h.sessions[j]? = some record'') := by
        intro j record'' hsession''
        by_cases hij : i = j
        · subst hij
          rw [List.getElem?_set_self hi, hrecord]
          refine iff_of_false (fun hj => heq ?_) fun hj => heq ?_
          · rw [← hsession, Option.some.inj hj, hsession'']
          · rw [Option.some.inj hj, hsession'']
        · rw [List.getElem?_set_ne hij]
      constructor
      · rintro ⟨j, record'', hj, hsession'', honline⟩
        exact ⟨j, record'', (hother j record'' hsession'').mpr hj, hsession'', honline⟩
      · rintro ⟨j, record'', hj, hsession'', honline⟩
        exact ⟨j, record'', (hother j record'' hsession'').mp hj, hsession'', honline⟩

/-- A session that is offline is told that the channel is up. -/
theorem Sound.lowerLayerUp {h : IOHandler α σ δ} (hs : h.Sound) (env : SessionId → κ) (i : ℕ) :
    (h.lowerLayerUp env i).Sound ∧ (h.Busy → (h.lowerLayerUp env i).Busy) := by
  unfold IOHandler.lowerLayerUp
  split
  case h_1 record hrecord =>
    split_ifs with honline
    · exact ⟨hs, id⟩
    · have hdown : isUp h.log record.session = false := by
        rw [hs.told.up, hs.told.isOnline_of_getElem? hrecord]
        exact Bool.eq_false_iff.mpr honline
      refine Sound.transmits (h := { h with
        sessions := h.sessions.set i { record with online := true } }.emit _) ⟨?_, ?_⟩ _ _
      · exact hs.told.turn hrecord { record with online := true } rfl
          (.call record.session .OnLowerLayerUp) hdown (fun _ => rfl) rfl rfl
      · intro channel hchannel
        obtain ⟨hcallbacks, hrunning, hprogress⟩ := hs.ordered channel hchannel
        exact ⟨hcallbacks, hrunning, hprogress.quiet nofun rfl rfl rfl⟩
  case h_2 => exact ⟨hs, id⟩

/-- A session that is online is told that the channel is down. -/
theorem Sound.lowerLayerDown {h : IOHandler α σ δ} (hs : h.Sound) (env : SessionId → κ) (i : ℕ) :
    (h.lowerLayerDown env i).Sound ∧ (h.Busy → (h.lowerLayerDown env i).Busy) := by
  unfold IOHandler.lowerLayerDown
  split
  case h_1 record hrecord =>
    split_ifs with honline
    · have hup : isUp h.log record.session = true := by
        rw [hs.told.up, hs.told.isOnline_of_getElem? hrecord]
        exact honline
      refine Sound.transmits (h := { h with
        sessions := h.sessions.set i { record with online := false } }.emit _) ⟨?_, ?_⟩ _ _
      · exact hs.told.turn hrecord { record with online := false } rfl
          (.call record.session .OnLowerLayerDown) hup (fun _ => rfl) rfl rfl
      · intro channel hchannel
        obtain ⟨hcallbacks, hrunning, hprogress⟩ := hs.ordered channel hchannel
        exact ⟨hcallbacks, hrunning, hprogress.quiet nofun rfl rfl rfl⟩
    · exact ⟨hs, id⟩
  case h_2 => exact ⟨hs, id⟩

/-- The log agrees with the state, and nothing waits for a channel that is free. -/
structure Settled (h : IOHandler α σ δ) : Prop where
  sound : h.Sound
  busy : h.Busy

/-- A loop over the sessions keeps what its body keeps. -/
theorem Sound.forSessions (body : IOHandler α σ δ → ℕ → IOHandler α σ δ)
    (hbody : ∀ h i, Sound h → Sound (body h i) ∧ (h.Busy → (body h i).Busy)) {h : IOHandler α σ δ}
    (hs : h.Sound) : (h.forSessions body).Sound ∧ (h.Busy → (h.forSessions body).Busy) := by
  refine History.foldl_invariant (fun h' => Sound h' ∧ (h.Busy → h'.Busy)) _
    (fun h' i hh => ?_) ⟨hs, id⟩ _
  obtain ⟨hsound, hbusy⟩ := hbody h' i hh.1
  exact ⟨hsound, fun hb => hbusy (hh.2 hb)⟩

/-- A frame goes to the sessions of its route. -/
theorem Settled.sendToSession {h : IOHandler α σ δ} (hs : h.Settled) (env : SessionId → κ)
    (frame : SinkFrame) : (h.sendToSession env frame).Settled := by
  have hsent : (h.sendToSession env frame).Sound ∧
      (h.Busy → (h.sendToSession env frame).Busy) := by
    refine Sound.forSessions _ (fun h i hs => ?_) hs.sound
    split
    · split_ifs
      · exact hs.onFrame env _ frame
      · exact ⟨hs, id⟩
    · exact ⟨hs, id⟩
  exact ⟨hsent.1, hsent.2 hs.busy⟩

/-- The frames of a read are given to the sessions one after the other. -/
theorem Settled.onFrames {h : IOHandler α σ δ} (hs : h.Settled) (env : ℕ → SessionId → κ)
    (frames : List SinkFrame) : (h.onFrames env frames).Settled :=
  History.foldl_invariant Settled _ (fun _ frame hh => hh.sendToSession (env frame.2) frame.1)
    hs _

/-- Reading has nothing to do with writing. -/
theorem Settled.congr {h h' : IOHandler α σ δ} (hs : h.Settled) (hlog : h'.log = h.log)
    (hsessions : h'.sessions = h.sessions) (hqueue : h'.txQueue = h.txQueue)
    (hchannel : ∀ channel', h'.channel = some channel' → ∃ channel, h.channel = some channel ∧
      channel'.callbacks = channel.callbacks ∧
      channel'.is_shutting_down = channel.is_shutting_down ∧ channel'.writing = channel.writing) :
    h'.Settled where
  sound := by
    refine ⟨hs.sound.told.congr hlog hsessions, fun channel' h' => ?_⟩
    obtain ⟨channel, hsome, hcallbacks, hrunning, hwriting⟩ := hchannel channel' h'
    rw [hlog, hqueue, hcallbacks, hrunning, hwriting]
    exact hs.sound.ordered channel hsome
  busy := by
    intro channel' h'
    obtain ⟨channel, hsome, -, -, hwriting⟩ := hchannel channel' h'
    rw [hqueue, hwriting]
    exact hs.busy channel hsome

/-- To begin a read is neither a call nor a write. -/
theorem Settled.beginRead {h : IOHandler α σ δ} (hs : h.Settled) : h.beginRead.Settled := by
  refine hs.congr rfl rfl rfl fun channel' hchannel' => ?_
  obtain ⟨channel, hsome, rfl⟩ := Option.map_eq_some_iff.mp hchannel'
  refine ⟨channel, hsome, ?_⟩
  unfold IAsyncChannel.beginRead
  split_ifs <;> exact ⟨rfl, rfl, rfl⟩

/-- A state that the listener is told has nothing to do with the queue. -/
theorem Settled.onStateChange {h : IOHandler α σ δ} (hs : h.Settled) (state : ChannelState) :
    (h.emit (.OnStateChange state)).Settled :=
  ⟨hs.sound.onStateChange state, hs.busy⟩

/-! ### The channel -/

/-- `Reset` only needs that the log agrees with what the sessions have been told. -/
theorem Told.reset {h : IOHandler α σ δ} (ht : h.Told) (env : SessionId → κ) :
    (h.reset env).Settled := by
  have hnone := (h.reset_resets env).channel
  have hloop : Told (if h.channel.isSome then
      (({ h with channel := none }.emit .Shutdown).emit (.OnStateChange .CLOSED)).forSessions
        fun h i => h.lowerLayerDown env i
      else h) := by
    split_ifs
    · have hshutdown : Told ({ h with channel := none }.emit .Shutdown) :=
        ht.output .Shutdown trivial (fun _ => rfl) rfl rfl
      have hclosed : Sound (({ h with channel := none }.emit .Shutdown).emit
          (.OnStateChange .CLOSED)) :=
        ⟨hshutdown.output (.OnStateChange .CLOSED) trivial (fun _ => rfl) rfl rfl, nofun⟩
      exact (Sound.forSessions _ (fun h i hs => hs.lowerLayerDown env i) hclosed).1.told
    · exact ht
  refine ⟨⟨hloop.congr rfl rfl, fun channel hchannel => ?_⟩, fun channel hchannel => ?_⟩
  · cases hnone.symm.trans hchannel
  · cases hnone.symm.trans hchannel

section Channels

variable [Derived α ε ω']

/-- A channel that is opened begins with an empty queue. -/
theorem Told.opened {h : IOHandler α σ δ} (ht : h.Told) (env : SessionId → κ) :
    (h.opened env).Settled := by
  have hresets := h.reset_resets env
  have hreset := ht.reset env
  have hopen : Settled ({ h.reset env with
      channel := some ({} : IAsyncChannel).setCallbacks }.emit .SetCallbacks) := by
    refine ⟨⟨?_, ?_⟩, ?_⟩
    · exact hreset.sound.told.output .SetCallbacks trivial (fun _ => rfl) rfl rfl
    · intro channel hchannel
      obtain rfl := Option.some.inj hchannel
      refine ⟨rfl, rfl, ?_⟩
      show Progress _ (h.reset env).txQueue false
      rw [hresets.txQueue]
      exact .opened _
    · intro channel _ hqueue
      exact absurd hresets.txQueue hqueue
  exact (hopen.onStateChange .OPEN).beginRead

/-- A new channel closes the old one, if it is taken, and the enabled sessions go online. -/
theorem Settled.onNewChannel {h : IOHandler α σ δ} (hs : h.Settled) (env : Env κ ε) :
    (h.onNewChannel env).Settled := by
  cases hrefuse : h.channel.isSome && !h.close_existing with
  | true =>
    rw [onNewChannel_refused env hrefuse]
    exact ⟨hs.sound.emit .Refuse trivial (fun _ => rfl) nofun rfl rfl rfl, hs.busy⟩
  | false =>
    rw [onNewChannel_eq env hrefuse]
    have hopened := hs.sound.told.opened env.down
    obtain ⟨hsound, hbusy⟩ := Sound.forSessions
      (fun h i => if h.isEnabled i then h.lowerLayerUp env.up i else h) (fun h i hs => by
        split_ifs
        · exact hs.lowerLayerUp env.up i
        · exact ⟨hs, id⟩) hopened.sound
    exact ⟨hsound, hbusy hopened.busy⟩

/-- What the derived class does may bring a new channel. -/
theorem Settled.derives {h : IOHandler α σ δ} (hs : h.Settled) (env : Env κ ε)
    (result : α × Bool) : (h.derives env result).Settled := by
  have hsame : Settled { h with derived := result.1 } :=
    hs.congr rfl rfl rfl fun channel hchannel => ⟨channel, hchannel, rfl, rfl, rfl⟩
  unfold IOHandler.derives
  dsimp only
  split_ifs
  · exact hsame.onNewChannel env
  · exact hsame

/-- After an error there is no channel, and the derived class goes on. -/
theorem Told.onChannelError {h : IOHandler α σ δ} (ht : h.Told) (env : Env κ ε) :
    (h.onChannelError env).Settled :=
  ((ht.reset env.down).onStateChange .OPENING).derives env _

/-! ### The events -/

/-- The end of a write: its transmission leaves the queue, and the next one is written. -/
theorem Settled.onWriteCallback {h : IOHandler α σ δ} (hs : h.Settled) (env : Env κ ε)
    (error : Bool)
    (hwriting : h.channel.any (·.writing) = true) : (h.onWriteCallback env error).Settled := by
  unfold IOHandler.onWriteCallback
  dsimp only
  split_ifs
  · have htold : Told { h with channel := h.channel.map IAsyncChannel.endWrite } :=
      hs.sound.told.congr rfl rfl
    exact htold.onChannelError env
  · -- A write ends only where one was begun, so the queue has a head.
    obtain ⟨channel, hchannel, hbusy⟩ : ∃ channel, h.channel = some channel ∧
        channel.writing = true := by
      cases hchannel : h.channel with
      | none =>
        rw [hchannel] at hwriting
        cases hwriting
      | some channel =>
        rw [hchannel] at hwriting
        exact ⟨channel, rfl, hwriting⟩
    obtain ⟨hcallbacks, hrunning, hprogress⟩ := hs.sound.ordered channel hchannel
    rw [hbusy] at hprogress
    obtain ⟨transmission, queue, hqueue⟩ :=
      List.exists_cons_of_ne_nil (hprogress.nonempty rfl)
    rw [hqueue] at hprogress
    unfold IOHandler.onWriteComplete
    simp only [hqueue]
    -- The head leaves the queue, and its session is told.
    have hdone : Sound ({ h with
        channel := h.channel.map IAsyncChannel.endWrite, txQueue := queue }.emit
        (.call transmission.session .OnTxReady)) := by
      refine ⟨?_, ?_⟩
      · exact hs.sound.told.output (.call transmission.session .OnTxReady)
          ⟨transmission, queue, hprogress, rfl⟩ (fun _ => rfl) rfl rfl
      · intro channel' hchannel'
        have hend : h.channel.map IAsyncChannel.endWrite = some channel' := hchannel'
        rw [hchannel] at hend
        obtain rfl := Option.some.inj hend
        exact ⟨hcallbacks, hrunning, hprogress.complete⟩
    obtain ⟨hsound, hbusy⟩ := (hdone.transmits transmission.session _).1.checkForSend
    exact ⟨hsound, hbusy⟩

/-- The end of a read gives its frames to the sessions, or closes the channel. -/
theorem Settled.onReadCallback {h : IOHandler α σ δ} (hs : h.Settled) (env : Env κ ε)
    (bytes : Option (List UInt8)) : (h.onReadCallback env bytes).Settled := by
  have hend : Settled { h with channel := h.channel.map IAsyncChannel.endRead } := by
    refine hs.congr rfl rfl rfl fun channel' hchannel' => ?_
    obtain ⟨channel, hsome, rfl⟩ := Option.map_eq_some_iff.mp hchannel'
    exact ⟨channel, hsome, rfl, rfl, rfl⟩
  unfold IOHandler.onReadCallback
  cases bytes with
  | none => exact hend.sound.told.onChannelError env
  | some bytes =>
    dsimp only
    split_ifs
    · unfold IOHandler.onReadComplete
      refine Settled.beginRead (Settled.onFrames ?_ env.frame _)
      exact hend.congr rfl rfl rfl fun channel hchannel => ⟨channel, hchannel, rfl, rfl, rfl⟩
    · exact hend

/-- Records of the same sessions that are online as before. -/
theorem Settled.congr_records {h h' : IOHandler α σ δ} (hs : h.Settled) (hlog : h'.log = h.log)
    (hsessions : h'.sessions.map (fun record => (record.session, record.online)) =
      h.sessions.map fun record => (record.session, record.online))
    (hqueue : h'.txQueue = h.txQueue) (hchannel : h'.channel = h.channel) : h'.Settled where
  sound := by
    refine ⟨⟨hlog ▸ hs.sound.told.allowed, fun session => ?_, ?_⟩, ?_⟩
    · have hany (h : IOHandler α σ δ) : h.isOnline session =
          (h.sessions.map fun record => (record.session, record.online)).any fun record =>
            record.1 = session && record.2 := by
        rw [List.any_map]
        rfl
      rw [hany h', hsessions, ← hany h, hlog]
      exact hs.sound.told.up session
    · have hpairwise (h : IOHandler α σ δ) :
          h.sessions.Pairwise (fun a b => a.session ≠ b.session) ↔
          (h.sessions.map fun record => (record.session, record.online)).Pairwise fun a b =>
            a.1 ≠ b.1 := by rw [List.pairwise_map]
      rw [hpairwise h', hsessions, ← hpairwise h]
      exact hs.sound.told.distinct
    · unfold Ordered
      rw [hlog, hqueue, hchannel]
      exact hs.sound.ordered
  busy := by
    unfold Busy
    rw [hqueue, hchannel]
    exact hs.busy

/-- Whether a session is enabled is not told to it. -/
theorem Settled.setEnabled {h : IOHandler α σ δ} (hs : h.Settled) {i : ℕ} {record : Session}
    (hrecord : h.sessions[i]? = some record) (enabled : Bool) :
    (h.setEnabled i record enabled).Settled := by
  refine hs.congr_records rfl ?_ rfl rfl
  have hset := set_eq_modify (f := fun record => { record with enabled := enabled }) hrecord
  exact (congrArg _ hset).trans
    (map_modify _ (fun record : Session => { record with enabled := enabled }) (fun _ => rfl) _ _)

/-- A session that leaves is told that the channel is down, if it was up. -/
theorem Settled.leave {h : IOHandler α σ δ} (hs : h.Settled) (env : SessionId → κ) (i : ℕ) :
    (h.leave env i).Settled := by
  unfold IOHandler.leave
  split_ifs
  · obtain ⟨hsound, hbusy⟩ := hs.sound.lowerLayerDown env i
    exact ⟨hsound, hbusy hs.busy⟩
  · exact hs

/-- The record of a session that is not online can be removed. -/
theorem Settled.erase {h : IOHandler α σ δ} (hs : h.Settled) {i : ℕ} {record : Session}
    (hrecord : h.sessions[i]? = some record) (hoff : record.online = false) :
    (h.erase i).Settled := by
  refine ⟨⟨⟨hs.sound.told.allowed, fun session => ?_, ?_⟩, hs.sound.ordered⟩, hs.busy⟩
  · show isUp h.log session = _
    rw [hs.sound.told.up, Bool.eq_iff_iff]
    unfold isOnline
    rw [List.any_eq_true, List.any_eq_true]
    constructor
    · rintro ⟨record', hmem, honline⟩
      obtain ⟨j, hj⟩ := List.mem_iff_getElem?.mp hmem
      refine ⟨record', List.mem_eraseIdx_iff_getElem?.mpr ⟨j, fun hji => ?_, hj⟩, honline⟩
      rw [hji, hrecord] at hj
      obtain rfl := Option.some.inj hj
      simp [hoff] at honline
    · rintro ⟨record', hmem, honline⟩
      exact ⟨record', List.mem_of_mem_eraseIdx hmem, honline⟩
  · exact hs.sound.told.distinct.sublist (List.eraseIdx_sublist _ _)

/-- The derived class is told that no channel is needed. -/
theorem Settled.suspendChannelAccept {h : IOHandler α σ δ} (hs : h.Settled) :
    h.suspendChannelAccept.Settled :=
  hs.congr rfl rfl rfl fun channel hchannel => ⟨channel, hchannel, rfl, rfl, rfl⟩

end Channels

end Calls

end IOHandler

end OpenDnp3.Channel
