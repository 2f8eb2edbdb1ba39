import OpenDnp3.Channel.SharedQueue

/-!
# The ends of transmissions

The link layers of a channel share its queue. As long as no session leaves the channel, which others
keep open, while the queue holds a frame of it, the queue is what the link layers have in flight:
the end of a transmission reaches the session that began it, and no buffer is used again before. The
log says for every transmission in the queue whether its session has gone offline since.
-/

namespace OpenDnp3.Channel

open Link

namespace IOHandler

section Links

variable {α : Type*} {h h' : IOHandler α (LinkContext (List UInt8)) (LinkLayerFrame (List UInt8))}

/-! ### The channel -/

variable {ε ω' : Type*} [Derived α ε ω']

/-- Without a channel every session is offline. -/
theorem isUp_of_closed (ht : h.Told) (hc : h.Consistent) (hclosed : h.channel = none)
    (session : SessionId) : isUp h.log session = false := by
  rw [ht.up, Bool.eq_false_iff]
  intro honline
  obtain ⟨i, record, hrecord, -, honline⟩ := (isOnline_iff h session).mp honline
  rw [hc.online i record hrecord, hclosed] at honline
  simp at honline

/-- The queue may be forgotten, and with it who had what in it. -/
theorem Joined.loose (hj : h.Joined) (ht : h.Told) (hc : h.Consistent) : h.Loose := by
  refine ⟨fun session => ⟨h.inFlight session, hj.station session⟩, hj.online, fun hclosed => ?_,
    hj.completions⟩
  have hempty : h.txQueue = [] := by
    refine List.eq_nil_iff_forall_not_mem.mpr fun transmission hmem => ?_
    have hoff := (hj.online transmission.session).trans
      (isUp_of_closed ht hc hclosed transmission.session)
    have hnone := inFlight_of_offline (hj.station transmission.session).toInv hoff
    exact (inFlight_eq_nil_iff _).mp hnone transmission hmem rfl
  rw [hj.pending, hempty]
  rfl

/-- With all sessions offline and the queue empty nothing is in flight. -/
theorem Loose.joined (hl : h.Loose) (hclosed : h.channel = none) (hqueue : h.txQueue = [])
    (hoff : ∀ session, isUp h.log session = false) : h.Joined := by
  refine ⟨fun session => ?_, hl.online, ?_, hl.completions⟩
  · obtain ⟨inFlight, hinv⟩ := hl.station session
    have hnone : inFlight = [] :=
      inFlight_of_offline hinv.toInv ((hl.online session).trans (hoff session))
    have hempty : h.inFlight session = [] := by
      unfold IOHandler.inFlight
      rw [hqueue]
      rfl
    unfold IOHandler.station
    rw [hempty, ← hnone]
    exact hinv
  · rw [hl.cleared hclosed, hqueue]
    rfl

/-- A session goes offline, whatever of it is in the queue. -/
theorem Loose.onLowerLayerDown (hl : h.Loose) (env : SessionId → LinkSurroundings)
    (session : SessionId) : (h.callSession env session .OnLowerLayerDown).Loose := by
  obtain ⟨inFlight, hinv⟩ := hl.station session
  obtain ⟨hstation, honline, hnone⟩ := handling_spec hinv .lowerLayerDown rfl
  -- The end of a session transmits nothing, so the queue does not matter.
  have hquiet : (h.emit (.call session .OnLowerLayerDown)).channel.isSome = true ∨
      (handling (h.links session) .lowerLayerDown).2 = [] := .inr (hnone rfl)
  obtain ⟨hgrows, hlinks⟩ := transmits_grows session hquiet
  have hsame : (h.emit (.call session .OnLowerLayerDown)).links = h.links := rfl
  rw [hsame] at hlinks
  show Loose ((h.emit (.call session .OnLowerLayerDown)).transmits session
    (handling (h.links session) .lowerLayerDown))
  refine ⟨fun session' => ?_, fun session' => ?_, fun hclosed => ?_, hgrows.completions ?_⟩
  · rw [hlinks]
    by_cases hsession : session' = session
    · subst hsession
      rw [Function.update_self]
      exact ⟨_, hstation⟩
    · rw [Function.update_of_ne hsession]
      exact hl.station session'
  · rw [hlinks, hgrows.up]
    refine Eq.trans ?_ (isUp_concat _ _ _).symm
    by_cases hsession : session' = session
    · subst hsession
      rw [Function.update_self]
      simpa [Output.upDown, onlineAfter] using honline
    · rw [Function.update_of_ne hsession, hl.online]
      simp [Output.upDown, Ne.symm hsession]
  · have hclosed' : h.channel = none := by
      have hsome := hgrows.channel
      rw [hclosed] at hsome
      exact Option.not_isSome_iff_eq_none.mp (Bool.eq_false_iff.mp hsome.symm)
    have hpending : pending (h.emit (.call session .OnLowerLayerDown)).log = [] := by
      refine (pending_concat _ _).trans ?_
      rw [hl.cleared hclosed']
      rfl
    rw [hgrows.pending, hpending, hnone rfl]
    rfl
  · exact (History.each_concat _ _).mpr ⟨hl.completions, trivial⟩

/-- A session that goes offline leaves its frames in the queue behind. -/
theorem Loose.lowerLayerDown (hl : h.Loose) (env : SessionId → LinkSurroundings) (i : ℕ) :
    (h.lowerLayerDown env i).Loose := by
  unfold IOHandler.lowerLayerDown
  split
  case h_1 record hrecord =>
    split_ifs
    · exact Loose.onLowerLayerDown
        (h := { h with sessions := h.sessions.set i { record with online := false } })
        ⟨hl.station, hl.online, hl.cleared, hl.completions⟩ env record.session
    · exact hl
  case h_2 => exact hl

/-- `Reset` clears the queue and tells the sessions, so the two agree again. -/
theorem Loose.reset (hl : h.Loose) (ht : h.Told) (hc : h.Consistent)
    (env : SessionId → LinkSurroundings) : (h.reset env).Joined := by
  have hresets := h.reset_resets env
  have hreset := ht.reset env
  have hloop : Loose (if h.channel.isSome then
      (({ h with channel := none }.emit .Shutdown).emit (.OnStateChange .CLOSED)).forSessions
        fun h i => h.lowerLayerDown env i
      else h) := by
    split_ifs
    · refine History.foldl_invariant Loose _ (fun h i hl => hl.lowerLayerDown env i) ?_ _
      refine ⟨hl.station, fun session => ?_, fun _ => ?_, ?_⟩
      · refine (hl.online session).trans (Eq.symm ?_)
        exact (isUp_concat _ _ _).trans (isUp_concat _ _ _)
      · exact (pending_concat _ _).trans (pending_concat _ _)
      · exact (History.each_concat _ _).mpr
          ⟨(History.each_concat _ _).mpr ⟨hl.completions, trivial⟩, trivial⟩
    · exact hl
  have hloose : (h.reset env).Loose :=
    ⟨hloop.station, hloop.online, hloop.cleared, hloop.completions⟩
  exact hloose.joined hresets.channel hresets.txQueue
    (isUp_of_closed hreset.sound.told (hc.reset env).1 hresets.channel)

/-- After a reset there is nothing in flight. -/
theorem Joined.reset (hj : h.Joined) (ht : h.Told) (hc : h.Consistent)
    (env : SessionId → LinkSurroundings) : (h.reset env).Joined := (hj.loose ht hc).reset ht hc env

/-- A session that goes online has nothing in flight. -/
theorem Joined.lowerLayerUp (hj : h.Joined) (hs : h.Sound) (hopen : h.channel.isSome = true)
    (env : SessionId → LinkSurroundings) (i : ℕ) : (h.lowerLayerUp env i).Joined := by
  unfold IOHandler.lowerLayerUp
  split
  case h_1 record hrecord =>
    split_ifs with honline
    · exact hj
    · have hoff : isUp h.log record.session = false := by
        rw [hs.told.up, hs.told.isOnline_of_getElem? hrecord]
        exact Bool.eq_false_iff.mpr honline
      exact Joined.onLowerLayerUp
        (h := { h with sessions := h.sessions.set i { record with online := true } })
        (hj.congr rfl rfl rfl) hopen env hoff
  case h_2 => exact hj

/-- A session leaves the channel without transmissions in the queue. -/
theorem Joined.leave (hj : h.Joined) (env : SessionId → LinkSurroundings) {i : ℕ} {record : Session}
    (hrecord : h.sessions[i]? = some record)
    (hnone : h.channel.isSome = true →
      ∀ transmission ∈ h.txQueue, transmission.session ≠ record.session) :
    (h.leave env i).Joined := by
  unfold IOHandler.leave
  split_ifs with hchannel
  · unfold IOHandler.lowerLayerDown
    rw [hrecord]
    show Joined (if record.online then _ else _)
    split_ifs
    · exact Joined.onLowerLayerDown
        (h := { h with sessions := h.sessions.set i { record with online := false } })
        (hj.congr rfl rfl rfl) env (hnone hchannel)
    · exact hj
  · exact hj

/-- A new channel begins with nothing in flight. -/
theorem Joined.onNewChannel (hj : h.Joined) (ht : h.Told) (hc : h.Consistent)
    (env : Env LinkSurroundings ε) : (h.onNewChannel env).Joined := by
  cases hrefuse : h.channel.isSome && !h.close_existing with
  | true =>
    rw [onNewChannel_refused env hrefuse]
    exact hj.emit .Refuse (fun _ => rfl) (fun _ => rfl) trivial
  | false =>
    have hset : Joined ({ h.reset env.down with
        channel := some ({} : IAsyncChannel).setCallbacks }.emit .SetCallbacks) :=
      ((hj.reset ht hc env.down).emit .SetCallbacks (fun _ => rfl) (fun _ => rfl) trivial).congr
        rfl rfl rfl
    have hopened : (h.opened env.down).Joined := (hset.onStateChange .OPEN).congr rfl rfl rfl
    have hloop : ∀ (h' : IOHandler α _ _) (i : ℕ),
        h'.Sound ∧ h'.Joined ∧ h'.channel.isSome = true →
        Sound (if h'.isEnabled i then h'.lowerLayerUp env.up i else h') ∧
          Joined (if h'.isEnabled i then h'.lowerLayerUp env.up i else h') ∧
          (if h'.isEnabled i then h'.lowerLayerUp env.up i else h').channel.isSome = true := by
      rintro h' i ⟨hsound, hjoined, hopen⟩
      split_ifs
      · exact ⟨(hsound.lowerLayerUp env.up i).1, hjoined.lowerLayerUp hsound hopen env.up i,
          (h'.lowerLayerUp_turns env.up i).channel.trans hopen⟩
      · exact ⟨hsound, hjoined, hopen⟩
    rw [onNewChannel_eq env hrefuse]
    obtain ⟨-, hjoined, -⟩ := History.foldl_invariant _ _ hloop
      ⟨(ht.opened env.down).sound, hopened, rfl⟩ _
    exact hjoined

/-- What the derived class does keeps the queue, or brings a new channel. -/
theorem Joined.derives (hj : h.Joined) (ht : h.Told) (hc : h.Consistent)
    (env : Env LinkSurroundings ε) (result : α × Bool) : (h.derives env result).Joined := by
  have hsame : Joined { h with derived := result.1 } := hj.congr rfl rfl rfl
  unfold IOHandler.derives
  dsimp only
  split_ifs
  · exact hsame.onNewChannel (ht.congr rfl rfl) ⟨hc.online, hc.routes⟩ env
  · exact hsame

/-- After an error there is nothing in flight. -/
theorem Joined.onChannelError (hj : h.Joined) (ht : h.Told) (hc : h.Consistent)
    (env : Env LinkSurroundings ε) : (h.onChannelError env).Joined := by
  obtain ⟨⟨honline, hroutes⟩, -⟩ := hc.reset env.down
  have hreset := (hj.reset ht hc env.down).onStateChange .OPENING
  have htold := ((ht.reset env.down).sound.onStateChange .OPENING).told
  exact hreset.derives htold ⟨honline, hroutes⟩ env _

/-- A frame is given to the enabled sessions. -/
theorem Joined.sendToSession (hj : h.Joined) (hopen : h.channel.isSome = true)
    (env : SessionId → LinkSurroundings) (frame : SinkFrame) :
    (h.sendToSession env frame).Joined ∧ (h.sendToSession env frame).channel.isSome = true := by
  refine History.foldl_invariant (fun h : IOHandler α _ _ => h.Joined ∧ h.channel.isSome = true) _
    (fun h i hh => ?_) ⟨hj, hopen⟩ _
  split
  case h_1 record hrecord =>
    split_ifs
    · exact ⟨hh.1.onFrame hh.2 env record.session frame, (callSession_kept ..).channel.trans hh.2⟩
    · exact hh
  case h_2 => exact hh

/-- The frames of a read keep the queue and the link layers joined. -/
theorem Joined.onReadCallback (hj : h.Joined) (ht : h.Told) (hc : h.Consistent)
    (hopen : h.channel.isSome = true) (env : Env LinkSurroundings ε) (bytes : Option (List UInt8)) :
    (h.onReadCallback env bytes).Joined := by
  have hend : Joined { h with channel := h.channel.map IAsyncChannel.endRead } :=
    hj.congr rfl rfl rfl
  have hchannel : (h.channel.map IAsyncChannel.endRead).isSome = true := by simpa using hopen
  unfold IOHandler.onReadCallback
  cases bytes with
  | none =>
    exact hend.onChannelError (ht.congr rfl rfl) (hc.kept ⟨rfl, rfl, by simp⟩) env
  | some bytes =>
    dsimp only
    split_ifs with hle
    · obtain ⟨hjoined, -⟩ := History.foldl_invariant
        (fun h : IOHandler α _ _ => h.Joined ∧ h.channel.isSome = true)
        (fun h (frame : SinkFrame × ℕ) => h.sendToSession (env.frame frame.2) frame.1)
        (fun h frame hh => hh.1.sendToSession hh.2 (env.frame frame.2) frame.1)
        (s := { h with
          channel := h.channel.map IAsyncChannel.endRead
          parser := (h.parser.onRead bytes hle).2 }) ⟨hend.congr rfl rfl rfl, hchannel⟩
        (h.parser.onRead bytes hle).1.zipIdx
      exact hjoined.congr rfl rfl rfl
    · exact hend

/-- The end of a write is the end of the oldest transmission. -/
theorem Joined.onWriteCallback (hj : h.Joined) (ht : h.Told) (hc : h.Consistent)
    (hopen : h.channel.isSome = true) (env : Env LinkSurroundings ε) (error : Bool) :
    (h.onWriteCallback env error).Joined := by
  have hend : Joined { h with channel := h.channel.map IAsyncChannel.endWrite } :=
    hj.congr rfl rfl rfl
  have hchannel : (h.channel.map IAsyncChannel.endWrite).isSome = true := by simpa using hopen
  unfold IOHandler.onWriteCallback
  dsimp only
  split_ifs
  · exact hend.onChannelError (ht.congr rfl rfl) (hc.kept ⟨rfl, rfl, by simp⟩) env
  · unfold onWriteComplete
    split
    case h_1 transmission rest hqueue =>
      exact (hend.onTxReady hchannel env.ready hqueue).checkForSend
    case h_2 => exact hend.checkForSend

/-! ### Leaving the channel -/

/-- Nothing of a session is in the queue of a channel. -/
def Absent (h : IOHandler α (LinkContext (List UInt8)) (LinkLayerFrame (List UInt8)))
    (session : SessionId) : Prop :=
  h.channel.isSome = true → ∀ transmission ∈ h.txQueue, transmission.session ≠ session

/-- No session leaves a channel that stays open while a transmission of it is in the queue. The
channel is closed with the last enabled session that is disabled, and with no session that is
removed. -/
def LeavesNothing (h : IOHandler α (LinkContext (List UInt8)) (LinkLayerFrame (List UInt8))) :
    Event LinkActivity ω' → Prop
  | .Disable session =>
    (∃ record ∈ h.sessions, record.enabled = true ∧ record.session ≠ session) → h.Absent session
  | .Remove session => h.Absent session
  | _ => True

/-- Every transmission that is not completed is of the present time online of its session, every
session that is told the end of a transmission began it in this time, and the buffer of a frame in
the queue still holds this frame, so that no link layer has used it again. -/
structure Completes (h : IOHandler α (LinkContext (List UInt8)) (LinkLayerFrame (List UInt8))) :
    Prop where
  current : ∀ entry ∈ Channel.pending h.log, entry.2 = true
  completions : History.Each Completion h.log
  buffers : ∀ transmission ∈ h.txQueue, (h.links transmission.session).txBuffer
    transmission.txdata.fields.func.isPri = some transmission.txdata
  overwrites : ∀ session, (h.links session).overwrites = []

/-- What holds between two events as long as no session has left a transmission behind. -/
structure Running (h : IOHandler α (LinkContext (List UInt8)) (LinkLayerFrame (List UInt8))) :
    Prop where
  settled : h.Settled
  consistent : h.Consistent
  joined : h.Joined

/-- Between two events no transmission has been completed out of order. -/
theorem Running.completes (hr : h.Running) : h.Completes where
  current entry hmem := by
    rw [hr.joined.pending] at hmem
    obtain ⟨transmission, -, rfl⟩ := List.mem_map.mp hmem
    rfl
  completions := hr.joined.completions
  buffers transmission hmem := hr.joined.buffer_of_mem hmem
  overwrites session := (hr.joined.station session).settled.lanes.overwrites

/-- A transmission in the queue is of a registered session that is enabled and online. -/
theorem Running.exists_record (hr : h.Running)
    {transmission : Transmission (LinkLayerFrame (List UInt8))} (hmem : transmission ∈ h.txQueue) :
    ∃ (i : ℕ) (record : Session), h.sessions[i]? = some record ∧
      record.session = transmission.session ∧ record.enabled = true ∧ record.online = true := by
  have hup : isUp h.log transmission.session = true := by
    rw [← hr.joined.online]
    refine (Bool.not_eq_false _).mp fun hoff => ?_
    have hnone := inFlight_of_offline (hr.joined.station transmission.session).toInv hoff
    exact (inFlight_eq_nil_iff _).mp hnone transmission hmem rfl
  rw [hr.settled.sound.told.up] at hup
  obtain ⟨i, record, hrecord, hsession, honline⟩ := (isOnline_iff h _).mp hup
  have henabled := hr.consistent.online i record hrecord
  rw [honline, eq_comm, Bool.and_eq_true] at henabled
  exact ⟨i, record, hrecord, hsession, henabled.1, honline⟩

/-- The record of a session that is registered is found. -/
theorem find?_of_getElem? (ht : h.Told) {i : ℕ} {record : Session}
    (hrecord : h.sessions[i]? = some record) : h.find? record.session = some (record, i) := by
  have hsome : (h.find? record.session).isSome = true := by
    unfold find?
    rw [List.find?_isSome]
    exact ⟨(record, i), List.mem_zipIdx_iff_getElem?.mpr hrecord, by simp⟩
  obtain ⟨⟨record', j⟩, hfind⟩ := Option.isSome_iff_exists.mp hsome
  obtain ⟨hrecord', hsession⟩ := find?_eq_some hfind
  obtain rfl := ht.unique hrecord' hrecord hsession
  rw [hfind, Option.some.inj (hrecord'.symm.trans hrecord)]

/-- Some other session stays enabled exactly when there is one. -/
theorem leave_isAnySessionEnabled (ht : h.Told) (env : SessionId → LinkSurroundings) {i : ℕ}
    {record : Session} (hrecord : h.sessions[i]? = some record) :
    ((h.setEnabled i record false).leave env i).isAnySessionEnabled = true ↔
      ∃ record' ∈ h.sessions, record'.enabled = true ∧ record'.session ≠ record.session := by
  obtain ⟨hi, -⟩ := List.getElem?_eq_some_iff.mp hrecord
  rw [isAnySessionEnabled_iff]
  simp only [getElem?_leave_enabled]
  constructor
  · rintro ⟨j, hj⟩
    by_cases hij : i = j
    · subst hij
      rw [show (h.setEnabled i record false).sessions[i]? = _ from List.getElem?_set_self hi] at hj
      cases hj
    · rw [show (h.setEnabled i record false).sessions[j]? = _ from List.getElem?_set_ne hij] at hj
      obtain ⟨record', hrecord', henabled⟩ := Option.map_eq_some_iff.mp hj
      exact ⟨record', List.mem_of_getElem? hrecord', henabled,
        fun hsame => hij (ht.unique hrecord hrecord' hsame.symm)⟩
  · rintro ⟨record', hmem, henabled, hne⟩
    obtain ⟨j, hj⟩ := List.mem_iff_getElem?.mp hmem
    have hij : i ≠ j := by
      rintro rfl
      exact hne (congrArg Session.session (Option.some.inj (hj.symm.trans hrecord)))
    refine ⟨j, ?_⟩
    rw [show (h.setEnabled i record false).sessions[j]? = _ from List.getElem?_set_ne hij, hj,
      Option.map_some, henabled]

/-- A session that leaves an open channel leaves its transmissions behind. -/
theorem leave_strands (hj : h.Joined) (env : SessionId → LinkSurroundings) {i : ℕ}
    {record : Session}
    (hrecord : h.sessions[i]? = some record) (honline : record.online = true)
    (hopen : h.channel.isSome = true)
    {transmission : Transmission (LinkLayerFrame (List UInt8))} (hmem : transmission ∈ h.txQueue)
    (hsession : transmission.session = record.session) :
    (record.session, false) ∈ Channel.pending (h.leave env i).log := by
  -- The session transmits nothing while it is told, so the log only ages.
  have hnone : (handling (h.links record.session) .lowerLayerDown).2 = [] :=
    (handling_spec (hj.station record.session) .lowerLayerDown rfl).2.2 rfl
  have hquiet : (IOHandler.emit { h with
      sessions := h.sessions.set i { record with online := false } }
        (.call record.session .OnLowerLayerDown)).channel.isSome = true ∨
      (handling (h.links record.session) .lowerLayerDown).2 = [] := .inr hnone
  obtain ⟨hgrows, -⟩ := transmits_grows record.session hquiet
  have hleave : h.leave env i = IOHandler.transmits (IOHandler.emit { h with
      sessions := h.sessions.set i { record with online := false } }
        (.call record.session .OnLowerLayerDown)) record.session
      (handling (h.links record.session) .lowerLayerDown) := by
    unfold leave IOHandler.lowerLayerDown
    rw [if_pos hopen, hrecord]
    exact if_pos honline
  rw [hleave, hgrows.pending, hnone, List.map_nil, List.map_nil, List.append_nil]
  have haged : Channel.pending (h.log ++ [.call record.session .OnLowerLayerDown]) =
      age record.session (Channel.pending h.log) := pending_concat _ _
  show _ ∈ Channel.pending (h.log ++ [.call record.session .OnLowerLayerDown])
  rw [haged, hj.pending]
  refine List.mem_map.mpr ⟨(transmission.session, true), List.mem_map.mpr ⟨_, hmem, rfl⟩, ?_⟩
  rw [if_pos hsession]

/-- An enabled session is disabled while it has nothing in the queue, or as the last one, with which
the channel is closed. -/
theorem Running.disable (hr : h.Running) (env : Env LinkSurroundings ε) {session : SessionId}
    (hleaves : h.LeavesNothing (.Disable session : Event LinkActivity ω')) :
    (h.disable env session).2.Joined := by
  have hdisabling := h.disable_disabling env session
  generalize (h.disable env session).2 = h' at hdisabling
  cases hdisabling with
  | same => exact hr.joined
  | @others record i hrecord hsession hon hany =>
    have hothers := (leave_isAnySessionEnabled hr.settled.sound.told env.down hrecord).mp hany
    rw [hsession] at hothers
    obtain ⟨hi, -⟩ := List.getElem?_eq_some_iff.mp hrecord
    have hset : Joined (h.setEnabled i record false) := hr.joined.congr rfl rfl rfl
    refine hset.leave env.down (List.getElem?_set_self hi) fun hopen transmission hmem => ?_
    rw [hsession]
    exact hleaves hothers hopen transmission hmem
  | @last record i hrecord hsession hon hnone =>
    obtain ⟨hsettled, hconsistent⟩ := leave_disabled hr.settled hr.consistent env.down hrecord
    have hl : h.Loose := hr.joined.loose hr.settled.sound.told hr.consistent
    have hset : Loose (h.setEnabled i record false) :=
      ⟨hl.station, hl.online, hl.cleared, hl.completions⟩
    have hleft : Loose ((h.setEnabled i record false).leave env.down i) := by
      unfold leave
      split_ifs
      · exact hset.lowerLayerDown env.down i
      · exact hset
    exact (hleft.reset hsettled.sound.told hconsistent env.down).congr rfl rfl rfl

/-- A session is removed while it has nothing in the queue. -/
theorem Running.remove (hr : h.Running) (env : Env LinkSurroundings ε) {session : SessionId}
    (habsent : h.Absent session) : (h.remove env session).2.Joined := by
  have hremoving := h.remove_removing env session
  generalize (h.remove env session).2 = h' at hremoving
  cases hremoving with
  | same => exact hr.joined
  | others hrecord hsession =>
    subst hsession
    exact (hr.joined.leave env.down hrecord habsent).congr rfl rfl rfl
  | last hrecord hsession =>
    subst hsession
    exact (hr.joined.leave env.down hrecord habsent).congr rfl rfl rfl

/-- A session that is enabled has nothing in flight. -/
theorem Running.enable (hr : h.Running) (env : Env LinkSurroundings ε) (session : SessionId) :
    (h.enable env session).2.Joined := by
  have henabling := h.enable_enabling env session
  generalize (h.enable env session).2 = h' at henabling
  cases henabling with
  | same => exact hr.joined
  | @up record i hrecord hsession hoff hchannel =>
    have hset : Joined (h.setEnabled i record true) := hr.joined.congr rfl rfl rfl
    exact hset.lowerLayerUp (hr.settled.setEnabled hrecord true).sound hchannel env.up i
  | @accept record i hrecord hsession hoff hchannel =>
    have hset : Joined (h.setEnabled i record true) := hr.joined.congr rfl rfl rfl
    obtain ⟨honline, hroutes⟩ := hr.consistent.setEnabled hrecord hchannel true
    exact (hset.onStateChange .OPENING).derives
      ((hr.settled.setEnabled hrecord true).onStateChange .OPENING).sound.told
        ⟨honline, hroutes⟩ env _

/-- Every event that meets the condition keeps the queue and the link layers together. -/
theorem Running.step (hr : h.Running) (e : Env LinkSurroundings ε × Event LinkActivity ω')
    (hleaves : h.LeavesNothing e.2) : (h.step e).Running := by
  obtain ⟨hsettled, hconsistent⟩ := step_keeps hr.settled hr.consistent e
  refine ⟨hsettled, hconsistent, ?_⟩
  have ht := hr.settled.sound.told
  -- One case for each event, by the lemma of its function.
  obtain ⟨env, event⟩ := e
  cases event with
  | AddContext session route =>
    show Joined (h.addContext session route).2
    have hadding := h.addContext_adding session route
    generalize (h.addContext session route).2 = h' at hadding
    cases hadding with
    | refused => exact hr.joined
    | added => exact hr.joined.congr rfl rfl rfl
  | Enable session => exact hr.enable env session
  | Disable session => exact hr.disable env hleaves
  | Remove session => exact hr.remove env hleaves
  | Shutdown =>
    show Joined (h.shutdown env)
    unfold shutdown
    split_ifs
    · exact hr.joined
    · have hset : Joined { h with isShutdown := true } := hr.joined.congr rfl rfl rfl
      have hreset := hset.reset (ht.congr rfl rfl)
        ⟨hr.consistent.online, hr.consistent.routes⟩ env.down
      generalize IOHandler.reset { h with isShutdown := true } env.down = h' at hreset ⊢
      have himpl : Joined { h' with derived := Derived.shutdownImpl h'.derived } :=
        hreset.congr rfl rfl rfl
      exact himpl.onStateChange .SHUTDOWN
  | OnRead bytes =>
    show Joined (ite _ _ _)
    split_ifs with hreading
    · exact hr.joined.onReadCallback ht hr.consistent (Option.isSome_of_any hreading) env bytes
    · exact hr.joined
  | OnWrite error =>
    show Joined (ite _ _ _)
    split_ifs with hwriting
    · exact hr.joined.onWriteCallback ht hr.consistent (Option.isSome_of_any hwriting) env error
    · exact hr.joined
  | session session activity =>
    refine hr.joined.act ?_ activity
    cases hopen : h.channel with
    | some channel => exact .inl rfl
    | none => exact .inr (isUp_of_closed ht hr.consistent hopen session)
  | derived act => exact hr.joined.derives ht hr.consistent env _

/-- A session that leaves a transmission behind in the queue breaks the promise at once. -/
theorem Running.leavesNothing (hr : h.Running) (e : Env LinkSurroundings ε × Event LinkActivity ω')
    (hc : (h.step e).Completes) : h.LeavesNothing e.2 := by
  obtain ⟨env, event⟩ := e
  cases event with
  | Disable session =>
    rintro hothers hopen transmission hmem rfl
    obtain ⟨i, record, hrecord, hsession, henabled, honline⟩ := hr.exists_record hmem
    have hfind := find?_of_getElem? hr.settled.sound.told hrecord
    rw [hsession] at hfind
    have hany := (leave_isAnySessionEnabled hr.settled.sound.told env.down hrecord).mpr
      (by rwa [hsession])
    -- The session is disabled while another one keeps the channel open.
    have hstep : h.step (env, .Disable transmission.session) =
        (h.setEnabled i record false).leave env.down i := by
      show (h.disable env transmission.session).2 = _
      unfold IOHandler.disable
      rw [hfind]
      dsimp only
      rw [if_neg (by simp [henabled])]
      exact congrArg Prod.snd (if_pos hany)
    obtain ⟨hi, -⟩ := List.getElem?_eq_some_iff.mp hrecord
    have hset : Joined (h.setEnabled i record false) := hr.joined.congr rfl rfl rfl
    have hbehind := leave_strands hset env.down (List.getElem?_set_self hi) honline hopen hmem
      hsession.symm
    rw [hstep] at hc
    exact absurd (hc.current _ hbehind) Bool.false_ne_true
  | Remove session =>
    rintro hopen transmission hmem rfl
    obtain ⟨i, record, hrecord, hsession, henabled, honline⟩ := hr.exists_record hmem
    have hfind := find?_of_getElem? hr.settled.sound.told hrecord
    rw [hsession] at hfind
    -- The session is removed, and the channel stays open for a moment.
    have hlog : (h.step (env, .Remove transmission.session)).log = (h.leave env.down i).log := by
      show (h.remove env transmission.session).2.log = _
      unfold IOHandler.remove leave
      rw [hfind]
      dsimp only
      rw [if_pos hopen]
      split_ifs <;> rfl
    have hbehind := leave_strands hr.joined env.down hrecord honline hopen hmem hsession.symm
    rw [← hlog] at hbehind
    exact absurd (hc.current _ hbehind) Bool.false_ne_true
  | _ => trivial

/-- In a run of any handler with link layers as its sessions, every state that is reached completes
the transmissions of the present times online, exactly when every step meets the condition. -/
theorem run_completes_iff (close_existing : Bool) (derived : α)
    (configs : SessionId → LinkLayerConfig)
    (events : List (Env LinkSurroundings ε × Event LinkActivity ω')) :
    let start := init close_existing derived fun session =>
      ({ config := configs session } : LinkContext (List UInt8))
    Machine.StepsMeet step (fun h e => (h.step e).Completes) start events ↔
      Machine.StepsMeet step (fun h e => h.LeavesNothing e.2) start events := by
  intro start
  have hstart : start.Running := by
    refine ⟨⟨⟨⟨History.each_nil, fun _ => rfl, .nil⟩, nofun⟩, nofun⟩, ⟨?_, .nil⟩, ?_⟩
    · intro i record hrecord
      simp [start, init] at hrecord
    · exact ⟨fun session => Station.Held.of_init (configs session), fun _ => rfl, rfl,
        History.each_nil⟩
  have hiff : ∀ (h : IOHandler α (LinkContext (List UInt8)) (LinkLayerFrame (List UInt8)))
    e, h.Running →
      ((h.step e).Completes ↔ h.LeavesNothing e.2) :=
    fun h e hr => ⟨hr.leavesNothing e, fun hleaves => (hr.step e hleaves).completes⟩
  exact Machine.StepsMeet.iff_of_invariant step hiff (fun h e hr => hr.step e) hstart events

end Links

/-- A message of one segment. -/
def oneSegment (data : UInt8) : TransportSegment (List UInt8) := ⟨⟨10, 1⟩, [0xC0, data], []⟩

/-- A session leaves a channel that another one keeps open, while its frame is being written. It
comes back and sends again, and then the write ends. -/
def reenabled : List (Event LinkActivity ClientEvent) :=
  [.AddContext 0 ⟨1, 10⟩, .AddContext 1 ⟨2, 10⟩, .Enable 0,
    .derived (.connected 0 false), .Enable 1,
    .session 0 (.send (oneSegment 10)), .Disable 0, .Enable 0, .session 0 (.send (oneSegment 20)),
    .OnWrite false]

/-- The end of the first transmission is told to the session that has begun the second one. -/
theorem not_completes_reenabled :
    ¬(Machine.run step clientHandler (reenabled.map (Prod.mk silentEnv))).Completes := by
  intro h
  -- The tenth entry of the log is the call, and the channel still has the second frame to write.
  have hcompletion := h.completions 10 (.call 0 .OnTxReady) (by decide +kernel)
  revert hcompletion
  show ¬(isUp _ 0 = true → _)
  decide +kernel

end IOHandler

end OpenDnp3.Channel
