import OpenDnp3.Channel.Calls

/-!
# The life cycle of the sessions of a channel

Between two events a session is online exactly while it is enabled and there is a channel; it is
told so in turns; and what is transmitted while a channel is open is written in order, one at a
time. The log says what has been told to whom and how far the writing has come; every output is
allowed after what is in the log before it.
-/

namespace OpenDnp3.Channel

open Link

namespace IOHandler

variable {α σ κ ω δ ε ω' : Type*}

section Calls

variable [ILinkSession σ κ ω δ]

section Channels

variable [Derived α ε ω']

/-! ## What holds between two events -/

/-- A session is online exactly while it is enabled and there is a channel, and routes are not
shared. -/
structure Consistent (h : IOHandler α σ δ) : Prop where
  online : ∀ (i : ℕ) (record : Session), h.sessions[i]? = some record →
    record.online = (record.enabled && h.channel.isSome)
  routes : h.sessions.Pairwise fun a b => a.route ≠ b.route

/-- Routes are not shared by records that have been turned. -/
theorem Consistent.routes_turned {h : IOHandler α σ δ} (hc : h.Consistent) {sessions : List Session}
    (hsame : sessions.map Session.route = h.sessions.map Session.route) :
    sessions.Pairwise fun a b => a.route ≠ b.route := by
  have hpairwise (l : List Session) : l.Pairwise (fun a b => a.route ≠ b.route) ↔
      (l.map Session.route).Pairwise (· ≠ ·) := List.pairwise_map.symm
  rw [hpairwise, hsame, ← hpairwise]
  exact hc.routes

/-- After a reset nobody is online. -/
theorem Consistent.reset {h : IOHandler α σ δ} (hc : h.Consistent) (env : SessionId → κ) :
    (h.reset env).Consistent ∧ (h.reset env).channel = none := by
  obtain ⟨hsessions, -, hnone, -⟩ := h.reset_resets env
  refine ⟨⟨fun i record hrecord => ?_, hc.routes_turned ?_⟩, hnone⟩
  · rw [hnone]
    rw [hsessions] at hrecord
    split_ifs at hrecord with hchannel
    · rw [List.getElem?_map] at hrecord
      obtain ⟨record', -, rfl⟩ := Option.map_eq_some_iff.mp hrecord
      exact (Bool.and_false _).symm
    · rw [hc.online i record hrecord, Bool.eq_false_iff.mpr hchannel]
      rfl
  · rw [hsessions]
    split_ifs
    · rw [List.map_map]
      rfl
    · rfl

/-- With a new channel the enabled sessions are online. -/
theorem Consistent.onNewChannel {h : IOHandler α σ δ} (hc : h.Consistent) (env : Env κ ε) :
    (h.onNewChannel env).Consistent := by
  cases hrefuse : h.channel.isSome && !h.close_existing with
  | true =>
    rw [onNewChannel_refused env hrefuse]
    exact ⟨hc.online, hc.routes⟩
  | false =>
    obtain ⟨hsessions, -, hsome⟩ := onNewChannel_accepted env hrefuse
    obtain ⟨⟨honline, hroutes⟩, hnone⟩ := hc.reset env.down
    refine ⟨fun i record hrecord => ?_, ?_⟩
    · rw [hsessions, List.getElem?_map] at hrecord
      obtain ⟨record', hrecord', rfl⟩ := Option.map_eq_some_iff.mp hrecord
      have hoff := honline i record' hrecord'
      rw [hnone] at hoff
      rw [hsome]
      unfold Session.meetChannel
      split_ifs with henabled
      · simp [Session.goUp, henabled]
      · simp [hoff, Bool.eq_false_iff.mpr henabled]
    · refine (hc.reset env.down).1.routes_turned ?_
      rw [hsessions, List.map_map]
      refine List.map_congr_left fun record _ => ?_
      simp only [Function.comp_apply, Session.meetChannel]
      split_ifs <;> rfl

/-- What the derived class does keeps the records right. -/
theorem Consistent.derives {h : IOHandler α σ δ} (hc : h.Consistent) (env : Env κ ε)
    (result : α × Bool) : (h.derives env result).Consistent := by
  have hsame : Consistent { h with derived := result.1 } := ⟨hc.online, hc.routes⟩
  unfold IOHandler.derives
  dsimp only
  split_ifs
  · exact hsame.onNewChannel env
  · exact hsame

/-- Transmitting keeps the records. -/
theorem Consistent.kept {h h' : IOHandler α σ δ} (hc : h.Consistent) (hk : Kept h h') :
    h'.Consistent where
  online i record hrecord := by
    rw [hk.channel]
    exact hc.online i record (by rwa [hk.sessions] at hrecord)
  routes := by
    rw [hk.sessions]
    exact hc.routes

/-- An error takes the sessions offline, since there is no channel. -/
theorem Consistent.onChannelError {h : IOHandler α σ δ} (hc : h.Consistent) (env : Env κ ε) :
    (h.onChannelError env).Consistent := by
  obtain ⟨⟨honline, hroutes⟩, -⟩ := hc.reset env.down
  have hemit : Consistent ((h.reset env.down).emit (.OnStateChange .OPENING)) := ⟨honline, hroutes⟩
  exact hemit.derives env _

/-- The end of a read keeps the records right. -/
theorem Consistent.onReadCallback {h : IOHandler α σ δ} (hc : h.Consistent) (env : Env κ ε)
    (bytes : Option (List UInt8)) : (h.onReadCallback env bytes).Consistent := by
  have hend : Consistent { h with channel := h.channel.map IAsyncChannel.endRead } :=
    hc.kept ⟨rfl, rfl, by simp⟩
  unfold IOHandler.onReadCallback
  cases bytes with
  | none => exact hend.onChannelError env
  | some bytes =>
    dsimp only
    split_ifs
    · exact hend.kept (onReadComplete_kept ..)
    · exact hend

/-- The end of a write keeps the records right. -/
theorem Consistent.onWriteCallback {h : IOHandler α σ δ} (hc : h.Consistent) (env : Env κ ε)
    (error : Bool) : (h.onWriteCallback env error).Consistent := by
  have hend : Consistent { h with channel := h.channel.map IAsyncChannel.endWrite } :=
    hc.kept ⟨rfl, rfl, by simp⟩
  unfold IOHandler.onWriteCallback
  dsimp only
  split_ifs
  · exact hend.onChannelError env
  · exact hend.kept (onWriteComplete_kept ..)

/-! ### Registering, enabling and removing -/

/-- A session that is added is neither enabled nor online. -/
theorem Adding.keeps {h h' : IOHandler α σ δ} {session : SessionId} {route : Route}
    (ha : Adding h session route h') (hs : h.Settled) (hc : h.Consistent) :
    h'.Settled ∧ h'.Consistent := by
  cases ha with
  | refused => exact ⟨hs, hc⟩
  | added hroute hsession =>
    refine ⟨⟨⟨⟨hs.sound.told.allowed, fun session' => ?_, ?_⟩, hs.sound.ordered⟩, hs.busy⟩, ?_, ?_⟩
    · refine (hs.sound.told.up session').trans ?_
      unfold isOnline
      simp
    · refine List.pairwise_append.mpr ⟨hs.sound.told.distinct, List.pairwise_singleton _ _, ?_⟩
      intro record hmem new hnew
      obtain rfl := List.mem_singleton.mp hnew
      exact hsession record hmem
    · intro i record hrecord
      rcases Nat.lt_or_ge i h.sessions.length with hlt | hge
      · rw [List.getElem?_append_left hlt] at hrecord
        exact hc.online i record hrecord
      · rw [List.getElem?_append_right hge] at hrecord
        obtain rfl := List.mem_singleton.mp (List.mem_of_getElem? hrecord)
        rfl
    · refine List.pairwise_append.mpr ⟨hc.routes, List.pairwise_singleton _ _, ?_⟩
      intro record hmem new hnew
      obtain rfl := List.mem_singleton.mp hnew
      exact hroute record hmem

/-- One record has changed and agrees with the channel. -/
theorem Consistent.change {h h' : IOHandler α σ δ} (hc : h.Consistent) (i : ℕ) (record : Session)
    (hrecord : h'.sessions[i]? = some record)
    (honline : record.online = (record.enabled && h.channel.isSome))
    (hothers : ∀ j, i ≠ j → h'.sessions[j]? = h.sessions[j]?)
    (hroutes : h'.sessions.map Session.route = h.sessions.map Session.route)
    (hchannel : h'.channel.isSome = h.channel.isSome) : h'.Consistent where
  online j record' hrecord' := by
    rw [hchannel]
    by_cases hj : i = j
    · subst hj
      obtain rfl := Option.some.inj (hrecord.symm.trans hrecord')
      exact honline
    · exact hc.online j record' (hothers j hj ▸ hrecord')
  routes := hc.routes_turned hroutes

/-- The routes after a record has been enabled or disabled. -/
theorem map_route_setEnabled {h : IOHandler α σ δ} {i : ℕ} {record : Session}
    (hrecord : h.sessions[i]? = some record) (enabled : Bool) :
    (h.setEnabled i record enabled).sessions.map Session.route = h.sessions.map Session.route := by
  have hset := set_eq_modify (f := fun record => { record with enabled := enabled }) hrecord
  exact (congrArg _ hset).trans
    (map_modify _ (fun record : Session => { record with enabled := enabled }) (fun _ => rfl) _ _)

/-- Without a channel a record is enabled or disabled alone. -/
theorem Consistent.setEnabled {h : IOHandler α σ δ} (hc : h.Consistent) {i : ℕ} {record : Session}
    (hrecord : h.sessions[i]? = some record) (hchannel : h.channel = none) (enabled : Bool) :
    (h.setEnabled i record enabled).Consistent := by
  obtain ⟨hi, -⟩ := List.getElem?_eq_some_iff.mp hrecord
  have honline := hc.online i record hrecord
  rw [hchannel] at honline
  refine hc.change i { record with enabled := enabled } (List.getElem?_set_self hi) ?_
    (fun j hj => List.getElem?_set_ne hj) (map_route_setEnabled hrecord enabled) rfl
  rw [hchannel, honline]
  exact (Bool.and_false _).trans (Bool.and_false _).symm

/-- A session that is enabled goes online, if there is a channel. -/
theorem Enabling.keeps {h h' : IOHandler α σ δ} {env : Env κ ε} {session : SessionId}
    (he : Enabling h env session h') (hs : h.Settled) (hc : h.Consistent) :
    h'.Settled ∧ h'.Consistent := by
  cases he with
  | same => exact ⟨hs, hc⟩
  | @up record i hrecord hsession hoff hchannel =>
    -- The record is enabled first, then its session comes online or a connection is begun.
    have hset := hs.setEnabled hrecord true
    obtain ⟨hsound, hbusy⟩ := hset.sound.lowerLayerUp env.up i
    have hturns := (h.setEnabled i record true).lowerLayerUp_turns env.up i
    obtain ⟨hi, -⟩ := List.getElem?_eq_some_iff.mp hrecord
    refine ⟨⟨hsound, hbusy hset.busy⟩, hc.change i
      { record with enabled := true, online := true } ?_ ?_ (fun j hj => ?_) ?_
      hturns.channel⟩
    · rw [hturns.sessions, List.getElem?_modify_eq]
      exact congrArg (Option.map Session.goUp) (List.getElem?_set_self hi)
    · rw [hchannel]
      rfl
    · rw [hturns.sessions, List.getElem?_modify_ne _ _ hj]
      exact List.getElem?_set_ne hj
    · rw [hturns.sessions]
      exact (map_modify _ Session.goUp (fun _ => rfl) _ _).trans
        (map_route_setEnabled hrecord true)
  | @accept record i hrecord hsession hoff hchannel =>
    have hset := hs.setEnabled hrecord true
    obtain ⟨honline, hroutes⟩ := hc.setEnabled hrecord hchannel true
    have hconsistent : Consistent ((h.setEnabled i record true).emit (.OnStateChange .OPENING)) :=
      ⟨honline, hroutes⟩
    exact ⟨(hset.onStateChange .OPENING).derives env _, hconsistent.derives env _⟩

/-- A disabled session that has left the channel. -/
theorem leave_disabled {h : IOHandler α σ δ} (hs : h.Settled) (hc : h.Consistent)
    (env : SessionId → κ) {i : ℕ} {record : Session} (hrecord : h.sessions[i]? = some record) :
    ((h.setEnabled i record false).leave env i).Settled ∧
      ((h.setEnabled i record false).leave env i).Consistent := by
  obtain ⟨hi, -⟩ := List.getElem?_eq_some_iff.mp hrecord
  have hset := hs.setEnabled hrecord false
  refine ⟨hset.leave env i, ?_⟩
  unfold leave
  split_ifs with hchannel
  · have hturns := (h.setEnabled i record false).lowerLayerDown_turns env i
    refine hc.change i { record with enabled := false, online := false } ?_ rfl
      (fun j hj => ?_) ?_ hturns.channel
    · rw [hturns.sessions, List.getElem?_modify_eq]
      exact congrArg (Option.map Session.goDown) (List.getElem?_set_self hi)
    · rw [hturns.sessions, List.getElem?_modify_ne _ _ hj]
      exact List.getElem?_set_ne hj
    · rw [hturns.sessions]
      exact (map_modify _ Session.goDown (fun _ => rfl) _ _).trans
        (map_route_setEnabled hrecord false)
  · exact hc.setEnabled hrecord (Option.not_isSome_iff_eq_none.mp hchannel) false

/-- A session that is disabled goes offline. -/
theorem Disabling.keeps {h h' : IOHandler α σ δ} {env : Env κ ε} {session : SessionId}
    (hd : Disabling h env session h') (hs : h.Settled) (hc : h.Consistent) :
    h'.Settled ∧ h'.Consistent := by
  cases hd with
  | same => exact ⟨hs, hc⟩
  | others hrecord => exact leave_disabled hs hc env.down hrecord
  | last hrecord =>
    obtain ⟨hsettled, hconsistent⟩ := leave_disabled hs hc env.down hrecord
    obtain ⟨⟨honline, hroutes⟩, -⟩ := hconsistent.reset env.down
    exact ⟨(hsettled.sound.told.reset env.down).suspendChannelAccept, honline, hroutes⟩

/-- A session that has left the channel and is removed. -/
theorem erase_left {h : IOHandler α σ δ} (hs : h.Settled) (hc : h.Consistent)
    (env : SessionId → κ) {i : ℕ} {record : Session} (hrecord : h.sessions[i]? = some record) :
    ((h.leave env i).erase i).Settled ∧ ((h.leave env i).erase i).Consistent := by
  -- The session goes offline before its record is erased, if there is a channel.
  have hleft : Turns (·.modify i Session.goDown) h (h.leave env i) := by
    unfold leave
    split_ifs with hchannel
    · exact h.lowerLayerDown_turns env i
    · refine ⟨(modify_eq_self fun record' hrecord' => ?_).symm, rfl, rfl⟩
      have honline := hc.online i record' hrecord'
      rw [Bool.eq_false_iff.mpr hchannel, Bool.and_false] at honline
      simp only [Session.goDown, ← honline]
  have hgone : (h.leave env i).sessions[i]? = some record.goDown := by
    rw [hleft.sessions, List.getElem?_modify_eq, hrecord]
    rfl
  refine ⟨(hs.leave env i).erase hgone rfl, fun j record' hrecord' => ?_, ?_⟩
  · -- The records that are left are those at the other indices.
    have hother : ∃ k, i ≠ k ∧ (h.leave env i).sessions[k]? = some record' := by
      obtain ⟨k, hk, hrecord'⟩ :=
        List.mem_eraseIdx_iff_getElem?.mp (List.mem_of_getElem? hrecord')
      exact ⟨k, hk.symm, hrecord'⟩
    obtain ⟨k, hk, hrecord'⟩ := hother
    rw [hleft.sessions, List.getElem?_modify_ne _ _ hk] at hrecord'
    rw [hc.online k record' hrecord', ← hleft.channel]
    rfl
  · have hroutes : (h.leave env i).sessions.Pairwise fun a b => a.route ≠ b.route := by
      refine hc.routes_turned ?_
      rw [hleft.sessions]
      exact map_modify _ Session.goDown (fun _ => rfl) _ _
    exact hroutes.sublist (List.eraseIdx_sublist _ _)

/-- A session that is removed goes offline before its record goes. -/
theorem Removing.keeps {h h' : IOHandler α σ δ} {env : Env κ ε} {session : SessionId}
    (hr : Removing h env session h') (hs : h.Settled) (hc : h.Consistent) :
    h'.Settled ∧ h'.Consistent := by
  cases hr with
  | same => exact ⟨hs, hc⟩
  | others hrecord => exact erase_left hs hc env.down hrecord
  | last hrecord =>
    obtain ⟨hsettled, honline, hroutes⟩ := erase_left hs hc env.down hrecord
    exact ⟨hsettled.suspendChannelAccept, honline, hroutes⟩

/-- Every event keeps both. -/
theorem step_keeps {h : IOHandler α σ δ} (hs : h.Settled) (hc : h.Consistent)
    (e : Env κ ε × Event ω ω') : (h.step e).Settled ∧ (h.step e).Consistent := by
  -- One case for each event, by the lemma of its function.
  obtain ⟨env, event⟩ := e
  cases event with
  | AddContext session route => exact (h.addContext_adding session route).keeps hs hc
  | Enable session => exact (h.enable_enabling env session).keeps hs hc
  | Disable session => exact (h.disable_disabling env session).keeps hs hc
  | Remove session => exact (h.remove_removing env session).keeps hs hc
  | Shutdown =>
    show (h.shutdown env).Settled ∧ (h.shutdown env).Consistent
    unfold shutdown
    split_ifs
    · exact ⟨hs, hc⟩
    · have hset : Settled { h with isShutdown := true } :=
        hs.congr rfl rfl rfl fun channel hchannel => ⟨channel, hchannel, rfl, rfl, rfl⟩
      have hconsistent : Consistent { h with isShutdown := true } := ⟨hc.online, hc.routes⟩
      obtain ⟨⟨honline, hroutes⟩, -⟩ := hconsistent.reset env.down
      refine ⟨Settled.onStateChange ?_ .SHUTDOWN, honline, hroutes⟩
      exact (hset.sound.told.reset env.down).congr rfl rfl rfl
        fun channel hchannel => ⟨channel, hchannel, rfl, rfl, rfl⟩
  | OnRead bytes =>
    show Settled (ite _ _ _) ∧ Consistent (ite _ _ _)
    split_ifs
    · exact ⟨hs.onReadCallback env bytes, hc.onReadCallback env bytes⟩
    · exact ⟨hs, hc⟩
  | OnWrite error =>
    show Settled (ite _ _ _) ∧ Consistent (ite _ _ _)
    split_ifs with hwriting
    · exact ⟨hs.onWriteCallback env error hwriting, hc.onWriteCallback env error⟩
    · exact ⟨hs, hc⟩
  | session session act =>
    obtain ⟨hsound, hbusy⟩ := hs.sound.transmits session
      (ILinkSession.act (h.links session) act)
    exact ⟨⟨hsound, hbusy hs.busy⟩, hc.kept (transmits_kept ..)⟩
  | derived act => exact ⟨hs.derives env _, hc.derives env _⟩

/-- The life cycle of the sessions between two events. -/
structure LifeCycle (h : IOHandler α σ δ) : Prop where
  /-- A session is online exactly while it is enabled and there is a channel. -/
  online : ∀ record ∈ h.sessions, record.online = (record.enabled && h.channel.isSome)
  /-- It has been told so, in turns and up first; and every write was the next one of the channel.
  -/
  told : ∀ record ∈ h.sessions, isUp h.log record.session = record.online
  allowed : History.Each Allowed h.log
  /-- No two records share a route or a session. -/
  routes : h.sessions.Pairwise fun a b => a.route ≠ b.route
  distinct : h.sessions.Pairwise fun a b => a.session ≠ b.session
  /-- What the sessions have begun since the channel was opened is done, being written or in the
  queue, in this order, and something is being written unless all is done. -/
  progress : ∀ channel, h.channel = some channel →
    Progress h.log h.txQueue channel.writing ∧ (channel.writing = true ↔ h.txQueue ≠ [])

/-- In every run, for any sessions and any derived class, the sessions have a life cycle. -/
theorem run_lifeCycle (close_existing : Bool) (derived : α) (links : SessionId → σ)
    (events : List (Env κ ε × Event ω ω')) :
    (Machine.run step (init close_existing derived links) events).LifeCycle := by
  have hinit : Settled (init close_existing derived links : IOHandler α σ δ) ∧
      Consistent (init close_existing derived links : IOHandler α σ δ) := by
    refine ⟨⟨⟨⟨History.each_nil, fun _ => rfl, .nil⟩, nofun⟩, nofun⟩, ?_, .nil⟩
    intro i record hrecord
    simp [init] at hrecord
  have hstep : ∀ (h : IOHandler α σ δ) (e : Env κ ε × Event ω ω'),
      h.Settled ∧ h.Consistent → (h.step e).Settled ∧ (h.step e).Consistent :=
    fun h e hh => step_keeps hh.1 hh.2 e
  obtain ⟨hs, hc⟩ := Machine.run_of_step step hstep hinit events
  refine ⟨fun record hmem => ?_, fun record hmem => ?_, hs.sound.told.allowed, hc.routes,
    hs.sound.told.distinct, fun channel hchannel => ?_⟩
  · obtain ⟨i, hi⟩ := List.mem_iff_getElem?.mp hmem
    exact hc.online i record hi
  · obtain ⟨i, hi⟩ := List.mem_iff_getElem?.mp hmem
    rw [hs.sound.told.up, hs.sound.told.isOnline_of_getElem? hi]
  · obtain ⟨-, -, hprogress⟩ := hs.sound.ordered channel hchannel
    exact ⟨hprogress, hprogress.nonempty, hs.busy channel hchannel⟩

end Channels

end Calls

end IOHandler

end OpenDnp3.Channel
