import OpenDnp3.Channel.IOHandler
import OpenDnp3.Lib.History

/-!
# What the methods of a handler do

Transmitting keeps the records of the sessions, the derived class and whether there is a channel.
Telling a session that the channel is up or down changes the flag of its record. For every method it
follows which sessions are registered, enabled and online afterwards, whether there is a channel,
and what the derived class has done.
-/

namespace OpenDnp3.Channel

open Link

namespace Session

/-- The record of a session that has been told that the channel is up. -/
def goUp (record : Session) : Session := { record with online := true }

/-- The record of a session that has been told that the channel is down. -/
def goDown (record : Session) : Session := { record with online := false }

/-- What a new channel does to a record. -/
def meetChannel (record : Session) : Session := if record.enabled then record.goUp else record

end Session

namespace IOHandler

variable {α σ κ ω δ ε ω' : Type*}

/-- The records have changed as given, the derived class has not, and there is a channel as before.
-/
structure Turns (f : List Session → List Session) (h h' : IOHandler α σ δ) : Prop where
  sessions : h'.sessions = f h.sessions
  derived : h'.derived = h.derived
  channel : h'.channel.isSome = h.channel.isSome

/-- The records are kept as well. -/
abbrev Kept (h h' : IOHandler α σ δ) : Prop := Turns id h h'

/-- Nothing changes. -/
theorem Kept.refl (h : IOHandler α σ δ) : Kept h h := ⟨rfl, rfl, rfl⟩

/-- Two changes of the records, one after the other. -/
theorem Turns.trans {f g : List Session → List Session} {h h' h'' : IOHandler α σ δ}
    (hf : Turns f h h') (hg : Turns g h' h'') : Turns (g ∘ f) h h'' where
  sessions := by rw [hg.sessions, hf.sessions]; rfl
  derived := hg.derived.trans hf.derived
  channel := hg.channel.trans hf.channel

/-- Two steps that keep the records keep them. -/
theorem Kept.trans {h h' h'' : IOHandler α σ δ} (hk : Kept h h') (hk' : Kept h' h'') :
    Kept h h'' := Turns.trans hk hk'

/-! ## Transmitting -/

/-- To write the first transmission keeps the records. -/
theorem checkForSend_kept (h : IOHandler α σ δ) : Kept h h.checkForSend := by
  unfold checkForSend
  split
  case h_1 hqueue hchannel =>
    split_ifs
    · exact ⟨rfl, rfl, by simp [emit, hchannel]⟩
    · exact .refl h
  case h_2 => exact .refl h

/-- To begin a transmission keeps the records. -/
theorem beginTransmit_kept (h : IOHandler α σ δ) (session : SessionId) (data : δ) :
    Kept h (h.beginTransmit session data) := by
  unfold beginTransmit
  split_ifs
  · obtain ⟨hsessions, hderived, hchannel⟩ := checkForSend_kept
      ({ h with txQueue := h.txQueue ++ [Transmission.mk data session] }.emit
        (.BeginTransmit session data))
    exact ⟨hsessions, hderived, hchannel⟩
  · exact .refl h

/-- What a session transmits keeps the records. -/
theorem transmits_kept (h : IOHandler α σ δ) (session : SessionId) (result : σ × List δ) :
    Kept h (h.transmits session result) := by
  have hlinks : Kept h { h with links := Function.update h.links session result.1 } :=
    ⟨rfl, rfl, rfl⟩
  exact History.foldl_invariant (Kept h) _
    (fun _ data hk => hk.trans (beginTransmit_kept _ session data)) hlinks result.2

section Calls

variable [ILinkSession σ κ ω δ]

/-- A call of a session keeps the records. -/
theorem callSession_kept (h : IOHandler α σ δ) (env : SessionId → κ) (session : SessionId)
    (call : SessionCall) : Kept h (h.callSession env session call) := by
  have hemit : Kept h (h.emit (.call session call)) := ⟨rfl, rfl, rfl⟩
  exact hemit.trans (transmits_kept ..)

/-- A frame for the sessions keeps the records. -/
theorem sendToSession_kept (h : IOHandler α σ δ) (env : SessionId → κ) (frame : SinkFrame) :
    Kept h (h.sendToSession env frame) := by
  refine History.foldl_invariant (Kept h) _ (fun h' i hk => ?_) (.refl h) _
  split
  · split_ifs
    · exact hk.trans (callSession_kept ..)
    · exact hk
  · exact hk

/-- The frames of a read keep the records. -/
theorem onFrames_kept (h : IOHandler α σ δ) (env : ℕ → SessionId → κ) (frames : List SinkFrame) :
    Kept h (h.onFrames env frames) :=
  History.foldl_invariant (Kept h) _ (fun _ _ hk => hk.trans (sendToSession_kept ..))
    (.refl h) _

/-- To begin a read keeps the records. -/
theorem beginRead_kept (h : IOHandler α σ δ) : Kept h h.beginRead :=
  ⟨rfl, rfl, by simp [beginRead]⟩

/-! ## Telling the sessions -/

/-- A record that is set at its place to what `f` makes of it. -/
theorem set_eq_modify {f : Session → Session} {sessions : List Session} {i : ℕ} {record : Session}
    (h : sessions[i]? = some record) : sessions.set i (f record) = sessions.modify i f := by
  rw [List.modify_eq_set_getElem?, h]
  rfl

/-- A function that leaves a record alone leaves the list alone. -/
theorem modify_eq_self {f : Session → Session} {sessions : List Session} {i : ℕ}
    (h : ∀ record, sessions[i]? = some record → f record = record) :
    sessions.modify i f = sessions := by
  ext1 j
  by_cases hj : i = j
  · subst hj
    rw [List.getElem?_modify_eq]
    cases hrecord : sessions[i]? with
    | none => rfl
    | some record => exact congrArg some (h record hrecord)
  · rw [List.getElem?_modify_ne _ _ hj]

/-- What a change of a record does not touch. -/
theorem map_modify {β : Type*} (g : Session → β) (f : Session → Session)
    (hg : ∀ record, g (f record) = g record) (sessions : List Session) (i : ℕ) :
    (sessions.modify i f).map g = sessions.map g := by
  ext1 j
  rw [List.getElem?_map, List.getElem?_map]
  by_cases hj : i = j
  · subst hj
    rw [List.getElem?_modify_eq]
    cases sessions[i]? with
    | none => rfl
    | some record => exact congrArg some (hg record)
  · rw [List.getElem?_modify_ne _ _ hj]

/-- The record of a session goes up. -/
theorem lowerLayerUp_turns (h : IOHandler α σ δ) (env : SessionId → κ) (i : ℕ) :
    Turns (·.modify i Session.goUp) h (h.lowerLayerUp env i) := by
  unfold lowerLayerUp
  split
  case h_1 record hrecord =>
    split_ifs with honline
    · have hsame : h.sessions.modify i Session.goUp = h.sessions := by
        refine modify_eq_self fun record' hrecord' => ?_
        obtain rfl := Option.some.inj (hrecord.symm.trans hrecord')
        simp only [Session.goUp, ← honline]
      exact ⟨hsame.symm, rfl, rfl⟩
    · have hset : Turns (·.modify i Session.goUp) h
          { h with sessions := h.sessions.set i { record with online := true } } :=
        ⟨set_eq_modify (f := Session.goUp) hrecord, rfl, rfl⟩
      exact hset.trans (callSession_kept ..)
  case h_2 hnone =>
    exact ⟨(modify_eq_self fun record hrecord => by cases hnone.symm.trans hrecord).symm, rfl, rfl⟩

/-- The record of a session goes down. -/
theorem lowerLayerDown_turns (h : IOHandler α σ δ) (env : SessionId → κ) (i : ℕ) :
    Turns (·.modify i Session.goDown) h (h.lowerLayerDown env i) := by
  unfold lowerLayerDown
  split
  case h_1 record hrecord =>
    split_ifs with honline
    · have hset : Turns (·.modify i Session.goDown) h
          { h with sessions := h.sessions.set i { record with online := false } } :=
        ⟨set_eq_modify (f := Session.goDown) hrecord, rfl, rfl⟩
      exact hset.trans (callSession_kept ..)
    · have hsame : h.sessions.modify i Session.goDown = h.sessions := by
        refine modify_eq_self fun record' hrecord' => ?_
        obtain rfl := Option.some.inj (hrecord.symm.trans hrecord')
        simp only [Session.goDown, ← Bool.eq_false_iff.mpr honline]
      exact ⟨hsame.symm, rfl, rfl⟩
  case h_2 hnone =>
    exact ⟨(modify_eq_self fun record hrecord => by cases hnone.symm.trans hrecord).symm, rfl, rfl⟩

/-- A loop whose body turns the record at its index turns all records. -/
theorem forSessions_turns (f : Session → Session)
    (body : IOHandler α σ δ → ℕ → IOHandler α σ δ)
    (hbody : ∀ h i, Turns (·.modify i f) h (body h i)) (h : IOHandler α σ δ) :
    Turns (·.map f) h (h.forSessions body) where
  sessions := History.foldl_range_modify sessions body f (fun h i => (hbody h i).sessions) h
  derived := History.foldl_invariant (fun h' => h'.derived = h.derived) body
    (fun h' i hderived => (hbody h' i).derived.trans hderived) rfl _
  channel := History.foldl_invariant (fun h' => h'.channel.isSome = h.channel.isSome) body
    (fun h' i hchannel => (hbody h' i).channel.trans hchannel) rfl _

/-! ## The channel -/

/-- After `Reset` there is no channel and nothing to transmit, and who was online with a channel is
offline. -/
structure Resets (h h' : IOHandler α σ δ) : Prop where
  sessions : h'.sessions = if h.channel.isSome then h.sessions.map Session.goDown else h.sessions
  derived : h'.derived = h.derived
  channel : h'.channel = none
  txQueue : h'.txQueue = []

/-- `Reset` does what its name says. -/
theorem reset_resets (h : IOHandler α σ δ) (env : SessionId → κ) : Resets h (h.reset env) := by
  unfold reset
  split_ifs with hchannel
  · obtain ⟨hsessions, hderived, hnone⟩ :=
      forSessions_turns _ _ (fun h i => h.lowerLayerDown_turns env i)
      (({ h with channel := none }.emit .Shutdown).emit (.OnStateChange .CLOSED))
    exact ⟨hsessions.trans (if_pos hchannel).symm, hderived, Option.not_isSome_iff_eq_none.mp
      (Bool.eq_false_iff.mp hnone), rfl⟩
  · exact ⟨(if_neg hchannel).symm, rfl, by simpa using hchannel, rfl⟩

/-- Some record of the enabled sessions. -/
theorem isAnySessionEnabled_iff (h : IOHandler α σ δ) :
    h.isAnySessionEnabled = true ↔ ∃ i : ℕ, h.sessions[i]?.map Session.enabled = some true := by
  unfold isAnySessionEnabled
  rw [List.any_eq_true]
  constructor
  · rintro ⟨record, hmem, hon⟩
    obtain ⟨i, hi⟩ := List.mem_iff_getElem?.mp hmem
    exact ⟨i, by rw [hi, Option.map_some, hon]⟩
  · rintro ⟨i, hi⟩
    obtain ⟨record, hrecord, hon⟩ := Option.map_eq_some_iff.mp hi
    exact ⟨record, List.mem_of_getElem? hrecord, hon⟩

/-- Telling the sessions about the channel enables none. -/
theorem reset_isAnySessionEnabled (h : IOHandler α σ δ) (env : SessionId → κ) :
    (h.reset env).isAnySessionEnabled = h.isAnySessionEnabled := by
  unfold isAnySessionEnabled
  rw [(h.reset_resets env).sessions]
  split_ifs
  · rw [List.any_map]
    rfl
  · rfl

section Completions

variable [Derived α ε ω']

/-- The end of a read without an error keeps the records. -/
theorem onReadComplete_kept (h : IOHandler α σ δ) (env : Env κ ε) (bytes : List UInt8)
    (hle : bytes.length ≤ h.parser.buffer.numWriteBytes) :
    Kept h (h.onReadComplete env bytes hle) := by
  have hparser : Kept h { h with parser := (h.parser.onRead bytes hle).2 } := ⟨rfl, rfl, rfl⟩
  exact (hparser.trans (onFrames_kept ..)).trans (beginRead_kept _)

/-- The end of a write without an error keeps the records. -/
theorem onWriteComplete_kept (h : IOHandler α σ δ) (env : Env κ ε) :
    Kept h (h.onWriteComplete env) := by
  unfold onWriteComplete
  split
  case h_1 transmission rest hqueue =>
    have hpop : Kept h { h with txQueue := rest } := ⟨rfl, rfl, rfl⟩
    exact (hpop.trans (callSession_kept ..)).trans (checkForSend_kept _)
  case h_2 => exact checkForSend_kept h

end Completions

section Channels

variable [Derived α ε ω']

/-- A channel that is not accepted changes nothing but the log. -/
theorem onNewChannel_refused {h : IOHandler α σ δ} (env : Env κ ε)
    (hrefuse : (h.channel.isSome && !h.close_existing) = true) :
    h.onNewChannel env = h.emit .Refuse := by
  unfold onNewChannel
  rw [if_pos hrefuse]

/-- The handler with a new channel, of which the sessions have not been told. -/
def opened (h : IOHandler α σ δ) (env : SessionId → κ) : IOHandler α σ δ :=
  (({ h.reset env with channel := some ({} : IAsyncChannel).setCallbacks }.emit .SetCallbacks).emit
    (.OnStateChange .OPEN)).beginRead

/-- A channel that is taken is opened, and the enabled sessions go online. -/
theorem onNewChannel_eq {h : IOHandler α σ δ} (env : Env κ ε)
    (haccept : (h.channel.isSome && !h.close_existing) = false) :
    h.onNewChannel env = (h.opened env.down).forSessions fun h i =>
      if h.isEnabled i then h.lowerLayerUp env.up i else h := by
  unfold onNewChannel
  rw [if_neg (Bool.eq_false_iff.mp haccept)]
  rfl

/-- A channel that is accepted is the current one, and all enabled sessions are online. -/
theorem onNewChannel_accepted {h : IOHandler α σ δ} (env : Env κ ε)
    (haccept : (h.channel.isSome && !h.close_existing) = false) :
    (h.onNewChannel env).sessions = (h.reset env.down).sessions.map Session.meetChannel ∧
      (h.onNewChannel env).derived = h.derived ∧ (h.onNewChannel env).channel.isSome = true := by
  have hresets := h.reset_resets env.down
  have hloop := fun h' : IOHandler α σ δ => forSessions_turns Session.meetChannel
    (fun h i => if h.isEnabled i then h.lowerLayerUp env.up i else h) (fun h i => by
      split_ifs with henabled
      · have hup := h.lowerLayerUp_turns env.up i
        refine ⟨hup.sessions.trans ?_, hup.derived, hup.channel⟩
        ext1 j
        by_cases hj : i = j
        · subst hj
          rw [List.getElem?_modify_eq, List.getElem?_modify_eq]
          unfold isEnabled at henabled
          cases hrecord : h.sessions[i]? with
          | none => rfl
          | some record =>
            rw [hrecord] at henabled
            exact congrArg some (if_pos henabled).symm
        · rw [List.getElem?_modify_ne _ _ hj, List.getElem?_modify_ne _ _ hj]
      · refine ⟨(modify_eq_self fun record hrecord => ?_).symm, rfl, rfl⟩
        unfold isEnabled at henabled
        rw [hrecord] at henabled
        exact if_neg henabled) h'
  rw [onNewChannel_eq env haccept]
  obtain ⟨hsessions, hderived, hchannel⟩ := hloop (h.opened env.down)
  exact ⟨hsessions, hderived.trans hresets.derived, hchannel⟩

/-- A new channel enables no session. -/
theorem onNewChannel_isAnySessionEnabled {h : IOHandler α σ δ} (env : Env κ ε)
    (haccept : (h.channel.isSome && !h.close_existing) = false) :
    (h.onNewChannel env).isAnySessionEnabled = h.isAnySessionEnabled := by
  rw [← reset_isAnySessionEnabled h env.down]
  unfold isAnySessionEnabled
  rw [(onNewChannel_accepted env haccept).1, List.any_map]
  congr 1
  funext record
  simp only [Function.comp_apply, Session.meetChannel]
  split_ifs <;> rfl

/-- Without a channel only the derived class changes. -/
theorem derives_of_false {h : IOHandler α σ δ} (env : Env κ ε) {result : α × Bool}
    (hresult : result.2 = false) : h.derives env result = { h with derived := result.1 } := by
  unfold derives
  rw [hresult]
  rfl

/-- A channel of the derived class is a new channel. -/
theorem derives_of_true {h : IOHandler α σ δ} (env : Env κ ε) {result : α × Bool}
    (hresult : result.2 = true) :
    h.derives env result = onNewChannel { h with derived := result.1 } env := by
  unfold derives
  rw [hresult]
  rfl

end Channels

/-! ## Registering, enabling and removing sessions -/

/-- What is found is a record of the session. -/
theorem find?_eq_some {h : IOHandler α σ δ} {session : SessionId} {record : Session} {i : ℕ}
    (hfind : h.find? session = some (record, i)) :
    h.sessions[i]? = some record ∧ record.session = session := by
  unfold find? at hfind
  have hmem := List.mem_zipIdx_iff_getElem?.mp (List.mem_of_find?_eq_some hfind)
  have hsession := List.find?_some hfind
  exact ⟨hmem, by simpa using hsession⟩

/-- The record at an index is enabled or not. -/
def setEnabled (h : IOHandler α σ δ) (i : ℕ) (record : Session) (enabled : Bool) :
    IOHandler α σ δ :=
  { h with sessions := h.sessions.set i { record with enabled := enabled } }

/-- The session at an index is told that the channel is down, if there is one. -/
def leave (h : IOHandler α σ δ) (env : SessionId → κ) (i : ℕ) : IOHandler α σ δ :=
  if h.channel.isSome then h.lowerLayerDown env i else h

/-- The session at an index has left the channel. -/
theorem leave_turns (h : IOHandler α σ δ) (env : SessionId → κ) (i : ℕ) :
    Turns (if h.channel.isSome then (·.modify i Session.goDown) else id) h (h.leave env i) := by
  unfold leave
  split_ifs
  · exact h.lowerLayerDown_turns env i
  · exact Kept.refl h

/-- Leaving the channel keeps who is enabled. -/
theorem getElem?_leave_enabled (h : IOHandler α σ δ) (env : SessionId → κ) (i j : ℕ) :
    ((h.leave env i).sessions[j]?).map Session.enabled = h.sessions[j]?.map Session.enabled := by
  have hmap : (h.leave env i).sessions.map Session.enabled = h.sessions.map Session.enabled := by
    rw [(h.leave_turns env i).sessions]
    split_ifs
    · exact map_modify _ Session.goDown (fun _ => rfl) _ _
    · rfl
  rw [← List.getElem?_map, hmap, List.getElem?_map]

/-- The record at an index is removed. -/
def erase (h : IOHandler α σ δ) (i : ℕ) : IOHandler α σ δ :=
  { h with sessions := h.sessions.eraseIdx i }

/-- What `AddContext` can do. -/
inductive Adding (h : IOHandler α σ δ) (session : SessionId) (route : Route) :
    IOHandler α σ δ → Prop
  | refused : Adding h session route h
  | added (hroute : ∀ record ∈ h.sessions, record.route ≠ route)
      (hsession : ∀ record ∈ h.sessions, record.session ≠ session) :
      Adding h session route
        { h with sessions := h.sessions ++ [{ route := route, session := session }] }

/-- `AddContext` adds a record, or refuses. -/
theorem addContext_adding (h : IOHandler α σ δ) (session : SessionId) (route : Route) :
    Adding h session route (h.addContext session route).2 := by
  unfold addContext
  split_ifs with hroute hsession
  · exact .refused
  · exact .refused
  · refine .added (fun record hmem heq => hroute ?_) fun record hmem heq => hsession ?_
    · exact List.any_eq_true.mpr ⟨record, hmem, decide_eq_true heq⟩
    · exact List.any_eq_true.mpr ⟨record, hmem, decide_eq_true heq⟩

section Sessions

variable [Derived α ε ω']

/-- What `Enable` can do. -/
inductive Enabling (h : IOHandler α σ δ) (env : Env κ ε) (session : SessionId) :
    IOHandler α σ δ → Prop
  | same : Enabling h env session h
  | up {record : Session} {i : ℕ} (hrecord : h.sessions[i]? = some record)
      (hsession : record.session = session) (hoff : record.enabled = false)
      (hchannel : h.channel.isSome = true) :
      Enabling h env session ((h.setEnabled i record true).lowerLayerUp env.up i)
  | accept {record : Session} {i : ℕ} (hrecord : h.sessions[i]? = some record)
      (hsession : record.session = session) (hoff : record.enabled = false)
      (hchannel : h.channel = none) :
      Enabling h env session
        (((h.setEnabled i record true).emit (.OnStateChange .OPENING)).beginChannelAccept env)

/-- `Enable` does one of the things that `Enabling` lists. -/
theorem enable_enabling (h : IOHandler α σ δ) (env : Env κ ε) (session : SessionId) :
    Enabling h env session (h.enable env session).2 := by
  unfold enable
  split
  case h_1 => exact .same
  case h_2 record i hfind =>
    obtain ⟨hrecord, hsession⟩ := find?_eq_some hfind
    dsimp only
    split_ifs with henabled hchannel
    · exact .same
    · exact .up hrecord hsession (Bool.eq_false_iff.mpr henabled) hchannel
    · exact .accept hrecord hsession (Bool.eq_false_iff.mpr henabled)
        (Option.not_isSome_iff_eq_none.mp hchannel)

/-- What `Disable` can do. -/
inductive Disabling (h : IOHandler α σ δ) (env : Env κ ε) (session : SessionId) :
    IOHandler α σ δ → Prop
  | same : Disabling h env session h
  | others {record : Session} {i : ℕ} (hrecord : h.sessions[i]? = some record)
      (hsession : record.session = session) (hon : record.enabled = true)
      (hany : ((h.setEnabled i record false).leave env.down i).isAnySessionEnabled = true) :
      Disabling h env session ((h.setEnabled i record false).leave env.down i)
  | last {record : Session} {i : ℕ} (hrecord : h.sessions[i]? = some record)
      (hsession : record.session = session) (hon : record.enabled = true)
      (hnone : ((h.setEnabled i record false).leave env.down i).isAnySessionEnabled = false) :
      Disabling h env session
        ((((h.setEnabled i record false).leave env.down i).reset env.down).suspendChannelAccept)

/-- `Disable` does one of the things that `Disabling` lists. -/
theorem disable_disabling (h : IOHandler α σ δ) (env : Env κ ε) (session : SessionId) :
    Disabling h env session (h.disable env session).2 := by
  unfold disable
  split
  case h_1 => exact .same
  case h_2 record i hfind =>
    obtain ⟨hrecord, hsession⟩ := find?_eq_some hfind
    by_cases hon : record.enabled = true
    · rw [if_neg (by simp [hon])]
      by_cases hany : ((h.setEnabled i record false).leave env.down i).isAnySessionEnabled = true
      · exact (congrArg (Disabling h env session) (congrArg Prod.snd (if_pos hany))).mpr
          (.others hrecord hsession hon hany)
      · exact (congrArg (Disabling h env session) (congrArg Prod.snd (if_neg hany))).mpr
          (.last hrecord hsession hon (Bool.eq_false_iff.mpr hany))
    · rw [if_pos (by simpa using hon)]
      exact .same

/-- What `Remove` can do. -/
inductive Removing (h : IOHandler α σ δ) (env : Env κ ε) (session : SessionId) :
    IOHandler α σ δ → Prop
  | same : Removing h env session h
  | others {record : Session} {i : ℕ} (hrecord : h.sessions[i]? = some record)
      (hsession : record.session = session)
      (hany : ((h.leave env.down i).erase i).isAnySessionEnabled = true) :
      Removing h env session ((h.leave env.down i).erase i)
  | last {record : Session} {i : ℕ} (hrecord : h.sessions[i]? = some record)
      (hsession : record.session = session)
      (hnone : ((h.leave env.down i).erase i).isAnySessionEnabled = false) :
      Removing h env session ((h.leave env.down i).erase i).suspendChannelAccept

/-- `Remove` does one of the things that `Removing` lists. -/
theorem remove_removing (h : IOHandler α σ δ) (env : Env κ ε) (session : SessionId) :
    Removing h env session (h.remove env session).2 := by
  unfold remove
  split
  case h_1 => exact .same
  case h_2 record i hfind =>
    obtain ⟨hrecord, hsession⟩ := find?_eq_some hfind
    by_cases hany : ((h.leave env.down i).erase i).isAnySessionEnabled = true
    · exact (congrArg (Removing h env session) (congrArg Prod.snd (if_pos hany))).mpr
        (.others hrecord hsession hany)
    · exact (congrArg (Removing h env session) (congrArg Prod.snd (if_neg hany))).mpr
        (.last hrecord hsession (Bool.eq_false_iff.mpr hany))

end Sessions

end Calls

end IOHandler

end OpenDnp3.Channel
