import OpenDnp3.Channel.IOHandlerSpec
import OpenDnp3.Channel.LinkSession
import OpenDnp3.Channel.TCPClientIOHandler

/-!
# One connection at a time

While sessions are enabled one after the other and disabled in time, a client handler is in one of
three phases: it does nothing by itself, it waits for the end of its one connection attempt, or for
its one retry timer. It leaves them when a second session is enabled while there is no channel yet,
when the last enabled session is removed while there is one, and when it is suspended after its
timer has expired.
-/

namespace OpenDnp3.Channel

namespace TimerRef

variable {β : Type*} {timer : TimerRef β} {id : ℕ} {action : β}

/-- No timer is active and none will do anything. -/
structure Free (timer : TimerRef β) : Prop where
  pTimer : timer.pTimer = none
  running : timer.running = []
  expired : timer.expired = []

/-- One timer is active: it runs, or its action is about to be run. -/
structure Active (timer : TimerRef β) (id : ℕ) (action : β) : Prop where
  pTimer : timer.pTimer = some id
  once : timer.running = [(id, action)] ∧ timer.expired = [] ∨
    timer.running = [] ∧ timer.expired = [(id, action)]

/-- A timer that is free is started. -/
theorem Free.start (h : timer.Free) (action : β) :
    (timer.start action).Active timer.started action := by
  unfold TimerRef.start
  rw [h.pTimer]
  exact ⟨rfl, .inl ⟨by simp [h.running], h.expired⟩⟩

/-- A timer that is free stays so when it is cancelled. -/
theorem Free.cancel (h : timer.Free) : timer.cancel.Free := by
  unfold TimerRef.cancel
  rw [h.pTimer]
  exact h

/-- No expiry is left for a timer that is free. -/
theorem Free.expire (h : timer.Free) (id : ℕ) : (timer.expire id).Free :=
  ⟨h.pTimer, by simp [TimerRef.expire, h.running], by simp [TimerRef.expire, h.running, h.expired]⟩

/-- A timer that is free does not fire. -/
theorem Free.fire (h : timer.Free) (id : ℕ) : timer.fire id = none := by
  simp [TimerRef.fire, h.expired]

/-- A timer that has not expired can be cancelled. -/
theorem Active.cancel (h : timer.Active id action) (hexpired : timer.expired = []) :
    timer.cancel.Free := by
  unfold TimerRef.cancel
  rw [h.pTimer]
  obtain ⟨hrunning, -⟩ | ⟨hrunning, -⟩ := h.once
  · exact ⟨rfl, by simp [hrunning], hexpired⟩
  · exact ⟨rfl, by simp [hrunning], hexpired⟩

/-- An active timer stays so while another one expires. -/
theorem Active.expire (h : timer.Active id action) (other : ℕ) :
    (timer.expire other).Active id action := by
  refine ⟨h.pTimer, ?_⟩
  unfold TimerRef.expire
  by_cases hid : id = other
  · subst hid
    obtain ⟨hrunning, hexpired⟩ | ⟨hrunning, hexpired⟩ := h.once
    · exact .inr ⟨by simp [hrunning], by simp [hrunning, hexpired]⟩
    · exact .inr ⟨by simp [hrunning], by simp [hrunning, hexpired]⟩
  · obtain ⟨hrunning, hexpired⟩ | ⟨hrunning, hexpired⟩ := h.once
    · exact .inl ⟨by simp [hrunning, hid], by simp [hrunning, hexpired, hid]⟩
    · exact .inr ⟨by simp [hrunning], by simp [hrunning, hexpired]⟩

/-- The action that is run is that of the active timer. -/
theorem Active.fire (h : timer.Active id action) {other : ℕ} {action' : β} {timer' : TimerRef β}
    (hfire : timer.fire other = some (action', timer')) : timer'.Free := by
  unfold TimerRef.fire at hfire
  obtain ⟨entry, hfind, heq⟩ := Option.map_eq_some_iff.mp hfire
  obtain ⟨rfl, rfl⟩ := Prod.mk.inj heq
  obtain ⟨-, hexpired⟩ | ⟨hrunning, hexpired⟩ := h.once
  · simp [hexpired] at hfind
  · have hid : id = other := by
      rw [hexpired] at hfind
      by_contra hne
      simp [hne] at hfind
    exact ⟨rfl, hrunning, by simp [hexpired, hid]⟩

end TimerRef

namespace TCPClientIOHandler

variable {d : TCPClientIOHandler}

/-- The connection attempts that are outstanding and have not been cancelled. -/
def attempts (d : TCPClientIOHandler) : ℕ := d.clients.countP TCPClient.isAttempting

/-- The retries that are pending: a timer runs, or its action is about to be run. -/
def retries (d : TCPClientIOHandler) : ℕ :=
  d.retrytimer.running.length + d.retrytimer.expired.length

/-! ## Three phases -/

/-- The handler does nothing by itself. -/
structure Quiet (d : TCPClientIOHandler) : Prop where
  attempts : d.attempts = 0
  timer : d.retrytimer.Free
  client : d.startedEmpty = false

/-- The handler waits for the end of a connection attempt of its client. -/
structure Connecting (d : TCPClientIOHandler) (i : ℕ) (client : TCPClient) : Prop where
  current : d.client = some i
  getElem? : d.clients[i]? = some client
  attempting : client.isAttempting = true
  attempts : d.attempts = 1
  timer : d.retrytimer.Free
  client : d.startedEmpty = false

/-- The handler waits for its retry timer. -/
structure Waiting (d : TCPClientIOHandler) (i : ℕ) (client : TCPClient) (id : ℕ) (delay : ℤ) :
    Prop where
  current : d.client = some i
  getElem? : d.clients[i]? = some client
  connecting : client.connecting = false
  canceled : client.canceled = false
  attempts : d.attempts = 0
  timer : d.retrytimer.Active id delay
  client : d.startedEmpty = false

/-- A client at its place is replaced. -/
theorem countP_set_client {clients : List TCPClient} {i : ℕ} {client : TCPClient}
    (h : clients[i]? = some client) (client' : TCPClient) :
    (clients.set i client').countP TCPClient.isAttempting +
        (if client.isAttempting then 1 else 0) =
      clients.countP TCPClient.isAttempting + if client'.isAttempting then 1 else 0 := by
  obtain ⟨hlt, rfl⟩ := List.getElem?_eq_some_iff.mp h
  have hle : (if clients[i].isAttempting then 1 else 0) ≤
      clients.countP TCPClient.isAttempting := by
    split_ifs with hattempting
    · exact List.countP_pos_iff.mpr ⟨_, List.getElem_mem hlt, hattempting⟩
    · exact Nat.zero_le _
  rw [List.countP_set hlt]
  omega

/-- A client is changed in its place. -/
theorem modify_client {f : TCPClient → TCPClient} {clients : List TCPClient} {i : ℕ}
    {client : TCPClient} (h : clients[i]? = some client) :
    clients.modify i f = clients.set i (f client) := by
  rw [List.modify_eq_set_getElem?, h]
  rfl

/-- A handler without a client begins with an attempt of a new one. -/
theorem Quiet.beginChannelAccept (h : d.Quiet) :
    d.beginChannelAccept.Connecting d.clients.length
      { connecting := true, delay := d.retry.minOpenRetry } := by
  have hget : (d.clients ++ [({} : TCPClient)])[d.clients.length]? = some {} := by simp
  have hset : (d.clients ++ [({} : TCPClient)]).modify d.clients.length
      (·.beginConnect d.retry.minOpenRetry) = (d.clients ++ [({} : TCPClient)]).set d.clients.length
        { connecting := true, delay := d.retry.minOpenRetry } := modify_client hget
  refine ⟨rfl, ?_, rfl, ?_, h.timer, h.client⟩
  · show ((d.clients ++ [({} : TCPClient)]).modify _ _)[_]? = _
    rw [hset, List.getElem?_set_self (by simp)]
  · show ((d.clients ++ [({} : TCPClient)]).modify _ _).countP _ = 1
    have hzero : d.clients.countP TCPClient.isAttempting = 0 := h.attempts
    rw [hset]
    simp [List.countP_append, hzero, TCPClient.isAttempting]

/-- A client that has been cancelled attempts nothing. -/
theorem not_isAttempting_cancel (client : TCPClient) : client.cancel.isAttempting = false := by
  unfold TCPClient.cancel TCPClient.isAttempting
  split_ifs with h
  · cases hconnecting : client.connecting <;> cases hcanceled : client.canceled <;> simp_all
  · simp

/-- Cancelling the client ends its attempt. -/
theorem attempts_resetState (d : TCPClientIOHandler) :
    d.resetState.attempts = d.attempts -
      if (d.client.bind (d.clients[·]?)).any TCPClient.isAttempting then 1 else 0 := by
  unfold attempts resetState
  cases hclient : d.client with
  | none => simp
  | some i =>
    dsimp only
    cases hget : d.clients[i]? with
    | none =>
      rw [List.modify_eq_set_getElem?, hget]
      simp [hget]
    | some client =>
      have hcount := countP_set_client hget client.cancel
      rw [not_isAttempting_cancel] at hcount
      rw [modify_client hget]
      simp only [Option.bind_some, hget, Option.any_some]
      simp only [Bool.false_eq_true, if_false] at hcount
      omega

/-- Suspending ends whatever phase the handler is in, unless its timer has expired. -/
theorem Quiet.resetState (h : d.Quiet) : d.resetState.Quiet where
  attempts := by rw [attempts_resetState, h.attempts, Nat.zero_sub]
  timer := h.timer.cancel
  client := h.client

/-- A reset ends an attempt. -/
theorem Connecting.resetState {i : ℕ} {client : TCPClient} (h : d.Connecting i client) :
    d.resetState.Quiet where
  attempts := by
    rw [attempts_resetState, h.attempts, h.current, Option.bind_some, h.getElem?, Option.any_some,
      h.attempting]
    rfl
  timer := h.timer.cancel
  client := h.client

/-- A reset ends a wait for a retry, unless the timer has expired already. -/
theorem Waiting.resetState {i : ℕ} {client : TCPClient} {id : ℕ} {delay : ℤ}
    (h : d.Waiting i client id delay) (hexpired : d.retrytimer.expired = []) :
    d.resetState.Quiet where
  attempts := by rw [attempts_resetState, h.attempts, Nat.zero_sub]
  timer := h.timer.cancel hexpired
  client := h.client

/-- The result of an attempt that has been cancelled, or of no attempt, is ignored. -/
theorem onResult_ignored {i : ℕ} (error : Bool)
    (hi : ∀ client, d.clients[i]? = some client → client.isAttempting = false) :
    ∃ clients, d.onResult i error = ({ d with clients := clients }, false) ∧
      clients.countP TCPClient.isAttempting = d.attempts ∧
      ∀ j client, d.clients[j]? = some client → (i = j → client.connecting = false) →
        clients[j]? = some client := by
  unfold onResult
  cases hget : d.clients[i]? with
  | none => exact ⟨d.clients, rfl, rfl, fun j client hj _ => hj⟩
  | some client =>
    have hidle := hi client hget
    dsimp only
    cases hconnecting : client.connecting with
    | false => exact ⟨d.clients, rfl, rfl, fun j client hj _ => hj⟩
    | true =>
      have hcanceled : client.canceled = true := by
        simpa [TCPClient.isAttempting, hconnecting] using hidle
      refine ⟨d.clients.set i { client with connecting := false }, by simp [hcanceled], ?_,
        fun j client' hj hother => ?_⟩
      · have hcount := countP_set_client hget { client with connecting := false }
        rw [hidle] at hcount
        simpa [TCPClient.isAttempting, attempts] using hcount
      · by_cases hij : i = j
        · subst hij
          obtain rfl := Option.some.inj (hget.symm.trans hj)
          cases hconnecting.symm.trans (hother rfl)
        · rw [List.getElem?_set_ne hij, hj]

/-- The phase in which the handler is. Another one than the quiet one needs a session that is
enabled, and is without a channel. -/
inductive Phase (d : TCPClientIOHandler) : (isOpen enabled : Bool) → Prop
  | quiet (h : d.Quiet) {isOpen enabled : Bool} (hopen : isOpen = true → enabled = true) :
      Phase d isOpen enabled
  | connecting {i : ℕ} {client : TCPClient} (h : d.Connecting i client) : Phase d false true
  | waiting {i : ℕ} {client : TCPClient} {id : ℕ} {delay : ℤ} (h : d.Waiting i client id delay) :
      Phase d false true

/-- With a free timer no retry is to come. -/
theorem retries_of_free (h : d.retrytimer.Free) : d.retries = 0 := by
  unfold retries
  rw [h.running, h.expired]
  rfl

/-- With an active timer one retry is to come. -/
theorem retries_of_active {id : ℕ} {delay : ℤ} (h : d.retrytimer.Active id delay) :
    d.retries = 1 := by
  unfold retries
  obtain ⟨hrunning, hexpired⟩ | ⟨hrunning, hexpired⟩ := h.once <;> rw [hrunning, hexpired] <;> rfl

/-- Nothing is outstanding in the quiet phase only. -/
theorem Phase.quiet_of_none {isOpen enabled : Bool} (h : d.Phase isOpen enabled)
    (hattempts : d.attempts = 0) (hretries : d.retries = 0) : d.Quiet := by
  cases h with
  | quiet h => exact h
  | connecting h => cases h.attempts.symm.trans hattempts
  | waiting h => cases (retries_of_active h.timer).symm.trans hretries

/-- A reset ends whatever is under way. -/
theorem Phase.resetState {isOpen enabled : Bool} (h : d.Phase isOpen enabled)
    (hexpired : d.retrytimer.expired = []) : d.resetState.Quiet := by
  cases h with
  | quiet h => exact h.resetState
  | connecting h => exact h.resetState
  | waiting h => exact h.resetState hexpired

/-- No client attempts anything while the count is zero. -/
theorem not_attempting_of_attempts (h : d.attempts = 0) {i : ℕ} {client : TCPClient}
    (hget : d.clients[i]? = some client) : client.isAttempting = false := by
  have hnone := List.countP_eq_zero.mp h client (List.mem_of_getElem? hget)
  exact Bool.eq_false_iff.mpr hnone

/-- While the count is one, only the client of the handler attempts something. -/
theorem Connecting.not_attempting {i : ℕ} {client : TCPClient} (h : d.Connecting i client) {j : ℕ}
    (hij : i ≠ j) {client' : TCPClient} (hget : d.clients[j]? = some client') :
    client'.isAttempting = false := by
  by_contra hattempting
  have hattempting : client'.isAttempting = true := by simpa using hattempting
  have hset := countP_set_client h.getElem? {}
  have hset' := countP_set_client
    (show (d.clients.set i {})[j]? = some client' by rw [List.getElem?_set_ne hij, hget]) {}
  have hone : d.clients.countP TCPClient.isAttempting = 1 := h.attempts
  have hidle : ({} : TCPClient).isAttempting = false := rfl
  rw [h.attempting, hone, hidle] at hset
  rw [hattempting, hidle] at hset'
  simp only [if_true, Bool.false_eq_true, if_false] at hset hset'
  omega

/-- Without a client nothing can happen to the handler. -/
theorem Quiet.act (h : d.Quiet) (e : ClientEvent) : (d.act e).1.Quiet ∧ (d.act e).2 = false := by
  cases e with
  | connected i error =>
    obtain ⟨clients, hresult, hcount, -⟩ := onResult_ignored error
      fun client hget => not_attempting_of_attempts h.attempts (i := i) hget
    show (d.onResult i error).1.Quiet ∧ _
    rw [TCPClientIOHandler.act, hresult]
    exact ⟨⟨hcount.trans h.attempts, h.timer, h.client⟩, rfl⟩
  | expire timer => exact ⟨⟨h.attempts, h.timer.expire timer, h.client⟩, rfl⟩
  | fire timer =>
    rw [TCPClientIOHandler.act, h.timer.fire timer]
    exact ⟨h, rfl⟩

/-- An attempt goes on, fails and is followed by a wait, or brings a channel. -/
theorem Connecting.act {i : ℕ} {client : TCPClient} (h : d.Connecting i client) (e : ClientEvent) :
    (∃ client, (d.act e).1.Connecting i client) ∧ (d.act e).2 = false ∨
      (∃ client id delay, (d.act e).1.Waiting i client id delay) ∧ (d.act e).2 = false ∨
      (d.act e).1.Quiet ∧ (d.act e).2 = true := by
  cases e with
  | connected j error =>
    by_cases hij : i = j
    · subst hij
      -- The attempt of the client has ended: with an error its timer starts, else there is a
      -- channel.
      have hconnecting : client.connecting = true ∧ client.canceled = false := by
        simpa [TCPClient.isAttempting] using h.attempting
      have hcount := countP_set_client h.getElem? { client with connecting := false }
      have hone : d.clients.countP TCPClient.isAttempting = 1 := h.attempts
      rw [h.attempting, hone] at hcount
      have hzero : (d.clients.set i { client with connecting := false }).countP
          TCPClient.isAttempting = 0 := by simpa [TCPClient.isAttempting] using hcount
      obtain ⟨hlt, -⟩ := List.getElem?_eq_some_iff.mp h.getElem?
      have hresult : d.onResult i error =
          onConnect { d with clients := d.clients.set i { client with connecting := false } }
            client.delay error := by
        simp [onResult, h.getElem?, hconnecting]
      rw [TCPClientIOHandler.act, hresult]
      cases error with
      | true =>
        refine .inr (.inl ⟨⟨{ client with connecting := false }, d.retrytimer.started,
          d.retry.nextDelay client.delay, ?_⟩, rfl⟩)
        exact ⟨h.current, List.getElem?_set_self hlt, rfl, hconnecting.2, hzero, h.timer.start _,
          h.client⟩
      | false => exact .inr (.inr ⟨⟨hzero, h.timer, h.client⟩, rfl⟩)
    · -- The end of another attempt is ignored.
      obtain ⟨clients, hresult, hcount, hkeep⟩ := onResult_ignored error
        fun client' hget => h.not_attempting hij hget
      rw [TCPClientIOHandler.act, hresult]
      refine .inl ⟨⟨client, h.current, ?_, h.attempting, hcount.trans h.attempts, h.timer,
        h.client⟩, rfl⟩
      exact hkeep i client h.getElem? fun hji => absurd hji.symm hij
  | expire timer =>
    exact .inl ⟨⟨client, h.current, h.getElem?, h.attempting, h.attempts, h.timer.expire timer,
      h.client⟩, rfl⟩
  | fire timer =>
    rw [TCPClientIOHandler.act, h.timer.fire timer]
    exact .inl ⟨⟨client, h⟩, rfl⟩

/-- A wait goes on, or ends with a new attempt. -/
theorem Waiting.act {i : ℕ} {client : TCPClient} {id : ℕ} {delay : ℤ}
    (h : d.Waiting i client id delay) (e : ClientEvent) :
    ((d.act e).1.Waiting i client id delay ∨ ∃ client, (d.act e).1.Connecting i client) ∧
      (d.act e).2 = false := by
  cases e with
  | connected j error =>
    obtain ⟨clients, hresult, hcount, hkeep⟩ := onResult_ignored error
      fun client' hget => not_attempting_of_attempts h.attempts (i := j) hget
    rw [TCPClientIOHandler.act, hresult]
    refine ⟨.inl ⟨h.current, ?_, h.connecting, h.canceled, hcount.trans h.attempts, h.timer,
      h.client⟩, rfl⟩
    exact hkeep i client h.getElem? fun _ => h.connecting
  | expire timer =>
    exact ⟨.inl ⟨h.current, h.getElem?, h.connecting, h.canceled, h.attempts,
      h.timer.expire timer, h.client⟩, rfl⟩
  | fire timer =>
    cases hfire : d.retrytimer.fire timer with
    | none =>
      rw [TCPClientIOHandler.act, hfire]
      exact ⟨.inl h, rfl⟩
    | some result =>
      obtain ⟨delay', retrytimer⟩ := result
      obtain ⟨hlt, -⟩ := List.getElem?_eq_some_iff.mp h.getElem?
      have hbegin : client.beginConnect delay' =
          { client with connecting := true, delay := delay' } := by
        simp [TCPClient.beginConnect, h.connecting, h.canceled]
      have hcount := countP_set_client h.getElem?
        { client with connecting := true, delay := delay' }
      rw [not_attempting_of_attempts h.attempts h.getElem?] at hcount
      have hzero : d.clients.countP TCPClient.isAttempting = 0 := h.attempts
      have hstart : startConnect { d with retrytimer := retrytimer } delay' =
          { d with
            retrytimer := retrytimer
            clients := d.clients.set i { client with connecting := true, delay := delay' } } := by
        simp [startConnect, h.current, modify_client h.getElem?, hbegin]
      rw [TCPClientIOHandler.act, hfire]
      dsimp only
      rw [hstart]
      refine ⟨.inr ⟨{ client with connecting := true, delay := delay' }, h.current,
        List.getElem?_set_self hlt, ?_, ?_, h.timer.fire hfire, h.client⟩, rfl⟩
      · simp [TCPClient.isAttempting, h.canceled]
      · show (d.clients.set i _).countP TCPClient.isAttempting = 1
        simpa [TCPClient.isAttempting, h.canceled, hzero] using hcount

end TCPClientIOHandler

/-! ## Runs -/

namespace IOHandler

open TCPClientIOHandler

variable {σ κ ω δ : Type*} [ILinkSession σ κ ω δ] {h h' : IOHandler TCPClientIOHandler σ δ}

/-- The discipline of the connections between two events. -/
structure Disciplined (h : IOHandler TCPClientIOHandler σ δ) : Prop where
  /-- Without an enabled session there is no channel, no attempt and no retry. -/
  idle : h.isAnySessionEnabled = false → h.channel = none ∧ h.derived.attempts = 0 ∧
    h.derived.retries = 0 ∧ h.derived.retrytimer.pTimer = none
  /-- There is at most one attempt or retry, and none while there is a channel. -/
  once : h.derived.attempts + h.derived.retries ≤ 1
  closed : h.channel.isSome = true → h.derived.attempts = 0 ∧ h.derived.retries = 0
  /-- `StartConnect` has always found a client. -/
  client : h.derived.startedEmpty = false

/-- No session but the given one is enabled. -/
def OnlyEnabled (h : IOHandler TCPClientIOHandler σ δ) (session : SessionId) : Prop :=
  ∀ record ∈ h.sessions, record.enabled = true → record.session = session

/-- A session is enabled without a channel only when no attempt or retry is pending, the last
enabled session is not removed while there is a channel, and connecting is not suspended after the
retry timer has expired and before its action is run. -/
def Careful (h : IOHandler TCPClientIOHandler σ δ) : Event ω ClientEvent → Prop
  | .Enable session => ∀ record ∈ h.sessions, record.session = session → record.enabled = false →
      h.channel = none → h.derived.attempts = 0 ∧ h.derived.retries = 0
  | .Disable session => h.OnlyEnabled session → h.derived.retrytimer.expired = []
  | .Remove session => h.OnlyEnabled session →
      h.channel = none ∧ h.derived.retrytimer.expired = []
  | .Shutdown => h.derived.retrytimer.expired = []
  | _ => True

/-- The handler is in a phase. -/
def InPhase (h : IOHandler TCPClientIOHandler σ δ) : Prop :=
  h.derived.Phase h.channel.isSome h.isAnySessionEnabled

/-- A handler in phase is disciplined. -/
theorem InPhase.disciplined (hp : h.InPhase) : h.Disciplined := by
  unfold InPhase at hp
  generalize hopen : h.channel.isSome = isOpen at hp
  generalize henabled : h.isAnySessionEnabled = enabled at hp
  cases hp with
  | quiet hq himp =>
    have hretries := retries_of_free hq.timer
    refine ⟨fun hnone => ⟨?_, hq.attempts, hretries, hq.timer.pTimer⟩, ?_,
      fun _ => ⟨hq.attempts, hretries⟩, hq.client⟩
    · cases isOpen with
      | false => simpa using hopen
      | true => cases (henabled.symm.trans hnone).symm.trans (himp rfl)
    · rw [hq.attempts, hretries]
      exact Nat.zero_le 1
  | connecting hc =>
    refine ⟨fun hnone => (nomatch henabled.symm.trans hnone), ?_,
      fun hsome => (nomatch hopen.symm.trans hsome), hc.client⟩
    rw [hc.attempts, retries_of_free hc.timer]
  | waiting hw =>
    refine ⟨fun hnone => (nomatch henabled.symm.trans hnone), ?_,
      fun hsome => (nomatch hopen.symm.trans hsome), hw.client⟩
    rw [hw.attempts, retries_of_active hw.timer]

/-- What the phase depends on. -/
theorem InPhase.congr (hp : h.InPhase) (hderived : h'.derived = h.derived)
    (hchannel : h'.channel.isSome = h.channel.isSome)
    (henabled : h'.isAnySessionEnabled = h.isAnySessionEnabled) : h'.InPhase := by
  unfold InPhase
  rw [hderived, hchannel, henabled]
  exact hp

/-- The phase depends on the derived class, the channel and the enabled sessions. -/
theorem InPhase.of_kept (hp : h.InPhase) (hk : Kept h h') : h'.InPhase :=
  hp.congr hk.derived hk.channel (congrArg (List.any · _) hk.sessions)

/-- Suspending leaves a handler without a channel in the quiet phase. -/
theorem inPhase_suspend (hp : h.InPhase) (hexpired : h.derived.retrytimer.expired = [])
    (h' : IOHandler TCPClientIOHandler σ δ) (hderived : h'.derived = h.derived)
    (hchannel : h'.channel = none) :
    h'.suspendChannelAccept.InPhase := by
  have hquiet := Phase.resetState hp hexpired
  rw [← hderived] at hquiet
  exact .quiet hquiet (by simp [suspendChannelAccept, hchannel])

/-- A connection is begun from the quiet phase. -/
theorem inPhase_beginChannelAccept (hquiet : h.derived.Quiet) (hchannel : h.channel = none)
    (hany : h.isAnySessionEnabled = true) (env : Env κ Unit) :
    (h.beginChannelAccept env).InPhase := by
  show (h.derived.beginChannelAccept).Phase h.channel.isSome h.isAnySessionEnabled
  rw [hchannel, hany]
  exact .connecting hquiet.beginChannelAccept

/-- The first session that is enabled begins an attempt. -/
theorem InPhase.enable (hp : h.InPhase) {env : Env κ Unit} {session : SessionId}
    (he : Enabling h env session h')
    (hcareful : Careful h (.Enable session : Event ω ClientEvent)) : h'.InPhase := by
  cases he with
  | same => exact hp
  | @up record i hrecord hsession hoff hchannel =>
    -- With a channel the session comes online and the connection stays as it is.
    have hturns := (h.setEnabled i record true).lowerLayerUp_turns env.up i
    have hany :
        ((h.setEnabled i record true).lowerLayerUp env.up i).isAnySessionEnabled = true := by
      obtain ⟨hi, -⟩ := List.getElem?_eq_some_iff.mp hrecord
      refine (isAnySessionEnabled_iff _).mpr ⟨i, ?_⟩
      have hset : (h.setEnabled i record true).sessions[i]? =
        some { record with enabled := true } :=
        List.getElem?_set_self hi
      rw [hturns.sessions, List.getElem?_modify_eq, hset]
      rfl
    unfold InPhase at hp ⊢
    rw [hchannel] at hp
    rw [hturns.derived, hturns.channel, hany]
    cases hp with
    | quiet hq => exact .quiet hq fun _ => rfl
  | @accept record i hrecord hsession hoff hchannel =>
    -- Without a channel a connection is begun, and nothing else may be under way.
    obtain ⟨hattempts, hretries⟩ :=
      hcareful record (List.mem_of_getElem? hrecord) hsession hoff hchannel
    obtain ⟨hi, -⟩ := List.getElem?_eq_some_iff.mp hrecord
    have hset : (h.setEnabled i record true).sessions[i]? = some { record with enabled := true } :=
      List.getElem?_set_self hi
    exact inPhase_beginChannelAccept (h := (h.setEnabled i record true).emit
      (.OnStateChange .OPENING)) (Phase.quiet_of_none hp hattempts hretries) hchannel
      ((isAnySessionEnabled_iff _).mpr ⟨i, congrArg (Option.map Session.enabled) hset⟩) env

/-- No other session is enabled than one that is disabled last. -/
theorem onlyEnabled_of_disabled {env : SessionId → κ} {i : ℕ} {record : Session}
    (hrecord : h.sessions[i]? = some record)
    (hnone : ((h.setEnabled i record false).leave env i).isAnySessionEnabled = false) :
    h.OnlyEnabled record.session := by
  intro record' hmem hon
  obtain ⟨j, hj⟩ := List.mem_iff_getElem?.mp hmem
  by_cases hij : i = j
  · subst hij
    rw [Option.some.inj (hj.symm.trans hrecord)]
  · have hset : (h.setEnabled i record false).sessions[j]? = some record' :=
      (List.getElem?_set_ne hij).trans hj
    have hany := (isAnySessionEnabled_iff ((h.setEnabled i record false).leave env i)).mpr
      ⟨j, by rw [getElem?_leave_enabled, hset, Option.map_some, hon]⟩
    cases hnone.symm.trans hany

/-- No other session is enabled than one that is removed last. -/
theorem onlyEnabled_of_removed {env : SessionId → κ} {i : ℕ} {record : Session}
    (hrecord : h.sessions[i]? = some record)
    (hnone : ((h.leave env i).erase i).isAnySessionEnabled = false) :
    h.OnlyEnabled record.session := by
  intro record' hmem hon
  obtain ⟨j, hj⟩ := List.mem_iff_getElem?.mp hmem
  by_cases hij : i = j
  · subst hij
    rw [Option.some.inj (hj.symm.trans hrecord)]
  · have hleft : (h.leave env i).sessions[j]?.map Session.enabled = some true := by
      rw [getElem?_leave_enabled, hj, Option.map_some, hon]
    obtain ⟨record'', hrecord'', hon''⟩ := Option.map_eq_some_iff.mp hleft
    have hstays : record'' ∈ ((h.leave env i).erase i).sessions :=
      List.mem_eraseIdx_iff_getElem?.mpr ⟨j, Ne.symm hij, hrecord''⟩
    have hany : ((h.leave env i).erase i).isAnySessionEnabled = true :=
      List.any_eq_true.mpr ⟨record'', hstays, hon''⟩
    cases hnone.symm.trans hany

/-- The last session that is disabled ends what is under way. -/
theorem InPhase.disable (hp : h.InPhase) {env : Env κ Unit} {session : SessionId}
    (hd : Disabling h env session h')
    (hcareful : Careful h (.Disable session : Event ω ClientEvent)) : h'.InPhase := by
  cases hd with
  | same => exact hp
  | @others record i hrecord hsession hon hany =>
    have hturns := (h.setEnabled i record false).leave_turns env.down i
    refine hp.congr hturns.derived hturns.channel (hany.trans ?_)
    exact ((isAnySessionEnabled_iff h).mpr ⟨i, by rw [hrecord, Option.map_some, hon]⟩).symm
  | @last record i hrecord hsession hon hnone =>
    have hturns := (h.setEnabled i record false).leave_turns env.down i
    have hresets := ((h.setEnabled i record false).leave env.down i).reset_resets env.down
    refine inPhase_suspend hp (hcareful ?_) _ (hresets.derived.trans hturns.derived) hresets.channel
    rw [← hsession]
    exact onlyEnabled_of_disabled hrecord hnone

/-- So does the last enabled session that is removed. -/
theorem InPhase.remove (hp : h.InPhase) {env : Env κ Unit} {session : SessionId}
    (hr : Removing h env session h')
    (hcareful : Careful h (.Remove session : Event ω ClientEvent)) : h'.InPhase := by
  cases hr with
  | same => exact hp
  | @others record i hrecord hsession hany =>
    have hturns := h.leave_turns env.down i
    refine hp.congr hturns.derived hturns.channel (hany.trans (Eq.symm ?_))
    -- Who is enabled after the removal was enabled before.
    obtain ⟨record', hmem, hon⟩ := List.any_eq_true.mp hany
    obtain ⟨j, hj⟩ := List.mem_iff_getElem?.mp (List.mem_of_mem_eraseIdx hmem)
    exact (isAnySessionEnabled_iff h).mpr
      ⟨j, by rw [← getElem?_leave_enabled h env.down i j, hj, Option.map_some, hon]⟩
  | @last record i hrecord hsession hnone =>
    have hturns := h.leave_turns env.down i
    obtain ⟨hchannel, hexpired⟩ := hcareful (by
      rw [← hsession]
      exact onlyEnabled_of_removed hrecord hnone)
    refine inPhase_suspend hp hexpired ((h.leave env.down i).erase i) hturns.derived ?_
    have hsome := hturns.channel
    rw [hchannel] at hsome
    exact Option.not_isSome_iff_eq_none.mp (Bool.eq_false_iff.mp hsome)

/-- After an error of the channel a connection is begun. -/
theorem InPhase.onChannelError (hp : h.InPhase) (hchannel : h.channel.isSome = true)
    (env : Env κ Unit) : (h.onChannelError env).InPhase := by
  have hresets := h.reset_resets env.down
  unfold InPhase at hp
  rw [hchannel] at hp
  generalize hany : h.isAnySessionEnabled = enabled at hp
  cases hp with
  | quiet hq himp =>
    obtain rfl := himp rfl
    refine inPhase_beginChannelAccept
      (h := (h.reset env.down).emit (.OnStateChange .OPENING)) ?_ hresets.channel ?_ env
    · show (h.reset env.down).derived.Quiet
      rw [hresets.derived]
      exact hq
    · exact (reset_isAnySessionEnabled h env.down).trans hany

/-- An error of a read begins a new attempt. -/
theorem InPhase.onReadCallback (hp : h.InPhase) (hchannel : h.channel.isSome = true)
    (env : Env κ Unit) (bytes : Option (List UInt8)) : (h.onReadCallback env bytes).InPhase := by
  have hend : InPhase { h with channel := h.channel.map IAsyncChannel.endRead } :=
    hp.of_kept ⟨rfl, rfl, by simp⟩
  unfold IOHandler.onReadCallback
  cases bytes with
  | none => exact hend.onChannelError (by simpa using hchannel) env
  | some bytes =>
    dsimp only
    split_ifs
    · exact hend.of_kept (onReadComplete_kept ..)
    · exact hend

/-- So does an error of a write. -/
theorem InPhase.onWriteCallback (hp : h.InPhase) (hchannel : h.channel.isSome = true)
    (env : Env κ Unit) (error : Bool) : (h.onWriteCallback env error).InPhase := by
  have hend : InPhase { h with channel := h.channel.map IAsyncChannel.endWrite } :=
    hp.of_kept ⟨rfl, rfl, by simp⟩
  unfold IOHandler.onWriteCallback
  dsimp only
  split_ifs
  · exact hend.onChannelError (by simpa using hchannel) env
  · exact hend.of_kept (onWriteComplete_kept ..)

/-- What happens to the client or its timer. -/
theorem InPhase.derived (hp : h.InPhase) (env : Env κ Unit) (act : ClientEvent) :
    (h.derives env (h.derived.act act)).InPhase := by
  unfold InPhase at hp
  generalize hopen : h.channel.isSome = isOpen at hp
  generalize hany : h.isAnySessionEnabled = enabled at hp
  cases hp with
  | quiet hq himp =>
    obtain ⟨hquiet, hresult⟩ := hq.act act
    rw [derives_of_false env hresult]
    exact .quiet hquiet fun hsome => hany.trans (himp (hopen.symm.trans hsome))
  | connecting hc =>
    -- The end of the attempt starts the timer or opens the channel.
    obtain ⟨⟨client, hc'⟩, hresult⟩ | ⟨⟨client, id, delay, hw⟩, hresult⟩
      | ⟨hq, hresult⟩ := hc.act act
    · rw [derives_of_false env hresult]
      show Phase _ h.channel.isSome h.isAnySessionEnabled
      rw [hopen, hany]
      exact .connecting hc'
    · rw [derives_of_false env hresult]
      show Phase _ h.channel.isSome h.isAnySessionEnabled
      rw [hopen, hany]
      exact .waiting hw
    · rw [derives_of_true env hresult]
      have haccept : (h.channel.isSome && !h.close_existing) = false := by rw [hopen]; rfl
      obtain ⟨-, hderived, -⟩ := onNewChannel_accepted
        (h := { h with derived := (h.derived.act act).1 })
        env haccept
      have hsame := onNewChannel_isAnySessionEnabled
        (h := { h with derived := (h.derived.act act).1 }) env haccept
      unfold InPhase
      rw [hderived]
      exact .quiet hq fun _ => hsame.trans hany
  | waiting hw =>
    obtain ⟨hw' | ⟨client, hc⟩, hresult⟩ := hw.act act
    · rw [derives_of_false env hresult]
      show Phase _ h.channel.isSome h.isAnySessionEnabled
      rw [hopen, hany]
      exact .waiting hw'
    · rw [derives_of_false env hresult]
      show Phase _ h.channel.isSome h.isAnySessionEnabled
      rw [hopen, hany]
      exact .connecting hc

/-- Every step that meets the condition keeps the handler in a phase. -/
theorem InPhase.step (hp : h.InPhase) (e : Env κ Unit × Event ω ClientEvent)
    (hcareful : h.Careful e.2) : (h.step e).InPhase := by
  -- One case for each event, by the lemma of its function.
  obtain ⟨env, event⟩ := e
  cases event with
  | AddContext session route =>
    show InPhase (h.addContext session route).2
    have hadding := h.addContext_adding session route
    generalize (h.addContext session route).2 = h' at hadding
    cases hadding with
    | refused => exact hp
    | added =>
      refine hp.congr rfl rfl ?_
      simp [isAnySessionEnabled]
  | Enable session => exact hp.enable (h.enable_enabling env session) hcareful
  | Disable session => exact hp.disable (h.disable_disabling env session) hcareful
  | Remove session => exact hp.remove (h.remove_removing env session) hcareful
  | Shutdown =>
    show InPhase (h.shutdown env)
    unfold shutdown
    split_ifs
    · exact hp
    · have hresets := reset_resets { h with isShutdown := true } env.down
      exact inPhase_suspend hp hcareful (IOHandler.reset { h with isShutdown := true } env.down)
        hresets.derived hresets.channel
  | OnRead bytes =>
    show InPhase (ite _ _ _)
    split_ifs with hreading
    · exact hp.onReadCallback (Option.isSome_of_any hreading) env bytes
    · exact hp
  | OnWrite error =>
    show InPhase (ite _ _ _)
    split_ifs with hwriting
    · exact hp.onWriteCallback (Option.isSome_of_any hwriting) env error
    · exact hp
  | session session act => exact hp.of_kept (transmits_kept ..)
  | derived act => exact hp.derived env act

/-- In every run whose steps meet the condition the connections are disciplined in every state. -/
theorem run_disciplined (close_existing : Bool) (retry : ChannelRetry) (links : SessionId → σ)
    (events : List (Env κ Unit × Event ω ClientEvent))
    (hcareful : Machine.StepsMeet step (fun h e => h.Careful e.2)
      (init close_existing { retry := retry } links : IOHandler TCPClientIOHandler σ δ) events) :
    (Machine.run step (init close_existing { retry := retry } links :
      IOHandler TCPClientIOHandler σ δ) events).Disciplined := by
  have hinit : InPhase (init close_existing { retry := retry } links :
      IOHandler TCPClientIOHandler σ δ) :=
    .quiet ⟨rfl, ⟨rfl, rfl, rfl⟩, rfl⟩ nofun
  have hstep : ∀ (h : IOHandler TCPClientIOHandler σ δ) (e : Env κ Unit × Event ω ClientEvent),
      h.InPhase → h.Careful e.2 → (h.step e).InPhase := fun h e hp hc => hp.step e hc
  exact (Machine.run_invariant step hstep _ events hinit hcareful).disciplined

instance (h : IOHandler TCPClientIOHandler σ δ) :
    ∀ event : Event ω ClientEvent, Decidable (h.Careful event)
  | .Enable session => inferInstanceAs (Decidable (∀ record ∈ h.sessions, record.session = session →
      record.enabled = false → h.channel = none → h.derived.attempts = 0 ∧ h.derived.retries = 0))
  | .Disable session => inferInstanceAs (Decidable ((∀ record ∈ h.sessions,
      record.enabled = true → record.session = session) → h.derived.retrytimer.expired = []))
  | .Remove session => inferInstanceAs (Decidable ((∀ record ∈ h.sessions,
      record.enabled = true → record.session = session) →
        h.channel = none ∧ h.derived.retrytimer.expired = []))
  | .Shutdown => inferInstanceAs (Decidable (h.derived.retrytimer.expired = []))
  | .AddContext .. | .OnRead _ | .OnWrite _ | .session .. | .derived _ => instDecidableTrue

/-- Link layers as sessions, under upper layers that send nothing. -/
def silentLinks (_ : SessionId) : Link.LinkContext (List UInt8) where
  config := ⟨true, false, 0, 1, 10, 60000, false⟩

/-- Surroundings that contribute nothing. -/
def silentEnv : Env LinkSurroundings Unit :=
  ⟨fun _ => ⟨0, []⟩, fun _ => ⟨0, []⟩, fun _ => ⟨0, []⟩, fun _ _ => ⟨0, []⟩, ()⟩

/-- A client handler that retries after a second, then after two, and so on up to a minute. -/
def clientHandler : IOHandler TCPClientIOHandler (Link.LinkContext (List UInt8))
    (Link.LinkLayerFrame (List UInt8)) :=
  init false { retry := ⟨1000, 60000, ExponentialBackoffStrategy.getNextDelay⟩ } silentLinks

/-- A session is enabled, the first attempt fails, the retry succeeds, and the session is disabled.
-/
theorem run_disciplined_retry :
    (Machine.run step clientHandler
      ([.AddContext 0 ⟨1, 10⟩, .Enable 0, .derived (.connected 0 true), .derived (.expire 0),
        .derived (.fire 0), .derived (.connected 0 false), .Disable 0].map
          (Prod.mk silentEnv))).Disciplined :=
  run_disciplined _ _ _ _ (by decide)

/-- Two sessions are enabled before there is a channel: two connections are attempted. -/
theorem not_disciplined_twoSessions :
    ¬(Machine.run step clientHandler
      ([.AddContext 0 ⟨1, 10⟩, .AddContext 1 ⟨2, 10⟩, .Enable 0, .Enable 1].map
        (Prod.mk silentEnv))).Disciplined :=
  fun h => absurd h.once (by decide)

end IOHandler

end OpenDnp3.Channel
