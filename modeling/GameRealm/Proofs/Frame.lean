import GameRealm.Proofs.ClockRequests
import GameRealm.Session.Dispatch

/-!
# What the functions of a session change

There is one lemma for every function: it names the fields of the session that the function
changes and says what becomes of them, and it says that the inbox is left alone. Later proofs
see through a function by its lemma and never open it again.

1. Sending, logging, closing sockets and doing things to the character change the surroundings
   and nothing else;
2. the operations change a few fields of the session each; those that move it through its life
   do so as a function on sessions says (`Session.afterOffline` and the others). What the
   databases answer decides about the caches alone;
3. so does a step of the state machine (`Session.afterAdvance`, `frame_advance`), which may also
   acknowledge addons or send a clock request.
-/

namespace GameRealm

/-! ## What becomes of a session -/

namespace Session

/-- The session without its socket, its character kept for a while. -/
def afterOffline (config : SessionConfig) (s : Session) : Session :=
  { s with
    socket := none
    state := .offline
    kickDeadline := s.now.addSeconds? config.offlineGrace.toNat
    scheduledLogout := if s.player.isSome then some ⟨s.now, false⟩ else s.scheduledLogout }

def afterOnline (s : Session) : Session :=
  { s with state := .ready, kickDeadline := none, scheduledLogout := none }

def afterRequest (socket : SocketId) (s : Session) : Session :=
  if s.pending.isSome then s else { s with pending := some socket, state := .created }

def afterKick (config : SessionConfig) (save inPlace : Bool) (s : Session) : Session :=
  if inPlace then s.afterLogout config
  else { s with saveOnLogout := save, scheduledLogout := some ⟨s.now, true⟩ }

/-- The session when it is over. The second time nothing happens. -/
def afterShutdown (config : SessionConfig) (s : Session) : Session :=
  if s.hasShutDown then s
  else
    { (if s.player.isSome then s.afterLogout config else s) with
      hasShutDown := true
      socket := none
      pending := none }

def afterActivation (config : SessionConfig) (socket : SocketId) (s : Session) : Session :=
  { (if s.socket.isSome then s.afterOffline config else s) with
    pending := none
    socket := some socket }

def afterCreated (config : SessionConfig) (s : Session) : Session :=
  (match s.pending with
    | some socket => s.afterActivation config socket
    | none => s).toCharSelection config

def afterLogoutIfDue (config : SessionConfig) (now : Instant) (s : Session) : Session :=
  if s.shouldLogOut config now && !s.playerLoading then s.afterLogout config else s

/-- The session after a step of the state machine, as far as its life goes. `socketOpen` says
whether the active socket is open. -/
def afterAdvance (config : SessionConfig) (socketOpen : Bool) (now : Instant) (s : Session) :
    Session :=
  match s.state with
  | .created => s.afterCreated config
  | .charSelection =>
    if socketOpen then
      let s := s.afterLogoutIfDue config now
      if s.shouldDisconnect now then s.afterLogout config else s
    else s
  | .ready =>
    if s.socket.isSome && !socketOpen then
      if s.player.isSome then s.afterOffline config else s
    else s.afterLogoutIfDue config now
  | .offline => if s.shouldDisconnect now then s.afterLogout config else s

theorem afterLogoutIfDue_cases (config : SessionConfig) (now : Instant) (s : Session) :
    s.afterLogoutIfDue config now = s ∨ s.afterLogoutIfDue config now = s.afterLogout config := by
  unfold afterLogoutIfDue
  split
  · exact .inr rfl
  · exact .inl rfl

/-- What a step of the state machine can do: hand over and acknowledge, or leave the
session alone, log the character out, or go offline. -/
theorem afterAdvance_cases (config : SessionConfig) (socketOpen : Bool) (now : Instant)
    (s : Session) :
    (s.state = .created ∧ s.afterAdvance config socketOpen now = s.afterCreated config) ∨
      s.state ≠ .created ∧
        (s.afterAdvance config socketOpen now = s ∨
          s.afterAdvance config socketOpen now = s.afterLogout config ∨
          s.afterAdvance config socketOpen now = s.afterOffline config) := by
  unfold afterAdvance
  cases state : s.state with
  | created => exact .inl ⟨rfl, rfl⟩
  | charSelection =>
    refine .inr ⟨SessionState.noConfusion, ?_⟩
    simp only
    split
    · -- A second logout changes nothing.
      rcases afterLogoutIfDue_cases config now s with same | out
      · rw [same]
        split
        · exact .inr (.inl rfl)
        · exact .inl rfl
      · rw [out]
        split
        · exact .inr (.inl rfl)
        · exact .inr (.inl rfl)
    · exact .inl rfl
  | ready =>
    refine .inr ⟨SessionState.noConfusion, ?_⟩
    simp only
    split
    · split
      · exact .inr (.inr rfl)
      · exact .inl rfl
    · exact (afterLogoutIfDue_cases config now s).imp id .inl
  | offline =>
    refine .inr ⟨SessionState.noConfusion, ?_⟩
    simp only
    split
    · exact .inr (.inl rfl)
    · exact .inl rfl

def clockRequest (config : SessionConfig) (s : Session) : ClockMove :=
  let interval :=
    if s.timeSync.nextCounter = 0 then config.timeSyncFirstInterval else config.timeSyncInterval
  .request s.now (s.now.addSeconds? interval.toNat)

end Session

/-- The addons of a manifest, none if it cannot be read. -/
def AddonManifest.decoded (env : Envelope) : List Addon :=
  match (read env).1.result with
  | .ok addons => addons
  | .error _ => []

namespace LiveSession

/-- What belongs to the session itself. -/
def own (d : LiveSession W) : Session × Inbox W := (d.session, d.inbox)

/-! ## What leaves a session alone -/

section
variable {sv : Services W} (d : LiveSession W)

@[simp] theorem frame_emit (effect : Effect) :
    (d.emit sv effect).session = d.session ∧ (d.emit sv effect).inbox = d.inbox :=
  ⟨rfl, rfl⟩

@[simp] theorem frame_log (notice : Notice) :
    (d.log sv notice).session = d.session ∧ (d.log sv notice).inbox = d.inbox :=
  ⟨rfl, rfl⟩

@[simp] theorem frame_logAll (notices : List Notice) :
    (d.logAll sv notices).session = d.session ∧ (d.logAll sv notices).inbox = d.inbox :=
  ⟨rfl, rfl⟩

@[simp] theorem frame_modify (change : Session → Session) :
    (d.modify change).session = change d.session ∧ (d.modify change).inbox = d.inbox :=
  ⟨rfl, rfl⟩

@[simp] theorem frame_send (message : Message) :
    (d.send sv message).session = d.session ∧ (d.send sv message).inbox = d.inbox := by
  unfold send
  split
  · exact ⟨rfl, rfl⟩
  · split <;> exact ⟨rfl, rfl⟩

@[simp] theorem frame_sendAuthQueued :
    (d.sendAuthQueued sv).session = d.session ∧ (d.sendAuthQueued sv).inbox = d.inbox :=
  frame_send d _

@[simp] theorem frame_sendAuthWaitQueue (position : UInt32) :
    (d.sendAuthWaitQueue sv position).session = d.session ∧
      (d.sendAuthWaitQueue sv position).inbox = d.inbox := by
  unfold sendAuthWaitQueue
  split <;> simp

@[simp] theorem frame_sendMotd :
    (d.sendMotd sv).session = d.session ∧ (d.sendMotd sv).inbox = d.inbox :=
  frame_send d _

@[simp] theorem frame_sendAccountDataTimes (mask : UInt32) :
    (d.sendAccountDataTimes sv mask).session = d.session ∧
      (d.sendAccountDataTimes sv mask).inbox = d.inbox :=
  frame_send d _

@[simp] theorem frame_discard (socket : SocketId) :
    (d.discard sv socket).session = d.session ∧ (d.discard sv socket).inbox = d.inbox := by
  unfold discard
  split <;> exact ⟨rfl, rfl⟩

@[simp] theorem frame_discard? (socket : Option SocketId) :
    (d.discard? sv socket).session = d.session ∧ (d.discard? sv socket).inbox = d.inbox := by
  cases socket with
  | none => exact ⟨rfl, rfl⟩
  | some socket => exact frame_discard d socket

@[simp] theorem frame_closeSocket :
    (d.closeSocket sv).session = d.session ∧ (d.closeSocket sv).inbox = d.inbox := by
  unfold closeSocket
  split <;> exact ⟨rfl, rfl⟩

@[simp] theorem frame_deed (act : Deed) :
    (d.deed sv act).session = d.session ∧ (d.deed sv act).inbox = d.inbox := by
  unfold deed
  split <;> exact ⟨rfl, rfl⟩

@[simp] theorem frame_endDelay :
    (d.endDelay sv).session = d.session ∧ (d.endDelay sv).inbox = d.inbox := by
  unfold endDelay
  split
  · exact ⟨rfl, rfl⟩
  · simp only
    split <;> exact ⟨rfl, rfl⟩

@[simp] theorem session_punishFault (env : Envelope) (fault : PayloadError) :
    (d.punishFault sv env fault).session = d.session := by
  unfold punishFault
  simp only
  split <;> rfl

@[simp] theorem session_settle (handled : Handled) :
    (d.settle sv handled).session = d.session := by
  unfold settle
  split
  · exact session_punishFault d _ _
  · simp only
    split <;> rfl

end

/-! ### Databases

A call shows up outside, also one of several in a transaction. -/

section
variable {sv : Services W}

theorem frame_of_call {db : Database} {call : DatabaseCall} {d e : LiveSession W}
    {result : Except PersistenceError Unit} (h : d.call sv db call = (result, e)) :
    e.session = d.session ∧ e.inbox = d.inbox := by
  cases h
  exact ⟨rfl, rfl⟩

theorem frame_of_query {statement : Statement} {d e : LiveSession W}
    {result : Except PersistenceError (Option (List Row))}
    (h : d.query sv statement = (result, e)) : e.session = d.session ∧ e.inbox = d.inbox := by
  cases h
  exact ⟨rfl, rfl⟩

theorem frame_executeBoth (sv : Services W) (d : LiveSession W) (first second : Statement) :
    (d.executeBoth sv first second).2.session = d.session ∧
      (d.executeBoth sv first second).2.inbox = d.inbox := by
  unfold executeBoth
  split
  · next h => exact frame_of_call h
  · next h =>
    obtain ⟨session, inbox⟩ := frame_of_call h
    exact ⟨session, inbox⟩

theorem frame_transact (sv : Services W) (d : LiveSession W) (first second : Statement) :
    (d.transact sv first second).2.session = d.session ∧
      (d.transact sv first second).2.inbox = d.inbox := by
  unfold transact
  split
  · next h => exact frame_of_call h
  · next e began =>
    have both := frame_executeBoth sv e first second
    obtain ⟨session, inbox⟩ := frame_of_call began
    rw [session, inbox] at both
    split
    · next ran =>
      rw [ran] at both
      exact both
    · next ran =>
      rw [ran] at both
      obtain ⟨session, inbox⟩ := both
      split <;> next ended =>
        obtain ⟨session', inbox'⟩ := frame_of_call ended
        exact ⟨session'.trans session, inbox'.trans inbox⟩

end

/-! ## The operations -/

section
variable {sv : Services W} (d : LiveSession W)

@[simp] theorem frame_attach (character : Character) :
    (d.attach sv character).session = d.session.attach character ∧
      (d.attach sv character).inbox = d.inbox := by
  unfold attach
  cases d.session.player <;> exact ⟨rfl, rfl⟩

@[simp] theorem frame_abandonPlayer :
    (d.abandonPlayer sv).session =
        { d.session with
          scheduledLogout :=
            if d.session.player.isSome then some ⟨d.session.now, false⟩
            else d.session.scheduledLogout } ∧
      (d.abandonPlayer sv).inbox = d.inbox := by
  unfold abandonPlayer
  split
  · next h => exact ⟨by rw [if_neg (by simp [h])], rfl⟩
  · next c h => exact ⟨by rw [if_pos (by simp [h])]; rfl, rfl⟩

@[simp] theorem frame_setOffline :
    (d.setOffline sv).session = d.session.afterOffline sv.config ∧
      (d.setOffline sv).inbox = d.inbox := by
  simp [setOffline, dropSocket, Session.afterOffline]

@[simp] theorem frame_logoutPlayer :
    (d.logoutPlayer sv).session = d.session.afterLogout sv.config ∧
      (d.logoutPlayer sv).inbox = d.inbox := by
  unfold logoutPlayer
  cases d.session.player with
  | none => exact ⟨rfl, rfl⟩
  | some c =>
    simp [logoutCharacter, Session.afterLogout, Session.toCharSelection, Session.logoutRequest]

@[simp] theorem frame_kickPlayer (save inPlace : Bool) :
    (d.kickPlayer sv save inPlace).session = d.session.afterKick sv.config save inPlace ∧
      (d.kickPlayer sv save inPlace).inbox = d.inbox := by
  cases inPlace with
  | true => simp [kickPlayer, Session.afterKick, Session.afterLogout, Session.toCharSelection,
      Session.logoutRequest]
  | false => exact ⟨rfl, rfl⟩

@[simp] theorem frame_shutdown :
    (d.shutdown sv).session = d.session.afterShutdown sv.config ∧
      (d.shutdown sv).inbox = d.inbox := by
  unfold shutdown Session.afterShutdown
  split
  · exact ⟨rfl, rfl⟩
  · cases h : d.session.player <;>
      simp [h, Session.afterLogout, Session.toCharSelection, Session.logoutRequest]

@[simp] theorem frame_requestNewSocket (socket : SocketId) :
    (d.requestNewSocket sv socket).2.session = d.session.afterRequest socket ∧
      (d.requestNewSocket sv socket).2.inbox = d.inbox := by
  unfold requestNewSocket Session.afterRequest
  split <;> exact ⟨rfl, rfl⟩

@[simp] theorem frame_setExpansion (level : UInt8) :
    (d.setExpansion sv level).session = { d.session with expansion := level } ∧
      (d.setExpansion sv level).inbox = d.inbox := by
  simp [setExpansion]

/-! ### The client's clock -/

@[simp] theorem frame_sendTimeSync :
    (d.sendTimeSync sv).session =
        { d.session with
          timeSync := d.session.timeSync.move (d.session.clockRequest sv.config) } ∧
      (d.sendTimeSync sv).inbox = d.inbox := by
  simp [sendTimeSync, Session.clockRequest, TimeSync.move]

@[simp] theorem frame_timeSyncResponse (counter clientTicks : UInt32) :
    (d.timeSyncResponse sv counter clientTicks).2.session =
        { d.session with
          timeSync := d.session.timeSync.move (.answer d.session.now counter clientTicks) } ∧
      (d.timeSyncResponse sv counter clientTicks).2.inbox = d.inbox := by
  cases answered : d.session.timeSync.answer? d.session.now counter clientTicks <;>
    simp [timeSyncResponse, TimeSync.move, answered]

@[simp] theorem frame_setOnline :
    (d.setOnline sv).2.session =
        (if d.session.player.isSome && d.socketOpen sv then
          { d.session.afterOnline with
            timeSync := d.session.timeSync.reset.move
              (d.goReady.resetTimeSync.session.clockRequest sv.config) }
        else d.session) ∧
      (d.setOnline sv).2.inbox = d.inbox := by
  unfold setOnline
  split
  · exact frame_sendTimeSync _
  · exact ⟨rfl, rfl⟩

/-! ### Caches and addons -/

@[simp] theorem frame_loadAccountData (mask : UInt32) (rows : List Row) :
    (d.loadAccountData sv mask rows).session =
        { d.session with accountData := (d.session.accountData.load mask rows).1 } ∧
      (d.loadAccountData sv mask rows).inbox = d.inbox :=
  ⟨rfl, rfl⟩

@[simp] theorem frame_fetchAccountData (mask : UInt32) (statement : Statement) :
    (∃ accountData, (d.fetchAccountData sv mask statement).2.session =
        { d.session with accountData }) ∧
      (d.fetchAccountData sv mask statement).2.inbox = d.inbox := by
  unfold fetchAccountData
  split <;> next h =>
    obtain ⟨session, inbox⟩ := frame_of_query h
    simp only [frame_loadAccountData, session, inbox]
    exact ⟨⟨_, rfl⟩, trivial⟩

@[simp] theorem frame_loadCharacterAccountData :
    (∃ accountData, (d.loadCharacterAccountData sv).2.session =
        { d.session with accountData }) ∧
      (d.loadCharacterAccountData sv).2.inbox = d.inbox := by
  unfold loadCharacterAccountData
  split
  · exact ⟨⟨_, rfl⟩, rfl⟩
  · exact frame_fetchAccountData d _ _

@[simp] theorem frame_setAccountData (type : Nat) (time : UInt64) (data : String) :
    (∃ accountData, (d.setAccountData sv type time data).2.session =
        { d.session with accountData }) ∧
      (d.setAccountData sv type time data).2.inbox = d.inbox := by
  unfold setAccountData
  split
  · next valid =>
    split
    · exact ⟨⟨_, rfl⟩, rfl⟩
    · next delete insert _ =>
      have stored := frame_transact sv (d.modify fun s =>
        { s with accountData := s.accountData.set type { time, data } valid }) delete insert
      simp only
      split <;> next ran =>
        rw [ran] at stored
        exact ⟨⟨_, stored.1⟩, stored.2⟩
  · exact ⟨⟨_, rfl⟩, rfl⟩

@[simp] theorem frame_loadTutorials :
    (∃ tutorials, (d.loadTutorials sv).2.session = { d.session with tutorials }) ∧
      (d.loadTutorials sv).2.inbox = d.inbox :=
  ⟨⟨_, rfl⟩, rfl⟩

@[simp] theorem frame_saveTutorials :
    (∃ tutorials, (d.saveTutorials sv).2.session = { d.session with tutorials }) ∧
      (d.saveTutorials sv).2.inbox = d.inbox := by
  unfold saveTutorials
  split
  · exact ⟨⟨_, rfl⟩, rfl⟩
  · split <;> next h =>
      obtain ⟨session, inbox⟩ := frame_of_call h
      simp only [frame_modify, session, inbox]
      exact ⟨⟨_, rfl⟩, trivial⟩

@[simp] theorem frame_readAddons (env : Envelope) :
    (d.readAddons sv env).2.session =
        { d.session with addons := d.session.addons ++ AddonManifest.decoded env } ∧
      (d.readAddons sv env).2.inbox = d.inbox := by
  cases result : (AddonManifest.read env).1.result <;>
    simp [readAddons, AddonManifest.decoded, result]

@[simp] theorem frame_sendAddonsInfo :
    (d.sendAddonsInfo sv).session = { d.session with addons := [] } ∧
      (d.sendAddonsInfo sv).inbox = d.inbox := by
  simp [sendAddonsInfo]

end

/-! ## The state machine -/

/-- Whether a step of the state machine sends the next clock request. -/
def asks (sv : Services W) (now : Instant) (d : LiveSession W) : Bool :=
  d.session.state = .ready && !d.socketClosed sv &&
    !(d.session.shouldLogOut sv.config now && !d.session.playerLoading) &&
    d.session.timeSync.isDue d.session.now

section
variable {sv : Services W} (d : LiveSession W)

theorem socketClosed_eq :
    d.socketClosed sv = (d.session.socket.isSome && !d.socketOpen sv) := by
  unfold socketClosed socketOpen Session.socketOpen isClosed
  cases d.session.socket <;> simp

@[simp] theorem frame_activate (socket : SocketId) :
    (d.activate sv socket).session = d.session.afterActivation sv.config socket ∧
      (d.activate sv socket).inbox = d.inbox := by
  unfold activate Session.afterActivation
  cases h : d.session.socket <;> simp [h, Session.afterOffline]

@[simp] theorem frame_logoutIfDue (now : Instant) :
    (d.logoutIfDue sv now).session = d.session.afterLogoutIfDue sv.config now ∧
      (d.logoutIfDue sv now).inbox = d.inbox := by
  unfold logoutIfDue Session.afterLogoutIfDue
  split <;> simp

theorem frame_advanceCreated :
    (d.advanceCreated sv).session =
        { d.session.afterCreated sv.config with
          addons := [], timeSync := d.session.timeSync } ∧
      (d.advanceCreated sv).inbox = d.inbox := by
  -- The addons are forgotten where there are any.
  have rest : ∀ e : LiveSession W,
      (if e.session.addons.isEmpty then e else e.sendAddonsInfo sv).session =
          { e.session with addons := [] } ∧
        (if e.session.addons.isEmpty then e else e.sendAddonsInfo sv).inbox = e.inbox := by
    intro e
    split
    · next empty => exact ⟨by rw [← List.isEmpty_iff.mp empty], rfl⟩
    · exact frame_sendAddonsInfo e
  unfold advanceCreated Session.afterCreated
  cases d.session.pending with
  | some socket =>
    simp only [frame_modify, rest]
    simp only [frame_activate, Session.afterActivation]
    cases d.session.socket <;> exact ⟨rfl, trivial⟩
  | none =>
    simp only [frame_modify, rest]
    split <;> simp [Session.toCharSelection]

/-- A step of the state machine in play sends the next request, or does something else. -/
theorem advanceReady_eq (now : Instant) (ready : d.session.state = .ready) :
    (d.advanceReady sv now).2 =
      if d.asks sv now then d.sendTimeSync sv
      else if d.socketClosed sv then
        if d.session.player.isNone then d else d.setOffline sv
      else d.logoutIfDue sv now := by
  unfold advanceReady asks logoutIfDue updateTimeSync
  by_cases closed : d.socketClosed sv
  · simp only [closed, ready]
    cases d.session.player <;> rfl
  · by_cases out : d.session.shouldLogOut sv.config now && !d.session.playerLoading
    · simp [closed, ready, out]
    · simp [closed, ready, out]

theorem asks_eq_false {now : Instant} (other : d.session.state ≠ .ready) :
    d.asks sv now = false := by
  simp [asks, other]

theorem afterAdvance_of_asks {now : Instant} (asks : d.asks sv now = true) :
    d.session.state = .ready ∧
      d.session.afterAdvance sv.config (d.socketOpen sv) now = d.session := by
  simp only [LiveSession.asks, Bool.and_eq_true, Bool.not_eq_true', decide_eq_true_eq] at asks
  obtain ⟨⟨⟨ready, here⟩, stays⟩, -⟩ := asks
  rw [socketClosed_eq] at here
  refine ⟨ready, ?_⟩
  simp [Session.afterAdvance, ready, here, Session.afterLogoutIfDue, stays]

/-- A session goes through its life as `Session.afterAdvance` says; it forgets its addons as it
is greeted, and in play it may send the next clock request. -/
@[simp] theorem frame_advance (now : Instant) :
    (d.advance sv now).2.session =
        { d.session.afterAdvance sv.config (d.socketOpen sv) now with
          addons := if d.session.state = .created then [] else d.session.addons
          timeSync :=
            if d.asks sv now then d.session.timeSync.move (d.session.clockRequest sv.config)
            else d.session.timeSync } ∧
      (d.advance sv now).2.inbox = d.inbox := by
  cases asks : d.asks sv now with
  | true =>
    obtain ⟨ready, same⟩ := d.afterAdvance_of_asks asks
    have step : (d.advance sv now).2 = d.sendTimeSync sv := by
      simp only [advance, ready, advanceReady_eq d now ready, if_pos asks]
    have other : d.session.state ≠ .created := by simp [ready]
    rw [same, step, if_neg other]
    exact frame_sendTimeSync d
  | false =>
    unfold advance Session.afterAdvance
    cases state : d.session.state with
    | created => exact frame_advanceCreated d
    | charSelection =>
      simp only [advanceCharSelection]
      split
      · simp only [frame_logoutIfDue]
        rcases d.session.afterLogoutIfDue_cases sv.config now with step | step <;>
        · simp only [step]
          split <;>
          · simp only [frame_closeSocket, frame_kickPlayer, frame_log, frame_logoutIfDue, step]
            exact ⟨rfl, trivial⟩
      · exact ⟨rfl, rfl⟩
    | ready =>
      simp only [advanceReady_eq d now state, asks, ← socketClosed_eq]
      cases d.socketClosed sv with
      | true =>
        cases d.session.player with
        | none => exact ⟨rfl, rfl⟩
        | some c => exact frame_setOffline d
      | false =>
        rcases d.session.afterLogoutIfDue_cases sv.config now with same | out
        · simp [same]
        · simp [out]
          rfl
    | offline =>
      simp only [advanceOffline]
      split
      · simp only [frame_logoutPlayer]
        split <;> simp only [frame_logoutPlayer] <;> exact ⟨rfl, trivial⟩
      · exact ⟨rfl, rfl⟩

end

end LiveSession

end GameRealm
