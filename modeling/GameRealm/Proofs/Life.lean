import GameRealm.Proofs.History

/-!
# What an event changes in a session

Where a session stands in its life depends on a few of its fields, and these
change in few ways: they ask nothing of the surroundings but whether the active
socket is open. Beside its life a session has a place in the login queue, remembers
addons until they are acknowledged, and asks for its client's clock. This module

1. names the fields that make up a life (`Life`);
2. says what an operation and an event do to a life (`Operation.after`, `Event.after`), to the
   place, to the addons and to the clock requests;
3. proves that they do just that, and to nothing else but the caches and what the account may
   use (`Operation.session_run`, `Event.session_apply`);
4. draws from it one lemma for each of the fields that are of interest.
-/

namespace GameRealm

/-- Where a session stands in its life. -/
structure Life where
  player : Option Character
  characterGuid : Option PlayerGuid
  socket : Option SocketId
  pending : Option SocketId
  state : SessionState
  kickDeadline : Option Instant
  scheduledLogout : Option ScheduledLogout
  playerLoading : Bool
  loggingOut : Bool
  recentlyLoggedOut : Bool
  saveOnLogout : Bool
  now : Instant
  hasShutDown : Bool
  deriving DecidableEq, Repr

namespace Session

def life (s : Session) : Life :=
  { player := s.player
    characterGuid := s.characterGuid
    socket := s.socket
    pending := s.pending
    state := s.state
    kickDeadline := s.kickDeadline
    scheduledLogout := s.scheduledLogout
    playerLoading := s.playerLoading
    loggingOut := s.loggingOut
    recentlyLoggedOut := s.recentlyLoggedOut
    saveOnLogout := s.saveOnLogout
    now := s.now
    hasShutDown := s.hasShutDown }

end Session

/-! ## Operations -/

namespace Operation

def after (config : SessionConfig) (socketOpen : Bool) (operation : Operation W) (s : Session) :
    Session :=
  match operation with
  | attach character => s.attach character
  | setOnline => if s.player.isSome && socketOpen then s.afterOnline else s
  | setOffline => s.afterOffline config
  | toCharSelection => s.toCharSelection config
  | setPlayerLoading loading => { s with playerLoading := loading }
  | requestNewSocket socket => s.afterRequest socket
  | logoutRequest requestedAt => s.logoutRequest requestedAt
  | logoutPlayer => s.afterLogout config
  | kickPlayer save inPlace => s.afterKick config save inPlace
  | shutdown => s.afterShutdown config
  | _ => s

def place (old : Option UInt32) : Operation W → Option UInt32
  | setInQueue new => new
  | _ => old

def addons (old : List Addon) : Operation W → List Addon
  | readAddons env => old ++ AddonManifest.decoded env
  | sendAddonsInfo => []
  | _ => old

/-- What an operation does to the clock requests, the last move first. -/
def clockMoves (sv : Services W) (d : LiveSession W) : Operation W → ClockHistory
  | setOnline =>
    if d.session.player.isSome && d.socketOpen sv then
      [d.goReady.resetTimeSync.session.clockRequest sv.config, .reset]
    else []
  | resetTimeSync => [.reset]
  | sendTimeSync => [d.session.clockRequest sv.config]
  | timeSyncResponse counter clientTicks => [.answer d.session.now counter clientTicks]
  | _ => []

/-- An operation changes a session as these four say; for the rest it may change the expansion,
the latency and the caches. -/
theorem session_run (sv : Services W) (operation : Operation W) (d : LiveSession W) :
    ∃ expansion latency accountData tutorials, (operation.run sv d).2.session =
      { operation.after sv.config (d.socketOpen sv) d.session with
        queuePosition := operation.place d.session.queuePosition
        addons := operation.addons d.session.addons
        timeSync := d.session.timeSync.after (operation.clockMoves sv d)
        expansion, latency, accountData, tutorials } := by
  cases operation with
  | setOnline =>
    simp only [run, LiveSession.frame_setOnline, after, clockMoves]
    split <;> exact ⟨_, _, _, _, rfl⟩
  | requestNewSocket socket =>
    simp only [run, LiveSession.frame_requestNewSocket, after, Session.afterRequest]
    split <;> exact ⟨_, _, _, _, rfl⟩
  | kickPlayer save inPlace =>
    simp only [run, LiveSession.frame_kickPlayer, after]
    cases inPlace <;> exact ⟨_, _, _, _, rfl⟩
  | shutdown =>
    simp only [run, LiveSession.frame_shutdown, after, Session.afterShutdown]
    split
    · exact ⟨_, _, _, _, rfl⟩
    · cases d.session.player <;> exact ⟨_, _, _, _, rfl⟩
  | loadGlobalAccountData =>
    obtain ⟨_, same⟩ := (LiveSession.frame_fetchAccountData d _ _).1
    exact ⟨_, _, _, _, same⟩
  | loadCharacterAccountData =>
    obtain ⟨_, same⟩ := d.frame_loadCharacterAccountData.1
    exact ⟨_, _, _, _, same⟩
  | setAccountData type time data =>
    obtain ⟨_, same⟩ := (d.frame_setAccountData type time data).1
    exact ⟨_, _, _, _, same⟩
  | loadTutorials =>
    obtain ⟨_, same⟩ := d.frame_loadTutorials.1
    exact ⟨_, _, _, _, same⟩
  | saveTutorials =>
    obtain ⟨_, same⟩ := d.frame_saveTutorials.1
    exact ⟨_, _, _, _, same⟩
  | attach | setOffline | logoutPlayer | setExpansion | closeSocket | send | sendAuthQueued |
      sendAuthWaitQueue | sendMotd | sendAccountDataTimes | loadAccountData | sendTutorials |
      readAddons | sendAddonsInfo | sendTimeSync | timeSyncResponse | deed =>
    simp only [run, LiveSession.frame_attach, LiveSession.frame_setOffline,
      LiveSession.frame_logoutPlayer, LiveSession.frame_setExpansion,
      LiveSession.frame_closeSocket, LiveSession.frame_send, LiveSession.frame_sendAuthQueued,
      LiveSession.frame_sendAuthWaitQueue, LiveSession.frame_sendMotd,
      LiveSession.frame_sendAccountDataTimes, LiveSession.frame_loadAccountData,
      LiveSession.frame_readAddons, LiveSession.frame_sendAddonsInfo,
      LiveSession.frame_sendTimeSync, LiveSession.frame_timeSyncResponse, LiveSession.frame_deed]
    exact ⟨_, _, _, _, rfl⟩
  | _ => exact ⟨_, _, _, _, rfl⟩

theorem life_run (sv : Services W) (operation : Operation W) (d : LiveSession W) :
    (operation.run sv d).2.session.life =
      (operation.after sv.config (d.socketOpen sv) d.session).life := by
  obtain ⟨_, _, _, _, same⟩ := operation.session_run sv d
  rw [same]
  rfl

end Operation

/-! ## Events -/

namespace Session

theorem afterAdvance_keeps (config : SessionConfig) (socketOpen : Bool) (now : Instant)
    (s : Session) :
    (s.afterAdvance config socketOpen now).account = s.account ∧
      (s.afterAdvance config socketOpen now).queuePosition = s.queuePosition := by
  rcases s.afterAdvance_cases config socketOpen now with
    ⟨-, step⟩ | ⟨-, step | step | step⟩ <;> rw [step]
  · simp only [afterCreated, afterActivation, toCharSelection]
    cases s.pending with
    | none => exact ⟨rfl, rfl⟩
    | some socket => cases s.socket <;> exact ⟨rfl, rfl⟩
  · exact ⟨rfl, rfl⟩
  · exact ⟨rfl, rfl⟩
  · exact ⟨rfl, rfl⟩

end Session

namespace Event

def after (config : SessionConfig) (socketOpen : Bool) (event : Event W) (s : Session) : Session :=
  match event with
  | clock now => { s with now }
  | perform operation => operation.after config socketOpen s
  | grant .generic status opcode =>
    if status = .authed ∧ opcode ≠ .setActiveVoiceChannel then
      { s with recentlyLoggedOut := false }
    else s
  | advance now => s.afterAdvance config socketOpen now
  | _ => s

def place (old : Option UInt32) : Event W → Option UInt32
  | perform operation => operation.place old
  | _ => old

/-- The addons that a session remembers after an event. A greeting acknowledges or forgets
them. -/
def addons (s : Session) : Event W → List Addon
  | perform operation => operation.addons s.addons
  | advance _ => if s.state = .created then [] else s.addons
  | _ => s.addons

/-- What an event does to the clock requests, the last move first. -/
def clockMoves (sv : Services W) (d : LiveSession W) : Event W → ClockHistory
  | perform operation => operation.clockMoves sv d
  | advance now => if d.asks sv now then [d.session.clockRequest sv.config] else []
  | _ => []

/-- An event changes a session as these four say; for the rest it may change the expansion, the
latency and the caches. -/
theorem session_apply (sv : Services W) (event : Event W) (d : LiveSession W) :
    ∃ expansion latency accountData tutorials, (event.apply sv d).session =
      { event.after sv.config (d.socketOpen sv) d.session with
        queuePosition := event.place d.session.queuePosition
        addons := event.addons d.session
        timeSync := d.session.timeSync.after (event.clockMoves sv d)
        expansion, latency, accountData, tutorials } := by
  cases event with
  | perform operation => exact operation.session_run sv d
  | advance now =>
    simp only [apply, LiveSession.frame_advance, after, place, addons, clockMoves,
      ← (d.session.afterAdvance_keeps sv.config (d.socketOpen sv) now).2]
    cases d.asks sv now <;> exact ⟨_, _, _, _, rfl⟩
  | grant queue status opcode =>
    cases queue with
    | generic =>
      simp only [apply, after, Queue.admitted, LiveSession.noteAdmission]
      split <;> exact ⟨_, _, _, _, rfl⟩
    | map => exact ⟨_, _, _, _, rfl⟩
  | leave queue left =>
    cases queue with
    | generic =>
      simp only [apply]
      split <;> exact ⟨_, _, _, _, rfl⟩
    | map => exact ⟨_, _, _, _, rfl⟩
  | invoke queue env => exact ⟨_, _, _, _, (LiveSession.frame_deed d _).1⟩
  | handled queue handled => exact ⟨_, _, _, _, d.frame_endDelay.1⟩
  | _ => exact ⟨_, _, _, _, rfl⟩

theorem life_apply (sv : Services W) (event : Event W) (d : LiveSession W) :
    (event.apply sv d).session.life =
      (event.after sv.config (d.socketOpen sv) d.session).life := by
  obtain ⟨_, _, _, _, same⟩ := event.session_apply sv d
  rw [same]
  rfl

theorem addons_apply (sv : Services W) (event : Event W) (d : LiveSession W) :
    (event.apply sv d).session.addons = event.addons d.session := by
  obtain ⟨_, _, _, _, same⟩ := event.session_apply sv d
  rw [same]

theorem timeSync_apply (sv : Services W) (event : Event W) (d : LiveSession W) :
    (event.apply sv d).session.timeSync = d.session.timeSync.after (event.clockMoves sv d) := by
  obtain ⟨_, _, _, _, same⟩ := event.session_apply sv d
  rw [same]

/-- Nothing that happens to a session changes its account. -/
theorem account_apply (sv : Services W) (event : Event W) (d : LiveSession W) :
    (event.apply sv d).session.account = d.session.account := by
  obtain ⟨_, _, _, _, same⟩ := event.session_apply sv d
  rw [same]
  cases event with
  | perform operation =>
    cases operation with
    | setOnline | requestNewSocket | kickPlayer | shutdown =>
      simp only [after, Operation.after, Session.afterRequest, Session.afterKick,
        Session.afterShutdown]
      split <;> first | rfl | (split <;> rfl)
    | _ => rfl
  | grant queue status opcode =>
    cases queue with
    | generic =>
      simp only [after]
      split <;> rfl
    | map => rfl
  | advance now => exact (d.session.afterAdvance_keeps _ _ now).1
  | _ => rfl

/-- Whether an event gives the session another place in the queue. -/
def setsPlace : Event W → Bool
  | perform (.setInQueue _) => true
  | _ => false

end Event

namespace LiveSession

def place (d : LiveSession W) : Option UInt32 := d.session.queuePosition

theorem place_apply {sv : Services W} (d : LiveSession W) {event : Event W}
    (kept : event.setsPlace = false) : (event.apply sv d).place = d.place := by
  obtain ⟨_, _, _, _, same⟩ := event.session_apply sv d
  rw [place, same]
  cases event with
  | perform operation => cases operation <;> first | rfl | cases kept
  | _ => rfl

theorem life_advance {sv : Services W} (d : LiveSession W) (now : Instant) :
    (d.advance sv now).2.session.life =
      (d.session.afterAdvance sv.config (d.socketOpen sv) now).life :=
  Event.life_apply sv (.advance now) d

end LiveSession

end GameRealm
