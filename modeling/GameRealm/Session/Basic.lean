import GameRealm.Session.AccountData
import GameRealm.Session.Addons
import GameRealm.Session.Config
import GameRealm.Session.Surroundings
import GameRealm.Session.TimeSync
import GameRealm.Session.Tutorials

/-!
# Sessions

A session is what the realm keeps for an authenticated account: the socket, the
character it has in the world, if any, and where it stands in its life.
-/

namespace GameRealm

/-- What authentication tells about an account. -/
structure Account where
  id : AccountId
  security : AccountSecurity
  /-- The highest expansion that the account may use. -/
  expansion : UInt8
  locale : Locale
  key : SessionKey
  deriving DecidableEq, Repr, Inhabited

/-- Where a session stands in its life. -/
inductive SessionState where
  /-- Just authenticated, or offered a new socket. The next tick acknowledges it. -/
  | created
  /-- At the list of characters. -/
  | charSelection
  /-- A character is in the world and the socket is there. -/
  | ready
  /-- The socket is gone; the character stays for a while. -/
  | offline
  deriving DecidableEq, Repr, Inhabited

namespace SessionState

def name : SessionState → String
  | created => "created"
  | charSelection => "char-selection"
  | ready => "ready"
  | offline => "offline"

end SessionState

/-- What becomes of a session after a world tick. -/
inductive UpdateOutcome where
  | keep
  /-- The session is finished: shut it down and forget it. -/
  | remove
  deriving DecidableEq, Repr, Inhabited

/-- A logout that is to happen. -/
structure ScheduledLogout where
  requestedAt : Instant
  /-- A kick does not wait. -/
  immediate : Bool
  deriving DecidableEq, Repr, Inhabited

/-- The session of an account. -/
structure Session where
  account : AccountId
  security : AccountSecurity
  expansion : UInt8
  locale : Locale
  /-- The character in the world. -/
  player : Option Character := none
  /-- The last character that was attached, also after its logout. -/
  characterGuid : Option PlayerGuid := none
  socket : Option SocketId
  /-- A socket that takes over at the next tick. -/
  pending : Option SocketId := none
  state : SessionState := .created
  /-- When the session is disconnected for inactivity or given up. -/
  kickDeadline : Option Instant := none
  scheduledLogout : Option ScheduledLogout := none
  /-- The place in the login queue. -/
  queuePosition : Option UInt32 := none
  playerLoading : Bool := false
  loggingOut : Bool := false
  recentlyLoggedOut : Bool := false
  saveOnLogout : Bool := true
  /-- The time of the last tick. -/
  now : Instant
  hasShutDown : Bool := false
  accountData : AccountDataCache := .empty
  tutorials : Tutorials := {}
  /-- The addons that are not acknowledged yet. -/
  addons : List Addon := []
  timeSync : TimeSync
  latency : UInt32 := 0

namespace Session

def create (account : Account) (socket : SocketId) (now : Instant) : Session :=
  { account := account.id
    security := account.security
    expansion := account.expansion
    locale := account.locale
    socket := some socket
    now
    timeSync := { epoch := now } }

def playerGuid (session : Session) : Option PlayerGuid := session.player.map (·.guid)

def playerName (session : Session) : String :=
  (session.player.map (·.name)).getD "<none>"

def inQueue (session : Session) : Bool := session.queuePosition.isSome

/-- Whether a scheduled logout is due. A delay that ends beyond the clock never does. -/
def shouldLogOut (config : SessionConfig) (session : Session) (now : Instant) : Bool :=
  match session.scheduledLogout with
  | none => false
  | some logout =>
    logout.immediate ||
      match logout.requestedAt.addSeconds? config.logoutDelay.toNat with
      | none => false
      | some due => decide (due ≤ now)

/-- Whether the deadline of the session has passed. -/
def shouldDisconnect (session : Session) (now : Instant) : Bool :=
  match session.kickDeadline with
  | none => false
  | some deadline => decide (deadline ≤ now)

/-- Schedules a logout, or cancels it. -/
def logoutRequest (session : Session) (requestedAt : Option Instant) : Session :=
  { session with scheduledLogout := requestedAt.map (⟨·, false⟩) }

def attach (session : Session) (character : Character) : Session :=
  { session with characterGuid := some character.guid, player := some character }

/-- Goes back to the list of characters and arms the deadline. -/
def toCharSelection (config : SessionConfig) (session : Session) : Session :=
  { session with
    state := .charSelection
    kickDeadline := session.now.addSeconds? config.charSelectionTimeout.toNat }

/-- The active socket exists and is open. -/
def socketOpen (co : Collaborators W) (world : W) (session : Session) : Bool :=
  match session.socket with
  | none => false
  | some socket => !(co.socket world socket).closed

def playerInWorld (co : Collaborators W) (world : W) (session : Session) : Bool :=
  match session.player with
  | none => false
  | some character => (co.character world character).inWorld

/-- The region whose tick is to drain the map queue. -/
def playerRegion (co : Collaborators W) (world : W) (session : Session) : Option RegionId :=
  match session.player with
  | none => none
  | some character =>
    let view := co.character world character
    if view.inWorld then view.region else none

def remoteAddress (co : Collaborators W) (world : W) (session : Session) : String :=
  match session.socket with
  | none => "<offline>"
  | some socket => (co.socket world socket).address

def sessionKey (co : Collaborators W) (world : W) (session : Session) : Option SessionKey :=
  session.socket.map fun socket => (co.socket world socket).key

/-- The recent opcodes of the active socket, oldest first. -/
def opcodeHistory (co : Collaborators W) (world : W) (session : Session) : List Opcode :=
  match session.socket with
  | none => []
  | some socket => (co.socket world socket).history

end Session

end GameRealm
