import GameRealm.Persistence
import GameRealm.Session.Notice

/-!
# What surrounds a session

A session talks to sockets, to the character it has in the world, to the world
itself and to two databases. None of them is part of the session: it asks them
questions about a state `W` that is theirs, and it does things to them. Whatever
it does is an `Effect`; the effects of a run, in order, are what an observer can
see of it.
-/

namespace GameRealm

/-- A character that is attached to a session. The token tells apart two
attachments of one character. -/
structure Character where
  token : Nat
  guid : PlayerGuid
  name : String
  deriving DecidableEq, Repr, Inhabited

/-- The stages of dying that a logout has to settle. -/
inductive DeathState where
  | alive
  /-- Dead, and not yet at a graveyard. -/
  | awaitingRespawn
  /-- Kept alive by something that ends in death. -/
  | delayedDeath
  deriving DecidableEq, Repr, Inhabited

/-- What a session can ask about its character. -/
structure CharacterView where
  inWorld : Bool
  region : Option RegionId
  /-- On the way to another region. -/
  teleportingFar : Bool
  /-- A relocation is recorded that was asked for while relocations were delayed. -/
  delayedTeleport : Bool
  death : DeathState
  inCombat : Bool
  validInstance : Bool
  gameMaster : Bool
  /-- The battleground queues the character waits in. -/
  battlegroundQueues : List UInt32
  guild : Option UInt32
  /-- Whether the character's group is a raid, if it has a group. -/
  raidGroup : Option Bool
  /-- The character's social data is loaded. -/
  social : Bool
  deriving DecidableEq, Repr, Inhabited

/-- What a session can ask about a socket. -/
structure SocketView where
  closed : Bool
  key : SessionKey
  address : String
  /-- The most recent opcodes received, oldest first. -/
  history : List Opcode
  deriving DecidableEq, Repr, Inhabited

/-- What a session does to its character. -/
inductive Deed where
  | completeFarTeleport
  /-- From now on relocations are recorded instead of performed, or no longer so. -/
  | delayTeleport (on : Bool)
  | executeDelayedTeleport
  | teleportToHomebind
  | releaseLoot
  | repopAtGraveyard
  | kill
  | leaveCombat
  | notifyBattlegroundLogout
  | takeBattlegroundQueues
  | uninviteFromGroup
  | removeFromGroup
  | updateGroupOnlineStatus (online : Bool)
  | removePet
  | save
  | cleanupChannels
  | cleanupBeforeDelete
  | expansionChange (level : UInt8)
  deriving DecidableEq, Repr

/-- What a session asks of the world about a character. -/
inductive WorldCall where
  /-- Takes the character out of its region. -/
  | removePlayer (saveFirst : Bool)
  /-- Takes a character that is in no region out of the world. -/
  | deleteFromWorld
  | sendFriendOffline
  | removeSocial
  | guildMemberLoggedOut (guild : UInt32) (name : String)
  | leaveBattlegroundQueue (queue : UInt32)
  | leaveLfg
  | ticketOnlineState (online : Bool)
  deriving DecidableEq, Repr

/-- Something that an observer sees. -/
inductive Effect where
  | send (socket : SocketId) (message : Message)
  | close (socket : SocketId)
  /-- The socket is let go of for good. -/
  | finalize (socket : SocketId)
  | character (character : Character) (deed : Deed)
  /-- The session lets go of the character. -/
  | release (character : Character)
  | world (guid : PlayerGuid) (call : WorldCall)
  | database (database : Database) (call : DatabaseCall)
  /-- An envelope with this opcode arrived. -/
  | countOpcode (opcode : Opcode)
  | log (notice : Notice)
  /-- A handler or a callback has something to say. -/
  | remark (speaker text : String)
  deriving DecidableEq, Repr

/-- What the surroundings answer in a state, and how an effect changes the state. -/
structure Collaborators (W : Type) where
  socket : W → SocketId → SocketView
  character : W → Character → CharacterView
  /-- The region in which the world has a character. -/
  regionOf : W → PlayerGuid → Option RegionId
  /-- The wall clock in seconds. -/
  unixTime : W → UInt32
  /-- Whether saving the character succeeds. -/
  saving : W → Character → Except PersistenceError Unit
  /-- Whether a call that returns no rows succeeds. -/
  calling : W → Database → DatabaseCall → Except PersistenceError Unit
  /-- The rows of a query, `none` when there are none. -/
  rows : W → Database → Statement → Except PersistenceError (Option (List Row))
  react : W → Effect → W

/-- The state of the surroundings and what has happened to them, the last effect
first. -/
structure Outside (W : Type) where
  world : W
  effects : List Effect := []

namespace Outside

def emit (co : Collaborators W) (effect : Effect) (outside : Outside W) : Outside W :=
  { world := co.react outside.world effect, effects := effect :: outside.effects }

def trace (outside : Outside W) : List Effect := outside.effects.reverse

def log (co : Collaborators W) (notice : Notice) : Outside W → Outside W :=
  emit co (.log notice)

def logAll (co : Collaborators W) (notices : List Notice) (outside : Outside W) : Outside W :=
  notices.foldl (fun outside notice => outside.log co notice) outside

def act (co : Collaborators W) (character : Character) (deed : Deed) :
    Outside W → Outside W :=
  emit co (.character character deed)

def ask (co : Collaborators W) (guid : PlayerGuid) (call : WorldCall) :
    Outside W → Outside W :=
  emit co (.world guid call)

def character (co : Collaborators W) (outside : Outside W) (character : Character) :
    CharacterView :=
  co.character outside.world character

/-- Calls a database. The call is seen whether or not it succeeds. -/
def call (co : Collaborators W) (db : Database) (call : DatabaseCall) (outside : Outside W) :
    Except PersistenceError Unit × Outside W :=
  (co.calling outside.world db call, outside.emit co (.database db call))

def query (co : Collaborators W) (db : Database) (statement : Statement)
    (outside : Outside W) : Except PersistenceError (Option (List Row)) × Outside W :=
  (co.rows outside.world db statement, outside.emit co (.database db (.query statement)))

end Outside

end GameRealm
