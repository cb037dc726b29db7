import GameRealm.Message.Codec
import GameRealm.Realm.Registry
import GameRealm.Rehearsal.Stage

/-!
# What is reported about a rehearsal

The written forms of effects, errors and states. Every object has its members in
the order of their names.
-/

namespace GameRealm

def failureReport (kind message : String) : Json :=
  .obj [("error", .str kind), ("message", .str message)]

namespace PersistenceError

def kind : PersistenceError → String
  | statement .. => "Persistence.Statement"
  | transaction .. => "Persistence.Transaction"
  | column .. => "Persistence.Column"
  | unavailable .. => "Persistence.Unavailable"

def report (e : PersistenceError) : Json := failureReport e.kind e.message

end PersistenceError

namespace PayloadError

def kind : PayloadError → String
  | outOfBounds .. => "OutOfBounds"
  | unterminatedString .. => "UnterminatedString"
  | malformed .. => "Malformed"

def report (e : PayloadError) : Json := failureReport e.kind e.message

end PayloadError

namespace SessionError

def kind : SessionError → String
  | authFailed .. => "AuthFailed"
  | persistence cause => cause.kind
  | payload cause => cause.kind
  | invalidRegistration .. => "InvalidRegistration"
  | socketPending => "SocketPending"
  | invalidAccountDataType .. => "InvalidAccountDataType"
  | addonManifest .. => "AddonManifest"

def report (e : SessionError) : Json := failureReport e.kind e.message

end SessionError

namespace RegionError

def kind : RegionError → String
  | alreadyHosted .. => "AlreadyHosted"
  | notHosted .. => "NotHosted"
  | unavailable .. => "Unavailable"

def report (e : RegionError) : Json := failureReport e.kind e.message

end RegionError

namespace Rehearsal

/-- The written form of a result: `null` or the failure. -/
def unitReport (report : ε → Json) : Except ε Unit → Json
  | .ok () => .null
  | .error e => report e

/-- A 64-bit number as a decimal text. -/
def wide (n : Nat) : Json := .str (toString n)

end Rehearsal

namespace SqlValue

def toJson : SqlValue → Json
  | u32 value => .obj [("u32", .nat value.toNat)]
  | u64 value => .obj [("u64", .str (toString value.toNat))]
  | text value => .obj [("text", .str value)]
  | null => .null

end SqlValue

namespace Addon

def report (addon : Addon) : Json :=
  .obj [("crc", .nat addon.crc.toNat), ("enabled", .nat addon.enabled.toNat),
    ("name", .str addon.name)]

end Addon

namespace AccountData

def report (blob : AccountData) : Json :=
  .obj [("data", .str blob.data), ("time", Rehearsal.wide blob.time.toNat)]

end AccountData

namespace TutorialState

def name : TutorialState → String
  | unchanged => "unchanged"
  | changed => "changed"
  | new => "new"

end TutorialState

/-! ## Effects -/

namespace Deed

def display : Deed → String
  | completeFarTeleport => "complete_far_teleport"
  | delayTeleport on => "set_can_delay_teleport " ++ toString on
  | executeDelayedTeleport => "execute_delayed_teleport"
  | teleportToHomebind => "teleport_to_homebind"
  | releaseLoot => "release_loot"
  | repopAtGraveyard => "repop_at_graveyard"
  | kill => "kill"
  | leaveCombat => "leave_combat"
  | notifyBattlegroundLogout => "notify_battleground_logout"
  | takeBattlegroundQueues => "take_battleground_queues"
  | uninviteFromGroup => "uninvite_from_group"
  | removeFromGroup => "remove_from_group"
  | updateGroupOnlineStatus online => "update_group_online_status " ++ toString online
  | removePet => "remove_pet"
  | save => "save_to_db"
  | cleanupChannels => "cleanup_channels"
  | cleanupBeforeDelete => "cleanup_before_delete"
  | expansionChange level => "on_expansion_change " ++ toString level.toNat

end Deed

namespace WorldCall

def display : WorldCall → String
  | removePlayer saveFirst => "remove_player " ++ toString saveFirst
  | deleteFromWorld => "delete_from_world"
  | sendFriendOffline => "send_friend_offline"
  | removeSocial => "remove_player_social"
  | guildMemberLoggedOut guild name =>
    "guild_member_logged_out " ++ toString guild.toNat ++ " " ++ name
  | leaveBattlegroundQueue queue => "leave_battleground_queue " ++ toString queue.toNat
  | leaveLfg => "leave_lfg"
  | ticketOnlineState online => "ticket_online_state " ++ toString online

end WorldCall

namespace Database

def name : Database → String
  | login => "login_db"
  | character => "character_db"

end Database

namespace Statement

/-- How a statement is written: its name and its parameters. -/
def display (statement : Statement) : String :=
  statement.name ++ " [" ++
    String.intercalate "," (statement.params.map fun value => value.toJson.render) ++ "]"

/-- The number under which a statement is filed: its first parameter, but the
account where the first one is a constant. -/
def key (statement : Statement) : Nat :=
  let param := match statement with
    | accountInactive .. => statement.params.getLast?
    | _ => statement.params.head?
  match param with
  | some (.u32 n) => n.toNat
  | some (.u64 n) => n.toNat
  | _ => 0

end Statement

namespace DatabaseCall

def display : DatabaseCall → String
  | execute statement => "execute " ++ statement.display
  | query statement => "query " ++ statement.display
  | begin => "begin"
  | commit => "commit"
  | rollback => "rollback"

def statement? : DatabaseCall → Option Statement
  | execute statement => some statement
  | query statement => some statement
  | _ => none

end DatabaseCall

namespace Message

/-- The message without the time of day. -/
def timeless : Message → Message
  | accountDataTimes _ mask times => accountDataTimes 0 mask times
  | message => message

end Message

namespace Effect

/-- Whom an effect concerns. -/
def owner : Effect → String
  | send socket _ => "sock" ++ toString socket.val
  | close socket => "sock" ++ toString socket.val
  | finalize socket => "sock" ++ toString socket.val
  | character c _ => "player:" ++ c.guid.display
  | release c => "player:" ++ c.guid.display
  | world guid _ => "world:" ++ guid.display
  | database db call =>
    match call.statement? with
    | some statement => db.name ++ ":" ++ toString statement.key
    | none => db.name
  | countOpcode _ => "count"
  | log _ => "log"
  | remark speaker _ => speaker

def display : Effect → String
  | send _ message => "send " ++ message.opcode.display ++ " " ++ message.timeless.render
  | close _ => "close"
  | finalize _ => "finalize"
  | character _ deed => deed.display
  | release _ => "dropped"
  | world _ call => call.display
  | database _ call => call.display
  | countOpcode opcode => opcode.display
  | log notice => notice.entry.render
  | remark _ text => text

def line (effect : Effect) : String := effect.owner ++ " " ++ effect.display

def isLog : Effect → Bool
  | log _ => true
  | _ => false

end Effect

namespace Rehearsal

/-- The texts of some effects by owner, the owners in the order of their first
appearance. Log entries are left out. -/
def byOwner (effects : List Effect) : Json :=
  let shown := effects.filter fun effect => !effect.isLog
  let owners := (shown.map Effect.owner).eraseDups
  .obj (owners.map fun owner =>
    (owner, .list (fun effect => .str effect.display)
      (shown.filter fun effect => effect.owner == owner)))

def stateReport (view : View Stage) : Json :=
  let s := view.session
  let co := Stage.collaborators
  .obj [
    ("character", .opt (fun guid : PlayerGuid => .nat guid.val.toNat) s.characterGuid),
    ("clock_delta", .int s.timeSync.clockDelta),
    ("generic", .nat view.genericLength),
    ("in_queue", .bool s.inQueue),
    ("kick", .opt (fun t => .int (Instant.toMillis t)) s.kickDeadline),
    ("latency", .nat s.latency.toNat),
    ("loading", .bool s.playerLoading),
    ("logging_out", .bool s.loggingOut),
    ("map", .nat view.mapLength),
    ("now", .int (Instant.toMillis s.now)),
    ("open", .bool (s.socketOpen co view.world)),
    ("pending", .bool s.pending.isSome),
    ("player", .opt (fun guid : PlayerGuid => .nat guid.val.toNat) s.playerGuid),
    ("queue", .opt (fun n : UInt32 => .nat n.toNat) s.queuePosition),
    ("recent", .bool s.recentlyLoggedOut),
    ("socket", .bool s.socket.isSome),
    ("state", .str s.state.name)]

/-- Everything else that can be asked of a session. -/
def infoReport (view : View Stage) : Json :=
  let s := view.session
  let co := Stage.collaborators
  .obj [
    ("account", .str s.account.display),
    ("expansion", .nat s.expansion.toNat),
    ("inbox_account", .nat s.account.val.toNat),
    ("locale", .str s.locale.name),
    ("motd", .str view.config.motd),
    ("opcode_history", .list (fun opcode : Opcode => .nat opcode.val.toNat)
      (s.opcodeHistory co view.world)),
    ("player_in_world", .opt (fun c => .bool (co.character view.world c).inWorld) s.player),
    ("player_name", .str s.playerName),
    ("player_region", .opt (fun region : RegionId => .nat region.val.toNat)
      (s.playerRegion co view.world)),
    ("remote_address", .str (s.remoteAddress co view.world)),
    ("security", .str s.security.name),
    ("session_key", .opt (fun key : SessionKey => .str key.toHex) (s.sessionKey co view.world))]

def actorReport (info : RegionInfo) : Json :=
  .obj [("actor", .nat info.actor), ("regions", .nat info.regions),
    ("sessions", .nat info.sessions), ("ticks", .nat info.ticks)]

end Rehearsal

end GameRealm
