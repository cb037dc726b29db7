import GameRealm.Region.Config
import GameRealm.Session.Config

/-!
# Realm settings

Everything that is needed to run a realm.
-/

namespace GameRealm

/-- The number of opcodes remembered for a connection unless set otherwise. -/
def defaultHistoryCapacity : UInt64 := 32

structure RealmConfig where
  bindAddress : String := "127.0.0.1:8085"
  worldTick : TickConfig := .withRate 20
  regions : RegionConfig := {}
  session : SessionConfig := {}
  /-- The sessions let past the login queue; zero means all of them. -/
  maxActiveSessions : UInt64 := 0
  /-- How many seconds a connection has for its first frame. -/
  handshakeTimeout : UInt64 := 5
  /-- The authenticated connections that may wait for the world loop. -/
  admissionChannelSize : UInt64 := 256
  /-- The opcodes remembered for a connection. -/
  opcodeHistory : UInt64 := defaultHistoryCapacity
  deriving Inhabited

namespace RealmConfig

def ofJson? (json : Json) : Option RealmConfig := do
  let r ← json.record? ["bind_addr", "world_tick", "regions", "session",
    "max_active_sessions", "handshake_timeout_secs", "admission_channel_size",
    "opcode_history"]
  let d : RealmConfig := {}
  return {
    bindAddress := ← r.fieldOr 0 d.bindAddress Json.string?
    worldTick := ← r.fieldOr 1 d.worldTick TickConfig.ofJson?
    regions := ← r.fieldOr 2 d.regions RegionConfig.ofJson?
    session := ← r.fieldOr 3 d.session SessionConfig.ofJson?
    maxActiveSessions := ← r.fieldOr 4 d.maxActiveSessions Json.u64?
    handshakeTimeout := ← r.fieldOr 5 d.handshakeTimeout Json.u64?
    admissionChannelSize := ← r.fieldOr 6 d.admissionChannelSize Json.u64?
    opcodeHistory := ← r.fieldOr 7 d.opcodeHistory Json.u64? }

inductive Change where
  | bind (address : String)
  | worldRate (rate : UInt32)
  | maxActiveSessions (limit : UInt64)
  | regions (regions : RegionConfig)
  | session (session : SessionConfig)

def apply (config : RealmConfig) : Change → RealmConfig
  | .bind address => { config with bindAddress := address }
  | .worldRate rate => { config with worldTick := { config.worldTick with rate } }
  | .maxActiveSessions limit => { config with maxActiveSessions := limit }
  | .regions regions => { config with regions }
  | .session session => { config with session }

end RealmConfig

end GameRealm
