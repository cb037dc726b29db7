import GameRealm.Json.Record

/-!
# Session settings

The deadlines of a session in whole seconds, what happens to a client that
sends bad payloads, and the message of the day.
-/

namespace GameRealm

structure SessionConfig where
  /-- How long a session may idle at character selection. -/
  charSelectionTimeout : UInt64 := 900
  /-- How long a requested logout waits. -/
  logoutDelay : UInt64 := 20
  /-- How long a character stays in the world without a socket. -/
  offlineGrace : UInt64 := 20
  /-- Kick the player whose payload cannot be read. -/
  kickOnBadPacket : Bool := false
  /-- From the first clock request of a run to the second. -/
  timeSyncFirstInterval : UInt64 := 5
  /-- Between all later clock requests. -/
  timeSyncInterval : UInt64 := 10
  /-- The message of the day; `@` parts its lines. -/
  motd : String := "Welcome to Realmkeep."
  deriving DecidableEq, Repr, Inhabited

namespace SessionConfig

def ofJson? (json : Json) : Option SessionConfig := do
  let r ← json.record? ["char_selection_timeout_secs", "logout_delay_secs",
    "offline_grace_secs", "kick_on_bad_packet", "time_sync_first_interval_secs",
    "time_sync_interval_secs", "motd"]
  let d : SessionConfig := {}
  return {
    charSelectionTimeout := ← r.fieldOr 0 d.charSelectionTimeout Json.u64?
    logoutDelay := ← r.fieldOr 1 d.logoutDelay Json.u64?
    offlineGrace := ← r.fieldOr 2 d.offlineGrace Json.u64?
    kickOnBadPacket := ← r.fieldOr 3 d.kickOnBadPacket Json.bool?
    timeSyncFirstInterval := ← r.fieldOr 4 d.timeSyncFirstInterval Json.u64?
    timeSyncInterval := ← r.fieldOr 5 d.timeSyncInterval Json.u64?
    motd := ← r.fieldOr 6 d.motd Json.string? }

def motdLines (config : SessionConfig) : List String := config.motd.splitOn "@"

end SessionConfig

end GameRealm
