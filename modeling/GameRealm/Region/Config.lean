import GameRealm.Tick.Config

/-!
# Region pool settings

Regions are shared out among a fixed number of actors: a region belongs to the
actor numbered by its remainder, so all its sessions are drained by one actor.
-/

namespace GameRealm

structure RegionConfig where
  /-- The number of actors; at least one is started. -/
  actorCount : UInt64 := 4
  /-- The tick settings that the actors share. -/
  tick : TickConfig := {}
  /-- The commands that an actor may have waiting. -/
  channelSize : UInt64 := 64
  deriving Inhabited

namespace RegionConfig

def ofJson? (json : Json) : Option RegionConfig := do
  let r ← json.record? ["actor_count", "tick", "channel_size"]
  let d : RegionConfig := {}
  return {
    actorCount := ← r.fieldOr 0 d.actorCount Json.u64?
    tick := ← r.fieldOr 1 d.tick TickConfig.ofJson?
    channelSize := ← r.fieldOr 2 d.channelSize Json.u64? }

end RegionConfig

end GameRealm
