import GameRealm.Region.Pool
import GameRealm.Session.Roster

/-!
# Region ticks

On a tick an actor drains the map queues of the sessions it hosts, one after the
other.
-/

namespace GameRealm

namespace RegionActor

def drain (sv : Services W) (actor : RegionActor) (now : Instant) (roster : Roster W) :
    Roster W :=
  actor.hosted.foldl (fun roster entry => roster.change entry.1 (·.updateMap sv now)) roster

def tickIfDue (sv : Services W) (now : Instant) (actor : RegionActor) (roster : Roster W) :
    RegionActor × Roster W :=
  if actor.isDue now then (actor.tick now, actor.drain sv now roster) else (actor, roster)

end RegionActor

namespace RegionPool

/-- Runs the due ticks of actors, in order. -/
def tickActors (sv : Services W) (now : Instant) :
    List RegionActor → Roster W → List RegionActor × Roster W
  | [], roster => ([], roster)
  | actor :: actors, roster =>
    let (actor, roster) := actor.tickIfDue sv now roster
    let (actors, roster) := tickActors sv now actors roster
    (actor :: actors, roster)

def tick (sv : Services W) (now : Instant) (pool : RegionPool) (roster : Roster W) :
    RegionPool × Roster W :=
  let (actors, roster) := tickActors sv now pool.actors roster
  ({ pool with actors }, roster)

/-- When the next tick of a running actor is due. -/
def nextDue? (pool : RegionPool) : Option Instant :=
  ((pool.actors.filter (·.running)).map (·.ticks.due)).min?

end RegionPool

end GameRealm
