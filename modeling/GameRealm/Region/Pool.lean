import GameRealm.Realm.Error
import GameRealm.Region.Config
import GameRealm.Tick.Loop

/-!
# The pool of region actors

An actor hosts the sessions whose player is in one of its regions and drains
their map queues tick by tick. It takes commands; once stopped it takes none.
The pool sends each region's commands to the region's actor and keeps an index
of where every session is placed.
-/

namespace GameRealm

structure RegionActor where
  /-- The sessions hosted, each with its region. -/
  hosted : List (AccountId × RegionId) := []
  ticks : TickLoop
  running : Bool := true
  deriving Inhabited

/-- A command that an actor answers. -/
inductive RegionCommand where
  /-- Start draining a session's map queue. -/
  | join (account : AccountId) (region : RegionId)
  /-- Stop draining it. -/
  | leave (account : AccountId) (region : RegionId)
  deriving DecidableEq, Repr

structure RegionInfo where
  actor : Nat
  sessions : Nat
  /-- The regions with at least one session. -/
  regions : Nat
  ticks : Nat
  deriving DecidableEq, Repr

namespace RegionActor

/-- The region in which the actor hosts a session. -/
def regionOf? (actor : RegionActor) (account : AccountId) : Option RegionId :=
  (actor.hosted.find? (·.1 == account)).map (·.2)

def handle (actor : RegionActor) : RegionCommand → Except RegionError Unit × RegionActor
  | .join account region =>
    match actor.regionOf? account with
    | some current => (.error (.alreadyHosted account current), actor)
    | none => (.ok (), { actor with hosted := actor.hosted ++ [(account, region)] })
  | .leave account region =>
    if actor.regionOf? account = some region then
      (.ok (), { actor with hosted := actor.hosted.filter (·.1 != account) })
    else (.error (.notHosted account region), actor)

/-- The actor once it has stopped: its sessions are released, not shut down. -/
def stop (actor : RegionActor) : RegionActor := { actor with hosted := [], running := false }

def info (actor : RegionActor) (index : Nat) : RegionInfo :=
  { actor := index
    sessions := actor.hosted.length
    regions := (actor.hosted.map (·.2)).eraseDups.length
    ticks := actor.ticks.count }

def isDue (actor : RegionActor) (now : Instant) : Bool :=
  actor.running && decide (actor.ticks.due ≤ now)

/-- The actor after a tick whose work takes no time. -/
def tick (actor : RegionActor) (now : Instant) : RegionActor :=
  { actor with ticks := ((actor.ticks.fire now).finish now).2 }

end RegionActor

/-- The actors and the index of placements. -/
structure RegionPool where
  actors : List RegionActor
  placements : List (AccountId × RegionId) := []
  deriving Inhabited

namespace RegionPool

/-- A pool whose actors all start at `now`, without jitter. At least one starts. -/
def start (config : RegionConfig) (now : Instant) : RegionPool :=
  { actors := List.replicate (max config.actorCount.toNat 1)
      { ticks := .start config.tick now 0 } }

/-- The actor that ticks a region. -/
def actorFor (pool : RegionPool) (region : RegionId) : Nat :=
  region.val.toNat % pool.actors.length

def placement (pool : RegionPool) (account : AccountId) : Option RegionId :=
  (pool.placements.find? (·.1 == account)).map (·.2)

def length (pool : RegionPool) : Nat := pool.placements.length

def send (pool : RegionPool) (actor : Nat) (command : RegionCommand) :
    Except RegionError Unit × RegionPool :=
  match pool.actors[actor]? with
  | none => (.error (.unavailable actor), pool)
  | some a =>
    if a.running then
      let (answer, a) := a.handle command
      (answer, { pool with actors := pool.actors.set actor a })
    else (.error (.unavailable actor), pool)

def leave (pool : RegionPool) (account : AccountId) (region : RegionId) :
    Except RegionError Unit × RegionPool :=
  pool.send (pool.actorFor region) (.leave account region)

def join (pool : RegionPool) (account : AccountId) (region : RegionId) :
    Except RegionError Unit × RegionPool :=
  pool.send (pool.actorFor region) (.join account region)

def forget (pool : RegionPool) (account : AccountId) : RegionPool :=
  { pool with placements := pool.placements.filter (·.1 != account) }

def note (pool : RegionPool) (account : AccountId) (region : RegionId) : RegionPool :=
  { pool with placements := pool.placements ++ [(account, region)] }

/-- Takes a session out of the region in which it is placed, if it is in one. -/
def vacate (pool : RegionPool) (account : AccountId) : Except RegionError Unit × RegionPool :=
  match pool.placement account with
  | none => (.ok (), pool)
  | some old =>
    match pool.leave account old with
    | (.error e, pool) => (.error e, pool)
    | (.ok (), pool) => (.ok (), pool.forget account)

/-- Puts a session that is placed nowhere into a region. -/
def settle (pool : RegionPool) (account : AccountId) (region : RegionId) :
    Except RegionError Unit × RegionPool :=
  match pool.join account region with
  | (.error e, pool) => (.error e, pool)
  | (.ok (), pool) => (.ok (), pool.note account region)

/-- Moves a session to a region, or out of every region. A session that is there
already stays. -/
def place (pool : RegionPool) (account : AccountId) (region : Option RegionId) :
    Except RegionError Unit × RegionPool :=
  if pool.placement account = region then (.ok (), pool)
  else
    match pool.vacate account with
    | (.error e, pool) => (.error e, pool)
    | (.ok (), pool) =>
      match region with
      | none => (.ok (), pool)
      | some region => pool.settle account region

/-- Takes a session out of its region for good. The index forgets it even if the
actor does not answer. -/
def remove (pool : RegionPool) (account : AccountId) : Except RegionError Unit × RegionPool :=
  match pool.placement account with
  | none => (.ok (), pool)
  | some region => (pool.forget account).leave account region

def stopActor (pool : RegionPool) (actor : Nat) : Except RegionError Unit × RegionPool :=
  match pool.actors[actor]? with
  | none => (.error (.unavailable actor), pool)
  | some a =>
    if a.running then (.ok (), { pool with actors := pool.actors.set actor a.stop })
    else (.error (.unavailable actor), pool)

def info (pool : RegionPool) (actor : Nat) : Except RegionError RegionInfo :=
  match pool.actors[actor]? with
  | none => .error (.unavailable actor)
  | some a => if a.running then .ok (a.info actor) else .error (.unavailable actor)

def infos (pool : RegionPool) : List RegionInfo :=
  (List.range pool.actors.length).filterMap fun i => (pool.info i).toOption

/-- Stops every actor and forgets all placements. -/
def shutdown (pool : RegionPool) : RegionPool :=
  { actors := pool.actors.map (·.stop), placements := [] }

end RegionPool

end GameRealm
