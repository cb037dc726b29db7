import GameRealm.Rehearsal.Metronome
import GameRealm.Rehearsal.Repertoire

/-!
# A rehearsal of the region pool

Sessions are placed on the actors of a pool while a simulated clock runs. A
session comes into being when it is first mentioned.
-/

namespace GameRealm.Rehearsal

/-- A pool, the sessions, and the clock. -/
structure PoolRun where
  pool : RegionPool
  roster : Roster Stage
  now : Instant := 0

inductive PoolStep where
  | place (account : AccountId) (region : Option RegionId)
  | remove (account : AccountId)
  /-- A command for the actor of the region `via`. -/
  | send (via : RegionId) (command : RegionCommand)
  | actorFor (region : RegionId)
  | stopActor (via : RegionId)
  | getInfo (via : RegionId)
  | sleep (ms : Nat)
  | shutdown
  | act (account : AccountId) (action : Action)
  | stage (change : Stage → Stage)

/-- Runs region ticks up to a limit; each wakes at least a millisecond later than
the one before. -/
def sleepWithin (sv : Services Stage) (limit : Instant) : Nat → PoolRun → PoolRun
  | 0, t => { t with now := limit }
  | fuel + 1, t =>
    match t.pool.nextDue? with
    | none => { t with now := limit }
    | some due =>
      let now := wakeAt t.now due
      if now ≤ limit then
        let (pool, roster) := t.pool.tick sv now t.roster
        sleepWithin sv limit fuel { pool, roster, now }
      else { t with now := limit }

def sleep (sv : Services Stage) (ms : Nat) (t : PoolRun) : PoolRun :=
  sleepWithin sv (t.now + Duration.ofMillis ms) (ms + 2) t

/-- What one can see after a step. -/
structure PoolOutcome where
  result : Json
  effects : List Effect
  infos : List RegionInfo
  actors : Nat
  placed : Nat
  /-- Every session: its account, its placement, and the length of its map queue. -/
  sessions : List (AccountId × Option RegionId × Nat)

namespace PoolRun

/-- Makes the session of an account if there is none. Its socket is the one that
the account's number falls on. -/
def mention (sv : Services Stage) (account : AccountId) (t : PoolRun) : PoolRun :=
  if t.roster.has account then t
  else
    let socket := account.val.toNat % t.roster.outside.world.sockets.length
    let d := LiveSession.create sv
      { id := account, security := .player, expansion := 2, locale := .enUs, key := ⟨[]⟩ }
      ⟨socket⟩ 0 t.roster.outside
    { t with roster := t.roster.add account d }

/-- The session that a step names. -/
def mentioned? : PoolStep → Option AccountId
  | .place account _ => some account
  | .remove account => some account
  | .send _ (.join account _) => some account
  | .send _ (.leave account _) => some account
  | .act account _ => some account
  | _ => none

def act (sv : Services Stage) (t : PoolRun) : PoolStep → Json × PoolRun
  | .place account region =>
    let (result, pool) := t.pool.place account region
    (unitReport RegionError.report result, { t with pool })
  | .remove account =>
    let (result, pool) := t.pool.remove account
    (unitReport RegionError.report result, { t with pool })
  | .send via command =>
    let (result, pool) := t.pool.send (t.pool.actorFor via) command
    (unitReport RegionError.report result, { t with pool })
  | .actorFor region => (.nat (t.pool.actorFor region), t)
  | .stopActor via =>
    let (result, pool) := t.pool.stopActor (t.pool.actorFor via)
    (unitReport RegionError.report result, { t with pool })
  | .getInfo via =>
    (match t.pool.info (t.pool.actorFor via) with
      | .error e => e.report
      | .ok info => .obj [("actor", .nat info.actor), ("sessions", .nat info.sessions),
          ("ticks", .nat info.ticks)], t)
  | .sleep ms => (.null, sleep sv ms t)
  | .shutdown => (.null, { t with pool := t.pool.shutdown })
  | .act account action =>
    let (result, roster) := t.roster.work account (·.perform sv action.toAct)
    (result.getD (.str "gone"), { t with roster })
  | .stage change =>
    (.null, { t with roster := { t.roster with outside :=
      { t.roster.outside with world := change t.roster.outside.world } } })

def outcome (t : PoolRun) (result : Json) : PoolOutcome :=
  { result
    effects := t.roster.outside.trace
    infos := t.pool.infos
    actors := t.pool.actors.length
    placed := t.pool.length
    sessions := t.roster.seats.map fun (account, seat) =>
      (account, t.pool.placement account, seat.inbox.map.length) }

def clear (t : PoolRun) : PoolRun :=
  { t with roster := { t.roster with outside := { t.roster.outside with effects := [] } } }

def run (sv : Services Stage) : List PoolStep → PoolRun → List PoolOutcome
  | [], _ => []
  | step :: steps, t =>
    let t := t.clear
    let t := match mentioned? step with
      | none => t
      | some account => t.mention sv account
    let (result, t) := t.act sv step
    t.outcome result :: run sv steps t

/-- A rehearsal from the start of the pool on. -/
def rehearse (sv : Services Stage) (config : RegionConfig) (stage : Stage)
    (steps : List PoolStep) : List PoolOutcome :=
  run sv steps { pool := .start config 0, roster := { outside := { world := stage } } }

end PoolRun

@[deprecated PoolRun.rehearse (since := "2026-11-20")]
abbrev Theatre.rehearse := @PoolRun.rehearse

end GameRealm.Rehearsal
