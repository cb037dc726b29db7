import GameRealm.Realm.Registry
import GameRealm.Rehearsal.Solo
import GameRealm.Rehearsal.Regions

/-!
# A rehearsal of the registry

Logins, world ticks and region ticks of a whole realm on a simulated clock. The
inbox of a login can be worked on after its session is gone.
-/

namespace GameRealm.Rehearsal

/-- A registry, its clock, and the inboxes whose sessions are gone. -/
structure RealmRun where
  registry : Registry Stage
  now : Instant := 0
  departed : List (AccountId × Inbox Stage) := []
  /-- The accounts that ever logged in. -/
  known : List AccountId := []

inductive RealmStep where
  | login (account : Account) (socket : SocketId) (payload : Bytes)
  | update (now : Option Instant)
  | inbox (account : AccountId) (action : Action)
  | act (account : AccountId) (action : Action)
  | sleep (ms : Nat)
  | stopActor (via : RegionId)
  | shutdown
  | stage (change : Stage → Stage)

/-- What one can see of an account. -/
structure Listing where
  account : AccountId
  queue : Option UInt32
  region : Option RegionId
  state : Option Json

/-- What one can see after a step. -/
structure RealmOutcome where
  result : Json
  effects : List Effect
  listings : List Listing
  length : Nat
  active : Nat
  queued : Nat
  infos : List RegionInfo

namespace RealmRun

/-- Keeps the inboxes of sessions that are gone. -/
def depart (inboxes : List (Inbox Stage)) (c : RealmRun) : RealmRun :=
  { c with departed := inboxes.map (fun inbox => (inbox.account, inbox)) ++ c.departed }

/-- Works on the inbox of an account's last login. -/
def workInbox (sv : Services Stage) (c : RealmRun) (account : AccountId) (action : Action) :
    Json × RealmRun :=
  if c.registry.roster.has account then
    let (result, roster) := c.registry.roster.work account (·.perform sv action.toAct)
    (result.getD .null, { c with registry := { c.registry with roster } })
  else match c.departed.find? (·.1 == account) with
    | none => (.str "gone", c)
    | some (_, inbox) =>
      let (result, left) := Solo.actAlone sv
        { inbox, outside := c.registry.roster.outside } action
      let others := c.departed.filter (·.1 != account)
      (result, { c with
        departed := (account, left.inbox) :: others
        registry := { c.registry with
          roster := { c.registry.roster with outside := left.outside } } })

def login (sv : Services Stage) (c : RealmRun) (account : Account) (socket : SocketId)
    (payload : Bytes) : Json × RealmRun :=
  let auth := Envelope.withPayload .authSession payload
  let known := if c.known.contains account.id then c.known else c.known ++ [account.id]
  match c.registry.login sv account socket auth c.now with
  | (.error e, registry) => (e.report, { c with registry, known })
  | (.ok login, registry) =>
    (.obj [("rpos", .nat login.auth.rpos), ("same_inbox", .bool login.handedOver)],
      { c with registry, known })

def act (sv : Services Stage) (c : RealmRun) : RealmStep → Json × RealmRun
  | .login account socket payload => c.login sv account socket payload
  | .update now =>
    let (inboxes, registry) := c.registry.update sv (now.getD c.now)
    (.nat inboxes.length, { c with registry }.depart inboxes)
  | .inbox account action => c.workInbox sv account action
  | .act account action =>
    let (result, roster) := c.registry.roster.work account (·.perform sv action.toAct)
    (result.getD (.str "gone"), { c with registry := { c.registry with roster } })
  | .sleep ms =>
    let t := Rehearsal.sleep sv ms
      { pool := c.registry.regions, roster := c.registry.roster, now := c.now }
    (.null, { c with
      registry := { c.registry with regions := t.pool, roster := t.roster }
      now := t.now })
  | .stopActor via =>
    let (result, regions) := c.registry.regions.stopActor (c.registry.regions.actorFor via)
    (unitReport RegionError.report result, { c with registry := { c.registry with regions } })
  | .shutdown =>
    let (inboxes, registry) := c.registry.shutdown sv
    (.null, { c with registry }.depart inboxes)
  | .stage change =>
    let outside := c.registry.roster.outside
    (.null, { c with registry := { c.registry with roster := { c.registry.roster with
      outside := { outside with world := change outside.world } } } })

/-- What one can see of an account. -/
def listing (sv : Services Stage) (c : RealmRun) (account : AccountId) : Listing :=
  { account
    queue := c.registry.queuePosition? account
    region := c.registry.regions.placement account
    state := (c.registry.roster.get? account).map fun seat =>
      stateReport ((seat.live c.registry.roster.outside).view sv) }

def outcome (sv : Services Stage) (c : RealmRun) (result : Json) : RealmOutcome :=
  { result
    effects := c.registry.roster.outside.trace
    listings := c.known.map (c.listing sv)
    length := c.registry.length
    active := c.registry.activeCount
    queued := c.registry.queue.length
    infos := c.registry.regions.infos }

def clear (c : RealmRun) : RealmRun :=
  { c with registry := { c.registry with roster := { c.registry.roster with
      outside := { c.registry.roster.outside with effects := [] } } } }

def run (sv : Services Stage) : List RealmStep → RealmRun → List RealmOutcome
  | [], _ => []
  | step :: steps, c =>
    let (result, c) := c.clear.act sv step
    c.outcome sv result :: run sv steps c

/-- A rehearsal from an empty registry on. -/
def rehearse (sv : Services Stage) (maxActive : Nat) (config : RegionConfig) (stage : Stage)
    (steps : List RealmStep) : List RealmOutcome :=
  run sv steps { registry :=
    { roster := { outside := { world := stage } }, maxActive, regions := .start config 0 } }

end RealmRun

@[deprecated RealmRun.rehearse (since := "2026-11-20")]
abbrev Company.rehearse := @RealmRun.rehearse

end GameRealm.Rehearsal
