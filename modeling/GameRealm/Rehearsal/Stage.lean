import GameRealm.Session.Surroundings

/-!
# A stage for sessions

Surroundings that do as they are told: sockets with a flag, characters whose
traits can be set, and databases that answer and fail on request.
-/

namespace GameRealm.Rehearsal

/-- The traits of a character on stage. -/
structure Probe where
  inWorld : Bool := true
  region : Option RegionId := some ⟨1⟩
  /-- How many steps a far teleport still takes. -/
  farSteps : Nat := 0
  /-- How many steps the way home takes. -/
  homebindSteps : Nat := 1
  delayedTeleport : Bool := false
  death : DeathState := .alive
  inCombat : Bool := false
  validInstance : Bool := true
  gameMaster : Bool := false
  battlegroundQueues : List UInt32 := []
  guild : Option UInt32 := none
  /-- Whether the group is a raid, if there is a group. -/
  raidGroup : Option Bool := none
  social : Bool := false
  /-- Saving the character fails. -/
  failSave : Bool := false
  deriving DecidableEq, Repr, Inhabited

namespace Probe

/-- What a session sees of the character. -/
def view (probe : Probe) : CharacterView :=
  { inWorld := probe.inWorld
    region := probe.region
    teleportingFar := decide (0 < probe.farSteps)
    delayedTeleport := probe.delayedTeleport
    death := probe.death
    inCombat := probe.inCombat
    validInstance := probe.validInstance
    gameMaster := probe.gameMaster
    battlegroundQueues := probe.battlegroundQueues
    guild := probe.guild
    raidGroup := probe.raidGroup
    social := probe.social }

def after (probe : Probe) : Deed → Probe
  | .completeFarTeleport => { probe with farSteps := probe.farSteps - 1 }
  | .executeDelayedTeleport => { probe with delayedTeleport := false }
  | .teleportToHomebind => { probe with farSteps := probe.homebindSteps }
  | .leaveCombat => { probe with inCombat := false }
  | .takeBattlegroundQueues => { probe with battlegroundQueues := [] }
  | .removeFromGroup => { probe with raidGroup := none }
  | _ => probe

end Probe

/-- The state of everything on stage. -/
structure Stage where
  sockets : List SocketView := []
  /-- The characters in the order of their creation, each with its guid. -/
  probes : List (PlayerGuid × Probe) := []
  /-- Where the world has which character. -/
  placements : List (PlayerGuid × RegionId) := []
  /-- The database calls that fail, by name. -/
  failures : List ((Database × String) × PersistenceError) := []
  /-- The rows of a query, by name. -/
  answers : List ((Database × String) × List Row) := []
  deriving Inhabited

namespace Stage

def setClosed (socket : Nat) (closed : Bool) (stage : Stage) : Stage :=
  { stage with sockets := stage.sockets.modify socket fun view => { view with closed } }

/-- Brings a character on stage. Its token is its place among all characters. -/
def enter (guid : PlayerGuid) (probe : Probe) (stage : Stage) : Stage :=
  { stage with probes := stage.probes ++ [(guid, probe)] }

/-- The token of the character last created with a guid. -/
def latest? (guid : PlayerGuid) (stage : Stage) : Option Nat :=
  ((stage.probes.zipIdx.filter fun entry => entry.1.1 == guid).getLast?).map (·.2)

def setTraits (guid : PlayerGuid) (change : Probe → Probe) (stage : Stage) : Stage :=
  match stage.latest? guid with
  | none => stage
  | some token =>
    { stage with probes := stage.probes.modify token fun (guid, probe) => (guid, change probe) }

/-- The world forgets where a character is. -/
def unplace (guid : PlayerGuid) (stage : Stage) : Stage :=
  { stage with placements := stage.placements.filter (·.1 != guid) }

def place (guid : PlayerGuid) (region : RegionId) (stage : Stage) : Stage :=
  { stage with placements := (guid, region) :: (stage.unplace guid).placements }

/-- Rigs a database call to fail, or heals it. -/
def rig (db : Database) (name : String) (failure : Option PersistenceError) (stage : Stage) :
    Stage :=
  let others := stage.failures.filter (·.1 != (db, name))
  { stage with failures := (failure.map fun e => ((db, name), e)).toList ++ others }

/-- Sets the rows of a query. -/
def respond (db : Database) (name : String) (rows : List Row) (stage : Stage) : Stage :=
  { stage with answers := ((db, name), rows) :: stage.answers.filter (·.1 != (db, name)) }

/-- The failure of a database call that was rigged. -/
def failing (stage : Stage) (db : Database) (name : String) : Except PersistenceError Unit :=
  match stage.failures.find? (·.1 == (db, name)) with
  | none => .ok ()
  | some entry => .error entry.2

/-- The name under which a database call can be rigged. -/
def callName : DatabaseCall → String
  | .execute statement => statement.name
  | .query statement => statement.name
  | .begin => "begin"
  | .commit => "commit"
  | .rollback => "rollback"

def probe (stage : Stage) (character : Character) : Probe :=
  match stage.probes[character.token]? with
  | none => {}
  | some entry => entry.2

def react (stage : Stage) : Effect → Stage
  | .close socket => stage.setClosed socket.val true
  | .character character deed =>
    { stage with probes := stage.probes.modify character.token fun (guid, probe) =>
        (guid, probe.after deed) }
  | .world guid (.removePlayer _) => stage.unplace guid
  | _ => stage

/-- What the stage answers. The wall clock stands at zero. -/
def collaborators : Collaborators Stage :=
  { socket := fun stage socket =>
      stage.sockets[socket.val]?.getD ⟨true, ⟨[]⟩, "", []⟩
    character := fun stage character => (stage.probe character).view
    regionOf := fun stage guid => (stage.placements.find? (·.1 == guid)).map (·.2)
    unixTime := fun _ => 0
    saving := fun stage character =>
      if (stage.probe character).failSave then .error (.transaction "rigged") else .ok ()
    calling := fun stage db call => stage.failing db (callName call)
    rows := fun stage db statement =>
      (stage.failing db statement.name).map fun _ =>
        (stage.answers.find? (·.1 == (db, statement.name))).map (·.2)
    react := react }

end Stage

end GameRealm.Rehearsal
