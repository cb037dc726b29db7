import GameRealm.Session.LiveSession

/-!
# The logout of a character

A logout is the only way in which a character leaves its session. Its steps run
in a fixed order and none is tried twice; a step that the databases refuse is
logged, and the next one follows. Without a character a logout only resets what
the session remembers of logouts, so a second one does no harm.
-/

namespace GameRealm

namespace Teardown

/-- How many steps of a far teleport are completed on the client's behalf. A
character that is still on its way after that many is torn down all the same. -/
def maxTeleportSteps : Nat := 8

/-- Completes a far teleport within a number of steps. -/
def resolveWithin (co : Collaborators W) (c : Character) : Nat → Outside W → Outside W
  | 0, o => if (o.character co c).teleportingFar then o.log co .farTeleportUnresolved else o
  | steps + 1, o =>
    if (o.character co c).teleportingFar then
      resolveWithin co c steps (o.act co c .completeFarTeleport)
    else o

/-- Completes a far teleport, or gives up. -/
def resolve (co : Collaborators W) (c : Character) : Outside W → Outside W :=
  resolveWithin co c maxTeleportSteps

/-- Settles death, or else leaves combat. -/
def settleDeath (co : Collaborators W) (c : Character) (o : Outside W) : Outside W :=
  match (o.character co c).death with
  | .awaitingRespawn => o.act co c .repopAtGraveyard
  | .delayedDeath => (o.act co c .kill).act co c .repopAtGraveyard
  | .alive => if (o.character co c).inCombat then o.act co c .leaveCombat else o

/-- Takes a character out of an instance that it is no longer bound to. -/
def returnHome (co : Collaborators W) (c : Character) (o : Outside W) : Outside W :=
  let view := o.character co c
  if view.validInstance || view.gameMaster then o
  else resolve co c (o.act co c .teleportToHomebind)

def leaveQueues (co : Collaborators W) (c : Character) (o : Outside W) : Outside W :=
  (o.character co c).battlegroundQueues.foldl
    (fun o queue => o.ask co c.guid (.leaveBattlegroundQueue queue))
    (o.act co c .takeBattlegroundQueues)

def store (co : Collaborators W) (db : Database) (statement : Statement) (failed : Notice)
    (o : Outside W) : Outside W :=
  match o.call co db (.execute statement) with
  | (.ok (), o) => o
  | (.error _, o) => o.log co failed

/-- Tells the guild and the friends. -/
def tellOthers (co : Collaborators W) (c : Character) (o : Outside W) : Outside W :=
  let o := match (o.character co c).guild with
    | none => o
    | some guild => o.ask co c.guid (.guildMemberLoggedOut guild c.name)
  if (o.character co c).social then
    (o.ask co c.guid .sendFriendOffline).ask co c.guid .removeSocial
  else o

/-- Leaves a small group if the client is still there to have asked for it; a
raid, or a client that was cut off, keeps its place. -/
def leaveGroup (co : Collaborators W) (session : Session) (c : Character) (o : Outside W) :
    Outside W :=
  let o := o.act co c .uninviteFromGroup
  let o :=
    if (o.character co c).raidGroup == some false && session.socketOpen co o.world then
      o.act co c .removeFromGroup
    else o
  if (o.character co c).raidGroup.isSome then o.act co c (.updateGroupOnlineStatus false)
  else o

/-- Saves the character, unless the session was told not to. -/
def save (co : Collaborators W) (session : Session) (c : Character) (o : Outside W) :
    Outside W :=
  if session.saveOnLogout then
    match co.saving o.world c with
    | .ok () => o.act co c .save
    | .error _ => (o.act co c .save).log co .characterUnsaved
  else o

/-- Takes the character out of its region, or out of the world if it has none. -/
def leaveWorld (co : Collaborators W) (c : Character) (o : Outside W) : Outside W :=
  if (co.regionOf o.world c.guid).isSome then o.ask co c.guid (.removePlayer true)
  else (o.act co c .cleanupBeforeDelete).ask co c.guid .deleteFromWorld

/-- Takes a character out of the world, step by step, and lets go of it. -/
def run (co : Collaborators W) (session : Session) (c : Character) (o : Outside W) :
    Outside W :=
  let o := o.log co .characterLogout
  let o := o.act co c .releaseLoot
  let o := settleDeath co c o
  let o := o.act co c .notifyBattlegroundLogout
  let o := returnHome co c o
  let o := leaveQueues co c o
  let o := store co .login (.accountInactive session.account) .realmActivityKept o
  let o := tellOthers co c o
  let o := leaveGroup co session c o
  let o := o.act co c .removePet
  let o := save co session c o
  let o := o.act co c .cleanupChannels
  let o := o.ask co c.guid .leaveLfg
  let o := o.ask co c.guid (.ticketOnlineState false)
  let o := leaveWorld co c o
  o.emit co (.release c)

end Teardown

namespace Session

/-- The session after a logout: back at the list of characters, with nothing
scheduled. -/
def afterLogout (config : SessionConfig) (session : Session) : Session :=
  (({ session with
      player := none
      loggingOut := false
      recentlyLoggedOut := true
      saveOnLogout := true } : Session).toCharSelection config).logoutRequest none

end Session

namespace LiveSession

/-- Takes the attached character out of the world and tells the client. The
database entry is found by the guid that the character had. -/
def logoutCharacter (sv : Services W) (c : Character) (d : LiveSession W) : LiveSession W :=
  let co := sv.collaborators
  let d := { d with outside := Teardown.resolve co c d.outside }
  let d := d.modify fun s => { s with loggingOut := true, player := none }
  let d := { d with outside := Teardown.run co d.session c d.outside }
  let d := (d.send sv .logoutComplete).log sv .logoutCompleteSent
  { d with outside :=
      Teardown.store co .character (.characterOffline c.guid) .characterKeptOnline d.outside }

/-- Logs the attached character out of the world. -/
def logoutPlayer (sv : Services W) (d : LiveSession W) : LiveSession W :=
  let d := match d.session.player with
    | none => d
    | some c => d.logoutCharacter sv c
  d.modify (·.afterLogout sv.config)

/-- Kicks the attached character. In place it is logged out now; otherwise a
logout is scheduled that is already due. -/
def kickPlayer (sv : Services W) (save inPlace : Bool) (d : LiveSession W) : LiveSession W :=
  let d := d.modify fun s => { s with saveOnLogout := save }
  if inPlace then d.logoutPlayer sv
  else d.modify fun s => { s with scheduledLogout := some ⟨s.now, true⟩ }

end LiveSession

end GameRealm
