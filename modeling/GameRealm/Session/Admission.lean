import GameRealm.Session.Procedure

/-!
# Admission

Whether the handler of an opcode may run is decided anew for every envelope, at
the moment at which it is taken from its queue, by the opcode's status and the
session as it then is.
-/

namespace GameRealm

/-- What admission says about an envelope. -/
inductive Admission where
  | granted
  /-- The handler does not run, and why may be worth a log entry. -/
  | refused (notice : Option Notice)
  deriving DecidableEq, Repr

namespace Admission

/-- Admission on the world tick. `inWorld` says whether the attached character is
in the world. -/
def onWorldTick (session : Session) (inWorld : Bool) (opcode : Opcode) (name : String) :
    AdmissionStatus → Admission
  | .loggedIn =>
    if session.player.isNone then
      -- Late traffic of a client that has just logged out is no surprise.
      if session.recentlyLoggedOut then .refused none
      else .refused (some (.untimely opcode name .notLoggedIn))
    else if inWorld then .granted
    else .refused (some (.betweenRegions opcode))
  | .loggedInOrRecentlyLoggedOut =>
    if session.player.isNone && !session.recentlyLoggedOut then
      .refused (some (.untimely opcode name .notLoggedInNorRecently))
    else .granted
  | .transfer =>
    if session.player.isNone then .refused (some (.untimely opcode name .notLoggedIn))
    else if inWorld then .refused (some (.untimely opcode name .stillInWorld))
    else .granted
  | .authed =>
    if session.inQueue then .refused (some (.untimely opcode name .stillInQueue))
    else .granted
  | .never => .refused (some (.notAllowed opcode name))
  | .unhandled => .refused (some (.notHandled opcode name))

/-- Admission on a region's tick, which serves players in the world and nobody else. -/
def onRegionTick (inWorld : Bool) (opcode : Opcode) (status : AdmissionStatus) : Admission :=
  if status = .loggedIn then
    if inWorld then .granted else .refused none
  else .refused (some (.mapQueuedWithoutPlayer opcode status))

end Admission

end GameRealm
