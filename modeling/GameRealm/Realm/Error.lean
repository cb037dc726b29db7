import GameRealm.Session.Error

/-!
# What can go wrong in a realm

The failures of the transport, the frame codec, the regions and the realm as a
whole, beside those of a session.
-/

namespace GameRealm

/-- A failure of the transport. What the system says about it is kept as text. -/
inductive TransportError where
  | closed (reason : String)
  | sendFailed (reason : String)
  | receiveFailed (reason : String)
  | acceptFailed (reason : String)
  deriving DecidableEq, Repr, Inhabited

namespace TransportError

def message : TransportError → String
  | closed reason => "connection closed: " ++ reason
  | sendFailed reason => "send failed: " ++ reason
  | receiveFailed reason => "receive failed: " ++ reason
  | acceptFailed reason => "accept failed: " ++ reason

end TransportError

inductive RegionError where
  /-- The actor hosts the session already, in the given region. -/
  | alreadyHosted (account : AccountId) (region : RegionId)
  | notHosted (account : AccountId) (region : RegionId)
  /-- The actor has stopped. -/
  | unavailable (actor : Nat)
  deriving DecidableEq, Repr, Inhabited

namespace RegionError

def message : RegionError → String
  | alreadyHosted account region =>
    "session " ++ account.display ++ " already hosted in region " ++ region.display
  | notHosted account region =>
    "session " ++ account.display ++ " not hosted in region " ++ region.display
  | unavailable actor => "region actor " ++ toString actor ++ " is unavailable"

end RegionError

inductive Collaborator where
  | world | loginDatabase | characterDatabase
  deriving DecidableEq, Repr, Inhabited

namespace Collaborator

def name : Collaborator → String
  | world => "world"
  | loginDatabase => "login database"
  | characterDatabase => "character database"

end Collaborator

inductive RealmError where
  | transport (cause : TransportError)
  /-- A frame holds no document of the expected form. -/
  | decode
  /-- A frame came at the wrong time. -/
  | invalidMessage (reason : String)
  /-- The first frame was cut short. -/
  | payload (cause : PayloadError)
  | session (cause : SessionError)
  | region (cause : RegionError)
  | config
  | missing (collaborator : Collaborator)
  /-- Nobody is left to admit a connection. -/
  | worldLoopStopped
  deriving DecidableEq, Repr, Inhabited

namespace RealmError

def message : RealmError → String
  | transport cause => cause.message
  | decode => "decode failed"
  | invalidMessage reason => "invalid message: " ++ reason
  | payload cause => cause.message
  | session cause => cause.message
  | region cause => cause.message
  | config => "invalid config"
  | missing collaborator => "no " ++ collaborator.name ++ " configured"
  | worldLoopStopped => "world loop stopped"

end RealmError

end GameRealm
