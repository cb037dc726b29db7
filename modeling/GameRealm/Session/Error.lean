import GameRealm.Payload
import GameRealm.Opcode
import GameRealm.Persistence

/-!
# What can go wrong in a session
-/

namespace GameRealm

/-- Why an opcode could not be registered. -/
inductive RegistrationFault where
  /-- An immediate opcode was given a handler that needs the session. -/
  | immediateWithSession
  /-- A map-thread opcode does not require a player in the world. -/
  | mapThreadWithoutPlayer
  | outsideSpace
  /-- Any other reason, in words. -/
  | other (reason : String)
  deriving DecidableEq, Repr, Inhabited

namespace RegistrationFault

def reason : RegistrationFault → String
  | immediateWithSession => "immediate handlers cannot take the session"
  | mapThreadWithoutPlayer => "map thread handlers must require a logged in player"
  | outsideSpace => "outside the opcode space"
  | other reason => reason

end RegistrationFault

/-- Why an addon manifest could not be read. -/
inductive ManifestFault where
  /-- The announced size is above the limit. -/
  | tooBig (size : Nat)
  /-- The body is no stream that can be inflated. -/
  | decompression
  /-- Any other reason, in words. -/
  | other (reason : String)
  deriving DecidableEq, Repr, Inhabited

namespace ManifestFault

def reason : ManifestFault → String
  | tooBig size => "manifest too big: " ++ toString size ++ " bytes"
  | decompression => "decompression failed"
  | other reason => reason

end ManifestFault

/-- Why a session refused to do something. -/
inductive SessionError where
  /-- The token was not accepted. -/
  | authFailed (reason : String)
  | persistence (cause : PersistenceError)
  | payload (cause : PayloadError)
  | invalidRegistration (opcode : Opcode) (fault : RegistrationFault)
  /-- A replacement socket is still waiting to be activated. -/
  | socketPending
  | invalidAccountDataType (type : Nat)
  | addonManifest (fault : ManifestFault)
  deriving DecidableEq, Repr, Inhabited

namespace SessionError

def message : SessionError → String
  | authFailed reason => "authentication failed: " ++ reason
  | persistence cause => cause.message
  | payload cause => cause.message
  | invalidRegistration opcode fault =>
    "invalid registration for opcode " ++ opcode.display ++ ": " ++ fault.reason
  | socketPending => "a replacement socket is already pending"
  | invalidAccountDataType type => "invalid account data type " ++ toString type
  | addonManifest fault => "addon manifest: " ++ fault.reason

end SessionError

end GameRealm
