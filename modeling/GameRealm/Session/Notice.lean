import GameRealm.Log
import GameRealm.Opcode
import GameRealm.Payload

/-!
# What a session logs

Every occasion on which a session, its inbox or its handlers write to the log,
with the values that are written.
-/

namespace GameRealm

/-- Why an opcode came at the wrong time. -/
inductive Untimely where
  | notLoggedIn
  | notLoggedInNorRecently
  | stillInWorld
  | stillInQueue
  deriving DecidableEq, Repr, Inhabited

namespace Untimely

def reason : Untimely → String
  | notLoggedIn => "the player has not logged in yet"
  | notLoggedInNorRecently =>
    "the player has not logged in yet and not recently logged out"
  | stillInWorld => "the player is still in world"
  | stillInQueue => "the player has not passed the queue yet"

end Untimely

/-- An occasion for a log entry. -/
inductive Notice where
  | sessionCreated
  | sessionOffline
  | sessionShutDown
  | replacementPending
  | replacementActivated
  | motdSent
  | idleDisconnect
  | logoutRequested
  -- Envelopes on their way to a handler.
  | wrongSize (opcode : Opcode) (name : String) (size expected : Nat)
  | untimely (opcode : Opcode) (name : String) (why : Untimely)
  | betweenRegions (opcode : Opcode)
  | notAllowed (opcode : Opcode) (name : String)
  | notHandled (opcode : Opcode) (name : String)
  | mapQueuedWithoutPlayer (opcode : Opcode) (status : AdmissionStatus)
  | immediateOnTick (opcode : Opcode)
  | envelopesDropped (count : Nat)
  | unprocessedTail (opcode : Opcode) (name : String) (rpos wpos : Nat)
  | payloadFault (opcode : Opcode) (fault : PayloadError)
  | faultyEnvelope
  | faultDisconnect
  | immediateTail (opcode : Opcode) (rpos wpos : Nat)
  | immediateFault (opcode : Opcode) (fault : PayloadError)
  -- Handlers that only say that they were reached.
  | unimplemented (opcode : Opcode) (name : String)
  | handshakeOpcode (opcode : Opcode)
  | serverSideOpcode (opcode : Opcode)
  | deprecatedOpcode (opcode : Opcode)
  -- The logout of a character.
  | farTeleportUnresolved
  | characterLogout
  | realmActivityKept
  | characterUnsaved
  | logoutCompleteSent
  | characterKeptOnline
  -- The clock of the client.
  | unknownCounter (counter : UInt32)
  | timeSyncAnswered (counter : UInt32) (roundTrip delta clockDelta : Int)
  -- Account data and addons.
  | unreadableAccountData
  | invalidAccountDataType (type : Nat)
  | foreignAccountDataType (type : Nat)
  | noCharacterForAccountData (type : Nat)
  | rollbackFailed
  | addonRead (crc : UInt32)
  | addonsUnderRead (rpos size : Nat)
  | addonsRefused
  deriving DecidableEq, Repr

namespace Notice

/-- A number in uppercase hexadecimal after `0x`, without leading zeros. -/
def hexNumber (n : UInt32) : String :=
  let digits := (upperHexPadded 8 n.toNat).dropWhile (· == '0')
  "0x" ++ String.ofList (if digits.isEmpty then ['0'] else digits)

/-- The entry that an occasion leaves in the log. -/
def entry : Notice → LogEntry
  | sessionCreated => ⟨.info, "session created", []⟩
  | sessionOffline => ⟨.info, "session offline", []⟩
  | sessionShutDown => ⟨.debug, "session shut down", []⟩
  | replacementPending => ⟨.debug, "replacement socket pending", []⟩
  | replacementActivated => ⟨.info, "replacement socket activated", []⟩
  | motdSent => ⟨.debug, "sent motd", []⟩
  | idleDisconnect => ⟨.info, "idle at character selection, disconnecting", []⟩
  | logoutRequested => ⟨.debug, "logout requested", []⟩
  | wrongSize opcode name size expected =>
    ⟨.error, "envelope has wrong size, skipped",
      [("opcode", opcode.display), ("name", name), ("size", toString size),
        ("expected", toString expected)]⟩
  | untimely opcode name why =>
    ⟨.warn, "unexpected opcode",
      [("opcode", opcode.display), ("name", name), ("reason", why.reason)]⟩
  | betweenRegions opcode =>
    ⟨.debug, "player is between regions, skipped", [("opcode", opcode.display)]⟩
  | notAllowed opcode name =>
    ⟨.error, "received not allowed opcode", [("opcode", opcode.display), ("name", name)]⟩
  | notHandled opcode name =>
    ⟨.debug, "received not handled opcode", [("opcode", opcode.display), ("name", name)]⟩
  | mapQueuedWithoutPlayer opcode status =>
    ⟨.error, "map-queued opcode without logged-in status, skipped",
      [("opcode", opcode.display), ("status", status.display)]⟩
  | immediateOnTick opcode =>
    ⟨.error, "immediate handler reached a tick queue", [("opcode", opcode.display)]⟩
  | envelopesDropped count =>
    ⟨.debug, "socket closed, dropping queued envelopes", [("dropped", toString count)]⟩
  | unprocessedTail opcode name rpos wpos =>
    ⟨.debug, "handler left unprocessed tail data",
      [("opcode", opcode.display), ("name", name), ("rpos", toString rpos),
        ("wpos", toString wpos)]⟩
  | payloadFault opcode fault =>
    ⟨.error, "payload fault while parsing envelope",
      [("opcode", opcode.display), ("fault", fault.message)]⟩
  | faultyEnvelope => ⟨.debug, "faulty envelope", []⟩
  | faultDisconnect => ⟨.info, "disconnecting session for badly formatted envelope", []⟩
  | immediateTail opcode rpos wpos =>
    ⟨.debug, "handler left unprocessed tail data",
      [("opcode", opcode.display), ("rpos", toString rpos), ("wpos", toString wpos)]⟩
  | immediateFault opcode fault =>
    ⟨.warn, "payload fault in immediate handler",
      [("opcode", opcode.display), ("fault", fault.message)]⟩
  | unimplemented opcode name =>
    ⟨.debug, "received unimplemented opcode", [("opcode", opcode.display), ("name", name)]⟩
  | handshakeOpcode opcode =>
    ⟨.error, "received opcode that must be processed during the handshake",
      [("opcode", opcode.display)]⟩
  | serverSideOpcode opcode =>
    ⟨.error, "received server-side opcode", [("opcode", opcode.display)]⟩
  | deprecatedOpcode opcode =>
    ⟨.error, "received deprecated opcode", [("opcode", opcode.display)]⟩
  | farTeleportUnresolved => ⟨.warn, "far teleport did not resolve before logout", []⟩
  | characterLogout => ⟨.info, "logout character", []⟩
  | realmActivityKept => ⟨.error, "failed to clear realm activity", []⟩
  | characterUnsaved => ⟨.error, "failed to save character", []⟩
  | logoutCompleteSent => ⟨.debug, "sent logout complete", []⟩
  | characterKeptOnline => ⟨.error, "failed to mark character offline", []⟩
  | unknownCounter counter =>
    ⟨.warn, "time sync response with unknown counter",
      [("counter", toString counter.toNat)]⟩
  | timeSyncAnswered counter roundTrip delta clockDelta =>
    ⟨.debug, "time sync response",
      [("counter", toString counter.toNat), ("round_trip", toString roundTrip),
        ("delta", toString delta), ("clock_delta", toString clockDelta)]⟩
  | unreadableAccountData => ⟨.error, "unreadable account data row, ignored", []⟩
  | invalidAccountDataType type =>
    ⟨.error, "invalid account data type, ignored", [("data_type", toString type)]⟩
  | foreignAccountDataType type =>
    ⟨.error, "account data type does not belong in this table, ignored",
      [("data_type", toString type)]⟩
  | noCharacterForAccountData type =>
    ⟨.warn, "no character for per-character account data, skipped",
      [("data_type", toString type)]⟩
  | rollbackFailed => ⟨.warn, "account data rollback failed", []⟩
  | addonRead crc => ⟨.debug, "addon", [("crc", hexNumber crc)]⟩
  | addonsUnderRead rpos size =>
    ⟨.debug, "addon manifest under-read", [("rpos", toString rpos), ("size", toString size)]⟩
  | addonsRefused => ⟨.error, "failed to read addon manifest", []⟩

end Notice

end GameRealm
