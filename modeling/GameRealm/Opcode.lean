import GameRealm.Bytes.Hex

/-!
# Opcodes

The number that says what a message is, and the two tags every inbound opcode
carries: where its handler runs and when it is legal.
-/

namespace GameRealm

/-- The kind of a protocol message. -/
structure Opcode where
  val : UInt16
  deriving DecidableEq, Repr, Inhabited

namespace Opcode

/-- The size of the opcode space: opcodes at or above it are unknown. -/
def spaceSize : Nat := 0x51F

/-- The slot of an opcode inside the opcode space. -/
def index? (opcode : Opcode) : Option Nat :=
  if opcode.val.toNat < spaceSize then some opcode.val.toNat else none

/-- Four uppercase digits after `0x`. -/
def display (opcode : Opcode) : String :=
  String.ofList ('0' :: 'x' :: upperHexPadded 4 opcode.val.toNat)

/-! ## From the client -/

def moveHeartbeat : Opcode := ⟨0x0EE⟩
def moveSetFacing : Opcode := ⟨0x0DA⟩
def logoutRequest : Opcode := ⟨0x04B⟩
def ping : Opcode := ⟨0x1DC⟩
/-- The first frame of every connection. -/
def authSession : Opcode := ⟨0x1ED⟩
def timeSyncResponse : Opcode := ⟨0x391⟩
/-- Sent right after a logout, ahead of the traffic that the grace after a
logout exists for. -/
def setActiveVoiceChannel : Opcode := ⟨0x3D3⟩

/-! ## To the client -/

def transferAborted : Opcode := ⟨0x040⟩
def logoutComplete : Opcode := ⟨0x04D⟩
def tutorialFlags : Opcode := ⟨0x0FD⟩
def notice : Opcode := ⟨0x1CB⟩
def authResponse : Opcode := ⟨0x1EE⟩
def playSpellVisual : Opcode := ⟨0x1F3⟩
def accountDataTimes : Opcode := ⟨0x209⟩
def areaTriggerMessage : Opcode := ⟨0x2B8⟩
def addonInfo : Opcode := ⟨0x2EF⟩
def motd : Opcode := ⟨0x33D⟩
def timeSyncRequest : Opcode := ⟨0x390⟩
def setPhaseShift : Opcode := ⟨0x47C⟩

/-- The movement opcodes that are worthless once the character is elsewhere. -/
def isMovement (opcode : Opcode) : Bool :=
  opcode == moveHeartbeat || opcode == moveSetFacing

end Opcode

/-- Where an opcode's handler runs. -/
inductive ProcessingMode where
  /-- At once, where the envelope arrives, without the session. -/
  | immediate
  /-- On the world tick; any tick would do. -/
  | inPlace
  /-- On the tick of the region the player is in. -/
  | mapThread
  /-- On the world tick only. -/
  | threadUnsafe
  deriving DecidableEq, Repr, Inhabited

namespace ProcessingMode

def all : List ProcessingMode := [immediate, inPlace, mapThread, threadUnsafe]

def name : ProcessingMode → String
  | immediate => "Immediate"
  | inPlace => "InPlace"
  | mapThread => "MapThread"
  | threadUnsafe => "ThreadUnsafe"

end ProcessingMode

/-- What an opcode requires of the session before its handler may run. -/
inductive AdmissionStatus where
  /-- A player who is in the world. -/
  | loggedIn
  /-- A player, or a logout that has only just happened. -/
  | loggedInOrRecentlyLoggedOut
  /-- A player who is between two regions. -/
  | transfer
  /-- An authenticated session that is past the login queue. -/
  | authed
  /-- Never legal from a client. -/
  | never
  /-- Known, and deliberately not handled. -/
  | unhandled
  deriving DecidableEq, Repr, Inhabited

namespace AdmissionStatus

def all : List AdmissionStatus :=
  [loggedIn, loggedInOrRecentlyLoggedOut, transfer, authed, never, unhandled]

def name : AdmissionStatus → String
  | loggedIn => "LoggedIn"
  | loggedInOrRecentlyLoggedOut => "LoggedInOrRecentlyLoggedOut"
  | transfer => "Transfer"
  | authed => "Authed"
  | never => "Never"
  | unhandled => "Unhandled"

def display : AdmissionStatus → String
  | loggedIn => "LOGGEDIN"
  | loggedInOrRecentlyLoggedOut => "LOGGEDIN_OR_RECENTLY_LOGGEDOUT"
  | transfer => "TRANSFER"
  | authed => "AUTHED"
  | never => "NEVER"
  | unhandled => "UNHANDLED"

end AdmissionStatus

end GameRealm
