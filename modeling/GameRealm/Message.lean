import GameRealm.Opcode

/-!
# Messages to the client

What the session layer tells a client, by meaning. How a message becomes bytes
is the codec's business.
-/

namespace GameRealm

inductive AuthVerdict where
  | ok
  /-- Accepted, but waiting in the login queue. -/
  | waitQueue
  /-- Refused; the connection is closed right after. -/
  | rejected
  deriving DecidableEq, Repr, Inhabited

namespace AuthVerdict

def all : List AuthVerdict := [ok, waitQueue, rejected]

def name : AuthVerdict → String
  | ok => "Ok"
  | waitQueue => "WaitQueue"
  | rejected => "Rejected"

end AuthVerdict

/-- Why a transfer between regions was refused. -/
structure AbortReason where
  val : UInt8
  deriving DecidableEq, Repr, Inhabited

namespace AbortReason

def insufficientExpansion : AbortReason := ⟨6⟩
def difficulty : AbortReason := ⟨7⟩
def uniqueMessage : AbortReason := ⟨8⟩

/-- The reasons that come with an argument byte. -/
def carriesArgument (reason : AbortReason) : Bool :=
  reason == insufficientExpansion || reason == difficulty || reason == uniqueMessage

end AbortReason

structure AddonAck where
  name : String
  /-- Always 2: enabled and acknowledged. -/
  state : UInt8
  /-- Whether the client needs the public key to verify the addon. -/
  needsPublicKey : Bool
  deriving DecidableEq, Repr, Inhabited

/-- The eight words of tutorial progress. -/
abbrev TutorialFlags := Vector UInt32 8

inductive Message where
  | authResponse (verdict : AuthVerdict) (queuePosition : Option UInt32)
  | logoutComplete
  /-- The message of the day, line by line. -/
  | motd (lines : List String)
  | addonInfo (addons : List AddonAck) (bannedCount : UInt32)
  /-- The client is to echo the counter. -/
  | timeSyncRequest (counter : UInt32)
  | notice (text : String)
  | areaTriggerMessage (text : String)
  /-- When each account data type in the mask was last written. -/
  | accountDataTimes (serverTime mask : UInt32) (times : List UInt32)
  | tutorialFlags (flags : TutorialFlags)
  | transferAborted (map : UInt32) (reason : AbortReason) (arg : Option UInt8)
  | setPhaseShift (phase : UInt32)
  | playSpellVisual (guid : UInt64) (kit : UInt32)
  deriving DecidableEq, Repr, Inhabited

namespace Message

def opcode : Message → Opcode
  | authResponse .. => .authResponse
  | logoutComplete => .logoutComplete
  | motd .. => .motd
  | addonInfo .. => .addonInfo
  | timeSyncRequest .. => .timeSyncRequest
  | notice .. => .notice
  | areaTriggerMessage .. => .areaTriggerMessage
  | accountDataTimes .. => .accountDataTimes
  | tutorialFlags .. => .tutorialFlags
  | transferAborted .. => .transferAborted
  | setPhaseShift .. => .setPhaseShift
  | playSpellVisual .. => .playSpellVisual

/-- The account may go on to character selection. -/
def authOk : Message := .authResponse .ok none

/-- A refused transfer. The argument goes only with a reason that carries one. -/
def transferAbort (map : UInt32) (reason : AbortReason) (arg : UInt8) : Message :=
  .transferAborted map reason (if reason.carriesArgument then some arg else none)

def authRejected : Message := .authResponse .rejected none

end Message

end GameRealm
