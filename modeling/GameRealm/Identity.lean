import GameRealm.Bytes.Hex

/-!
# Identities

The names by which the realm knows accounts, characters, regions, connections
and sockets, and the two scales of an account: its security level and its
client's language.
-/

namespace GameRealm

/-- An authenticated account. It has at most one session at a time. -/
structure AccountId where
  val : UInt32
  deriving DecidableEq, Repr, Inhabited

/-- The persisted identity of a character, which outlives the character's
presence in the world. -/
structure PlayerGuid where
  val : UInt32
  deriving DecidableEq, Repr, Inhabited

/-- A partition of the world that is ticked on its own. -/
structure RegionId where
  val : UInt32
  deriving DecidableEq, Repr, Inhabited

structure ConnectionId where
  val : UInt64
  deriving DecidableEq, Repr, Inhabited

/-- The outbound side of a connection, as a session holds it. -/
structure SocketId where
  val : Nat
  deriving DecidableEq, Repr, Inhabited

/-- The key agreed on during the handshake. -/
structure SessionKey where
  bytes : Bytes
  deriving DecidableEq, Repr, Inhabited

namespace AccountId

def display (account : AccountId) : String := "A-" ++ toString account.val.toNat

end AccountId

namespace PlayerGuid

def display (guid : PlayerGuid) : String := "G-" ++ toString guid.val.toNat

end PlayerGuid

namespace RegionId

def display (region : RegionId) : String := "M-" ++ toString region.val.toNat

end RegionId

namespace ConnectionId

def display (connection : ConnectionId) : String :=
  "conn-" ++ toString connection.val.toNat

end ConnectionId

namespace SessionKey

/-- The key in uppercase pairs, as it is logged when a socket takes over. -/
def toHex (key : SessionKey) : String := key.bytes.toUpperHex

/-- A rendering that gives away nothing but the key's length. -/
def redacted (key : SessionKey) : String :=
  "SessionKey(" ++ toString key.bytes.length ++ " bytes)"

end SessionKey

/-- Account security, lowest to highest. -/
inductive AccountSecurity where
  | player | moderator | gameMaster | administrator | console
  deriving DecidableEq, Repr, Inhabited

namespace AccountSecurity

def all : List AccountSecurity := [player, moderator, gameMaster, administrator, console]

def rank : AccountSecurity → Nat
  | player => 0
  | moderator => 1
  | gameMaster => 2
  | administrator => 3
  | console => 4

def name : AccountSecurity → String
  | player => "Player"
  | moderator => "Moderator"
  | gameMaster => "GameMaster"
  | administrator => "Administrator"
  | console => "Console"

end AccountSecurity

/-- The language of a client. -/
inductive Locale where
  | enUs | koKr | frFr | deDe | zhCn | zhTw | esEs | esMx | ruRu
  deriving DecidableEq, Repr, Inhabited

namespace Locale

def all : List Locale := [enUs, koKr, frFr, deDe, zhCn, zhTw, esEs, esMx, ruRu]

def name : Locale → String
  | enUs => "EnUs"
  | koKr => "KoKr"
  | frFr => "FrFr"
  | deDe => "DeDe"
  | zhCn => "ZhCn"
  | zhTw => "ZhTw"
  | esEs => "EsEs"
  | esMx => "EsMx"
  | ruRu => "RuRu"

end Locale

end GameRealm
