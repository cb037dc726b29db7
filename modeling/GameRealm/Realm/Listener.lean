import GameRealm.Realm.Address
import GameRealm.Realm.Config
import GameRealm.Realm.Error

/-!
# Opening a realm

A realm needs a world and two databases, and an address to listen on: a host, a
colon and a port. Port zero stands for one that the system assigns.

The host is the machine's own name for itself or an address. An IPv4 address is
taken as it is; whether a client can reach the realm there is up to the network.
The machine has no IPv6 address of its own, so of those only the one for every
address can be listened on, and the ones that stand for an IPv4 address.
-/

namespace GameRealm

/-- Where connections are taken. -/
inductive ListenHost where
  | ipv4 (address : Ipv4)
  /-- Every address of either kind. -/
  | everywhere
  /-- An IPv4 address in the notation of IPv6. -/
  | mapped (address : Ipv4)
  deriving DecidableEq, Repr

namespace ListenHost

def toText : ListenHost → String
  | .ipv4 address => address.toText
  | .everywhere => "::"
  | .mapped address => "::ffff:" ++ address.toText

/-- The machine as seen from itself. -/
def loopback : ListenHost := .ipv4 ⟨0x7F000001⟩

/-- What an IPv6 address stands for, if it can be listened on. -/
def ofIpv6? (address : Ipv6) : Option ListenHost :=
  match address.groups with
  | [0, 0, 0, 0, 0, 0, 0, 0] => some .everywhere
  | [0, 0, 0, 0, 0, 0xFFFF, high, low] => some (.mapped ⟨UInt32.ofNat (65536 * high + low)⟩)
  | _ => none

/-- Reads a name or an address. -/
def ofString? (text : String) : Option ListenHost :=
  if text.toLower = "localhost" then some loopback
  else match Ipv4.ofString? text with
    | some address => some (.ipv4 address)
    | none => (Ipv6.ofString? text).bind ofIpv6?

end ListenHost

/-- An address to listen on. -/
structure ListenAddress where
  host : ListenHost
  port : UInt16
  deriving DecidableEq, Repr

namespace ListenAddress

def port? (digits : List Char) : Option UInt16 :=
  (numeral? 10 0x10000 digits).map UInt16.ofNat

/-- The digits after a plus sign, which says nothing. -/
def unsigned : List Char → List Char
  | '+' :: digits => digits
  | digits => digits

/-- The part before the last colon and the part after it. -/
def splitPort? (text : String) : Option (String × String) :=
  match (text.splitOn ":").reverse with
  | port :: host :: rest => some (String.intercalate ":" (host :: rest).reverse, port)
  | _ => none

/-- What stands between brackets. -/
def bracketed? (host : String) : Option String :=
  match host.toList with
  | '[' :: rest =>
    if rest.getLast? = some ']' then some (String.ofList rest.dropLast) else none
  | _ => none

/-- Reads an address. Brackets may hold an IPv6 address; the port after them has
no sign. -/
def ofString? (text : String) : Option ListenAddress := do
  let (host, port) ← splitPort? text
  match bracketed? host with
  | some inside =>
    let address ← Ipv6.ofString? inside
    return ⟨← ListenHost.ofIpv6? address, ← port? port.toList⟩
  | none => return ⟨← ListenHost.ofString? host, ← port? (unsigned port.toList)⟩

end ListenAddress

/-- What a realm is opened with. -/
structure Opening where
  world : Bool
  loginDatabase : Bool
  characterDatabase : Bool
  bindAddress : String

namespace Opening

/-- Checks that nothing is missing, the world first, and then the address. -/
def listen (opening : Opening) : Except RealmError ListenAddress :=
  if opening.world = false then .error (.missing .world)
  else if opening.loginDatabase = false then .error (.missing .loginDatabase)
  else if opening.characterDatabase = false then .error (.missing .characterDatabase)
  else match ListenAddress.ofString? opening.bindAddress with
    | none => .error (.transport (.acceptFailed "invalid address"))
    | some address => .ok address

end Opening

end GameRealm
