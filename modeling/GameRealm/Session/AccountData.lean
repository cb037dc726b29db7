import GameRealm.Persistence
import GameRealm.Session.Notice

/-!
# Account data

A client keeps eight blobs on the server: its windows, macros and key bindings.
Some belong to the account, the others to the character; a mask says which.
-/

namespace GameRealm

/-- One blob and the unix time at which it was last written. -/
structure AccountData where
  time : UInt64 := 0
  data : String := ""
  deriving DecidableEq, Repr, Inhabited

abbrev AccountDataCache := Vector AccountData 8

namespace AccountDataCache

/-- The slots that belong to the account. -/
def globalMask : UInt32 := 0x15

/-- The slots that belong to the character. -/
def perCharacterMask : UInt32 := 0xEA

def empty : AccountDataCache := Vector.replicate 8 {}

def inMask (mask : UInt32) (slot : Nat) : Bool := mask.toNat.testBit slot

/-- The cache with the slots of a mask empty. -/
def clear (mask : UInt32) (cache : AccountDataCache) : AccountDataCache :=
  Vector.ofFn fun (i : Fin 8) => if inMask mask i then {} else cache.get i

def readRow (row : Row) : Except PersistenceError (UInt32 × AccountData) :=
  match Row.u32 row 0, Row.u64 row 1, Row.text row 2 with
  | .ok type, .ok time, .ok data => .ok (type, { time, data })
  | .error e, _, _ => .error e
  | _, .error e, _ => .error e
  | _, _, .error e => .error e

/-- Takes one row into the cache, or says why it was passed over. -/
def loadRow (mask : UInt32) (cache : AccountDataCache) (row : Row) :
    AccountDataCache × Option Notice :=
  match readRow row with
  | .error _ => (cache, some .unreadableAccountData)
  | .ok (type, blob) =>
    if h : type.toNat < 8 then
      if inMask mask type.toNat then (cache.set type.toNat blob h, none)
      else (cache, some (.foreignAccountDataType type.toNat))
    else (cache, some (.invalidAccountDataType type.toNat))

def loadRows (mask : UInt32) :
    List Row → AccountDataCache → AccountDataCache × List Notice
  | [], cache => (cache, [])
  | row :: rows, cache =>
    let (cache, notice) := loadRow mask cache row
    let (cache, notices) := loadRows mask rows cache
    (cache, notice.toList ++ notices)

/-- Empties the slots of a mask and fills them from rows. -/
def load (mask : UInt32) (rows : List Row) (cache : AccountDataCache) :
    AccountDataCache × List Notice :=
  loadRows mask rows (cache.clear mask)

/-- The write times of the slots of a mask, as 32-bit numbers. -/
def times (mask : UInt32) (cache : AccountDataCache) : List UInt32 :=
  (cache.toList.zipIdx.filter fun (_, i) => inMask mask i).map fun (blob, _) =>
    UInt32.ofNat blob.time.toNat

end AccountDataCache

end GameRealm
