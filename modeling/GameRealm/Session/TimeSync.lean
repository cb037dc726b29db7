import GameRealm.Time.Instant

/-!
# The client's clock

The server sends numbered requests and the client answers each with its own
clock. Half the round trip counts as the way back, which gives one estimate of
how far the two clocks are apart. The last few estimates are averaged without
the ones that lie far off.
-/

namespace GameRealm

/-- What a session knows about its client's clock. -/
structure TimeSync where
  /-- The zero of the server's clock. -/
  epoch : Instant
  /-- The number of the next request. -/
  nextCounter : UInt32 := 0
  /-- The requests without an answer, and the server's clock when each was sent. -/
  pending : List (UInt32 × UInt32) := []
  /-- The last estimates, oldest first. -/
  deltas : List Int := []
  /-- Server time minus client time, in milliseconds. -/
  clockDelta : Int := 0
  /-- When the next request is due. -/
  due : Option Instant := none
  deriving Repr, Inhabited

/-- An answer of the client and what was made of it. -/
structure TimeSyncSample where
  roundTrip : Int
  delta : Int
  deriving DecidableEq, Repr

namespace TimeSync

def window : Nat := 6

/-- The server's clock: milliseconds since the epoch, as a 32-bit number. -/
def serverTime (sync : TimeSync) (now : Instant) : UInt32 :=
  UInt32.ofNat (now.since sync.epoch / 1000000)

/-- Starts a new run: no request is open and numbering begins at zero. -/
def reset (sync : TimeSync) : TimeSync :=
  { sync with nextCounter := 0, pending := [], due := none }

/-- Notes that the next request was sent. -/
def sent (sync : TimeSync) (now : Instant) (due : Option Instant) : TimeSync :=
  { sync with
    nextCounter := sync.nextCounter + 1
    pending := (sync.nextCounter, sync.serverTime now) ::
      sync.pending.filter (·.1 != sync.nextCounter)
    due }

def isDue (sync : TimeSync) (now : Instant) : Bool :=
  match sync.due with
  | none => false
  | some due => decide (due ≤ now)

/-- Adds an estimate; the oldest one gives way when the window is full. -/
def push (deltas : List Int) (delta : Int) : List Int :=
  (if deltas.length = window then deltas.tail else deltas) ++ [delta]

def mean (xs : List Float) : Float :=
  xs.foldl (· + ·) 0 / Float.ofNat xs.length

/-- The mean of the estimates within one standard deviation of the mean of all,
rounded to a whole number, a half away from zero. -/
def average (deltas : List Int) : Int :=
  if deltas.isEmpty then 0
  else
    let xs := deltas.map Float.ofInt
    let centre := mean xs
    let deviation := (mean (xs.map fun x => (x - centre) * (x - centre))).sqrt
    let kept := xs.filter fun x => (x - centre).abs ≤ deviation
    Binary64.nearest (if kept.isEmpty then centre else mean kept)

/-- The estimate from a request sent and answered at the given server times. -/
def sample (sentAt receivedAt clientTicks : UInt32) : TimeSyncSample :=
  let roundTrip : Int := (receivedAt.toNat - sentAt.toNat : Nat)
  { roundTrip, delta := sentAt.toNat + roundTrip / 2 - clientTicks.toNat }

/-- Takes an answer, or refuses it when no such request is open. -/
def answer? (sync : TimeSync) (now : Instant) (counter clientTicks : UInt32) :
    Option (TimeSyncSample × TimeSync) :=
  match sync.pending.find? (·.1 == counter) with
  | none => none
  | some (_, sentAt) =>
    let taken := sample sentAt (sync.serverTime now) clientTicks
    let deltas := push sync.deltas taken.delta
    some (taken, { sync with
      pending := sync.pending.filter (·.1 != counter)
      deltas
      clockDelta := average deltas })

/-- A client time as server time. While the offset is zero, as it is before the first answer,
and when the sum is no 32-bit number, it is the server's time now. -/
def toServerTime (sync : TimeSync) (now : Instant) (clientTime : UInt32) : UInt32 :=
  let shifted := clientTime.toNat + sync.clockDelta
  if sync.clockDelta = 0 ∨ shifted < 0 ∨ 0x100000000 ≤ shifted then sync.serverTime now
  else UInt32.ofNat shifted.toNat

end TimeSync

end GameRealm
