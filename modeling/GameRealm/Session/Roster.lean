import GameRealm.Session.Dispatch

/-!
# Several sessions in one world

The sessions of a realm, keyed by account, and the surroundings that they share.
Work on one session leaves the others as they are.
-/

namespace GameRealm

structure Seat (W : Type) where
  session : Session
  inbox : Inbox W

/-- The sessions by account, in the order of their creation, and what they share. -/
structure Roster (W : Type) where
  seats : List (AccountId × Seat W) := []
  outside : Outside W

namespace LiveSession

/-- The session and its inbox, without the surroundings. -/
def seat (d : LiveSession W) : Seat W := ⟨d.session, d.inbox⟩

end LiveSession

namespace Seat

/-- A session put to work. -/
def live (seat : Seat W) (outside : Outside W) : LiveSession W :=
  { inbox := seat.inbox, outside, session := seat.session }

end Seat

namespace Roster

def get? (roster : Roster W) (account : AccountId) : Option (Seat W) :=
  (roster.seats.find? (·.1 == account)).map (·.2)

def has (roster : Roster W) (account : AccountId) : Bool := (roster.get? account).isSome

def accounts (roster : Roster W) : List AccountId := roster.seats.map (·.1)

def length (roster : Roster W) : Nat := roster.seats.length

/-- Puts another seat in the place of an account's. -/
def replace (account : AccountId) (seat : Seat W) (seats : List (AccountId × Seat W)) :
    List (AccountId × Seat W) :=
  seats.map fun entry => if entry.1 == account then (entry.1, seat) else entry

def add (roster : Roster W) (account : AccountId) (d : LiveSession W) : Roster W :=
  { seats := roster.seats ++ [(account, d.seat)], outside := d.outside }

def erase (roster : Roster W) (account : AccountId) : Roster W :=
  { roster with seats := roster.seats.filter (·.1 != account) }

/-- Works on the session of an account, if it has one. -/
def work (roster : Roster W) (account : AccountId) (task : LiveSession W → α × LiveSession W) :
    Option α × Roster W :=
  match roster.get? account with
  | none => (none, roster)
  | some seat =>
    let (result, d) := task (seat.live roster.outside)
    (some result,
      { seats := replace account d.seat roster.seats, outside := d.outside })

/-- Works on the session of an account for its effect alone. -/
def change (roster : Roster W) (account : AccountId) (task : LiveSession W → LiveSession W) :
    Roster W :=
  (roster.work account fun d => ((), task d)).2

end Roster

end GameRealm
