import GameRealm.Region.Ticking

/-!
# The registry of a realm

All sessions of a realm, the login queue, and the region pool. The registry
admits logins, runs the world tick of every session, forgets the sessions that
are finished, lets queued logins in while there is room, and keeps every session
on the actor of the region its player is in.
-/

namespace GameRealm

structure Registry (W : Type) where
  roster : Roster W
  /-- The logins that wait; the first is the next to be let in. -/
  queue : List AccountId := []
  /-- The sessions let past the queue; zero means all of them. -/
  maxActive : Nat
  regions : RegionPool

structure Login where
  /-- The first frame, read as far as it was understood. -/
  auth : Envelope
  /-- Whether the account had a session already, which now has another socket. -/
  handedOver : Bool
  deriving DecidableEq, Repr

namespace Registry

/-- The number of sessions, queued ones included. -/
def length (registry : Registry W) : Nat := registry.roster.length

/-- The number of sessions past the queue. -/
def activeCount (registry : Registry W) : Nat := registry.length - registry.queue.length

/-- The place of an account in the queue; the first is 1. -/
def queuePosition? (registry : Registry W) (account : AccountId) : Option UInt32 :=
  (registry.queue.findIdx? (· == account)).map fun i => UInt32.ofNat (i + 1)

/-- Whether a limit lets in one more than `active` sessions. -/
def hasRoom (maxActive active : Nat) : Bool := maxActive == 0 || decide (active < maxActive)

/-! ## Logins -/

/-- Hands another socket to the session of an account. -/
def handOver (sv : Services W) (registry : Registry W) (account : AccountId)
    (seat : Seat W) (socket : SocketId) (auth : Envelope) :
    Except SessionError Login × Registry W :=
  match (seat.live registry.roster.outside).requestNewSocket sv socket with
  | (.error e, _) => (.error e, registry)
  | (.ok (), d) =>
    let ((_, auth), d) := d.readAddons sv auth
    (.ok ⟨auth, true⟩, { registry with roster :=
      { seats := Roster.replace account d.seat registry.roster.seats, outside := d.outside } })

/-- Makes a session for an account, which may have to wait in the queue. -/
def enroll (sv : Services W) (registry : Registry W) (account : Account)
    (socket : SocketId) (auth : Envelope) (now : Instant) : Login × Registry W :=
  let d := LiveSession.create sv account socket now registry.roster.outside
  let ((_, auth), d) := d.readAddons sv auth
  if hasRoom registry.maxActive registry.activeCount then
    (⟨auth, false⟩, { registry with roster := registry.roster.add account.id d })
  else
    let queue := registry.queue ++ [account.id]
    let d := d.modify fun s => { s with queuePosition := some (UInt32.ofNat queue.length) }
    (⟨auth, false⟩, { registry with queue, roster := registry.roster.add account.id d })

/-- Takes an authenticated connection. An account that has a session keeps it and
only gets another socket. The addons in the first frame go to whichever session
has the socket in the end. -/
def login (sv : Services W) (registry : Registry W) (account : Account)
    (socket : SocketId) (auth : Envelope) (now : Instant) :
    Except SessionError Login × Registry W :=
  match registry.roster.get? account.id with
  | some seat => registry.handOver sv account.id seat socket auth
  | none =>
    let (login, registry) := registry.enroll sv account socket auth now
    (.ok login, registry)

/-! ## The world tick -/

/-- Runs the world tick of the given accounts' sessions, and collects those that
are finished. -/
def updateAll (sv : Services W) (now : Instant) :
    List AccountId → Roster W → List AccountId × Roster W
  | [], roster => ([], roster)
  | account :: accounts, roster =>
    let (outcome, roster) := roster.work account (·.update sv now)
    let (finished, roster) := updateAll sv now accounts roster
    (if outcome = some .remove then account :: finished else finished, roster)

/-- Forgets a session: its region is left first, so that no actor touches it any
more, and then it is shut down. What comes back is its inbox, which the network
may still hold. -/
def removeSession (sv : Services W) (registry : Registry W) (account : AccountId) :
    Option (Inbox W) × Registry W :=
  match registry.roster.get? account with
  | none => (none, registry)
  | some seat =>
    let (_, regions) := registry.regions.remove account
    let left := (seat.live registry.roster.outside).drop sv
    (some left.inbox,
      { registry with
        roster := { registry.roster.erase account with outside := left.outside }
        queue := registry.queue.filter (· != account)
        regions })

def removeSessions (sv : Services W) :
    List AccountId → Registry W → List (Inbox W) × Registry W
  | [], registry => ([], registry)
  | account :: accounts, registry =>
    let (inbox, registry) := registry.removeSession sv account
    let (inboxes, registry) := removeSessions sv accounts registry
    (inbox.toList ++ inboxes, registry)

/-- Tells a session that it is past the queue. -/
def welcome (sv : Services W) (d : LiveSession W) : LiveSession W :=
  (d.modify fun s => { s with queuePosition := none }).send sv .authOk

/-- Lets waiting logins in, in order, while there is room. -/
def admitFrom (sv : Services W) (maxActive : Nat) :
    List AccountId → Roster W → List AccountId × Roster W
  | [], roster => ([], roster)
  | account :: queue, roster =>
    if hasRoom maxActive (roster.length - (queue.length + 1)) then
      admitFrom sv maxActive queue (roster.change account (welcome sv))
    else (account :: queue, roster)

/-- Tells a waiting session its place, if that has changed. -/
def renumber (sv : Services W) (position : UInt32) (d : LiveSession W) : LiveSession W :=
  if d.session.queuePosition = some position then d
  else
    (d.modify fun s => { s with queuePosition := some position }).sendAuthWaitQueue sv position

/-- Tells everyone who waits the place in the queue. -/
def renumberFrom (sv : Services W) : Nat → List AccountId → Roster W → Roster W
  | _, [], roster => roster
  | index, account :: queue, roster =>
    renumberFrom sv (index + 1) queue
      (roster.change account (renumber sv (UInt32.ofNat (index + 1))))

/-- Lets in whom there is room for, and tells the others where they stand. -/
def admitQueued (sv : Services W) (registry : Registry W) : Registry W :=
  let (queue, roster) := admitFrom sv registry.maxActive registry.queue registry.roster
  { registry with queue, roster := renumberFrom sv 0 queue roster }

/-- Moves every session to the region its player is in. A session that cannot be
moved is tried again on the next tick. -/
def rehome (sv : Services W) (registry : Registry W) : Registry W :=
  { registry with regions := registry.roster.seats.foldl (fun pool (account, seat) =>
      (pool.place account (seat.session.playerRegion sv.collaborators
        registry.roster.outside.world)).2) registry.regions }

/-- One world tick. The inboxes of the sessions that were forgotten come back. -/
def update (sv : Services W) (registry : Registry W) (now : Instant) :
    List (Inbox W) × Registry W :=
  let (finished, roster) := updateAll sv now registry.roster.accounts registry.roster
  let (inboxes, registry) := removeSessions sv finished { registry with roster }
  (inboxes, (registry.admitQueued sv).rehome sv)

/-- Shuts down every session, and then the region pool. -/
def shutdown (sv : Services W) (registry : Registry W) : List (Inbox W) × Registry W :=
  let (inboxes, registry) := removeSessions sv registry.roster.accounts registry
  (inboxes, { registry with regions := registry.regions.shutdown })

def tickRegions (sv : Services W) (registry : Registry W) (now : Instant) : Registry W :=
  let (regions, roster) := registry.regions.tick sv now registry.roster
  { registry with regions, roster }

end Registry

end GameRealm
