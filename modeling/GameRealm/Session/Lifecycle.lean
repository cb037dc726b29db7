import GameRealm.Session.Logout

/-!
# The life of a session

Going offline and online, the clock requests that go with it, shutting down and
being dropped.
-/

namespace GameRealm.LiveSession

/-! ## The client's clock -/

/-- Sends the next clock request and says when the one after it is due. The
first of a run is followed sooner than the others. -/
def sendTimeSync (sv : Services W) (d : LiveSession W) : LiveSession W :=
  let counter := d.session.timeSync.nextCounter
  let interval :=
    if counter = 0 then sv.config.timeSyncFirstInterval else sv.config.timeSyncInterval
  (d.send sv (.timeSyncRequest counter)).modify fun s =>
    { s with timeSync := s.timeSync.sent s.now (s.now.addSeconds? interval.toNat) }

/-- Starts a new run of clock requests without sending one. -/
def resetTimeSync (d : LiveSession W) : LiveSession W :=
  d.modify fun s => { s with timeSync := s.timeSync.reset }

/-- Sends the next clock request once it is due. -/
def updateTimeSync (sv : Services W) (d : LiveSession W) : LiveSession W :=
  if d.session.timeSync.isDue d.session.now then d.sendTimeSync sv else d

/-- Takes the client's answer to a clock request. An answer to a request that is
not open is refused. -/
def timeSyncResponse (sv : Services W) (counter clientTicks : UInt32) (d : LiveSession W) :
    Bool × LiveSession W :=
  match d.session.timeSync.answer? d.session.now counter clientTicks with
  | none => (false, d.log sv (.unknownCounter counter))
  | some (taken, sync) =>
    (true, (d.modify fun s => { s with timeSync := sync }).log sv
      (.timeSyncAnswered counter taken.roundTrip taken.delta sync.clockDelta))

/-! ## Offline and online -/

/-- Tells the friends of a character that is cut off, and schedules its logout. -/
def abandonPlayer (sv : Services W) (d : LiveSession W) : LiveSession W :=
  match d.session.player with
  | none => d
  | some c =>
    (d.emit sv (.world c.guid .sendFriendOffline)).modify fun s =>
      s.logoutRequest (some s.now)

/-- Lets go of the active socket. -/
def dropSocket (sv : Services W) (d : LiveSession W) : LiveSession W :=
  let socket := d.session.socket
  (d.modify fun s => { s with socket := none }).discard? sv socket

/-- Lets go of the socket and keeps the character in the world for a while. -/
def setOffline (sv : Services W) (d : LiveSession W) : LiveSession W :=
  (((d.abandonPlayer sv).dropSocket sv).modify fun s =>
    { s with
      kickDeadline := s.now.addSeconds? sv.config.offlineGrace.toNat
      state := .offline }).log sv .sessionOffline

/-- The session as it is while its character plays. -/
def goReady (d : LiveSession W) : LiveSession W :=
  d.modify fun s => { s with state := .ready, kickDeadline := none, scheduledLogout := none }

/-- Marks the character as playing. This needs a character and an open socket. -/
def setOnline (sv : Services W) (d : LiveSession W) : Bool × LiveSession W :=
  if d.session.player.isSome && d.socketOpen sv then
    (true, (d.goReady.resetTimeSync).sendTimeSync sv)
  else (false, d)

/-! ## The end -/

/-- Logs out the character, if there is one, and lets go of both sockets. The
second time nothing happens. -/
def shutdown (sv : Services W) (d : LiveSession W) : LiveSession W :=
  if d.session.hasShutDown then d
  else
    let d := d.modify fun s => { s with hasShutDown := true }
    let d := if d.session.player.isSome then d.logoutPlayer sv else d
    let active := d.session.socket
    let pending := d.session.pending
    let d := d.modify fun s => { s with socket := none, pending := none }
    ((d.discard? sv active).discard? sv pending).log sv .sessionShutDown

/-- What remains of a session that is dropped: the inbox, whose callbacks are
refused from now on. -/
def drop (sv : Services W) (d : LiveSession W) : LiveInbox W :=
  let d := d.shutdown sv
  let d := match d.session.player with
    | none => d
    | some c => d.emit sv (.release c)
  { inbox := { d.inbox with mailbox := d.inbox.mailbox.close }, outside := d.outside }

/-- A session for a freshly authenticated account, with its socket active. -/
def create (sv : Services W) (account : Account) (socket : SocketId) (now : Instant)
    (outside : Outside W) : LiveSession W :=
  { inbox := { account := account.id }
    outside := outside.log sv.collaborators .sessionCreated
    session := .create account socket now }

end GameRealm.LiveSession
