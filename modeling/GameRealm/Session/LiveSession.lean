import GameRealm.Session.Inbox

/-!
# A session at work

A session, its inbox and its surroundings, and the operations that do no more
than one thing: send, close, attach, switch.
-/

namespace GameRealm

/-- A session with everything it works on. -/
structure LiveSession (W : Type) extends LiveInbox W where
  session : Session

namespace LiveSession

def emit (sv : Services W) (effect : Effect) (d : LiveSession W) : LiveSession W :=
  { d with outside := d.outside.emit sv.collaborators effect }

def log (sv : Services W) (notice : Notice) : LiveSession W → LiveSession W := emit sv (.log notice)

/-- Writes to the log, entry after entry. -/
def logAll (sv : Services W) (notices : List Notice) (d : LiveSession W) : LiveSession W :=
  { d with outside := d.outside.logAll sv.collaborators notices }

def modify (change : Session → Session) (d : LiveSession W) : LiveSession W :=
  { d with session := change d.session }

def socketOpen (sv : Services W) (d : LiveSession W) : Bool :=
  d.session.socketOpen sv.collaborators d.outside.world

/-- Whether a character is attached and in the world. -/
def playerInWorld (sv : Services W) (d : LiveSession W) : Bool :=
  d.session.playerInWorld sv.collaborators d.outside.world

def isClosed (sv : Services W) (socket : SocketId) (d : LiveSession W) : Bool :=
  (sv.collaborators.socket d.outside.world socket).closed

/-- What a procedure sees. -/
def view (sv : Services W) (d : LiveSession W) : View W :=
  { session := d.session
    genericLength := d.inbox.generic.length
    mapLength := d.inbox.map.length
    config := sv.config
    world := d.outside.world }

def post (callback : Callback W) (d : LiveSession W) : Bool × LiveSession W :=
  let (accepted, r) := d.toLiveInbox.post callback
  (accepted, { d with toLiveInbox := r })

/-! ## Sending -/

/-- Sends a message on the active socket. Without one, or when it is closed,
nothing happens. -/
def send (sv : Services W) (message : Message) (d : LiveSession W) : LiveSession W :=
  match d.session.socket with
  | none => d
  | some socket => if d.isClosed sv socket then d else d.emit sv (.send socket message)

/-- Tells the client its place in the login queue. -/
def sendAuthQueued (sv : Services W) (d : LiveSession W) : LiveSession W :=
  d.send sv (.authResponse .waitQueue (some (d.session.queuePosition.getD 0)))

/-- Tells the client its place in the login queue; place zero is past the queue. -/
def sendAuthWaitQueue (sv : Services W) (position : UInt32) (d : LiveSession W) : LiveSession W :=
  if position = 0 then d.send sv .authOk else d.sendAuthQueued sv

def sendMotd (sv : Services W) (d : LiveSession W) : LiveSession W :=
  (d.send sv (.motd sv.config.motdLines)).log sv .motdSent

/-! ## Sockets -/

/-- Lets go of a socket, and closes it first if it is open. -/
def discard (sv : Services W) (socket : SocketId) (d : LiveSession W) : LiveSession W :=
  (if d.isClosed sv socket then d else d.emit sv (.close socket)).emit sv (.finalize socket)

/-- Lets go of a socket, if there is one. -/
def discard? (sv : Services W) : Option SocketId → LiveSession W → LiveSession W
  | none, d => d
  | some socket, d => d.discard sv socket

/-- Starts closing the active socket. -/
def closeSocket (sv : Services W) (d : LiveSession W) : LiveSession W :=
  match d.session.socket with
  | none => d
  | some socket => d.emit sv (.close socket)

/-- Takes a socket that is to replace the active one at the next tick. Only one
can wait. -/
def requestNewSocket (sv : Services W) (socket : SocketId) (d : LiveSession W) :
    Except SessionError Unit × LiveSession W :=
  if d.session.pending.isSome then (.error .socketPending, d)
  else
    (.ok (), (d.log sv .replacementPending).modify fun s =>
      { s with pending := some socket, state := .created })

/-! ## The character -/

/-- Attaches a character that has been loaded. One that was attached before is
let go of. -/
def attach (sv : Services W) (character : Character) (d : LiveSession W) : LiveSession W :=
  let old := d.session.player
  let d := d.modify (·.attach character)
  match old with
  | none => d
  | some old => d.emit sv (.release old)

def deed (sv : Services W) (deed : Deed) (d : LiveSession W) : LiveSession W :=
  match d.session.player with
  | none => d
  | some character => d.emit sv (.character character deed)

/-- Changes the expansion of the account, and acknowledges the client again so
that it takes notice. -/
def setExpansion (sv : Services W) (level : UInt8) (d : LiveSession W) : LiveSession W :=
  ((d.modify fun s => { s with expansion := level }).deed sv (.expansionChange level)).send
    sv .authOk

end LiveSession

end GameRealm
