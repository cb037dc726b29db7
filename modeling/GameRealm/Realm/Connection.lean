import GameRealm.Message.Codec
import GameRealm.Realm.Registry
import GameRealm.Transport.Bridge

/-!
# Connections

The life of one connection, from its first frame to its end.

1. The first frame has to be an authentication frame: an envelope that begins with
   a token, a text that ends with a NUL. What follows the token is kept for the
   session.
2. The token is authenticated. A refused one is answered once, and the connection
   is closed.
3. An accepted one gets a bridge, and the world loop is asked for a session.
4. Every further frame that holds an envelope is recorded and handed to the
   session's inbox, until the peer leaves, the network fails, the bridge is closed,
   or the session is gone. Frames that hold no envelope are passed over.
5. The bridge is closed, and the connection ends when the writer has stopped.

What arrives waits until it is read, so a peer may send before it is answered.
-/

namespace GameRealm

inductive Frame where
  | binary (data : Bytes)
  | text (words : String)
  /-- A ping or its echo, which the network layer deals with. -/
  | control
  deriving DecidableEq, Repr

namespace Frame

def data? : Frame → Option Bytes
  | binary data => some data
  | text words => some words.toUTF8.toList
  | control => none

end Frame

/-- What comes from the peer. -/
inductive Arrival where
  | frame (frame : Frame)
  /-- The peer has left. -/
  | left
  | failed (reason : String)
  deriving DecidableEq, Repr

/-! ## The first frame -/

/-- What becomes of the first frame. -/
inductive Greeting where
  /-- It is no authentication frame. -/
  | invalid (cause : RealmError)
  /-- Its token is refused. -/
  | refused (cause : SessionError)
  /-- The envelope is read up to the end of the token. -/
  | accepted (account : Account) (auth : Envelope)

namespace Greeting

def envelope (data : Bytes) : Except RealmError Envelope :=
  match Envelope.decode? data with
  | none => .error .decode
  | some env =>
    if env.opcode = Opcode.authSession then .ok env
    else .error (.invalidMessage ("expected CMSG_AUTH_SESSION, got " ++ env.opcode.display))

/-- Reads the first frame and authenticates the token in it. -/
def ofFrame (authenticate : String → Except SessionError Account) (data : Bytes) : Greeting :=
  match envelope data with
  | .error cause => invalid cause
  | .ok env =>
    match env.readCString with
    | (.error cause, _) => invalid (.payload cause)
    | (.ok token, auth) =>
      match authenticate token with
      | .error cause => refused cause
      | .ok account => accepted account auth

/-- Why a connection ends that has brought no first frame. -/
def leftTooEarly : RealmError := .invalidMessage "connection closed before auth session"

/-- Why a connection ends whose first frame takes too long. -/
def tooLate : RealmError := .invalidMessage "auth session timed out"

/-- The answer to a refused token. -/
def rejection : Message := .authResponse .rejected none

end Greeting

/-! ## The states of a connection -/

inductive ConnectionPhase where
  /-- It waits for the first frame. -/
  | greeting
  /-- It waits for the world loop's answer. -/
  | asking
  /-- It feeds the inbox of its session. -/
  | reading
  /-- It waits for the writer to stop. -/
  | closing (outcome : Except RealmError Unit)
  | ended (outcome : Except RealmError Unit)

/-- What a connection does to others. -/
inductive ConnectionDeed where
  /-- Tries once to write a message past the bridge. -/
  | answer (message : Message)
  /-- Closes the connection past the bridge. -/
  | hangUp
  /-- Asks the world loop for a session. -/
  | ask (account : Account) (auth : Envelope)
  /-- Records an opcode in the bridge's history. -/
  | record (opcode : Opcode)
  /-- Hands an envelope to the session's inbox. -/
  | enqueue (env : Envelope)

structure Connection where
  id : ConnectionId
  peer : String
  phase : ConnectionPhase := .greeting
  /-- What has arrived and is not read yet. -/
  incoming : List Arrival := []
  /-- There is one from the moment the token is accepted. -/
  bridge : Option Bridge := none
  /-- The session that took the connection still exists. -/
  sessionAlive : Bool := true
  /-- What was done so far, the first deed first. -/
  deeds : List ConnectionDeed := []

inductive AdmissionAnswer where
  | admitted
  | refused
  /-- The world loop has stopped. -/
  | nobody
  deriving DecidableEq, Repr

inductive ConnectionEvent where
  | arrives (arrival : Arrival)
  /-- The connection reads the next thing that has arrived. -/
  | reads
  /-- The time for the first frame is over. -/
  | timesOut
  | answered (answer : AdmissionAnswer)
  /-- The session is forgotten. -/
  | sessionEnds
  /-- A user of the bridge or its writer does something. -/
  | bridge (step : BridgeStep)
  /-- The connection notices that the bridge is closed. -/
  | noticesClose
  /-- The connection notices that the writer has stopped. -/
  | noticesStop

/-- What every connection of a realm shares. -/
structure Doorway where
  authenticate : String → Except SessionError Account
  /-- The opcodes remembered for a connection. -/
  historyCapacity : Nat

namespace Connection

def perform (deed : ConnectionDeed) (conn : Connection) : Connection :=
  { conn with deeds := conn.deeds ++ [deed] }

/-- Ends a connection that has no bridge. -/
def fail (cause : RealmError) (conn : Connection) : Connection :=
  { conn with phase := .ended (.error cause) }

/-- Closes the bridge; what is on the channel is still written. -/
def windDown (outcome : Except RealmError Unit) (conn : Connection) : Connection :=
  { conn with phase := .closing outcome, bridge := conn.bridge.map Bridge.close }

def greet (door : Doorway) (data : Bytes) (conn : Connection) : Connection :=
  match Greeting.ofFrame door.authenticate data with
  | .invalid cause => conn.fail cause
  | .refused cause =>
    ((conn.perform (.answer Greeting.rejection)).perform .hangUp).fail (.session cause)
  | .accepted account auth =>
    let bridge : Bridge :=
      { connection := conn.id, peer := conn.peer, key := account.key,
        history := { capacity := door.historyCapacity } }
    { conn.perform (.ask account auth) with phase := .asking, bridge := some bridge }

/-- Deals with a further frame. -/
def feed (data : Bytes) (conn : Connection) : Connection :=
  match Envelope.decode? data with
  | none => conn
  | some env =>
    let conn := { conn with bridge := conn.bridge.map (Bridge.record env.opcode) }.perform
      (.record env.opcode)
    if conn.sessionAlive then conn.perform (.enqueue env) else conn.windDown (.ok ())

/-- Deals with what was read in a phase in which something is read. -/
def take (door : Doorway) (arrival : Arrival) (conn : Connection) : Connection :=
  match conn.phase, arrival with
  | .greeting, .left => conn.fail Greeting.leftTooEarly
  | .greeting, .failed reason => conn.fail (.transport (.receiveFailed reason))
  | .greeting, .frame frame => (frame.data?.map fun data => conn.greet door data).getD conn
  | .reading, .frame frame => (frame.data?.map fun data => conn.feed data).getD conn
  | .reading, _ => conn.windDown (.ok ())
  | _, _ => conn

/-- Whether a connection reads what arrives. -/
def listens (conn : Connection) : Bool :=
  match conn.phase with
  | .greeting | .reading => true
  | _ => false

/-- Reads the next thing that has arrived. -/
def read (door : Doorway) (conn : Connection) : Connection :=
  match conn.listens, conn.incoming with
  | true, arrival :: incoming => { conn with incoming }.take door arrival
  | _, _ => conn

def hear (answer : AdmissionAnswer) (conn : Connection) : Connection :=
  match conn.phase, answer with
  | .asking, .admitted => { conn with phase := .reading }
  | .asking, .refused => conn.windDown (.ok ())
  | .asking, .nobody => conn.windDown (.error .worldLoopStopped)
  | _, _ => conn

/-- A connection after one event. An event that cannot happen in a state changes
nothing. -/
def step (door : Doorway) (conn : Connection) : ConnectionEvent → Connection
  | .arrives arrival => { conn with incoming := conn.incoming ++ [arrival] }
  | .reads => conn.read door
  | .timesOut =>
    match conn.phase with
    | .greeting => conn.fail Greeting.tooLate
    | _ => conn
  | .answered answer => conn.hear answer
  | .sessionEnds => { conn with sessionAlive := false }
  | .bridge step => { conn with bridge := conn.bridge.map (·.step step) }
  | .noticesClose =>
    match conn.phase, conn.bridge with
    | .reading, some bridge => if bridge.closed then conn.windDown (.ok ()) else conn
    | _, _ => conn
  | .noticesStop =>
    match conn.phase, conn.bridge with
    | .closing outcome, some bridge =>
      if bridge.writer = .stopped then { conn with phase := .ended outcome } else conn
    | _, _ => conn

def run (door : Doorway) (conn : Connection) (events : List ConnectionEvent) : Connection :=
  events.foldl (step door) conn

end Connection

/-! ## The world loop's side -/

namespace Registry

/-- Answers a connection that asks for a session. The socket of a refused one is
closed. -/
def answer (sv : Services W) (registry : Registry W) (account : Account)
    (socket : SocketId) (auth : Envelope) (now : Instant) : AdmissionAnswer × Registry W :=
  match registry.login sv account socket auth now with
  | (.ok _, registry) => (.admitted, registry)
  | (.error _, registry) =>
    let outside := registry.roster.outside.emit sv.collaborators (.close socket)
    (.refused, { registry with roster := { registry.roster with outside } })

end Registry

end GameRealm
