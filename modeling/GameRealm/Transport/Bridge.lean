import GameRealm.Message
import GameRealm.Session.Surroundings
import GameRealm.Transport.History

/-!
# Bridges

What a session has for a socket. A session never waits for the network: what it
sends is put on a channel, and the connection's writer takes the channel off in
its own time.

A close is put on the channel too, so that everything sent before it is still
written. The writer stops there, or at the first frame that cannot be written; in
the second case the writer closes the bridge itself. A bridge is closed once and
stays closed.
-/

namespace GameRealm

/-- What is put on the channel. -/
inductive Outbound where
  | message (message : Message)
  /-- The last thing the writer takes. -/
  | close
  deriving DecidableEq, Repr

/-- How the writer of a connection is getting on. -/
inductive WriterState where
  | running
  /-- A frame could not be written, and the bridge is about to be closed. -/
  | failing
  | stopped
  deriving DecidableEq, Repr, Inhabited

/-- One connection as its session sees it. -/
structure Bridge where
  connection : ConnectionId
  /-- The address of the peer. -/
  peer : String
  key : SessionKey
  history : OpcodeHistory
  closed : Bool := false
  /-- The session has let go of the socket for good. -/
  finalized : Bool := false
  /-- Whatever was put on the channel so far, the first thing first. -/
  channel : List Outbound := []
  /-- How many things the writer has taken off the channel. -/
  taken : Nat := 0
  /-- What reached the network, the first message first. -/
  written : List Message := []
  writer : WriterState := .running
  deriving DecidableEq, Repr

namespace Bridge

/-! ## Its users -/

/-- Puts a message on the channel; a closed bridge drops it. -/
def send (message : Message) (bridge : Bridge) : Bridge :=
  if bridge.closed then bridge
  else { bridge with channel := bridge.channel ++ [.message message] }

/-- Closes the bridge. Only the first close goes on the channel. -/
def close (bridge : Bridge) : Bridge :=
  if bridge.closed then bridge
  else { bridge with closed := true, channel := bridge.channel ++ [.close] }

/-- Lets go of the bridge for good, which closes it. -/
def finalize (bridge : Bridge) : Bridge := { bridge with finalized := true }.close

/-- Remembers the opcode of an envelope that arrived. -/
def record (opcode : Opcode) (bridge : Bridge) : Bridge :=
  { bridge with history := bridge.history.record opcode }

def view (bridge : Bridge) : SocketView :=
  { closed := bridge.closed, key := bridge.key, address := bridge.peer,
    history := bridge.history.recent }

/-! ## Its writer -/

/-- What the writer takes next. -/
def next? (bridge : Bridge) : Option Outbound := bridge.channel[bridge.taken]?

/-- One step of the writer: it takes something off the channel and writes it, or,
after a frame that could not be written, closes the bridge. `arrives` says whether
the frame written in this step reaches the network. Every message has a frame, so
that none is passed over. -/
def write (arrives : Bool) (bridge : Bridge) : Bridge :=
  match bridge.writer, bridge.next? with
  | .running, some (.message message) =>
    let bridge := { bridge with taken := bridge.taken + 1 }
    if arrives then { bridge with written := bridge.written ++ [message] }
    else { bridge with writer := .failing }
  | .running, some .close => { bridge with taken := bridge.taken + 1, writer := .stopped }
  | .running, none => bridge
  | .failing, _ => { bridge.close with writer := .stopped }
  | .stopped, _ => bridge

end Bridge

/-! ## Runs -/

/-- Something that one of its users, or the writer, does with a bridge. -/
inductive BridgeStep where
  | send (message : Message)
  | close
  | finalize
  | record (opcode : Opcode)
  | write (arrives : Bool)
  deriving DecidableEq, Repr

namespace Bridge

def step (bridge : Bridge) : BridgeStep → Bridge
  | .send message => bridge.send message
  | .close => bridge.close
  | .finalize => bridge.finalize
  | .record opcode => bridge.record opcode
  | .write arrives => bridge.write arrives

/-- A bridge after some steps, in whatever order they came. -/
def run (bridge : Bridge) (steps : List BridgeStep) : Bridge := steps.foldl step bridge

end Bridge

end GameRealm
