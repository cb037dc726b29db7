import GameRealm.Session.Admission
import GameRealm.Session.Run

/-!
# Ticks of a session

A world tick runs the callbacks posted since the last one, then the envelopes of
the generic queue while the socket stays open, then the state machine. A region
tick runs the envelopes of the map queue. Both take the backlog of their queue
at once, so what arrives meanwhile waits for the next tick.
-/

namespace GameRealm

/-- Kicks the player unless another character has taken its place. -/
def kickIfStill (guid : PlayerGuid) : Callback W := .mk do
  let view ← Procedure.view
  if view.session.playerGuid = some guid then
    Procedure.op (.kickPlayer true false)

/-- Closes whatever socket is active then. -/
def closeWhateverSocket : Callback W := .mk (Procedure.op .closeSocket)

namespace LiveSession

/-- Logs a payload that could not be read. If bad payloads are punished a kick is
left for the next tick; the handler's own tick is not disturbed. -/
def punishFault (sv : Services W) (env : Envelope) (fault : PayloadError) (d : LiveSession W) :
    LiveSession W :=
  let d := (d.log sv (.payloadFault env.opcode fault)).log sv .faultyEnvelope
  if sv.config.kickOnBadPacket then
    let d := d.log sv .faultDisconnect
    let callback := match d.session.playerGuid with
      | some guid => kickIfStill guid
      | none => closeWhateverSocket
    (d.post callback).2
  else d

/-- Switches off the delay of relocations, and performs one that was recorded. -/
def endDelay (sv : Services W) (d : LiveSession W) : LiveSession W :=
  match d.session.player with
  | none => d
  | some c =>
    let d := d.emit sv (.character c (.delayTeleport false))
    if (d.outside.character sv.collaborators c).delayedTeleport then
      d.emit sv (.character c .executeDelayedTeleport)
    else d

/-- Runs a handler. The relocations that it asks for are delayed until it is
done. -/
def handle (sv : Services W) (nested : SessionTick → LiveSession W → UpdateOutcome × LiveSession W)
    (handler : Envelope → Act W Handled) (env : Envelope) (d : LiveSession W) :
    Handled × LiveSession W :=
  let d := d.deed sv (.delayTeleport true)
  let (handled, d) := (handler env).run sv nested d
  (handled, d.endDelay sv)

/-- Deals with what a handler leaves behind. -/
def settle (sv : Services W) (handled : Handled) (d : LiveSession W) : LiveSession W :=
  let env := handled.rest
  match handled.fault with
  | some fault => d.punishFault sv env fault
  | none =>
    if 0 < env.remaining then
      d.log sv (.unprocessedTail env.opcode (sv.opcodes.get env.opcode).name env.rpos env.wpos)
    else d

def execute (sv : Services W) (nested : SessionTick → LiveSession W → UpdateOutcome × LiveSession W)
    (entry : Descriptor W) (env : Envelope) (d : LiveSession W) : LiveSession W :=
  match entry.handler with
  | .immediate _ => d.log sv (.immediateOnTick env.opcode)
  | .session handler =>
    let (handled, d) := d.handle sv nested handler env
    d.settle sv handled

/-- What admission of an envelope itself does to the session: the first
authenticated opcode after a logout ends the grace for late traffic, but for the
one that is sent right after a logout. -/
def noteAdmission (status : AdmissionStatus) (opcode : Opcode) (d : LiveSession W) :
    LiveSession W :=
  if status = .authed ∧ opcode ≠ .setActiveVoiceChannel then
    d.modify fun s => { s with recentlyLoggedOut := false }
  else d

/-- Puts an envelope of the generic queue through admission. -/
def dispatchGeneric (sv : Services W)
    (nested : SessionTick → LiveSession W → UpdateOutcome × LiveSession W) (env : Envelope)
    (d : LiveSession W) :
    LiveSession W :=
  let entry := sv.opcodes.get env.opcode
  match Admission.onWorldTick d.session (d.playerInWorld sv) env.opcode entry.name
      entry.status with
  | .refused notice => d.logAll sv notice.toList
  | .granted => (d.noteAdmission entry.status env.opcode).execute sv nested entry env

/-- Puts an envelope of the map queue through admission. -/
def dispatchMap (sv : Services W)
    (nested : SessionTick → LiveSession W → UpdateOutcome × LiveSession W) (env : Envelope)
    (d : LiveSession W) :
    LiveSession W :=
  let entry := sv.opcodes.get env.opcode
  match Admission.onRegionTick (d.playerInWorld sv) env.opcode entry.status with
  | .refused notice => d.logAll sv notice.toList
  | .granted => d.execute sv nested entry env

/-- Works through a backlog while the socket is open. What is left comes back. -/
def drain (sv : Services W) (dispatch : Envelope → LiveSession W → LiveSession W) :
    List Envelope → LiveSession W → List Envelope × LiveSession W
  | [], d => ([], d)
  | env :: rest, d =>
    if d.socketOpen sv then drain sv dispatch rest (dispatch env d) else (env :: rest, d)

def runCallbacks (sv : Services W)
    (nested : SessionTick → LiveSession W → UpdateOutcome × LiveSession W)
    (callbacks : List (Callback W)) (d : LiveSession W) : LiveSession W :=
  callbacks.foldl (fun d callback => (callback.body.run sv nested d).2) d

/-! ## The state machine -/

/-- Activates the replacement socket in place of the active one. -/
def activate (sv : Services W) (socket : SocketId) (d : LiveSession W) : LiveSession W :=
  let d := d.modify fun s => { s with pending := none }
  let d := if d.session.socket.isSome then d.setOffline sv else d
  let d := d.log sv .replacementActivated
  (d.modify fun s => { s with socket := some socket }).send sv .authOk

/-- A session that was just created acknowledges its client. -/
def advanceCreated (sv : Services W) (d : LiveSession W) : LiveSession W :=
  let d := match d.session.pending with
    | some socket => d.activate sv socket
    | none => if d.session.inQueue then d.sendAuthQueued sv else d.send sv .authOk
  let d := if d.session.addons.isEmpty then d else d.sendAddonsInfo sv
  d.modify (·.toCharSelection sv.config)

/-- Runs the logout that is due, unless a character is still loading. -/
def logoutIfDue (sv : Services W) (now : Instant) (d : LiveSession W) : LiveSession W :=
  if d.session.shouldLogOut sv.config now && !d.session.playerLoading then d.logoutPlayer sv
  else d

/-- A session at the list of characters ends with its socket, and is disconnected
when it idles for too long. -/
def advanceCharSelection (sv : Services W) (now : Instant) (d : LiveSession W) :
    UpdateOutcome × LiveSession W :=
  if d.socketOpen sv then
    let d := d.logoutIfDue sv now
    if d.session.shouldDisconnect now then
      (.keep, ((d.log sv .idleDisconnect).kickPlayer sv true true).closeSocket sv)
    else (.keep, d)
  else (.remove, d)

/-- Whether the active socket exists and is closed. -/
def socketClosed (sv : Services W) (d : LiveSession W) : Bool :=
  match d.session.socket with
  | none => false
  | some socket => d.isClosed sv socket

/-- A session in play goes offline with its socket, logs out when that is due, and
otherwise keeps the client's clock. -/
def advanceReady (sv : Services W) (now : Instant) (d : LiveSession W) :
    UpdateOutcome × LiveSession W :=
  if d.socketClosed sv then
    if d.session.player.isNone then (.remove, d) else (.keep, d.setOffline sv)
  else if d.session.shouldLogOut sv.config now && !d.session.playerLoading then
    (.keep, d.logoutPlayer sv)
  else (.keep, d.updateTimeSync sv)

/-- A session offline logs out its character when its time is up, and is then
finished unless a socket has turned up. -/
def advanceOffline (sv : Services W) (now : Instant) (d : LiveSession W) :
    UpdateOutcome × LiveSession W :=
  if d.session.shouldDisconnect now then
    let d := d.logoutPlayer sv
    if d.session.pending.isNone && !d.socketOpen sv then (.remove, d) else (.keep, d)
  else (.keep, d)

/-- One step of the state machine. -/
def advance (sv : Services W) (now : Instant) (d : LiveSession W) : UpdateOutcome × LiveSession W :=
  match d.session.state with
  | .created => (.keep, d.advanceCreated sv)
  | .charSelection => d.advanceCharSelection sv now
  | .ready => d.advanceReady sv now
  | .offline => d.advanceOffline sv now

/-! ## The two ticks -/

/-- Runs the callbacks posted since the last world tick. -/
def deliver (sv : Services W) (nested : SessionTick → LiveSession W → UpdateOutcome × LiveSession W)
    (d : LiveSession W) : LiveSession W :=
  let (callbacks, mailbox) := d.inbox.mailbox.drain
  ({ d with inbox := { d.inbox with mailbox } } : LiveSession W).runCallbacks sv nested callbacks

/-- Takes the backlog of the generic queue and works through it. -/
def drainGeneric (sv : Services W)
    (nested : SessionTick → LiveSession W → UpdateOutcome × LiveSession W)
    (d : LiveSession W) : LiveSession W :=
  let (backlog, generic) := d.inbox.generic.takeAll
  let d : LiveSession W := { d with inbox := { d.inbox with generic } }
  let (left, d) := d.drain sv (dispatchGeneric sv nested) backlog
  if left.isEmpty then d else d.log sv (.envelopesDropped left.length)

/-- Takes the backlog of the map queue and works through it. -/
def drainMap (sv : Services W)
    (nested : SessionTick → LiveSession W → UpdateOutcome × LiveSession W)
    (d : LiveSession W) : LiveSession W :=
  let (backlog, map) := d.inbox.map.takeAll
  let d : LiveSession W := { d with inbox := { d.inbox with map } }
  (d.drain sv (dispatchMap sv nested) backlog).2

/-- One tick; `nested` runs the ticks that handlers and callbacks ask for. -/
def tickWith (sv : Services W)
    (nested : SessionTick → LiveSession W → UpdateOutcome × LiveSession W) :
    SessionTick → LiveSession W → UpdateOutcome × LiveSession W
  | .world now, d =>
    let d := d.modify fun s => { s with now }
    ((d.deliver sv nested).drainGeneric sv nested).advance sv now
  | .region now, d => (.keep, (d.modify fun s => { s with now }).drainMap sv nested)

/-- One tick, in which ticks may run inside one another up to a depth. -/
def tickWithin (sv : Services W) : Nat → SessionTick → LiveSession W → UpdateOutcome × LiveSession W
  | 0, _, d => (.keep, d)
  | depth + 1, tick, d => tickWith sv (tickWithin sv depth) tick d

def tick (sv : Services W) : SessionTick → LiveSession W → UpdateOutcome × LiveSession W :=
  tickWith sv (tickWithin sv sv.nesting)

def update (sv : Services W) (now : Instant) : LiveSession W → UpdateOutcome × LiveSession W :=
  tick sv (.world now)

def updateMap (sv : Services W) (now : Instant) (d : LiveSession W) : LiveSession W :=
  (tick sv (.region now) d).2

def perform (sv : Services W) (procedure : Act W α) (d : LiveSession W) : α × LiveSession W :=
  procedure.run sv (tickWithin sv sv.nesting) d

end LiveSession

end GameRealm
