import GameRealm.Mailbox
import GameRealm.PacketQueue
import GameRealm.Session.OpcodeTable

/-!
# The inbox of a session

The network side of a session: two queues, one drained by the world tick and one
by the tick of the player's region, and a mailbox for callbacks. An envelope is
routed by its opcode's mode; an immediate one is handled where it arrives, with
no session at hand.
-/

namespace GameRealm

/-- The network side of a session. -/
structure Inbox (W : Type) where
  account : AccountId
  /-- For the world tick. -/
  generic : PacketQueue := {}
  /-- For the tick of the region the player is in. -/
  map : PacketQueue := {}
  mailbox : Mailbox (Callback W) := {}

namespace Inbox

/-- Leaves a callback for the session's next world tick. -/
def post (inbox : Inbox W) (callback : Callback W) : Bool × Inbox W :=
  let (accepted, mailbox) := inbox.mailbox.post callback
  (accepted, { inbox with mailbox })

/-- Drops the movements that wait in the map queue: once the player has been
relocated, the old positions mean nothing. -/
def deleteMovementPackets (inbox : Inbox W) : Inbox W :=
  { inbox with map := inbox.map.retain fun env => !env.opcode.isMovement }

end Inbox

/-- An inbox and the surroundings: what there is where envelopes arrive. -/
structure LiveInbox (W : Type) where
  inbox : Inbox W
  outside : Outside W

namespace LiveInbox

def emit (sv : Services W) (effect : Effect) (r : LiveInbox W) : LiveInbox W :=
  { r with outside := r.outside.emit sv.collaborators effect }

def post (callback : Callback W) (r : LiveInbox W) : Bool × LiveInbox W :=
  let (accepted, inbox) := r.inbox.post callback
  (accepted, { r with inbox })

/-- Runs what an immediate handler does; `deeper` takes the envelopes that it
enqueues itself. -/
def run (sv : Services W) (deeper : Envelope → LiveInbox W → LiveInbox W) :
    InboxAct W α → LiveInbox W → α × LiveInbox W
  | .finish result, r => (result, r)
  | .look next, r => run sv deeper (next r.inbox.generic.length r.inbox.map.length) r
  | .post callback next, r => run sv deeper (next (r.post callback).1) (r.post callback).2
  | .enqueue env next, r => run sv deeper next (deeper env r)
  | .deleteMovementPackets next, r =>
    run sv deeper next { r with inbox := r.inbox.deleteMovementPackets }
  | .remark speaker text next, r => run sv deeper next (r.emit sv (.remark speaker text))

/-- What is logged after an immediate handler. -/
def immediateNotices (opcode : Opcode) (handled : Handled) : List Notice :=
  match handled.fault with
  | some fault => [.immediateFault opcode fault]
  | none =>
    if 0 < handled.rest.remaining then
      [.immediateTail opcode handled.rest.rpos handled.rest.wpos]
    else []

/-- Counts an envelope and routes it. `immediately` says how immediate handlers
are run. -/
def receive (sv : Services W)
    (immediately : (AccountId → Envelope → InboxAct W Handled) → Envelope → LiveInbox W →
      LiveInbox W)
    (env : Envelope) (r : LiveInbox W) : LiveInbox W :=
  let r := r.emit sv (.countOpcode env.opcode)
  let entry := sv.opcodes.get env.opcode
  match entry.mode, entry.handler with
  | .immediate, .immediate handler => immediately handler env r
  | .mapThread, _ => { r with inbox := { r.inbox with map := r.inbox.map.push env } }
  | _, _ => { r with inbox := { r.inbox with generic := r.inbox.generic.push env } }

/-- Takes an envelope; immediate handlers may run inside one another up to a depth. -/
def enqueueWithin (sv : Services W) : Nat → Envelope → LiveInbox W → LiveInbox W
  | 0, env, r => receive sv (fun _ _ r => r) env r
  | depth + 1, env, r =>
    let immediately (handler : AccountId → Envelope → InboxAct W Handled) (env : Envelope)
        (r : LiveInbox W) : LiveInbox W :=
      let (handled, r) := run sv (enqueueWithin sv depth) (handler r.inbox.account env) r
      let notices := immediateNotices env.opcode handled
      { r with outside := r.outside.logAll sv.collaborators notices }
    receive sv immediately env r

def enqueue (sv : Services W) : Envelope → LiveInbox W → LiveInbox W :=
  enqueueWithin sv sv.nesting

end LiveInbox

end GameRealm
