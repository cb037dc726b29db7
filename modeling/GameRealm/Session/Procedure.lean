import GameRealm.Session.Basic

/-!
# What handlers and callbacks may do

The realm's game logic is not written here. What it may do to a session is: it
performs the session's operations, looks at it, leaves callbacks for the next
tick, and may even run a tick of its own. A `Procedure` is such a course of
action: a tree that says what is done next for every answer. A callback is a
procedure without a result; a handler is a procedure for an envelope.
-/

namespace GameRealm

/-- An operation on a session. -/
inductive Operation (W : Type) where
  -- The life of the session.
  | attach (character : Character)
  | setOnline
  | setOffline
  | toCharSelection
  | setPlayerLoading (loading : Bool)
  | setInQueue (position : Option UInt32)
  | setLatency (ms : UInt32)
  | setExpansion (level : UInt8)
  | requestNewSocket (socket : SocketId)
  | logoutRequest (requestedAt : Option Instant)
  | logoutPlayer
  | kickPlayer (save inPlace : Bool)
  | closeSocket
  | shutdown
  -- Messages to the client.
  | send (message : Message)
  | sendAuthQueued
  | sendAuthWaitQueue (position : UInt32)
  | sendMotd
  -- Account data.
  | loadGlobalAccountData
  | loadCharacterAccountData
  | loadAccountData (mask : UInt32) (rows : List Row)
  | setAccountData (type : Nat) (time : UInt64) (data : String)
  | sendAccountDataTimes (mask : UInt32)
  -- Tutorials.
  | loadTutorials
  | saveTutorials
  | sendTutorials
  | setTutorialFlag (index : Nat) (value : UInt32)
  -- Addons.
  | readAddons (env : Envelope)
  | sendAddonsInfo
  -- The client's clock.
  | resetTimeSync
  | sendTimeSync
  | timeSyncResponse (counter clientTicks : UInt32)
  -- The inbox.
  | enqueue (env : Envelope)
  | deleteMovementPackets
  -- Everything around the session.
  | deed (deed : Deed)
  | wrongSize (env : Envelope) (expected : Nat)
  | opcodeName (opcode : Opcode)
  | log (notice : Notice)
  | remark (speaker text : String)
  /-- Something happens to the surroundings that the session has no part in. -/
  | outside (change : W → W)

namespace Operation

/-- What an operation answers. -/
@[reducible] def Answer : Operation W → Type
  | setOnline => Bool
  | requestNewSocket _ => Except SessionError Unit
  | loadGlobalAccountData => Except PersistenceError Unit
  | loadCharacterAccountData => Except PersistenceError Unit
  | setAccountData .. => Except SessionError Unit
  | loadTutorials => Except PersistenceError Unit
  | saveTutorials => Except PersistenceError Unit
  | readAddons _ => Except SessionError Nat × Envelope
  | timeSyncResponse .. => Bool
  | deed _ => Option PlayerGuid
  | opcodeName _ => String
  | _ => Unit

end Operation

/-- What can be seen of a session and its surroundings. -/
structure View (W : Type) where
  session : Session
  /-- The envelopes waiting for the world tick, and those for a region's tick. -/
  genericLength : Nat
  mapLength : Nat
  config : SessionConfig
  world : W

/-- The tick of the world or of a region, at an instant. -/
inductive SessionTick where
  | world (now : Instant)
  | region (now : Instant)
  deriving DecidableEq, Repr

/-- A course of action with a result, where `C` are the callbacks. -/
inductive Procedure (W C α : Type) where
  | finish (result : α)
  | perform (operation : Operation W) (next : operation.Answer → Procedure W C α)
  | look (next : View W → Procedure W C α)
  /-- Leaves a callback and goes on with whether it was accepted. -/
  | post (callback : C) (next : Bool → Procedure W C α)
  /-- Runs a tick. That of a region always keeps the session. -/
  | tick (kind : SessionTick) (next : UpdateOutcome → Procedure W C α)

namespace Procedure

/-- Goes on with another procedure after the result. -/
def bind : Procedure W C α → (α → Procedure W C β) → Procedure W C β
  | finish result, f => f result
  | perform operation next, f => perform operation fun answer => (next answer).bind f
  | look next, f => look fun view => (next view).bind f
  | post callback next, f => post callback fun accepted => (next accepted).bind f
  | tick kind next, f => tick kind fun outcome => (next outcome).bind f

def mapCallbacks (f : C → D) : Procedure W C α → Procedure W D α
  | finish result => finish result
  | perform operation next => perform operation fun answer => (next answer).mapCallbacks f
  | look next => look fun view => (next view).mapCallbacks f
  | post callback next => post (f callback) fun accepted => (next accepted).mapCallbacks f
  | tick kind next => tick kind fun outcome => (next outcome).mapCallbacks f

instance : Monad (Procedure W C) where
  pure := finish
  bind := bind

def op (operation : Operation W) : Procedure W C operation.Answer :=
  perform operation finish

def view : Procedure W C (View W) := look finish

end Procedure

/-- A course of action that has only the inbox of a session. -/
inductive InboxProcedure (C α : Type) where
  | finish (result : α)
  /-- Looks at the lengths of the two queues. -/
  | look (next : Nat → Nat → InboxProcedure C α)
  | post (callback : C) (next : Bool → InboxProcedure C α)
  | enqueue (env : Envelope) (next : InboxProcedure C α)
  | deleteMovementPackets (next : InboxProcedure C α)
  | remark (speaker text : String) (next : InboxProcedure C α)

/-- A procedure that runs on a later tick. -/
inductive Callback (W : Type) where
  | mk (body : Procedure W (Callback W) Unit)
  /-- One of a family whose members post one another, and themselves, without end. -/
  | member (family : Nat → Procedure W (Nat ⊕ Callback W) Unit) (number : Nat)

namespace Callback

def body : Callback W → Procedure W (Callback W) Unit
  | mk body => body
  | member family number => (family number).mapCallbacks (Sum.elim (member family) id)

end Callback

abbrev Act (W α : Type) := Procedure W (Callback W) α

abbrev InboxAct (W α : Type) := InboxProcedure (Callback W) α

/-- What a handler leaves behind: the envelope as far as it was read, and what
was wrong with it. -/
structure Handled where
  rest : Envelope
  fault : Option PayloadError := none
  deriving DecidableEq, Repr

/-- What is done with an envelope: on a tick, with the session; or at once, with
the inbox of the account alone. -/
inductive Handler (W : Type) where
  | session (run : Envelope → Act W Handled)
  | immediate (run : AccountId → Envelope → InboxAct W Handled)

/-- One entry of an opcode table. -/
structure Descriptor (W : Type) where
  name : String
  status : AdmissionStatus
  mode : ProcessingMode
  handler : Handler W

end GameRealm
