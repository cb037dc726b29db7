import GameRealm.Session.OpcodeTable

/-!
# The handlers of a session itself

Most handlers are game logic and belong elsewhere. The ones here are about the
session: logout requests, the client's clock, and pings. The rest only say that
an opcode should not have come.
-/

namespace GameRealm

namespace Handler

/-- Says that an opcode belongs to the start of a connection. -/
def handshakeOnly (env : Envelope) : Act W Handled := do
  Procedure.op (.log (.handshakeOpcode env.opcode))
  return ⟨env, none⟩

/-- Says that an opcode comes from servers only. -/
def serverSide (env : Envelope) : Act W Handled := do
  Procedure.op (.log (.serverSideOpcode env.opcode))
  return ⟨env, none⟩

/-- Says that an opcode is out of use. -/
def outOfUse (env : Envelope) : Act W Handled := do
  Procedure.op (.log (.deprecatedOpcode env.opcode))
  return ⟨env, none⟩

/-- Schedules a logout from the time of the current tick on. -/
def logoutRequest (env : Envelope) : Act W Handled := do
  let view ← Procedure.view
  Procedure.op (.log .logoutRequested)
  Procedure.op (.logoutRequest (some view.session.now))
  return ⟨env, none⟩

/-- Takes the answer to a clock request: its counter and the client's clock. -/
def timeSyncResponse (env : Envelope) : Act W Handled :=
  match env.readU32 with
  | (.error fault, env) => return ⟨env, some fault⟩
  | (.ok counter, env) =>
    match env.readU32 with
    | (.error fault, env) => return ⟨env, some fault⟩
    | (.ok clientTicks, env) => do
      let _ ← Procedure.op (.timeSyncResponse counter clientTicks)
      return ⟨env, none⟩

/-- Notes a latency on a later tick. -/
def setLatencyLater (ms : UInt32) : Callback W := .mk (Procedure.op (.setLatency ms))

/-- Takes a ping: a sequence number and the latency that the client measured,
which is left for the session's next tick. -/
def ping (_ : AccountId) (env : Envelope) : InboxAct W Handled :=
  match env.readU32 with
  | (.error fault, env) => .finish ⟨env, some fault⟩
  | (.ok _, env) =>
    match env.readU32 with
    | (.error fault, env) => .finish ⟨env, some fault⟩
    | (.ok latency, env) => .post (setLatencyLater latency) fun _ => .finish ⟨env, none⟩

end Handler

namespace OpcodeTable

/-- Registers the handlers of the session itself. -/
def registerCore (table : OpcodeTable W) : Except SessionError (OpcodeTable W) := do
  let table ← table.register .authSession "CMSG_AUTH_SESSION" .never .inPlace
    Handler.handshakeOnly
  let table ← table.register .logoutRequest "CMSG_LOGOUT_REQUEST" .loggedIn .threadUnsafe
    Handler.logoutRequest
  let table ← table.register .timeSyncResponse "CMSG_TIME_SYNC_RESP" .loggedIn .inPlace
    Handler.timeSyncResponse
  let table ← table.register .setActiveVoiceChannel "CMSG_SET_ACTIVE_VOICE_CHANNEL" .authed
    .threadUnsafe Handler.unimplemented
  table.registerImmediate .ping "CMSG_PING" .never Handler.ping

/-- A table with the handlers of the session itself. -/
def withCoreHandlers : Except SessionError (OpcodeTable W) := registerCore empty

end OpcodeTable

end GameRealm
