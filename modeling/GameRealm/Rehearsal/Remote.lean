import GameRealm.Json.Value

/-!
# Clients without a network

A rehearsal has no network, so what a client of it sees is no part of the realm: the steps of a
client are answered here as they are where no socket can be opened. No attempt to connect
succeeds; hence there is never a client that could send or receive, and no connection whose
failure could be waited for. Bytes that are sent past a client break the rehearsal off. What a
realm does with a connection that it has is in `GameRealm.Realm.Connection`.
-/

namespace GameRealm.Rehearsal

inductive RemoteStep where
  | connect (client : Nat)
  | send (client : Nat)
  | recv (client : Nat)
  | close (client : Nat)
  | drop (client : Nat)
  /-- Sends bytes past the client. -/
  | raw
  /-- Waits for the next failure of a connection. -/
  | error

/-- What comes of it. -/
inductive RemoteResult where
  | nothing
  | failed
  | noClient
  | timeout
  deriving DecidableEq, Repr

namespace RemoteStep

/-- The result of a step where nobody is connected, if the rehearsal goes on. -/
def result? : RemoteStep → Option RemoteResult
  | connect _ => some .failed
  | send _ => some .noClient
  | recv _ => some .noClient
  | close _ => some .noClient
  | drop _ => some .nothing
  | raw => none
  | error => some .timeout

/-- The results of all steps, unless the rehearsal is broken off. -/
def rehearse (steps : List RemoteStep) : Option (List RemoteResult) :=
  steps.mapM result?

end RemoteStep

end GameRealm.Rehearsal
