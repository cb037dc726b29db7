/-!
# Mailboxes

Callbacks wait in a mailbox for the next tick of its owner. The owner takes all
of them at once; what is posted while that batch runs waits for the next one.
A mailbox whose owner is gone takes nothing.
-/

namespace GameRealm

/-- The callbacks waiting for an owner. -/
structure Mailbox (α : Type) where
  pending : List α := []
  /-- Whether there still is an owner. -/
  live : Bool := true

namespace Mailbox

/-- Leaves a callback. Returns whether it was accepted. -/
def post (mailbox : Mailbox α) (callback : α) : Bool × Mailbox α :=
  if mailbox.live then (true, { mailbox with pending := mailbox.pending ++ [callback] })
  else (false, mailbox)

/-- Takes everything posted so far, in posting order. -/
def drain (mailbox : Mailbox α) : List α × Mailbox α :=
  (mailbox.pending, { mailbox with pending := [] })

/-- The mailbox once its owner is gone. -/
def close (_ : Mailbox α) : Mailbox α := { pending := [], live := false }

end Mailbox

end GameRealm
