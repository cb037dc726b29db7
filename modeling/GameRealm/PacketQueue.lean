import GameRealm.Envelope

/-!
# Packet queues

Envelopes wait in arrival order. A tick takes the whole backlog at once and
works through it while new envelopes gather in the emptied queue.
-/

namespace GameRealm

/-- The envelopes that wait for a tick, the first to come first. -/
structure PacketQueue where
  envelopes : List Envelope := []
  deriving DecidableEq, Repr, Inhabited

namespace PacketQueue

def push (queue : PacketQueue) (env : Envelope) : PacketQueue := ⟨queue.envelopes ++ [env]⟩

/-- Takes the backlog and leaves the queue empty. -/
def takeAll (queue : PacketQueue) : List Envelope × PacketQueue := (queue.envelopes, {})

def retain (queue : PacketQueue) (keep : Envelope → Bool) : PacketQueue :=
  ⟨queue.envelopes.filter keep⟩

def length (queue : PacketQueue) : Nat := queue.envelopes.length

end PacketQueue

end GameRealm
