import GameRealm.Opcode

/-!
# The opcode history of a connection

The most recent opcodes, oldest first, up to a fixed number.
-/

namespace GameRealm

structure OpcodeHistory where
  capacity : Nat
  recent : List Opcode := []
  deriving DecidableEq, Repr, Inhabited

namespace OpcodeHistory

/-- Remembers an opcode; the oldest one gives way when the history is full. -/
def record (history : OpcodeHistory) (opcode : Opcode) : OpcodeHistory :=
  if history.capacity = 0 then history
  else
    let kept :=
      if history.recent.length = history.capacity then history.recent.tail
      else history.recent
    { history with recent := kept ++ [opcode] }

def length (history : OpcodeHistory) : Nat := history.recent.length

end OpcodeHistory

end GameRealm
