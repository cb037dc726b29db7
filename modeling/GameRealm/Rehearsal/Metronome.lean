import GameRealm.Tick.Loop

/-!
# A tick loop on a simulated clock

The clock moves only when it is told to, or when something waits. Waiting for a
deadline moves it to the first whole millisecond that is not before it.
-/

namespace GameRealm.Rehearsal

/-- When something that waits for a deadline goes on. -/
def wakeAt (now deadline : Instant) : Instant := max now deadline.ceilMilli

structure Metronome where
  ticks : TickLoop
  now : Instant := 0

/-- What is done with a tick loop. -/
inductive Beat where
  /-- Waits for the next tick. -/
  | next
  /-- Waits for the next tick, but no longer than some milliseconds. -/
  | nextOrTimeout (ms : Nat)
  | advance (ms : Nat)
  /-- Ends the work of the current tick. -/
  | finish

inductive Heard where
  | nothing
  | timeout
  /-- A tick, waited for with or without a limit. -/
  | tick (tick : Tick) (limited : Bool)

namespace Metronome

def fire (m : Metronome) : Tick × List TickNotice × Metronome :=
  let now := wakeAt m.now m.ticks.due
  (m.ticks.next now, (m.ticks.fireNotice? now).toList, { ticks := m.ticks.fire now, now })

def beat (m : Metronome) : Beat → Heard × List TickNotice × Metronome
  | .next =>
    let (tick, notices, m) := m.fire
    (.tick tick false, notices, m)
  | .nextOrTimeout ms =>
    let limit := m.now + Duration.ofMillis ms
    if wakeAt m.now m.ticks.due ≤ limit then
      let (tick, notices, m) := m.fire
      (.tick tick true, notices, m)
    else (.timeout, [], { m with now := limit })
  | .advance ms => (.nothing, [], { m with now := m.now + Duration.ofMillis ms })
  | .finish =>
    let (notice, ticks) := m.ticks.finish m.now
    (.nothing, notice.toList, { m with ticks })

end Metronome

end GameRealm.Rehearsal
