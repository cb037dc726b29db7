import GameRealm.Log
import GameRealm.Tick.Config

/-!
# The tick loop

A loop keeps the instant at which its next tick is due. When it wakes, at that
instant or later, it fires one tick, counts how many whole periods late it is,
and lets its policy say when the next tick is due and which ticks are given up.
-/

namespace GameRealm

structure Tick where
  /-- The tick's number; the first is 1. -/
  number : Nat
  /-- The time since the previous tick, one period for the first. -/
  diff : Duration
  /-- When the tick fired. -/
  firedAt : Instant
  /-- The loop woke more than a tenth of a period late. -/
  overrun : Bool
  /-- The ticks given up. -/
  skipped : Nat
  deriving DecidableEq, Repr, Inhabited

/-- What a loop has done so far. -/
structure TickStats where
  total : Nat := 0
  overruns : Nat := 0
  skipped : Nat := 0
  /-- The moving average of the work of a tick; a new tick counts for a tenth. -/
  avgWork : Duration := 0
  maxWork : Duration := 0
  deriving DecidableEq, Repr, Inhabited

/-- What a loop logs. -/
inductive TickNotice where
  | created
  | rateClamped (rate : UInt32)
  | skippedAhead (skipped : Nat)
  | beyondCatchUp (behind skipped : Nat)
  | workExceeded
  /-- The share of the period, in percent. -/
  | workApproaching (percent : String)
  deriving DecidableEq, Repr

namespace TickNotice

def entry : TickNotice → LogEntry
  | created => ⟨.debug, "tick loop created", []⟩
  | rateClamped rate =>
    ⟨.warn, "tick rate out of range, clamping", [("clamped", toString rate.toNat)]⟩
  | skippedAhead skipped =>
    ⟨.warn, "tick overrun, skipping ahead", [("skipped", toString skipped)]⟩
  | beyondCatchUp behind skipped =>
    ⟨.warn, "tick overrun beyond catch-up cap",
      [("behind", toString behind), ("skipped", toString skipped)]⟩
  | workExceeded => ⟨.warn, "tick work exceeded the period", []⟩
  | workApproaching percent =>
    ⟨.warn, "tick work approaching the period", [("utilization_pct", percent)]⟩

end TickNotice

/-- A fixed-rate source of ticks. -/
structure TickLoop where
  config : TickConfig
  period : Duration
  count : Nat := 0
  /-- When the next tick is due. -/
  due : Instant
  lastFired : Option Instant := none
  /-- When the work of the current tick began, until it is reported done. -/
  workStarted : Option Instant := none
  stats : TickStats := {}
  deriving Inhabited

namespace TickLoop

/-- A loop that starts at `now`; its first tick is one period and the jitter away. -/
def start (config : TickConfig) (now : Instant) (jitter : Duration) : TickLoop :=
  let config := config.validated
  { config, period := config.period, due := now + config.period + jitter }

/-- What is logged when a loop with these settings starts. -/
def startNotices (config : TickConfig) : List TickNotice :=
  let clamped := config.validated.rate
  (if clamped = config.rate then [] else [.rateClamped clamped]) ++ [.created]

/-- The ticks given up, and when the next one is due, for a tick that was due at
`due` and fires at `now`, `behind` whole periods late. -/
def reschedule (policy : OverrunPolicy) (period : Duration) (due now : Instant)
    (behind : Nat) : Nat × Instant :=
  match policy with
  | .skip => (behind, now + period)
  | .catchUp cap =>
    if behind ≤ cap.toNat then (0, due + period) else (behind - cap.toNat, now + period)

/-- The whole periods between two instants, as a 64-bit count. -/
def periodsLate (period : Duration) (due now : Instant) : Nat :=
  now.since due / max period 1 % 0x10000000000000000

/-- What is logged about a tick that is late. -/
def lateNotice? (policy : OverrunPolicy) (behind skipped : Nat) : Option TickNotice :=
  if skipped = 0 then none
  else match policy with
    | .skip => some (.skippedAhead skipped)
    | .catchUp _ => some (.beyondCatchUp behind skipped)

/-- The tick that fires when the loop wakes at `now`. -/
def next (ticks : TickLoop) (now : Instant) : Tick :=
  { number := ticks.count + 1
    diff := match ticks.lastFired with
      | none => ticks.period
      | some last => now.since last
    firedAt := now
    overrun := ticks.period / 10 < now.since ticks.due
    skipped := (reschedule ticks.config.policy ticks.period ticks.due now
      (periodsLate ticks.period ticks.due now)).1 }

/-- The loop after that tick. -/
def fire (ticks : TickLoop) (now : Instant) : TickLoop :=
  let tick := ticks.next now
  { ticks with
    count := ticks.count + 1
    due := (reschedule ticks.config.policy ticks.period ticks.due now
      (periodsLate ticks.period ticks.due now)).2
    lastFired := some now
    workStarted := some now
    stats := { ticks.stats with
      total := ticks.stats.total + 1
      overruns := ticks.stats.overruns + (if tick.overrun then 1 else 0)
      skipped := ticks.stats.skipped + tick.skipped } }

/-- What is logged about that tick. -/
def fireNotice? (ticks : TickLoop) (now : Instant) : Option TickNotice :=
  lateNotice? ticks.config.policy (periodsLate ticks.period ticks.due now)
    (ticks.next now).skipped

/-- What is logged about work that took `work`. -/
def workNotice? (ticks : TickLoop) (work : Duration) : Option TickNotice :=
  let share := work.toSeconds / ticks.period.toSeconds
  if share ≥ 1 then some .workExceeded
  else if share ≥ ticks.config.threshold then
    some (.workApproaching (Binary64.oneDecimal (share * 100)))
  else none

/-- Ends the work of the current tick. Without one, nothing happens. -/
def finish (ticks : TickLoop) (now : Instant) : Option TickNotice × TickLoop :=
  match ticks.workStarted with
  | none => (none, ticks)
  | some started =>
    let work := now.since started
    let average := ticks.stats.avgWork.toSeconds * 0.9 + work.toSeconds * 0.1
    (ticks.workNotice? work,
      { ticks with
        workStarted := none
        stats := { ticks.stats with
          maxWork := max ticks.stats.maxWork work
          avgWork := .ofSecondsFloat average } })

end TickLoop

end GameRealm
