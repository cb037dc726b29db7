import GameRealm.Json.Record
import GameRealm.Time.Instant

/-!
# Tick settings

How often a loop ticks, what it does when it wakes late, and how much of a
period its work may use before it says so.
-/

namespace GameRealm

/-- What to do about ticks that were missed. -/
inductive OverrunPolicy where
  /-- Forget them and go on from now. -/
  | skip
  /-- Fire up to `cap` of them back to back, and forget the rest. -/
  | catchUp (cap : UInt32)
  deriving DecidableEq, Repr, Inhabited

namespace OverrunPolicy

/-- A policy: the name of one without a cap, or an object that names one and
holds its cap. -/
def ofJson? : Json → Option OverrunPolicy
  | .object [(some "CatchUp", body)] => do
    let r ← body.record? ["max_catchup"]
    return .catchUp (← r.field 0 Json.u32?)
  | json => json.unitValue? (fun _ => "Skip") [skip]

end OverrunPolicy

structure TickConfig where
  /-- Ticks a second. -/
  rate : UInt32 := 20
  policy : OverrunPolicy := .skip
  /-- The share of a period that the work of a tick may use without a warning. -/
  threshold : Float := 0.8
  /-- The most by which the first tick may come late, in microseconds. -/
  jitterMicros : UInt64 := 2000
  deriving Inhabited

namespace TickConfig

/-- The fastest rate. -/
def maxRate : UInt32 := 200

/-- The defaults at a given rate. -/
def withRate (rate : UInt32) : TickConfig := { rate }

def clampRate (rate : UInt32) : UInt32 := if rate < 1 then 1 else min rate maxRate

def clampShare (x : Float) : Float := if x < 0 then 0 else if 1 < x then 1 else x

/-- The settings with everything pulled back into range. -/
def validated (config : TickConfig) : TickConfig :=
  { config with rate := clampRate config.rate, threshold := clampShare config.threshold }

/-- The length of one tick: the nearest nanosecond to one second over the rate. -/
def period (config : TickConfig) : Duration :=
  .ofSecondsFloat (1.0 / (max config.rate 1).toFloat)

/-- Reads settings. No field may be missing. -/
def ofJson? (json : Json) : Option TickConfig := do
  let r ← json.record? ["rate_hz", "policy", "budget_warn_threshold", "initial_jitter_us"]
  return {
    rate := ← r.field 0 Json.u32?
    policy := ← r.field 1 OverrunPolicy.ofJson?
    threshold := ← r.field 2 Json.float?
    jitterMicros := ← r.field 3 Json.u64? }

end TickConfig

end GameRealm
