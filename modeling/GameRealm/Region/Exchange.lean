import GameRealm.Region.Pool

/-!
# Placing, step by step

The pool places a session as if that took no time. In truth it sends an actor a
command and waits for the answer, and all the while every actor goes on ticking:
a move is a leave on one actor and then a join on another, with ticks in between.
This file takes the calls apart.

1. `Errand` is what a call waits for: the answer to one command.
2. `Exchange` is a pool in the middle of a call, or between two calls.
3. `Exchange.step` is what can happen next: a call begins, an actor carries out
   the command that is under way, the pool takes the answer, an actor ticks.
4. `run_place` and `run_remove`: a call that nothing interrupts is the pool's own.

The pool makes one call at a time, so no more than one command is under way.
-/

namespace GameRealm

/-- What a call waits for. -/
inductive Errand where
  /-- That the session leaves a region, to go to another one or to none. -/
  | move (account : AccountId) (old : RegionId) (new : Option RegionId)
  /-- That the session, placed nowhere, enters a region. -/
  | enter (account : AccountId) (region : RegionId)
  /-- That the session, already forgotten, leaves a region for good. -/
  | quit (account : AccountId) (region : RegionId)
  deriving DecidableEq, Repr

namespace Errand

def region : Errand → RegionId
  | move _ old _ => old
  | enter _ region => region
  | quit _ region => region

def command : Errand → RegionCommand
  | move account old _ => .leave account old
  | enter account region => .join account region
  | quit account region => .leave account region

end Errand

inductive Journey where
  /-- The command waits for the actor. -/
  | sent
  /-- The answer waits for the pool. -/
  | answered (answer : Except RegionError Unit)

/-- A pool and the call that it is in the middle of. -/
structure Exchange where
  pool : RegionPool
  call : Option (Errand × Journey) := none
  /-- How the last call ended. -/
  result : Except RegionError Unit := .ok ()
  /-- The sessions whose map queues were drained so far, tick by tick. -/
  drained : List AccountId := []

/-- What can happen to a pool. -/
inductive ExchangeStep where
  | place (account : AccountId) (region : Option RegionId)
  | remove (account : AccountId)
  /-- The actor carries out the command that is under way. -/
  | deliver
  /-- The pool takes the answer that is under way. -/
  | conclude
  | tick (actor : Nat) (now : Instant)

namespace Exchange

/-- Sends the command of an errand. -/
def send (errand : Errand) (exchange : Exchange) : Exchange :=
  { exchange with call := some (errand, .sent) }

def stop (result : Except RegionError Unit) (exchange : Exchange) : Exchange :=
  { exchange with call := none, result }

def place (account : AccountId) (region : Option RegionId) (exchange : Exchange) : Exchange :=
  if exchange.pool.placement account = region then exchange.stop (.ok ())
  else match exchange.pool.placement account, region with
    | some old, new => exchange.send (.move account old new)
    | none, some new => exchange.send (.enter account new)
    | none, none => exchange.stop (.ok ())

def remove (account : AccountId) (exchange : Exchange) : Exchange :=
  match exchange.pool.placement account with
  | none => exchange.stop (.ok ())
  | some region =>
    { exchange with pool := exchange.pool.forget account }.send (.quit account region)

/-- Lets the actor carry out the command. -/
def deliver (exchange : Exchange) : Exchange :=
  match exchange.call with
  | some (errand, .sent) =>
    let (answer, pool) :=
      exchange.pool.send (exchange.pool.actorFor errand.region) errand.command
    { exchange with pool, call := some (errand, .answered answer) }
  | _ => exchange

/-- Goes on after an errand that succeeded. -/
def proceed (errand : Errand) (exchange : Exchange) : Exchange :=
  match errand with
  | .move account _ new =>
    let exchange := { exchange with pool := exchange.pool.forget account }
    match new with
    | none => exchange.stop (.ok ())
    | some region => exchange.send (.enter account region)
  | .enter account region =>
    { exchange with pool := exchange.pool.note account region }.stop (.ok ())
  | .quit .. => exchange.stop (.ok ())

def conclude (exchange : Exchange) : Exchange :=
  match exchange.call with
  | some (_, .answered (.error e)) => exchange.stop (.error e)
  | some (errand, .answered (.ok ())) => exchange.proceed errand
  | _ => exchange

/-- Lets an actor tick. A stopped one does not. -/
def tick (actor : Nat) (now : Instant) (exchange : Exchange) : Exchange :=
  match exchange.pool.actors[actor]? with
  | none => exchange
  | some a =>
    if a.running then
      { exchange with
        pool := { exchange.pool with actors := exchange.pool.actors.set actor (a.tick now) }
        drained := exchange.drained ++ a.hosted.map (·.1) }
    else exchange

/-- A pool after one step. No call begins while another is in progress. -/
def step (exchange : Exchange) : ExchangeStep → Exchange
  | .place account region =>
    if exchange.call.isNone then exchange.place account region else exchange
  | .remove account => if exchange.call.isNone then exchange.remove account else exchange
  | .deliver => exchange.deliver
  | .conclude => exchange.conclude
  | .tick actor now => exchange.tick actor now

def run (exchange : Exchange) (steps : List ExchangeStep) : Exchange := steps.foldl step exchange

/-- The steps that finish any call that is in progress. -/
def finishing : List ExchangeStep := [.deliver, .conclude, .deliver, .conclude]

/-! ## Calls that nothing interrupts -/

/-- A move that no tick comes between is `RegionPool.place`. -/
theorem run_place (pool : RegionPool) (account : AccountId) (region : Option RegionId) :
    let exchange := run { pool } (.place account region :: finishing)
    exchange.call = none ∧ (exchange.result, exchange.pool) = pool.place account region := by
  -- The call follows the branches of `RegionPool.place`, an answer for each message.
  by_cases same : pool.placement account = region
  · simp [run, finishing, step, place, stop, deliver, conclude, RegionPool.place, same]
  · cases old : pool.placement account with
    | none =>
      cases region with
      | none => exact absurd old same
      | some new =>
        cases joined : pool.join account new with
        | mk answer next =>
          have sent : pool.send (pool.actorFor new) (.join account new) = (answer, next) := joined
          cases answer <;>
            simp [run, finishing, step, place, stop, deliver, conclude, proceed, send,
              Errand.region, Errand.command, RegionPool.place, RegionPool.vacate,
              RegionPool.settle, old, joined, sent]
    | some home =>
      cases left : pool.leave account home with
      | mk answer next =>
        have sent : pool.send (pool.actorFor home) (.leave account home) = (answer, next) := left
        rw [old] at same
        cases answer with
        | error e =>
          simp [run, finishing, step, place, stop, deliver, conclude, send, Errand.region,
            Errand.command, RegionPool.place, RegionPool.vacate, old, same, left, sent]
        | ok done =>
          cases region with
          | none =>
            simp [run, finishing, step, place, stop, deliver, conclude, proceed, send,
              Errand.region, Errand.command, RegionPool.place, RegionPool.vacate, old, left, sent]
          | some new =>
            cases joined : (next.forget account).join account new with
            | mk reply last =>
              have asked : (next.forget account).send ((next.forget account).actorFor new)
                  (.join account new) = (reply, last) := joined
              cases reply <;>
                simp [run, finishing, step, place, stop, deliver, conclude, proceed, send,
                  Errand.region, Errand.command, RegionPool.place, RegionPool.vacate,
                  RegionPool.settle, old, same, left, sent, joined, asked]

/-- A removal that no tick comes between is `RegionPool.remove`. -/
theorem run_remove (pool : RegionPool) (account : AccountId) :
    let exchange := run { pool } (.remove account :: finishing)
    exchange.call = none ∧ (exchange.result, exchange.pool) = pool.remove account := by
  cases home : pool.placement account with
  | none => simp [run, finishing, step, remove, stop, deliver, conclude, RegionPool.remove, home]
  | some region =>
    cases left : (pool.forget account).leave account region with
    | mk answer next =>
      have sent : (pool.forget account).send ((pool.forget account).actorFor region)
          (.leave account region) = (answer, next) := left
      cases answer <;>
        simp [run, finishing, step, remove, stop, deliver, conclude, proceed, send,
          Errand.region, Errand.command, RegionPool.remove, home, left, sent]

end Exchange

end GameRealm
