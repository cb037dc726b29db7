import GameRealm.Proofs.Placement
import GameRealm.Proofs.RegistryHistory

/-!
# A world tick, step by step

A registry runs a world tick as if that took no time. In truth it waits, again and
again, for the region pool, and while it waits and between any two of its chores
region actors tick, clients write and callbacks are posted. Only logins have to wait
until the world tick is over. This module takes the world tick apart:

1. `Phase` is how far a world tick is, and `Round` a registry in the middle of one,
   with the regions in which it has seen the players so far;
2. `Round.proceed` is the next chore, and `Round.step` anything that can happen next;
3. a world tick that nothing disturbs is `Registry.update` (`gets_update`).
-/

namespace GameRealm

/-- How far a world tick is. -/
inductive Phase where
  | idle
  /-- The sessions tick, one after the other; some are found finished. -/
  | ticking (now : Instant) (todo finished : List AccountId)
  /-- The finished sessions are forgotten, one after the other. -/
  | removing (todo : List AccountId)
  /-- One of them leaves its region, and is then shut down. -/
  | leaving (account : AccountId) (todo : List AccountId)
  /-- The sessions are moved to where their players are, one after the other. -/
  | rehoming (todo : List AccountId)
  deriving DecidableEq

/-- A registry in the middle of a world tick, or between two. -/
structure Round (W : Type) where
  registry : Registry W
  /-- The call to the region pool that is waited for. -/
  call : Option (Errand × Journey) := none
  /-- How the last call ended. -/
  result : Except RegionError Unit := .ok ()
  /-- The sessions whose map queues were drained so far, tick by tick. -/
  drained : List AccountId := []
  phase : Phase := .idle
  /-- The regions in which the last world tick has seen the players. -/
  seen : List (AccountId × Option RegionId) := []

/-- What can happen to a registry, in steps that take no time. -/
inductive RoundStep (W : Type) where
  | login (account : Account) (socket : SocketId) (auth : Envelope) (now : Instant)
  /-- A world tick begins. -/
  | start (now : Instant)
  /-- The world tick goes on, unless it waits for the pool. -/
  | proceed
  /-- An actor carries out the command that is under way. -/
  | deliver
  /-- The pool takes the answer that is under way. -/
  | conclude
  /-- An actor ticks. -/
  | tick (actor : Nat) (now : Instant)
  /-- Someone works on the session of an account. -/
  | act (account : AccountId) (step : SessionStep W)
  /-- Something happens to the surroundings. -/
  | outside (change : Outside W → Outside W)
  /-- The table of sessions comes into another order. -/
  | reorder (order : List (AccountId × Seat W) → List (AccountId × Seat W))
      (perm : ∀ seats, (order seats).Perm seats)

/-- Shuts down the session of an account and forgets it, wherever it is placed. -/
def Registry.discharge (sv : Services W) (registry : Registry W) (account : AccountId) :
    Registry W :=
  match registry.roster.get? account with
  | none => registry
  | some seat =>
    { registry with
      roster := { registry.roster.erase account with
        outside := ((seat.live registry.roster.outside).drop sv).outside }
      queue := registry.queue.filter (· != account) }

namespace Round

/-- The pool and the call that it is in the middle of. -/
def exchange (round : Round W) : Exchange :=
  ⟨round.registry.regions, round.call, round.result, round.drained⟩

/-- Lets something happen to the pool. -/
def ask (change : Exchange → Exchange) (round : Round W) : Round W :=
  { round with
    registry := { round.registry with regions := (change round.exchange).pool }
    call := (change round.exchange).call
    result := (change round.exchange).result
    drained := (change round.exchange).drained }

def modify (change : Registry W → Registry W) (round : Round W) : Round W :=
  { round with registry := change round.registry }

/-- Lets a session tick, and notes if it is finished. -/
def tickNext (sv : Services W) (now : Instant) (account : AccountId)
    (todo finished : List AccountId) (round : Round W) : Round W :=
  let (outcome, roster) := round.registry.roster.work account (·.update sv now)
  { round with
    registry := { round.registry with roster }
    phase := .ticking now todo
      (if outcome = some .remove then finished ++ [account] else finished) }

/-- Begins to take a finished session out of its region. -/
def removeNext (account : AccountId) (todo : List AccountId) (round : Round W) : Round W :=
  match round.registry.roster.get? account with
  | none => { round with phase := .removing todo }
  | some _ => { round.ask (·.remove account) with phase := .leaving account todo }

/-- Looks where a player is, and begins to move the session there. -/
def rehomeNext (sv : Services W) (account : AccountId) (todo : List AccountId)
    (round : Round W) : Round W :=
  match round.registry.roster.get? account with
  | none => { round with phase := .rehoming todo }
  | some seat =>
    let region := seat.session.playerRegion sv.collaborators round.registry.roster.outside.world
    { round.ask (·.place account region) with
      phase := .rehoming todo
      seen := round.seen ++ [(account, region)] }

/-- Does the next chore of a world tick. -/
def proceed (sv : Services W) (round : Round W) : Round W :=
  match round.phase with
  | .idle => round
  | .ticking now (account :: todo) finished => round.tickNext sv now account todo finished
  | .ticking _ [] finished => { round with phase := .removing finished }
  | .removing (account :: todo) => round.removeNext account todo
  | .leaving account todo =>
    { round.modify (·.discharge sv account) with phase := .removing todo }
  | .removing [] =>
    let registry := round.registry.admitQueued sv
    { round with registry, phase := .rehoming registry.roster.accounts, seen := [] }
  | .rehoming (account :: todo) => round.rehomeNext sv account todo
  | .rehoming [] => { round with phase := .idle }

/-- Lets an actor tick: it drains the map queues of the sessions it hosts. -/
def tick (sv : Services W) (actor : Nat) (now : Instant) (round : Round W) : Round W :=
  match round.registry.regions.actors[actor]? with
  | none => round
  | some a =>
    if a.running then
      (round.ask (·.tick actor now)).modify fun registry =>
        { registry with roster := a.drain sv now registry.roster }
    else round

def step (sv : Services W) (round : Round W) : RoundStep W → Round W
  | .login account socket auth now =>
    if round.phase = .idle then
      round.modify fun registry => (registry.login sv account socket auth now).2
    else round
  | .start now =>
    if round.phase = .idle then
      { round with phase := .ticking now round.registry.roster.accounts [] }
    else round
  | .proceed => if round.call.isNone then round.proceed sv else round
  | .deliver => round.ask (·.deliver)
  | .conclude => round.ask (·.conclude)
  | .tick actor now => round.tick sv actor now
  | .act account step => round.modify (·.work account (LiveSession.step sv step))
  | .outside change => round.modify (·.modifyOutside change)
  | .reorder order _ => round.modify (·.reorder order)

def run (sv : Services W) (steps : List (RoundStep W)) (round : Round W) : Round W :=
  steps.foldl (step sv) round

section
variable {sv : Services W} {round : Round W}

@[simp] theorem exchange_ask (change : Exchange → Exchange) (round : Round W) :
    (round.ask change).exchange = change round.exchange := rfl

@[simp] theorem registry_modify (change : Registry W → Registry W) (round : Round W) :
    (round.modify change).registry = change round.registry := rfl

theorem exchange_modify (change : Registry W → Registry W)
    (same : (change round.registry).regions = round.registry.regions) :
    (round.modify change).exchange = round.exchange := by
  rw [exchange, exchange, modify, same]

theorem run_append (first second : List (RoundStep W)) (round : Round W) :
    round.run sv (first ++ second) = (round.run sv first).run sv second :=
  List.foldl_append

end

/-! ## World ticks that nothing disturbs -/

/-- One chore, and what finishes the call that it may begin. -/
def chore : List (RoundStep W) := [.proceed, .deliver, .conclude, .deliver, .conclude]

/-- Undisturbed, a round gets from one phase and registry to another, chore by chore. -/
def Gets (sv : Services W) (phase : Phase) (registry : Registry W) (phase' : Phase)
    (registry' : Registry W) : Prop :=
  ∀ result drained seen, ∃ n result' drained' seen',
    run sv (List.replicate n chore).flatten ⟨registry, none, result, drained, phase, seen⟩ =
      ⟨registry', none, result', drained', phase', seen'⟩

section
variable {sv : Services W} {registry registry' registry'' : Registry W}
  {phase phase' phase'' : Phase}

theorem Gets.refl (phase : Phase) (registry : Registry W) : Gets sv phase registry phase registry :=
  fun result drained seen => ⟨0, result, drained, seen, rfl⟩

theorem Gets.trans (first : Gets sv phase registry phase' registry')
    (second : Gets sv phase' registry' phase'' registry'') :
    Gets sv phase registry phase'' registry'' := by
  intro result drained seen
  obtain ⟨n, result', drained', seen', there⟩ := first result drained seen
  obtain ⟨m, result'', drained'', seen'', end_⟩ := second result' drained' seen'
  refine ⟨n + m, result'', drained'', seen'', ?_⟩
  rw [← List.replicate_append_replicate, List.flatten_append, run_append, there, end_]

theorem Gets.one
    (h : ∀ result drained seen, ∃ result' drained' seen' exchange,
      (proceed sv ⟨registry, none, result, drained, phase, seen⟩) =
        ask (fun _ => exchange) ⟨registry', none, result', drained', phase', seen'⟩ ∧
      (exchange.run Exchange.finishing).pool = registry'.regions ∧
      (exchange.run Exchange.finishing).call = none) :
    Gets sv phase registry phase' registry' := by
  intro result drained seen
  obtain ⟨result', drained', seen', exchange, next, pool, call⟩ := h result drained seen
  refine ⟨1, (exchange.run Exchange.finishing).result, (exchange.run Exchange.finishing).drained,
    seen', ?_⟩
  have finished : run sv (List.replicate 1 chore).flatten
      ⟨registry, none, result, drained, phase, seen⟩ =
      ask (fun e => e.run Exchange.finishing)
        (proceed sv ⟨registry, none, result, drained, phase, seen⟩) := rfl
  rw [finished, next]
  change Round.mk { registry' with regions := (exchange.run Exchange.finishing).pool }
    (exchange.run Exchange.finishing).call _ _ _ _ = _
  rw [pool, call]
  rfl

theorem Gets.quiet
    (h : ∀ result drained seen, ∃ seen',
      proceed sv ⟨registry, none, result, drained, phase, seen⟩ =
        ⟨registry', none, result, drained, phase', seen'⟩) :
    Gets sv phase registry phase' registry' := by
  refine .one fun result drained seen => ?_
  obtain ⟨seen', next⟩ := h result drained seen
  exact ⟨result, drained, seen', ⟨registry'.regions, none, result, drained⟩, next, rfl, rfl⟩

end

end Round

namespace Exchange

/-- Two pools in the middle of the same call, however the last one ended and whomever the
ticks have drained. -/
structure Alike (first second : Exchange) : Prop where
  pool : first.pool = second.pool
  call : first.call = second.call

section
variable {first second : Exchange}

theorem alike_place (pool : first.pool = second.pool) (account : AccountId)
    (region : Option RegionId) :
    (first.place account region).Alike (second.place account region) := by
  unfold place
  rw [pool]
  split
  · exact ⟨pool, rfl⟩
  · split <;> exact ⟨pool, rfl⟩

theorem alike_remove (pool : first.pool = second.pool) (account : AccountId) :
    (first.remove account).Alike (second.remove account) := by
  unfold remove
  rw [pool]
  split
  · exact ⟨pool, rfl⟩
  · exact ⟨rfl, rfl⟩

theorem alike_proceed (pool : first.pool = second.pool) (errand : Errand) :
    (first.proceed errand).Alike (second.proceed errand) := by
  have forgotten : ∀ account, first.pool.forget account = second.pool.forget account :=
    fun account => congrArg (·.forget account) pool
  cases errand with
  | move account old new => cases new <;> exact ⟨forgotten account, rfl⟩
  | enter account region => exact ⟨congrArg (·.note account region) pool, rfl⟩
  | quit account region => exact ⟨pool, rfl⟩

/-- What a step does depends on nothing else. -/
theorem Alike.step (alike : first.Alike second) (step : ExchangeStep) :
    (first.step step).Alike (second.step step) := by
  obtain ⟨pool, call⟩ := alike
  cases step with
  | place account region =>
    rw [Exchange.step, Exchange.step, call]
    split
    · exact alike_place pool account region
    · exact ⟨pool, call⟩
  | remove account =>
    rw [Exchange.step, Exchange.step, call]
    split
    · exact alike_remove pool account
    · exact ⟨pool, call⟩
  | deliver =>
    rw [Exchange.step, Exchange.step, deliver, deliver, call, pool]
    split
    · exact ⟨rfl, rfl⟩
    · exact ⟨pool, call⟩
  | conclude =>
    rw [Exchange.step, Exchange.step, conclude, conclude, call]
    split
    · exact ⟨pool, rfl⟩
    · exact alike_proceed pool _
    · exact ⟨pool, call⟩
  | tick i now =>
    rw [Exchange.step, Exchange.step, tick, tick, pool]
    split
    · exact ⟨pool, call⟩
    · split
      · exact ⟨rfl, call⟩
      · exact ⟨pool, call⟩

theorem Alike.run (alike : first.Alike second) (steps : List ExchangeStep) :
    (first.run steps).Alike (second.run steps) := by
  induction steps generalizing first second with
  | nil => exact alike
  | cons step steps ih => exact ih (alike.step step)

end

section
variable {exchange : Exchange}

theorem alike_of_idle (idle : exchange.call = none) : exchange.Alike { pool := exchange.pool } :=
  ⟨rfl, idle⟩

theorem finish_place (idle : exchange.call = none) (account : AccountId)
    (region : Option RegionId) :
    ((exchange.place account region).run finishing).pool =
        (exchange.pool.place account region).2 ∧
      ((exchange.place account region).run finishing).call = none := by
  obtain ⟨alone, same⟩ := run_place exchange.pool account region
  have begun : exchange.step (.place account region) = exchange.place account region := by
    rw [step, idle, Option.isNone_none, if_pos rfl]
  obtain ⟨pool, call⟩ := (alike_of_idle idle).run (.place account region :: finishing)
  rw [run, List.foldl_cons, begun] at pool call
  exact ⟨pool.trans (congrArg Prod.snd same), call.trans alone⟩

theorem finish_remove (idle : exchange.call = none) (account : AccountId) :
    ((exchange.remove account).run finishing).pool = (exchange.pool.remove account).2 ∧
      ((exchange.remove account).run finishing).call = none := by
  obtain ⟨alone, same⟩ := run_remove exchange.pool account
  have begun : exchange.step (.remove account) = exchange.remove account := by
    rw [step, idle, Option.isNone_none, if_pos rfl]
  obtain ⟨pool, call⟩ := (alike_of_idle idle).run (.remove account :: finishing)
  rw [run, List.foldl_cons, begun] at pool call
  exact ⟨pool.trans (congrArg Prod.snd same), call.trans alone⟩

end

end Exchange

namespace Round

variable {sv : Services W} {registry : Registry W}

theorem gets_ticking (sv : Services W) (now : Instant) (todo finished : List AccountId)
    (registry : Registry W) :
    Gets sv (.ticking now todo finished) registry
      (.ticking now [] (finished ++ (Registry.updateAll sv now todo registry.roster).1))
      { registry with roster := (Registry.updateAll sv now todo registry.roster).2 } := by
  -- The phase goes account by account, as `Registry.updateAll` does.
  induction todo generalizing finished registry with
  | nil =>
    rw [Registry.updateAll, List.append_nil]
    exact .refl _ registry
  | cons account todo ih =>
    cases worked : registry.roster.work account (·.update sv now) with
    | mk outcome roster =>
      have ticked : Gets sv (.ticking now (account :: todo) finished) registry
          (.ticking now todo (if outcome = some .remove then finished ++ [account] else finished))
          { registry with roster } := by
        refine .quiet fun result drained seen => ⟨seen, ?_⟩
        simp only [proceed, tickNext, worked]
      refine ticked.trans ?_
      rw [Registry.updateAll, worked]
      simp only
      split
      · next finish =>
        rw [List.append_cons finished account (Registry.updateAll sv now todo roster).1]
        exact ih (finished ++ [account]) { registry with roster }
      · exact ih finished { registry with roster }

/-- A session leaves its region and is forgotten. -/
theorem gets_removed (account : AccountId) (todo : List AccountId) (registry : Registry W) :
    Gets sv (.removing (account :: todo)) registry (.removing todo)
      (registry.removeSession sv account).2 := by
  cases found : registry.roster.get? account with
  | none =>
    refine .quiet fun result drained seen => ⟨seen, ?_⟩
    simp only [proceed, removeNext, found, Registry.removeSession]
  | some seat =>
    have left : Gets sv (.removing (account :: todo)) registry (.leaving account todo)
        { registry with regions := (registry.regions.remove account).2 } := by
      refine .one fun result drained seen => ⟨result, drained, seen,
        Exchange.remove account ⟨registry.regions, none, result, drained⟩, ?_,
        Exchange.finish_remove rfl account⟩
      simp only [proceed, removeNext, found]
      rfl
    refine left.trans (.quiet fun result drained seen => ⟨seen, ?_⟩)
    simp only [proceed, modify, Registry.discharge, Registry.removeSession, found]

theorem gets_removing (todo : List AccountId) (registry : Registry W) :
    Gets sv (.removing todo) registry (.removing [])
      (Registry.removeSessions sv todo registry).2 := by
  induction todo generalizing registry with
  | nil => exact .refl _ registry
  | cons account todo ih => exact (gets_removed account todo registry).trans (ih _)

theorem gets_rehoming (sv : Services W) (seats : List (AccountId × Seat W)) (registry : Registry W)
    (listed : ∀ entry ∈ seats, registry.roster.get? entry.1 = some entry.2) :
    Gets sv (.rehoming (seats.map (·.1))) registry (.rehoming [])
      { registry with regions := seats.foldl (fun pool entry =>
          (pool.place entry.1 (entry.2.session.playerRegion sv.collaborators
            registry.roster.outside.world)).2) registry.regions } := by
  induction seats generalizing registry with
  | nil => exact .refl _ registry
  | cons entry seats ih =>
    obtain ⟨account, seat⟩ := entry
    have found : registry.roster.get? account = some seat := listed _ List.mem_cons_self
    let region := seat.session.playerRegion sv.collaborators registry.roster.outside.world
    have moved : Gets sv (.rehoming (account :: seats.map (·.1))) registry
        (.rehoming (seats.map (·.1)))
        { registry with regions := (registry.regions.place account region).2 } := by
      refine .one fun result drained seen => ⟨result, drained, seen ++ [(account, region)],
        Exchange.place account region ⟨registry.regions, none, result, drained⟩, ?_,
        Exchange.finish_place rfl account region⟩
      simp only [proceed, rehomeNext, found]
      rfl
    exact moved.trans (ih _ fun entry mem => listed entry (List.mem_cons_of_mem _ mem))

theorem accounts_admitQueued (sv : Services W) (registry : Registry W) :
    (registry.admitQueued sv).roster.accounts = registry.roster.accounts := by
  refine (Registry.accounts_renumberFrom 0 _ _).trans ?_
  generalize registry.queue = queue
  generalize registry.roster = roster
  induction queue generalizing roster with
  | nil => rfl
  | cons account queue ih =>
    rw [Registry.admitFrom]
    split
    · exact (ih _).trans (Roster.accounts_change _)
    · rfl

/-- The registry when a world tick comes to re-homing, if nothing disturbs it. -/
def admitted (sv : Services W) (now : Instant) (registry : Registry W) : Registry W :=
  (registry.pruned sv now).2.admitQueued sv

theorem distinct_admitted (now : Instant) (distinct : registry.roster.accounts.Nodup) :
    (admitted sv now registry).roster.accounts.Nodup := by
  rw [admitted, accounts_admitQueued, Registry.pruned, Registry.accounts_removeSessions,
    Registry.updateAll_snd, Registry.accounts_tickEach]
  exact distinct.filter _

theorem gets_admitted (sv : Services W) (now : Instant) (registry : Registry W) :
    Gets sv (.ticking now registry.roster.accounts []) registry
      (.rehoming (admitted sv now registry).roster.accounts) (admitted sv now registry) := by
  have ticked := gets_ticking sv now registry.roster.accounts [] registry
  rw [List.nil_append] at ticked
  have turned : ∀ finished (registry : Registry W),
      Gets sv (.ticking now [] finished) registry (.removing finished) registry :=
    fun _ _ => .quiet fun result drained seen => ⟨seen, rfl⟩
  have removed := (ticked.trans (turned _ _)).trans (gets_removing _ _)
  have queued : Gets sv (.removing []) (registry.pruned sv now).2
      (.rehoming (admitted sv now registry).roster.accounts) (admitted sv now registry) :=
    .quiet fun result drained seen => ⟨[], rfl⟩
  exact removed.trans queued

/-- A world tick that nothing disturbs is `Registry.update`. -/
theorem gets_update (now : Instant) (distinct : registry.roster.accounts.Nodup) :
    Gets sv (.ticking now registry.roster.accounts []) registry .idle
      (registry.update sv now).2 := by
  have rehomed := gets_rehoming sv _ (admitted sv now registry)
    fun entry => Roster.get?_of_mem (distinct_admitted now distinct)
  have ended : Gets sv (.rehoming []) (registry.update sv now).2 .idle (registry.update sv now).2 :=
    .quiet fun result drained seen => ⟨seen, rfl⟩
  exact ((gets_admitted sv now registry).trans rehomed).trans ended

end Round

end GameRealm
