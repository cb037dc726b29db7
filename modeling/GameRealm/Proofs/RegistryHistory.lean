import GameRealm.Proofs.History
import GameRealm.Proofs.Roster
import GameRealm.Realm.Registry

/-!
# The history of a registry

A registry takes logins, runs world ticks of all its sessions and region ticks of
some, and in between anyone may work on a session or on what surrounds them all.
As for one session, this module writes down what happens as a list of events:

1. `RegistryEvent` is one thing that happens, and `RegistryEvent.apply` what it does;
   what happens to a session is an event of its own history;
2. `RegistryStep` is one call, and `Registry.stepEvents` its events;
3. `unfolds_history`: the events of a run, applied one by one, lead where the run
   leads, and each comes where it may (`RegistryEvent.Fits`).

That a login without a session gets one, and that nobody waits while there is room, is
needed to say where events may come: so `Tidy` and `Full` are proved on the way.

The table of sessions has no order to rely on. In the registry it has one, so a run
may bring it into any other between two calls.
-/

namespace GameRealm

/-- One thing that happens to a registry. -/
inductive RegistryEvent (W : Type) where
  /-- An account gets a session, which has to wait if there is no room. -/
  | enter (account : Account) (socket : SocketId) (now : Instant)
  /-- Something happens to the session of an account. -/
  | work (account : AccountId) (event : Event W)
  /-- The session of an account is forgotten. -/
  | remove (account : AccountId)
  /-- The first in the queue is let in. -/
  | letIn (account : AccountId)
  /-- Someone in the queue is told the place, if it has changed. -/
  | renumber (account : AccountId) (position : UInt32)
  /-- The region pool changes. -/
  | relocate (regions : RegionPool)
  /-- The network works on an inbox whose session is gone. -/
  | stray (inbox : Inbox W) (procedure : InboxAct W Unit)
  /-- Something happens to the surroundings that no session has a part in. -/
  | outside (change : W → W)
  /-- The table of sessions comes into another order. -/
  | reorder (order : List (AccountId × Seat W) → List (AccountId × Seat W))
      (perm : ∀ seats, (order seats).Perm seats)

/-- One thing that is done to a registry from outside. -/
inductive RegistryStep (W : Type) where
  | login (account : Account) (socket : SocketId) (auth : Envelope) (now : Instant)
  | update (now : Instant)
  | shutdown
  | tickRegions (now : Instant)
  /-- Someone works on the session of an account. -/
  | act (account : AccountId) (step : SessionStep W)
  /-- The region pool changes. -/
  | regions (change : RegionPool → RegionPool)
  /-- The network works on an inbox whose session is gone. -/
  | stray (inbox : Inbox W) (procedure : InboxAct W Unit)
  /-- Something happens to the surroundings. -/
  | outside (change : W → W)
  /-- The table of sessions comes into another order. -/
  | reorder (order : List (AccountId × Seat W) → List (AccountId × Seat W))
      (perm : ∀ seats, (order seats).Perm seats)

namespace Registry

def empty (maxActive : Nat) (regions : RegionPool) (outside : Outside W) : Registry W :=
  { roster := { outside }, maxActive, regions }

/-- Gives an account a session, which has to wait if there is no room. -/
def enter (sv : Services W) (account : Account) (socket : SocketId) (now : Instant)
    (registry : Registry W) : Registry W :=
  let d := LiveSession.create sv account socket now registry.roster.outside
  if hasRoom registry.maxActive registry.activeCount then
    { registry with roster := registry.roster.add account.id d }
  else
    let queue := registry.queue ++ [account.id]
    { registry with
      queue
      roster := registry.roster.add account.id
        (d.modify fun s => { s with queuePosition := some (UInt32.ofNat queue.length) }) }

def work (account : AccountId) (task : LiveSession W → LiveSession W) (registry : Registry W) :
    Registry W :=
  { registry with roster := registry.roster.change account task }

/-- Brings the table of sessions into another order. -/
def reorder (order : List (AccountId × Seat W) → List (AccountId × Seat W))
    (registry : Registry W) : Registry W :=
  { registry with roster := { registry.roster with seats := order registry.roster.seats } }

def modifyOutside (change : Outside W → Outside W) (registry : Registry W) : Registry W :=
  { registry with roster := { registry.roster with outside := change registry.roster.outside } }

end Registry

/-- The surroundings after work on an inbox that has no session any more. -/
def Inbox.stray (sv : Services W) (inbox : Inbox W) (procedure : InboxAct W Unit)
    (outside : Outside W) : Outside W :=
  (LiveInbox.run sv (LiveInbox.enqueue sv) procedure { inbox, outside }).2.outside

/-- The surroundings after a change of their state. -/
def Outside.changed (change : W → W) (outside : Outside W) : Outside W :=
  { outside with world := change outside.world }

def RegistryEvent.apply (sv : Services W) : RegistryEvent W → Registry W → Registry W
  | enter account socket now, registry => registry.enter sv account socket now
  | work account event, registry => registry.work account (event.apply sv)
  | remove account, registry => (registry.removeSession sv account).2
  | letIn account, registry =>
    { registry.work account (Registry.welcome sv) with queue := registry.queue.tail }
  | renumber account position, registry =>
    registry.work account (Registry.renumber sv position)
  | relocate regions, registry => { registry with regions }
  | stray inbox procedure, registry => registry.modifyOutside (inbox.stray sv procedure)
  | outside change, registry => registry.modifyOutside (.changed change)
  | reorder order _, registry => registry.reorder order

namespace Registry

def replay (sv : Services W) (events : List (RegistryEvent W)) (registry : Registry W) :
    Registry W :=
  events.foldl (fun registry event => event.apply sv registry) registry

/-! ## The events of calls -/

def workEvents (account : AccountId) (events : LiveSession W → List (Event W)) (roster : Roster W) :
    List (RegistryEvent W) :=
  match roster.get? account with
  | none => []
  | some seat => (events (seat.live roster.outside)).map (.work account)

/-- The events of a login. One that is refused has none. -/
def loginEvents (account : Account) (socket : SocketId) (auth : Envelope) (now : Instant)
    (registry : Registry W) : List (RegistryEvent W) :=
  match registry.roster.get? account.id with
  | none => [.enter account socket now, .work account.id (.perform (.readAddons auth))]
  | some seat =>
    if seat.session.pending.isSome then []
    else
      [.work account.id (.perform (.requestNewSocket socket)),
        .work account.id (.perform (.readAddons auth))]

def tickEvents (sv : Services W) (kind : SessionTick) :
    List AccountId → Roster W → List (RegistryEvent W)
  | [], _ => []
  | account :: accounts, roster =>
    workEvents account (LiveSession.tickEvents sv kind) roster ++
      tickEvents sv kind accounts (roster.change account fun d => (d.tick sv kind).2)

/-- The accounts that are let in, given how many sessions there are. -/
def admissions (maxActive length : Nat) : List AccountId → List AccountId
  | [] => []
  | account :: queue =>
    if hasRoom maxActive (length - (queue.length + 1)) then
      account :: admissions maxActive length queue
    else []

/-- Everyone who waits is told the place in the queue. -/
def renumberings : Nat → List AccountId → List (RegistryEvent W)
  | _, [] => []
  | index, account :: queue =>
    .renumber account (UInt32.ofNat (index + 1)) :: renumberings (index + 1) queue

def admitEvents (sv : Services W) (registry : Registry W) : List (RegistryEvent W) :=
  (admissions registry.maxActive registry.length registry.queue).map .letIn ++
    renumberings 0 (admitFrom sv registry.maxActive registry.queue registry.roster).1

/-- The sessions that a world tick finds finished, and the registry without them. -/
def pruned (sv : Services W) (now : Instant) (registry : Registry W) :
    List AccountId × Registry W :=
  let (finished, roster) := updateAll sv now registry.roster.accounts registry.roster
  (finished, (removeSessions sv finished { registry with roster }).2)

def updateEvents (sv : Services W) (now : Instant) (registry : Registry W) :
    List (RegistryEvent W) :=
  let (finished, rest) := registry.pruned sv now
  tickEvents sv (.world now) registry.roster.accounts registry.roster ++
    finished.map .remove ++ rest.admitEvents sv ++
      [.relocate ((rest.admitQueued sv).rehome sv).regions]

def actorEvents (sv : Services W) (now : Instant) :
    List RegionActor → Roster W → List (RegistryEvent W)
  | [], _ => []
  | actor :: actors, roster =>
    (if actor.isDue now then tickEvents sv (.region now) (actor.hosted.map (·.1)) roster
      else []) ++
      actorEvents sv now actors (actor.tickIfDue sv now roster).2

/-! ## Runs -/

def step (sv : Services W) : RegistryStep W → Registry W → Registry W
  | .login account socket auth now, registry => (registry.login sv account socket auth now).2
  | .update now, registry => (registry.update sv now).2
  | .shutdown, registry => (registry.shutdown sv).2
  | .tickRegions now, registry => registry.tickRegions sv now
  | .act account step, registry => registry.work account (LiveSession.step sv step)
  | .regions change, registry => { registry with regions := change registry.regions }
  | .stray inbox procedure, registry => registry.modifyOutside (inbox.stray sv procedure)
  | .outside change, registry => registry.modifyOutside (.changed change)
  | .reorder order _, registry => registry.reorder order

def stepEvents (sv : Services W) : RegistryStep W → Registry W → List (RegistryEvent W)
  | .login account socket auth now, registry => registry.loginEvents account socket auth now
  | .update now, registry => registry.updateEvents sv now
  | .shutdown, registry =>
    registry.roster.accounts.map .remove ++ [.relocate (registry.shutdown sv).2.regions]
  | .tickRegions now, registry =>
    actorEvents sv now registry.regions.actors registry.roster ++
      [.relocate (registry.tickRegions sv now).regions]
  | .act account step, registry =>
    workEvents account (LiveSession.stepEvents sv step) registry.roster
  | .regions change, registry => [.relocate (change registry.regions)]
  | .stray inbox procedure, _ => [.stray inbox procedure]
  | .outside change, _ => [.outside change]
  | .reorder order perm, _ => [.reorder order perm]

def run (sv : Services W) (steps : List (RegistryStep W)) (registry : Registry W) : Registry W :=
  steps.foldl (fun registry step => registry.step sv step) registry

def history (sv : Services W) : List (RegistryStep W) → Registry W → List (RegistryEvent W)
  | [], _ => []
  | step :: steps, registry =>
    registry.stepEvents sv step ++ history sv steps (registry.step sv step)

end Registry

/-! ## The events tell the whole story -/

/-- Whether an event takes someone out of the queue or gives out places in it. -/
def RegistryEvent.moves : RegistryEvent W → Bool
  | remove _ | letIn _ | renumber _ _ => true
  | _ => false

/-- Whether a call may take someone out of the queue or give out places in it. -/
def RegistryStep.moves : RegistryStep W → Bool
  | update _ | shutdown => true
  | _ => false

namespace Registry

/-- Nobody waits while there is room. -/
def Full (registry : Registry W) : Prop :=
  registry.queue ≠ [] → hasRoom registry.maxActive registry.activeCount = false

/-- Every account has one session, and only accounts with a session wait, each once. -/
structure Tidy (registry : Registry W) : Prop where
  distinct : registry.roster.accounts.Nodup
  once : registry.queue.Nodup
  listed : ∀ account ∈ registry.queue, account ∈ registry.roster.accounts

end Registry

/-- Whether an event may come next. Only an account without a session gets one. While
there is room, the first in the queue is let in; only when there is none does anyone
get in behind, or hear the place. -/
def RegistryEvent.Fits (registry : Registry W) : RegistryEvent W → Prop
  | enter account _ _ => account.id ∉ registry.roster.accounts ∧ registry.Full
  | letIn account =>
    registry.queue.head? = some account ∧
      Registry.hasRoom registry.maxActive registry.activeCount = true
  | renumber account position =>
    registry.Full ∧
      ∃ index, registry.queue[index]? = some account ∧ position = UInt32.ofNat (index + 1)
  | _ => True

namespace Registry

/-- The events tell how one registry becomes another, and each fits where it stands. -/
inductive Unfolds (sv : Services W) :
    List (RegistryEvent W) → Registry W → Registry W → Prop
  | nil (registry : Registry W) : Unfolds sv [] registry registry
  | cons {event : RegistryEvent W} {events : List (RegistryEvent W)} {registry after : Registry W}
      (fits : event.Fits registry) (rest : Unfolds sv events (event.apply sv registry) after) :
      Unfolds sv (event :: events) registry after

section
variable {sv : Services W} {registry middle after : Registry W}
  {first second : List (RegistryEvent W)}

@[simp] theorem replay_nil (registry : Registry W) : registry.replay sv [] = registry := rfl

@[simp] theorem replay_cons (event : RegistryEvent W) (events : List (RegistryEvent W))
    (registry : Registry W) :
    registry.replay sv (event :: events) = (event.apply sv registry).replay sv events := rfl

@[simp] theorem replay_append (first second : List (RegistryEvent W)) (registry : Registry W) :
    registry.replay sv (first ++ second) = (registry.replay sv first).replay sv second :=
  List.foldl_append

theorem Unfolds.append (h : Unfolds sv first registry middle)
    (h' : Unfolds sv second middle after) : Unfolds sv (first ++ second) registry after := by
  induction h with
  | nil => exact h'
  | cons fits _ ih => exact .cons fits (ih h')

theorem Unfolds.one {event : RegistryEvent W} (fits : event.Fits registry) :
    Unfolds sv [event] registry (event.apply sv registry) :=
  .cons fits (.nil _)

theorem Unfolds.replay_eq (h : Unfolds sv first registry after) :
    registry.replay sv first = after := by
  induction h with
  | nil => rfl
  | cons _ _ ih => exact ih

theorem Unfolds.split (h : Unfolds sv (first ++ second) registry after) :
    Unfolds sv first registry (registry.replay sv first) ∧
      Unfolds sv second (registry.replay sv first) after := by
  induction first generalizing registry with
  | nil => exact ⟨.nil _, h⟩
  | cons event events ih =>
    cases h with
    | cons fits rest => exact ⟨.cons fits (ih rest).1, (ih rest).2⟩

/-! ### Work on one session -/

theorem work_work (account : AccountId) (first second : LiveSession W → LiveSession W)
    (registry : Registry W) :
    (registry.work account first).work account second =
      registry.work account fun d => second (first d) :=
  congrArg (fun roster => { registry with roster }) (Roster.change_change first second)

theorem work_id (account : AccountId) (distinct : registry.roster.accounts.Nodup) :
    (registry.work account fun d => d) = registry :=
  congrArg (fun roster => { registry with roster }) (Roster.change_id distinct)

@[simp] theorem accounts_work (account : AccountId) (task : LiveSession W → LiveSession W)
    (registry : Registry W) :
    (registry.work account task).roster.accounts = registry.roster.accounts :=
  Roster.accounts_change task

theorem distinct_work {account : AccountId} {task : LiveSession W → LiveSession W}
    (distinct : registry.roster.accounts.Nodup) :
    (registry.work account task).roster.accounts.Nodup :=
  (congrArg List.Nodup (accounts_work account task registry)).mpr distinct

/-- Several events of a session are one piece of work on it. -/
theorem unfolds_map_work (account : AccountId) (events : List (Event W))
    (distinct : registry.roster.accounts.Nodup) :
    Unfolds sv (events.map (.work account)) registry
      (registry.work account (LiveSession.replay sv events)) := by
  induction events generalizing registry with
  | nil => exact (work_id account distinct).symm ▸ .nil registry
  | cons event events ih =>
    have rest := @ih (registry.work account (event.apply sv)) (distinct_work distinct)
    rw [work_work] at rest
    exact .cons trivial rest

theorem unfolds_work (account : AccountId) {events : LiveSession W → List (Event W)}
    {task : LiveSession W → LiveSession W} (tells : ∀ d, d.replay sv (events d) = task d)
    (distinct : registry.roster.accounts.Nodup) :
    Unfolds sv (workEvents account events registry.roster) registry
      (registry.work account task) := by
  unfold workEvents
  cases h : registry.roster.get? account with
  | none =>
    have same : registry.work account task = registry :=
      congrArg (fun roster => { registry with roster }) (Roster.change_of_absent task h)
    exact same.symm ▸ .nil registry
  | some seat =>
    have same : registry.work account task =
        registry.work account
          (LiveSession.replay sv (events (seat.live registry.roster.outside))) := by
      refine congrArg (fun roster => { registry with roster }) (Roster.change_congr ?_)
      intro seat' h'
      cases h.symm.trans h'
      exact (tells _).symm
    exact same.symm ▸ unfolds_map_work account _ distinct

/-! ### Ticks -/

/-- The roster after the ticks of some accounts' sessions, one after the other. -/
def tickEach (sv : Services W) (kind : SessionTick) (accounts : List AccountId)
    (roster : Roster W) : Roster W :=
  accounts.foldl (fun roster account => roster.change account fun d => (d.tick sv kind).2) roster

theorem updateAll_snd (now : Instant) (accounts : List AccountId) (roster : Roster W) :
    (updateAll sv now accounts roster).2 = tickEach sv (.world now) accounts roster := by
  induction accounts generalizing roster with
  | nil => rfl
  | cons account accounts ih =>
    rw [updateAll, ih, Roster.work_snd]
    rfl

theorem drain_eq (actor : RegionActor) (now : Instant) (roster : Roster W) :
    actor.drain sv now roster = tickEach sv (.region now) (actor.hosted.map (·.1)) roster := by
  rw [tickEach, List.foldl_map]
  rfl

theorem unfolds_ticks (kind : SessionTick) (accounts : List AccountId)
    (distinct : registry.roster.accounts.Nodup) :
    Unfolds sv (tickEvents sv kind accounts registry.roster) registry
      { registry with roster := tickEach sv kind accounts registry.roster } := by
  induction accounts generalizing registry with
  | nil => exact .nil registry
  | cons account accounts ih =>
    refine (unfolds_work account (fun d => replay_step (.tick kind) d) distinct).append ?_
    exact ih (distinct_work distinct)

theorem accounts_tickEach (kind : SessionTick) (accounts : List AccountId) (roster : Roster W) :
    (tickEach sv kind accounts roster).accounts = roster.accounts := by
  induction accounts generalizing roster with
  | nil => rfl
  | cons account accounts ih =>
    rw [tickEach, List.foldl_cons]
    exact (ih _).trans (Roster.accounts_change _)

theorem unfolds_actors (now : Instant) (actors : List RegionActor)
    (distinct : registry.roster.accounts.Nodup) :
    Unfolds sv (actorEvents sv now actors registry.roster) registry
      { registry with roster := (RegionPool.tickActors sv now actors registry.roster).2 } := by
  induction actors generalizing registry with
  | nil => exact .nil registry
  | cons actor actors ih =>
    rw [actorEvents, RegionPool.tickActors]
    simp only [RegionActor.tickIfDue]
    split
    · refine (unfolds_ticks (.region now) _ distinct).append ?_
      rw [drain_eq]
      refine @ih { registry with roster := tickEach .. } ?_
      exact (congrArg List.Nodup (accounts_tickEach _ _ _)).mpr distinct
    · exact ih distinct

/-! ### Logins -/

theorem readAddons_place (position : Option UInt32) (env : Envelope) (d : LiveSession W) :
    ((d.modify fun s => { s with queuePosition := position }).readAddons sv env).2 =
      ((d.readAddons sv env).2.modify fun s => { s with queuePosition := position }) := by
  simp only [LiveSession.readAddons]
  split <;> rfl

/-- Reading the addons may wait until the session has its place. -/
theorem enroll_eq (account : Account) (socket : SocketId) (auth : Envelope) (now : Instant)
    (absent : account.id ∉ registry.roster.accounts) :
    (registry.enroll sv account socket auth now).2 =
      (registry.enter sv account socket now).work account.id
        fun d => (d.readAddons sv auth).2 := by
  unfold enroll enter work
  simp only
  split
  · rw [Roster.change_add _ _ absent]
  · rw [Roster.change_add _ _ absent, readAddons_place]

theorem requestNewSocket_of_pending (socket : SocketId) {d : LiveSession W}
    (h : d.session.pending.isSome = true) :
    d.requestNewSocket sv socket = (.error .socketPending, d) := by
  rw [LiveSession.requestNewSocket, if_pos h]

theorem requestNewSocket_of_free (socket : SocketId) {d : LiveSession W}
    (h : ¬ d.session.pending.isSome = true) :
    d.requestNewSocket sv socket = (.ok (), (d.requestNewSocket sv socket).2) := by
  rw [LiveSession.requestNewSocket, if_neg h]

theorem unfolds_login (account : Account) (socket : SocketId) (auth : Envelope) (now : Instant)
    (distinct : registry.roster.accounts.Nodup) (full : registry.Full) :
    Unfolds sv (registry.loginEvents account socket auth now) registry
      (registry.login sv account socket auth now).2 := by
  unfold loginEvents login
  cases h : registry.roster.get? account.id with
  | none =>
    have absent := Roster.get?_eq_none_iff.mp h
    simp only
    rw [enroll_eq account socket auth now absent]
    exact .cons ⟨absent, full⟩ (.one trivial)
  | some seat =>
    simp only
    by_cases pending : seat.session.pending.isSome = true
    · rw [if_pos pending, handOver, requestNewSocket_of_pending socket
        (d := seat.live registry.roster.outside) pending]
      exact .nil registry
    · rw [if_neg pending, handOver, requestNewSocket_of_free socket
        (d := seat.live registry.roster.outside) pending]
      have told : Unfolds sv _ registry _ := unfolds_map_work account.id
        [.perform (.requestNewSocket socket), .perform (.readAddons auth)] distinct
      have same : registry.work account.id (LiveSession.replay sv
          [.perform (.requestNewSocket socket), .perform (.readAddons auth)]) =
          { registry with roster :=
            registry.roster.change account.id fun d =>
              ((d.requestNewSocket sv socket).2.readAddons sv auth).2 } := rfl
      rw [same, Roster.change_of_get? _ h] at told
      exact told

/-! ### Sessions that are forgotten -/

theorem unfolds_removals (accounts : List AccountId) (registry : Registry W) :
    Unfolds sv (accounts.map .remove) registry (removeSessions sv accounts registry).2 := by
  induction accounts generalizing registry with
  | nil => exact .nil registry
  | cons account accounts ih => exact .cons trivial (ih (registry.removeSession sv account).2)

/-! ### The queue -/

theorem Full.of_same (full : registry.Full) (queue : after.queue = registry.queue)
    (maxActive : after.maxActive = registry.maxActive) (length : after.length = registry.length) :
    after.Full := by
  rw [Full, activeCount, queue, maxActive, length]
  exact full

theorem length_work (account : AccountId) (task : LiveSession W → LiveSession W)
    (registry : Registry W) :
    (registry.work account task).length = registry.length :=
  Roster.length_change task

theorem unfolds_admissions (registry : Registry W) :
    Unfolds sv
      ((admissions registry.maxActive registry.length registry.queue).map .letIn) registry
      { registry with
        queue := (admitFrom sv registry.maxActive registry.queue registry.roster).1
        roster := (admitFrom sv registry.maxActive registry.queue registry.roster).2 } := by
  obtain ⟨roster, queue, maxActive, regions⟩ := registry
  induction queue generalizing roster with
  | nil => exact .nil _
  | cons account queue ih =>
    cases room : hasRoom maxActive (roster.length - (queue.length + 1)) with
    | true =>
      simp only [admissions, admitFrom, length, room, if_true]
      have rest := ih (roster.change account (welcome sv))
      simp only [length, Roster.length_change] at rest
      have fits : RegistryEvent.Fits ⟨roster, account :: queue, maxActive, regions⟩
        (.letIn account) := ⟨rfl, room⟩
      exact .cons fits rest
    | false =>
      simp only [admissions, admitFrom, length, room, Bool.false_eq_true, if_false]
      exact .nil _

theorem unfolds_renumberings (index : Nat) (queue : List AccountId) (full : registry.Full)
    (waiting : registry.queue.drop index = queue) :
    Unfolds sv (renumberings index queue) registry
      { registry with roster := renumberFrom sv index queue registry.roster } := by
  induction queue generalizing index registry with
  | nil => exact .nil registry
  | cons account queue ih =>
    have here : registry.queue[index]? = some account := by
      rw [← List.head?_drop, waiting, List.head?_cons]
    have rest : registry.queue.drop (index + 1) = queue := by
      rw [← List.tail_drop, waiting, List.tail_cons]
    refine .cons ⟨full, index, here, rfl⟩ (ih (index + 1) ?_ rest)
    exact full.of_same rfl rfl (length_work account _ registry)

theorem full_admitFrom (maxActive : Nat) (queue : List AccountId) (roster : Roster W) :
    (admitFrom sv maxActive queue roster).1 ≠ [] →
      hasRoom maxActive ((admitFrom sv maxActive queue roster).2.length -
        (admitFrom sv maxActive queue roster).1.length) = false := by
  induction queue generalizing roster with
  | nil => exact fun waits => absurd rfl waits
  | cons account queue ih =>
    rw [admitFrom]
    split
    · exact ih _
    · next room => exact fun _ => Bool.eq_false_iff.mpr room

theorem unfolds_admitQueued (registry : Registry W) :
    Unfolds sv (registry.admitEvents sv) registry (registry.admitQueued sv) :=
  (unfolds_admissions registry).append
    (unfolds_renumberings 0 _ (full_admitFrom _ _ _) List.drop_zero)

/-! ### Calls -/

theorem unfolds_update (now : Instant) (distinct : registry.roster.accounts.Nodup) :
    Unfolds sv (registry.updateEvents sv now) registry (registry.update sv now).2 := by
  have ticked : Unfolds sv _ registry _ :=
    unfolds_ticks (.world now) registry.roster.accounts distinct
  rw [← updateAll_snd] at ticked
  exact ((ticked.append (unfolds_removals _ _)).append (unfolds_admitQueued _)).append
    (.one trivial)

theorem unfolds_shutdown (registry : Registry W) :
    Unfolds sv (registry.stepEvents sv .shutdown) registry (registry.shutdown sv).2 :=
  (unfolds_removals _ _).append (.one trivial)

theorem unfolds_tickRegions (now : Instant) (distinct : registry.roster.accounts.Nodup) :
    Unfolds sv (registry.stepEvents sv (.tickRegions now)) registry
      (registry.tickRegions sv now) :=
  (unfolds_actors now _ distinct).append (.one trivial)

/-- The events of a step tell the step. -/
theorem unfolds_step (step : RegistryStep W) (distinct : registry.roster.accounts.Nodup)
    (full : registry.Full) :
    Unfolds sv (registry.stepEvents sv step) registry (registry.step sv step) := by
  cases step with
  | login account socket auth now => exact unfolds_login account socket auth now distinct full
  | update now => exact unfolds_update now distinct
  | shutdown => exact unfolds_shutdown registry
  | tickRegions now => exact unfolds_tickRegions now distinct
  | act account step => exact unfolds_work account (replay_step step) distinct
  | _ => exact .one trivial

/-! ### Calls that move nobody -/

theorem calm_workEvents (account : AccountId) (events : LiveSession W → List (Event W))
    (roster : Roster W) : ∀ event ∈ workEvents account events roster, event.moves = false := by
  intro event mem
  unfold workEvents at mem
  split at mem
  · exact absurd mem List.not_mem_nil
  · obtain ⟨inner, -, rfl⟩ := List.mem_map.mp mem
    rfl

theorem calm_tickEvents (kind : SessionTick) (accounts : List AccountId) (roster : Roster W) :
    ∀ event ∈ tickEvents sv kind accounts roster, event.moves = false := by
  induction accounts generalizing roster with
  | nil => exact fun _ mem => absurd mem List.not_mem_nil
  | cons account accounts ih =>
    rw [tickEvents, List.forall_mem_append]
    exact ⟨calm_workEvents _ _ _, ih _⟩

theorem calm_actorEvents (now : Instant) (actors : List RegionActor) (roster : Roster W) :
    ∀ event ∈ actorEvents sv now actors roster, event.moves = false := by
  induction actors generalizing roster with
  | nil => exact fun _ mem => absurd mem List.not_mem_nil
  | cons actor actors ih =>
    rw [actorEvents, List.forall_mem_append]
    refine ⟨?_, ih _⟩
    split
    · exact calm_tickEvents _ _ _
    · exact fun _ mem => absurd mem List.not_mem_nil

theorem calm_loginEvents (account : Account) (socket : SocketId) (auth : Envelope)
    (now : Instant) (registry : Registry W) :
    ∀ event ∈ registry.loginEvents account socket auth now, event.moves = false := by
  unfold loginEvents
  split
  · simp [RegistryEvent.moves]
  · split <;> simp [RegistryEvent.moves]

/-- Only world ticks and shutdowns move the queue. -/
theorem calm_stepEvents {step : RegistryStep W} (registry : Registry W)
    (h : step.moves = false) :
    ∀ event ∈ registry.stepEvents sv step, event.moves = false := by
  cases step with
  | login account socket auth now => exact calm_loginEvents account socket auth now registry
  | update now => cases h
  | shutdown => cases h
  | tickRegions now =>
    rw [stepEvents, List.forall_mem_append, List.forall_mem_singleton]
    exact ⟨calm_actorEvents _ _ _, rfl⟩
  | act account step => exact calm_workEvents _ _ _
  | _ =>
    rw [stepEvents, List.forall_mem_singleton]
    rfl

/-! ## Every account keeps to one session -/

@[simp] theorem accounts_removeSession (account : AccountId) (registry : Registry W) :
    (registry.removeSession sv account).2.roster.accounts =
      registry.roster.accounts.filter (· != account) := by
  unfold removeSession
  cases h : registry.roster.get? account with
  | none =>
    refine (List.filter_eq_self.mpr fun other mem => ?_).symm
    rw [bne_iff_ne]
    rintro rfl
    exact Roster.get?_eq_none_iff.mp h mem
  | some seat => exact Roster.accounts_erase

theorem get?_removeSession_inv {account other : AccountId} {seat : Seat W}
    (h : (registry.removeSession sv account).2.roster.get? other = some seat) :
    other ≠ account ∧ registry.roster.get? other = some seat := by
  unfold removeSession at h
  cases absent : registry.roster.get? account with
  | none =>
    simp only [absent] at h
    refine ⟨?_, h⟩
    rintro rfl
    cases absent.symm.trans h
  | some _ =>
    simp only [absent] at h
    exact Roster.get?_erase_inv h

theorem queue_removeSession (account : AccountId) (tidy : registry.Tidy) :
    (registry.removeSession sv account).2.queue = registry.queue.filter (· != account) := by
  unfold removeSession
  cases h : registry.roster.get? account with
  | none =>
    refine (List.filter_eq_self.mpr fun other mem => ?_).symm
    rw [bne_iff_ne]
    rintro rfl
    exact Roster.get?_eq_none_iff.mp h (tidy.listed _ mem)
  | some seat => rfl

@[simp] theorem accounts_enter (account : Account) (socket : SocketId) (now : Instant)
    (registry : Registry W) :
    (registry.enter sv account socket now).roster.accounts =
      registry.roster.accounts ++ [account.id] := by
  unfold enter
  simp only
  split <;> exact Roster.accounts_add _

/-- A new session waits unless there is room. -/
theorem queue_enter (account : Account) (socket : SocketId) (now : Instant)
    (registry : Registry W) :
    (registry.enter sv account socket now).queue =
      if hasRoom registry.maxActive registry.activeCount then registry.queue
      else registry.queue ++ [account.id] := by
  unfold enter
  simp only
  split <;> rfl

@[simp] theorem maxActive_enter (account : Account) (socket : SocketId) (now : Instant)
    (registry : Registry W) :
    (registry.enter sv account socket now).maxActive = registry.maxActive := by
  unfold enter
  simp only
  split <;> rfl

theorem length_enter (account : Account) (socket : SocketId) (now : Instant)
    (registry : Registry W) :
    (registry.enter sv account socket now).length = registry.length + 1 := by
  unfold length
  rw [← Roster.length_accounts, accounts_enter, List.length_append, Roster.length_accounts]
  rfl

theorem tidy_apply {event : RegistryEvent W} (fits : event.Fits registry)
    (tidy : registry.Tidy) : (event.apply sv registry).Tidy := by
  cases event with
  | enter account socket now =>
    constructor
    · rw [RegistryEvent.apply, accounts_enter, ← List.concat_eq_append]
      exact tidy.distinct.concat fits.1
    · rw [RegistryEvent.apply, queue_enter]
      split
      · exact tidy.once
      · rw [← List.concat_eq_append]
        exact tidy.once.concat fun mem => fits.1 (tidy.listed _ mem)
    · intro other mem
      rw [RegistryEvent.apply, accounts_enter]
      rw [RegistryEvent.apply, queue_enter] at mem
      split at mem
      · exact List.mem_append_left _ (tidy.listed other mem)
      · exact (List.mem_append.mp mem).elim (fun mem => List.mem_append_left _ (tidy.listed _ mem))
          (List.mem_append_right _)
  | work account event => exact ⟨distinct_work tidy.distinct, tidy.once,
      fun other mem => (accounts_work account _ registry).symm ▸ tidy.listed other mem⟩
  | remove account =>
    constructor
    · rw [RegistryEvent.apply, accounts_removeSession]
      exact tidy.distinct.filter _
    · rw [RegistryEvent.apply, queue_removeSession account tidy]
      exact tidy.once.filter _
    · intro other mem
      rw [RegistryEvent.apply, accounts_removeSession]
      rw [RegistryEvent.apply, queue_removeSession account tidy] at mem
      obtain ⟨mem, kept⟩ := List.mem_filter.mp mem
      exact List.mem_filter.mpr ⟨tidy.listed other mem, kept⟩
  | letIn account => exact ⟨distinct_work tidy.distinct, tidy.once.tail, fun other mem =>
      (accounts_work account _ registry).symm ▸ tidy.listed other (List.mem_of_mem_tail mem)⟩
  | renumber account position => exact ⟨distinct_work tidy.distinct, tidy.once,
      fun other mem => (accounts_work account _ registry).symm ▸ tidy.listed other mem⟩
  | reorder order perm =>
    have same := (perm registry.roster.seats).map (·.1)
    exact ⟨same.nodup_iff.mpr tidy.distinct, tidy.once,
      fun other mem => same.mem_iff.mpr (tidy.listed other mem)⟩
  | relocate regions => exact ⟨tidy.distinct, tidy.once, tidy.listed⟩
  | stray inbox procedure => exact ⟨tidy.distinct, tidy.once, tidy.listed⟩
  | outside change => exact ⟨tidy.distinct, tidy.once, tidy.listed⟩

theorem Unfolds.tidy (h : Unfolds sv first registry after) (tidy : registry.Tidy) :
    after.Tidy := by
  induction h with
  | nil => exact tidy
  | cons fits _ ih => exact ih (tidy_apply fits tidy)

theorem maxActive_apply (event : RegistryEvent W) (registry : Registry W) :
    (event.apply sv registry).maxActive = registry.maxActive := by
  cases event with
  | enter account socket now => exact maxActive_enter account socket now registry
  | remove account =>
    simp only [RegistryEvent.apply, removeSession]
    split <;> rfl
  | _ => rfl

theorem Unfolds.maxActive (h : Unfolds sv first registry after) :
    after.maxActive = registry.maxActive := by
  induction h with
  | nil => rfl
  | cons _ _ ih => exact ih.trans (maxActive_apply _ _)

/-! ## Nobody waits while there is room -/

theorem full_enter (account : Account) (socket : SocketId) (now : Instant)
    (full : registry.Full) : (registry.enter sv account socket now).Full := by
  intro waits
  rw [activeCount, length_enter, maxActive_enter]
  rw [queue_enter] at waits ⊢
  cases room : hasRoom registry.maxActive registry.activeCount with
  | true =>
    rw [room, if_pos rfl] at waits
    exact absurd (room.symm.trans (full waits)) Bool.noConfusion
  | false =>
    rw [if_neg Bool.false_ne_true, List.length_append, List.length_singleton,
      Nat.add_sub_add_right]
    exact room

/-- Full stays full unless a session goes or is let in. -/
theorem full_apply {event : RegistryEvent W} (calm : event.moves = false)
    (full : registry.Full) : (event.apply sv registry).Full := by
  cases event with
  | enter account socket now => exact full_enter account socket now full
  | work account event => exact full.of_same rfl rfl (length_work account _ registry)
  | reorder order perm => exact full.of_same rfl rfl (perm _).length_eq
  | remove => cases calm
  | letIn => cases calm
  | renumber => cases calm
  | _ => exact full.of_same rfl rfl rfl

theorem Unfolds.full (h : Unfolds sv first registry after)
    (calm : ∀ event ∈ first, event.moves = false) (full : registry.Full) : after.Full := by
  induction h with
  | nil => exact full
  | cons _ _ ih =>
    exact ih (fun e mem => calm e (List.mem_cons_of_mem _ mem))
      (full_apply (calm _ List.mem_cons_self) full)

theorem accounts_renumberFrom (index : Nat) (queue : List AccountId) (roster : Roster W) :
    (renumberFrom sv index queue roster).accounts = roster.accounts := by
  induction queue generalizing index roster with
  | nil => rfl
  | cons account queue ih => exact (ih _ _).trans (Roster.accounts_change _)

theorem full_admitQueued (registry : Registry W) : (registry.admitQueued sv).Full := by
  intro waits
  have same := congrArg List.length (@accounts_renumberFrom _ sv 0
    (admitFrom sv registry.maxActive registry.queue registry.roster).1
    (admitFrom sv registry.maxActive registry.queue registry.roster).2)
  rw [Roster.length_accounts, Roster.length_accounts] at same
  have room := full_admitFrom registry.maxActive registry.queue registry.roster waits
  rw [← same] at room
  exact room

theorem accounts_removeSessions (accounts : List AccountId) (registry : Registry W) :
    (removeSessions sv accounts registry).2.roster.accounts =
      registry.roster.accounts.filter (fun account => !accounts.contains account) := by
  induction accounts generalizing registry with
  | nil => simp [removeSessions]
  | cons account accounts ih =>
    refine (ih (registry.removeSession sv account).2).trans ?_
    rw [accounts_removeSession, List.filter_filter]
    refine List.filter_congr fun other _ => ?_
    rw [List.contains_cons, Bool.not_or, Bool.and_comm]
    rfl

theorem accounts_shutdown (registry : Registry W) :
    (registry.shutdown sv).2.roster.accounts = [] := by
  refine (accounts_removeSessions registry.roster.accounts registry).trans ?_
  simp

theorem queue_shutdown (tidy : registry.Tidy) : (registry.shutdown sv).2.queue = [] := by
  have told : Unfolds sv _ registry _ := unfolds_shutdown registry
  have tidy' := told.tidy tidy
  rw [List.eq_nil_iff_forall_not_mem]
  intro account mem
  have left := tidy'.listed account mem
  rw [accounts_shutdown] at left
  exact List.not_mem_nil left

theorem full_step (step : RegistryStep W) (tidy : registry.Tidy) (full : registry.Full) :
    (registry.step sv step).Full := by
  cases moves : step.moves with
  | false =>
    exact (unfolds_step step tidy.distinct full).full (calm_stepEvents registry moves) full
  | true =>
    cases step with
    | update now => exact (full_admitQueued _).of_same rfl rfl rfl
    | shutdown => exact fun waits => absurd (queue_shutdown tidy) waits
    | _ => cases moves

/-- The history of a run tells the run. -/
theorem unfolds_history (steps : List (RegistryStep W)) (tidy : registry.Tidy)
    (full : registry.Full) :
    Unfolds sv (registry.history sv steps) registry (registry.run sv steps) := by
  induction steps generalizing registry with
  | nil => exact .nil registry
  | cons step steps ih =>
    have told : Unfolds sv _ registry _ := unfolds_step step tidy.distinct full
    exact told.append (ih (told.tidy tidy) (full_step step tidy full))

theorem tidy_empty (maxActive : Nat) (regions : RegionPool) (outside : Outside W) :
    (empty maxActive regions outside).Tidy :=
  ⟨List.nodup_nil, List.nodup_nil, fun _ mem => absurd mem List.not_mem_nil⟩

theorem full_empty (maxActive : Nat) (regions : RegionPool) (outside : Outside W) :
    (empty maxActive regions outside).Full :=
  fun waits => absurd rfl waits

end

end Registry

end GameRealm
